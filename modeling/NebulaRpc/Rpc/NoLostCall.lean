import NebulaRpc.Rpc.EndToEnd
import NebulaRpc.Rpc.Placement
import NebulaRpc.Rpc.Resources

/-!
# No call is lost

A call that has been begun and not notified is always at some place from which it goes on: its request
or its reply is in the hands of the channel, or on its way through a pipe of a connection that has not
been closed, or with the server. When nothing is left to do, every call that was ever begun has been
notified, whether or not it has a deadline, but for those whose request still waits in the output
buffer of its connection because nobody has flushed it. Replies do not wait there: the server flushes
each of them itself.
-/

namespace NebulaRpc.Rpc

open Framing

/-- A reply has been written, or it is posted. -/
theorem RpcServer.of_mem_repliesTo {s : RpcServer} {n : Nat} {bytes : List UInt8}
    (h : bytes ∈ s.repliesTo n) : (∃ conn, .write conn n bytes ∈ s.output) ∨
      ∃ w ∈ s.queue ++ s.posting.flatten, w.number = n ∧ w.write.bytes = bytes := by
  have hposted : ∀ writes, bytes ∈ bytesFor n writes →
      ∃ w ∈ writes, w.number = n ∧ w.write.bytes = bytes := by
    intro writes hmem
    simp only [bytesFor, replyBytes, List.map_map, List.mem_filter, List.mem_map] at hmem
    obtain ⟨⟨w, ⟨hw, hnumber⟩, hbytes⟩, -⟩ := hmem
    exact ⟨w, hw, of_decide_eq_true hnumber, hbytes⟩
  rw [repliesTo, ← bytesFor_append, List.mem_append] at h
  refine h.imp (fun hwritten => ?_) (hposted _)
  obtain ⟨o, ho, heq⟩ := List.mem_filterMap.mp hwritten
  cases o with
  | flush => cases heq
  | write conn number bytes' =>
    dsimp only at heq
    split at heq
    · next hnumber =>
      cases heq
      exact ⟨conn, hnumber ▸ ho⟩
    · cases heq

namespace EndToEnd

/-- The connection is one of the channel, which has not been told that it is down. -/
def Live (own : Nat → Bool) (s : EndToEnd) (conn : Nat) : Prop :=
  own conn = true ∧ s.closed conn = false

/-- The frame with this number is a request with this id that was received on the connection. -/
def Serves (s : EndToEnd) (conn : Nat) (id : UInt64) (n : Nat) : Prop :=
  ∃ frame scope, s.server.received[n]? = some (frame, scope) ∧ s.server.conns[scope]? = some conn ∧
    frame.rpcMeta.type = .request ∧ frame.rpcMeta.requestId = id

/-- Where a pending call is. -/
inductive Whereabouts (own : Nat → Bool) (F : MetaFormat) (loopOf : Nat → Nat) (s : EndToEnd)
    (id : UInt64) : Prop where
  /-- `RegisterAndSend` is still to write its request -/
  | registering (h : s.channel.Unwritten id)
  /-- `FailAllPending` is still to come to it -/
  | failing (h : s.channel.Doomed id)
  /-- its request waits in the output buffer for a `Flush` -/
  | written {conn : Nat} {bytes : List UInt8} (hlive : s.Live own conn)
      (hbytes : Requests F id bytes) (hinside : bytes <:+: (s.requests conn).buffered)
  /-- its request has been sent, at least in part, and not yet been received -/
  | requested {conn : Nat} {bytes : List UInt8} (hlive : s.Live own conn)
      (hbytes : Requests F id bytes) (hinside : bytes <:+: (s.requests conn).content)
      (hsent : ¬bytes <:+: (s.requests conn).buffered)
  /-- a handler runs -/
  | executed {conn n : Nat} (hlive : s.Live own conn) (hserves : s.Serves conn id n)
      (hrunning : n ∈ s.server.running.map (·.number))
  /-- its reply is posted to a loop of the server -/
  | posted {conn : Nat} {w : FrameWrite} (hlive : s.Live own conn)
      (hserves : s.Serves conn id w.number)
      (hw : w ∈ s.server.queue ++ s.server.posting.flatten) (hne : w.write.bytes ≠ [])
  /-- its reply has been written and not yet been received; it waits for a `Flush` only while the
  batch of the connection is open -/
  | replied {conn n : Nat} {bytes : List UInt8} (hlive : s.Live own conn)
      (hserves : s.Serves conn id n) (hwritten : .write conn n bytes ∈ s.server.output)
      (hne : bytes ≠ []) (hinside : bytes <:+: (s.replies conn).content)
      (hflushed : s.server.batch (loopOf conn) = none → (s.replies conn).buffered = [])
  /-- `OnMessage` is still to come to its reply -/
  | handed {frame : RpcFrame} (hid : frame.rpcMeta.requestId = id) (h : s.channel.Ahead frame)

/-- Where a call is that has not been notified. -/
inductive UnderWay (own : Nat → Bool) (F : MetaFormat) (loopOf : Nat → Nat) (s : EndToEnd)
    (k : Nat) : Prop where
  /-- it is queued on the loop of the channel -/
  | queued (h : k ∈ s.channel.queuedNumbers)
  /-- a degrade handler has been asked about it -/
  | asked (h : k ∈ s.channel.heldNumbers)
  /-- it is pending -/
  | pending {id : UInt64} {call : PendingCall} (hmem : (id, call) ∈ s.channel.pendingCalls)
      (hnumber : call.number = k) (h : Whereabouts own F loopOf s id)
  /-- the destructor of the channel is still to fail what is pending -/
  | closing (h : .failAllPendingNow ∈ s.channel.stack)

/-- The request of the call waits in the output buffer of its connection for a `Flush`. -/
def AwaitsFlush (own : Nat → Bool) (F : MetaFormat) (s : EndToEnd) (k : Nat) : Prop :=
  ∃ id call conn bytes, (id, call) ∈ s.channel.pendingCalls ∧ call.number = k ∧ s.Live own conn ∧
    Requests F id bytes ∧ bytes <:+: (s.requests conn).buffered

/-- There is nothing left to do for the channel, for the server and on the connections. -/
structure AtRest (own : Nat → Bool) (s : EndToEnd) : Prop where
  stack : s.channel.stack = []
  queued : s.channel.queuedNumbers = []
  batches : ∀ loop, s.server.batch loop = none
  running : s.server.running = []
  posted : s.server.queue ++ s.server.posting.flatten = []
  requests : ∀ conn, s.Live own conn → (s.requests conn).arrived ++ (s.requests conn).inFlight = []
  replies : ∀ conn, s.Live own conn → (s.replies conn).arrived ++ (s.replies conn).inFlight = []

/-- The text of the exception with which this step ends a handler fits into a frame. -/
def EndFits (wire : RpcMeta → List UInt8) (s : EndToEnd) : EndToEndStep → Prop
  | .server l => s.server.EndFits wire l
  | _ => True

variable {own : Nat → Bool} {F : MetaFormat} {wire : RpcMeta → List UInt8} {S : Services}
  {loopOf : Nat → Nat} {s s' : EndToEnd} {conn : Nat}

/-! ## What a run keeps -/

/-- What a run keeps in which the texts of exceptions fit. -/
structure Accounted (own : Nat → Bool) (F : MetaFormat) (wire : RpcMeta → List UInt8) (S : Services)
    (loopOf : Nat → Nat) (s : EndToEnd) : Prop where
  joined : Joined own F wire S loopOf s
  replying : RpcServer.Replying wire S loopOf s.server
  /-- only replies that are not flushed are in the output buffers of the server -/
  unflushed : ∀ conn, (s.replies conn).buffered ≠ [] →
    ∃ n, RpcServer.Unflushed s.server.output conn n
  governed : RpcChannel.Governed s.channel
  balanced : RpcChannel.Balanced s.channel [] []
  closing : RpcChannel.Closing s.channel
  attached : ∀ conn, s.channel.connection = some conn → s.Live own conn
  placed : RpcChannel.Placed F (s.Live own) s.channel
  settled : RpcChannel.Settled (s.Handed own) s.channel

/-- A frame that the channel has found is no answer to a call that is still to be written. -/
theorem Joined.solicited (hF : F.Proto3 wire) (h : Joined own F wire S loopOf s) {reply : RpcFrame}
    (hreply : s.Handed own reply) (htype : reply.rpcMeta.type ≠ .heartbeat) :
    reply.rpcMeta.requestId ∉ s.channel.unsentKeys := by
  obtain ⟨conn, hown, hmem⟩ := hreply
  obtain ⟨c, hc, hmakes⟩ := (h.replies conn hown).chunk_of_mem hmem
  obtain ⟨n, hwritten⟩ := mem_server_writtenOn.mp hc
  obtain ⟨frame, scope, hget, hreplies⟩ := h.truthful.written conn n c hwritten
  obtain ⟨hid, hheartbeat, -⟩ := hreplies.read hF hmakes
  -- it replies to a frame that was received on the connection
  obtain ⟨frame', scope', hget', hconn⟩ := h.truthful.flushed.conn conn n c hwritten
  rw [hget, Option.some.injEq, Prod.mk.injEq] at hget'
  obtain ⟨rfl, rfl⟩ := hget'
  have hconns : s.server.conns[scope]? = some conn := by
    rw [RpcServer.conns, List.getElem?_map]
    exact hconn
  have hreceived : frame ∈ RpcServer.receivedOn conn s.server :=
    List.mem_filterMap.mpr ⟨_, List.mem_of_getElem? hget, by simp [hconns]⟩
  -- and so to a request that has been written
  obtain ⟨c', hc', hmakes'⟩ := (h.requests conn hown).chunk_of_mem hreceived
  have hsent := mem_writtenOn.mp hc'
  obtain ⟨frame', hmakes'', htypes⟩ := h.sending.framed.written _ hsent
  rw [Framer.Makes] at hmakes' hmakes''
  rw [hmakes'] at hmakes''
  cases hmakes''
  have hrequest : frame.rpcMeta.type = .request :=
    htypes.resolve_right fun heq => htype (hheartbeat.mpr heq)
  have hunsent := h.sending.steady.unsent.written _ hsent _ ⟨frame, _, hmakes', hrequest, rfl⟩
  rw [hid]
  simpa using hunsent.2

/-- What is in an output buffer of the server behind these outputs has not been flushed. -/
theorem unflushed_outputs {output : List ServerOutput} {replies : Nat → Pipe UInt8}
    (h : ∀ conn, (replies conn).buffered ≠ [] → ∃ n, RpcServer.Unflushed output conn n)
    (later : List ServerOutput) (conn : Nat)
    (hbuffered : (later.foldl ServerOutput.perform replies conn).buffered ≠ []) :
    ∃ n, RpcServer.Unflushed (output ++ later) conn n := by
  induction later generalizing output replies with
  | nil =>
    rw [List.append_nil]
    exact h conn hbuffered
  | cons o later ih =>
    rw [← List.singleton_append, ← List.append_assoc]
    refine ih (fun c hc => ?_) hbuffered
    cases o with
    | write c' n bytes =>
      obtain rfl | hne := eq_or_ne c c'
      · exact ⟨n, RpcServer.unflushed_append_iff.mpr (.inl ⟨[], bytes, [], rfl, by simp⟩)⟩
      · rw [ServerOutput.perform, Function.update_of_ne hne] at hc
        obtain ⟨n', hun⟩ := h c hc
        exact ⟨n', RpcServer.unflushed_append_iff.mpr (.inr ⟨hun, by simp⟩)⟩
    | flush c' =>
      obtain rfl | hne := eq_or_ne c c'
      · rw [ServerOutput.perform, Function.update_self, Pipe.buffered_flush] at hc
        exact absurd rfl hc
      · rw [ServerOutput.perform, Function.update_of_ne hne] at hc
        obtain ⟨n', hun⟩ := h c hc
        exact ⟨n', RpcServer.unflushed_append_iff.mpr (.inr ⟨hun, by simpa using hne⟩)⟩

/-! ### The steps -/

/-- The channel leaves the output buffers of the server alone. -/
theorem untouched_channelStep {l : ChannelStep} (hstep : s.step own F S loopOf (.channel l) = some s') :
    s'.server = s.server ∧ ∀ conn, (s'.replies conn).buffered = (s.replies conn).buffered := by
  simp only [step, Option.ite_none_right_eq_some] at hstep
  obtain ⟨-, hstep⟩ := hstep
  obtain ⟨channel, -, rfl⟩ := Option.map_eq_some_iff.mp hstep
  cases l with
  | onMessage c fs error =>
    refine ⟨rfl, fun conn => ?_⟩
    dsimp only [channelTakes]
    obtain rfl | hne := eq_or_ne conn c
    · rw [Function.update_self]
      rfl
    · rw [Function.update_of_ne hne]
  | _ => exact ⟨rfl, fun _ => rfl⟩

/-- Only a connection that the channel is told to be down is no longer live. -/
theorem Live.channelStep (h : s.Live own conn) {l : ChannelStep}
    (hl : ∀ order, l ≠ .connectionDown conn order)
    (hstep : s.step own F S loopOf (.channel l) = some s') : s'.Live own conn := by
  simp only [step, Option.ite_none_right_eq_some] at hstep
  obtain ⟨-, hstep⟩ := hstep
  obtain ⟨channel, -, rfl⟩ := Option.map_eq_some_iff.mp hstep
  refine ⟨h.1, ?_⟩
  cases l with
  | connectionDown c order =>
    have hne : conn ≠ c := by
      rintro rfl
      exact hl order rfl
    simpa [channelTakes, Function.update_of_ne hne] using h.2
  | _ => exact h.2

/-- The channel finds frames only when `OnMessage` is called. -/
theorem handed_channelStep {l : ChannelStep} (hstep : s.step own F S loopOf (.channel l) = some s')
    {frame : RpcFrame} (hframe : s'.Handed own frame) : s.Handed own frame ∨
      ∃ conn fs error, l = .onMessage conn fs error ∧ frame ∈ fs := by
  simp only [step, Option.ite_none_right_eq_some] at hstep
  obtain ⟨-, hstep⟩ := hstep
  obtain ⟨channel, -, rfl⟩ := Option.map_eq_some_iff.mp hstep
  obtain ⟨conn, hown, hmem⟩ := hframe
  cases l with
  | onMessage c fs error =>
    dsimp only [channelTakes] at hmem
    obtain rfl | hne := eq_or_ne conn c
    · rw [Function.update_self, List.mem_append] at hmem
      exact hmem.imp (fun hmem => ⟨conn, hown, hmem⟩) fun hmem => ⟨conn, fs, error, rfl, hmem⟩
    · rw [Function.update_of_ne hne] at hmem
      exact .inl ⟨conn, hown, hmem⟩
  | _ => exact .inl ⟨conn, hown, hmem⟩

namespace Accounted

theorem start (nextRequestId : Nat) : Accounted own F wire S loopOf (start nextRequestId) where
  joined := .start nextRequestId
  replying := .start
  unflushed conn hbuffered := absurd rfl hbuffered
  governed := by constructor <;> simp [EndToEnd.start, RpcChannel.start, RpcChannel.keys]
  balanced := RpcChannel.balanced_start nextRequestId {}
  closing hdead := by simp [EndToEnd.start, RpcChannel.start] at hdead
  attached := by simp [EndToEnd.start, RpcChannel.start]
  placed _ id hid := by simp [EndToEnd.start, RpcChannel.start, RpcChannel.keys] at hid
  settled frame hframe := by
    obtain ⟨conn, -, hmem⟩ := hframe
    cases hmem

theorem opened (h : Accounted own F wire S loopOf s) : RpcChannel.Opened s.channel := h.balanced.opened

theorem server (hF : F.Proto3 wire) (h : Accounted own F wire S loopOf s) {l : RpcServerStep}
    (hfits : s.server.EndFits wire l) (hstep : s.step own F S loopOf (.server l) = some s') :
    Accounted own F wire S loopOf s' := by
  obtain ⟨hjoined, -, -⟩ := h.joined.server hF hstep
  obtain ⟨-, server, later, hserver, hlater, rfl⟩ := step_server h.joined.truthful.tracked hstep
  obtain ⟨requests, htakes⟩ := exists_serverTakes_eq s l
  rw [htakes] at hjoined ⊢
  refine ⟨hjoined, h.replying.step hF.lawful hF.compact hfits hserver, ?_, h.governed, h.balanced,
    h.closing, h.attached, h.placed, h.settled⟩
  dsimp only
  rw [hlater]
  exact unflushed_outputs h.unflushed later

theorem channel (hF : F.Proto3 wire) (h : Accounted own F wire S loopOf s) {l : ChannelStep}
    (hstep : s.step own F S loopOf (.channel l) = some s')
    (hwrap : s'.channel.nextRequestId ≤ 2 ^ 64) : Accounted own F wire S loopOf s' := by
  obtain ⟨hjoined, -, -⟩ := h.joined.channel hF hstep hwrap
  have hsettled : ∀ {channel : RpcChannel}, s.channel.step F l = some channel →
      s'.channel = channel → RpcChannel.Settled (s'.Handed own) channel := by
    rintro channel hchannel rfl
    exact h.settled.step h.opened (fun frame hframe => handed_channelStep hstep hframe)
      (fun frame hframe htype => hjoined.solicited hF hframe htype) hchannel
  have hkept := fun conn (hconn : s.Live own conn) hl => hconn.channelStep (l := l) hl hstep
  have hunflushed : ∀ conn, (s'.replies conn).buffered ≠ [] →
      ∃ n, RpcServer.Unflushed s'.server.output conn n := by
    intro conn hbuffered
    obtain ⟨hserver, hreplies⟩ := untouched_channelStep hstep
    rw [hreplies] at hbuffered
    rw [hserver]
    exact h.unflushed conn hbuffered
  have hstep' := hstep
  simp only [step, Option.ite_none_right_eq_some] at hstep'
  obtain ⟨hsees, hstep'⟩ := hstep'
  obtain ⟨channel, hchannel, rfl⟩ := Option.map_eq_some_iff.mp hstep'
  obtain ⟨hgoverned, -⟩ := RpcChannel.governed_step ⟨h.governed, h.opened⟩ hchannel
  have hserver : (s.channelTakes F l).server = s.server := by cases l <;> rfl
  refine ⟨hjoined, hserver ▸ h.replying, hunflushed, hgoverned, h.balanced.step hchannel hwrap, ?_,
    fun conn hconn => ?_, ?_, hsettled hchannel rfl⟩
  · exact RpcChannel.invariant_step h.closing (fun h heffect => h.effect heffect) hchannel
  · obtain ⟨frame, stack, -, hgoes, accepted, index, order, rfl⟩ | hmoves :=
      RpcChannel.resume_or_moves h.opened hchannel
    · exact hkept conn (h.attached conn (hgoes.connection ▸ hconn)) (by simp)
    · obtain rfl | ⟨hold, hl⟩ := hmoves.connection conn hconn
      · simpa [Live, channelSees, channelTakes] using hsees
      · exact hkept conn (h.attached conn hold) hl
  · exact h.placed.step h.opened h.joined.sending.framed hgoverned h.attached hkept
      (RpcChannel.written_prefix_step h.joined.sending.steady hchannel hwrap) hchannel

theorem step (hF : F.Proto3 wire) (h : Accounted own F wire S loopOf s) {l : EndToEndStep}
    (hfits : s.EndFits wire l) (hstep : s.step own F S loopOf l = some s')
    (hwrap : s'.channel.nextRequestId ≤ 2 ^ 64) :
    Accounted own F wire S loopOf s' := by
  have hjoined := h.joined.step hF hstep hwrap
  cases l with
  | channel l => exact h.channel hF hstep hwrap
  | server l => exact h.server hF hfits hstep
  | _ =>
    have hmoved := moved_step (by simp) (by simp) hstep
    rw [hmoved.same] at hjoined ⊢
    exact ⟨hjoined, h.replying, fun conn hbuffered =>
      h.unflushed conn fun hnone => hbuffered (hmoved.buffered conn hnone), h.governed, h.balanced,
      h.closing, h.attached, h.placed, h.settled⟩

/-! ## Where calls are -/

/-- Outside of a batch every reply has been flushed. -/
theorem flushed (h : Accounted own F wire S loopOf s) (conn : Nat)
    (hbatch : s.server.batch (loopOf conn) = none) : (s.replies conn).buffered = [] := by
  by_contra hbuffered
  obtain ⟨n, hun⟩ := h.unflushed conn hbuffered
  obtain ⟨frame, scope, -, hopen⟩ := h.replying.answered.flushed.flushed conn n hun
  rw [hbatch] at hopen
  cases hopen

/-- A request that was received is with a handler, or there is a reply to it. -/
theorem executed_or_replied (h : Accounted own F wire S loopOf s) {n scope : Nat} {frame : RpcFrame}
    (hget : s.server.received[n]? = some (frame, scope)) :
    n ∈ s.server.running.map (·.number) ∨ ∃ bytes, bytes ≠ [] ∧
      ((∃ conn, .write conn n bytes ∈ s.server.output) ∨
        ∃ w ∈ s.server.queue ++ s.server.posting.flatten, w.number = n ∧ w.write.bytes = bytes) := by
  refine or_iff_not_imp_left.mpr fun hrunning => ?_
  obtain ⟨m, payload, hreplies, -⟩ := h.replying.answered.replied.answered n frame scope hget hrunning
  have hmem : frameBytes wire m payload ∈ s.server.repliesTo n :=
    hreplies ▸ List.mem_singleton_self _
  have hne : frameBytes wire m payload ≠ [] := by
    apply List.ne_nil_of_length_pos
    rw [length_frameBytes]
    omega
  exact ⟨_, hne, RpcServer.of_mem_repliesTo hmem⟩

theorem whereabouts (hF : F.Proto3 wire) {id : UInt64} (h : Accounted own F wire S loopOf s)
    (halive : s.channel.alive = true) (hid : id ∈ s.channel.keys) : Whereabouts own F loopOf s id := by
  obtain hdoomed | hunwritten | ⟨conn, bytes, hlive, hw, hrequests⟩ := h.placed halive id hid
  · exact .failing hdoomed
  · exact .registering hunwritten
  obtain ⟨frame, hreceived, hmakes⟩ | hinside :=
    (h.joined.requests conn hlive.1).item_or_inside (mem_writtenOn.mpr hw)
  · -- the server has received the request
    have hrequest : frame.rpcMeta.type = .request ∧ frame.rpcMeta.requestId = id := by
      obtain ⟨frame', hmakes', hrequest⟩ := hrequests
      rw [Framer.Makes] at hmakes hmakes'
      rw [hmakes] at hmakes'
      cases hmakes'
      exact hrequest
    obtain ⟨n, scope, hget, hconn⟩ : ∃ n scope, s.server.received[n]? = some (frame, scope) ∧
        s.server.conns[scope]? = some conn := by
      obtain ⟨x, hx, heq⟩ := List.mem_filterMap.mp hreceived
      split at heq
      · next hconn =>
        cases heq
        obtain ⟨n, hget⟩ := List.mem_iff_getElem?.mp hx
        exact ⟨n, x.2, hget, hconn⟩
      · cases heq
    have hserves : s.Serves conn id n := ⟨frame, scope, hget, hconn, hrequest⟩
    obtain hrunning | ⟨reply, hne, ⟨conn', hwritten⟩ | ⟨w, hw, rfl, rfl⟩⟩ := h.executed_or_replied hget
    · exact .executed hlive hserves hrunning
    · -- the reply went to the connection of the request
      obtain ⟨frame', scope', hget', hconn'⟩ := h.joined.truthful.flushed.conn conn' n reply hwritten
      rw [hget, Option.some.injEq, Prod.mk.injEq] at hget'
      obtain ⟨rfl, rfl⟩ := hget'
      rw [RpcServer.conns, List.getElem?_map, hconn', Option.some.injEq] at hconn
      subst hconn
      obtain ⟨frame', hhanded, hmakes'⟩ | hinside :=
        (h.joined.replies conn' hlive.1).item_or_inside (mem_server_writtenOn.mpr ⟨n, hwritten⟩)
      · obtain ⟨frame'', scope'', hget'', htold⟩ := h.joined.truthful.written conn' n reply hwritten
        rw [hget, Option.some.injEq, Prod.mk.injEq] at hget''
        obtain ⟨rfl, rfl⟩ := hget''
        obtain ⟨hreply, hheartbeat, -⟩ := htold.read hF hmakes'
        have htype : frame'.rpcMeta.type ≠ .heartbeat := by
          rw [Ne, hheartbeat, hrequest.1]
          decide
        refine .handed (hreply.trans hrequest.2)
          ((h.settled frame' ⟨conn', hlive.1, hhanded⟩ htype).resolve_right ?_)
        rw [hreply, hrequest.2]
        exact not_not.mpr hid
      · exact .replied hlive hserves hwritten hne hinside (h.flushed conn')
    · exact .posted hlive hserves hw hne
  · by_cases hbuffered : bytes <:+: (s.requests conn).buffered
    · exact .written hlive hrequests hbuffered
    · exact .requested hlive hrequests hinside hbuffered

theorem underWay (hF : F.Proto3 wire) (h : Accounted own F wire S loopOf s) {k : Nat}
    (hk : k < s.channel.begun) : k ∈ s.channel.notified ∨ UnderWay own F loopOf s k := by
  by_cases hqueued : k ∈ s.channel.queuedNumbers
  · exact .inr (.queued hqueued)
  by_cases hheld : k ∈ s.channel.heldNumbers
  · exact .inr (.asked hheld)
  by_cases hpending : k ∈ s.channel.pendingNumbers
  · obtain ⟨⟨id, call⟩, hmem, hnumber⟩ := List.mem_map.mp hpending
    cases halive : s.channel.alive with
    | true =>
      have hid : id ∈ s.channel.keys := List.mem_map_of_mem (f := Prod.fst) hmem
      exact .inr (.pending hmem hnumber (h.whereabouts hF halive hid))
    | false =>
      obtain hclosing | hgone := h.closing halive
      · exact .inr (.closing hclosing)
      · exact .inl ((h.balanced.gone hgone).2 k hk)
  · exact .inl ((h.balanced.notified_iff hk).mpr ⟨hqueued, hpending, hheld⟩)

end Accounted

/-- A pending call for which nothing is left to do waits for a `Flush`. -/
theorem Whereabouts.written_of_atRest {id : UInt64} (h : Whereabouts own F loopOf s id)
    (hrest : AtRest own s) : ∃ conn bytes, s.Live own conn ∧ Requests F id bytes ∧
      bytes <:+: (s.requests conn).buffered := by
  cases h with
  | registering h =>
    obtain ⟨token, bytes, hmem⟩ := h
    simp [hrest.stack] at hmem
  | failing h =>
    obtain ⟨ids, hmem, -⟩ := h
    simp [hrest.stack] at hmem
  | written hlive hrequests hinside => exact ⟨_, _, hlive, hrequests, hinside⟩
  | requested hlive hrequests hinside hsent =>
    rw [Pipe.content, ← List.append_assoc, hrest.requests _ hlive, List.nil_append] at hinside
    exact absurd hinside hsent
  | executed hlive hserves hrunning => simp [hrest.running] at hrunning
  | posted hlive hserves hw hne => simp [hrest.posted] at hw
  | replied hlive hserves hwritten hne hinside hflushed =>
    rw [Pipe.content, ← List.append_assoc, hrest.replies _ hlive, hflushed (hrest.batches _),
      List.append_nil, List.infix_nil] at hinside
    exact absurd hinside hne
  | handed hid h =>
    obtain ⟨conn, fs, error, hmem, -⟩ := h
    simp [hrest.stack] at hmem

theorem UnderWay.awaitsFlush {k : Nat} (h : UnderWay own F loopOf s k) (hrest : AtRest own s) :
    AwaitsFlush own F s k := by
  cases h with
  | queued h => simp [hrest.queued] at h
  | asked h => simp [RpcChannel.heldNumbers, hrest.stack] at h
  | pending hmem hnumber h =>
    obtain ⟨conn, bytes, hlive, hrequests, hinside⟩ := h.written_of_atRest hrest
    exact ⟨_, _, conn, bytes, hmem, hnumber, hlive, hrequests, hinside⟩
  | closing h => simp [hrest.stack] at h

/-- **No call is lost.** In every run of a channel and its server in which the texts of exceptions fit
into a frame and request ids do not wrap, a call that has been begun has been notified, or it is at one
of the places from which it goes on. Where there is nothing left to do, it has been notified or its
request waits for a `Flush` that nobody has called; and when nothing waits for that either, it has been
notified. -/
theorem no_call_lost (hF : F.Proto3 wire) (own : Nat → Bool) (S : Services) (loopOf : Nat → Nat)
    (nextRequestId : Nat) (steps : List EndToEndStep) (s : EndToEnd)
    (hrun : (EndToEnd.start nextRequestId).run own F S loopOf steps = some s)
    (hfits : Transition.Meets (step own F S loopOf) (EndFits wire) (EndToEnd.start nextRequestId)
      steps)
    (hwrap : s.channel.nextRequestId ≤ 2 ^ 64) :
    (∀ k < s.channel.begun, k ∈ s.channel.notified ∨ UnderWay own F loopOf s k) ∧
      (AtRest own s → ∀ k < s.channel.begun, k ∈ s.channel.notified ∨ AwaitsFlush own F s k) ∧
      (AtRest own s → (∀ conn, s.Live own conn → (s.requests conn).buffered = []) →
        ∀ k < s.channel.begun, k ∈ s.channel.notified) := by
  have haccounted : Accounted own F wire S loopOf s := by
    refine Transition.invariant_run
      (I := fun s => s.channel.nextRequestId ≤ 2 ^ 64 → Accounted own F wire S loopOf s)
      (fun s l s' h hfits hstep hwrap => ?_) (fun _ => .start nextRequestId) hfits hrun hwrap
    exact (h ((nextRequestId_le_step hstep).trans hwrap)).step hF hfits hstep hwrap
  have hresting : AtRest own s → ∀ k < s.channel.begun,
      k ∈ s.channel.notified ∨ AwaitsFlush own F s k := fun hrest k hk =>
    (haccounted.underWay hF hk).imp_right fun hunderWay => hunderWay.awaitsFlush hrest
  refine ⟨fun k hk => haccounted.underWay hF hk, hresting, fun hrest hflushed k hk => ?_⟩
  refine (hresting hrest k hk).resolve_right ?_
  rintro ⟨id, call, conn, bytes, -, -, hlive, hrequests, hinside⟩
  rw [hflushed conn hlive, List.infix_nil] at hinside
  exact hrequests.ne_nil hinside

/-- The call whose reply comes in two pieces, to its end. -/
def roundTrip : List EndToEndStep :=
  .channel (.connectionUp 1) :: .channel (.beginCall echoCall 0) :: echoed ++
    [.channel (.resume false 0 []), .channel (.resume false 0 [])]

theorem no_call_lost_roundTrip : ∃ s,
    (EndToEnd.start 1).run (· = 1) wireFormat RpcServer.twoServices id roundTrip = some s ∧
      AtRest (· = 1) s ∧ s.channel.begun = 1 ∧ 0 ∈ s.channel.notified := by
  have hend : ((EndToEnd.start 1).run (· = 1) wireFormat RpcServer.twoServices id roundTrip).map
      (fun s => (s.channel.stack.isEmpty && s.channel.queuedNumbers.isEmpty &&
          s.server.running.isEmpty && (s.server.queue ++ s.server.posting.flatten).isEmpty &&
          s.server.scopes.all (!·.collecting), (s.requests 1).content, (s.replies 1).content,
        s.channel.begun, s.channel.nextRequestId)) = some (true, [], [], 1, 2) := by
    decide +kernel
  obtain ⟨s, hrun, heq⟩ := Option.map_eq_some_iff.mp hend
  simp only [Prod.mk.injEq, Bool.and_eq_true, List.isEmpty_iff] at heq
  obtain ⟨⟨⟨⟨⟨hstack, hqueued⟩, hrunning⟩, hposted⟩, hscopes⟩, hrequests, hreplies, hbegun, hnext⟩ :=
    heq
  simp only [Pipe.content, List.append_eq_nil_iff] at hrequests hreplies
  have hlive : ∀ conn, s.Live (· = 1) conn → conn = 1 := fun conn hlive => by simpa using hlive.1
  have hwrap : s.channel.nextRequestId ≤ 2 ^ 64 := by
    rw [hnext]
    decide
  -- the scope of a batch would be open
  have hbatches : ∀ loop, s.server.batch loop = none := by
    intro loop
    by_contra hbatch
    obtain ⟨id, hid⟩ := Option.ne_none_iff_exists'.mp hbatch
    obtain ⟨scope, hget, hopen, -⟩ :=
      (joined_start wireFormat_proto3 hrun hwrap).truthful.tracked.open_batch hid
    have hclosed := List.all_eq_true.mp hscopes scope (List.mem_of_getElem? hget)
    simp [hopen] at hclosed
  have hrest : AtRest (· = 1) s := ⟨hstack, hqueued, hbatches, hrunning, hposted,
    fun conn hconn => by simp [hlive conn hconn, hrequests],
    fun conn hconn => by simp [hlive conn hconn, hreplies]⟩
  have hfits : Transition.Meets (step (· = 1) wireFormat RpcServer.twoServices id)
      (EndFits RpcMeta.serialize) (EndToEnd.start 1) roundTrip := by
    apply Transition.meets_of_forall_mem
    intro s
    simp [roundTrip, echoed, EndFits, RpcServer.EndFits, TextFits]
  refine ⟨s, hrun, hrest, hbegun, ?_⟩
  exact (no_call_lost wireFormat_proto3 (· = 1) RpcServer.twoServices id 1 roundTrip s hrun hfits
    hwrap).2.2 hrest (fun conn hconn => hlive conn hconn ▸ hrequests.2.2) 0 (by rw [hbegun]; decide)

/-- A request that nobody flushes stays where it is. -/
example : ((EndToEnd.start 1).run (· = 1) wireFormat RpcServer.twoServices id
    [.channel (.connectionUp 1), .channel (.beginCall echoCall 0), .channel (.resume false 0 [])]).map
      (fun s => (s.channel.stack.isEmpty && s.channel.queuedNumbers.isEmpty, (s.requests 1).inFlight,
        (s.requests 1).buffered.length, s.channel.notified)) = some (true, [], 16, []) := by
  decide +kernel

end EndToEnd

end NebulaRpc.Rpc
