import NebulaRpc.Rpc.ReplyOrigin

/-!
# A channel and its server

One `RpcChannel` and one `RpcServer`, with two pipes for each connection. Of the connections of the
server some are those of this channel; what arrives on the others is up to others, be it another channel
or anybody else, and so are the frames there. A connection may be cut at any time: then the rest of its
pipes never arrives.

What is written waits in the output buffer of its connection. The server flushes its replies, and the
channel its heartbeats and, by a functor, every run of `OnMessage`; to flush requests is otherwise up
to the user. Behind a flush that is not through, the socket also takes what has been written since.
Bytes that arrive are decoded in the batches of the server and when `OnMessage` of the channel is
called.
-/

namespace NebulaRpc.Rpc

open Framing

structure EndToEnd where
  channel : RpcChannel
  server : RpcServer := {}
  /-- from the channel to the server -/
  requests : Nat → Pipe UInt8 := fun _ => {}
  /-- from the server to the channel -/
  replies : Nat → Pipe UInt8 := fun _ => {}
  /-- the frames that `OnMessage` of the channel has found on a connection -/
  handed : Nat → List RpcFrame := fun _ => []
  /-- the channel has been told that the connection is down -/
  closed : Nat → Bool := fun _ => false

inductive EndToEndStep where
  | channel (l : ChannelStep)
  | server (l : RpcServerStep)
  /-- somebody flushes a connection of the channel -/
  | flush (conn : Nat)
  /-- the socket goes on with an earlier flush -/
  | sendRequest (conn n : Nat)
  | sendReply (conn n : Nat)
  | deliverRequest (conn n : Nat)
  | deliverReply (conn n : Nat)

/-- What was written to a connection. -/
def writtenOn (conn : Nat) (written : List (Nat × List UInt8)) : List (List UInt8) :=
  (written.filter (·.1 = conn)).map (·.2)

/-- The connection of the batch that a loop is in. -/
def RpcServer.batchConn (s : RpcServer) (loop : Nat) : Option Nat :=
  (s.batch loop).bind fun id => s.conns[id]?

def ChannelFunctor.flushes (conn : Nat) : ChannelFunctor → Bool
  | .flush c => c = conn
  | _ => false

/-- What the server does with the output buffers of its connections. -/
def ServerOutput.perform (replies : Nat → Pipe UInt8) : ServerOutput → Nat → Pipe UInt8
  | .write conn _ bytes => Function.update replies conn ((replies conn).write bytes)
  | .flush conn => Function.update replies conn (replies conn).flush

namespace EndToEnd

section Step

variable (own : Nat → Bool) (F : MetaFormat)

/-- The channel connects to its own connections and finds in their buffers what has arrived. -/
def channelSees (s : EndToEnd) : ChannelStep → Bool
  | .onMessage conn fs error =>
    let d := drain (framer F) (s.replies conn).arrived
    own conn && fs = d.items && error = d.error
  | .connectionUp conn => own conn && !s.closed conn
  | _ => true

def channelTakes (s : EndToEnd) : ChannelStep → EndToEnd
  | .onMessage conn fs _ => { s with
      replies := Function.update s.replies conn ((s.replies conn).drained (framer F))
      handed := Function.update s.handed conn (s.handed conn ++ fs) }
  | .connectionDown conn _ => { s with closed := Function.update s.closed conn true }
  | _ => s

/-- A batch decodes frame by frame what has arrived, to its end. -/
def serverSees (s : EndToEnd) : RpcServerStep → Bool
  | .frame loop frame =>
    (s.server.batchConn loop).all fun conn => !own conn ||
      match (framer F).next (s.requests conn).arrived with
      | .ok next _ => next = frame
      | _ => false
  | .close loop =>
    (s.server.batchConn loop).all fun conn => !own conn ||
      match (framer F).next (s.requests conn).arrived with
      | .ok _ _ => false
      | _ => true
  | _ => true

def serverTakes (s : EndToEnd) : RpcServerStep → EndToEnd
  | .frame loop frame =>
    match s.server.batchConn loop with
    | none => s
    | some conn => { s with
        requests := Function.update s.requests conn ((s.requests conn).consume frame.wireSize) }
  | _ => s

/-- A heartbeat is flushed as soon as it is written, and the functor that `OnMessage` queues does
nothing else. -/
def flushes (s : EndToEnd) (later : List (Nat × List UInt8)) (conn : Nat) : ChannelStep → Bool
  | .runFunctor index => (s.channel.functors[index]?).any (·.flushes conn)
  | .timer .. => !(writtenOn conn later).isEmpty
  | _ => false

variable (S : Services) (loopOf : Nat → Nat)

def step (s : EndToEnd) : EndToEndStep → Option EndToEnd
  | .channel l =>
    if s.channelSees own F l then
      (s.channel.step F l).map fun channel =>
        let later := channel.env.written.drop s.channel.env.written.length
        { s.channelTakes F l with
          channel := channel
          requests := fun conn =>
            let p := (s.requests conn).write (writtenOn conn later).flatten
            if s.flushes later conn l then p.flush else p }
    else none
  | .server l =>
    if s.serverSees own F l then
      (s.server.step F S loopOf l).map fun server =>
        let later := server.output.drop s.server.output.length
        { s.serverTakes l with
          server := server
          replies := later.foldl ServerOutput.perform s.replies }
    else none
  | .flush conn =>
    some { s with requests := Function.update s.requests conn (s.requests conn).flush }
  | .sendRequest conn n =>
    if (s.requests conn).inFlight ≠ [] then
      some { s with requests := Function.update s.requests conn ((s.requests conn).send n) }
    else none
  | .sendReply conn n =>
    if (s.replies conn).inFlight ≠ [] then
      some { s with replies := Function.update s.replies conn ((s.replies conn).send n) }
    else none
  | .deliverRequest conn n =>
    some { s with requests := Function.update s.requests conn ((s.requests conn).deliver n) }
  | .deliverReply conn n =>
    some { s with replies := Function.update s.replies conn ((s.replies conn).deliver n) }

def run (s : EndToEnd) (steps : List EndToEndStep) : Option EndToEnd :=
  Transition.run (step own F S loopOf) s steps

end Step

/-- Nothing has happened. -/
def start (nextRequestId : Nat) : EndToEnd := { channel := RpcChannel.start nextRequestId {} }

/-! ## What goes through the pipes -/

/-- The channel has found this frame on one of its connections. -/
def Handed (own : Nat → Bool) (s : EndToEnd) (frame : RpcFrame) : Prop :=
  ∃ conn, own conn = true ∧ frame ∈ s.handed conn

/-- What a run of the channel and its server keeps. -/
structure Joined (own : Nat → Bool) (F : MetaFormat) (wire : RpcMeta → List UInt8) (S : Services)
    (loopOf : Nat → Nat) (s : EndToEnd) : Prop where
  sending : RpcChannel.Sending F (s.Handed own) s.channel
  truthful : RpcServer.Truthful wire loopOf s.server
  numbered : RpcServer.Numbered F S s.server
  requests : ∀ conn, own conn = true →
    Piped (framer F) (s.requests conn) (writtenOn conn s.channel.env.written)
      (RpcServer.receivedOn conn s.server)
  replies : ∀ conn, own conn = true →
    Piped (framer F) (s.replies conn) (RpcServer.writtenOn conn s.server.output) (s.handed conn)

variable {own : Nat → Bool} {F : MetaFormat} {wire : RpcMeta → List UInt8} {S : Services}
  {loopOf : Nat → Nat} {s s' : EndToEnd} {conn : Nat}

theorem writtenOn_append (conn : Nat) (written later : List (Nat × List UInt8)) :
    writtenOn conn (written ++ later) = writtenOn conn written ++ writtenOn conn later := by
  simp [writtenOn]

theorem mem_writtenOn {written : List (Nat × List UInt8)} {bytes : List UInt8} :
    bytes ∈ writtenOn conn written ↔ (conn, bytes) ∈ written := by
  simp [writtenOn]

theorem server_writtenOn_append (conn : Nat) (output later : List ServerOutput) :
    RpcServer.writtenOn conn (output ++ later) =
      RpcServer.writtenOn conn output ++ RpcServer.writtenOn conn later :=
  List.filterMap_append

theorem mem_server_writtenOn {output : List ServerOutput} {bytes : List UInt8} :
    bytes ∈ RpcServer.writtenOn conn output ↔ ∃ n, .write conn n bytes ∈ output := by
  unfold RpcServer.writtenOn
  rw [List.mem_filterMap]
  constructor
  · rintro ⟨o, ho, heq⟩
    cases o with
    | flush => cases heq
    | write c n bytes' =>
      dsimp only at heq
      split at heq
      · next hc =>
        cases heq
        exact ⟨n, hc ▸ ho⟩
      · cases heq
  · rintro ⟨n, hmem⟩
    exact ⟨_, hmem, by simp⟩

/-- What the server writes is behind what is in the pipe, flushed or not. -/
theorem piped_outputs {replies : Nat → Pipe UInt8} {chunks : List (List UInt8)}
    {items : List RpcFrame} (h : Piped (framer F) (replies conn) chunks items)
    (later : List ServerOutput) :
    Piped (framer F) (later.foldl ServerOutput.perform replies conn)
      (chunks ++ RpcServer.writtenOn conn later) items := by
  induction later generalizing replies chunks with
  | nil => simpa [RpcServer.writtenOn] using h
  | cons o later ih =>
    have hone : Piped (framer F) (ServerOutput.perform replies o conn)
        (chunks ++ RpcServer.writtenOn conn [o]) items := by
      cases o with
      | write c n bytes =>
        obtain rfl | hne := eq_or_ne c conn
        · simpa [ServerOutput.perform, RpcServer.writtenOn] using h.write [bytes]
        · simpa [ServerOutput.perform, RpcServer.writtenOn, hne, Function.update_of_ne hne.symm] using h
      | flush c =>
        obtain rfl | hne := eq_or_ne c conn
        · simpa [ServerOutput.perform, RpcServer.writtenOn] using h.of_content (Pipe.content_flush _)
        · simpa [ServerOutput.perform, RpcServer.writtenOn, Function.update_of_ne hne.symm] using h
    rw [List.foldl_cons, ← List.singleton_append, server_writtenOn_append, ← List.append_assoc]
    exact ih hone

theorem exists_serverTakes_eq (s : EndToEnd) (l : RpcServerStep) :
    ∃ requests, s.serverTakes l = { s with requests := requests } := by
  cases l with
  | frame loop frame =>
    unfold serverTakes
    dsimp only
    split <;> exact ⟨_, rfl⟩
  | _ => exact ⟨_, rfl⟩

/-- What a step of the server does. -/
theorem step_server {l : RpcServerStep} (htracked : RpcServer.Tracked loopOf s.server)
    (hstep : s.step own F S loopOf (.server l) = some s') :
    s.serverSees own F l = true ∧ ∃ server later, s.server.step F S loopOf l = some server ∧
      server.output = s.server.output ++ later ∧ s' = { s.serverTakes l with
        server := server
        replies := later.foldl ServerOutput.perform s.replies } := by
  simp only [step, Option.ite_none_right_eq_some] at hstep
  obtain ⟨hsees, hstep⟩ := hstep
  obtain ⟨server, hserver, rfl⟩ := Option.map_eq_some_iff.mp hstep
  obtain ⟨later, hlater⟩ := (RpcServer.lengthens_step htracked hserver).output
  refine ⟨hsees, server, later, hserver, hlater.symm, ?_⟩
  rw [← hlater, List.drop_left]

/-- Bytes go on within the pipes, and nothing else happens. -/
structure Moved (s s' : EndToEnd) : Prop where
  requests : ∀ conn, (s'.requests conn).content = (s.requests conn).content
  replies : ∀ conn, (s'.replies conn).content = (s.replies conn).content
  buffered : ∀ conn, (s.replies conn).buffered = [] → (s'.replies conn).buffered = []
  same : s' = { s with requests := s'.requests, replies := s'.replies }

theorem moved_requests {p : Pipe UInt8} (conn : Nat)
    (hcontent : p.content = (s.requests conn).content) :
    Moved s { s with requests := Function.update s.requests conn p } := by
  refine ⟨fun c => ?_, fun _ => rfl, fun _ => id, rfl⟩
  obtain rfl | hne := eq_or_ne c conn
  · simpa using hcontent
  · simp [hne]

theorem moved_replies {p : Pipe UInt8} (conn : Nat)
    (hcontent : p.content = (s.replies conn).content)
    (hbuffered : (s.replies conn).buffered = [] → p.buffered = []) :
    Moved s { s with replies := Function.update s.replies conn p } := by
  refine ⟨fun _ => rfl, fun c => ?_, fun c => ?_, rfl⟩
  · obtain rfl | hne := eq_or_ne c conn
    · simpa using hcontent
    · simp [hne]
  · obtain rfl | hne := eq_or_ne c conn
    · simpa using hbuffered
    · simp [hne]

theorem moved_step {l : EndToEndStep} (hchannel : ∀ a, l ≠ .channel a)
    (hserver : ∀ a, l ≠ .server a) (hstep : s.step own F S loopOf l = some s') : Moved s s' := by
  cases l with
  | channel a => exact absurd rfl (hchannel a)
  | server a => exact absurd rfl (hserver a)
  | flush conn =>
    cases hstep
    exact moved_requests conn (Pipe.content_flush _)
  | sendRequest conn n =>
    simp only [step, Option.ite_none_right_eq_some, Option.some.injEq] at hstep
    obtain ⟨-, rfl⟩ := hstep
    exact moved_requests conn (Pipe.content_send _ _)
  | sendReply conn n =>
    simp only [step, Option.ite_none_right_eq_some, Option.some.injEq] at hstep
    obtain ⟨-, rfl⟩ := hstep
    exact moved_replies conn (Pipe.content_send _ _) (by simp +contextual [Pipe.send])
  | deliverRequest conn n =>
    cases hstep
    exact moved_requests conn (Pipe.content_deliver _ _)
  | deliverReply conn n =>
    cases hstep
    exact moved_replies conn (Pipe.content_deliver _ _) id

namespace Joined

theorem whole_requests (h : Joined own F wire S loopOf s) (conn : Nat) :
    ∀ c ∈ writtenOn conn s.channel.env.written, (framer F).Whole c := by
  intro c hc
  obtain ⟨frame, hmakes, -⟩ := h.sending.framed.written _ (mem_writtenOn.mp hc)
  exact .inl ⟨frame, hmakes⟩

theorem whole_replies (hF : F.Proto3 wire) (h : Joined own F wire S loopOf s) (conn : Nat) :
    ∀ c ∈ RpcServer.writtenOn conn s.server.output, (framer F).Whole c := by
  intro c hc
  obtain ⟨n, hmem⟩ := mem_server_writtenOn.mp hc
  obtain ⟨frame, id, -, hreplies⟩ := h.truthful.written conn n c hmem
  exact hreplies.whole hF

theorem start (nextRequestId : Nat) :
    Joined own F wire S loopOf (EndToEnd.start nextRequestId) := by
  refine ⟨⟨?_, ⟨?_, ?_, ?_, ?_⟩, ?_, ?_⟩, .start, ⟨?_, ?_⟩, fun _ _ => .start _, fun _ _ => .start _⟩
  · exact RpcChannel.steady_start F nextRequestId rfl (fun _ => ⟨rfl, Int.le_refl 0⟩) rfl
  · simp [EndToEnd.start, RpcChannel.start]
  · simp [EndToEnd.start, RpcChannel.start]
  · simp [EndToEnd.start, RpcChannel.start]
  · exact .nil
  · exact RpcChannel.known_start _ _ _
  · intro n _
    rfl
  · exact List.nodup_nil
  · simp [EndToEnd.start]

/-- What the channel writes goes into the pipes, what it finds comes out of them. -/
theorem channel (hF : F.Proto3 wire) (h : Joined own F wire S loopOf s) {l : ChannelStep}
    (hstep : s.step own F S loopOf (.channel l) = some s')
    (hwrap : s'.channel.nextRequestId ≤ 2 ^ 64) :
    Joined own F wire S loopOf s' ∧ (∀ frame, s.Handed own frame → s'.Handed own frame) ∧
      RpcChannel.Receives (s'.Handed own) l := by
  simp only [step, Option.ite_none_right_eq_some] at hstep
  obtain ⟨hsees, hstep⟩ := hstep
  obtain ⟨channel, hchannel, rfl⟩ := Option.map_eq_some_iff.mp hstep
  dsimp only at hwrap
  obtain ⟨later, hlater⟩ := RpcChannel.written_prefix_step h.sending.steady hchannel hwrap
  have hsent : ∀ conn, own conn = true →
      Piped (framer F)
        (if s.flushes later conn l then
          ((s.requests conn).write (writtenOn conn later).flatten).flush
        else (s.requests conn).write (writtenOn conn later).flatten)
        (writtenOn conn channel.env.written) (RpcServer.receivedOn conn s.server) := by
    intro conn hown
    rw [← hlater, writtenOn_append]
    have hwritten := (h.requests conn hown).write (writtenOn conn later)
    split
    · exact hwritten.of_content (Pipe.content_flush _)
    · exact hwritten
  have hdrop : channel.env.written.drop s.channel.env.written.length = later := by
    rw [← hlater, List.drop_left]
  rw [hdrop]
  by_cases hmessage : ∃ conn fs error, l = .onMessage conn fs error
  · obtain ⟨conn, fs, error, rfl⟩ := hmessage
    simp only [channelSees, Bool.and_eq_true, decide_eq_true_eq] at hsees
    obtain ⟨⟨hown, rfl⟩, -⟩ := hsees
    set items := (drain (framer F) (s.replies conn).arrived).items with hitems
    set handed := Function.update s.handed conn (s.handed conn ++ items) with hhanded
    have hmono : ∀ frame, s.Handed own frame → ∃ c, own c = true ∧ frame ∈ handed c := by
      rintro frame ⟨c, hc, hmem⟩
      refine ⟨c, hc, ?_⟩
      obtain rfl | hne := eq_or_ne c conn
      · rw [hhanded, Function.update_self]
        exact List.mem_append_left _ hmem
      · rw [hhanded, Function.update_of_ne hne]
        exact hmem
    have hreceives : RpcChannel.Receives (fun frame => ∃ c, own c = true ∧ frame ∈ handed c)
        (.onMessage conn items error) := by
      rintro conn' frames' error' heq frame hframe
      cases heq
      refine ⟨conn, hown, ?_⟩
      rw [hhanded, Function.update_self]
      exact List.mem_append_right _ hframe
    refine ⟨⟨(h.sending.mono hmono).step hF hreceives hchannel hwrap, h.truthful, h.numbered, hsent,
      fun c hc => ?_⟩, hmono, hreceives⟩
    dsimp only [channelTakes]
    obtain rfl | hne := eq_or_ne c conn
    · rw [Function.update_self, Function.update_self]
      exact Piped.drain (h.whole_replies hF c) (h.replies c hc)
    · rw [Function.update_of_ne hne, Function.update_of_ne hne]
      exact h.replies c hc
  · have hreceives : RpcChannel.Receives (s.Handed own) l := by
      rintro conn fs error rfl
      exact absurd ⟨conn, fs, error, rfl⟩ hmessage
    have htakes : ∃ closed, s.channelTakes F l = { s with closed := closed } := by
      cases l with
      | onMessage conn fs error => exact absurd ⟨conn, fs, error, rfl⟩ hmessage
      | _ => exact ⟨_, rfl⟩
    obtain ⟨closed, htakes⟩ := htakes
    rw [htakes]
    exact ⟨⟨h.sending.step hF hreceives hchannel hwrap, h.truthful, h.numbered, hsent, h.replies⟩,
      fun frame hframe => hframe, hreceives⟩

theorem wireSize_of_next {bytes : List UInt8} {frame : RpcFrame} {n : Nat}
    (h : (framer F).next bytes = .ok frame n) : frame.wireSize = n := by
  have hparse : parseFrame F bytes = .ok frame n := h
  unfold parseFrame at hparse
  repeat' split at hparse
  all_goals cases hparse
  rfl

/-- What a batch of the server decodes comes out of the pipes of the channel. -/
theorem requests_server (h : Joined own F wire S loopOf s) {l : RpcServerStep} {server : RpcServer}
    (hsees : s.serverSees own F l = true)
    (hserver : s.server.step F S loopOf l = some server) (hown : own conn = true) :
    Piped (framer F) ((s.serverTakes l).requests conn) (writtenOn conn s.channel.env.written)
      (RpcServer.receivedOn conn server) := by
  by_cases hframe : ∃ loop frame, l = .frame loop frame
  · obtain ⟨loop, frame, rfl⟩ := hframe
    obtain ⟨id, hbatch, -⟩ := Option.map_eq_some_iff.mp hserver
    have hreceived := RpcServer.receivedOn_frame conn h.truthful.tracked hbatch hserver
    have hconn : s.server.batchConn loop = s.server.conns[id]? := by
      simp [RpcServer.batchConn, hbatch]
    rw [hreceived]
    cases hget : s.server.conns[id]? with
    | none => simpa [serverTakes, hconn, hget] using h.requests conn hown
    | some c =>
      obtain rfl | hne := eq_or_ne c conn
      · simp only [serverSees, hconn, hget, Option.all_some, hown, Bool.not_true,
          Bool.false_or] at hsees
        split at hsees
        · next next n hnext =>
          obtain rfl : next = frame := by simpa using hsees
          have htake := (h.requests c hown).take (h.whole_requests c) hnext
          simpa [serverTakes, hconn, hget, wireSize_of_next hnext] using htake
        · cases hsees
      · have hsame : ¬(some c = some conn) := by simpa using hne
        simpa [serverTakes, hconn, hget, hsame, Function.update_of_ne (Ne.symm hne)] using
          h.requests conn hown
  · have hl : ∀ loop frame, l ≠ .frame loop frame :=
      fun loop frame heq => hframe ⟨loop, frame, heq⟩
    have htakes : s.serverTakes l = s := by
      cases l with
      | frame loop frame => exact absurd rfl (hl loop frame)
      | _ => rfl
    rw [htakes, RpcServer.receivedOn_step h.truthful.tracked hl hserver]
    exact h.requests conn hown

theorem server (hF : F.Proto3 wire) (h : Joined own F wire S loopOf s) {l : RpcServerStep}
    (hstep : s.step own F S loopOf (.server l) = some s') :
    Joined own F wire S loopOf s' ∧ s'.channel = s.channel ∧ s'.handed = s.handed := by
  obtain ⟨hsees, server, later, hserver, hlater, rfl⟩ := step_server h.truthful.tracked hstep
  have hrequests := fun conn (hown : own conn = true) => h.requests_server hsees hserver hown
  obtain ⟨requests, htakes⟩ := exists_serverTakes_eq s l
  rw [htakes] at hrequests ⊢
  refine ⟨⟨h.sending, h.truthful.step hF hserver, h.numbered.step hserver, hrequests,
    fun conn hown => ?_⟩, rfl, rfl⟩
  dsimp only
  rw [hlater, server_writtenOn_append]
  exact piped_outputs (h.replies conn hown) later

theorem moved (h : Joined own F wire S loopOf s) (hmoved : Moved s s') :
    Joined own F wire S loopOf s' := by
  rw [hmoved.same]
  exact ⟨h.sending, h.truthful, h.numbered,
    fun conn hown => (h.requests conn hown).of_content (hmoved.requests conn),
    fun conn hown => (h.replies conn hown).of_content (hmoved.replies conn)⟩

theorem step (hF : F.Proto3 wire) (h : Joined own F wire S loopOf s) {l : EndToEndStep}
    (hstep : s.step own F S loopOf l = some s') (hwrap : s'.channel.nextRequestId ≤ 2 ^ 64) :
    Joined own F wire S loopOf s' := by
  cases l with
  | channel l => exact (h.channel hF hstep hwrap).1
  | server l => exact (h.server hF hstep).1
  | _ => exact h.moved (moved_step (by simp) (by simp) hstep)

end Joined

theorem nextRequestId_le_step {l : EndToEndStep} (hstep : s.step own F S loopOf l = some s') :
    s.channel.nextRequestId ≤ s'.channel.nextRequestId := by
  cases l with
  | channel l =>
    simp only [step, Option.ite_none_right_eq_some] at hstep
    obtain ⟨-, hstep⟩ := hstep
    obtain ⟨channel, hchannel, rfl⟩ := Option.map_eq_some_iff.mp hstep
    exact RpcChannel.nextRequestId_le_step hchannel
  | server l =>
    simp only [step, Option.ite_none_right_eq_some] at hstep
    obtain ⟨-, hstep⟩ := hstep
    obtain ⟨server, -, rfl⟩ := Option.map_eq_some_iff.mp hstep
    obtain ⟨requests, htakes⟩ := exists_serverTakes_eq s l
    rw [htakes]
  | _ =>
    have hmoved := moved_step (by simp) (by simp) hstep
    rw [hmoved.same]

/-! ## One call -/

/-- The server has dispatched the frame with this number to a handler; it came on a connection of the
channel and has this id. -/
def Executes (own : Nat → Bool) (s : EndToEnd) (id : UInt64) (n : Nat) (frame : RpcFrame) : Prop :=
  n ∈ s.server.dispatched ∧ frame.rpcMeta.requestId = id ∧ ∃ scope conn,
    s.server.received[n]? = some (frame, scope) ∧ s.server.conns[scope]? = some conn ∧
      own conn = true

section OneCall

variable {id : UInt64} {bytes : List UInt8} {call : PendingCall} {n n' : Nat}
  {frame frame' : RpcFrame}

/-- The response of a call is that of the handler of its frame. -/
theorem Joined.response (hF : F.Proto3 wire) (h : Joined own F wire S loopOf s)
    (hresponded : RpcChannel.RespondedBy (s.Handed own) id call s.channel) {payload : List UInt8}
    (hpayload : s.channel.env.responses call.number = some payload) :
    ∃ n frame ended response, s.Executes own id n frame ∧ s.server.ended n = some ended ∧
      ended.response = some response ∧ response.serializeToString = some payload := by
  obtain ⟨reply, ⟨conn, hown, hmem⟩, htype, rfl, rfl⟩ := hresponded payload hpayload
  obtain ⟨c, hc, hmakes⟩ := (h.replies conn hown).chunk_of_mem hmem
  obtain ⟨n, hwritten⟩ := mem_server_writtenOn.mp hc
  obtain ⟨frame, scope, hget, hreplies⟩ := h.truthful.written conn n c hwritten
  obtain ⟨hid, -, hresponse⟩ := hreplies.read hF hmakes
  -- the reply was written to the connection from which the frame came
  obtain ⟨frame', scope', hget', hconn⟩ := h.truthful.flushed.conn conn n c hwritten
  rw [hget, Option.some.injEq, Prod.mk.injEq] at hget'
  obtain ⟨rfl, rfl⟩ := hget'
  obtain ⟨response, hended, hserialize⟩ := Option.bind_eq_some_iff.mp (hresponse htype)
  obtain ⟨ended, hended, hresponse⟩ := Option.bind_eq_some_iff.mp hended
  refine ⟨n, frame, ended, response, ⟨?_, hid.symm, scope, conn, hget, ?_, hown⟩, hended, hresponse,
    hserialize⟩
  · exact h.truthful.ended n (by rw [hended]; rfl)
  · rw [RpcServer.conns, List.getElem?_map]
    exact hconn

end OneCall

theorem joined_start (hF : F.Proto3 wire) {steps : List EndToEndStep} {nextRequestId : Nat}
    (hrun : (start nextRequestId).run own F S loopOf steps = some s)
    (hwrap : s.channel.nextRequestId ≤ 2 ^ 64) : Joined own F wire S loopOf s := by
  refine Transition.invariant_run (I := fun s => s.channel.nextRequestId ≤ 2 ^ 64 →
      Joined own F wire S loopOf s)
    (C := fun _ _ => True) (fun s l s' h _ hstep hwrap => ?_) (fun _ => .start nextRequestId)
    (Transition.meets_of_forall fun _ _ => trivial) hrun hwrap
  exact (h ((nextRequestId_le_step hstep).trans hwrap)).step hF hstep hwrap

/-- A call with one octet as its request. -/
def echoCall : CallArguments :=
  { RpcChannel.emptyCall with method := some ⟨[1], 0⟩, request := some ⟨1, [5], some [5]⟩ }

/-- A channel that is connected to the server. -/
def opened : EndToEnd :=
  ((start 1).run (· = 1) wireFormat RpcServer.twoServices id [.channel (.connectionUp 1)]).getD
    (start 1)

/-- Somebody else sends a request with the same id; the handlers end in turn, and the reply arrives in
two pieces. -/
def echoed : List EndToEndStep :=
  [.channel (.resume false 0 []), .flush 1, .deliverRequest 1 100, .server (.onMessage 2),
    .server (.frame 2 ⟨{ requestId := 1, serviceName := [1] }, [], 0⟩), .server (.onMessage 1),
    .server (.frame 1 ⟨{ requestId := 1, serviceName := [1], payloadSize := 1 }, [5], 16⟩),
    .server (.close 1), .server (.close 2), .server (.finishInLoop 0 (.done ⟨1, [8], some [8]⟩)),
    .server (.finishElsewhere 0 (.done ⟨1, [9], some [9]⟩)), .server (.post 0), .server (.runNext 1),
    .deliverReply 1 3, .channel (.onMessage 1 [] none), .channel (.resume false 0 []),
    .deliverReply 1 100,
    .channel (.onMessage 1 [⟨{ type := .response, requestId := 1, payloadSize := 1 }, [9], 15⟩] none),
    .channel (.resume false 0 [])]

end EndToEnd

end NebulaRpc.Rpc
