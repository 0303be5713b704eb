import NebulaRpc.Library.Histories
import NebulaRpc.Rpc.ChannelClient
import NebulaRpc.Rpc.Gate
import NebulaRpc.Rpc.Resources

/-!
# Heartbeats

The channel has at most one heartbeat timer. The log of heartbeats says of each firing of the timer
whether it wrote a HEARTBEAT and to which connection, and when a HEARTBEAT was handled and a
connection has come up. The count of missed heartbeats is the number of heartbeats at the end of the
log, all written to the connection that the channel has now.

But a connection that comes up while `FailAllPending` runs for a protocol error is shut down by the
`Disconnect` behind it. Then the channel is connected to a connection that takes no writes, and its
heartbeats are counted and not sent.
-/

namespace NebulaRpc.Rpc

/-- What is seen of heartbeats. -/
inductive Beat where
  /-- the timer has fired, and a HEARTBEAT was written to this connection -/
  | sent (conn : Nat)
  /-- the timer has fired, and none was written -/
  | silent
  /-- a HEARTBEAT was handled -/
  | answered
  | up (conn : Nat)
  deriving DecidableEq

def ChannelStep.shutsDown : ChannelStep → Bool
  | .shutdown => true
  | _ => false

def ChannelEnv.heartbeats (e : ChannelEnv) : List Nat :=
  e.timers.filterMap fun t => if t.2 = .heartbeat then some t.1 else none

namespace RpcChannel

variable {F : MetaFormat} {a : ChannelStep} {s s₀ s₁ s' : RpcChannel} {id : UInt64}

/-- The timer that fires is a heartbeat timer of a channel that still exists. -/
def fires (s : RpcChannel) (timer : Nat) : Bool :=
  s.alive && decide (s.env.timers.find? (·.1 = timer) = some (timer, .heartbeat))

/-- The firing of the timer has led from `s` to `s'`. -/
def firing (F : MetaFormat) (s : RpcChannel) (traceId : UInt64) (s' : RpcChannel) : Beat :=
  match s.connection with
  | some conn =>
    if s'.env.written = s.env.written ++
        [(conn, encode F (heartbeatMeta (.ofNat s.nextRequestId) traceId) [])] then .sent conn
    else .silent
  | none => .silent

/-- What is seen of the step from `s` to `s'`. -/
def beat (F : MetaFormat) (s : RpcChannel) (a : ChannelStep) (s' : RpcChannel) : List Beat :=
  match a with
  | .timer timer traceId => if s.fires timer then [s.firing F traceId s'] else []
  | .resume .. => if s.handling.any (·.rpcMeta.type = .heartbeat) then [.answered] else []
  | .connectionUp conn => [.up conn]
  | _ => []

/-- The connection that `OnHeartbeatTimer` force-closes in this step. -/
def closing (s : RpcChannel) : ChannelStep → Option Nat
  | .timer timer _ =>
    if s.fires timer ∧ s.connectionState = .connected ∧ kHeartbeatMaxMissed ≤ s.heartbeatMissed then
      s.connection
    else none
  | _ => none

/-- No connection is shut down while the channel is connected to it. -/
def ShutsDownLate (s : RpcChannel) (a : ChannelStep) : Prop :=
  a.shutsDown → s.connectionState ≠ .connected

/-! ## One timer -/

/-- The heartbeat timers that are set are in `heartbeat_timer_`. -/
def Beating (s : RpcChannel) : Prop := s.env.heartbeats.Sublist s.heartbeatTimer.toList

theorem Beating.of_sublist (h : Beating s) (htimers : s'.env.timers.Sublist s.env.timers)
    (hheartbeat : s'.heartbeatTimer = s.heartbeatTimer) : Beating s' := by
  unfold Beating
  rw [hheartbeat]
  exact (htimers.filterMap _).trans h

theorem Beating.of_eq (h : Beating s) (htimers : s'.env.timers = s.env.timers)
    (hheartbeat : s'.heartbeatTimer = s.heartbeatTimer) : Beating s' :=
  h.of_sublist (htimers ▸ .refl _) hheartbeat

theorem heartbeatTimer_notifyCompletion (s : RpcChannel) (number : Nat) (coroutine : Bool) :
    (s.notifyCompletion number coroutine).heartbeatTimer = s.heartbeatTimer :=
  congrArg ChannelLink.heartbeatTimer (link_notifyCompletion s number coroutine)

theorem Beating.notify (h : Beating s) {t : RpcChannel} (htimers : t.env.timers.Sublist s.env.timers)
    (hheartbeat : t.heartbeatTimer = s.heartbeatTimer) (number : Nat) (coroutine : Bool) :
    Beating (t.notifyCompletion number coroutine) := by
  apply h.of_sublist
  · rw [env_notifyCompletion]
    exact htimers
  · rw [heartbeatTimer_notifyCompletion]
    exact hheartbeat

theorem Beating.notify_of_eq (h : Beating s) {t : RpcChannel} (htimers : t.env.timers = s.env.timers)
    (hheartbeat : t.heartbeatTimer = s.heartbeatTimer) (number : Nat) (coroutine : Bool) :
    Beating (t.notifyCompletion number coroutine) :=
  h.notify (htimers ▸ .refl _) hheartbeat number coroutine

theorem Beating.finish (h : Beating s) (id : UInt64) (call : PendingCall) (ending : Ending) :
    Beating (s.finish id call ending) := by
  apply h.notify
  · have htimers := (ChannelEnv.Alike.finish (s.env.release call) call ending).timers
    rw [ChannelEnv.timers_release] at htimers
    exact htimers ▸ List.filter_sublist
  · rfl

theorem heartbeats_cancelHeartbeat (h : Beating s) : s.cancelHeartbeat.env.heartbeats = [] := by
  unfold cancelHeartbeat
  cases htimer : s.heartbeatTimer with
  | none =>
    unfold Beating at h
    rw [htimer] at h
    exact List.sublist_nil.mp h
  | some timer =>
    unfold Beating at h
    rw [htimer] at h
    rw [List.eq_nil_iff_forall_not_mem]
    intro t ht
    obtain ⟨p, hp, hbeat⟩ := List.mem_filterMap.mp ht
    obtain ⟨hmem, hne⟩ : p ∈ s.env.timers ∧ p.1 ≠ timer := by
      simpa [ChannelEnv.cancelTimer] using hp
    have hin : t ∈ s.env.heartbeats := List.mem_filterMap.mpr ⟨p, hmem, hbeat⟩
    have heq : t = timer := by simpa using h.subset hin
    split at hbeat
    · exact hne (by simpa [heq] using hbeat)
    · cases hbeat

theorem Beating.cancelHeartbeat (h : Beating s) : Beating s.cancelHeartbeat := by
  unfold Beating
  rw [heartbeats_cancelHeartbeat h]
  exact List.nil_sublist _

theorem Beating.scheduleHeartbeat (h : Beating s) : Beating s.scheduleHeartbeat := by
  have hnil := heartbeats_cancelHeartbeat h
  unfold Beating RpcChannel.scheduleHeartbeat
  simp only [ChannelEnv.setTimer, ChannelEnv.heartbeats, List.filterMap_append]
  unfold ChannelEnv.heartbeats at hnil
  rw [hnil]
  simp

theorem Beating.store (h : Beating s) (id : UInt64) (token : Int) (bytes : List UInt8)
    (call : PendingCall) : Beating (s.store id token bytes call) := by
  have hassign : Beating (s.assign id token call) := by
    unfold assign registerTimeoutTimer
    split
    · unfold Beating ChannelEnv.heartbeats
      simp only [modifyPending, ChannelEnv.setTimer, List.filterMap_append]
      simpa [Beating, ChannelEnv.heartbeats] using h
    · exact h.of_eq rfl rfl
  unfold RpcChannel.store
  dsimp only
  split
  · exact hassign.of_eq rfl rfl
  · exact hassign

theorem Beating.cause {ending : Ending} (h : Beating s) (hcause : Cause a s₀ s s₁ id ending) :
    Beating s₁ := by
  cases hcause with
  | timeout => exact h.of_sublist List.filter_sublist rfl
  | @unwritten _ token bytes stack call =>
    have hpop : Beating { s with stack := stack } := h.of_eq rfl rfl
    exact hpop.store id token bytes call
  | _ => exact h.of_eq rfl rfl

theorem Beating.hook (h : Beating s) (id : UInt64) (call : PendingCall) (bytes : List UInt8) :
    Beating ((s.emplace id call).hook id bytes) := by
  apply h.of_eq
  · have hemplace : (s.emplace id call).env = s.env := by
      obtain heq | heq := emplace_cases s id call <;> rw [heq]
    rw [← hemplace]
    unfold RpcChannel.hook
    split
    · rfl
    · split <;> rfl
  · exact congrArg ChannelLink.heartbeatTimer (link_hook s id call bytes)

theorem Beating.effect (h : Beating s) (heffect : Effect F a s₀ s s') : Beating s' := by
  cases heffect with
  | finish hcause => exact (h.cause hcause).finish _ _ _
  | skip hcause => exact h.cause hcause
  | discard hstack hfind hpending =>
    refine h.of_sublist ?_ rfl
    rw [ChannelEnv.timers_release]
    exact List.filter_sublist
  | prepare =>
    obtain ⟨n, completions, -, hstate⟩ := prepareCall_state F s _
    rw [hstate]
    exact h.of_eq rfl rfl
  | invalid | unavailable | expired =>
    apply h.notify_of_eq
    · exact (ChannelEnv.Alike.applyFailure _ _ _ _).timers
    · rfl
  | overloaded =>
    unfold rejectOverloaded
    dsimp only
    split
    · exact h.of_eq rfl rfl
    · apply h.notify_of_eq
      · exact (ChannelEnv.Alike.applyFailure _ _ _ _).timers
      · rfl
  | @insert index =>
    have hdequeue : Beating { s with functors := s.functors.eraseIdx index } := h.of_eq rfl rfl
    exact hdequeue.hook _ _ _
  | @store _ _ _ stack =>
    have hpop : Beating { s with stack := stack } := h.of_eq rfl rfl
    exact hpop.store _ _ _ _
  | @degraded id call reason stack accepted =>
    apply h.notify_of_eq
    · cases accepted
      · exact (ChannelEnv.Alike.applyFailure s.env call.controller reason .failed).timers
      · exact ChannelEnv.timers_updateController s.env (·.markCallState .completed) call.controller
    · rfl
  | @endOfFrames _ error => cases error <;> exact h.of_eq rfl rfl
  | timerIgnored => exact h.of_sublist List.filter_sublist rfl
  | scheduleHeartbeat => exact h.scheduleHeartbeat
  | @sendHeartbeat traceId =>
    refine h.of_eq ?_ (congrArg ChannelLink.heartbeatTimer (link_sendHeartbeat F s traceId))
    unfold RpcChannel.sendHeartbeat
    dsimp only
    split
    · rfl
    · split <;> rfl
  | callMethodWithoutDone =>
    refine h.of_eq ?_ rfl
    exact (ChannelEnv.Alike.applyFailure _ _ _ _).timers
  | @connectionUp conn =>
    have hbase : Beating { s with
      connection := some conn
      connectionUp := true
      connectionState := .connected
      connectionError := []
      heartbeatMissed := 0 } := h.of_eq rfl rfl
    exact hbase.scheduleHeartbeat
  | connectionDown => exact h.cancelHeartbeat.of_eq rfl rfl
  | connectionGone => exact h.cancelHeartbeat.of_eq rfl rfl
  | destroy => exact h.cancelHeartbeat.of_eq rfl rfl
  | startCancel | remoteStartCancel | resetController | setTimeout | setDeadline | setFailed =>
    exact h.of_eq (ChannelEnv.timers_updateController _ _ _) rfl
  | _ => exact h.of_eq rfl rfl

/-! ## The log -/

/-- A connection of a channel that is connected takes writes. -/
def Writable (s : RpcChannel) : Prop :=
  s.connectionState = .connected → s.connection ≠ none → s.connectionUp = true

theorem Writable.step (h : Writable s) (hlate : ShutsDownLate s a) (hstep : s.step F a = some s') :
    Writable s' := by
  have hrelinks := step_relinks hstep
  have hwritable : Writable s' ↔ (s'.link.connectionState = .connected →
      s'.link.connection ≠ none → s'.link.connectionUp = true) := Iff.rfl
  rw [hwritable]
  generalize s'.link = l at hrelinks
  cases hrelinks with
  | protocolError => exact fun h => by cases h
  | connectionUp => exact fun _ _ => rfl
  | connectionDown hconnection hstate => exact fun h => absurd h hstate
  | shutdown => exact fun hstate => absurd hstate (hlate rfl)
  | destroy => exact fun _ h => absurd rfl h
  | _ => exact h

/-- The heartbeats that are missed are the last ones in the log, and they were written to the
connection of the channel. -/
def Counted (log : List Beat) (s : RpcChannel) : Prop :=
  ∀ conn ∈ s.connection, ∃ older, log = older ++ List.replicate s.heartbeatMissed (.sent conn)

theorem counted_of_zero {log : List Beat} (h : s.heartbeatMissed = 0) : Counted log s := by
  intro conn _
  exact ⟨log, by simp [h]⟩

theorem fires_iff {timer : Nat} : s.fires timer = true ↔ s.beats timer := by
  simp [fires, beats]

/-- A step that shows nothing does not count. -/
theorem Counted.quiet {log : List Beat} (h : Counted log s) (hstep : s.step F a = some s')
    (hbeat : s.beat F a s' = []) : Counted log s' := by
  have hrelinks := step_relinks hstep
  have hzero : s'.link.heartbeatMissed = 0 → Counted log s' := counted_of_zero
  have hkeep : (∀ conn, s'.link.connection = some conn → s.connection = some conn) →
      s'.link.heartbeatMissed = s.heartbeatMissed → Counted log s' := by
    intro hconnection hmissed conn hconn
    obtain ⟨older, hlog⟩ := h conn (hconnection conn hconn)
    exact ⟨older, by rw [hlog, ← hmissed]; rfl⟩
  generalize s'.link = l at hrelinks hkeep hzero
  cases hrelinks with
  | heartbeatFrame | connectionUp | idle | lost => exact hzero rfl
  | probed hbeats =>
    simp [beat, fires_iff.mpr hbeats] at hbeat
  | @connectionDown conn _ connection _ _ hconnection =>
    refine hkeep (fun conn' hconn' => ?_) rfl
    split at hconnection
    · cases hconnection
      cases hconn'
    · cases hconnection
      exact hconn'
  | destroy => exact hkeep (fun _ h => by cases h) rfl
  | _ => exact hkeep (fun _ h => h) rfl

/-- A heartbeat fits into a frame. -/
def ProbesFit (F : MetaFormat) : Prop :=
  ∀ requestId traceId, encode F (heartbeatMeta requestId traceId) [] ≠ []

theorem sendHeartbeat_eq (hF : ProbesFit F) {conn : Nat} (hconnection : s.connection = some conn)
    (hup : s.connectionUp = true) (traceId : UInt64) :
    (s.sendHeartbeat F traceId).env.written = s.env.written ++
      [(conn, encode F (heartbeatMeta (.ofNat s.nextRequestId) traceId) [])] := by
  have hne := hF (.ofNat s.nextRequestId) traceId
  unfold heartbeatMeta at hne ⊢
  simp only [sendHeartbeat, hconnection, hup]
  rw [if_pos ⟨hne, trivial⟩]

/-- The timer has fired. -/
theorem Counted.fire {log : List Beat} (hF : ProbesFit F) (h : Counted log s)
    (hwritable : Writable s) {timer : Nat} (traceId : UInt64)
    (hstep : s.step F (.timer timer traceId) = some s') (hfires : s.fires timer = true) :
    Counted (log ++ [s.firing F traceId s']) s' := by
  obtain ⟨halive, htimer⟩ := fires_iff.mp hfires
  simp only [step, Option.ite_none_right_eq_some, htimer, Option.map_some, Option.some.injEq]
    at hstep
  obtain ⟨-, rfl⟩ := hstep
  rw [if_pos halive, fire, onHeartbeatTimer]
  split
  · exact counted_of_zero rfl
  next hconnected =>
  rw [not_or, not_not] at hconnected
  split
  · exact counted_of_zero rfl
  · obtain ⟨conn, hconnection⟩ := Option.ne_none_iff_exists'.mp hconnected.2
    have hup := hwritable hconnected.1 hconnected.2
    set t : RpcChannel := { s with
      env := s.env.cancelTimer (some timer), heartbeatMissed := s.heartbeatMissed + 1 } with ht
    have hsent : s.firing F traceId ((t.sendHeartbeat F traceId).push .forceClose) = .sent conn := by
      have hconnection' : s.connection = some conn := hconnection
      unfold firing
      rw [hconnection']
      exact if_pos (sendHeartbeat_eq (s := t) hF hconnection hup traceId)
    rw [hsent]
    intro conn' hconn'
    have hlink := link_sendHeartbeat F t traceId
    have hsame : conn' ∈ s.connection := by
      have hconn₁ : (t.sendHeartbeat F traceId).connection = t.connection :=
        congrArg ChannelLink.connection hlink
      exact hconn₁ ▸ hconn'
    obtain rfl : conn = conn' := Option.some.inj (hconnection.symm.trans hsame)
    obtain ⟨older, hlog⟩ := h conn hsame
    have hmissed : (t.sendHeartbeat F traceId).heartbeatMissed = s.heartbeatMissed + 1 :=
      congrArg ChannelLink.heartbeatMissed hlink
    refine ⟨older, ?_⟩
    rw [hlog, List.append_assoc, ← List.replicate_succ']
    rw [show ((t.sendHeartbeat F traceId).push .forceClose).heartbeatMissed =
      s.heartbeatMissed + 1 from hmissed]

/-- A HEARTBEAT is handled. -/
theorem heartbeatMissed_of_handling {accepted : Bool} {index : Nat} {order : List UInt64}
    (hstep : s.step F (.resume accepted index order) = some s')
    (hhandling : s.handling.any (·.rpcMeta.type = .heartbeat) = true) : s'.heartbeatMissed = 0 := by
  unfold handling at hhandling
  split at hhandling
  · next conn frame frames error stack hstack =>
    have htype : frame.rpcMeta.type = .heartbeat := by simpa using hhandling
    simp only [step, resume, hstack, handleFrame, htype, if_true] at hstep
    cases hstep
    rfl
  · cases hhandling

theorem Counted.step {log : List Beat} (hF : ProbesFit F) (h : Counted log s)
    (hwritable : Writable s) (hstep : s.step F a = some s') : Counted (log ++ s.beat F a s') s' := by
  have hquiet : s.beat F a s' = [] → Counted (log ++ s.beat F a s') s' := by
    intro hbeat
    rw [hbeat, List.append_nil]
    exact h.quiet hstep hbeat
  cases a with
  | timer timer traceId =>
    cases hfires : s.fires timer with
    | true =>
      simp only [beat, hfires, if_true]
      exact h.fire hF hwritable traceId hstep hfires
    | false => exact hquiet (by simp [beat, hfires])
  | resume accepted index order =>
    cases hhandling : s.handling.any (·.rpcMeta.type = .heartbeat) with
    | true => exact counted_of_zero (heartbeatMissed_of_handling hstep hhandling)
    | false => exact hquiet (by simp [beat, hhandling])
  | connectionUp conn =>
    simp only [RpcChannel.step, Option.ite_none_right_eq_some, Option.some.injEq] at hstep
    obtain ⟨-, rfl⟩ := hstep
    exact counted_of_zero rfl
  | _ => exact hquiet rfl

theorem Counted.closing {log : List Beat} (h : Counted log s) {conn : Nat}
    (hclosing : s.closing a = some conn) :
    ∃ older, log = older ++ List.replicate kHeartbeatMaxMissed (.sent conn) := by
  unfold RpcChannel.closing at hclosing
  split at hclosing
  · split at hclosing
    · next hlost =>
      obtain ⟨older, hlog⟩ := h conn hclosing
      refine ⟨older ++ List.replicate (s.heartbeatMissed - kHeartbeatMaxMissed) (.sent conn), ?_⟩
      rw [List.append_assoc, ← List.replicate_add, Nat.sub_add_cancel hlost.2.2]
      exact hlog
    · cases hclosing
  · cases hclosing

theorem probesFit {wire : RpcMeta → List UInt8} (hF : F.Lawful wire) (hsize : Compact wire) :
    ProbesFit F := by
  intro requestId traceId hnil
  rw [encode_eq_nil_iff hF] at hnil
  have hlength := hsize ((heartbeatMeta requestId traceId).setPayloadSize 0)
  simp only [heartbeatMeta, RpcMeta.setPayloadSize, List.length_nil] at hlength
  simp only [bodySize, heartbeatMeta, RpcMeta.setPayloadSize, List.length_nil, kMaxFrameSize] at hnil
  omega

/-- What a channel keeps as long as no connection is shut down while it is connected. -/
structure Watchful (log : List Beat) (s : RpcChannel) : Prop where
  beating : Beating s
  writable : Writable s
  counted : Counted log s

theorem Watchful.step {log : List Beat} (hF : ProbesFit F) (h : Watchful log s)
    (hlate : ShutsDownLate s a) (hstep : s.step F a = some s') :
    Watchful (log ++ s.beat F a s') s' :=
  ⟨invariant_step h.beating (fun h heffect => h.effect heffect) hstep, h.writable.step hlate hstep,
    h.counted.step hF h.writable hstep⟩

theorem Watchful.start (nextRequestId : Nat) (e : ChannelEnv) (htimers : e.heartbeats = []) :
    Watchful [] (start nextRequestId e) := by
  refine ⟨?_, fun h => ?_, counted_of_zero rfl⟩
  · unfold Beating
    exact htimers ▸ List.nil_sublist _
  · cases h

end RpcChannel

/-! ## Runs of the channel and its client -/

namespace ChannelClient

open Net (ReconnectPolicy)

/-- A connection has come up, if it has. -/
def ups : Option (Nat × Bool) → List Beat
  | some (conn, true) => [.up conn]
  | _ => []

/-- What is seen of the step from `s` to `s'`. -/
def beat (F : MetaFormat) (s : ChannelClient) (l : ChannelClientStep) (s' : ChannelClient) :
    List Beat :=
  match l with
  | .start outcome => ups (entered s.client s'.client (.connect outcome))
  | .channel a => s.channel.beat F a s'.channel
  | .client k _ => ups (entered s.client s'.client k)

/-- The log of a run. -/
def beatLog (F : MetaFormat) (s : ChannelClient) (steps : List ChannelClientStep) : List Beat :=
  History.recorded (step F) (beat F) s steps

/-- What holds of the heartbeats behind a run from `s₀` to `s`. -/
structure Watched (F : MetaFormat) (s₀ : ChannelClient) (steps : List ChannelClientStep)
    (s : ChannelClient) : Prop where
  single : s.channel.env.heartbeats.length ≤ 1
  silent : ∀ a conn, s.channel.closing a = some conn →
    ∃ older, beatLog F s₀ steps =
      older ++ List.replicate RpcChannel.kHeartbeatMaxMissed (.sent conn)

/-- `Disconnect` does not find the channel connected again. -/
def DisconnectsOffline (s : ChannelClient) : ChannelClientStep → Prop
  | .channel a => s.channel.disconnects a = true → s.channel.connectionState ≠ .connected
  | _ => True

instance (s : ChannelClient) : (l : ChannelClientStep) → Decidable (DisconnectsOffline s l)
  | .channel _ => inferInstanceAs (Decidable (_ → _))
  | .start _ | .client .. => .isTrue trivial

variable {F : MetaFormat} {wire : RpcMeta → List UInt8} {s s' : ChannelClient}
  {l : ChannelClientStep} {log : List Beat} {c c' : RpcChannel}

theorem Called.watchful {e : Option (Nat × Bool)} (hF : RpcChannel.ProbesFit F)
    (h : c.Watchful log) (hcalled : Called F c e c') : c'.Watchful (log ++ ups e) := by
  cases hcalled with
  | none => simpa [ups] using h
  | up hstep => exact h.step hF (fun h => by cases h) hstep
  | down hstep => exact h.step hF (fun h => by cases h) hstep

theorem watchful_step (hF : RpcChannel.ProbesFit F) (h : s.channel.Watchful log)
    (hoffline : DisconnectsOffline s l) (hstep : s.step F l = some s') :
    s'.channel.Watchful (log ++ s.beat F l s') := by
  cases moves_of_step hstep with
  | @channel a channel hl ha hchannel =>
    subst hl
    refine h.step hF (fun hshuts => ?_) hchannel
    cases a with
    | shutdown => cases ha
    | _ => cases hshuts
  | @disconnect a channel channel' hl ha hchannel hdisconnects hshutdown =>
    subst hl
    have hstate := hoffline hdisconnects
    cases a with
    | resume accepted index order =>
      have hreturned := h.step hF (fun hshuts => by cases hshuts) hchannel
      have hsame : channel.connectionState = s.channel.connectionState := by
        simp only [RpcChannel.disconnects] at hdisconnects
        split at hdisconnects
        · next hstack =>
          simp only [RpcChannel.step, RpcChannel.resume, hstack, Option.some.injEq] at hchannel
          rw [← hchannel]
        · cases hdisconnects
      have hshut := hreturned.step hF (fun _ => hsame ▸ hstate) hshutdown
      simpa [beat, RpcChannel.beat] using hshut
    | _ => cases hdisconnects
  | client hl _ _ hcalled =>
    subst hl
    exact hcalled.watchful hF h
  | start hl _ hcalled =>
    subst hl
    exact hcalled.watchful hF h

/-- Along every run in which `Disconnect` does not find the channel connected again, there is one
heartbeat timer at most, and a connection that is force-closed has been sent the last heartbeats
without an answer. -/
theorem heartbeat_closes_silent (hF : F.Lawful wire) (hsize : Compact wire) (ip : String)
    (policy : ReconnectPolicy) (nextRequestId : Nat) (e : ChannelEnv) (htimers : e.heartbeats = [])
    (steps : List ChannelClientStep) (s : ChannelClient)
    (hmeets : Transition.Meets (step F) DisconnectsOffline (initial ip policy nextRequestId e) steps)
    (hrun : (initial ip policy nextRequestId e).run F steps = some s) :
    Watched F (initial ip policy nextRequestId e) steps s := by
  have hkeep : ∀ (log : List Beat) (s : ChannelClient) (l : ChannelClientStep) (s' : ChannelClient),
      s.channel.Watchful log → DisconnectsOffline s l → s.step F l = some s' →
        s'.channel.Watchful (log ++ s.beat F l s') :=
    fun log s l s' h hoffline hstep => watchful_step (RpcChannel.probesFit hF hsize) h hoffline hstep
  have hstart : (initial ip policy nextRequestId e).channel.Watchful [] :=
    RpcChannel.Watchful.start nextRequestId e htimers
  have hwatchful := History.invariant_recorded hkeep hstart hmeets hrun
  refine ⟨hwatchful.beating.length_le.trans ?_, fun a conn hclosing => ?_⟩
  · cases s.channel.heartbeatTimer <;> simp
  · exact hwatchful.counted.closing hclosing

/-- Three heartbeats are not answered. -/
def unanswered : List ChannelClientStep :=
  [.start .established, .client (.resume .inProgress) [], .channel (.timer 0 0),
    .channel (.resume false 0 []), .channel (.timer 1 0), .channel (.resume false 0 []),
    .channel (.timer 2 0), .channel (.resume false 0 [])]

theorem heartbeat_closes_silent_unanswered :
    ∃ s, (initial "127.0.0.1" {} 1 {}).run wireFormat unanswered = some s ∧
      s.channel.closing (.timer 3 0) = some 1 ∧
      Watched wireFormat (initial "127.0.0.1" {} 1 {}) unanswered s := by
  have hend : ((initial "127.0.0.1" {} 1 {}).run wireFormat unanswered).map
      (·.channel.closing (.timer 3 0)) = some (some 1) := by
    decide +kernel
  obtain ⟨s, hrun, hclosing⟩ := Option.map_eq_some_iff.mp hend
  have hmeets : Transition.Meets (step wireFormat) DisconnectsOffline
      (initial "127.0.0.1" {} 1 {}) unanswered := by
    decide +kernel
  exact ⟨s, hrun, hclosing, heartbeat_closes_silent wireFormat_lawful compact_serialize "127.0.0.1"
    {} 1 {} rfl unanswered s hmeets hrun⟩

/-- The callback flushes the connection, which is found closed and comes back at once; then
`Disconnect` shuts the new one down, and three heartbeats are counted that it does not take. -/
def unsentProbes : List ChannelClientStep :=
  brokenPeer ++ [.client (.close 1) [], .client (.resume .established) [],
    .client (.resume .inProgress) [], .client (.resume .inProgress) [], .channel (.resume false 0 []),
    .channel (.resume false 0 []), .channel (.resume false 0 []), .channel (.timer 1 0),
    .channel (.resume false 0 []), .channel (.timer 2 0), .channel (.resume false 0 []),
    .channel (.timer 3 0), .channel (.resume false 0 [])]

theorem closes_unprobed :
    ∃ s, (initial "127.0.0.1" {} 1 {}).run wireFormat unsentProbes = some s ∧
      s.channel.closing (.timer 4 0) = some 2 ∧
      ¬Watched wireFormat (initial "127.0.0.1" {} 1 {}) unsentProbes s := by
  have hend : ((initial "127.0.0.1" {} 1 {}).run wireFormat unsentProbes).map
      (·.channel.closing (.timer 4 0)) = some (some 2) := by
    decide +kernel
  have hlog : beatLog wireFormat (initial "127.0.0.1" {} 1 {}) unsentProbes =
      [.up 1, .up 2, .silent, .silent, .silent] := by
    decide +kernel
  obtain ⟨s, hrun, hclosing⟩ := Option.map_eq_some_iff.mp hend
  refine ⟨s, hrun, hclosing, fun hwatched => ?_⟩
  obtain ⟨older, hsent⟩ := hwatched.silent _ _ hclosing
  have hlast := congrArg List.getLast? (hlog.symm.trans hsent)
  simp [RpcChannel.kHeartbeatMaxMissed, List.replicate_succ] at hlast

end ChannelClient

end NebulaRpc.Rpc
