import NebulaRpc.Library.Pipes
import NebulaRpc.Rpc.Bookings
import NebulaRpc.Rpc.Rejection
import NebulaRpc.Rpc.Replies

/-!
# The frames of a call

A channel writes whole frames, and of the frames with one id it writes at most one. The response of a
call is the payload of a RESPONSE frame with the id of that call.
-/

namespace NebulaRpc.Rpc

open Framing
open Relation (ReflTransGen)

/-! ## Whole frames -/

variable {F : MetaFormat} {wire : RpcMeta → List UInt8}

theorem makes_frameBytes (hF : F.Proto3 wire) {m : RpcMeta} {payload : List UInt8}
    (htext : ValidUtf8 m.errorText) (hsize : ¬bodySize wire m payload > kMaxFrameSize) :
    (framer F).Makes (frameBytes wire m payload)
      ⟨m.setPayloadSize payload.length, payload, 4 + bodySize wire m payload⟩ := by
  have hparse := parseFrame_frameBytes hF.lawful htext hsize []
  rw [List.append_nil] at hparse
  rw [Framer.Makes, length_frameBytes]
  exact hparse

/-- A frame whose text is not UTF-8 is rejected as a whole. -/
theorem whole_frameBytes (hF : F.Proto3 wire) {m : RpcMeta} {payload : List UInt8}
    (hsize : ¬bodySize wire m payload > kMaxFrameSize) :
    (framer F).Whole (frameBytes wire m payload) := by
  by_cases htext : ValidUtf8 m.errorText
  · exact .inl ⟨_, makes_frameBytes hF htext hsize⟩
  · have hparse := parseFrame_frameBytes_of_invalid hF.rejectsInvalidUtf8 htext hsize []
    rw [List.append_nil] at hparse
    exact .inr ⟨_, hparse⟩

/-- The octets are the frame of a request with this id, and nothing else. -/
def Requests (F : MetaFormat) (id : UInt64) (bytes : List UInt8) : Prop :=
  ∃ frame, (framer F).Makes bytes frame ∧ frame.rpcMeta.type = .request ∧ frame.rpcMeta.requestId = id

theorem Requests.carries {id : UInt64} {bytes : List UInt8} (h : Requests F id bytes) :
    RpcChannel.Carries F id bytes := by
  obtain ⟨frame, hmakes, htype, hid⟩ := h
  exact ⟨frame, _, hmakes, htype, hid⟩

theorem Requests.ne_nil {id : UInt64} {bytes : List UInt8} (h : Requests F id bytes) : bytes ≠ [] := by
  obtain ⟨frame, hmakes, -⟩ := h
  rintro rfl
  exact absurd ((framer F).size_pos hmakes) (by simp)

theorem bodySize_heartbeatMeta_le (hF : F.Proto3 wire) (requestId traceId : UInt64) :
    bodySize wire (heartbeatMeta requestId traceId) [] ≤ kMaxFrameSize := by
  have hlength := hF.compact ((heartbeatMeta requestId traceId).setPayloadSize 0)
  simp only [heartbeatMeta, RpcMeta.setPayloadSize, List.length_nil] at hlength
  simp only [bodySize, heartbeatMeta, RpcMeta.setPayloadSize, List.length_nil, kMaxFrameSize]
  omega

theorem makes_heartbeat (hF : F.Proto3 wire) (requestId traceId : UInt64) : ∃ frame,
    (framer F).Makes (encode F (heartbeatMeta requestId traceId) []) frame ∧
      frame.rpcMeta.type = .heartbeat := by
  have hsize : ¬bodySize wire (heartbeatMeta requestId traceId) [] > kMaxFrameSize :=
    Nat.not_lt.mpr (bodySize_heartbeatMeta_le hF requestId traceId)
  rw [encode_eq hF.lawful.serializes, if_neg hsize]
  exact ⟨_, makes_frameBytes hF RpcChannel.validUtf8_nil hsize, rfl⟩

/-! ## Responses are written by frames -/

namespace ChannelEnv

@[simp]
theorem responses_updateController (e : ChannelEnv) (f : RpcController → RpcController)
    (controller : Option Nat) : (e.updateController f controller).responses = e.responses := by
  cases controller <;> rfl

@[simp]
theorem responses_applyFailure (e : ChannelEnv) (controller : Option Nat) (reason : List UInt8)
    (state : RpcCallState) : (e.applyFailure controller reason state).responses = e.responses := by
  simp [applyFailure]

@[simp]
theorem responses_record (e : ChannelEnv) (call : PendingCall) (state : RpcCallState) :
    (e.record call state).responses = e.responses := rfl

@[simp]
theorem responses_setRemoteErrorCode (e : ChannelEnv) (call : PendingCall) (code : Int32) :
    (e.setRemoteErrorCode call code).responses = e.responses := by
  unfold setRemoteErrorCode
  split <;> rfl

@[simp]
theorem responses_cancelTimer (e : ChannelEnv) (timer : Option Nat) :
    (e.cancelTimer timer).responses = e.responses := by
  cases timer <;> rfl

@[simp]
theorem responses_setTimer (e : ChannelEnv) (timer : ChannelTimer) :
    (e.setTimer timer).2.responses = e.responses := rfl

@[simp]
theorem responses_release (e : ChannelEnv) (call : PendingCall) :
    (e.release call).responses = e.responses := by
  unfold release
  dsimp only
  split <;> simp

/-- The end of a call writes its response when it is a RESPONSE that parses. -/
theorem responses_finish (e : ChannelEnv) (call : PendingCall) (ending : Ending) :
    (e.finish call ending).responses = e.responses ∨ ∃ frame, ending = .frame frame ∧
      frame.rpcMeta.type = .response ∧
        (e.finish call ending).responses =
          Function.update e.responses call.number (some frame.payload) := by
  cases ending with
  | failure | cancel => exact .inl (by simp [finish])
  | frame frame =>
    simp only [finish, applyFrame]
    split
    · simp
    · split
      · simp
      · next htype =>
        split
        · exact .inr ⟨frame, rfl, not_not.mp htype, by simp⟩
        · simp

end ChannelEnv

namespace RpcChannel

variable {a : ChannelStep} {s₀ s s₁ s₂ s' : RpcChannel} {id : UInt64} {bytes : List UInt8}
  {call : PendingCall}

theorem responses_store (s : RpcChannel) (id : UInt64) (token : Int) (bytes : List UInt8)
    (call : PendingCall) : (s.store id token bytes call).env.responses = s.env.responses := by
  have hassign : (s.assign id token call).env.responses = s.env.responses := by
    unfold assign registerTimeoutTimer
    split <;> rfl
  unfold store
  dsimp only
  split
  · exact hassign
  · exact hassign

theorem responses_cause {ending : Ending} (hcause : Cause a s₀ s s₁ id ending) :
    s₁.env.responses = s.env.responses := by
  cases hcause with
  | unwritten => exact responses_store _ _ _ _ _
  | timeout => exact ChannelEnv.responses_cancelTimer _ _
  | _ => rfl

theorem responses_hook (s : RpcChannel) (id : UInt64) (bytes : List UInt8) :
    (s.hook id bytes).env.responses = s.env.responses := by
  unfold hook
  split
  · rfl
  · split <;> rfl

/-- A response is only written when a RESPONSE frame is handled, for the pending call with the id of
that frame. -/
theorem responses_effect (heffect : Effect F a s₀ s s') :
    s'.env.responses = s.env.responses ∨
      ∃ conn frame frames error stack, s.stack = .onMessage conn (frame :: frames) error :: stack ∧
        frame.rpcMeta.type = .response ∧ ∃ call, (frame.rpcMeta.requestId, call) ∈ s.pendingCalls ∧
          s'.env.responses = Function.update s.env.responses call.number (some frame.payload) := by
  cases heffect with
  | @finish s₁ id call ending hcause hfind hpending =>
    have hcaused := responses_cause hcause
    have hfinish := (s₁.env.release call).responses_finish call ending
    have henv : (s₁.finish id call ending).env = (s₁.env.release call).finish call ending :=
      env_notifyCompletion _ _ _
    rw [henv]
    rw [ChannelEnv.responses_release, hcaused] at hfinish
    obtain hsame | ⟨frame, rfl, htype, hupdate⟩ := hfinish
    · exact .inl hsame
    · cases hcause with
      | frame hfirst ha hstack =>
        exact .inr ⟨_, _, _, _, _, hstack, htype, call, find_eq_some hfind, hupdate⟩
  | skip hcause => exact .inl (responses_cause hcause)
  | discard => exact .inl (ChannelEnv.responses_release _ _)
  | @prepare arguments =>
    obtain ⟨n, completions, -, hstate⟩ := prepareCall_state F s arguments
    exact .inl (by rw [hstate])
  | invalid | unavailable | expired =>
    refine .inl ?_
    simp [completeInvalid, rejectUnavailable, reject, env_notifyCompletion]
  | overloaded =>
    refine .inl ?_
    unfold rejectOverloaded
    dsimp only
    split
    · rfl
    · simp [env_notifyCompletion]
  | insert =>
    refine .inl ?_
    rw [responses_hook]
    unfold emplace
    split <;> rfl
  | store => exact .inl (responses_store _ _ _ _ _)
  | degraded =>
    refine .inl ?_
    unfold RpcChannel.degraded
    rw [env_notifyCompletion]
    dsimp only
    split <;> simp
  | @endOfFrames conn error => cases error <;> exact .inl rfl
  | sendHeartbeat =>
    refine .inl ?_
    unfold sendHeartbeat
    dsimp only
    split
    · rfl
    · split <;> rfl
  | timerIgnored | scheduleHeartbeat | callMethodWithoutDone | startCancel | remoteStartCancel
  | resetController | setTimeout | setDeadline | setFailed | connectionUp | connectionDown
  | connectionGone | destroy =>
    refine .inl ?_
    simp [scheduleHeartbeat, cancelHeartbeat, updateController, connectionEstablished, destroy, push]
  | _ => exact .inl rfl

/-! ## What is written -/

theorem requests_prepareCall (hF : F.Proto3 wire) {x : CallArguments}
    (h : (s.prepareCall F x).1 = .registerAndSend id bytes call) : Requests F id bytes := by
  obtain ⟨method, controller, request, response, coroutine, traceId⟩ := x
  cases method with
  | none => cases h
  | some method =>
    cases request with
    | none => cases h
    | some request =>
      cases response with
      | none => cases h
      | some parses =>
        simp only [prepareCall] at h
        split at h
        · cases h
        · next hne =>
          cases h
          obtain ⟨heq, hsize⟩ := encodeMessage_eq hF.lawful hne
          rw [heq]
          exact ⟨_, makes_frameBytes hF validUtf8_nil hsize, rfl, rfl⟩

/-- Whole requests and heartbeats are written, and no two of them carry the same id. -/
structure Framed (F : MetaFormat) (s : RpcChannel) : Prop where
  queued : ∀ id bytes call, .registerAndSend id bytes call ∈ s.functors → Requests F id bytes
  waiting : ∀ id token bytes, .registered id token bytes ∈ s.stack → Requests F id bytes
  written : ∀ w ∈ s.env.written, ∃ frame, (framer F).Makes w.2 frame ∧
    (frame.rpcMeta.type = .request ∨ frame.rpcMeta.type = .heartbeat)
  distinct : s.env.written.Pairwise fun w w' =>
    ∀ id, Carries F id w.2 → ¬Carries F id w'.2

theorem Framed.passage (hF : F.Proto3 wire) (h : Framed F s) (hunsent : Unsent F [] s)
    (hpassage : Passage F s s') : Framed F s' := by
  cases hpassage with
  | flow hflow =>
    refine ⟨fun id bytes call hmem => ?_, fun id token bytes hmem => ?_, ?_, ?_⟩
    · obtain hold | hnone := hflow.functors _ hmem
      · exact h.queued id bytes call hold
      · cases hnone
    · obtain hold | hnone := hflow.stack _ hmem
      · exact h.waiting id token bytes hold
      · cases hnone
    · rw [hflow.written]
      exact h.written
    · rw [hflow.written]
      exact h.distinct
  | prepare x =>
    obtain ⟨n, completions, -, hstate⟩ := prepareCall_state F s x
    have hwritten : (s.prepareCall F x).2.env.written = s.env.written := by rw [hstate]
    have hstack : (s.prepareCall F x).2.stack = s.stack := by rw [hstate]
    refine ⟨fun id bytes call hmem => ?_, fun id token bytes hmem => ?_, ?_, ?_⟩
    · obtain hold | hnew := List.mem_append.mp hmem
      · exact h.queued id bytes call hold
      · exact requests_prepareCall hF (List.mem_singleton.mp hnew).symm
    · exact h.waiting id token bytes (hstack ▸ hmem)
    · dsimp only
      rw [hwritten]
      exact h.written
    · dsimp only
      rw [hwritten]
      exact h.distinct
  | @register index id bytes call token e hfunctor hwritten =>
    refine ⟨fun id' bytes' call' hmem => ?_, fun id' token' bytes' hmem => ?_, ?_, ?_⟩
    · exact h.queued id' bytes' call' (List.mem_of_mem_eraseIdx hmem)
    · obtain heq | hmem := List.mem_cons.mp hmem
      · cases heq
        exact h.queued _ _ _ (List.mem_of_getElem? hfunctor)
      · exact h.waiting id' token' bytes' hmem
    · dsimp only
      rw [hwritten]
      exact h.written
    · dsimp only
      rw [hwritten]
      exact h.distinct
  | @degrade index id bytes call reason e count hfunctor hwritten =>
    refine ⟨fun id' bytes' call' hmem => ?_, fun id' token' bytes' hmem => ?_, ?_, ?_⟩
    · exact h.queued id' bytes' call' (List.mem_of_mem_eraseIdx hmem)
    · exact h.waiting id' token' bytes' (List.mem_of_ne_of_mem (by simp) hmem)
    · dsimp only
      rw [hwritten]
      exact h.written
    · dsimp only
      rw [hwritten]
      exact h.distinct
  | @write id token bytes stack call conn e hstack hwritten =>
    have hrequests := h.waiting id token bytes (hstack ▸ List.mem_cons_self)
    have hmem : id ∈ [] ++ s.unsentKeys := by simp [unsentKeys, hstack, ChannelFrame.unsentKey]
    refine ⟨h.queued, fun id' token' bytes' hmem' => ?_, fun w hw => ?_, ?_⟩
    · exact h.waiting id' token' bytes' (hstack ▸ List.mem_cons_of_mem _ hmem')
    · obtain hw | rfl := by simpa [hwritten] using hw
      · exact h.written w hw
      · obtain ⟨frame, hmakes, htype, -⟩ := hrequests
        exact ⟨frame, hmakes, .inl htype⟩
    · dsimp only
      rw [hwritten, List.pairwise_append]
      refine ⟨h.distinct, List.pairwise_singleton _ _, fun w hw w' hw' id' hold hnew => ?_⟩
      -- no frame of a call that is about to be written has been written
      obtain rfl := List.mem_singleton.mp hw'
      obtain rfl := hnew.unique hrequests.carries
      exact (hunsent.written w hw _ hold).2 hmem
  | @heartbeat conn requestId traceId =>
    refine ⟨h.queued, h.waiting, fun w hw => ?_, ?_⟩
    · obtain hw | rfl := by simpa using hw
      · exact h.written w hw
      · obtain ⟨frame, hmakes, htype⟩ := makes_heartbeat hF requestId traceId
        exact ⟨frame, hmakes, .inr htype⟩
    · dsimp only
      rw [List.pairwise_append]
      refine ⟨h.distinct, List.pairwise_singleton _ _, fun w hw w' hw' id' hold hnew => ?_⟩
      obtain rfl := List.mem_singleton.mp hw'
      exact not_carries_heartbeat hF.lawful _ _ hnew

/-- The frame with the id of this call has these octets, wherever it is. -/
structure Marked (F : MetaFormat) (id : UInt64) (bytes : List UInt8) (s : RpcChannel) : Prop where
  lt : id.toNat < s.nextRequestId
  queued : ∀ bytes' call', .registerAndSend id bytes' call' ∈ s.functors → bytes' = bytes
  waiting : ∀ token bytes', .registered id token bytes' ∈ s.stack → bytes' = bytes
  written : ∀ w ∈ s.env.written, Carries F id w.2 → w.2 = bytes

namespace Marked

theorem prepare (h : Marked F id bytes s) (x : CallArguments)
    (hwrap : (s.prepareCall F x).2.nextRequestId ≤ 2 ^ 64) : Marked F id bytes
      { (s.prepareCall F x).2 with
        functors := s.functors ++ [(s.prepareCall F x).1] } := by
  obtain ⟨n, completions, hn, hstate⟩ := prepareCall_state F s x
  have hwritten : (s.prepareCall F x).2.env.written = s.env.written := by rw [hstate]
  have hstack : (s.prepareCall F x).2.stack = s.stack := by rw [hstate]
  refine ⟨h.lt.trans_le (nextRequestId_le_prepareCall F s x), fun bytes' call' hmem => ?_,
    fun token bytes' hmem => h.waiting token bytes' (hstack ▸ hmem),
    fun w hw => h.written w (hwritten ▸ hw)⟩
  obtain hold | hnew := List.mem_append.mp hmem
  · exact h.queued bytes' call' hold
  · -- the id of the new call is a new one
    rw [List.mem_singleton] at hnew
    obtain ⟨reason, heq⟩ | ⟨bytes'', call'', heq, hnext, -⟩ := prepareCall_functor F s x
    · cases hnew.trans heq
    · cases hnew.trans heq
      have hlt := h.lt
      rw [hnext] at hwrap
      rw [UInt64.toNat_ofNat', Nat.mod_eq_of_lt hwrap] at hlt
      exact absurd hlt (Nat.lt_irrefl _)

theorem passage (hF : F.Proto3 wire) (h : Marked F id bytes s) (hunsent : Unsent F [] s)
    (hwrap : s'.nextRequestId ≤ 2 ^ 64) (hpassage : Passage F s s') :
    Marked F id bytes s' := by
  cases hpassage with
  | flow hflow =>
    refine ⟨h.lt.trans_le hflow.next, fun bytes' call' hmem => ?_, fun token bytes' hmem => ?_,
      fun w hw => h.written w (hflow.written ▸ hw)⟩
    · obtain hold | hnone := hflow.functors _ hmem
      · exact h.queued bytes' call' hold
      · cases hnone
    · obtain hold | hnone := hflow.stack _ hmem
      · exact h.waiting token bytes' hold
      · cases hnone
  | prepare x => exact h.prepare x hwrap
  | @register index id' bytes' call' token e hfunctor hwritten =>
    refine ⟨h.lt, fun bytes'' call'' hmem => h.queued _ _ (List.mem_of_mem_eraseIdx hmem),
      fun token' bytes'' hmem => ?_, fun w hw => h.written w (hwritten ▸ hw)⟩
    obtain heq | hmem := List.mem_cons.mp hmem
    · cases heq
      exact h.queued _ _ (List.mem_of_getElem? hfunctor)
    · exact h.waiting token' bytes'' hmem
  | degrade hfunctor hwritten =>
    exact ⟨h.lt, fun bytes'' call'' hmem => h.queued _ _ (List.mem_of_mem_eraseIdx hmem),
      fun token' bytes'' hmem => h.waiting _ _ (List.mem_of_ne_of_mem (by simp) hmem),
      fun w hw => h.written w (hwritten ▸ hw)⟩
  | @write id' token bytes' stack call' conn e hstack hwritten =>
    refine ⟨h.lt, h.queued, fun token' bytes'' hmem => ?_, fun w hw hcarries => ?_⟩
    · exact h.waiting token' bytes'' (hstack ▸ List.mem_cons_of_mem _ hmem)
    · obtain hw | rfl := by simpa [hwritten] using hw
      · exact h.written w hw hcarries
      · have hmem : .registered id' token bytes' ∈ s.stack := hstack ▸ List.mem_cons_self
        obtain rfl := hcarries.unique (hunsent.waiting id' token bytes' hmem)
        exact h.waiting token bytes' hmem
  | heartbeat =>
    refine ⟨Nat.lt_succ_of_lt h.lt, h.queued, h.waiting, fun w hw hcarries => ?_⟩
    obtain hw | rfl := by simpa using hw
    · exact h.written w hw hcarries
    · exact absurd hcarries (not_carries_heartbeat hF.lawful _ _)

/-- This call is begun. -/
theorem begin (hunsent : Unsent F [] s) {x : CallArguments}
    (heq : (s.prepareCall F x).1 = .registerAndSend id bytes call)
    (hwrap : (s.prepareCall F x).2.nextRequestId ≤ 2 ^ 64) : Marked F id bytes
      { (s.prepareCall F x).2 with
        functors := s.functors ++ [(s.prepareCall F x).1] } := by
  obtain ⟨n, completions, -, hstate⟩ := prepareCall_state F s x
  have hwritten : (s.prepareCall F x).2.env.written = s.env.written := by rw [hstate]
  have hstack : (s.prepareCall F x).2.stack = s.stack := by rw [hstate]
  obtain ⟨hid, hnext⟩ : id.toNat = s.nextRequestId ∧
      (s.prepareCall F x).2.nextRequestId = s.nextRequestId + 1 := by
    obtain ⟨reason, hinvalid⟩ | ⟨bytes', call', hvalid, hnext, -⟩ :=
      prepareCall_functor F s x
    · cases heq.symm.trans hinvalid
    · cases heq.symm.trans hvalid
      rw [hnext] at hwrap
      exact ⟨by rw [UInt64.toNat_ofNat', Nat.mod_eq_of_lt hwrap], hnext⟩
  -- so far no call has had this id
  have hnew : id ∉ s.unsentKeys := by
    intro hmem
    have hlt := hunsent.lt id (by simpa using hmem)
    omega
  refine ⟨by dsimp only; omega, fun bytes' call' hmem => ?_, fun token bytes' hmem => ?_,
    fun w hw hcarries => ?_⟩
  · obtain hold | hlast := List.mem_append.mp hmem
    · apply absurd (List.mem_append_left _ _) hnew
      exact List.mem_filterMap.mpr ⟨_, hold, rfl⟩
    · rw [List.mem_singleton, heq] at hlast
      cases hlast
      rfl
  · apply absurd (List.mem_append_right _ _) hnew
    exact List.mem_filterMap.mpr ⟨_, hstack ▸ hmem, rfl⟩
  · have hlt := (hunsent.written w (hwritten ▸ hw) id hcarries).1
    omega

end Marked

theorem begun_le_passage (hpassage : Passage F s s') : s.begun ≤ s'.begun := by
  cases hpassage with
  | flow hflow => exact hflow.begun.ge
  | prepare x =>
    obtain ⟨n, completions, -, hstate⟩ := prepareCall_state F s x
    dsimp only
    rw [hstate]
    exact Nat.le_succ _
  | register | degrade | write | heartbeat => exact Nat.le_refl _

theorem written_prefix_passage (hpassage : Passage F s s') :
    s.env.written <+: s'.env.written := by
  cases hpassage with
  | flow hflow => rw [hflow.written]
  | prepare x =>
    obtain ⟨n, completions, -, hstate⟩ := prepareCall_state F s x
    dsimp only
    rw [hstate]
  | register hfunctor hwritten => simp [hwritten]
  | degrade hfunctor hwritten => simp [hwritten]
  | write hstack hwritten => simp [hwritten]
  | heartbeat => exact List.prefix_append _ _

/-! ## The channel and one of its calls -/

variable {R R' : RpcFrame → Prop}

theorem Known.mono (h : Known R s) (himp : ∀ frame, R frame → R' frame) : Known R' s :=
  ⟨h.queued, h.pending, h.held, h.notified,
    fun conn fs error hmem frame hframe => himp frame (h.frames conn fs error hmem frame hframe)⟩

/-- What the run of a channel keeps that has received these frames. -/
structure Sending (F : MetaFormat) (R : RpcFrame → Prop) (s : RpcChannel) : Prop where
  steady : Steady F s
  framed : Framed F s
  known : Known R s
  unanswered : ∀ n, s.begun ≤ n → s.env.responses n = none

theorem Sending.mono (h : Sending F R s) (himp : ∀ frame, R frame → R' frame) : Sending F R' s :=
  ⟨h.steady, h.framed, h.known.mono himp, h.unanswered⟩

/-- The frames with which a step begins `OnMessage` have been received. -/
def Receives (R : RpcFrame → Prop) (a : ChannelStep) : Prop :=
  ∀ conn frames error, a = .onMessage conn frames error → ∀ frame ∈ frames, R frame

theorem Sending.effect (hF : F.Proto3 wire) (h : Sending F R s) (hreceives : Receives R a)
    (hwrap : s'.nextRequestId ≤ 2 ^ 64) (heffect : Effect F a s₀ s s') : Sending F R s' := by
  have hpassage := effect_passage h.steady.nested heffect
  refine ⟨h.steady.effects hF.lawful (.single heffect) hwrap,
    h.framed.passage hF h.steady.unsent hpassage, h.known.effect hreceives heffect, fun n hn => ?_⟩
  have hbefore := h.unanswered n ((begun_le_passage hpassage).trans hn)
  obtain hsame | ⟨conn, frame, fs, error, stack, -, -, call, hmem, hupdate⟩ :=
    responses_effect heffect
  · rw [hsame]
    exact hbefore
  · have hlt := h.known.pending _ hmem
    have hle := begun_le_passage hpassage
    dsimp only at hlt
    rw [hupdate, Function.update_of_ne (by omega)]
    exact hbefore

/-- The response of a call came in a RESPONSE frame with its id. -/
def RespondedBy (R : RpcFrame → Prop) (id : UInt64) (call : PendingCall) (s : RpcChannel) : Prop :=
  ∀ payload, s.env.responses call.number = some payload → ∃ frame, R frame ∧
    frame.rpcMeta.type = .response ∧ frame.rpcMeta.requestId = id ∧ frame.payload = payload

/-- A call that has been begun. -/
structure Sent (F : MetaFormat) (R : RpcFrame → Prop) (id : UInt64) (bytes : List UInt8)
    (call : PendingCall) (s : RpcChannel) : Prop where
  linked : Linked id bytes call s
  marked : Marked F id bytes s
  responded : RespondedBy R id call s

theorem Sent.mono (h : Sent F R id bytes call s) (himp : ∀ frame, R frame → R' frame) :
    Sent F R' id bytes call s := by
  refine ⟨h.linked, h.marked, fun payload hpayload => ?_⟩
  obtain ⟨frame, hframe, hrest⟩ := h.responded payload hpayload
  exact ⟨frame, himp frame hframe, hrest⟩

theorem Sent.effect (hF : F.Proto3 wire) (h : Sent F R id bytes call s) (hsending : Sending F R s)
    (hwrap : s'.nextRequestId ≤ 2 ^ 64) (heffect : Effect F a s₀ s s') :
    Sent F R id bytes call s' := by
  have hpassage := effect_passage hsending.steady.nested heffect
  refine ⟨h.linked.passage hpassage, h.marked.passage hF hsending.steady.unsent hwrap hpassage,
    fun payload hpayload => ?_⟩
  obtain hsame | ⟨conn, frame, fs, error, stack, hstack, htype, call', hmem, hupdate⟩ :=
    responses_effect heffect
  · exact h.responded payload (hsame ▸ hpayload)
  · rw [hupdate] at hpayload
    obtain heq | hne := eq_or_ne call.number call'.number
    · rw [heq, Function.update_self, Option.some.injEq] at hpayload
      have hframe := hsending.known.frames conn (frame :: fs) error (hstack ▸ List.mem_cons_self)
        frame List.mem_cons_self
      exact ⟨frame, hframe, htype, (h.linked.pending _ hmem heq.symm).1, hpayload⟩
    · rw [Function.update_of_ne hne] at hpayload
      exact h.responded payload hpayload

theorem sent_effects (hF : F.Proto3 wire) (hreceives : Receives R a) (hsending : Sending F R s)
    (hsent : Sent F R id bytes call s) (heffects : ReflTransGen (Effect F a s₀) s s')
    (hwrap : s'.nextRequestId ≤ 2 ^ 64) : Sending F R s' ∧ Sent F R id bytes call s' := by
  refine invariant_effects
    (I := fun s => s.nextRequestId ≤ 2 ^ 64 → Sending F R s ∧ Sent F R id bytes call s)
    (fun h heffect hwrap => ?_) (fun _ => ⟨hsending, hsent⟩) heffects hwrap
  obtain ⟨hsending₁, hsent₁⟩ := h ((nextRequestId_le_effect heffect).trans hwrap)
  exact ⟨hsending₁.effect hF hreceives hwrap heffect, hsent₁.effect hF hsending₁ hwrap heffect⟩

theorem Sending.effects (hF : F.Proto3 wire) (h : Sending F R s) (hreceives : Receives R a)
    (heffects : ReflTransGen (Effect F a s₀) s s') (hwrap : s'.nextRequestId ≤ 2 ^ 64) :
    Sending F R s' :=
  invariant_effects (I := fun s => s.nextRequestId ≤ 2 ^ 64 → Sending F R s)
    (fun h heffect hwrap =>
      (h ((nextRequestId_le_effect heffect).trans hwrap)).effect hF hreceives hwrap heffect)
    (fun _ => h) heffects hwrap

theorem Sending.step (hF : F.Proto3 wire) (h : Sending F R s) (hreceives : Receives R a)
    (hstep : s.step F a = some s') (hwrap : s'.nextRequestId ≤ 2 ^ 64) : Sending F R s' :=
  h.effects hF hreceives (step_effects hstep) hwrap

theorem Sent.step (hF : F.Proto3 wire) (h : Sent F R id bytes call s) (hsending : Sending F R s)
    (hreceives : Receives R a) (hstep : s.step F a = some s') (hwrap : s'.nextRequestId ≤ 2 ^ 64) :
    Sent F R id bytes call s' :=
  (sent_effects hF hreceives hsending h (step_effects hstep) hwrap).2

theorem written_prefix_step (h : Steady F s) (hstep : s.step F a = some s')
    (hwrap : s'.nextRequestId ≤ 2 ^ 64) : s.env.written <+: s'.env.written := by
  have hkeep := invariant_passage (F := F) (I := fun s₁ => s.env.written <+: s₁.env.written)
    h.nested (List.prefix_refl _)
    (fun hprefix _ hpassage => hprefix.trans (written_prefix_passage hpassage)) (step_effects hstep)
    hwrap
  exact hkeep.2

/-- A step that begins a call prepares it first. -/
theorem effects_begin {x : CallArguments} (harguments : a.arguments = some x)
    (hstep : s.step F a = some s') : ReflTransGen (Effect F a s)
      { (s.prepareCall F x).2 with functors := s.functors ++ [(s.prepareCall F x).1] } s' := by
  cases a with
  | beginCall x' later =>
    obtain rfl : x' = x := Option.some.inj harguments
    exact effects_beginCall hstep
  | remoteBeginCall x' =>
    obtain rfl : x' = x := Option.some.inj harguments
    simp only [RpcChannel.step, Option.ite_none_right_eq_some, Option.some.injEq] at hstep
    obtain ⟨-, rfl⟩ := hstep
    rw [functors_prepareCall]
  | _ => cases harguments

theorem Sent.begin (hF : F.Proto3 wire) (h : Sending F R s) (hreceives : Receives R a)
    {x : CallArguments} (harguments : a.arguments = some x)
    (hcall : (s.prepareCall F x).1 = .registerAndSend id bytes call)
    (hstep : s.step F a = some s') (hwrap : s'.nextRequestId ≤ 2 ^ 64) :
    Sent F R id bytes call s' := by
  have hprepare : Effect F a s s { (s.prepareCall F x).2 with
      functors := s.functors ++ [(s.prepareCall F x).1] } := .prepare harguments
  have heffects := effects_begin harguments hstep
  have hwrap₁ := (nextRequestId_le_effects heffects).trans hwrap
  refine (sent_effects hF hreceives (h.effect hF hreceives hwrap₁ hprepare) ?_ heffects hwrap).2
  refine ⟨.begin h.known hcall, .begin h.steady.unsent hcall hwrap₁, fun payload hpayload => ?_⟩
  -- nothing has been written to its response
  obtain ⟨n, completions, -, hstate⟩ := prepareCall_state F s x
  have hresponses : (s.prepareCall F x).2.env.responses = s.env.responses := by rw [hstate]
  have hnumber : call.number = s.begun := by
    obtain ⟨reason, hinvalid⟩ | ⟨bytes', call', hvalid, -, hnumber, -⟩ :=
      prepareCall_functor F s x
    · cases hcall.symm.trans hinvalid
    · cases hcall.symm.trans hvalid
      exact hnumber
  dsimp only at hpayload
  rw [hresponses, hnumber, h.unanswered _ (Nat.le_refl _)] at hpayload
  cases hpayload

end RpcChannel

end NebulaRpc.Rpc
