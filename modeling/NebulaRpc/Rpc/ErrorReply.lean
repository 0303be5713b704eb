import NebulaRpc.Rpc.Completion
import NebulaRpc.Rpc.Receive
import NebulaRpc.Rpc.Server

/-!
# Error texts on their way to the client

The text of an exception travels in a `string` field of the meta, which proto3 checks when it
parses a message and not when it writes one. This module follows an exception of a coroutine
handler through `SendError`, the wire and `RpcChannel::OnMessage`.
-/

namespace NebulaRpc.Rpc

open NebulaRpc.Net Framing

/-- The code and the message of an exception that has a text. -/
def HandlerResult.thrown : HandlerResult → Option (RpcErrorCode × List UInt8)
  | .rpcServiceError code message => some (code, message)
  | .rpcError message | .exception message => some (.internalError, message)
  | .returned _ | .unknown => none

/-- What a list of writes adds to the output of the connection. -/
def written (writes : List ScopeWrite) : List UInt8 := (writes.map (·.bytes)).flatten

/-- The reply is decoded as a frame, also with more bytes behind it, and the channel ends the call
with this id and no other one on its account. What `OnMessage` finds next, a protocol error
included, is found in the bytes behind the reply. -/
structure AnsweredAlone (F : MetaFormat) (requestId : UInt64) (reply : List UInt8) : Prop where
  decoded : ∀ (b : Buffer) (rest : List UInt8) (frame : RpcFrame) (error : String),
    b.readable = reply ++ rest → (decode F b frame error).1 = .ok
  alone : ∀ (s : RpcChannel) (conn : Nat) (rest : List UInt8) (accepted : Bool) (index : Nat)
    (order : List UInt64), s.alive = true → s.stack = [] → s.Opened →
    ∃ s', s.run F [.onMessage conn (drain (framer F) (reply ++ rest)).items
        (drain (framer F) (reply ++ rest)).error, .resume accepted index order] = some s' ∧
      s'.connectionState = s.connectionState ∧
      s'.pendingCalls = s.pendingCalls.filter (·.1 ≠ requestId) ∧
      s'.notified = ((s.findPending requestId).map (·.number)).toList ++ s.notified ∧
      .onMessage conn (drain (framer F) rest).items (drain (framer F) rest).error ∈ s'.stack

variable {F : MetaFormat} {wire : RpcMeta → List UInt8}

/-- An exception is written as one ERROR frame. -/
theorem written_dispatchCoroutineRequest {result : HandlerResult} {code : RpcErrorCode}
    {message : List UInt8} (hthrown : result.thrown = some (code, message))
    (requestId traceId : UInt64) :
    written (dispatchCoroutineRequest F requestId traceId result) =
      encode F (errorMeta requestId traceId code (what message)) [] := by
  have hfinish : written (finishWithError F requestId traceId code (what message)) =
      encode F (errorMeta requestId traceId code (what message)) [] := by
    by_cases hbytes : encode F (errorMeta requestId traceId code (what message)) [] = []
    · simp [finishWithError, sendError, written, hbytes]
    · simp [finishWithError, sendError, written, hbytes]
  cases result with
  | returned response => cases hthrown
  | unknown => cases hthrown
  | rpcServiceError code' message' | rpcError message' | exception message' =>
    cases hthrown
    exact hfinish

namespace RpcChannel

variable {s s' : RpcChannel} {requestId : UInt64}

theorem connectionState_notifyCompletion (s : RpcChannel) (number : Nat) (coroutine : Bool) :
    (s.notifyCompletion number coroutine).connectionState = s.connectionState := by
  unfold notifyCompletion
  split <;> rfl

theorem pendingCalls_notifyCompletion (s : RpcChannel) (number : Nat) (coroutine : Bool) :
    (s.notifyCompletion number coroutine).pendingCalls = s.pendingCalls := by
  unfold notifyCompletion
  split <;> rfl

theorem mem_stack_notifyCompletion {frame : ChannelFrame} (hmem : frame ∈ s.stack) (number : Nat)
    (coroutine : Bool) : frame ∈ (s.notifyCompletion number coroutine).stack := by
  unfold notifyCompletion
  split
  · exact hmem
  · exact List.mem_cons_of_mem _ hmem

theorem filter_eq_self_of_findPending (h : s.findPending requestId = none) :
    s.pendingCalls.filter (·.1 ≠ requestId) = s.pendingCalls := by
  rw [findPending, Option.map_eq_none_iff, List.find?_eq_none] at h
  apply List.filter_eq_self.mpr
  intro p hp
  simpa using h p hp

/-- The channel handles a frame that is neither a heartbeat nor an error of the protocol. -/
theorem handleFrame_alone (hopened : s.Opened) {frame : RpcFrame}
    (htype : frame.rpcMeta.type ≠ .heartbeat) :
    (s.handleFrame frame).connectionState = s.connectionState ∧
      (s.handleFrame frame).pendingCalls =
        s.pendingCalls.filter (·.1 ≠ frame.rpcMeta.requestId) ∧
      (s.handleFrame frame).notified =
        ((s.findPending frame.rpcMeta.requestId).map (·.number)).toList ++ s.notified ∧
      ∀ f ∈ s.stack, f ∈ (s.handleFrame frame).stack := by
  unfold handleFrame
  rw [if_neg htype]
  cases hfind : s.findPending frame.rpcMeta.requestId with
  | none =>
    have hnone : s.completeCallWithFrame frame.rpcMeta.requestId frame = s := by
      simp [completeCallWithFrame, tryComplete, hfind]
    rw [hnone, filter_eq_self_of_findPending hfind]
    exact ⟨rfl, rfl, rfl, fun _ h => h⟩
  | some call =>
    have hpending : call.call = .pending := hopened.pending _ (find_eq_some hfind)
    have hsome : s.tryComplete frame.rpcMeta.requestId =
        some (call, { s.erasePending frame.rpcMeta.requestId with env := s.env.release call }) := by
      simp [tryComplete, takePendingCall, hfind, hpending]
    simp only [completeCallWithFrame, hsome, connectionState_notifyCompletion,
      pendingCalls_notifyCompletion, notified_notifyCompletion]
    refine ⟨rfl, rfl, rfl, fun f hf => ?_⟩
    apply mem_stack_notifyCompletion
    exact hf

/-- `OnMessage` starts with the first frame in the buffer. -/
theorem run_onMessage_cons (F : MetaFormat) (halive : s.alive = true) (hstack : s.stack = [])
    (conn : Nat) (frame : RpcFrame) (frames : List RpcFrame) (error : Option String)
    (accepted : Bool) (index : Nat) (order : List UInt64) :
    s.run F [.onMessage conn (frame :: frames) error, .resume accepted index order] =
      some ({ s with stack := [.onMessage conn frames error] }.handleFrame frame) := by
  have hstep : s.step F (.onMessage conn (frame :: frames) error) =
      some { s with stack := [.onMessage conn (frame :: frames) error] } := by
    have hready : (s.stack.isEmpty && s.alive) = true := by simp [hstack, halive]
    rw [step, if_pos hready, push, hstack]
  rw [run, Transition.run, hstep]
  rfl

end RpcChannel

/-- **Error texts.** The reply to an exception with a text, if it fits into a frame, is decoded by
the client and ends only its own call exactly when the text is well-formed UTF-8. -/
theorem error_text_answered_alone (hF : F.Lawful wire) (hutf : F.RejectsInvalidUtf8 wire)
    (result : HandlerResult) (code : RpcErrorCode) (message : List UInt8)
    (hthrown : result.thrown = some (code, message)) (requestId traceId : UInt64)
    (hfits : bodySize wire (errorMeta requestId traceId code (what message)) [] ≤ kMaxFrameSize) :
    AnsweredAlone F requestId (written (dispatchCoroutineRequest F requestId traceId result)) ↔
      ValidUtf8 (what message) := by
  rw [written_dispatchCoroutineRequest hthrown]
  set m := errorMeta requestId traceId code (what message)
  have hsize : ¬ bodySize wire m [] > kMaxFrameSize := by omega
  have henc : encode F m [] = frameBytes wire m [] := by rw [encode_eq hF.serializes, if_neg hsize]
  rw [henc]
  constructor
  · intro h
    by_contra htext
    have hbad := parseFrame_frameBytes_of_invalid hutf (m := m) htext hsize []
    have hok := h.decoded ((Buffer.new 0).append (frameBytes wire m [])) [] {} ""
      (by simp)
    rw [decode_eq] at hok
    simp only [Buffer.readable_append, Buffer.readable_new, List.nil_append,
      List.append_nil] at hok hbad
    rw [hbad] at hok
    cases hok
  · intro htext
    have hparse := parseFrame_frameBytes hF (m := m) htext hsize
    refine ⟨fun b rest frame error hb => ?_, fun s conn rest accepted index order halive hstack
      hopened => ?_⟩
    · rw [decode_eq, hb, hparse]
    · have hnext : (framer F).next (frameBytes wire m [] ++ rest) =
          .ok ⟨m.setPayloadSize 0, [], 4 + bodySize wire m []⟩ (4 + bodySize wire m []) :=
        hparse rest
      have hdrain := drain_of_ok hnext
      have hdrop : (frameBytes wire m [] ++ rest).drop (4 + bodySize wire m []) = rest :=
        List.drop_left' (length_frameBytes wire m [])
      rw [hdrop] at hdrain
      rw [hdrain]
      refine ⟨_, RpcChannel.run_onMessage_cons F halive hstack .., ?_⟩
      have htype : (⟨m.setPayloadSize 0, [], 4 + bodySize wire m []⟩ : RpcFrame).rpcMeta.type ≠
          .heartbeat := by simp [m, errorMeta, RpcMeta.setPayloadSize]
      have hreturn := RpcChannel.handleFrame_alone
        (s := { s with
          stack := [.onMessage conn (drain (framer F) rest).items (drain (framer F) rest).error] })
        ⟨hopened.pending, hopened.queued⟩ htype
      obtain ⟨hstate, hpending, hnotified, hframes⟩ := hreturn
      exact ⟨hstate, hpending, hnotified, hframes _ List.mem_cons_self⟩

/-- A text of ASCII letters. -/
theorem error_text_answered_alone_boom :
    AnsweredAlone wireFormat 1
      (written (dispatchCoroutineRequest wireFormat 1 9 (.exception (octets "boom")))) :=
  (error_text_answered_alone wireFormat_lawful wireFormat_rejectsInvalidUtf8
    (.exception (octets "boom")) .internalError (octets "boom") rfl 1 9 (by decide)).mpr
    ⟨['b', 'o', 'o', 'm'], rfl⟩

/-- The reply to an exception with the text `FF`. -/
def invalidReply : List UInt8 :=
  written (dispatchCoroutineRequest wireFormat 1 9 (.exception [0xFF]))

/-- Two calls are pending, the reply to the first one arrives, and `FailAllPending` runs to its
end. -/
def invalidText : List ChannelStep :=
  [.connectionUp 0, .beginCall RpcChannel.emptyCall 0, .resume false 0 [],
    .beginCall RpcChannel.emptyCall 0, .resume false 0 [],
    .onMessage 0 (drain (framer wireFormat) invalidReply).items
      (drain (framer wireFormat) invalidReply).error,
    .resume false 0 [1, 2], .resume false 0 [], .resume false 0 [], .resume false 0 []]

/-- The reply takes down the channel, with the call that it does not answer. -/
theorem invalid_text_not_alone :
    ¬ AnsweredAlone wireFormat 1 invalidReply ∧
      ∃ s, (RpcChannel.start 1 {}).run wireFormat invalidText = some s ∧
        s.connectionState = .disconnected ∧ s.notified = [1, 0] := by
  have hbad : parseFrame wireFormat invalidReply = .bad "failed to parse RPC meta" := rfl
  have hdrain : drain (framer wireFormat) invalidReply =
      ⟨[], some "failed to parse RPC meta", invalidReply⟩ := drain_of_bad hbad
  constructor
  · intro h
    have hok := h.decoded ((Buffer.new 0).append invalidReply) [] {} "" (by simp)
    rw [decode_eq, Buffer.readable_append, Buffer.readable_new, List.nil_append, hbad] at hok
    cases hok
  · unfold invalidText
    rw [hdrain]
    exact ⟨_, rfl, rfl, rfl⟩

end NebulaRpc.Rpc
