import NebulaRpc.Rpc.ErrorReply
import NebulaRpc.Rpc.ServerCalls

/-!
# The answer to a frame

A server answers a frame by one frame with the same ids: a HEARTBEAT by a HEARTBEAT, a request by a
RESPONSE with the response of its handler when that can be written, and everything else by an ERROR.
`Answers` says so, and what one frame and the end of one handler write is compared with it.
-/

namespace NebulaRpc.Rpc

variable {F : MetaFormat} {wire : RpcMeta → List UInt8}

/-! ## The answer to a frame -/

/-- The response of a handler. -/
def HandlerEnd.response : HandlerEnd → Option MessageLite
  | .done response => some response
  | .coroutine (.returned response) => response
  | .coroutine _ => none

/-- The meta of a RESPONSE frame. -/
def responseMeta (requestId traceId : UInt64) : RpcMeta :=
  { type := .response, requestId := requestId, traceId := traceId }

/-- The meta of a HEARTBEAT frame. -/
def heartbeatMeta (requestId traceId : UInt64) : RpcMeta :=
  { type := .heartbeat, requestId := requestId, traceId := traceId }

/-- The payload of the RESPONSE, when the handler has a response that serialises and fits. -/
def carried (wire : RpcMeta → List UInt8) (frame : RpcFrame) (ended : Option HandlerEnd) :
    Option (List UInt8) :=
  ((ended.bind HandlerEnd.response).bind MessageLite.serializeToString).filter fun payload =>
    bodySize wire (responseMeta frame.rpcMeta.requestId frame.rpcMeta.traceId) payload ≤
      kMaxFrameSize

/-- What a frame is to be answered with; `ended` is how its handler has ended, if it has one. -/
structure Answers (wire : RpcMeta → List UInt8) (frame : RpcFrame) (ended : Option HandlerEnd)
    (m : RpcMeta) (payload : List UInt8) : Prop where
  requestId : m.requestId = frame.rpcMeta.requestId
  traceId : m.traceId = frame.rpcMeta.traceId
  type : m.type = if frame.rpcMeta.type = .heartbeat then .heartbeat
    else if (carried wire frame ended).isSome then .response else .error
  payload : payload = (carried wire frame ended).getD []

/-- The text of the exception with which a handler has ended, if any, fits into a frame. -/
def TextFits (wire : RpcMeta → List UInt8) (requestId traceId : UInt64) : HandlerEnd → Prop
  | .done _ => True
  | .coroutine result => ∀ thrown ∈ result.thrown,
      bodySize wire (errorMeta requestId traceId thrown.1 (what thrown.2)) [] ≤ kMaxFrameSize

/-! ## The frames that are written -/

/-- The bytes that reach the connection. -/
def replyBytes (writes : List ScopeWrite) : List (List UInt8) :=
  (writes.map (·.bytes)).filter (· ≠ [])

/-- The texts of the server itself fit into a frame. -/
theorem bodySize_errorMeta_le (hsize : Compact wire) {text : List UInt8} (htext : text.length ≤ 1024)
    (requestId traceId : UInt64) (code : RpcErrorCode) :
    bodySize wire (errorMeta requestId traceId code text) [] ≤ kMaxFrameSize := by
  have hlength := hsize ((errorMeta requestId traceId code text).setPayloadSize 0)
  simp only [errorMeta, RpcMeta.setPayloadSize, List.length_nil] at hlength
  simp only [bodySize, errorMeta, RpcMeta.setPayloadSize, List.length_nil, kMaxFrameSize]
  omega

theorem replyBytes_sendError (hF : F.Lawful wire) (requestId traceId : UInt64) (code : RpcErrorCode)
    (text : List UInt8) : replyBytes (sendError F requestId traceId code text) =
      if bodySize wire (errorMeta requestId traceId code text) [] ≤ kMaxFrameSize then
        [frameBytes wire (errorMeta requestId traceId code text) []]
      else [] := by
  unfold sendError
  dsimp only
  rw [encode_eq hF.serializes]
  by_cases hfits : bodySize wire (errorMeta requestId traceId code text) [] ≤
      kMaxFrameSize
  · simp [replyBytes, Nat.not_lt.mpr hfits, hfits, frameBytes_ne_nil]
  · simp [replyBytes, Nat.not_le.mp hfits, hfits]

theorem replyBytes_finishWithError (requestId traceId : UInt64) (code : RpcErrorCode)
    (text : List UInt8) : replyBytes (finishWithError F requestId traceId code text) =
      replyBytes (sendError F requestId traceId code text) := by
  simp [finishWithError, replyBytes]

/-- Exactly one frame is written, and it is the answer. -/
def AnsweredBy (wire : RpcMeta → List UInt8) (frame : RpcFrame) (ended : Option HandlerEnd)
    (replies : List (List UInt8)) : Prop :=
  ∃ m payload, replies = [frameBytes wire m payload] ∧ Answers wire frame ended m payload

theorem carried_none (frame : RpcFrame) : carried wire frame none = none := rfl

variable {S : Services} {frame : RpcFrame}

theorem AnsweredBy.perm {ended : Option HandlerEnd}
    {replies replies' : List (List UInt8)} (h : AnsweredBy wire frame ended replies)
    (hperm : replies'.Perm replies) : AnsweredBy wire frame ended replies' := by
  obtain ⟨m, payload, rfl, hanswers⟩ := h
  exact ⟨m, payload, List.perm_singleton.mp hperm, hanswers⟩

theorem answeredBy_sendError (hF : F.Lawful wire) {ended : Option HandlerEnd}
    (htype : frame.rpcMeta.type ≠ .heartbeat) (hcarried : carried wire frame ended = none)
    {code : RpcErrorCode} {text : List UInt8}
    (hfits : bodySize wire (errorMeta frame.rpcMeta.requestId frame.rpcMeta.traceId code
      text) [] ≤ kMaxFrameSize) :
    AnsweredBy wire frame ended (replyBytes (sendError F frame.rpcMeta.requestId
      frame.rpcMeta.traceId code text)) := by
  refine ⟨errorMeta frame.rpcMeta.requestId frame.rpcMeta.traceId code text, [], ?_, rfl, rfl, ?_, ?_⟩
  · rw [replyBytes_sendError hF, if_pos hfits]
  · simp [errorMeta, htype, hcarried]
  · simp [hcarried]

/-- A frame that is not handed to a handler is answered at once. -/
theorem answeredBy_reply (hF : F.Lawful wire) (hsize : Compact wire) {writes : List ScopeWrite}
    (hreply : handleFrame F S frame = .reply writes) :
    AnsweredBy wire frame none (replyBytes writes) := by
  have herror : frame.rpcMeta.type ≠ .heartbeat → ∀ code text, text.length ≤ 1024 →
      .reply (sendError F frame.rpcMeta.requestId frame.rpcMeta.traceId code text) =
        Handling.reply writes → AnsweredBy wire frame none (replyBytes writes) := by
    intro htype code text htext heq
    cases heq
    exact answeredBy_sendError hF htype (carried_none frame) (bodySize_errorMeta_le hsize htext ..)
  unfold handleFrame at hreply
  split at hreply
  · next htype =>
    cases hreply
    have hfits : ¬bodySize wire
        (heartbeatMeta frame.rpcMeta.requestId frame.rpcMeta.traceId) [] > kMaxFrameSize := by
      have hlength := hsize
        ((heartbeatMeta frame.rpcMeta.requestId frame.rpcMeta.traceId).setPayloadSize 0)
      simp only [heartbeatMeta, RpcMeta.setPayloadSize, List.length_nil] at hlength
      simp only [bodySize, heartbeatMeta, RpcMeta.setPayloadSize, List.length_nil, kMaxFrameSize]
      omega
    have hencode : encode F
        (heartbeatMeta frame.rpcMeta.requestId frame.rpcMeta.traceId) [] =
          frameBytes wire
            (heartbeatMeta frame.rpcMeta.requestId frame.rpcMeta.traceId) [] := by
      rw [encode_eq hF.serializes, if_neg hfits]
    refine ⟨heartbeatMeta frame.rpcMeta.requestId frame.rpcMeta.traceId, [], ?_, rfl, rfl, ?_, rfl⟩
    · change replyBytes (if encode F (heartbeatMeta ..) [] ≠ [] then
        [⟨encode F (heartbeatMeta ..) [], false⟩] else []) = _
      rw [hencode, if_pos (frameBytes_ne_nil _ _ _)]
      simp [replyBytes, frameBytes_ne_nil]
    · simp [heartbeatMeta, htype]
  · next htype =>
    split at hreply
    · unfold handleRequest handleCoroutineRequest at hreply
      dsimp only at hreply
      repeat' split at hreply
      all_goals first | exact herror htype _ _ (by decide) hreply | cases hreply
    · exact herror htype _ _ (by decide) hreply

theorem answeredBy_sendResponse (hF : F.Lawful wire) (hsize : Compact wire)
    (htype : frame.rpcMeta.type ≠ .heartbeat) {ended : HandlerEnd}
    {response : MessageLite} (hresponse : ended.response = some response) :
    AnsweredBy wire frame (some ended) (replyBytes (sendResponse F frame.rpcMeta.requestId
      frame.rpcMeta.traceId response)) := by
  unfold sendResponse
  cases hpayload : response.serializeToString with
  | none =>
    have hcarried : carried wire frame (some ended) = none := by simp [carried, hresponse, hpayload]
    dsimp only
    rw [replyBytes_finishWithError]
    exact answeredBy_sendError hF htype hcarried (bodySize_errorMeta_le hsize (by decide) ..)
  | some payload =>
    change AnsweredBy wire _ _ (replyBytes (if encode F (responseMeta ..) payload = [] then
      finishWithError .. else [⟨encode F (responseMeta ..) payload, true⟩]))
    rw [encode_eq hF.serializes]
    by_cases hfits : bodySize wire (responseMeta frame.rpcMeta.requestId
        frame.rpcMeta.traceId) payload ≤ kMaxFrameSize
    · have hcarried : carried wire frame (some ended) = some payload := by
        simp [carried, hresponse, hpayload, hfits]
      rw [if_neg (Nat.not_lt.mpr hfits), if_neg (frameBytes_ne_nil _ _ _)]
      refine ⟨responseMeta frame.rpcMeta.requestId frame.rpcMeta.traceId, payload, ?_, rfl, rfl, ?_,
        ?_⟩
      · simp [replyBytes, frameBytes_ne_nil]
      · simp [responseMeta, htype, hcarried]
      · simp [hcarried]
    · have hcarried : carried wire frame (some ended) = none := by
        simp [carried, hresponse, hpayload, Nat.not_le.mp hfits]
      rw [if_pos (Nat.not_le.mp hfits), if_pos rfl, replyBytes_finishWithError]
      exact answeredBy_sendError hF htype hcarried (bodySize_errorMeta_le hsize (by decide) ..)

theorem replyBytes_of_thrown {result : HandlerResult} {code : RpcErrorCode} {message : List UInt8}
    (hthrown : result.thrown = some (code, message)) (requestId traceId : UInt64) :
    replyBytes (finishCall F requestId traceId (.coroutine result)) =
      replyBytes (sendError F requestId traceId code (what message)) := by
  cases result with
  | returned response | unknown => cases hthrown
  | rpcServiceError | rpcError | exception =>
    cases hthrown
    exact replyBytes_finishWithError ..

/-- The end of a handler answers its frame, when the text of its exception fits. -/
theorem answeredBy_finishCall (hF : F.Lawful wire) (hsize : Compact wire)
    (htype : frame.rpcMeta.type ≠ .heartbeat) {ended : HandlerEnd}
    (hfits : TextFits wire frame.rpcMeta.requestId frame.rpcMeta.traceId ended) :
    AnsweredBy wire frame (some ended) (replyBytes (finishCall F frame.rpcMeta.requestId
      frame.rpcMeta.traceId ended)) := by
  cases ended with
  | done response => exact answeredBy_sendResponse hF hsize htype rfl
  | coroutine result =>
    cases hthrown : result.thrown with
    | some thrown =>
      rw [replyBytes_of_thrown hthrown]
      refine answeredBy_sendError hF htype ?_ (hfits _ hthrown)
      cases result with
      | returned response | unknown => cases hthrown
      | rpcServiceError | rpcError | exception => rfl
    | none =>
      cases result with
      | returned response =>
        cases response with
        | none =>
          show AnsweredBy wire _ _ (replyBytes (finishWithError ..))
          rw [replyBytes_finishWithError]
          exact answeredBy_sendError hF htype rfl (bodySize_errorMeta_le hsize (by decide) ..)
        | some response => exact answeredBy_sendResponse hF hsize htype rfl
      | rpcServiceError | rpcError | exception => cases hthrown
      | unknown =>
        show AnsweredBy wire _ _ (replyBytes (finishWithError ..))
        rw [replyBytes_finishWithError]
        exact answeredBy_sendError hF htype rfl (bodySize_errorMeta_le hsize (by decide) ..)

/-- An exception with a text that does not fit is not answered. -/
theorem replyBytes_finishCall_of_not_fits (hF : F.Lawful wire) {requestId traceId : UInt64}
    {ended : HandlerEnd} (hfits : ¬TextFits wire requestId traceId ended) :
    replyBytes (finishCall F requestId traceId ended) = [] := by
  cases ended with
  | done response => exact absurd trivial hfits
  | coroutine result =>
    simp only [TextFits, not_forall] at hfits
    obtain ⟨⟨code, message⟩, hthrown, hbig⟩ := hfits
    rw [replyBytes_of_thrown hthrown, replyBytes_sendError hF, if_neg hbig]

/-! ## Which frames have a handler -/

/-- The method that a request names. -/
def Services.method (S : Services) (frame : RpcFrame) : Option ServiceMethod :=
  match S.coroutineServices frame.rpcMeta.serviceName with
  | some methods => methods[frame.rpcMeta.methodIndex.toNat]?.join
  | none =>
    (S.services frame.rpcMeta.serviceName).bind fun methods =>
      methods[frame.rpcMeta.methodIndex.toNat]?

/-- A request for a known method that parses. -/
def Services.Accepts (S : Services) (frame : RpcFrame) : Prop :=
  frame.rpcMeta.type = .request ∧ ∃ method, S.method frame = some method ∧
    method.parses frame.payload = true

theorem isDispatch_handleFrame_iff :
    (handleFrame F S frame).isDispatch = true ↔ S.Accepts frame := by
  unfold handleFrame Services.Accepts
  split
  · next htype => simp [htype, Handling.isDispatch]
  · split
    · next htype =>
      unfold handleRequest handleCoroutineRequest Services.method
      dsimp only
      repeat' split
      all_goals simp_all [Handling.isDispatch]
    · next htype => simp [htype, Handling.isDispatch]

theorem type_of_isDispatch (h : (handleFrame F S frame).isDispatch = true) :
    frame.rpcMeta.type ≠ .heartbeat := by
  rw [(isDispatch_handleFrame_iff.mp h).1]
  decide

/-- A handler is given the ids of its frame. -/
theorem ids_of_dispatch {requestId traceId : UInt64} {coroutine : Bool}
    (h : handleFrame F S frame = .dispatch requestId traceId coroutine) :
    requestId = frame.rpcMeta.requestId ∧ traceId = frame.rpcMeta.traceId := by
  unfold handleFrame handleRequest handleCoroutineRequest at h
  dsimp only at h
  repeat' split at h
  all_goals first | cases h; exact ⟨rfl, rfl⟩ | cases h

end NebulaRpc.Rpc
