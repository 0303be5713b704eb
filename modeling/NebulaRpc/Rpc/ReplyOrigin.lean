import NebulaRpc.Rpc.CallFrames
import NebulaRpc.Rpc.ReplyFlush

/-!
# Where replies come from

Whatever the server writes to a connection is a whole frame with the id of a frame that it received on
that connection, and a RESPONSE holds the serialised response with which the handler of that very frame
has ended. This needs no hypothesis on how handlers end.
-/

namespace NebulaRpc.Rpc

open Framing

/-- The octets reply to this frame, whose handler has ended like that. -/
def Replies (wire : RpcMeta → List UInt8) (frame : RpcFrame) (ended : Option HandlerEnd)
    (bytes : List UInt8) : Prop :=
  ∃ m payload, bytes = frameBytes wire m payload ∧
    bodySize wire m payload ≤ kMaxFrameSize ∧
    m.requestId = frame.rpcMeta.requestId ∧
    (m.type = .heartbeat ↔ frame.rpcMeta.type = .heartbeat) ∧
    (m.type = .response →
      (ended.bind HandlerEnd.response).bind MessageLite.serializeToString = some payload)

section Replies

variable {F : MetaFormat} {wire : RpcMeta → List UInt8} {frame : RpcFrame} {ended : Option HandlerEnd}
  {bytes : List UInt8}

theorem Replies.whole (hF : F.Proto3 wire) (h : Replies wire frame ended bytes) :
    (framer F).Whole bytes := by
  obtain ⟨m, payload, rfl, hsize, -⟩ := h
  exact whole_frameBytes hF (Nat.not_lt.mpr hsize)

/-- What the receiver of a reply sees; in a RESPONSE it is the response of the handler. -/
theorem Replies.read (hF : F.Proto3 wire) {reply : RpcFrame} (h : Replies wire frame ended bytes)
    (hmakes : (framer F).Makes bytes reply) :
    reply.rpcMeta.requestId = frame.rpcMeta.requestId ∧
      (reply.rpcMeta.type = .heartbeat ↔ frame.rpcMeta.type = .heartbeat) ∧
        (reply.rpcMeta.type = .response →
          (ended.bind HandlerEnd.response).bind MessageLite.serializeToString =
            some reply.payload) := by
  obtain ⟨m, payload, rfl, hsize, hid, hheartbeat, hresponse⟩ := h
  by_cases htext : ValidUtf8 m.errorText
  · have hframe := makes_frameBytes hF htext (Nat.not_lt.mpr hsize)
    rw [Framer.Makes] at hmakes hframe
    rw [hmakes] at hframe
    cases hframe
    exact ⟨hid, hheartbeat, hresponse⟩
  · have hparse := parseFrame_frameBytes_of_invalid hF.rejectsInvalidUtf8 htext
      (Nat.not_lt.mpr hsize) []
    rw [List.append_nil] at hparse
    cases hmakes.symm.trans hparse

/-- What the encoder emits for a frame with the same id. -/
theorem replies_encode (hF : F.Proto3 wire) {m : RpcMeta} {payload : List UInt8}
    (hid : m.requestId = frame.rpcMeta.requestId)
    (hheartbeat : m.type = .heartbeat ↔ frame.rpcMeta.type = .heartbeat)
    (hresponse : m.type = .response →
      (ended.bind HandlerEnd.response).bind MessageLite.serializeToString = some payload)
    (hne : encode F m payload ≠ []) :
    Replies wire frame ended (encode F m payload) := by
  rw [encode_eq hF.lawful.serializes] at hne ⊢
  split at hne
  · exact absurd rfl hne
  · next hsize =>
    rw [if_neg hsize]
    exact ⟨m, payload, rfl, Nat.not_lt.mp hsize, hid, hheartbeat, hresponse⟩

theorem replies_sendError (hF : F.Proto3 wire) (htype : frame.rpcMeta.type ≠ .heartbeat)
    {traceId : UInt64} {code : RpcErrorCode} {text : List UInt8} {w : ScopeWrite}
    (hw : w ∈ sendError F frame.rpcMeta.requestId traceId code text) :
    Replies wire frame ended w.bytes := by
  unfold sendError at hw
  dsimp only at hw
  split at hw
  · next hne =>
    obtain rfl := List.mem_singleton.mp hw
    exact replies_encode hF (m := errorMeta frame.rpcMeta.requestId traceId code text) rfl
      (iff_of_false (by simp [errorMeta]) htype) (fun hresponse => by cases hresponse) hne
  · cases hw

theorem replies_finishWithError (hF : F.Proto3 wire) (htype : frame.rpcMeta.type ≠ .heartbeat)
    {traceId : UInt64} {code : RpcErrorCode} {text : List UInt8} {w : ScopeWrite}
    (hw : w ∈ finishWithError F frame.rpcMeta.requestId traceId code text)
    (hne : w.bytes ≠ []) : Replies wire frame ended w.bytes := by
  obtain hw | hw := List.mem_append.mp hw
  · exact replies_sendError hF htype hw
  · obtain rfl := List.mem_singleton.mp hw
    exact absurd rfl hne

theorem replies_sendResponse (hF : F.Proto3 wire) (htype : frame.rpcMeta.type ≠ .heartbeat)
    {traceId : UInt64} {response : MessageLite} {e : HandlerEnd}
    (hresponse : e.response = some response) {w : ScopeWrite}
    (hw : w ∈ sendResponse F frame.rpcMeta.requestId traceId response)
    (hne : w.bytes ≠ []) : Replies wire frame (some e) w.bytes := by
  unfold sendResponse at hw
  cases hpayload : response.serializeToString with
  | none =>
    rw [hpayload] at hw
    exact replies_finishWithError hF htype hw hne
  | some payload =>
    simp only [hpayload] at hw
    split at hw
    · exact replies_finishWithError hF htype hw hne
    · next hencode =>
      obtain rfl := List.mem_singleton.mp hw
      exact replies_encode hF (m := responseMeta frame.rpcMeta.requestId traceId) rfl
        (iff_of_false (by simp [responseMeta]) htype) (fun _ => by simp [hresponse, hpayload]) hencode

theorem replies_finishCall (hF : F.Proto3 wire) (htype : frame.rpcMeta.type ≠ .heartbeat)
    {traceId : UInt64} {e : HandlerEnd} {w : ScopeWrite}
    (hw : w ∈ finishCall F frame.rpcMeta.requestId traceId e) (hne : w.bytes ≠ []) :
    Replies wire frame (some e) w.bytes := by
  cases e with
  | done response => exact replies_sendResponse hF htype rfl hw hne
  | coroutine result =>
    cases result with
    | returned response =>
      cases response with
      | none => exact replies_finishWithError hF htype hw hne
      | some response => exact replies_sendResponse hF htype rfl hw hne
    | rpcServiceError | rpcError | exception | unknown => exact replies_finishWithError hF htype hw hne

/-- A frame without a handler is answered by no RESPONSE. -/
theorem replies_of_reply (hF : F.Proto3 wire) {S : Services} {writes : List ScopeWrite}
    (hreply : handleFrame F S frame = .reply writes) {w : ScopeWrite} (hw : w ∈ writes) :
    Replies wire frame none w.bytes := by
  have herror : frame.rpcMeta.type ≠ .heartbeat → ∀ code text,
      Handling.reply (sendError F frame.rpcMeta.requestId frame.rpcMeta.traceId code text) =
        .reply writes → Replies wire frame none w.bytes := by
    intro htype code text heq
    cases heq
    exact replies_sendError hF htype hw
  unfold handleFrame at hreply
  split at hreply
  · next htype =>
    unfold sendHeartbeatEcho at hreply
    dsimp only at hreply
    split at hreply
    · next hne =>
      cases hreply
      obtain rfl := List.mem_singleton.mp hw
      exact replies_encode hF (m := heartbeatMeta frame.rpcMeta.requestId frame.rpcMeta.traceId) rfl
        (iff_of_true rfl htype) (fun hresponse => by cases hresponse) hne
    · cases hreply
      cases hw
  · next htype =>
    split at hreply
    · unfold handleRequest handleCoroutineRequest at hreply
      dsimp only at hreply
      repeat' split at hreply
      all_goals first | exact herror htype _ _ hreply | cases hreply
    · exact herror htype _ _ hreply

/-- A reply to a frame whose handler runs is a reply whatever becomes of the handler. -/
theorem Replies.mono (h : Replies wire frame none bytes) : Replies wire frame ended bytes := by
  obtain ⟨m, payload, hbytes, hsize, hid, hheartbeat, hresponse⟩ := h
  exact ⟨m, payload, hbytes, hsize, hid, hheartbeat, fun htype => by cases hresponse htype⟩

end Replies

namespace RpcServer

variable {F : MetaFormat} {wire : RpcMeta → List UInt8} {S : Services} {loopOf : Nat → Nat}
  {s s₁ s' : RpcServer} {w : FrameWrite} {writes : List FrameWrite} {l : RpcServerStep}
  {n conn : Nat} {bytes : List UInt8} {frame : RpcFrame} {output : List ServerOutput}

/-! ## What grows -/

/-- The connections of the scopes, by their number. -/
def conns (s : RpcServer) : List Nat := s.scopes.map (·.conn)

/-- The frames that were received on a connection. -/
def receivedOn (conn : Nat) (s : RpcServer) : List RpcFrame :=
  s.received.filterMap fun x => if s.conns[x.2]? = some conn then some x.1 else none

/-- What was written to a connection. -/
def writtenOn (conn : Nat) (output : List ServerOutput) : List (List UInt8) :=
  output.filterMap fun
    | .write c _ bytes => if c = conn then some bytes else none
    | .flush _ => none

/-- Nothing that was received or written is forgotten. -/
structure Lengthens (s s' : RpcServer) : Prop where
  received : s.received <+: s'.received
  conns : s.conns <+: s'.conns
  output : s.output <+: s'.output

theorem Lengthens.after (h' : Lengthens s₁ s') (h : Lengthens s s₁) : Lengthens s s' :=
  ⟨h.received.trans h'.received, h.conns.trans h'.conns, h.output.trans h'.output⟩

theorem conns_of_headers (h : s'.scopes.map header = s.scopes.map header) : s'.conns = s.conns := by
  have hfst := congrArg (List.map Prod.fst) h
  simpa [conns, Function.comp_def, header] using hfst

theorem Emitted.lengthens (h : Emitted output s s') : Lengthens s s' :=
  ⟨h.received ▸ List.prefix_rfl, conns_of_headers h.headers ▸ List.prefix_rfl,
    h.output ▸ List.prefix_append _ _⟩

/-- What happens to the parts that only grow by one step. -/
theorem lengthens_step (h : Tracked loopOf s) (hstep : s.step F S loopOf l = some s') :
    Lengthens s s' := by
  cases l with
  | onMessage conn =>
    simp only [RpcServer.step, Option.ite_none_right_eq_some] at hstep
    obtain ⟨-, hstep⟩ := hstep
    cases hstep
    exact ⟨List.prefix_rfl, by simp [conns], List.prefix_rfl⟩
  | frame loop frame =>
    obtain ⟨id, -, rfl⟩ := Option.map_eq_some_iff.mp hstep
    have hreceived : Lengthens s { s with received := s.received ++ [(frame, id)] } :=
      ⟨List.prefix_append _ _, List.prefix_rfl, List.prefix_rfl⟩
    unfold RpcServer.handleFrame
    cases Rpc.handleFrame F S frame with
    | reply writes => exact (emitted_writesInLoop _ _).lengthens.after hreceived
    | dispatch => exact ⟨List.prefix_append _ _, List.prefix_rfl, List.prefix_rfl⟩
  | close loop =>
    obtain ⟨id, hbatch, rfl⟩ := Option.map_eq_some_iff.mp hstep
    obtain ⟨scope, hget, hopen, rfl⟩ := h.open_batch hbatch
    refine (emitted_closeScope hget hopen _).lengthens.after ⟨List.prefix_rfl, ?_, List.prefix_rfl⟩
    obtain ⟨hlt, rfl⟩ := List.getElem?_eq_some_iff.mp hget
    have hset : (s.scopes.set id s.scopes[id]).map (·.conn) = s.scopes.map (·.conn) := by
      rw [List.set_getElem_self]
    rw [List.map_set] at hset
    rw [conns, conns, List.map_set, hset]
  | finishInLoop index ended =>
    obtain ⟨call, -, rfl⟩ := Option.map_eq_some_iff.mp hstep
    exact (emitted_writesInLoop _ _).lengthens.after
      ⟨List.prefix_rfl, List.prefix_rfl, List.prefix_rfl⟩
  | finishElsewhere index ended =>
    obtain ⟨call, -, rfl⟩ := Option.map_eq_some_iff.mp hstep
    exact ⟨List.prefix_rfl, List.prefix_rfl, List.prefix_rfl⟩
  | post index =>
    simp only [RpcServer.step] at hstep
    split at hstep
    · cases hstep
      exact ⟨List.prefix_rfl, List.prefix_rfl, List.prefix_rfl⟩
    · cases hstep
  | runNext loop =>
    simp only [RpcServer.step, Option.ite_none_right_eq_some] at hstep
    obtain ⟨-, hstep⟩ := hstep
    obtain ⟨w, -, rfl⟩ := Option.map_eq_some_iff.mp hstep
    exact (emitted_writeInLoop _ w).lengthens.after
      ⟨List.prefix_rfl, List.prefix_rfl, List.prefix_rfl⟩

theorem Tracked.getElem?_conns (h : Tracked loopOf s) (hlengthens : Lengthens s s')
    {x : RpcFrame × Nat} (hx : x ∈ s.received) : s'.conns[x.2]? = s.conns[x.2]? := by
  obtain ⟨n, hget⟩ := List.mem_iff_getElem?.mp hx
  have hlt := h.scopes n x.1 x.2 hget
  obtain ⟨later, hconns⟩ := hlengthens.conns
  rw [← hconns, List.getElem?_append_left (by simpa [conns] using hlt)]

theorem receivedOn_eq (conn : Nat) (h : Tracked loopOf s) (hlengthens : Lengthens s s')
    {later : List (RpcFrame × Nat)} (hreceived : s'.received = s.received ++ later) :
    receivedOn conn s' = receivedOn conn s ++
      later.filterMap fun x => if s'.conns[x.2]? = some conn then some x.1 else none := by
  unfold receivedOn
  rw [hreceived, List.filterMap_append]
  congr 1
  apply List.filterMap_congr
  intro x hx
  rw [h.getElem?_conns hlengthens hx]

/-- A step that is not a frame leaves the frames of the connections alone. -/
theorem receivedOn_step (h : Tracked loopOf s) (hl : ∀ loop frame, l ≠ .frame loop frame)
    (hstep : s.step F S loopOf l = some s') : receivedOn conn s' = receivedOn conn s := by
  have hsame := (noFrame_step hl hstep).received
  have heq := receivedOn_eq conn h (lengthens_step h hstep) (hsame.trans (List.append_nil _).symm)
  simpa using heq

/-- A frame is received on the connection whose batch is open. -/
theorem receivedOn_frame (conn : Nat) (h : Tracked loopOf s) {loop id : Nat}
    (hbatch : s.batch loop = some id)
    (hstep : s.step F S loopOf (.frame loop frame) = some s') :
    receivedOn conn s' = receivedOn conn s ++ if s.conns[id]? = some conn then [frame] else [] := by
  have hlengthens := lengthens_step h hstep
  obtain ⟨id', hbatch', rfl⟩ := Option.map_eq_some_iff.mp hstep
  obtain rfl : id = id' := by simpa using hbatch.symm.trans hbatch'
  have hreceived : (s.handleFrame F S id frame).received = s.received ++ [(frame, id)] := by
    unfold RpcServer.handleFrame
    cases Rpc.handleFrame F S frame with
    | reply writes => exact (emitted_writesInLoop _ _).received
    | dispatch => rfl
  rw [receivedOn_eq conn h hlengthens hreceived]
  congr 1
  -- the scope of an open batch is not new
  obtain ⟨scope, hget, -⟩ := h.open_batch hbatch
  have hlt := (List.getElem?_eq_some_iff.mp hget).1
  obtain ⟨later, hconns⟩ := hlengthens.conns
  have hsame : (s.handleFrame F S id frame).conns[id]? = s.conns[id]? := by
    rw [← hconns, List.getElem?_append_left (by simpa [conns] using hlt)]
  by_cases hconn : s.conns[id]? = some conn <;> simp [hsame, hconn]

/-! ## Replies tell the truth -/

/-- The octets reply to the frame with this number. -/
def Told (wire : RpcMeta → List UInt8) (s : RpcServer) (n : Nat) (bytes : List UInt8) : Prop :=
  ∃ frame id, s.received[n]? = some (frame, id) ∧ Replies wire frame (s.ended n) bytes

theorem Told.mono (h : Told wire s n bytes) (hreceived : s.received <+: s'.received)
    (hended : s'.ended n = s.ended n ∨ s.ended n = none) : Told wire s' n bytes := by
  obtain ⟨frame, id, hget, hreplies⟩ := h
  obtain ⟨later, hlater⟩ := hreceived
  refine ⟨frame, id, ?_, ?_⟩
  · rw [← hlater, List.getElem?_append_left (List.getElem?_eq_some_iff.mp hget).1]
    exact hget
  · obtain hsame | hnone := hended
    · rw [hsame]
      exact hreplies
    · rw [hnone] at hreplies
      exact hreplies.mono

/-- Everything that is written, or on its way to its loop, tells the truth, and only dispatched calls
end. -/
structure Truthful (wire : RpcMeta → List UInt8) (loopOf : Nat → Nat) (s : RpcServer) : Prop where
  tracked : Tracked loopOf s
  flushed : Flushed loopOf s
  running : ∀ n ∈ s.running.map (·.number), s.ended n = none ∧ n ∈ s.dispatched
  ended : ∀ n, (s.ended n).isSome = true → n ∈ s.dispatched
  onWay : ∀ w ∈ s.queue ++ s.posting.flatten, w.write.bytes ≠ [] → s.Told wire w.number w.write.bytes
  written : ∀ conn n bytes, .write conn n bytes ∈ s.output → s.Told wire n bytes

namespace Truthful

theorem start : Truthful wire loopOf {} := by
  refine ⟨.start, .start, ?_, ?_, ?_, ?_⟩ <;> simp

theorem bytes_of_mem_outputOf {headers : List (Nat × Bool)}
    (h : .write conn n bytes ∈ outputOf headers w) :
    w.number = n ∧ w.write.bytes = bytes ∧ bytes ≠ [] := by
  unfold outputOf at h
  split at h
  · simp at h
  · next conn' collecting hget =>
    cases collecting <;> simp only [RpcServer.written] at h <;> split at h <;> simp_all

/-- The loop thread writes what tells the truth. -/
theorem emitted (h : Truthful wire loopOf s) (hknown : ∀ w ∈ writes, s.Known w)
    (htold : ∀ w ∈ writes, w.write.bytes ≠ [] → s.Told wire w.number w.write.bytes) :
    Truthful wire loopOf (s.writesInLoop writes) := by
  have hem := emitted_writesInLoop s writes
  have hdispatched := (noFrame_writesInLoop s writes).dispatched
  obtain ⟨ht, hf, -⟩ := Replying.emitted h.tracked h.flushed hknown
  have hmono : ∀ {n bytes}, s.Told wire n bytes → (s.writesInLoop writes).Told wire n bytes :=
    fun htold => htold.mono (hem.received ▸ List.prefix_rfl) (.inl (by rw [hem.ended]))
  refine ⟨ht, hf, ?_, ?_, fun w hw hne => ?_, fun conn n bytes hmem => ?_⟩
  · rw [hem.running, hem.ended, hdispatched]
    exact h.running
  · rw [hem.ended, hdispatched]
    exact h.ended
  · rw [hem.queue, hem.posting] at hw
    exact hmono (h.onWay w hw hne)
  · rw [hem.output, List.mem_append, List.mem_flatMap] at hmem
    obtain hmem | ⟨w, hw, hmem⟩ := hmem
    · exact hmono (h.written conn n bytes hmem)
    · obtain ⟨rfl, rfl, hne⟩ := bytes_of_mem_outputOf hmem
      exact hmono (htold w hw hne)

theorem onMessage (h : Truthful wire loopOf s) (hbatch : s.batch (loopOf conn) = none) :
    Truthful wire loopOf { s with
      scopes := s.scopes ++ [{ conn := conn }]
      batch := Function.update s.batch (loopOf conn) (some s.scopes.length) } :=
  ⟨h.tracked.onMessage hbatch, h.flushed.onMessage h.tracked hbatch, h.running, h.ended,
    h.onWay, h.written⟩

/-- A frame is received. -/
theorem received (h : Truthful wire loopOf s) {id : Nat} (hid : id < s.scopes.length)
    (frame : RpcFrame) : Truthful wire loopOf { s with received := s.received ++ [(frame, id)] } := by
  have hmono : ∀ {n bytes}, s.Told wire n bytes →
      Told wire { s with received := s.received ++ [(frame, id)] } n bytes :=
    fun htold => htold.mono (List.prefix_append _ _) (.inl rfl)
  exact ⟨h.tracked.received hid frame, h.flushed.received (frame, id), h.running, h.ended,
    fun w hw hne => hmono (h.onWay w hw hne),
    fun conn n bytes hmem => hmono (h.written conn n bytes hmem)⟩

/-- The handler of the frame that is received next has not ended. -/
theorem ended_next (h : Truthful wire loopOf s) : s.ended s.received.length = none := by
  by_contra hsome
  have hlt := h.tracked.ended s.received.length (Option.isSome_iff_ne_none.mpr hsome)
  omega

theorem handleFrame (hF : F.Proto3 wire) (h : Truthful wire loopOf s) {id : Nat}
    (hid : id < s.scopes.length) (frame : RpcFrame) :
    Truthful wire loopOf (s.handleFrame F S id frame) := by
  have hnext : (s.received ++ [(frame, id)])[s.received.length]? = some (frame, id) :=
    Lists.getElem?_concat_eq_some_iff.mpr (.inr ⟨rfl, rfl⟩)
  unfold RpcServer.handleFrame
  cases hhandling : Rpc.handleFrame F S frame with
  | reply writes =>
    refine (h.received hid frame).emitted (known_frameWrites hnext writes) fun w hw hne => ?_
    obtain ⟨write, hwrite, rfl⟩ := List.mem_map.mp hw
    refine ⟨frame, id, hnext, ?_⟩
    dsimp only
    rw [h.ended_next]
    exact replies_of_reply hF hhandling hwrite
  | dispatch requestId traceId coroutine =>
    have hdispatch : (Rpc.handleFrame F S frame).isDispatch = true := by rw [hhandling]; rfl
    obtain ⟨rfl, rfl⟩ := ids_of_dispatch hhandling
    obtain ⟨-, hflushed, hrunning, hended, honWay, hwritten⟩ := h.received hid frame
    refine ⟨h.tracked.dispatch hid (type_of_isDispatch hdispatch) _ _,
      ⟨hflushed.conn, hflushed.flushed⟩, fun n hn => ?_,
      fun n hn => List.mem_append_left _ (hended n hn), honWay, hwritten⟩
    rw [List.map_append, List.mem_append] at hn
    obtain hn | hn := hn
    · exact ⟨(hrunning n hn).1, List.mem_append_left _ (hrunning n hn).2⟩
    · obtain rfl := List.mem_singleton.mp hn
      exact ⟨h.ended_next, List.mem_append_right _ (List.mem_singleton_self _)⟩

theorem close (h : Truthful wire loopOf s) {loop id : Nat} (hbatch : s.batch loop = some id) :
    Truthful wire loopOf { s.closeScope id with batch := Function.update s.batch loop none } := by
  obtain ⟨scope, hget, hopen, rfl⟩ := h.tracked.open_batch hbatch
  have hem := emitted_closeScope hget hopen (Function.update s.batch (loopOf scope.conn) none)
  have hdispatched := (noFrame_closeScope s id).dispatched
  have hmono : ∀ {n bytes}, s.Told wire n bytes → Told wire { s.closeScope id with
      batch := Function.update s.batch (loopOf scope.conn) none } n bytes :=
    fun htold => htold.mono (hem.received ▸ List.prefix_rfl) (.inl (by rw [hem.ended]))
  refine ⟨(h.tracked.closed hget hopen rfl).emitted hem,
    h.flushed.closed hget hbatch (by rfl) hem.headers hem.received rfl hem.output, ?_, ?_,
    fun w hw hne => ?_, fun conn n bytes hmem => ?_⟩
  · rw [hem.running, hem.ended]
    simp only [hdispatched]
    exact h.running
  · rw [hem.ended]
    simp only [hdispatched]
    exact h.ended
  · rw [hem.queue, hem.posting] at hw
    exact hmono (h.onWay w hw hne)
  · rw [hem.output] at hmem
    exact hmono (h.written conn n bytes (by simpa using hmem))

/-- The handler of a call ends; what it writes is not on its way yet. -/
theorem endCall (h : Truthful wire loopOf s) {index : Nat} {call : ServerCall}
    (hget : s.running[index]? = some call) (ended : HandlerEnd) :
    Truthful wire loopOf (s.endCall index call.number ended) := by
  have hcall := List.mem_map_of_mem (f := (·.number)) (List.mem_of_getElem? hget)
  have hmono : ∀ {n bytes}, s.Told wire n bytes →
      (s.endCall index call.number ended).Told wire n bytes := by
    intro n bytes htold
    refine htold.mono List.prefix_rfl ?_
    obtain rfl | hne := eq_or_ne n call.number
    · exact .inr (h.running _ hcall).1
    · exact .inl (Function.update_of_ne hne ..)
  refine ⟨h.tracked.endCall hget ended, ⟨h.flushed.conn, h.flushed.flushed⟩, fun n hn => ?_,
    fun n hn => ?_, fun w hw hne => hmono (h.onWay w hw hne),
    fun conn n bytes hmem => hmono (h.written conn n bytes hmem)⟩
  · obtain ⟨hlt, rfl⟩ := List.getElem?_eq_some_iff.mp hget
    have hperm := (List.getElem_cons_eraseIdx_perm hlt).map (·.number)
    have hnodup := hperm.nodup_iff.mpr h.tracked.nodup
    have hne : n ≠ s.running[index].number := by
      rintro rfl
      exact (List.nodup_cons.mp hnodup).1 hn
    have hold := h.running n (hperm.subset (List.mem_cons_of_mem _ hn))
    exact ⟨(Function.update_of_ne hne ..).trans hold.1, hold.2⟩
  · obtain rfl | hne := eq_or_ne n call.number
    · exact (h.running _ hcall).2
    · apply h.ended n
      simpa [RpcServer.endCall, hne] using hn

theorem told_finishCall (hF : F.Proto3 wire) (h : Truthful wire loopOf s) {index : Nat}
    {call : ServerCall} (hget : s.running[index]? = some call) (ended : HandlerEnd) :
    ∀ w ∈ frameWrites call.number call.scope
        (finishCall F call.requestId call.traceId ended),
      (s.endCall index call.number ended).Known w ∧
        (w.write.bytes ≠ [] →
          (s.endCall index call.number ended).Told wire w.number w.write.bytes) := by
  obtain ⟨frame, hframe, hid, -, htype⟩ := h.tracked.calls call (List.mem_of_getElem? hget)
  intro w hw
  refine ⟨known_frameWrites (s := s.endCall index call.number ended) hframe _ w hw, fun hne => ?_⟩
  obtain ⟨write, hwrite, rfl⟩ := List.mem_map.mp hw
  refine ⟨frame, call.scope, hframe, ?_⟩
  rw [hid] at hwrite
  have hended : (s.endCall index call.number ended).ended call.number = some ended :=
    Function.update_self ..
  dsimp only
  rw [hended]
  exact replies_finishCall hF htype hwrite hne

/-- Writes go to where they are posted, or from there to the queue of a loop. -/
theorem posted (h : Truthful wire loopOf s) {posting : List (List FrameWrite)} {queue : List FrameWrite}
    (hwrites : ∀ w ∈ queue ++ posting.flatten, s.Known w ∧
      (w.write.bytes ≠ [] → s.Told wire w.number w.write.bytes)) :
    Truthful wire loopOf { s with posting := posting, queue := queue } :=
  ⟨h.tracked.posted fun w hw => (hwrites w hw).1, ⟨h.flushed.conn, h.flushed.flushed⟩, h.running,
    h.ended, fun w hw hne => (hwrites w hw).2 hne, h.written⟩

theorem step (hF : F.Proto3 wire) (h : Truthful wire loopOf s) (hstep : s.step F S loopOf l = some s') :
    Truthful wire loopOf s' := by
  have hold : ∀ w ∈ s.queue ++ s.posting.flatten, s.Known w ∧
      (w.write.bytes ≠ [] → s.Told wire w.number w.write.bytes) :=
    fun w hw => ⟨h.tracked.writes w hw, h.onWay w hw⟩
  cases l with
  | onMessage conn =>
    simp only [RpcServer.step, Option.ite_none_right_eq_some, Option.isNone_iff_eq_none] at hstep
    obtain ⟨hbatch, hstep⟩ := hstep
    cases hstep
    exact h.onMessage hbatch
  | frame loop frame =>
    obtain ⟨id, hbatch, rfl⟩ := Option.map_eq_some_iff.mp hstep
    obtain ⟨scope, hget, -⟩ := h.tracked.open_batch hbatch
    exact h.handleFrame hF (List.getElem?_eq_some_iff.mp hget).1 frame
  | close loop =>
    obtain ⟨id, hbatch, rfl⟩ := Option.map_eq_some_iff.mp hstep
    exact h.close hbatch
  | finishInLoop index ended =>
    obtain ⟨call, hget, rfl⟩ := Option.map_eq_some_iff.mp hstep
    have htold := h.told_finishCall hF hget ended
    exact (h.endCall hget ended).emitted (fun w hw => (htold w hw).1) fun w hw => (htold w hw).2
  | finishElsewhere index ended =>
    obtain ⟨call, hget, rfl⟩ := Option.map_eq_some_iff.mp hstep
    have hended := h.endCall hget ended
    refine hended.posted fun w hw => ?_
    rw [List.flatten_append, List.flatten_singleton, ← List.append_assoc, List.mem_append] at hw
    obtain hw | hw := hw
    · exact ⟨hended.tracked.writes w hw, hended.onWay w hw⟩
    · exact h.told_finishCall hF hget ended w hw
  | post index =>
    simp only [RpcServer.step] at hstep
    split at hstep
    · next w writes hget =>
      cases hstep
      refine h.posted fun w' hw' => hold w' ?_
      obtain ⟨hlt, hwrites⟩ := List.getElem?_eq_some_iff.mp hget
      have hfrom := (List.getElem_cons_eraseIdx_perm hlt).flatten
      rw [hwrites, List.flatten_cons] at hfrom
      have hto := (List.set_perm_cons_eraseIdx hlt writes).flatten
      rw [List.flatten_cons] at hto
      rw [List.append_assoc] at hw'
      exact (((hto.cons w).trans hfrom).append_left s.queue).subset hw'
    · cases hstep
  | runNext loop =>
    simp only [RpcServer.step, Option.ite_none_right_eq_some] at hstep
    obtain ⟨-, hstep⟩ := hstep
    obtain ⟨w, hfind, rfl⟩ := Option.map_eq_some_iff.mp hstep
    have herase : Truthful wire loopOf
        { s with queue := s.queue.eraseP (s.loopOfWrite loopOf · = some loop) } := by
      refine h.posted fun w' hw' => hold w' ?_
      rw [List.mem_append] at hw' ⊢
      exact hw'.imp_left fun hmem => List.mem_of_mem_eraseP hmem
    have hw := hold w (List.mem_append_left _ (List.mem_of_find?_eq_some hfind))
    change Truthful wire loopOf (writesInLoop _ [w])
    refine herase.emitted (fun w' hw' => ?_) fun w' hw' => ?_
    · rw [List.mem_singleton.mp hw']
      exact hw.1
    · rw [List.mem_singleton.mp hw']
      exact hw.2

end Truthful

end RpcServer

end NebulaRpc.Rpc
