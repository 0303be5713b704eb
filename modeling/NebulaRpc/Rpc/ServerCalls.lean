import NebulaRpc.Library.Transition
import NebulaRpc.Rpc.Server

/-!
# The calls of a server

An `RpcServer` with any number of connections on any number of io loops. A run of `OnMessage` is a
batch with its `ResponseFlushScope`; a handler may end inside of it, later on the loop of the
connection, or on another thread, from which each `ResponseFlushScope::Write` is posted to that
loop. The loop runs what is posted to it between its events, in order.

The frames that are received are numbered, and a call has the number of its frame. What the server
does with its connections is kept as a list of `Write` and `Flush`; on a connection that is closed
these do nothing, and nothing here depends on it.
-/

namespace NebulaRpc.Rpc

/-- `ResponseFlushScope`. -/
structure ResponseFlushScope where
  conn : Nat
  collecting : Bool := true
  finishedCalls : Nat := 0
  /-- the calls that `finishedCalls` counts -/
  finished : List Nat := []

/-- A request that has been dispatched to its handler. -/
structure ServerCall where
  number : Nat
  scope : Nat
  requestId : UInt64
  traceId : UInt64

/-- A call of `ResponseFlushScope::Write`, for the frame with this number. -/
structure FrameWrite where
  number : Nat
  scope : Nat
  write : ScopeWrite

/-- What the server does with a connection. -/
inductive ServerOutput where
  | write (conn number : Nat) (bytes : List UInt8)
  | flush (conn : Nat)

structure RpcServer where
  inFlight : UInt64 := 0
  /-- every scope there has been, by its number -/
  scopes : List ResponseFlushScope := []
  /-- the scope of the batch that a loop is in -/
  batch : Nat → Option Nat := fun _ => none
  /-- the frames received, by their number, with their scope -/
  received : List (RpcFrame × Nat) := []
  /-- the calls whose handler has not ended -/
  running : List ServerCall := []
  /-- how the handlers of the other calls have ended -/
  ended : Nat → Option HandlerEnd := fun _ => none
  /-- what other threads have still to post for the calls that they have ended -/
  posting : List (List FrameWrite) := []
  /-- what is posted to the loops -/
  queue : List FrameWrite := []
  /-- the calls that have been added to `inFlight` -/
  dispatched : List Nat := []
  /-- the calls that have been subtracted from `inFlight` -/
  accounted : List Nat := []
  output : List ServerOutput := []

inductive RpcServerStep where
  /-- `OnMessage` begins on this connection -/
  | onMessage (conn : Nat)
  /-- a frame is decoded in the batch of this loop -/
  | frame (loop : Nat) (frame : RpcFrame)
  /-- the end of `OnMessage` on this loop -/
  | close (loop : Nat)
  /-- a handler ends on the loop of its connection -/
  | finishInLoop (index : Nat) (ended : HandlerEnd)
  /-- a handler ends on another thread -/
  | finishElsewhere (index : Nat) (ended : HandlerEnd)
  /-- this thread posts its next write -/
  | post (index : Nat)
  /-- a loop runs the next functor that was posted to it -/
  | runNext (loop : Nat)

/-- The frame is handed to a handler. -/
def Handling.isDispatch : Handling → Bool
  | .reply _ => false
  | .dispatch .. => true

namespace RpcServer

/-- `OnCallsFinished`; `calls` are the calls that `count` stands for. -/
def onCallsFinished (s : RpcServer) (count : Nat) (calls : List Nat) : RpcServer :=
  if count = 0 then s
  else { s with inFlight := s.inFlight - UInt64.ofNat count, accounted := s.accounted ++ calls }

/-- `conn_->Write`, for bytes that are not empty. -/
def written (conn : Nat) (w : FrameWrite) : List ServerOutput :=
  if w.write.bytes ≠ [] then [.write conn w.number w.write.bytes] else []

/-- `ResponseFlushScope::WriteInLoop`. -/
def writeInLoop (s : RpcServer) (w : FrameWrite) : RpcServer :=
  match s.scopes[w.scope]? with
  | none => s
  | some scope =>
    let s := { s with output := s.output ++ written scope.conn w }
    if scope.collecting then
      if w.write.finishCall then
        { s with scopes := s.scopes.set w.scope { scope with
            finishedCalls := scope.finishedCalls + 1, finished := scope.finished ++ [w.number] } }
      else s
    else
      let s := { s with output := s.output ++ [.flush scope.conn] }
      if w.write.finishCall then s.onCallsFinished 1 [w.number] else s

/-- `ResponseFlushScope::Close`. -/
def closeScope (s : RpcServer) (id : Nat) : RpcServer :=
  match s.scopes[id]? with
  | none => s
  | some scope =>
    if scope.collecting then
      let s := { s with
        scopes := s.scopes.set id { scope with
          collecting := false, finishedCalls := 0, finished := [] }
        output := s.output ++ [.flush scope.conn] }
      if scope.finishedCalls ≠ 0 then s.onCallsFinished scope.finishedCalls scope.finished else s
    else s

/-- The writes of one frame. -/
def frameWrites (number scope : Nat) (writes : List ScopeWrite) : List FrameWrite :=
  writes.map fun write => ⟨number, scope, write⟩

/-- Writes on the loop thread, one after the other. -/
def writesInLoop (s : RpcServer) (writes : List FrameWrite) : RpcServer :=
  writes.foldl writeInLoop s

/-- The body of the loop in `OnMessage`, from the decoded frame on. -/
def handleFrame (F : MetaFormat) (S : Services) (s : RpcServer) (scope : Nat) (frame : RpcFrame) :
    RpcServer :=
  let number := s.received.length
  let s := { s with received := s.received ++ [(frame, scope)] }
  match Rpc.handleFrame F S frame with
  | .reply writes => s.writesInLoop (frameWrites number scope writes)
  | .dispatch requestId traceId _ =>
    { s with
      inFlight := s.inFlight + 1
      dispatched := s.dispatched ++ [number]
      running := s.running ++ [⟨number, scope, requestId, traceId⟩] }

/-- The handler of a call ends. -/
def endCall (s : RpcServer) (index number : Nat) (ended : HandlerEnd) : RpcServer :=
  { s with
    running := s.running.eraseIdx index
    ended := Function.update s.ended number (some ended) }

/-- The loop on which a write runs. -/
def loopOfWrite (loopOf : Nat → Nat) (s : RpcServer) (w : FrameWrite) : Option Nat :=
  s.scopes[w.scope]?.map fun scope => loopOf scope.conn

def step (F : MetaFormat) (S : Services) (loopOf : Nat → Nat) (s : RpcServer) :
    RpcServerStep → Option RpcServer
  | .onMessage conn =>
    if (s.batch (loopOf conn)).isNone then
      some { s with
        scopes := s.scopes ++ [{ conn := conn }]
        batch := Function.update s.batch (loopOf conn) (some s.scopes.length) }
    else none
  | .frame loop frame => (s.batch loop).map fun scope => s.handleFrame F S scope frame
  | .close loop =>
    (s.batch loop).map fun scope =>
      { s.closeScope scope with batch := Function.update s.batch loop none }
  | .finishInLoop index ended =>
    (s.running[index]?).map fun call =>
      (s.endCall index call.number ended).writesInLoop
        (frameWrites call.number call.scope (finishCall F call.requestId call.traceId ended))
  | .finishElsewhere index ended =>
    (s.running[index]?).map fun call =>
      { s.endCall index call.number ended with
        posting := s.posting ++ [frameWrites call.number call.scope
          (finishCall F call.requestId call.traceId ended)] }
  | .post index =>
    match s.posting[index]? with
    | some (w :: writes) =>
      some { s with posting := s.posting.set index writes, queue := s.queue ++ [w] }
    | _ => none
  | .runNext loop =>
    -- functors run between the events of the loop
    if (s.batch loop).isNone then
      (s.queue.find? (s.loopOfWrite loopOf · = some loop)).map fun w =>
        { s with queue := s.queue.eraseP (s.loopOfWrite loopOf · = some loop) }.writeInLoop w
    else none

def run (F : MetaFormat) (S : Services) (loopOf : Nat → Nat) (s : RpcServer)
    (steps : List RpcServerStep) : Option RpcServer :=
  Transition.run (step F S loopOf) s steps

/-! ## In-flight calls -/

/-- The calls whose end these writes report. -/
def finishing (writes : List FrameWrite) : List Nat :=
  (writes.filter (·.write.finishCall)).map (·.number)

/-- The calls that are counted in open batches. -/
def batched (s : RpcServer) : List Nat := (s.scopes.map (·.finished)).flatten

/-- The dispatched calls that have not been subtracted: the handler runs, or its end is on its way to
the loop, or the batch in which it ended is open. -/
def outstanding (s : RpcServer) : List Nat :=
  s.running.map (·.number) ++
    (finishing s.posting.flatten ++ (finishing s.queue ++ s.batched))

/-- What the counter says. -/
structure Exact (F : MetaFormat) (S : Services) (s : RpcServer) : Prop where
  /-- the counter is the number of calls that are outstanding -/
  inFlight : s.inFlight = UInt64.ofNat s.outstanding.length
  /-- every dispatched call is outstanding or has been subtracted, and only once -/
  accounted : s.dispatched.Perm (s.outstanding ++ s.accounted)
  nodup : s.dispatched.Nodup
  /-- the frames that are counted are those that are handed to a handler -/
  dispatched : ∀ n, n ∈ s.dispatched ↔ ∃ frame scope, s.received[n]? = some (frame, scope) ∧
    (Rpc.handleFrame F S frame).isDispatch = true

/-- The scopes count their calls, and everything on its way has a scope. -/
structure Counted (s : RpcServer) : Prop where
  counts : ∀ scope ∈ s.scopes, scope.finishedCalls = scope.finished.length
  closed : ∀ scope ∈ s.scopes, scope.collecting = false → scope.finished = []
  running : ∀ call ∈ s.running, call.scope < s.scopes.length
  posting : ∀ w ∈ s.posting.flatten, w.scope < s.scopes.length
  queue : ∀ w ∈ s.queue, w.scope < s.scopes.length
  batch : ∀ loop scope, s.batch loop = some scope → scope < s.scopes.length

variable {F : MetaFormat} {S : Services} {loopOf : Nat → Nat} {s s' : RpcServer}
  {w : FrameWrite} {writes : List FrameWrite} {l : RpcServerStep}

/-- What the loop thread does when it writes for calls or closes a batch: each call that ends with
one of the writes is counted in a batch or subtracted. -/
structure Wrote (writes : List FrameWrite) (s s' : RpcServer) : Prop where
  running : s'.running = s.running
  posting : s'.posting = s.posting
  queue : s'.queue = s.queue
  received : s'.received = s.received
  dispatched : s'.dispatched = s.dispatched
  batch : s'.batch = s.batch
  scopes : s'.scopes.length = s.scopes.length
  counts : ∀ scope ∈ s'.scopes, scope.finishedCalls = scope.finished.length
  closed : ∀ scope ∈ s'.scopes, scope.collecting = false → scope.finished = []
  moved : (s'.batched ++ s'.accounted).Perm (finishing writes ++ (s.batched ++ s.accounted))
  total : s'.inFlight + UInt64.ofNat s'.accounted.length =
    s.inFlight + UInt64.ofNat s.accounted.length

theorem Wrote.refl (h : Counted s) : Wrote [] s s :=
  ⟨rfl, rfl, rfl, rfl, rfl, rfl, rfl, h.counts, h.closed, .refl _, rfl⟩

theorem finishing_append (writes later : List FrameWrite) :
    finishing (writes ++ later) = finishing writes ++ finishing later := by
  simp [finishing]

theorem finishing_cons (w : FrameWrite) (writes : List FrameWrite) :
    finishing (w :: writes) = finishing [w] ++ finishing writes :=
  finishing_append [w] writes

theorem Wrote.counted (h : Counted s) (hw : Wrote writes s s') : Counted s' := by
  refine ⟨hw.counts, hw.closed, ?_, ?_, ?_, ?_⟩
  · rw [hw.running, hw.scopes]; exact h.running
  · rw [hw.posting, hw.scopes]; exact h.posting
  · rw [hw.queue, hw.scopes]; exact h.queue
  · rw [hw.batch, hw.scopes]; exact h.batch

theorem Wrote.trans {s₁ : RpcServer} {later : List FrameWrite} (h : Wrote writes s s₁)
    (h' : Wrote later s₁ s') : Wrote (writes ++ later) s s' := by
  refine ⟨h'.running.trans h.running, h'.posting.trans h.posting, h'.queue.trans h.queue,
    h'.received.trans h.received, h'.dispatched.trans h.dispatched, h'.batch.trans h.batch,
    h'.scopes.trans h.scopes, h'.counts, h'.closed, ?_, h'.total.trans h.total⟩
  rw [finishing_append]
  refine h'.moved.trans ((h.moved.append_left _).trans ?_)
  rw [← List.append_assoc]
  exact List.perm_append_comm.append_right _

/-- The calls in the batches, of which one changes. -/
theorem batched_set {id : Nat} {scope : ResponseFlushScope} (hget : s.scopes[id]? = some scope)
    (scope' : ResponseFlushScope) : ∃ others, s.batched.Perm (scope.finished ++ others) ∧
      ((s.scopes.set id scope').map (·.finished)).flatten.Perm (scope'.finished ++ others) := by
  obtain ⟨hlt, rfl⟩ := List.getElem?_eq_some_iff.mp hget
  refine ⟨((s.scopes.eraseIdx id).map (·.finished)).flatten, ?_, ?_⟩
  · exact ((List.getElem_cons_eraseIdx_perm hlt).symm.map (·.finished)).flatten
  · exact ((List.set_perm_cons_eraseIdx hlt scope').map (·.finished)).flatten

/-- A scope that changes keeps to its count. -/
theorem forall_mem_set {P : ResponseFlushScope → Prop} (h : ∀ scope ∈ s.scopes, P scope) (id : Nat)
    {scope' : ResponseFlushScope} (h' : P scope') : ∀ scope ∈ s.scopes.set id scope', P scope := by
  intro scope hscope
  obtain hscope | rfl := List.mem_or_eq_of_mem_set hscope
  · exact h scope hscope
  · exact h'

/-- A subtraction leaves the rest as it is. -/
theorem onCallsFinished_eq (s : RpcServer) {count : Nat} {calls : List Nat}
    (hcount : count = calls.length) : s.onCallsFinished count calls =
      { s with
        inFlight := s.inFlight - UInt64.ofNat count
        accounted := s.accounted ++ calls } := by
  unfold onCallsFinished
  split
  · next hzero =>
    obtain rfl : calls = [] := List.length_eq_zero_iff.mp (hcount.symm.trans hzero)
    simp [hzero]
  · rfl

theorem sub_add_ofNat (inFlight : UInt64) (count accounted : Nat) :
    inFlight - UInt64.ofNat count + UInt64.ofNat (accounted + count) =
      inFlight + UInt64.ofNat accounted := by
  rw [UInt64.ofNat_add]
  grind

theorem wrote_writeInLoop (h : Counted s) (hscope : w.scope < s.scopes.length) :
    Wrote [w] s (s.writeInLoop w) := by
  have hget : s.scopes[w.scope]? = some s.scopes[w.scope] := List.getElem?_eq_getElem hscope
  set scope := s.scopes[w.scope] with hset
  have hmem : scope ∈ s.scopes := List.getElem_mem hscope
  have hsame : ∀ output, w.write.finishCall = false →
      Wrote [w] s { s with output := output } := by
    intro output hfinish
    refine ⟨rfl, rfl, rfl, rfl, rfl, rfl, rfl, h.counts, h.closed, ?_, rfl⟩
    simp [finishing, hfinish, batched]
  unfold writeInLoop
  rw [hget]
  dsimp only
  cases hfinish : w.write.finishCall with
  | false =>
    split
    · exact hsame _ hfinish
    · exact hsame _ hfinish
  | true =>
    have hone : finishing [w] = [w.number] := by simp [finishing, hfinish]
    split
    · -- the call is counted in its batch
      next hcollecting =>
      obtain ⟨others, hold, hnew⟩ := batched_set hget { scope with
        finishedCalls := scope.finishedCalls + 1, finished := scope.finished ++ [w.number] }
      refine ⟨rfl, rfl, rfl, rfl, rfl, rfl, List.length_set .., ?_, ?_, ?_, rfl⟩
      · apply forall_mem_set h.counts w.scope
        simp [h.counts scope hmem]
      · apply forall_mem_set h.closed w.scope
        simp [hcollecting]
      · rw [hone, ← List.append_assoc]
        apply List.Perm.append_right
        refine hnew.trans ?_
        simp only [List.append_assoc]
        exact List.perm_middle.trans ((hold.symm).cons _)
    · -- the call is subtracted at once
      rw [if_pos rfl, onCallsFinished_eq _ (show 1 = [w.number].length from rfl)]
      refine ⟨rfl, rfl, rfl, rfl, rfl, rfl, rfl, h.counts, h.closed, ?_, ?_⟩
      · rw [hone]
        show (s.batched ++ (s.accounted ++ [w.number])).Perm _
        rw [← List.append_assoc]
        exact List.perm_append_comm
      · dsimp only
        rw [List.length_append, List.length_singleton]
        exact sub_add_ofNat s.inFlight 1 s.accounted.length

theorem wrote_closeScope (h : Counted s) (id : Nat) : Wrote [] s (s.closeScope id) := by
  unfold closeScope
  cases hget : s.scopes[id]? with
  | none => exact .refl h
  | some scope =>
    have hmem : scope ∈ s.scopes := List.mem_of_getElem? hget
    have hcount := h.counts scope hmem
    obtain ⟨others, hold, hnew⟩ := batched_set hget { scope with
      collecting := false, finishedCalls := 0, finished := [] }
    dsimp only
    split
    · -- the calls of the batch are subtracted together
      have hif : ∀ s : RpcServer, (if scope.finishedCalls ≠ 0 then
          s.onCallsFinished scope.finishedCalls scope.finished else s) =
            s.onCallsFinished scope.finishedCalls scope.finished := by
        intro s
        split
        · rfl
        · next hzero => rw [onCallsFinished, if_pos (not_not.mp hzero)]
      rw [hif, onCallsFinished_eq _ hcount]
      refine ⟨rfl, rfl, rfl, rfl, rfl, rfl, List.length_set .., forall_mem_set h.counts id rfl,
        forall_mem_set h.closed id fun _ => rfl, ?_, ?_⟩
      · show (((s.scopes.set id _).map (·.finished)).flatten ++ (s.accounted ++ scope.finished)).Perm
          (s.batched ++ s.accounted)
        refine (hnew.append_right _).trans ?_
        rw [List.nil_append, ← List.append_assoc]
        refine List.perm_append_comm.trans ?_
        rw [← List.append_assoc]
        exact hold.symm.append_right _
      · dsimp only
        rw [List.length_append, hcount]
        exact sub_add_ofNat s.inFlight scope.finished.length s.accounted.length
    · exact .refl h

theorem wrote_writesInLoop (h : Counted s) (hscopes : ∀ w ∈ writes, w.scope < s.scopes.length) :
    Wrote writes s (s.writesInLoop writes) := by
  induction writes generalizing s with
  | nil => exact .refl h
  | cons w writes ih =>
    have hw := wrote_writeInLoop h (hscopes w List.mem_cons_self)
    apply hw.trans
    apply ih (hw.counted h)
    rw [hw.scopes]
    exact fun w' hw' => hscopes w' (List.mem_cons_of_mem _ hw')

/-! ## The steps -/

/-- The counter and the calls agree. -/
structure Balanced (s : RpcServer) : Prop where
  counted : Counted s
  total : s.inFlight + UInt64.ofNat s.accounted.length = UInt64.ofNat s.dispatched.length
  partition : s.dispatched.Perm (s.outstanding ++ s.accounted)

/-- The frames that are counted are those that are handed to a handler. -/
structure Numbered (F : MetaFormat) (S : Services) (s : RpcServer) : Prop where
  nodup : s.dispatched.Nodup
  dispatched : ∀ n, n ∈ s.dispatched ↔ ∃ frame scope, s.received[n]? = some (frame, scope) ∧
    (Rpc.handleFrame F S frame).isDispatch = true

theorem Balanced.start : Balanced {} := by
  refine ⟨⟨?_, ?_, ?_, ?_, ?_, ?_⟩, rfl, .refl _⟩ <;> simp

theorem Numbered.start : Numbered F S {} := ⟨List.nodup_nil, by simp⟩

/-- The loop thread writes, and takes the calls that end with it from where they were. -/
theorem Balanced.wrote (h : Balanced s) {s₁ : RpcServer} (hcounted : Counted s₁)
    (hw : Wrote writes s₁ s') (hinFlight : s₁.inFlight = s.inFlight)
    (haccounted : s₁.accounted = s.accounted) (hdispatched : s₁.dispatched = s.dispatched)
    (hmoved : (s₁.outstanding ++ finishing writes).Perm s.outstanding) : Balanced s' := by
  refine ⟨hw.counted hcounted, ?_, ?_⟩
  · rw [hw.total, hw.dispatched, hinFlight, haccounted, hdispatched]
    exact h.total
  · rw [hw.dispatched, hdispatched, List.perm_iff_count]
    intro n
    have hpartition := h.partition.count_eq n
    have hn := hmoved.count_eq n
    have hwrote := hw.moved.count_eq n
    simp only [outstanding, hw.running, hw.posting, hw.queue, List.count_append, haccounted]
      at hpartition hn hwrote ⊢
    omega

/-- Calls move from one place to another. -/
theorem Balanced.moved (h : Balanced s) (hcounted : Counted s') (hinFlight : s'.inFlight = s.inFlight)
    (haccounted : s'.accounted = s.accounted) (hdispatched : s'.dispatched = s.dispatched)
    (hmoved : s'.outstanding.Perm s.outstanding) : Balanced s' := by
  apply h.wrote hcounted (Wrote.refl hcounted) hinFlight haccounted hdispatched
  simpa [finishing] using hmoved

/-! What the writes of a frame end. -/

theorem finishing_frameWrites (number scope : Nat) (writes : List ScopeWrite) :
    finishing (frameWrites number scope writes) =
      List.replicate (writes.countP (·.finishCall)) number := by
  induction writes with
  | nil => rfl
  | cons write writes ih =>
    rw [frameWrites, List.map_cons, finishing_cons, List.countP_cons]
    change _ ++ finishing (frameWrites number scope writes) = _
    rw [ih]
    cases hfinish : write.finishCall with
    | false => simp [finishing, hfinish]
    | true => simp [finishing, hfinish, List.replicate_succ]

theorem scope_frameWrites {number scope : Nat} {writes : List ScopeWrite} :
    ∀ w ∈ frameWrites number scope writes, w.scope = scope := by
  intro w hw
  obtain ⟨write, -, rfl⟩ := List.mem_map.mp hw
  rfl

theorem countP_sendError (F : MetaFormat) (requestId traceId : UInt64) (code : RpcErrorCode)
    (text : List UInt8) :
    (sendError F requestId traceId code text).countP (·.finishCall) = 0 := by
  unfold sendError
  dsimp only
  split <;> rfl

theorem countP_finishWithError (F : MetaFormat) (requestId traceId : UInt64) (code : RpcErrorCode)
    (text : List UInt8) :
    (finishWithError F requestId traceId code text).countP (·.finishCall) = 1 := by
  rw [finishWithError, List.countP_append, countP_sendError]
  rfl

theorem countP_sendResponse (F : MetaFormat) (requestId traceId : UInt64) (response : MessageLite) :
    (sendResponse F requestId traceId response).countP (·.finishCall) = 1 := by
  unfold sendResponse
  split
  · exact countP_finishWithError ..
  · dsimp only
    split
    · exact countP_finishWithError ..
    · rfl

/-- The end of a handler is reported once. -/
theorem countP_finishCall (F : MetaFormat) (requestId traceId : UInt64) (ended : HandlerEnd) :
    (finishCall F requestId traceId ended).countP (·.finishCall) = 1 := by
  cases ended with
  | done response => exact countP_sendResponse ..
  | coroutine result =>
    cases result with
    | returned response =>
      cases response with
      | none => exact countP_finishWithError ..
      | some response => exact countP_sendResponse ..
    | rpcServiceError code message | rpcError message | exception message | unknown =>
      exact countP_finishWithError ..

/-- The reply to a frame that is not dispatched ends no call. -/
theorem countP_reply {frame : RpcFrame} {writes : List ScopeWrite}
    (hreply : Rpc.handleFrame F S frame = .reply writes) : writes.countP (·.finishCall) = 0 := by
  have herror : ∀ code text, .reply (sendError F frame.rpcMeta.requestId frame.rpcMeta.traceId code
      text) = Handling.reply writes → writes.countP (·.finishCall) = 0 := by
    intro code text heq
    cases heq
    exact countP_sendError ..
  unfold Rpc.handleFrame Rpc.handleRequest handleCoroutineRequest at hreply
  split at hreply
  · cases hreply
    unfold sendHeartbeatEcho
    dsimp only
    split <;> rfl
  · split at hreply
    · dsimp only at hreply
      repeat' split at hreply
      all_goals first | exact herror _ _ hreply | cases hreply
    · exact herror _ _ hreply

/-! One lemma for each step. -/

theorem Balanced.onMessage (h : Balanced s) (conn : Nat) :
    Balanced { s with
      scopes := s.scopes ++ [{ conn := conn }]
      batch := Function.update s.batch (loopOf conn) (some s.scopes.length) } := by
  have hcounted := h.counted
  refine h.moved ⟨?_, ?_, ?_, ?_, ?_, ?_⟩ rfl rfl rfl (.of_eq ?_)
  · intro scope hscope
    rw [List.mem_append, List.mem_singleton] at hscope
    obtain hscope | rfl := hscope
    · exact hcounted.counts scope hscope
    · rfl
  · intro scope hscope
    rw [List.mem_append, List.mem_singleton] at hscope
    obtain hscope | rfl := hscope
    · exact hcounted.closed scope hscope
    · exact fun _ => rfl
  · intro call hcall
    have hlt := hcounted.running call hcall
    simp only [List.length_append]
    omega
  · intro w hw
    have hlt := hcounted.posting w hw
    simp only [List.length_append]
    omega
  · intro w hw
    have hlt := hcounted.queue w hw
    simp only [List.length_append]
    omega
  · intro loop scope hbatch
    simp only [List.length_append, List.length_singleton]
    by_cases hloop : loop = loopOf conn
    · subst hloop
      have heq : s.scopes.length = scope := by simpa using hbatch
      omega
    · have hlt := hcounted.batch loop scope (by simpa [hloop] using hbatch)
      omega
  · simp [outstanding, batched]

theorem Balanced.dispatch (h : Balanced s) {scope : Nat} (hscope : scope < s.scopes.length)
    (frame : RpcFrame) (requestId traceId : UInt64) :
    Balanced { s with
      received := s.received ++ [(frame, scope)]
      inFlight := s.inFlight + 1
      dispatched := s.dispatched ++ [s.received.length]
      running := s.running ++ [⟨s.received.length, scope, requestId, traceId⟩] } := by
  have hcounted := h.counted
  refine ⟨⟨hcounted.counts, hcounted.closed, ?_, hcounted.posting, hcounted.queue, hcounted.batch⟩,
    ?_, ?_⟩
  · intro call hcall
    rw [List.mem_append, List.mem_singleton] at hcall
    obtain hcall | rfl := hcall
    · exact hcounted.running call hcall
    · exact hscope
  · dsimp only
    rw [List.length_append, List.length_singleton, UInt64.ofNat_add, ← h.total]
    grind
  · rw [List.perm_iff_count]
    intro n
    have hpartition := h.partition.count_eq n
    simp only [outstanding, batched, List.map_append, List.map_cons, List.map_nil, List.count_append]
      at hpartition ⊢
    omega

theorem Balanced.handleFrame (h : Balanced s) {scope : Nat} (hscope : scope < s.scopes.length)
    (frame : RpcFrame) : Balanced (s.handleFrame F S scope frame) := by
  have hcounted := h.counted
  unfold RpcServer.handleFrame
  cases hhandling : Rpc.handleFrame F S frame with
  | reply writes =>
    have hcounted₁ : Counted { s with received := s.received ++ [(frame, scope)] } :=
      ⟨hcounted.counts, hcounted.closed, hcounted.running, hcounted.posting, hcounted.queue,
        hcounted.batch⟩
    refine h.wrote hcounted₁ (wrote_writesInLoop hcounted₁ ?_) rfl rfl rfl ?_
    · intro w hw
      rw [scope_frameWrites w hw]
      exact hscope
    · rw [finishing_frameWrites, countP_reply hhandling, List.replicate_zero, List.append_nil]
      exact .refl _
  | dispatch requestId traceId coroutine => exact h.dispatch hscope frame requestId traceId

theorem Balanced.close (h : Balanced s) (loop scope : Nat) :
    Balanced { s.closeScope scope with batch := Function.update s.batch loop none } := by
  have hcounted := h.counted
  have hw := wrote_closeScope hcounted scope
  have hclosed : Balanced (s.closeScope scope) := by
    apply h.wrote hcounted hw rfl rfl rfl
    simp [finishing]
  obtain ⟨hcounts, hzero, hrunning, hposting, hqueue, hbatch⟩ := hclosed.counted
  refine hclosed.moved ⟨hcounts, hzero, hrunning, hposting, hqueue, ?_⟩ rfl rfl rfl (.refl _)
  intro loop' scope' hsome
  dsimp only at hsome ⊢
  rw [hw.scopes]
  by_cases hloop : loop' = loop
  · simp [hloop] at hsome
  · exact hcounted.batch loop' scope' (by simpa [hloop] using hsome)

/-- The handler of a call ends on the loop of its connection. -/
theorem Balanced.finishInLoop (h : Balanced s) {index : Nat} {call : ServerCall}
    (hget : s.running[index]? = some call) (ended : HandlerEnd) :
    Balanced ((s.endCall index call.number ended).writesInLoop
      (frameWrites call.number call.scope (finishCall F call.requestId call.traceId ended))) := by
  have hcounted := h.counted
  obtain ⟨hlt, rfl⟩ := List.getElem?_eq_some_iff.mp hget
  have hcounted₁ : Counted (s.endCall index s.running[index].number ended) :=
    ⟨hcounted.counts, hcounted.closed,
      fun call hcall => hcounted.running call (List.mem_of_mem_eraseIdx hcall), hcounted.posting,
      hcounted.queue, hcounted.batch⟩
  refine h.wrote hcounted₁ (wrote_writesInLoop hcounted₁ ?_) rfl rfl rfl ?_
  · intro w hw
    rw [scope_frameWrites w hw]
    exact hcounted.running _ (List.getElem_mem hlt)
  · rw [finishing_frameWrites, countP_finishCall, List.perm_iff_count]
    intro n
    have herase := ((List.getElem_cons_eraseIdx_perm hlt).map (·.number)).count_eq n
    simp only [outstanding, batched, endCall, List.map_cons, List.count_append, List.count_cons,
      List.replicate_one, List.count_nil] at herase ⊢
    omega

/-- The handler of a call ends on another thread. -/
theorem Balanced.finishElsewhere (h : Balanced s) {index : Nat} {call : ServerCall}
    (hget : s.running[index]? = some call) (ended : HandlerEnd) :
    Balanced { s.endCall index call.number ended with
      posting := s.posting ++ [frameWrites call.number call.scope
        (finishCall F call.requestId call.traceId ended)] } := by
  have hcounted := h.counted
  obtain ⟨hlt, rfl⟩ := List.getElem?_eq_some_iff.mp hget
  refine h.moved ⟨hcounted.counts, hcounted.closed,
    fun call hcall => hcounted.running call (List.mem_of_mem_eraseIdx hcall), ?_, hcounted.queue,
    hcounted.batch⟩ rfl rfl rfl ?_
  · intro w hw
    rw [List.flatten_append, List.mem_append] at hw
    obtain hw | hw := hw
    · exact hcounted.posting w hw
    · rw [List.flatten_singleton] at hw
      rw [scope_frameWrites w hw]
      exact hcounted.running _ (List.getElem_mem hlt)
  · rw [List.perm_iff_count]
    intro n
    have herase := ((List.getElem_cons_eraseIdx_perm hlt).map (·.number)).count_eq n
    simp only [outstanding, batched, endCall, List.flatten_append, List.flatten_singleton,
      finishing_append,
      finishing_frameWrites, countP_finishCall, List.map_cons, List.count_append, List.count_cons,
      List.replicate_one, List.count_nil] at herase ⊢
    omega

/-- A thread posts its next write. -/
theorem Balanced.post (h : Balanced s) {index : Nat} (hget : s.posting[index]? = some (w :: writes)) :
    Balanced { s with posting := s.posting.set index writes, queue := s.queue ++ [w] } := by
  have hcounted := h.counted
  obtain ⟨hlt, hwrites⟩ := List.getElem?_eq_some_iff.mp hget
  have hold := (List.getElem_cons_eraseIdx_perm hlt).flatten
  have hnew := (List.set_perm_cons_eraseIdx hlt writes).flatten
  rw [hwrites] at hold
  have hposting : ∀ w' ∈ w :: (s.posting.set index writes).flatten,
      w'.scope < s.scopes.length := by
    intro w' hw'
    apply hcounted.posting w'
    rw [← hold.mem_iff]
    exact (hnew.cons w).mem_iff.mp hw'
  refine h.moved ⟨hcounted.counts, hcounted.closed, hcounted.running,
    fun w' hw' => hposting w' (List.mem_cons_of_mem _ hw'), ?_, hcounted.batch⟩ rfl rfl rfl ?_
  · intro w' hw'
    rw [List.mem_append, List.mem_singleton] at hw'
    obtain hw' | rfl := hw'
    · exact hcounted.queue w' hw'
    · exact hposting w' List.mem_cons_self
  · rw [List.perm_iff_count]
    intro n
    have hmove : (finishing (w :: (s.posting.set index writes).flatten)).count n =
        (finishing s.posting.flatten).count n := by
      have hperm : (w :: (s.posting.set index writes).flatten).Perm s.posting.flatten :=
        (hnew.cons w).trans hold
      exact ((hperm.filter _).map _).count_eq n
    rw [finishing_cons] at hmove
    simp only [outstanding, batched, finishing_append, List.count_append] at hmove ⊢
    omega

/-- A loop runs the next functor. -/
theorem Balanced.runNext (h : Balanced s) {p : FrameWrite → Bool} (hfind : s.queue.find? p = some w) :
    Balanced ({ s with queue := s.queue.eraseP p }.writeInLoop w) := by
  have hcounted := h.counted
  have hperm : (w :: s.queue.eraseP p).Perm s.queue := by
    obtain ⟨hp, earlier, later, hqueue, hearlier⟩ := List.find?_eq_some_iff_append.mp hfind
    rw [hqueue, List.eraseP_append_right _ (fun b hb => by simpa using hearlier b hb),
      List.eraseP_cons_of_pos hp]
    exact List.perm_middle.symm
  have hcounted₁ : Counted { s with queue := s.queue.eraseP p } :=
    ⟨hcounted.counts, hcounted.closed, hcounted.running, hcounted.posting,
      fun w' hw' => hcounted.queue w' (hperm.mem_iff.mp (List.mem_cons_of_mem _ hw')),
      hcounted.batch⟩
  refine h.wrote hcounted₁ (wrote_writeInLoop hcounted₁ ?_) rfl rfl rfl ?_
  · exact hcounted.queue w (hperm.mem_iff.mp List.mem_cons_self)
  · rw [List.perm_iff_count]
    intro n
    have hmove : (finishing (w :: s.queue.eraseP p)).count n = (finishing s.queue).count n :=
      ((hperm.filter _).map _).count_eq n
    rw [finishing_cons] at hmove
    simp only [outstanding, batched, List.count_append] at hmove ⊢
    omega

theorem Balanced.step (h : Balanced s) (hstep : s.step F S loopOf l = some s') : Balanced s' := by
  cases l with
  | onMessage conn =>
    simp only [RpcServer.step, Option.ite_none_right_eq_some] at hstep
    obtain ⟨-, hstep⟩ := hstep
    cases hstep
    exact h.onMessage conn
  | frame loop frame =>
    obtain ⟨scope, hbatch, rfl⟩ := Option.map_eq_some_iff.mp hstep
    exact h.handleFrame (h.counted.batch loop scope hbatch) frame
  | close loop =>
    obtain ⟨scope, -, rfl⟩ := Option.map_eq_some_iff.mp hstep
    exact h.close loop scope
  | finishInLoop index ended =>
    obtain ⟨call, hget, rfl⟩ := Option.map_eq_some_iff.mp hstep
    exact h.finishInLoop hget ended
  | finishElsewhere index ended =>
    obtain ⟨call, hget, rfl⟩ := Option.map_eq_some_iff.mp hstep
    exact h.finishElsewhere hget ended
  | post index =>
    simp only [RpcServer.step] at hstep
    split at hstep
    · next w writes hget =>
      cases hstep
      exact h.post hget
    · cases hstep
  | runNext loop =>
    simp only [RpcServer.step, Option.ite_none_right_eq_some] at hstep
    obtain ⟨-, hstep⟩ := hstep
    obtain ⟨w, hfind, rfl⟩ := Option.map_eq_some_iff.mp hstep
    exact h.runNext hfind

/-- No frame is received. -/
structure NoFrame (s s' : RpcServer) : Prop where
  dispatched : s'.dispatched = s.dispatched
  received : s'.received = s.received

theorem NoFrame.after {s₁ : RpcServer} (h' : NoFrame s₁ s') (h : NoFrame s s₁) : NoFrame s s' :=
  ⟨h'.dispatched.trans h.dispatched, h'.received.trans h.received⟩

theorem noFrame_onCallsFinished (s : RpcServer) (count : Nat) (calls : List Nat) :
    NoFrame s (s.onCallsFinished count calls) := by
  unfold onCallsFinished
  split <;> exact ⟨rfl, rfl⟩

theorem noFrame_writeInLoop (s : RpcServer) (w : FrameWrite) : NoFrame s (s.writeInLoop w) := by
  unfold writeInLoop
  split
  · exact ⟨rfl, rfl⟩
  · dsimp only
    split
    · split <;> exact ⟨rfl, rfl⟩
    · split
      · exact (noFrame_onCallsFinished _ _ _).after ⟨rfl, rfl⟩
      · exact ⟨rfl, rfl⟩

theorem noFrame_writesInLoop (s : RpcServer) (writes : List FrameWrite) :
    NoFrame s (s.writesInLoop writes) := by
  induction writes generalizing s with
  | nil => exact ⟨rfl, rfl⟩
  | cons w writes ih => exact (ih _).after (noFrame_writeInLoop s w)

theorem noFrame_closeScope (s : RpcServer) (id : Nat) : NoFrame s (s.closeScope id) := by
  unfold closeScope
  split
  · exact ⟨rfl, rfl⟩
  · split
    · dsimp only
      split
      · exact (noFrame_onCallsFinished _ _ _).after ⟨rfl, rfl⟩
      · exact ⟨rfl, rfl⟩
    · exact ⟨rfl, rfl⟩

/-- Only a frame changes which calls there are. -/
theorem noFrame_step (hl : ∀ loop frame, l ≠ .frame loop frame)
    (hstep : s.step F S loopOf l = some s') : NoFrame s s' := by
  cases l with
  | onMessage conn =>
    simp only [RpcServer.step, Option.ite_none_right_eq_some] at hstep
    obtain ⟨-, hstep⟩ := hstep
    cases hstep
    exact ⟨rfl, rfl⟩
  | frame loop frame => exact absurd rfl (hl loop frame)
  | close loop =>
    obtain ⟨scope, -, rfl⟩ := Option.map_eq_some_iff.mp hstep
    obtain ⟨hdispatched, hreceived⟩ := noFrame_closeScope s scope
    exact ⟨hdispatched, hreceived⟩
  | finishInLoop index ended =>
    obtain ⟨call, -, rfl⟩ := Option.map_eq_some_iff.mp hstep
    exact (noFrame_writesInLoop _ _).after ⟨rfl, rfl⟩
  | finishElsewhere index ended =>
    obtain ⟨call, -, rfl⟩ := Option.map_eq_some_iff.mp hstep
    exact ⟨rfl, rfl⟩
  | post index =>
    simp only [RpcServer.step] at hstep
    split at hstep
    · cases hstep
      exact ⟨rfl, rfl⟩
    · cases hstep
  | runNext loop =>
    simp only [RpcServer.step, Option.ite_none_right_eq_some] at hstep
    obtain ⟨-, hstep⟩ := hstep
    obtain ⟨w, -, rfl⟩ := Option.map_eq_some_iff.mp hstep
    exact (noFrame_writeInLoop _ w).after ⟨rfl, rfl⟩

theorem Numbered.same (h : Numbered F S s) (hsame : NoFrame s s') : Numbered F S s' := by
  refine ⟨?_, ?_⟩
  · rw [hsame.dispatched]
    exact h.nodup
  · rw [hsame.dispatched, hsame.received]
    exact h.dispatched

theorem Numbered.lt (h : Numbered F S s) {n : Nat} (hn : n ∈ s.dispatched) :
    n < s.received.length := by
  obtain ⟨frame, scope, hget, -⟩ := (h.dispatched n).mp hn
  exact (List.getElem?_eq_some_iff.mp hget).1

/-- A frame is received, and counted when it is handed to a handler. -/
theorem Numbered.received (h : Numbered F S s) (frame : RpcFrame) (scope : Nat)
    (hdispatched : s'.dispatched = s.dispatched ++
      if (Rpc.handleFrame F S frame).isDispatch then [s.received.length] else [])
    (hreceived : s'.received = s.received ++ [(frame, scope)]) : Numbered F S s' := by
  refine ⟨?_, fun n => ?_⟩
  · rw [hdispatched]
    split
    · refine h.nodup.append (List.nodup_singleton _) fun n hn hn' => ?_
      have hlt := h.lt hn
      rw [List.mem_singleton] at hn'
      omega
    · rw [List.append_nil]
      exact h.nodup
  · rw [hdispatched, hreceived, List.mem_append]
    by_cases hlt : n < s.received.length
    · rw [h.dispatched n, List.getElem?_append_left hlt, or_iff_left]
      split
      · rw [List.mem_singleton]
        omega
      · exact List.not_mem_nil
    · rw [or_iff_right (fun hn => hlt (h.lt hn)), List.getElem?_append_right (by omega)]
      by_cases heq : n = s.received.length
      · subst heq
        cases hdispatch : (Rpc.handleFrame F S frame).isDispatch <;> simp [hdispatch]
      · have hnone : ([(frame, scope)])[n - s.received.length]? = none := by
          rw [List.getElem?_eq_none_iff, List.length_singleton]
          omega
        rw [hnone]
        cases (Rpc.handleFrame F S frame).isDispatch <;> simp [heq]

theorem Numbered.handleFrame (h : Numbered F S s) (scope : Nat) (frame : RpcFrame) :
    Numbered F S (s.handleFrame F S scope frame) := by
  unfold RpcServer.handleFrame
  cases hhandling : Rpc.handleFrame F S frame with
  | reply writes =>
    have hreceived : Numbered F S { s with received := s.received ++ [(frame, scope)] } :=
      h.received frame scope (by simp [hhandling, Handling.isDispatch]) rfl
    exact hreceived.same (noFrame_writesInLoop _ _)
  | dispatch requestId traceId coroutine =>
    exact h.received frame scope (by simp [hhandling, Handling.isDispatch]) rfl

theorem Numbered.step (h : Numbered F S s) (hstep : s.step F S loopOf l = some s') :
    Numbered F S s' := by
  by_cases hl : ∃ loop frame, l = .frame loop frame
  · obtain ⟨loop, frame, rfl⟩ := hl
    obtain ⟨scope, -, rfl⟩ := Option.map_eq_some_iff.mp hstep
    exact h.handleFrame scope frame
  · push Not at hl
    exact h.same (noFrame_step hl hstep)

/-- What is subtracted in a step was outstanding. -/
theorem Balanced.accounted_step (h : Balanced s) (hstep : s.step F S loopOf l = some s') :
    s'.accounted.length ≤ s.accounted.length + s.outstanding.length := by
  have hlength := h.partition.length_eq
  have hlength' := (h.step hstep).partition.length_eq
  rw [List.length_append] at hlength hlength'
  by_cases hl : ∃ loop frame, l = .frame loop frame
  · obtain ⟨loop, frame, rfl⟩ := hl
    obtain ⟨scope, -, rfl⟩ := Option.map_eq_some_iff.mp hstep
    unfold RpcServer.handleFrame at hlength' ⊢
    cases hhandling : Rpc.handleFrame F S frame with
    | reply writes =>
      simp only [hhandling, (noFrame_writesInLoop _ _).dispatched] at hlength' ⊢
      omega
    | dispatch requestId traceId coroutine => exact Nat.le_add_right _ _
  · push Not at hl
    rw [(noFrame_step hl hstep).dispatched] at hlength'
    omega

theorem balanced_run {steps : List RpcServerStep} (hrun : run F S loopOf {} steps = some s) :
    Balanced s ∧ Numbered F S s :=
  Transition.invariant_run (I := fun s => Balanced s ∧ Numbered F S s) (C := fun _ _ => True)
    (fun _ _ _ hI _ hstep => ⟨hI.1.step hstep, hI.2.step hstep⟩) ⟨.start, .start⟩
    (Transition.meets_of_forall fun _ _ => trivial) hrun

/-- In every run, `in_flight_` is the number of the dispatched requests that have not been
subtracted; each of them is subtracted once, never more than are outstanding, and frames that are
rejected are not counted. -/
theorem in_flight_exact (F : MetaFormat) (S : Services) (loopOf : Nat → Nat)
    (steps : List RpcServerStep) (s : RpcServer) (hrun : run F S loopOf {} steps = some s) :
    Exact F S s ∧ ∀ l s', s.step F S loopOf l = some s' →
      s'.accounted.length ≤ s.accounted.length + s.outstanding.length := by
  obtain ⟨hb, hn⟩ := balanced_run hrun
  refine ⟨⟨?_, hb.partition, hn.nodup, hn.dispatched⟩, fun l s' hstep => hb.accounted_step hstep⟩
  have htotal := hb.total
  rw [hb.partition.length_eq, List.length_append, UInt64.ofNat_add] at htotal
  exact UInt64.add_left_inj _ |>.mp htotal

/-- Two services, of coroutines and of closures, each with one method that parses everything. -/
def twoServices : Services where
  coroutineServices := fun name => if name = [1] then some [some ⟨fun _ => true⟩] else none
  services := fun name => if name = [2] then some [⟨fun _ => true⟩] else none

/-- Two requests and one for an unknown service; one handler ends in the batch, the other one throws
on another thread. -/
def threeFrames : List RpcServerStep :=
  [.onMessage 0, .frame 0 ⟨{ serviceName := [1], requestId := 7 }, [], 0⟩,
    .frame 0 ⟨{ serviceName := [2], requestId := 8 }, [], 0⟩,
    .frame 0 ⟨{ serviceName := [3], requestId := 9 }, [], 0⟩,
    .finishInLoop 1 (.done ⟨0, [], some []⟩), .finishElsewhere 0 (.coroutine (.exception [65])),
    .close 0, .post 0, .post 0, .runNext 0]

theorem in_flight_exact_threeFrames : ∃ s, run wireFormat twoServices id {} threeFrames = some s ∧
    s.inFlight = 1 ∧ s.dispatched = [0, 1] ∧ s.accounted = [1] ∧ Exact wireFormat twoServices s :=
  ⟨_, rfl, rfl, rfl, rfl, (in_flight_exact wireFormat twoServices id threeFrames _ rfl).1⟩

end RpcServer

end NebulaRpc.Rpc
