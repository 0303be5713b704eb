import NebulaRpc.Library.Lists
import NebulaRpc.Rpc.Replies

/-!
# One flushed reply to each frame

The replies along a run of the server. A reply is in the output of its connection, or posted to the
loop of that connection, or still to be posted by the thread on which the handler has ended;
`repliesTo` collects it from all three. What is written in a batch is flushed when the batch is
closed, and everything else at once.
-/

namespace NebulaRpc.Rpc

variable {F : MetaFormat} {wire : RpcMeta → List UInt8} {S : Services} {frame : RpcFrame}

namespace RpcServer

/-! ## What is written for a frame -/

/-- The bytes that these writes hold for a frame. -/
def bytesFor (n : Nat) (writes : List FrameWrite) : List (List UInt8) :=
  replyBytes ((writes.filter (·.number = n)).map (·.write))

/-- The bytes that have been written for a frame. -/
def writtenFor (n : Nat) (output : List ServerOutput) : List (List UInt8) :=
  output.filterMap fun
    | .write _ number bytes => if number = n then some bytes else none
    | .flush _ => none

/-- The bytes that have been written for a frame, and those on their way to its loop. -/
def repliesTo (s : RpcServer) (n : Nat) : List (List UInt8) :=
  writtenFor n s.output ++ (bytesFor n s.queue ++ bytesFor n s.posting.flatten)

/-- Something has been written for a frame and no `Flush` of its connection has followed. -/
def Unflushed (output : List ServerOutput) (conn n : Nat) : Prop :=
  ∃ earlier bytes later, output = earlier ++ .write conn n bytes :: later ∧ .flush conn ∉ later

/-- One reply to each frame. -/
structure Replied (wire : RpcMeta → List UInt8) (S : Services) (s : RpcServer) : Prop where
  /-- the frames that are accepted are handed to a handler, and no others -/
  handled : ∀ n frame id, s.received[n]? = some (frame, id) →
    (n ∈ s.running.map (·.number) ∨ (s.ended n).isSome = true ↔ S.Accepts frame)
  /-- nothing is written before the handler has ended -/
  running : ∀ n ∈ s.running.map (·.number), s.repliesTo n = []
  /-- and one reply when it has, or when there is no handler -/
  answered : ∀ n frame id, s.received[n]? = some (frame, id) →
    n ∉ s.running.map (·.number) → AnsweredBy wire frame (s.ended n) (s.repliesTo n)

/-- The replies go to their connections and are flushed. -/
structure Flushed (loopOf : Nat → Nat) (s : RpcServer) : Prop where
  /-- a reply is written to the connection from which the frame came -/
  conn : ∀ conn n bytes, .write conn n bytes ∈ s.output →
    ∃ frame id, s.received[n]? = some (frame, id) ∧ s.scopes[id]?.map (·.conn) = some conn
  /-- what is not flushed is of the batch that is still open -/
  flushed : ∀ conn n, Unflushed s.output conn n →
    ∃ frame id, s.received[n]? = some (frame, id) ∧ s.batch (loopOf conn) = some id

/-- One flushed reply to each frame. -/
structure Answered (wire : RpcMeta → List UInt8) (S : Services) (loopOf : Nat → Nat)
    (s : RpcServer) : Prop where
  replied : Replied wire S s
  flushed : Flushed loopOf s

/-- The text of the exception with which this step ends a handler fits into a frame. -/
def EndFits (wire : RpcMeta → List UInt8) (s : RpcServer) : RpcServerStep → Prop
  | .finishInLoop index ended | .finishElsewhere index ended =>
    ∀ call, s.running[index]? = some call → TextFits wire call.requestId call.traceId ended
  | _ => True

variable {loopOf : Nat → Nat} {s s' s₁ : RpcServer} {w : FrameWrite} {writes : List FrameWrite}
  {l : RpcServerStep} {n conn : Nat} {output later : List ServerOutput}

theorem bytesFor_append (n : Nat) (writes later : List FrameWrite) :
    bytesFor n (writes ++ later) = bytesFor n writes ++ bytesFor n later := by
  simp [bytesFor, replyBytes]

theorem bytesFor_perm {writes' : List FrameWrite} (h : writes.Perm writes') :
    (bytesFor n writes).Perm (bytesFor n writes') :=
  (((h.filter _).map _).map _).filter _

theorem bytesFor_frameWrites (number scope : Nat) (writes : List ScopeWrite) :
    bytesFor n (frameWrites number scope writes) = if number = n then replyBytes writes else [] := by
  induction writes with
  | nil => simp [bytesFor, frameWrites, replyBytes]
  | cons write writes ih =>
    by_cases hn : number = n <;>
      simp_all [bytesFor, frameWrites, replyBytes, Function.comp_def, List.filter_map]

theorem writtenFor_append (n : Nat) (output later : List ServerOutput) :
    writtenFor n (output ++ later) = writtenFor n output ++ writtenFor n later :=
  List.filterMap_append

theorem unflushed_append_iff : Unflushed (output ++ later) conn n ↔
    Unflushed later conn n ∨ Unflushed output conn n ∧ .flush conn ∉ later := by
  constructor
  · rintro ⟨earlier, bytes, rest, heq, hrest⟩
    obtain ⟨between, houtput, hlater⟩ | ⟨between, rfl, rfl⟩ :=
      List.append_eq_append_iff.mp heq.symm
    · cases between with
      | nil =>
        rw [List.nil_append] at hlater
        exact .inl ⟨[], bytes, rest, hlater.symm, hrest⟩
      | cons o between =>
        rw [List.cons_append, List.cons.injEq] at hlater
        obtain ⟨rfl, rfl⟩ := hlater
        rw [List.mem_append, not_or] at hrest
        exact .inr ⟨⟨earlier, bytes, between, houtput, hrest.1⟩, hrest.2⟩
    · exact .inl ⟨between, bytes, rest, rfl, hrest⟩
  · rintro (⟨earlier, bytes, rest, rfl, hrest⟩ | ⟨⟨earlier, bytes, rest, rfl, hrest⟩, hlater⟩)
    · exact ⟨output ++ earlier, bytes, rest, by simp, hrest⟩
    · refine ⟨earlier, bytes, rest ++ later, by simp, ?_⟩
      simp [hrest, hlater]

theorem Unflushed.mem (h : Unflushed output conn n) : ∃ bytes, .write conn n bytes ∈ output := by
  obtain ⟨earlier, bytes, rest, rfl, -⟩ := h
  exact ⟨bytes, by simp⟩

/-! ## What the loop thread writes -/

/-- What does not change in a scope while its batch is open. -/
def header (scope : ResponseFlushScope) : Nat × Bool := (scope.conn, scope.collecting)

/-- What `WriteInLoop` does with the connection. -/
def outputOf (headers : List (Nat × Bool)) (w : FrameWrite) : List ServerOutput :=
  match headers[w.scope]? with
  | none => []
  | some (conn, collecting) => written conn w ++ if collecting then [] else [.flush conn]

/-- The loop thread has written this, and everything else is as it was. -/
structure Emitted (output : List ServerOutput) (s s' : RpcServer) : Prop where
  running : s'.running = s.running
  ended : s'.ended = s.ended
  posting : s'.posting = s.posting
  queue : s'.queue = s.queue
  received : s'.received = s.received
  batch : s'.batch = s.batch
  headers : s'.scopes.map header = s.scopes.map header
  output : s'.output = s.output ++ output

theorem Emitted.after (h' : Emitted later s₁ s') (h : Emitted output s s₁) :
    Emitted (output ++ later) s s' :=
  ⟨h'.running.trans h.running, h'.ended.trans h.ended, h'.posting.trans h.posting,
    h'.queue.trans h.queue, h'.received.trans h.received, h'.batch.trans h.batch,
    h'.headers.trans h.headers, by rw [h'.output, h.output, List.append_assoc]⟩

theorem Emitted.only_counted (h' : Emitted [] s₁ s') (h : Emitted output s s₁) :
    Emitted output s s' := by
  simpa using h'.after h

theorem emitted_onCallsFinished (s : RpcServer) (count : Nat) (calls : List Nat) :
    Emitted [] s (s.onCallsFinished count calls) := by
  unfold onCallsFinished
  split <;> exact ⟨rfl, rfl, rfl, rfl, rfl, rfl, rfl, (List.append_nil _).symm⟩

theorem map_header_set {id : Nat} {scope scope' : ResponseFlushScope}
    (hget : s.scopes[id]? = some scope) (hheader : header scope' = header scope) :
    (s.scopes.set id scope').map header = s.scopes.map header := by
  obtain ⟨hlt, rfl⟩ := List.getElem?_eq_some_iff.mp hget
  rw [List.map_set, hheader, ← List.map_set, List.set_getElem_self]

theorem emitted_writeInLoop (s : RpcServer) (w : FrameWrite) :
    Emitted (outputOf (s.scopes.map header) w) s (s.writeInLoop w) := by
  unfold writeInLoop outputOf
  rw [List.getElem?_map]
  cases hget : s.scopes[w.scope]? with
  | none => exact ⟨rfl, rfl, rfl, rfl, rfl, rfl, rfl, (List.append_nil _).symm⟩
  | some scope =>
    dsimp only [Option.map_some, header]
    split
    · rw [List.append_nil]
      split
      · exact ⟨rfl, rfl, rfl, rfl, rfl, rfl, map_header_set hget rfl, rfl⟩
      · exact ⟨rfl, rfl, rfl, rfl, rfl, rfl, rfl, rfl⟩
    · split
      · apply (emitted_onCallsFinished _ _ _).only_counted
        exact ⟨rfl, rfl, rfl, rfl, rfl, rfl, rfl, List.append_assoc ..⟩
      · exact ⟨rfl, rfl, rfl, rfl, rfl, rfl, rfl, by simp⟩

theorem emitted_writesInLoop (s : RpcServer) (writes : List FrameWrite) :
    Emitted (writes.flatMap (outputOf (s.scopes.map header))) s (s.writesInLoop writes) := by
  induction writes generalizing s with
  | nil => exact ⟨rfl, rfl, rfl, rfl, rfl, rfl, rfl, (List.append_nil _).symm⟩
  | cons w writes ih =>
    have hw := emitted_writeInLoop s w
    have hrest := ih (s.writeInLoop w)
    rw [hw.headers] at hrest
    exact hrest.after hw

variable {headers : List (Nat × Bool)}

theorem writtenFor_outputOf (hscope : w.scope < headers.length) :
    writtenFor n (outputOf headers w) = bytesFor n [w] := by
  unfold outputOf
  rw [List.getElem?_eq_getElem hscope]
  obtain ⟨conn, collecting⟩ := headers[w.scope]
  by_cases hbytes : w.write.bytes = [] <;> by_cases hn : w.number = n <;> cases collecting <;>
    simp [written, writtenFor, bytesFor, replyBytes, hbytes, hn]

theorem writtenFor_flatMap_outputOf (hscopes : ∀ w ∈ writes, w.scope < headers.length) :
    writtenFor n (writes.flatMap (outputOf headers)) = bytesFor n writes := by
  induction writes with
  | nil => simp [writtenFor, bytesFor, replyBytes]
  | cons w writes ih =>
    rw [List.flatMap_cons, writtenFor_append, writtenFor_outputOf (hscopes w List.mem_cons_self),
      ih fun w' hw' => hscopes w' (List.mem_cons_of_mem _ hw')]
    exact (bytesFor_append n [w] writes).symm

theorem of_write_mem_outputOf {bytes : List UInt8} (h : .write conn n bytes ∈ outputOf headers w) :
    w.number = n ∧ ∃ collecting, headers[w.scope]? = some (conn, collecting) := by
  unfold outputOf at h
  split at h
  · simp at h
  · next conn' collecting hget =>
    cases collecting <;> simp only [written] at h <;> split at h <;> simp_all

theorem of_unflushed_outputOf (h : Unflushed (outputOf headers w) conn n) :
    w.number = n ∧ headers[w.scope]? = some (conn, true) := by
  obtain ⟨bytes, hmem⟩ := h.mem
  obtain ⟨hnumber, collecting, hget⟩ := of_write_mem_outputOf hmem
  cases collecting with
  | true => exact ⟨hnumber, hget⟩
  | false =>
    -- the write is followed by its flush
    simp only [outputOf, hget] at h
    obtain ⟨earlier, bytes, later, heq, -⟩ | ⟨-, hflush⟩ := unflushed_append_iff.mp h
    · cases earlier <;> simp at heq
    · simp at hflush

theorem of_unflushed_flatMap (h : Unflushed (writes.flatMap (outputOf headers)) conn n) :
    ∃ w ∈ writes, w.number = n ∧ headers[w.scope]? = some (conn, true) := by
  induction writes with
  | nil =>
    obtain ⟨bytes, hmem⟩ := h.mem
    simp at hmem
  | cons w writes ih =>
    rw [List.flatMap_cons] at h
    obtain h | ⟨h, -⟩ := unflushed_append_iff.mp h
    · obtain ⟨w', hw', hfound⟩ := ih h
      exact ⟨w', List.mem_cons_of_mem _ hw', hfound⟩
    · exact ⟨w, List.mem_cons_self, of_unflushed_outputOf h⟩

/-! ## What belongs to which frame -/

/-- This write is of a frame that has been received. -/
def Known (s : RpcServer) (w : FrameWrite) : Prop :=
  ∃ frame, s.received[w.number]? = some (frame, w.scope)

/-- Calls and writes are of frames that have been received, and the loops have the open batches. -/
structure Tracked (loopOf : Nat → Nat) (s : RpcServer) : Prop where
  calls : ∀ call ∈ s.running, ∃ frame, s.received[call.number]? = some (frame, call.scope) ∧
    call.requestId = frame.rpcMeta.requestId ∧ call.traceId = frame.rpcMeta.traceId ∧
      frame.rpcMeta.type ≠ .heartbeat
  nodup : (s.running.map (·.number)).Nodup
  writes : ∀ w ∈ s.queue ++ s.posting.flatten, s.Known w
  ended : ∀ n, (s.ended n).isSome = true → n < s.received.length
  scopes : ∀ (n : Nat) frame id, s.received[n]? = some (frame, id) → id < s.scopes.length
  batch : ∀ loop id, s.batch loop = some id ↔
    ∃ conn, (s.scopes.map header)[id]? = some (conn, true) ∧ loopOf conn = loop

theorem map_conn_eq (hheaders : s'.scopes.map header = s.scopes.map header) (id : Nat) :
    s'.scopes[id]?.map (·.conn) = s.scopes[id]?.map (·.conn) := by
  have hget := congrArg (fun headers => headers[id]?.map Prod.fst) hheaders
  simpa [List.getElem?_map, Function.comp_def, header] using hget

theorem Tracked.emitted (h : Tracked loopOf s) (hem : Emitted output s s') : Tracked loopOf s' := by
  have hlength : s'.scopes.length = s.scopes.length := by
    simpa using congrArg List.length hem.headers
  refine ⟨?_, ?_, ?_, ?_, ?_, ?_⟩
  · rw [hem.running, hem.received]; exact h.calls
  · rw [hem.running]; exact h.nodup
  · simp only [Known, hem.queue, hem.posting, hem.received]; exact h.writes
  · rw [hem.ended, hem.received]; exact h.ended
  · rw [hem.received, hlength]; exact h.scopes
  · rw [hem.batch, hem.headers]; exact h.batch

theorem Flushed.emitted (h : Flushed loopOf s) (ht : Tracked loopOf s)
    (hknown : ∀ w ∈ writes, s.Known w)
    (hem : Emitted (writes.flatMap (outputOf (s.scopes.map header))) s s') : Flushed loopOf s' := by
  refine ⟨fun conn n bytes hmem => ?_, fun conn n hun => ?_⟩
  · simp only [hem.received, map_conn_eq hem.headers]
    rw [hem.output, List.mem_append, List.mem_flatMap] at hmem
    obtain hmem | ⟨w, hw, hmem⟩ := hmem
    · exact h.conn conn n bytes hmem
    · obtain ⟨rfl, collecting, hget⟩ := of_write_mem_outputOf hmem
      obtain ⟨frame, hframe⟩ := hknown w hw
      refine ⟨frame, w.scope, hframe, ?_⟩
      have hconn := congrArg (Option.map Prod.fst) hget
      simpa [List.getElem?_map, Function.comp_def, header] using hconn
  · simp only [hem.received, hem.batch]
    rw [hem.output] at hun
    obtain hun | ⟨hun, -⟩ := unflushed_append_iff.mp hun
    · obtain ⟨w, hw, rfl, hget⟩ := of_unflushed_flatMap hun
      obtain ⟨frame, hframe⟩ := hknown w hw
      exact ⟨frame, w.scope, hframe, (ht.batch _ _).mpr ⟨conn, hget, rfl⟩⟩
    · exact h.flushed conn n hun

theorem Tracked.start : Tracked loopOf {} := by
  refine ⟨?_, List.nodup_nil, ?_, ?_, ?_, ?_⟩ <;> simp

theorem Tracked.onMessage (h : Tracked loopOf s) {conn : Nat} (hbatch : s.batch (loopOf conn) = none) :
    Tracked loopOf { s with
      scopes := s.scopes ++ [{ conn := conn }]
      batch := Function.update s.batch (loopOf conn) (some s.scopes.length) } := by
  refine ⟨h.calls, h.nodup, h.writes, h.ended, fun n frame id hget => ?_, fun loop id => ?_⟩
  · have hlt := h.scopes n frame id hget
    simp only [List.length_append]
    omega
  · simp only [List.map_append, List.map_singleton, Lists.getElem?_concat_eq_some_iff, List.length_map]
    obtain rfl | hloop := eq_or_ne loop (loopOf conn)
    · -- no batch was open on this loop
      rw [Function.update_self]
      constructor
      · intro heq
        exact ⟨conn, .inr ⟨(Option.some.inj heq).symm, rfl⟩, rfl⟩
      · rintro ⟨conn', hget | ⟨rfl, -⟩, hconn'⟩
        · rw [(h.batch (loopOf conn) id).mpr ⟨conn', hget, hconn'⟩] at hbatch
          cases hbatch
        · rfl
    · rw [Function.update_of_ne hloop, h.batch loop id]
      constructor
      · rintro ⟨conn', hget, hconn'⟩
        exact ⟨conn', .inl hget, hconn'⟩
      · rintro ⟨conn', hget | ⟨-, heq⟩, hconn'⟩
        · exact ⟨conn', hget, hconn'⟩
        · cases heq
          exact absurd hconn'.symm hloop

theorem Flushed.onMessage (h : Flushed loopOf s) (ht : Tracked loopOf s) {conn : Nat}
    (hbatch : s.batch (loopOf conn) = none) :
    Flushed loopOf { s with
      scopes := s.scopes ++ [{ conn := conn }]
      batch := Function.update s.batch (loopOf conn) (some s.scopes.length) } := by
  refine ⟨fun conn' n bytes hmem => ?_, fun conn' n hun => ?_⟩
  · obtain ⟨frame, id, hget, hconn⟩ := h.conn conn' n bytes hmem
    refine ⟨frame, id, hget, ?_⟩
    dsimp only
    rw [List.getElem?_append_left (ht.scopes n frame id hget)]
    exact hconn
  · obtain ⟨frame, id, hget, hopen⟩ := h.flushed conn' n hun
    refine ⟨frame, id, hget, ?_⟩
    have hne : loopOf conn' ≠ loopOf conn := by
      intro heq
      rw [heq, hbatch] at hopen
      cases hopen
    rw [← hopen]
    exact Function.update_of_ne hne ..

/-- A frame is received. -/
theorem Tracked.received (h : Tracked loopOf s) {id : Nat} (hid : id < s.scopes.length)
    (frame : RpcFrame) : Tracked loopOf { s with received := s.received ++ [(frame, id)] } := by
  refine ⟨fun call hcall => ?_, h.nodup, fun w hw => ?_, fun n hn => ?_, fun n frame' id' hget => ?_,
    h.batch⟩
  · obtain ⟨frame', hget, hcall⟩ := h.calls call hcall
    exact ⟨frame', Lists.getElem?_concat_eq_some_iff.mpr (.inl hget), hcall⟩
  · obtain ⟨frame', hget⟩ := h.writes w hw
    exact ⟨frame', Lists.getElem?_concat_eq_some_iff.mpr (.inl hget)⟩
  · have hlt := h.ended n hn
    simp only [List.length_append]
    omega
  · obtain hget | ⟨-, heq⟩ := Lists.getElem?_concat_eq_some_iff.mp hget
    · exact h.scopes n frame' id' hget
    · cases heq
      exact hid

theorem Flushed.received (h : Flushed loopOf s) (x : RpcFrame × Nat) :
    Flushed loopOf { s with received := s.received ++ [x] } := by
  refine ⟨fun conn n bytes hmem => ?_, fun conn n hun => ?_⟩
  · obtain ⟨frame, id, hget, hconn⟩ := h.conn conn n bytes hmem
    exact ⟨frame, id, Lists.getElem?_concat_eq_some_iff.mpr (.inl hget), hconn⟩
  · obtain ⟨frame, id, hget, hopen⟩ := h.flushed conn n hun
    exact ⟨frame, id, Lists.getElem?_concat_eq_some_iff.mpr (.inl hget), hopen⟩

/-- Writes are posted or taken from where they were posted. -/
theorem Tracked.posted (h : Tracked loopOf s) {posting : List (List FrameWrite)}
    {queue : List FrameWrite} (hknown : ∀ w ∈ queue ++ posting.flatten, s.Known w) :
    Tracked loopOf { s with posting := posting, queue := queue } :=
  ⟨h.calls, h.nodup, hknown, h.ended, h.scopes, h.batch⟩

theorem Tracked.endCall (h : Tracked loopOf s) {index : Nat} {call : ServerCall}
    (hget : s.running[index]? = some call) (ended : HandlerEnd) :
    Tracked loopOf (s.endCall index call.number ended) := by
  have herase := List.eraseIdx_sublist s.running index
  refine ⟨fun call' hcall' => h.calls call' (herase.mem hcall'), h.nodup.sublist (herase.map _),
    h.writes, fun n hn => ?_, h.scopes, h.batch⟩
  obtain rfl | hne := eq_or_ne n call.number
  · obtain ⟨frame, hframe, -⟩ := h.calls call (List.mem_of_getElem? hget)
    exact (List.getElem?_eq_some_iff.mp hframe).1
  · apply h.ended n
    simpa [RpcServer.endCall, hne] using hn

/-- A call is dispatched. -/
theorem Tracked.dispatch (h : Tracked loopOf s) {id : Nat} (hid : id < s.scopes.length)
    (hframe : frame.rpcMeta.type ≠ .heartbeat) (inFlight : UInt64) (dispatched : List Nat) :
    Tracked loopOf { s with
      received := s.received ++ [(frame, id)]
      inFlight := inFlight
      dispatched := dispatched
      running := s.running ++
        [⟨s.received.length, id, frame.rpcMeta.requestId, frame.rpcMeta.traceId⟩] } := by
  have hreceived := h.received hid frame
  refine ⟨fun call hcall => ?_, ?_, hreceived.writes, hreceived.ended, hreceived.scopes, h.batch⟩
  · rw [List.mem_append, List.mem_singleton] at hcall
    obtain hcall | rfl := hcall
    · exact hreceived.calls call hcall
    · exact ⟨frame, Lists.getElem?_concat_eq_some_iff.mpr (.inr ⟨rfl, rfl⟩), rfl, rfl, hframe⟩
  · dsimp only
    rw [List.map_append]
    refine h.nodup.append (List.nodup_singleton _) fun n hn hn' => ?_
    obtain ⟨call, hcall, rfl⟩ := List.mem_map.mp hn
    obtain ⟨frame', hget, -⟩ := h.calls call hcall
    have hlt := (List.getElem?_eq_some_iff.mp hget).1
    simp only [List.map_singleton, List.mem_singleton] at hn'
    omega

/-- The scope of the batch that a loop is in. -/
theorem Tracked.open_batch (h : Tracked loopOf s) {loop id : Nat} (hbatch : s.batch loop = some id) :
    ∃ scope, s.scopes[id]? = some scope ∧ scope.collecting = true ∧ loopOf scope.conn = loop := by
  obtain ⟨conn, hget, rfl⟩ := (h.batch loop id).mp hbatch
  rw [List.getElem?_map, Option.map_eq_some_iff] at hget
  obtain ⟨scope, hscope, hheader⟩ := hget
  simp only [header, Prod.mk.injEq] at hheader
  exact ⟨scope, hscope, hheader.2, congrArg loopOf hheader.1⟩

theorem emitted_closeScope {id : Nat} {scope : ResponseFlushScope}
    (hget : s.scopes[id]? = some scope) (hopen : scope.collecting = true)
    (batch : Nat → Option Nat) :
    Emitted [.flush scope.conn]
      { s with
        scopes := s.scopes.set id { scope with collecting := false, finishedCalls := 0, finished := [] }
        batch := batch }
      { s.closeScope id with batch := batch } := by
  unfold closeScope
  simp only [hget, hopen, if_true]
  split
  · obtain ⟨hrunning, hended, hposting, hqueue, hreceived, -, hheaders, houtput⟩ :=
      emitted_onCallsFinished
        { s with
          scopes := s.scopes.set id
            { scope with collecting := false, finishedCalls := 0, finished := [] }
          output := s.output ++ [.flush scope.conn] } scope.finishedCalls scope.finished
    exact ⟨hrunning, hended, hposting, hqueue, hreceived, rfl, hheaders, by simpa using houtput⟩
  · exact ⟨rfl, rfl, rfl, rfl, rfl, rfl, rfl, rfl⟩

theorem Tracked.closed (h : Tracked loopOf s) {id : Nat} {scope scope' : ResponseFlushScope}
    (hget : s.scopes[id]? = some scope) (hopen : scope.collecting = true)
    (hclosed : scope'.collecting = false) :
    Tracked loopOf { s with
      scopes := s.scopes.set id scope'
      batch := Function.update s.batch (loopOf scope.conn) none } := by
  have hbatch : s.batch (loopOf scope.conn) = some id :=
    (h.batch _ _).mpr ⟨scope.conn, by simp [hget, header, hopen], rfl⟩
  refine ⟨h.calls, h.nodup, h.writes, h.ended, ?_, fun loop id' => ?_⟩
  · simpa using h.scopes
  · dsimp only
    rw [List.map_set]
    obtain rfl | hid := eq_or_ne id id'
    · have hlt := (List.getElem?_eq_some_iff.mp hget).1
      rw [List.getElem?_set_self (by simpa using hlt)]
      obtain rfl | hloop := eq_or_ne loop (loopOf scope.conn)
      · simp [header, hclosed]
      · -- the batch of another loop is another one
        simp only [Function.update_of_ne hloop, header, hclosed, Option.some.injEq, Prod.mk.injEq,
          Bool.false_eq_true, and_false, false_and, exists_false, iff_false]
        intro hother
        obtain ⟨scope₂, hget₂, -, hloop₂⟩ := h.open_batch hother
        rw [hget, Option.some.injEq] at hget₂
        subst hget₂
        exact hloop hloop₂.symm
    · rw [List.getElem?_set_ne hid, ← h.batch loop id']
      obtain rfl | hloop := eq_or_ne loop (loopOf scope.conn)
      · simp [hbatch, hid]
      · rw [Function.update_of_ne hloop]

theorem Flushed.closed (h : Flushed loopOf s) {id : Nat} {scope scope' : ResponseFlushScope}
    (hget : s.scopes[id]? = some scope) (hbatch : s.batch (loopOf scope.conn) = some id)
    (hconn : scope'.conn = scope.conn)
    (hscopes : s'.scopes.map header = (s.scopes.set id scope').map header)
    (hreceived : s'.received = s.received)
    (hupdate : s'.batch = Function.update s.batch (loopOf scope.conn) none)
    (houtput : s'.output = s.output ++ [.flush scope.conn]) : Flushed loopOf s' := by
  have hconns : ∀ id' : Nat, s'.scopes[id']?.map (·.conn) = s.scopes[id']?.map (·.conn) := by
    intro id'
    have hset := map_conn_eq (s := { s with scopes := s.scopes.set id scope' }) hscopes id'
    rw [hset]
    dsimp only
    obtain rfl | hid := eq_or_ne id id'
    · have hlt := (List.getElem?_eq_some_iff.mp hget).1
      rw [List.getElem?_set_self hlt, hget]
      simp [hconn]
    · rw [List.getElem?_set_ne hid]
  refine ⟨fun conn n bytes hmem => ?_, fun conn n hun => ?_⟩
  · rw [hreceived]
    simp only [hconns]
    apply h.conn conn n bytes
    simpa [houtput] using hmem
  · rw [houtput] at hun
    obtain ⟨earlier, bytes, later, heq, -⟩ | ⟨hun, hflush⟩ := unflushed_append_iff.mp hun
    · cases earlier <;> simp at heq
    · obtain ⟨frame, id', hframe, hopen⟩ := h.flushed conn n hun
      refine ⟨frame, id', by rw [hreceived]; exact hframe, ?_⟩
      -- another connection on this loop cannot have written in this batch
      have hloop : loopOf conn ≠ loopOf scope.conn := by
        intro hloop
        rw [hloop, hbatch, Option.some.injEq] at hopen
        subst hopen
        obtain ⟨bytes, hmem⟩ := hun.mem
        obtain ⟨frame', id', hframe', hconn'⟩ := h.conn conn n bytes hmem
        rw [hframe, Option.some.injEq, Prod.mk.injEq] at hframe'
        obtain ⟨-, rfl⟩ := hframe'
        rw [hget, Option.map_some, Option.some.injEq] at hconn'
        simp [hconn'] at hflush
      rw [hupdate, Function.update_of_ne hloop]
      exact hopen

/-! ## The replies along a run -/

theorem repliesTo_emitted (hscopes : ∀ w ∈ writes, w.scope < s.scopes.length)
    (hem : Emitted (writes.flatMap (outputOf (s.scopes.map header))) s s') (n : Nat) :
    (s'.repliesTo n).Perm (bytesFor n writes ++ s.repliesTo n) := by
  unfold repliesTo
  rw [hem.output, hem.queue, hem.posting, writtenFor_append,
    writtenFor_flatMap_outputOf (by simpa using hscopes), ← List.append_assoc (bytesFor n writes)]
  exact List.perm_append_comm.append_right _

/-- Nothing is written for a frame that has not been received. -/
theorem repliesTo_fresh (ht : Tracked loopOf s) (hf : Flushed loopOf s)
    (hn : s.received.length ≤ n) : s.repliesTo n = [] := by
  have hbytes : ∀ writes : List FrameWrite, (∀ w ∈ writes, s.Known w) → bytesFor n writes = [] := by
    intro writes hknown
    have hnone : writes.filter (·.number = n) = [] := by
      rw [List.filter_eq_nil_iff]
      intro w hw hwn
      obtain ⟨frame, hget⟩ := hknown w hw
      have hlt := (List.getElem?_eq_some_iff.mp hget).1
      simp only [decide_eq_true_eq] at hwn
      omega
    rw [bytesFor, hnone]
    rfl
  have hwritten : writtenFor n s.output = [] := by
    unfold writtenFor
    rw [List.filterMap_eq_nil_iff]
    intro o ho
    cases o with
    | flush conn => rfl
    | write conn number bytes =>
      obtain ⟨frame, id, hget, -⟩ := hf.conn conn number bytes ho
      have hlt := (List.getElem?_eq_some_iff.mp hget).1
      exact if_neg (by omega)
  rw [repliesTo, hwritten, ← bytesFor_append, hbytes _ ht.writes]
  rfl

/-- Replies move on their way. -/
theorem Replied.moved (h : Replied wire S s) (hrunning : s'.running = s.running)
    (hended : s'.ended = s.ended) (hreceived : s'.received = s.received)
    (hperm : ∀ n, (s'.repliesTo n).Perm (s.repliesTo n)) : Replied wire S s' := by
  refine ⟨?_, fun n hn => ?_, fun n frame id hget hn => ?_⟩
  · rw [hrunning, hended, hreceived]
    exact h.handled
  · rw [hrunning] at hn
    have hnil := hperm n
    rw [h.running n hn] at hnil
    exact hnil.eq_nil
  · rw [hrunning] at hn
    rw [hreceived] at hget
    rw [hended]
    exact (h.answered n frame id hget hn).perm (hperm n)

/-- A frame is answered at once. -/
theorem Replied.reply (hF : F.Lawful wire) (hsize : Compact wire) (h : Replied wire S s)
    (ht : Tracked loopOf s) (hf : Flushed loopOf s) {id : Nat} {writes : List ScopeWrite}
    (hhandling : Rpc.handleFrame F S frame = .reply writes)
    (hrunning : s'.running = s.running) (hended : s'.ended = s.ended)
    (hreceived : s'.received = s.received ++ [(frame, id)])
    (hperm : ∀ n, (s'.repliesTo n).Perm
      (bytesFor n (frameWrites s.received.length id writes) ++ s.repliesTo n)) : Replied wire S s' := by
  have hlt : ∀ n ∈ s.running.map (·.number), n < s.received.length := by
    intro n hn
    obtain ⟨call, hcall, rfl⟩ := List.mem_map.mp hn
    obtain ⟨frame', hget, -⟩ := ht.calls call hcall
    exact (List.getElem?_eq_some_iff.mp hget).1
  have hold : ∀ n < s.received.length, (s'.repliesTo n).Perm (s.repliesTo n) := by
    intro n hn
    have hn' := hperm n
    rwa [bytesFor_frameWrites, if_neg (by omega), List.nil_append] at hn'
  have hlast : ¬(s.ended s.received.length).isSome = true := by
    intro hsome
    exact Nat.lt_irrefl _ (ht.ended _ hsome)
  refine ⟨fun n frame' id' hget => ?_, fun n hn => ?_, fun n frame' id' hget hn => ?_⟩
  · rw [hreceived] at hget
    rw [hrunning, hended]
    obtain hget | ⟨rfl, heq⟩ := Lists.getElem?_concat_eq_some_iff.mp hget
    · exact h.handled n frame' id' hget
    · cases heq
      have hreject : ¬S.Accepts frame := by
        rw [← isDispatch_handleFrame_iff, hhandling]
        exact Bool.false_ne_true
      simp only [hreject, iff_false, not_or]
      exact ⟨fun hn => Nat.lt_irrefl _ (hlt _ hn), hlast⟩
  · rw [hrunning] at hn
    have hnil := hold n (hlt n hn)
    rw [h.running n hn] at hnil
    exact hnil.eq_nil
  · rw [hrunning] at hn
    rw [hreceived] at hget
    rw [hended]
    obtain hget | ⟨rfl, heq⟩ := Lists.getElem?_concat_eq_some_iff.mp hget
    · exact (h.answered n frame' id' hget hn).perm
        (hold n (List.getElem?_eq_some_iff.mp hget).1)
    · cases heq
      have hn' := hperm s.received.length
      rw [bytesFor_frameWrites, if_pos rfl, repliesTo_fresh ht hf (Nat.le_refl _),
        List.append_nil] at hn'
      rw [Option.not_isSome_iff_eq_none.mp hlast]
      exact (answeredBy_reply hF hsize hhandling).perm hn'

/-- A frame is handed to its handler. -/
theorem Replied.dispatch (h : Replied wire S s) (ht : Tracked loopOf s) (hf : Flushed loopOf s)
    {id : Nat} (haccepts : S.Accepts frame) {call : ServerCall}
    (hcall : call.number = s.received.length)
    (hrunning : s'.running = s.running ++ [call]) (hended : s'.ended = s.ended)
    (hreceived : s'.received = s.received ++ [(frame, id)])
    (hreplies : ∀ n, s'.repliesTo n = s.repliesTo n) : Replied wire S s' := by
  have hmem : ∀ n, n ∈ s'.running.map (·.number) ↔
      n ∈ s.running.map (·.number) ∨ n = s.received.length := by
    intro n
    rw [hrunning, List.map_append, List.mem_append, List.map_singleton, List.mem_singleton, hcall]
  refine ⟨fun n frame' id' hget => ?_, fun n hn => ?_, fun n frame' id' hget hn => ?_⟩
  · rw [hreceived] at hget
    rw [hmem, hended]
    obtain hget | ⟨rfl, heq⟩ := Lists.getElem?_concat_eq_some_iff.mp hget
    · have hne : n ≠ s.received.length := Nat.ne_of_lt (List.getElem?_eq_some_iff.mp hget).1
      rw [← h.handled n frame' id' hget]
      simp [hne]
    · cases heq
      simp [haccepts]
  · rw [hreplies]
    obtain hn | rfl := (hmem n).mp hn
    · exact h.running n hn
    · exact repliesTo_fresh ht hf (Nat.le_refl _)
  · rw [hmem, not_or] at hn
    rw [hreceived] at hget
    rw [hended, hreplies]
    obtain hget | ⟨rfl, -⟩ := Lists.getElem?_concat_eq_some_iff.mp hget
    · exact h.answered n frame' id' hget hn.1
    · exact absurd rfl hn.2

section Finish

variable {index : Nat} {call : ServerCall} {ended : HandlerEnd}
  (ht : Tracked loopOf s) (hget : s.running[index]? = some call)
  (hrunning : s'.running = s.running.eraseIdx index)
  (hended : s'.ended = Function.update s.ended call.number (some ended))
  (hreceived : s'.received = s.received)
  (hperm : ∀ n, (s'.repliesTo n).Perm (bytesFor n (frameWrites call.number call.scope
    (finishCall F call.requestId call.traceId ended)) ++ s.repliesTo n))

include ht hget hrunning in
/-- The other calls go on. -/
theorem mem_running_eraseIdx : n ∈ s'.running.map (·.number) ↔
    n ∈ s.running.map (·.number) ∧ n ≠ call.number := by
  obtain ⟨hlt, rfl⟩ := List.getElem?_eq_some_iff.mp hget
  have hperm := (List.getElem_cons_eraseIdx_perm hlt).map (·.number)
  have hnodup := hperm.nodup_iff.mpr ht.nodup
  rw [List.map_cons, List.nodup_cons] at hnodup
  rw [hrunning, ← hperm.mem_iff, List.map_cons, List.mem_cons]
  constructor
  · intro hn
    refine ⟨.inr hn, ?_⟩
    rintro rfl
    exact hnodup.1 hn
  · rintro ⟨rfl | hn, hne⟩
    · exact absurd rfl hne
    · exact hn

include hget hperm in
theorem repliesTo_call (h : Replied wire S s) : (s'.repliesTo call.number).Perm
    (replyBytes (finishCall F call.requestId call.traceId ended)) := by
  have hnone := h.running call.number (List.mem_map_of_mem (List.mem_of_getElem? hget))
  have hcall := hperm call.number
  rwa [bytesFor_frameWrites, if_pos rfl, hnone, List.append_nil] at hcall

include ht hget hrunning hended hreceived hperm in
/-- A handler ends. -/
theorem Replied.finish (hF : F.Lawful wire) (hsize : Compact wire) (h : Replied wire S s)
    (hfits : TextFits wire call.requestId call.traceId ended) :
    Replied wire S s' := by
  have hmem : ∀ n, n ∈ s'.running.map (·.number) ↔ n ∈ s.running.map (·.number) ∧ n ≠ call.number :=
    fun n => mem_running_eraseIdx ht hget hrunning
  have hother : ∀ n, n ≠ call.number → (s'.repliesTo n).Perm (s.repliesTo n) := by
    intro n hne
    have hn := hperm n
    rwa [bytesFor_frameWrites, if_neg (Ne.symm hne), List.nil_append] at hn
  obtain ⟨frame, hframe, hrequestId, htraceId, htype⟩ := ht.calls call (List.mem_of_getElem? hget)
  refine ⟨fun n frame' id' hget' => ?_, fun n hn => ?_, fun n frame' id' hget' hn => ?_⟩
  · rw [hreceived] at hget'
    rw [hmem, hended, ← h.handled n frame' id' hget']
    obtain rfl | hne := eq_or_ne n call.number
    · have hrun : call.number ∈ s.running.map (·.number) :=
        List.mem_map_of_mem (List.mem_of_getElem? hget)
      simp [hrun]
    · simp [hne]
  · obtain ⟨hn, hne⟩ := (hmem n).mp hn
    have hnil := hother n hne
    rw [h.running n hn] at hnil
    exact hnil.eq_nil
  · rw [hreceived] at hget'
    rw [hended]
    obtain rfl | hne := eq_or_ne n call.number
    · rw [hframe, Option.some.injEq, Prod.mk.injEq] at hget'
      obtain ⟨rfl, -⟩ := hget'
      rw [Function.update_self]
      rw [hrequestId, htraceId] at hfits
      have hanswer := answeredBy_finishCall hF hsize htype hfits
      rw [← hrequestId, ← htraceId] at hanswer
      exact hanswer.perm (repliesTo_call hget hperm h)
    · rw [Function.update_of_ne hne]
      exact (h.answered n frame' id' hget' fun hrun => hn ((hmem n).mpr ⟨hrun, hne⟩)).perm
        (hother n hne)

include ht hget hrunning hreceived hperm in
/-- When the text does not fit, the handler ends without a reply. -/
theorem Replied.fits_of_finish (hF : F.Lawful wire) (h : Replied wire S s) (h' : Replied wire S s') :
    TextFits wire call.requestId call.traceId ended := by
  by_contra hfits
  obtain ⟨frame, hframe, -⟩ := ht.calls call (List.mem_of_getElem? hget)
  have hnone := repliesTo_call hget hperm h
  rw [replyBytes_finishCall_of_not_fits hF hfits] at hnone
  have hn : call.number ∉ s'.running.map (·.number) := by
    rw [mem_running_eraseIdx ht hget hrunning]
    exact fun hn => hn.2 rfl
  rw [← hreceived] at hframe
  obtain ⟨m, payload, heq, -⟩ := h'.answered call.number frame call.scope hframe hn
  rw [hnone.eq_nil] at heq
  cases heq

end Finish

/-! ## The steps -/

theorem known_frameWrites {number id : Nat} (hget : s.received[number]? = some (frame, id))
    (writes : List ScopeWrite) : ∀ w ∈ frameWrites number id writes, s.Known w := by
  intro w hw
  obtain ⟨write, -, rfl⟩ := List.mem_map.mp hw
  exact ⟨frame, hget⟩

theorem Tracked.scope_lt (h : Tracked loopOf s) (hknown : s.Known w) : w.scope < s.scopes.length := by
  obtain ⟨frame, hget⟩ := hknown
  exact h.scopes _ frame _ hget

/-- What the run of a server keeps. -/
structure Replying (wire : RpcMeta → List UInt8) (S : Services) (loopOf : Nat → Nat)
    (s : RpcServer) : Prop where
  tracked : Tracked loopOf s
  answered : Answered wire S loopOf s

theorem Flushed.start : Flushed loopOf {} := by
  refine ⟨by simp, fun conn n hun => ?_⟩
  obtain ⟨bytes, hmem⟩ := hun.mem
  simp at hmem

theorem Replying.start : Replying wire S loopOf {} := by
  refine ⟨.start, ⟨?_, ?_, ?_⟩, .start⟩
  · simp
  · simp
  · simp

/-- The loop thread writes what is known. -/
theorem Replying.emitted (ht : Tracked loopOf s) (hf : Flushed loopOf s)
    (hknown : ∀ w ∈ writes, s.Known w) : Tracked loopOf (s.writesInLoop writes) ∧
      Flushed loopOf (s.writesInLoop writes) ∧
        ∀ n, ((s.writesInLoop writes).repliesTo n).Perm (bytesFor n writes ++ s.repliesTo n) := by
  have hem := emitted_writesInLoop s writes
  exact ⟨ht.emitted hem, hf.emitted ht hknown hem,
    repliesTo_emitted (fun w hw => ht.scope_lt (hknown w hw)) hem⟩

theorem Replying.onMessage (h : Replying wire S loopOf s) {conn : Nat}
    (hbatch : s.batch (loopOf conn) = none) :
    Replying wire S loopOf { s with
      scopes := s.scopes ++ [{ conn := conn }]
      batch := Function.update s.batch (loopOf conn) (some s.scopes.length) } := by
  obtain ⟨ht, hr, hf⟩ := h
  exact ⟨ht.onMessage hbatch, ⟨hr.handled, hr.running, hr.answered⟩, hf.onMessage ht hbatch⟩

theorem Replying.handleFrame (hF : F.Lawful wire) (hsize : Compact wire)
    (h : Replying wire S loopOf s) {id : Nat} (hid : id < s.scopes.length)
    (frame : RpcFrame) : Replying wire S loopOf (s.handleFrame F S id frame) := by
  obtain ⟨ht, hr, hf⟩ := h
  unfold RpcServer.handleFrame
  cases hhandling : Rpc.handleFrame F S frame with
  | reply writes =>
    have hem := emitted_writesInLoop { s with received := s.received ++ [(frame, id)] }
      (frameWrites s.received.length id writes)
    obtain ⟨ht', hf', hperm⟩ := Replying.emitted (ht.received hid frame) (hf.received (frame, id))
      (known_frameWrites (Lists.getElem?_concat_eq_some_iff.mpr (.inr ⟨rfl, rfl⟩)) writes)
    exact ⟨ht', hr.reply hF hsize ht hf hhandling hem.running hem.ended hem.received hperm, hf'⟩
  | dispatch requestId traceId coroutine =>
    have hdispatch : (Rpc.handleFrame F S frame).isDispatch = true := by rw [hhandling]; rfl
    obtain ⟨rfl, rfl⟩ := ids_of_dispatch hhandling
    refine ⟨ht.dispatch hid (type_of_isDispatch hdispatch) _ _, ?_, ?_⟩
    · exact hr.dispatch ht hf (isDispatch_handleFrame_iff.mp hdispatch) rfl rfl rfl rfl fun _ => rfl
    · obtain ⟨hconn, hflushed⟩ := hf.received (frame, id)
      exact ⟨hconn, hflushed⟩

theorem Replying.close (h : Replying wire S loopOf s) {loop id : Nat}
    (hbatch : s.batch loop = some id) :
    Replying wire S loopOf { s.closeScope id with batch := Function.update s.batch loop none } := by
  obtain ⟨ht, hr, hf⟩ := h
  obtain ⟨scope, hget, hopen, rfl⟩ := ht.open_batch hbatch
  have hem := emitted_closeScope hget hopen (Function.update s.batch (loopOf scope.conn) none)
  refine ⟨(ht.closed hget hopen rfl).emitted hem, ?_, ?_⟩
  · apply hr.moved hem.running hem.ended hem.received
    intro n
    unfold repliesTo
    rw [hem.output, hem.queue, hem.posting, writtenFor_append]
    simp [writtenFor]
  · refine hf.closed hget hbatch ?_ hem.headers hem.received rfl hem.output
    rfl

/-- What the end of a handler does, on whichever thread it ends. -/
theorem finish_spec {index : Nat} {call : ServerCall} {ended : HandlerEnd}
    (ht : Tracked loopOf s) (hf : Flushed loopOf s) (hget : s.running[index]? = some call)
    (hl : l = .finishInLoop index ended ∨ l = .finishElsewhere index ended)
    (hstep : s.step F S loopOf l = some s') :
    Tracked loopOf s' ∧ Flushed loopOf s' ∧ s'.running = s.running.eraseIdx index ∧
      s'.ended = Function.update s.ended call.number (some ended) ∧ s'.received = s.received ∧
        ∀ n, (s'.repliesTo n).Perm (bytesFor n (frameWrites call.number call.scope
          (finishCall F call.requestId call.traceId ended)) ++ s.repliesTo n) := by
  obtain ⟨frame, hframe, -⟩ := ht.calls call (List.mem_of_getElem? hget)
  have ht₁ := ht.endCall hget ended
  have hf₁ : Flushed loopOf (s.endCall index call.number ended) := ⟨hf.conn, hf.flushed⟩
  have hknown := known_frameWrites (s := s.endCall index call.number ended) hframe
    (finishCall F call.requestId call.traceId ended)
  obtain rfl | rfl := hl
  · simp only [RpcServer.step, hget, Option.map_some, Option.some.injEq] at hstep
    subst hstep
    have hem := emitted_writesInLoop (s.endCall index call.number ended)
      (frameWrites call.number call.scope (finishCall F call.requestId call.traceId ended))
    obtain ⟨ht', hf', hperm⟩ := Replying.emitted ht₁ hf₁ hknown
    exact ⟨ht', hf', hem.running, hem.ended, hem.received, hperm⟩
  · simp only [RpcServer.step, hget, Option.map_some, Option.some.injEq] at hstep
    subst hstep
    refine ⟨ht₁.posted fun w hw => ?_, ⟨hf.conn, hf.flushed⟩, rfl, rfl, rfl, fun n => ?_⟩
    · rw [List.flatten_append, List.flatten_singleton, ← List.append_assoc, List.mem_append] at hw
      obtain hw | hw := hw
      · exact ht.writes w hw
      · exact hknown w hw
    · unfold repliesTo
      simp only [List.flatten_append, List.flatten_singleton, bytesFor_append, endCall]
      rw [← List.append_assoc, ← List.append_assoc, List.append_assoc (writtenFor n s.output)]
      exact List.perm_append_comm

/-- A thread posts its next write. -/
theorem Replying.post (h : Replying wire S loopOf s) {index : Nat}
    (hget : s.posting[index]? = some (w :: writes)) :
    Replying wire S loopOf
      { s with posting := s.posting.set index writes, queue := s.queue ++ [w] } := by
  obtain ⟨ht, hr, hf⟩ := h
  obtain ⟨hlt, hwrites⟩ := List.getElem?_eq_some_iff.mp hget
  have hold := (List.getElem_cons_eraseIdx_perm hlt).flatten
  rw [hwrites, List.flatten_cons] at hold
  have hnew := (List.set_perm_cons_eraseIdx hlt writes).flatten
  rw [List.flatten_cons] at hnew
  have hperm : (s.queue ++ [w] ++ (s.posting.set index writes).flatten).Perm
      (s.queue ++ s.posting.flatten) := by
    rw [List.append_assoc]
    exact ((hnew.cons w).trans hold).append_left _
  refine ⟨ht.posted fun w' hw' => ht.writes w' (hperm.mem_iff.mp hw'), ?_, ⟨hf.conn, hf.flushed⟩⟩
  refine hr.moved rfl rfl rfl fun n => ?_
  unfold repliesTo
  dsimp only
  rw [← bytesFor_append, ← bytesFor_append]
  exact (bytesFor_perm hperm).append_left _

/-- A loop runs the next functor. -/
theorem Replying.runNext (h : Replying wire S loopOf s) {p : FrameWrite → Bool}
    (hfind : s.queue.find? p = some w) :
    Replying wire S loopOf ({ s with queue := s.queue.eraseP p }.writeInLoop w) := by
  obtain ⟨ht, hr, hf⟩ := h
  have hperm : (w :: s.queue.eraseP p).Perm s.queue := by
    obtain ⟨hp, earlier, later, hqueue, hearlier⟩ := List.find?_eq_some_iff_append.mp hfind
    rw [hqueue, List.eraseP_append_right _ (fun b hb => by simpa using hearlier b hb),
      List.eraseP_cons_of_pos hp]
    exact List.perm_middle.symm
  have hknown : ∀ w' ∈ [w], s.Known w' := by
    intro w' hw'
    rw [List.mem_singleton] at hw'
    subst hw'
    exact ht.writes w' (List.mem_append_left _ (hperm.mem_iff.mp List.mem_cons_self))
  have ht₁ : Tracked loopOf { s with queue := s.queue.eraseP p } := by
    apply ht.posted
    intro w' hw'
    apply ht.writes w'
    rw [List.mem_append] at hw' ⊢
    exact hw'.imp_left fun hmem => hperm.mem_iff.mp (List.mem_cons_of_mem _ hmem)
  have hf₁ : Flushed loopOf { s with queue := s.queue.eraseP p } := ⟨hf.conn, hf.flushed⟩
  have hem := emitted_writeInLoop { s with queue := s.queue.eraseP p } w
  obtain ⟨ht', hf', hreplies⟩ := Replying.emitted ht₁ hf₁ hknown
  refine ⟨ht', hr.moved hem.running hem.ended hem.received fun n => (hreplies n).trans ?_, hf'⟩
  -- the write leaves the queue and is written
  unfold repliesTo
  dsimp only
  have hqueue := bytesFor_perm (n := n) hperm
  have hcons : bytesFor n (w :: s.queue.eraseP p) = bytesFor n [w] ++ bytesFor n (s.queue.eraseP p) :=
    bytesFor_append n [w] _
  rw [hcons] at hqueue
  rw [List.perm_iff_count] at hqueue ⊢
  intro bytes
  have hcount := hqueue bytes
  simp only [List.count_append] at hcount ⊢
  omega

theorem Replying.step (hF : F.Lawful wire) (hsize : Compact wire)
    (h : Replying wire S loopOf s) (hfits : s.EndFits wire l)
    (hstep : s.step F S loopOf l = some s') : Replying wire S loopOf s' := by
  have hfinish : ∀ index ended, (l = .finishInLoop index ended ∨ l = .finishElsewhere index ended) →
      ∀ call, s.running[index]? = some call → TextFits wire call.requestId call.traceId ended →
        Replying wire S loopOf s' := by
    intro index ended hl call hget hfits
    obtain ⟨ht, hr, hf⟩ := h
    obtain ⟨ht', hf', hrunning, hended, hreceived, hperm⟩ := finish_spec ht hf hget hl hstep
    exact ⟨ht', hr.finish ht hget hrunning hended hreceived hperm hF hsize hfits, hf'⟩
  cases l with
  | onMessage conn =>
    simp only [RpcServer.step, Option.ite_none_right_eq_some, Option.isNone_iff_eq_none] at hstep
    obtain ⟨hbatch, hstep⟩ := hstep
    cases hstep
    exact h.onMessage hbatch
  | frame loop frame =>
    obtain ⟨id, hbatch, rfl⟩ := Option.map_eq_some_iff.mp hstep
    obtain ⟨scope, hget, -⟩ := h.tracked.open_batch hbatch
    exact h.handleFrame hF hsize (List.getElem?_eq_some_iff.mp hget).1 frame
  | close loop =>
    obtain ⟨id, hbatch, rfl⟩ := Option.map_eq_some_iff.mp hstep
    exact h.close hbatch
  | finishInLoop index ended =>
    obtain ⟨call, hget, -⟩ := Option.map_eq_some_iff.mp hstep
    exact hfinish index ended (.inl rfl) call hget (hfits call hget)
  | finishElsewhere index ended =>
    obtain ⟨call, hget, -⟩ := Option.map_eq_some_iff.mp hstep
    exact hfinish index ended (.inr rfl) call hget (hfits call hget)
  | post index =>
    simp only [RpcServer.step] at hstep
    split at hstep
    · next w writes hget =>
      cases hstep
      exact h.post hget
    · cases hstep
  | runNext loop =>
    simp only [RpcServer.step, Option.ite_none_right_eq_some] at hstep
    obtain ⟨-, hstep⟩ := hstep
    obtain ⟨w, hfind, rfl⟩ := Option.map_eq_some_iff.mp hstep
    exact h.runNext hfind

/-- A handler that ends with a text that does not fit leaves its frame without a reply. -/
theorem Replying.endFits (hF : F.Lawful wire) (h : Replying wire S loopOf s)
    (hstep : ∀ s', s.step F S loopOf l = some s' → Answered wire S loopOf s') : s.EndFits wire l := by
  have hfinish : ∀ index ended, (l = .finishInLoop index ended ∨ l = .finishElsewhere index ended) →
      ∀ call, s.running[index]? = some call → TextFits wire call.requestId call.traceId ended := by
    intro index ended hl call hget
    have hsome : ∃ s', s.step F S loopOf l = some s' := by
      obtain rfl | rfl := hl <;> simp [RpcServer.step, hget]
    obtain ⟨s', hs'⟩ := hsome
    obtain ⟨ht, hr, hf⟩ := h
    obtain ⟨-, -, hrunning, -, hreceived, hperm⟩ := finish_spec ht hf hget hl hs'
    exact hr.fits_of_finish ht hget hrunning hreceived hperm hF (hstep s' hs').replied
  cases l with
  | finishInLoop index ended => exact hfinish index ended (.inl rfl)
  | finishElsewhere index ended => exact hfinish index ended (.inr rfl)
  | onMessage | frame | close | post | runNext => trivial

/-- In a run, every frame has its one flushed reply in every state that is reached exactly when no
handler ends with an exception whose text does not fit into a frame. -/
theorem replies_iff_texts_fit (hF : F.Lawful wire) (hsize : Compact wire) (S : Services)
    (loopOf : Nat → Nat) (steps : List RpcServerStep) :
    Transition.Meets (step F S loopOf) (EndFits wire) {} steps ↔
      ∀ earlier, earlier <+: steps → ∀ s, run F S loopOf {} earlier = some s →
        Answered wire S loopOf s :=
  Transition.meets_iff_forall_prefix (I := Replying wire S loopOf)
    (fun _ _ _ h hfits hstep => h.step hF hsize hfits hstep) (fun _ h => h.answered)
    (fun _ _ h hstep => h.endFits hF hstep) .start

theorem replies_iff_texts_fit_threeFrames : ∃ s,
    run wireFormat twoServices id {} threeFrames = some s ∧
      Answered RpcMeta.serialize twoServices id s := by
  refine ⟨_, rfl, ?_⟩
  refine (replies_iff_texts_fit wireFormat_lawful compact_serialize twoServices id threeFrames).mp ?_
    threeFrames (List.prefix_refl _) _ rfl
  refine Transition.meets_of_forall_mem fun s l hl => ?_
  simp only [threeFrames, List.mem_cons, List.not_mem_nil, or_false] at hl
  -- one handler throws, with a text of one octet
  have hfits : ∀ call : ServerCall, TextFits RpcMeta.serialize call.requestId call.traceId
      (.coroutine (.exception [65])) := by
    intro call thrown hthrown
    cases hthrown
    exact bodySize_errorMeta_le compact_serialize (by decide) _ _ _
  obtain rfl | rfl | rfl | rfl | rfl | rfl | rfl | rfl | rfl | rfl := hl
  case inr.inr.inr.inr.inl => exact fun _ _ => trivial
  case inr.inr.inr.inr.inr.inl => exact fun call _ => hfits call
  all_goals trivial

/-- A text with one octet more than a frame may have. -/
def overlongText : List UInt8 := List.replicate (kMaxFrameSize + 1) 65

theorem not_textFits_overlongText (requestId traceId : UInt64) :
    ¬TextFits RpcMeta.serialize requestId traceId (.coroutine (.exception overlongText)) := by
  intro hfits
  have hwhat : what overlongText = overlongText := by
    rw [what, overlongText, List.takeWhile_replicate]
    rfl
  have hsize := hfits (.internalError, overlongText) rfl
  rw [hwhat] at hsize
  have hmem : (⟨7, .bytes overlongText⟩ : ProtoWire.Field) ∈ ((errorMeta requestId traceId
      .internalError overlongText).setPayloadSize 0).fields := by
    have hne : overlongText ≠ [] := by
      intro hnil
      have hlength := congrArg List.length hnil
      rw [overlongText, List.length_replicate] at hlength
      cases hlength
    simp [RpcMeta.fields, field, errorMeta, RpcMeta.setPayloadSize, hne]
  have hwrite := ProtoWire.length_write_le hmem
  have hlength : overlongText.length = kMaxFrameSize + 1 := List.length_replicate
  simp only [ProtoWire.Field.write, ProtoWire.Value.write, List.length_append, hlength] at hwrite
  simp only [bodySize, RpcMeta.serialize, List.length_nil] at hsize
  omega

/-- A handler throws with `overlongText`: nothing is written for its request, and nothing is on its
way. -/
theorem request_unanswered : ∃ s, run wireFormat twoServices id {} [.onMessage 0,
      .frame 0 ⟨{ serviceName := [1], requestId := 7 }, [], 0⟩,
      .finishInLoop 0 (.coroutine (.exception overlongText))] = some s ∧
    s.received.length = 1 ∧ s.running = [] ∧ s.repliesTo 0 = [] ∧
      ¬Answered RpcMeta.serialize twoServices id s := by
  obtain ⟨s₂, hrun₂, hreceived₂, hrunning₂⟩ : ∃ s, run wireFormat twoServices id {} [.onMessage 0,
      .frame 0 ⟨{ serviceName := [1], requestId := 7 }, [], 0⟩] = some s ∧
        s.received.length = 1 ∧ s.running = [⟨0, 0, 7, 0⟩] := ⟨_, rfl, rfl, rfl⟩
  have h₂ : Replying RpcMeta.serialize twoServices id s₂ := by
    refine Transition.invariant_run (C := EndFits RpcMeta.serialize)
      (fun _ _ _ h hfits hstep => h.step wireFormat_lawful compact_serialize hfits hstep)
      .start ?_ hrun₂
    exact Transition.meets_of_forall_mem fun s l hl => by
      simp only [List.mem_cons, List.not_mem_nil, or_false] at hl
      obtain rfl | rfl := hl <;> trivial
  have hget : s₂.running[0]? = some ⟨0, 0, 7, 0⟩ := by rw [hrunning₂]; rfl
  obtain ⟨s, hstep⟩ : ∃ s, s₂.step wireFormat twoServices id
      (.finishInLoop 0 (.coroutine (.exception overlongText))) = some s :=
    ⟨_, by rw [RpcServer.step, hget]; rfl⟩
  obtain ⟨-, -, hrunning, -, hreceived, hperm⟩ :=
    finish_spec h₂.tracked h₂.answered.flushed hget (.inl rfl) hstep
  refine ⟨s, ?_, ?_, ?_, ?_, ?_⟩
  · change Transition.run _ _ ([_, _] ++ [_]) = some s
    rw [Transition.run_append, ← run, hrun₂]
    exact Transition.run_cons_eq_some_iff.mpr ⟨s, hstep, rfl⟩
  · rw [hreceived, hreceived₂]
  · rw [hrunning, hrunning₂]
    rfl
  · have hnone := repliesTo_call hget hperm h₂.answered.replied
    rw [replyBytes_finishCall_of_not_fits wireFormat_lawful (not_textFits_overlongText 7 0)] at hnone
    exact hnone.eq_nil
  · intro hanswered
    exact not_textFits_overlongText 7 0 (h₂.answered.replied.fits_of_finish h₂.tracked hget hrunning
      hreceived hperm wireFormat_lawful hanswered.replied)

end RpcServer

end NebulaRpc.Rpc
