import NebulaRpc.Rpc.ReplyFlush

/-!
# Subtracted behind the reply

A call is subtracted from `in_flight_` only when its reply is in the output of its connection and has
been flushed. A loop runs what is posted to it in order, so that the write that ends a call comes
behind the other writes of that call; and what is not flushed belongs to a batch whose calls have not
been subtracted. Nothing here depends on which connection is on which loop.
-/

namespace NebulaRpc.Rpc

namespace RpcServer

variable {F : MetaFormat} {S : Services} {loopOf : Nat → Nat} {s s' : RpcServer} {w : FrameWrite}
  {writes : List FrameWrite} {l : RpcServerStep} {n : Nat} {later : List Nat}

/-! ## The write that ends a call -/

/-- Every write that does not end its call is followed by one that does, or that one is `later`. -/
def Ends (writes : List FrameWrite) (later : List Nat) : Prop :=
  ∀ before w after, writes = before ++ w :: after → w.write.finishCall = false →
    w.number ∈ finishing after ++ later

theorem mem_finishing : n ∈ finishing writes ↔
    ∃ w ∈ writes, w.write.finishCall = true ∧ w.number = n := by
  simp [finishing, and_assoc]

theorem Ends.tail (h : Ends (w :: writes) later) : Ends writes later :=
  fun before w' after heq => h (w :: before) w' after (by rw [heq, List.cons_append])

theorem Ends.mono {later' : List Nat} (h : Ends writes later) (hsubset : later ⊆ later') :
    Ends writes later' := by
  intro before w after heq hfinish
  exact List.mem_append.mpr ((List.mem_append.mp (h before w after heq hfinish)).imp_right (hsubset ·))

/-- The call of a write is ended by a write. -/
theorem Ends.mem (h : Ends writes later) (hw : w ∈ writes) : w.number ∈ finishing writes ++ later := by
  cases hfinish : w.write.finishCall with
  | true => exact List.mem_append_left _ (mem_finishing.mpr ⟨w, hw, hfinish, rfl⟩)
  | false =>
    obtain ⟨before, after, rfl⟩ := List.append_of_mem hw
    have hmem := h before w after rfl hfinish
    rw [finishing_append, finishing_cons]
    simp only [List.mem_append] at hmem ⊢
    exact hmem.imp_left fun hafter => .inr (.inr hafter)

/-- The last write of a handler reports the end of the call. -/
theorem finishCall_concat (F : MetaFormat) (requestId traceId : UInt64) (ended : HandlerEnd) :
    ∃ writes bytes, finishCall F requestId traceId ended = writes ++ [⟨bytes, true⟩] := by
  have herror : ∀ code text, ∃ writes bytes,
      finishWithError F requestId traceId code text = writes ++ [⟨bytes, true⟩] :=
    fun code text => ⟨_, _, rfl⟩
  have hresponse : ∀ response, ∃ writes bytes,
      sendResponse F requestId traceId response = writes ++ [⟨bytes, true⟩] := by
    intro response
    unfold sendResponse
    cases response.serializeToString with
    | none => exact herror _ _
    | some payload =>
      dsimp only
      split
      · exact herror _ _
      · exact ⟨[], _, rfl⟩
  cases ended with
  | done response => exact hresponse response
  | coroutine result =>
    cases result with
    | returned response =>
      cases response with
      | none => exact herror _ _
      | some response => exact hresponse response
    | rpcServiceError | rpcError | exception | unknown => exact herror _ _

theorem ends_finishCall (F : MetaFormat) (number scope : Nat) (requestId traceId : UInt64)
    (ended : HandlerEnd) :
    Ends (frameWrites number scope (finishCall F requestId traceId ended)) [] := by
  obtain ⟨writes, bytes, hconcat⟩ := finishCall_concat F requestId traceId ended
  intro before w after heq hfinish
  have hnumber : w.number = number := by
    have hmem : w ∈ frameWrites number scope (finishCall F requestId traceId ended) := by
      rw [heq]
      exact List.mem_append_right _ List.mem_cons_self
    obtain ⟨write, -, rfl⟩ := List.mem_map.mp hmem
    rfl
  rw [hconcat, frameWrites, List.map_append, List.map_singleton] at heq
  obtain rfl | ⟨after, last, rfl⟩ := List.eq_nil_or_concat after
  · obtain ⟨-, rfl⟩ := List.append_inj' heq rfl |>.imp_right List.singleton_inj.mp
    cases hfinish
  · -- the last write is behind this one
    rw [List.concat_eq_append, ← List.cons_append, ← List.append_assoc] at heq
    obtain ⟨-, hlast⟩ := List.append_inj' heq rfl
    rw [List.append_nil, List.concat_eq_append, ← List.singleton_inj.mp hlast, finishing_append,
      hnumber]
    exact List.mem_append_right _ (List.mem_singleton_self _)

/-! ## What a run keeps -/

/-- The frame with this number was received in a scope of this connection that is open, or closed. -/
def Within (s : RpcServer) (n conn : Nat) (collecting : Bool) : Prop :=
  ∃ frame id, s.received[n]? = some (frame, id) ∧
    (s.scopes.map header)[id]? = some (conn, collecting)

theorem Within.unique {conn conn' : Nat} {collecting collecting' : Bool}
    (h : s.Within n conn collecting) (h' : s.Within n conn' collecting') :
    conn = conn' ∧ collecting = collecting' := by
  obtain ⟨frame, id, hframe, hheader⟩ := h
  obtain ⟨frame', id', hframe', hheader'⟩ := h'
  rw [hframe, Option.some.injEq, Prod.mk.injEq] at hframe'
  obtain ⟨-, rfl⟩ := hframe'
  rwa [hheader, Option.some.injEq, Prod.mk.injEq] at hheader'

structure Behind (s : RpcServer) : Prop where
  running : ∀ call ∈ s.running, ∃ frame, s.received[call.number]? = some (frame, call.scope)
  onWay : ∀ w ∈ s.queue ++ s.posting.flatten, s.Known w
  /-- a thread posts the end of its call last -/
  posted : ∀ writes ∈ s.posting, Ends writes []
  queued : Ends s.queue (finishing s.posting.flatten)
  finished : ∀ (id : Nat) scope, s.scopes[id]? = some scope → ∀ n ∈ scope.finished,
    ∃ frame, s.received[n]? = some (frame, id)
  unflushed : ∀ conn n, Unflushed s.output conn n → s.Within n conn true
  accounted : ∀ n ∈ s.accounted, ∃ conn, s.Within n conn false

namespace Behind

theorem start : Behind {} := by
  refine ⟨?_, ?_, ?_, ?_, ?_, fun conn n hun => ?_, ?_⟩
  · simp
  · simp
  · simp
  · intro before w after heq
    simp at heq
  · simp
  · obtain ⟨bytes, hmem⟩ := hun.mem
    simp at hmem
  · simp

/-- The loop thread has written; `finished` and `accounted` may have changed. -/
theorem emitted {output : List ServerOutput} (h : Behind s) (hem : Emitted output s s')
    (hun : ∀ conn n, Unflushed output conn n → s.Within n conn true)
    (hfinished : ∀ (id : Nat) scope, s'.scopes[id]? = some scope → ∀ n ∈ scope.finished,
      ∃ frame, s.received[n]? = some (frame, id))
    (haccounted : ∀ n ∈ s'.accounted, n ∈ s.accounted ∨ ∃ conn, s.Within n conn false) :
    Behind s' := by
  have hwithin : ∀ n conn collecting, s.Within n conn collecting → s'.Within n conn collecting := by
    unfold Within
    rw [hem.received, hem.headers]
    exact fun _ _ _ => id
  refine ⟨?_, ?_, ?_, ?_, ?_, fun conn n hun' => ?_, fun n hn => ?_⟩
  · rw [hem.running, hem.received]
    exact h.running
  · simp only [Known, hem.queue, hem.posting, hem.received]
    exact h.onWay
  · rw [hem.posting]
    exact h.posted
  · rw [hem.queue, hem.posting]
    exact h.queued
  · rw [hem.received]
    exact hfinished
  · apply hwithin
    rw [hem.output] at hun'
    obtain hnew | ⟨hold, -⟩ := unflushed_append_iff.mp hun'
    · exact hun conn n hnew
    · exact h.unflushed conn n hold
  · obtain hold | ⟨conn, hnew⟩ := haccounted n hn
    · obtain ⟨conn, hclosed⟩ := h.accounted n hold
      exact ⟨conn, hwithin _ _ _ hclosed⟩
    · exact ⟨conn, hwithin _ _ _ hnew⟩

theorem writeInLoop (h : Behind s) (hknown : s.Known w) : Behind (s.writeInLoop w) := by
  have hem := emitted_writeInLoop s w
  obtain ⟨frame, hframe⟩ := hknown
  have hun : ∀ conn n, Unflushed (outputOf (s.scopes.map header) w) conn n → s.Within n conn true := by
    intro conn n hun
    obtain ⟨rfl, hopen⟩ := of_unflushed_outputOf hun
    exact ⟨frame, w.scope, hframe, hopen⟩
  refine h.emitted hem hun ?_ ?_ <;> unfold RpcServer.writeInLoop <;> cases hget : s.scopes[w.scope]?
  · exact h.finished
  · next scope =>
    dsimp only
    split
    · split
      · intro id scope' hget' n hn
        obtain rfl | hid := eq_or_ne w.scope id
        · rw [List.getElem?_set_self (List.getElem?_eq_some_iff.mp hget).1, Option.some.injEq] at hget'
          subst hget'
          obtain hn | hn := List.mem_append.mp hn
          · exact h.finished _ _ hget n hn
          · rw [List.mem_singleton.mp hn]
            exact ⟨frame, hframe⟩
        · rw [List.getElem?_set_ne hid] at hget'
          exact h.finished _ _ hget' n hn
      · exact h.finished
    · unfold onCallsFinished
      split <;> exact h.finished
  · exact fun n hn => .inl hn
  · next scope =>
    dsimp only
    split
    · split <;> exact fun n hn => .inl hn
    · next hclosed =>
      split
      · intro n hn
        obtain hn | hn := List.mem_append.mp hn
        · exact .inl hn
        · rw [List.mem_singleton.mp hn]
          exact .inr ⟨scope.conn, frame, w.scope, hframe, by simp [hget, header, hclosed]⟩
      · exact fun n hn => .inl hn

theorem writesInLoop (h : Behind s) (hknown : ∀ w ∈ writes, s.Known w) :
    Behind (s.writesInLoop writes) := by
  induction writes generalizing s with
  | nil => exact h
  | cons w writes ih =>
    have hreceived := (emitted_writeInLoop s w).received
    refine ih (h.writeInLoop (hknown w List.mem_cons_self)) fun w' hw' => ?_
    unfold Known
    rw [hreceived]
    exact hknown w' (List.mem_cons_of_mem _ hw')

/-- A batch ends: it is flushed, and then its calls are subtracted. -/
theorem closeScope (h : Behind s) (id : Nat) (batch : Nat → Option Nat) :
    Behind { s.closeScope id with batch := batch } := by
  cases hget : s.scopes[id]? with
  | none =>
    have hsame : s.closeScope id = s := by simp [RpcServer.closeScope, hget]
    rw [hsame]
    exact ⟨h.running, h.onWay, h.posted, h.queued, h.finished, h.unflushed, h.accounted⟩
  | some scope =>
    cases hopen : scope.collecting with
    | false =>
      have hsame : s.closeScope id = s := by simp [RpcServer.closeScope, hget, hopen]
      rw [hsame]
      exact ⟨h.running, h.onWay, h.posted, h.queued, h.finished, h.unflushed, h.accounted⟩
    | true =>
      have hlt := (List.getElem?_eq_some_iff.mp hget).1
      have hem := emitted_closeScope hget hopen batch
      have hreceived : (s.closeScope id).received = s.received := hem.received
      have hqueue : (s.closeScope id).queue = s.queue := hem.queue
      have hposting : (s.closeScope id).posting = s.posting := hem.posting
      obtain ⟨hscopes, haccounted⟩ : (s.closeScope id).scopes = s.scopes.set id
            { scope with collecting := false, finishedCalls := 0, finished := [] } ∧
          ∀ n ∈ (s.closeScope id).accounted, n ∈ s.accounted ∨ n ∈ scope.finished := by
        unfold RpcServer.closeScope onCallsFinished
        simp only [hget, hopen, if_true]
        split
        · exact ⟨rfl, fun n hn => List.mem_append.mp hn⟩
        · exact ⟨rfl, fun n hn => .inl hn⟩
      have hheaders : (s.closeScope id).scopes.map header =
          (s.scopes.map header).set id (scope.conn, false) := by
        rw [hscopes, List.map_set]
        rfl
      -- frames of other scopes stay where they are
      have hother : ∀ n conn collecting, s.Within n conn collecting →
          (∀ frame, s.received[n]? ≠ some (frame, id)) →
          Within { s.closeScope id with batch := batch } n conn collecting := by
        rintro n conn collecting ⟨frame, id', hframe, hheader⟩ hnot
        refine ⟨frame, id', hreceived ▸ hframe, ?_⟩
        have hne : id ≠ id' := by
          rintro rfl
          exact hnot frame hframe
        dsimp only
        rw [hheaders, List.getElem?_set_ne hne]
        exact hheader
      have hscope : ∀ n frame, s.received[n]? = some (frame, id) → s.Within n scope.conn true :=
        fun n frame hframe => ⟨frame, id, hframe, by simp [hget, header, hopen]⟩
      have hhere : ∀ n frame, s.received[n]? = some (frame, id) →
          Within { s.closeScope id with batch := batch } n scope.conn false := by
        intro n frame hframe
        refine ⟨frame, id, hreceived ▸ hframe, ?_⟩
        dsimp only
        rw [hheaders, List.getElem?_set_self (by simpa using hlt)]
      refine ⟨?_, ?_, ?_, ?_, fun id' scope' hget' n hn => ?_, fun conn n hun => ?_, fun n hn => ?_⟩
      · rw [hem.running, hem.received]
        exact h.running
      · simp only [Known, hqueue, hposting, hreceived]
        exact h.onWay
      · simp only [hposting]
        exact h.posted
      · simp only [hqueue, hposting]
        exact h.queued
      · rw [hem.received]
        dsimp only at hget'
        rw [hscopes] at hget'
        obtain rfl | hne := eq_or_ne id id'
        · rw [List.getElem?_set_self hlt, Option.some.injEq] at hget'
          subst hget'
          cases hn
        · rw [List.getElem?_set_ne hne] at hget'
          exact h.finished _ _ hget' n hn
      · rw [hem.output] at hun
        obtain ⟨earlier, bytes, rest, heq, -⟩ | ⟨hun, hflush⟩ := unflushed_append_iff.mp hun
        · cases earlier <;> simp at heq
        · have hwithin := h.unflushed conn n hun
          refine hother n conn true hwithin fun frame hframe => ?_
          obtain ⟨rfl, -⟩ := hwithin.unique (hscope n frame hframe)
          simp at hflush
      · obtain hn | hn := haccounted n hn
        · obtain ⟨conn, hwithin⟩ := h.accounted n hn
          refine ⟨conn, hother n conn false hwithin fun frame hframe => ?_⟩
          cases (hwithin.unique (hscope n frame hframe)).2
        · obtain ⟨frame, hframe⟩ := h.finished id scope hget n hn
          exact ⟨scope.conn, hhere n frame hframe⟩

/-- Scopes and frames are added. -/
theorem extend (h : Behind s) (scopes : List ResponseFlushScope)
    (hfinished : ∀ scope ∈ scopes, scope.finished = []) (received : List (RpcFrame × Nat))
    (batch : Nat → Option Nat) : Behind { s with
      scopes := s.scopes ++ scopes, received := s.received ++ received, batch := batch } := by
  have hframes : ∀ {n : Nat} {x}, s.received[n]? = some x → (s.received ++ received)[n]? = some x :=
    fun hget => (List.getElem?_append_left (List.getElem?_eq_some_iff.mp hget).1).trans hget
  have hwithin : ∀ {n conn collecting}, s.Within n conn collecting → Within { s with
      scopes := s.scopes ++ scopes, received := s.received ++ received, batch := batch }
        n conn collecting := by
    rintro n conn collecting ⟨frame, id, hframe, hheader⟩
    refine ⟨frame, id, hframes hframe, ?_⟩
    dsimp only
    rw [List.map_append, List.getElem?_append_left (List.getElem?_eq_some_iff.mp hheader).1]
    exact hheader
  refine ⟨fun call hcall => ?_, fun w hw => ?_, h.posted, h.queued, fun id scope hget n hn => ?_,
    fun conn n hun => hwithin (h.unflushed conn n hun), fun n hn => ?_⟩
  · obtain ⟨frame, hframe⟩ := h.running call hcall
    exact ⟨frame, hframes hframe⟩
  · obtain ⟨frame, hframe⟩ := h.onWay w hw
    exact ⟨frame, hframes hframe⟩
  · obtain hlt | hle := Nat.lt_or_ge id s.scopes.length
    · rw [List.getElem?_append_left hlt] at hget
      obtain ⟨frame, hframe⟩ := h.finished id scope hget n hn
      exact ⟨frame, hframes hframe⟩
    · rw [List.getElem?_append_right hle] at hget
      rw [hfinished scope (List.mem_of_getElem? hget)] at hn
      cases hn
  · obtain ⟨conn, hclosed⟩ := h.accounted n hn
    exact ⟨conn, hwithin hclosed⟩

theorem handleFrame (h : Behind s) (scope : Nat) (frame : RpcFrame) :
    Behind (s.handleFrame F S scope frame) := by
  have hreceived : Behind { s with received := s.received ++ [(frame, scope)] } := by
    simpa using h.extend [] (by simp) [(frame, scope)] s.batch
  have hnext : (s.received ++ [(frame, scope)])[s.received.length]? = some (frame, scope) :=
    Lists.getElem?_concat_eq_some_iff.mpr (.inr ⟨rfl, rfl⟩)
  unfold RpcServer.handleFrame
  cases Rpc.handleFrame F S frame with
  | reply writes => exact hreceived.writesInLoop (known_frameWrites hnext writes)
  | dispatch requestId traceId =>
    refine ⟨fun call hcall => ?_, hreceived.onWay, hreceived.posted, hreceived.queued,
      hreceived.finished, hreceived.unflushed, hreceived.accounted⟩
    obtain hcall | hcall := List.mem_append.mp hcall
    · exact hreceived.running call hcall
    · rw [List.mem_singleton.mp hcall]
      exact ⟨frame, hnext⟩

theorem endCall (h : Behind s) (index number : Nat) (ended : HandlerEnd) :
    Behind (s.endCall index number ended) :=
  ⟨fun call hcall => h.running call (List.mem_of_mem_eraseIdx hcall), h.onWay, h.posted, h.queued,
    h.finished, h.unflushed, h.accounted⟩

/-- The handler of a call ends on another thread. -/
theorem finishElsewhere (h : Behind s) {call : ServerCall} {frame : RpcFrame}
    (hframe : s.received[call.number]? = some (frame, call.scope)) (ended : HandlerEnd) :
    Behind { s with posting := s.posting ++ [frameWrites call.number call.scope
      (finishCall F call.requestId call.traceId ended)] } := by
  have hflatten : ∀ writes : List FrameWrite,
      (s.posting ++ [writes]).flatten = s.posting.flatten ++ writes := by simp
  refine ⟨h.running, fun w hw => ?_, fun writes hwrites => ?_, ?_, h.finished, h.unflushed,
    h.accounted⟩
  · rw [hflatten, ← List.append_assoc, List.mem_append] at hw
    obtain hw | hw := hw
    · exact h.onWay w hw
    · exact known_frameWrites hframe _ w hw
  · obtain hold | hnew := List.mem_append.mp hwrites
    · exact h.posted writes hold
    · rw [List.mem_singleton.mp hnew]
      exact ends_finishCall F _ _ _ _ ended
  · refine h.queued.mono ?_
    rw [hflatten, finishing_append]
    exact List.subset_append_left _ _

/-- A thread posts its next write. -/
theorem post (h : Behind s) {index : Nat} (hget : s.posting[index]? = some (w :: writes)) :
    Behind { s with posting := s.posting.set index writes, queue := s.queue ++ [w] } := by
  obtain ⟨hlt, hwrites⟩ := List.getElem?_eq_some_iff.mp hget
  have hperm : (w :: (s.posting.set index writes).flatten).Perm s.posting.flatten := by
    have hold := (List.getElem_cons_eraseIdx_perm hlt).flatten
    rw [hwrites] at hold
    exact ((List.set_perm_cons_eraseIdx hlt writes).flatten.cons w).trans hold
  have hends := h.posted (w :: writes) (List.mem_of_getElem? hget)
  have hset : writes ∈ s.posting.set index writes := List.mem_set hlt writes
  have hfinishing : ∀ n ∈ finishing s.posting.flatten,
      n ∈ finishing [w] ++ finishing (s.posting.set index writes).flatten := by
    intro n hn
    rw [← finishing_cons]
    exact ((hperm.filter _).map _).mem_iff.mpr hn
  refine ⟨h.running, fun w' hw' => h.onWay w' ?_, fun writes' hwrites' => ?_,
    fun before w' after heq hfinish => ?_, h.finished, h.unflushed, h.accounted⟩
  · rw [List.append_assoc, List.singleton_append] at hw'
    exact (hperm.append_left s.queue).subset hw'
  · obtain hold | rfl := List.mem_or_eq_of_mem_set hwrites'
    · exact h.posted writes' hold
    · exact hends.tail
  · obtain rfl | ⟨after', last, rfl⟩ := List.eq_nil_or_concat after
    · -- the write that is posted now; the thread has still to post the end of its call
      obtain ⟨-, hlast⟩ := List.append_inj' heq rfl
      obtain rfl := List.singleton_inj.mp hlast
      have hlater := hends [] w writes rfl hfinish
      rw [List.append_nil] at hlater
      obtain ⟨w', hw', hends'⟩ := mem_finishing.mp hlater
      exact mem_finishing.mpr ⟨w', List.mem_flatten.mpr ⟨writes, hset, hw'⟩, hends'⟩
    · rw [List.concat_eq_append, ← List.cons_append, ← List.append_assoc] at heq
      obtain ⟨hqueue, hlast⟩ := List.append_inj' heq rfl
      obtain rfl := List.singleton_inj.mp hlast
      have hmem := h.queued before w' after' hqueue hfinish
      rw [List.concat_eq_append, finishing_append]
      simp only [List.mem_append] at hmem ⊢
      obtain hmem | hmem := hmem
      · exact .inl (.inl hmem)
      · have hmoved := List.mem_append.mp (hfinishing _ hmem)
        exact hmoved.imp_left .inr

/-- A loop runs the first functor that was posted to it: the end of a call does not overtake. -/
theorem runNext (h : Behind s) {p : FrameWrite → Bool}
    (hp : ∀ w w' : FrameWrite, w.scope = w'.scope → p w = p w')
    (hfind : s.queue.find? p = some w) :
    Behind ({ s with queue := s.queue.eraseP p }.writeInLoop w) := by
  obtain ⟨hpw, earlier, rest, hqueue, hearlier⟩ := List.find?_eq_some_iff_append.mp hfind
  have herase : s.queue.eraseP p = earlier ++ rest := by
    rw [hqueue, List.eraseP_append_right _ (fun b hb => by simpa using hearlier b hb),
      List.eraseP_cons_of_pos hpw]
  have hknown : ∀ w' ∈ s.queue, s.Known w' := fun w' hw' => h.onWay w' (List.mem_append_left _ hw')
  have hmem : w ∈ s.queue := List.mem_of_find?_eq_some hfind
  have herased : Behind { s with queue := s.queue.eraseP p } := by
    refine ⟨h.running, fun w' hw' => h.onWay w' ?_, h.posted, ?_, h.finished, h.unflushed,
      h.accounted⟩
    · exact (List.mem_append.mp hw').elim
        (fun hw' => List.mem_append_left _ (List.mem_of_mem_eraseP hw')) (List.mem_append_right _)
    intro before w' after heq hfinish
    rw [herase] at heq
    obtain ⟨between, rfl, hrest⟩ | ⟨between, rfl, hrest⟩ := List.append_eq_append_iff.mp heq
    · -- `w'` was behind `w`
      refine h.queued (earlier ++ w :: between) w' after ?_ hfinish
      rw [hqueue, hrest, List.append_assoc, List.cons_append]
    · cases between with
      | nil =>
        refine h.queued (before ++ [w]) w' after ?_ hfinish
        rw [List.nil_append] at hrest
        rw [hqueue, ← hrest, List.append_nil, List.append_assoc, List.singleton_append]
      | cons w'' between =>
        -- `w'` was in front of `w`, which is therefore of another scope
        rw [List.cons_append] at hrest
        obtain ⟨rfl, rfl⟩ := List.cons.inj hrest
        have hold := h.queued before w' (between ++ w :: rest)
          (by rw [hqueue, List.append_assoc, List.cons_append]) hfinish
        have hne : w.number ≠ w'.number := by
          intro hnumber
          obtain ⟨frame, hframe⟩ := hknown w hmem
          obtain ⟨frame', hframe'⟩ := hknown w' (by rw [hqueue]; simp)
          rw [hnumber, hframe', Option.some.injEq, Prod.mk.injEq] at hframe
          have hpw' := hearlier w' (by simp)
          rw [hp w' w hframe.2, hpw] at hpw'
          cases hpw'
        rw [finishing_append, finishing_cons] at hold
        rw [finishing_append]
        simp only [List.mem_append] at hold ⊢
        obtain (hold | hold | hold) | hold := hold
        · exact .inl (.inl hold)
        · obtain ⟨w'', hw'', -, hnumber⟩ := mem_finishing.mp hold
          rw [List.mem_singleton.mp hw''] at hnumber
          exact absurd hnumber hne
        · exact .inl (.inr hold)
        · exact .inr hold
  exact herased.writeInLoop (hknown w hmem)

theorem step (h : Behind s) (hstep : s.step F S loopOf l = some s') : Behind s' := by
  cases l with
  | onMessage conn =>
    simp only [RpcServer.step, Option.ite_none_right_eq_some] at hstep
    obtain ⟨-, hstep⟩ := hstep
    cases hstep
    simpa using h.extend [{ conn := conn }] (by simp) [] _
  | frame loop frame =>
    obtain ⟨scope, -, rfl⟩ := Option.map_eq_some_iff.mp hstep
    exact h.handleFrame scope frame
  | close loop =>
    obtain ⟨scope, -, rfl⟩ := Option.map_eq_some_iff.mp hstep
    exact h.closeScope scope _
  | finishInLoop index ended =>
    obtain ⟨call, hget, rfl⟩ := Option.map_eq_some_iff.mp hstep
    obtain ⟨frame, hframe⟩ := h.running call (List.mem_of_getElem? hget)
    exact (h.endCall index call.number ended).writesInLoop (known_frameWrites hframe _)
  | finishElsewhere index ended =>
    obtain ⟨call, hget, rfl⟩ := Option.map_eq_some_iff.mp hstep
    obtain ⟨frame, hframe⟩ := h.running call (List.mem_of_getElem? hget)
    exact (h.endCall index call.number ended).finishElsewhere hframe ended
  | post index =>
    simp only [RpcServer.step] at hstep
    split at hstep
    · next w writes hget =>
      cases hstep
      exact h.post hget
    · cases hstep
  | runNext loop =>
    simp only [RpcServer.step, Option.ite_none_right_eq_some] at hstep
    obtain ⟨-, hstep⟩ := hstep
    obtain ⟨w, hfind, rfl⟩ := Option.map_eq_some_iff.mp hstep
    refine h.runNext (fun w w' hscope => ?_) hfind
    simp [loopOfWrite, hscope]

end Behind

/-- The handler of a call has ended, each of its writes has run, and what they have written is
flushed. -/
structure Delivered (s : RpcServer) (n : Nat) : Prop where
  ended : n ∉ s.running.map (·.number)
  written : ∀ w ∈ s.queue ++ s.posting.flatten, w.number ≠ n
  flushed : ∀ conn, ¬Unflushed s.output conn n

/-- What has been subtracted has been delivered. -/
theorem Behind.delivered (h : Behind s) (hpartition : s.dispatched.Perm (s.outstanding ++ s.accounted))
    (hnodup : s.dispatched.Nodup) (hn : n ∈ s.accounted) : s.Delivered n := by
  have hnot : n ∉ s.outstanding := fun hmem =>
    List.disjoint_of_nodup_append (hpartition.nodup_iff.mp hnodup) hmem hn
  simp only [outstanding, List.mem_append, not_or] at hnot
  obtain ⟨hrunning, hposting, hqueue, -⟩ := hnot
  refine ⟨hrunning, fun w hw hnumber => ?_, fun conn hun => ?_⟩
  · subst hnumber
    obtain hw | hw := List.mem_append.mp hw
    · exact (List.mem_append.mp (h.queued.mem hw)).elim hqueue hposting
    · obtain ⟨writes, hwrites, hw⟩ := List.mem_flatten.mp hw
      have hmem := (h.posted writes hwrites).mem hw
      rw [List.append_nil] at hmem
      obtain ⟨w', hw', hends⟩ := mem_finishing.mp hmem
      exact hposting (mem_finishing.mpr ⟨w', List.mem_flatten.mpr ⟨writes, hwrites, hw'⟩, hends⟩)
  · -- the scope of the call would be open and closed
    obtain ⟨conn', hclosed⟩ := h.accounted n hn
    cases ((h.unflushed conn n hun).unique hclosed).2

end RpcServer

end NebulaRpc.Rpc
