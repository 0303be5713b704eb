import NebulaRpc.Rpc.Completion
import NebulaRpc.Rpc.Forms

/-!
# What a step does to the calls

Whatever its form, a step makes at most one record, and this belongs to the call that it completes or
rejects: a call that is completed is recorded and notified, a call about which the degrade handler is
asked is recorded now and notified when the handler has returned, and a call that was not valid is
notified without a record.
-/

namespace NebulaRpc.Rpc

/-- The call for which `RegisterAndSend` is called. -/
def ChannelFunctor.registering : ChannelFunctor → Option PendingCall
  | .registerAndSend _ _ call => some call
  | _ => none

/-- The call that is to be notified as invalid. -/
def ChannelFunctor.invalidNumber : ChannelFunctor → Option Nat
  | .completeInvalid number .. => some number
  | _ => none

/-- What a step does to the calls. -/
inductive Booking where
  | none
  | completed (call : PendingCall) (record : CallRecord)
  /-- the degrade handler is asked -/
  | rejected (call : PendingCall) (record : CallRecord)
  /-- the degrade handler has answered -/
  | returned (call : PendingCall)
  | invalid (number : Nat)

namespace Booking

/-- The record that is made, with the call it is for. -/
def recorded : Booking → Option (PendingCall × CallRecord)
  | .completed call record | .rejected call record => some (call, record)
  | _ => Option.none

/-- The call that is notified. -/
def notified : Booking → Option Nat
  | .completed call _ | .returned call => some call.number
  | .invalid number => some number
  | _ => Option.none

def asked : Booking → Option PendingCall
  | .rejected call _ => some call
  | _ => Option.none

def answered : Booking → Option PendingCall
  | .returned call => some call
  | _ => Option.none

def invalidNumber : Booking → Option Nat
  | .invalid number => some number
  | _ => Option.none

end Booking

namespace Booking

/-- The calls of a booking satisfy `P`, and it is one of an invalid call exactly if the functor is. -/
structure Fits (P : PendingCall → Prop) (functor : Option ChannelFunctor) (b : Booking) : Prop where
  invalid : b.invalidNumber = functor.bind ChannelFunctor.invalidNumber
  recorded : ∀ p ∈ b.recorded, P p.1.begun
  answered : ∀ call ∈ b.answered, P call.begun

variable {P : PendingCall → Prop} {functor : Option ChannelFunctor} {call : PendingCall}
  {record : CallRecord}

theorem Fits.none (h : functor.bind ChannelFunctor.invalidNumber = Option.none) :
    Booking.none.Fits P functor :=
  ⟨h.symm, by simp [Booking.recorded], by simp [Booking.answered]⟩

theorem Fits.completed (h : functor.bind ChannelFunctor.invalidNumber = Option.none)
    (hcall : P call.begun) : (Booking.completed call record).Fits P functor := by
  refine ⟨h.symm, ?_, by simp [Booking.answered]⟩
  rintro p ⟨⟩
  exact hcall

theorem Fits.rejected (h : functor.bind ChannelFunctor.invalidNumber = Option.none)
    (hcall : P call.begun) : (Booking.rejected call record).Fits P functor := by
  refine ⟨h.symm, ?_, by simp [Booking.answered]⟩
  rintro p ⟨⟩
  exact hcall

end Booking

/-- The state that is recorded for a call that ends. -/
def Ending.recorded : Ending → RpcCallState
  | .frame x => if x.rpcMeta.type = .error then .failed else .completed
  | .failure _ state => state
  | .cancel => .cancelled

namespace ChannelEnv

/-- The record that `RecordMetrics` makes. -/
def callRecord (e : ChannelEnv) (call : PendingCall) (state : RpcCallState) : CallRecord :=
  ⟨call.method, state, (e.clock - call.sentAt).tdiv 1000⟩

theorem metrics_finish (e : ChannelEnv) (call : PendingCall) (ending : Ending) :
    (e.finish call ending).metrics = e.metrics ++ [e.callRecord call ending.recorded] := by
  cases ending with
  | frame frame => simp [finish, record, callRecord, Ending.recorded]
  | failure reason state => simp [finish, record, callRecord, Ending.recorded]
  | cancel => simp [finish, record, callRecord, Ending.recorded]

theorem failed_release (e : ChannelEnv) (call : PendingCall) (c : Nat) :
    ((e.release call).controllers c).failed = (e.controllers c).failed := by
  have htimer : (e.cancelTimer call.timeoutTimer).controllers = e.controllers := by
    cases call.timeoutTimer <;> rfl
  unfold release
  dsimp only
  split
  · cases hcontroller : call.controller with
    | none => simp [updateController, htimer]
    | some c' =>
      obtain rfl | hne := eq_or_ne c c'
      · simp [updateController, htimer, RpcController.removeOnCancel]
      · simp [updateController, htimer, Function.update_of_ne hne]
  · rw [htimer]

end ChannelEnv

namespace RpcChannel

variable {F : MetaFormat} {a : ChannelStep} {s s₁ s' t : RpcChannel} {id : UInt64}
  {P : PendingCall → Prop}

/-- The functor that a step runs. -/
def performing (F : MetaFormat) (s : RpcChannel) : ChannelStep → Option ChannelFunctor
  | .beginCall x _ => some (s.prepareCall F x).1
  | .runFunctor index => s.functors[index]?
  | _ => none

/-- A step begins: it runs a functor, or queues a call of another thread, or does neither. -/
inductive Opens (F : MetaFormat) (a : ChannelStep) (s : RpcChannel) :
    RpcChannel → Option ChannelFunctor → Prop
  | same (ha : a.arguments = none) : Opens F a s s none
  | enqueue {x : CallArguments} (ha : a = .remoteBeginCall x) :
      Opens F a s
        { (s.prepareCall F x).2 with functors := s.functors ++ [(s.prepareCall F x).1] } none
  | performs {t : RpcChannel} {functor : ChannelFunctor} (hperforms : Performs F s a t functor) :
      Opens F a s t (some functor)

/-- The booking is what has happened to the calls. -/
structure Books (s : RpcChannel) (b : Booking) (s' : RpcChannel) : Prop where
  begun : s'.begun = s.begun
  posts : Posts s s'
  metrics : s'.env.metrics = s.env.metrics ++ b.recorded.toList.map (·.2)
  notified : s'.notified = b.notified.toList ++ s.notified
  degrading : b.answered.toList ++ s'.degrading = b.asked.toList ++ s.degrading
  method : ∀ p ∈ b.recorded, p.2.method = p.1.method

/-- Every call that is queued, pending or asked about satisfies `P`. -/
structure Carried (P : PendingCall → Prop) (s : RpcChannel) : Prop where
  queued : ∀ f ∈ s.functors, ∀ call ∈ f.registering, P call.begun
  pending : ∀ p ∈ s.entries, P p.2
  asked : ∀ call ∈ s.degrading, P call.begun

/-- How the call of a booking has ended. -/
inductive Ends (s : RpcChannel) : Booking → RpcChannel → Prop
  | none {s' : RpcChannel} : Ends s .none s'
  | completed {s' : RpcChannel} {call : PendingCall} {record : CallRecord} (e : ChannelEnv)
      (ending : Ending) (henv : s'.env = e.finish call ending) (hstate : record.state = ending.recorded)
      (hfailure : ∀ reason, ending ≠ .failure reason .completed)
      (hframe : ∀ frame, ending = .frame frame →
        (∃ conn frames error stack, s.stack = .onMessage conn (frame :: frames) error :: stack) ∧
          ∀ c, (e.controllers c).failed = (s.env.controllers c).failed) :
      Ends s (.completed call record) s'
  | rejected {s' : RpcChannel} {call : PendingCall} {record : CallRecord}
      (hstate : record.state = .failed) : Ends s (.rejected call record) s'
  | returned {call : PendingCall} {id : UInt64} {reason : List UInt8} {stack : List ChannelFrame}
      (accepted : Bool) (hstack : s.stack = .degrade id call reason :: stack) :
      Ends s (.returned call) ({ s with stack := stack }.degraded call reason accepted)
  | invalid {s' : RpcChannel} {number : Nat} : Ends s (.invalid number) s'

/-- A recorded call was pending, or is the one that is being registered. -/
def Settles (s : RpcChannel) (functor : Option ChannelFunctor) (b : Booking) (s' : RpcChannel) :
    Prop :=
  ∀ k, (b.recorded.toList.map (·.1.number)).count k + s'.pendingNumbers.count k ≤
    s.pendingNumbers.count k +
      ((functor.bind ChannelFunctor.registering).toList.map (·.number)).count k

/-- What a step does behind its beginning. -/
structure Handles (P : PendingCall → Prop) (functor : Option ChannelFunctor) (s : RpcChannel)
    (b : Booking) (s' : RpcChannel) : Prop where
  books : Books s b s'
  fits : b.Fits P functor
  ends : Ends s b s'
  settles : Settles s functor b s'
  carried : Carried P s'

/-! ## The bookings of the operations -/

theorem Books.of_quiet (h : Quiet s s') : Books s .none s' :=
  ⟨h.begun, h.posts, by simp [Booking.recorded, h.metrics], h.notified, h.degrading,
    by simp [Booking.recorded]⟩

theorem Books.of_quiet_trans {b : Booking} (h : Quiet s s₁) (hbooks : Books s₁ b s') :
    Books s b s' where
  begun := hbooks.begun.trans h.begun
  posts := h.posts.trans hbooks.posts
  metrics := hbooks.metrics.trans (by rw [h.metrics])
  notified := hbooks.notified.trans (by rw [h.notified])
  degrading := hbooks.degrading.trans (by rw [h.degrading])
  method := hbooks.method

/-- A call goes into the map. -/
theorem books_insert_trans {b : Booking} (s : RpcChannel) (id : UInt64) (call : PendingCall)
    (hquiet : Quiet (s.emplace id call) s₁) (hbooks : Books s₁ b s') : Books s b s' := by
  have h := Books.of_quiet_trans hquiet hbooks
  obtain heq | heq := emplace_cases s id call
  · rw [heq] at h
    exact h
  · rw [heq] at h
    exact ⟨h.begun, h.posts, h.metrics, h.notified, h.degrading, h.method⟩

theorem begun_notifyCompletion (s : RpcChannel) (number : Nat) (coroutine : Bool) :
    (s.notifyCompletion number coroutine).begun = s.begun := by
  unfold notifyCompletion
  dsimp only
  split <;> rfl

theorem degrading_notifyCompletion (s : RpcChannel) (number : Nat) (coroutine : Bool) :
    (s.notifyCompletion number coroutine).degrading = s.degrading := by
  unfold notifyCompletion
  dsimp only
  split <;> rfl

theorem entries_notifyCompletion (s : RpcChannel) (number : Nat) (coroutine : Bool) :
    (s.notifyCompletion number coroutine).entries = s.entries := by
  unfold notifyCompletion
  dsimp only
  split <;> rfl

/-- The state in which a call is notified, and the notification. -/
theorem Books.notify {b : Booking} {number : Nat} (coroutine : Bool)
    (hb : b.notified = some number) (hbegun : s'.begun = s.begun)
    (hfunctors : s'.functors = s.functors)
    (hmetrics : s'.env.metrics = s.env.metrics ++ b.recorded.toList.map (·.2))
    (hnotified : s'.notified = s.notified)
    (hdegrading : b.answered.toList ++ s'.degrading = b.asked.toList ++ s.degrading)
    (hmethod : ∀ p ∈ b.recorded, p.2.method = p.1.method) :
    Books s b (s'.notifyCompletion number coroutine) where
  begun := (begun_notifyCompletion s' number coroutine).trans hbegun
  posts := .notifyCompletion hfunctors number coroutine
  metrics := by rw [env_notifyCompletion, hmetrics]
  notified := by rw [notified_notifyCompletion, hnotified, hb]; rfl
  degrading := by rw [degrading_notifyCompletion, hdegrading]
  method := hmethod

theorem books_finish (s : RpcChannel) (id : UInt64) (call : PendingCall) (ending : Ending) :
    Books s (.completed call ((s.env.release call).callRecord call ending.recorded))
      (s.finish id call ending) := by
  apply Books.notify
  · rfl
  · rfl
  · rfl
  · exact (ChannelEnv.metrics_finish _ _ _).trans (by rw [ChannelEnv.metrics_release]; rfl)
  · rfl
  · rfl
  · simp [Booking.recorded, ChannelEnv.callRecord]

theorem books_reject (s : RpcChannel) (call : PendingCall) (reason : List UInt8)
    (state : RpcCallState) :
    Books s (.completed call (s.env.callRecord call state)) (s.reject call reason state) := by
  apply Books.notify
  · rfl
  · rfl
  · rfl
  · exact ChannelEnv.metrics_applyFailure _ _ _ _
  · rfl
  · rfl
  · simp [Booking.recorded, ChannelEnv.callRecord]

theorem books_rejectOverloaded (s : RpcChannel) (id : UInt64) (call : PendingCall) :
    Books s (if s.degradeHandler then .rejected call (s.env.callRecord call .failed)
      else .completed call (s.env.callRecord call .failed)) (s.rejectOverloaded id call) := by
  unfold rejectOverloaded
  dsimp only
  split
  · refine ⟨rfl, .of_eq rfl, rfl, rfl, rfl, ?_⟩
    simp [Booking.recorded, ChannelEnv.callRecord]
  · apply Books.notify
    · rfl
    · rfl
    · rfl
    · exact ChannelEnv.metrics_applyFailure _ _ _ _
    · rfl
    · rfl
    · simp [Booking.recorded, ChannelEnv.callRecord]

theorem books_degraded {call : PendingCall} {reason : List UInt8} {stack : List ChannelFrame}
    (hstack : s.stack = .degrade id call reason :: stack) (accepted : Bool) :
    Books s (.returned call) ({ s with stack := stack }.degraded call reason accepted) := by
  unfold degraded
  apply Books.notify
  · rfl
  · rfl
  · rfl
  · cases accepted
    · simp [Booking.recorded]
    · simp [Booking.recorded]
  · rfl
  · simp [Booking.answered, Booking.asked, RpcChannel.degrading, hstack, ChannelFrame.degrading]
  · simp [Booking.recorded]

theorem books_completeInvalid (s : RpcChannel) (number : Nat) (controller : Option Nat)
    (coroutine : Bool) (reason : List UInt8) :
    Books s (.invalid number) (s.completeInvalid number controller coroutine reason) := by
  unfold completeInvalid
  apply Books.notify
  · rfl
  · rfl
  · rfl
  · simp [Booking.recorded]
  · rfl
  · rfl
  · simp [Booking.recorded]

/-! ## Calls and what is known of them -/

theorem Carried.of_sub (h : Carried P s) (hposts : Posts s s') (hentries : s'.entries ⊆ s.entries)
    (hdegrading : s'.degrading ⊆ s.degrading) : Carried P s' := by
  refine ⟨fun f hf call hcall => ?_, fun p hp => h.pending p (hentries hp),
    fun call hcall => h.asked call (hdegrading hcall)⟩
  obtain ⟨fs, hfs, hnumber⟩ := hposts
  rw [hfs] at hf
  obtain hf | hf := List.mem_append.mp hf
  · exact h.queued f hf call hcall
  · have hnone := hnumber f hf
    cases f <;> simp_all [ChannelFunctor.registering, ChannelFunctor.number]

theorem Carried.of_quiet (h : Carried P s) (hquiet : Quiet s s') : Carried P s' :=
  h.of_sub hquiet.posts hquiet.entries.subset (hquiet.degrading ▸ List.Subset.refl _)

theorem Carried.notify (h : Carried P s) (e : ChannelEnv) (count number : Nat) (coroutine : Bool) :
    Carried P ({ s with env := e, overloadRejectCount := count }.notifyCompletion number
      coroutine) := by
  apply h.of_sub
  · exact .notifyCompletion rfl number coroutine
  · rw [entries_notifyCompletion]
    exact List.Subset.refl _
  · rw [degrading_notifyCompletion]
    exact List.Subset.refl _

theorem Carried.finish (h : Carried P s) (id : UInt64) (call : PendingCall) (ending : Ending) :
    Carried P (s.finish id call ending) := by
  have herase : Carried P (s.erasePending id) :=
    h.of_sub (.of_eq rfl) (entries_erasePending s id).subset (List.Subset.refl _)
  exact herase.notify _ s.overloadRejectCount _ _

theorem Carried.mem_pending (h : Carried P s) {call : PendingCall}
    (hfind : s.findPending id = some call) : P call.begun :=
  h.pending _ (List.mem_map_of_mem (find_eq_some hfind))

/-- A functor is taken out of the queue. -/
theorem Carried.dequeue (h : Carried P s) (index : Nat) :
    Carried P { s with functors := s.functors.eraseIdx index } :=
  ⟨fun f hf => h.queued f ((List.eraseIdx_sublist _ _).subset hf), h.pending, h.asked⟩

theorem Carried.emplace (h : Carried P s) (id : UInt64) {call : PendingCall} (hcall : P call.begun) :
    Carried P (s.emplace id call) := by
  obtain heq | heq := emplace_cases s id call
  · rw [heq]
    exact h
  · rw [heq]
    refine ⟨h.queued, fun p hp => ?_, h.asked⟩
    obtain hp | rfl : p ∈ s.entries ∨ p = (id, call.begun) := by simpa [entries] using hp
    · exact h.pending p hp
    · exact hcall

theorem Carried.rejectOverloaded (h : Carried P s) (id : UInt64) {call : PendingCall}
    (hcall : P call.begun) : Carried P (s.rejectOverloaded id call) := by
  unfold RpcChannel.rejectOverloaded
  dsimp only
  split
  · refine ⟨h.queued, h.pending, fun call' hcall' => ?_⟩
    obtain rfl | hcall' := List.mem_cons.mp hcall'
    · exact hcall
    · exact h.asked call' hcall'
  · exact h.notify _ _ _ _

theorem Carried.performed (h : Carried P s) {functor : ChannelFunctor}
    (hfunctor : ∀ call ∈ functor.registering, P call.begun) (hperformed : Performed s functor s') :
    Carried P s' := by
  cases hperformed with
  | unavailable => exact h.notify _ s.overloadRejectCount _ _
  | overloaded => exact h.rejectOverloaded _ (hfunctor _ rfl)
  | expired => exact h.notify _ s.overloadRejectCount _ _
  | inserted => exact (h.emplace _ (hfunctor _ rfl)).of_quiet (quiet_hook _ _ _)
  | cancelled =>
    exact ((h.emplace _ (hfunctor _ rfl)).of_quiet (quiet_hook _ _ _)).finish _ _ _
  | invalid => exact h.notify _ s.overloadRejectCount _ _
  | cancel => exact h.finish _ _ _
  | quiet => exact h

/-- What is known of the call that a step begins. -/
def Begins (F : MetaFormat) (P : PendingCall → Prop) (s : RpcChannel) (a : ChannelStep) : Prop :=
  ∀ x, a.arguments = some x → ∀ call ∈ (s.prepareCall F x).1.registering, P call.begun

theorem entries_prepareCall (F : MetaFormat) (s : RpcChannel) (x : CallArguments) :
    (s.prepareCall F x).2.entries = s.entries ∧ (s.prepareCall F x).2.degrading = s.degrading := by
  obtain ⟨n, completions, -, hstate⟩ := prepareCall_state F s x
  rw [hstate]
  exact ⟨rfl, rfl⟩

theorem Carried.prepare (h : Carried P s) (x : CallArguments) (e : ChannelEnv) :
    Carried P { (s.prepareCall F x).2 with env := e } := by
  obtain ⟨n, completions, -, hstate⟩ := prepareCall_state F s x
  rw [hstate]
  exact ⟨h.queued, h.pending, h.asked⟩

theorem Carried.opens {functor : Option ChannelFunctor} (h : Carried P s)
    (hbegins : Begins F P s a) (hopens : Opens F a s t functor) :
    Carried P t ∧ ∀ f ∈ functor, ∀ call ∈ f.registering, P call.begun := by
  cases hopens with
  | same ha => exact ⟨h, by simp⟩
  | @enqueue x ha =>
    have hnew := hbegins x (by rw [ha]; rfl)
    obtain ⟨n, completions, -, hstate⟩ := prepareCall_state F s x
    rw [hstate]
    refine ⟨⟨fun f hf => ?_, h.pending, h.asked⟩, by simp⟩
    obtain hf | rfl := by simpa using hf
    · exact h.queued f hf
    · exact hnew
  | performs hperforms =>
    cases hperforms with
    | beginCall x later =>
      refine ⟨h.prepare x _, ?_⟩
      rintro f ⟨⟩
      exact hbegins x rfl
    | @runFunctor index functor hget =>
      refine ⟨h.dequeue index, ?_⟩
      rintro f ⟨⟩
      exact h.queued _ (List.mem_of_getElem? hget)

/-! ## Every step has a booking -/

theorem performing_eq_some {functor : ChannelFunctor} (h : Performs F s a t functor) :
    performing F s a = some functor := by
  cases h with
  | beginCall x later => rfl
  | runFunctor hget => exact hget

theorem step_performs {functor : ChannelFunctor} (hperforming : performing F s a = some functor)
    (hstep : s.step F a = some s') : ∃ t, Performs F s a t functor ∧ s' = t.perform functor := by
  cases a with
  | beginCall x later =>
    simp only [step, Option.ite_none_right_eq_some, Option.some.injEq] at hstep
    obtain ⟨-, rfl⟩ := hstep
    cases hperforming
    exact ⟨_, .beginCall x later, rfl⟩
  | runFunctor index =>
    simp only [step, Option.ite_none_right_eq_some, Option.map_eq_some_iff] at hstep
    obtain ⟨-, functor', hget, rfl⟩ := hstep
    obtain rfl : functor' = functor := Option.some.inj (hget.symm.trans hperforming)
    exact ⟨_, .runFunctor hget, rfl⟩
  | _ => cases hperforming

theorem step_enqueues {x : CallArguments} (hperforming : performing F s a = none)
    (ha : a.arguments = some x) (hstep : s.step F a = some s') :
    a = .remoteBeginCall x ∧
      s' = { (s.prepareCall F x).2 with functors := s.functors ++ [(s.prepareCall F x).1] } := by
  cases a with
  | beginCall => cases hperforming
  | remoteBeginCall y =>
    simp only [step, Option.ite_none_right_eq_some, Option.some.injEq] at hstep
    obtain ⟨-, rfl⟩ := hstep
    cases ha
    exact ⟨rfl, by rw [functors_prepareCall]⟩
  | _ => cases ha

/-! ### Pending calls -/

theorem pendingNumbers_eq (s : RpcChannel) : s.pendingNumbers = s.entries.map (·.2.number) := by
  simp [pendingNumbers, entries, PendingCall.begun, Function.comp_def]

theorem count_pendingNumbers_of_quiet (h : Quiet s s') (k : Nat) :
    s'.pendingNumbers.count k ≤ s.pendingNumbers.count k := by
  rw [pendingNumbers_eq, pendingNumbers_eq]
  exact (h.entries.map _).count_le k

theorem count_pendingNumbers_emplace (s : RpcChannel) (id : UInt64) (call : PendingCall) (k : Nat) :
    (s.emplace id call).pendingNumbers.count k ≤ s.pendingNumbers.count k + [call.number].count k := by
  obtain heq | heq := emplace_cases s id call
  · rw [heq]
    omega
  · rw [heq]
    simp [pendingNumbers, List.count_append]

/-- The call that ends leaves the map. -/
theorem count_pendingNumbers_finish {call : PendingCall} (hfind : s.findPending id = some call)
    (ending : Ending) (k : Nat) :
    [call.number].count k + (s.finish id call ending).pendingNumbers.count k ≤
      s.pendingNumbers.count k := by
  have hfinish : (s.finish id call ending).pendingNumbers = (s.erasePending id).pendingNumbers := by
    rw [pendingNumbers_eq, pendingNumbers_eq]
    exact congrArg _ (entries_notifyCompletion _ _ _)
  have hperm := (List.filter_append_perm (fun p : UInt64 × PendingCall => decide (p.1 ≠ id))
    s.pendingCalls).map (·.2.number)
  have hcount := hperm.count_eq k
  have hmem : call.number ∈ (s.pendingCalls.filter
      fun p => !decide (p.1 ≠ id)).map (·.2.number) := by
    refine List.mem_map.mpr ⟨(id, call), List.mem_filter.mpr ⟨find_eq_some hfind, ?_⟩, rfl⟩
    simp
  rw [List.map_append, List.count_append] at hcount
  have hone := (List.singleton_sublist.mpr hmem).count_le k
  rw [hfinish]
  simp only [pendingNumbers, erasePending]
  omega

theorem settles_of_eq (hpending : s'.entries = s.entries) {functor : Option ChannelFunctor}
    {b : Booking} (hb : ∀ p ∈ b.recorded, functor.bind ChannelFunctor.registering = some p.1) :
    Settles s functor b s' := by
  intro k
  rw [pendingNumbers_eq, pendingNumbers_eq, hpending]
  cases hrecorded : b.recorded with
  | none => simp
  | some p => simp [hb p hrecorded, Nat.add_comm]

/-! ### Functors -/

theorem handles_reject (h : Carried P s) (id : UInt64) (bytes : List UInt8) {call : PendingCall}
    (hcall : P call.begun) (reason : List UInt8) {state : RpcCallState} (hstate : state ≠ .completed) :
    ∃ b, Handles P (some (.registerAndSend id bytes call)) s b (s.reject call reason state) := by
  refine ⟨_, books_reject s call reason state, .completed rfl hcall, ?_, ?_,
    h.notify _ s.overloadRejectCount _ _⟩
  · refine .completed s.env (.failure reason state) (env_notifyCompletion _ _ _) rfl ?_ ?_
    · simpa using hstate
    · simp
  · refine settles_of_eq (entries_notifyCompletion _ _ _) ?_
    rintro p ⟨⟩
    rfl

theorem handles_rejectOverloaded (h : Carried P s) (id : UInt64) (bytes : List UInt8)
    {call : PendingCall} (hcall : P call.begun) :
    ∃ b, Handles P (some (.registerAndSend id bytes call)) s b (s.rejectOverloaded id call) := by
  have hbooks := books_rejectOverloaded s id call
  refine ⟨_, hbooks, ?_, ?_, ?_, ?_⟩
  · split
    · exact .rejected rfl hcall
    · exact .completed rfl hcall
  · unfold rejectOverloaded
    dsimp only
    split
    · exact .rejected rfl
    · refine .completed s.env (.failure (octets "too many pending rpcs") .failed)
        (env_notifyCompletion _ _ _) rfl ?_ ?_ <;> simp
  · refine settles_of_eq ?_ ?_
    · unfold rejectOverloaded
      dsimp only
      split
      · rfl
      · exact entries_notifyCompletion _ _ _
    · split <;> rintro p ⟨⟩ <;> rfl
  · exact h.rejectOverloaded id hcall

theorem count_pendingNumbers_hook (s : RpcChannel) (call : PendingCall) (id : UInt64)
    (bytes : List UInt8) (k : Nat) :
    ((s.emplace id call).hook id bytes).pendingNumbers.count k ≤
      s.pendingNumbers.count k + [call.number].count k :=
  (count_pendingNumbers_of_quiet (quiet_hook _ id bytes) k).trans
    (count_pendingNumbers_emplace s id call k)

/-- What a functor does when it runs. -/
theorem handles_performed (h : Carried P s) {functor : ChannelFunctor}
    (hfunctor : ∀ call ∈ functor.registering, P call.begun) (hperformed : Performed s functor s') :
    ∃ b, Handles P (some functor) s b s' := by
  have hcarried' := h.performed hfunctor hperformed
  cases hperformed with
  | @unavailable id bytes call =>
    exact handles_reject h id bytes (hfunctor _ rfl) _ (by simp)
  | @overloaded id bytes call =>
    exact handles_rejectOverloaded h id bytes (hfunctor _ rfl)
  | @expired id bytes call =>
    exact handles_reject h id bytes (hfunctor _ rfl) _ (by simp)
  | @inserted id bytes call =>
    refine ⟨.none, books_insert_trans s id call (quiet_hook _ id bytes) (.of_quiet (.refl _)),
      .none rfl, .none, fun k => ?_, hcarried'⟩
    have hcount := count_pendingNumbers_hook s call id bytes k
    simpa [Booking.recorded, ChannelFunctor.registering] using hcount
  | @cancelled id bytes call call' _ _ hfind =>
    have hemplace := (h.emplace id (hfunctor _ rfl)).of_quiet (quiet_hook _ id bytes)
    refine ⟨_, books_insert_trans s id call (quiet_hook _ id bytes) (books_finish _ id call' .cancel),
      .completed rfl (hemplace.mem_pending hfind), ?_, fun k => ?_, hcarried'⟩
    · refine .completed _ .cancel (env_notifyCompletion _ _ _) rfl ?_ ?_ <;> simp
    · have hcount := count_pendingNumbers_hook s call id bytes k
      have hfinish := count_pendingNumbers_finish hfind .cancel k
      simp only [Booking.recorded, ChannelFunctor.registering, Option.bind_some, Option.toList_some,
        List.map_cons, List.map_nil] at hcount hfinish ⊢
      omega
  | @invalid number controller coroutine reason =>
    exact ⟨_, books_completeInvalid s number controller coroutine reason,
      ⟨rfl, by simp [Booking.recorded], by simp [Booking.answered]⟩, .invalid,
      settles_of_eq (entries_notifyCompletion _ _ _) (by simp [Booking.recorded]), hcarried'⟩
  | @cancel id call hfind =>
    refine ⟨_, books_finish s id call .cancel, .completed rfl (h.mem_pending hfind), ?_, fun k => ?_,
      hcarried'⟩
    · refine .completed _ .cancel (env_notifyCompletion _ _ _) rfl ?_ ?_ <;> simp
    · have hfinish := count_pendingNumbers_finish hfind .cancel k
      simpa [Booking.recorded, ChannelFunctor.registering] using hfinish
  | quiet hnumber =>
    refine ⟨.none, .of_quiet (.refl s), .none ?_, .none, settles_of_eq rfl ?_, hcarried'⟩
    · cases functor <;> simp_all [ChannelFunctor.invalidNumber, ChannelFunctor.number]
    · simp [Booking.recorded]

/-! ### Steps -/

/-- A step that ends a pending call, which a frame does only as the frame on top of the stack. -/
theorem handles_finish (h : Carried P s) {call : PendingCall} {ending : Ending}
    (hcause : Cause a s s s₁ id ending) (hfind : s₁.findPending id = some call)
    (hquiet : Quiet s s₁) : ∃ b, Handles P none s b (s₁.finish id call ending) := by
  have hcarried := h.of_quiet hquiet
  refine ⟨_, .of_quiet_trans hquiet (books_finish s₁ id call ending),
    .completed rfl (hcarried.mem_pending hfind), ?_, fun k => ?_, hcarried.finish id call ending⟩
  · refine .completed _ ending (env_notifyCompletion _ _ _) rfl ?_ ?_
    · cases hcause <;> simp
    · rintro frame rfl
      cases hcause with
      | frame hfirst ha hstack htype =>
        exact ⟨⟨_, _, _, _, hstack⟩, fun c => ChannelEnv.failed_release s.env call c⟩
  · have hpending := count_pendingNumbers_of_quiet hquiet k
    have hfinish := count_pendingNumbers_finish hfind ending k
    simp only [Booking.recorded, Option.bind_none, Option.toList_some, Option.toList_none,
      List.map_cons, List.map_nil, List.count_nil] at hfinish ⊢
    omega

/-- Every step begins in one way and has one booking. -/
theorem step_books (h : Carried P s) (hbegins : Begins F P s a) (hstep : s.step F a = some s') :
    ∃ t b, Opens F a s t (performing F s a) ∧ Handles P (performing F s a) t b s' := by
  cases hperforming : performing F s a with
  | some functor =>
    obtain ⟨t, hperforms, rfl⟩ := step_performs hperforming hstep
    obtain ⟨hcarried, hfunctor⟩ := h.opens hbegins (.performs hperforms)
    obtain ⟨b, hhandles⟩ :=
      handles_performed hcarried (hfunctor functor rfl) (performed_perform t functor)
    exact ⟨t, b, .performs hperforms, hhandles⟩
  | none =>
    cases ha : a.arguments with
    | some x =>
      obtain ⟨ha, rfl⟩ := step_enqueues hperforming ha hstep
      have hopens := Opens.enqueue (F := F) (s := s) ha
      refine ⟨_, .none, hopens, .of_quiet (.refl _), .none rfl, .none, settles_of_eq rfl ?_,
        (h.opens hbegins hopens).1⟩
      simp [Booking.recorded]
    | none =>
      cases step_form hstep with
      | quiet hquiet =>
        refine ⟨s, .none, .same ha, .of_quiet hquiet, .none rfl, .none, fun k => ?_,
          h.of_quiet hquiet⟩
        have hpending := count_pendingNumbers_of_quiet hquiet k
        simpa [Booking.recorded] using hpending
      | prepare ha' => cases ha' ▸ ha
      | finish hcause hfind hquiet hfunctors =>
        obtain ⟨b, hhandles⟩ := handles_finish h hcause hfind hquiet
        exact ⟨s, b, .same ha, hhandles⟩
      | @degraded _ call reason stack accepted _ _ _ hstack =>
        have hpop : Carried P { s with stack := stack } := by
          refine h.of_sub (.of_eq rfl) (List.Subset.refl _) ?_
          simp [RpcChannel.degrading, hstack, ChannelFrame.degrading]
        have hcall : P call.begun :=
          h.asked call (by simp [RpcChannel.degrading, hstack, ChannelFrame.degrading])
        refine ⟨s, _, .same ha, books_degraded hstack accepted,
          ⟨rfl, by simp [Booking.recorded], ?_⟩, .returned accepted hstack, settles_of_eq ?_ ?_, ?_⟩
        · rintro call' ⟨⟩
          exact hcall
        · exact entries_notifyCompletion _ _ _
        · simp [Booking.recorded]
        · exact hpop.notify _ s.overloadRejectCount _ _
      | perform hperforms => cases (performing_eq_some hperforms) ▸ hperforming

/-! ## The queue and the ids -/

variable {functor : Option ChannelFunctor}

/-- The beginning of a step completes nothing. -/
theorem Opens.ledger (h : Opens F a s t functor) :
    t.env.metrics = s.env.metrics ∧ t.notified = s.notified ∧ t.degrading = s.degrading ∧
      t.entries = s.entries ∧ t.begun = s.begun + a.arguments.toList.length := by
  have hprepare : ∀ x, (s.prepareCall F x).2.env.metrics = s.env.metrics ∧
      (s.prepareCall F x).2.notified = s.notified ∧ (s.prepareCall F x).2.degrading = s.degrading ∧
      (s.prepareCall F x).2.entries = s.entries ∧ (s.prepareCall F x).2.begun = s.begun + 1 := by
    intro x
    obtain ⟨n, completions, -, hstate⟩ := prepareCall_state F s x
    rw [hstate]
    exact ⟨rfl, rfl, rfl, rfl, rfl⟩
  cases h with
  | same ha => exact ⟨rfl, rfl, rfl, rfl, by simp [ha]⟩
  | @enqueue x ha =>
    subst ha
    exact hprepare x
  | performs hperforms =>
    cases hperforms with
    | beginCall x later => exact hprepare x
    | runFunctor hget => exact ⟨rfl, rfl, rfl, rfl, rfl⟩

theorem Opens.frame (h : Opens F a s t functor) :
    t.stack = s.stack ∧ t.env.controllers = s.env.controllers := by
  have hprepare : ∀ x, (s.prepareCall F x).2.stack = s.stack ∧
      (s.prepareCall F x).2.env.controllers = s.env.controllers := by
    intro x
    obtain ⟨n, completions, -, hstate⟩ := prepareCall_state F s x
    rw [hstate]
    exact ⟨rfl, rfl⟩
  cases h with
  | same => exact ⟨rfl, rfl⟩
  | @enqueue x ha => exact hprepare x
  | performs hperforms =>
    cases hperforms with
    | beginCall x later => exact hprepare x
    | runFunctor hget => exact ⟨rfl, rfl⟩

/-- What the beginning of a step does to what the functors yield. -/
theorem Opens.perm {α : Type} (h : Opens F a s t functor) (f : ChannelFunctor → Option α) :
    (functor.toList.filterMap f ++ t.functors.filterMap f).Perm (s.functors.filterMap f ++
      (a.arguments.toList.map fun x => (s.prepareCall F x).1).filterMap f) := by
  have hprepare : ∀ x, (s.prepareCall F x).2.functors = s.functors := functors_prepareCall F s
  cases h with
  | same ha => simp [ha]
  | @enqueue x ha =>
    subst ha
    simp [ChannelStep.arguments, List.filterMap_append]
  | @performs _ g hperforms =>
    cases hperforms with
    | beginCall x later =>
      simp only [hprepare]
      exact List.perm_append_comm
    | runFunctor hget =>
      have hperm := filterMap_eraseIdx_perm f hget
      cases hg : f g <;> simpa [ChannelStep.arguments, hg] using hperm

/-- Every call that is prepared with a request id draws it. -/
theorem nextRequestId_step_of_arguments (hstep : s.step F a = some s') :
    s.nextRequestId + ((a.arguments.toList.map fun x => (s.prepareCall F x).1).filterMap
      ChannelFunctor.registering).length ≤ s'.nextRequestId := by
  have hprepare : ∀ x, s.nextRequestId + ([(s.prepareCall F x).1].filterMap
      ChannelFunctor.registering).length ≤ (s.prepareCall F x).2.nextRequestId := by
    intro x
    obtain ⟨reason, hfunctor⟩ | ⟨bytes, call, hfunctor, hnext, -⟩ := prepareCall_functor F s x
    · simpa [hfunctor, List.filterMap_cons, ChannelFunctor.registering] using
        nextRequestId_le_prepareCall F s x
    · simp [hfunctor, ChannelFunctor.registering, hnext]
  cases a with
  | beginCall x later =>
    simp only [step, Option.ite_none_right_eq_some, Option.some.injEq] at hstep
    obtain ⟨-, rfl⟩ := hstep
    rw [nextRequestId_perform]
    exact hprepare x
  | remoteBeginCall x =>
    simp only [step, Option.ite_none_right_eq_some, Option.some.injEq] at hstep
    obtain ⟨-, rfl⟩ := hstep
    exact hprepare x
  | _ => simpa [ChannelStep.arguments] using nextRequestId_le_step hstep

end RpcChannel

end NebulaRpc.Rpc
