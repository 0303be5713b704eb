import NebulaRpc.Library.Lists
import NebulaRpc.Library.Transition

/-!
# Cancel closures

The closures that are handed to one `RpcController`, at the granularity of its mutex. A method takes
closures out of the list with the lock held and runs or deletes them afterwards, one by one; other
threads, and the closures themselves, call methods in between. A closure is handed over once, since
it belongs to the controller from then on. No method is called on a controller whose destructor has
returned, but a method that has left its last section does not touch the controller any more.
-/

namespace NebulaRpc.Rpc

/-- The methods that run or delete closures. -/
inductive CancelMethod where
  | registerOnCancel
  | removeOnCancel
  | startCancel
  /-- `Reset`, between its two sections -/
  | reset
  /-- `Reset`, behind both sections -/
  | resetRelease
  | destructor
  deriving DecidableEq

/-- The method runs its closures, the others delete them. -/
def CancelMethod.runs : CancelMethod → Bool
  | .registerOnCancel | .startCancel => true
  | _ => false

/-- A call of a method, with the closures that it has still to run or delete. -/
structure CancelCall (Closure : Type) where
  method : CancelMethod
  closures : List Closure

inductive ControllerLifetime where
  | alive
  | destroying
  | destroyed
  deriving DecidableEq

/-- What `RpcController` has of closures, and what has become of those that were handed to it. -/
structure CancelClosures (Closure : Type) where
  cancelRequested : Bool := false
  cancelCallbacks : List (Int × Closure) := []
  nextCancelToken : Int := 0
  lifetime : ControllerLifetime := .alive
  calls : List (CancelCall Closure) := []
  handed : List Closure := []
  ran : List Closure := []
  deleted : List Closure := []
  /-- taken out of the list by `RemoveOnCancel`, `Reset` or the destructor -/
  removed : List Closure := []

inductive CancelClosuresStep (Closure : Type) where
  /-- `RegisterOnCancel` or `NotifyOnCancel` -/
  | registerOnCancel (callback : Option Closure)
  | removeOnCancel (token : Int)
  | startCancel
  /-- the first section of `Reset` -/
  | reset
  /-- `ReleaseCancelCallbacks` in a `Reset` -/
  | releaseCancelCallbacks (n : Nat)
  | destroy
  /-- a call runs or deletes its next closure -/
  | consume (n : Nat)
  | finish (n : Nat)

namespace CancelClosures

variable {Closure : Type}

/-- The closures in the list. -/
def stored (s : CancelClosures Closure) : List Closure := s.cancelCallbacks.map (·.2)

/-- The closures that calls have still to run or delete. -/
def held (s : CancelClosures Closure) : List Closure := s.calls.flatMap (·.closures)

/-- The closures that a call has still to run. -/
def running (call : CancelCall Closure) : List Closure :=
  if call.method.runs then call.closures else []

/-- `ReleaseCancelCallbacks`, up to the deletions. -/
def swapped (s : CancelClosures Closure) : CancelClosures Closure :=
  { s with cancelCallbacks := [], removed := s.removed ++ s.stored }

def step [DecidableEq Closure] (s : CancelClosures Closure) :
    CancelClosuresStep Closure → Option (CancelClosures Closure)
  | .registerOnCancel callback =>
    if s.lifetime = .destroyed then none
    else
      match callback with
      | none => some s
      | some callback =>
        if callback ∈ s.handed then none
        else if s.cancelRequested then
          some { s with
            handed := s.handed ++ [callback]
            calls := s.calls ++ [⟨.registerOnCancel, [callback]⟩] }
        else
          some { s with
            handed := s.handed ++ [callback]
            nextCancelToken := Int.bmod (s.nextCancelToken + 1) (2 ^ 32)
            cancelCallbacks := s.cancelCallbacks ++ [(s.nextCancelToken, callback)] }
  | .removeOnCancel token =>
    if s.lifetime = .destroyed then none
    else
      match s.cancelCallbacks.find? (·.1 = token) with
      | none => some s
      | some (_, callback) =>
        some { s with
          cancelCallbacks := s.cancelCallbacks.eraseP (·.1 = token)
          calls := s.calls ++ [⟨.removeOnCancel, [callback]⟩]
          removed := s.removed ++ [callback] }
  | .startCancel =>
    if s.lifetime = .destroyed then none
    else if s.cancelRequested then some s
    else
      some { s with
        cancelRequested := true
        cancelCallbacks := []
        calls := s.calls ++ [⟨.startCancel, s.stored⟩] }
  | .reset =>
    if s.lifetime = .destroyed then none
    else some { s with cancelRequested := false, calls := s.calls ++ [⟨.reset, []⟩] }
  | .releaseCancelCallbacks n =>
    if s.lifetime = .destroyed then none
    else
      match s.calls[n]? with
      | some ⟨.reset, []⟩ =>
        some { s.swapped with calls := s.calls.set n ⟨.resetRelease, s.stored⟩ }
      | _ => none
  | .destroy =>
    if s.lifetime = .alive then
      some { s.swapped with
        lifetime := .destroying
        calls := s.calls ++ [⟨.destructor, s.stored⟩] }
    else none
  | .consume n =>
    match s.calls[n]? with
    | some ⟨method, callback :: closures⟩ =>
      let s := { s with calls := s.calls.set n ⟨method, closures⟩ }
      if method.runs then some { s with ran := s.ran ++ [callback] }
      else some { s with deleted := s.deleted ++ [callback] }
    | _ => none
  | .finish n =>
    match s.calls[n]? with
    | some ⟨method, []⟩ =>
      if method = .reset then none
      else
        some { s with
          calls := s.calls.eraseIdx n
          lifetime := if method = .destructor then .destroyed else s.lifetime }
    | _ => none

abbrev run [DecidableEq Closure] (s : CancelClosures Closure)
    (steps : List (CancelClosuresStep Closure)) : Option (CancelClosures Closure) :=
  Transition.run step s steps

variable [DecidableEq Closure] {s s' : CancelClosures Closure} {l : CancelClosuresStep Closure}

/-- What a step does. -/
inductive Changes (s : CancelClosures Closure) :
    CancelClosuresStep Closure → CancelClosures Closure → Prop where
  | idle (l : CancelClosuresStep Closure) : Changes s l s
  | registerRun {callback : Closure} (hnew : callback ∉ s.handed) (hreq : s.cancelRequested) :
      Changes s (.registerOnCancel (some callback)) { s with
        handed := s.handed ++ [callback]
        calls := s.calls ++ [⟨.registerOnCancel, [callback]⟩] }
  | registerStore {callback : Closure} (hnew : callback ∉ s.handed)
      (hreq : s.cancelRequested = false) (token : Int) :
      Changes s (.registerOnCancel (some callback)) { s with
        handed := s.handed ++ [callback]
        nextCancelToken := token
        cancelCallbacks := s.cancelCallbacks ++ [(s.nextCancelToken, callback)] }
  | remove {token : Int} {callback : Closure} {before after : List (Int × Closure)}
      (hlist : s.cancelCallbacks = before ++ (token, callback) :: after) :
      Changes s (.removeOnCancel token) { s with
        cancelCallbacks := before ++ after
        calls := s.calls ++ [⟨.removeOnCancel, [callback]⟩]
        removed := s.removed ++ [callback] }
  | startCancel (hreq : s.cancelRequested = false) :
      Changes s .startCancel { s with
        cancelRequested := true
        cancelCallbacks := []
        calls := s.calls ++ [⟨.startCancel, s.stored⟩] }
  | reset : Changes s .reset { s with
      cancelRequested := false, calls := s.calls ++ [⟨.reset, []⟩] }
  | release {n : Nat} (hget : s.calls[n]? = some ⟨.reset, []⟩) :
      Changes s (.releaseCancelCallbacks n)
        { s.swapped with calls := s.calls.set n ⟨.resetRelease, s.stored⟩ }
  | destroy (halive : s.lifetime = .alive) :
      Changes s .destroy { s.swapped with
        lifetime := .destroying
        calls := s.calls ++ [⟨.destructor, s.stored⟩] }
  | run {n : Nat} {method : CancelMethod} {callback : Closure} {closures : List Closure}
      (hget : s.calls[n]? = some ⟨method, callback :: closures⟩) (hruns : method.runs) :
      Changes s (.consume n) { s with
        calls := s.calls.set n ⟨method, closures⟩, ran := s.ran ++ [callback] }
  | delete {n : Nat} {method : CancelMethod} {callback : Closure} {closures : List Closure}
      (hget : s.calls[n]? = some ⟨method, callback :: closures⟩) (hruns : method.runs = false) :
      Changes s (.consume n) { s with
        calls := s.calls.set n ⟨method, closures⟩, deleted := s.deleted ++ [callback] }
  | finish {n : Nat} {method : CancelMethod} (hget : s.calls[n]? = some ⟨method, []⟩) :
      Changes s (.finish n) { s with
        calls := s.calls.eraseIdx n
        lifetime := if method = .destructor then .destroyed else s.lifetime }

theorem changes_removeOnCancel {token : Int} (h : s.step (.removeOnCancel token) = some s') :
    Changes s (.removeOnCancel token) s' := by
  simp only [step] at h
  split at h
  · cases h
  split at h
  next =>
    obtain rfl : s = s' := by simpa using h
    exact .idle _
  next key callback hfind =>
    obtain ⟨hkey, before, after, hlist, hbefore⟩ := List.find?_eq_some_iff_append.mp hfind
    obtain rfl : key = token := by simpa using hkey
    have herase : s.cancelCallbacks.eraseP (·.1 = key) = before ++ after := by
      rw [hlist, List.eraseP_append_right _ (by simpa using hbefore)]
      simp
    rw [herase, Option.some.injEq] at h
    subst h
    exact .remove hlist

theorem changes_of_step (h : s.step l = some s') : Changes s l s' := by
  cases l with
  | registerOnCancel callback =>
    simp only [step] at h
    split at h
    · cases h
    split at h
    next =>
      obtain rfl : s = s' := by simpa using h
      exact .idle _
    next callback =>
      split_ifs at h with hmem hreq
      · cases h
        exact .registerRun hmem hreq
      · cases h
        exact .registerStore hmem (by simpa using hreq) _
  | removeOnCancel token => exact changes_removeOnCancel h
  | startCancel =>
    simp only [step] at h
    split_ifs at h with hlife hreq
    · obtain rfl : s = s' := by simpa using h
      exact .idle _
    · cases h
      exact .startCancel (by simpa using hreq)
  | reset =>
    simp only [step] at h
    split_ifs at h
    cases h
    exact .reset
  | releaseCancelCallbacks n =>
    simp only [step] at h
    split at h
    · cases h
    split at h
    next hget =>
      cases h
      exact .release hget
    next => cases h
  | destroy =>
    simp only [step] at h
    split_ifs at h with halive
    cases h
    exact .destroy halive
  | consume n =>
    simp only [step] at h
    split at h
    next method callback closures hget =>
      split_ifs at h with hruns
      · cases h
        exact .run hget hruns
      · cases h
        exact .delete hget (by simpa using hruns)
    next => cases h
  | finish n =>
    simp only [step] at h
    split at h
    next method hget =>
      split at h
      · cases h
      · cases h
        exact .finish hget
    next => cases h

/-! ## Every closure is in one place -/

/-- Every closure that was handed over is in the list, in the hands of a call, or has been run or
deleted. -/
structure Owned (s : CancelClosures Closure) : Prop where
  nodup : s.handed.Nodup
  places : ∀ x, s.stored.count x + s.held.count x + s.ran.count x + s.deleted.count x =
    s.handed.count x

section Held

variable {n : Nat} {call : CancelCall Closure} {x : Closure}

theorem count_held_set (f : CancelCall Closure → List Closure) (hget : s.calls[n]? = some call)
    (call' : CancelCall Closure) :
    ((s.calls.set n call').flatMap f).count x + (f call).count x =
      (s.calls.flatMap f).count x + (f call').count x := by
  have hold := (Lists.flatMap_perm_eraseIdx f hget).count_eq x
  have hnew := (Lists.flatMap_set_perm_eraseIdx f hget call').count_eq x
  rw [List.count_append] at hold hnew
  omega

theorem count_held_eraseIdx (f : CancelCall Closure → List Closure)
    (hget : s.calls[n]? = some call) (hnone : f call = []) :
    ((s.calls.eraseIdx n).flatMap f).count x = (s.calls.flatMap f).count x := by
  have hold := (Lists.flatMap_perm_eraseIdx f hget).count_eq x
  simpa [hnone] using hold.symm

end Held

theorem Owned.step (h : Owned s) (hstep : s.step l = some s') : Owned s' := by
  cases changes_of_step hstep with
  | idle => exact h
  | registerRun hnew hreq =>
    refine ⟨by simpa [List.nodup_append] using ⟨h.nodup, fun x hx heq => hnew (heq ▸ hx)⟩,
      fun x => ?_⟩
    have := h.places x
    simp only [stored, held, List.flatMap_append, List.flatMap_singleton, List.count_append] at this ⊢
    omega
  | registerStore hnew hreq token =>
    refine ⟨by simpa [List.nodup_append] using ⟨h.nodup, fun x hx heq => hnew (heq ▸ hx)⟩,
      fun x => ?_⟩
    have := h.places x
    simp only [stored, held, List.map_append, List.map_cons, List.map_nil,
      List.count_append] at this ⊢
    omega
  | remove hlist =>
    refine ⟨h.nodup, fun x => ?_⟩
    have := h.places x
    simp only [stored, held, hlist, List.map_append, List.map_cons, List.flatMap_append,
      List.flatMap_singleton, List.count_append, List.count_cons, List.count_nil] at this ⊢
    omega
  | startCancel =>
    refine ⟨h.nodup, fun x => ?_⟩
    have := h.places x
    simp only [stored, held, List.map_nil, List.count_nil, List.flatMap_append,
      List.flatMap_singleton, List.count_append] at this ⊢
    omega
  | reset =>
    refine ⟨h.nodup, fun x => ?_⟩
    have := h.places x
    simpa [stored, held] using this
  | release hget =>
    refine ⟨h.nodup, fun x => ?_⟩
    have := h.places x
    have hset := count_held_set (x := x) (·.closures) hget ⟨.resetRelease, s.stored⟩
    simp only [swapped, stored, held, List.map_nil, List.count_nil] at this hset ⊢
    omega
  | destroy =>
    refine ⟨h.nodup, fun x => ?_⟩
    have := h.places x
    simp only [swapped, stored, held, List.map_nil, List.count_nil, List.flatMap_append,
      List.flatMap_singleton, List.count_append] at this ⊢
    omega
  | @run n method callback closures hget | @delete n method callback closures hget =>
    refine ⟨h.nodup, fun x => ?_⟩
    have := h.places x
    have hset := count_held_set (x := x) (·.closures) hget ⟨method, closures⟩
    simp only [stored, held, List.count_append, List.count_cons, List.count_nil] at this hset ⊢
    omega
  | finish hget =>
    refine ⟨h.nodup, fun x => ?_⟩
    have := h.places x
    rwa [held, ← count_held_eraseIdx (·.closures) hget rfl] at this

theorem Owned.mem_place (h : Owned s) {x : Closure} (hx : x ∈ s.handed) :
    x ∈ s.stored ∨ x ∈ s.held ∨ s.ran.count x + s.deleted.count x = 1 := by
  have hplaces := h.places x
  rw [List.count_eq_one_of_mem h.nodup hx] at hplaces
  by_cases hstored : x ∈ s.stored
  · exact .inl hstored
  by_cases hheld : x ∈ s.held
  · exact .inr (.inl hheld)
  rw [List.count_eq_zero.mpr hstored, List.count_eq_zero.mpr hheld] at hplaces
  exact .inr (.inr (by omega))

/-! ## The destructor -/

/-- The closure is not registered while the destructor runs, unless it is run at once. -/
def RegistersAlive (s : CancelClosures Closure) : CancelClosuresStep Closure → Prop
  | .registerOnCancel (some _) => s.lifetime = .alive ∨ s.cancelRequested
  | _ => True

instance (s : CancelClosures Closure) (l : CancelClosuresStep Closure) :
    Decidable (RegistersAlive s l) := by
  unfold RegistersAlive
  split <;> infer_instance

/-- The destructor has taken the list, and nothing has been stored since. -/
structure Released (s : CancelClosures Closure) : Prop where
  begun : ∀ call ∈ s.calls, call.method = .destructor → s.lifetime ≠ .alive
  empty : s.lifetime ≠ .alive → s.cancelCallbacks = []

theorem Released.step (h : Released s) (halive : RegistersAlive s l)
    (hstep : s.step l = some s') : Released s' := by
  cases changes_of_step hstep with
  | idle => exact h
  | registerRun hnew hreq => exact ⟨by simpa [or_imp, forall_and] using h.begun, h.empty⟩
  | registerStore hnew hreq token =>
    have : s.lifetime = .alive := by simpa [RegistersAlive, hreq] using halive
    exact ⟨h.begun, fun hne => absurd this hne⟩
  | remove hlist =>
    refine ⟨by simpa [or_imp, forall_and] using h.begun, fun hne => ?_⟩
    have := h.empty hne
    simp [hlist] at this
  | startCancel => exact ⟨by simpa [or_imp, forall_and] using h.begun, fun _ => rfl⟩
  | reset => exact ⟨by simpa [or_imp, forall_and] using h.begun, h.empty⟩
  | release hget =>
    refine ⟨fun call hcall hmethod => ?_, fun _ => rfl⟩
    obtain hold | rfl := List.mem_or_eq_of_mem_set hcall
    · exact h.begun call hold hmethod
    · cases hmethod
  | destroy => exact ⟨by simp, fun _ => rfl⟩
  | run hget | delete hget =>
    refine ⟨fun call hcall hmethod => ?_, h.empty⟩
    obtain hold | rfl := List.mem_or_eq_of_mem_set hcall
    · exact h.begun call hold hmethod
    · exact h.begun _ (List.mem_of_getElem? hget) hmethod
  | @finish n method hget =>
    have hmem := List.mem_of_getElem? hget
    by_cases hmethod : method = .destructor
    · subst hmethod
      exact ⟨by simp, fun _ => h.empty (h.begun _ hmem rfl)⟩
    · simp only [hmethod, if_false]
      exact ⟨fun call hcall => h.begun call (List.mem_of_mem_eraseIdx hcall), h.empty⟩

/-! ## Cancellation -/

/-- The closure waits in the list, has been run or taken out, or a call is about to run it. -/
def Waits (s : CancelClosures Closure) (x : Closure) : Prop :=
  x ∈ s.stored ∨ x ∈ s.ran ∨ x ∈ s.removed ∨ x ∈ s.calls.flatMap running

/-- Without `Reset`, every closure waits in the list until the cancellation is requested; from then
on the list is empty. -/
structure Notified (s : CancelClosures Closure) : Prop where
  kept : ∀ call ∈ s.calls, call.method ≠ .reset
  empty : s.cancelRequested → s.cancelCallbacks = []
  waiting : ∀ x ∈ s.handed, Waits s x

section Waits

omit [DecidableEq Closure]

variable {n : Nat} {call call' : CancelCall Closure} {x : Closure}

theorem Waits.imp (h : Waits s x) (hstored : x ∈ s.stored → Waits s' x)
    (hran : s.ran ⊆ s'.ran) (hremoved : s.removed ⊆ s'.removed)
    (hrunning : x ∈ s.calls.flatMap running → Waits s' x) : Waits s' x := by
  obtain h | h | h | h := h
  · exact hstored h
  · exact .inr (.inl (hran h))
  · exact .inr (.inr (.inl (hremoved h)))
  · exact hrunning h

/-- A method is called that takes closures out of the list. -/
theorem Waits.called (h : Waits s x) (hcalls : s'.calls = s.calls ++ [call])
    (hran : s.ran ⊆ s'.ran) (hremoved : s.removed ⊆ s'.removed)
    (hstored : x ∈ s.stored → x ∈ s'.stored ∨ x ∈ s'.removed ∨ x ∈ running call) : Waits s' x := by
  have hnew : s'.calls.flatMap running = s.calls.flatMap running ++ running call := by
    simp [hcalls]
  refine h.imp (fun hx => ?_) hran hremoved fun hx => ?_
  · obtain hx | hx | hx := hstored hx
    · exact .inl hx
    · exact .inr (.inr (.inl hx))
    · exact .inr (.inr (.inr (hnew ▸ List.mem_append_right _ hx)))
  · exact .inr (.inr (.inr (hnew ▸ List.mem_append_left _ hx)))

/-- A call that is replaced keeps what it has still to run. -/
theorem mem_running_set (hget : s.calls[n]? = some call)
    (hsub : x ∈ running call → x ∈ running call') (hx : x ∈ s.calls.flatMap running) :
    x ∈ (s.calls.set n call').flatMap running := by
  rw [(Lists.flatMap_perm_eraseIdx running hget).mem_iff, List.mem_append] at hx
  rw [(Lists.flatMap_set_perm_eraseIdx running hget call').mem_iff, List.mem_append]
  exact hx.imp_left hsub

theorem Notified.kept_set (h : Notified s) (hget : s.calls[n]? = some call)
    (hmethod : call'.method = call.method) : ∀ c ∈ s.calls.set n call', c.method ≠ .reset := by
  intro c hc
  obtain hold | rfl := List.mem_or_eq_of_mem_set hc
  · exact h.kept c hold
  · rw [hmethod]
    exact h.kept call (List.mem_of_getElem? hget)

end Waits

theorem Notified.step (h : Notified s) (hreset : l ≠ .reset) (hstep : s.step l = some s') :
    Notified s' := by
  cases changes_of_step hstep with
  | idle => exact h
  | registerRun hnew hreq =>
    refine ⟨by simpa [or_imp, forall_and] using h.kept, h.empty, fun x hx => ?_⟩
    simp only [List.mem_append, List.mem_singleton] at hx
    obtain hx | rfl := hx
    · exact (h.waiting x hx).called rfl (fun _ => id) (fun _ => id) .inl
    · exact .inr (.inr (.inr (by simp [running, CancelMethod.runs])))
  | registerStore hnew hreq token =>
    refine ⟨h.kept, by simp [hreq], fun x hx => ?_⟩
    simp only [List.mem_append, List.mem_singleton] at hx
    obtain hx | rfl := hx
    · exact (h.waiting x hx).imp_left fun h => by simp_all [stored]
    · exact .inl (by simp [stored])
  | remove hlist =>
    refine ⟨by simpa [or_imp, forall_and] using h.kept, fun hreq => ?_, fun x hx => ?_⟩
    · have := h.empty hreq
      simp [hlist] at this
    · refine (h.waiting x hx).called rfl (fun _ => id) (by simp) ?_
      simp only [stored, hlist, List.map_append, List.map_cons, List.mem_append, List.mem_cons]
      tauto
  | startCancel =>
    refine ⟨by simpa [or_imp, forall_and] using h.kept, fun _ => rfl, fun x hx => ?_⟩
    exact (h.waiting x hx).called rfl (fun _ => id) (fun _ => id) fun hx => .inr (.inr hx)
  | reset => exact absurd rfl hreset
  | release hget => exact absurd rfl (h.kept _ (List.mem_of_getElem? hget))
  | destroy =>
    refine ⟨by simpa [or_imp, forall_and] using h.kept, fun _ => rfl, fun x hx => ?_⟩
    exact (h.waiting x hx).called rfl (fun _ => id) (by simp [swapped]) fun hx =>
      .inr (.inl (by simp [swapped, hx]))
  | @run n method callback closures hget hruns =>
    refine ⟨h.kept_set hget rfl, h.empty, fun x hx => ?_⟩
    refine (h.waiting x hx).imp .inl (by simp) (fun _ => id) fun hx => ?_
    obtain rfl | hne := eq_or_ne x callback
    · exact .inr (.inl (by simp))
    · exact .inr (.inr (.inr (mem_running_set hget (by simp [running, hruns, hne]) hx)))
  | @delete n method callback closures hget hruns =>
    refine ⟨h.kept_set hget rfl, h.empty, fun x hx => ?_⟩
    refine (h.waiting x hx).imp .inl (fun _ => id) (fun _ => id) fun hx => ?_
    exact .inr (.inr (.inr (mem_running_set hget (by simp [running, hruns]) hx)))
  | @finish n method hget =>
    refine ⟨fun call hcall => h.kept call (List.mem_of_mem_eraseIdx hcall), h.empty, fun x hx => ?_⟩
    refine (h.waiting x hx).imp .inl (fun _ => id) (fun _ => id) fun hx => ?_
    rw [(Lists.flatMap_perm_eraseIdx running hget).mem_iff] at hx
    exact .inr (.inr (.inr (by simpa [running] using hx)))

/-! ## Runs -/

/-- Every closure is consumed once, and none is left. -/
structure Consumed (s : CancelClosures Closure) : Prop where
  /-- none is run and deleted, none twice -/
  once : ∀ x, s.ran.count x + s.deleted.count x ≤ 1
  /-- what was handed over and is neither in the list nor in the hands of a call was consumed -/
  consumed : ∀ x ∈ s.handed, x ∉ s.stored → x ∉ s.held → s.ran.count x + s.deleted.count x = 1
  /-- the destructor leaves nothing in the list -/
  released : s.lifetime = .destroyed → ∀ x ∈ s.handed, x ∉ s.stored

/-- Once `StartCancel` has returned, every closure whose registration has returned and that was not
taken out before has been run once. -/
def Cancelled (s : CancelClosures Closure) : Prop :=
  s.cancelRequested → (∀ call ∈ s.calls, call.method ≠ .startCancel) → ∀ x ∈ s.handed,
    (∀ call ∈ s.calls, call.method = .registerOnCancel → x ∉ call.closures) → x ∉ s.removed →
    s.ran.count x = 1

theorem Owned.consumed (h : Owned s) (hreleased : Released s) : Consumed s where
  once x := by
    have := h.places x
    have := List.nodup_iff_count_le_one.mp h.nodup x
    omega
  consumed x hx hstored hheld := by
    obtain hx | hx | hx := h.mem_place hx
    · exact absurd hx hstored
    · exact absurd hx hheld
    · exact hx
  released hlife x _ := by simp [stored, hreleased.empty (by simp [hlife])]

theorem Notified.cancelled (h : Notified s) (howned : Owned s) : Cancelled s := by
  intro hreq hstart x hx hregister hremoved
  have hran : x ∈ s.ran := by
    obtain hx | hx | hx | hx := h.waiting x hx
    · simp [stored, h.empty hreq] at hx
    · exact hx
    · exact absurd hx hremoved
    · obtain ⟨call, hcall, hmem⟩ := List.mem_flatMap.mp hx
      rw [running] at hmem
      split at hmem
      next hruns =>
        have hnot := hregister call hcall
        have hne := hstart call hcall
        cases hmethod : call.method <;> simp_all [CancelMethod.runs]
      next => cases hmem
  have hpos := List.count_pos_iff.mpr hran
  have := howned.places x
  have := List.nodup_iff_count_le_one.mp howned.nodup x
  omega

/-- In a run in which nothing is registered during the destructor unless it is run at once, every
closure is consumed once and none is left behind the destructor; without `Reset`, a cancellation
misses none. -/
theorem consumed_of_registersAlive (steps : List (CancelClosuresStep Closure))
    (hmeets : Transition.Meets step RegistersAlive {} steps) (hrun : run {} steps = some s) :
    Consumed s ∧ (.reset ∉ steps → Cancelled s) := by
  have howned : Owned s := Transition.invariant_run (C := fun _ _ => True)
    (fun _ _ _ h _ hstep => h.step hstep) ⟨List.nodup_nil, fun _ => rfl⟩
    (Transition.meets_of_forall fun _ _ => trivial) hrun
  have hreleased : Released s := Transition.invariant_run
    (fun _ _ _ h halive hstep => h.step halive hstep) ⟨by simp, fun _ => rfl⟩ hmeets hrun
  refine ⟨howned.consumed hreleased, fun hreset => ?_⟩
  have hnotified : Notified s := Transition.invariant_run (C := fun _ l => l ≠ .reset)
    (fun _ _ _ h hne hstep => h.step hne hstep) ⟨by simp, fun _ => rfl, by simp⟩
    (Transition.meets_of_forall_mem fun _ _ hl => ne_of_mem_of_not_mem hl hreset) hrun
  exact hnotified.cancelled howned

/-- Two closures are registered, the first is removed, and the second is run by `StartCancel`; a
third is run at its registration, during the destructor. -/
def cancelledAndDestroyed : List (CancelClosuresStep Nat) :=
  [.registerOnCancel (some 0), .registerOnCancel (some 1), .removeOnCancel 0, .consume 0,
    .startCancel, .finish 0, .consume 0, .finish 0, .destroy, .registerOnCancel (some 2),
    .consume 1, .finish 1, .finish 0]

theorem cancelledAndDestroyed_consumed :
    ∃ s, run {} cancelledAndDestroyed = some s ∧ s.ran = [1, 2] ∧ s.deleted = [0] ∧
      s.lifetime = .destroyed ∧ Consumed s ∧ (.reset ∉ cancelledAndDestroyed → Cancelled s) :=
  ⟨_, rfl, rfl, rfl, rfl, consumed_of_registersAlive cancelledAndDestroyed (by decide) rfl⟩

/-- The destructor deletes a closure whose own destructor registers another one. -/
def registeredByDestructor : List (CancelClosuresStep Nat) :=
  [.registerOnCancel (some 0), .destroy, .consume 0, .registerOnCancel (some 1), .finish 0]

theorem closure_left : ∃ s, run {} registeredByDestructor = some s ∧ s.lifetime = .destroyed ∧
    s.calls.length = 0 ∧ s.deleted = [0] ∧ s.ran = [] ∧ s.cancelCallbacks = [(1, 1)] ∧
      ¬Consumed s :=
  ⟨_, rfl, rfl, rfl, rfl, rfl, rfl, fun h => h.released rfl 1 (by decide) (by decide)⟩

end CancelClosures

end NebulaRpc.Rpc
