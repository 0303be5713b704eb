import NebulaRpc.Rpc.Completion
import NebulaRpc.Rpc.Effects

/-!
# How a call ends

A call with a controller of its own is followed from `BeginCall` to its notification and beyond.
Until it is notified nobody writes to its controller or to its response, and the writes of its
completion are all made at once; afterwards nobody holds the controller any more. Which calls hold a
controller is counted, so that no request id has to be unique.
-/

namespace NebulaRpc.Rpc

/-- What the caller of a call can see of its end. -/
structure CallReport where
  failed : Bool
  canceled : Bool
  errorText : List UInt8
  callState : RpcCallState
  response : Option (List UInt8)

namespace RpcController

def report (c : RpcController) (response : Option (List UInt8)) : CallReport :=
  ⟨c.failed, c.canceled, c.errorText, c.callState, response⟩

/-- The controller shows no end of a call, as when it is new or has been reset. -/
structure Clear (c : RpcController) : Prop where
  failed : c.failed = false
  canceled : c.canceled = false
  errorText : c.errorText = []
  callState : c.callState = .pending

variable (c : RpcController) (response : Option (List UInt8))

@[simp]
theorem report_removeOnCancel (token : Int) :
    (c.removeOnCancel token).report response = c.report response := rfl

@[simp]
theorem report_registerOnCancel (id : UInt64) :
    (c.registerOnCancel id).2.report response = c.report response := rfl

@[simp]
theorem report_startCancel : c.startCancel.2.report response = c.report response := by
  unfold startCancel
  split <;> rfl

@[simp]
theorem report_setTimeout (timeout : Int) :
    (c.setTimeout timeout).report response = c.report response := rfl

@[simp]
theorem report_setDeadline (deadline : Int) :
    (c.setDeadline deadline).report response = c.report response := rfl

end RpcController

namespace ChannelEnv

/-- The report of the call `k` with the controller `c`. -/
def report (e : ChannelEnv) (c k : Nat) : CallReport := (e.controllers c).report (e.responses k)

variable {e : ChannelEnv} {c k : Nat} {controller : Option Nat} {call : PendingCall}

theorem report_updateController_of_ne (f : RpcController → RpcController) (h : controller ≠ some c) :
    (e.updateController f controller).report c k = e.report c k := by
  cases controller with
  | none => rfl
  | some c' =>
    have hne : c ≠ c' := fun heq => h (heq ▸ rfl)
    simp [updateController, report, Function.update_of_ne hne]

theorem report_updateController_self (f : RpcController → RpcController) :
    (e.updateController f (some c)).report c k = (f (e.controllers c)).report (e.responses k) := by
  simp [updateController, report]

/-- An update that the report does not show. -/
theorem report_updateController (f : RpcController → RpcController)
    (hf : ∀ (x : RpcController) response, (f x).report response = x.report response)
    (controller : Option Nat) : (e.updateController f controller).report c k = e.report c k := by
  by_cases h : controller = some c
  · subst h
    rw [report_updateController_self, hf]
    rfl
  · exact report_updateController_of_ne f h

@[simp]
theorem report_record (state : RpcCallState) : (e.record call state).report c k = e.report c k := rfl

@[simp]
theorem report_setRemoteErrorCode (code : Int32) :
    (e.setRemoteErrorCode call code).report c k = e.report c k := by
  unfold setRemoteErrorCode
  split <;> rfl

@[simp]
theorem report_cancelTimer (timer : Option Nat) :
    (e.cancelTimer timer).report c k = e.report c k := by
  cases timer <;> rfl

@[simp]
theorem report_release : (e.release call).report c k = e.report c k := by
  unfold release
  dsimp only
  split
  · rw [report_updateController (·.removeOnCancel call.cancelToken) (fun _ _ => rfl),
      report_cancelTimer]
  · rw [report_cancelTimer]

theorem report_applyFailure_of_ne (reason : List UInt8) (state : RpcCallState)
    (h : controller ≠ some c) : (e.applyFailure controller reason state).report c k = e.report c k := by
  rw [applyFailure, report_updateController_of_ne _ h, report_updateController_of_ne _ h]

theorem report_applyFailure_self (reason : List UInt8) (state : RpcCallState) :
    (e.applyFailure (some c) reason state).report c k =
      ⟨true, (e.controllers c).canceled, reason, state, e.responses k⟩ := by
  simp [applyFailure, updateController, report, RpcController.report, RpcController.setFailed,
    RpcController.markCallState]

/-- The end of a call is written to its own controller and to its own response. -/
theorem report_finish_of_ne (ending : Ending) (hcontroller : call.controller ≠ some c)
    (hnumber : call.number ≠ k) : (e.finish call ending).report c k = e.report c k := by
  have hupdate := fun (e : ChannelEnv) (f : RpcController → RpcController) =>
    report_updateController_of_ne (e := e) (k := k) f hcontroller
  cases ending with
  | frame frame =>
    have happly : ∀ e : ChannelEnv, (e.applyFrame call frame).report c k = e.report c k := by
      intro e
      unfold applyFrame
      split
      · exact hupdate _ _
      · split
        · exact hupdate _ _
        · split
          · simp [report, Function.update_of_ne (Ne.symm hnumber)]
          · exact hupdate _ _
    simp only [finish, happly, hupdate, report_setRemoteErrorCode, report_record]
  | failure reason state =>
    rw [finish, report_applyFailure_of_ne _ _ hcontroller, report_record]
  | cancel => rw [finish, hupdate, report_record]

end ChannelEnv

/-! ## Who holds a controller -/

def ChannelFunctor.controller : ChannelFunctor → Option Nat
  | .registerAndSend _ _ call => call.controller
  | .completeInvalid _ controller _ _ => controller
  | _ => none

def ChannelFrame.controller : ChannelFrame → Option Nat
  | .degrade _ call _ => call.controller
  | _ => none

/-- In how many places a call with this controller is. -/
def RpcChannel.holders (s : RpcChannel) (c : Nat) : Nat :=
  s.functors.countP (·.controller = some c) + s.pendingCalls.countP (·.2.controller = some c) +
    s.stack.countP (·.controller = some c)

/-- In how many of them the degrade handler is asked about the call. -/
def RpcChannel.asking (s : RpcChannel) (c : Nat) : Nat := s.stack.countP (·.controller = some c)

def RpcChannel.report (s : RpcChannel) (c k : Nat) : CallReport := s.env.report c k

/-- The call that is followed: its number, its controller, its request id, what it can be parsed
from and its response before the call; the frames that are received; and what happens to it: a
degrade handler may be asked about it, has accepted it, or it is refused without a text, by an ERROR
frame or by a degrade handler that calls `SetFailed`, and whether it may still be open. -/
structure Tracking where
  number : Nat
  controller : Nat
  id : UInt64
  parses : List UInt8 → Bool
  response : Option (List UInt8)
  received : RpcFrame → Prop
  asked : Prop
  accepted : Prop
  blank : Prop
  live : Prop

/-- The ends that a call can come to. -/
inductive Outcome (T : Tracking) : CallReport → Prop
  | responded {frame : RpcFrame} (hreceived : T.received frame)
      (htype : frame.rpcMeta.type = .response) (hid : frame.rpcMeta.requestId = T.id)
      (hparses : T.parses frame.payload = true) :
      Outcome T ⟨false, false, [], .completed, some frame.payload⟩
  | refused {text : List UInt8} (hblank : text = [] → T.blank) :
      Outcome T ⟨true, false, text, .completed, T.response⟩
  | cancelled : Outcome T ⟨false, true, [], .cancelled, T.response⟩
  | failed {text : List UInt8} {state : RpcCallState}
      (hstate : state = .timeout ∨ state = .failed ∨ state = .invalid) :
      Outcome T ⟨true, false, text, state, T.response⟩
  | degraded (haccepted : T.accepted) : Outcome T ⟨false, false, [], .completed, T.response⟩

namespace Tracking

/-- The report of a call that has not ended. -/
def unended (T : Tracking) : CallReport := ⟨false, false, [], .pending, T.response⟩

/-- The report of a call that the degrade handler has failed and not yet returned. -/
def spoiled (T : Tracking) (text : List UInt8) : CallReport := ⟨true, false, text, .pending, T.response⟩

/-- The report of a call that is in one of the places. -/
def Open (T : Tracking) (s : RpcChannel) : Prop :=
  s.report T.controller T.number = T.unended ∨
    0 < s.asking T.controller ∧ ∃ text, s.report T.controller T.number = T.spoiled text

/-- Only its failure and its text may have been written to. -/
theorem Open.untouched {T : Tracking} {s : RpcChannel} (h : T.Open s) :
    (s.report T.controller T.number).canceled = false ∧
      (s.report T.controller T.number).callState = .pending ∧
      (s.report T.controller T.number).response = T.response := by
  obtain hreport | ⟨-, text, hreport⟩ := h <;> rw [hreport] <;> exact ⟨rfl, rfl, rfl⟩

/-- The controller and the number of the call go together. -/
def Entry (T : Tracking) (id : UInt64) (call : PendingCall) : Prop :=
  (call.number = T.number ↔ call.controller = some T.controller) ∧
    (call.number = T.number → id = T.id ∧ call.parses = T.parses)

def Functor (T : Tracking) : ChannelFunctor → Prop
  | .registerAndSend id _ call => T.Entry id call
  | .completeInvalid number controller _ _ =>
    number = T.number ↔ controller = some T.controller
  | _ => True

def Frame (T : Tracking) : ChannelFrame → Prop
  | .degrade id call _ => T.Entry id call ∧ (call.number = T.number → T.asked)
  | .onMessage _ frames _ => ∀ frame ∈ frames, T.received frame
  | _ => True

/-- What the call may end with. -/
def Ends (T : Tracking) : Ending → Prop
  | .frame frame => T.received frame ∧ frame.rpcMeta.requestId = T.id ∧
    (frame.rpcMeta.type = .error → frame.rpcMeta.errorText = [] → T.blank)
  | .failure _ state => state = .timeout ∨ state = .failed
  | .cancel => True

/-- What a step from `s₀` must not do: use the controller for another call, or reset it. What else
happens to the call is recorded. -/
structure Respects (T : Tracking) (s₀ : RpcChannel) (a : ChannelStep) : Prop where
  arguments : ∀ x, a.arguments = some x → x.controller ≠ some T.controller
  reset : a ≠ .resetController T.controller
  withoutDone : a ≠ .callMethodWithoutDone (some T.controller)
  handler : a = .setDegradeHandler true → T.asked
  received : ∀ conn frames error, a = .onMessage conn frames error →
    ∀ frame ∈ frames, T.received frame
  accepted : T.asked → ∀ index order id call reason stack, a = .resume true index order →
    s₀.stack = .degrade id call reason :: stack → call.number = T.number →
    (s₀.env.controllers T.controller).failed = false → T.accepted
  refused : T.asked → ∀ index order id call reason stack, a = .resume true index order →
    s₀.stack = .degrade id call reason :: stack → call.number = T.number →
    (s₀.env.controllers T.controller).failed = true →
    (s₀.env.controllers T.controller).errorText = [] → T.blank
  blank : ∀ accepted index order conn frame frames error stack call,
    a = .resume accepted index order →
    s₀.stack = .onMessage conn (frame :: frames) error :: stack →
    s₀.findPending frame.rpcMeta.requestId = some call → call.number = T.number →
    frame.rpcMeta.type = .error → frame.rpcMeta.errorText = [] → T.blank

end Tracking

namespace RpcChannel

open Tracking

variable {T : Tracking} {O : CallReport → Prop} {s s₀ s₁ s' : RpcChannel}

/-- The call is open, or it has been notified and nobody holds its controller any more. -/
structure Tracked (T : Tracking) (O : CallReport → Prop) (s : RpcChannel) : Prop where
  begun : T.number < s.begun
  holders : s.holders T.controller ≤ 1
  functors : ∀ f ∈ s.functors, T.Functor f
  pending : ∀ p ∈ s.pendingCalls, T.Entry p.1 p.2
  stack : ∀ f ∈ s.stack, T.Frame f
  asked : s.degradeHandler = true → T.asked
  outcome : T.live ∧ T.number ∉ s.notified ∧ T.Open s ∨
    T.number ∈ s.notified ∧ s.holders T.controller = 0 ∧ O (s.report T.controller T.number)

/-- Calls are moved around or dropped, and none is notified. -/
theorem Tracked.of_le (h : Tracked T O s) (hbegun : s.begun ≤ s'.begun)
    (hholders : s'.holders T.controller ≤ s.holders T.controller)
    (hfunctors : ∀ f ∈ s'.functors, T.Functor f)
    (hpending : ∀ p ∈ s'.pendingCalls, T.Entry p.1 p.2) (hstack : ∀ f ∈ s'.stack, T.Frame f)
    (hasked : s'.degradeHandler = true → T.asked) (hnotified : s'.notified = s.notified)
    (hasking : s.asking T.controller ≤ s'.asking T.controller)
    (hreport : s'.report T.controller T.number = s.report T.controller T.number) :
    Tracked T O s' where
  begun := h.begun.trans_le hbegun
  holders := hholders.trans h.holders
  functors := hfunctors
  pending := hpending
  stack := hstack
  asked := hasked
  outcome := by
    rw [hnotified, Open, hreport]
    refine h.outcome.imp (fun ⟨hlive, hmem, hopen⟩ => ⟨hlive, hmem, ?_⟩)
      fun ⟨hmem, hzero, hout⟩ => ⟨hmem, ?_, hout⟩
    · exact hopen.imp_right fun ⟨hpos, hspoiled⟩ => ⟨hpos.trans_le hasking, hspoiled⟩
    · omega

/-- Nothing that the invariant looks at changes. -/
theorem Tracked.of_eq (h : Tracked T O s) (hbegun : s'.begun = s.begun)
    (hfunctors : s'.functors = s.functors) (hpending : s'.pendingCalls = s.pendingCalls)
    (hstack : s'.stack = s.stack) (hdegrade : s'.degradeHandler = s.degradeHandler)
    (hnotified : s'.notified = s.notified)
    (hreport : s'.report T.controller T.number = s.report T.controller T.number) :
    Tracked T O s' := by
  refine h.of_le hbegun.ge ?_ (hfunctors ▸ h.functors) (hpending ▸ h.pending) (hstack ▸ h.stack)
    (hdegrade ▸ h.asked) hnotified (by rw [RpcChannel.asking, RpcChannel.asking, hstack]) hreport
  rw [RpcChannel.holders, RpcChannel.holders, hfunctors, hpending, hstack]

/-- An effect on the environment that the report does not show. -/
theorem Tracked.env (h : Tracked T O s) {e : ChannelEnv}
    (hreport : e.report T.controller T.number = s.env.report T.controller T.number) :
    Tracked T O { s with env := e } :=
  h.of_eq rfl rfl rfl rfl rfl rfl hreport

/-- The handlers on the stack go on, without a call. -/
theorem Tracked.restack (h : Tracked T O s) {stack : List ChannelFrame}
    (hholders : stack.countP (·.controller = some T.controller) =
      s.stack.countP (·.controller = some T.controller))
    (hstack : ∀ f ∈ stack, T.Frame f) : Tracked T O { s with stack := stack } := by
  refine h.of_le (Nat.le_refl _) ?_ h.functors h.pending hstack h.asked rfl hholders.ge rfl
  simp only [RpcChannel.holders]
  omega

/-- A call that is not with the degrade handler has not been failed by it. -/
theorem Tracked.unended (h : Tracked T O s) (hopen : T.Open s)
    (helsewhere : s.asking T.controller < s.holders T.controller) :
    s.report T.controller T.number = T.unended := by
  obtain hunended | ⟨hpos, -⟩ := hopen
  · exact hunended
  · have hle := h.holders
    omega

/-- A call that was in one of the places is notified. -/
theorem Tracked.notify (h : Tracked T O s) {number : Nat} {controller : Option Nat}
    (hsame : number = T.number ↔ controller = some T.controller)
    (hbegun : s₁.begun = s.begun)
    (hholders : s₁.holders T.controller + (if controller = some T.controller then 1 else 0) ≤
      s.holders T.controller)
    (hfunctors : ∀ f ∈ s₁.functors, T.Functor f)
    (hpending : ∀ p ∈ s₁.pendingCalls, T.Entry p.1 p.2) (hstack : ∀ f ∈ s₁.stack, T.Frame f)
    (hdegrade : s₁.degradeHandler = s.degradeHandler) (hnotified : s₁.notified = s.notified)
    (hother : controller ≠ some T.controller → s.asking T.controller ≤ s₁.asking T.controller ∧
      s₁.report T.controller T.number = s.report T.controller T.number)
    (hown : T.live → controller = some T.controller → T.Open s →
      O (s₁.report T.controller T.number))
    (coroutine : Bool) :
    Tracked T O (s₁.notifyCompletion number coroutine) := by
  have hkept : ∀ s₂ : RpcChannel, s₂.begun = s₁.begun →
      s₂.holders T.controller = s₁.holders T.controller → (∀ f ∈ s₂.functors, T.Functor f) →
      (∀ p ∈ s₂.pendingCalls, T.Entry p.1 p.2) → (∀ f ∈ s₂.stack, T.Frame f) →
      s₂.degradeHandler = s₁.degradeHandler → s₂.notified = number :: s₁.notified →
      s₂.asking T.controller = s₁.asking T.controller →
      s₂.report T.controller T.number = s₁.report T.controller T.number → Tracked T O s₂ := by
    intro s₂ hbegun₂ hholders₂ hfunctors₂ hpending₂ hstack₂ hdegrade₂ hnotified₂ hasking₂ hreport₂
    have hle := h.holders
    refine ⟨by rw [hbegun₂, hbegun]; exact h.begun, by omega, hfunctors₂, hpending₂, hstack₂,
      by rw [hdegrade₂, hdegrade]; exact h.asked, ?_⟩
    rw [hnotified₂, hnotified, Open, hasking₂, hreport₂, hholders₂, List.mem_cons, not_or]
    by_cases hc : controller = some T.controller
    · rw [if_pos hc] at hholders
      right
      obtain ⟨hlive, -, hopen⟩ | ⟨-, hzero, -⟩ := h.outcome
      · exact ⟨.inl (hsame.mpr hc).symm, by omega, hown hlive hc hopen⟩
      · omega
    · rw [if_neg hc] at hholders
      have hne : T.number ≠ number := fun heq => hc (hsame.mp heq.symm)
      obtain ⟨hasking, hreport⟩ := hother hc
      rw [hreport]
      refine h.outcome.imp (fun ⟨hlive, hmem, hopen⟩ => ⟨hlive, ⟨hne, hmem⟩, ?_⟩)
        fun ⟨hmem, hzero, hout⟩ => ⟨.inr hmem, by omega, hout⟩
      exact hopen.imp_right fun ⟨hpos, hspoiled⟩ => ⟨hpos.trans_le hasking, hspoiled⟩
  unfold notifyCompletion
  dsimp only
  split
  · refine hkept _ rfl ?_ ?_ hpending hstack rfl rfl rfl rfl
    · simp [RpcChannel.holders, ChannelFunctor.controller]
    · intro f hf
      obtain hf | rfl := by simpa using hf
      · exact hfunctors f hf
      · trivial
  · refine hkept _ rfl ?_ hfunctors hpending ?_ rfl rfl ?_ rfl
    · simp [RpcChannel.holders, push, ChannelFrame.controller]
    · intro f hf
      obtain rfl | hf := by simpa [push] using hf
      · trivial
      · exact hstack f hf
    · simp [RpcChannel.asking, push, ChannelFrame.controller]

/-! ## The end of the call -/

/-- `ApplyFrame` behind `MarkCallState(Completed)`. -/
theorem outcome_applyFrame {e : ChannelEnv} {call : PendingCall} {frame : RpcFrame}
    (hcontroller : call.controller = some T.controller) (hnumber : call.number = T.number)
    (hparses : call.parses = T.parses)
    (hreport : e.report T.controller T.number = ⟨false, false, [], .completed, T.response⟩)
    (hending : T.Ends (.frame frame)) :
    Outcome T ((e.applyFrame call frame).report T.controller T.number) := by
  obtain ⟨hreceived, hid, hblank⟩ := hending
  obtain ⟨hfailed, hcanceled, htext, hstate, hresponse⟩ := CallReport.mk.inj hreport
  have hrefused : ∀ text : List UInt8, (text = [] → T.blank) →
      Outcome T ((e.updateController (·.setFailed text) call.controller).report T.controller
        T.number) := by
    intro text hempty
    rw [hcontroller, ChannelEnv.report_updateController_self]
    simp only [RpcController.report, RpcController.setFailed, hcanceled, hstate, hresponse]
    exact .refused hempty
  unfold ChannelEnv.applyFrame
  split
  · next htype => exact hrefused _ (hblank htype)
  · split
    · exact hrefused _ fun hempty => absurd hempty (by decide)
    · next htype =>
      split
      · next hparse =>
        simp only [ChannelEnv.report, RpcController.report, hnumber, Function.update_self, hfailed,
          hcanceled, htext, hstate]
        exact .responded hreceived (not_not.mp htype) hid (hparses ▸ hparse)
      · exact hrefused _ fun hempty => absurd hempty (by decide)

/-- The writes of the completion make up one of the outcomes. -/
theorem outcome_finish {e : ChannelEnv} {call : PendingCall} {ending : Ending}
    (hcontroller : call.controller = some T.controller) (hnumber : call.number = T.number)
    (hparses : call.parses = T.parses) (hunended : e.report T.controller T.number = T.unended)
    (hending : T.Ends ending) :
    Outcome T ((e.finish call ending).report T.controller T.number) := by
  cases ending with
  | frame frame =>
    apply outcome_applyFrame hcontroller hnumber hparses _ hending
    set e₁ := (e.record call (if frame.rpcMeta.type = .error then .failed else .completed)
      ).setRemoteErrorCode call
        (if frame.rpcMeta.type = .error then frame.rpcMeta.errorCode else 0) with he₁
    have hreport : e₁.report T.controller T.number = T.unended := by
      rw [he₁, ChannelEnv.report_setRemoteErrorCode, ChannelEnv.report_record, hunended]
    obtain ⟨hfailed, hcanceled, htext, -, hresponse⟩ := CallReport.mk.inj hreport
    rw [hcontroller, ChannelEnv.report_updateController_self]
    simp only [RpcController.report, RpcController.markCallState, hfailed, hcanceled, htext,
      hresponse]
  | failure reason state =>
    obtain ⟨-, hcanceled, -, -, hresponse⟩ := CallReport.mk.inj hunended
    rw [ChannelEnv.finish, hcontroller, ChannelEnv.report_applyFailure_self]
    simp only [ChannelEnv.record, hcanceled, hresponse]
    exact .failed (hending.imp_right .inl)
  | cancel =>
    obtain ⟨hfailed, -, htext, -, hresponse⟩ := CallReport.mk.inj hunended
    rw [ChannelEnv.finish, hcontroller, ChannelEnv.report_updateController_self]
    simp only [ChannelEnv.record, RpcController.report, RpcController.markCanceled, hfailed, htext,
      hresponse]
    exact .cancelled

/-- A call that is rejected. -/
theorem outcome_applyFailure {e : ChannelEnv} {reason : List UInt8} {state : RpcCallState}
    (hcanceled : (e.report T.controller T.number).canceled = false)
    (hresponse : (e.report T.controller T.number).response = T.response)
    (hstate : state = .timeout ∨ state = .failed ∨ state = .invalid) :
    Outcome T ((e.applyFailure (some T.controller) reason state).report T.controller T.number) := by
  have hcanceled' : (e.controllers T.controller).canceled = false := hcanceled
  have hresponse' : e.responses T.number = T.response := hresponse
  rw [ChannelEnv.report_applyFailure_self, hcanceled', hresponse']
  exact .failed hstate

/-! ## Every effect keeps the invariant -/

/-- Taking out an element takes it out of the count. -/
theorem countP_eraseIdx {α : Type*} {l : List α} {index : Nat} {x : α} (p : α → Bool)
    (h : l[index]? = some x) :
    (l.eraseIdx index).countP p + (if p x then 1 else 0) = l.countP p := by
  obtain ⟨hlt, hget⟩ := List.getElem?_eq_some_iff.mp h
  have hperm := (List.getElem_cons_eraseIdx_perm hlt).countP_eq p
  rw [hget, List.countP_cons] at hperm
  exact hperm

/-- Filtering out an element takes it out of the count. -/
theorem countP_filter_add_le {α : Type*} {l : List α} {x : α} (p q : α → Bool) (hmem : x ∈ l)
    (hq : q x = false) : (l.filter q).countP p + (if p x then 1 else 0) ≤ l.countP p := by
  induction l with
  | nil => cases hmem
  | cons y l ih =>
    rcases List.mem_cons.mp hmem with rfl | hmem
    · have hsub := (List.filter_sublist (p := q) (l := l)).countP_le (p := p)
      simp only [List.filter_cons, hq, List.countP_cons]
      simpa using hsub
    · have hrest := ih hmem
      rw [List.filter_cons, List.countP_cons]
      split
      · rw [List.countP_cons]
        omega
      · omega

theorem Tracked.dequeue (h : Tracked T O s) {index : Nat} {functor : ChannelFunctor}
    (hfunctor : s.functors[index]? = some functor) :
    ({ s with functors := s.functors.eraseIdx index } : RpcChannel).holders T.controller +
        (if functor.controller = some T.controller then 1 else 0) = s.holders T.controller ∧
      (∀ f ∈ s.functors.eraseIdx index, T.Functor f) ∧ T.Functor functor := by
  have hcount := countP_eraseIdx (fun f : ChannelFunctor => f.controller = some T.controller) hfunctor
  refine ⟨?_, fun f hf => h.functors f ((List.eraseIdx_sublist _ _).subset hf),
    h.functors _ (List.mem_of_getElem? hfunctor)⟩
  simp only [decide_eq_true_eq] at hcount
  simp only [RpcChannel.holders]
  omega

/-- A call that is queued has not been failed by the degrade handler. -/
theorem Tracked.unended_queued (h : Tracked T O s) {index : Nat} {functor : ChannelFunctor}
    (hfunctor : s.functors[index]? = some functor) (hown : functor.controller = some T.controller)
    (hopen : T.Open s) : s.report T.controller T.number = T.unended := by
  have hqueued : 0 < s.functors.countP (·.controller = some T.controller) :=
    List.countP_pos_iff.mpr ⟨functor, List.mem_of_getElem? hfunctor, by simp [hown]⟩
  apply h.unended hopen
  simp only [RpcChannel.asking, RpcChannel.holders]
  omega

/-- A call that was queued is rejected. -/
theorem Tracked.reject (h : Tracked T O s) (hO : T.live → ∀ r, Outcome T r → O r) {index : Nat}
    {id : UInt64} {bytes : List UInt8} {call : PendingCall}
    (hfunctor : s.functors[index]? = some (.registerAndSend id bytes call))
    {reason : List UInt8} {state : RpcCallState} (hstate : state = .timeout ∨ state = .failed)
    (count : Nat) :
    Tracked T O ({ s with
      functors := s.functors.eraseIdx index
      overloadRejectCount := count }.reject call reason state) := by
  obtain ⟨hcount, hfunctors, hentry⟩ := h.dequeue hfunctor
  unfold RpcChannel.reject
  apply h.notify hentry.1
  · rfl
  · exact hcount.le
  · exact hfunctors
  · exact h.pending
  · exact h.stack
  · rfl
  · rfl
  · intro hne
    exact ⟨Nat.le_refl _,
      (ChannelEnv.report_applyFailure_of_ne _ _ hne).trans (ChannelEnv.report_record _)⟩
  · intro hlive hown hopen
    apply hO hlive
    have hunended := h.unended_queued hfunctor hown hopen
    show Outcome T ((ChannelEnv.applyFailure _ call.controller reason state).report _ _)
    rw [hown]
    apply outcome_applyFailure
    · exact congrArg CallReport.canceled ((ChannelEnv.report_record _).trans hunended)
    · exact congrArg CallReport.response ((ChannelEnv.report_record _).trans hunended)
    · exact hstate.imp_right .inl

theorem Tracked.finish (h : Tracked T O s) (hO : T.live → ∀ r, Outcome T r → O r) {id : UInt64}
    {call : PendingCall} {ending : Ending}
    (hfind : s.findPending id = some call) (hending : call.number = T.number → T.Ends ending) :
    Tracked T O (s.finish id call ending) := by
  have hmem := find_eq_some hfind
  have hentry := h.pending _ hmem
  have hcount := countP_filter_add_le
    (fun p : UInt64 × PendingCall => p.2.controller = some T.controller) (·.1 ≠ id) hmem (by simp)
  unfold RpcChannel.finish
  apply h.notify hentry.1
  · rfl
  · simp only [decide_eq_true_eq] at hcount
    simp only [RpcChannel.holders, erasePending]
    omega
  · exact h.functors
  · exact fun p hp => h.pending p (List.mem_of_mem_filter hp)
  · exact h.stack
  · rfl
  · rfl
  · intro hne
    have hnumber : call.number ≠ T.number := fun heq => hne (hentry.1.mp heq)
    exact ⟨Nat.le_refl _,
      (ChannelEnv.report_finish_of_ne ending hne hnumber).trans ChannelEnv.report_release⟩
  · intro hlive hown hopen
    apply hO hlive
    have hnumber := hentry.1.mpr hown
    have hpending : 0 < s.pendingCalls.countP (·.2.controller = some T.controller) :=
      List.countP_pos_iff.mpr ⟨_, hmem, decide_eq_true hown⟩
    have hunended : s.report T.controller T.number = T.unended := by
      apply h.unended hopen
      simp only [RpcChannel.asking, RpcChannel.holders]
      omega
    exact outcome_finish hown hnumber (hentry.2 hnumber).2
      (ChannelEnv.report_release.trans hunended) (hending hnumber)

/-- A functor without a call is queued. -/
theorem Tracked.post (h : Tracked T O s) {functor : ChannelFunctor} (hnumber : functor.number = none) :
    Tracked T O { s with functors := s.functors ++ [functor] } := by
  have hfunctor : functor.controller = none ∧ T.Functor functor := by
    cases functor <;> first | exact ⟨rfl, trivial⟩ | cases hnumber
  refine h.of_le (Nat.le_refl _) ?_ ?_ h.pending h.stack h.asked rfl (Nat.le_refl _) rfl
  · simp [RpcChannel.holders, hfunctor.1]
  · intro f hf
    obtain hf | rfl := by simpa using hf
    · exact h.functors f hf
    · exact hfunctor.2

/-- A handler that holds no call waits. -/
theorem Tracked.push (h : Tracked T O s) {frame : ChannelFrame} (hcontroller : frame.controller = none)
    (hframe : T.Frame frame) : Tracked T O (s.push frame) := by
  apply h.restack
  · simp [hcontroller]
  · intro f hf
    obtain rfl | hf := List.mem_cons.mp hf
    · exact hframe
    · exact h.stack f hf

/-- The handler on top of the stack is done. -/
theorem Tracked.pop (h : Tracked T O s) {frame : ChannelFrame} {stack : List ChannelFrame}
    (hstack : s.stack = frame :: stack) (hcontroller : frame.controller = none) :
    Tracked T O { s with stack := stack } := by
  apply h.restack
  · simp [hstack, hcontroller]
  · intro f hf
    exact h.stack f (hstack ▸ List.mem_cons_of_mem _ hf)

theorem Tracked.scheduleHeartbeat (h : Tracked T O s) : Tracked T O s.scheduleHeartbeat :=
  h.of_eq rfl rfl rfl rfl rfl rfl (by exact ChannelEnv.report_cancelTimer _)

/-- A call is begun with another controller. -/
theorem Tracked.prepare (h : Tracked T O s) (F : MetaFormat) {x : CallArguments}
    (hcontroller : x.controller ≠ some T.controller) :
    Tracked T O { (s.prepareCall F x).2 with
      functors := s.functors ++ [(s.prepareCall F x).1] } := by
  have hne := h.begun.ne'
  have hentry : T.Functor (s.prepareCall F x).1 ∧
      (s.prepareCall F x).1.controller ≠ some T.controller := by
    obtain ⟨reason, heq⟩ | ⟨bytes, call, heq, -, hnumber, -, hcall, -⟩ := prepareCall_functor F s x
    · rw [heq]
      exact ⟨iff_of_false hne hcontroller, hcontroller⟩
    · rw [heq]
      have hnumber' : call.number ≠ T.number := by omega
      have hcall' : call.controller ≠ some T.controller := hcall ▸ hcontroller
      exact ⟨⟨iff_of_false hnumber' hcall', fun heq => absurd heq hnumber'⟩, hcall'⟩
  obtain ⟨n, completions, -, hstate⟩ := prepareCall_state F s x
  rw [hstate]
  refine h.of_le (Nat.le_succ _) ?_ ?_ h.pending h.stack h.asked rfl (Nat.le_refl _) rfl
  · simp [RpcChannel.holders, hentry.2]
  · intro f hf
    obtain hf | rfl := by simpa using hf
    · exact h.functors f hf
    · exact hentry.1

/-- A queued call goes into the map, unless its id is taken. -/
theorem Tracked.insert (h : Tracked T O s) {index : Nat} {id : UInt64} {bytes : List UInt8}
    {call : PendingCall} (hfunctor : s.functors[index]? = some (.registerAndSend id bytes call)) :
    Tracked T O (({ s with functors := s.functors.eraseIdx index }.emplace id call).hook id bytes) := by
  obtain ⟨hcount, hfunctors, hentry⟩ := h.dequeue hfunctor
  have hemplace : Tracked T O ({ s with functors := s.functors.eraseIdx index }.emplace id call) := by
    unfold emplace
    split
    · exact h.of_le (Nat.le_refl _) (by omega) hfunctors h.pending h.stack h.asked rfl
        (Nat.le_refl _) rfl
    · refine h.of_le (Nat.le_refl _) ?_ hfunctors ?_ h.stack h.asked rfl (Nat.le_refl _) rfl
      · by_cases hc : call.controller = some T.controller <;>
          simp [RpcChannel.holders, ChannelFunctor.controller, hc] at hcount ⊢ <;> omega
      · intro p hp
        obtain hp | rfl := by simpa using hp
        · exact h.pending p hp
        · exact hentry
  generalize ({ s with functors := s.functors.eraseIdx index } : RpcChannel).emplace id call = s₁
    at hemplace
  unfold hook
  split
  · exact hemplace.push rfl trivial
  · next c _ =>
    split
    · exact hemplace.push rfl trivial
    · refine (hemplace.env ?_).push rfl trivial
      exact ChannelEnv.report_updateController (fun x => (x.registerOnCancel id).2)
        (fun _ _ => rfl) (some c)

/-- The token and the timer do not matter. -/
theorem Tracked.store (h : Tracked T O s) (id : UInt64) (token : Int) (bytes : List UInt8)
    (call : PendingCall) : Tracked T O (s.store id token bytes call) := by
  have hmodify : ∀ {s : RpcChannel} (f : PendingCall → PendingCall),
      (∀ x, (f x).number = x.number ∧ (f x).controller = x.controller ∧ (f x).parses = x.parses) →
      Tracked T O s → Tracked T O (s.modifyPending id f) := by
    intro s f hf h
    refine h.of_le (Nat.le_refl _) ?_ h.functors ?_ h.stack h.asked rfl (Nat.le_refl _) rfl
    · have hcount : (s.pendingCalls.map fun p => if p.1 = id then (p.1, f p.2) else p).countP
          (·.2.controller = some T.controller) =
            s.pendingCalls.countP (·.2.controller = some T.controller) := by
        rw [List.countP_map]
        congr 1
        funext p
        by_cases hp : p.1 = id <;> simp [hp, hf p.2]
      simp only [RpcChannel.holders, modifyPending, hcount, Nat.le_refl]
    · intro p hp
      obtain ⟨q, hq, rfl⟩ := List.mem_map.mp hp
      have hentry := h.pending q hq
      split
      · simpa [Entry, hf q.2] using hentry
      · exact hentry
  have hassign : Tracked T O (s.assign id token call) := by
    unfold assign registerTimeoutTimer
    have htoken := hmodify ({ · with cancelToken := token }) (fun _ => ⟨rfl, rfl, rfl⟩) h
    split
    · exact hmodify _ (fun _ => ⟨rfl, rfl, rfl⟩) (htoken.env rfl)
    · exact htoken
  unfold RpcChannel.store
  dsimp only
  split
  · exact hassign.env rfl
  · exact hassign

/-- The state in which the call is looked up. -/
theorem Tracked.cause {a : ChannelStep} {id : UInt64} {ending : Ending} (h : Tracked T O s)
    (hcause : Cause a s₀ s s₁ id ending) : Tracked T O s₁ := by
  cases hcause with
  | @frame conn frame frames error stack _ _ _ _ _ hstack htype =>
    have hframes := h.stack
    rw [hstack] at hframes
    apply h.restack
    · simp [hstack, ChannelFrame.controller]
    · intro f hf
      obtain rfl | hf := List.mem_cons.mp hf
      · exact fun x hx => hframes _ List.mem_cons_self x (List.mem_cons_of_mem _ hx)
      · exact hframes f (List.mem_cons_of_mem _ hf)
  | @connection id ids stack hstack | @startCancel id ids stack hstack =>
    have hframes := h.stack
    rw [hstack] at hframes
    apply h.restack
    · simp [hstack, ChannelFrame.controller]
    · intro f hf
      obtain rfl | hf := List.mem_cons.mp hf
      · trivial
      · exact hframes f (List.mem_cons_of_mem _ hf)
  | timeout hstack htimer => exact h.env (ChannelEnv.report_cancelTimer _)
  | functor hfunctor =>
    obtain ⟨hcount, hfunctors, -⟩ := h.dequeue hfunctor
    exact h.of_le (Nat.le_refl _) (by omega) hfunctors h.pending h.stack h.asked rfl (Nat.le_refl _) rfl
  | closed | cancel => exact h
  | unwritten hstack hfind => exact (h.pop hstack rfl).store _ _ _ _

/-- The reason is one that the call may end for. -/
theorem Tracked.ends {a : ChannelStep} {id : UInt64} {call : PendingCall} {ending : Ending}
    (h : Tracked T O s) (hrespects : T.Respects s₀ a) (hcause : Cause a s₀ s s₁ id ending)
    (hfind : s₁.findPending id = some call) (hnumber : call.number = T.number) : T.Ends ending := by
  have hentry := (h.cause hcause).pending _ (find_eq_some hfind)
  cases hcause with
  | @frame conn frame frames error stack _ _ _ hfirst ha hstack htype =>
    subst hfirst
    have hframes := h.stack
    rw [hstack] at hframes
    refine ⟨hframes _ List.mem_cons_self frame List.mem_cons_self, (hentry.2 hnumber).1, ?_⟩
    exact hrespects.blank _ _ _ _ _ _ _ _ call ha hstack hfind hnumber
  | timeout => exact .inl rfl
  | connection | closed | unwritten => exact .inr rfl
  | startCancel | functor | cancel => trivial

/-- A call about which the degrade handler is asked, or that is rejected without it. -/
theorem Tracked.overloaded (h : Tracked T O s) (hO : T.live → ∀ r, Outcome T r → O r) {index : Nat}
    {id : UInt64} {bytes : List UInt8} {call : PendingCall}
    (hfunctor : s.functors[index]? = some (.registerAndSend id bytes call)) :
    Tracked T O ({ s with functors := s.functors.eraseIdx index }.rejectOverloaded id call) := by
  obtain ⟨hcount, hfunctors, hentry⟩ := h.dequeue hfunctor
  unfold rejectOverloaded
  dsimp only
  split
  · next hhandler =>
    refine h.of_le (Nat.le_refl _) ?_ hfunctors h.pending ?_ h.asked rfl ?_ rfl
    · by_cases hc : call.controller = some T.controller <;>
        simp [RpcChannel.holders, RpcChannel.push, ChannelFunctor.controller,
          ChannelFrame.controller, hc] at hcount ⊢ <;> omega
    · intro f hf
      obtain rfl | hf := List.mem_cons.mp hf
      · exact ⟨hentry, fun _ => h.asked hhandler⟩
      · exact h.stack f hf
    · simp only [RpcChannel.asking, RpcChannel.push, List.countP_cons]
      omega
  · exact h.reject hO hfunctor (.inr rfl) (s.overloadRejectCount + 1)

/-- The degrade handler has answered. -/
theorem Tracked.degraded (h : Tracked T O s) (hO : T.live → ∀ r, Outcome T r → O r) {id : UInt64}
    {call : PendingCall}
    {reason : List UInt8} {stack : List ChannelFrame} {accepted : Bool}
    (hstack : s.stack = .degrade id call reason :: stack)
    (haccepted : accepted = true → call.number = T.number →
      (s.env.controllers T.controller).failed = false → T.accepted)
    (hrefused : accepted = true → call.number = T.number →
      (s.env.controllers T.controller).failed = true →
      (s.env.controllers T.controller).errorText = [] → T.blank) :
    Tracked T O ({ s with stack := stack }.degraded call reason accepted) := by
  have hframes := h.stack
  rw [hstack] at hframes
  have hentry := (hframes _ List.mem_cons_self).1
  unfold RpcChannel.degraded
  apply h.notify hentry.1
  · rfl
  · by_cases hc : call.controller = some T.controller <;>
      simp [RpcChannel.holders, hstack, ChannelFrame.controller, hc]
  · exact h.functors
  · exact h.pending
  · exact fun f hf => hframes f (List.mem_cons_of_mem _ hf)
  · rfl
  · rfl
  · intro hne
    constructor
    · simp [RpcChannel.asking, hstack, ChannelFrame.controller, hne]
    · cases accepted with
      | false => exact ChannelEnv.report_applyFailure_of_ne _ _ hne
      | true => exact ChannelEnv.report_updateController_of_ne (·.markCallState .completed) hne
  · intro hlive hown hopen
    apply hO hlive
    have hnumber := hentry.1.mpr hown
    cases accepted with
    | false =>
      show Outcome T ((ChannelEnv.applyFailure _ call.controller reason .failed).report _ _)
      rw [hown]
      obtain ⟨hcanceled, -, hresponse⟩ := hopen.untouched
      exact outcome_applyFailure hcanceled hresponse (.inr (.inl rfl))
    | true =>
      show Outcome T
        ((s.env.updateController (·.markCallState .completed) call.controller).report _ _)
      rw [hown, ChannelEnv.report_updateController_self]
      obtain hreport | ⟨-, text, hreport⟩ := hopen
      · obtain ⟨hfailed, hcanceled, htext, -, hresponse⟩ := CallReport.mk.inj hreport
        simp only [RpcController.report, RpcController.markCallState, hfailed, hcanceled, htext,
          hresponse]
        exact .degraded (haccepted rfl hnumber hfailed)
      · obtain ⟨hfailed, hcanceled, htext, -, hresponse⟩ := CallReport.mk.inj hreport
        simp only [RpcController.report, RpcController.markCallState, hfailed, hcanceled, htext,
          hresponse]
        exact .refused fun hblank => hrefused rfl hnumber hfailed (htext.trans hblank)

/-- The degrade handler fails the call that it is asked about. -/
theorem Tracked.setFailed (h : Tracked T O s) {id : UInt64} {call : PendingCall}
    {reason : List UInt8} {stack : List ChannelFrame}
    (hstack : s.stack = .degrade id call reason :: stack) (text : List UInt8) :
    Tracked T O { s with env := s.env.updateController (·.setFailed text) call.controller } := by
  by_cases hown : call.controller = some T.controller
  · have hasking : 0 < s.asking T.controller := by
      simp [RpcChannel.asking, hstack, ChannelFrame.controller, hown]
    refine ⟨h.begun, h.holders, h.functors, h.pending, h.stack, h.asked, ?_⟩
    obtain ⟨hlive, hmem, hopen⟩ | ⟨-, hzero, -⟩ := h.outcome
    · refine .inl ⟨hlive, hmem, .inr ⟨hasking, text, ?_⟩⟩
      show (s.env.updateController _ call.controller).report _ _ = _
      rw [hown, ChannelEnv.report_updateController_self]
      obtain ⟨hcanceled, hstate, hresponse⟩ := hopen.untouched
      simp only [RpcChannel.report, ChannelEnv.report, RpcController.report] at hcanceled hstate hresponse
      simp only [RpcController.report, RpcController.setFailed, hcanceled, hstate, hresponse]
      rfl
    · simp only [RpcChannel.holders, RpcChannel.asking] at hzero hasking
      omega
  · exact h.env (ChannelEnv.report_updateController_of_ne _ hown)

/-- A call that cannot be sent is notified. -/
theorem Tracked.invalid (h : Tracked T O s) (hO : T.live → ∀ r, Outcome T r → O r)
    {index number : Nat} {controller : Option Nat}
    {coroutine : Bool} {reason : List UInt8}
    (hfunctor : s.functors[index]? = some (.completeInvalid number controller coroutine reason)) :
    Tracked T O ({ s with functors := s.functors.eraseIdx index }.completeInvalid number controller
      coroutine reason) := by
  obtain ⟨hcount, hfunctors, hentry⟩ := h.dequeue hfunctor
  unfold completeInvalid
  apply h.notify hentry
  · rfl
  · exact hcount.le
  · exact hfunctors
  · exact h.pending
  · exact h.stack
  · rfl
  · rfl
  · exact fun hne => ⟨Nat.le_refl _, ChannelEnv.report_applyFailure_of_ne _ _ hne⟩
  · intro hlive hown hopen
    apply hO hlive
    have hunended := h.unended_queued hfunctor hown hopen
    show Outcome T ((ChannelEnv.applyFailure _ controller reason .invalid).report _ _)
    rw [hown]
    apply outcome_applyFailure
    · exact congrArg CallReport.canceled hunended
    · exact congrArg CallReport.response hunended
    · exact .inr (.inr rfl)

/-- A user of the controller does nothing that the report shows. -/
theorem Tracked.updateController (h : Tracked T O s) (f : RpcController → RpcController) (c : Nat)
    (hf : c = T.controller → ∀ (x : RpcController) response, (f x).report response = x.report response) :
    Tracked T O (s.updateController f c) := by
  apply h.env
  by_cases hc : c = T.controller
  · exact ChannelEnv.report_updateController f (hf hc) (some c)
  · exact ChannelEnv.report_updateController_of_ne f (fun heq => hc (Option.some.inj heq))

theorem Tracked.effect {F : MetaFormat} {a : ChannelStep} (h : Tracked T O s)
    (hO : T.live → ∀ r, Outcome T r → O r)
    (hrespects : T.Respects s₀ a) (heffect : Effect F a s₀ s s') : Tracked T O s' := by
  cases heffect with
  | finish hcause hfind hpending => exact (h.cause hcause).finish hO hfind (h.ends hrespects hcause hfind)
  | skip hcause hnone => exact h.cause hcause
  | @discard id call stack hstack hfind hpending =>
    refine h.of_le (Nat.le_refl _) ?_ h.functors
      (by exact fun p hp => h.pending p (List.mem_of_mem_filter hp)) h.stack h.asked rfl
      (Nat.le_refl _) (by exact ChannelEnv.report_release)
    have hle := (List.filter_sublist (p := (·.1 ≠ id)) (l := s.pendingCalls)).countP_le
      (p := (·.2.controller = some T.controller))
    simp only [RpcChannel.holders, erasePending]
    omega
  | prepare ha => exact h.prepare F (hrespects.arguments _ ha)
  | invalid hfunctor => exact h.invalid hO hfunctor
  | unavailable hfunctor hstate => exact h.reject hO hfunctor (.inr rfl) s.overloadRejectCount
  | overloaded hfunctor hstate hroom => exact h.overloaded hO hfunctor
  | expired hfunctor hstate hroom hdeadline => exact h.reject hO hfunctor (.inl rfl) s.overloadRejectCount
  | insert hfunctor hstate hroom hdeadline => exact h.insert hfunctor
  | store hstack hfind => exact (h.pop hstack rfl).store _ _ _ _
  | unregistered hstack hfind => exact h.pop hstack rfl
  | @degraded id call reason stack accepted index order hfirst ha hstack =>
    have hframe : T.Frame (.degrade id call reason) := h.stack _ (by simp [hstack])
    subst hfirst
    apply h.degraded hO hstack
    · rintro rfl hnumber
      exact hrespects.accepted (hframe.2 hnumber) _ _ _ _ _ _ ha hstack hnumber
    · rintro rfl hnumber
      exact hrespects.refused (hframe.2 hnumber) _ _ _ _ _ _ ha hstack hnumber
  | setFailed ha hfirst hstack => exact h.setFailed hstack _
  | dequeue hfunctor hnumber =>
    obtain ⟨hcount, hfunctors, -⟩ := h.dequeue hfunctor
    exact h.of_le (Nat.le_refl _) (by omega) hfunctors h.pending h.stack h.asked rfl (Nat.le_refl _) rfl
  | post hnumber => exact h.post hnumber
  | @returned frame stack _ _ _ hstack hfinished =>
    apply h.pop hstack
    cases frame <;> first | rfl | cases hfinished
  | cancelIgnored hstack => exact (h.pop hstack rfl).push rfl trivial
  | @heartbeatFrame conn frame frames error stack hstack htype =>
    have hframe : T.Frame (.onMessage conn (frame :: frames) error) := h.stack _ (by simp [hstack])
    have hpush : Tracked T O { s with stack := .onMessage conn frames error :: stack } :=
      (h.pop hstack rfl).push rfl fun x hx => hframe x (List.mem_cons_of_mem _ hx)
    exact hpush.of_eq rfl rfl rfl rfl rfl rfl rfl
  | @endOfFrames conn error stack order hstack horder =>
    cases error with
    | none => exact (h.pop hstack rfl).post rfl
    | some error =>
      have hstate : Tracked T O { s with
          stack := stack
          connectionState := .disconnected
          connectionError := octets ("RPC protocol error: " ++ error) } :=
        (h.pop hstack rfl).of_eq rfl rfl rfl rfl rfl rfl rfl
      have hpush := hstate.push (show ChannelFrame.disconnect.controller = none from rfl) trivial
      exact hpush.push rfl trivial
  | destroyed hstack hkeys => exact (h.pop hstack rfl).of_eq rfl rfl rfl rfl rfl rfl rfl
  | timerIgnored hstack htimer hkind => exact h.env (ChannelEnv.report_cancelTimer _)
  | scheduleHeartbeat => exact h.scheduleHeartbeat
  | heartbeatMissed | drawRequestId | setMaxPendingCalls | shutdown | elapse =>
    exact h.of_eq rfl rfl rfl rfl rfl rfl rfl
  | sendHeartbeat hstate =>
    unfold sendHeartbeat
    dsimp only
    split
    · exact h
    · split <;> exact h.of_eq rfl rfl rfl rfl rfl rfl rfl
  | forceClose hstack => exact h.push rfl trivial
  | callMethodWithoutDone ha =>
    apply h.env
    apply ChannelEnv.report_applyFailure_of_ne
    rintro rfl
    exact hrespects.withoutDone ha
  | startCancel ha =>
    exact (h.updateController _ _ fun _ x r => x.report_startCancel r).push rfl trivial
  | remoteStartCancel ha =>
    exact (h.updateController _ _ fun _ x r => x.report_startCancel r).of_eq rfl rfl rfl rfl rfl rfl rfl
  | @remoteClosure index id hid =>
    have hpost : Tracked T O { s with functors := s.functors ++ [.cancel id] } := h.post rfl
    cases halive : s.alive
    · simp only [Bool.false_eq_true, if_false]
      exact h.of_eq rfl rfl rfl rfl rfl rfl rfl
    · simp only [if_true]
      exact hpost.of_eq rfl rfl rfl rfl rfl rfl rfl
  | resetController ha =>
    apply h.updateController
    rintro rfl
    exact absurd ha hrespects.reset
  | setTimeout ha | setDeadline ha => exact h.updateController _ _ fun _ _ _ => rfl
  | @setDegradeHandler installed ha =>
    refine h.of_le (Nat.le_refl _) (Nat.le_refl _) h.functors h.pending h.stack ?_ rfl
      (Nat.le_refl _) rfl
    rintro rfl
    exact hrespects.handler ha
  | onMessage ha hstack => exact h.push rfl (hrespects.received _ _ _ ha)
  | connectionUp ha halive =>
    apply Tracked.scheduleHeartbeat
    exact h.of_eq rfl rfl rfl rfl rfl rfl rfl
  | connectionDown ha halive horder hconnection hstate =>
    refine Tracked.push ?_ rfl trivial
    exact h.of_eq rfl rfl rfl rfl rfl rfl (by exact ChannelEnv.report_cancelTimer _)
  | connectionGone ha halive hconnection hstate =>
    exact h.of_eq rfl rfl rfl rfl rfl rfl (by exact ChannelEnv.report_cancelTimer _)
  | destroy hstack hqueued =>
    have hcancel : Tracked T O { s.cancelHeartbeat with
        alive := false, connection := none, connectionUp := false } :=
      h.of_eq rfl rfl rfl rfl rfl rfl (by exact ChannelEnv.report_cancelTimer _)
    exact hcancel.push rfl trivial

/-! ## Runs -/

/-- The call that a step begins is followed from there on. -/
theorem Tracked.begin {F : MetaFormat} {x : CallArguments} (hknown : Known T.received s)
    (hnumber : T.number = s.begun) (hid : T.id = UInt64.ofNat s.nextRequestId)
    (hparses : ∀ parses ∈ x.response, parses = T.parses)
    (hresponse : T.response = s.env.responses s.begun) (hlive : T.live)
    (hcontroller : x.controller = some T.controller)
    (hclear : (s.env.controllers T.controller).Clear) (hunused : s.holders T.controller = 0)
    (hasked : s.degradeHandler = true → T.asked) :
    Tracked T O { (s.prepareCall F x).2 with
      functors := s.functors ++ [(s.prepareCall F x).1] } := by
  simp only [RpcChannel.holders, Nat.add_eq_zero_iff, List.countP_eq_zero, decide_eq_true_eq]
    at hunused
  obtain ⟨⟨hfunctors, hpending⟩, hstack⟩ := hunused
  have hother : ∀ {call : PendingCall} (id : UInt64), call.number < s.begun →
      call.controller ≠ some T.controller → T.Entry id call := by
    intro call id hlt hne
    have hnumber' : call.number ≠ T.number := by omega
    exact ⟨iff_of_false hnumber' hne, fun heq => absurd heq hnumber'⟩
  have hentry : T.Functor (s.prepareCall F x).1 := by
    obtain ⟨reason, heq⟩ | ⟨bytes, call, heq, -, hcall, hx, hc, -⟩ := prepareCall_functor F s x
    · rw [heq]
      exact iff_of_true hnumber.symm hcontroller
    · rw [heq]
      exact ⟨iff_of_true (hcall.trans hnumber.symm) (hc.trans hcontroller),
        fun _ => ⟨hid.symm, hparses _ hx⟩⟩
  obtain ⟨n, completions, -, hstate⟩ := prepareCall_state F s x
  rw [hstate]
  refine ⟨by simp [hnumber], ?_, ?_, ?_, ?_, hasked, .inl ⟨hlive, ?_, ?_⟩⟩
  · have hcount : s.functors.countP (·.controller = some T.controller) = 0 ∧
        s.pendingCalls.countP (·.2.controller = some T.controller) = 0 ∧
        s.stack.countP (·.controller = some T.controller) = 0 := by
      simp only [List.countP_eq_zero, decide_eq_true_eq]
      exact ⟨hfunctors, hpending, hstack⟩
    simp only [RpcChannel.holders, List.countP_append, hcount, List.countP_singleton]
    split <;> omega
  · intro f hf
    obtain hf | rfl := by simpa using hf
    · have hlt := hknown.queued f hf
      have hne := hfunctors f hf
      cases f with
      | registerAndSend id bytes call => exact hother id (hlt _ rfl) hne
      | completeInvalid number controller coroutine reason =>
        have hlt := hlt _ rfl
        exact iff_of_false (by omega) hne
      | cancel | resume | flush => trivial
    · exact hentry
  · exact fun p hp => hother p.1 (hknown.pending p hp) (hpending p hp)
  · intro f hf
    have hlt := hknown.held f hf
    have hne := hstack f hf
    cases f with
    | degrade id call reason =>
      have hlt := hlt _ rfl
      exact ⟨hother id hlt hne, fun heq => by omega⟩
    | onMessage conn frames error => exact hknown.frames conn frames error hf
    | _ => trivial
  · intro hmem
    have hlt := hknown.notified _ hmem
    omega
  · left
    rw [Tracking.unended, hresponse, ← hnumber]
    simp only [RpcChannel.report, ChannelEnv.report, RpcController.report, hclear.failed,
      hclear.canceled, hclear.errorText, hclear.callState]

theorem Tracked.step {F : MetaFormat} {a : ChannelStep} (h : Tracked T O s)
    (hO : T.live → ∀ r, Outcome T r → O r) (hrespects : T.Respects s a)
    (hstep : s.step F a = some s') : Tracked T O s' :=
  invariant_step h (fun h heffect => h.effect hO hrespects heffect) hstep

theorem Tracked.run {F : MetaFormat} {steps : List ChannelStep} (h : Tracked T O s)
    (hO : T.live → ∀ r, Outcome T r → O r)
    (hmeets : Transition.Meets (RpcChannel.step F) T.Respects s steps)
    (hrun : s.run F steps = some s') : Tracked T O s' :=
  Transition.invariant_run (fun _ _ _ h hrespects hstep => h.step hO hrespects hstep) h hmeets hrun

/-- The frame was in the buffer of one of these runs of `OnMessage`. -/
def Received (steps : List ChannelStep) (frame : RpcFrame) : Prop :=
  ∃ conn frames error, .onMessage conn frames error ∈ steps ∧ frame ∈ frames

theorem known_run {F : MetaFormat} {R : RpcFrame → Prop} {steps : List ChannelStep}
    (h : Known R s) (hreceived : ∀ frame, Received steps frame → R frame)
    (hrun : s.run F steps = some s') : Known R s' := by
  induction steps generalizing s with
  | nil =>
    obtain rfl : s = s' := by simpa [RpcChannel.run] using hrun
    exact h
  | cons a steps ih =>
    obtain ⟨s₁, hstep, hrun⟩ := Transition.run_cons_eq_some_iff.mp hrun
    refine ih (invariant_step h (fun h heffect => h.effect ?_ heffect) hstep) ?_ hrun
    · rintro conn frames error rfl frame hframe
      exact hreceived frame ⟨conn, frames, error, List.mem_cons_self, hframe⟩
    · rintro frame ⟨conn, frames, error, hmem, hframe⟩
      exact hreceived frame ⟨conn, frames, error, List.mem_cons_of_mem _ hmem, hframe⟩

theorem known_start (R : RpcFrame → Prop) (nextRequestId : Nat) (e : ChannelEnv) :
    Known R (start nextRequestId e) := by
  constructor <;> simp [start]

/-- The step does not use the controller for another call and does not reset it. -/
structure SparesController (c : Nat) (a : ChannelStep) : Prop where
  arguments : ∀ x, a.arguments = some x → x.controller ≠ some c
  reset : a ≠ .resetController c
  withoutDone : a ≠ .callMethodWithoutDone (some c)

/-- Behind the step that begins the call. -/
theorem Tracked.begun_step {F : MetaFormat} {a : ChannelStep} {x : CallArguments}
    (hknown : Known T.received s) (hnumber : T.number = s.begun)
    (hid : T.id = UInt64.ofNat s.nextRequestId) (hparses : ∀ parses ∈ x.response, parses = T.parses)
    (hresponse : T.response = s.env.responses s.begun) (hlive : T.live)
    (ha : a.arguments = some x) (hcontroller : x.controller = some T.controller)
    (hclear : (s.env.controllers T.controller).Clear) (hunused : s.holders T.controller = 0)
    (hasked : s.degradeHandler = true → T.asked) (hO : ∀ r, Outcome T r → O r)
    (hstep : s.step F a = some s') : Tracked T O s' := by
  have hbegin := Tracked.begin (O := O) (F := F) hknown hnumber hid hparses hresponse hlive
    hcontroller hclear hunused hasked
  cases a with
  | remoteBeginCall arguments =>
    cases ha
    simp only [RpcChannel.step, Option.ite_none_right_eq_some, Option.some.injEq] at hstep
    obtain ⟨-, rfl⟩ := hstep
    rw [functors_prepareCall]
    exact hbegin
  | beginCall arguments later =>
    cases ha
    have hrespects : T.Respects s .drawRequestId := by
      constructor <;> simp [ChannelStep.arguments]
    exact invariant_effects (fun h heffect => h.effect (fun _ => hO) hrespects heffect) hbegin
      (effects_beginCall hstep)
  | _ => cases ha

/-- A call is followed from the state in which it is begun, with what is received up to the end. -/
theorem Tracked.of_begin {F : MetaFormat} {nextRequestId : Nat} {e : ChannelEnv}
    {before after : List ChannelStep} {begin : ChannelStep} {x : CallArguments} {s₂ : RpcChannel}
    (hreceived : T.received = Received (before ++ after)) (hnumber : T.number = s.begun)
    (hid : T.id = UInt64.ofNat s.nextRequestId)
    (hparses : T.parses = x.response.getD fun _ => false)
    (hresponse : T.response = s.env.responses s.begun) (hlive : T.live)
    (hbefore : (start nextRequestId e).run F before = some s)
    (hbegin : s.step F begin = some s₁) (harguments : begin.arguments = some x)
    (hcontroller : x.controller = some T.controller)
    (hclear : (s.env.controllers T.controller).Clear) (hunused : s.holders T.controller = 0)
    (hasked : s.degradeHandler = true → T.asked)
    (hmeets : Transition.Meets (RpcChannel.step F)
      (fun s a => (∀ conn frames error, a = .onMessage conn frames error →
        ∀ frame ∈ frames, T.received frame) → T.Respects s a) s₁ after)
    (hafter : s₁.run F after = some s₂) : Tracked T (Outcome T) s₂ := by
  have hknown : Known T.received s := by
    apply known_run (known_start _ nextRequestId e) _ hbefore
    rintro frame ⟨conn, frames, error, hmem, hframe⟩
    rw [hreceived]
    exact ⟨conn, frames, error, List.mem_append_left _ hmem, hframe⟩
  have hstart : Tracked T (Outcome T) s₁ := by
    apply Tracked.begun_step hknown hnumber hid ?_ hresponse hlive harguments hcontroller hclear
      hunused hasked (fun _ => id) hbegin
    intro parses hx
    rw [hparses, Option.mem_def.mp hx, Option.getD_some]
  apply hstart.run (fun _ _ => id) _ hafter
  apply hmeets.takes
  intro s' a hrespects htakes
  apply hrespects
  rintro conn frames error rfl frame hframe
  rw [hreceived]
  exact ⟨conn, frames, error, List.mem_append_right _ htakes.mem, hframe⟩

/-- A call that has been notified is followed further, with the report it has. -/
theorem Tracked.closed (h : Tracked T O s) (hnotified : T.number ∈ s.notified) :
    Tracked { T with received := fun _ => True, live := False }
      (· = s.report T.controller T.number) s where
  begun := h.begun
  holders := h.holders
  functors := h.functors
  pending := h.pending
  stack := by
    intro f hf
    have hframe := h.stack f hf
    cases f with
    | degrade id call reason => exact hframe
    | onMessage conn frames error => exact fun _ _ => trivial
    | _ => trivial
  asked := h.asked
  outcome := by
    obtain ⟨-, hnot, -⟩ | ⟨hmem, hzero, -⟩ := h.outcome
    · exact absurd hnotified hnot
    · exact .inr ⟨hmem, hzero, rfl⟩

/-- The report of a call that has been notified is not changed any more. -/
theorem Tracked.report_run {F : MetaFormat} {steps : List ChannelStep}
    {C : RpcChannel → ChannelStep → Prop} (h : Tracked T O s) (hnotified : T.number ∈ s.notified)
    (hmeets : Transition.Meets (RpcChannel.step F) C s steps)
    (hrespects : ∀ (s : RpcChannel) a, C s a →
      { T with received := fun _ => True, live := False }.Respects s a)
    (hrun : s.run F steps = some s') :
    s'.report T.controller T.number = s.report T.controller T.number := by
  have hend := (h.closed hnotified).run False.elim (hmeets.mono hrespects) hrun
  obtain ⟨hlive, -⟩ | ⟨-, -, hreport⟩ := hend.outcome
  · exact hlive.elim
  · exact hreport

end RpcChannel

/-! ## The end is coherent and final -/

namespace CallReport

variable (r : CallReport)

/-- A frame has completed the call, and the response is what a frame like `P` says, or the call has
failed. -/
def Completed (P : List UInt8 → Prop) : Prop :=
  r.callState = .completed ∧ r.canceled = false ∧
    (r.failed = false ∧ (∃ payload, r.response = some payload ∧ P payload) ∨ r.failed = true)

/-- The call has been cancelled, with the response as it was. -/
def Cancelled (response : Option (List UInt8)) : Prop :=
  r.callState = .cancelled ∧ r.canceled = true ∧ r.failed = false ∧ r.response = response

/-- The call has failed without a frame, with the response as it was. -/
def Failed (response : Option (List UInt8)) : Prop :=
  (r.callState = .timeout ∨ r.callState = .failed ∨ r.callState = .invalid) ∧ r.failed = true ∧
    r.canceled = false ∧ r.response = response

end CallReport

/-- Without a degrade handler there are three kinds of ends, and they exclude each other. -/
theorem Outcome.trichotomy {T : Tracking} {r : CallReport} (h : Outcome T r) (hasked : ¬T.accepted)
    {P : List UInt8 → Prop}
    (hP : ∀ frame : RpcFrame, T.received frame → frame.rpcMeta.type = .response →
      frame.rpcMeta.requestId = T.id → T.parses frame.payload = true → P frame.payload) :
    r.Completed P ∧ ¬r.Cancelled T.response ∧ ¬r.Failed T.response ∨
      ¬r.Completed P ∧ r.Cancelled T.response ∧ ¬r.Failed T.response ∨
      ¬r.Completed P ∧ ¬r.Cancelled T.response ∧ r.Failed T.response := by
  cases h with
  | responded hreceived htype hid hparses =>
    left
    refine ⟨⟨rfl, rfl, .inl ⟨rfl, _, rfl, hP _ hreceived htype hid hparses⟩⟩, ?_, ?_⟩ <;>
      simp [CallReport.Cancelled, CallReport.Failed]
  | refused =>
    left
    refine ⟨⟨rfl, rfl, .inr rfl⟩, ?_, ?_⟩ <;> simp [CallReport.Cancelled, CallReport.Failed]
  | cancelled =>
    right; left
    refine ⟨?_, ⟨rfl, rfl, rfl, rfl⟩, ?_⟩ <;> simp [CallReport.Completed, CallReport.Failed]
  | failed hstate =>
    right; right
    refine ⟨?_, ?_, ⟨hstate, rfl, rfl, rfl⟩⟩ <;>
      rcases hstate with rfl | rfl | rfl <;> simp [CallReport.Completed, CallReport.Cancelled]
  | degraded haccepted => exact absurd haccepted hasked

namespace RpcChannel

/-- The payload stands in a RESPONSE frame with this id, and the response of the call can be parsed
from it. -/
def RespondedWith (steps : List ChannelStep) (x : CallArguments) (id : UInt64)
    (payload : List UInt8) : Prop :=
  ∃ frame, Received steps frame ∧ frame.rpcMeta.type = .response ∧ frame.rpcMeta.requestId = id ∧
    frame.payload = payload ∧ ∃ parses ∈ x.response, parses payload = true

theorem exists_parses {x : CallArguments} {payload : List UInt8}
    (h : (x.response.getD fun _ => false) payload = true) :
    ∃ parses ∈ x.response, parses payload = true := by
  cases hresponse : x.response with
  | none => simp [hresponse] at h
  | some parses => exact ⟨parses, rfl, by simpa [hresponse] using h⟩

/-- A call is begun with a controller that shows no end of a call and that no other call uses, and
without a degrade handler. In every state in which it has been notified it has come to exactly one
of three ends, and this does not change any more. -/
theorem outcome_coherent_final (F : MetaFormat) (nextRequestId : Nat) (e : ChannelEnv)
    (before after later : List ChannelStep) (begin : ChannelStep) (x : CallArguments) (c : Nat)
    (s s₁ s₂ s₃ : RpcChannel) (hbefore : (start nextRequestId e).run F before = some s)
    (hbegin : s.step F begin = some s₁) (harguments : begin.arguments = some x)
    (hcontroller : x.controller = some c) (hclear : (s.env.controllers c).Clear)
    (hunused : s.holders c = 0) (hhandler : s.degradeHandler = false)
    (hmeets : Transition.Meets (step F)
      (fun _ a => SparesController c a ∧ a ≠ .setDegradeHandler true) s₁ (after ++ later))
    (hafter : s₁.run F after = some s₂) (hlater : s₂.run F later = some s₃)
    (hnotified : s.begun ∈ s₂.notified) :
    let r := s₂.report c s.begun
    let response := s.env.responses s.begun
    let P := RespondedWith (before ++ after) x (UInt64.ofNat s.nextRequestId)
    (r.Completed P ∧ ¬r.Cancelled response ∧ ¬r.Failed response ∨
      ¬r.Completed P ∧ r.Cancelled response ∧ ¬r.Failed response ∨
      ¬r.Completed P ∧ ¬r.Cancelled response ∧ r.Failed response) ∧
    s₃.report c s.begun = r := by
  let T : Tracking :=
    { number := s.begun
      controller := c
      id := UInt64.ofNat s.nextRequestId
      parses := x.response.getD fun _ => false
      response := s.env.responses s.begun
      received := Received (before ++ after)
      asked := False
      accepted := False
      blank := True
      live := True }
  obtain ⟨hmeets₁, hmeets₂⟩ := hmeets.of_append hafter
  have hrespects : ∀ (T' : Tracking), T'.controller = c → T'.asked = False → T'.blank = True →
      ∀ (s : RpcChannel) a, SparesController c a ∧ a ≠ .setDegradeHandler true →
      (∀ conn frames error, a = .onMessage conn frames error → ∀ f ∈ frames, T'.received f) →
      T'.Respects s a := by
    rintro T' rfl hasked hblank s a ⟨hspares, hset⟩ hreceived
    refine ⟨hspares.arguments, hspares.reset, hspares.withoutDone, fun ha => absurd ha hset,
      hreceived, ?_, ?_, ?_⟩
    · rw [hasked]
      exact False.elim
    · simp [hblank]
    · simp [hblank]
  have hend : Tracked T (Outcome T) s₂ := by
    apply Tracked.of_begin rfl rfl rfl rfl rfl trivial hbefore hbegin harguments hcontroller hclear
      hunused _ (hmeets₁.mono (hrespects T rfl rfl rfl)) hafter
    simp [hhandler]
  obtain ⟨-, hnot, -⟩ | ⟨-, -, houtcome⟩ := hend.outcome
  · exact absurd hnotified hnot
  constructor
  · apply houtcome.trichotomy id
    intro frame hreceived htype hid hparses
    exact ⟨frame, hreceived, htype, hid, rfl, exists_parses hparses⟩
  · exact hend.report_run hnotified hmeets₂
      (fun s a ha => hrespects _ rfl rfl rfl s a ha fun _ _ _ _ _ _ => trivial) hlater

/-- A call with the controller `0`. -/
def ownCall : CallArguments := { emptyCall with controller := some 0 }

/-- A call is answered, and then somebody cancels it. -/
theorem outcome_coherent_final_answered :
    ∃ s₂ s₃, (start 1 {}).run wireFormat
        [.connectionUp 0, .beginCall ownCall 0, .resume false 0 [],
          .onMessage 0 [{ rpcMeta := { type := .response, requestId := 1 } }] none,
          .resume false 0 []] = some s₂ ∧
      s₂.run wireFormat [.startCancel 0] = some s₃ ∧ 0 ∈ s₂.notified ∧
      s₃.report 0 0 = s₂.report 0 0 := by
  refine ⟨_, _, rfl, rfl, by decide, ?_⟩
  refine (outcome_coherent_final wireFormat 1 {} [.connectionUp 0]
    [.resume false 0 [], .onMessage 0 [{ rpcMeta := { type := .response, requestId := 1 } }] none,
      .resume false 0 []] [.startCancel 0] (.beginCall ownCall 0) ownCall 0 _ _ _ _ rfl rfl rfl rfl
    ⟨rfl, rfl, rfl, rfl⟩ rfl rfl ?_ rfl rfl (by decide)).2
  apply Transition.meets_of_forall_mem
  intro s a ha
  simp only [List.cons_append, List.nil_append, List.mem_cons, List.not_mem_nil, or_false] at ha
  obtain rfl | rfl | rfl | rfl := ha <;>
    exact ⟨⟨by simp [ChannelStep.arguments], by simp, by simp⟩, by simp⟩

end RpcChannel

end NebulaRpc.Rpc
