import NebulaRpc.Rpc.Effects

/-!
# The forms of a step

A step of the channel does one of five things: it begins, completes and rejects no call, it queues a
call of another thread, it ends a pending call, the degrade handler has returned in it, or it runs a
functor. `Effects` says more about each of
the effects of a step, but not how many of them there are.
-/

namespace NebulaRpc.Rpc

/-- The call that the degrade handler is asked about. -/
def ChannelFrame.degrading : ChannelFrame → Option PendingCall
  | .degrade _ call _ => some call
  | _ => none

/-- A call without what its registration adds to it. -/
def PendingCall.begun (call : PendingCall) : PendingCall :=
  { call with timeoutTimer := none, cancelToken := -1 }

/-! ## What is recorded -/

namespace ChannelEnv

variable (e : ChannelEnv) (call : PendingCall)

@[simp]
theorem metrics_updateController (f : RpcController → RpcController) (controller : Option Nat) :
    (e.updateController f controller).metrics = e.metrics := by
  cases controller <;> rfl

@[simp]
theorem metrics_applyFailure (controller : Option Nat) (reason : List UInt8)
    (state : RpcCallState) : (e.applyFailure controller reason state).metrics = e.metrics := by
  simp [applyFailure]

@[simp]
theorem metrics_applyFrame (frame : RpcFrame) : (e.applyFrame call frame).metrics = e.metrics := by
  unfold applyFrame
  split
  · simp
  split
  · simp
  split
  · rfl
  · simp

@[simp]
theorem metrics_setRemoteErrorCode (code : Int32) :
    (e.setRemoteErrorCode call code).metrics = e.metrics := by
  unfold setRemoteErrorCode
  split <;> rfl

@[simp]
theorem metrics_release : (e.release call).metrics = e.metrics := by
  have hcancel : (e.cancelTimer call.timeoutTimer).metrics = e.metrics := by
    cases call.timeoutTimer <;> rfl
  unfold release
  dsimp only
  split
  · simpa using hcancel
  · exact hcancel

end ChannelEnv

namespace RpcChannel

open Relation (ReflTransGen)

variable {F : MetaFormat} {a : ChannelStep} {s s₀ s₁ s' : RpcChannel} {id : UInt64}

/-- The calls that degrade handlers are asked about. -/
def degrading (s : RpcChannel) : List PendingCall := s.stack.filterMap ChannelFrame.degrading

/-- The pending calls, as they were begun. -/
def entries (s : RpcChannel) : List (UInt64 × PendingCall) :=
  s.pendingCalls.map fun p => (p.1, p.2.begun)

/-- A functor runs, and this is the state without it. -/
inductive Performs (F : MetaFormat) (s : RpcChannel) : ChannelStep → RpcChannel →
    ChannelFunctor → Prop
  | beginCall (x : CallArguments) (later : Int) :
      Performs F s (.beginCall x later)
        { (s.prepareCall F x).2 with env := { (s.prepareCall F x).2.env with clock := later } }
        (s.prepareCall F x).1
  | runFunctor {index : Nat} {functor : ChannelFunctor} (hget : s.functors[index]? = some functor) :
      Performs F s (.runFunctor index) { s with functors := s.functors.eraseIdx index } functor

/-- Only functors that carry no call are added to the queue. -/
def Posts (s s' : RpcChannel) : Prop :=
  ∃ functors, s'.functors = s.functors ++ functors ∧ ∀ f ∈ functors, f.number = none

/-- What stays when no call is begun, completed or rejected. -/
structure Quiet (s s' : RpcChannel) : Prop where
  begun : s'.begun = s.begun
  notified : s'.notified = s.notified
  posts : Posts s s'
  metrics : s'.env.metrics = s.env.metrics
  degrading : s'.degrading = s.degrading
  entries : s'.entries.Sublist s.entries
  rejects : s'.overloadRejectCount = s.overloadRejectCount

theorem Posts.of_eq (h : s'.functors = s.functors) : Posts s s' := ⟨[], by simp [h], by simp⟩

theorem Posts.one (functor : ChannelFunctor) (h : s'.functors = s.functors ++ [functor])
    (hnumber : functor.number = none) : Posts s s' :=
  ⟨[functor], h, by simpa using hnumber⟩

theorem Posts.trans {s'' : RpcChannel} (h : Posts s s') (h' : Posts s' s'') : Posts s s'' := by
  obtain ⟨fs, hfs, hnumber⟩ := h
  obtain ⟨fs', hfs', hnumber'⟩ := h'
  refine ⟨fs ++ fs', by rw [hfs', hfs, List.append_assoc], fun f hf => ?_⟩
  obtain hf | hf := List.mem_append.mp hf
  · exact hnumber f hf
  · exact hnumber' f hf

theorem Posts.isPrefix (h : Posts s s') : s.functors <+: s'.functors := by
  obtain ⟨fs, hfs, -⟩ := h
  exact ⟨fs, hfs.symm⟩

theorem Posts.queuedNumbers (h : Posts s s') : s'.queuedNumbers = s.queuedNumbers := by
  obtain ⟨fs, hfs, hnumber⟩ := h
  have hnone : fs.filterMap ChannelFunctor.number = [] := by simpa using hnumber
  simp [RpcChannel.queuedNumbers, hfs, hnone]

theorem Posts.notifyCompletion (h : s'.functors = s.functors) (number : Nat) (coroutine : Bool) :
    Posts s (s'.notifyCompletion number coroutine) := by
  unfold RpcChannel.notifyCompletion
  dsimp only
  split
  · exact .one (.resume number) (by rw [← h]) rfl
  · exact .of_eq h

theorem entries_erasePending (s : RpcChannel) (id : UInt64) :
    (s.erasePending id).entries.Sublist s.entries :=
  List.filter_sublist.map _

theorem entries_modifyPending (s : RpcChannel) (id : UInt64) {f : PendingCall → PendingCall}
    (hf : ∀ call, (f call).begun = call.begun) :
    (s.modifyPending id f).entries.Sublist s.entries := by
  have heq : (s.modifyPending id f).entries = s.entries := by
    simp only [entries, modifyPending, List.map_map]
    apply List.map_congr_left
    intro p _
    simp only [Function.comp_apply]
    split
    · rw [hf]
    · rfl
  exact heq ▸ .refl _

theorem completeCallWithFrame_cases (s : RpcChannel) (id : UInt64) (frame : RpcFrame) :
    s.completeCallWithFrame id frame = s ∨ ∃ call, s.findPending id = some call ∧
      s.completeCallWithFrame id frame = s.finish id call (.frame frame) := by
  unfold completeCallWithFrame
  obtain ⟨hnone, -⟩ | ⟨call, hfind, -, hsome⟩ := s.tryComplete_cases id
  · exact .inl (by rw [hnone])
  · exact .inr ⟨call, hfind, by rw [hsome]; rfl⟩

theorem completeCallWithFailure_cases (s : RpcChannel) (id : UInt64) (reason : List UInt8)
    (state : RpcCallState) :
    s.completeCallWithFailure id reason state = s ∨ ∃ call, s.findPending id = some call ∧
      s.completeCallWithFailure id reason state = s.finish id call (.failure reason state) := by
  unfold completeCallWithFailure
  obtain ⟨hnone, -⟩ | ⟨call, hfind, -, hsome⟩ := s.tryComplete_cases id
  · exact .inl (by rw [hnone])
  · exact .inr ⟨call, hfind, by rw [hsome]; rfl⟩

theorem completeCallWithCancel_cases (s : RpcChannel) (id : UInt64) :
    s.completeCallWithCancel id = s ∨ ∃ call, s.findPending id = some call ∧
      s.completeCallWithCancel id = s.finish id call .cancel := by
  unfold completeCallWithCancel
  obtain ⟨hnone, -⟩ | ⟨call, hfind, -, hsome⟩ := s.tryComplete_cases id
  · exact .inl (by rw [hnone])
  · exact .inr ⟨call, hfind, by rw [hsome]; rfl⟩

theorem failPendingNow_cases (s : RpcChannel) (id : UInt64) (reason : List UInt8) :
    Quiet s (s.failPendingNow id reason) ∨
      ∃ call, s.findPending id = some call ∧
        s.failPendingNow id reason = s.finish id call (.failure reason .failed) := by
  unfold failPendingNow takePendingCall
  cases hfind : s.findPending id with
  | none => exact .inl ⟨rfl, rfl, .of_eq rfl, rfl, rfl, .refl _, rfl⟩
  | some call =>
    rw [Option.map_some]
    dsimp only
    split
    · exact .inr ⟨call, rfl, rfl⟩
    · exact .inl ⟨rfl, rfl, .of_eq rfl, ChannelEnv.metrics_release _ _, rfl, entries_erasePending s id, rfl⟩

/-- The forms that a step can have. -/
inductive Form (F : MetaFormat) (a : ChannelStep) (s : RpcChannel) : RpcChannel → Prop
  | quiet {s' : RpcChannel} (hquiet : Quiet s s') : Form F a s s'
  | prepare {x : CallArguments} (ha : a = .remoteBeginCall x) :
      Form F a s { (s.prepareCall F x).2 with functors := s.functors ++ [(s.prepareCall F x).1] }
  | finish {s₁ : RpcChannel} {id : UInt64} {call : PendingCall} {ending : Ending}
      (hcause : Cause a s s s₁ id ending) (hfind : s₁.findPending id = some call)
      (hquiet : Quiet s s₁) (hfunctors : s₁.functors = s.functors) :
      Form F a s (s₁.finish id call ending)
  | degraded {id : UInt64} {call : PendingCall} {reason : List UInt8} {stack : List ChannelFrame}
      {accepted : Bool} {index : Nat} {order : List UInt64} (ha : a = .resume accepted index order)
      (hstack : s.stack = .degrade id call reason :: stack) :
      Form F a s ({ s with stack := stack }.degraded call reason accepted)
  | perform {t : RpcChannel} {functor : ChannelFunctor} (hperforms : Performs F s a t functor) :
      Form F a s (t.perform functor)

/-! ## Quiet operations -/

theorem Quiet.refl (s : RpcChannel) : Quiet s s := ⟨rfl, rfl, .of_eq rfl, rfl, rfl, .refl _, rfl⟩

/-- Only the frame on top of the stack, which asks no degrade handler, has changed. -/
theorem Quiet.frame (frames : List ChannelFrame) {frame : ChannelFrame} {stack : List ChannelFrame}
    (hstack : s.stack = frame :: stack) (hframe : frame.degrading = none)
    (hframes : frames.filterMap ChannelFrame.degrading = []) :
    Quiet s { s with stack := frames ++ stack } := by
  refine ⟨rfl, rfl, .of_eq rfl, rfl, ?_, .refl _, rfl⟩
  simp only [RpcChannel.degrading, hstack, List.filterMap_append, hframes, List.nil_append,
    List.filterMap_cons, hframe]

theorem Quiet.env (h : Quiet s s') {e : ChannelEnv} (hmetrics : e.metrics = s'.env.metrics) :
    Quiet s { s' with env := e } :=
  ⟨h.begun, h.notified, h.posts, hmetrics.trans h.metrics, h.degrading, h.entries, h.rejects⟩

theorem Quiet.modifyPending (h : Quiet s s') (id : UInt64) {f : PendingCall → PendingCall}
    (hf : ∀ call, (f call).begun = call.begun) : Quiet s (s'.modifyPending id f) :=
  ⟨h.begun, h.notified, h.posts, h.metrics, h.degrading,
    (entries_modifyPending s' id hf).trans h.entries, h.rejects⟩

theorem quiet_store {token : Int} {bytes : List UInt8} {stack : List ChannelFrame}
    (hstack : s.stack = .registered id token bytes :: stack) (call : PendingCall) :
    Quiet s ({ s with stack := stack }.store id token bytes call) ∧
      ({ s with stack := stack }.store id token bytes call).functors = s.functors := by
  have hpop : Quiet s { s with stack := stack } := .frame [] hstack rfl rfl
  have htoken : Quiet s ({ s with stack := stack }.modifyPending id ({ · with cancelToken := token })) :=
    hpop.modifyPending id fun _ => rfl
  have hassign : Quiet s ({ s with stack := stack }.assign id token call) ∧
      ({ s with stack := stack }.assign id token call).functors = s.functors := by
    unfold assign registerTimeoutTimer
    split
    · refine ⟨Quiet.modifyPending (htoken.env ?_) id fun _ => rfl, rfl⟩
      rfl
    · exact ⟨htoken, rfl⟩
  unfold store
  dsimp only
  split
  · exact ⟨hassign.1.env rfl, hassign.2⟩
  · exact hassign

theorem quiet_sendHeartbeat (F : MetaFormat) (s : RpcChannel) (traceId : UInt64) :
    Quiet s (s.sendHeartbeat F traceId) := by
  unfold sendHeartbeat
  dsimp only
  split
  · exact .refl s
  · split <;> exact ⟨rfl, rfl, .of_eq rfl, rfl, rfl, .refl _, rfl⟩

theorem metrics_cancelHeartbeat (s : RpcChannel) :
    s.cancelHeartbeat.env.metrics = s.env.metrics := by
  unfold cancelHeartbeat
  cases s.heartbeatTimer <;> rfl

theorem quiet_onHeartbeatTimer (F : MetaFormat) (s : RpcChannel) (traceId : UInt64) :
    Quiet s (s.onHeartbeatTimer F traceId) := by
  unfold onHeartbeatTimer
  split
  · exact ⟨rfl, rfl, .of_eq rfl, metrics_cancelHeartbeat s, rfl, .refl _, rfl⟩
  · split
    · exact ⟨rfl, rfl, .of_eq rfl, rfl, rfl, .refl _, rfl⟩
    · obtain ⟨h₁, h₂, h₃, h₄, h₅, h₆, h₇⟩ := quiet_sendHeartbeat F
        { s with heartbeatMissed := s.heartbeatMissed + 1 } traceId
      exact ⟨h₁, h₂, h₃, h₄, h₅, h₆, h₇⟩

/-! ## Every step has a form -/

theorem form_cancel (hcause : Cause a s s s₁ id .cancel) (hquiet : Quiet s s₁)
    (hfunctors : s₁.functors = s.functors) : Form F a s (s₁.completeCallWithCancel id) := by
  obtain heq | ⟨call, hfind, heq⟩ := completeCallWithCancel_cases s₁ id
  · rw [heq]
    exact .quiet hquiet
  · rw [heq]
    exact .finish hcause hfind hquiet hfunctors

theorem form_failure {reason : List UInt8} {state : RpcCallState}
    (hcause : Cause a s s s₁ id (.failure reason state)) (hquiet : Quiet s s₁)
    (hfunctors : s₁.functors = s.functors) :
    Form F a s (s₁.completeCallWithFailure id reason state) := by
  obtain heq | ⟨call, hfind, heq⟩ := completeCallWithFailure_cases s₁ id reason state
  · rw [heq]
    exact .quiet hquiet
  · rw [heq]
    exact .finish hcause hfind hquiet hfunctors

theorem form_registered {accepted : Bool} {index : Nat} {order : List UInt64} {token : Int}
    {bytes : List UInt8} {stack : List ChannelFrame}
    (hstack : s.stack = .registered id token bytes :: stack) :
    Form F (.resume accepted index order) s
      ({ s with stack := stack }.registered id token bytes) := by
  unfold registered
  cases hfind : s.findPending id with
  | none =>
    rw [show ({ s with stack := stack } : RpcChannel).findPending id = none from hfind]
    exact .quiet (.frame [] hstack rfl rfl)
  | some call =>
    rw [show ({ s with stack := stack } : RpcChannel).findPending id = some call from hfind]
    obtain ⟨hquiet, hfunctors⟩ := quiet_store hstack call
    have hunwritten : s.connection = none ∨ s.connectionUp = false →
        Form F (.resume accepted index order) s
          (({ s with stack := stack }.store id token bytes call).completeCallWithFailure id
            (octets "RPC connection is not available") .failed) := fun hconnection =>
      form_failure (.unwritten hstack hfind hconnection) hquiet hfunctors
    have hwritten : Form F (.resume accepted index order) s
        ({ s with stack := stack }.store id token bytes call) := .quiet hquiet
    have hassign := connection_assign { s with stack := stack } id token call
    show Form F _ s (({ s with stack := stack }.assign id token call).writeRegisteredCall id bytes)
    unfold store at hwritten hunwritten
    unfold writeRegisteredCall
    generalize ({ s with stack := stack } : RpcChannel).assign id token call = s₁
      at hwritten hunwritten hassign ⊢
    cases hconnection : s₁.connection with
    | none =>
      simp only [hconnection] at hunwritten
      exact hunwritten (.inl (hassign.1.symm.trans hconnection))
    | some conn =>
      cases hup : s₁.connectionUp with
      | false =>
        simp only [hconnection, hup] at hunwritten
        exact hunwritten (.inr (hassign.2.symm.trans hup))
      | true =>
        simp only [hconnection, hup] at hwritten
        exact hwritten

theorem form_resume {accepted : Bool} {index : Nat} {order : List UInt64}
    (hstep : s.resume accepted index order = some s') :
    Form F (.resume accepted index order) s s' := by
  unfold resume at hstep
  split at hstep
  · cases hstep
  · next hstack => cases hstep; exact .quiet (.frame [] hstack rfl rfl)
  · next hstack => cases hstep; exact .quiet (.frame [] hstack rfl rfl)
  · next hstack => cases hstep; exact .degraded rfl hstack
  · next hstack => cases hstep; exact form_registered hstack
  · next hstack => cases hstep; exact .quiet (.frame [] hstack rfl rfl)
  · next hstack => cases hstep; exact .quiet (.frame [] hstack rfl rfl)
  · next id ids _ hstack =>
    cases hstep
    have hquiet := Quiet.frame [.startCancel ids] hstack rfl rfl
    dsimp only
    split
    · exact form_cancel (.startCancel hstack) hquiet rfl
    · exact .quiet hquiet
  · next id ids _ hstack =>
    cases hstep
    exact form_failure (.connection hstack) (.frame [.failEach ids] hstack rfl rfl) rfl
  · next conn frame frames error _ hstack =>
    cases hstep
    have hquiet := Quiet.frame [.onMessage conn frames error] hstack rfl rfl
    unfold handleFrame
    split
    · exact .quiet ⟨rfl, rfl, .of_eq rfl, rfl, hquiet.degrading, .refl _, rfl⟩
    · next htype =>
      obtain heq | ⟨call, hfind, heq⟩ := completeCallWithFrame_cases
        { s with stack := .onMessage conn frames error :: _ } _ _
      · rw [heq]
        exact .quiet hquiet
      · rw [heq]
        exact .finish (.frame rfl rfl hstack htype) hfind hquiet rfl
  · next conn error stack hstack =>
    have hquiet := Quiet.frame [] hstack rfl rfl
    split at hstep
    · cases hstep
      cases error with
      | none => exact .quiet ⟨rfl, rfl, .one _ rfl rfl, rfl, hquiet.degrading, .refl _, rfl⟩
      | some error => exact .quiet ⟨rfl, rfl, .of_eq rfl, rfl, hquiet.degrading, .refl _, rfl⟩
    · cases hstep
  · next hstack =>
    cases hstep
    have hquiet := Quiet.frame [] hstack rfl rfl
    exact .quiet ⟨rfl, rfl, .of_eq rfl, metrics_cancelHeartbeat _, hquiet.degrading, .refl _, rfl⟩
  · next hstack =>
    have hquiet := Quiet.frame [] hstack rfl rfl
    split at hstep
    · cases hstep
      exact .quiet ⟨rfl, rfl, .of_eq rfl, rfl, hquiet.degrading, .refl _, rfl⟩
    · cases hstep
      obtain hquiet | ⟨call, hfind, heq⟩ := failPendingNow_cases s _ _
      · exact .quiet hquiet
      · rw [heq]
        exact .finish (.closed hstack) hfind (.refl s) rfl

theorem form_timer {timer : Nat} {kind : ChannelTimer} (traceId : UInt64) (hstack : s.stack = [])
    (htimer : s.env.timers.find? (·.1 = timer) = some (timer, kind)) :
    Form F (.timer timer traceId) s
      (if s.alive then { s with env := s.env.cancelTimer (some timer) }.fire F traceId kind
        else { s with env := s.env.cancelTimer (some timer) }) := by
  have hquiet : Quiet s { s with env := s.env.cancelTimer (some timer) } :=
    ⟨rfl, rfl, .of_eq rfl, rfl, rfl, .refl _, rfl⟩
  split
  · cases kind with
    | timeout id => exact form_failure (.timeout hstack htimer) hquiet rfl
    | heartbeat =>
      obtain ⟨h₁, h₂, h₃, h₄, h₅, h₆, h₇⟩ :=
        quiet_onHeartbeatTimer F { s with env := s.env.cancelTimer (some timer) } traceId
      exact .quiet ⟨h₁, h₂, h₃, h₄, h₅, h₆, h₇⟩
  · exact .quiet hquiet

theorem step_form (hstep : s.step F a = some s') : Form F a s s' := by
  cases a with
  | beginCall arguments later =>
    simp only [step, Option.ite_none_right_eq_some, Option.some.injEq] at hstep
    obtain ⟨-, rfl⟩ := hstep
    exact .perform (.beginCall arguments later)
  | resume accepted index order => exact form_resume hstep
  | timer id traceId =>
    simp only [step, Option.ite_none_right_eq_some, Option.map_eq_some_iff] at hstep
    obtain ⟨hstack, ⟨timer, kind⟩, htimer, rfl⟩ := hstep
    have htimer' := htimer
    obtain rfl : timer = id := by simpa using List.find?_some htimer'
    exact form_timer traceId (by simpa using hstack) htimer
  | runFunctor index =>
    simp only [step, Option.ite_none_right_eq_some, Option.map_eq_some_iff] at hstep
    obtain ⟨-, functor, hfunctor, rfl⟩ := hstep
    exact .perform (.runFunctor hfunctor)
  | cancelCoroutineCall requestId =>
    simp only [step, Option.ite_none_right_eq_some, Option.some.injEq, Bool.and_eq_true] at hstep
    obtain ⟨⟨huser, -⟩, rfl⟩ := hstep
    split
    · exact .quiet (.refl s)
    · exact form_cancel (.cancel (.inl huser)) (.refl s) rfl
  | remoteCancelCoroutineCall requestId =>
    simp only [step, Option.ite_none_right_eq_some, Option.some.injEq] at hstep
    obtain ⟨-, rfl⟩ := hstep
    split
    · exact .quiet (.refl s)
    · exact .quiet ⟨rfl, rfl, .one _ rfl rfl, rfl, rfl, .refl _, rfl⟩
  | remoteClosure index =>
    simp only [step, Option.map_eq_some_iff] at hstep
    obtain ⟨id, -, rfl⟩ := hstep
    split
    · exact .quiet ⟨rfl, rfl, .one _ rfl rfl, rfl, rfl, .refl _, rfl⟩
    · exact .quiet ⟨rfl, rfl, .of_eq rfl, rfl, rfl, .refl _, rfl⟩
  | remoteBeginCall arguments =>
    simp only [step, Option.ite_none_right_eq_some, Option.some.injEq] at hstep
    obtain ⟨-, rfl⟩ := hstep
    have hfunctors : (s.prepareCall F arguments).2.functors = s.functors :=
      functors_prepareCall F s arguments
    rw [hfunctors]
    exact .prepare rfl
  | connectionDown conn order =>
    simp only [step, Option.ite_none_right_eq_some, Option.some.injEq] at hstep
    obtain ⟨-, rfl⟩ := hstep
    have hmetrics := metrics_cancelHeartbeat s
    unfold connectionClosed
    dsimp only
    split <;> split <;> exact .quiet ⟨rfl, rfl, .of_eq rfl, hmetrics, rfl, .refl _, rfl⟩
  | connectionUp conn =>
    simp only [step, Option.ite_none_right_eq_some, Option.some.injEq] at hstep
    obtain ⟨-, rfl⟩ := hstep
    exact .quiet ⟨rfl, rfl, .of_eq rfl, metrics_cancelHeartbeat _, rfl, .refl _, rfl⟩
  | destroy =>
    simp only [step, Option.ite_none_right_eq_some, Option.some.injEq] at hstep
    obtain ⟨-, rfl⟩ := hstep
    exact .quiet ⟨rfl, rfl, .of_eq rfl, metrics_cancelHeartbeat s, rfl, .refl _, rfl⟩
  | callMethodWithoutDone controller =>
    simp only [step, Option.ite_none_right_eq_some, Option.some.injEq] at hstep
    obtain ⟨-, rfl⟩ := hstep
    exact .quiet ⟨rfl, rfl, .of_eq rfl, ChannelEnv.metrics_applyFailure _ _ _ _, rfl, .refl _, rfl⟩
  | drawRequestId | remoteStartCancel | resetController | setTimeout | setDeadline =>
    obtain rfl : _ = s' := Option.some.inj hstep
    exact .quiet ⟨rfl, rfl, .of_eq rfl, rfl, rfl, .refl _, rfl⟩
  | setFailed reason =>
    obtain ⟨_, _, _, _, -, rfl⟩ := step_setFailed hstep
    exact .quiet ⟨rfl, rfl, .of_eq rfl, ChannelEnv.metrics_updateController _ _ _, rfl, .refl _, rfl⟩
  | onMessage | elapse | startCancel | setMaxPendingCalls | setDegradeHandler | shutdown =>
    simp only [step, Option.ite_none_right_eq_some, Option.some.injEq] at hstep
    obtain ⟨-, rfl⟩ := hstep
    exact .quiet ⟨rfl, rfl, .of_eq rfl, rfl, rfl, .refl _, rfl⟩

/-! ## Functors that run -/

/-- The forms that the run of a functor can have; `t` is the state without the functor. -/
inductive Performed (t : RpcChannel) : ChannelFunctor → RpcChannel → Prop
  | unavailable {id : UInt64} {bytes : List UInt8} {call : PendingCall}
      (hstate : t.connectionState ≠ .connected) :
      Performed t (.registerAndSend id bytes call) (t.rejectUnavailable call)
  | overloaded {id : UInt64} {bytes : List UInt8} {call : PendingCall}
      (hstate : t.connectionState = .connected) (hroom : ¬ t.room) :
      Performed t (.registerAndSend id bytes call) (t.rejectOverloaded id call)
  | expired {id : UInt64} {bytes : List UInt8} {call : PendingCall}
      (hstate : t.connectionState = .connected) (hroom : t.room)
      (hdeadline : call.deadline.any (· ≤ t.env.clock) = true) :
      Performed t (.registerAndSend id bytes call) (t.reject call (octets "RPC timeout") .timeout)
  | inserted {id : UInt64} {bytes : List UInt8} {call : PendingCall}
      (hstate : t.connectionState = .connected) (hroom : t.room) :
      Performed t (.registerAndSend id bytes call) ((t.emplace id call).hook id bytes)
  | cancelled {id : UInt64} {bytes : List UInt8} {call call' : PendingCall}
      (hstate : t.connectionState = .connected) (hroom : t.room)
      (hfind : ((t.emplace id call).hook id bytes).findPending id = some call') :
      Performed t (.registerAndSend id bytes call)
        (((t.emplace id call).hook id bytes).finish id call' .cancel)
  | invalid {number : Nat} {controller : Option Nat} {coroutine : Bool} {reason : List UInt8} :
      Performed t (.completeInvalid number controller coroutine reason)
        (t.completeInvalid number controller coroutine reason)
  | cancel {id : UInt64} {call : PendingCall} (hfind : t.findPending id = some call) :
      Performed t (.cancel id) (t.finish id call .cancel)
  | quiet {functor : ChannelFunctor} (hnumber : functor.number = none) : Performed t functor t

theorem performed_perform (t : RpcChannel) (functor : ChannelFunctor) :
    Performed t functor (t.perform functor) := by
  cases functor with
  | registerAndSend id bytes call =>
    simp only [perform, registerAndSend]
    split
    · next hstate => exact .unavailable hstate
    next hstate =>
    rw [not_not] at hstate
    split
    · next hroom => exact .overloaded hstate (not_not.mpr hroom)
    next hroom =>
    split
    · next hdeadline => exact .expired hstate hroom hdeadline
    obtain heq | ⟨heq, -⟩ := registerCancelCallback_cases (t.emplace id call) id bytes
    · rw [heq]
      exact .inserted hstate hroom
    · rw [heq]
      obtain heq | ⟨call', hfind, heq⟩ :=
        completeCallWithCancel_cases ((t.emplace id call).hook id bytes) id
      · rw [heq]
        exact .inserted hstate hroom
      · rw [heq]
        exact .cancelled hstate hroom hfind
  | completeInvalid number controller coroutine reason => exact .invalid
  | cancel id =>
    simp only [perform]
    split
    · obtain heq | ⟨call, hfind, heq⟩ := completeCallWithCancel_cases t id
      · rw [heq]
        exact .quiet rfl
      · rw [heq]
        exact .cancel hfind
    · exact .quiet rfl
  | resume | flush => exact .quiet rfl

theorem emplace_cases (s : RpcChannel) (id : UInt64) (call : PendingCall) :
    s.emplace id call = s ∨
      s.emplace id call = { s with pendingCalls := s.pendingCalls ++ [(id, call)] } := by
  unfold emplace
  split
  · exact .inl rfl
  · exact .inr rfl

theorem quiet_hook (s : RpcChannel) (id : UInt64) (bytes : List UInt8) :
    Quiet s (s.hook id bytes) := by
  unfold hook
  split
  · exact ⟨rfl, rfl, .of_eq rfl, rfl, rfl, .refl _, rfl⟩
  · split <;> exact ⟨rfl, rfl, .of_eq rfl, rfl, rfl, .refl _, rfl⟩

end RpcChannel

end NebulaRpc.Rpc
