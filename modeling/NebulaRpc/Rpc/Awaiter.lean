import NebulaRpc.Rpc.Outcome

/-!
# Coroutine calls

`RpcAwaiter` hands out the response or throws, `RpcResultAwaiter` hands out an `RpcResult`. Both
have a controller of their own, start the same call, and look at it when they are resumed. A
response that nothing was parsed into is `none`.
-/

namespace NebulaRpc.Rpc

/-- `RpcError`, what `RpcAwaiter` throws. -/
structure RpcError where
  state : RpcCallState
  message : List UInt8

structure RpcResult where
  response : Option (List UInt8)
  state : RpcCallState
  errorText : List UInt8
  cancelled : Bool
  requestId : UInt64
  traceId : UInt64
  latency : Int
  remoteErrorCode : Int32

def RpcResult.ok (r : RpcResult) : Bool := r.state = .completed && !r.cancelled && r.errorText.isEmpty

theorem RpcResult.ok_iff (r : RpcResult) :
    r.ok = true ↔ r.state = .completed ∧ r.cancelled = false ∧ r.errorText = [] := by
  simp [ok, and_assoc]

/-- `RpcAwaiter::await_resume`, of the call `k` with the controller `c`. -/
def RpcAwaiter.awaitResume (e : ChannelEnv) (c k : Nat) : Except RpcError (Option (List UInt8)) :=
  let controller := e.controllers c
  let state := controller.callState
  if state = .cancelled then .error ⟨state, octets "RPC cancelled"⟩
  else if state = .timeout ∨ state = .failed ∨ state = .invalid then
    .error ⟨state, controller.errorText⟩
  else if controller.failed then .error ⟨.failed, controller.errorText⟩
  else .ok (e.responses k)

/-- `RpcResultAwaiter::await_resume`. -/
def RpcResultAwaiter.awaitResume (e : ChannelEnv) (c k : Nat) : RpcResult :=
  let controller := e.controllers c
  let completion := e.completions k
  { response := e.responses k
    state := controller.callState
    errorText := controller.errorText
    cancelled := controller.canceled
    requestId := completion.requestId
    traceId := completion.traceId
    latency := completion.latency
    remoteErrorCode := completion.remoteErrorCode }

/-! ## What the awaiters look at -/

section Report

variable {e : ChannelEnv} {c k : Nat}

theorem RpcAwaiter.awaitResume_eq_ok_iff {response : Option (List UInt8)} :
    awaitResume e c k = .ok response ↔
      ((e.report c k).callState = .pending ∨ (e.report c k).callState = .completed) ∧
        (e.report c k).failed = false ∧ (e.report c k).response = response := by
  simp only [awaitResume, ChannelEnv.report, RpcController.report]
  cases (e.controllers c).callState <;> cases (e.controllers c).failed <;> simp

theorem RpcResultAwaiter.ok_awaitResume_iff :
    (awaitResume e c k).ok = true ↔
      (e.report c k).callState = .completed ∧ (e.report c k).canceled = false ∧
        (e.report c k).errorText = [] :=
  RpcResult.ok_iff _

end Report

/-- A call has succeeded for both awaiters or for none of them, unless it was refused without a
text. -/
theorem Outcome.agree {T : Tracking} {r : CallReport} (h : Outcome T r) (hblank : ¬T.blank) :
    ((r.callState = .pending ∨ r.callState = .completed) ∧ r.failed = false ↔
      r.callState = .completed ∧ r.canceled = false ∧ r.errorText = []) ∧
    (r.callState = .completed ∧ r.canceled = false ∧ r.errorText = [] →
      (∃ frame : RpcFrame, T.received frame ∧ frame.rpcMeta.type = .response ∧
        frame.rpcMeta.requestId = T.id ∧ T.parses frame.payload = true ∧
        r.response = some frame.payload) ∨ T.accepted) := by
  cases h with
  | responded hreceived htype hid hparses =>
    exact ⟨by simp, fun _ => .inl ⟨_, hreceived, htype, hid, hparses, rfl⟩⟩
  | refused hempty =>
    have hne := mt hempty hblank
    simp [hne]
  | cancelled => simp
  | failed hstate => rcases hstate with rfl | rfl | rfl <;> simp
  | degraded haccepted => exact ⟨by simp, fun _ => .inr haccepted⟩

namespace RpcChannel

/-- The step hands an ERROR frame without a text to the pending call `k`. -/
def RefusesBlankly (k : Nat) (s : RpcChannel) : ChannelStep → Prop
  | .resume .. =>
    match s.stack with
    | .onMessage _ (frame :: _) _ :: _ =>
      frame.rpcMeta.type = .error ∧ frame.rpcMeta.errorText = [] ∧
        ∃ call ∈ s.findPending frame.rpcMeta.requestId, call.number = k
    | _ => False
  | _ => False

/-- The step is the return of the degrade handler, which has completed the call `k`. -/
def AcceptsDegraded (k : Nat) (s : RpcChannel) : ChannelStep → Prop
  | .resume true _ _ =>
    match s.stack with
    | .degrade _ call _ :: _ => call.number = k
    | _ => False
  | _ => False

/-- It has filled the response, and not failed the controller `c`. -/
def FillsDegraded (c k : Nat) (s : RpcChannel) (a : ChannelStep) : Prop :=
  AcceptsDegraded k s a ∧ (s.env.controllers c).failed = false

/-- It has failed the controller `c` without a text. -/
def FailsBlankly (c k : Nat) (s : RpcChannel) (a : ChannelStep) : Prop :=
  AcceptsDegraded k s a ∧ (s.env.controllers c).failed = true ∧ (s.env.controllers c).errorText = []

/-- The response was parsed from a RESPONSE frame with the id of the call, or the degrade handler
has filled it. -/
def Filled (F : MetaFormat) (s s₁ : RpcChannel) (before after : List ChannelStep)
    (x : CallArguments) (c : Nat) (response : Option (List UInt8)) : Prop :=
  (∃ payload, response = some payload ∧
    RespondedWith (before ++ after) x (UInt64.ofNat s.nextRequestId) payload) ∨
  ∃ s' a, Transition.Takes (step F) s₁ after s' a ∧ FillsDegraded c s.begun s' a

/-- A call is begun with a controller of its own, and neither an ERROR frame without a text nor a
degrade handler that fails it without a text ends it. In every state in which it has been notified
the two awaiters agree on whether it has succeeded, and if it has, its response has been filled. -/
theorem awaiters_agree (F : MetaFormat) (nextRequestId : Nat) (e : ChannelEnv)
    (before after : List ChannelStep) (begin : ChannelStep) (x : CallArguments) (c : Nat)
    (s s₁ s₂ : RpcChannel) (hbefore : (start nextRequestId e).run F before = some s)
    (hbegin : s.step F begin = some s₁) (harguments : begin.arguments = some x)
    (hcontroller : x.controller = some c) (hclear : (s.env.controllers c).Clear)
    (hunused : s.holders c = 0)
    (hmeets : Transition.Meets (step F)
      (fun s' a => SparesController c a ∧ ¬RefusesBlankly s.begun s' a ∧ ¬FailsBlankly c s.begun s' a)
      s₁ after)
    (hafter : s₁.run F after = some s₂) (hnotified : s.begun ∈ s₂.notified) :
    let returned := RpcAwaiter.awaitResume s₂.env c s.begun
    let result := RpcResultAwaiter.awaitResume s₂.env c s.begun
    ((∃ response, returned = .ok response) ↔ result.ok = true) ∧
    (∀ response, returned = .ok response → Filled F s s₁ before after x c response) ∧
    (result.ok = true → Filled F s s₁ before after x c result.response) := by
  let T : Tracking :=
    { number := s.begun
      controller := c
      id := UInt64.ofNat s.nextRequestId
      parses := x.response.getD fun _ => false
      response := s.env.responses s.begun
      received := Received (before ++ after)
      asked := True
      accepted := ∃ s' a, Transition.Takes (step F) s₁ after s' a ∧ FillsDegraded c s.begun s' a
      blank := False
      live := True }
  have hend : Tracked T (Outcome T) s₂ := by
    apply Tracked.of_begin rfl rfl rfl rfl rfl trivial hbefore hbegin harguments hcontroller hclear
      hunused (fun _ => trivial) _ hafter
    apply hmeets.takes
    rintro s' a ⟨hspares, hblank, hfails⟩ htakes hreceived
    refine ⟨hspares.arguments, hspares.reset, hspares.withoutDone, fun _ => trivial, hreceived,
      ?_, ?_, ?_⟩
    · rintro - index order id call reason stack rfl hstack hnumber hfailed
      refine ⟨s', _, htakes, ?_, hfailed⟩
      simpa [AcceptsDegraded, hstack] using hnumber
    · rintro - index order id call reason stack rfl hstack hnumber hfailed htext
      refine hfails ⟨?_, hfailed, htext⟩
      simpa [AcceptsDegraded, hstack] using hnumber
    · rintro accepted index order conn frame frames error stack call rfl hstack hfind hnumber htype
        htext
      apply hblank
      simp only [RefusesBlankly, hstack]
      exact ⟨htype, htext, call, hfind, hnumber⟩
  obtain ⟨-, hnot, -⟩ | ⟨-, -, houtcome⟩ := hend.outcome
  · exact absurd hnotified hnot
  replace houtcome : Outcome T (s₂.env.report c s.begun) := houtcome
  obtain ⟨hagree, hfilled⟩ := houtcome.agree id
  have hfill : ∀ response, (s₂.env.report c s.begun).response = response →
      (s₂.env.report c s.begun).callState = .completed ∧
        (s₂.env.report c s.begun).canceled = false ∧ (s₂.env.report c s.begun).errorText = [] →
      Filled F s s₁ before after x c response := by
    rintro response rfl hok
    refine (hfilled hok).imp ?_ id
    rintro ⟨frame, hreceived, htype, hid, hparses, hresponse⟩
    exact ⟨frame.payload, hresponse, frame, hreceived, htype, hid, rfl, exists_parses hparses⟩
  simp only [RpcAwaiter.awaitResume_eq_ok_iff, RpcResultAwaiter.ok_awaitResume_iff]
  refine ⟨?_, ?_, ?_⟩
  · rw [← hagree]
    constructor
    · rintro ⟨response, hstate, hfailed, -⟩
      exact ⟨hstate, hfailed⟩
    · rintro ⟨hstate, hfailed⟩
      exact ⟨_, hstate, hfailed, rfl⟩
  · rintro response ⟨hstate, hfailed, hresponse⟩
    exact hfill response hresponse (hagree.mp ⟨hstate, hfailed⟩)
  · exact hfill _ rfl

/-- A coroutine call with the controller `0`. -/
def ownCoroutineCall : CallArguments := { ownCall with coroutine := true }

theorem awaiters_agree_answered :
    ∃ s₂, (start 1 {}).run wireFormat
        [.connectionUp 0, .beginCall ownCoroutineCall 0, .resume false 0 [],
          .onMessage 0 [{ rpcMeta := { type := .response, requestId := 1 } }] none,
          .resume false 0 []] = some s₂ ∧ 0 ∈ s₂.notified ∧
      (RpcResultAwaiter.awaitResume s₂.env 0 0).ok = true ∧
      ∃ response, RpcAwaiter.awaitResume s₂.env 0 0 = .ok response := by
  refine ⟨_, rfl, by decide, by decide, ?_⟩
  refine (awaiters_agree wireFormat 1 {} [.connectionUp 0]
    [.resume false 0 [], .onMessage 0 [{ rpcMeta := { type := .response, requestId := 1 } }] none,
      .resume false 0 []] (.beginCall ownCoroutineCall 0) ownCoroutineCall 0 _ _ _ rfl rfl rfl rfl
    ⟨rfl, rfl, rfl, rfl⟩ rfl ?_ rfl (by decide)).1.mpr (by decide)
  -- the frame that the call gets is no ERROR frame
  have hspares : ∀ a : ChannelStep, a.arguments = none → (∀ c, a ≠ .resetController c) →
      (∀ c, a ≠ .callMethodWithoutDone c) → SparesController 0 a := by
    intro a harguments hreset hdone
    exact ⟨by simp [harguments], hreset _, hdone _⟩
  refine ⟨⟨hspares _ rfl (by simp) (by simp), id, And.left⟩, ?_⟩
  rintro s₁ ⟨⟩
  refine ⟨⟨hspares _ rfl (by simp) (by simp), id, And.left⟩, ?_⟩
  rintro s₂ ⟨⟩
  refine ⟨⟨hspares _ rfl (by simp) (by simp), ?_, And.left⟩, ?_⟩
  · rintro ⟨⟨⟩, -⟩
  · exact fun _ _ => trivial

/-- The server refuses the call without a text. One awaiter throws, and for the other one the call
has succeeded. -/
theorem blank_refusal_ok :
    ∃ s₂, (start 1 {}).run wireFormat
        [.connectionUp 0, .beginCall ownCoroutineCall 0, .resume false 0 [],
          .onMessage 0 [{ rpcMeta := { type := .error, requestId := 1, errorCode := 500 } }] none,
          .resume false 0 []] = some s₂ ∧ 0 ∈ s₂.notified ∧
      (∃ error, RpcAwaiter.awaitResume s₂.env 0 0 = .error error) ∧
      (RpcResultAwaiter.awaitResume s₂.env 0 0).ok = true ∧
      ¬((∃ response, RpcAwaiter.awaitResume s₂.env 0 0 = .ok response) ↔
        (RpcResultAwaiter.awaitResume s₂.env 0 0).ok = true) := by
  refine ⟨_, rfl, by decide, ⟨_, rfl⟩, by decide, ?_⟩
  rintro ⟨-, hok⟩
  obtain ⟨response, hreturned⟩ := hok (by decide)
  cases hreturned

-- a degrade handler fails the second call without a text and returns `true`
example :
    ((start 1 {}).run wireFormat
        [.setMaxPendingCalls 1, .setDegradeHandler true, .connectionUp 0, .beginCall emptyCall 0,
          .resume false 0 [], .beginCall ownCoroutineCall 0, .setFailed [],
          .resume true 0 []]).map
      (fun s => (s.notified, (RpcResultAwaiter.awaitResume s.env 0 1).ok,
        (RpcAwaiter.awaitResume s.env 0 1).toBool)) = some ([1], true, false) := by decide +kernel

end RpcChannel

end NebulaRpc.Rpc
