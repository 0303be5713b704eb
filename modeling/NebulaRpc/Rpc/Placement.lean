import NebulaRpc.Rpc.CallFrames

/-!
# What a pending call waits for

A handler that is not on top of the stack stays where it is, and a call comes into the map together
with a handler that is still to register it. When a handler goes on, the call that it is about leaves
the map, or it is written to a connection. So a pending call always waits for something: for a handler,
or for a reply on a connection that has not been closed.
-/

namespace NebulaRpc.Rpc

open Framing

/-- The handler is about to take care of a call. -/
def ChannelFrame.concerns : ChannelFrame → Bool
  | .failEach (_ :: _) | .registered .. | .onMessage _ (_ :: _) _ => true
  | _ => false

namespace RpcChannel

variable {F : MetaFormat} {a : ChannelStep} {s s₁ s' : RpcChannel} {id : UInt64}
  {frame : ChannelFrame} {stack : List ChannelFrame}

/-- The end of `RegisterAndSend` for the id is on the stack. -/
def Unwritten (s : RpcChannel) (id : UInt64) : Prop :=
  ∃ token bytes, .registered id token bytes ∈ s.stack

/-- `OnMessage` is still to come to the frame. -/
def Ahead (s : RpcChannel) (frame : RpcFrame) : Prop :=
  ∃ conn frames error, .onMessage conn frames error ∈ s.stack ∧ frame ∈ frames

theorem keys_assign (s : RpcChannel) (id : UInt64) (token : Int) (call : PendingCall) :
    (s.assign id token call).keys = s.keys := by
  have htoken : (s.modifyPending id ({ · with cancelToken := token })).keys = s.keys :=
    keys_modifyPending _ _ _
  unfold RpcChannel.assign registerTimeoutTimer
  split
  · rw [keys_modifyPending]
    exact htoken
  · exact htoken

/-! ## Handlers are pushed -/

/-- Handlers have been pushed, and a call has come into the map only with the handler that is to
register it. -/
structure Grows (s s' : RpcChannel) : Prop where
  stack : s.stack <:+ s'.stack
  keys : ∀ id ∈ s'.keys, id ∈ s.keys ∨ s'.Unwritten id
  connection : s'.connection = s.connection
  alive : s'.alive = s.alive

theorem Unwritten.of_suffix (h : s.Unwritten id) (hstack : s.stack <:+ s'.stack) :
    s'.Unwritten id := by
  obtain ⟨token, bytes, hmem⟩ := h
  exact ⟨token, bytes, hstack.subset hmem⟩

namespace Grows

theorem of_subset (hstack : s'.stack = s.stack) (hkeys : s'.keys ⊆ s.keys)
    (hconnection : s'.connection = s.connection) (halive : s'.alive = s.alive) : Grows s s' :=
  ⟨hstack ▸ List.suffix_rfl, fun _ hid => .inl (hkeys hid), hconnection, halive⟩

theorem of_eq (hstack : s'.stack = s.stack) (hpending : s'.pendingCalls = s.pendingCalls)
    (hconnection : s'.connection = s.connection) (halive : s'.alive = s.alive) : Grows s s' := by
  refine .of_subset hstack ?_ hconnection halive
  rw [RpcChannel.keys, RpcChannel.keys, hpending]
  exact List.Subset.refl _

theorem refl (s : RpcChannel) : Grows s s := .of_eq rfl rfl rfl rfl

theorem trans (h : Grows s s₁) (h' : Grows s₁ s') : Grows s s' := by
  refine ⟨h.stack.trans h'.stack, fun id hid => ?_, h'.connection.trans h.connection,
    h'.alive.trans h.alive⟩
  obtain hid | hnew := h'.keys id hid
  · exact (h.keys id hid).imp_right (·.of_suffix h'.stack)
  · exact .inr hnew

theorem push (h : Grows s s') (frame : ChannelFrame) : Grows s (s'.push frame) :=
  h.trans ⟨List.suffix_cons _ _, fun _ hid => .inl hid, rfl, rfl⟩

theorem notify (h : Grows s s') (number : Nat) (coroutine : Bool) :
    Grows s (s'.notifyCompletion number coroutine) := by
  have hnotified : Grows s { s' with notified := number :: s'.notified } :=
    h.trans (.of_eq rfl rfl rfl rfl)
  unfold RpcChannel.notifyCompletion
  dsimp only
  split
  · exact hnotified.trans (.of_eq rfl rfl rfl rfl)
  · exact hnotified.push _

theorem erase (s : RpcChannel) (id : UInt64) (e : ChannelEnv) :
    Grows s { s.erasePending id with env := e } := by
  have hsub : (s.erasePending id).keys ⊆ s.keys := (List.filter_sublist.map _).subset
  exact .of_subset rfl hsub rfl rfl

theorem of_completes (h : Completes s s' id) : Grows s s' := by
  obtain rfl | ⟨call, e, -, rfl⟩ := h
  · exact .refl _
  · exact (Grows.erase s id e).notify _ _

theorem finish (s : RpcChannel) (id : UInt64) (call : PendingCall) (ending : Ending) :
    Grows s (s.finish id call ending) :=
  (Grows.erase s id _).notify _ _

theorem reject (s : RpcChannel) (call : PendingCall) (reason : List UInt8) (state : RpcCallState) :
    Grows s (s.reject call reason state) := by
  apply Grows.notify
  exact .of_eq rfl rfl rfl rfl

/-- A call goes into the map. -/
theorem hook (s : RpcChannel) (id : UInt64) (call : PendingCall) (bytes : List UInt8) :
    Grows s ((s.emplace id call).hook id bytes) := by
  have hregister : ∀ (e : ChannelEnv) token,
      Grows s ({ s.emplace id call with env := e }.push (.registered id token bytes)) := by
    intro e token
    obtain heq | heq := emplace_cases s id call
    · rw [heq]
      have henv : Grows s { s with env := e } := .of_eq rfl rfl rfl rfl
      exact henv.push _
    · rw [heq]
      refine ⟨List.suffix_cons _ _, fun id' hid' => ?_, rfl, rfl⟩
      simp only [RpcChannel.keys, RpcChannel.push, List.map_append, List.map_cons, List.map_nil,
        List.mem_append, List.mem_singleton] at hid'
      refine hid'.imp_right ?_
      rintro rfl
      exact ⟨token, bytes, List.mem_cons_self⟩
  unfold RpcChannel.hook
  split
  · exact hregister _ _
  · split <;> exact hregister _ _

theorem of_performed {functor : ChannelFunctor} (h : Performed s functor s') : Grows s s' := by
  cases h with
  | unavailable => exact .reject s _ _ _
  | overloaded =>
    unfold rejectOverloaded
    dsimp only
    split
    · apply Grows.push
      exact .of_eq rfl rfl rfl rfl
    · apply Grows.notify
      exact .of_eq rfl rfl rfl rfl
  | expired => exact .reject s _ _ _
  | inserted => exact .hook s _ _ _
  | cancelled => exact (Grows.hook s _ _ _).trans (.finish _ _ _ _)
  | invalid =>
    apply Grows.notify
    exact .of_eq rfl rfl rfl rfl
  | cancel => exact .finish s _ _ _
  | quiet => exact .refl s

theorem perform (s : RpcChannel) (functor : ChannelFunctor) : Grows s (s.perform functor) :=
  .of_performed (performed_perform s functor)

theorem assign (s : RpcChannel) (id : UInt64) (token : Int) (call : PendingCall) :
    Grows s (s.assign id token call) := by
  refine .of_subset ?_ (keys_assign s id token call ▸ List.Subset.refl _)
    (connection_assign s id token call).1 ?_
  all_goals
    unfold RpcChannel.assign registerTimeoutTimer
    split <;> rfl

theorem registered (s : RpcChannel) (id : UInt64) (token : Int) (bytes : List UInt8) :
    Grows s (s.registered id token bytes) := by
  have hwrite : ∀ t : RpcChannel, Grows t (t.writeRegisteredCall id bytes) := by
    intro t
    unfold writeRegisteredCall
    split
    · exact .of_eq rfl rfl rfl rfl
    · exact .of_completes (completes_completeCallWithFailure _ _ _ _)
  unfold RpcChannel.registered
  split
  · exact .refl s
  · next call _ => exact (Grows.assign s id token call).trans (hwrite _)

theorem prepare (F : MetaFormat) (s : RpcChannel) (x : CallArguments) :
    Grows s (s.prepareCall F x).2 := by
  obtain ⟨n, completions, -, hstate⟩ := prepareCall_state F s x
  rw [hstate]
  exact .of_eq rfl rfl rfl rfl

theorem onHeartbeatTimer (F : MetaFormat) (s : RpcChannel) (traceId : UInt64) :
    Grows s (s.onHeartbeatTimer F traceId) := by
  have hsend : ∀ t : RpcChannel, Grows t (t.sendHeartbeat F traceId) := by
    intro t
    unfold sendHeartbeat
    dsimp only
    split
    · exact .refl t
    · split <;> exact .of_eq rfl rfl rfl rfl
  unfold RpcChannel.onHeartbeatTimer
  split
  · exact .of_eq rfl rfl rfl rfl
  split
  · apply Grows.push
    exact .of_eq rfl rfl rfl rfl
  · apply Grows.push
    apply Grows.trans _ (hsend _)
    exact .of_eq rfl rfl rfl rfl

end Grows

/-- What a step does in which no handler goes on. -/
structure Moves (a : ChannelStep) (s s' : RpcChannel) : Prop where
  stack : s.stack <:+ s'.stack
  keys : ∀ id ∈ s'.keys, id ∈ s.keys ∨ s'.Unwritten id
  alive : s'.alive = true → s.alive = true
  connection : ∀ conn, s'.connection = some conn →
    a = .connectionUp conn ∨ s.connection = some conn ∧ ∀ order, a ≠ .connectionDown conn order

theorem Grows.moves (h : Grows s s') (ha : ∀ conn order, a ≠ .connectionDown conn order) :
    Moves a s s' :=
  ⟨h.stack, h.keys, fun halive => h.alive ▸ halive,
    fun conn hconn => .inr ⟨h.connection ▸ hconn, ha conn⟩⟩

theorem moves_connectionDown {conn : Nat} {order : List UInt64} :
    Moves (.connectionDown conn order) s (s.connectionClosed conn order) := by
  have hother : ∀ c, s.connection = some c → s.connection ≠ some conn →
      ∀ order', ChannelStep.connectionDown conn order ≠ .connectionDown c order' := by
    rintro c hc hne order' ⟨⟩
    exact hne hc
  unfold connectionClosed
  dsimp only
  split
  · split
    · exact ⟨List.suffix_rfl, fun _ hid => .inl hid, id, by simp⟩
    · exact ⟨List.suffix_cons _ _, fun _ hid => .inl hid, id, by simp [RpcChannel.push]⟩
  · next hne =>
    split
    · exact ⟨List.suffix_rfl, fun _ hid => .inl hid, id,
        fun c hc => .inr ⟨hc, hother c hc hne⟩⟩
    · exact ⟨List.suffix_cons _ _, fun _ hid => .inl hid, id,
        fun c hc => .inr ⟨hc, hother c hc hne⟩⟩

theorem moves_step (hstep : s.step F a = some s')
    (hresume : ∀ accepted index order, a ≠ .resume accepted index order) : Moves a s s' := by
  cases a with
  | resume => exact absurd rfl (hresume _ _ _)
  | connectionDown conn order =>
    simp only [step, Option.ite_none_right_eq_some, Option.some.injEq] at hstep
    obtain ⟨-, rfl⟩ := hstep
    exact moves_connectionDown
  | connectionUp conn =>
    simp only [step, Option.ite_none_right_eq_some, Option.some.injEq] at hstep
    obtain ⟨-, rfl⟩ := hstep
    refine ⟨List.suffix_rfl, fun _ hid => .inl hid, id, fun c hc => .inl ?_⟩
    obtain rfl : conn = c := Option.some.inj hc
    rfl
  | destroy =>
    simp only [step, Option.ite_none_right_eq_some, Option.some.injEq] at hstep
    obtain ⟨-, rfl⟩ := hstep
    refine ⟨List.suffix_cons _ _, fun _ hid => .inl hid, ?_, ?_⟩
    · simp [RpcChannel.destroy, RpcChannel.push]
    · simp [RpcChannel.destroy, RpcChannel.push]
  | beginCall x later =>
    simp only [step, Option.ite_none_right_eq_some, Option.some.injEq] at hstep
    obtain ⟨-, rfl⟩ := hstep
    refine Grows.moves ?_ (by simp)
    apply Grows.trans _ (.perform _ _)
    exact (Grows.prepare F s x).trans (.of_eq rfl rfl rfl rfl)
  | remoteBeginCall x =>
    simp only [step, Option.ite_none_right_eq_some, Option.some.injEq] at hstep
    obtain ⟨-, rfl⟩ := hstep
    refine Grows.moves ?_ (by simp)
    exact (Grows.prepare F s x).trans (.of_eq rfl rfl rfl rfl)
  | timer timer traceId =>
    simp only [step, Option.ite_none_right_eq_some, Option.map_eq_some_iff] at hstep
    obtain ⟨-, ⟨timer', kind⟩, -, rfl⟩ := hstep
    have hcancelled : Grows s { s with env := s.env.cancelTimer (some timer) } :=
      .of_eq rfl rfl rfl rfl
    refine Grows.moves ?_ (by simp)
    dsimp only
    split
    · cases kind with
      | timeout id => exact hcancelled.trans (.of_completes (completes_completeCallWithFailure _ _ _ _))
      | heartbeat => exact hcancelled.trans (.onHeartbeatTimer F _ _)
    · exact hcancelled
  | cancelCoroutineCall id =>
    simp only [step, Option.ite_none_right_eq_some, Option.some.injEq] at hstep
    obtain ⟨-, rfl⟩ := hstep
    refine Grows.moves ?_ (by simp)
    split
    · exact .refl s
    · exact .of_completes (completes_completeCallWithCancel _ _)
  | remoteCancelCoroutineCall id =>
    simp only [step, Option.ite_none_right_eq_some, Option.some.injEq] at hstep
    obtain ⟨-, rfl⟩ := hstep
    refine Grows.moves ?_ (by simp)
    split
    · exact .refl s
    · exact .of_eq rfl rfl rfl rfl
  | remoteClosure index =>
    simp only [step, Option.map_eq_some_iff] at hstep
    obtain ⟨id, -, rfl⟩ := hstep
    exact Grows.moves (.of_eq rfl rfl rfl rfl) (by simp)
  | startCancel c =>
    simp only [step, Option.ite_none_right_eq_some, Option.some.injEq] at hstep
    obtain ⟨-, rfl⟩ := hstep
    refine Grows.moves ?_ (by simp)
    apply Grows.push
    exact .of_eq rfl rfl rfl rfl
  | onMessage conn frames error =>
    simp only [step, Option.ite_none_right_eq_some, Option.some.injEq] at hstep
    obtain ⟨-, rfl⟩ := hstep
    exact Grows.moves ((Grows.refl s).push _) (by simp)
  | runFunctor index =>
    simp only [step, Option.ite_none_right_eq_some, Option.map_eq_some_iff] at hstep
    obtain ⟨-, functor, -, rfl⟩ := hstep
    refine Grows.moves ?_ (by simp)
    apply Grows.trans _ (.perform _ functor)
    exact .of_eq rfl rfl rfl rfl
  | drawRequestId | remoteStartCancel | resetController | setTimeout | setDeadline =>
    obtain rfl : _ = s' := Option.some.inj hstep
    exact Grows.moves (.of_eq rfl rfl rfl rfl) (by simp)
  | setFailed reason =>
    obtain ⟨_, _, _, _, -, rfl⟩ := step_setFailed hstep
    exact Grows.moves (.of_eq rfl rfl rfl rfl) (by simp)
  | callMethodWithoutDone | elapse | setDegradeHandler | setMaxPendingCalls | shutdown =>
    simp only [step, Option.ite_none_right_eq_some, Option.some.injEq] at hstep
    obtain ⟨-, rfl⟩ := hstep
    exact Grows.moves (.of_eq rfl rfl rfl rfl) (by simp)

/-! ## A handler goes on -/

/-- What the handler on top of the stack does when it goes on. -/
structure GoesOn (frame : ChannelFrame) (stack : List ChannelFrame) (s s' : RpcChannel) : Prop where
  stack : stack <:+ s'.stack
  keys : s'.keys ⊆ s.keys
  connection : s'.connection = s.connection
  alive : s'.alive = s.alive
  /-- `FailAllPending` comes to a call -/
  failEach : ∀ id ids, frame = .failEach (id :: ids) → .failEach ids ∈ s'.stack ∧ id ∉ s'.keys
  /-- a call has been registered -/
  registered : ∀ id token bytes, frame = .registered id token bytes → id ∈ s'.keys →
    ∃ conn, s.connection = some conn ∧ (conn, bytes) ∈ s'.env.written
  /-- `OnMessage` comes to a frame -/
  onMessage : ∀ conn f fs error, frame = .onMessage conn (f :: fs) error →
    .onMessage conn fs error ∈ s'.stack ∧
      (f.rpcMeta.type ≠ .heartbeat → f.rpcMeta.requestId ∉ s'.keys)

/-- A handler that is about nothing of that. -/
theorem GoesOn.other (hconcerns : frame.concerns = false) (hgrows : Grows { s with stack := stack } s')
    (hkeys : s'.keys ⊆ s.keys) : GoesOn frame stack s s' where
  stack := hgrows.stack
  keys := hkeys
  connection := hgrows.connection
  alive := hgrows.alive
  failEach := by
    rintro id ids rfl
    cases hconcerns
  registered := by
    rintro id token bytes rfl
    cases hconcerns
  onMessage := by
    rintro conn f fs error rfl
    cases hconcerns

theorem keys_notifyCompletion (s : RpcChannel) (number : Nat) (coroutine : Bool) :
    (s.notifyCompletion number coroutine).keys = s.keys := by
  unfold RpcChannel.notifyCompletion
  dsimp only
  split <;> rfl

theorem keys_of_completes (h : Completes s s' id) : s'.keys ⊆ s.keys := by
  obtain rfl | ⟨call, e, -, rfl⟩ := h
  · exact List.Subset.refl _
  · rw [keys_notifyCompletion]
    exact (List.filter_sublist.map _).subset

theorem not_mem_keys_erasePending (s : RpcChannel) (id : UInt64) : id ∉ (s.erasePending id).keys := by
  simp [keys, erasePending]

/-- With only open calls in the map, a call that cannot be completed is not there. -/
theorem Opened.not_mem_keys (h : Opened s) (hnone : s.tryComplete id = none) : id ∉ s.keys := by
  intro hmem
  obtain ⟨call, hfind⟩ := exists_findPending hmem
  obtain ⟨-, hcalls⟩ | ⟨call', -, -, hsome⟩ := s.tryComplete_cases id
  · exact hcalls call hfind (h.pending _ (find_eq_some hfind))
  · cases hsome.symm.trans hnone

theorem Opened.not_mem_keys_frame (h : Opened s) (id : UInt64) (frame : RpcFrame) :
    id ∉ (s.completeCallWithFrame id frame).keys := by
  unfold completeCallWithFrame
  split
  · next hnone => exact h.not_mem_keys hnone
  · next hsome =>
    obtain ⟨-, rfl⟩ := tryComplete_eq_some hsome
    rw [keys_notifyCompletion]
    exact not_mem_keys_erasePending s id

theorem Opened.not_mem_keys_failure (h : Opened s) (id : UInt64) (reason : List UInt8)
    (state : RpcCallState) : id ∉ (s.completeCallWithFailure id reason state).keys := by
  unfold completeCallWithFailure
  split
  · next hnone => exact h.not_mem_keys hnone
  · next hsome =>
    obtain ⟨-, rfl⟩ := tryComplete_eq_some hsome
    rw [keys_notifyCompletion]
    exact not_mem_keys_erasePending s id

/-- The end of `RegisterAndSend` writes the request, or the call leaves the map. -/
theorem registered_spec (h : Opened s) (id : UInt64) (token : Int) (bytes : List UInt8) :
    (s.registered id token bytes).keys ⊆ s.keys ∧ (id ∈ (s.registered id token bytes).keys →
      ∃ conn, s.connection = some conn ∧ (conn, bytes) ∈ (s.registered id token bytes).env.written) := by
  unfold RpcChannel.registered
  split
  · next hnone =>
    refine ⟨List.Subset.refl _, fun hid => ?_⟩
    obtain ⟨call, hfind⟩ := exists_findPending hid
    cases hfind.symm.trans hnone
  · next call hfind =>
    have hassign : Opened (s.assign id token call) := by
      have htoken : Opened (s.modifyPending id ({ · with cancelToken := token })) :=
        h.modify id fun _ => rfl
      unfold assign registerTimeoutTimer
      split
      · refine Opened.modify ?_ id fun _ => rfl
        exact htoken.of_eq rfl rfl
      · exact htoken
    have hconnection := (connection_assign s id token call).1
    change ((s.assign id token call).writeRegisteredCall id bytes).keys ⊆ s.keys ∧ (id ∈
      ((s.assign id token call).writeRegisteredCall id bytes).keys → ∃ conn, s.connection = some conn ∧
        (conn, bytes) ∈ ((s.assign id token call).writeRegisteredCall id bytes).env.written)
    rw [← keys_assign s id token call, ← hconnection]
    unfold writeRegisteredCall
    split
    · next conn hconn hup =>
      exact ⟨List.Subset.refl _, fun _ => ⟨conn, hconn, by simp⟩⟩
    · exact ⟨keys_of_completes (completes_completeCallWithFailure _ _ _ _),
        fun hid => absurd hid (hassign.not_mem_keys_failure _ _ _)⟩

theorem goesOn_endOfFrames {conn : Nat} {error : Option String} {order : List UInt64} :
    GoesOn (.onMessage conn [] error) stack s
      ({ s with stack := stack }.endOfFrames conn order error) := by
  cases error with
  | none => exact .other rfl (.of_eq rfl rfl rfl rfl) (List.Subset.refl _)
  | some error =>
    refine .other rfl (Grows.push (Grows.push ?_ _) _) (List.Subset.refl _)
    exact .of_eq rfl rfl rfl rfl

/-- `FailAllPendingNow` comes to a call, or it returns. -/
theorem goesOn_failAllPendingNow (h : Opened s) {index : Nat}
    (hstack : s.stack = .failAllPendingNow :: stack)
    (hstep : (match s.keys[index % s.keys.length]? with
      | none => some { s with stack := stack, destroyed := true }
      | some id => some (s.failPendingNow id (octets "RPC channel closed"))) = some s') :
    GoesOn .failAllPendingNow stack s s' := by
  split at hstep
  · cases hstep
    exact .other rfl (.of_eq rfl rfl rfl rfl) (List.Subset.refl _)
  · next id _ =>
    cases hstep
    have hcompletes := completes_failPendingNow h id (octets "RPC channel closed")
    have hgrows := Grows.of_completes hcompletes
    have hkept := hstack ▸ hgrows.stack
    exact ⟨(List.suffix_cons _ _).trans hkept, keys_of_completes hcompletes, hgrows.connection,
      hgrows.alive, by simp, by simp, by simp⟩

theorem goesOn_resume (h : Opened s) {accepted : Bool} {index : Nat} {order : List UInt64}
    (hstep : s.resume accepted index order = some s') :
    ∃ frame stack, s.stack = frame :: stack ∧ GoesOn frame stack s s' := by
  unfold resume at hstep
  split at hstep
  · cases hstep
  · next hstack =>
    cases hstep
    exact ⟨_, _, hstack, .other rfl (.refl _) (List.Subset.refl _)⟩
  · next hstack =>
    cases hstep
    exact ⟨_, _, hstack, .other rfl (.refl _) (List.Subset.refl _)⟩
  · next id call reason stack hstack =>
    cases hstep
    refine ⟨_, _, hstack, .other rfl ?_ ?_⟩
    · apply Grows.notify
      exact .of_eq rfl rfl rfl rfl
    · unfold RpcChannel.degraded
      rw [keys_notifyCompletion]
      exact List.Subset.refl _
  · next id token bytes stack hstack =>
    cases hstep
    have hgrows := Grows.registered { s with stack := stack } id token bytes
    obtain ⟨hkeys, hwritten⟩ :=
      registered_spec (s := { s with stack := stack }) (h.of_eq rfl rfl) id token bytes
    refine ⟨_, _, hstack, hgrows.stack, hkeys, hgrows.connection, hgrows.alive, by simp,
      ?_, by simp⟩
    rintro _ _ _ ⟨⟩
    exact hwritten
  · next hstack =>
    cases hstep
    exact ⟨_, _, hstack, .other rfl (.refl _) (List.Subset.refl _)⟩
  · next hstack =>
    cases hstep
    exact ⟨_, _, hstack, .other rfl (.refl _) (List.Subset.refl _)⟩
  · next id ids stack hstack =>
    cases hstep
    have hpush := (Grows.refl { s with stack := stack }).push (.startCancel ids)
    have hcompletes := completes_completeCallWithCancel { s with stack := .startCancel ids :: stack } id
    have hkeys := keys_of_completes hcompletes
    dsimp only
    split
    · exact ⟨_, _, hstack, .other rfl (hpush.trans (.of_completes hcompletes)) hkeys⟩
    · exact ⟨_, _, hstack, .other rfl hpush (List.Subset.refl _)⟩
  · next id ids stack hstack =>
    cases hstep
    have hcompletes := completes_completeCallWithFailure { s with stack := .failEach ids :: stack } id
      s.connectionError .failed
    have hkeys := keys_of_completes hcompletes
    have hgrows := Grows.of_completes hcompletes
    refine ⟨_, _, hstack, (List.suffix_cons _ _).trans hgrows.stack, hkeys, hgrows.connection,
      hgrows.alive, ?_, by simp, by simp⟩
    rintro _ _ ⟨⟩
    refine ⟨hgrows.stack.subset List.mem_cons_self, Opened.not_mem_keys_failure ?_ _ _ _⟩
    exact h.of_eq rfl rfl
  · next conn frame frames error stack hstack =>
    cases hstep
    have hhandle : Grows { s with stack := .onMessage conn frames error :: stack }
        ({ s with stack := .onMessage conn frames error :: stack }.handleFrame frame) ∧
      ({ s with stack := .onMessage conn frames error :: stack }.handleFrame frame).keys ⊆ s.keys ∧
        (frame.rpcMeta.type ≠ .heartbeat → frame.rpcMeta.requestId ∉
          ({ s with stack := .onMessage conn frames error :: stack }.handleFrame frame).keys) := by
      unfold handleFrame
      split
      · next htype =>
        exact ⟨.of_eq rfl rfl rfl rfl, List.Subset.refl _, fun hne => absurd htype hne⟩
      · have hcompletes := completes_completeCallWithFrame
          { s with stack := .onMessage conn frames error :: stack } frame.rpcMeta.requestId frame
        have hkeys := keys_of_completes hcompletes
        refine ⟨.of_completes hcompletes, hkeys, fun _ => Opened.not_mem_keys_frame ?_ _ _⟩
        exact h.of_eq rfl rfl
    obtain ⟨hgrows, hkeys, hanswered⟩ := hhandle
    refine ⟨_, _, hstack, (List.suffix_cons _ _).trans hgrows.stack, hkeys, hgrows.connection,
      hgrows.alive, by simp, by simp, ?_⟩
    rintro _ _ _ _ ⟨⟩
    exact ⟨hgrows.stack.subset List.mem_cons_self, hanswered⟩
  · next hstack =>
    split at hstep
    · cases hstep
      exact ⟨_, _, hstack, goesOn_endOfFrames⟩
    · cases hstep
  · next hstack =>
    cases hstep
    exact ⟨_, _, hstack, .other rfl (.of_eq rfl rfl rfl rfl) (List.Subset.refl _)⟩
  · next hstack => exact ⟨_, _, hstack, goesOn_failAllPendingNow h hstack hstep⟩

/-! ## Pending calls -/

/-- The only places of a pending call: `FailAllPending` is still to come to it, its registration is on
the stack, or its request has been written to a connection that is `live`. -/
def Placed (F : MetaFormat) (live : Nat → Prop) (s : RpcChannel) : Prop :=
  s.alive = true → ∀ id ∈ s.keys, s.Doomed id ∨ s.Unwritten id ∨
    ∃ conn bytes, live conn ∧ (conn, bytes) ∈ s.env.written ∧ Requests F id bytes

/-- A frame with the id of a pending call is still ahead; the frames of a run so far are those with
`R`. -/
def Settled (R : RpcFrame → Prop) (s : RpcChannel) : Prop :=
  ∀ frame, R frame → frame.rpcMeta.type ≠ .heartbeat →
    s.Ahead frame ∨ frame.rpcMeta.requestId ∉ s.keys

theorem resume_or_moves (h : Opened s) (hstep : s.step F a = some s') :
    (∃ frame stack, s.stack = frame :: stack ∧ GoesOn frame stack s s' ∧
      (∃ accepted index order, a = .resume accepted index order)) ∨ Moves a s s' := by
  cases a with
  | resume accepted index order =>
    obtain ⟨frame, stack, hstack, hgoes⟩ := goesOn_resume h hstep
    exact .inl ⟨frame, stack, hstack, hgoes, _, _, _, rfl⟩
  | _ => exact .inr (moves_step hstep (by simp))

theorem connectionState_connectionClosed (s : RpcChannel) (conn : Nat) (order : List UInt64) :
    (s.connectionClosed conn order).connectionState ≠ .connected := by
  unfold connectionClosed
  dsimp only
  split
  · split
    · next hstate => exact fun h => absurd (hstate.symm.trans h) (by decide)
    · simp [RpcChannel.push]
  · split
    · next hstate => exact fun h => absurd (hstate.symm.trans h) (by decide)
    · simp [RpcChannel.push]

theorem Placed.step {live live' : Nat → Prop} (h : Placed F live s) (hopened : Opened s)
    (hframed : Framed F s) (hgoverned : Governed s')
    (hattached : ∀ conn, s.connection = some conn → live conn)
    (hlive : ∀ conn, live conn → (∀ order, a ≠ .connectionDown conn order) → live' conn)
    (hwritten : s.env.written <+: s'.env.written) (hstep : s.step F a = some s') :
    Placed F live' s' := by
  intro halive id hid
  by_cases hdown : ∃ conn order, a = .connectionDown conn order
  · obtain ⟨conn, order, rfl⟩ := hdown
    simp only [RpcChannel.step, Option.ite_none_right_eq_some, Option.some.injEq] at hstep
    obtain ⟨-, rfl⟩ := hstep
    exact .inl (hgoverned.covered halive (connectionState_connectionClosed _ _ _) id hid)
  have hkept : ∀ conn, live conn → live' conn := fun conn hconn =>
    hlive conn hconn fun order ha => hdown ⟨conn, order, ha⟩
  obtain ⟨frame, stack, hstack, hgoes, -⟩ | hmoves := resume_or_moves hopened hstep
  · obtain ⟨ids, hmem, hids⟩ | ⟨token, bytes, hmem⟩ | ⟨conn, bytes, hconn, hw, hrequests⟩ :=
      h (hgoes.alive ▸ halive) id (hgoes.keys hid)
    · rw [hstack] at hmem
      obtain heq | hmem := List.mem_cons.mp hmem
      · cases ids with
        | nil => cases hids
        | cons id' ids =>
          obtain ⟨hfailing, hgone⟩ := hgoes.failEach id' ids heq.symm
          obtain rfl | hids := List.mem_cons.mp hids
          · exact absurd hid hgone
          · exact .inl ⟨ids, hfailing, hids⟩
      · exact .inl ⟨ids, hgoes.stack.subset hmem, hids⟩
    · have hrequests := hframed.waiting id token bytes hmem
      rw [hstack] at hmem
      obtain heq | hmem := List.mem_cons.mp hmem
      · obtain ⟨conn, hconn, hw⟩ := hgoes.registered id token bytes heq.symm hid
        exact .inr (.inr ⟨conn, bytes, hkept conn (hattached conn hconn), hw, hrequests⟩)
      · exact .inr (.inl ⟨token, bytes, hgoes.stack.subset hmem⟩)
    · exact .inr (.inr ⟨conn, bytes, hkept conn hconn, hwritten.subset hw, hrequests⟩)
  · obtain hold | hnew := hmoves.keys id hid
    · obtain ⟨ids, hmem, hids⟩ | hunwritten | ⟨conn, bytes, hconn, hw, hrequests⟩ :=
        h (hmoves.alive halive) id hold
      · exact .inl ⟨ids, hmoves.stack.subset hmem, hids⟩
      · exact .inr (.inl (hunwritten.of_suffix hmoves.stack))
      · exact .inr (.inr ⟨conn, bytes, hkept conn hconn, hwritten.subset hw, hrequests⟩)
    · exact .inr (.inl hnew)

/-- Frames come in through `OnMessage`, and no call that is not yet written has the id of one. -/
theorem Settled.step {R R' : RpcFrame → Prop} (h : Settled R s) (hopened : Opened s)
    (hreceived : ∀ frame, R' frame → R frame ∨
      ∃ conn frames error, a = .onMessage conn frames error ∧ frame ∈ frames)
    (hunsent : ∀ frame, R' frame → frame.rpcMeta.type ≠ .heartbeat →
      frame.rpcMeta.requestId ∉ s'.unsentKeys)
    (hstep : s.step F a = some s') : Settled R' s' := by
  intro frame hframe htype
  obtain hold | ⟨conn, frames, error, rfl, hmem⟩ := hreceived frame hframe
  · obtain ⟨top, stack, hstack, hgoes, -⟩ | hmoves := resume_or_moves hopened hstep
    · obtain ⟨conn, frames, error, hmem, hin⟩ | hgone := h frame hold htype
      · rw [hstack] at hmem
        obtain heq | hmem := List.mem_cons.mp hmem
        · cases frames with
          | nil => cases hin
          | cons f frames =>
            obtain ⟨hkept, hgone⟩ := hgoes.onMessage conn f frames error heq.symm
            obtain rfl | hin := List.mem_cons.mp hin
            · exact .inr (hgone htype)
            · exact .inl ⟨conn, frames, error, hkept, hin⟩
        · exact .inl ⟨conn, frames, error, hgoes.stack.subset hmem, hin⟩
      · exact .inr fun hid => hgone (hgoes.keys hid)
    · obtain ⟨conn, frames, error, hmem, hin⟩ | hgone := h frame hold htype
      · exact .inl ⟨conn, frames, error, hmoves.stack.subset hmem, hin⟩
      · refine .inr fun hid => ?_
        obtain hid | ⟨token, bytes, hmem⟩ := hmoves.keys _ hid
        · exact hgone hid
        · exact hunsent frame hframe htype
            (List.mem_append_right _ (List.mem_filterMap.mpr ⟨_, hmem, rfl⟩))
  · simp only [RpcChannel.step, Option.ite_none_right_eq_some, Option.some.injEq] at hstep
    obtain ⟨-, rfl⟩ := hstep
    exact .inl ⟨conn, frames, error, List.mem_cons_self, hmem⟩

end RpcChannel

end NebulaRpc.Rpc
