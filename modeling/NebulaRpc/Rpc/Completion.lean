import NebulaRpc.Rpc.Census
import NebulaRpc.Rpc.WireFormat

/-!
# Every call is notified once

The steps of the channel keep every call in its place, so along every run a call is notified at most
once, and once the destructor has returned it has been notified. Handlers that wait come to their
end, the destructor among them.
-/

namespace NebulaRpc.Rpc

/-- How often the handler goes on, and its call is notified. -/
def ChannelFrame.weight : ChannelFrame → Nat
  | .degrade .. => 2
  | .startCancel ids | .failEach ids => ids.length + 1
  | .onMessage _ frames _ => frames.length + 1
  | _ => 1

def ChannelFrame.isOnMessage : ChannelFrame → Bool
  | .onMessage .. => true
  | _ => false

namespace RpcChannel

variable {s s' : RpcChannel}

/-! ## Request ids are drawn in order -/

@[simp]
theorem nextRequestId_notifyCompletion (s : RpcChannel) (number : Nat) (coroutine : Bool) :
    (s.notifyCompletion number coroutine).nextRequestId = s.nextRequestId := by
  unfold notifyCompletion
  dsimp only
  split <;> rfl

theorem notified_notifyCompletion (s : RpcChannel) (number : Nat) (coroutine : Bool) :
    (s.notifyCompletion number coroutine).notified = number :: s.notified := by
  unfold notifyCompletion
  split <;> rfl

theorem env_notifyCompletion (s : RpcChannel) (number : Nat) (coroutine : Bool) :
    (s.notifyCompletion number coroutine).env = s.env := by
  unfold notifyCompletion
  dsimp only
  split <;> rfl

theorem nextRequestId_of_completes {requestId : UInt64} (h : Completes s s' requestId) :
    s'.nextRequestId = s.nextRequestId := by
  obtain rfl | ⟨call, e, -, rfl⟩ := h
  · rfl
  · exact nextRequestId_notifyCompletion _ _ _

@[simp]
theorem nextRequestId_completeCallWithFrame (s : RpcChannel) (requestId : UInt64)
    (frame : RpcFrame) :
    (s.completeCallWithFrame requestId frame).nextRequestId = s.nextRequestId :=
  nextRequestId_of_completes (completes_completeCallWithFrame s requestId frame)

@[simp]
theorem nextRequestId_completeCallWithFailure (s : RpcChannel) (requestId : UInt64)
    (reason : List UInt8) (state : RpcCallState) :
    (s.completeCallWithFailure requestId reason state).nextRequestId = s.nextRequestId :=
  nextRequestId_of_completes (completes_completeCallWithFailure s requestId reason state)

@[simp]
theorem nextRequestId_completeCallWithCancel (s : RpcChannel) (requestId : UInt64) :
    (s.completeCallWithCancel requestId).nextRequestId = s.nextRequestId :=
  nextRequestId_of_completes (completes_completeCallWithCancel s requestId)

@[simp]
theorem nextRequestId_failPendingNow (s : RpcChannel) (requestId : UInt64) (reason : List UInt8) :
    (s.failPendingNow requestId reason).nextRequestId = s.nextRequestId := by
  unfold failPendingNow takePendingCall
  cases s.findPending requestId with
  | none => rfl
  | some call =>
    dsimp only [Option.map_some]
    split
    · exact nextRequestId_notifyCompletion _ _ _
    · rfl

@[simp]
theorem nextRequestId_registerAndSend (s : RpcChannel) (requestId : UInt64) (bytes : List UInt8)
    (call : PendingCall) :
    (s.registerAndSend requestId bytes call).nextRequestId = s.nextRequestId := by
  have hemplace : (s.emplace requestId call).nextRequestId = s.nextRequestId := by
    unfold emplace
    split <;> rfl
  unfold registerAndSend
  split
  · exact nextRequestId_notifyCompletion _ _ _
  split
  · unfold rejectOverloaded
    dsimp only
    split
    · rfl
    · exact nextRequestId_notifyCompletion _ _ _
  split
  · exact nextRequestId_notifyCompletion _ _ _
  · rw [← hemplace]
    unfold registerCancelCallback
    split
    · rfl
    · dsimp only
      split
      · split
        · exact nextRequestId_completeCallWithCancel _ _
        · rfl
      · rfl

@[simp]
theorem nextRequestId_perform (s : RpcChannel) (functor : ChannelFunctor) :
    (s.perform functor).nextRequestId = s.nextRequestId := by
  cases functor with
  | registerAndSend => exact nextRequestId_registerAndSend _ _ _ _
  | completeInvalid => exact nextRequestId_notifyCompletion _ _ _
  | cancel =>
    simp only [RpcChannel.perform]
    split
    · exact nextRequestId_completeCallWithCancel _ _
    · rfl
  | resume => rfl
  | flush => rfl

@[simp]
theorem nextRequestId_registered (s : RpcChannel) (requestId : UInt64) (token : Int)
    (bytes : List UInt8) :
    (s.registered requestId token bytes).nextRequestId = s.nextRequestId := by
  have hwrite : ∀ s : RpcChannel,
      (s.writeRegisteredCall requestId bytes).nextRequestId = s.nextRequestId := by
    intro s
    unfold writeRegisteredCall
    split
    · rfl
    · exact nextRequestId_completeCallWithFailure _ _ _ _
  unfold registered
  split
  · rfl
  · dsimp only
    rw [hwrite]
    unfold registerTimeoutTimer
    split <;> rfl

theorem nextRequestId_resume {accepted : Bool} {index : Nat} {order : List UInt64}
    (hstep : s.resume accepted index order = some s') : s'.nextRequestId = s.nextRequestId := by
  unfold RpcChannel.resume at hstep
  split at hstep
  · cases hstep
  · cases hstep
    rfl
  · cases hstep
    rfl
  · cases hstep
    exact nextRequestId_notifyCompletion _ _ _
  · cases hstep
    exact nextRequestId_registered _ _ _ _
  · cases hstep
    rfl
  · cases hstep
    rfl
  · cases hstep
    split
    · exact nextRequestId_completeCallWithCancel _ _
    · rfl
  · cases hstep
    exact nextRequestId_completeCallWithFailure _ _ _ _
  · cases hstep
    unfold handleFrame
    split
    · rfl
    · exact nextRequestId_completeCallWithFrame _ _ _
  · next error _ _ =>
    split at hstep
    · cases hstep
      cases error <;> rfl
    · cases hstep
  · cases hstep
    rfl
  · split at hstep
    · cases hstep
      rfl
    · cases hstep
      exact nextRequestId_failPendingNow _ _ _

theorem nextRequestId_le_fire (F : MetaFormat) (s : RpcChannel) (traceId : UInt64)
    (timer : ChannelTimer) : s.nextRequestId ≤ (s.fire F traceId timer).nextRequestId := by
  cases timer with
  | timeout requestId => exact (nextRequestId_completeCallWithFailure _ _ _ _).ge
  | heartbeat => exact (Kept.onHeartbeatTimer F s traceId).next

theorem nextRequestId_le_step {F : MetaFormat} {a : ChannelStep} (hstep : s.step F a = some s') :
    s.nextRequestId ≤ s'.nextRequestId := by
  cases a with
  | drawRequestId =>
    cases hstep
    exact Nat.le_succ _
  | beginCall a later =>
    simp only [RpcChannel.step, Option.ite_none_right_eq_some] at hstep
    obtain ⟨-, hstep⟩ := hstep
    cases hstep
    rw [nextRequestId_perform]
    exact nextRequestId_le_prepareCall F s a
  | remoteBeginCall a =>
    simp only [RpcChannel.step, Option.ite_none_right_eq_some] at hstep
    obtain ⟨-, hstep⟩ := hstep
    cases hstep
    exact nextRequestId_le_prepareCall F s a
  | cancelCoroutineCall requestId =>
    simp only [RpcChannel.step, Option.ite_none_right_eq_some] at hstep
    obtain ⟨-, hstep⟩ := hstep
    cases hstep
    split
    · exact le_rfl
    · exact (nextRequestId_completeCallWithCancel _ _).ge
  | remoteCancelCoroutineCall requestId =>
    simp only [RpcChannel.step, Option.ite_none_right_eq_some] at hstep
    obtain ⟨-, hstep⟩ := hstep
    cases hstep
    split <;> exact le_rfl
  | connectionDown conn order =>
    simp only [RpcChannel.step, Option.ite_none_right_eq_some] at hstep
    obtain ⟨-, hstep⟩ := hstep
    cases hstep
    exact (Kept.connectionClosed s conn order).next
  | resume accepted index order => exact (nextRequestId_resume hstep).ge
  | remoteClosure index =>
    simp only [RpcChannel.step, Option.map_eq_some_iff] at hstep
    obtain ⟨requestId, -, rfl⟩ := hstep
    exact le_rfl
  | runFunctor index =>
    simp only [RpcChannel.step, Option.ite_none_right_eq_some, Option.map_eq_some_iff] at hstep
    obtain ⟨-, functor, -, rfl⟩ := hstep
    rw [nextRequestId_perform]
  | timer id traceId =>
    simp only [RpcChannel.step, Option.ite_none_right_eq_some, Option.map_eq_some_iff] at hstep
    obtain ⟨-, ⟨_, timer⟩, -, rfl⟩ := hstep
    dsimp only
    split
    · exact nextRequestId_le_fire F { s with env := s.env.cancelTimer (some id) } traceId timer
    · exact le_rfl
  | callMethodWithoutDone | startCancel | setMaxPendingCalls | setDegradeHandler | onMessage
  | connectionUp | shutdown | destroy | elapse =>
    simp only [RpcChannel.step, Option.ite_none_right_eq_some] at hstep
    obtain ⟨-, hstep⟩ := hstep
    cases hstep
    exact le_rfl
  | remoteStartCancel | resetController | setTimeout | setDeadline =>
    cases hstep
    exact le_rfl
  | setFailed reason =>
    obtain ⟨_, _, _, _, -, rfl⟩ := step_setFailed hstep
    exact le_rfl

/-! ## Runs -/

theorem Balanced.step {F : MetaFormat} {a : ChannelStep} (h : Balanced s [] [])
    (hstep : s.step F a = some s') (hwrap : s'.nextRequestId ≤ 2 ^ 64) : Balanced s' [] [] := by
  have hdestroyed : s.alive = true → s.destroyed = false := by
    intro halive
    cases hd : s.destroyed with
    | false => rfl
    | true => exact absurd (h.gone hd).1 (by simp [halive])
  cases a with
  | elapse now =>
    simp only [RpcChannel.step, Option.ite_none_right_eq_some] at hstep
    obtain ⟨-, hstep⟩ := hstep
    cases hstep
    exact h.of_kept (.env s _)
  | drawRequestId =>
    cases hstep
    exact h.of_kept (.of_eq rfl rfl rfl rfl rfl (Nat.le_succ _) rfl rfl)
  | callMethodWithoutDone controller =>
    simp only [RpcChannel.step, Option.ite_none_right_eq_some] at hstep
    obtain ⟨-, hstep⟩ := hstep
    cases hstep
    exact h.of_kept (.env s _)
  | beginCall a later =>
    simp only [RpcChannel.step, Option.ite_none_right_eq_some] at hstep
    obtain ⟨hguard, hstep⟩ := hstep
    cases hstep
    rw [nextRequestId_perform] at hwrap
    obtain ⟨hprepared, hcall⟩ := h.prepareCall F a (by simp_all) hwrap
    exact (hprepared.env _).perform hcall
  | remoteBeginCall a =>
    simp only [RpcChannel.step, Option.ite_none_right_eq_some, Bool.and_eq_true] at hstep
    obtain ⟨⟨halive, -⟩, hstep⟩ := hstep
    cases hstep
    obtain ⟨hprepared, hcall⟩ := h.prepareCall F a (hdestroyed halive) hwrap
    exact hprepared.enqueue ((alive_prepareCall F s a).trans halive) hcall
  | cancelCoroutineCall requestId =>
    simp only [RpcChannel.step, Option.ite_none_right_eq_some] at hstep
    obtain ⟨-, hstep⟩ := hstep
    cases hstep
    split
    · exact h
    · exact h.of_kept (.of_completes h.keys_nodup (completes_completeCallWithCancel _ _))
  | remoteCancelCoroutineCall requestId =>
    simp only [RpcChannel.step, Option.ite_none_right_eq_some] at hstep
    obtain ⟨-, hstep⟩ := hstep
    cases hstep
    split
    · exact h
    · exact h.of_kept (.queue s rfl rfl)
  | startCancel c =>
    simp only [RpcChannel.step, Option.ite_none_right_eq_some] at hstep
    obtain ⟨-, hstep⟩ := hstep
    cases hstep
    exact h.of_kept ((Kept.env s _).trans (.push _ rfl (by simp)))
  | remoteStartCancel c =>
    cases hstep
    exact h.of_kept (.of_eq rfl rfl rfl rfl rfl le_rfl rfl rfl)
  | remoteClosure index =>
    simp only [RpcChannel.step, Option.map_eq_some_iff] at hstep
    obtain ⟨requestId, -, rfl⟩ := hstep
    have hclosures : Kept s { s with cancelling := s.cancelling.eraseIdx index } [] [] :=
      .of_eq rfl rfl rfl rfl rfl le_rfl rfl rfl
    split
    · exact h.of_kept (hclosures.trans (.queue _ rfl rfl))
    · exact h.of_kept hclosures
  | resetController c | setTimeout c _ | setDeadline c _ =>
    cases hstep
    exact h.of_kept (.env s _)
  | setFailed reason =>
    obtain ⟨_, _, _, _, -, rfl⟩ := step_setFailed hstep
    exact h.of_kept (.env s _)
  | setMaxPendingCalls n | setDegradeHandler n | shutdown | connectionUp conn =>
    simp only [RpcChannel.step, Option.ite_none_right_eq_some] at hstep
    obtain ⟨-, hstep⟩ := hstep
    cases hstep
    exact h.of_kept (.of_eq rfl rfl rfl rfl rfl le_rfl rfl rfl)
  | onMessage conn frames error =>
    simp only [RpcChannel.step, Option.ite_none_right_eq_some] at hstep
    obtain ⟨-, hstep⟩ := hstep
    cases hstep
    exact h.of_kept (.push s rfl (by simp))
  | connectionDown conn order =>
    simp only [RpcChannel.step, Option.ite_none_right_eq_some] at hstep
    obtain ⟨-, hstep⟩ := hstep
    cases hstep
    exact h.of_kept (.connectionClosed s conn order)
  | timer id traceId =>
    simp only [RpcChannel.step, Option.ite_none_right_eq_some, Option.map_eq_some_iff] at hstep
    obtain ⟨-, ⟨_, timer⟩, -, rfl⟩ := hstep
    have hset := h.of_kept (Kept.env s (s.env.cancelTimer (some id)))
    dsimp only
    split
    · exact hset.of_kept (.fire hset.keys_nodup F traceId timer)
    · exact hset
  | runFunctor index =>
    simp only [RpcChannel.step, Option.ite_none_right_eq_some, Option.map_eq_some_iff] at hstep
    obtain ⟨-, functor, hget, rfl⟩ := hstep
    refine (h.dequeue hget).perform fun requestId bytes call heq => ?_
    exact h.opened.queued requestId bytes call (heq ▸ List.mem_of_getElem? hget)
  | resume accepted index order => exact h.resume hstep
  | destroy =>
    simp only [RpcChannel.step, Option.ite_none_right_eq_some, Bool.and_eq_true] at hstep
    obtain ⟨⟨⟨hstack, -⟩, hqueued⟩, hstep⟩ := hstep
    cases hstep
    exact h.destroy (by simpa using hstack) hqueued

/-- A channel before its first step; other channels may have drawn request ids. -/
def start (nextRequestId : Nat) (e : ChannelEnv) : RpcChannel :=
  { nextRequestId := nextRequestId, env := e }

theorem balanced_start (nextRequestId : Nat) (e : ChannelEnv) :
    Balanced (start nextRequestId e) [] [] := by
  refine ⟨fun k => ?_, List.nodup_nil, fun id hid => ?_, ⟨fun p hp => ?_, fun _ _ _ hmem => ?_⟩,
    trivial, fun hmem => ?_, fun _ => rfl, fun hgone => ?_⟩
  · simp [start, RpcChannel.census, queuedNumbers, pendingNumbers, heldNumbers]
  · cases hid
  · cases hp
  · cases hmem
  · cases hmem
  · cases hgone

/-- As long as the request ids have not wrapped, every call is in its place. -/
theorem balanced_run {F : MetaFormat} {steps : List ChannelStep} (h : Balanced s [] [])
    (hrun : s.run F steps = some s') (hwrap : s'.nextRequestId ≤ 2 ^ 64) : Balanced s' [] [] := by
  -- The ids only grow, so the bound holds at every state that the run passes.
  refine Transition.invariant_run (C := fun _ _ => True)
    (I := fun s => s.nextRequestId ≤ 2 ^ 64 → Balanced s [] [])
    (fun s a s' h _ hstep hwrap => ?_) (fun _ => h) (Transition.meets_of_forall fun _ _ => trivial)
    hrun hwrap
  exact (h ((nextRequestId_le_step hstep).trans hwrap)).step hstep hwrap

/-! ## Handlers come to their end -/

/-- How often the handlers go on, apart from what `OnMessage` does at its end. -/
def remaining (s : RpcChannel) : Nat :=
  2 * s.pendingCalls.length + (s.stack.map ChannelFrame.weight).sum

def messages (s : RpcChannel) : Nat := s.stack.countP ChannelFrame.isOnMessage

/-- The operation adds at most `n` to what remains. -/
structure Lighter (s s' : RpcChannel) (n : Nat) : Prop where
  remaining : s'.remaining ≤ s.remaining + n
  messages : s'.messages = s.messages
  stack : s.stack ⊆ s'.stack
  destroyed : s'.destroyed = s.destroyed

theorem Lighter.of_eq (hpending : s'.pendingCalls.length = s.pendingCalls.length)
    (hstack : s'.stack = s.stack) (hdestroyed : s'.destroyed = s.destroyed) : Lighter s s' 0 := by
  refine ⟨?_, ?_, ?_, hdestroyed⟩
  · simp only [RpcChannel.remaining, hpending, hstack]
    exact le_rfl
  · simp only [RpcChannel.messages, hstack]
  · rw [hstack]
    exact fun _ => id

theorem Lighter.notifyCompletion (s : RpcChannel) (number : Nat) (coroutine : Bool) :
    Lighter s (s.notifyCompletion number coroutine) 1 := by
  unfold RpcChannel.notifyCompletion
  dsimp only
  split
  · exact ⟨Nat.le_succ _, rfl, fun _ => id, rfl⟩
  · refine ⟨?_, ?_, List.subset_cons_self _ _, rfl⟩
    · simp only [RpcChannel.remaining, RpcChannel.push, List.map_cons, List.sum_cons,
        ChannelFrame.weight]
      omega
    · exact List.countP_cons_of_neg (by simp [ChannelFrame.isOnMessage])

/-- A pending call that is taken out of the map pays for its notification. -/
theorem remaining_erasePending {requestId : UInt64} (hmem : requestId ∈ s.keys) :
    (s.erasePending requestId).remaining + 2 ≤ s.remaining := by
  obtain ⟨p, hp, rfl⟩ := List.mem_map.mp hmem
  have hlt : (s.pendingCalls.filter (·.1 ≠ p.1)).length < s.pendingCalls.length :=
    List.length_filter_lt_length_iff_exists.mpr ⟨p, hp, by simp⟩
  simp only [RpcChannel.remaining, erasePending]
  omega

theorem Lighter.of_completes {requestId : UInt64} (h : Completes s s' requestId) :
    Lighter s s' 0 := by
  obtain rfl | ⟨call, e, hfind, rfl⟩ := h
  · exact .of_eq rfl rfl rfl
  · obtain ⟨hremaining, hmessages, hstack, hdestroyed⟩ :=
      Lighter.notifyCompletion { s.erasePending requestId with env := e } call.number call.coroutine
    have herase := remaining_erasePending (List.mem_map_of_mem (f := (·.1)) (find_eq_some hfind))
    refine ⟨?_, hmessages, hstack, hdestroyed⟩
    simp only [RpcChannel.remaining] at hremaining herase ⊢
    omega

theorem Lighter.registered (s : RpcChannel) (requestId : UInt64) (token : Int)
    (bytes : List UInt8) : Lighter s (s.registered requestId token bytes) 0 := by
  unfold RpcChannel.registered
  split
  · exact .of_eq rfl rfl rfl
  · next call _ =>
    dsimp only
    generalize hs₁ : (s.modifyPending requestId fun x => { x with cancelToken := token }
      ).registerTimeoutTimer requestId call = s₁
    have hlight : Lighter s s₁ 0 := by
      subst hs₁
      unfold registerTimeoutTimer modifyPending
      split
      · exact .of_eq (by simp) rfl rfl
      · exact .of_eq (by simp) rfl rfl
    unfold writeRegisteredCall
    split
    · exact ⟨hlight.remaining, hlight.messages, hlight.stack, hlight.destroyed⟩
    · have hcomplete := Lighter.of_completes (completes_completeCallWithFailure s₁ requestId
        (octets "RPC connection is not available") .failed)
      exact ⟨hcomplete.remaining.trans hlight.remaining, hcomplete.messages.trans hlight.messages,
        List.Subset.trans hlight.stack hcomplete.stack,
        hcomplete.destroyed.trans hlight.destroyed⟩

theorem Lighter.handleFrame (s : RpcChannel) (frame : RpcFrame) :
    Lighter s (s.handleFrame frame) 0 := by
  unfold RpcChannel.handleFrame
  split
  · exact .of_eq rfl rfl rfl
  · exact .of_completes (completes_completeCallWithFrame s _ frame)

/-- The handler on top of the stack has something left to do. -/
def Progress (s s' : RpcChannel) : Prop :=
  (s'.messages < s.messages ∨ s'.messages = s.messages ∧ s'.remaining < s.remaining) ∧
    (.failAllPendingNow ∈ s.stack → .failAllPendingNow ∈ s'.stack ∨ s'.destroyed = true) ∧
    (s.destroyed = true → s'.destroyed = true)

/-- A handler goes on with a lighter frame, or leaves the stack. -/
theorem Progress.of_lighter {frame : ChannelFrame} {stack : List ChannelFrame} (n : Nat)
    (frames : List ChannelFrame) (hstack : s.stack = frame :: stack) (hnot : frame ≠ .failAllPendingNow)
    (hmessages : (frames.countP ChannelFrame.isOnMessage) = [frame].countP ChannelFrame.isOnMessage)
    (hweight : (frames.map ChannelFrame.weight).sum + n < frame.weight)
    (h : Lighter { s with stack := frames ++ stack } s' n) : Progress s s' := by
  refine ⟨.inr ⟨?_, ?_⟩, fun hmem => .inl (h.stack ?_), fun hd => h.destroyed.trans hd⟩
  · rw [h.messages]
    simp only [RpcChannel.messages, hstack, List.countP_append, hmessages]
    rw [← List.countP_append, List.singleton_append]
  · have hremaining := h.remaining
    simp only [RpcChannel.remaining, List.map_append, List.sum_append] at hremaining
    simp only [RpcChannel.remaining, hstack, List.map_cons, List.sum_cons]
    omega
  · rw [hstack] at hmem
    rcases List.mem_cons.mp hmem with heq | hmem
    · exact absurd heq.symm hnot
    · exact List.mem_append_right _ hmem

/-- `OnMessage` comes to its end. -/
theorem Progress.endOfFrames {conn : Nat} {error : Option String} {stack : List ChannelFrame}
    (hstack : s.stack = .onMessage conn [] error :: stack) (order : List UInt64) :
    Progress s ({ s with stack := stack }.endOfFrames conn order error) := by
  have hkeep : .failAllPendingNow ∈ s.stack → .failAllPendingNow ∈ stack := by
    intro hmem
    simpa [hstack] using hmem
  have hmessages : stack.countP ChannelFrame.isOnMessage < s.messages := by
    rw [RpcChannel.messages, hstack, List.countP_cons_of_pos rfl]
    exact Nat.lt_succ_self _
  cases error with
  | none => exact ⟨.inl hmessages, fun hmem => .inl (hkeep hmem), id⟩
  | some error =>
    refine ⟨.inl ?_, fun hmem => .inl ?_, id⟩
    · simpa [RpcChannel.messages, RpcChannel.endOfFrames, RpcChannel.push,
        ChannelFrame.isOnMessage] using hmessages
    · exact List.mem_cons_of_mem _ (List.mem_cons_of_mem _ (hkeep hmem))

/-- The destructor takes a call out of the map. -/
theorem Progress.failPendingNow {requestId : UInt64} (hmem : requestId ∈ s.keys)
    (reason : List UInt8) : Progress s (s.failPendingNow requestId reason) := by
  obtain ⟨call, hfind⟩ := exists_findPending hmem
  have herase := remaining_erasePending hmem
  simp only [RpcChannel.failPendingNow, takePendingCall, hfind, Option.map_some]
  split
  · generalize hs₁ : ({ s.erasePending requestId with
      env := ((s.env.release call).record call .failed).applyFailure call.controller reason .failed
      } : RpcChannel) = s₁
    have hlight : Lighter s₁ (s₁.notifyCompletion call.number call.coroutine) 1 :=
      .notifyCompletion _ _ _
    have hremaining : s₁.remaining = (s.erasePending requestId).remaining := by
      subst hs₁
      rfl
    have hstack₁ : s₁.stack = s.stack := by
      subst hs₁
      rfl
    refine ⟨.inr ⟨?_, ?_⟩, fun hmem => .inl (hlight.stack (hstack₁ ▸ hmem)), fun hd => ?_⟩
    · rw [hlight.messages, RpcChannel.messages, hstack₁, RpcChannel.messages]
    · have := hlight.remaining
      omega
    · rw [hlight.destroyed, ← hs₁]
      exact hd
  · refine ⟨.inr ⟨rfl, ?_⟩, .inl, id⟩
    simp only [RpcChannel.remaining] at herase ⊢
    omega

/-- The handler on top of the stack can go on. -/
theorem exists_resume (hne : s.stack ≠ []) :
    ∃ order s', s.resume false 0 order = some s' ∧ Progress s s' := by
  cases hstack : s.stack with
  | nil => exact absurd hstack hne
  | cons frame stack =>
    unfold RpcChannel.resume
    rw [hstack]
    cases frame with
    | done | disconnect | forceClose =>
      exact ⟨[], _, rfl, .of_lighter 0 [] hstack (by simp) rfl Nat.zero_lt_one (.of_eq rfl rfl rfl)⟩
    | degrade requestId call reason =>
      refine ⟨[], _, rfl, .of_lighter 1 [] hstack (by simp) rfl Nat.one_lt_two ?_⟩
      obtain ⟨hremaining, hmessages, hsub, hdestroyed⟩ := Lighter.notifyCompletion
        { s with
          stack := stack
          env := s.env.applyFailure call.controller reason .failed } call.number call.coroutine
      exact ⟨hremaining, hmessages, hsub, hdestroyed⟩
    | registered requestId token bytes =>
      exact ⟨[], _, rfl, .of_lighter 0 [] hstack (by simp) rfl Nat.zero_lt_one
        (.registered _ _ _ _)⟩
    | startCancel requestIds =>
      cases requestIds with
      | nil =>
        exact ⟨[], _, rfl, .of_lighter 0 [] hstack (by simp) rfl Nat.zero_lt_one
          (.of_eq rfl rfl rfl)⟩
      | cons requestId requestIds =>
        refine ⟨[], _, rfl, .of_lighter 0 [.startCancel requestIds] hstack (by simp) rfl
          (by simp [ChannelFrame.weight]) ?_⟩
        split
        · exact .of_completes (completes_completeCallWithCancel _ _)
        · exact .of_eq rfl rfl rfl
    | failEach requestIds =>
      cases requestIds with
      | nil =>
        exact ⟨[], _, rfl, .of_lighter 0 [] hstack (by simp) rfl Nat.zero_lt_one
          (.of_eq rfl rfl rfl)⟩
      | cons requestId requestIds =>
        exact ⟨[], _, rfl, .of_lighter 0 [.failEach requestIds] hstack (by simp) rfl
          (by simp [ChannelFrame.weight])
          (.of_completes (completes_completeCallWithFailure _ _ _ _))⟩
    | onMessage conn frames error =>
      cases frames with
      | nil =>
        refine ⟨s.keys, _, if_pos ?_, .endOfFrames hstack s.keys⟩
        simp [List.isPerm_iff]
      | cons frame frames =>
        exact ⟨[], _, rfl, .of_lighter 0 [.onMessage conn frames error] hstack (by simp) rfl
          (by simp [ChannelFrame.weight]) (.handleFrame _ _)⟩
    | failAllPendingNow =>
      dsimp only
      cases hkey : s.keys[0 % s.keys.length]? with
      | none =>
        refine ⟨[], _, rfl, .inr ⟨?_, ?_⟩, fun _ => .inr rfl, fun _ => rfl⟩
        · simp [RpcChannel.messages, hstack, ChannelFrame.isOnMessage]
        · simp [RpcChannel.remaining, hstack, ChannelFrame.weight]
      | some requestId =>
        exact ⟨[], _, rfl, .failPendingNow (List.mem_of_getElem? hkey) _⟩

/-- When user code does nothing more, the handlers that wait come to their end, and so does the
destructor. -/
theorem handlers_return (F : MetaFormat) (s : RpcChannel) :
    ∃ (orders : List (List UInt64)) (s' : RpcChannel),
      s.run F (orders.map (.resume false 0)) = some s' ∧ s'.stack = [] ∧
      (.failAllPendingNow ∈ s.stack ∨ s.destroyed = true → s'.destroyed = true) := by
  by_cases hne : s.stack = []
  · exact ⟨[], s, rfl, hne, fun h => h.elim (fun hmem => by simp [hne] at hmem) id⟩
  · obtain ⟨order, s₁, hresume, hless, hkeep, hdestroyed⟩ := exists_resume hne
    obtain ⟨orders, s', hrun, hempty, hend⟩ := handlers_return F s₁
    refine ⟨order :: orders, s', ?_, hempty, fun h => hend ?_⟩
    · exact Transition.run_cons_eq_some_iff.mpr ⟨s₁, hresume, hrun⟩
    · exact h.elim hkeep fun hd => .inr (hdestroyed hd)
termination_by (s.messages, s.remaining)
decreasing_by exact Prod.lex_def.mpr hless

/-! ## Calls are notified once -/

/-- The calls that are queued for their registration. -/
def registeringNumbers (s : RpcChannel) : List Nat :=
  s.functors.filterMap fun
    | .registerAndSend _ _ call => some call.number
    | _ => none

theorem Balanced.notified_iff (h : Balanced s [] []) {k : Nat} (hk : k < s.begun) :
    k ∈ s.notified ↔ k ∉ s.queuedNumbers ∧ k ∉ s.pendingNumbers ∧ k ∉ s.heldNumbers := by
  have hcensus := h.census k
  simp only [RpcChannel.census, hk, if_true, List.count_nil] at hcensus
  simp only [← List.count_pos_iff]
  omega

/-- Along every run in which the request ids do not wrap, a call that has been begun is notified at
most once. It has not been notified exactly as long as it is queued on the loop, or pending, or
asked about by a degrade handler that has not yet returned. A destructor that has returned leaves no
call without its notification, and a destructor that has begun returns. -/
theorem notified_once (F : MetaFormat) (nextRequestId : Nat) (e : ChannelEnv)
    (steps : List ChannelStep) (s : RpcChannel)
    (hrun : (start nextRequestId e).run F steps = some s) (hwrap : s.nextRequestId ≤ 2 ^ 64) :
    (∀ k < s.begun,
      s.notified.count k ≤ 1 ∧
      (k ∈ s.notified ↔ k ∉ s.queuedNumbers ∧ k ∉ s.pendingNumbers ∧ k ∉ s.heldNumbers) ∧
      (s.stack = [] → (k ∈ s.notified ↔ k ∉ s.queuedNumbers ∧ k ∉ s.pendingNumbers)) ∧
      (s.destroyed = true → s.notified.count k = 1)) ∧
    (.failAllPendingNow ∈ s.stack → ∃ (orders : List (List UInt64)) (s' : RpcChannel),
      s.run F (orders.map (.resume false 0)) = some s' ∧ s'.destroyed = true) := by
  have h := balanced_run (balanced_start nextRequestId e) hrun hwrap
  refine ⟨fun k hk => ⟨?_, h.notified_iff hk, fun hstack => ?_, fun hdestroyed => ?_⟩, fun hmem => ?_⟩
  · have hcensus := h.census k
    simp only [RpcChannel.census, hk, if_true] at hcensus
    omega
  · have hheld : s.heldNumbers = [] := by rw [heldNumbers, hstack, List.filterMap_nil]
    rw [h.notified_iff hk, hheld]
    simp
  · have hcensus := h.census k
    have hmem := List.count_pos_iff.mpr ((h.gone hdestroyed).2 k hk)
    simp only [RpcChannel.census, hk, if_true] at hcensus
    omega
  · obtain ⟨orders, s', hresumes, -, hend⟩ := handlers_return F s
    exact ⟨orders, s', hresumes, hend (.inl hmem)⟩

/-- A call of the method `s.0` with an empty request. -/
def emptyCall : CallArguments where
  method := some { serviceName := octets "s", index := 0 }
  controller := none
  request := some
    { byteSizeLong := 0, serializeWithCachedSizesToArray := [], serializeToString := some [] }
  response := some fun _ => true
  coroutine := false
  traceId := 0

/-- A call is answered, a second one is pending when the channel is destroyed, and within the
callback of the first one a third one is begun. -/
def answered : List ChannelStep :=
  [.connectionUp 0, .beginCall emptyCall 0, .resume false 0 [], .beginCall emptyCall 0,
    .resume false 0 [], .onMessage 0 [{ rpcMeta := { type := .response, requestId := 1 } }] none,
    .resume false 0 [], .beginCall { emptyCall with response := none } 0, .resume false 0 [],
    .resume false 0 [], .resume false 0 [], .destroy, .resume false 0 [], .resume false 0 [],
    .resume false 0 []]

theorem notified_once_answered :
    ∃ s, (start 1 {}).run wireFormat answered = some s ∧ s.begun = 3 ∧ s.destroyed = true ∧
      s.notified = [1, 2, 0] ∧ ∀ k < 3, s.notified.count k = 1 := by
  refine ⟨_, rfl, rfl, rfl, rfl, fun k hk => ?_⟩
  exact ((notified_once wireFormat 1 {} answered _ rfl (by decide)).1 k hk).2.2.2 rfl

/-- A call without a response that another thread begins is in no map and waits for no
registration, and yet it is only notified when the loop runs its functor. -/
theorem invalid_call_waits :
    ∃ s k, (start 1 {}).run wireFormat [.remoteBeginCall { emptyCall with response := none }] =
        some s ∧ s.stack = [] ∧ s.nextRequestId ≤ 2 ^ 64 ∧ k < s.begun ∧
      ¬(k ∈ s.notified ↔ k ∉ s.registeringNumbers ∧ k ∉ s.pendingNumbers) :=
  ⟨_, 0, rfl, rfl, by decide, by decide, by decide⟩

end RpcChannel

end NebulaRpc.Rpc
