import NebulaRpc.Net.ConnectorLoop

/-!
# Backoff

The delays of the retries that a connector schedules, with the number of retries since it was
connected for the last time. The member `next_backoff_` holds the delay of the next retry, and zero
makes the sequence start again.
-/

namespace NebulaRpc.Net

/-- The delay of the retry with the number `k` since the last success. -/
def ReconnectPolicy.delay (p : ReconnectPolicy) (k : Nat) : Int :=
  min p.max (p.initial * (p.multiplier : Int) ^ k)

namespace Connector

/-- `StartInLoop` gets to the success branch of `ConnectInLoop`. -/
def connectsAtOnce (c : Connector) (outcome : ConnectOutcome) : Bool :=
  c.connect && c.state = .disconnected && outcome matches .established

/-- `HandleWrite` gets to its success branch. -/
def connectsByWrite (c : Connector) (socketError : Option String) : Bool :=
  c.state = .connecting && c.channel.isSome && socketError.isNone && c.connect

def connectsByRestart (c : Connector) (outcome : ConnectOutcome) : Bool :=
  c.state = .connected && { c with state := .disconnected }.connectsAtOnce outcome

/-- The delay that `ScheduleReconnect` takes. -/
def backoff (c : Connector) : Int :=
  if c.nextBackoff = 0 then c.reconnectPolicy.initial else c.nextBackoff

end Connector

namespace ConnectorLoop

/-- The step connects the connector: it sets `state_` to `kConnected`. -/
def succeeds (s : ConnectorLoop) : ConnectorStep → Bool
  | .start outcome => { s.connector with connect := true }.connectsAtOnce outcome
  | .restart outcome => s.connector.connectsByRestart outcome
  | .runFunctor index outcome =>
    match s.functors[index]? with
    | some .startInLoop => s.connector.connectsAtOnce outcome
    | some .restartInLoop => s.connector.connectsByRestart outcome
    | _ => false
  | .retryTimer _ outcome => s.connector.connectsAtOnce outcome
  | .writable socketError => s.connector.connectsByWrite socketError
  | .resume =>
    match s.stack with
    | .write _ socketError :: _ => s.connector.connectsByWrite socketError
    | _ => false
  | _ => false

/-- The delay of the retry that a step has scheduled. -/
def scheduled (s s' : ConnectorLoop) : Option Int :=
  if s'.connector.reconnectAttemptCount = s.connector.reconnectAttemptCount then none
  else s'.connector.timers.head?.map (·.2)

end ConnectorLoop

structure RetryingConnector where
  loop : ConnectorLoop
  /-- how many retries were scheduled since the last success -/
  retries : Nat := 0
  /-- the retries, with their numbers since the last success and their delays -/
  delays : List (Nat × Int) := []

namespace RetryingConnector

def step (s : RetryingConnector) (a : ConnectorStep) : Option RetryingConnector :=
  (s.loop.step a).map fun loop =>
    let retries := if s.loop.succeeds a then 0 else s.retries
    match s.loop.scheduled loop with
    | none => { s with loop := loop, retries := retries }
    | some delay =>
      { loop := loop, retries := retries + 1, delays := s.delays ++ [(retries, delay)] }

/-- The state behind a list of steps. -/
def run (s : RetryingConnector) (steps : List ConnectorStep) : Option RetryingConnector :=
  Transition.run step s steps

def start (ip : String) (policy : ReconnectPolicy) (newConnectionCallback errorCallback : Bool) :
    RetryingConnector :=
  { loop := ConnectorLoop.start ip policy newConnectionCallback errorCallback }

/-- Every retry has the delay of its number. -/
def Follows (policy : ReconnectPolicy) (s : RetryingConnector) : Prop :=
  ∀ p ∈ s.delays, p.2 = policy.delay p.1

end RetryingConnector

/-! ## What a step does to the backoff -/

namespace Connector

variable {c c' d : Connector} {outcome : ConnectOutcome} {success : Bool}

/-- An operation connects the connector, or schedules one retry, or does neither. -/
inductive Backs (c : Connector) : Bool → Connector → Prop
  | kept {c' : Connector} (hpolicy : c'.reconnectPolicy = c.reconnectPolicy)
      (hbackoff : c'.nextBackoff = c.nextBackoff)
      (hcount : c'.reconnectAttemptCount = c.reconnectAttemptCount) : Backs c false c'
  | connected {c' : Connector} (hpolicy : c'.reconnectPolicy = c.reconnectPolicy)
      (hbackoff : c'.nextBackoff = 0)
      (hcount : c'.reconnectAttemptCount = c.reconnectAttemptCount) : Backs c true c'
  | scheduled {c' : Connector} (hpolicy : c'.reconnectPolicy = c.reconnectPolicy)
      (hbackoff : c'.nextBackoff = min (c.backoff * c.reconnectPolicy.multiplier) c.reconnectPolicy.max)
      (hcount : c'.reconnectAttemptCount = c.reconnectAttemptCount + 1)
      (htimer : c'.timers.head?.map (·.2) = some c.backoff) : Backs c false c'

/-- What the backoff does not depend on. -/
structure SameBackoff (c d : Connector) : Prop where
  policy : d.reconnectPolicy = c.reconnectPolicy
  nextBackoff : d.nextBackoff = c.nextBackoff
  count : d.reconnectAttemptCount = c.reconnectAttemptCount

theorem SameBackoff.refl (c : Connector) : SameBackoff c c := ⟨rfl, rfl, rfl⟩

theorem SameBackoff.backs (h : SameBackoff c d) : Backs c false d :=
  .kept h.policy h.nextBackoff h.count

/-- The operation begins in a state with the same backoff. -/
theorem Backs.of_same (hsame : SameBackoff c d) (h : Backs d success c') : Backs c success c' := by
  obtain ⟨hpolicy', hbackoff', hcount'⟩ := hsame
  have hback : d.backoff = c.backoff := by rw [backoff, backoff, hbackoff', hpolicy']
  cases h with
  | kept hpolicy hbackoff hcount =>
    exact .kept (hpolicy.trans hpolicy') (hbackoff.trans hbackoff') (hcount.trans hcount')
  | connected hpolicy hbackoff hcount =>
    exact .connected (hpolicy.trans hpolicy') hbackoff (hcount.trans hcount')
  | scheduled hpolicy hbackoff hcount htimer =>
    refine .scheduled (hpolicy.trans hpolicy') ?_ (hcount.trans (by rw [hcount'])) (htimer.trans ?_)
    · rw [hbackoff, hback, hpolicy']
    · rw [hback]

theorem backs_scheduleReconnect (c : Connector) : Backs c false c.scheduleReconnect := by
  unfold scheduleReconnect
  split
  · exact (SameBackoff.refl c).backs
  · exact .scheduled rfl rfl rfl rfl

theorem backs_reportError (c : Connector) (reason : String) : Backs c false (c.reportError reason).1 := by
  unfold reportError
  dsimp only
  split
  · exact .kept rfl rfl rfl
  · refine Backs.of_same ?_ (backs_scheduleReconnect _)
    exact ⟨rfl, rfl, rfl⟩

theorem backs_handOver (hpolicy : d.reconnectPolicy = c.reconnectPolicy)
    (hcount : d.reconnectAttemptCount = c.reconnectAttemptCount) (fd : Nat) :
    Backs c true (d.handOver fd).1 := by
  unfold handOver
  dsimp only
  split
  · exact .connected hpolicy rfl hcount
  · exact .connected hpolicy rfl hcount

theorem sameBackoff_cancelReconnect (c : Connector) : SameBackoff c c.cancelReconnect := by
  rw [cancelReconnect_eq]
  exact ⟨rfl, rfl, rfl⟩

theorem backs_connectInLoop (c : Connector) (outcome : ConnectOutcome) :
    Backs c (outcome matches .established) (c.connectInLoop outcome).1 := by
  cases outcome with
  | createFails what => exact backs_reportError c what
  | invalidAddress =>
    refine Backs.of_same ?_ (backs_reportError _ _)
    exact ⟨rfl, rfl, rfl⟩
  | established =>
    simp only [connectInLoop]
    split
    · exact .connected rfl rfl rfl
    · apply backs_handOver
      · rfl
      · rfl
  | inProgress => exact .kept rfl rfl rfl
  | fails text =>
    refine Backs.of_same ?_ (backs_reportError _ _)
    exact ⟨rfl, rfl, rfl⟩

theorem backs_startInLoop (c : Connector) (outcome : ConnectOutcome) :
    Backs c (c.connectsAtOnce outcome) (c.startInLoop outcome).1 := by
  unfold startInLoop connectsAtOnce
  cases hguard : c.connect && decide (c.state = .disconnected) with
  | true =>
    rw [Bool.true_and, if_pos rfl]
    exact (backs_connectInLoop _ outcome).of_same (sameBackoff_cancelReconnect c)
  | false =>
    rw [Bool.false_and, if_neg Bool.false_ne_true]
    exact (SameBackoff.refl c).backs

theorem backs_restartInLoop (c : Connector) (outcome : ConnectOutcome) :
    Backs c (c.connectsByRestart outcome) (c.restartInLoop outcome).1 := by
  unfold restartInLoop connectsByRestart
  by_cases hstate : c.state = .connected
  · rw [if_neg (not_not.mpr hstate), decide_eq_true hstate, Bool.true_and]
    refine Backs.of_same ?_ (backs_startInLoop _ outcome)
    exact ⟨rfl, rfl, rfl⟩
  · rw [if_pos hstate, decide_eq_false hstate, Bool.false_and]
    exact (SameBackoff.refl c).backs

theorem sameBackoff_removeAndResetChannel {fd : Nat} (h : c.removeAndResetChannel = some (fd, d)) :
    SameBackoff c d := by
  simp only [removeAndResetChannel, Option.map_eq_some_iff, Prod.mk.injEq] at h
  obtain ⟨channel, -, -, rfl⟩ := h
  exact ⟨rfl, rfl, rfl⟩

theorem backs_stopInLoop (h : c.stopInLoop = some c') : Backs c false c' := by
  have hcancel := sameBackoff_cancelReconnect c
  unfold stopInLoop at h
  dsimp only at h
  split at h
  · cases h
    exact hcancel.backs
  · rw [Option.map_eq_some_iff] at h
    obtain ⟨⟨fd, d⟩, hremove, rfl⟩ := h
    refine Backs.of_same hcancel (Backs.of_same (sameBackoff_removeAndResetChannel hremove) ?_)
    exact .kept rfl rfl rfl

theorem backs_handleWrite {socketError : Option String} {result : Connector × Option ConnectorCall}
    (h : c.handleWrite socketError = some result) :
    Backs c (c.connectsByWrite socketError) result.1 := by
  unfold handleWrite at h
  split at h
  · next hstate =>
    cases h
    simp only [connectsByWrite, decide_eq_false hstate, Bool.false_and]
    exact (SameBackoff.refl c).backs
  · next hstate =>
    rw [Option.map_eq_some_iff] at h
    obtain ⟨⟨fd, d⟩, hremove, rfl⟩ := h
    have hsame := sameBackoff_removeAndResetChannel hremove
    have hchannel : c.channel.isSome = true := by
      unfold removeAndResetChannel at hremove
      cases hchannel : c.channel with
      | none => simp [hchannel] at hremove
      | some channel => rfl
    have hconnect := (connect_removeAndResetChannel hremove).1
    simp only [connectsByWrite, decide_eq_true (not_not.mp hstate), hchannel, Bool.true_and]
    refine Backs.of_same hsame ?_
    cases socketError with
    | some text =>
      refine Backs.of_same ?_ (backs_reportError _ _)
      exact ⟨rfl, rfl, rfl⟩
    | none =>
      dsimp only
      rw [hconnect]
      split
      · next hstop =>
        rw [Bool.not_eq_true'] at hstop
        rw [hstop]
        exact .kept rfl rfl rfl
      · next hstop =>
        rw [Bool.not_eq_true', Bool.not_eq_false] at hstop
        rw [hstop]
        apply backs_handOver
        · rfl
        · rfl

theorem backs_handleError {text : String} {result : Connector × Option ConnectorCall}
    (h : c.handleError text = some result) : Backs c false result.1 := by
  unfold handleError at h
  split at h
  · cases h
    exact (SameBackoff.refl c).backs
  · rw [Option.map_eq_some_iff] at h
    obtain ⟨⟨fd, d⟩, hremove, rfl⟩ := h
    refine Backs.of_same (sameBackoff_removeAndResetChannel hremove) ?_
    refine Backs.of_same ?_ (backs_reportError _ _)
    exact ⟨rfl, rfl, rfl⟩

end Connector

namespace ConnectorLoop

variable {s s' : ConnectorLoop} {a : ConnectorStep}

theorem connector_deliver (s : ConnectorLoop) (result : Connector × Option ConnectorCall) :
    (s.deliver result).connector = result.1 := by
  obtain ⟨c, _ | ⟨_ | _⟩⟩ := result <;> rfl

theorem backs_step (hstep : s.step a = some s') :
    s.connector.Backs (s.succeeds a) s'.connector := by
  cases a with
  | start outcome =>
    simp only [step, Option.ite_none_right_eq_some, Option.some.injEq] at hstep
    obtain ⟨-, rfl⟩ := hstep
    rw [connector_deliver]
    refine Connector.Backs.of_same ?_ (Connector.backs_startInLoop _ outcome)
    exact ⟨rfl, rfl, rfl⟩
  | stop =>
    simp only [step, Option.ite_none_right_eq_some, Option.map_eq_some_iff] at hstep
    obtain ⟨-, c, hc, rfl⟩ := hstep
    refine Connector.Backs.of_same ?_ (Connector.backs_stopInLoop hc)
    exact ⟨rfl, rfl, rfl⟩
  | restart outcome =>
    simp only [step, Option.ite_none_right_eq_some, Option.some.injEq] at hstep
    obtain ⟨-, rfl⟩ := hstep
    rw [connector_deliver]
    exact Connector.backs_restartInLoop _ outcome
  | remoteStart | remoteStop | remoteRestart =>
    cases hstep
    exact .kept rfl rfl rfl
  | runFunctor index outcome =>
    simp only [step, Option.ite_none_right_eq_some, Option.bind_eq_some_iff] at hstep
    obtain ⟨-, functor, hget, hperform⟩ := hstep
    simp only [succeeds, hget]
    cases functor with
    | startInLoop =>
      cases hperform
      rw [connector_deliver]
      exact Connector.backs_startInLoop _ outcome
    | stopInLoop =>
      obtain ⟨c, hc, rfl⟩ := Option.map_eq_some_iff.mp hperform
      exact Connector.backs_stopInLoop hc
    | restartInLoop =>
      cases hperform
      rw [connector_deliver]
      exact Connector.backs_restartInLoop _ outcome
  | resetChannel =>
    simp only [step, Option.ite_none_right_eq_some, Option.some.injEq] at hstep
    obtain ⟨-, rfl⟩ := hstep
    exact .kept rfl rfl rfl
  | writable socketError =>
    simp only [step, Option.ite_none_right_eq_some, Option.map_eq_some_iff] at hstep
    obtain ⟨-, result, hresult, rfl⟩ := hstep
    rw [connector_deliver]
    exact Connector.backs_handleWrite hresult
  | error text write =>
    simp only [step, Option.ite_none_right_eq_some, Option.bind_eq_some_iff,
      Option.map_eq_some_iff] at hstep
    obtain ⟨-, channel, -, result, hresult, rfl⟩ := hstep
    rw [connector_deliver]
    exact Connector.backs_handleError hresult
  | retryTimer timer outcome =>
    simp only [step, Option.ite_none_right_eq_some, Option.some.injEq] at hstep
    obtain ⟨-, rfl⟩ := hstep
    rw [connector_deliver]
    have hstart := Connector.backs_startInLoop
      { s.connector with timers := s.connector.timers.filter (·.1 ≠ timer) } outcome
    refine Connector.Backs.of_same ?_ hstart
    exact ⟨rfl, rfl, rfl⟩
  | resume =>
    simp only [step] at hstep
    unfold succeeds
    split at hstep
    · cases hstep
    · next hstack =>
      cases hstep
      rw [hstack]
      exact .kept rfl rfl rfl
    · next hstack =>
      cases hstep
      rw [hstack]
      exact Connector.backs_scheduleReconnect _
    · next hstack =>
      obtain ⟨-, hmap⟩ := Option.ite_none_right_eq_some.mp hstep
      obtain ⟨result, hresult, rfl⟩ := Option.map_eq_some_iff.mp hmap
      rw [hstack, connector_deliver]
      exact Connector.backs_handleWrite hresult

end ConnectorLoop

/-! ## The law -/

namespace ReconnectPolicy

variable {p : ReconnectPolicy}

/-- The policies whose law the connector follows. -/
def Regular (p : ReconnectPolicy) : Prop := p.initial ≤ p.max ∧ (p.initial = 0 ∨ p.multiplier ≠ 0)

instance (p : ReconnectPolicy) : Decidable p.Regular := inferInstanceAs (Decidable (_ ∧ _))

/-- The delay of a retry is what `next_backoff_` or the initial delay says. -/
theorem delay_zero (h : p.initial ≤ p.max) : p.delay 0 = p.initial := by
  simp [delay, h]

theorem delay_succ (hinitial : 0 ≤ p.initial) (h : p.Regular) (k : Nat) :
    p.delay (k + 1) = min (p.delay k * p.multiplier) p.max := by
  obtain ⟨hle, hzero | hpos⟩ := h
  · have hmin : min p.max 0 = 0 := min_eq_right (by omega)
    simp [delay, hzero, hmin, hmin ▸ min_comm 0 p.max]
  · have hone : (1 : Int) ≤ p.multiplier := by exact_mod_cast Nat.one_le_iff_ne_zero.mpr hpos
    have hmax : p.max ≤ p.max * p.multiplier := by
      have hnonneg := hinitial.trans hle
      nlinarith
    rw [delay, delay, min_mul_of_nonneg _ _ (by omega), pow_succ, mul_assoc, min_comm (min _ _) p.max,
      ← min_assoc, min_eq_left hmax]

/-- A delay that is zero is the initial one. -/
theorem delay_eq_zero (hinitial : 0 ≤ p.initial) (h : p.Regular) {k : Nat} (hk : p.delay k = 0) :
    p.initial = 0 := by
  obtain ⟨hle, hzero | hpos⟩ := h
  · exact hzero
  · by_contra hne
    have hpositive : 0 < p.initial := by omega
    have hmultiplier : (0 : Int) < p.multiplier := by omega
    have hdelay : 0 < p.delay k := lt_min (hpositive.trans_le hle) (by positivity)
    omega

end ReconnectPolicy

namespace RetryingConnector

variable {s s' : RetryingConnector} {a : ConnectorStep} {p : ReconnectPolicy}

/-- The delay of the next retry is known, and those of the earlier ones were right. -/
structure Paced (p : ReconnectPolicy) (s : RetryingConnector) : Prop where
  policy : s.loop.connector.reconnectPolicy = p
  backoff : s.loop.connector.backoff = p.delay s.retries
  follows : Follows p s

theorem paced_start (ip : String) (policy : ReconnectPolicy) (hregular : policy.Regular)
    (newConnectionCallback errorCallback : Bool) :
    Paced policy (start ip policy newConnectionCallback errorCallback) :=
  ⟨rfl, (ReconnectPolicy.delay_zero hregular.1).symm, by simp [Follows, start]⟩

theorem Paced.step (hinitial : 0 ≤ p.initial) (hregular : p.Regular) (h : Paced p s)
    (hstep : s.step a = some s') : Paced p s' := by
  obtain ⟨loop, hloop, rfl⟩ := Option.map_eq_some_iff.mp hstep
  have hbacks := ConnectorLoop.backs_step hloop
  have hzero := ReconnectPolicy.delay_zero hregular.1
  generalize hsuccess : s.loop.succeeds a = success at hbacks ⊢
  cases hbacks with
  | kept hpolicy hbackoff hcount =>
    have hnone : s.loop.scheduled loop = none := if_pos hcount
    simp only [hnone, Bool.false_eq_true, if_false]
    refine ⟨hpolicy.trans h.policy, ?_, h.follows⟩
    rw [Connector.backoff, hbackoff, hpolicy]
    exact h.backoff
  | connected hpolicy hbackoff hcount =>
    have hnone : s.loop.scheduled loop = none := if_pos hcount
    simp only [hnone, if_true]
    refine ⟨hpolicy.trans h.policy, ?_, h.follows⟩
    rw [Connector.backoff, if_pos hbackoff, hpolicy, h.policy, hzero]
  | scheduled hpolicy hbackoff hcount htimer =>
    have hsome : s.loop.scheduled loop = some s.loop.connector.backoff := by
      rw [ConnectorLoop.scheduled, if_neg (by omega), htimer]
    simp only [hsome, Bool.false_eq_true, if_false]
    have hnext : loop.connector.nextBackoff = p.delay (s.retries + 1) := by
      rw [hbackoff, h.backoff, h.policy, ← ReconnectPolicy.delay_succ hinitial hregular]
    refine ⟨hpolicy.trans h.policy, ?_, fun q hq => ?_⟩
    · rw [Connector.backoff, hnext, hpolicy, h.policy]
      split
      · next hdelay => rw [hdelay, ReconnectPolicy.delay_eq_zero hinitial hregular hdelay]
      · rfl
    · obtain hq | hq := List.mem_append.mp hq
      · exact h.follows q hq
      · obtain rfl := List.mem_singleton.mp hq
        exact h.backoff

/-- Two attempts in a row fail at once. -/
def failing : List ConnectorStep := [.start (.createFails ""), .retryTimer 0 (.createFails "")]

/-- The delays of a connector whose first two attempts fail. -/
theorem run_failing (ip : String) (policy : ReconnectPolicy) :
    ∃ s, (start ip policy true false).run failing = some s ∧
      s.delays = [(0, policy.initial),
        (1, if min (policy.initial * policy.multiplier) policy.max = 0 then policy.initial
          else min (policy.initial * policy.multiplier) policy.max)] :=
  ⟨_, rfl, rfl⟩

/-- The connector follows the law of its policy in all runs exactly if the policy is regular. -/
theorem follows_iff (policy : ReconnectPolicy) (hinitial : 0 ≤ policy.initial)
    (hmax : 0 ≤ policy.max) :
    (∀ (ip : String) (newConnectionCallback errorCallback : Bool) (steps : List ConnectorStep)
      (s : RetryingConnector),
      (start ip policy newConnectionCallback errorCallback).run steps = some s → Follows policy s) ↔
      policy.Regular := by
  refine ⟨fun h => ?_, fun hregular ip newConnectionCallback errorCallback steps s hrun => ?_⟩
  · obtain ⟨s, hrun, hdelays⟩ := run_failing "" policy
    have hfollows := h "" true false failing s hrun
    have hfirst : policy.initial = min policy.max (policy.initial * (policy.multiplier : Int) ^ 0) :=
      hfollows (0, _) (by simp [hdelays])
    have hsecond : _ = min policy.max (policy.initial * (policy.multiplier : Int) ^ 1) :=
      hfollows (1, _) (by rw [hdelays]; exact List.mem_cons_of_mem _ (List.mem_singleton_self _))
    rw [pow_zero, mul_one] at hfirst
    refine ⟨by omega, ?_⟩
    by_contra hnot
    obtain ⟨hne, hmultiplier⟩ := not_or.mp hnot
    rw [not_not] at hmultiplier
    simp [hmultiplier, hmax] at hsecond
    omega
  · have h := Transition.invariant_run (I := Paced policy) (C := fun _ _ => True)
      (fun _ _ _ hI _ hstep => hI.step hinitial hregular hstep)
      (paced_start ip policy hregular newConnectionCallback errorCallback)
      (Transition.meets_of_forall fun _ _ => trivial) hrun
    exact h.follows

theorem follows_iff_default :
    (∀ (ip : String) (newConnectionCallback errorCallback : Bool) (steps : List ConnectorStep)
      (s : RetryingConnector), (start ip {} newConnectionCallback errorCallback).run steps = some s →
      Follows {} s) ↔ ReconnectPolicy.Regular {} :=
  follows_iff {} (by decide) (by decide)

/-- An initial delay above the maximum is not capped, and a multiplier of zero starts the sequence
again with every retry. -/
theorem not_follows_above_max :
    (∃ s, (start "" { initial := 10000 } true false).run failing = some s ∧
      s.delays = [(0, 10000), (1, 5000)] ∧ ¬Follows { initial := 10000 } s) ∧
    ∃ s, (start "" { multiplier := 0 } true false).run failing = some s ∧
      s.delays = [(0, 100), (1, 100)] ∧ ¬Follows { multiplier := 0 } s := by
  refine ⟨⟨_, rfl, rfl, fun h => ?_⟩, ⟨_, rfl, rfl, fun h => ?_⟩⟩
  · exact absurd (h (0, 10000) (List.mem_cons_self ..)) (by decide)
  · exact absurd (h (1, 100) (List.mem_cons_of_mem _ (List.mem_singleton_self _))) (by decide)

end RetryingConnector

end NebulaRpc.Net
