import NebulaRpc.Rpc.Metrics

/-!
# The metrics and the caller

What is recorded for a call is set beside what its caller sees in the controller when it is notified.
The record is made first: before the response is parsed, and before the degrade handler is asked.
-/

namespace NebulaRpc.Rpc

/-- The caller sees a success. -/
def RpcController.succeeded (c : RpcController) : Prop := c.callState = .completed ∧ c.failed = false

/-- A frame with the answer of the server to a call with the arguments `x`, whose controller `c` has
not failed before. -/
def RpcFrame.answers (frame : RpcFrame) (x : CallArguments) (c : RpcController) : Prop :=
  frame.rpcMeta.type = .error ∨ frame.rpcMeta.type = .response ∧
    (∃ parses ∈ x.response, parses frame.payload = true) ∧ c.failed = false

namespace RpcChannel

/-- The frame that the channel is about to handle. -/
def handling (s : RpcChannel) : Option RpcFrame :=
  match s.stack with
  | .onMessage _ (frame :: _) _ :: _ => some frame
  | _ => none

/-- The degrade handler is running, and it is asked about this call. -/
def asks (s : RpcChannel) (k : Nat) : Prop :=
  ∃ id call reason stack, s.stack = .degrade id call reason :: stack ∧ call.number = k

end RpcChannel

namespace MeasuredChannel

/-- The step from `s` to `s'` notifies the call that was begun with the arguments `x`; its controller
is `c`, and `state` is what is recorded for it. -/
structure Classified (s s' : MeasuredChannel) (k : Nat) (x : CallArguments) (c : Nat)
    (state : RpcCallState) : Prop where
  timeout : state = .timeout ↔ (s'.channel.env.controllers c).callState = .timeout
  /-- an overload rejection is recorded as a failure, whatever the degrade handler decides -/
  asked : s.channel.asks k → state = .failed
  success : ¬s.channel.asks k →
    (∀ frame ∈ s.channel.handling, frame.answers x (s.channel.env.controllers c)) →
    (state = .completed ↔ (s'.channel.env.controllers c).succeeded)

/-- A step notifies at most one call. If this is not invalid, then it has exactly one record. -/
def Classifies (s s' : MeasuredChannel) : Prop :=
  s'.channel.notified = s.channel.notified ∨ ∃ k, s'.channel.notified = k :: s.channel.notified ∧
    (k ∉ s'.invalid → ∃ record x, (∀ r, (k, r) ∈ s'.records ↔ r = record) ∧ s'.calls[k]? = some x ∧
      ∀ c ∈ x.controller, Classified s s' k x c record.state)

end MeasuredChannel

/-! ## What the caller sees -/

namespace ChannelEnv

variable {call : PendingCall} {c : Nat} (e : ChannelEnv)

/-- A frame makes the call completed, and an answer of the server that parses leaves the controller
as it was. -/
theorem controllers_finish_frame (hcontroller : call.controller = some c) (frame : RpcFrame) :
    ((e.finish call (.frame frame)).controllers c).callState = .completed ∧
      (frame.rpcMeta.type = .error → ((e.finish call (.frame frame)).controllers c).failed = true) ∧
      (frame.rpcMeta.type = .response → call.parses frame.payload = true →
        ((e.finish call (.frame frame)).controllers c).failed = (e.controllers c).failed) := by
  have hcode : ∀ (e : ChannelEnv) code, (e.setRemoteErrorCode call code).controllers = e.controllers := by
    intro e code
    unfold setRemoteErrorCode
    split <;> rfl
  simp only [finish, applyFrame, hcontroller, updateController]
  refine ⟨?_, fun htype => ?_, fun htype hparses => ?_⟩
  · split
    · simp [RpcController.setFailed, RpcController.markCallState]
    split
    · simp [RpcController.setFailed, RpcController.markCallState]
    split
    · simp [RpcController.markCallState]
    · simp [RpcController.setFailed, RpcController.markCallState]
  · simp [htype, RpcController.setFailed]
  · simp [htype, hparses, RpcController.markCallState, hcode, record]

theorem controllers_finish_failure (hcontroller : call.controller = some c) (reason : List UInt8)
    (state : RpcCallState) :
    ((e.finish call (.failure reason state)).controllers c).callState = state ∧
      ((e.finish call (.failure reason state)).controllers c).failed = true := by
  simp [finish, applyFailure, hcontroller, updateController, RpcController.setFailed,
    RpcController.markCallState]

theorem controllers_finish_cancel (hcontroller : call.controller = some c) :
    ((e.finish call .cancel).controllers c).callState = .cancelled := by
  simp [finish, hcontroller, updateController, RpcController.markCanceled]

end ChannelEnv

/-- The record of a call that has ended, and its controller. -/
theorem Ending.classified {e : ChannelEnv} {call : PendingCall} {c : Nat} {x : CallArguments}
    {before : RpcController} (hcontroller : call.controller = some c)
    (hresponse : x.response = some call.parses) (ending : Ending)
    (hfailure : ∀ reason, ending ≠ .failure reason .completed)
    (hbefore : ∀ frame, ending = .frame frame → (e.controllers c).failed = before.failed) :
    (ending.recorded = .timeout ↔ ((e.finish call ending).controllers c).callState = .timeout) ∧
      ((∀ frame, ending = .frame frame → frame.answers x before) →
        (ending.recorded = .completed ↔ ((e.finish call ending).controllers c).succeeded)) := by
  cases ending with
  | frame frame =>
    obtain ⟨hstate, herror, hparsed⟩ := e.controllers_finish_frame hcontroller frame
    refine ⟨?_, fun hanswers => ?_⟩
    · rw [hstate]
      simp only [Ending.recorded]
      split <;> simp
    · obtain htype | ⟨htype, ⟨parses, hparses, htrue⟩, hfailed⟩ := hanswers frame rfl
      · simp [Ending.recorded, htype, RpcController.succeeded, herror htype]
      · obtain rfl : call.parses = parses := Option.some.inj (hresponse.symm.trans hparses)
        simp [Ending.recorded, htype, RpcController.succeeded, hstate, hparsed htype htrue,
          hbefore frame rfl, hfailed]
  | failure reason state =>
    obtain ⟨hstate, hfailed⟩ := e.controllers_finish_failure hcontroller reason state
    have hne : state ≠ .completed := fun h => hfailure reason (h ▸ rfl)
    refine ⟨?_, fun _ => ?_⟩
    · simp [Ending.recorded, hstate]
    · simp [Ending.recorded, RpcController.succeeded, hfailed, hne]
  | cancel =>
    have hstate := e.controllers_finish_cancel hcontroller
    refine ⟨?_, fun _ => ?_⟩
    · simp [Ending.recorded, hstate]
    · simp [Ending.recorded, RpcController.succeeded, hstate]

/-- The controller behind the decision of the degrade handler. -/
theorem RpcChannel.controllers_degraded (s : RpcChannel) {call : PendingCall} {c : Nat}
    (hcontroller : call.controller = some c) (reason : List UInt8) (accepted : Bool) :
    ((s.degraded call reason accepted).env.controllers c).callState ≠ .timeout := by
  rw [RpcChannel.degraded, RpcChannel.env_notifyCompletion]
  cases accepted <;>
    simp [hcontroller, ChannelEnv.applyFailure, ChannelEnv.updateController,
      RpcController.markCallState]

namespace MeasuredChannel

variable {F : MetaFormat} {s s' : MeasuredChannel} {l : MeasuredStep}

theorem Tallied.count_records_le (h : Tallied s) (k : Nat) :
    (s.records.map (·.1)).count k + s.invalid.count k ≤ 1 := by
  have hsettled := h.settled k
  have hqueue := h.queue k
  split at hqueue <;> omega

/-- A call has one record at most. -/
theorem Tallied.record_unique (h : Tallied s) {k : Nat} {r r' : CallRecord} (hr : (k, r) ∈ s.records)
    (hr' : (k, r') ∈ s.records) : r = r' := by
  have hone : (s.records.filter (·.1 = k)).length ≤ 1 := by
    have hcount := h.count_records_le k
    rw [List.count, List.countP_map, List.countP_eq_length_filter] at hcount
    simp only [Function.comp_def, beq_eq_decide] at hcount
    omega
  have hmem : ∀ {r}, (k, r) ∈ s.records → (k, r) ∈ s.records.filter (·.1 = k) := fun hr =>
    List.mem_filter.mpr ⟨hr, by simp⟩
  obtain ⟨i, hi, hget⟩ := List.getElem_of_mem (hmem hr)
  obtain ⟨j, hj, hget'⟩ := List.getElem_of_mem (hmem hr')
  obtain rfl : i = j := by omega
  exact congrArg Prod.snd (hget.symm.trans hget')

/-- A call about which the degrade handler is asked, or that has been notified, has a record, unless
it is invalid. -/
theorem Tallied.exists_record (h : Tallied s) {k : Nat} (hvalid : k ∉ s.invalid)
    (hk : 0 < s.channel.notified.count k + (s.channel.degrading.map (·.number)).count k) :
    ∃ r, (k, r) ∈ s.records := by
  have hledger := h.ledger k
  have hinvalid := List.count_eq_zero.mpr hvalid
  have hmem := List.count_pos_iff.mp (show 0 < (s.records.map (·.1)).count k by omega)
  obtain ⟨⟨_, r⟩, hr, rfl⟩ := List.mem_map.mp hmem
  exact ⟨r, hr⟩

/-- The rejections that the degrade handler is asked about are recorded as failures. -/
def AskedFailed (s : MeasuredChannel) : Prop :=
  ∀ call ∈ s.channel.degrading, ∀ r, (call.number, r) ∈ s.records → r.state = .failed

/-- A call about which the degrade handler is asked is recorded already. -/
theorem Tallied.not_mem_recorded (h : Tallied s) {a : ChannelStep} {c : RpcChannel}
    (hstep : s.channel.step F a = some c) {call : PendingCall} (hcall : call ∈ s.channel.degrading)
    (r : CallRecord) : (call.number, r) ∉ s.channel.recorded c := by
  intro hr
  have hledger := h.ledger call.number
  have hone := (h.channel hstep).count_records_le call.number
  have hasked : 0 < (s.channel.degrading.map (·.number)).count call.number :=
    List.count_pos_iff.mpr (List.mem_map_of_mem hcall)
  have hnew : 0 < ((s.channel.recorded c).map (·.1)).count call.number :=
    List.count_pos_iff.mpr (List.mem_map_of_mem hr)
  simp only [advance, invalid, List.map_append, List.filterMap_append, List.count_append]
    at hone hledger
  omega

theorem AskedFailed.channel (hasked : AskedFailed s) (h : Tallied s) {a : ChannelStep}
    {c : RpcChannel} (hstep : s.channel.step F a = some c) : AskedFailed (s.advance F a c) := by
  obtain ⟨t, b, hopens, hhandles, hrecorded⟩ := h.handles hstep
  have hdegrading := hhandles.books.degrading
  rw [hopens.ledger.2.2.1] at hdegrading
  -- the call was asked about before, and so it has no new record
  have hold : ∀ call ∈ s.channel.degrading, ∀ r, (call.number, r) ∈ (s.advance F a c).records →
      r.state = .failed := by
    intro call hcall r hr
    obtain hr | hr := List.mem_append.mp hr
    · exact hasked call hcall r hr
    · exact absurd hr (h.not_mem_recorded hstep hcall r)
  intro call hcall
  cases b with
  | none | completed | invalid =>
    have heq : c.degrading = s.channel.degrading := hdegrading
    exact hold call (heq ▸ hcall)
  | returned call' =>
    have heq : call' :: c.degrading = s.channel.degrading := hdegrading
    exact hold call (heq ▸ List.mem_cons_of_mem _ hcall)
  | rejected call' record =>
    have heq : c.degrading = call' :: s.channel.degrading := hdegrading
    obtain rfl | hcall := List.mem_cons.mp (heq ▸ hcall : call ∈ call' :: s.channel.degrading)
    · intro r hr
      have hnew : (call.number, record) ∈ (s.advance F a c).records :=
        List.mem_append_right _ (by simp [hrecorded, Booking.recorded])
      obtain rfl := (h.channel hstep).record_unique hr hnew
      cases hhandles.ends with
      | rejected hstate => exact hstate
    · exact hold call hcall

/-! ## Every step classifies -/

/-- The call that a step has recorded and notified. -/
theorem Tallied.classifies_completed (h : Tallied s) {a : ChannelStep} {c t : RpcChannel}
    (hstep : s.channel.step F a = some c) {call : PendingCall} {record : CallRecord}
    (hopens : RpcChannel.Opens F a s.channel t (s.channel.performing F a))
    (hends : RpcChannel.Ends t (.completed call record) c)
    (hrecord : (call.number, record) ∈ s.channel.recorded c) {x : CallArguments}
    (hcontroller : x.controller = call.controller) (hresponse : x.response = some call.parses)
    {m : Nat} (hm : x.controller = some m) :
    Classified s (s.advance F a c) call.number x m record.state := by
  obtain ⟨hstack, hcontrollers⟩ := hopens.frame
  cases hends with
  | completed e ending henv hstate hfailure hframe =>
    have hbefore : ∀ frame, ending = .frame frame →
        (e.controllers m).failed = (s.channel.env.controllers m).failed := by
      intro frame hending
      rw [(hframe frame hending).2 m, hcontrollers]
    obtain ⟨htimeout, hsuccess⟩ := Ending.classified (hcontroller.symm.trans hm) hresponse ending
      hfailure hbefore
    rw [← henv, ← hstate] at htimeout hsuccess
    refine ⟨htimeout, ?_, fun _ hanswers => hsuccess fun frame hending => ?_⟩
    · rintro ⟨id, call', reason, stack, htop, hnumber⟩
      have hcall : call' ∈ s.channel.degrading := by
        simp [RpcChannel.degrading, htop, ChannelFrame.degrading]
      exact absurd (hnumber ▸ hrecord) (h.not_mem_recorded hstep hcall record)
    · obtain ⟨⟨conn, frames, error, stack, htop⟩, -⟩ := hframe frame hending
      rw [hstack] at htop
      exact hanswers frame (by simp [RpcChannel.handling, htop])

theorem Tallied.classifies (h : Tallied s) (hasked : AskedFailed s) {a : ChannelStep}
    {c : RpcChannel} (hstep : s.channel.step F a = some c) : Classifies s (s.advance F a c) := by
  obtain ⟨t, b, hopens, hhandles, hrecorded⟩ := h.handles hstep
  have h' := h.channel hstep
  have hnotified := hhandles.books.notified
  rw [hopens.ledger.2.1] at hnotified
  have hunique : ∀ {k : Nat} {record : CallRecord}, (k, record) ∈ (s.advance F a c).records →
      ∀ r, (k, r) ∈ (s.advance F a c).records ↔ r = record := fun hmem r =>
    ⟨fun hr => h'.record_unique hr hmem, fun hr => hr ▸ hmem⟩
  cases b with
  | none => exact .inl hnotified
  | rejected => exact .inl hnotified
  | completed call record =>
    have hrecord : (call.number, record) ∈ s.channel.recorded c := by
      simp [hrecorded, Booking.recorded]
    obtain ⟨x, hget, -, hcontroller, hresponse⟩ := hhandles.fits.recorded (call, record) rfl
    refine .inr ⟨call.number, hnotified, fun _ => ⟨record, x, hunique ?_, hget, fun m hm => ?_⟩⟩
    · exact List.mem_append_right _ hrecord
    · exact h.classifies_completed hstep hopens hhandles.ends hrecord hcontroller hresponse hm
  | returned call =>
    obtain ⟨x, hget, -, hcontroller, -⟩ := hhandles.fits.answered call rfl
    refine .inr ⟨call.number, hnotified, fun hvalid => ?_⟩
    have hpos : 0 < (s.advance F a c).channel.notified.count call.number := by
      rw [show (s.advance F a c).channel.notified = call.number :: s.channel.notified from hnotified]
      simp
    obtain ⟨record, hrecord⟩ := h'.exists_record hvalid (Nat.add_pos_left hpos _)
    refine ⟨record, x, hunique hrecord, hget, fun m hm => ?_⟩
    cases hhandles.ends with
    | @returned _ id reason stack accepted hstack =>
      rw [hopens.frame.1] at hstack
      have hcall : call ∈ s.channel.degrading := by
        simp [RpcChannel.degrading, hstack, ChannelFrame.degrading]
      have hstate : record.state = .failed := by
        obtain hr | hr := List.mem_append.mp hrecord
        · exact hasked call hcall record hr
        · exact absurd hr (h.not_mem_recorded hstep hcall record)
      have hne := RpcChannel.controllers_degraded { t with stack := stack }
        (hcontroller.symm.trans hm) reason accepted
      refine ⟨?_, fun _ => hstate, fun hasks => absurd ⟨id, call, reason, stack, hstack, rfl⟩ hasks⟩
      rw [hstate]
      exact ⟨fun hcompleted => absurd hcompleted (by decide), fun htimeout => absurd htimeout hne⟩
  | invalid number =>
    refine .inr ⟨number, hnotified, fun hvalid => absurd ?_ hvalid⟩
    have hinvalid : some number = (s.channel.performing F a).bind ChannelFunctor.invalidNumber :=
      hhandles.fits.invalid
    obtain ⟨functor, hfunctor, hnumber⟩ := Option.bind_eq_some_iff.mp hinvalid.symm
    refine List.mem_filterMap.mpr ⟨functor, List.mem_append_right _ ?_, hnumber⟩
    simp [hfunctor]

theorem asked_start (drawn : Nat) (e : ChannelEnv) : AskedFailed (start drawn e) := by
  intro call _ r hr
  cases hr

theorem classified_run {drawn : Nat} {e : ChannelEnv} {steps : List MeasuredStep}
    (hrun : (start drawn e).run F steps = some s) : Tallied s ∧ AskedFailed s := by
  have hkeep : ∀ (s : MeasuredChannel) (l : MeasuredStep) (s' : MeasuredChannel),
      Tallied s ∧ AskedFailed s → True → s.step F l = some s' → Tallied s' ∧ AskedFailed s' := by
    intro s l s' h _ hstep
    refine ⟨h.1.step hstep, ?_⟩
    cases l with
    | channel a =>
      obtain ⟨c, hc, rfl⟩ := Option.map_eq_some_iff.mp hstep
      exact h.2.channel h.1 hc
    | takeCycleCount =>
      cases hstep
      exact h.2
  have hstart : Tallied (start drawn e) ∧ AskedFailed (start drawn e) :=
    ⟨tallied_start drawn e, asked_start drawn e⟩
  have h := Transition.invariant_run hkeep hstart (Transition.meets_of_forall fun _ _ => trivial) hrun
  exact h

/-- In every run, each step classifies the call that it notifies. -/
theorem metrics_classify (F : MetaFormat) (drawn : Nat) (e : ChannelEnv) (steps : List MeasuredStep)
    (s : MeasuredChannel) (hrun : (start drawn e).run F steps = some s) (l : MeasuredStep)
    (s' : MeasuredChannel) (hstep : s.step F l = some s') : Classifies s s' := by
  obtain ⟨h, hasked⟩ := classified_run hrun
  cases l with
  | channel a =>
    obtain ⟨c, hc, rfl⟩ := Option.map_eq_some_iff.mp hstep
    exact h.classifies hasked hc
  | takeCycleCount =>
    cases hstep
    exact .inl rfl

/-- A call with a controller, whose response never parses. -/
def unparsableCall : CallArguments :=
  { RpcChannel.emptyCall with controller := some 0, response := some fun _ => false }

/-- One call may be pending, the degrade handler is installed, and a second call is begun. -/
def overloaded : List MeasuredStep :=
  [.channel (.setMaxPendingCalls 1), .channel (.setDegradeHandler true), .channel (.connectionUp 0),
    .channel (.beginCall RpcChannel.emptyCall 0), .channel (.resume false 0 []),
    .channel (.beginCall unparsableCall 0)]

/-- A response arrives for the only call. -/
def answeredBadly : List MeasuredStep :=
  [.channel (.connectionUp 0), .channel (.beginCall unparsableCall 0), .channel (.resume false 0 []),
    .channel (.onMessage 0 [{ rpcMeta := { type := .response, requestId := 1 } }] none)]

theorem metrics_classify_overloaded :
    ∃ s s', (start 0 {}).run wireFormat overloaded = some s ∧
      s.step wireFormat (.channel (.resume false 0 [])) = some s' ∧ s'.channel.notified = [1] ∧
      s'.invalid = [] ∧ Classifies s s' :=
  ⟨_, _, rfl, rfl, rfl, rfl,
    metrics_classify wireFormat 0 {} overloaded _ rfl (.channel (.resume false 0 [])) _ rfl⟩

/-- A rejection that the degrade handler turns into a success is recorded as a failure, and a response
that does not parse is recorded as a success. -/
theorem recorded_unlike_seen :
    (∃ s, (start 0 {}).run wireFormat (overloaded ++ [.channel (.resume true 0 [])]) = some s ∧
      s.channel.notified = [1] ∧ s.records.map (fun p => (p.1, p.2.state)) = [(1, .failed)] ∧
      (s.channel.env.controllers 0).succeeded) ∧
    ∃ s, (start 0 {}).run wireFormat (answeredBadly ++ [.channel (.resume false 0 [])]) = some s ∧
      s.channel.notified = [0] ∧ s.records.map (fun p => (p.1, p.2.state)) = [(0, .completed)] ∧
      ¬(s.channel.env.controllers 0).succeeded := by
  refine ⟨⟨_, rfl, rfl, rfl, rfl, rfl⟩, ⟨_, rfl, rfl, rfl, ?_⟩⟩
  rintro ⟨-, hfailed⟩
  cases hfailed

end MeasuredChannel

end NebulaRpc.Rpc
