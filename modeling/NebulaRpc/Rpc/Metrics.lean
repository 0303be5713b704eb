import NebulaRpc.Library.Lists
import NebulaRpc.Library.Tables
import NebulaRpc.Rpc.Bookings

/-!
# Metrics

`RpcMetrics` counts the calls of every method and sorts their latencies into buckets. The counters
are 64-bit integers. A channel is followed with its metrics and with what nobody stores: which calls
have been begun, which functors have run, and for which call a record was made.
-/

namespace NebulaRpc.Rpc

/-- `LatencyHistogram::kBoundsUs`, in microseconds. -/
def kBoundsUs : List Int := [1000, 5000, 10000, 50000, 100000, 500000, 1000000]

def kBoundCount : Nat := 7

def kBucketCount : Nat := kBoundCount + 1

structure LatencyHistogram where
  buckets : Fin kBucketCount → UInt64 := fun _ => 0
  count : UInt64 := 0

structure MethodMetrics where
  total : UInt64 := 0
  failed : UInt64 := 0
  timeout : UInt64 := 0
  latency : LatencyHistogram := {}

structure RpcMetrics where
  methods : List (RpcMethod × MethodMetrics) := []
  cycleCount : UInt64 := 0

/-- The first bucket whose bound is not exceeded, or the last bucket. -/
def LatencyHistogram.bucket (latency : Int) : Fin kBucketCount :=
  ⟨kBoundsUs.findIdx (latency ≤ ·), Nat.lt_succ_of_le List.findIdx_le_length⟩

def LatencyHistogram.record (h : LatencyHistogram) (latency : Int) : LatencyHistogram where
  buckets := Function.update h.buckets (bucket latency) (h.buckets (bucket latency) + 1)
  count := h.count + 1

def MethodMetrics.record (m : MethodMetrics) (state : RpcCallState) (latency : Int) :
    MethodMetrics where
  total := m.total + 1
  failed := if state ≠ .timeout ∧ state ≠ .completed then m.failed + 1 else m.failed
  timeout := if state = .timeout then m.timeout + 1 else m.timeout
  latency := m.latency.record latency

namespace RpcMetrics

/-- What is known of a method. -/
def method (m : RpcMetrics) (method : RpcMethod) : MethodMetrics := Table.find {} method m.methods

def record (m : RpcMetrics) : Option RpcMethod → RpcCallState → Int → RpcMetrics
  | none, _, _ => m
  | some method, state, latency =>
    { methods := Table.modify {} method (·.record state latency) m.methods
      cycleCount := m.cycleCount + 1 }

def takeCycleCount (m : RpcMetrics) : UInt64 × RpcMetrics :=
  (m.cycleCount, { m with cycleCount := 0 })

def recordAll (m : RpcMetrics) (records : List CallRecord) : RpcMetrics :=
  records.foldl (fun m r => m.record (some r.method) r.state r.latency) m

end RpcMetrics

/-- The records that a step has made, with the call that it has notified or has asked the degrade
handler about. -/
def RpcChannel.recorded (s s' : RpcChannel) : List (Nat × CallRecord) :=
  let numbers := if s'.notified.length = s.notified.length then s'.degrading.map (·.number)
    else s'.notified
  (s'.env.metrics.drop s.env.metrics.length).map fun record => (numbers.headD 0, record)

structure MeasuredChannel where
  channel : RpcChannel
  metrics : RpcMetrics := {}
  /-- what `TakeCycleCount` has returned -/
  cycles : List UInt64 := []
  /-- the arguments of the calls, by number -/
  calls : List CallArguments := []
  /-- the functors that have run -/
  performed : List ChannelFunctor := []
  records : List (Nat × CallRecord) := []

inductive MeasuredStep where
  | channel (a : ChannelStep)
  | takeCycleCount

namespace MeasuredChannel

/-- The channel has taken a step. -/
def advance (F : MetaFormat) (s : MeasuredChannel) (a : ChannelStep) (channel : RpcChannel) :
    MeasuredChannel :=
  { s with
    channel := channel
    metrics := s.metrics.recordAll ((s.channel.recorded channel).map (·.2))
    calls := s.calls ++ a.arguments.toList
    performed := s.performed ++ (s.channel.performing F a).toList
    records := s.records ++ s.channel.recorded channel }

def step (F : MetaFormat) (s : MeasuredChannel) : MeasuredStep → Option MeasuredChannel
  | .channel a => (s.channel.step F a).map fun channel => s.advance F a channel
  | .takeCycleCount =>
    let (count, metrics) := s.metrics.takeCycleCount
    some { s with metrics := metrics, cycles := s.cycles ++ [count] }

/-- The state behind a list of steps. -/
def run (F : MetaFormat) (s : MeasuredChannel) (steps : List MeasuredStep) :
    Option MeasuredChannel :=
  Transition.run (step F) s steps

/-- A channel before its first step; other channels may have drawn request ids. -/
def start (drawn : Nat) (e : ChannelEnv) : MeasuredChannel :=
  { channel := RpcChannel.start (drawn + 1) e }

/-- The method of a call. -/
def method (s : MeasuredChannel) (k : Nat) : Option RpcMethod := s.calls[k]?.bind (·.method)

/-- The calls for which `RegisterAndSend` was called. -/
def reached (s : MeasuredChannel) : List Nat :=
  s.performed.filterMap fun functor => functor.registering.map (·.number)

/-- The calls that were completed as invalid. -/
def invalid (s : MeasuredChannel) : List Nat := s.performed.filterMap ChannelFunctor.invalidNumber

/-- The calls that were completed otherwise; a call that waits for its degrade handler is rejected. -/
def completed (s : MeasuredChannel) : List Nat :=
  (s.channel.degrading.map (·.number) ++ s.channel.notified).filter (· ∉ s.invalid)

/-- The metrics count every completed call once. -/
structure Conserved (s : MeasuredChannel) : Prop where
  once : s.completed.Nodup ∧ (s.records.map (·.1)).Perm s.completed
  own : ∀ p ∈ s.records, s.method p.1 = some p.2.method
  total : ∀ m, (s.metrics.method m).total.toNat = s.completed.countP (s.method · = some m)
  outcomes : ∀ m, (s.metrics.method m).failed.toNat + (s.metrics.method m).timeout.toNat ≤
    (s.metrics.method m).total.toNat
  latency : ∀ m, (s.metrics.method m).latency.count = (s.metrics.method m).total ∧
    ∑ i, ((s.metrics.method m).latency.buckets i).toNat = (s.metrics.method m).total.toNat
  keys : (s.metrics.methods.map (·.1)).Nodup
  cycles : (s.cycles.map (·.toNat)).sum + s.metrics.cycleCount.toNat =
    (s.metrics.methods.map (·.2.total.toNat)).sum
  reached : ∀ m, s.reached.countP (s.method · = some m) =
    (s.metrics.method m).total.toNat + s.channel.pendingNumbers.countP (s.method · = some m)

end MeasuredChannel

/-! ## What the counters count -/

theorem toNat_add_one {x : UInt64} (h : x.toNat + 1 < 2 ^ 64) : (x + 1).toNat = x.toNat + 1 := by
  rw [UInt64.toNat_add]
  exact Nat.mod_eq_of_lt h

/-- A counter of some of the records has room for one more. -/
theorem toNat_countP_add_one {α : Type} {x : UInt64} {p : α → Bool} {records : List α}
    (hlt : records.length + 1 < 2 ^ 64) (hx : x.toNat = records.countP p) :
    (x + 1).toNat = records.countP p + 1 := by
  have hle := records.countP_le_length (p := p)
  rw [toNat_add_one (by omega), hx]

/-- The histogram of these latencies. -/
structure LatencyHistogram.Counts (latencies : List Int) (h : LatencyHistogram) : Prop where
  count : h.count.toNat = latencies.length
  buckets : ∀ i, (h.buckets i).toNat = latencies.countP fun v => LatencyHistogram.bucket v = i

namespace LatencyHistogram

variable {h : LatencyHistogram} {latencies : List Int}

theorem counts_nil : Counts [] {} := ⟨rfl, fun _ => rfl⟩

theorem Counts.record (hcounts : Counts latencies h) (hlt : latencies.length + 1 < 2 ^ 64)
    (latency : Int) : Counts (latencies ++ [latency]) (h.record latency) := by
  refine ⟨?_, fun i => ?_⟩
  · have hcount := hcounts.count
    rw [LatencyHistogram.record, toNat_add_one (by omega)]
    simp [hcount]
  · simp only [LatencyHistogram.record, List.countP_append]
    obtain rfl | hne := eq_or_ne i (bucket latency)
    · simp [toNat_countP_add_one hlt (hcounts.buckets _)]
    · simp [Function.update_of_ne hne, hcounts.buckets, hne.symm]

theorem Counts.sum_buckets (hcounts : Counts latencies h) :
    ∑ i, (h.buckets i).toNat = latencies.length := by
  rw [← Lists.sum_countP_eq_length bucket]
  exact Finset.sum_congr rfl fun i _ => hcounts.buckets i

end LatencyHistogram

/-- The counters of a method for which these records were made. -/
structure MethodMetrics.Counts (records : List CallRecord) (m : MethodMetrics) : Prop where
  total : m.total.toNat = records.length
  failed : m.failed.toNat = records.countP fun r => r.state ≠ .timeout ∧ r.state ≠ .completed
  timeout : m.timeout.toNat = records.countP fun r => r.state = .timeout
  latency : m.latency.Counts (records.map (·.latency))

namespace MethodMetrics

variable {m : MethodMetrics} {records : List CallRecord}

theorem counts_nil : Counts [] {} := ⟨rfl, rfl, rfl, LatencyHistogram.counts_nil⟩

theorem Counts.record (h : Counts records m) (hlt : records.length + 1 < 2 ^ 64) (r : CallRecord) :
    Counts (records ++ [r]) (m.record r.state r.latency) := by
  refine ⟨?_, ?_, ?_, ?_⟩
  · have htotal := h.total
    rw [MethodMetrics.record, toNat_add_one (by omega)]
    simp [htotal]
  · simp only [MethodMetrics.record, List.countP_append]
    split
    · next hstate => simp [toNat_countP_add_one hlt h.failed, hstate]
    · next hstate => simp only [h.failed, List.countP_singleton, hstate]; simp
  · simp only [MethodMetrics.record, List.countP_append]
    split
    · next hstate => simp [toNat_countP_add_one hlt h.timeout, hstate]
    · next hstate => simp [h.timeout, hstate]
  · simpa [MethodMetrics.record] using h.latency.record (by simpa using hlt) r.latency

theorem Counts.count (h : Counts records m) : m.latency.count = m.total := by
  apply UInt64.toNat_inj.mp
  rw [h.latency.count, h.total, List.length_map]

theorem Counts.outcomes (h : Counts records m) :
    m.failed.toNat + m.timeout.toNat ≤ m.total.toNat := by
  rw [h.failed, h.timeout, h.total]
  exact Lists.countP_add_countP_le (by simp +contextual) records

theorem Counts.sum_buckets (h : Counts records m) :
    ∑ i, (m.latency.buckets i).toNat = m.total.toNat := by
  rw [h.latency.sum_buckets, h.total, List.length_map]

end MethodMetrics

/-- The table for these records. -/
structure RpcMetrics.Tabulates (records : List CallRecord) (m : RpcMetrics) : Prop where
  keys : (m.methods.map (·.1)).Nodup
  counts : ∀ k, (m.method k).Counts (records.filter (·.method = k))
  totals : (m.methods.map (·.2.total.toNat)).sum = records.length

namespace RpcMetrics

variable {m : RpcMetrics} {records : List CallRecord}

theorem tabulates_nil : Tabulates [] {} :=
  ⟨List.nodup_nil, fun _ => MethodMetrics.counts_nil, rfl⟩

theorem Tabulates.record (h : Tabulates records m) (hlt : records.length + 1 < 2 ^ 64)
    (r : CallRecord) : Tabulates (records ++ [r]) (m.record (some r.method) r.state r.latency) := by
  have hfits : ∀ k, (records.filter (·.method = k)).length + 1 < 2 ^ 64 := by
    intro k
    have hle := List.length_filter_le (·.method = k) records
    omega
  refine ⟨Table.nodup_keys_modify h.keys, fun k => ?_, ?_⟩
  · obtain rfl | hne := eq_or_ne k r.method
    · have hcounts := (h.counts r.method).record (hfits _) r
      simpa [RpcMetrics.method, RpcMetrics.record, Table.find_modify_self] using hcounts
    · have hcounts := h.counts k
      simpa [RpcMetrics.method, RpcMetrics.record, Table.find_modify_of_ne hne, hne.symm] using hcounts
  · have hsum := Table.sum_modify (d := {})
      (f := fun m : MethodMetrics => m.record r.state r.latency) r.method (fun m => m.total.toNat) rfl
      m.methods
    have htotal := (h.counts r.method).total
    have hrecorded := ((h.counts r.method).record (hfits _) r).total
    have htotals := h.totals
    simp only [RpcMetrics.method, List.length_append, List.length_singleton] at htotal hrecorded
    simp only [RpcMetrics.record, List.length_append, List.length_singleton]
    omega

theorem Tabulates.recordAll (h : Tabulates records m) (new : List CallRecord)
    (hlt : records.length + new.length < 2 ^ 64) : Tabulates (records ++ new) (m.recordAll new) := by
  induction new generalizing records m with
  | nil => simpa [RpcMetrics.recordAll] using h
  | cons r new ih =>
    rw [List.length_cons] at hlt
    have hone := h.record (by omega) r
    have hall := ih hone (by simp; omega)
    simpa [RpcMetrics.recordAll] using hall

theorem cycleCount_recordAll (m : RpcMetrics) (new : List CallRecord)
    (hlt : m.cycleCount.toNat + new.length < 2 ^ 64) :
    (m.recordAll new).cycleCount.toNat = m.cycleCount.toNat + new.length := by
  induction new generalizing m with
  | nil => rfl
  | cons r new ih =>
    rw [List.length_cons] at hlt
    have hone : (m.record (some r.method) r.state r.latency).cycleCount.toNat =
        m.cycleCount.toNat + 1 := toNat_add_one (by omega)
    have hall := ih (m.record (some r.method) r.state r.latency) (by omega)
    simp only [RpcMetrics.recordAll, List.foldl_cons, List.length_cons] at hall ⊢
    omega

end RpcMetrics

/-! ## Which calls are recorded -/

/-- The call has what it was begun with. -/
def Owned (calls : List CallArguments) (call : PendingCall) : Prop :=
  ∃ x, calls[call.number]? = some x ∧ x.method = some call.method ∧
    x.controller = call.controller ∧ x.response = some call.parses

theorem Owned.append {calls : List CallArguments} {call : PendingCall} (h : Owned calls call)
    (more : List CallArguments) : Owned (calls ++ more) call := by
  obtain ⟨x, hget, hx⟩ := h
  refine ⟨x, ?_, hx⟩
  rw [List.getElem?_append_left (List.getElem?_eq_some_iff.mp hget).1]
  exact hget

namespace RpcChannel

variable {F : MetaFormat} {a : ChannelStep} {s s' t : RpcChannel} {P : PendingCall → Prop}

theorem Carried.mono {P' : PendingCall → Prop} (h : Carried P s) (himp : ∀ call, P call → P' call) :
    Carried P' s :=
  ⟨fun f hf call hcall => himp _ (h.queued f hf call hcall), fun p hp => himp _ (h.pending p hp),
    fun call hcall => himp _ (h.asked call hcall)⟩

/-- A call that is begun gets the next number. -/
theorem begins_owned {calls : List CallArguments} (hlength : calls.length = s.begun) :
    Begins F (Owned (calls ++ a.arguments.toList)) s a := by
  intro x hx call hcall
  rw [hx]
  unfold prepareCall at hcall
  split at hcall
  · next method request parses hmethod hrequest hresponse =>
    dsimp only at hcall
    split at hcall
    · cases hcall
    · cases hcall
      exact ⟨x, by simp [PendingCall.begun, ← hlength], hmethod, rfl, hresponse⟩
  · cases hcall

theorem heldNumbers_eq (s : RpcChannel) : s.heldNumbers = s.degrading.map (·.number) := by
  simp only [heldNumbers, degrading, List.map_filterMap]
  congr 1
  funext f
  cases f <;> rfl

/-- The records of a step are those of its booking. -/
theorem recorded_of_books {b : Booking} {functor : Option ChannelFunctor}
    (hopens : Opens F a s t functor) (hbooks : Books t b s') :
    s.recorded s' = b.recorded.toList.map fun p => (p.1.number, p.2) := by
  obtain ⟨hmetrics, hnotified, hdegrading, -⟩ := hopens.ledger
  have hrecords : s'.env.metrics.drop s.env.metrics.length = b.recorded.toList.map (·.2) := by
    rw [hbooks.metrics, hmetrics, List.drop_left]
  have hnew := hbooks.notified
  have hasked := hbooks.degrading
  rw [hnotified] at hnew
  rw [hdegrading] at hasked
  unfold recorded
  rw [hrecords]
  cases b with
  | none | returned | invalid => rfl
  | completed call record =>
    simp [Booking.recorded, hnew, Booking.notified]
  | rejected call record =>
    have heq : s'.notified.length = s.notified.length := by simp [hnew, Booking.notified]
    simp [Booking.recorded, Booking.answered, Booking.asked] at hasked ⊢
    simp [heq, hasked]

theorem Posts.registering (h : Posts s s') :
    s'.functors.filterMap ChannelFunctor.registering =
      s.functors.filterMap ChannelFunctor.registering := by
  obtain ⟨fs, hfs, hnumber⟩ := h
  have hnone : fs.filterMap ChannelFunctor.registering = [] := by
    rw [List.filterMap_eq_nil_iff]
    intro f hf
    have hf' := hnumber f hf
    cases f <;> simp_all [ChannelFunctor.registering, ChannelFunctor.number]
  simp [hfs, hnone]

theorem number_prepareCall (F : MetaFormat) (s : RpcChannel) (x : CallArguments) :
    (s.prepareCall F x).1.number = some s.begun := by
  obtain ⟨reason, heq⟩ | ⟨bytes, call, heq, -, hnumber, -⟩ := prepareCall_functor F s x
  · rw [heq]
    rfl
  · rw [heq, ChannelFunctor.number, hnumber]

end RpcChannel

/-- A functor that carries a call registers it or completes it as invalid. -/
theorem ChannelFunctor.count_number (functors : List ChannelFunctor) (k : Nat) :
    (functors.filterMap ChannelFunctor.number).count k =
      (functors.filterMap fun f => f.registering.map (·.number)).count k +
        (functors.filterMap ChannelFunctor.invalidNumber).count k := by
  induction functors with
  | nil => rfl
  | cons f functors ih =>
    cases f <;> simp [List.filterMap_cons, ChannelFunctor.number, ChannelFunctor.registering,
      ChannelFunctor.invalidNumber, List.count_cons, ih] <;> omega

/-- What is recorded or invalid is notified, now or when the degrade handler has answered. -/
theorem Booking.count_recorded (b : Booking) (k : Nat) :
    (b.recorded.toList.map (·.1.number)).count k + b.invalidNumber.toList.count k +
        (b.answered.toList.map (·.number)).count k =
      b.notified.toList.count k + (b.asked.toList.map (·.number)).count k := by
  cases b <;> simp [Booking.recorded, Booking.invalidNumber, Booking.answered, Booking.notified,
    Booking.asked]

namespace MeasuredChannel

variable {F : MetaFormat} {s s' : MeasuredChannel} {l : MeasuredStep}

/-- What every step keeps. -/
structure Tallied (s : MeasuredChannel) : Prop where
  carried : s.channel.Carried (Owned s.calls)
  calls : s.calls.length = s.channel.begun
  ledger : ∀ k, (s.records.map (·.1)).count k + s.invalid.count k =
    s.channel.notified.count k + (s.channel.degrading.map (·.number)).count k
  queue : ∀ k, s.reached.count k + s.invalid.count k + s.channel.queuedNumbers.count k =
    if k < s.channel.begun then 1 else 0
  own : ∀ p ∈ s.records, s.method p.1 = some p.2.method
  settled : ∀ k, (s.records.map (·.1)).count k + s.channel.pendingNumbers.count k ≤
    s.reached.count k
  drawn : s.reached.length + (s.channel.functors.filterMap ChannelFunctor.registering).length + 1 ≤
    s.channel.nextRequestId
  tables : s.records.length < 2 ^ 64 → s.metrics.Tabulates (s.records.map (·.2)) ∧
    (s.cycles.map (·.toNat)).sum + s.metrics.cycleCount.toNat = s.records.length

theorem tallied_start (drawn : Nat) (e : ChannelEnv) : Tallied (start drawn e) := by
  refine ⟨⟨?_, ?_, ?_⟩, rfl, fun k => ?_, fun k => ?_, ?_, fun k => ?_, ?_, fun _ => ?_⟩
  · simp [start, RpcChannel.start]
  · simp [start, RpcChannel.start, RpcChannel.entries]
  · simp [start, RpcChannel.start, RpcChannel.degrading]
  · simp [start, RpcChannel.start, RpcChannel.degrading, invalid]
  · simp [start, RpcChannel.start, RpcChannel.queuedNumbers, reached, invalid]
  · simp [start]
  · simp [start, RpcChannel.start, RpcChannel.pendingNumbers]
  · simp [start, RpcChannel.start, reached]
  · exact ⟨RpcMetrics.tabulates_nil, rfl⟩

theorem method_append {calls : List CallArguments} {k : Nat} {m : RpcMethod}
    (h : (calls[k]?.bind (·.method)) = some m) (more : List CallArguments) :
    ((calls ++ more)[k]?.bind (·.method)) = some m := by
  obtain ⟨x, hget, hx⟩ := Option.bind_eq_some_iff.mp h
  rw [List.getElem?_append_left (List.getElem?_eq_some_iff.mp hget).1, hget]
  exact hx

/-- The tables behind some more records. -/
theorem tables_append {metrics : RpcMetrics} {cycles : List UInt64} {records new : List CallRecord}
    (h : records.length < 2 ^ 64 → metrics.Tabulates records ∧
      (cycles.map (·.toNat)).sum + metrics.cycleCount.toNat = records.length)
    (hlt : (records ++ new).length < 2 ^ 64) :
    (metrics.recordAll new).Tabulates (records ++ new) ∧
      (cycles.map (·.toNat)).sum + (metrics.recordAll new).cycleCount.toNat =
        (records ++ new).length := by
  rw [List.length_append] at hlt ⊢
  obtain ⟨htables, hcycles⟩ := h (by omega)
  refine ⟨htables.recordAll new hlt, ?_⟩
  rw [RpcMetrics.cycleCount_recordAll _ _ (by omega)]
  omega

/-- What a step of the channel does to the calls, and the records that it makes. -/
theorem Tallied.handles (h : Tallied s) {a : ChannelStep} {c : RpcChannel}
    (hstep : s.channel.step F a = some c) :
    ∃ t b, RpcChannel.Opens F a s.channel t (s.channel.performing F a) ∧
      RpcChannel.Handles (Owned (s.calls ++ a.arguments.toList)) (s.channel.performing F a) t b c ∧
      s.channel.recorded c = b.recorded.toList.map fun p => (p.1.number, p.2) := by
  have hcarried : s.channel.Carried (Owned (s.calls ++ a.arguments.toList)) :=
    h.carried.mono fun call hcall => hcall.append _
  obtain ⟨t, b, hopens, hhandles⟩ :=
    RpcChannel.step_books hcarried (RpcChannel.begins_owned h.calls) hstep
  exact ⟨t, b, hopens, hhandles, RpcChannel.recorded_of_books hopens hhandles.books⟩

theorem Tallied.channel (h : Tallied s) {a : ChannelStep} {c : RpcChannel}
    (hstep : s.channel.step F a = some c) : Tallied (s.advance F a c) := by
  obtain ⟨t, b, hopens, ⟨hbooks, hfits, -, hsettles, hcarried'⟩, hrecorded⟩ := h.handles hstep
  obtain ⟨-, hnotified, hdegrading, hentries, hbegun⟩ := hopens.ledger
  have hinvalid : ((s.channel.performing F a).toList.filterMap ChannelFunctor.invalidNumber) =
      b.invalidNumber.toList := by
    rw [hfits.invalid]
    cases s.channel.performing F a with
    | none => rfl
    | some f => cases hf : f.invalidNumber <;> simp [hf]
  unfold advance
  refine ⟨hcarried', ?_, fun k => ?_, fun k => ?_, fun p hp => ?_, fun k => ?_, ?_, fun hlt => ?_⟩
  · rw [List.length_append, h.calls, hbooks.begun, hbegun]
  · have hledger := h.ledger k
    have hcount := b.count_recorded k
    have hnew := congrArg (List.count k) hbooks.notified
    have hasked := congrArg (fun l => (l.map fun call => call.number).count k) hbooks.degrading
    simp only [hnotified, hdegrading, List.map_append, List.count_append] at hnew hasked
    simp only [invalid, List.filterMap_append, hinvalid, hrecorded, List.map_append, List.map_map,
      List.count_append, Function.comp_def] at hledger ⊢
    omega
  · have hqueue := h.queue k
    have hperm := (hopens.perm ChannelFunctor.number).count_eq k
    have hnumber := ChannelFunctor.count_number (s.channel.performing F a).toList k
    have hposts := congrArg (List.count k) hbooks.posts.queuedNumbers
    have hprepared : ((a.arguments.toList.map fun x => (s.channel.prepareCall F x).1).filterMap
        ChannelFunctor.number).count k + (if k < s.channel.begun then 1 else 0) =
          if k < c.begun then 1 else 0 := by
      rw [hbooks.begun, hbegun]
      cases a.arguments with
      | none => simp
      | some x =>
        simp only [Option.toList_some, List.map_cons, List.map_nil, List.filterMap_cons,
          RpcChannel.number_prepareCall, List.filterMap_nil, List.count_singleton, beq_iff_eq,
          List.length_singleton]
        grind
    simp only [RpcChannel.queuedNumbers, List.count_append] at hperm hposts hqueue
    simp only [reached, invalid, RpcChannel.queuedNumbers, List.filterMap_append,
      List.count_append] at hqueue ⊢
    omega
  · obtain hp | hp := List.mem_append.mp hp
    · exact method_append (h.own p hp) _
    · rw [hrecorded] at hp
      obtain ⟨q, hq, rfl⟩ := List.mem_map.mp hp
      have hq' : q ∈ b.recorded := by simpa using hq
      obtain ⟨x, hget, hmethod, -⟩ := hfits.recorded q hq'
      have hsame := hbooks.method q hq'
      exact Option.bind_eq_some_iff.mpr ⟨x, hget, hmethod.trans (congrArg some hsame.symm)⟩
  · have hold := h.settled k
    have hnew := hsettles k
    have hregistering : ((s.channel.performing F a).toList.filterMap
        fun f => f.registering.map (·.number)) =
          ((s.channel.performing F a).bind ChannelFunctor.registering).toList.map (·.number) := by
      cases s.channel.performing F a with
      | none => rfl
      | some f => cases hf : f.registering <;> simp [hf]
    rw [RpcChannel.pendingNumbers_eq t, hentries, ← RpcChannel.pendingNumbers_eq] at hnew
    simp only [hrecorded, reached, List.filterMap_append, hregistering, List.map_append,
      List.map_map, Function.comp_def, List.count_append] at hold ⊢
    omega
  · have hdrawn := h.drawn
    have hperm := (hopens.perm ChannelFunctor.registering).length_eq
    have hposts := congrArg List.length hbooks.posts.registering
    have hnext := RpcChannel.nextRequestId_step_of_arguments hstep
    have hreached : ((s.channel.performing F a).toList.filterMap
        fun f => f.registering.map (·.number)).length =
          ((s.channel.performing F a).toList.filterMap ChannelFunctor.registering).length := by
      cases s.channel.performing F a with
      | none => rfl
      | some f => cases hf : f.registering <;> simp [hf]
    simp only [List.length_append] at hperm
    simp only [reached, List.filterMap_append, List.length_append] at hdrawn ⊢
    omega
  · have hlt' : (s.records.map (·.2) ++ (s.channel.recorded c).map (·.2)).length < 2 ^ 64 := by
      simpa using hlt
    have hold : (s.records.map (·.2)).length < 2 ^ 64 → s.metrics.Tabulates (s.records.map (·.2)) ∧
        (s.cycles.map (·.toNat)).sum + s.metrics.cycleCount.toNat =
          (s.records.map (·.2)).length := by
      simpa using h.tables
    simpa using tables_append hold hlt'

theorem Tallied.step (h : Tallied s) (hstep : s.step F l = some s') : Tallied s' := by
  cases l with
  | channel a =>
    obtain ⟨c, hc, rfl⟩ := Option.map_eq_some_iff.mp hstep
    exact h.channel hc
  | takeCycleCount =>
    cases hstep
    refine ⟨h.carried, h.calls, h.ledger, h.queue, h.own, h.settled, h.drawn, fun hlt => ?_⟩
    obtain ⟨htables, hcycles⟩ := h.tables hlt
    refine ⟨⟨htables.keys, htables.counts, htables.totals⟩, ?_⟩
    simpa [RpcMetrics.takeCycleCount] using hcycles

/-! ## Nothing is lost -/

theorem tallied_run {drawn : Nat} {e : ChannelEnv} {steps : List MeasuredStep}
    (hrun : (start drawn e).run F steps = some s) (hwrap : s.channel.nextRequestId ≤ 2 ^ 64) :
    Tallied s ∧ s.channel.Balanced [] [] := by
  have hkeep : ∀ (s : MeasuredChannel) (l : MeasuredStep) (s' : MeasuredChannel),
      Tallied s ∧ (s.channel.nextRequestId ≤ 2 ^ 64 → s.channel.Balanced [] []) → True →
      s.step F l = some s' →
      Tallied s' ∧ (s'.channel.nextRequestId ≤ 2 ^ 64 → s'.channel.Balanced [] []) := by
    intro s l s' h _ hstep
    refine ⟨h.1.step hstep, ?_⟩
    cases l with
    | channel a =>
      obtain ⟨c, hc, rfl⟩ := Option.map_eq_some_iff.mp hstep
      exact fun hwrap =>
        (h.2 ((RpcChannel.nextRequestId_le_step hc).trans hwrap)).step hc hwrap
    | takeCycleCount =>
      cases hstep
      exact h.2
  have hstart : Tallied (start drawn e) ∧ ((start drawn e).channel.nextRequestId ≤ 2 ^ 64 →
      (start drawn e).channel.Balanced [] []) :=
    ⟨tallied_start drawn e, fun _ => RpcChannel.balanced_start _ _⟩
  obtain ⟨h, hbalanced⟩ := Transition.invariant_run hkeep hstart
    (Transition.meets_of_forall fun _ _ => trivial) hrun
  exact ⟨h, hbalanced hwrap⟩

/-- What has reached `RegisterAndSend` is recorded or pending. -/
theorem Tallied.reached_perm (h : Tallied s) (hbalanced : s.channel.Balanced [] []) :
    s.reached.Perm (s.records.map (·.1) ++ s.channel.pendingNumbers) := by
  refine List.perm_iff_count.mpr fun k => ?_
  have hcensus := hbalanced.census k
  have hledger := h.ledger k
  have hqueue := h.queue k
  simp only [RpcChannel.census, RpcChannel.heldNumbers_eq, List.count_nil] at hcensus
  rw [List.count_append]
  omega

theorem Tallied.count_completed (h : Tallied s) (hbalanced : s.channel.Balanced [] []) (k : Nat) :
    s.completed.count k = (s.records.map (·.1)).count k ∧ s.completed.count k ≤ 1 := by
  have hcensus := hbalanced.census k
  have hledger := h.ledger k
  simp only [RpcChannel.census, RpcChannel.heldNumbers_eq, List.count_nil] at hcensus
  have hone : s.channel.notified.count k +
      (s.channel.degrading.map (·.number)).count k ≤ 1 := by
    split at hcensus <;> omega
  by_cases hk : k ∈ s.invalid
  · have hpos := List.count_pos_iff.mpr hk
    have hzero : s.completed.count k = 0 := by
      refine List.count_eq_zero.mpr fun hmem => ?_
      simpa [hk] using (List.mem_filter.mp hmem).2
    omega
  · have hzero := List.count_eq_zero.mpr hk
    have hcount : s.completed.count k = (s.channel.degrading.map (·.number)).count k +
        s.channel.notified.count k := by
      rw [completed, List.count_filter (by simpa using hk), List.count_append]
    omega

theorem conserved_of_tallied (h : Tallied s) (hbalanced : s.channel.Balanced [] [])
    (hwrap : s.channel.nextRequestId ≤ 2 ^ 64) : Conserved s := by
  have hreached := h.reached_perm hbalanced
  have honce : (s.records.map (·.1)).Perm s.completed :=
    List.perm_iff_count.mpr fun k => (h.count_completed hbalanced k).1.symm
  have hlt : s.records.length < 2 ^ 64 := by
    have hlength := hreached.length_eq
    have hdrawn := h.drawn
    rw [List.length_append, List.length_map] at hlength
    omega
  obtain ⟨htables, hcycles⟩ := h.tables hlt
  have htotal : ∀ m, (s.metrics.method m).total.toNat =
      (s.records.map (·.1)).countP (s.method · = some m) := by
    intro m
    rw [(htables.counts m).total, ← List.countP_eq_length_filter, List.countP_map, List.countP_map]
    refine List.countP_congr fun p hp => ?_
    simp [h.own p hp]
  refine ⟨⟨?_, honce⟩, h.own, fun m => ?_, fun m => ?_, fun m => ?_, htables.keys, ?_, fun m => ?_⟩
  · exact List.nodup_iff_count_le_one.mpr fun k => (h.count_completed hbalanced k).2
  · rw [htotal, honce.countP_eq]
  · exact (htables.counts m).outcomes
  · exact ⟨(htables.counts m).count, (htables.counts m).sum_buckets⟩
  · rw [hcycles, htables.totals, List.length_map]
  · rw [hreached.countP_eq, List.countP_append, htotal]

/-- In every run in which the request ids do not wrap, the metrics conserve calls. -/
theorem metrics_conserve (F : MetaFormat) (drawn : Nat) (e : ChannelEnv)
    (steps : List MeasuredStep) (s : MeasuredChannel)
    (hrun : (start drawn e).run F steps = some s) (hwrap : s.channel.nextRequestId ≤ 2 ^ 64) :
    Conserved s := by
  obtain ⟨h, hbalanced⟩ := tallied_run hrun hwrap
  exact conserved_of_tallied h hbalanced hwrap

/-- Two calls are completed, a third one is invalid, and the cycle ends. -/
def answered : List MeasuredStep := RpcChannel.answered.map .channel ++ [.takeCycleCount]

theorem metrics_conserve_answered :
    ∃ s, (start 0 {}).run wireFormat answered = some s ∧ s.completed = [1, 0] ∧ s.invalid = [2] ∧
      s.cycles = [2] ∧ Conserved s :=
  ⟨_, rfl, rfl, rfl, rfl, metrics_conserve wireFormat 0 {} answered _ rfl (by decide)⟩

theorem run_drawRequestId (F : MetaFormat) (s : MeasuredChannel) (n : Nat) :
    s.run F (List.replicate n (.channel .drawRequestId)) =
      some { s with
        channel := { s.channel with nextRequestId := s.channel.nextRequestId + n } } := by
  have hrecorded : ∀ (c : RpcChannel) (k : Nat), c.recorded { c with nextRequestId := k } = [] := by
    simp [RpcChannel.recorded]
  induction n generalizing s with
  | zero => rfl
  | succ n ih =>
    rw [List.replicate_succ]
    refine Transition.run_cons_eq_some_iff.mpr ⟨_, rfl, (ih _).trans ?_⟩
    simp [advance, hrecorded, RpcMetrics.recordAll, RpcChannel.performing, ChannelStep.arguments,
      Nat.add_assoc, Nat.add_comm 1 n]

/-- A connection comes up and a call is sent. -/
def firstCall : List MeasuredStep :=
  [.channel (.connectionUp 0), .channel (.beginCall RpcChannel.emptyCall 0),
    .channel (.resume false 0 [])]

def secondCall : List MeasuredStep :=
  [.channel (.beginCall RpcChannel.emptyCall 0), .channel (.resume false 0 [])]

/-- The state in which the first call is pending, with this many ids drawn. -/
def firstPending (n : Nat) : MeasuredChannel :=
  let s := ((start 0 {}).run wireFormat firstCall).getD (start 0 {})
  { s with channel := { s.channel with nextRequestId := n } }

/-- The second call finds its id taken: it is neither pending nor recorded. -/
theorem run_secondCall {n : Nat} (hn : UInt64.ofNat n = 1) :
    ∃ s, (firstPending n).run wireFormat secondCall = some s ∧ s.reached = [0, 1] ∧
      s.channel.pendingNumbers = [0] ∧ s.records = [] ∧ s.metrics.methods = [] ∧
      s.method 0 = RpcChannel.emptyCall.method ∧ s.method 1 = RpcChannel.emptyCall.method := by
  simp only [run, secondCall, Transition.run, step, advance, RpcChannel.step, RpcChannel.prepareCall,
    RpcChannel.emptyCall, firstPending, hn, RpcChannel.performing]
  exact ⟨_, rfl, rfl, rfl, rfl, rfl, rfl, rfl⟩

/-- When the request ids come around, a call can get lost. -/
theorem not_conserved_of_wrap :
    ∃ s, (start 0 {}).run wireFormat
        (firstCall ++ List.replicate (2 ^ 64 - 1) (.channel .drawRequestId) ++ secondCall) = some s ∧
      s.reached = [0, 1] ∧ s.records = [] ∧ s.channel.pendingNumbers = [0] ∧ ¬Conserved s := by
  have hn : UInt64.ofNat (2 + (2 ^ 64 - 1)) = 1 := by decide
  obtain ⟨s, hrun, hreached, hpending, hrecords, hmethods, hmethod₀, hmethod₁⟩ := run_secondCall hn
  have hfirst : (start 0 {}).run wireFormat firstCall = some (firstPending 2) := rfl
  have hdraw := run_drawRequestId wireFormat (firstPending 2) (2 ^ 64 - 1)
  refine ⟨s, ?_, hreached, hrecords, hpending, fun h => ?_⟩
  · unfold run at hfirst hdraw hrun ⊢
    rw [Transition.run_append, Transition.run_append, hfirst, Option.bind_some, hdraw,
      Option.bind_some]
    exact hrun
  · have hcount := h.reached { serviceName := octets "s", index := 0 }
    simp [hreached, hpending, hmethod₀, hmethod₁, RpcMetrics.method, hmethods, Table.find,
      RpcChannel.emptyCall] at hcount

end MeasuredChannel

end NebulaRpc.Rpc
