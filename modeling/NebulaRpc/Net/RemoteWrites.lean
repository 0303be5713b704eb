import NebulaRpc.Library.Transition
import NebulaRpc.Net.Output

/-!
# Writes from other threads

`TcpConnection::Write` and `Flush` on threads other than the loop thread: the test of `Connected`,
the post of `WriteInLoop` or `FlushInLoop`, and the functor that the loop runs, in the order of the
posts. In between, the loop thread does with the connection what it likes.
-/

namespace NebulaRpc.Net

/-- A functor that another thread has posted for a connection. -/
inductive RemoteFunctor where
  | writeInLoop (data : List UInt8)
  | flushInLoop

def RemoteFunctor.payload : RemoteFunctor → Option (List UInt8)
  | .writeInLoop data => some data
  | .flushInLoop => none

structure RemoteWrites where
  stream : OutputStream
  /-- the payloads of calls of `Write` between the test of `Connected` and the post -/
  checked : List (List UInt8) := []
  /-- the calls of `Flush` between the test of `Connected` and the post -/
  flushing : Nat := 0
  queue : List RemoteFunctor := []
  /-- the payloads of the calls of `Write`, on any thread, that have passed the test -/
  passed : List (List UInt8) := []

inductive RemoteWritesStep where
  /-- `Write` on another thread, up to the test of `Connected` -/
  | checkWrite (data : List UInt8)
  /-- the post of one of these calls -/
  | postWrite (index : Nat)
  /-- `Flush` on another thread, up to the test of `Connected` -/
  | checkFlush
  | postFlush
  /-- the loop runs the next functor -/
  | runNext (send : SendResult)
  /-- the loop thread does something with the connection -/
  | act (l : ConnectionAction)

/-- `send` takes this many bytes. -/
def SendResult.takes : SendResult → Nat → Bool
  | .sent count, n => n ≤ count
  | _, _ => false

/-- The payload of a call of `Write` on the loop thread that passes its test. -/
def TcpConnection.passes (c : TcpConnection) : ConnectionAction → List (List UInt8)
  | .write data => if c.connected && data ≠ [] then [data] else []
  | _ => []

/-- The action ends with the FIN: `Shutdown` finds nothing to send or sends it at once, or the last
byte of a connection that is shutting down is sent. -/
def TcpConnection.finDue (c : TcpConnection) : ConnectionAction → Bool
  | .shutdown send => c.connected &&
      (c.outputBuffer.readableBytes = 0 ||
        !c.isWriting && send.takes c.outputBuffer.readableBytes)
  | .handleWrite send => c.state = .disconnecting && c.isWriting &&
      send.takes c.outputBuffer.readableBytes
  | _ => false

namespace RemoteWrites

def connection (s : RemoteWrites) : TcpConnection := s.stream.connection

/-- `WriteInLoop` or `FlushInLoop`, from the queue. -/
def perform (stream : OutputStream) (send : SendResult) : RemoteFunctor → OutputStream
  | .writeInLoop data =>
    ⟨stream.connection.writeInLoop data, stream.accepted ++ stream.connection.queued data⟩
  | .flushInLoop => { stream with connection := stream.connection.flushInLoop send }

def step (s : RemoteWrites) : RemoteWritesStep → Option RemoteWrites
  | .checkWrite data =>
    some (if s.connection.connected && data ≠ [] then
      { s with checked := s.checked ++ [data], passed := s.passed ++ [data] } else s)
  | .postWrite index =>
    (s.checked[index]?).map fun data =>
      { s with checked := s.checked.eraseIdx index, queue := s.queue ++ [.writeInLoop data] }
  | .checkFlush =>
    some (if s.connection.connected then { s with flushing := s.flushing + 1 } else s)
  | .postFlush =>
    if s.flushing ≠ 0 then
      some { s with flushing := s.flushing - 1, queue := s.queue ++ [.flushInLoop] }
    else none
  | .runNext send =>
    match s.queue with
    | [] => none
    | functor :: queue => some { s with stream := perform s.stream send functor, queue := queue }
  | .act l =>
    some { s with stream := s.stream.step l, passed := s.passed ++ s.connection.passes l }

def run (s : RemoteWrites) (steps : List RemoteWritesStep) : Option RemoteWrites :=
  Transition.run step s steps

def start (maxInputBufferBytes maxOutputBufferBytes highWatermark : Nat) : RemoteWrites :=
  { stream := .start maxInputBufferBytes maxOutputBufferBytes highWatermark }

/-- The payloads of the calls of `Write` on other threads whose `WriteInLoop` has not run. -/
def waiting (s : RemoteWrites) : List (List UInt8) :=
  s.queue.filterMap RemoteFunctor.payload ++ s.checked

/-- Every call of `Write` that has passed its test is sent before the FIN, and behind the FIN the
output buffer stays empty and nothing is sent. -/
structure FinLast (s : RemoteWrites) : Prop where
  once : s.connection.shutdownWrites ≤ 1
  behind : s.connection.shutdownWrites = 1 →
    s.passed.Perm s.stream.accepted ∧ s.connection.sent = s.stream.accepted.flatten
  empty : s.connection.shutdownWrites = 1 → s.connection.outputBuffer.readable = []
  silent : s.connection.shutdownWrites = 1 →
    ∀ l s', s.step l = some s' → s'.connection.sent = s.connection.sent

/-- When the FIN is due, no `Write` of another thread is on its way. -/
def FinAlone (s : RemoteWrites) : RemoteWritesStep → Prop
  | .act l => s.connection.finDue l → s.waiting = []
  | _ => True

instance (s : RemoteWrites) (l : RemoteWritesStep) : Decidable (FinAlone s l) := by
  cases l <;> unfold FinAlone <;> infer_instance

end RemoteWrites

/-! ## When the FIN is sent -/

namespace TcpConnection

variable {c : TcpConnection} {accepted : List UInt8}

@[simp]
theorem shutdownWrites_forceCloseInLoop :
    c.forceCloseInLoop.shutdownWrites = c.shutdownWrites := by
  unfold forceCloseInLoop
  split
  · rfl
  · unfold handleClose
    split <;> rfl

theorem shutdownWrites_writeInLoop (data : List UInt8) :
    (c.writeInLoop data).shutdownWrites = c.shutdownWrites := by
  unfold writeInLoop
  split
  · rfl
  · dsimp only
    split
    · rw [shutdownWrites_forceCloseInLoop]
    · exact (sameOutput_notifyHighWatermark _ _).shutdownWrites

/-- The last byte of a connection that is shutting down is followed by the FIN. -/
theorem shutdownWrites_writeOutputBufferInLoop (hreadable : c.outputBuffer.readableBytes ≠ 0)
    (send : SendResult) : (c.writeOutputBufferInLoop send).shutdownWrites =
      c.shutdownWrites + (decide (c.state = .disconnecting) &&
        send.takes c.outputBuffer.readableBytes).toNat := by
  unfold writeOutputBufferInLoop
  rw [if_neg hreadable]
  cases send with
  | wouldBlock => simp [SendResult.takes]
  | failed => simp [SendResult.takes, handleError]
  | sent count =>
    cases count with
    | zero => simp [SendResult.takes, hreadable]
    | succ count =>
      have hdrained : (c.outputBuffer.retrieve (count + 1)).readableBytes = 0 ↔
          c.outputBuffer.readableBytes ≤ count + 1 := by
        rw [← readable_eq_nil_iff, Buffer.readable_retrieve, List.drop_eq_nil_iff,
          Buffer.length_readable]
      dsimp only
      split
      · next hzero =>
        have htakes : SendResult.takes (.sent (count + 1)) c.outputBuffer.readableBytes = true := by
          simpa [SendResult.takes] using hdrained.mp hzero
        split
        · next hstate => simp [sendFin, call, htakes, show c.state = .disconnecting from hstate]
        · next hstate => simp [call, show c.state ≠ .disconnecting from hstate]
      · next hmore =>
        rw [hdrained] at hmore
        simp [SendResult.takes, hmore]

/-- A connection on which `send` takes everything is not closed. -/
theorem state_writeOutputBufferInLoop (hreadable : c.outputBuffer.readableBytes ≠ 0)
    {send : SendResult} (htakes : send.takes c.outputBuffer.readableBytes = true) :
    (c.writeOutputBufferInLoop send).state = c.state := by
  unfold writeOutputBufferInLoop
  rw [if_neg hreadable]
  cases send with
  | wouldBlock | failed => cases htakes
  | sent count =>
    cases count with
    | zero => simp [SendResult.takes, hreadable] at htakes
    | succ count =>
      dsimp only
      split
      · split
        · unfold sendFin
          split <;> rfl
        · rfl
      · rfl

theorem shutdownWrites_shutdown (h : Intact c accepted) (send : SendResult) :
    (c.shutdown send).shutdownWrites = c.shutdownWrites + (c.finDue (.shutdown send)).toNat := by
  unfold shutdown
  split
  · next hstate =>
    have hconnected : c.connected = true := by simp [connected, hstate]
    unfold shutdownInLoop
    split
    · next hpos =>
      have hreadable : c.outputBuffer.readableBytes ≠ 0 := Nat.pos_iff_ne_zero.mp hpos
      split
      · next hwriting =>
        simp [finDue, show c.isWriting = true from hwriting, hreadable]
      · next hwriting =>
        have hwriting : c.isWriting = false := by simpa using hwriting
        unfold flushInLoop
        rw [if_neg (by simp [hreadable, hwriting])]
        rw [shutdownWrites_writeOutputBufferInLoop (c := { c with state := .disconnecting }) hreadable]
        simp [finDue, hconnected, hwriting, hreadable]
    · next hzero =>
      have hreadable : c.outputBuffer.readableBytes = 0 := Nat.eq_zero_of_not_pos hzero
      have hwriting : c.isWriting = false := by
        cases hw : c.isWriting with
        | false => rfl
        | true => exact absurd ((readable_eq_nil_iff _).mpr hreadable) (h.writing hw).1
      simp [sendFin, finDue, hconnected, hwriting, hreadable]
  · next hstate => simp [finDue, connected, hstate]

theorem shutdownWrites_act (h : Intact c accepted) (l : ConnectionAction) :
    (c.act l).shutdownWrites = c.shutdownWrites + (c.finDue l).toNat := by
  cases l with
  | write data =>
    show (c.write data).shutdownWrites = _
    unfold write
    split
    · exact shutdownWrites_writeInLoop data
    · rfl
  | flush send =>
    show (c.flush send).shutdownWrites = _
    unfold flush flushInLoop
    split
    · next hconnected =>
      split
      · rfl
      · next hgo =>
        obtain ⟨-, hreadable, -⟩ := by simpa only [not_or] using hgo
        have hnot : c.state ≠ .disconnecting := by
          have hstate : c.state = .connected := by simpa [connected] using hconnected
          simp [hstate]
        simp [shutdownWrites_writeOutputBufferInLoop hreadable, hnot, finDue]
    · rfl
  | shutdown send => exact shutdownWrites_shutdown h send
  | forceClose | handleError => exact shutdownWrites_forceCloseInLoop
  | handleClose =>
    show c.handleClose.shutdownWrites = _
    unfold handleClose
    split <;> rfl
  | handleWrite send =>
    show (c.handleWrite send).shutdownWrites = _
    unfold handleWrite
    split
    · next hwriting =>
      have hreadable := (h.writing hwriting).1
      rw [ne_eq, readable_eq_nil_iff] at hreadable
      simp [shutdownWrites_writeOutputBufferInLoop hreadable, finDue, hwriting]
    · next hwriting => simp [finDue, hwriting]
  | receive bytes => rfl
  | limitInput =>
    show c.limitInput.shutdownWrites = _
    unfold limitInput
    split
    · exact shutdownWrites_forceCloseInLoop
    · rfl
  | connectDestroyed =>
    show c.connectDestroyed.shutdownWrites = _
    unfold connectDestroyed
    split <;> rfl

/-- Behind the FIN the connection is shutting down. -/
theorem state_act_of_finDue (h : Intact c accepted) {l : ConnectionAction} (hdue : c.finDue l = true) :
    (c.act l).state = .disconnecting := by
  cases l with
  | shutdown send =>
    simp only [finDue, Bool.and_eq_true, Bool.or_eq_true, decide_eq_true_eq, Bool.not_eq_true',
      connected] at hdue
    obtain ⟨hstate, hdue⟩ := hdue
    show (c.shutdown send).state = _
    unfold shutdown shutdownInLoop
    rw [if_pos hstate]
    by_cases hzero : c.outputBuffer.readableBytes = 0
    · rw [if_neg (show ¬(c.outputBuffer.readableBytes > 0) by omega)]
      unfold sendFin
      split <;> rfl
    · obtain ⟨hwriting, htakes⟩ := hdue.resolve_left hzero
      rw [if_pos (Nat.pos_iff_ne_zero.mpr hzero), if_neg (by simp [hwriting])]
      unfold flushInLoop
      rw [if_neg (by simp [hzero, hwriting])]
      exact state_writeOutputBufferInLoop (c := { c with state := .disconnecting }) hzero htakes
  | handleWrite send =>
    simp only [finDue, Bool.and_eq_true, decide_eq_true_eq] at hdue
    obtain ⟨⟨hstate, hwriting⟩, htakes⟩ := hdue
    have hreadable := (h.writing hwriting).1
    rw [ne_eq, readable_eq_nil_iff] at hreadable
    show (c.handleWrite send).state = _
    unfold handleWrite
    rw [if_pos hwriting, state_writeOutputBufferInLoop hreadable htakes, hstate]
  | _ => cases hdue

/-- `FlushInLoop` finds write interest enabled on a connection that is shutting down. -/
theorem shutdownWrites_flushInLoop (h : Intact c accepted) (send : SendResult) :
    (c.flushInLoop send).shutdownWrites = c.shutdownWrites := by
  unfold flushInLoop
  split
  · rfl
  · next hgo =>
    obtain ⟨-, hreadable, hwriting⟩ := by simpa only [not_or] using hgo
    have hnot : c.state ≠ .disconnecting := by
      intro hstate
      apply hwriting
      apply h.draining hstate
      rwa [ne_eq, readable_eq_nil_iff]
    simp [shutdownWrites_writeOutputBufferInLoop hreadable, hnot]

theorem open_of_flushInLoop {send : SendResult}
    (hopen : (c.flushInLoop send).state ≠ .disconnected) : c.state ≠ .disconnected := by
  intro hstate
  apply hopen
  unfold flushInLoop
  rw [if_pos (.inl hstate)]
  exact hstate

theorem flushInLoop_of_readable_eq_nil (hreadable : c.outputBuffer.readable = [])
    (send : SendResult) : c.flushInLoop send = c := by
  rw [readable_eq_nil_iff] at hreadable
  unfold flushInLoop
  rw [if_pos (.inr (.inl hreadable))]

/-- A closed connection stays closed. -/
theorem state_act_of_disconnected (hstate : c.state = .disconnected)
    (hwriting : c.isWriting = false) (l : ConnectionAction) : (c.act l).state = .disconnected := by
  cases l with
  | write data => simp [act, write, connected, hstate]
  | flush send => simp [act, flush, connected, hstate]
  | shutdown send => simp [act, shutdown, hstate]
  | forceClose | handleError => exact state_forceCloseInLoop
  | handleClose => exact state_handleClose
  | handleWrite send => simp [act, handleWrite, hwriting, hstate]
  | receive bytes => exact hstate
  | limitInput =>
    show c.limitInput.state = _
    unfold limitInput
    split
    · exact state_forceCloseInLoop
    · exact hstate
  | connectDestroyed => simp [act, connectDestroyed, hstate]

/-- A payload that does not run into the limit is put into the output buffer. -/
theorem queued_of_open {data : List UInt8} (hdata : data ≠ [])
    (hopen : (c.writeInLoop data).state ≠ .disconnected) :
    c.state ≠ .disconnected ∧ c.queued data = [data] := by
  unfold writeInLoop at hopen
  unfold queued
  split at hopen
  · next hskip => exact absurd (hskip.resolve_right hdata) hopen
  · next hgo =>
    obtain ⟨hstate, -⟩ := not_or.mp hgo
    dsimp only at hopen
    split at hopen
    · exact absurd state_forceCloseInLoop hopen
    · next hroom =>
      refine ⟨hstate, if_neg ?_⟩
      simp only [hstate, hdata, false_or, withinLimit, Bool.or_eq_false_iff, decide_eq_false_iff_not]
      omega

/-- What passes its test and does not run into the limit is accepted. -/
theorem passes_eq_accepts {l : ConnectionAction} (hopen : (c.act l).state ≠ .disconnected) :
    c.passes l = c.accepts l := by
  cases l with
  | write data =>
    unfold passes accepts
    by_cases hdata : data = []
    · simp [hdata, queued]
    · cases hconnected : c.connected with
      | false => rfl
      | true =>
        have hwrite : c.act (.write data) = c.writeInLoop data := by
          simp [act, write, hconnected, hdata]
        rw [hwrite] at hopen
        simp [hdata, (queued_of_open hdata hopen).2]
  | _ => rfl

end TcpConnection

namespace RemoteWrites

open TcpConnection

variable {s s' : RemoteWrites} {l : RemoteWritesStep}

/-- While the connection is open, every payload that has passed its test is accepted or waits; behind
the FIN, none waits. -/
structure Kept (s : RemoteWrites) : Prop where
  intact : Intact s.connection s.stream.accepted.flatten
  nonempty : ∀ data ∈ s.waiting, data ≠ []
  kept : s.connection.state ≠ .disconnected → s.passed.Perm (s.stream.accepted ++ s.waiting)
  alone : s.connection.shutdownWrites = 1 → s.waiting = []
  behind : s.connection.shutdownWrites = 1 → s.passed.Perm s.stream.accepted
  empty : s.connection.shutdownWrites = 1 → s.connection.outputBuffer.readable = []

/-- Before the FIN. -/
theorem Kept.of_no_fin (hfin : s.connection.shutdownWrites = 0)
    (hintact : Intact s.connection s.stream.accepted.flatten)
    (hnonempty : ∀ data ∈ s.waiting, data ≠ [])
    (hkept : s.connection.state ≠ .disconnected → s.passed.Perm (s.stream.accepted ++ s.waiting)) :
    Kept s := by
  refine ⟨hintact, hnonempty, hkept, fun hone => ?_, fun hone => ?_, fun hone => ?_⟩
  all_goals
    rw [hfin] at hone
    cases hone

theorem Kept.start (maxInputBufferBytes maxOutputBufferBytes highWatermark : Nat) :
    Kept (start maxInputBufferBytes maxOutputBufferBytes highWatermark) :=
  .of_no_fin rfl (OutputStream.intact_start _ _ _) (by simp [waiting, RemoteWrites.start])
    fun _ => .refl _

theorem Kept.shutdownWrites_eq_zero (h : Kept s) (hstate : s.connection.state = .connected) :
    s.connection.shutdownWrites = 0 := by
  by_contra hne
  have hfins := h.intact.fins
  exact (h.intact.fin (by omega)).2 hstate

theorem Kept.checkWrite (h : Kept s) (hstate : s.connection.state = .connected)
    {data : List UInt8} (hdata : data ≠ []) :
    Kept { s with checked := s.checked ++ [data], passed := s.passed ++ [data] } := by
  have hwaiting : ({ s with
      checked := s.checked ++ [data], passed := s.passed ++ [data] } : RemoteWrites).waiting =
        s.waiting ++ [data] := (List.append_assoc _ _ _).symm
  refine .of_no_fin (h.shutdownWrites_eq_zero hstate) h.intact ?_ fun hopen => ?_
  · rw [hwaiting]
    intro d hd
    rw [List.mem_append, List.mem_singleton] at hd
    obtain hd | rfl := hd
    · exact h.nonempty d hd
    · exact hdata
  · rw [hwaiting, ← List.append_assoc]
    exact (h.kept hopen).append_right [data]

/-- The queues change, but the same payloads wait. -/
theorem Kept.requeue (h : Kept s) {checked : List (List UInt8)} {flushing : Nat}
    {queue : List RemoteFunctor}
    (hperm : (queue.filterMap RemoteFunctor.payload ++ checked).Perm s.waiting) :
    Kept { s with checked := checked, flushing := flushing, queue := queue } := by
  refine ⟨h.intact, fun d hd => h.nonempty d (hperm.mem_iff.mp hd), fun hopen => ?_, fun hone => ?_,
    h.behind, h.empty⟩
  · exact (h.kept hopen).trans (hperm.symm.append_left _)
  · have hnil := h.alone hone
    rw [hnil] at hperm
    exact hperm.eq_nil

theorem Kept.postWrite (h : Kept s) {index : Nat} {data : List UInt8}
    (hget : s.checked[index]? = some data) :
    Kept { s with
      checked := s.checked.eraseIdx index, queue := s.queue ++ [.writeInLoop data] } := by
  apply h.requeue
  obtain ⟨hlt, rfl⟩ := List.getElem?_eq_some_iff.mp hget
  simp only [List.filterMap_append, waiting, List.append_assoc]
  apply List.Perm.append_left
  exact List.getElem_cons_eraseIdx_perm hlt

/-- `WriteInLoop` for another thread. -/
theorem Kept.writeInLoop (h : Kept s) {data : List UInt8} {queue : List RemoteFunctor}
    (hqueue : s.queue = .writeInLoop data :: queue) (send : SendResult) :
    Kept { s with stream := perform s.stream send (.writeInLoop data), queue := queue } := by
  have hwaiting : s.waiting = data :: (queue.filterMap RemoteFunctor.payload ++ s.checked) := by
    rw [waiting, hqueue]
    rfl
  have hdata : data ≠ [] := by
    apply h.nonempty
    rw [hwaiting]
    exact List.mem_cons_self
  have hfin : s.connection.shutdownWrites = 0 := by
    by_contra hne
    have hfins := h.intact.fins
    have hnil := h.alone (by omega)
    rw [hwaiting] at hnil
    cases hnil
  refine .of_no_fin ((shutdownWrites_writeInLoop data).trans hfin) ?_ ?_ fun hopen => ?_
  · have hintact := @Intact.writeInLoop _ _ h.intact data (fun _ => hfin)
    rw [← List.flatten_append] at hintact
    exact hintact
  · intro d hd
    apply h.nonempty
    rw [hwaiting]
    exact List.mem_cons_of_mem _ hd
  · obtain ⟨hstate, hqueued⟩ := queued_of_open hdata hopen
    have hkept := h.kept hstate
    rw [hwaiting, List.append_cons, ← hqueued] at hkept
    exact hkept

/-- `FlushInLoop` for another thread: it never sends the FIN. -/
theorem Kept.flushInLoop (h : Kept s) {queue : List RemoteFunctor}
    (hqueue : s.queue = .flushInLoop :: queue) (send : SendResult) :
    Kept { s with stream := perform s.stream send .flushInLoop, queue := queue } := by
  have hwaiting : s.waiting = queue.filterMap RemoteFunctor.payload ++ s.checked := by
    rw [waiting, hqueue]
    rfl
  have hfin := shutdownWrites_flushInLoop h.intact send
  have hone : (perform s.stream send .flushInLoop).connection.shutdownWrites = 1 →
      s.connection.shutdownWrites = 1 := fun hone => hfin.symm.trans hone
  refine ⟨h.intact.flushInLoop send, ?_, fun hopen => ?_, fun hfin => ?_, fun hfin => ?_,
    fun hfin => ?_⟩
  · intro d hd
    apply h.nonempty
    rw [hwaiting]
    exact hd
  · have hkept := h.kept (open_of_flushInLoop hopen)
    rw [hwaiting] at hkept
    exact hkept
  · rw [← h.alone (hone hfin), hwaiting]
    rfl
  · exact h.behind (hone hfin)
  · have hempty := h.empty (hone hfin)
    have hsame := flushInLoop_of_readable_eq_nil hempty send
    show (s.connection.flushInLoop send).outputBuffer.readable = []
    rw [hsame, hempty]

/-- An action of the loop thread, which sends the FIN only when nothing waits. -/
theorem Kept.act (h : Kept s) {l : ConnectionAction}
    (hdue : s.connection.finDue l = true → s.waiting = []) :
    Kept { s with stream := s.stream.step l, passed := s.passed ++ s.connection.passes l } := by
  have hintact : Intact (s.stream.step l).connection (s.stream.step l).accepted.flatten :=
    OutputStream.intact_step h.intact l
  have hcount : (s.stream.step l).connection.shutdownWrites =
      s.connection.shutdownWrites + (s.connection.finDue l).toNat := shutdownWrites_act h.intact l
  have hkept : (s.stream.step l).connection.state ≠ .disconnected →
      (s.passed ++ s.connection.passes l).Perm ((s.stream.step l).accepted ++ s.waiting) := by
    intro hopen
    have hstate : s.connection.state ≠ .disconnected := by
      intro hclosed
      exact hopen (state_act_of_disconnected hclosed (h.intact.quiet (.inr hclosed)).isWriting l)
    rw [show s.connection.passes l = s.connection.accepts l from passes_eq_accepts hopen]
    refine ((h.kept hstate).append_right _).trans ?_
    simp only [OutputStream.step, List.append_assoc]
    exact List.Perm.append_left _ List.perm_append_comm
  by_cases hfin : s.connection.shutdownWrites = 1
  · -- the FIN has been sent before, and no call of `Write` passes any more
    have hquiet := h.intact.quiet (.inl hfin)
    obtain ⟨-, -, -, hreadable⟩ := hquiet.act l
    have hconnected : s.connection.connected = false := by simpa [connected] using hquiet.state
    have hpasses : s.connection.passes l = [] := by
      cases l <;> simp [passes, hconnected]
    have haccepts : s.connection.accepts l = [] := by
      cases l <;> simp [accepts, hconnected]
    refine ⟨hintact, h.nonempty, hkept, fun _ => h.alone hfin, fun _ => ?_, fun _ => ?_⟩
    · have hbehind := h.behind hfin
      simpa [OutputStream.step, hpasses, show s.stream.connection.accepts l = [] from haccepts]
        using hbehind
    · obtain hsame | hnil := hreadable
      · exact hsame.trans (h.empty hfin)
      · exact hnil
  · have hfins := h.intact.fins
    have hzero : s.connection.shutdownWrites = 0 := by omega
    rw [hzero] at hcount
    by_cases hd : s.connection.finDue l = true
    · have hstate : (s.stream.step l).connection.state = .disconnecting :=
        state_act_of_finDue h.intact hd
      have hopen : (s.stream.step l).connection.state ≠ .disconnected := by simp [hstate]
      refine ⟨hintact, h.nonempty, hkept, fun _ => hdue hd, fun _ => ?_, fun hone => ?_⟩
      · have hperm := hkept hopen
        rw [hdue hd, List.append_nil] at hperm
        exact hperm
      · have hsent := (hintact.fin hone).1
        rw [hintact.stream hopen] at hsent
        exact List.self_eq_append_right.mp hsent
    · have hnone : (s.stream.step l).connection.shutdownWrites = 0 := by simpa [hd] using hcount
      exact .of_no_fin hnone hintact h.nonempty hkept

theorem Kept.step (h : Kept s) (halone : FinAlone s l) (hstep : s.step l = some s') : Kept s' := by
  cases l with
  | checkWrite data =>
    cases hstep
    split
    · next hcheck =>
      simp only [connected, Bool.and_eq_true, decide_eq_true_eq] at hcheck
      exact h.checkWrite hcheck.1 hcheck.2
    · exact h
  | postWrite index =>
    obtain ⟨data, hget, rfl⟩ := Option.map_eq_some_iff.mp hstep
    exact h.postWrite hget
  | checkFlush =>
    cases hstep
    split
    · exact h.requeue (.refl _)
    · exact h
  | postFlush =>
    simp only [RemoteWrites.step, Option.ite_none_right_eq_some] at hstep
    obtain ⟨-, hstep⟩ := hstep
    cases hstep
    apply h.requeue
    have hnone : [RemoteFunctor.flushInLoop].filterMap RemoteFunctor.payload = [] := rfl
    simp [waiting, hnone]
  | runNext send =>
    simp only [RemoteWrites.step] at hstep
    split at hstep
    · cases hstep
    · next functor queue hqueue =>
      cases hstep
      cases functor with
      | writeInLoop data => exact h.writeInLoop hqueue send
      | flushInLoop => exact h.flushInLoop hqueue send
  | act l =>
    cases hstep
    exact h.act halone

/-- Behind the FIN, no step sends anything. -/
theorem Kept.sent_step (h : Kept s) (hfin : s.connection.shutdownWrites = 1)
    (hstep : s.step l = some s') : s'.connection.sent = s.connection.sent := by
  cases l with
  | checkWrite data =>
    cases hstep
    split <;> rfl
  | postWrite index =>
    obtain ⟨data, -, rfl⟩ := Option.map_eq_some_iff.mp hstep
    rfl
  | checkFlush =>
    cases hstep
    split <;> rfl
  | postFlush =>
    simp only [RemoteWrites.step, Option.ite_none_right_eq_some] at hstep
    obtain ⟨-, hstep⟩ := hstep
    cases hstep
    rfl
  | runNext send =>
    simp only [RemoteWrites.step] at hstep
    split at hstep
    · cases hstep
    · next functor queue hqueue =>
      cases hstep
      cases functor with
      | writeInLoop data =>
        have hnil := h.alone hfin
        rw [waiting, hqueue] at hnil
        cases hnil
      | flushInLoop =>
        exact congrArg sent (flushInLoop_of_readable_eq_nil (h.empty hfin) send)
  | act l =>
    cases hstep
    exact ((h.intact.quiet (.inl hfin)).act l).sent

theorem Kept.finLast (h : Kept s) : FinLast s :=
  ⟨h.intact.fins, fun hfin => ⟨h.behind hfin, (h.intact.fin hfin).1⟩, h.empty,
    fun hfin _ _ hstep => h.sent_step hfin hstep⟩

/-- A FIN that overtakes a `Write` of another thread. -/
theorem Kept.finAlone (h : Kept s) (hlast : ∀ s', s.step l = some s' → FinLast s') :
    FinAlone s l := by
  cases l with
  | act l =>
    intro hdue
    obtain ⟨-, hbehind, -, -⟩ := hlast _ rfl
    have hopen : s.connection.state ≠ .disconnected := by
      intro hclosed
      have hstate := state_act_of_finDue h.intact hdue
      rw [state_act_of_disconnected hclosed (h.intact.quiet (.inr hclosed)).isWriting l] at hstate
      cases hstate
    have hzero : s.connection.shutdownWrites = 0 := by
      by_contra hne
      have hcount := shutdownWrites_act h.intact l
      have hfins := (h.intact.act l).fins
      rw [hdue] at hcount
      simp only [Bool.toNat_true] at hcount
      omega
    have hone : (s.connection.act l).shutdownWrites = 1 := by
      rw [shutdownWrites_act h.intact l, hdue, hzero]
      rfl
    have hnone : s.connection.passes l = [] ∧ s.connection.accepts l = [] := by
      cases l <;> first | exact ⟨rfl, rfl⟩ | cases hdue
    have hlength := (hbehind hone).1.length_eq
    have hkept := (h.kept hopen).length_eq
    simp only [OutputStream.step, hnone, show s.stream.connection.accepts l = [] from hnone.2,
      List.append_nil, List.length_append] at hlength hkept
    exact List.length_eq_zero_iff.mp (by omega)
  | _ => trivial

/-- Along a run, every call of `Write` that has passed its test is sent before the FIN, and behind
the FIN the output buffer stays empty and nothing is sent, exactly when no FIN is due while a
`Write` of another thread is on its way. -/
theorem fin_last_iff (maxInputBufferBytes maxOutputBufferBytes highWatermark : Nat)
    (steps : List RemoteWritesStep) :
    (∀ earlier, earlier <+: steps → ∀ s,
      (start maxInputBufferBytes maxOutputBufferBytes highWatermark).run earlier = some s →
        FinLast s) ↔
      Transition.Meets step FinAlone
        (start maxInputBufferBytes maxOutputBufferBytes highWatermark) steps :=
  (Transition.meets_iff_forall_prefix (fun _ _ _ hI hC hstep => hI.step hC hstep)
    (fun _ hI => hI.finLast) (fun _ _ hI hlast => hI.finAlone hlast) (Kept.start _ _ _)).symm

/-- Another thread writes and flushes a byte, and the loop thread shuts the connection down before it
runs the functors: the FIN is sent, and then the byte. -/
def overtaken : List RemoteWritesStep :=
  [.checkWrite [1], .postWrite 0, .checkFlush, .postFlush, .act (.shutdown .wouldBlock),
    .runNext .wouldBlock, .runNext (.sent 1)]

theorem sent_behind_fin :
    (∃ s, (start 0 0 0).run (overtaken.take 5) = some s ∧ s.connection.shutdownWrites = 1 ∧
      s.passed = [[1]] ∧ s.connection.sent = [] ∧ ¬FinLast s) ∧
    ((start 0 0 0).run overtaken).map (·.connection.sent) = some [1] := by
  refine ⟨⟨_, rfl, rfl, rfl, rfl, fun h => ?_⟩, by decide +kernel⟩
  exact absurd (h.behind rfl).1.length_eq (by decide)

end RemoteWrites

end NebulaRpc.Net
