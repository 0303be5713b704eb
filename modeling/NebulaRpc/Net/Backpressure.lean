import NebulaRpc.Net.Output

/-!
# Backpressure on the output

The hard limit and the high watermark of an output buffer. Besides the actions of the loop thread the
functors of other threads run, here at any time and with any payload, and `Shutdown` on another
thread changes the state.
-/

namespace NebulaRpc.Net

/-- What happens to the output of a connection. -/
inductive OutputStep where
  | act (l : ConnectionAction)
  | writeInLoop (data : List UInt8)
  | flushInLoop (send : SendResult)
  /-- `Shutdown` on another thread, up to the post of `ShutdownInLoop` -/
  | disconnecting
  | shutdownInLoop (send : SendResult)

/-- The pending bytes that a high-watermark callback is given. -/
def ConnectionCallback.pending : ConnectionCallback → Option Nat
  | .highWatermark pending => some pending
  | _ => none

namespace TcpConnection

def perform (c : TcpConnection) : OutputStep → TcpConnection
  | .act l => c.act l
  | .writeInLoop data => c.writeInLoop data
  | .flushInLoop send => c.flushInLoop send
  | .disconnecting => if c.state = .connected then { c with state := .disconnecting } else c
  | .shutdownInLoop send => c.shutdownInLoop send

def performs (c : TcpConnection) (steps : List OutputStep) : TcpConnection := steps.foldl perform c

/-- The payload that the step is to put into the output buffer of an open connection. -/
def writing (c : TcpConnection) (l : OutputStep) : Option (List UInt8) :=
  match l with
  | .act (.write data) => if c.state = .connected ∧ data ≠ [] then some data else none
  | .writeInLoop data => if c.state ≠ .disconnected ∧ data ≠ [] then some data else none
  | _ => none

/-- The pending bytes behind a payload. -/
def pendingWith (c : TcpConnection) (data : List UInt8) : Nat :=
  c.outputBuffer.readableBytes + data.length

/-- The pending bytes behind the step, when it accepts a payload with which they reach the
watermark. -/
def crossing (limit watermark : Nat) (c : TcpConnection) (l : OutputStep) : List Nat :=
  match c.writing l with
  | some data =>
    if c.pendingWith data ≤ limit ∧ c.outputBuffer.readableBytes < watermark ∧
      watermark ≤ c.pendingWith data then [c.pendingWith data] else []
  | none => []

def crossings (limit watermark : Nat) : TcpConnection → List OutputStep → List Nat
  | _, [] => []
  | c, l :: steps => c.crossing limit watermark l ++ crossings limit watermark (c.perform l) steps

/-- What the high-watermark callbacks that have been queued are given. -/
def watermarks (c : TcpConnection) : List Nat := c.callbacks.filterMap ConnectionCallback.pending

/-- The connection is closed, and nothing waits to be sent. -/
structure Discarded (c : TcpConnection) : Prop where
  state : c.state = .disconnected
  readable : c.outputBuffer.readable = []
  isWriting : c.isWriting = false

/-- What the limit and the watermark do in a run that leads from `c₀` to `c`. -/
structure Exact (limit watermark : Nat) (c₀ : TcpConnection) (steps : List OutputStep)
    (c : TcpConnection) : Prop where
  bounded : c.outputBuffer.readableBytes ≤ limit
  /-- a payload that would exceed the limit closes the connection -/
  overflow : ∀ l, ∀ data ∈ c.writing l, limit < c.pendingWith data → ∀ later,
    Discarded (c.perform l) ∧ Discarded ((c.perform l).performs later) ∧
      ((c.perform l).performs later).sent = c.sent
  callbacks : c.watermarks = crossings limit watermark c₀ steps

variable {c c' c'' : TcpConnection} {limit watermark : Nat}

/-! ## What is not a write -/

/-- The limits stay, no watermark is reported and nothing is put into the output buffer. -/
structure Shrinks (c c' : TcpConnection) : Prop where
  maxOutputBufferBytes : c'.maxOutputBufferBytes = c.maxOutputBufferBytes
  highWatermark : c'.highWatermark = c.highWatermark
  watermarks : c'.watermarks = c.watermarks
  readable : c'.outputBuffer.readable <:+ c.outputBuffer.readable

theorem Shrinks.refl (c : TcpConnection) : Shrinks c c := ⟨rfl, rfl, rfl, List.suffix_rfl⟩

theorem Shrinks.trans (h : Shrinks c c') (h' : Shrinks c' c'') : Shrinks c c'' :=
  ⟨h'.maxOutputBufferBytes.trans h.maxOutputBufferBytes,
    h'.highWatermark.trans h.highWatermark, h'.watermarks.trans h.watermarks, h'.readable.trans h.readable⟩

theorem Shrinks.readableBytes (h : Shrinks c c') :
    c'.outputBuffer.readableBytes ≤ c.outputBuffer.readableBytes := by
  rw [← Buffer.length_readable, ← Buffer.length_readable]
  exact h.readable.length_le

theorem watermarks_call (c : TcpConnection) {callback : ConnectionCallback}
    (h : callback.pending = none) : (c.call callback).watermarks = c.watermarks := by
  simp [watermarks, call, h]

theorem shrinks_handleClose (c : TcpConnection) : Shrinks c c.handleClose := by
  unfold handleClose
  split
  · exact .refl c
  · refine ⟨rfl, rfl, ?_, List.suffix_rfl⟩
    rw [watermarks_call _ rfl, watermarks_call _ rfl]
    rfl

theorem shrinks_forceCloseInLoop (c : TcpConnection) : Shrinks c c.forceCloseInLoop := by
  unfold forceCloseInLoop
  split
  · exact .refl c
  · apply Shrinks.trans _ (shrinks_handleClose _)
    exact ⟨rfl, rfl, rfl, by simp⟩

theorem shrinks_overloadClose (c : TcpConnection) :
    Shrinks c { c with overloadCloseCount := c.overloadCloseCount + 1 }.forceCloseInLoop := by
  have hcounted : Shrinks c { c with overloadCloseCount := c.overloadCloseCount + 1 } :=
    ⟨rfl, rfl, rfl, List.suffix_rfl⟩
  exact hcounted.trans (shrinks_forceCloseInLoop _)

theorem shrinks_sendFin (c : TcpConnection) : Shrinks c c.sendFin := by
  unfold sendFin
  split <;> exact ⟨rfl, rfl, rfl, List.suffix_rfl⟩

theorem shrinks_writeOutputBufferInLoop (c : TcpConnection) (send : SendResult) :
    Shrinks c (c.writeOutputBufferInLoop send) := by
  unfold writeOutputBufferInLoop
  split
  · exact ⟨rfl, rfl, rfl, List.suffix_rfl⟩
  cases send with
  | wouldBlock => exact ⟨rfl, rfl, rfl, List.suffix_rfl⟩
  | failed => exact shrinks_forceCloseInLoop c
  | sent count =>
    cases count with
    | zero => exact ⟨rfl, rfl, rfl, List.suffix_rfl⟩
    | succ count =>
      have hdrop : (c.outputBuffer.retrieve (count + 1)).readable <:+ c.outputBuffer.readable := by
        rw [Buffer.readable_retrieve]
        exact List.drop_suffix _ _
      dsimp only
      split
      · have hcomplete : Shrinks c ({ c with
            sent := c.sent ++ c.outputBuffer.readable.take (count + 1)
            outputBuffer := c.outputBuffer.retrieve (count + 1)
            isWriting := false }.call .writeComplete) :=
          ⟨rfl, rfl, watermarks_call _ rfl, hdrop⟩
        split
        · exact hcomplete.trans (shrinks_sendFin _)
        · exact hcomplete
      · exact ⟨rfl, rfl, rfl, hdrop⟩

theorem shrinks_flushInLoop (c : TcpConnection) (send : SendResult) :
    Shrinks c (c.flushInLoop send) := by
  unfold flushInLoop
  split
  · exact .refl c
  · exact shrinks_writeOutputBufferInLoop c send

theorem shrinks_shutdownInLoop (c : TcpConnection) (send : SendResult) :
    Shrinks c (c.shutdownInLoop send) := by
  unfold shutdownInLoop
  split
  · split
    · exact .refl c
    · exact shrinks_flushInLoop c send
  · exact shrinks_sendFin c

/-- A step that writes nothing puts nothing into the buffer. -/
theorem shrinks_perform {l : OutputStep} (hwriting : c.writing l = none) :
    Shrinks c (c.perform l) := by
  have hdisconnecting : Shrinks c { c with state := .disconnecting } :=
    ⟨rfl, rfl, rfl, List.suffix_rfl⟩
  cases l with
  | act l =>
    cases l with
    | write data =>
      simp only [writing, ite_eq_right_iff, reduceCtorEq, imp_false, not_and, not_not] at hwriting
      have hsame : c.write data = c := by
        unfold write connected
        by_cases hstate : c.state = .connected
        · simp [hwriting hstate]
        · simp [hstate]
      simp only [perform, act, hsame]
      exact .refl c
    | flush send =>
      simp only [perform, act, flush]
      split
      · exact shrinks_flushInLoop c send
      · exact .refl c
    | shutdown send =>
      simp only [perform, act, shutdown]
      split
      · exact hdisconnecting.trans (shrinks_shutdownInLoop _ send)
      · exact .refl c
    | forceClose | handleError => exact shrinks_forceCloseInLoop c
    | handleClose => exact shrinks_handleClose c
    | handleWrite send =>
      simp only [perform, act, handleWrite]
      split
      · exact shrinks_writeOutputBufferInLoop c send
      · exact .refl c
    | receive bytes => exact ⟨rfl, rfl, watermarks_call _ rfl, List.suffix_rfl⟩
    | limitInput =>
      simp only [perform, act, limitInput]
      split
      · exact shrinks_overloadClose c
      · exact .refl c
    | connectDestroyed =>
      simp only [perform, act, connectDestroyed]
      split
      · exact ⟨rfl, rfl, watermarks_call _ rfl, List.suffix_rfl⟩
      · exact .refl c
  | writeInLoop data =>
    simp only [writing, ite_eq_right_iff, reduceCtorEq, imp_false, not_and, not_not] at hwriting
    have hsame : c.writeInLoop data = c := by
      unfold writeInLoop
      by_cases hstate : c.state = .disconnected
      · simp [hstate]
      · simp [hwriting hstate]
    simp only [perform, hsame]
    exact .refl c
  | flushInLoop send => exact shrinks_flushInLoop c send
  | disconnecting =>
    simp only [perform]
    split
    · exact hdisconnecting
    · exact .refl c
  | shutdownInLoop send => exact shrinks_shutdownInLoop c send

/-! ## Writes -/

theorem perform_of_writing {l : OutputStep} {data : List UInt8} (h : c.writing l = some data) :
    c.perform l = c.writeInLoop data ∧ c.state ≠ .disconnected ∧ data ≠ [] := by
  unfold writing at h
  split at h
  · obtain ⟨⟨hstate, hdata⟩, heq⟩ := Option.ite_none_right_eq_some.mp h
    cases heq
    refine ⟨?_, by simp [hstate], hdata⟩
    simp [perform, act, write, connected, hstate, hdata]
  · obtain ⟨⟨hstate, hdata⟩, heq⟩ := Option.ite_none_right_eq_some.mp h
    cases heq
    exact ⟨rfl, hstate, hdata⟩
  · cases h

theorem discarded_forceCloseInLoop (hopen : c.state ≠ .disconnected) :
    Discarded c.forceCloseInLoop ∧ c.forceCloseInLoop.sent = c.sent := by
  unfold forceCloseInLoop handleClose
  rw [if_neg hopen]
  split
  · next hclosed => exact absurd hclosed hopen
  · exact ⟨⟨rfl, by simp [call], rfl⟩, rfl⟩

/-- A payload that would exceed the limit. -/
theorem writeInLoop_of_exceeds (hlimit : 0 < limit) (hmax : c.maxOutputBufferBytes = limit)
    (hopen : c.state ≠ .disconnected) {data : List UInt8} (hdata : data ≠ [])
    (hexceeds : limit < c.pendingWith data) :
    c.writeInLoop data =
      { c with overloadCloseCount := c.overloadCloseCount + 1 }.forceCloseInLoop := by
  unfold pendingWith at hexceeds
  unfold writeInLoop
  rw [if_neg (by simp [hopen, hdata])]
  exact if_pos (by omega)

theorem watermarks_notifyHighWatermark (hwatermark : 0 < c.highWatermark) (before after : Nat) :
    (c.notifyHighWatermark before after).watermarks = c.watermarks ++
      (if before < c.highWatermark ∧ c.highWatermark ≤ after then [after] else []) := by
  unfold notifyHighWatermark
  by_cases hcross : before < c.highWatermark ∧ c.highWatermark ≤ after
  · rw [if_neg (by omega), if_pos hcross]
    simp [watermarks, call, ConnectionCallback.pending]
  · rw [if_pos (by omega), if_neg hcross]
    simp

/-- A payload that fits. -/
theorem writeInLoop_of_fits (hwatermark : 0 < c.highWatermark)
    (hmax : c.maxOutputBufferBytes = limit) (hopen : c.state ≠ .disconnected) {data : List UInt8}
    (hdata : data ≠ []) (hfits : c.pendingWith data ≤ limit) :
    (c.writeInLoop data).maxOutputBufferBytes = limit ∧
      (c.writeInLoop data).highWatermark = c.highWatermark ∧
      (c.writeInLoop data).outputBuffer.readableBytes = c.pendingWith data ∧
      (c.writeInLoop data).watermarks = c.watermarks ++
        (if c.outputBuffer.readableBytes < c.highWatermark ∧ c.highWatermark ≤ c.pendingWith data
          then [c.pendingWith data] else []) := by
  have hwatermarks := watermarks_notifyHighWatermark hwatermark c.outputBuffer.readableBytes
    (c.pendingWith data)
  obtain ⟨-, hreadable, -⟩ :=
    sameOutput_notifyHighWatermark (c := c) c.outputBuffer.readableBytes (c.pendingWith data)
  have hlimits : (c.notifyHighWatermark c.outputBuffer.readableBytes
        (c.pendingWith data)).maxOutputBufferBytes = c.maxOutputBufferBytes ∧
      (c.notifyHighWatermark c.outputBuffer.readableBytes
        (c.pendingWith data)).highWatermark = c.highWatermark := by
    unfold notifyHighWatermark
    split <;> exact ⟨rfl, rfl⟩
  have hwrite : c.writeInLoop data = { c.notifyHighWatermark c.outputBuffer.readableBytes
      (c.pendingWith data) with
        outputBuffer := (c.notifyHighWatermark c.outputBuffer.readableBytes
          (c.pendingWith data)).outputBuffer.append data } := by
    unfold pendingWith at hfits ⊢
    unfold writeInLoop
    rw [if_neg (by simp [hopen, hdata])]
    exact if_neg (by omega)
  rw [hwrite]
  refine ⟨hlimits.1.trans hmax, hlimits.2, ?_, hwatermarks⟩
  rw [← Buffer.length_readable, Buffer.readable_append, hreadable, List.length_append,
    Buffer.length_readable, pendingWith]

/-! ## Every step -/

/-- The limits are set, and the limit is kept. -/
structure Held (limit watermark : Nat) (c : TcpConnection) : Prop where
  maxOutputBufferBytes : c.maxOutputBufferBytes = limit
  highWatermark : c.highWatermark = watermark
  bounded : c.outputBuffer.readableBytes ≤ limit

theorem Held.shrinks (h : Held limit watermark c) (hshrinks : Shrinks c c') :
    Held limit watermark c' :=
  ⟨hshrinks.maxOutputBufferBytes.trans h.maxOutputBufferBytes, hshrinks.highWatermark.trans h.highWatermark,
    hshrinks.readableBytes.trans h.bounded⟩

/-- A step keeps the limit and reports the watermark that its payload crosses. -/
theorem Held.perform (hlimit : 0 < limit) (hwatermark : 0 < watermark) (h : Held limit watermark c)
    (l : OutputStep) : Held limit watermark (c.perform l) ∧
      (c.perform l).watermarks = c.watermarks ++ c.crossing limit watermark l := by
  cases hwriting : c.writing l with
  | none =>
    have hshrinks := shrinks_perform hwriting
    refine ⟨h.shrinks hshrinks, ?_⟩
    rw [hshrinks.watermarks]
    simp [crossing, hwriting]
  | some data =>
    obtain ⟨hperform, hopen, hdata⟩ := perform_of_writing hwriting
    rw [hperform]
    simp only [crossing, hwriting]
    by_cases hfits : c.pendingWith data ≤ limit
    · obtain ⟨hmax, hmark, hreadable, hwatermarks⟩ :=
        writeInLoop_of_fits (h.highWatermark ▸ hwatermark) h.maxOutputBufferBytes hopen hdata hfits
      refine ⟨⟨hmax, hmark.trans h.highWatermark, hreadable.trans_le hfits⟩, ?_⟩
      rw [hwatermarks, h.highWatermark]
      simp [hfits]
    · rw [writeInLoop_of_exceeds hlimit h.maxOutputBufferBytes hopen hdata (Nat.lt_of_not_le hfits)]
      have hshrinks := shrinks_overloadClose c
      refine ⟨h.shrinks hshrinks, ?_⟩
      rw [hshrinks.watermarks]
      simp [hfits]

/-- Nothing is put into the buffer of a connection that is closed, and nothing is sent. -/
theorem Discarded.perform (h : Discarded c) (l : OutputStep) :
    Discarded (c.perform l) ∧ (c.perform l).sent = c.sent := by
  obtain ⟨hstate, hreadable, hwriting⟩ := h
  have hempty : c.outputBuffer.readableBytes = 0 := (readable_eq_nil_iff _).mp hreadable
  have hsame : ∀ c' : TcpConnection, c' = c → Discarded c' ∧ c'.sent = c.sent := by
    rintro c' rfl
    exact ⟨⟨hstate, hreadable, hwriting⟩, rfl⟩
  cases l with
  | act l =>
    cases l with
    | receive bytes => exact ⟨⟨hstate, hreadable, hwriting⟩, rfl⟩
    | limitInput =>
      simp only [TcpConnection.perform, act, limitInput]
      split
      · unfold forceCloseInLoop
        rw [if_pos (show ({ c with
          overloadCloseCount := c.overloadCloseCount + 1 } : TcpConnection).state = .disconnected
            from hstate)]
        exact ⟨⟨hstate, hreadable, hwriting⟩, rfl⟩
      · exact hsame c rfl
    | _ =>
      apply hsame
      simp [TcpConnection.perform, act, write, flush, shutdown, forceCloseInLoop, handleError,
        handleClose, handleWrite, connectDestroyed, connected, hstate, hwriting]
  | writeInLoop data => exact hsame _ (by simp [TcpConnection.perform, writeInLoop, hstate])
  | flushInLoop send => exact hsame _ (by simp [TcpConnection.perform, flushInLoop, hstate])
  | disconnecting => exact hsame _ (by simp [TcpConnection.perform, hstate])
  | shutdownInLoop send =>
    simp only [TcpConnection.perform, shutdownInLoop, hempty, sendFin, hwriting]
    exact ⟨⟨hstate, hreadable, rfl⟩, rfl⟩

/-! ## Runs -/

theorem performs_cons (c : TcpConnection) (l : OutputStep) (steps : List OutputStep) :
    c.performs (l :: steps) = (c.perform l).performs steps := rfl

theorem Held.performs (hlimit : 0 < limit) (hwatermark : 0 < watermark)
    (h : Held limit watermark c) (steps : List OutputStep) :
    Held limit watermark (c.performs steps) ∧
      (c.performs steps).watermarks = c.watermarks ++ crossings limit watermark c steps := by
  induction steps generalizing c with
  | nil => exact ⟨h, by simp [TcpConnection.performs, crossings]⟩
  | cons l steps ih =>
    obtain ⟨hheld, hcrossing⟩ := h.perform hlimit hwatermark l
    obtain ⟨hheld', hcrossings⟩ := ih hheld
    rw [performs_cons]
    refine ⟨hheld', ?_⟩
    rw [hcrossings, hcrossing, crossings, List.append_assoc]

theorem Discarded.performs (h : Discarded c) (steps : List OutputStep) :
    Discarded (c.performs steps) ∧ (c.performs steps).sent = c.sent := by
  induction steps generalizing c with
  | nil => exact ⟨h, rfl⟩
  | cons l steps ih =>
    obtain ⟨hdiscarded, hsent⟩ := h.perform l
    obtain ⟨hdiscarded', hsent'⟩ := ih hdiscarded
    exact ⟨hdiscarded', hsent'.trans hsent⟩

/-- A connection that is established with these limits. -/
def established (maxInputBufferBytes limit watermark : Nat) : TcpConnection :=
  (OutputStream.start maxInputBufferBytes limit watermark).connection

/-- The backpressure on the output is exact. -/
theorem output_backpressure (maxInputBufferBytes limit watermark : Nat) (hlimit : 0 < limit)
    (hwatermark : 0 < watermark) (steps : List OutputStep) :
    Exact limit watermark (established maxInputBufferBytes limit watermark) steps
      ((established maxInputBufferBytes limit watermark).performs steps) := by
  have hstart : Held limit watermark (established maxInputBufferBytes limit watermark) :=
    ⟨rfl, rfl, Nat.zero_le _⟩
  obtain ⟨hheld, hcrossings⟩ := hstart.performs hlimit hwatermark steps
  refine ⟨hheld.bounded, fun l data hwriting hexceeds later => ?_, hcrossings⟩
  obtain ⟨hperform, hopen, hdata⟩ := perform_of_writing hwriting
  rw [hperform, writeInLoop_of_exceeds hlimit hheld.maxOutputBufferBytes hopen hdata hexceeds]
  obtain ⟨hdiscarded, hsent⟩ := discarded_forceCloseInLoop hopen
    (c := { (established maxInputBufferBytes limit watermark).performs steps with
      overloadCloseCount :=
        ((established maxInputBufferBytes limit watermark).performs steps).overloadCloseCount + 1 })
  obtain ⟨hdiscarded', hsent'⟩ := hdiscarded.performs later
  exact ⟨hdiscarded, hdiscarded', hsent'.trans hsent⟩

/-- The watermark is crossed twice, with a partial send in between, before the limit is exceeded. -/
def flooded : List OutputStep :=
  [.act (.write [1]), .act (.write [2, 3]), .act (.flush (.sent 2)), .writeInLoop [4],
    .act (.write [5, 6, 7])]

theorem output_backpressure_flooded :
    ((established 0 4 2).performs flooded).watermarks = [3, 2] ∧
      ((established 0 4 2).performs flooded).state = .disconnected ∧
      Exact 4 2 (established 0 4 2) flooded ((established 0 4 2).performs flooded) :=
  ⟨by decide +kernel, by decide +kernel, output_backpressure 0 4 2 (by decide) (by decide) flooded⟩

end TcpConnection

end NebulaRpc.Net
