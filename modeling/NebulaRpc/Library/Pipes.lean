import NebulaRpc.Library.Framing

/-!
# Pipes

A pipe takes bytes at one end and lets them arrive at the other end in the same order, as many as it
likes and when it likes; what is never let through is lost with the pipe. The sender writes chunks into
a buffer, from which they are sent when it is flushed; the receiver takes items off what has arrived
with a framer. When every chunk is exactly one item, or bad, the items taken are those of the first
chunks, in order.
-/

namespace Framing

variable {β ε α : Type*}

structure Pipe (β : Type*) where
  /-- written and not yet sent -/
  buffered : List β := []
  /-- sent and not yet arrived -/
  inFlight : List β := []
  /-- arrived and not yet taken by the receiver -/
  arrived : List β := []

namespace Pipe

/-- What has been written and not yet been taken. -/
def content (p : Pipe β) : List β := p.arrived ++ (p.inFlight ++ p.buffered)

def write (p : Pipe β) (bytes : List β) : Pipe β := { p with buffered := p.buffered ++ bytes }

/-- The next `n` bytes of the buffer are sent, or all there are. -/
def send (p : Pipe β) (n : Nat) : Pipe β :=
  { p with buffered := p.buffered.drop n, inFlight := p.inFlight ++ p.buffered.take n }

def flush (p : Pipe β) : Pipe β := p.send p.buffered.length

/-- The next `n` bytes arrive, or all there are. -/
def deliver (p : Pipe β) (n : Nat) : Pipe β :=
  { p with inFlight := p.inFlight.drop n, arrived := p.arrived ++ p.inFlight.take n }

/-- The receiver takes `n` bytes. -/
def consume (p : Pipe β) (n : Nat) : Pipe β := { p with arrived := p.arrived.drop n }

/-- The receiver takes items until the framer stops. -/
def drained (F : Framer β ε α) (p : Pipe β) : Pipe β := { p with arrived := (drain F p.arrived).rest }

@[simp]
theorem content_write (p : Pipe β) (bytes : List β) : (p.write bytes).content = p.content ++ bytes := by
  simp [content, write]

@[simp]
theorem content_send (p : Pipe β) (n : Nat) : (p.send n).content = p.content := by
  simp [content, send]

@[simp]
theorem content_flush (p : Pipe β) : p.flush.content = p.content := content_send p _

@[simp]
theorem buffered_flush (p : Pipe β) : p.flush.buffered = [] := List.drop_length

@[simp]
theorem content_deliver (p : Pipe β) (n : Nat) : (p.deliver n).content = p.content := by
  have harrived := List.take_append_drop n p.inFlight
  simp only [content, deliver, List.append_assoc]
  rw [← List.append_assoc (p.inFlight.take n), harrived]

end Pipe

/-- The chunk is one item, or the framer rejects it. -/
def Framer.Whole (F : Framer β ε α) (chunk : List β) : Prop :=
  (∃ a, F.next chunk = .ok a chunk.length) ∨ ∃ e, F.next chunk = .bad e

/-- The chunk is this item. -/
def Framer.Makes (F : Framer β ε α) (chunk : List β) (a : α) : Prop :=
  F.next chunk = .ok a chunk.length

/-- These items have been taken from a pipe into which these chunks were written: they are the items of
the first chunks, and the other chunks are still in the pipe. -/
def Piped (F : Framer β ε α) (p : Pipe β) (chunks : List (List β)) (items : List α) : Prop :=
  ∃ taken left, chunks = taken ++ left ∧ List.Forall₂ F.Makes taken items ∧
    p.content = left.flatten

namespace Piped

variable {F : Framer β ε α} {p p' : Pipe β} {chunks : List (List β)} {items : List α} {a : α} {n : Nat}

theorem start (F : Framer β ε α) : Piped F {} [] [] := ⟨[], [], rfl, .nil, rfl⟩

theorem write (h : Piped F p chunks items) (later : List (List β)) :
    Piped F (p.write later.flatten) (chunks ++ later) items := by
  obtain ⟨taken, left, rfl, hmakes, hbytes⟩ := h
  refine ⟨taken, left ++ later, List.append_assoc .., hmakes, ?_⟩
  rw [Pipe.content_write, hbytes, List.flatten_append]

/-- It does not matter where in the pipe the bytes are. -/
theorem of_content (h : Piped F p chunks items) (hcontent : p'.content = p.content) :
    Piped F p' chunks items := by
  obtain ⟨taken, left, hchunks, hmakes, hbytes⟩ := h
  exact ⟨taken, left, hchunks, hmakes, hcontent.trans hbytes⟩

/-- What has arrived begins with the next chunk, if it begins with an item at all. -/
theorem take (h : Piped F p chunks items) (hwhole : ∀ c ∈ chunks, F.Whole c)
    (hnext : F.next p.arrived = .ok a n) : Piped F (p.consume n) chunks (items ++ [a]) := by
  obtain ⟨taken, left, rfl, hmakes, hbytes⟩ := h
  have hall := F.ok_append (p.inFlight ++ p.buffered) hnext
  rw [← Pipe.content, hbytes] at hall
  cases left with
  | nil =>
    have hpos := F.size_pos hall
    have hle := F.size_le hall
    simp only [List.flatten_nil, List.length_nil] at hle
    omega
  | cons c left =>
    rw [List.flatten_cons] at hall
    obtain ⟨a', hok⟩ | ⟨e, hbad⟩ := hwhole c (by simp)
    · have hfirst := F.ok_append left.flatten hok
      rw [hall] at hfirst
      cases hfirst
      refine ⟨taken ++ [c], left, by simp, List.rel_append hmakes (.cons hok .nil), ?_⟩
      have hle := F.size_le hnext
      rw [Pipe.content, Pipe.consume, ← List.drop_append_of_le_length hle, ← Pipe.content, hbytes,
        List.flatten_cons, List.drop_left]
    · have hfirst := F.bad_append left.flatten hbad
      rw [hall] at hfirst
      cases hfirst

/-- A receiver that drains what has arrived. -/
theorem drain (hwhole : ∀ c ∈ chunks, F.Whole c) (h : Piped F p chunks items) :
    Piped F (p.drained F) chunks (items ++ (Framing.drain F p.arrived).items) := by
  induction hlen : p.arrived.length using Nat.strong_induction_on generalizing p items with
  | _ k ih =>
    cases hnext : F.next p.arrived with
    | more =>
      rw [Pipe.drained, drain_of_more hnext, List.append_nil]
      exact h
    | bad e =>
      rw [Pipe.drained, drain_of_bad hnext, List.append_nil]
      exact h
    | ok a n =>
      have hpos := F.size_pos hnext
      have hle := F.size_le hnext
      have hshort : (p.consume n).arrived.length < k := by
        simp only [Pipe.consume, List.length_drop]
        omega
      have hrest := ih _ hshort (h.take hwhole hnext) rfl
      rw [Pipe.drained, drain_of_ok hnext]
      rw [List.append_assoc] at hrest
      exact hrest

theorem chunk_of_forall₂ {taken : List (List β)} (h : List.Forall₂ F.Makes taken items)
    (ha : a ∈ items) : ∃ c ∈ taken, F.Makes c a := by
  induction h with
  | nil => cases ha
  | @cons c a' taken items hmake _ ih =>
    obtain rfl | ha := List.mem_cons.mp ha
    · exact ⟨c, List.mem_cons_self, hmake⟩
    · obtain ⟨c', hc', hmake'⟩ := ih ha
      exact ⟨c', List.mem_cons_of_mem _ hc', hmake'⟩

/-- An item that has been taken is one of the chunks. -/
theorem chunk_of_mem (h : Piped F p chunks items) (ha : a ∈ items) :
    ∃ c ∈ chunks, F.Makes c a := by
  obtain ⟨taken, left, rfl, hmakes, -⟩ := h
  obtain ⟨c, hc, hmake⟩ := chunk_of_forall₂ hmakes ha
  exact ⟨c, List.mem_append_left _ hc, hmake⟩

/-- A chunk that was written is one of the items, or still in the pipe. -/
theorem item_or_inside (h : Piped F p chunks items) {c : List β} (hc : c ∈ chunks) :
    (∃ a ∈ items, F.Makes c a) ∨ c <:+: p.content := by
  obtain ⟨taken, left, rfl, hmakes, hbytes⟩ := h
  obtain htaken | hleft := List.mem_append.mp hc
  · left
    clear hc hbytes
    induction hmakes with
    | nil => cases htaken
    | @cons c' a taken items hmake _ ih =>
      obtain rfl | htaken := List.mem_cons.mp htaken
      · exact ⟨a, List.mem_cons_self, hmake⟩
      · obtain ⟨a', ha', hmake'⟩ := ih htaken
        exact ⟨a', List.mem_cons_of_mem _ ha', hmake'⟩
  · right
    obtain ⟨before, after, rfl⟩ := List.append_of_mem hleft
    exact ⟨before.flatten, after.flatten, by simp [hbytes]⟩

/-- The items that have been taken are related as the chunks are. -/
theorem pairwise (h : Piped F p chunks items) {R : List β → List β → Prop} {R' : α → α → Prop}
    (hchunks : chunks.Pairwise R)
    (hmakes : ∀ c a c' a', F.Makes c a → F.Makes c' a' → R c c' → R' a a') : items.Pairwise R' := by
  obtain ⟨taken, left, rfl, htaken, -⟩ := h
  have htakes := (List.pairwise_append.mp hchunks).1
  clear * - htaken htakes hmakes
  induction htaken with
  | nil => exact .nil
  | @cons c a taken items hmake htaken ih =>
    obtain ⟨hfirst, hrest⟩ := List.pairwise_cons.mp htakes
    refine .cons (fun a' ha' => ?_) (ih hrest)
    obtain ⟨c', hc', hmake'⟩ := chunk_of_forall₂ htaken ha'
    exact hmakes c a c' a' hmake hmake' (hfirst c' hc')

end Piped

end Framing
