import NebulaRpc.Rpc.WireFormat

/-!
# The receive loop

`RpcServer::OnMessage` and `RpcChannel::OnMessage` are one loop: decode a frame from the input
buffer, dispatch it, retrieve its wire size, and leave on a verdict other than `kOk`. They differ
in what they do with a frame, with the end of the batch and with a protocol error, which is the
parameter `MessageLoop`.

The loop is run with fuel; `onMessageLoop_isSome` shows that one unit for each readable byte is
enough, so every run ends.
-/

namespace NebulaRpc.Rpc

open NebulaRpc.Net Framing

/-- What a receiver does with each verdict of the decoder. None of the three touches the input
buffer. -/
structure MessageLoop (σ : Type*) where
  dispatch : RpcFrame → σ → σ
  onNeedMore : σ → σ
  onError : String → σ → σ

variable {σ : Type*}

/-- `OnMessage`, at most `fuel` iterations. -/
def onMessageLoop (L : MessageLoop σ) (F : MetaFormat) :
    Nat → Buffer → σ → Option (Buffer × σ)
  | 0, _, _ => none
  | fuel + 1, buffer, s =>
    match decode F buffer {} "" with
    | (.needMore, _, _) => some (buffer, L.onNeedMore s)
    | (.error, _, error) => some (buffer, L.onError error s)
    | (.ok, frame, _) =>
      let wireSize := frame.wireSize
      let s := L.dispatch frame s
      onMessageLoop L F fuel (buffer.retrieve wireSize) s

/-- `OnMessage`, run to its end. -/
def onMessage (L : MessageLoop σ) (F : MetaFormat) (buffer : Buffer) (s : σ) : Buffer × σ :=
  (onMessageLoop L F (buffer.readableBytes + 1) buffer s).getD (buffer, s)

/-- What the loop does in terms of the readable bytes: it dispatches the frames of the drained
stream in order and then handles the verdict that stopped it. -/
theorem onMessageLoop_eq (L : MessageLoop σ) (F : MetaFormat) (fuel : Nat) (b : Buffer) (s : σ)
    (hfuel : b.readableBytes < fuel) :
    ∃ b', b'.readable = (drain (framer F) b.readable).rest ∧
      onMessageLoop L F fuel b s = some (b',
        let s := (drain (framer F) b.readable).items.foldl (fun s f => L.dispatch f s) s
        match (drain (framer F) b.readable).error with
        | none => L.onNeedMore s
        | some e => L.onError e s) := by
  induction fuel generalizing b s with
  | zero => omega
  | succ fuel ih =>
    rw [onMessageLoop, decode_eq]
    cases h : parseFrame F b.readable with
    | more =>
      have hd : drain (framer F) b.readable = ⟨[], none, b.readable⟩ := drain_of_more h
      exact ⟨b, by rw [hd], by rw [hd]; rfl⟩
    | bad e =>
      have hd : drain (framer F) b.readable = ⟨[], some e, b.readable⟩ := drain_of_bad h
      exact ⟨b, by rw [hd], by rw [hd]; rfl⟩
    | ok f n =>
      have hpos := (framer F).size_pos h
      have hle := (framer F).size_le h
      have hsize : f.wireSize = n := by
        unfold parseFrame at h
        repeat' split at h
        all_goals cases h
        rfl
      have hshort : (b.retrieve n).readableBytes < fuel := by
        rw [← Buffer.length_readable, Buffer.readable_retrieve, List.length_drop]
        rw [Buffer.length_readable] at hle ⊢
        omega
      obtain ⟨b', hb', hrun⟩ := ih (b.retrieve n) (L.dispatch f s) hshort
      rw [Buffer.readable_retrieve] at hb' hrun
      have hd : drain (framer F) b.readable = ⟨f :: (drain (framer F) (b.readable.drop n)).items,
          (drain (framer F) (b.readable.drop n)).error,
          (drain (framer F) (b.readable.drop n)).rest⟩ := drain_of_ok h
      refine ⟨b', ?_, ?_⟩
      · rw [hd, hb']
      · dsimp only
        rw [hsize, hrun, hd]
        rfl

theorem onMessageLoop_isSome (L : MessageLoop σ) (F : MetaFormat) (b : Buffer) (s : σ) :
    (onMessageLoop L F (b.readableBytes + 1) b s).isSome := by
  obtain ⟨b', -, h⟩ := onMessageLoop_eq L F (b.readableBytes + 1) b s (Nat.lt_succ_self _)
  simp [h]

theorem readable_onMessage (L : MessageLoop σ) (F : MetaFormat) (b : Buffer) (s : σ) :
    (onMessage L F b s).1.readable = (drain (framer F) b.readable).rest := by
  obtain ⟨b', hb', h⟩ := onMessageLoop_eq L F (b.readableBytes + 1) b s (Nat.lt_succ_self _)
  rw [onMessage, h, Option.getD_some, hb']

theorem onMessage_snd (L : MessageLoop σ) (F : MetaFormat) (b : Buffer) (s : σ) :
    (onMessage L F b s).2 =
      let s := (drain (framer F) b.readable).items.foldl (fun s f => L.dispatch f s) s
      match (drain (framer F) b.readable).error with
      | none => L.onNeedMore s
      | some e => L.onError e s := by
  obtain ⟨b', hb', h⟩ := onMessageLoop_eq L F (b.readableBytes + 1) b s (Nat.lt_succ_self _)
  rw [onMessage, h, Option.getD_some]

/-! ## What was dispatched -/

/-- The frames a receiver has dispatched and the protocol error it has seen last. -/
structure Received where
  frames : List RpcFrame := []
  error : Option String := none

/-- The same receiver, with a record of its dispatches. -/
def MessageLoop.recorded (L : MessageLoop σ) : MessageLoop (σ × Received) where
  dispatch f s := (L.dispatch f s.1, { s.2 with frames := s.2.frames ++ [f] })
  onNeedMore s := (L.onNeedMore s.1, s.2)
  onError e s := (L.onError e s.1, { s.2 with error := some e })

theorem foldl_recorded (L : MessageLoop σ) (fs : List RpcFrame) (s : σ × Received) :
    (fs.foldl (fun s f => L.recorded.dispatch f s) s).2 = ⟨s.2.frames ++ fs, s.2.error⟩ := by
  induction fs generalizing s with
  | nil => simp
  | cons f fs ih =>
    rw [List.foldl_cons, ih]
    simp [MessageLoop.recorded]

/-- The record after one run of the loop. -/
theorem onMessage_recorded (L : MessageLoop σ) (F : MetaFormat) (b : Buffer) (s : σ × Received) :
    (onMessage L.recorded F b s).2.2 =
      ⟨s.2.frames ++ (drain (framer F) b.readable).items,
        (drain (framer F) b.readable).error.or s.2.error⟩ := by
  have hfold := foldl_recorded L (drain (framer F) b.readable).items s
  rw [onMessage_snd]
  dsimp only
  cases (drain (framer F) b.readable).error with
  | none => exact hfold
  | some e =>
    dsimp only [MessageLoop.recorded] at hfold ⊢
    rw [hfold]
    rfl

/-- One read event: `ReadFd` delivers a chunk and the message callback runs. -/
def deliver (L : MessageLoop σ) (F : MetaFormat) (c : Buffer × σ) (chunk : List UInt8) :
    Buffer × σ :=
  onMessage L F (c.1.readFd chunk) c.2

/-- A connection's buffer and record agree with a drained stream. -/
structure Agrees (c : Buffer × σ × Received) (o : Framing.Outcome UInt8 String RpcFrame) : Prop where
  rest : c.1.readable = o.rest
  frames : c.2.2.frames = o.items
  error : c.2.2.error = o.error

/-- A read event refines the reception of one more piece of the stream. An error that a
connection has seen does not go away, because the bad bytes stay in front. -/
theorem Agrees.deliver (L : MessageLoop σ) {F : MetaFormat} {c : Buffer × σ × Received}
    {s : List UInt8} (h : Agrees c (drain (framer F) s)) (chunk : List UInt8) :
    Agrees (deliver L.recorded F c chunk) (receive (framer F) (drain (framer F) s) chunk) := by
  have hb : (c.1.readFd chunk).readable = (drain (framer F) s).rest ++ chunk := by
    rw [Buffer.readable_readFd, h.rest]
  have hrec := onMessage_recorded L F (c.1.readFd chunk) c.2
  rw [hb] at hrec
  refine ⟨?_, ?_, ?_⟩
  · rw [Rpc.deliver, readable_onMessage, hb]
    rfl
  · rw [Rpc.deliver, hrec, h.frames]
    rfl
  · rw [Rpc.deliver, hrec, h.error]
    cases he : (drain (framer F) s).error with
    | none => exact Option.or_none
    | some e =>
      have hstay := drain_rest_append_of_error (framer F) s chunk he
      dsimp only [receive]
      rw [hstay]
      rfl

/-- Any number of read events refines the reception of the pieces one after another. -/
theorem Agrees.foldl_deliver (L : MessageLoop σ) {F : MetaFormat} {c : Buffer × σ × Received}
    {s : List UInt8} (h : Agrees c (drain (framer F) s)) (chunks : List (List UInt8)) :
    Agrees (chunks.foldl (Rpc.deliver L.recorded F) c)
      (drain (framer F) (s ++ chunks.flatten)) := by
  induction chunks generalizing c s with
  | nil => simpa using h
  | cons chunk chunks ih =>
    have hstep := h.deliver L chunk
    rw [receive, ← drain_append] at hstep
    rw [List.foldl_cons, List.flatten_cons, ← List.append_assoc]
    exact ih hstep

theorem agrees_fresh (F : MetaFormat) {b : Buffer} (hb : b.readable = []) (s : σ) :
    Agrees (b, s, {}) (drain (framer F) []) := by
  have hd : drain (framer F) [] = ⟨[], none, []⟩ := drain_of_more rfl
  rw [hd]
  exact ⟨hb, rfl, rfl⟩

/-- **Segmentation independence.** Let a stream arrive in any chunks at a receiver with an empty
input buffer. The frames dispatched, the protocol error and the bytes left over are those of the
stream in one piece. Every run of the loop ends, and once there has been a protocol error
nothing is dispatched any more, whatever arrives. -/
theorem deliver_chunks (L : MessageLoop σ) (F : MetaFormat) (b : Buffer) (hb : b.readable = [])
    (s : σ) (chunks : List (List UInt8)) :
    let many := chunks.foldl (deliver L.recorded F) (b, s, {})
    let one := deliver L.recorded F (b, s, {}) chunks.flatten
    many.2.2.frames = one.2.2.frames ∧ many.2.2.error = one.2.2.error ∧
      (one.2.2.error = none → many.1.readable = one.1.readable) ∧
      (∀ (b' : Buffer) (s' : σ), (onMessageLoop L F (b'.readableBytes + 1) b' s').isSome) ∧
      (many.2.2.error ≠ none → ∀ later : List (List UInt8),
        (later.foldl (deliver L.recorded F) many).2.2.frames = many.2.2.frames) := by
  intro many one
  have hmany : Agrees many (drain (framer F) chunks.flatten) :=
    (agrees_fresh F hb s).foldl_deliver L chunks
  have hone : Agrees one (drain (framer F) chunks.flatten) := by
    simpa using (agrees_fresh F hb s).foldl_deliver L [chunks.flatten]
  refine ⟨hmany.frames.trans hone.frames.symm, hmany.error.trans hone.error.symm,
    fun _ => hmany.rest.trans hone.rest.symm, onMessageLoop_isSome L F, ?_⟩
  intro herror later
  obtain ⟨e, he⟩ := Option.ne_none_iff_exists'.mp herror
  have hafter := hmany.foldl_deliver L later
  have hstay := drain_rest_append_of_error (framer F) chunks.flatten later.flatten
    (hmany.error.symm.trans he)
  rw [hafter.frames, hmany.frames, drain_append, hstay, List.append_nil]

/-- A receiver that does nothing but receive. -/
def idleLoop : MessageLoop Unit := ⟨fun _ s => s, id, fun _ s => s⟩

/-- A frame with empty meta and payload, cut inside both of its length words and followed by the
start of the next one. -/
theorem deliver_chunks_split_words :
    ([[0, 0], [0, 4, 0, 0], [0, 0, 7]].foldl (deliver idleLoop.recorded wireFormat)
      (Buffer.new 4, (), {})).2.2.frames =
    (deliver idleLoop.recorded wireFormat (Buffer.new 4, (), {})
      [0, 0, 0, 4, 0, 0, 0, 0, 7]).2.2.frames :=
  (deliver_chunks idleLoop wireFormat (Buffer.new 4) (Buffer.readable_new 4) ()
    [[0, 0], [0, 4, 0, 0], [0, 0, 7]]).1

end NebulaRpc.Rpc
