import NebulaRpc.Rpc.LoopedChannel

/-!
# The flush behind a batch

`OnMessage` completes calls: their callbacks run inside of it, their coroutines are resumed by functors
that it posts, and both may begin further calls, which are written but not flushed. The `Flush`
that `OnMessage` posts at its end stands behind these functors in the queue of the loop. A write is
known by the run of `OnMessage` that has led to it.
-/

namespace NebulaRpc.Rpc

open Net

/-- A run of `OnMessage`, with the ticket of the `Flush` that it has posted at the end of the
buffer. -/
structure Reading where
  conn : Nat
  flush : Option Nat := none
  deriving DecidableEq

def ChannelFunctor.resumes : ChannelFunctor → Bool
  | .resume _ => true
  | _ => false

structure BatchFlush where
  client : LoopedChannel
  readings : List Reading := []
  /-- the run of `OnMessage` in which the functor with this ticket was posted -/
  owner : Nat → Option Nat := fun _ => none
  /-- the functor that the loop thread is in, if that resumes a coroutine -/
  running : Option Nat := none
  /-- what was written to a connection that is up since it was last flushed, each with the run of
  `OnMessage` that has led to it -/
  unflushed : Nat → List (Option Nat × List UInt8) := fun _ => []

namespace BatchFlush

/-- The run of `OnMessage` that is under way. -/
def reading (s : BatchFlush) : Option Nat :=
  if s.client.channel.readings = [] then none else some (s.readings.length - 1)

/-- The run of `OnMessage` that has led to the step. A functor that is called has been posted by
another thread, or it resumes a coroutine; what that does are steps of their own. -/
def cause (s : BatchFlush) : LoopedStep → Option Nat
  | .callNext _ => none
  | _ => s.reading.or (s.running.bind s.owner)

def writes (s : BatchFlush) (l : LoopedStep) (client : LoopedChannel) : List (Nat × List UInt8) :=
  match l with
  | .act conn (.write data) => [(conn, data)]
  | _ => client.channel.env.written.drop s.client.channel.env.written.length

/-- The connection that is flushed in this step. -/
def flushes (s : BatchFlush) (l : LoopedStep) (client : LoopedChannel) : Option Nat :=
  match l with
  | .act conn (.flush _) => some conn
  | .callNext _ => (s.client.calling client).bind fun p => p.2.flushed
  | _ => none

def observe (s : BatchFlush) (l : LoopedStep) (client : LoopedChannel) : BatchFlush where
  client := client
  readings :=
    match l with
    | .channel (.onMessage conn _ _) => s.readings ++ [{ conn := conn }]
    | .channel l =>
      if s.client.channel.endsReading l then
        s.readings.modify (s.readings.length - 1) ({ · with flush := some s.client.posted })
      else s.readings
    | _ => s.readings
  owner ticket :=
    if s.client.posted ≤ ticket ∧ ticket < client.posted then
      if l.remote then none else s.reading
    else s.owner ticket
  running :=
    match l with
    | .callNext _ => (s.client.calling client).bind fun p => if p.2.resumes then some p.1 else none
    | .loop .swapRemote | .loop .finish => none
    | _ => s.running
  unflushed conn :=
    if (client.connections conn).connected && s.flushes l client ≠ some conn then
      s.unflushed conn ++ (s.writes l client).filterMap fun w =>
        if w.1 = conn then some (s.cause l, w.2) else none
    else []

def step (F : MetaFormat) (s : BatchFlush) (l : LoopedStep) : Option BatchFlush :=
  (s.client.step F l).map (s.observe l)

def run (F : MetaFormat) (s : BatchFlush) (steps : List LoopedStep) : Option BatchFlush :=
  Transition.run (step F) s steps

def start (nextRequestId : Nat) (e : ChannelEnv) (signalCallback : Bool) : BatchFlush :=
  { client := LoopedChannel.start nextRequestId e signalCallback }

end BatchFlush

/-! ## What waits in an output buffer -/

/-- On a connection that is up, what waits without write interest was written since the last
`Flush`. -/
structure Tidy (c : TcpConnection) (unflushed : List (List UInt8)) : Prop where
  fresh : c.state = .connecting → c.outputBuffer.readable = []
  up : c.connected = true →
    c.isWriting = true ∨ c.outputBuffer.readable <:+ unflushed.flatten

variable {c : TcpConnection} {unflushed : List (List UInt8)}

theorem Tidy.start : Tidy {} [] := ⟨fun _ => by simp, fun h => by cases h⟩

theorem tidy_of_disconnected (hstate : c.state = .disconnected) : Tidy c unflushed := by
  refine ⟨fun h => ?_, fun h => ?_⟩ <;> simp_all [TcpConnection.connected]

theorem Tidy.same (h : Tidy c unflushed) {c' : TcpConnection} (hstate : c'.state = c.state)
    (hwriting : c'.isWriting = c.isWriting) (hbuffer : c'.outputBuffer = c.outputBuffer) :
    Tidy c' unflushed := by
  refine ⟨fun hc => ?_, fun hc => ?_⟩
  · rw [hbuffer]
    exact h.fresh (hstate ▸ hc)
  · rw [hbuffer, hwriting]
    apply h.up
    simpa [TcpConnection.connected, hstate] using hc

/-- Behind a flush nothing waits without write interest. -/
theorem tidy_of_sent (hstate : c.state ≠ .connecting)
    (hsent : c.outputBuffer.readable = [] ∨ c.isWriting = true ∨ c.state = .disconnected) :
    Tidy c unflushed := by
  obtain hnil | hwriting | hclosed := hsent
  · exact ⟨fun hc => absurd hc hstate, fun _ => .inr (by simp [hnil])⟩
  · exact ⟨fun hc => absurd hc hstate, fun _ => .inl hwriting⟩
  · exact tidy_of_disconnected hclosed

/-- Nothing is said of a connection that is not up. -/
theorem Tidy.of_down (h : Tidy c unflushed) (hconnected : c.connected = false)
    (later : List (List UInt8)) : Tidy c later :=
  ⟨h.fresh, fun hc => by simp [hconnected] at hc⟩

theorem Tidy.append (h : Tidy c unflushed) (later : List (List UInt8))
    (hlater : later.flatten = []) : Tidy c (unflushed ++ later) :=
  ⟨h.fresh, fun hc => by simpa [hlater] using h.up hc⟩

theorem Tidy.write (h : Tidy c unflushed) (data : List UInt8) :
    Tidy (c.write data) (unflushed ++ [data]) := by
  unfold TcpConnection.write
  split
  swap
  · next hskip =>
    obtain hdown | rfl : c.connected = false ∨ data = [] := by
      simpa [Classical.or_iff_not_imp_left] using hskip
    · exact h.of_down hdown _
    · exact h.append _ (by simp)
  next hgo =>
  obtain ⟨hup, hdata⟩ : c.connected = true ∧ data ≠ [] := by simpa using hgo
  have hstate : c.state = .connected := by simpa [TcpConnection.connected] using hup
  unfold TcpConnection.writeInLoop
  rw [if_neg (by simp [hstate, hdata])]
  dsimp only
  split
  · exact tidy_of_disconnected TcpConnection.state_forceCloseInLoop
  · have hsame := TcpConnection.sameOutput_notifyHighWatermark (c := c)
      c.outputBuffer.readableBytes (c.outputBuffer.readableBytes + data.length)
    refine ⟨fun hc => ?_, fun _ => ?_⟩
    · rw [hsame.state, hstate] at hc
      cases hc
    · dsimp only
      rw [hsame.isWriting, Buffer.readable_append, hsame.readable, List.flatten_append,
        List.flatten_singleton]
      refine (h.up hup).imp_right fun hsuffix => ?_
      obtain ⟨earlier, hearlier⟩ := hsuffix
      exact ⟨earlier, by rw [← hearlier, List.append_assoc]⟩

theorem state_writeOutputBufferInLoop (c : TcpConnection) (send : SendResult) :
    (c.writeOutputBufferInLoop send).state = c.state ∨
      (c.writeOutputBufferInLoop send).state = .disconnected := by
  unfold TcpConnection.writeOutputBufferInLoop TcpConnection.sendFin
  grind [TcpConnection.state_forceCloseInLoop, TcpConnection.handleError, TcpConnection.call]

theorem sent_writeOutputBufferInLoop (c : TcpConnection) (send : SendResult) :
    (c.writeOutputBufferInLoop send).outputBuffer.readable = [] ∨
      (c.writeOutputBufferInLoop send).isWriting = true ∨
        (c.writeOutputBufferInLoop send).state = .disconnected := by
  unfold TcpConnection.writeOutputBufferInLoop TcpConnection.sendFin
  grind [TcpConnection.state_forceCloseInLoop, TcpConnection.handleError, TcpConnection.call,
    TcpConnection.readable_eq_nil_iff]

theorem Tidy.flush (h : Tidy c unflushed) (send : SendResult) : Tidy (c.flush send) [] := by
  by_cases hstate : c.state = .connected
  · apply tidy_of_sent
    · unfold TcpConnection.flush TcpConnection.flushInLoop
      grind [state_writeOutputBufferInLoop]
    · exact TcpConnection.flush_post hstate send
  · have hdown : c.connected = false := by simpa [TcpConnection.connected] using hstate
    have heq : c.flush send = c := by simp [TcpConnection.flush, hdown]
    rw [heq]
    exact h.of_down hdown []

/-- A connection that has been shut down is not up. -/
theorem state_shutdown (c : TcpConnection) (send : SendResult) :
    c.shutdown send = c ∧ c.state ≠ .connected ∨ (c.shutdown send).state = .disconnecting ∨
      (c.shutdown send).state = .disconnected := by
  unfold TcpConnection.shutdown TcpConnection.shutdownInLoop TcpConnection.flushInLoop
    TcpConnection.sendFin
  grind [state_writeOutputBufferInLoop]

/-- The bytes that an action writes. -/
def payloads : ConnectionAction → List (List UInt8)
  | .write data => [data]
  | _ => []

theorem Tidy.act (h : Tidy c unflushed) (l : ConnectionAction) :
    Tidy (c.act l) (unflushed ++ payloads l) := by
  cases l with
  | write data => exact h.write data
  | flush send =>
    obtain ⟨hfresh, hup⟩ := h.flush send
    refine ⟨hfresh, fun hc => (hup hc).imp_right fun hnil => ?_⟩
    have hreadable : (c.flush send).outputBuffer.readable = [] := by simpa using hnil
    show (c.flush send).outputBuffer.readable <:+ _
    rw [hreadable]
    exact List.nil_suffix
  | shutdown send =>
    show Tidy (c.shutdown send) _
    obtain ⟨heq, hstate⟩ | hstate | hstate := state_shutdown c send
    · rw [heq]
      exact h.of_down (by simpa [TcpConnection.connected] using hstate) _
    · refine ⟨fun hc => ?_, fun hc => ?_⟩ <;> simp [hstate, TcpConnection.connected] at hc
    · exact tidy_of_disconnected hstate
  | forceClose | handleError => exact tidy_of_disconnected TcpConnection.state_forceCloseInLoop
  | handleClose => exact tidy_of_disconnected TcpConnection.state_handleClose
  | handleWrite send =>
    simp only [payloads, List.append_nil]
    show Tidy (c.handleWrite send) _
    unfold TcpConnection.handleWrite
    split
    · next hwriting =>
      by_cases hstate : c.state = .connecting
      · -- there is nothing to send yet
        have hnil := (TcpConnection.readable_eq_nil_iff _).mp (h.fresh hstate)
        unfold TcpConnection.writeOutputBufferInLoop
        rw [if_pos hnil]
        refine ⟨fun _ => h.fresh hstate, fun hc => ?_⟩
        simp [TcpConnection.connected, hstate] at hc
      · apply tidy_of_sent
        · obtain heq | hclosed := state_writeOutputBufferInLoop c send
          · rwa [heq]
          · simp [hclosed]
        · exact sent_writeOutputBufferInLoop c send
    · exact h
  | receive bytes =>
    simp only [payloads, List.append_nil]
    exact h.same rfl rfl rfl
  | limitInput =>
    simp only [payloads, List.append_nil]
    show Tidy c.limitInput _
    unfold TcpConnection.limitInput
    split
    · exact tidy_of_disconnected TcpConnection.state_forceCloseInLoop
    · exact h
  | connectDestroyed =>
    simp only [payloads, List.append_nil]
    show Tidy c.connectDestroyed _
    unfold TcpConnection.connectDestroyed
    split
    · exact tidy_of_disconnected rfl
    · exact h

theorem Tidy.connectEstablished (hstate : c.state = .connecting) (h : Tidy c unflushed) :
    Tidy c.connectEstablished [] := by
  refine ⟨fun hc => ?_, fun _ => .inr ?_⟩
  · cases hc
  have hnil : c.connectEstablished.outputBuffer.readable = [] := h.fresh hstate
  simp [hnil]

/-- The channel has written to its connections. -/
theorem Tidy.writeAll {connections : Nat → TcpConnection} {conn : Nat}
    (h : Tidy (connections conn) unflushed) (writes : List (Nat × List UInt8)) :
    Tidy (LoopedChannel.writeAll connections writes conn)
      (unflushed ++ writes.filterMap fun w => if w.1 = conn then some w.2 else none) := by
  induction writes generalizing connections unflushed with
  | nil => simpa [LoopedChannel.writeAll] using h
  | cons w writes ih =>
    obtain ⟨conn', data⟩ := w
    rw [LoopedChannel.writeAll, List.foldl_cons, ← LoopedChannel.writeAll]
    by_cases hconn : conn' = conn
    · subst hconn
      have hwritten : Tidy (Function.update connections conn' ((connections conn').write data) conn')
          (unflushed ++ [data]) := by
        simpa using h.write data
      simpa using ih hwritten
    · have hother : Tidy (Function.update connections conn' ((connections conn').write data) conn)
          unflushed := by
        simpa [Ne.symm hconn] using h
      simpa [hconn] using ih hother

theorem Tidy.of_nil (h : Tidy c []) (later : List (List UInt8)) : Tidy c later := by
  refine ⟨h.fresh, fun hc => (h.up hc).imp_right fun hnil => ?_⟩
  have hreadable : c.outputBuffer.readable = [] := by simpa using hnil
  rw [hreadable]
  exact List.nil_suffix

/-! ## The functors that a run of `OnMessage` has posted -/

namespace BatchFlush

/-- The `Flush` of this run is called before the batch of this round ends, and behind every other
functor that was posted in the run. -/
structure Waits (s : BatchFlush) (m : Nat) (r : Reading) (t : Nat) : Prop where
  soon : Soon s.client.loop (.channel t)
  filed : s.client.Filed t (.flush r.conn)
  last : ∀ t' ∈ LoopedChannel.localTickets s.client.loop, s.owner t' = some m → t' ≤ t

/-- The run has led to everything that it leads to, and all of it has been flushed. -/
structure Over (s : BatchFlush) (m : Nat) (r : Reading) : Prop where
  called : ∀ t ∈ LoopedChannel.localTickets s.client.loop, s.owner t ≠ some m
  running : ∀ t, s.running = some t → s.owner t ≠ some m
  unflushed : ∀ w ∈ s.unflushed r.conn, w.1 ≠ some m

structure Flushing (s : BatchFlush) : Prop where
  ticketed : s.client.Ticketed
  reading : s.client.channel.readings ≠ [] → handling s.client.loop.control = true ∧
    ∃ r, s.readings.getLast? = some r ∧ r.flush = none ∧ s.client.channel.readings = [r.conn]
  running : ∀ t, s.running = some t → ∃ n, s.client.loop.control = .executing n
  owner : ∀ t m, s.owner t = some m → t < s.client.posted ∧ m < s.readings.length
  remote : ∀ t ∈ LoopedChannel.remoteTickets s.client.loop, s.owner t = none
  called : ∀ t m, s.owner t = some m →
    t ∈ LoopedChannel.localTickets s.client.loop ∨ .channel t ∈ s.client.loop.called
  flush : ∀ m r t, s.readings[m]? = some r → r.flush = some t →
    s.owner t = some m ∧ (Waits s m r t ∨ Over s m r)
  down : ∀ conn, (s.client.connections conn).connected = false → s.unflushed conn = []
  tidy : ∀ conn, Tidy (s.client.connections conn) ((s.unflushed conn).map (·.2))

variable {F : MetaFormat} {s s' : BatchFlush} {l : LoopedStep} {client : LoopedChannel} {m t : Nat}
  {r : Reading}

theorem Flushing.start (nextRequestId : Nat) (e : ChannelEnv) (signalCallback : Bool) :
    Flushing (start nextRequestId e signalCallback) := by
  refine ⟨.start nextRequestId e signalCallback, fun h => absurd rfl h, ?_, ?_, ?_, ?_, ?_, ?_,
    fun _ => .start⟩
  · rintro t ⟨⟩
  · rintro t m ⟨⟩
  · exact fun _ _ => rfl
  · rintro t m ⟨⟩
  · rintro m r t ⟨⟩
  · exact fun _ _ => rfl

/-- The run that is under way is the last one, and it has not posted its `Flush`. -/
theorem Flushing.reading_eq (h : Flushing s) (hm : s.reading = some m) :
    handling s.client.loop.control = true ∧ ∃ r, s.readings[m]? = some r ∧ r.flush = none ∧
      m + 1 = s.readings.length ∧ s.client.channel.readings = [r.conn] := by
  unfold BatchFlush.reading at hm
  split at hm
  · cases hm
  next hreadings =>
  obtain ⟨hhandling, r, hlast, hflush, hconn⟩ := h.reading hreadings
  obtain rfl : s.readings.length - 1 = m := Option.some.inj hm
  rw [List.getLast?_eq_getElem?] at hlast
  have hlt := (List.getElem?_eq_some_iff.mp hlast).1
  exact ⟨hhandling, r, hlast, hflush, by omega, hconn⟩

/-- A run that has posted its `Flush` is not under way. -/
theorem Flushing.reading_ne (h : Flushing s) (hget : s.readings[m]? = some r)
    (hflush : r.flush = some t) : s.reading ≠ some m := by
  intro hm
  obtain ⟨-, r', hget', hnone, -⟩ := h.reading_eq hm
  obtain rfl : r = r' := Option.some.inj (hget ▸ hget')
  cases hflush ▸ hnone

/-- A functor belongs to the run in which it was posted. -/
theorem owner_cases (howner : (s.observe l client).owner t = some m) :
    s.owner t = some m ∨ s.client.posted ≤ t ∧ t < client.posted ∧ l.remote = false ∧
      s.reading = some m := by
  simp only [observe] at howner
  split at howner
  · next hfresh =>
    split at howner
    · cases howner
    · next hremote => exact .inr ⟨hfresh.1, hfresh.2, by simpa using hremote, howner⟩
  · exact .inl howner

theorem owner_observe_of_lt (hlt : t < s.client.posted) :
    (s.observe l client).owner t = s.owner t := by
  simp only [observe]
  rw [if_neg (by omega)]

/-- A functor that is called behind the end of its run belongs to none that has flushed. -/
theorem cause_ne (hreading : s.reading ≠ some m)
    (hrunning : ∀ t, s.running = some t → s.owner t ≠ some m) (l : LoopedStep) :
    s.cause l ≠ some m := by
  unfold cause
  split
  · simp
  · intro hcause
    obtain hm | ⟨-, hm⟩ := Option.or_eq_some_iff.mp hcause
    · exact hreading hm
    · obtain ⟨t, ht, howner⟩ := Option.bind_eq_some_iff.mp hm
      exact hrunning t ht howner

theorem unflushed_observe {conn : Nat} {w : Option Nat × List UInt8}
    (hw : w ∈ (s.observe l client).unflushed conn) :
    s.flushes l client ≠ some conn ∧ (w ∈ s.unflushed conn ∨ w.1 = s.cause l) := by
  simp only [observe, ne_eq, Bool.and_eq_true, decide_eq_true_eq] at hw
  split at hw
  · next hkept =>
    refine ⟨by simpa using hkept.2, ?_⟩
    obtain hw | hw := List.mem_append.mp hw
    · exact .inl hw
    · obtain ⟨w', -, hw⟩ := List.mem_filterMap.mp hw
      split at hw
      · cases hw
        exact .inr rfl
      · cases hw
  · cases hw

/-- What a run has led to is over for good. -/
theorem Over.step (h : Flushing s) (hover : Over s m r) (hreading : s.reading ≠ some m)
    (hstep : s.client.step F l = some client) : Over (s.observe l client) m r := by
  have hadvances := LoopedChannel.advances_step h.ticketed hstep
  refine ⟨fun t ht howner => ?_, fun t ht howner => ?_, fun w hw hcause => ?_⟩
  · obtain howner' | ⟨-, -, -, hm⟩ := owner_cases howner
    · obtain ht' | ⟨hle, -⟩ := hadvances.locals t ht
      · exact hover.called t ht' howner'
      · exact absurd (h.owner t m howner').1 (by omega)
    · exact hreading hm
  · have hkept : s.owner t = some m := by
      obtain howner' | ⟨-, -, -, hm⟩ := owner_cases howner
      · exact howner'
      · exact absurd hm hreading
    cases l with
    | callNext send =>
      obtain ⟨-, ⟨ticket, functor, hcalling, hticket, -⟩ | ⟨hcalling, -⟩⟩ :=
        LoopedChannel.calling_spec h.ticketed hstep
      · simp only [observe, hcalling, Option.bind_some] at ht
        obtain rfl : ticket = t := by
          split at ht
          · exact Option.some.inj ht
          · cases ht
        obtain hlocal | hremote := hticket
        · exact hover.called ticket hlocal hkept
        · cases hkept ▸ h.remote ticket hremote
      · simp [observe, hcalling] at ht
    | channel | act => exact hover.running t ht hkept
    | loop l =>
      cases l with
      | swapRemote | finish => cases ht
      | _ => exact hover.running t ht hkept
  · obtain ⟨-, hw | hw⟩ := unflushed_observe hw
    · exact hover.unflushed w hw hcause
    · exact cause_ne hreading hover.running l (hw ▸ hcause)

theorem Waits.step (h : Flushing s) (hwaits : Waits s m r t) (hreading : s.reading ≠ some m)
    (hstep : s.client.step F l = some client) :
    Waits (s.observe l client) m r t ∨ Over (s.observe l client) m r := by
  have hadvances := LoopedChannel.advances_step h.ticketed hstep
  have hold : ∀ t' ∈ LoopedChannel.localTickets client.loop,
      (s.observe l client).owner t' = some m → t' ≤ t := by
    intro t' ht' howner
    obtain howner | ⟨-, -, -, hm⟩ := owner_cases howner
    · obtain ht' | ⟨hle, -⟩ := hadvances.locals t' ht'
      · exact hwaits.last t' ht' howner
      · exact absurd (h.owner t' m howner).1 (by omega)
    · exact absurd hm hreading
  obtain ⟨hsoon, hfiled⟩ | ⟨⟨send, rfl⟩, hcalling, hlater⟩ :=
    LoopedChannel.soon_step h.ticketed hstep hwaits.soon hwaits.filed
  · exact .inl ⟨hsoon, hfiled, hold⟩
  · -- the connection is flushed in this step
    refine .inr ⟨fun t' ht' howner => ?_, fun t' ht' => ?_, fun w hw => ?_⟩
    · exact absurd (hlater t' ht') (Nat.not_lt.mpr (hold t' ht' howner))
    · simp [observe, hcalling, ChannelFunctor.resumes] at ht'
    · have hflushes : s.flushes (.callNext send) client = some r.conn := by
        simp [flushes, hcalling, ChannelFunctor.flushed]
      exact absurd hflushes (unflushed_observe hw).1

/-- The output buffer agrees with what has been observed if it agrees with what was written. -/
theorem tidy_observe {conn : Nat}
    (h : Tidy (client.connections conn) ((s.unflushed conn).map (·.2) ++
      (s.writes l client).filterMap fun w => if w.1 = conn then some w.2 else none))
    (hflush : s.flushes l client = some conn → Tidy (client.connections conn) []) :
    Tidy (client.connections conn) (((s.observe l client).unflushed conn).map (·.2)) := by
  simp only [observe]
  split
  · have hwrites : ((s.writes l client).filterMap fun w =>
        if w.1 = conn then some (s.cause l, w.2) else none).map (·.2) =
          (s.writes l client).filterMap fun w => if w.1 = conn then some w.2 else none := by
      rw [List.map_filterMap]
      congr 1
      funext w
      split <;> rfl
    rwa [List.map_append, hwrites]
  · next hkept =>
    obtain hdown | hflushes : (client.connections conn).connected = false ∨
        s.flushes l client = some conn := by
      simpa [Classical.or_iff_not_imp_left] using hkept
    · exact h.of_down hdown _
    · exact hflush hflushes

theorem Flushing.tidy_established (h : Flushing s) {l : ChannelStep}
    (hfresh : s.client.fresh l = true) (conn : Nat) :
    Tidy ((s.client.established l).connections conn) ((s.unflushed conn).map (·.2)) := by
  unfold LoopedChannel.established
  split
  · next conn' =>
    by_cases hconn : conn = conn'
    · subst hconn
      have hstate : (s.client.connections conn).state = .connecting := by
        simpa [LoopedChannel.fresh] using hfresh
      have hdown : s.unflushed conn = [] :=
        h.down conn (by simp [TcpConnection.connected, hstate])
      simpa [hdown] using Tidy.connectEstablished hstate (h.tidy conn)
    · simpa [hconn] using h.tidy conn
  · exact h.tidy conn

theorem Flushing.tidy_step (h : Flushing s) (hstep : s.client.step F l = some client) (conn : Nat) :
    Tidy (client.connections conn) (((s.observe l client).unflushed conn).map (·.2)) := by
  cases l with
  | channel l =>
    obtain ⟨-, hfresh, -, -, c, -, rfl⟩ := LoopedChannel.channel_spec hstep
    apply tidy_observe _ (by rintro ⟨⟩)
    have hwritten := (h.tidy_established hfresh conn).writeAll
      (c.env.written.drop s.client.channel.env.written.length)
    have hchannel := (LoopedChannel.established_same s.client l).1
    simpa only [LoopedChannel.handOver, writes, hchannel] using hwritten
  | callNext send =>
    obtain ⟨-, ⟨ticket, functor, hcalling, -, hconnections⟩ | ⟨hcalling, hchannel, hconnections⟩⟩ :=
      LoopedChannel.calling_spec h.ticketed hstep
    · have hwritten := (h.tidy conn).writeAll
        (client.channel.env.written.drop s.client.channel.env.written.length)
      by_cases hflushes : functor.flushed = some conn
      · have hflushed : Tidy (client.connections conn) [] := by
          obtain ⟨conn', rfl⟩ : ∃ conn', functor = .flush conn' := by
            cases functor with
            | flush conn' => exact ⟨conn', rfl⟩
            | _ => cases hflushes
          cases hflushes
          rw [hconnections]
          simpa [LoopedChannel.flushedBy] using hwritten.flush send
        exact tidy_observe (hflushed.of_nil _) fun _ => hflushed
      · have hsame : client.connections conn = LoopedChannel.writeAll s.client.connections
            (client.channel.env.written.drop s.client.channel.env.written.length) conn := by
          rw [hconnections]
          unfold LoopedChannel.flushedBy
          split
          · next conn' =>
            have hconn : conn ≠ conn' := by
              rintro rfl
              exact hflushes rfl
            simp [hconn]
          · rfl
        apply tidy_observe
        · rw [hsame]
          exact hwritten
        · intro hflush
          simp [flushes, hcalling] at hflush
          exact absurd hflush hflushes
    · apply tidy_observe
      · simpa [writes, hchannel, hconnections] using h.tidy conn
      · intro hflush
        simp [flushes, hcalling] at hflush
  | loop l =>
    obtain ⟨-, -, loop, -, rfl⟩ := LoopedChannel.loop_spec hstep
    apply tidy_observe _ (by rintro ⟨⟩)
    simpa [writes] using h.tidy conn
  | act conn' l =>
    simp only [LoopedChannel.step, Option.ite_none_right_eq_some] at hstep
    obtain ⟨-, hstep⟩ := hstep
    cases hstep
    by_cases hconn : conn = conn'
    · subst hconn
      have hact := (h.tidy conn).act l
      apply tidy_observe
      · cases l <;> simpa [writes, payloads] using hact
      · intro hflush
        cases l with
        | flush send =>
          have hflushed : Tidy ((s.client.connections conn).act (.flush send)) [] :=
            (h.tidy conn).flush send
          simpa using hflushed
        | _ => cases hflush
    · apply tidy_observe
      · have hother := h.tidy conn
        cases l <;> simpa [writes, hconn, Ne.symm hconn] using hother
      · intro hflush
        cases l with
        | flush send => exact absurd (Option.some.inj hflush).symm hconn
        | _ => cases hflush

/-- `OnMessage` is called, or it posts its `Flush`, or no run begins. -/
theorem Flushing.readings_step (h : Flushing s) (hstep : s.client.step F l = some client) :
    (∃ conn, (s.observe l client).readings = s.readings ++ [{ conn := conn }] ∧
        client.channel.readings = [conn] ∧ handling client.loop.control = true) ∨
      (∃ r, s.readings[s.readings.length - 1]? = some r ∧
        (s.observe l client).readings = s.readings.modify (s.readings.length - 1)
          ({ · with flush := some s.client.posted }) ∧
        s.reading = some (s.readings.length - 1) ∧ client.channel.readings = [] ∧
        l.remote = false ∧ client.posted = s.client.posted + 1 ∧
        Soon client.loop (.channel s.client.posted) ∧
        client.Filed s.client.posted (.flush r.conn)) ∨
      (s.observe l client).readings = s.readings ∧
        client.channel.readings <:+ s.client.channel.readings ∧
        (client.channel.readings ≠ [] → client.loop.control = s.client.loop.control) := by
  cases l with
  | channel l =>
    obtain ⟨hruns, -, -, hhandler, c, hc, rfl⟩ := LoopedChannel.channel_spec hstep
    obtain ⟨hchannel, hloop, htickets, hposted⟩ := LoopedChannel.established_same s.client l
    have hcontrol : ((s.client.established l).handOver l.remote s.client.channel.functors.length
        c).loop.control = s.client.loop.control := by
      simp only [LoopedChannel.handOver, LoopedChannel.control_queueAll, hloop]
    obtain ⟨conn, frames, error, rfl, hstack, rfl⟩ |
      ⟨hmessage, ⟨hends, conn, stack, hstack, rfl⟩ | ⟨hends, hextends⟩⟩ :=
        RpcChannel.extends_step hc hruns
    · refine .inl ⟨conn, rfl, ?_, hcontrol ▸ hhandler rfl⟩
      simp [LoopedChannel.handOver, RpcChannel.readings, RpcChannel.push, hstack,
        ChannelFrame.reading]
    · have hreadings : s.client.channel.readings ≠ [] := by
        simp [RpcChannel.readings, hstack, ChannelFrame.reading]
      obtain ⟨hhandling, r, hlast, -, hconn⟩ := h.reading hreadings
      simp only [RpcChannel.readings, hstack, List.filterMap_cons, ChannelFrame.reading,
        List.cons.injEq] at hconn
      obtain ⟨rfl, hnil⟩ := hconn
      obtain ⟨accepted, index, order, rfl⟩ : ∃ accepted index order,
          l = .resume accepted index order := by
        cases l with
        | resume accepted index order => exact ⟨accepted, index, order, rfl⟩
        | _ => cases hends
      refine .inr (.inl ⟨r, by rwa [← List.getLast?_eq_getElem?], ?_, if_neg hreadings, hnil, rfl,
        ?_, ?_, ?_⟩)
      · simp only [observe, hends, if_true]
      · simp [LoopedChannel.handOver, hposted]
      · have hcollects : s.client.loop.control.collects = true := by
          unfold handling at hhandling
          split at hhandling
          · next hcontrol => simp [hcontrol, LoopControl.collects]
          · cases hhandling
        simp only [LoopedChannel.handOver, hloop, hposted, List.length_append, List.length_singleton,
          Nat.add_sub_cancel_left, List.range'_one]
        exact LoopedChannel.soon_queue hcollects _
      · refine ⟨s.client.channel.functors.length, ?_, ?_⟩
        · simp [LoopedChannel.handOver, htickets, hposted, ← h.ticketed.length]
        · simp [LoopedChannel.handOver]
    · refine .inr (.inr ⟨?_, hextends.readings, fun _ => hcontrol⟩)
      cases l with
      | onMessage conn frames error => exact absurd rfl (hmessage conn frames error)
      | _ => simp only [observe, hends, Bool.false_eq_true, if_false]
  | callNext send =>
    have hnil : client.channel.readings <:+ [] := by
      obtain ⟨hstack, loop, -, ⟨ticket, functor, c, -, -, hextends, rfl⟩ | ⟨-, rfl⟩⟩ :=
        LoopedChannel.callNext_spec hstep
      · have hreadings : c.readings <:+ [] := by
          simpa only [RpcChannel.readings, LoopedChannel.dequeued, hstack, List.filterMap_nil]
            using hextends.readings
        exact hreadings
      · simp [RpcChannel.readings, hstack]
    have hnil' := List.suffix_nil.mp hnil
    exact .inr (.inr ⟨rfl, hnil.trans List.nil_suffix, fun hne => absurd hnil' hne⟩)
  | loop l =>
    obtain ⟨-, hgoes, loop, hloop, rfl⟩ := LoopedChannel.loop_spec hstep
    refine .inr (.inr ⟨rfl, List.suffix_rfl, fun hne => ?_⟩)
    apply LoopedChannel.control_of_stays _ hloop
    by_contra hgo
    have hstack := hgoes (by simpa using hgo)
    simp [RpcChannel.readings, hstack] at hne
  | act conn l =>
    simp only [LoopedChannel.step, Option.ite_none_right_eq_some] at hstep
    obtain ⟨-, hstep⟩ := hstep
    cases hstep
    exact .inr (.inr ⟨rfl, List.suffix_rfl, fun _ => rfl⟩)

theorem Flushing.reading_step (h : Flushing s) (hstep : s.client.step F l = some client)
    (hreadings : client.channel.readings ≠ []) : handling client.loop.control = true ∧
      ∃ r, (s.observe l client).readings.getLast? = some r ∧ r.flush = none ∧
        client.channel.readings = [r.conn] := by
  obtain ⟨conn, hobserved, hchannel, hhandling⟩ | ⟨-, -, -, -, hnil, -⟩ |
    ⟨hobserved, hsuffix, hcontrol⟩ := h.readings_step hstep
  · exact ⟨hhandling, { conn := conn }, by simp [hobserved], rfl, hchannel⟩
  · exact absurd hnil hreadings
  · have hne : s.client.channel.readings ≠ [] := by
      intro hnil
      rw [hnil] at hsuffix
      exact hreadings (List.suffix_nil.mp hsuffix)
    obtain ⟨hhandling, r, hlast, hflush, hconn⟩ := h.reading hne
    refine ⟨hcontrol hreadings ▸ hhandling, r, hobserved ▸ hlast, hflush, ?_⟩
    rw [hconn, List.suffix_cons_iff, List.suffix_nil] at hsuffix
    exact hsuffix.resolve_right hreadings

theorem Flushing.running_step (h : Flushing s) (hstep : s.client.step F l = some client)
    (hrunning : (s.observe l client).running = some t) :
    ∃ n, client.loop.control = .executing n := by
  cases l with
  | callNext send => exact (LoopedChannel.calling_spec h.ticketed hstep).1
  | channel l =>
    obtain ⟨-, -, -, -, c, -, rfl⟩ := LoopedChannel.channel_spec hstep
    obtain ⟨-, hloop, -⟩ := LoopedChannel.established_same s.client l
    simp only [LoopedChannel.handOver, LoopedChannel.control_queueAll, hloop]
    exact h.running t hrunning
  | loop l =>
    obtain ⟨hforeign, -, loop, hloop, rfl⟩ := LoopedChannel.loop_spec hstep
    have hkept : s.running = some t := by
      cases l with
      | swapRemote | finish => cases hrunning
      | _ => exact hrunning
    obtain ⟨n, hcontrol⟩ := h.running t hkept
    obtain rfl | rfl | hcontrol := LoopedChannel.control_executing hcontrol hloop
    · cases hforeign
    · cases hrunning
    · exact ⟨n, hcontrol⟩
  | act conn l =>
    simp only [LoopedChannel.step, Option.ite_none_right_eq_some] at hstep
    obtain ⟨-, hstep⟩ := hstep
    cases hstep
    exact h.running t hrunning

theorem Flushing.length_le (h : Flushing s) (hstep : s.client.step F l = some client) :
    s.readings.length ≤ (s.observe l client).readings.length := by
  obtain ⟨conn, hobserved, -⟩ | ⟨r, -, hobserved, -⟩ | ⟨hobserved, -⟩ := h.readings_step hstep <;>
    simp [hobserved]

theorem Flushing.flush_step (h : Flushing s) (hstep : s.client.step F l = some client)
    (hget : (s.observe l client).readings[m]? = some r) (hflush : r.flush = some t) :
    (s.observe l client).owner t = some m ∧
      (Waits (s.observe l client) m r t ∨ Over (s.observe l client) m r) := by
  have hold : s.readings[m]? = some r → (s.observe l client).owner t = some m ∧
      (Waits (s.observe l client) m r t ∨ Over (s.observe l client) m r) := by
    intro hget
    have hreading := h.reading_ne hget hflush
    obtain ⟨howner, hwaits | hover⟩ := h.flush m r t hget hflush
    all_goals
      refine ⟨?_, ?_⟩
      · rwa [owner_observe_of_lt (h.owner t m howner).1]
    · exact hwaits.step h hreading hstep
    · exact .inr (hover.step h hreading hstep)
  obtain ⟨conn, hobserved, -⟩ | ⟨r', hr', hobserved, hreading, -, hremote, hposted, hsoon, hfiled⟩ |
    ⟨hobserved, -⟩ := h.readings_step hstep
  · rw [hobserved, List.getElem?_append] at hget
    split at hget
    · exact hold hget
    · obtain rfl : { conn := conn } = r := by
        simpa using (List.getElem?_eq_some_iff.mp hget).2
      cases hflush
  · rw [hobserved, List.getElem?_modify] at hget
    split at hget
    · next hm =>
      subst hm
      rw [hr'] at hget
      cases hget
      cases hflush
      -- the `Flush` stands behind all that the run has posted
      have howner : (s.observe l client).owner s.client.posted = some (s.readings.length - 1) := by
        simp only [observe]
        rw [if_pos (by omega), hremote, if_neg (by simp), hreading]
      refine ⟨howner, .inl ⟨hsoon, hfiled, fun t' ht' _ => ?_⟩⟩
      have hlt := (h.ticketed.step hstep).lt_local ht'
      have hlt' : t' < client.posted := hlt
      omega
    · exact hold (by simpa using hget)
  · exact hold (hobserved ▸ hget)

/-- What a run leads to is flushed behind it. -/
theorem Flushing.step (h : Flushing s) (hstep : s.step F l = some s') : Flushing s' := by
  obtain ⟨client, hclient, rfl⟩ := Option.map_eq_some_iff.mp hstep
  have hadvances := LoopedChannel.advances_step h.ticketed hclient
  refine ⟨h.ticketed.step hclient, h.reading_step hclient, fun t => h.running_step hclient,
    fun t m howner => ?_, fun t ht => ?_, fun t m howner => ?_, fun m r t => h.flush_step hclient,
    fun conn hdown => ?_, h.tidy_step hclient⟩
  · have hlength := h.length_le hclient
    obtain howner | ⟨-, hlt, -, hm⟩ := owner_cases howner
    · have hold := h.owner t m howner
      exact ⟨lt_of_lt_of_le hold.1 hadvances.posted, lt_of_lt_of_le hold.2 hlength⟩
    · obtain ⟨-, r, -, -, hlast, -⟩ := h.reading_eq hm
      exact ⟨hlt, by omega⟩
  · obtain ht | ⟨hle, hlt, hremote⟩ := hadvances.remotes t ht
    · have hlt := h.ticketed.lt t (h.ticketed.perm.mem_iff.mpr (List.mem_append_right _ ht))
      rw [owner_observe_of_lt hlt]
      exact h.remote t ht
    · simp only [observe]
      rw [if_pos ⟨hle, hlt⟩, if_pos hremote]
  · obtain howner | ⟨hle, hlt, hremote, -⟩ := owner_cases howner
    · obtain ht | hcalled := h.called t m howner
      · exact hadvances.kept t ht
      · exact .inr (hadvances.called _ hcalled)
    · exact .inl (hadvances.fresh t hle hlt hremote)
  · have hconnected : (client.connections conn).connected = false := hdown
    simp [observe, hconnected]

theorem Flushing.run {steps : List LoopedStep} (h : Flushing s)
    (hrun : s.run F steps = some s') : Flushing s' :=
  Transition.invariant_run (C := fun _ _ => True) (fun _ _ _ h _ hstep => h.step hstep) h
    (Transition.meets_of_forall fun _ _ => trivial) hrun

/-- When a batch of functors has been called, a run of `OnMessage` that had come to the end of its
buffer has led to everything that it leads to, and its connection has been flushed behind that. -/
theorem batch_flushed (F : MetaFormat) (nextRequestId : Nat) (e : ChannelEnv)
    (signalCallback : Bool) (steps : List LoopedStep) (s : BatchFlush)
    (hrun : (start nextRequestId e signalCallback).run F steps = some s)
    (hcontrol : s.client.loop.control = .clearing) (m : Nat) (r : Reading)
    (hget : s.readings[m]? = some r) (hended : r.flush.isSome) :
    (∀ t, s.owner t = some m ∨ r.flush = some t → .channel t ∈ s.client.loop.called) ∧
      (∀ w ∈ s.unflushed r.conn, w.1 ≠ some m) ∧
      ((s.client.connections r.conn).connected = true →
        (s.client.connections r.conn).isWriting = true ∨
          (s.client.connections r.conn).outputBuffer.readable <:+
            ((s.unflushed r.conn).map (·.2)).flatten) := by
  have h := Flushing.run (.start nextRequestId e signalCallback) hrun
  obtain ⟨t, hflush⟩ := Option.isSome_iff_exists.mp hended
  obtain ⟨howner, hwaits | hover⟩ := h.flush m r t hget hflush
  · obtain hcollects | hswapping | ⟨n, hexecuting⟩ := hwaits.soon.control <;>
      simp_all [LoopControl.collects]
  · refine ⟨fun t' ht' => ?_, hover.unflushed, (h.tidy r.conn).up⟩
    have howner' : s.owner t' = some m := by
      obtain howner' | hflush' := ht'
      · exact howner'
      · obtain rfl : t = t' := Option.some.inj (hflush ▸ hflush')
        exact howner
    exact (h.called t' m howner').resolve_left fun hwaiting => hover.called t' hwaiting howner'

/-- A coroutine call is answered; the coroutine writes when it is resumed. -/
def resumedBatch : List LoopedStep :=
  [.loop .loop, .loop .test, .loop (.poll false), .channel (.connectionUp 7),
    .channel (.beginCall { RpcChannel.emptyCall with coroutine := true } 0),
    .channel (.resume false 0 []), .act 7 (.flush (.sent 100)),
    .channel (.onMessage 7 [{ rpcMeta := { type := .response, requestId := 1 } }] none),
    .channel (.resume false 0 []), .channel (.resume false 0 []), .loop .eventsHandled,
    .loop .swapRemote, .callNext (.sent 0), .act 7 (.write [1, 2])]

theorem batch_flushed_resumed : ∃ s₁ s,
    (start 1 {} false).run wireFormat resumedBatch = some s₁ ∧
    s₁.unflushed 7 = [(some 0, [1, 2])] ∧
    s₁.run wireFormat [.callNext (.sent 2), .loop .finish] = some s ∧
    .channel 0 ∈ s.client.loop.called ∧ ∀ w ∈ s.unflushed 7, w.1 ≠ some 0 := by
  have hwritten : ((start 1 {} false).run wireFormat resumedBatch).map
      (fun s => s.unflushed 7) = some [(some 0, [1, 2])] := by
    decide +kernel
  have hend : ((start 1 {} false).run wireFormat
      (resumedBatch ++ [.callNext (.sent 2), .loop .finish])).map
        (fun s => (s.client.loop.control, s.owner 0, s.readings)) =
          some (.clearing, some 0, [{ conn := 7, flush := some 1 }]) := by
    decide +kernel
  obtain ⟨s₁, hrun₁, hunflushed⟩ := Option.map_eq_some_iff.mp hwritten
  obtain ⟨s, hrun, hs⟩ := Option.map_eq_some_iff.mp hend
  obtain ⟨hcontrol, howner, hreadings⟩ : s.client.loop.control = .clearing ∧
      s.owner 0 = some 0 ∧ s.readings = [{ conn := 7, flush := some 1 }] := by
    simpa using hs
  obtain ⟨hcalled, hflushed, -⟩ :=
    batch_flushed wireFormat 1 {} false _ s hrun hcontrol 0 { conn := 7, flush := some 1 }
      (by simp [hreadings]) rfl
  refine ⟨s₁, s, hrun₁, hunflushed, ?_, hcalled 0 (.inl howner), hflushed⟩
  rwa [BatchFlush.run, Transition.run_append, ← BatchFlush.run, hrun₁, Option.bind_some] at hrun

end BatchFlush

end NebulaRpc.Rpc
