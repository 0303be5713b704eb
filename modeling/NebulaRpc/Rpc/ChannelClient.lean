import NebulaRpc.Net.TcpClient
import NebulaRpc.Rpc.Completion
import NebulaRpc.Rpc.Connectivity

/-!
# The channel and its client

`RpcChannel` owns a `TcpClient`, whose connection callback is `OnConnection`. Both run on the loop
thread, and their handlers call each other: a callback of the channel may close the connection, and
the client then calls `OnConnection` on top of it. So each handler of the client remembers how many
handlers of the channel are below it. Only the constructor and a protocol error call the client.
-/

namespace NebulaRpc.Rpc

open Net (TcpClient ClientStep ConnectOutcome ReconnectPolicy)

structure ChannelClient where
  channel : RpcChannel
  client : TcpClient
  /-- the `StartInLoop` of the constructor has run -/
  started : Bool := false
  /-- for each handler of the client, the handlers of the channel below it -/
  marks : List Nat := []

inductive ChannelClientStep where
  | start (outcome : ConnectOutcome)
  | channel (a : ChannelStep)
  /-- the order is that in which `FailAllPending` traverses the map -/
  | client (l : ClientStep) (order : List UInt64)

namespace ChannelClient

/-- The constructor has called `Connect`. -/
def initial (ip : String) (policy : ReconnectPolicy) (nextRequestId : Nat) (e : ChannelEnv) :
    ChannelClient where
  channel := RpcChannel.start nextRequestId e
  client :=
    let client := TcpClient.start ip policy
    { client with connect := true, connector := { client.connector with connect := true } }

/-- The handler on top is one of the client. -/
def clientOnTop (s : ChannelClient) : Bool := s.marks.head?.any (s.channel.stack.length ≤ ·)

/-- The connection callback that the client has entered, and whether the connection is up. -/
def entered (c c' : TcpClient) : ClientStep → Option (Nat × Bool)
  | .close conn => if c.stack.length < c'.stack.length then some (conn, false) else none
  | .connectDestroyed =>
    match c'.stack with
    | .connectionDestroyed conn :: _ => some (conn, false)
    | _ => none
  | _ => if c.nextConnectionId < c'.nextConnectionId then some (c.nextConnectionId, true) else none

/-- `OnConnection`. -/
def onConnection (F : MetaFormat) (channel : RpcChannel) (order : List UInt64) :
    Option (Nat × Bool) → Option RpcChannel
  | none => some channel
  | some (conn, true) => channel.step F (.connectionUp conn)
  | some (conn, false) => channel.step F (.connectionDown conn order)

/-- The client has made a step, which may be in its connection callback now. -/
def advance (F : MetaFormat) (s : ChannelClient) (l : ClientStep) (order : List UInt64)
    (client : TcpClient) : Option ChannelClient :=
  let size := client.stack.length
  (onConnection F s.channel order (entered s.client client l)).map fun channel =>
    { s with
      channel := channel
      client := client
      marks := List.replicate (size - s.marks.length) s.channel.stack.length ++
        s.marks.drop (s.marks.length - size) }

/-- When the channel can make the step. The client makes those of its connection. -/
def admits (s : ChannelClient) : ChannelStep → Bool
  | .connectionUp _ | .connectionDown .. | .shutdown => false
  | .elapse _ | .drawRequestId | .remoteBeginCall _ | .remoteCancelCoroutineCall _
  | .remoteStartCancel _ | .remoteClosure _ | .resetController _ | .setTimeout .. | .setDeadline .. =>
    true
  | _ => !s.clientOnTop

/-- When the client can make the step. A connection is closed in an event of its own, or by a handler
or user code that writes to it. -/
def admitsClient (s : ChannelClient) : ClientStep → Bool
  | .connect _ | .disconnect | .stop => false
  | .close _ => s.channel.network && !s.clientOnTop
  | .resume _ => s.clientOnTop
  | _ => s.channel.stack.isEmpty

def step (F : MetaFormat) (s : ChannelClient) : ChannelClientStep → Option ChannelClient
  | .start outcome =>
    if !s.started && s.channel.stack.isEmpty && s.client.stack.isEmpty then
      let (connector, call) := s.client.connector.startInLoop outcome
      { s with started := true }.advance F (.connect outcome) []
        ({ s.client with connector := connector }.deliver call)
    else none
  | .channel a =>
    if s.admits a then
      (s.channel.step F a).bind fun channel =>
        if s.channel.disconnects a then
          (channel.step F .shutdown).map fun channel =>
            { s with channel := channel, client := s.client.disconnect }
        else some { s with channel := channel }
    else none
  | .client l order =>
    if s.admitsClient l && s.channel.alive then (s.client.step l).bind (s.advance F l order) else none

/-- The state behind a list of steps. -/
def run (F : MetaFormat) (s : ChannelClient) (steps : List ChannelClientStep) :
    Option ChannelClient :=
  Transition.run (step F) s steps

/-- While `FailAllPending` runs for a protocol error, no `connect` that `RemoveConnection` starts
succeeds at once. -/
def KeepsOffline (s : ChannelClient) (l : ChannelClientStep) : Prop :=
  s.channel.connectionState = .disconnected → s.client.connect = true →
    ∀ order conn stack, l = .client (.resume .established) order →
      s.client.stack ≠ .connectionDown conn :: stack

/-! ## The client stays away from an offline channel -/

/-- An offline channel is on the way to `Disconnect`, or the client wants no connection any more. -/
structure Linked (s : ChannelClient) : Prop where
  marks : s.marks.length = s.client.stack.length
  write : ∀ fd socketError, .write fd socketError ∈ s.client.stack → s.channel.stack = []
  offline : s.channel.connectionState = .disconnected →
    s.channel.Disconnecting ∨ s.client.connect = false

variable {F : MetaFormat} {s s' : ChannelClient} {l : ChannelClientStep}

theorem not_disconnecting_of_empty {c : RpcChannel} (hstack : c.stack = []) : ¬ c.Disconnecting := by
  rintro ⟨ids, below, hsuffix⟩
  simp [hstack] at hsuffix

/-- When the channel is on top and idle, so is the client. -/
theorem Linked.client_idle (h : Linked s) (htop : s.clientOnTop = false)
    (hstack : s.channel.stack = []) : s.client.stack = [] := by
  have hmarks := h.marks
  cases hm : s.marks with
  | nil => simpa [hm, eq_comm] using hmarks
  | cons mark marks => simp [clientOnTop, hm, hstack] at htop

theorem lt_of_entered {c c' : TcpClient} {l : ClientStep} {conn : Nat}
    (h : entered c c' l = some (conn, true)) :
    c.nextConnectionId < c'.nextConnectionId := by
  unfold entered at h
  split at h
  · split at h <;> cases h
  · split at h <;> cases h
  · split at h
    · next hlt => exact hlt
    · cases h

/-- The connection callback of a channel on which the client has come up. -/
inductive Called (F : MetaFormat) (c : RpcChannel) : Option (Nat × Bool) → RpcChannel → Prop
  | none : Called F c none c
  | up {conn : Nat} {c' : RpcChannel} (hstep : c.step F (.connectionUp conn) = some c') :
      Called F c (some (conn, true)) c'
  | down {conn : Nat} {order : List UInt64} {c' : RpcChannel}
      (hstep : c.step F (.connectionDown conn order) = some c') : Called F c (some (conn, false)) c'

/-- What a step does: the client stays or is told to disconnect, or it makes a step of its own. -/
inductive Moves (F : MetaFormat) (s : ChannelClient) (l : ChannelClientStep) : ChannelClient → Prop
  | channel {a : ChannelStep} {channel : RpcChannel} (hl : l = .channel a) (ha : s.admits a = true)
      (hstep : s.channel.step F a = some channel) (hdisconnects : s.channel.disconnects a = false) :
      Moves F s l { s with channel := channel }
  | disconnect {a : ChannelStep} {channel channel' : RpcChannel} (hl : l = .channel a)
      (ha : s.admits a = true) (hstep : s.channel.step F a = some channel)
      (hdisconnects : s.channel.disconnects a = true)
      (hshutdown : channel.step F .shutdown = some channel') :
      Moves F s l { s with channel := channel', client := s.client.disconnect }
  | client {k : ClientStep} {order : List UInt64} {channel : RpcChannel} {client : TcpClient}
      {marks : List Nat} (hl : l = .client k order) (hk : s.admitsClient k = true)
      (hstep : s.client.step k = some client)
      (hcalled : Called F s.channel (entered s.client client k) channel)
      (hmarks : marks.length = client.stack.length) :
      Moves F s l { s with channel := channel, client := client, marks := marks }
  | start {outcome : ConnectOutcome} {channel : RpcChannel} {marks : List Nat}
      (hl : l = .start outcome) (hidle : s.channel.stack = [] ∧ s.client.stack = [])
      (hcalled : Called F s.channel (entered s.client
        ({ s.client with connector := (s.client.connector.startInLoop outcome).1 }.deliver
          (s.client.connector.startInLoop outcome).2) (.connect outcome)) channel)
      (hmarks : marks.length = ({ s.client with
        connector := (s.client.connector.startInLoop outcome).1 }.deliver
          (s.client.connector.startInLoop outcome).2).stack.length) :
      Moves F s l { s with
        channel := channel
        client := { s.client with connector := (s.client.connector.startInLoop outcome).1 }.deliver
          (s.client.connector.startInLoop outcome).2
        started := true
        marks := marks }

theorem advance_cases {k : ClientStep} {order : List UInt64} {client : TcpClient}
    (h : s.advance F k order client = some s') :
    ∃ channel marks, Called F s.channel (entered s.client client k) channel ∧
      marks.length = client.stack.length ∧
      s' = { s with channel := channel, client := client, marks := marks } := by
  simp only [advance, Option.map_eq_some_iff] at h
  obtain ⟨channel, hcalled, rfl⟩ := h
  refine ⟨channel, _, ?_, ?_, rfl⟩
  · generalize entered s.client client k = e at hcalled
    rcases e with _ | ⟨conn, _ | _⟩
    · cases hcalled
      exact .none
    · exact .down hcalled
    · exact .up hcalled
  · rw [List.length_append, List.length_replicate, List.length_drop]
    omega

theorem moves_of_step (hstep : s.step F l = some s') : Moves F s l s' := by
  cases l with
  | start outcome =>
    simp only [step, Option.ite_none_right_eq_some, Bool.and_eq_true, List.isEmpty_iff] at hstep
    obtain ⟨⟨⟨-, hchannel⟩, hclient⟩, hadvance⟩ := hstep
    obtain ⟨channel, marks, hcalled, hmarks, rfl⟩ := advance_cases hadvance
    exact .start rfl ⟨hchannel, hclient⟩ hcalled hmarks
  | channel a =>
    simp only [step, Option.ite_none_right_eq_some, Option.bind_eq_some_iff] at hstep
    obtain ⟨ha, channel, hchannel, hstep⟩ := hstep
    split at hstep
    · next hdisconnects =>
      obtain ⟨channel', hshutdown, rfl⟩ := Option.map_eq_some_iff.mp hstep
      exact .disconnect rfl ha hchannel hdisconnects hshutdown
    · next hdisconnects =>
      cases hstep
      exact .channel rfl ha hchannel (by simpa using hdisconnects)
  | client k order =>
    simp only [step, Option.ite_none_right_eq_some, Option.bind_eq_some_iff, Bool.and_eq_true] at hstep
    obtain ⟨⟨hk, -⟩, client, hclient, hadvance⟩ := hstep
    obtain ⟨channel, marks, hcalled, hmarks, rfl⟩ := advance_cases hadvance
    exact .client rfl hk hclient hcalled hmarks

theorem stack_disconnect (c : TcpClient) : c.disconnect.stack = c.stack := by
  unfold TcpClient.disconnect
  dsimp only
  split
  · split <;> rfl
  · rfl

theorem connect_disconnect (c : TcpClient) : c.disconnect.connect = false := by
  unfold TcpClient.disconnect
  dsimp only
  split
  · split <;> rfl
  · rfl

theorem admitsClient_spec {k : ClientStep} (hk : s.admitsClient k = true) :
    k.user = false ∧ (k.event = true → s.channel.stack = []) := by
  cases k with
  | connect | disconnect | stop => cases hk
  | close | resume => exact ⟨rfl, fun h => nomatch h⟩
  | _ => exact ⟨rfl, fun _ => by simpa [admitsClient] using hk⟩

/-- On top of a handler of the client, only other threads make steps of the channel. -/
theorem stack_of_clientOnTop {a : ChannelStep} {c : RpcChannel} (ha : s.admits a = true)
    (htop : s.clientOnTop = true) (hstep : s.channel.step F a = some c) :
    c.stack = s.channel.stack := by
  cases a with
  | elapse now =>
    simp only [RpcChannel.step, Option.ite_none_right_eq_some, Option.some.injEq] at hstep
    obtain ⟨-, rfl⟩ := hstep
    rfl
  | remoteBeginCall x =>
    simp only [RpcChannel.step, Option.ite_none_right_eq_some, Option.some.injEq] at hstep
    obtain ⟨-, rfl⟩ := hstep
    obtain ⟨n, completions, -, heq⟩ := RpcChannel.prepareCall_state F s.channel x
    rw [heq]
  | remoteCancelCoroutineCall id =>
    simp only [RpcChannel.step, Option.ite_none_right_eq_some, Option.some.injEq] at hstep
    obtain ⟨-, rfl⟩ := hstep
    split <;> rfl
  | remoteClosure index =>
    simp only [RpcChannel.step, Option.map_eq_some_iff] at hstep
    obtain ⟨id, -, rfl⟩ := hstep
    rfl
  | drawRequestId | remoteStartCancel | resetController | setTimeout | setDeadline =>
    obtain rfl : _ = c := Option.some.inj hstep
    rfl
  | _ => simp [admits, htop] at ha

namespace Linked

/-- Only a connection that comes up at once, on top of `FailAllPending`, would find the channel
offline. -/
theorem not_up (h : Linked s) (hcond : KeepsOffline s l) (hmoves : Moves F s l s')
    (hstate : s.channel.connectionState = .disconnected) :
    s'.client.nextConnectionId = s.client.nextConnectionId := by
  have hoffline : s.client.connect = true → s.channel.stack ≠ [] := by
    intro hconnect hstack
    obtain hdisconnecting | hnot := h.offline hstate
    · exact not_disconnecting_of_empty hstack hdisconnecting
    · simp [hconnect] at hnot
  cases hmoves with
  | channel => rfl
  | disconnect =>
    show s.client.disconnect.nextConnectionId = _
    unfold TcpClient.disconnect
    dsimp only
    split
    · split <;> rfl
    · rfl
  | @client k order channel client marks hl hk hstep hcalled hmarks =>
    obtain ⟨huser, hevent⟩ := admitsClient_spec hk
    obtain hsame | ⟨hconnect, hevent' | ⟨fd, socketError, stack, hstack⟩ | ⟨conn, stack, hstack, rfl⟩⟩ :=
      (TcpClient.Loops.step huser hstep).opens
    · exact hsame
    · exact absurd (hevent hevent') (hoffline hconnect)
    · exact absurd (h.write fd socketError (hstack ▸ List.mem_cons_self)) (hoffline hconnect)
    · exact absurd hstack (hcond hstate hconnect order conn stack hl)
  | start hl hidle hcalled hmarks =>
    obtain ⟨-, hsame | ⟨hconnect, -⟩, -⟩ := TcpClient.deliver_spec (c := { s.client with connector := _ }) _
    · exact hsame
    · exact absurd hidle.1 (hoffline hconnect)

/-- The channel makes steps of its own, and while it is offline no connection comes up. -/
theorem channel_run (h : Linked s) (hcond : KeepsOffline s l) (hmoves : Moves F s l s') :
    ∃ steps, s.channel.run F steps = some s'.channel ∧
      (s.channel.connectionState = .disconnected → ∀ a ∈ steps, ∀ conn, a ≠ .connectionUp conn) := by
  have hcalled : ∀ {client : TcpClient} {k : ClientStep} {channel : RpcChannel},
      Called F s.channel (entered s.client client k) channel →
      (s.channel.connectionState = .disconnected →
        client.nextConnectionId = s.client.nextConnectionId) →
      ∃ steps, s.channel.run F steps = some channel ∧
        (s.channel.connectionState = .disconnected →
          ∀ a ∈ steps, ∀ conn, a ≠ .connectionUp conn) := by
    intro client k channel hcalled hsame
    generalize he : entered s.client client k = e at hcalled
    cases hcalled with
    | none => exact ⟨[], rfl, by simp⟩
    | @up conn _ hstep =>
      refine ⟨[.connectionUp conn], Transition.run_cons_eq_some_iff.mpr ⟨_, hstep, rfl⟩, ?_⟩
      intro hstate
      exact absurd (hsame hstate) (lt_of_entered he).ne'
    | @down conn order _ hstep =>
      exact ⟨[.connectionDown conn order], Transition.run_cons_eq_some_iff.mpr ⟨_, hstep, rfl⟩,
        by simp⟩
  have hsame := h.not_up hcond hmoves
  cases hmoves with
  | @channel a channel hl ha hstep hdisconnects =>
    refine ⟨[a], Transition.run_cons_eq_some_iff.mpr ⟨_, hstep, rfl⟩, fun _ b hb conn => ?_⟩
    obtain rfl := List.mem_singleton.mp hb
    rintro rfl
    cases ha
  | @disconnect a channel channel' hl ha hstep hdisconnects hshutdown =>
    refine ⟨[a, .shutdown], ?_, fun _ b hb conn => ?_⟩
    · exact Transition.run_cons_eq_some_iff.mpr ⟨_, hstep,
        Transition.run_cons_eq_some_iff.mpr ⟨_, hshutdown, rfl⟩⟩
    · rintro rfl
      obtain rfl : _ = a := by simpa using hb
      cases ha
  | client hl hk hstep hcalled' hmarks => exact hcalled hcalled' hsame
  | start hl hidle hcalled' hmarks => exact hcalled hcalled' hsame

theorem offline_called {e : Option (Nat × Bool)} {channel : RpcChannel} (h : Linked s)
    (hcalled : Called F s.channel e channel) (hstate : channel.connectionState = .disconnected) :
    channel.Disconnecting ∨ s.client.connect = false := by
  cases hcalled with
  | none => exact h.offline hstate
  | up hstep | down hstep =>
    exact RpcChannel.disconnecting_step h.offline (by simp [RpcChannel.disconnects]) hstep hstate

/-- A step of the channel leaves an idle channel idle while a handler of the connector waits. -/
theorem write_channel (h : Linked s) {a : ChannelStep} {channel : RpcChannel}
    (ha : s.admits a = true) (hstep : s.channel.step F a = some channel) {fd : Nat}
    {socketError : Option String} (hmem : .write fd socketError ∈ s.client.stack) :
    channel.stack = [] := by
  have hstack := h.write fd socketError hmem
  have htop : s.clientOnTop = true := by
    by_contra hnot
    simp [h.client_idle (by simpa using hnot) hstack] at hmem
  exact (stack_of_clientOnTop ha htop hstep).trans hstack

theorem write_client (h : Linked s) {k : ClientStep} {client : TcpClient} {channel : RpcChannel}
    (hk : s.admitsClient k = true) (hstep : s.client.step k = some client)
    (hcalled : Called F s.channel (entered s.client client k) channel) {fd : Nat}
    {socketError : Option String} (hmem : .write fd socketError ∈ client.stack) :
    channel.stack = [] := by
  obtain ⟨huser, hevent⟩ := admitsClient_spec hk
  have hwrite := (TcpClient.Loops.step huser hstep).write fd socketError hmem
  have hstack : s.channel.stack = [] := by
    obtain hmem | ⟨text, write, rfl⟩ := hwrite
    · exact h.write fd socketError hmem
    · exact hevent rfl
  generalize he : entered s.client client k = e at hcalled
  cases hcalled with
  | none => exact hstack
  | up hstep' =>
    simp only [RpcChannel.step, Option.ite_none_right_eq_some, Option.some.injEq] at hstep'
    obtain ⟨-, rfl⟩ := hstep'
    exact hstack
  | down hstep' =>
    -- a connection is closed with the client idle, and `HandleWrite` is not to come then
    exfalso
    have hidle : s.client.stack = [] := by
      cases k with
      | close conn =>
        simp only [admitsClient, Bool.and_eq_true, Bool.not_eq_true'] at hk
        exact h.client_idle hk.2 hstack
      | connectDestroyed =>
        simp only [TcpClient.step] at hstep
        split at hstep
        · next hempty _ => exact hempty
        · cases hstep
      | _ => simp [entered] at he
    obtain hmem | ⟨text, write, rfl⟩ := hwrite
    · simp [hidle] at hmem
    · simp [entered] at he

theorem moves (h : Linked s) (hmoves : Moves F s l s') : Linked s' := by
  cases hmoves with
  | channel hl ha hstep hdisconnects =>
    refine ⟨h.marks, fun fd socketError hmem => h.write_channel ha hstep hmem, ?_⟩
    apply RpcChannel.disconnecting_step h.offline _ hstep
    simp [hdisconnects]
  | disconnect hl ha hstep hdisconnects hshutdown =>
    refine ⟨h.marks.trans (congrArg _ (stack_disconnect _).symm), fun fd socketError hmem => ?_,
      fun _ => .inr (connect_disconnect _)⟩
    simp only [stack_disconnect] at hmem
    simp only [RpcChannel.step, Option.ite_none_right_eq_some, Option.some.injEq] at hshutdown
    obtain ⟨-, rfl⟩ := hshutdown
    have hstack := h.write_channel ha hstep hmem
    exact hstack
  | client hl hk hstep hcalled hmarks =>
    refine ⟨hmarks, fun fd socketError hmem => h.write_client hk hstep hcalled hmem, fun hstate => ?_⟩
    rw [(TcpClient.Loops.step (admitsClient_spec hk).1 hstep).connect]
    exact h.offline_called hcalled hstate
  | @start outcome channel marks hl hidle hcalled hmarks =>
    obtain ⟨hconnect, -, hwrite⟩ := TcpClient.deliver_spec
      (c := { s.client with connector := (s.client.connector.startInLoop outcome).1 })
      (s.client.connector.startInLoop outcome).2
    refine ⟨hmarks, fun fd socketError hmem => ?_, fun hstate => ?_⟩
    · have hmem := hwrite fd socketError hmem
      simp [hidle.2] at hmem
    · rw [hconnect]
      exact h.offline_called hcalled hstate

end Linked

/-- What holds of the channel alone, in every run. -/
structure Sound (s : ChannelClient) : Prop where
  linked : Linked s
  governed : s.channel.Governed
  opened : s.channel.Opened

theorem Sound.step (h : Sound s) (hcond : KeepsOffline s l) (hstep : s.step F l = some s') :
    Sound s' := by
  have hmoves := moves_of_step hstep
  obtain ⟨steps, hrun, -⟩ := h.linked.channel_run hcond hmoves
  have hchannel : s'.channel.Governed ∧ s'.channel.Opened :=
    Transition.invariant_run (C := fun _ _ => True) (I := fun c => c.Governed ∧ c.Opened)
      (fun c a c' hc _ hstep => RpcChannel.governed_step hc hstep)
      ⟨h.governed, h.opened⟩ (Transition.meets_of_forall fun _ _ => trivial) hrun
  exact ⟨h.linked.moves hmoves, hchannel.1, hchannel.2⟩

theorem sound_initial (ip : String) (policy : ReconnectPolicy) (nextRequestId : Nat)
    (e : ChannelEnv) : Sound (initial ip policy nextRequestId e) := by
  refine ⟨⟨rfl, ?_, ?_⟩, ⟨?_, ?_, ?_, ?_⟩, ⟨?_, ?_⟩⟩
  all_goals simp [initial, TcpClient.start, RpcChannel.start, RpcChannel.keys]

/-- A channel that is offline stays so. -/
theorem offline_step {w : List (Nat × List UInt8)} {n : Nat} (h : Sound s)
    (hoffline : RpcChannel.Offline w n s.channel) (hcond : KeepsOffline s l)
    (hstep : s.step F l = some s') : RpcChannel.Offline w n s'.channel := by
  obtain ⟨steps, hrun, hup⟩ := h.linked.channel_run hcond (moves_of_step hstep)
  refine (Transition.invariant_run (C := fun _ a => ∀ conn, a ≠ .connectionUp conn)
    (I := fun c => (c.Governed ∧ c.Opened) ∧ RpcChannel.Offline w n c)
    (fun c a c' hc ha hstep => RpcChannel.Offline.step hc ha hstep)
    ⟨⟨h.governed, h.opened⟩, hoffline⟩ ?_ hrun).2
  exact Transition.meets_of_forall_mem fun _ => hup hoffline.state

theorem step_channel {a : ChannelStep} (hdisconnects : s.channel.disconnects a = false)
    (hstep : s.step F (.channel a) = some s') : s.channel.step F a = some s'.channel := by
  simp only [step, hdisconnects, Option.ite_none_right_eq_some, Option.bind_eq_some_iff] at hstep
  obtain ⟨-, channel, hchannel, heq⟩ := hstep
  cases heq
  exact hchannel

/-- In every run of a channel with its client in which no connection comes up at once while
`FailAllPending` runs for a protocol error: outside of `FailAllPending` there are pending calls only
while connected; a connected channel has a connection; and an offline channel stays offline, writes
nothing more, keeps the text of a protocol error, and every later call is queued or notified, and
fails with that text when it is begun on the loop or the loop comes to it. -/
theorem connection_governs (F : MetaFormat) (ip : String) (policy : ReconnectPolicy)
    (nextRequestId : Nat) (e : ChannelEnv) (earlier later : List ChannelClientStep)
    (s₁ s : ChannelClient)
    (hmeets : Transition.Meets (step F) KeepsOffline (initial ip policy nextRequestId e)
      (earlier ++ later))
    (hearlier : (initial ip policy nextRequestId e).run F earlier = some s₁)
    (hlater : s₁.run F later = some s) :
    (s.channel.alive = true → (∀ ids, .failEach ids ∉ s.channel.stack) →
      s.channel.pendingCalls ≠ [] → s.channel.connectionState = .connected) ∧
    (s.channel.alive = true → s.channel.connectionState = .connected →
      s.channel.connection ≠ none) ∧
    (s₁.channel.connectionState = .disconnected →
      s.channel.connectionState = .disconnected ∧
      s.channel.env.written = s₁.channel.env.written ∧
      ProtocolError s.channel.connectionError ∧
      (∀ k, s₁.channel.begun ≤ k → k < s.channel.begun →
        k ∈ s.channel.queuedNumbers ∨ k ∈ s.channel.notified) ∧
      ∀ s' id bytes call,
        (∀ x now, (s.channel.prepareCall F x).1 = .registerAndSend id bytes call →
          s.step F (.channel (.beginCall x now)) = some s' →
          s.channel.Refused s'.channel call s.channel.connectionError) ∧
        ∀ index, s.channel.functors[index]? = some (.registerAndSend id bytes call) →
          s.step F (.channel (.runFunctor index)) = some s' →
          s.channel.Refused s'.channel call s.channel.connectionError) := by
  obtain ⟨hmeets₁, hmeets₂⟩ := hmeets.of_append hearlier
  have hsound₁ : Sound s₁ := Transition.invariant_run (fun _ _ _ h hc hs => h.step hc hs)
    (sound_initial ip policy nextRequestId e) hmeets₁ hearlier
  have hsound : Sound s := Transition.invariant_run (fun _ _ _ h hc hs => h.step hc hs) hsound₁
    hmeets₂ hlater
  refine ⟨fun halive hidle hpending => ?_, hsound.governed.attached, fun hstate₁ => ?_⟩
  · by_contra hstate
    obtain ⟨p, hp⟩ := List.exists_mem_of_ne_nil _ hpending
    obtain ⟨ids, hmem, -⟩ := hsound.governed.covered halive hstate p.1 (List.mem_map_of_mem hp)
    exact hidle ids hmem
  · have hoffline₁ : RpcChannel.Offline s₁.channel.env.written s₁.channel.begun s₁.channel :=
      ⟨hstate₁, rfl, fun k hk hlt => absurd hlt (Nat.not_lt.mpr hk)⟩
    obtain ⟨-, hstate, hwritten, hlater⟩ := Transition.invariant_run
      (I := fun s => Sound s ∧
        RpcChannel.Offline s₁.channel.env.written s₁.channel.begun s.channel)
      (fun _ _ _ h hc hs => ⟨h.1.step hc hs, offline_step h.1 h.2 hc hs⟩) ⟨hsound₁, hoffline₁⟩
      hmeets₂ hlater
    refine ⟨hstate, hwritten, (hsound.governed.offline hstate).1, hlater, fun s' id bytes call =>
      ⟨fun x now hvalid hstep => ?_, fun index hfunctor hstep => ?_⟩⟩
    · exact RpcChannel.refused_beginCall hstate hvalid (step_channel rfl hstep)
    · exact RpcChannel.refused_runFunctor hstate hfunctor (step_channel rfl hstep)

/-- A call is sent, the peer answers with what is no frame, and the callback of the call runs. -/
def brokenPeer : List ChannelClientStep :=
  [.start .established, .client (.resume .inProgress) [],
    .channel (.beginCall RpcChannel.emptyCall 0), .channel (.resume false 0 []),
    .channel (.onMessage 1 [] (some "invalid RPC frame size")), .channel (.resume false 0 [1]),
    .channel (.resume false 0 [])]

/-- The channel is offline in the callback. -/
theorem run_brokenPeer :
    ∃ s, (initial "127.0.0.1" {} 1 {}).run wireFormat brokenPeer = some s ∧
      (s.channel.connectionState, s.channel.begun, s.channel.env.written.length) =
        (.disconnected, 1, 1) := by
  apply Option.map_eq_some_iff.mp
  rfl

/-- The handlers return, and another call is begun. -/
def returnAndCall : List ChannelClientStep :=
  [.channel (.resume false 0 []), .channel (.resume false 0 []), .channel (.resume false 0 []),
    .channel (.beginCall RpcChannel.emptyCall 0)]

theorem connection_governs_refused :
    ∃ s₁ s, (initial "127.0.0.1" {} 1 {}).run wireFormat brokenPeer = some s₁ ∧
      s₁.run wireFormat returnAndCall = some s ∧
      s₁.channel.connectionState = .disconnected ∧ s.channel.begun = 2 ∧
      s.channel.env.written = s₁.channel.env.written ∧ ProtocolError s.channel.connectionError ∧
      (1 ∈ s.channel.queuedNumbers ∨ 1 ∈ s.channel.notified) := by
  have hboth : ∃ s, (initial "127.0.0.1" {} 1 {}).run wireFormat (brokenPeer ++ returnAndCall) =
      some s ∧ s.channel.begun = 2 := by
    apply Option.map_eq_some_iff.mp
    rfl
  obtain ⟨s₁, hrun₁, hs₁⟩ := run_brokenPeer
  obtain ⟨s, hrun, hbegun⟩ := hboth
  have hrun₂ : s₁.run wireFormat returnAndCall = some s := by
    unfold run at hrun hrun₁ ⊢
    rwa [Transition.run_append, hrun₁, Option.bind_some] at hrun
  have hmeets : Transition.Meets (step wireFormat) KeepsOffline (initial "127.0.0.1" {} 1 {})
      (brokenPeer ++ returnAndCall) := by
    apply Transition.meets_of_forall_mem
    rintro s l hl - - order conn stack rfl
    simp [brokenPeer, returnAndCall] at hl
  simp only [Prod.mk.injEq] at hs₁
  obtain ⟨-, -, hoffline⟩ := connection_governs wireFormat "127.0.0.1" {} 1 {} brokenPeer
    returnAndCall s₁ s hmeets hrun₁ hrun₂
  obtain ⟨-, hwritten, htext, hlater, -⟩ := hoffline hs₁.1
  exact ⟨s₁, s, hrun₁, hrun₂, hs₁.1, hbegun, hwritten, htext, hlater 1 hs₁.2.1.le (by omega)⟩

/-- The callback flushes the connection, which is found closed and comes back at once; then it begins
another call. -/
def flushAndCall : List ChannelClientStep :=
  [.client (.close 1) [], .client (.resume .established) [], .client (.resume .inProgress) [],
    .client (.resume .inProgress) [], .channel (.beginCall RpcChannel.emptyCall 0),
    .channel (.resume false 0 [])]

theorem revived_by_flush :
    ∃ s₁ s, (initial "127.0.0.1" {} 1 {}).run wireFormat brokenPeer = some s₁ ∧
      s₁.run wireFormat flushAndCall = some s ∧ s₁.channel.connectionState = .disconnected ∧
      s.channel.alive = true ∧ s.channel.connectionState = .connected ∧
      s.channel.connection = some 2 ∧ s.channel.connectionError = [] ∧
      s.channel.env.written ≠ s₁.channel.env.written := by
  have hboth : ∃ s, (initial "127.0.0.1" {} 1 {}).run wireFormat (brokenPeer ++ flushAndCall) =
      some s ∧ (s.channel.alive, s.channel.connectionState, s.channel.connection,
        s.channel.connectionError, s.channel.env.written.length) =
          (true, .connected, some 2, [], 2) := by
    apply Option.map_eq_some_iff.mp
    rfl
  obtain ⟨s₁, hrun₁, hs₁⟩ := run_brokenPeer
  obtain ⟨s, hrun, hs⟩ := hboth
  have hrun₂ : s₁.run wireFormat flushAndCall = some s := by
    unfold run at hrun hrun₁ ⊢
    rwa [Transition.run_append, hrun₁, Option.bind_some] at hrun
  simp only [Prod.mk.injEq] at hs hs₁
  obtain ⟨halive, hstate, hconnection, herror, hlength⟩ := hs
  refine ⟨s₁, s, hrun₁, hrun₂, hs₁.1, halive, hstate, hconnection, herror, fun heq => ?_⟩
  simp [heq, hs₁.2.2] at hlength

end ChannelClient

end NebulaRpc.Rpc
