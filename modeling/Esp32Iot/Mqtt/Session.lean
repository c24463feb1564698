import Esp32Iot.Lib.Runs
import Esp32Iot.Mqtt.Ack

/-!
# An MQTT session

`MQTTClient.c` as one machine. A request is sent and then `waitfor` calls `cycle` until the flag of
its acknowledgement is set or its timer has expired; `cycle` reads one packet, hands a message to
the handler, and ends with `keepalive`; and the handler may make requests of its own, whose waits
are nested in the one that read the message. So a state of the machine is the client, `MqttClient`,
and the stack of the functions that are running, `Session`. What the code does between two points
at which something from outside is needed is one step: a call of the application or a handler, a
round of `waitfor`, a `cycle` of `MQTTYield`, the return of a handler.

Every reading of the clock is a number of its own, and so is the outcome of every attempt to send.
`MAX_MESSAGE_HANDLERS` is 0 in this build, so the handlers are those of the layer above.

What `keepalive` and the `switch` of `cycle` do is said once, by `MqttClient.KeptAlive` and
`MqttClient.Handled`. `Session.step_effect` says what a step does to the flags, the buffer and the
stack, and `Session.step_emits` which calls and waits return in it.
-/

namespace Esp32Iot

/-! ## The client -/

/-- `end_time` of a `Timer`, in microseconds. -/
abbrev Timer := Nat

/-- `TimerIsExpired`, at a reading of the clock. -/
def timerIsExpired (timer : Timer) (now : Nat) : Bool := timer ≤ now

/-- `TimerCountdown`, in seconds. -/
def timerCountdown (now timeout : Nat) : Timer := now + timeout * 1000000

/-- `TimerCountdownMS`. -/
def timerCountdownMS (now timeout : Nat) : Timer := now + timeout * 1000

/-- `MQTTClient`, with what comes from the broker. -/
structure MqttClient where
  isconnected : Bool
  /-- `connAckReceived`, `subAckReceived`, `unsubAckReceived`, `pubAckReceived` and
  `pubCompReceived` -/
  received : AckKind → Bool
  pingOutstanding : Bool
  nextPacketid : Nat
  keepAliveInterval : Nat
  commandTimeoutMs : Nat
  pingTimer : Timer
  lastReceivedTimer : Timer
  pingResponseTimer : Timer
  readbuf : Memory
  line : ReadLine

/-- The functions of `MQTTClient.h` that send a packet. -/
inductive MqttCall
  | connect (keepAliveInterval : Nat)
  | subscribe
  | unsubscribe
  | publish (qos : QoS)
  | disconnect
  deriving DecidableEq

/-- The packet that a call waits for. -/
def MqttCall.awaits : MqttCall → Option AckKind
  | .connect _ => some .connack
  | .subscribe => some .suback
  | .unsubscribe => some .unsuback
  | .publish .qos1 => some .puback
  | .publish .qos2 => some .pubcomp
  | .publish .qos0 | .disconnect => none

/-- The arguments of `MQTTSerialize_ack`: the type of the packet, and its packet id unless that is
what a local variable happened to hold. -/
structure Reply where
  type : Nat
  packetid : Option Nat
  deriving DecidableEq

/-- What is seen of a session from outside. -/
inductive SessionEvent
  /-- a call returns `rc`; what has arrived since its packet was sent -/
  | returned (call : MqttCall) (packetid : Nat) (rc : Int) (arrived : List MqttPacket)
  /-- `waitfor` returns the type that it waited for, and its caller decodes `readbuf` -/
  | acknowledged (kind : AckKind) (arrived : List MqttPacket) (readbuf : Memory)
  /-- `waitfor` returns failure -/
  | timedOut (kind : AckKind) (arrived : List MqttPacket)
  /-- `MQTTConnect` sets `isconnected` -/
  | connected
  /-- `keepalive` has sent a PINGREQ and started the timer for the answer -/
  | pingreq (deadline : Timer)
  /-- a PINGRESP is received -/
  | pingresp
  /-- `keepalive` clears `isconnected` -/
  | dropped (now : Nat)
  /-- `cycle` has serialized an answer to a packet, and sent it or not -/
  | replied (reply : Reply) (sent : Bool)

namespace MqttClient

/-- `MQTTClientInit`, which does not set `keepAliveInterval`. -/
def init (commandTimeoutMs keepAliveInterval : Nat) (readbuf : Memory) (line : ReadLine) :
    MqttClient where
  isconnected := false
  received := fun _ => false
  pingOutstanding := false
  nextPacketid := 1
  keepAliveInterval := keepAliveInterval
  commandTimeoutMs := commandTimeoutMs
  pingTimer := 0
  lastReceivedTimer := 0
  pingResponseTimer := 0
  readbuf := readbuf
  line := line

/-- An assignment to one of the flags. -/
def setReceived (c : MqttClient) (kind : AckKind) (value : Bool) : MqttClient :=
  { c with received := Function.update c.received kind value }

/-- A packet is serialized and `sendPacket` sends it, at this reading of the clock; `none` when one
of them fails. -/
def sendPacket (c : MqttClient) (sent : Option Nat) : Option MqttClient :=
  sent.map fun now => { c with pingTimer := timerCountdown now c.keepAliveInterval }

end MqttClient

/-- The readings of the clock in `keepalive`, and the outcome of its attempt to send. -/
structure KeepaliveInput where
  pingTimer : Nat
  lastReceivedTimer : Nat
  sent : Option Nat
  started : Nat
  pingResponseTimer : Nat
  deriving DecidableEq

/-- `keepalive`. -/
def MqttClient.keepalive (c : MqttClient) (i : KeepaliveInput) : List SessionEvent × MqttClient :=
  if c.keepAliveInterval = 0 then ([], c)
  else if timerIsExpired c.pingTimer i.pingTimer ∨
      timerIsExpired c.lastReceivedTimer i.lastReceivedTimer then
    if ¬ c.pingOutstanding then
      match c.sendPacket i.sent with
      | none => ([], c)
      | some c =>
          let deadline := timerCountdown i.started c.keepAliveInterval
          ([.pingreq deadline], { c with pingResponseTimer := deadline, pingOutstanding := true })
    else if timerIsExpired c.pingResponseTimer i.pingResponseTimer then
      ([.dropped i.pingResponseTimer], { c with isconnected := false })
    else ([], c)
  else ([], c)

/-! ## `cycle` -/

/-- What a `cycle` gets from outside. -/
structure CycleInput where
  /-- the clock when a packet has been read -/
  received : Nat
  /-- `msg.id` of a message whose packet id was not decoded -/
  unset : Nat
  /-- the terminators that `MQTTMessageArrived` stores in the packet -/
  marks : List BufWrite
  /-- the answer to a PUBREC -/
  sent : Option Nat
  keepalive : KeepaliveInput
  deriving DecidableEq

/-- A message that is with its handler. -/
structure Delivery where
  qos : Nat
  id : Nat
  deriving DecidableEq

/-- A `cycle`, up to where it returns or calls the handler. -/
structure Cycle where
  events : List SessionEvent
  client : MqttClient
  delivery : Option Delivery

namespace MqttClient

/-- `readPacket`, with the timer that it starts again. -/
def readPacket (c : MqttClient) (now : Nat) : Int × MqttClient :=
  let read := Esp32Iot.readPacket c.readbuf c.line
  (read.code,
    { c with
      readbuf := applyWrites c.readbuf read.writes
      line := read.line
      lastReceivedTimer :=
        if read.code ≠ mqttFailure ∧ 0 < c.keepAliveInterval then
          timerCountdown now c.keepAliveInterval
        else c.lastReceivedTimer })

/-- The message that is decoded from `readbuf`. -/
def message (c : MqttClient) (i : CycleInput) : Delivery :=
  match (mqttDeserializePublish c.readbuf).2 with
  | some fields => ⟨fields.qos, fields.packetid.getD i.unset⟩
  -- the quality is set from the header before the topic is looked at
  | none => ⟨(c.readbuf 0).toNat / 2 % 4, i.unset⟩

/-- The `switch` of `cycle`: the events, the client, the message that is handed on, and whether
`keepalive` is reached. -/
def handlePacket (c : MqttClient) (type : Int) (i : CycleInput) : Cycle × Bool :=
  match AckKind.ofType type with
  | some kind => (⟨[], c.setReceived kind true, none⟩, true)
  | none =>
      if type = publishMsg then
        if (mqttDeserializePublish c.readbuf).1 ≠ 1 then (⟨[], c, none⟩, false)
        else
          (⟨[], { c with readbuf := applyWrites c.readbuf i.marks }, some (c.message i)⟩, false)
      else if type = pubrecMsg then
        let ack := mqttDeserializeAck c.readbuf
        if ack.rc ≠ 1 then (⟨[], c, none⟩, false)
        else
          let pubrel : Reply := ⟨pubrelMsg, ack.packetid⟩
          match c.sendPacket i.sent with
          | none => (⟨[.replied pubrel false], c, none⟩, false)
          | some c => (⟨[.replied pubrel true], c, none⟩, true)
      else if type = pingrespMsg then
        (⟨[.pingresp], { c with pingOutstanding := false }, none⟩, true)
      else (⟨[], c, none⟩, true)

/-- `cycle`. -/
def cycle (c : MqttClient) (i : CycleInput) : Cycle :=
  let read := c.readPacket i.received
  let handled := read.2.handlePacket read.1 i
  if handled.2 then
    let kept := handled.1.client.keepalive i.keepalive
    { handled.1 with events := handled.1.events ++ kept.1, client := kept.2 }
  else handled.1

/-- The answer to a message is serialized and sent, and `keepalive` comes behind it. -/
def sendAck (c : MqttClient) (reply : Reply) (sent : Option Nat) (i : KeepaliveInput) :
    List SessionEvent × MqttClient :=
  match c.sendPacket sent with
  | none => ([.replied reply false], c)
  | some c =>
      let kept := c.keepalive i
      (.replied reply true :: kept.1, kept.2)

/-- The rest of `cycle` for a message, when the handler has returned. -/
def answer (c : MqttClient) (message : Delivery) (sent : Option Nat) (i : KeepaliveInput) :
    List SessionEvent × MqttClient :=
  if message.qos = 0 then c.keepalive i
  else if message.qos = 1 then c.sendAck ⟨AckKind.puback.type, some message.id⟩ sent i
  else if message.qos = 2 then c.sendAck ⟨pubrecMsg, some message.id⟩ sent i
  -- there is no answer to a quality of 3
  else ([], c)

end MqttClient

/-! ## Requests -/

/-- A call that is in `waitfor`. What has arrived since its packet was sent is not a value of the
program. -/
structure MqttWait where
  call : MqttCall
  kind : AckKind
  awaits : call.awaits = some kind
  packetid : Nat
  timer : Timer
  arrived : List MqttPacket

/-- What a call gets from outside: the readings of the clock, and the outcome of its attempt to
send. -/
structure CallInput where
  timer : Nat
  pingTimer : Nat
  sent : Option Nat
  lastReceivedTimer : Nat
  deriving DecidableEq

/-- A call up to its `waitfor`: it returns, or has sent its packet with this packet id. -/
inductive Begun
  | returns (packetid : Nat) (rc : Int) (client : MqttClient)
  | sent (packetid : Nat) (client : MqttClient)

namespace MqttClient

/-- `MQTTConnect`, up to its `waitfor`. -/
def beginConnect (c : MqttClient) (keepAliveInterval : Nat) (i : CallInput) : Begun :=
  if c.isconnected then .returns 0 mqttFailure c
  else
    let c := { c with
      keepAliveInterval := keepAliveInterval
      pingTimer := timerCountdown i.pingTimer keepAliveInterval }
    match c.sendPacket i.sent with
    | none => .returns 0 mqttFailure c
    | some c =>
        .sent 0 { c with
          lastReceivedTimer :=
            if 0 < c.keepAliveInterval then timerCountdown i.lastReceivedTimer c.keepAliveInterval
            else c.lastReceivedTimer }

/-- `MQTTSubscribe`, `MQTTUnsubscribe` and `MQTTPublish` of quality 1 or 2, up to their `waitfor`.
-/
def beginRequest (c : MqttClient) (i : CallInput) : Begun :=
  if c.isconnected then
    let c := { c with nextPacketid := getNextPacketId c.nextPacketid }
    match c.sendPacket i.sent with
    | none => .returns c.nextPacketid mqttFailure c
    | some c => .sent c.nextPacketid c
  else .returns 0 mqttFailure c

/-- `MQTTPublish` of quality 0. -/
def beginPublish (c : MqttClient) (i : CallInput) : Begun :=
  if c.isconnected then
    match c.sendPacket i.sent with
    | none => .returns 0 mqttFailure c
    | some c => .returns 0 0 c
  else .returns 0 mqttFailure c

/-- `MQTTDisconnect`. -/
def beginDisconnect (c : MqttClient) (i : CallInput) : Begun :=
  let cleared (c : MqttClient) := { c with isconnected := false, pingOutstanding := false }
  match c.sendPacket i.sent with
  | none => .returns 0 mqttFailure (cleared c)
  | some c => .returns 0 0 (cleared c)

/-- A call, up to its `waitfor` if it has one. -/
def beginCall (c : MqttClient) (call : MqttCall) (i : CallInput) : Begun :=
  match call with
  | .connect keepAliveInterval => c.beginConnect keepAliveInterval i
  | .subscribe | .unsubscribe | .publish .qos1 | .publish .qos2 => c.beginRequest i
  | .publish .qos0 => c.beginPublish i
  | .disconnect => c.beginDisconnect i

end MqttClient

/-- What a call returns when its acknowledgement is in `readbuf`, or what it takes for it. The
packet id is decoded and not looked at. -/
def MqttCall.result (call : MqttCall) (readbuf : Memory) : Int :=
  match call with
  | .connect _ =>
      match mqttDeserializeConnack readbuf with
      | (1, some fields) => fields.2.toNat
      | (1, none) => 255
      | _ => mqttFailure
  | .subscribe =>
      let suback := mqttDeserializeSuback 1 readbuf
      if suback.rc = 1 then
        match suback.grantedQoSs.head? with
        | some granted => granted.toNat
        | none => -1
      else 0
  -- `rc` is 0 already, since the packet was sent
  | .unsubscribe => if (mqttDeserializeUnsuback readbuf).1 = 1 then 0 else 0
  | .publish _ => if (mqttDeserializeAck readbuf).rc = 1 then 0 else mqttFailure
  | .disconnect => 0

/-! ## The machine -/

/-- A function that is running. -/
inductive MqttFrame
  | waiting (wait : MqttWait)
  | handling (message : Delivery)

/-- The client and the functions that are running, the innermost first. -/
structure Session where
  client : MqttClient
  stack : List MqttFrame

/-- The steps. -/
inductive SessionAction
  /-- from now on this comes on the connection, or on a new one -/
  | network (line : ReadLine)
  /-- the application, or the handler that is running, makes a call -/
  | call (call : MqttCall) (input : CallInput)
  /-- a round of the innermost `waitfor`, at this reading of the clock -/
  | poll (now : Nat) (input : CycleInput)
  /-- a `cycle` of `MQTTYield` -/
  | yield (input : CycleInput)
  /-- the handler returns -/
  | handled (sent : Option Nat) (input : KeepaliveInput)
  deriving DecidableEq

/-- A packet more has arrived. -/
def MqttWait.note (packet : Option MqttPacket) (w : MqttWait) : MqttWait :=
  { w with arrived := packet.toList ++ w.arrived }

/-- A packet that is read has arrived for all waits. -/
def MqttFrame.note (packet : Option MqttPacket) : MqttFrame → MqttFrame
  | .waiting w => .waiting (w.note packet)
  | .handling message => .handling message

namespace Session

/-- The session after `MQTTClientInit`. -/
def init (commandTimeoutMs keepAliveInterval : Nat) (readbuf : Memory) (line : ReadLine) :
    Session where
  client := .init commandTimeoutMs keepAliveInterval readbuf line
  stack := []

/-- A call of the application or of a handler. -/
def call (s : Session) (call : MqttCall) (i : CallInput) : List SessionEvent × Session :=
  match s.client.beginCall call i with
  | .returns packetid rc c => ([.returned call packetid rc []], { s with client := c })
  | .sent packetid c =>
      match h : call.awaits with
      | none => ([], { s with client := c })
      | some kind =>
          let wait : MqttWait :=
            { call := call
              kind := kind
              awaits := h
              packetid := packetid
              timer := timerCountdownMS i.timer c.commandTimeoutMs
              arrived := [] }
          ([], ⟨c.setReceived kind false, .waiting wait :: s.stack⟩)

/-- A `cycle`. -/
def cycle (s : Session) (i : CycleInput) : List SessionEvent × Session :=
  let cycle := s.client.cycle i
  let stack := s.stack.map (MqttFrame.note s.client.line.packet)
  (cycle.events, ⟨cycle.client, cycle.delivery.toList.map .handling ++ stack⟩)

/-- `waitfor` returns the type it waited for, and the call returns what it decodes. -/
def acknowledge (s : Session) (w : MqttWait) (rest : List MqttFrame) :
    List SessionEvent × Session :=
  let c := s.client.setReceived w.kind false
  let rc := w.call.result c.readbuf
  let returns := [SessionEvent.acknowledged w.kind w.arrived c.readbuf,
    .returned w.call w.packetid rc w.arrived]
  if w.kind = .connack ∧ rc = 0 then
    (.connected :: returns, ⟨{ c with isconnected := true }, rest⟩)
  else (returns, ⟨c, rest⟩)

/-- One step of a session. -/
def step (s : Session) : SessionAction → Option (List SessionEvent × Session)
  | .network line => some ([], { s with client := { s.client with line := line } })
  | .call call i =>
      match s.stack with
      | .waiting _ :: _ => none
      | [] | .handling _ :: _ => some (s.call call i)
  | .poll now i =>
      match s.stack with
      | .waiting w :: rest =>
          if s.client.received w.kind then some (s.acknowledge w rest)
          else if timerIsExpired w.timer now then
            some ([.timedOut w.kind w.arrived, .returned w.call w.packetid mqttFailure w.arrived],
              { s with stack := rest })
          else some (s.cycle i)
      | [] | .handling _ :: _ => none
  | .yield i =>
      match s.stack with
      | .waiting _ :: _ => none
      | [] | .handling _ :: _ => some (s.cycle i)
  | .handled sent i =>
      match s.stack with
      | .handling message :: rest =>
          let answered := s.client.answer message sent i
          some (answered.1, ⟨answered.2, rest⟩)
      | [] | .waiting _ :: _ => none

end Session

/-! ## What a step does -/

/-- An event that is not the return of a call or a wait. -/
def SessionEvent.OfLink : SessionEvent → Prop
  | .connected | .pingreq _ | .pingresp | .dropped _ | .replied .. => True
  | .returned .. | .acknowledged .. | .timedOut .. => False

namespace MqttClient

/-- The flags and the buffer are the same. -/
structure SameWaits (c c' : MqttClient) : Prop where
  received : c'.received = c.received
  readbuf : c'.readbuf = c.readbuf

theorem SameWaits.refl (c : MqttClient) : c.SameWaits c := ⟨rfl, rfl⟩

theorem SameWaits.trans {c₁ c₂ c₃ : MqttClient} (h₁ : c₁.SameWaits c₂) (h₂ : c₂.SameWaits c₃) :
    c₁.SameWaits c₃ := ⟨h₂.received.trans h₁.received, h₂.readbuf.trans h₁.readbuf⟩

theorem sendPacket_sameWaits {c c' : MqttClient} {sent : Option Nat}
    (h : c.sendPacket sent = some c') : c.SameWaits c' := by
  obtain ⟨now, -, rfl⟩ := Option.map_eq_some_iff.1 h
  exact ⟨rfl, rfl⟩

/-- What `keepalive` does. -/
inductive KeptAlive (c : MqttClient) (i : KeepaliveInput) : List SessionEvent × MqttClient → Prop
  | idle : KeptAlive c i ([], c)
  | pinged {c' : MqttClient} (hout : ¬ c.pingOutstanding) (hsent : c.sendPacket i.sent = some c') :
      KeptAlive c i
        ([.pingreq (timerCountdown i.started c'.keepAliveInterval)],
          { c' with
            pingResponseTimer := timerCountdown i.started c'.keepAliveInterval
            pingOutstanding := true })
  | dropped (hout : c.pingOutstanding)
      (hexpired : timerIsExpired c.pingResponseTimer i.pingResponseTimer) :
      KeptAlive c i ([.dropped i.pingResponseTimer], { c with isconnected := false })

theorem keepalive_keptAlive (c : MqttClient) (i : KeepaliveInput) :
    c.KeptAlive i (c.keepalive i) := by
  unfold keepalive
  split
  next => exact .idle
  next =>
    split
    next =>
      split
      next hout =>
        split
        next => exact .idle
        next c' hsent => exact .pinged hout hsent
      next hout =>
        split
        next hexpired => exact .dropped (Classical.not_not.1 hout) hexpired
        next => exact .idle
    next => exact .idle

theorem keepalive_sameWaits (c : MqttClient) (i : KeepaliveInput) :
    c.SameWaits (c.keepalive i).2 ∧ ∀ e ∈ (c.keepalive i).1, e.OfLink := by
  have hkept := c.keepalive_keptAlive i
  generalize c.keepalive i = kept at hkept ⊢
  cases hkept with
  | idle => exact ⟨.refl c, nofun⟩
  | pinged _ hsent =>
    have hsame := sendPacket_sameWaits hsent
    exact ⟨⟨hsame.received, hsame.readbuf⟩, List.forall_mem_singleton.2 trivial⟩
  | dropped => exact ⟨⟨rfl, rfl⟩, List.forall_mem_singleton.2 trivial⟩

theorem sendAck_sameWaits (c : MqttClient) (reply : Reply) (sent : Option Nat)
    (i : KeepaliveInput) :
    c.SameWaits (c.sendAck reply sent i).2 ∧ ∀ e ∈ (c.sendAck reply sent i).1, e.OfLink := by
  unfold sendAck
  split
  next => exact ⟨.refl c, by simp [SessionEvent.OfLink]⟩
  next c' hsent =>
    obtain ⟨hsame, hevents⟩ := keepalive_sameWaits c' i
    exact ⟨(sendPacket_sameWaits hsent).trans hsame, List.forall_mem_cons.2 ⟨trivial, hevents⟩⟩

theorem answer_sameWaits (c : MqttClient) (message : Delivery) (sent : Option Nat)
    (i : KeepaliveInput) :
    c.SameWaits (c.answer message sent i).2 ∧ ∀ e ∈ (c.answer message sent i).1, e.OfLink := by
  unfold answer
  split
  next => exact keepalive_sameWaits c i
  next =>
    split
    next => exact sendAck_sameWaits c _ sent i
    next =>
      split
      next => exact sendAck_sameWaits c _ sent i
      next => exact ⟨.refl c, nofun⟩

/-- What a call leaves as it is up to its `waitfor`. -/
structure Begins (c c' : MqttClient) : Prop where
  waits : c.SameWaits c'
  pingResponseTimer : c'.pingResponseTimer = c.pingResponseTimer
  /-- a call sends no PINGREQ -/
  pingOutstanding : c'.pingOutstanding → c.pingOutstanding

theorem Begins.refl (c : MqttClient) : c.Begins c := ⟨.refl c, rfl, id⟩

theorem sendPacket_begins {c c' : MqttClient} {sent : Option Nat}
    (h : c.sendPacket sent = some c') : c.Begins c' := by
  obtain ⟨now, -, rfl⟩ := Option.map_eq_some_iff.1 h
  exact ⟨⟨rfl, rfl⟩, rfl, id⟩

end MqttClient

/-- What holds of a call where it reaches its `waitfor` or returns. When it returns and should have
waited, it has failed. -/
def Begun.From (c : MqttClient) (call : MqttCall) : Begun → Prop
  | .returns _ rc c' => c.Begins c' ∧ (call.awaits.isSome → rc = mqttFailure)
  | .sent _ c' => c.Begins c' ∧ call.awaits.isSome

namespace MqttClient

theorem beginConnect_from (c : MqttClient) (keepAliveInterval : Nat) (i : CallInput) :
    (c.beginConnect keepAliveInterval i).From c (.connect keepAliveInterval) := by
  unfold beginConnect
  split
  next => exact ⟨.refl c, fun _ => rfl⟩
  next =>
    dsimp only
    split
    next => exact ⟨⟨⟨rfl, rfl⟩, rfl, id⟩, fun _ => rfl⟩
    next c' hsent =>
      have hbegins := sendPacket_begins hsent
      exact ⟨⟨⟨hbegins.waits.received, hbegins.waits.readbuf⟩, hbegins.pingResponseTimer,
        hbegins.pingOutstanding⟩, rfl⟩

theorem beginRequest_from (c : MqttClient) (i : CallInput) {call : MqttCall}
    (hcall : call.awaits.isSome) : (c.beginRequest i).From c call := by
  unfold beginRequest
  split
  next =>
    dsimp only
    split
    next => exact ⟨⟨⟨rfl, rfl⟩, rfl, id⟩, fun _ => rfl⟩
    next c' hsent =>
      have hbegins := sendPacket_begins hsent
      exact ⟨⟨⟨hbegins.waits.received, hbegins.waits.readbuf⟩, hbegins.pingResponseTimer,
        hbegins.pingOutstanding⟩, hcall⟩
  next => exact ⟨.refl c, fun _ => rfl⟩

theorem beginPublish_from (c : MqttClient) (i : CallInput) :
    (c.beginPublish i).From c (.publish .qos0) := by
  unfold beginPublish
  split
  next =>
    split
    next => exact ⟨.refl c, nofun⟩
    next c' hsent => exact ⟨sendPacket_begins hsent, nofun⟩
  next => exact ⟨.refl c, nofun⟩

theorem beginDisconnect_from (c : MqttClient) (i : CallInput) :
    (c.beginDisconnect i).From c .disconnect := by
  unfold beginDisconnect
  dsimp only
  split
  next => exact ⟨⟨⟨rfl, rfl⟩, rfl, nofun⟩, nofun⟩
  next c' hsent =>
    have hbegins := sendPacket_begins hsent
    exact ⟨⟨⟨hbegins.waits.received, hbegins.waits.readbuf⟩, hbegins.pingResponseTimer, nofun⟩,
      nofun⟩

/-- **A call up to its `waitfor`.** -/
theorem beginCall_from (c : MqttClient) (call : MqttCall) (i : CallInput) :
    (c.beginCall call i).From c call := by
  cases call with
  | connect keepAliveInterval => exact c.beginConnect_from keepAliveInterval i
  | subscribe => exact c.beginRequest_from i rfl
  | unsubscribe => exact c.beginRequest_from i rfl
  | publish qos =>
    cases qos with
    | qos0 => exact c.beginPublish_from i
    | qos1 => exact c.beginRequest_from i rfl
    | qos2 => exact c.beginRequest_from i rfl
  | disconnect => exact c.beginDisconnect_from i

/-! ### The packets that are read -/

/-- What the `switch` of `cycle` does. -/
inductive Handled (c : MqttClient) (type : Int) (i : CycleInput) : Cycle × Bool → Prop
  | acknowledged {kind : AckKind} (hkind : AckKind.ofType type = some kind) :
      Handled c type i (⟨[], c.setReceived kind true, none⟩, true)
  | delivered (htype : type = publishMsg) (hrc : (mqttDeserializePublish c.readbuf).1 = 1) :
      Handled c type i
        (⟨[], { c with readbuf := applyWrites c.readbuf i.marks }, some (c.message i)⟩, false)
  | released {c' : MqttClient} (htype : type = pubrecMsg)
      (hrc : (mqttDeserializeAck c.readbuf).rc = 1) (hsent : c.sendPacket i.sent = some c') :
      Handled c type i
        (⟨[.replied ⟨pubrelMsg, (mqttDeserializeAck c.readbuf).packetid⟩ true], c', none⟩, true)
  | unsent (htype : type = pubrecMsg) (hrc : (mqttDeserializeAck c.readbuf).rc = 1)
      (hsent : c.sendPacket i.sent = none) :
      Handled c type i
        (⟨[.replied ⟨pubrelMsg, (mqttDeserializeAck c.readbuf).packetid⟩ false], c, none⟩, false)
  | pingresp (htype : type = pingrespMsg) :
      Handled c type i (⟨[.pingresp], { c with pingOutstanding := false }, none⟩, true)
  /-- a packet that is not known, or is not decoded -/
  | ignored {kept : Bool}
      (hpublish : ¬ (type = publishMsg ∧ (mqttDeserializePublish c.readbuf).1 = 1))
      (hpubrec : ¬ (type = pubrecMsg ∧ (mqttDeserializeAck c.readbuf).rc = 1)) :
      Handled c type i (⟨[], c, none⟩, kept)

theorem handlePacket_handled (c : MqttClient) (type : Int) (i : CycleInput) :
    c.Handled type i (c.handlePacket type i) := by
  rw [handlePacket]
  split
  next kind hkind => exact .acknowledged hkind
  next =>
    split
    next htype =>
      have hother : ¬ type = pubrecMsg := by
        rw [htype]
        decide
      split
      next hrc => exact .ignored (fun h => hrc h.2) fun h => hother h.1
      next hrc => exact .delivered htype (Classical.not_not.1 hrc)
    next hpublish =>
      split
      next htype =>
        dsimp only
        split
        next hrc => exact .ignored (fun h => hpublish h.1) fun h => hrc h.2
        next hrc =>
          rw [Classical.not_not] at hrc
          split
          next hsent => exact .unsent htype hrc hsent
          next c' hsent => exact .released htype hrc hsent
      next hpubrec =>
        split
        next htype => exact .pingresp htype
        next => exact .ignored (fun h => hpublish h.1) fun h => hpubrec h.1

theorem handlePacket_ack (c : MqttClient) {type : Int} {kind : AckKind}
    (h : AckKind.ofType type = some kind) (i : CycleInput) :
    c.handlePacket type i = (⟨[], c.setReceived kind true, none⟩, true) := by
  rw [handlePacket, h]

/-- The other packets set no flag. -/
theorem handlePacket_other (c : MqttClient) {type : Int} (h : AckKind.ofType type = none)
    (i : CycleInput) :
    (c.handlePacket type i).1.client.received = c.received ∧
      ∀ e ∈ (c.handlePacket type i).1.events, e.OfLink := by
  have hhandled := c.handlePacket_handled type i
  generalize c.handlePacket type i = handled at hhandled ⊢
  cases hhandled with
  | acknowledged hkind =>
    rw [h] at hkind
    cases hkind
  | delivered | ignored => exact ⟨rfl, nofun⟩
  | released _ _ hsent =>
    exact ⟨(sendPacket_sameWaits hsent).received, List.forall_mem_singleton.2 trivial⟩
  | unsent | pingresp => exact ⟨rfl, List.forall_mem_singleton.2 trivial⟩

/-- After the `switch` a `cycle` changes no flag. -/
theorem cycle_sameWaits (c : MqttClient) (i : CycleInput) :
    let handled := (c.readPacket i.received).2.handlePacket (c.readPacket i.received).1 i
    handled.1.client.SameWaits (c.cycle i).client ∧
      (c.cycle i).delivery = handled.1.delivery ∧
      ((∀ e ∈ handled.1.events, e.OfLink) → ∀ e ∈ (c.cycle i).events, e.OfLink) := by
  intro handled
  rw [cycle]
  split
  next =>
    obtain ⟨hsame, hevents⟩ := handled.1.client.keepalive_sameWaits i.keepalive
    refine ⟨hsame, rfl, fun hfirst => ?_⟩
    intro e he
    rcases List.mem_append.1 he with he | he
    · exact hfirst e he
    · exact hevents e he
  next => exact ⟨.refl _, rfl, id⟩

end MqttClient

/-- The flag that the packet at the beginning of a line sets. -/
def ReadLine.ack (l : ReadLine) : Option AckKind :=
  l.packet.bind fun p => AckKind.ofType p.type

theorem ofType_code (readbuf : Memory) (l : ReadLine) :
    AckKind.ofType (readPacket readbuf l).code = l.ack := by
  rw [ReadLine.ack]
  cases hp : l.packet with
  | none =>
    rw [readPacket_of_no_packet readbuf hp]
    rfl
  | some p => rw [(readPacket_of_packet readbuf hp).1, Option.bind_some]

namespace MqttClient

/-- **A `cycle` that reads an acknowledgement** sets its flag, and the packet is in the buffer. -/
theorem cycle_of_ack (c : MqttClient) (i : CycleInput) {p : MqttPacket} {kind : AckKind}
    (hp : c.line.packet = some p) (hkind : p.type = kind.type) :
    (c.cycle i).client.received = Function.update c.received kind true ∧
      HasAt (c.cycle i).client.readbuf 0 p.bytes ∧ (c.cycle i).delivery = none ∧
      ∀ e ∈ (c.cycle i).events, e.OfLink := by
  have hack : AckKind.ofType (c.readPacket i.received).1 = some kind := by
    rw [AckKind.ofType_eq_some_iff, ← hkind]
    exact (readPacket_of_packet c.readbuf hp).1
  obtain ⟨hsame, hdelivery, hevents⟩ := c.cycle_sameWaits i
  rw [handlePacket_ack _ hack] at hsame hdelivery hevents
  refine ⟨hsame.received, ?_, hdelivery, hevents nofun⟩
  rw [hsame.readbuf]
  exact (readPacket_of_packet c.readbuf hp).2

/-- A `cycle` that reads another packet, or none. -/
theorem cycle_of_other (c : MqttClient) (i : CycleInput) (h : c.line.ack = none) :
    (c.cycle i).client.received = c.received ∧ ∀ e ∈ (c.cycle i).events, e.OfLink := by
  have hother : AckKind.ofType (c.readPacket i.received).1 = none :=
    (ofType_code c.readbuf c.line).trans h
  obtain ⟨hsame, -, hevents⟩ := c.cycle_sameWaits i
  obtain ⟨hreceived, hfirst⟩ := (c.readPacket i.received).2.handlePacket_other hother i
  exact ⟨hsame.received.trans hreceived, hevents hfirst⟩

/-- Without a packet no flag is set. -/
theorem cycle_received_of_none (c : MqttClient) (i : CycleInput) (hp : c.line.packet = none) :
    (c.cycle i).client.received = c.received := by
  have hack : c.line.ack = none := by rw [ReadLine.ack, hp, Option.bind_none]
  exact (c.cycle_of_other i hack).1

/-- A packet of another type leaves a flag as it is. -/
theorem cycle_received_of_ne (c : MqttClient) (i : CycleInput) {p : MqttPacket} {kind : AckKind}
    (hp : c.line.packet = some p) (hne : p.type ≠ kind.type) :
    (c.cycle i).client.received kind = c.received kind := by
  have hack : c.line.ack = AckKind.ofType p.type := by rw [ReadLine.ack, hp, Option.bind_some]
  cases htype : AckKind.ofType p.type with
  | none => rw [(c.cycle_of_other i (hack.trans htype)).1]
  | some kind' =>
    have htype' : p.type = kind'.type := Int.ofNat_inj.1 (AckKind.ofType_eq_some_iff.1 htype)
    have hkind : kind ≠ kind' := by
      rintro rfl
      exact hne htype'
    rw [(c.cycle_of_ack i hp htype').1, Function.update_of_ne hkind]

/-- No call or wait returns in a `cycle`. -/
theorem cycle_events (c : MqttClient) (i : CycleInput) : ∀ e ∈ (c.cycle i).events, e.OfLink := by
  cases hack : c.line.ack with
  | none => exact (c.cycle_of_other i hack).2
  | some kind =>
    obtain ⟨p, hp, htype⟩ := Option.bind_eq_some_iff.1 hack
    exact (c.cycle_of_ack i hp (Int.ofNat_inj.1 (AckKind.ofType_eq_some_iff.1 htype))).2.2.2

/-- A `cycle` in which nothing comes leaves the buffer as it is. -/
theorem cycle_of_silence (c : MqttClient) (i : CycleInput) (h : c.line.feed.arriving = []) :
    c.line.packet = none ∧ (c.cycle i).client.readbuf = c.readbuf ∧
      (c.cycle i).delivery = none := by
  obtain ⟨hnone, hwrites⟩ := readPacket_of_silence c.readbuf h
  have hcode : (c.readPacket i.received).1 = mqttFailure := readPacket_of_no_packet c.readbuf hnone
  obtain ⟨hsame, hdelivery, -⟩ := c.cycle_sameWaits i
  rw [hcode] at hsame hdelivery
  exact ⟨hnone, hsame.readbuf.trans hwrites, hdelivery⟩

end MqttClient

namespace Session

/-- The step is a `cycle`. -/
def reads (s : Session) : SessionAction → Bool
  | .poll now _ =>
      match s.stack with
      | .waiting w :: _ => !s.client.received w.kind && !timerIsExpired w.timer now
      | [] | .handling _ :: _ => false
  | .yield _ =>
      match s.stack with
      | .waiting _ :: _ => false
      | [] | .handling _ :: _ => true
  | .network _ | .call .. | .handled .. => false

/-- What a step does to the flags, the buffer and the stack, and which calls and waits return. -/
inductive Effect (s : Session) : SessionAction → List SessionEvent → Session → Prop
  | network (line : ReadLine) :
      Effect s (.network line) [] ⟨{ s.client with line := line }, s.stack⟩
  /-- a call that does not get to its `waitfor` -/
  | returned {call : MqttCall} {i : CallInput} {c : MqttClient} {packetid : Nat} {rc : Int}
      (hbegins : s.client.Begins c) (hrc : call.awaits.isSome → rc = mqttFailure) :
      Effect s (.call call i) [.returned call packetid rc []] ⟨c, s.stack⟩
  /-- a `waitfor` begins -/
  | began {i : CallInput} {c : MqttClient} {w : MqttWait} (hbegins : s.client.Begins c)
      (harrived : w.arrived = []) :
      Effect s (.call w.call i) [] ⟨c.setReceived w.kind false, .waiting w :: s.stack⟩
  /-- a `waitfor` returns its type -/
  | acknowledged {now : Nat} {i : CycleInput} {w : MqttWait} {rest : List MqttFrame}
      (hstack : s.stack = .waiting w :: rest) (hflag : s.client.received w.kind = true) :
      Effect s (.poll now i) (s.acknowledge w rest).1 (s.acknowledge w rest).2
  /-- a `waitfor` returns failure -/
  | timedOut {now : Nat} {i : CycleInput} {w : MqttWait} {rest : List MqttFrame}
      (hstack : s.stack = .waiting w :: rest) (hflag : s.client.received w.kind = false) :
      Effect s (.poll now i)
        [.timedOut w.kind w.arrived, .returned w.call w.packetid mqttFailure w.arrived]
        ⟨s.client, rest⟩
  | read {a : SessionAction} (i : CycleInput) (hreads : s.reads a) :
      Effect s a (s.cycle i).1 (s.cycle i).2
  /-- a handler returns -/
  | handled {sent : Option Nat} {i : KeepaliveInput} {message : Delivery} {rest : List MqttFrame}
      (hstack : s.stack = .handling message :: rest) :
      Effect s (.handled sent i) (s.client.answer message sent i).1
        ⟨(s.client.answer message sent i).2, rest⟩

theorem acknowledge_client (s : Session) (w : MqttWait) (rest : List MqttFrame) :
    (s.client.setReceived w.kind false).SameWaits (s.acknowledge w rest).2.client ∧
      (s.acknowledge w rest).2.stack = rest := by
  unfold acknowledge
  dsimp only
  split
  next => exact ⟨⟨rfl, rfl⟩, rfl⟩
  next => exact ⟨⟨rfl, rfl⟩, rfl⟩

/-- What is seen when a `waitfor` returns its type. -/
theorem acknowledge_events {s : Session} {w : MqttWait} {rest : List MqttFrame} {e : SessionEvent}
    (he : e ∈ (s.acknowledge w rest).1) :
    e.OfLink ∨ e = .acknowledged w.kind w.arrived s.client.readbuf ∨
      e = .returned w.call w.packetid (w.call.result s.client.readbuf) w.arrived := by
  unfold acknowledge at he
  dsimp only at he
  split at he
  next =>
    rcases List.mem_cons.1 he with rfl | he
    · exact .inl trivial
    · exact .inr (List.mem_pair.1 he)
  next => exact .inr (List.mem_pair.1 he)

theorem call_effect (s : Session) (call : MqttCall) (i : CallInput) :
    s.Effect (.call call i) (s.call call i).1 (s.call call i).2 := by
  have hfrom := s.client.beginCall_from call i
  rw [Session.call]
  cases hbegun : s.client.beginCall call i with
  | returns packetid rc c =>
    rw [hbegun] at hfrom
    exact .returned hfrom.1 hfrom.2
  | sent packetid c =>
    rw [hbegun] at hfrom
    dsimp only
    split
    next hnone =>
      have hsome := hfrom.2
      rw [hnone] at hsome
      cases hsome
    next kind hsome => exact Effect.began (w := ⟨call, kind, hsome, _, _, []⟩) hfrom.1 rfl

/-- **What a step does.** -/
theorem step_effect {s t : Session} {a : SessionAction} {events : List SessionEvent}
    (h : s.step a = some (events, t)) : s.Effect a events t := by
  cases a with
  | network line =>
    cases h
    exact .network line
  | call call i =>
    rw [step] at h
    split at h
    · cases h
    all_goals
      have heffect := s.call_effect call i
      rw [Option.some.inj h] at heffect
      exact heffect
  | poll now i =>
    rw [step] at h
    split at h
    next w rest hstack =>
      split at h
      next hflag =>
        have heffect : s.Effect (.poll now i) _ _ := .acknowledged hstack hflag
        rw [Option.some.inj h] at heffect
        exact heffect
      next hflag =>
        rw [Bool.not_eq_true] at hflag
        split at h
        next =>
          cases h
          exact .timedOut hstack hflag
        next hexpired =>
          cases h
          refine .read i ?_
          simp [reads, hstack, hflag, hexpired]
    all_goals cases h
  | yield i =>
    rw [step] at h
    split at h
    · cases h
    next hstack =>
      cases h
      exact .read i (by simp [reads, hstack])
    next hstack =>
      cases h
      exact .read i (by simp [reads, hstack])
  | handled sent i =>
    rw [step] at h
    split at h
    next message rest hstack =>
      cases h
      exact .handled hstack
    all_goals cases h

/-- The calls and waits that return in a step, and what is known of them then. -/
inductive Emits (s : Session) : SessionEvent → Prop
  | link {e : SessionEvent} (h : e.OfLink) : Emits s e
  /-- before its `waitfor` -/
  | refused {call : MqttCall} {packetid : Nat} {rc : Int}
      (hrc : call.awaits.isSome → rc = mqttFailure) : Emits s (.returned call packetid rc [])
  | acknowledged {w : MqttWait} {rest : List MqttFrame} (hstack : s.stack = .waiting w :: rest)
      (hflag : s.client.received w.kind = true) :
      Emits s (.acknowledged w.kind w.arrived s.client.readbuf)
  | decoded {w : MqttWait} {rest : List MqttFrame} (hstack : s.stack = .waiting w :: rest)
      (hflag : s.client.received w.kind = true) :
      Emits s (.returned w.call w.packetid (w.call.result s.client.readbuf) w.arrived)
  | timedOut {w : MqttWait} {rest : List MqttFrame} (hstack : s.stack = .waiting w :: rest)
      (hflag : s.client.received w.kind = false) : Emits s (.timedOut w.kind w.arrived)
  | failed {w : MqttWait} {rest : List MqttFrame} (hstack : s.stack = .waiting w :: rest)
      (hflag : s.client.received w.kind = false) :
      Emits s (.returned w.call w.packetid mqttFailure w.arrived)

/-- **What is seen of a step.** -/
theorem step_emits {s t : Session} {a : SessionAction} {events : List SessionEvent}
    (h : s.step a = some (events, t)) : ∀ e ∈ events, s.Emits e := by
  cases step_effect h with
  | network line => exact nofun
  | returned _ hrc =>
    intro e he
    cases List.mem_singleton.1 he
    exact .refused hrc
  | began _ _ => exact nofun
  | acknowledged hstack hflag =>
    intro e he
    rcases acknowledge_events he with hlink | rfl | rfl
    · exact .link hlink
    · exact .acknowledged hstack hflag
    · exact .decoded hstack hflag
  | timedOut hstack hflag =>
    intro e he
    rcases List.mem_pair.1 he with rfl | rfl
    · exact .timedOut hstack hflag
    · exact .failed hstack hflag
  | read i _ => exact fun e he => .link (s.client.cycle_events i e he)
  | handled hstack => exact fun e he => .link ((s.client.answer_sameWaits _ _ _).2 e he)

end Session

/-! ## A sample -/

/-- A client that can wait a second for an acknowledgement. -/
def sampleSession : Session := .init 1000 0 (fun _ => 0) ⟨true, .clear, []⟩

/-- These bytes come from the broker, and nothing after them. -/
def ReadLine.sends (data : Bytes) : ReadLine := ⟨true, .clear, [.arrived data]⟩

/-- A `cycle` at one reading of the clock. -/
def CycleInput.at (now : Nat) : CycleInput :=
  ⟨now, 0, [], some now, ⟨now, now, some now, now, now⟩⟩

/-- A call at one reading of the clock. -/
def CallInput.at (now : Nat) : CallInput := ⟨now, now, some now, now⟩

/-- `MQTTConnect`, and the broker accepts the connection. -/
def connecting (keepAliveInterval now : Nat) : List SessionAction :=
  [.network (.sends [0x20, 2, 0, 0]), .call (.connect keepAliveInterval) (.at now),
    .poll now (.at now), .poll now (.at now)]

end Esp32Iot
