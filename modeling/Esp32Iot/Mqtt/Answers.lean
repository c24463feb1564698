import Mathlib.Data.List.Chain
import Esp32Iot.Mqtt.Session

/-!
# What the client answers

The half of the protocol in which the broker asks. A PUBLISH that is read goes to its handler, and
when that has returned `cycle` answers it by its quality of service: with nothing, a PUBACK or a
PUBREC. A PUBREC is answered with a PUBREL at once. Meanwhile a handler can wait for
acknowledgements of its own, and then more messages are read and handed on before it returns.

`Answering` are the moves that this allows, and `Session.answerStep_answering` says that every step
of a session is one of them, with the answers that the client has made in it. So in every run the
client gives one answer for each packet that asks for one, with its packet id, after the handler of
the message has returned (`answers_in_turn`). Nothing more is promised: the PUBREL of the broker is
not answered, and a message that comes twice is handed on twice.
-/

namespace Esp32Iot

/-! ## Answers -/

/-- A message: its quality of service, and its packet id if it has one. -/
structure Publication where
  qos : Nat
  packetid : Option Nat
  deriving DecidableEq

/-- The answer to a message. -/
def Publication.reply (a : Publication) : Option Reply :=
  if a.qos = 1 then some ⟨AckKind.puback.type, a.packetid⟩
  else if a.qos = 2 then some ⟨pubrecMsg, a.packetid⟩
  else none

/-- The message that is with its handler. -/
def Delivery.publication (message : Delivery) : Publication :=
  ⟨message.qos, if 0 < message.qos then some message.id else none⟩

namespace MqttPacket

/-- The quality of service in the header. -/
def qos (p : MqttPacket) : Nat := p.header.toNat / 2 % 4

/-- The packet id behind the topic. -/
def messageId (p : MqttPacket) : Option Nat :=
  packetid ⟨p.header, p.body.drop (2 + topicLength p.body)⟩

/-- The message in a PUBLISH. -/
def publication (p : MqttPacket) : Option Publication :=
  if p.type = publishMsg then some ⟨p.qos, if 0 < p.qos then p.messageId else none⟩ else none

/-- The answer that a packet asks for. -/
def asksFor (p : MqttPacket) : Option Reply :=
  if p.type = pubrecMsg then some ⟨pubrelMsg, p.packetid⟩
  else p.publication.bind Publication.reply

/-- What a PUBLISH or a PUBREC has to hold fits in it. -/
structure WellFormed (p : MqttPacket) : Prop where
  topic : p.type = publishMsg → 2 + topicLength p.body ≤ p.body.length
  messageId : p.type = publishMsg → 0 < p.qos → p.messageId.isSome
  packetid : p.type = pubrecMsg → p.packetid.isSome

instance (p : MqttPacket) : Decidable p.WellFormed :=
  decidable_of_iff
    ((p.type = publishMsg → 2 + topicLength p.body ≤ p.body.length) ∧
      (p.type = publishMsg → 0 < p.qos → p.messageId.isSome) ∧
      (p.type = pubrecMsg → p.packetid.isSome))
    ⟨fun h => ⟨h.1, h.2.1, h.2.2⟩, fun h => ⟨h.topic, h.messageId, h.packetid⟩⟩

end MqttPacket

/-! ## The log -/

/-- What happens to the packets of the broker. -/
inductive AnswerEvent
  /-- a packet is read -/
  | read (packet : MqttPacket)
  /-- its message is handed to a handler -/
  | delivered (message : Delivery)
  /-- the handler returns -/
  | returned (message : Delivery)
  /-- an answer is made, and sent or not -/
  | replied (reply : Reply) (sent : Bool)
  deriving DecidableEq

namespace AnswerEvent

def packet : AnswerEvent → Option MqttPacket
  | .read packet => some packet
  | .delivered _ | .returned _ | .replied .. => none

def delivery : AnswerEvent → Option Delivery
  | .delivered message => some message
  | .read _ | .returned _ | .replied .. => none

def reply : AnswerEvent → Option Reply
  | .replied reply _ => some reply
  | .read _ | .delivered _ | .returned _ => none

/-- A message comes right after its packet, and an answer right after what it answers. -/
def Leads (e : AnswerEvent) : AnswerEvent → Prop
  | .delivered _ => ∃ p : MqttPacket, e = .read p ∧ p.type = publishMsg
  | .replied reply _ =>
      (∃ message : Delivery, e = .returned message ∧ message.publication.reply = some reply) ∨
        ∃ p : MqttPacket, e = .read p ∧ p.type = pubrecMsg ∧ reply.type = pubrelMsg
  | .read _ | .returned _ => True

end AnswerEvent

/-- An answer that the client has made. -/
def SessionEvent.answer : SessionEvent → Option AnswerEvent
  | .replied reply sent => some (.replied reply sent)
  | .returned .. | .acknowledged .. | .timedOut .. | .connected | .pingreq _ | .pingresp
  | .dropped _ => none

/-- The messages that are with their handlers, the innermost first. -/
def openMessages (stack : List MqttFrame) : List Delivery :=
  stack.filterMap fun
    | .handling message => some message
    | .waiting _ => none

namespace Session

/-- The packet that a `cycle` reads, and the message that it hands on. -/
def cycleHands (s : Session) (i : CycleInput) : List AnswerEvent :=
  s.client.line.packet.toList.map .read ++ (s.client.cycle i).delivery.toList.map .delivered

/-- The packet that a step reads, and the message that it hands to a handler or takes back. -/
def hands (s : Session) : SessionAction → List AnswerEvent
  | .poll now i => if s.reads (.poll now i) then s.cycleHands i else []
  | .yield i => if s.reads (.yield i) then s.cycleHands i else []
  | .handled .. =>
      match s.stack with
      | .handling message :: _ => [.returned message]
      | [] | .waiting _ :: _ => []
  | .network _ | .call .. => []

/-- A step, with what happens to the packets of the broker. -/
def answerStep (s : Session) (a : SessionAction) : Option (List AnswerEvent × Session) :=
  (s.step a).map fun r => (s.hands a ++ r.1.filterMap SessionEvent.answer, r.2)

end Session

/-! ## The moves -/

/-- The moves, between the messages that are with their handlers. -/
inductive Answering : List Delivery → List AnswerEvent → List Delivery → Prop
  | silent (messages : List Delivery) : Answering messages [] messages
  | skipped {p : MqttPacket} (hskipped : p.WellFormed → p.asksFor = none ∧ p.publication = none)
      (messages : List Delivery) : Answering messages [.read p] messages
  | delivered {p : MqttPacket} {message : Delivery} (htype : p.type = publishMsg)
      (hcarries : p.WellFormed → p.publication = some message.publication)
      (messages : List Delivery) :
      Answering messages [.read p, .delivered message] (message :: messages)
  | released {p : MqttPacket} (htype : p.type = pubrecMsg) {reply : Reply} {sent : Bool}
      (hreply : reply.type = pubrelMsg) (hid : p.WellFormed → reply.packetid = p.packetid)
      (messages : List Delivery) : Answering messages [.read p, .replied reply sent] messages
  | returned (message : Delivery) (sent : Bool) (messages : List Delivery) :
      Answering (message :: messages)
        (.returned message :: message.publication.reply.toList.map (.replied · sent)) messages

/-! ### What is kept -/

/-- The answers that are to come when the handlers return. -/
def owed (messages : List Delivery) : List Reply :=
  messages.filterMap fun message => message.publication.reply

/-- What is known of the log of a run, with the messages that are with their handlers then. -/
structure Answered (log : List AnswerEvent) (messages : List Delivery) : Prop where
  chain : log.IsChain AnswerEvent.Leads
  handed : (∀ p ∈ log.filterMap AnswerEvent.packet, p.WellFormed) →
    (log.filterMap AnswerEvent.delivery).map Delivery.publication =
      (log.filterMap AnswerEvent.packet).filterMap MqttPacket.publication
  replies : (∀ p ∈ log.filterMap AnswerEvent.packet, p.WellFormed) →
    ((log.filterMap AnswerEvent.packet).filterMap MqttPacket.asksFor).Perm
      (log.filterMap AnswerEvent.reply ++ owed messages)

theorem Answered.nil : Answered [] [] := ⟨.nil, fun _ => rfl, fun _ => .refl _⟩

/-- A PUBLISH asks for the answer to its message. -/
theorem MqttPacket.asksFor_publish {p : MqttPacket} (h : p.type = publishMsg) :
    p.asksFor = p.publication.bind Publication.reply := by
  rw [asksFor, if_neg]
  rw [h]
  decide

theorem owed_cons (message : Delivery) (messages : List Delivery) :
    owed (message :: messages) = message.publication.reply.toList ++ owed messages := by
  rw [owed, List.filterMap_cons]
  cases message.publication.reply <;> rfl

/-- What asks for an answer, and what does not. -/
theorem asksFor_eq_of_type {p : MqttPacket} (h : p.type = pubrecMsg) :
    p.asksFor = some ⟨pubrelMsg, p.packetid⟩ ∧ p.publication = none := by
  refine ⟨if_pos h, if_neg ?_⟩
  rw [h]
  decide

/-- **More events** are accounted for when they are by themselves. -/
theorem Answered.append {log events : List AnswerEvent} {messages messages' : List Delivery}
    (h : Answered log messages)
    (hchain : events.IsChain AnswerEvent.Leads)
    (hfirst : ∀ e ∈ events.head?, ∀ e', AnswerEvent.Leads e' e)
    (hhanded : (∀ p ∈ events.filterMap AnswerEvent.packet, p.WellFormed) →
      (events.filterMap AnswerEvent.delivery).map Delivery.publication =
        (events.filterMap AnswerEvent.packet).filterMap MqttPacket.publication)
    (hreplies : (∀ p ∈ events.filterMap AnswerEvent.packet, p.WellFormed) →
      ((events.filterMap AnswerEvent.packet).filterMap MqttPacket.asksFor ++ owed messages).Perm
        (events.filterMap AnswerEvent.reply ++ owed messages')) :
    Answered (log ++ events) messages' := by
  refine ⟨List.isChain_append.2 ⟨h.chain, hchain, fun e' _ e he => hfirst e he e'⟩, ?_, ?_⟩
  · intro hwell
    rw [List.filterMap_append, List.forall_mem_append] at hwell
    rw [List.filterMap_append, List.filterMap_append, List.map_append, List.filterMap_append,
      h.handed hwell.1, hhanded hwell.2]
  · intro hwell
    rw [List.filterMap_append, List.forall_mem_append] at hwell
    -- the events ask while the messages before them still wait for their answers
    have hlog := (h.replies hwell.1).append_right
      ((events.filterMap AnswerEvent.packet).filterMap MqttPacket.asksFor)
    rw [List.filterMap_append, List.filterMap_append, List.filterMap_append]
    refine hlog.trans ?_
    rw [List.append_assoc, List.append_assoc]
    exact (List.perm_append_comm.trans (hreplies hwell.2)).append_left _

/-- **A move keeps it.** -/
theorem Answered.move {log events : List AnswerEvent} {messages messages' : List Delivery}
    (h : Answered log messages) (hmove : Answering messages events messages') :
    Answered (log ++ events) messages' := by
  have hfree (p : MqttPacket) (rest : List AnswerEvent) :
      ∀ e ∈ (AnswerEvent.read p :: rest).head?, ∀ e', AnswerEvent.Leads e' e := by
    rintro e ⟨⟩ e'
    trivial
  cases hmove with
  | silent => exact h.append .nil nofun (fun _ => rfl) fun _ => .refl _
  | @skipped p hskipped =>
    refine h.append (.singleton _) (hfree p []) (fun hwell => ?_) fun hwell => ?_
    · have hnone := (hskipped (hwell p (.head _))).2
      simp [List.filterMap_cons, AnswerEvent.packet, AnswerEvent.delivery, hnone]
    · have hnone := (hskipped (hwell p (.head _))).1
      simp [List.filterMap_cons, AnswerEvent.packet, AnswerEvent.reply, hnone]
  | @delivered p message htype hcarries =>
    refine h.append (.cons_cons ⟨p, rfl, htype⟩ (.singleton _)) (hfree p _)
      (fun hwell => ?_) fun hwell => ?_
    · have hmessage := hcarries (hwell p (.head _))
      simp [List.filterMap_cons, AnswerEvent.packet, AnswerEvent.delivery, hmessage]
    · -- what it asks for is owed from now on
      have hmessage := hcarries (hwell p (.head _))
      have hasks : p.asksFor = message.publication.reply := by
        rw [MqttPacket.asksFor_publish htype, hmessage, Option.bind_some]
      rw [owed_cons]
      cases hreply : message.publication.reply <;>
        simp [List.filterMap_cons, AnswerEvent.packet, AnswerEvent.reply, hasks, hreply]
  | @released p htype reply sent hreply hid =>
    refine h.append (.cons_cons (.inr ⟨p, rfl, htype, hreply⟩) (.singleton _)) (hfree p _)
      (fun hwell => ?_) fun hwell => ?_
    · have hnone := (asksFor_eq_of_type htype).2
      simp [List.filterMap_cons, AnswerEvent.packet, AnswerEvent.delivery, hnone]
    · have hasks : p.asksFor = some reply := by
        rw [(asksFor_eq_of_type htype).1, ← hreply, ← hid (hwell p (.head _))]
      simp [List.filterMap_cons, AnswerEvent.packet, AnswerEvent.reply, hasks]
  | returned message sent =>
    have hfirst : ∀ rest, ∀ e ∈ (AnswerEvent.returned message :: rest).head?,
        ∀ e', AnswerEvent.Leads e' e := by
      rintro rest e ⟨⟩ e'
      trivial
    -- what was owed for the message is paid
    cases hreply : message.publication.reply with
    | none =>
      refine h.append (.singleton _) (hfirst _) (fun _ => rfl) fun _ => ?_
      rw [owed_cons, hreply]
      exact .refl _
    | some reply =>
      refine h.append (.cons_cons (.inl ⟨message, rfl, hreply⟩) (.singleton _)) (hfirst _)
        (fun _ => rfl) fun _ => ?_
      rw [owed_cons, hreply]
      exact .refl _

/-! ## The client makes them -/

/-- A packet that is read is shorter than what four bytes can announce. -/
theorem ReadLine.packet_length_lt {l : ReadLine} {p : MqttPacket} (h : l.packet = some p) :
    p.body.length < 128 ^ 4 := by
  obtain ⟨a, ha, hp⟩ := Option.bind_eq_some_iff.1 h
  rw [Announced.packet] at hp
  split at hp
  next hcomplete =>
    cases hp
    rw [Announced.content, List.length_take_of_le hcomplete]
    exact announced_length_lt ha
  next => cases hp

/-- The bytes from an index on. -/
theorem HasAt.drop {buf : Memory} {pos k : Nat} {bs : Bytes} (h : HasAt buf pos bs)
    (hk : k ≤ bs.length) : HasAt buf (pos + k) (bs.drop k) := by
  rw [← List.take_append_drop k bs] at h
  have hdrop := (hasAt_append.1 h).2
  rwa [List.length_take_of_le hk] at hdrop

/-- A packet id is read where it stands. -/
theorem readInt_of_packetid {buf : Memory} {header : UInt8} {pos : Nat} {body : Bytes} {id : Nat}
    (hbody : HasAt buf pos body) (hid : (MqttPacket.mk header body).packetid = some id) :
    readInt buf pos = id := by
  rw [MqttPacket.packetid] at hid
  split at hid
  next hi lo rest heq =>
    cases heq
    cases hid
    obtain ⟨hhi, hlo, -⟩ := hbody
    rw [readInt, hhi, hlo]
  next => cases hid

section
variable {buf : Memory} {p : MqttPacket} (hat : HasAt buf 0 p.bytes)
  (hlength : p.body.length < 128 ^ 4)
include hat hlength

/-- **A well-formed PUBLISH is decoded.** -/
theorem mqttDeserializePublish_packet (htype : p.type = publishMsg) (hwell : p.WellFormed) :
    ∃ fields, mqttDeserializePublish buf = (1, some fields) ∧ fields.qos = p.qos ∧
      (0 < p.qos → fields.packetid = p.messageId) := by
  have htopic := hwell.topic htype
  have hdecode := mqttDeserializePublish_hasAt (isField_mqttPacketEncode _)
    (length_mqttPacketEncode_le hlength) (fieldValue_mqttPacketEncode _) htype hat
  rw [if_neg (Nat.not_lt.2 htopic)] at hdecode
  refine ⟨_, hdecode, rfl, fun hqos => ?_⟩
  obtain ⟨id, hid⟩ := Option.isSome_iff_exists.1 (hwell.messageId htype hqos)
  -- the packet id is behind the topic
  have hread := readInt_of_packetid ((hasAt_append.1 hat.2).2.drop htopic) hid
  rw [hid, ← hread]
  refine (if_pos hqos).trans ?_
  congr 2
  omega

/-- **A PUBREC that holds its packet id is decoded.** -/
theorem mqttDeserializeAck_packet (hsome : p.packetid.isSome) :
    (mqttDeserializeAck buf).rc = 1 ∧ (mqttDeserializeAck buf).packetid = p.packetid := by
  obtain ⟨id, hid⟩ := Option.isSome_iff_exists.1 hsome
  obtain ⟨hfield, hbody⟩ := hasAt_append.1 hat.2
  have hdecode : mqttPacketDecodeBuf buf 1 =
      ⟨(mqttPacketEncode p.body.length).length, p.body.length,
        1 + (mqttPacketEncode p.body.length).length⟩ := by
    have hloop := decodeLoop_field (isField_mqttPacketEncode _)
      (length_mqttPacketEncode_le hlength) hfield.delivers 1 0
    rwa [fieldValue_mqttPacketEncode, Nat.zero_add, Nat.one_mul, Nat.zero_add] at hloop
  have htwo : ¬ p.body.length < 2 := by
    rw [MqttPacket.packetid] at hid
    split at hid
    next heq => simp [heq]
    next => cases hid
  have hread := readInt_of_packetid hbody hid
  rw [Nat.zero_add] at hread
  rw [mqttDeserializeAck, hdecode, hid, ← hread]
  simp only [htwo, if_false, and_self]

end

namespace MqttClient

/-- An acknowledgement is no PUBLISH and no PUBREC. -/
theorem ne_of_ofType {type : Int} {kind : AckKind} (h : AckKind.ofType type = some kind) :
    type ≠ publishMsg ∧ type ≠ pubrecMsg := by
  rw [AckKind.ofType_eq_some_iff.1 h]
  cases kind <;> decide

/-- Only a PUBLISH is handed on. -/
theorem handlePacket_delivery (c : MqttClient) (type : Int) (i : CycleInput) :
    (c.handlePacket type i).1.delivery =
      if type = publishMsg ∧ (mqttDeserializePublish c.readbuf).1 = 1 then some (c.message i)
      else none := by
  have hhandled := c.handlePacket_handled type i
  generalize c.handlePacket type i = handled at hhandled ⊢
  cases hhandled with
  | acknowledged hkind => exact (if_neg fun h => (ne_of_ofType hkind).1 h.1).symm
  | delivered htype hrc => exact (if_pos ⟨htype, hrc⟩).symm
  | released htype | unsent htype | pingresp htype =>
    refine (if_neg fun h => ?_).symm
    exact absurd (htype.symm.trans h.1) (by decide)
  | ignored hpublish => exact (if_neg hpublish).symm

/-- The message is that of the packet. -/
theorem message_publication {c : MqttClient} {p : MqttPacket} (hat : HasAt c.readbuf 0 p.bytes)
    (hlength : p.body.length < 128 ^ 4) (htype : p.type = publishMsg) (hwell : p.WellFormed)
    (i : CycleInput) : p.publication = some (c.message i).publication := by
  obtain ⟨fields, hdecode, hqos, hid⟩ := mqttDeserializePublish_packet hat hlength htype hwell
  have hmessage : c.message i = ⟨p.qos, fields.packetid.getD i.unset⟩ := by
    rw [message, hdecode, ← hqos]
  rw [MqttPacket.publication, if_pos htype, hmessage, Delivery.publication]
  dsimp only
  split
  next hpos =>
    obtain ⟨id, hsome⟩ := Option.isSome_iff_exists.1 (hwell.messageId htype hpos)
    rw [hid hpos, hsome]
    rfl
  next => rfl

/-- What is handed on in a `cycle`. -/
theorem cycle_delivery (c : MqttClient) (i : CycleInput) :
    let read := c.readPacket i.received
    (c.cycle i).delivery =
      if read.1 = publishMsg ∧ (mqttDeserializePublish read.2.readbuf).1 = 1 then
        some (read.2.message i)
      else none := by
  obtain ⟨-, hdelivery, -⟩ := c.cycle_sameWaits i
  exact hdelivery.trans (handlePacket_delivery _ _ i)

/-! ### The answers that are made -/

/-- A PINGREQ answers nothing. -/
theorem keepalive_answers (c : MqttClient) (i : KeepaliveInput) :
    (c.keepalive i).1.filterMap SessionEvent.answer = [] := by
  have hkept := c.keepalive_keptAlive i
  generalize c.keepalive i = kept at hkept ⊢
  cases hkept with
  | idle | pinged | dropped => rfl

/-- Only a PUBREC is answered at once. -/
theorem handlePacket_answers (c : MqttClient) (type : Int) (i : CycleInput) :
    (c.handlePacket type i).1.events.filterMap SessionEvent.answer =
      if type = pubrecMsg ∧ (mqttDeserializeAck c.readbuf).rc = 1 then
        [.replied ⟨pubrelMsg, (mqttDeserializeAck c.readbuf).packetid⟩ i.sent.isSome]
      else [] := by
  have hhandled := c.handlePacket_handled type i
  generalize c.handlePacket type i = handled at hhandled ⊢
  cases hhandled with
  | acknowledged hkind => exact (if_neg fun h => (ne_of_ofType hkind).2 h.1).symm
  | delivered htype | pingresp htype =>
    refine (if_neg fun h => ?_).symm
    exact absurd (htype.symm.trans h.1) (by decide)
  | released htype hrc hsent =>
    obtain ⟨now, hnow, -⟩ := Option.map_eq_some_iff.1 hsent
    rw [if_pos ⟨htype, hrc⟩, hnow]
    rfl
  | unsent htype hrc hsent =>
    rw [if_pos ⟨htype, hrc⟩, Option.map_eq_none_iff.1 hsent]
    rfl
  | ignored _ hpubrec => exact (if_neg hpubrec).symm

/-- What is answered in a `cycle`. -/
theorem cycle_answers (c : MqttClient) (i : CycleInput) :
    let read := c.readPacket i.received
    (c.cycle i).events.filterMap SessionEvent.answer =
      if read.1 = pubrecMsg ∧ (mqttDeserializeAck read.2.readbuf).rc = 1 then
        [.replied ⟨pubrelMsg, (mqttDeserializeAck read.2.readbuf).packetid⟩ i.sent.isSome]
      else [] := by
  intro read
  have hhandled := handlePacket_answers read.2 read.1 i
  unfold cycle
  dsimp only
  split
  next =>
    rw [List.filterMap_append, keepalive_answers, List.append_nil]
    exact hhandled
  next => exact hhandled

theorem sendAck_answers (c : MqttClient) (reply : Reply) (sent : Option Nat)
    (i : KeepaliveInput) :
    (c.sendAck reply sent i).1.filterMap SessionEvent.answer = [.replied reply sent.isSome] := by
  unfold sendAck
  split
  next hsent =>
    obtain rfl : sent = none := Option.map_eq_none_iff.1 hsent
    rfl
  next c' hsent =>
    obtain ⟨now, rfl, -⟩ := Option.map_eq_some_iff.1 hsent
    dsimp only
    rw [List.filterMap_cons, keepalive_answers]
    rfl

/-- **A message is answered by its quality of service.** -/
theorem answer_answers (c : MqttClient) (message : Delivery) (sent : Option Nat)
    (i : KeepaliveInput) :
    (c.answer message sent i).1.filterMap SessionEvent.answer =
      message.publication.reply.toList.map (.replied · sent.isSome) := by
  obtain ⟨qos, id⟩ := message
  unfold answer
  dsimp only
  split
  next hqos =>
    subst hqos
    exact keepalive_answers c i
  next =>
    split
    next hqos =>
      subst hqos
      exact sendAck_answers c _ sent i
    next hone =>
      split
      next hqos =>
        subst hqos
        exact sendAck_answers c _ sent i
      next htwo => simp [Delivery.publication, Publication.reply, hone, htwo]

/-- Without a packet nothing is handed on or answered. -/
theorem cycle_of_no_packet (c : MqttClient) (i : CycleInput) (h : c.line.packet = none) :
    (c.cycle i).delivery = none ∧ (c.cycle i).events.filterMap SessionEvent.answer = [] := by
  have hcode : (c.readPacket i.received).1 = mqttFailure := readPacket_of_no_packet c.readbuf h
  rw [cycle_delivery, cycle_answers, hcode]
  exact ⟨if_neg fun h => absurd h.1 (by decide), if_neg fun h => absurd h.1 (by decide)⟩

end MqttClient

namespace Session

/-- **A `cycle` is a move.** -/
theorem cycle_answering (s : Session) (i : CycleInput) (messages : List Delivery) :
    Answering messages
      (s.cycleHands i ++ (s.client.cycle i).events.filterMap SessionEvent.answer)
      ((s.client.cycle i).delivery.toList ++ messages) := by
  cases hp : s.client.line.packet with
  | none =>
    obtain ⟨hdelivery, hanswers⟩ := s.client.cycle_of_no_packet i hp
    rw [cycleHands, hp, hdelivery, hanswers]
    exact .silent messages
  | some p =>
    have hcode : (s.client.readPacket i.received).1 = p.type :=
      (readPacket_of_packet s.client.readbuf hp).1
    have hat : HasAt (s.client.readPacket i.received).2.readbuf 0 p.bytes :=
      (readPacket_of_packet s.client.readbuf hp).2
    have hlength := ReadLine.packet_length_lt hp
    rw [cycleHands, MqttClient.cycle_delivery, MqttClient.cycle_answers, hp, hcode]
    by_cases hpublish : p.type = publishMsg
    · have hother : ¬ (((publishMsg : Nat) : Int) = pubrecMsg ∧
          (mqttDeserializeAck (s.client.readPacket i.received).2.readbuf).rc = 1) :=
        fun h => absurd h.1 (by decide)
      rw [hpublish, if_neg hother]
      split
      next hrc =>
        refine .delivered hpublish (fun hwell => ?_) messages
        exact MqttClient.message_publication hat hlength hpublish hwell i
      next hrc =>
        refine .skipped (fun hwell => ?_) messages
        obtain ⟨fields, hdecode, -⟩ := mqttDeserializePublish_packet hat hlength hpublish hwell
        exact absurd ⟨rfl, congrArg Prod.fst hdecode⟩ hrc
    · have hother : ¬ (((p.type : Nat) : Int) = publishMsg ∧
          (mqttDeserializePublish (s.client.readPacket i.received).2.readbuf).1 = 1) :=
        fun h => hpublish (Int.ofNat_inj.1 h.1)
      rw [if_neg hother]
      by_cases hpubrec : p.type = pubrecMsg
      · rw [hpubrec]
        split
        next hrc =>
          refine .released hpubrec rfl (fun hwell => ?_) messages
          exact (mqttDeserializeAck_packet hat hlength (hwell.packetid hpubrec)).2
        next hrc =>
          refine .skipped (fun hwell => ?_) messages
          exact absurd ⟨rfl, (mqttDeserializeAck_packet hat hlength (hwell.packetid hpubrec)).1⟩ hrc
      · rw [if_neg fun h => hpubrec (Int.ofNat_inj.1 h.1)]
        have hnone : p.publication = none := if_neg hpublish
        refine .skipped (fun _ => ⟨?_, hnone⟩) messages
        rw [MqttPacket.asksFor, if_neg hpubrec, hnone]
        rfl

theorem openMessages_cycle (s : Session) (i : CycleInput) :
    openMessages (s.cycle i).2.stack =
      (s.client.cycle i).delivery.toList ++ openMessages s.stack := by
  have hnote : ∀ stack : List MqttFrame,
      openMessages (stack.map (MqttFrame.note s.client.line.packet)) = openMessages stack := by
    intro stack
    rw [openMessages, List.filterMap_map]
    refine congrArg (fun f => List.filterMap f stack) (funext fun f => ?_)
    cases f <;> rfl
  rw [cycle]
  dsimp only
  rw [openMessages, List.filterMap_append]
  refine congrArg₂ _ ?_ (hnote s.stack)
  cases (s.client.cycle i).delivery <;> rfl

theorem step_of_reads {s : Session} {a : SessionAction} (h : s.reads a) :
    ∃ i, s.step a = some (s.cycle i) ∧ s.hands a = s.cycleHands i := by
  cases a with
  | network | call | handled => cases h
  | poll now i =>
    refine ⟨i, ?_, if_pos h⟩
    rw [reads] at h
    rw [step]
    split at h
    next w rest =>
      rw [Bool.and_eq_true, Bool.not_eq_true', Bool.not_eq_true'] at h
      simp only [h.1, h.2, Bool.false_eq_true, if_false]
    all_goals cases h
  | yield i =>
    refine ⟨i, ?_, if_pos h⟩
    rw [reads] at h
    rw [step]
    split at h
    · cases h
    all_goals rfl

/-- A `waitfor` that returns its type answers nothing. -/
theorem acknowledge_answers (s : Session) (w : MqttWait) (rest : List MqttFrame) :
    (s.acknowledge w rest).1.filterMap SessionEvent.answer = [] := by
  unfold acknowledge
  dsimp only
  split <;> rfl

/-- **Every step of a session is a move.** -/
theorem answerStep_answering {s t : Session} {a : SessionAction} {events : List AnswerEvent}
    (h : s.answerStep a = some (events, t)) :
    Answering (openMessages s.stack) events (openMessages t.stack) := by
  obtain ⟨⟨seen, t'⟩, hstep, heq⟩ := Option.map_eq_some_iff.1 h
  obtain ⟨rfl, rfl⟩ := Prod.mk.inj heq
  dsimp only
  by_cases hreads : s.reads a
  · obtain ⟨i, hcycle, hhands⟩ := step_of_reads hreads
    have hmove := s.cycle_answering i (openMessages s.stack)
    have heq : (seen, t') = s.cycle i := Option.some.inj (hstep.symm.trans hcycle)
    rw [← openMessages_cycle, ← hhands, ← heq] at hmove
    have hseen : seen = (s.client.cycle i).events := congrArg Prod.fst heq
    rwa [← hseen] at hmove
  · cases step_effect hstep with
    | network line => exact .silent _
    | returned _ _ => exact .silent _
    | began _ _ => exact .silent _
    | @acknowledged now i w rest hstack hflag =>
      rw [hands, if_neg hreads, acknowledge_answers, (s.acknowledge_client w rest).2, hstack]
      exact .silent _
    | @timedOut now i w rest hstack hflag =>
      rw [hands, if_neg hreads, hstack]
      exact .silent _
    | read i hreads' => exact absurd hreads' hreads
    | @handled sent i message rest hstack =>
      rw [hands, MqttClient.answer_answers, hstack]
      exact .returned message sent.isSome _

end Session

/-! ## Runs -/

section
variable {commandTimeoutMs keepAliveInterval : Nat} {readbuf : Memory} {line : ReadLine}
  {actions : List SessionAction} {os : List (List AnswerEvent)} {u : Session}

theorem session_answered
    (hrun : Runs.exec Session.answerStep (.init commandTimeoutMs keepAliveInterval readbuf line)
      actions = some (os, u)) : Answered os.flatten (openMessages u.stack) := by
  have hstep : ∀ (os : List (List AnswerEvent)) (s : Session) a o t,
      Answered os.flatten (openMessages s.stack) → True → s.answerStep a = some (o, t) →
      Answered (os ++ [o]).flatten (openMessages t.stack) := by
    intro os s a o t h _ hstep
    rw [List.flatten_append, List.flatten_singleton]
    exact h.move (Session.answerStep_answering hstep)
  have hinit : Answered ([] : List (List AnswerEvent)).flatten
      (openMessages (Session.init commandTimeoutMs keepAliveInterval readbuf line).stack) := .nil
  have hend : Answered ([] ++ os).flatten (openMessages u.stack) :=
    Runs.exec_history hstep hinit (Runs.along_of_forall fun _ _ => trivial) hrun
  rwa [List.nil_append] at hend

/-- **What the client answers**, in every run in which the packets that are read are well formed:
the messages are handed on in the order in which they are read; there is one answer for each packet
that asks for one, sent or not, or the message is still with its handler; and an answer comes right
after the handler of its message has returned, or the PUBREC has been read. -/
theorem answers_in_turn
    (hrun : Runs.exec Session.answerStep (.init commandTimeoutMs keepAliveInterval readbuf line)
      actions = some (os, u))
    (hwell : ∀ p ∈ os.flatten.filterMap AnswerEvent.packet, p.WellFormed) :
    let log := os.flatten
    let packets := log.filterMap AnswerEvent.packet
    (log.filterMap AnswerEvent.delivery).map Delivery.publication =
        packets.filterMap MqttPacket.publication ∧
      (packets.filterMap MqttPacket.asksFor).Perm
        (log.filterMap AnswerEvent.reply ++ owed (openMessages u.stack)) ∧
      log.IsChain AnswerEvent.Leads := by
  have hanswered := session_answered hrun
  exact ⟨hanswered.handed hwell, hanswered.replies hwell, hanswered.chain⟩

/-- Connected, a subscription that waits, and a message of quality 2 whose handler publishes; while
that waits, a message of quality 1 comes, and its handler returns. -/
def nestedMessages : List SessionAction :=
  connecting 0 0 ++
    [.call .subscribe (.at 1), .network (.sends [0x34, 5, 0, 1, 97, 0, 9]), .poll 2 (.at 2),
      .call (.publish .qos1) (.at 3), .network (.sends [0x32, 5, 0, 1, 98, 0, 8]),
      .poll 4 (.at 4), .handled (some 5) ⟨5, 5, some 5, 5, 5⟩]

theorem answers_in_turn_nestedMessages :
    ∃ os u, Runs.exec Session.answerStep sampleSession nestedMessages = some (os, u) ∧
      os.flatten.filterMap AnswerEvent.reply = [⟨4, some 8⟩] ∧
      owed (openMessages u.stack) = [⟨5, some 9⟩] ∧
      ((os.flatten.filterMap AnswerEvent.packet).filterMap MqttPacket.asksFor).Perm
        [⟨4, some 8⟩, ⟨5, some 9⟩] := by
  have hlog : (Runs.exec Session.answerStep sampleSession nestedMessages).map
      (fun r => (decide (∀ p ∈ r.1.flatten.filterMap AnswerEvent.packet, p.WellFormed),
        r.1.flatten.filterMap AnswerEvent.reply, owed (openMessages r.2.stack))) =
      some (true, [⟨4, some 8⟩], [⟨5, some 9⟩]) := by decide +kernel
  obtain ⟨⟨os, u⟩, hrun, hlast⟩ := Option.map_eq_some_iff.1 hlog
  obtain ⟨hwell, hrest⟩ := Prod.mk.inj hlast
  obtain ⟨hreplies, howed⟩ := Prod.mk.inj hrest
  have hperm := (answers_in_turn hrun (of_decide_eq_true hwell)).2.1
  rw [hreplies, howed] at hperm
  exact ⟨os, u, hrun, hreplies, howed, hperm⟩

end

end Esp32Iot
