import Esp32Iot.Cayenne.Arrived
import Esp32Iot.Cayenne.Outgoing

/-!
# From one device to another

A device publishes the values of a channel, the broker reads the packet and passes it on, and
another device of the same user has subscribed to the channel. `Publishes` is the way out, from the
arguments of `CayenneMQTTPublishDataArray` to the bytes that `sendPacket` has written, `PassesOn` is
the broker, by the meaning of the packets, and the way in is that of `Esp32Iot.Cayenne.Arrived`.

`published_delivered` says that the values come through: for any devices that publish, each with any
number of channels and values, any segments in which the packets arrive without a timeout inside
one, and any calls of the application that listens, whose subscriptions name a client ID and find a
free entry.
-/

namespace Esp32Iot

open CStr (lit)

/-! ## The devices that publish -/

/-- A device of the user has published a message, with these bytes on the wire. -/
inductive Publishes (username : CStr) : CayenneMessage → Bytes → Prop
  | dataArray {client : CayenneMqttClient} {line : PublishLine} {written : Bytes}
      {clientID : Option CStr} {channel : UInt32} {type : CStr} {pairs : List (CStr × CStr)}
      (huser : client.username = username)
      (h : cayenneMqttPublishDataArray client clientID .data channel (some type) (valuePairs pairs)
        line = some (cayenneSuccess, written)) :
      Publishes username ⟨clientID.getD client.clientID, channel, .data type pairs⟩ written

/-! ## The broker -/

/-- The broker has read a publish packet, and passes the message on in a packet with a quality and a
packet id of its own. -/
inductive PassesOn (written : Bytes) (p : SentPacket) : Prop
  | publish {dup retained : Bool} {qos : Nat} {topicName : Bytes} {packetid : Option Nat}
      {payload : Bytes} (ident : Bytes)
      (hread : controlPacket.Reads written (.publish dup qos retained topicName packetid payload))
      (htype : headerType p.header = publishMsg)
      (hident : ident.length = if 0 < p.header.toNat / 2 % 4 then 2 else 0)
      (hbody : p.body = writeInt topicName.length ++ (topicName ++ (ident ++ payload)))

section
variable {username : CStr} {default : Option CayenneMessageHandler} {s : Receiver}

/-- What is passed on is the message that was published. -/
theorem Publishes.passedOn {m : CayenneMessage} {bytes : Bytes} (hpub : Publishes username m bytes)
    (hm : m.WellGiven true) {p : SentPacket} (hpass : PassesOn bytes p) :
    p.Says true username (some m) := by
  obtain ⟨huser, h⟩ := hpub
  obtain ⟨-, hreadable⟩ := hm.content
  have hsent := publishDataArray_success rfl (by decide) (length_dataSuffix hm.numbered)
    (predictedLength_valuePairs hreadable.named hreadable.given) h
  obtain ⟨ident, hread, htype, hident, hbody⟩ := hpass
  -- the broker cannot have read anything else
  obtain ⟨heq, -⟩ := Parse.Reads.unique hsent.reads hread (Eq.refl (_ ++ []))
  cases heq
  subst huser
  exact .message _ ident hm htype hident hbody

theorem says_passedOn {messages : List CayenneMessage} {published : List Bytes}
    {packets : List SentPacket} (hpub : List.Forall₂ (Publishes username) messages published)
    (hwell : ∀ m ∈ messages, m.WellGiven true) (hpass : List.Forall₂ PassesOn published packets) :
    List.Forall₂ (SentPacket.Says true username) packets (messages.map some) := by
  induction hpub generalizing packets with
  | nil =>
    cases hpass
    exact .nil
  | cons h _ ih =>
    cases hpass with
    | cons hp hps =>
      exact .cons (h.passedOn (hwell _ (.head _)) hp) (ih (fun m hm => hwell m (.tail _ hm)) hps)

/-- **What one device publishes, another one gets**: the messages that the broker passes on are
delivered in the order in which they were published, each once, with the type, the units and the
values of the channel, to those who listen to it at the time. -/
theorem published_delivered {messages : List CayenneMessage} {published : List Bytes}
    {packets : List SentPacket} (hpub : List.Forall₂ (Publishes username) messages published)
    (hwell : ∀ m ∈ messages, m.WellGiven true) (hpass : List.Forall₂ PassesOn published packets)
    {clientID : CStr} {l : ReadLine} (hseg : Segmented l.incoming (wires packets))
    (htime : TimeoutsBetween l.incoming packets) {inputs : List ReceiverInput}
    {history : List (List HandledPacket)}
    (hok : Runs.Along (Receiver.step true) Receiver.Accepts
      (.init username clientID default l) inputs)
    (hrun : Runs.exec (Receiver.step true) (.init username clientID default l) inputs =
      some (history, s)) :
    ∃ done rest, messages = done ++ rest ∧
      List.Forall₂ (fun handled m => m.DeliveredTo handled.1 default handled.2) history.flatten
        done ∧ (s.line.feed = .quiet → rest = []) := by
  obtain ⟨done, rest, hmessages, hdone, hend⟩ :=
    (Receiver.inv_of_run (says_passedOn hpub hwell hpass) hseg htime hok hrun).done
  obtain ⟨done, rest, rfl, rfl, rfl⟩ := List.map_eq_append_iff.1 hmessages
  refine ⟨done, rest, rfl, ?_, fun hquiet => List.map_eq_nil_iff.1 (hend hquiet)⟩
  exact List.forall₂_map_right_iff.1 hdone

end

/-- A thermometer. -/
def thermometer : CayenneMqttClient := ⟨lit "u", lit "p", lit "c", true⟩

/-- Its 21 degrees. -/
def degrees : CayenneMessage := ⟨lit "c", 0, .data (lit "temp") [(lit "c", lit "21")]⟩

/-- The packet in which they are passed on, with quality 1 and the packet id 7. -/
def degreesPacket : SentPacket where
  header := 0x32
  lengthField := [33]
  body := [0, 20] ++ (bytes "v1/u/things/c/data/0" ++ ([0, 7] ++ bytes "temp,c=21"))
  isField := .last (by decide)
  atMostFour := by decide
  announces := by decide
  fits := by decide

/-- The packet in two segments. -/
def degreesLine : ReadLine where
  connected := true
  errno := .clear
  incoming := [.arrived (degreesPacket.wire.take 5), .arrived (degreesPacket.wire.drop 5)]

/-- A subscription to all channels of the thermometer. -/
def degreesInputs : List ReceiverInput :=
  [.call (.subscribe (some (lit "c")) .data cayenneAllChannels 3 0), .cycle fun _ => 0]

/-- What the thermometer writes. -/
def degreesBytes : Bytes :=
  publishPacket true (lit "v1/u/things/c/data/0") (lit "temp,c=21").val

theorem publishes_degrees : Publishes (lit "u") degrees degreesBytes := by
  have hcall : cayenneMqttPublishDataArray thermometer none .data 0 (some (lit "temp"))
      (valuePairs [(lit "c", lit "21")]) sampleLine = some (cayenneSuccess, degreesBytes) := by
    decide +kernel
  exact .dataArray rfl hcall

theorem passesOn_degrees : PassesOn degreesBytes degreesPacket := by
  have hread : controlPacket.Reads degreesBytes (retainedMessage (lit "v1/u/things/c/data/0")
      (lit "temp,c=21")) := OnWire.reads ⟨by decide, by decide, rfl⟩
  exact .publish [0, 7] hread (by decide) (by decide) (by decide +kernel)

/-- The listener gets the value with its type and its unit. -/
theorem published_delivered_degrees :
    ∃ s history, Runs.exec (Receiver.step true) (.init (lit "u") (lit "l") none degreesLine)
        degreesInputs = some (history, s) ∧
      history.flatten.map Prod.snd = [some (.ok (some ⟨degrees.data, [3], none⟩))] ∧
      ∃ done rest, [degrees] = done ++ rest ∧
        List.Forall₂ (fun handled m => m.DeliveredTo handled.1 none handled.2) history.flatten
          done ∧ (s.line.feed = .quiet → rest = []) := by
  have hreadable : Readable (lit "temp") [(lit "c", lit "21")] :=
    ⟨by decide, by decide, by decide, by decide +kernel, by decide +kernel⟩
  have hwell : ∀ m ∈ [degrees], m.WellGiven true := by
    intro m hm
    cases List.mem_singleton.1 hm
    exact ⟨⟨by decide, by decide⟩, by decide, rfl, hreadable⟩
  have hseg : Segmented degreesLine.incoming (wires [degreesPacket]) := ⟨by decide, rfl⟩
  have htime : TimeoutsBetween degreesLine.incoming [degreesPacket] := by
    intro before after h
    rcases before with _ | ⟨a, _ | ⟨b, _ | ⟨c, before⟩⟩⟩ <;> simp [degreesLine] at h
  have hok : Runs.Along (Receiver.step true) Receiver.Accepts
      (.init (lit "u") (lit "l") none degreesLine) degreesInputs := by
    refine ⟨fun _ _ => ⟨by simp, _, .head _, rfl⟩, fun o t _ => ?_⟩
    exact ⟨trivial, fun _ _ _ => trivial⟩
  have hevents : (Runs.exec (Receiver.step true) (.init (lit "u") (lit "l") none degreesLine)
      degreesInputs).map (fun run => run.1.flatten.map Prod.snd) =
        some [some (.ok (some ⟨degrees.data, [3], none⟩))] := by decide +kernel
  obtain ⟨⟨history, s⟩, hrun, hhistory⟩ := Option.map_eq_some_iff.1 hevents
  exact ⟨s, history, hrun, hhistory, published_delivered (.cons publishes_degrees .nil) hwell
    (.cons passesOn_degrees .nil) hseg htime hok hrun⟩

end Esp32Iot
