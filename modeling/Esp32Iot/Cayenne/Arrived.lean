import Esp32Iot.Cayenne.Lookahead
import Esp32Iot.Cayenne.ParsePayload
import Esp32Iot.Cayenne.Subscribe
import Esp32Iot.Mqtt.Framing
import Esp32Iot.Mqtt.RoundTrip

/-!
# From the line to the handlers

`MQTTMessageArrived` as a whole. A publish packet stands in `readbuf`; the topic is parsed there,
the payload gets a terminator and is split, and the table of handlers is searched for what was read.
The three parts work on one array, each behind the other: the parser of the topic overwrites the
slash behind the client ID, the terminator is stored behind the packet, and the payload is split by
terminators of its own. `none` is an access behind the array.

`CayenneMessage` is what a device is to be told: a command, a configuration or the values of a
channel. `delivered_in_order` says that it is, for any order of the application's calls and the
packets of the server, in any segments: the handlers of a message are those of the subscriptions
that are active when it is read, each called once, with the channel and the contents of the message.
The subscriptions are those of which it is known that they work: each names a client ID and finds a
free entry. And the line may be silent past the timeout between packets, but not inside one.
-/

namespace Esp32Iot

open CStr (lit)

/-! ## The source -/

/-- `n` bytes of memory, from an index on. -/
def slice (buf : Memory) : Nat → Nat → Bytes
  | _, 0 => []
  | pos, n + 1 => buf pos :: slice buf (pos + 1) n

/-- `sizeof(readbuf)`. -/
def readbufSize : Nat := cayenneMaxMessageSize + 1

/-- `CayenneMessageData`, as a handler reads it. -/
structure CayenneMessageData where
  clientID : CStr
  topic : CayenneTopic
  channel : UInt32
  payload : PayloadMessage
  deriving DecidableEq

/-- A message with its handlers. -/
structure Arrival where
  data : CayenneMessageData
  handlers : List CayenneMessageHandler
  /-- the default handler, when it is called -/
  default : Option CayenneMessageHandler
  deriving DecidableEq

/-- `MQTTMessageArrived`, for a message in `readbuf`: the handlers that are called, unless it is not
a message of Cayenne. The indices count from `topicName` on. -/
def SubscribingClient.mqttMessageArrived (parseInfo : Bool) (client : SubscribingClient)
    (readbuf : Memory) (md : PublishFields) : Option (Except HandlerFault (Option Arrival)) := do
  let memory := slice readbuf md.topicName.data (readbufSize - md.topicName.data)
  let parsed ← cayenneParseTopic (parseTopics parseInfo) client.username memory
    (UInt32.ofNat md.topicName.len)
  if parsed.code ≠ none then return .ok none
  let topic ← parsed.topic
  let channel ← parsed.channel
  let payload := md.payload - md.topicName.data
  let payloadEnd := (md.payload + md.payloadlen - md.topicName.data).toNat
  if memory.length ≤ payloadEnd then none
  let memory := parsed.memory.set payloadEnd 0
  if 0 ∉ memory.drop payload then none
  let message := cayenneParsePayload parseInfo cayenneMaxMessageValues topic
    (CStr.ofBytes (memory.drop payload))
  if message.code ≠ none then return .ok none
  -- the payload has been split where it stands
  let memory := memory.take payload ++
    (message.memory ++ memory.drop (payload + message.memory.length))
  let clientID ← { parsed with memory := memory }.clientIDString
  return (client.messageArrived ⟨clientID, topic, channel⟩).map fun (handlers, default) =>
    some ⟨⟨clientID, topic, channel, message.message⟩, handlers, default⟩

/-- The branch of `cycle` for a publish packet, up to the acknowledgement. `none` is also a message
whose outputs were not set. -/
def SubscribingClient.cyclePublish (parseInfo : Bool) (client : SubscribingClient)
    (readbuf : Memory) : Option (Except HandlerFault (Option Arrival)) :=
  match mqttDeserializePublish readbuf with
  | (1, some md) => client.mqttMessageArrived parseInfo readbuf md
  | (1, none) => none
  | _ => some (.ok none)

/-- What becomes of a packet that `readPacket` has read. -/
def SubscribingClient.handleReport (parseInfo : Bool) (client : SubscribingClient)
    (report : Int × Memory) : Option (Except HandlerFault (Option Arrival)) :=
  if report.1 = publishMsg then client.cyclePublish parseInfo report.2 else some (.ok none)

/-! ## What the server sends -/

/-- The values of a channel can be told apart in a payload. -/
structure Readable (type : CStr) (pairs : List (CStr × CStr)) : Prop where
  named : type.nonEmpty = true
  given : pairs ≠ []
  few : pairs.length ≤ cayenneMaxMessageValues
  typeClear : Scan.Clear 44 61 type.val
  pairsClear : ∀ pair ∈ pairs, Scan.Clear 44 61 pair.1.val ∧ Scan.Clear 44 61 pair.2.val

/-- What a message carries. -/
inductive CayenneContent
  | command (id value : CStr)
  | config (value : CStr)
  /-- the values of a channel, each with its unit -/
  | data (type : CStr) (pairs : List (CStr × CStr))
  deriving DecidableEq

namespace CayenneContent

/-- The topic of the message. -/
def topic : CayenneContent → CayenneTopic
  | command .. => .command
  | config _ => .config
  | data .. => .data

/-- Its name in the string. -/
def name : CayenneContent → CStr
  | command .. => lit "cmd"
  | config _ => lit "conf"
  | data .. => lit "data"

/-- The payload: `id,value`, the value alone, or `type,units=values`. -/
def payload : CayenneContent → CStr
  | command id value => id ++ lit "," ++ value
  | config value => value
  | data type pairs => payloadText (some type) (valuePairs pairs)

/-- What the handlers should get. -/
def message : CayenneContent → PayloadMessage
  | command id value => ⟨none, some id, [⟨none, some value⟩]⟩
  | config value => ⟨none, none, [⟨none, some value⟩]⟩
  | data type pairs => ⟨some type, none, valuePairs pairs⟩

/-- The parts can be told apart in the payload. Data is read with `PARSE_INFO_PAYLOADS` only. -/
def WellGiven (parseInfo : Bool) : CayenneContent → Prop
  | command id _ => (44 : UInt8) ∉ id.val
  | config _ => True
  | data type pairs => parseInfo = true ∧ Readable type pairs

theorem length_name_le (c : CayenneContent) : c.name.length ≤ 4 := by
  cases c with
  | command | config | data => exact Nat.le_of_ble_eq_true rfl

end CayenneContent

/-- A message to a device, or to those that listen to one. -/
structure CayenneMessage where
  clientID : CStr
  channel : UInt32
  content : CayenneContent
  deriving DecidableEq

namespace CayenneMessage

/-- The string of the topic: `v1/username/things/clientID/cmd/channel`. -/
def topicName (username : CStr) (m : CayenneMessage) : CStr :=
  topicText username m.clientID (m.content.name ++ channelText m.channel)

/-- What the handlers should get. -/
def data (m : CayenneMessage) : CayenneMessageData :=
  ⟨m.clientID, m.content.topic, m.channel, m.content.message⟩

/-- What the handlers are chosen by. -/
def parsed (m : CayenneMessage) : ParsedMessage := ⟨m.clientID, m.content.topic, m.channel⟩

/-- The parts of the message can be told apart in its strings. -/
structure WellGiven (parseInfo : Bool) (m : CayenneMessage) : Prop where
  numbered : Numbered m.channel
  clientID : (47 : UInt8) ∉ m.clientID.val
  content : m.content.WellGiven parseInfo

/-- A handler gets the message of a subscription that is active, and the default handler gets it
without one. -/
def DeliveredTo (m : CayenneMessage) (active : List Subscription)
    (default : Option CayenneMessageHandler)
    (outcome : Option (Except HandlerFault (Option Arrival))) : Prop :=
  ∃ handlers, handlers.Perm (handlersFor active m.parsed) ∧
    outcome = some (.ok (some ⟨m.data, handlers,
      if handlersFor active m.parsed = [] then default else none⟩))

end CayenneMessage

/-- A packet of the server says nothing to the application, or is a publish packet of any quality
with a message in it. -/
inductive SentPacket.Says (parseInfo : Bool) (username : CStr) (p : SentPacket) :
    Option CayenneMessage → Prop
  | nothing (htype : headerType p.header ≠ publishMsg) : p.Says parseInfo username none
  | message (m : CayenneMessage) (ident : Bytes) (hm : m.WellGiven parseInfo)
      (htype : headerType p.header = publishMsg)
      (hident : ident.length = if 0 < p.header.toNat / 2 % 4 then 2 else 0)
      (hbody : p.body = writeInt (m.topicName username).length ++
        ((m.topicName username).val ++ (ident ++ m.content.payload.val))) :
      p.Says parseInfo username (some m)

/-! ## The array -/

theorem slice_add (buf : Memory) (pos m n : Nat) :
    slice buf pos (m + n) = slice buf pos m ++ slice buf (pos + m) n := by
  induction m generalizing pos with
  | zero => rw [Nat.zero_add]; rfl
  | succ m ih =>
    rw [Nat.succ_add, slice, slice, ih, Nat.succ_add, List.cons_append]
    rfl

theorem slice_of_hasAt {buf : Memory} {pos : Nat} {bs : Bytes} (h : HasAt buf pos bs) :
    slice buf pos bs.length = bs := by
  induction bs generalizing pos with
  | nil => rfl
  | cons b bs ih =>
    rw [List.length_cons, slice, h.1, ih h.2]

/-- What stands in an array, and the bytes behind it. -/
theorem slice_of_hasAt_le {buf : Memory} {pos size : Nat} {bs : Bytes} (h : HasAt buf pos bs)
    (hsize : pos + bs.length < size) :
    ∃ b tail, slice buf pos (size - pos) = bs ++ b :: tail := by
  have hsplit : size - pos = bs.length + (size - pos - bs.length - 1 + 1) := by omega
  rw [hsplit, slice_add, slice_of_hasAt h]
  exact ⟨_, _, rfl⟩

theorem slice_congr {buf buf' : Memory} {pos : Nat} (h : ∀ j, pos ≤ j → buf' j = buf j) (n : Nat) :
    slice buf' pos n = slice buf pos n := by
  induction n generalizing pos with
  | zero => rfl
  | succ n ih =>
    rw [slice, slice, h pos (Nat.le_refl pos), ih fun j hj => h j (Nat.le_of_succ_le hj)]

/-! ## A message in the array -/

namespace CayenneMessage

/-- The entry for data comes behind those for commands and configurations. -/
theorem find_parseTopics_data {x : Bytes} (hne : x ≠ []) (hx : (47 : UInt8) ∉ x) :
    (parseTopics true).find? (·.fits ((lit "data").val ++ 47 :: x)) =
      some ⟨.data, cayenneAllChannels⟩ := by
  have hstring : CayenneTopic.data.string = some (lit "data") := rfl
  have hfits := (fits_allChannels hstring ((lit "data").val ++ 47 :: x)).2 ⟨x, rfl, hne, hx⟩
  have hcommand : ¬ TopicChannel.fits ((lit "data").val ++ 47 :: x)
      ⟨.command, cayenneAllChannels⟩ = true := by
    rw [fits_allChannels (show CayenneTopic.command.string = some (lit "cmd") from rfl)]
    rintro ⟨y, heq, -⟩
    cases heq
  have hconfig : ¬ TopicChannel.fits ((lit "data").val ++ 47 :: x)
      ⟨.config, cayenneAllChannels⟩ = true := by
    rw [fits_allChannels (show CayenneTopic.config.string = some (lit "conf") from rfl)]
    rintro ⟨y, heq, -⟩
    cases heq
  rw [parseTopics, List.cons_append, List.find?_cons_of_neg hcommand, List.cons_append,
    List.find?_cons_of_neg hconfig, List.nil_append, if_pos rfl]
  exact List.find?_cons_of_pos hfits

/-- The entry of the table that fits the topic. -/
theorem find_parseTopics {parseInfo : Bool} {m : CayenneMessage} (hm : m.WellGiven parseInfo)
    {x : Bytes} (hne : x ≠ []) (hx : (47 : UInt8) ∉ x) :
    (parseTopics parseInfo).find? (·.fits (m.content.name.val ++ 47 :: x)) =
      some ⟨m.content.topic, cayenneAllChannels⟩ := by
  have hcontent := hm.content
  cases hcase : m.content with
  | command id value => exact Esp32Iot.find_parseTopics (.inl rfl) rfl parseInfo hne hx
  | config value => exact Esp32Iot.find_parseTopics (.inr rfl) rfl parseInfo hne hx
  | data type pairs =>
    rw [hcase] at hcontent
    obtain ⟨rfl, -⟩ := hcontent
    exact find_parseTopics_data hne hx

section
variable {m : CayenneMessage} {parseInfo : Bool} (hm : m.WellGiven parseInfo)
include hm

/-- What stands behind the client ID is read as the topic and the channel. -/
theorem parseName_topicName :
    parseName (parseTopics parseInfo)
      (m.content.name.val ++ 47 :: (CStr.ofNat m.channel.toNat).val) =
        (none, m.content.topic, m.channel) := by
  have hten := CStr.length_ofNat_uint32 m.channel
  have hslash := slash_notMem_ofNat m.channel.toNat
  have hfour := m.content.length_name_le
  rw [parseName_channel hslash (CStr.nulFree _) (find_parseTopics hm (CStr.ofNat_ne_nil _) hslash),
    if_pos, channelNumber_ofNat]
  rw [CStr.length] at hten
  omega

/-- The topic is parsed into its parts, whatever stands behind it. -/
theorem parseReceived_topicName {username : CStr}
    (hshort : (m.topicName username).length ≤ cayenneMaxMessageSize) (rest : Bytes) :
    ∃ after, parseReceived (parseTopics parseInfo) username (m.topicName username).val rest =
        some ⟨none, some m.content.topic, some m.channel, some (11 + username.length),
          topicHead username 47 ++ (m.clientID.val ++ 0 :: after) ++ rest⟩ ∧
      (m.topicName username).length =
        (topicHead username 47 ++ (m.clientID.val ++ 0 :: after)).length := by
  have htext : (m.topicName username).val = topicHead username 47 ++ (m.clientID.val ++
      47 :: (m.content.name.val ++ 47 :: (CStr.ofNat m.channel.toNat).val)) := by
    rw [topicName, topicText_val, CStr.append_val, channelText_numbered hm.numbered]
  have hparsed := parseReceived_of_found (parseTopics parseInfo) hshort
    (clear_of_not_mem hm.clientID) htext rest
  rw [parseName_topicName hm] at hparsed
  refine ⟨_, hparsed, ?_⟩
  rw [CStr.length, htext]
  simp only [List.length_append, List.length_cons]

end

/-- A configuration is its value. -/
theorem parseConfig_gives (parseInfo : Bool) (value : CStr) :
    (cayenneParsePayload parseInfo cayenneMaxMessageValues .config value).Gives
      ⟨none, none, [⟨none, some value⟩]⟩ := by
  have hread : CStr.ofBytes (value.val ++ [0]) = value := by
    rw [CStr.ofBytes_append_nul, CStr.ofBytes_val]
  have hparsed : cayenneParsePayload parseInfo cayenneMaxMessageValues .config value =
      ⟨none, ⟨none, some 0⟩ :: noPairs 3, 1, none, none, value.val ++ [0]⟩ := by
    cases parseInfo <;> rfl
  rw [hparsed]
  constructor
  · rfl
  · rfl
  · simp [ParsedPayload.message, ParsedPayload.string, hread]

/-- The values of a channel are what they were. -/
theorem parsePairs_gives {type : CStr} {pairs : List (CStr × CStr)} (h : Readable type pairs) :
    (cayenneParsePayload true cayenneMaxMessageValues .data
      (payloadText (some type) (valuePairs pairs))).Gives ⟨some type, none, valuePairs pairs⟩ := by
  obtain ⟨hnamed, hgiven, hfew, htype, hclear⟩ := h
  obtain ⟨pair, pairs, rfl⟩ := List.exists_cons_of_ne_nil hgiven
  have hunits : ∀ f ∈ ((pair :: pairs).map Prod.fst).map CStr.val, Scan.Clear 44 61 f := by
    rw [List.map_map, List.forall_mem_map]
    exact fun p hp => (hclear p hp).1
  have hvalues : ∀ f ∈ ((pair :: pairs).map Prod.snd).map CStr.val, Scan.Clear 44 61 f := by
    rw [List.map_map, List.forall_mem_map]
    exact fun p hp => (hclear p hp).2
  have hzip : List.zipWith (fun u v => (⟨some u, some v⟩ : CayenneValuePair))
      ((pair :: pairs).map Prod.fst) ((pair :: pairs).map Prod.snd) =
      valuePairs (pair :: pairs) := by
    rw [List.zipWith_map, List.zipWith_self]
    rfl
  have hgives := parseData_gives (payloadText_valuePairs hnamed pair pairs) (by simp) htype hunits
    hvalues (by simpa using hfew)
  rw [← List.map_cons, hzip] at hgives
  exact hgives

/-- The payload is split into what it was put together from. -/
theorem parsePayload_gives {m : CayenneMessage} {parseInfo : Bool} (hm : m.WellGiven parseInfo) :
    (cayenneParsePayload parseInfo cayenneMaxMessageValues m.content.topic m.content.payload).Gives
      m.content.message := by
  have hcontent := hm.content
  cases hcase : m.content with
  | command id value =>
    rw [hcase] at hcontent
    exact parseCommand_gives parseInfo (by decide) hcontent value
  | config value => exact parseConfig_gives parseInfo value
  | data type pairs =>
    rw [hcase] at hcontent
    obtain ⟨rfl, hreadable⟩ := hcontent
    exact parsePairs_gives hreadable

end CayenneMessage

/-- The parts of a message that stand one behind the other. -/
structure MessageAt (buf : Memory) (md : PublishFields) (topicName : CStr) (ident : Bytes)
    (payload : CStr) : Prop where
  len : md.topicName.len = topicName.length
  start : md.payload = md.topicName.data + topicName.length + ident.length
  payloadlen : md.payloadlen = payload.length
  bytes : HasAt buf md.topicName.data (topicName.val ++ (ident ++ payload.val))
  inside : md.payload + payload.length ≤ cayenneMaxMessageSize

/-- A terminator behind some bytes. -/
theorem set_behind (before : Bytes) (b : UInt8) (after : Bytes) :
    (before ++ b :: after).set before.length 0 = before ++ 0 :: after := by
  rw [List.set_append_right _ _ (Nat.le_refl _), Nat.sub_self]
  rfl

/-- **A message in the array** is read as it was meant: no part of it is overwritten before it is
read, and the terminator has its place. -/
theorem mqttMessageArrived_messageAt {client : SubscribingClient} {readbuf : Memory}
    {md : PublishFields} {m : CayenneMessage} {parseInfo : Bool} (hm : m.WellGiven parseInfo)
    {ident : Bytes}
    (h : MessageAt readbuf md (m.topicName client.username) ident m.content.payload) :
    client.mqttMessageArrived parseInfo readbuf md =
      some ((client.messageArrived m.parsed).map fun (handlers, default) =>
        some ⟨m.data, handlers, default⟩) := by
  have hmax : cayenneMaxMessageSize = 134 := rfl
  obtain ⟨hlen, hstart, hpayloadlen, hbytes, hinside⟩ := h
  have hshort : (m.topicName client.username).length ≤ cayenneMaxMessageSize := by omega
  have hwhole : ((m.topicName client.username).val ++ (ident ++ m.content.payload.val)).length =
      (m.topicName client.username).length + (ident.length + m.content.payload.length) := by
    rw [List.length_append, List.length_append]
    rfl
  obtain ⟨b, tail, hmemory⟩ := slice_of_hasAt_le hbytes
    (show _ < readbufSize by rw [hwhole, readbufSize]; omega)
  obtain ⟨after, hparsed, hsame⟩ := CayenneMessage.parseReceived_topicName hm hshort
    (ident ++ m.content.payload.val ++ b :: tail)
  have hgives := CayenneMessage.parsePayload_gives hm
  generalize hhead : topicHead client.username 47 ++ (m.clientID.val ++ 0 :: after) = head at *
  -- the indices, from the topic on
  have hindex : md.payload - md.topicName.data = (head ++ ident).length := by
    rw [List.length_append]
    omega
  have hend : (md.payload + md.payloadlen - md.topicName.data : Int).toNat =
      (head ++ ident ++ m.content.payload.val).length := by
    have hval : m.content.payload.val.length = m.content.payload.length := rfl
    rw [List.length_append, List.length_append]
    omega
  have hparse : cayenneParseTopic (parseTopics parseInfo) client.username
      (slice readbuf md.topicName.data (readbufSize - md.topicName.data))
      (UInt32.ofNat md.topicName.len) =
        some ⟨none, some m.content.topic, some m.channel, some (11 + client.username.length),
          head ++ ident ++ m.content.payload.val ++ b :: tail⟩ := by
    rw [hmemory, hlen, List.append_assoc]
    rw [parseReceived] at hparsed
    simpa only [List.append_assoc, CStr.length] using hparsed
  have hroom : ¬ (slice readbuf md.topicName.data (readbufSize - md.topicName.data)).length ≤
      (head ++ ident ++ m.content.payload.val).length := by
    rw [hmemory]
    simp only [List.length_append, List.length_cons, ← hsame, CStr.length]
    omega
  have hdrop : (head ++ ident ++ m.content.payload.val ++ 0 :: tail).drop (head ++ ident).length =
      m.content.payload.val ++ 0 :: tail := by
    rw [List.append_assoc]
    exact List.drop_left
  have htake : (head ++ ident ++ m.content.payload.val ++ 0 :: tail).take (head ++ ident).length =
      head ++ ident := by
    rw [List.append_assoc]
    exact List.take_left
  have hread : CStr.ofBytes (m.content.payload.val ++ 0 :: tail) = m.content.payload := by
    rw [CStr.ofBytes_append_nul, CStr.ofBytes_val]
  have hclient : ∀ more, (ParsedTopic.mk none (some m.content.topic) (some m.channel)
      (some (11 + client.username.length)) (head ++ ident ++ more)).clientIDString =
        some m.clientID := by
    intro more
    rw [← hhead]
    simp only [List.append_assoc, List.cons_append]
    exact clientIDString_found client.username 47 _ (clear_of_not_mem hm.clientID)
  unfold SubscribingClient.mqttMessageArrived
  simp only [hparse, hindex, hend, set_behind, hroom, hdrop, hread, htake, hclient, hgives.code,
    hgives.message, List.mem_append, List.mem_cons, true_or, or_true, not_true_eq_false, ne_eq,
    if_false, Option.bind_eq_bind, Option.bind_some, Option.pure_def]
  rfl

/-! ## A packet -/

/-- In the buffer the packet is no longer than on the line. -/
theorem SentPacket.length_contents_le (p : SentPacket) :
    p.contents.length ≤ cayenneMaxMessageSize := by
  have hfield : (mqttPacketEncode p.body.length).length ≤ p.lengthField.length := by
    rw [length_mqttPacketEncode_le_iff _ p.isField.length_pos, ← p.announces]
    exact fieldValue_lt _
  have hfits := p.fits
  rw [contents, List.length_cons, List.length_append]
  omega

/-- A publish packet with a message is decoded into its parts. -/
theorem deserialize_message {username : CStr} {p : SentPacket} {m : CayenneMessage} {ident : Bytes}
    (htype : headerType p.header = publishMsg)
    (hident : ident.length = if 0 < p.header.toNat / 2 % 4 then 2 else 0)
    (hbody : p.body = writeInt (m.topicName username).length ++
      ((m.topicName username).val ++ (ident ++ m.content.payload.val)))
    {buf : Memory} (hat : HasAt buf 0 p.contents) :
    ∃ md, mqttDeserializePublish buf = (1, some md) ∧
      MessageAt buf md (m.topicName username) ident m.content.payload := by
  have hmax : cayenneMaxMessageSize = 134 := rfl
  have hwhole := p.length_contents_le
  rw [SentPacket.contents, List.length_cons, List.length_append] at hwhole
  have hlen : p.body.length = 2 + ((m.topicName username).length + (ident.length +
      m.content.payload.length)) := by
    rw [hbody]
    simp only [List.length_append, CStr.length, writeInt, List.length_cons, List.length_nil]
  have htopic : topicLength p.body = (m.topicName username).length := by
    rw [hbody]
    exact topicLength_writeInt (by omega) _
  have hfour : (mqttPacketEncode p.body.length).length ≤ 4 :=
    length_mqttPacketEncode_le (show p.body.length < 268435456 by omega)
  have hdecode := mqttDeserializePublish_hasAt (isField_mqttPacketEncode _) hfour
    (fieldValue_mqttPacketEncode _) htype hat
  rw [if_neg (by omega), htopic] at hdecode
  obtain ⟨-, hat⟩ := hat
  obtain ⟨-, hat⟩ := hasAt_append.1 hat
  generalize (mqttPacketEncode p.body.length).length = k at hdecode hat hwhole
  have hindex : (if 0 < p.header.toNat / 2 % 4
      then 1 + k + 2 + (m.topicName username).length + 2
      else 1 + k + 2 + (m.topicName username).length) =
        1 + k + 2 + (m.topicName username).length + ident.length := by
    rw [hident]
    split <;> rfl
  dsimp only at hdecode
  rw [hindex] at hdecode
  rw [hbody, Nat.zero_add] at hat
  refine ⟨_, hdecode, rfl, rfl, ?_, (hasAt_append.1 hat).2, ?_⟩
  · dsimp only
    omega
  · dsimp only
    omega

/-- What the client does with a packet of the server that it has read. -/
theorem handleReport_eq {client : SubscribingClient} {p : SentPacket} {x : Option CayenneMessage}
    {parseInfo : Bool} (hmeans : p.Says parseInfo client.username x) {report : Int × Memory}
    (hreport : Reports report p) :
    client.handleReport parseInfo report =
      some (x.elim (.ok none) fun m => (client.messageArrived m.parsed).map fun called =>
        some ⟨m.data, called.1, called.2⟩) := by
  obtain ⟨htype', hat⟩ := hreport
  cases hmeans with
  | nothing htype =>
    have hne : ¬ report.1 = publishMsg := by
      rw [htype']
      exact fun heq => htype (Int.ofNat.inj heq)
    exact if_neg hne
  | message m ident hm htype hident hbody =>
    obtain ⟨md, hdecode, hparts⟩ := deserialize_message htype hident hbody hat
    have harrived := mqttMessageArrived_messageAt hm hparts
    rw [SubscribingClient.handleReport, if_pos (by rw [htype', htype]),
      SubscribingClient.cyclePublish, hdecode]
    exact harrived

/-! ## Calls and packets in any order -/

/-- The client, and what comes from the server. -/
structure Receiver where
  subscriptions : Subscriptions
  line : ReadLine

/-- What happens next. A call of the application takes effect when it returns; while it waits for
its acknowledgement, it reads packets as any other `cycle` does. -/
inductive ReceiverInput
  /-- a `cycle`, on what the handlers and the calls have left in `readbuf` -/
  | cycle (readbuf : Memory)
  | call (call : SubscriptionCall)

/-- A packet that was read: the subscriptions at that time, and what became of it. -/
abbrev HandledPacket := List Subscription × Option (Except HandlerFault (Option Arrival))

/-- One step. There is none from a call that does not return. -/
def Receiver.step (parseInfo : Bool) (s : Receiver) :
    ReceiverInput → Option (List HandledPacket × Receiver)
  | .cycle readbuf =>
      let read := readPacketCall s.line readbuf
      some (read.1.toList.map fun report =>
          (s.subscriptions.active, s.subscriptions.client.handleReport parseInfo report),
        { s with line := read.2 })
  | .call call =>
      match s.subscriptions.step call with
      | some (.ok _, subscriptions) => some ([], { s with subscriptions := subscriptions })
      | _ => none

/-- A subscription that is made names a client ID and finds a free entry. -/
def Receiver.Accepts (s : Receiver) : ReceiverInput → Prop
  | .cycle _ => True
  | .call call => s.subscriptions.Accepts call

/-- A client after `CayenneMQTTClientInit`. -/
def Receiver.init (username clientID : CStr) (defaultHandler : Option CayenneMessageHandler)
    (line : ReadLine) : Receiver where
  subscriptions := .init username clientID defaultHandler
  line := line

/-- The handlers of a message have got it, and nobody has got anything else. -/
def Delivered (default : Option CayenneMessageHandler) (handled : HandledPacket) :
    Option CayenneMessage → Prop
  | none => handled.2 = some (.ok none)
  | some m => m.DeliveredTo handled.1 default handled.2

/-- No call changes the user or the default handler. -/
theorem SubscribingClient.call_keeps {client client' : SubscribingClient} {call : SubscriptionCall}
    {code : Except CayenneError Int} (h : client.call call = .ok (code, client')) :
    client'.username = client.username ∧
      client'.defaultMessageHandler = client.defaultMessageHandler := by
  cases call with
  | subscribe clientID topic channel handler result =>
    simp only [SubscribingClient.call, SubscribingClient.subscribe] at h
    split at h
    next => cases h
    next => cases h; exact ⟨rfl, rfl⟩
    next =>
      cases h
      split <;> exact ⟨rfl, rfl⟩
  | unsubscribe clientID topic channel result =>
    simp only [SubscribingClient.call, SubscribingClient.unsubscribe] at h
    split at h
    next => cases h
    next => cases h; exact ⟨rfl, rfl⟩
    next =>
      split at h
      next =>
        cases hclear : clearHandlers (clientID.getD client.clientID) topic channel
            client.messageHandlers with
        | error fault => rw [hclear] at h; cases h
        | ok entries => rw [hclear] at h; cases h; exact ⟨rfl, rfl⟩
      next => cases h; exact ⟨rfl, rfl⟩

theorem Subscriptions.step_keeps {s t : Subscriptions} {call : SubscriptionCall}
    {o : Except HandlerFault (Except CayenneError Int)} (h : s.step call = some (o, t)) :
    t.client.username = s.client.username ∧
      t.client.defaultMessageHandler = s.client.defaultMessageHandler := by
  rw [Subscriptions.step] at h
  split at h
  next => cases h; exact ⟨rfl, rfl⟩
  next code client hcall =>
    cases h
    exact SubscribingClient.call_keeps hcall

/-- The packets are at the boundary and none is left when the line is used up. -/
theorem Aligned.eq_nil_of_quiet {packets : List SentPacket} (h : Aligned .quiet packets) :
    packets = [] := by
  generalize hf : Feed.quiet = f at h
  cases h with
  | quiet => rfl
  | ended | pause => cases hf
  | packet p h => cases hf

/-- What holds between two steps: the table holds the active subscriptions, the line is at the
beginning of a packet, and the packets before it have been delivered. -/
structure Receiver.Inv (parseInfo : Bool) (username : CStr) (default : Option CayenneMessageHandler)
    (messages : List (Option CayenneMessage)) (history : List (List HandledPacket))
    (s : Receiver) : Prop where
  reflects : s.subscriptions.Reflects
  sameUser : s.subscriptions.client.username = username
  sameDefault : s.subscriptions.client.defaultMessageHandler = default
  delivered : ∃ done rest packets, messages = done ++ rest ∧
    List.Forall₂ (Delivered default) history.flatten done ∧
    List.Forall₂ (SentPacket.Says parseInfo username) packets rest ∧ Aligned s.line.feed packets

section
variable {parseInfo : Bool} {username : CStr} {default : Option CayenneMessageHandler}
  {s : Receiver}

/-- A packet that is read is delivered to the subscriptions in the table. -/
theorem delivered_handleReport (hreflects : s.subscriptions.Reflects)
    (husername : s.subscriptions.client.username = username)
    (hdefault : s.subscriptions.client.defaultMessageHandler = default)
    {p : SentPacket} {x : Option CayenneMessage} (hmeans : p.Says parseInfo username x)
    {report : Int × Memory} (hreport : Reports report p) :
    Delivered default (s.subscriptions.active,
      s.subscriptions.client.handleReport parseInfo report) x := by
  subst husername hdefault
  have hhandled := handleReport_eq hmeans hreport
  cases x with
  | none => exact hhandled
  | some m =>
    obtain ⟨called, harrived, hperm⟩ := hreflects.exact.served m.parsed
    refine ⟨called, hperm, hhandled.trans ?_⟩
    rw [Option.elim_some, harrived]
    rfl

/-- **One step** keeps it. -/
theorem Receiver.Inv.step {messages : List (Option CayenneMessage)}
    {history : List (List HandledPacket)} {t : Receiver} {input : ReceiverInput}
    {o : List HandledPacket} (h : s.Inv parseInfo username default messages history)
    (hok : s.Accepts input) (hstep : s.step parseInfo input = some (o, t)) :
    t.Inv parseInfo username default messages (history ++ [o]) := by
  obtain ⟨hreflects, huser, hdefault, done, rest, packets, rfl, hdone, hrest, haligned⟩ := h
  cases input with
  | call call =>
    rw [Receiver.step] at hstep
    split at hstep
    next code subscriptions hcall =>
      cases hstep
      obtain ⟨huser', hdefault'⟩ := Subscriptions.step_keeps hcall
      refine ⟨hreflects.step hok hcall, huser'.trans huser, hdefault'.trans hdefault, done, rest,
        packets, rfl, ?_, hrest, haligned⟩
      simpa using hdone
    next => cases hstep
  | cycle readbuf =>
    cases hstep
    obtain ⟨read, later, rfl, hread, hlater⟩ := readPacketCall_aligned haligned readbuf
    cases hreport : (readPacketCall s.line readbuf).1 with
    | none =>
      rw [hreport] at hread
      cases hread
      refine ⟨hreflects, huser, hdefault, done, rest, later, rfl, ?_, hrest, hlater⟩
      simpa using hdone
    | some report =>
      rw [hreport] at hread
      obtain ⟨p, hshows, rfl⟩ : ∃ p, Reports report p ∧ read = [p] := by
        cases hread with
        | cons hshows hnil => cases hnil; exact ⟨_, hshows, rfl⟩
      obtain ⟨x, rest, hmeans, hlaterSays, rfl⟩ := List.forall₂_cons_left_iff.1 hrest
      have hdelivered := delivered_handleReport hreflects huser hdefault hmeans hshows
      refine ⟨hreflects, huser, hdefault, done ++ [x], rest, later, by simp, ?_,
        hlaterSays, hlater⟩
      rw [List.flatten_append]
      exact List.rel_append hdone (.cons hdelivered .nil)

/-- A run from the beginning keeps it. -/
theorem Receiver.inv_of_run {clientID : CStr} {l : ReadLine} {packets : List SentPacket}
    {messages : List (Option CayenneMessage)}
    (hmeans : List.Forall₂ (SentPacket.Says parseInfo username) packets messages)
    (hseg : Segmented l.incoming (wires packets)) (htime : TimeoutsBetween l.incoming packets)
    {inputs : List ReceiverInput} {history : List (List HandledPacket)}
    (hok : Runs.Along (Receiver.step parseInfo) Receiver.Accepts
      (.init username clientID default l) inputs)
    (hrun : Runs.exec (Receiver.step parseInfo) (.init username clientID default l) inputs =
      some (history, s)) : s.Inv parseInfo username default messages history := by
  have hstart : (Receiver.init username clientID default l).Inv parseInfo username default messages
      [] := by
    refine ⟨Subscriptions.reflects_init username clientID default, rfl, rfl, [], messages, packets,
      rfl, .nil, hmeans, ?_⟩
    show Aligned l.feed packets
    rw [ReadLine.feed]
    split
    · exact aligned_of_timeoutsBetween hseg htime l.errno
    · exact .ended [] packets
  exact Runs.exec_history (fun _ _ _ _ _ h hok hstep => h.step hok hstep) hstart hok hrun

/-- What has been delivered, and that nothing is left at the end. -/
theorem Receiver.Inv.done {messages : List (Option CayenneMessage)}
    {history : List (List HandledPacket)} (h : s.Inv parseInfo username default messages history) :
    ∃ done rest, messages = done ++ rest ∧
      List.Forall₂ (Delivered default) history.flatten done ∧
      (s.line.feed = .quiet → rest = []) := by
  obtain ⟨done, rest, left, hmessages, hdone, hrest, haligned⟩ := h.delivered
  refine ⟨done, rest, hmessages, hdone, ?_⟩
  intro hquiet
  rw [hquiet] at haligned
  rw [haligned.eq_nil_of_quiet] at hrest
  exact List.forall₂_nil_left_iff.1 hrest

/-- **Messages are delivered in order**, to the subscriptions that are active when they are read:
whatever the segments they come in, as long as no timeout falls inside a packet, and whatever the
application subscribes to and takes back in between, with a client ID and a free entry. None is
left out before the last one that was read, none is delivered twice, and when the line is used up
all have been delivered. -/
theorem delivered_in_order {clientID : CStr} {l : ReadLine}
    {packets : List SentPacket} {messages : List (Option CayenneMessage)}
    (hmeans : List.Forall₂ (SentPacket.Says parseInfo username) packets messages)
    (hseg : Segmented l.incoming (wires packets)) (htime : TimeoutsBetween l.incoming packets)
    {inputs : List ReceiverInput} {history : List (List HandledPacket)}
    (hok : Runs.Along (Receiver.step parseInfo) Receiver.Accepts
      (.init username clientID default l) inputs)
    (hrun : Runs.exec (Receiver.step parseInfo) (.init username clientID default l) inputs =
      some (history, s)) :
    ∃ done rest, messages = done ++ rest ∧
      List.Forall₂ (Delivered default) history.flatten done ∧
      (s.line.feed = .quiet → rest = []) :=
  (Receiver.inv_of_run hmeans hseg htime hok hrun).done

end

/-- A command for channel 5. -/
def lampOn : CayenneMessage := ⟨lit "c", 5, .command (lit "x3") (lit "1")⟩

/-- Its packet, with quality 1 and the packet id 9. -/
def lampOnPacket : SentPacket where
  header := 0x32
  lengthField := [27]
  body := [0, 19] ++ (bytes "v1/u/things/c/cmd/5" ++ ([0, 9] ++ bytes "x3,1"))
  isField := .last (by decide)
  atMostFour := by decide
  announces := by decide
  fits := by decide

/-- The packet in two segments, and an answer to a ping after a timeout. -/
def lampLine : ReadLine where
  connected := true
  errno := .clear
  incoming :=
    [.arrived (lampOnPacket.wire.take 9), .arrived (lampOnPacket.wire.drop 9), .failed .eagain,
      .arrived pingresp.wire]

/-- A subscription to all commands, and three calls of `cycle`. -/
def lampInputs : List ReceiverInput :=
  [.call (.subscribe (some (lit "c")) .command cayenneAllChannels 7 0), .cycle fun _ => 0,
    .cycle fun _ => 0, .cycle fun _ => 0]

theorem lampOnPacket_means : lampOnPacket.Says false (lit "u") (some lampOn) := by
  have hclear : (44 : UInt8) ∉ (lit "x3").val := by decide
  exact .message lampOn [0, 9] ⟨⟨by decide, by decide⟩, by decide, hclear⟩ (by decide) (by decide)
    (by decide +kernel)

/-- The handler is called with the command, and nobody with the answer to the ping. -/
theorem delivered_lampOn :
    ∃ s history, Runs.exec (Receiver.step false)
        (.init (lit "u") (lit "c") none lampLine) lampInputs = some (history, s) ∧
      history.flatten.map Prod.snd =
        [some (.ok (some ⟨lampOn.data, [7], none⟩)), some (.ok none)] ∧
      ∃ done rest, [some lampOn, none] = done ++ rest ∧
        List.Forall₂ (Delivered none) history.flatten done ∧
        (s.line.feed = .quiet → rest = []) := by
  have hmeans : List.Forall₂ (SentPacket.Says false (lit "u")) [lampOnPacket, pingresp]
      [some lampOn, none] :=
    .cons lampOnPacket_means (.cons (.nothing (by decide)) .nil)
  have hseg : Segmented lampLine.incoming (wires [lampOnPacket, pingresp]) := ⟨by decide, rfl⟩
  have htime : TimeoutsBetween lampLine.incoming [lampOnPacket, pingresp] := by
    intro before after h
    rcases before with _ | ⟨a, _ | ⟨b, _ | ⟨c, _ | ⟨d, before⟩⟩⟩⟩ <;> simp [lampLine] at h
    obtain ⟨rfl, rfl, -⟩ := h
    exact ⟨1, rfl⟩
  have hok : Runs.Along (Receiver.step false) Receiver.Accepts
      (.init (lit "u") (lit "c") none lampLine) lampInputs := by
    refine ⟨fun _ _ => ⟨by simp, _, .head _, rfl⟩, fun o t _ => ?_⟩
    exact ⟨trivial, fun _ _ _ => ⟨trivial, fun _ _ _ => ⟨trivial, fun _ _ _ => trivial⟩⟩⟩
  have hevents : (Runs.exec (Receiver.step false) (.init (lit "u") (lit "c") none lampLine)
      lampInputs).map (fun run => run.1.flatten.map Prod.snd) =
        some [some (.ok (some ⟨lampOn.data, [7], none⟩)), some (.ok none)] := by decide +kernel
  obtain ⟨⟨history, s⟩, hrun, hhistory⟩ := Option.map_eq_some_iff.1 hevents
  exact ⟨s, history, hrun, hhistory, delivered_in_order hmeans hseg htime hok hrun⟩

end Esp32Iot
