import Esp32Iot.Mqtt.Decode
import Esp32Iot.Mqtt.Publish
import Esp32Iot.Network.Read

/-!
# Receiving a packet

`decodePacket` and `readPacket` of `MQTTClient.c` over `esp32_read`, and the part of `cycle` that
hands a publish packet on: `MQTTDeserialize_publish` and the NUL that `MQTTMessageArrived` writes
behind the payload. Every write to `readbuf` is recorded (`BufWrite`), wherever it goes; the
announced length is not compared with any size.

`writes_inside_iff` says for which input all writes stay inside the array: when what arrives of the
announced packet fits, and the packet is not one of the malformed publish packets that `cycle`
takes for decoded. `longPublish_overruns` is a packet with a body of 134 bytes.
-/

namespace Esp32Iot

/-! ## `readPacket` -/

/-- An `mqttread` of one byte. -/
def mqttreadChar (l : ReadLine) : Option UInt8 × ReadLine :=
  let read := esp32Read 1 l
  (if read.code = 1 then read.written.head? else none, read.line)

/-- `decodePacket`. -/
def decodePacket (l : ReadLine) : Decoded ReadLine := mqttPacketDecode mqttreadChar l

/-- `header.bits.type`. -/
def headerType (header : UInt8) : Nat := header.toNat / 16

/-- The result of a `readPacket`: its return value, its writes to `readbuf` and the line after it.
-/
structure PacketRead where
  code : Int
  writes : List BufWrite
  line : ReadLine
  deriving DecidableEq

/-- `readPacket`. The return value of `decodePacket` is not looked at. -/
def readPacket (readbuf : Memory) (l : ReadLine) : PacketRead :=
  let header := esp32Read 1 l
  if header.code ≠ 1 then ⟨mqttFailure, [⟨0, header.written⟩], header.line⟩
  else
    let remLen := decodePacket header.line
    let lengthField := mqttPacketEncode remLen.value
    let len := 1 + lengthField.length
    let writes := [⟨0, header.written⟩, ⟨1, lengthField⟩]
    if 0 < remLen.value then
      let body := esp32Read remLen.value remLen.rest
      let writes := writes ++ [⟨len, body.written⟩]
      if body.code ≠ remLen.value then ⟨mqttFailure, writes, body.line⟩
      else ⟨headerType (applyWrites readbuf writes 0), writes, body.line⟩
    else ⟨headerType (applyWrites readbuf writes 0), writes, remLen.rest⟩

/-! ### Over the bytes of the line -/

/-- One byte of the line. -/
theorem mqttreadChar_feed (l : ReadLine) :
    l.feed.next = ((mqttreadChar l).1, (mqttreadChar l).2.feed) := by
  have hcode : (esp32Read 1 l).code = 1 ↔ (l.feed.read 1).count = some 1 := by
    rw [Feed.count_read_eq_iff]
    exact esp32Read_code_eq_iff 1 l
  rw [← Feed.read_one, mqttreadChar, ← esp32Read_line_feed]
  simp only [hcode, esp32Read_written, Feed.items_read]

/-- The length field as it comes: its bytes and the line after them. -/
def lengthField (f : Feed UInt8) : Bytes × Feed UInt8 := readField Feed.next 4 f

/-- `decodePacket` yields what the bytes of the length field that come stand for. -/
theorem decodePacket_feed (l : ReadLine) :
    (decodePacket l).value = fieldValue (lengthField l.feed).1 ∧
      (decodePacket l).rest.feed = (lengthField l.feed).2 := by
  have hview := decodeLoop_map mqttreadChar_feed 4 1 0 l
  obtain ⟨hvalue, hrest⟩ := decodeLoop_readField Feed.next 4 1 0 l.feed
  rw [hview] at hvalue hrest
  rw [Nat.zero_add, Nat.one_mul] at hvalue
  exact ⟨hvalue, hrest⟩

/-- The announced length is below `128 ^ 4`. -/
theorem fieldValue_lengthField_lt (f : Feed UInt8) : fieldValue (lengthField f).1 < 128 ^ 4 :=
  Nat.lt_of_lt_of_le (fieldValue_lt _)
    (Nat.pow_le_pow_right (by decide) (length_readField_le Feed.next 4 f))

/-- A packet as the line announces it: the header byte, the announced length and what comes then. -/
structure Announced where
  header : UInt8
  length : Nat
  body : Feed UInt8
  deriving DecidableEq

/-- The packet that a line begins with. -/
def announced : Feed UInt8 → Option Announced
  | .item header f => some ⟨header, fieldValue (lengthField f).1, (lengthField f).2⟩
  | .quiet | .pause _ | .ended _ => none

theorem announced_eq_some {f : Feed UInt8} {p : Announced} (h : announced f = some p) :
    ∃ header g, f = .item header g ∧
      p = ⟨header, fieldValue (lengthField g).1, (lengthField g).2⟩ := by
  cases f with
  | item header g => cases h; exact ⟨header, g, rfl, rfl⟩
  | quiet | pause g | ended tail => cases h

/-- The packet that a line announces has a length of at most four digits. -/
theorem announced_length_lt {f : Feed UInt8} {p : Announced} (h : announced f = some p) :
    p.length < 128 ^ 4 := by
  obtain ⟨header, g, -, rfl⟩ := announced_eq_some h
  exact fieldValue_lengthField_lt g

namespace Announced

/-- The index that the body is written to. -/
def bodyIndex (p : Announced) : Nat := 1 + (mqttPacketEncode p.length).length

/-- The writes to `readbuf`. -/
def writes (p : Announced) : List BufWrite :=
  [⟨0, [p.header]⟩, ⟨1, mqttPacketEncode p.length⟩] ++
    if 0 < p.length then [⟨p.bodyIndex, p.body.arriving.take p.length⟩] else []

/-- The body comes as a whole. -/
def Complete (p : Announced) : Prop := p.length ≤ p.body.front.length

instance (p : Announced) : Decidable p.Complete :=
  inferInstanceAs (Decidable (p.length ≤ p.body.front.length))

/-- The writes put the packet together, one part behind the other. -/
theorem hasAt_writes (p : Announced) (readbuf : Memory) :
    HasAt (applyWrites readbuf p.writes) 0
      (p.header :: (mqttPacketEncode p.length ++ p.body.arriving.take p.length)) := by
  have hheader := hasAt_apply readbuf 0 [p.header]
  have hfield := hasAt_apply (BufWrite.apply ⟨0, [p.header]⟩ readbuf) 1 (mqttPacketEncode p.length)
  have hheader' := hheader.apply (w := ⟨1, mqttPacketEncode p.length⟩) (Nat.le_refl _)
  unfold writes
  split
  next hpos =>
    have hbody := hasAt_apply (BufWrite.apply ⟨1, mqttPacketEncode p.length⟩
      (BufWrite.apply ⟨0, [p.header]⟩ readbuf)) p.bodyIndex (p.body.arriving.take p.length)
    exact ⟨(hheader'.apply (Nat.le_add_right 1 _)).1,
      hasAt_append.2 ⟨hfield.apply (Nat.le_refl _), hbody⟩⟩
  next hzero =>
    rw [Nat.eq_zero_of_not_pos hzero, List.take_zero, List.append_nil]
    rw [Nat.eq_zero_of_not_pos hzero] at hheader' hfield
    exact ⟨hheader'.1, hfield⟩

end Announced

/-- Without a header byte nothing else is read. -/
theorem readPacket_of_none (readbuf : Memory) {l : ReadLine} (h : announced l.feed = none) :
    (readPacket readbuf l).code = mqttFailure ∧
      (readPacket readbuf l).writes = [⟨0, l.feed.arriving.take 1⟩] ∧
      (readPacket readbuf l).line.feed = l.feed.next.2 := by
  have hfront : ¬ 1 ≤ l.feed.front.length := by
    cases hf : l.feed with
    | item header f => rw [hf] at h; cases h
    | quiet | pause f | ended tail => exact Nat.not_succ_le_zero 0
  have hcode : (esp32Read 1 l).code ≠ 1 := mt (esp32Read_code_eq_iff 1 l).1 hfront
  rw [readPacket, if_pos hcode]
  refine ⟨rfl, ?_, ?_⟩
  · simp only [esp32Read_written]
  · simp only [esp32Read_line_feed, ← Feed.read_one]

/-- The first part of a packet: a header byte that comes is read. -/
theorem esp32Read_header {l : ReadLine} {header : UInt8} {f : Feed UInt8}
    (h : l.feed = .item header f) :
    (esp32Read 1 l).code = 1 ∧ (esp32Read 1 l).written = [header] ∧
      (esp32Read 1 l).line.feed = f := by
  refine ⟨(esp32Read_code_eq_iff 1 l).2 ?_, ?_, ?_⟩
  · rw [h]
    exact Nat.le_add_left 1 _
  · rw [esp32Read_written, h]
    rfl
  · rw [esp32Read_line_feed, h]
    rfl

/-- **The packet reader**: the announced packet is written as far as it comes, and its type is
returned when it comes as a whole. -/
theorem readPacket_announced (readbuf : Memory) {l : ReadLine} {p : Announced}
    (h : announced l.feed = some p) :
    (readPacket readbuf l).code =
        (if p.Complete then (headerType p.header : Int) else mqttFailure) ∧
      (readPacket readbuf l).writes = p.writes ∧
      (readPacket readbuf l).line.feed = (p.body.read p.length).rest := by
  obtain ⟨header, f, hfeed, hp⟩ := announced_eq_some h
  obtain ⟨hcode, hwritten, hline⟩ := esp32Read_header hfeed
  -- the remaining length
  obtain ⟨hvalue, hrest⟩ := decodePacket_feed (esp32Read 1 l).line
  rw [hline] at hvalue hrest
  have hvalue' : (decodePacket (esp32Read 1 l).line).value = p.length := by rw [hvalue, hp]
  have hrest' : (decodePacket (esp32Read 1 l).line).rest.feed = p.body := by rw [hrest, hp]
  -- the body
  have hbody := esp32Read_code_eq_iff p.length (decodePacket (esp32Read 1 l).line).rest
  have hwritten' := esp32Read_written p.length (decodePacket (esp32Read 1 l).line).rest
  have hline' := esp32Read_line_feed p.length (decodePacket (esp32Read 1 l).line).rest
  rw [hrest'] at hbody hwritten' hline'
  have htype : applyWrites readbuf p.writes 0 = p.header := (p.hasAt_writes readbuf).1
  have hheader : header = p.header := by rw [hp]
  unfold readPacket
  simp only [hcode, ne_eq, not_true_eq_false, if_false, hwritten, hvalue', hwritten', hbody,
    hheader]
  split
  next hpos =>
    have hwrites : [⟨0, [p.header]⟩, ⟨1, mqttPacketEncode p.length⟩] ++
        [⟨1 + (mqttPacketEncode p.length).length, p.body.arriving.take p.length⟩] = p.writes := by
      rw [Announced.writes, if_pos hpos]
      rfl
    rw [hwrites, htype]
    split
    next hshort => exact ⟨(if_neg hshort).symm, rfl, hline'⟩
    next hfull =>
      rw [Decidable.not_not] at hfull
      exact ⟨(if_pos hfull).symm, rfl, hline'⟩
  next hzero =>
    have hlength : p.length = 0 := Nat.eq_zero_of_not_pos hzero
    have hwrites : [⟨0, [p.header]⟩, ⟨1, mqttPacketEncode p.length⟩] = p.writes := by
      rw [Announced.writes, if_neg hzero, List.append_nil]
    have hcomplete : p.Complete := by rw [Announced.Complete, hlength]; exact Nat.zero_le _
    rw [hwrites, htype, if_pos hcomplete, hlength, Feed.read_zero]
    exact ⟨rfl, rfl, hrest'⟩

/-! ## A publish packet -/

/-- `readInt`. -/
def readInt (buf : Memory) (pos : Nat) : Nat := 256 * (buf pos).toNat + (buf (pos + 1)).toNat

/-- A `lenstring` that points into the buffer. -/
structure LenString where
  data : Nat
  len : Nat
  deriving DecidableEq

/-- `readMQTTLenString`: the string and the index behind it, if it ends before `enddata`. -/
def readMqttLenString (buf : Memory) (curdata enddata : Nat) : Option (LenString × Nat) :=
  if curdata + 1 < enddata then
    let len := readInt buf curdata
    if curdata + 2 + len ≤ enddata then some (⟨curdata + 2, len⟩, curdata + 2 + len) else none
  else none

/-- What `MQTTDeserialize_publish` returns through its arguments. -/
structure PublishFields where
  dup : Bool
  qos : Nat
  retained : Bool
  /-- set for a quality above 0 only -/
  packetid : Option Nat
  topicName : LenString
  /-- the index that `payload` points to -/
  payload : Nat
  payloadlen : Int
  deriving DecidableEq

/-- `MQTTDeserialize_publish`: its return value, and its outputs when all of them are set. -/
def mqttDeserializePublish (buf : Memory) : Nat × Option PublishFields :=
  let header := buf 0
  if headerType header ≠ publishMsg then (0, none)
  else
    let mylen := mqttPacketDecodeBuf buf 1
    let enddata := 1 + mylen.len + mylen.value
    match readMqttLenString buf (1 + mylen.len) enddata with
    -- the return value is the number of bytes of the length field
    | none => (mylen.len, none)
    | some (topicName, curdata) =>
        if enddata < curdata then (mylen.len, none)
        else
          let qos := header.toNat / 2 % 4
          -- the packet id is read without a check, so the length of the payload can be negative
          let payload := if 0 < qos then curdata + 2 else curdata
          (1, some
            { dup := header.toNat / 8 % 2 = 1
              qos := qos
              retained := header.toNat % 2 = 1
              packetid := if 0 < qos then some (readInt buf curdata) else none
              topicName := topicName
              payload := payload
              payloadlen := enddata - payload })

/-- The index of the NUL that `MQTTMessageArrived` stores behind the payload. -/
def mqttMessageArrived (parseTopic : Memory → LenString → Bool) (readbuf : Memory)
    (msg : PublishFields) : Option Int :=
  if parseTopic readbuf msg.topicName then some (msg.payload + msg.payloadlen) else none

/-- The branch of `cycle` for a publish packet, up to that NUL. The locals that were not set are
handed on when the return value is 1, and then the NUL goes wherever they point (`unset`), or
nowhere when the topic they give is not one of Cayenne. -/
def cyclePublish (parseTopic : Memory → LenString → Bool) (unset : Option Int)
    (readbuf : Memory) : Option Int :=
  match mqttDeserializePublish readbuf with
  | (1, some msg) => mqttMessageArrived parseTopic readbuf msg
  | (1, none) => unset
  | _ => none

/-- The index of the NUL that is stored in one `cycle`. -/
def cycleTerminator (parseTopic : Memory → LenString → Bool) (unset : Option Int)
    (readbuf : Memory) (l : ReadLine) : Option Int :=
  let packet := readPacket readbuf l
  if packet.code = publishMsg then
    cyclePublish parseTopic unset (applyWrites readbuf packet.writes)
  else none

/-! ### Where the payload ends -/

/-- The length of the topic that a publish packet with this body begins with. -/
def topicLength : Bytes → Nat
  | hi :: lo :: _ => 256 * hi.toNat + lo.toNat
  | _ => 0

/-- The topic of a publish packet is read from its body when it fits there. -/
theorem readMqttLenString_body {buf : Memory} {pos : Nat} {body : Bytes}
    (h : HasAt buf pos body) :
    readMqttLenString buf pos (pos + body.length) =
      if body.length < 2 + topicLength body then none
      else some (⟨pos + 2, topicLength body⟩, pos + 2 + topicLength body) := by
  cases body with
  | nil => rw [readMqttLenString, if_neg (by simp), if_pos (by simp [topicLength])]
  | cons hi body =>
    cases body with
    | nil => rw [readMqttLenString, if_neg (by simp), if_pos (by simp [topicLength])]
    | cons lo body =>
      have hint : readInt buf pos = topicLength (hi :: lo :: body) := by
        rw [readInt, h.1, h.2.1]; rfl
      have htwo : pos + 1 < pos + (hi :: lo :: body).length := by
        simp only [List.length_cons]; omega
      rw [readMqttLenString, if_pos htwo, hint]
      generalize (hi :: lo :: body).length = n, topicLength (hi :: lo :: body) = t
      split
      next hfits => rw [if_neg (by omega)]
      next hlong => rw [if_pos (by omega)]

/-- **Decoding a publish packet** that stands in the buffer, with any complete length field. -/
theorem mqttDeserializePublish_hasAt {buf : Memory} {header : UInt8} {field body : Bytes}
    (hfield : IsField field) (hfour : field.length ≤ 4) (hvalue : fieldValue field = body.length)
    (htype : headerType header = publishMsg) (h : HasAt buf 0 (header :: (field ++ body))) :
    mqttDeserializePublish buf =
      if body.length < 2 + topicLength body then (field.length, none)
      else
        let curdata := 1 + field.length + 2 + topicLength body
        let qos := header.toNat / 2 % 4
        let payload := if 0 < qos then curdata + 2 else curdata
        (1, some
          { dup := header.toNat / 8 % 2 = 1
            qos := qos
            retained := header.toNat % 2 = 1
            packetid := if 0 < qos then some (readInt buf curdata) else none
            topicName := ⟨1 + field.length + 2, topicLength body⟩
            payload := payload
            payloadlen := (1 + field.length + body.length : Nat) - payload }) := by
  obtain ⟨hheader, hrest⟩ := h
  obtain ⟨hat, hbody⟩ := hasAt_append.1 hrest
  have hdecode : mqttPacketDecodeBuf buf 1 = ⟨field.length, body.length, 1 + field.length⟩ := by
    have hloop := decodeLoop_field hfield hfour hat.delivers 1 0
    rwa [hvalue, Nat.zero_add, Nat.one_mul, Nat.zero_add] at hloop
  have htopic := readMqttLenString_body hbody
  rw [Nat.zero_add] at htopic
  simp only [mqttDeserializePublish, hheader, htype, ne_eq, not_true_eq_false, if_false, hdecode,
    htopic]
  cases Nat.lt_or_ge body.length (2 + topicLength body) with
  | inl hlong => simp only [hlong, if_true]
  | inr hfits =>
    have hend : ¬ 1 + field.length + body.length < 1 + field.length + 2 + topicLength body := by
      omega
    simp only [Nat.not_lt.2 hfits, if_false, hend]

namespace Announced

/-- The body of a packet that comes as a whole. -/
def content (p : Announced) : Bytes := p.body.front.take p.length

/-- A publish packet that comes as a whole and whose topic does not fit in it. -/
def TopicTooLong (p : Announced) : Prop := p.length < 2 + topicLength p.content

instance (p : Announced) : Decidable p.TopicTooLong :=
  inferInstanceAs (Decidable (p.length < 2 + topicLength p.content))

section
variable {p : Announced} (hlength : p.length < 128 ^ 4) (hcomplete : p.Complete)
  (htype : headerType p.header = publishMsg) (readbuf : Memory)
include hlength hcomplete htype

/-- Decoding a publish packet that came as a whole. -/
theorem mqttDeserializePublish_writes :
    mqttDeserializePublish (applyWrites readbuf p.writes) =
      if p.TopicTooLong then ((mqttPacketEncode p.length).length, none)
      else
        let curdata := p.bodyIndex + 2 + topicLength p.content
        let qos := p.header.toNat / 2 % 4
        let payload := if 0 < qos then curdata + 2 else curdata
        (1, some
          { dup := p.header.toNat / 8 % 2 = 1
            qos := qos
            retained := p.header.toNat % 2 = 1
            packetid :=
              if 0 < qos then some (readInt (applyWrites readbuf p.writes) curdata) else none
            topicName := ⟨p.bodyIndex + 2, topicLength p.content⟩
            payload := payload
            payloadlen := (p.bodyIndex + p.length : Nat) - payload }) := by
  have hwrites := p.hasAt_writes readbuf
  rw [Feed.take_arriving hcomplete] at hwrites
  change HasAt _ _ (p.header :: (_ ++ p.content)) at hwrites
  have hlen : p.content.length = p.length := List.length_take_of_le hcomplete
  have hvalue : fieldValue (mqttPacketEncode p.length) = p.content.length := by
    rw [fieldValue_mqttPacketEncode, hlen]
  have hdecode := mqttDeserializePublish_hasAt (isField_mqttPacketEncode p.length)
    (length_mqttPacketEncode_le hlength) hvalue htype hwrites
  rw [hlen] at hdecode
  exact hdecode

/-- **The publish branch of `cycle`** on a packet that came as a whole: the payload ends with the
packet, if the topic fits in it. -/
theorem cyclePublish_writes (parseTopic : Memory → LenString → Bool) (unset : Option Int) :
    cyclePublish parseTopic unset (applyWrites readbuf p.writes) =
      if p.TopicTooLong then
        if p.length < 128 then unset else none
      else if parseTopic (applyWrites readbuf p.writes) ⟨p.bodyIndex + 2, topicLength p.content⟩ then
        some ((p.bodyIndex + p.length : Nat) : Int)
      else none := by
  rw [cyclePublish, mqttDeserializePublish_writes hlength hcomplete htype]
  by_cases hlong : p.TopicTooLong
  · simp only [if_pos hlong]
    by_cases hone : p.length < 128
    · rw [length_mqttPacketEncode_eq_one_iff.2 hone, if_pos hone]
      rfl
    · have hlen : (mqttPacketEncode p.length).length ≠ 1 :=
        mt length_mqttPacketEncode_eq_one_iff.1 hone
      rw [if_neg hone]
      split
      next h => exact absurd (Prod.mk.inj h).1 hlen
      next h => exact absurd (Prod.mk.inj h).1 hlen
      next => rfl
  · simp only [if_neg hlong, mqttMessageArrived]
    split
    · congr 1
      omega
    · rfl

end

/-- What arrives of the packet ends before the end of `readbuf`. -/
def Fits (p : Announced) : Prop :=
  p.bodyIndex + min p.length p.body.arriving.length ≤ cayenneMaxMessageSize

/-- A publish packet that comes as a whole, with a length field of one byte, and whose topic does
not fit in it. -/
def MalformedPublish (p : Announced) : Prop :=
  headerType p.header = publishMsg ∧ p.Complete ∧ p.length < 128 ∧ p.TopicTooLong

end Announced

/-! ## The receive buffer -/

/-- All indices that are written to are below `readbuf_size`, and the NUL goes into the array, which
has one byte more. -/
def WritesInside (writes : List BufWrite) (terminator : Option Int) : Prop :=
  (∀ w ∈ writes, ∀ i, w.index ≤ i → i < w.index + w.bytes.length → i < cayenneMaxMessageSize) ∧
    ∀ i ∈ terminator, 0 ≤ i ∧ i < cayenneMaxMessageSize + 1

/-- The parts of a packet that has a header and a length field are inside when its body is. -/
theorem Announced.writes_lt_iff {p : Announced} (hlength : p.length < 128 ^ 4) :
    (∀ w ∈ p.writes, ∀ i, w.index ≤ i → i < w.index + w.bytes.length →
      i < cayenneMaxMessageSize) ↔ p.Fits := by
  have hfield : (mqttPacketEncode p.length).length ≤ 4 := length_mqttPacketEncode_le hlength
  have hsize : cayenneMaxMessageSize = 134 := rfl
  have hindex : p.bodyIndex = 1 + (mqttPacketEncode p.length).length := rfl
  constructor
  · intro h
    -- the last byte of the body that arrives
    cases Nat.eq_zero_or_pos (min p.length p.body.arriving.length) with
    | inl hnone => rw [Announced.Fits]; omega
    | inr hsome =>
      have hbody : (⟨p.bodyIndex, p.body.arriving.take p.length⟩ : BufWrite) ∈ p.writes := by
        rw [Announced.writes, if_pos (by omega)]
        exact List.mem_append_right _ (List.mem_singleton_self _)
      have hlast := h _ hbody (p.bodyIndex + min p.length p.body.arriving.length - 1)
      simp only [List.length_take] at hlast
      rw [Announced.Fits]
      omega
  · intro h w hw i hle hlt
    rw [Announced.Fits] at h
    rw [Announced.writes, List.mem_append] at hw
    rcases hw with hw | hw
    · rcases List.mem_pair.1 hw with rfl | rfl
      · simp only [List.length_singleton] at hlt
        omega
      · dsimp only at hlt
        omega
    · split at hw
      · cases List.mem_singleton.1 hw
        simp only [List.length_take] at hlt
        omega
      · cases hw

/-- The NUL of one `cycle` goes into the array, whatever the locals hold, when the packet is not
malformed. -/
theorem cycleTerminator_inside_iff (parseTopic : Memory → LenString → Bool) (readbuf : Memory)
    {l : ReadLine} {p : Announced} (hp : announced l.feed = some p) (hfits : p.Fits) :
    (∀ unset, ∀ i ∈ cycleTerminator parseTopic unset readbuf l,
      0 ≤ i ∧ i < cayenneMaxMessageSize + 1) ↔ ¬ p.MalformedPublish := by
  have hlength := announced_length_lt hp
  obtain ⟨hcode, hwrites, -⟩ := readPacket_announced readbuf hp
  by_cases hpublish : p.Complete ∧ headerType p.header = publishMsg
  · obtain ⟨hcomplete, htype⟩ := hpublish
    rw [if_pos hcomplete, htype] at hcode
    have hterm : ∀ unset, cycleTerminator parseTopic unset readbuf l =
        cyclePublish parseTopic unset (applyWrites readbuf p.writes) := by
      intro unset
      rw [cycleTerminator, hcode, hwrites]
      exact if_pos rfl
    simp only [hterm, p.cyclePublish_writes hlength hcomplete htype]
    by_cases hlong : p.TopicTooLong
    · by_cases hone : p.length < 128
      · refine iff_of_false ?_ (not_not.2 ⟨htype, hcomplete, hone, hlong⟩)
        intro h
        -- the locals can point behind the array
        have hbad := h (some 135) 135 (by rw [if_pos hlong, if_pos hone]; rfl)
        exact absurd hbad.2 (by decide)
      · refine iff_of_true ?_ fun h => hone h.2.2.1
        intro unset i hi
        rw [if_pos hlong, if_neg hone] at hi
        cases hi
    · refine iff_of_true ?_ fun h => hlong h.2.2.2
      intro unset i hi
      rw [if_neg hlong] at hi
      split at hi
      next =>
        cases hi
        -- the packet came as a whole, so all of it is in the buffer
        have harrived : p.length ≤ p.body.arriving.length :=
          Nat.le_trans hcomplete p.body.length_front_le
        rw [Announced.Fits, Nat.min_eq_left harrived] at hfits
        omega
      next => cases hi
  · refine iff_of_true ?_ fun h => hpublish ⟨h.2.1, h.1⟩
    have hother : (readPacket readbuf l).code ≠ publishMsg := by
      rw [hcode]
      split
      next hcomplete => exact fun h => hpublish ⟨hcomplete, Int.ofNat.inj h⟩
      next => decide
    intro unset i hi
    rw [cycleTerminator, if_neg hother] at hi
    cases hi

/-- **The writes stay inside `readbuf`, exactly when** nothing is announced, or what arrives of the
announced packet fits and it is not a publish packet whose topic does not fit in it. -/
theorem writes_inside_iff (parseTopic : Memory → LenString → Bool) (readbuf : Memory)
    (l : ReadLine) :
    (∀ unset, WritesInside (readPacket readbuf l).writes
        (cycleTerminator parseTopic unset readbuf l)) ↔
      ∀ p, announced l.feed = some p → p.Fits ∧ ¬ p.MalformedPublish := by
  cases hp : announced l.feed with
  | none =>
    obtain ⟨hcode, hwrites, -⟩ := readPacket_of_none readbuf hp
    refine iff_of_true ?_ nofun
    intro unset
    rw [WritesInside, hwrites, cycleTerminator, hcode]
    refine ⟨?_, nofun⟩
    intro w hw i hle hlt
    cases List.mem_singleton.1 hw
    simp only [List.length_take] at hlt
    have hsize : cayenneMaxMessageSize = 134 := rfl
    omega
  | some p =>
    have hlength := announced_length_lt hp
    obtain ⟨-, hwrites, -⟩ := readPacket_announced readbuf hp
    have hterm := cycleTerminator_inside_iff parseTopic readbuf hp
    constructor
    · rintro h _ ⟨⟩
      have hfits : p.Fits := (p.writes_lt_iff hlength).1 (hwrites ▸ (h none).1)
      exact ⟨hfits, (hterm hfits).1 fun unset => (h unset).2⟩
    · intro h unset
      obtain ⟨hfits, hgood⟩ := h p rfl
      exact ⟨hwrites ▸ (p.writes_lt_iff hlength).2 hfits, (hterm hfits).2 hgood unset⟩

/-- A publish packet whose remaining length is 134. -/
def longPublish : ReadLine where
  connected := true
  errno := .clear
  incoming := [.arrived (0x30 :: 0x86 :: 0x01 :: List.replicate 134 (byte 'x'))]

/-- It is written up to the index 136. -/
theorem longPublish_overruns :
    ∃ w ∈ (readPacket (fun _ => 0) longPublish).writes, w.index + w.bytes.length = 137 ∧
      ∀ parseTopic, ¬ WritesInside (readPacket (fun _ => 0) longPublish).writes
        (cycleTerminator parseTopic none (fun _ => 0) longPublish) := by
  have hbody : (⟨3, List.replicate 134 (byte 'x')⟩ : BufWrite) ∈
      (readPacket (fun _ => 0) longPublish).writes := by
    decide +kernel
  have hlength : (List.replicate 134 (byte 'x')).length = 134 := List.length_replicate
  refine ⟨_, hbody, by rw [hlength], ?_⟩
  intro parseTopic h
  have hlast := h.1 _ hbody 136 (by decide) (by rw [hlength]; decide)
  exact absurd hlast (by decide)

end Esp32Iot
