import Esp32Iot.Cayenne.Publish
import Esp32Iot.Cayenne.Suffix

/-!
# The room for a topic

`strcat` does not look at the size of its buffer, so a builder whose check is too weak goes on
writing in the memory behind it. Here `CayenneBuildTopic` is run in memory of any size that starts
with the buffer (`cayenneBuildTopicAt`), and `topics_fit_iff` says for which lengths its string
stays in the buffer: all but two, which the constant 11 of the check lets through. The functions
that publish subtract the length of the topic from the size of their buffer, and for these two
lengths the difference wraps around. A response is published without an access behind the buffer at
all other lengths (`publishResponse_inside_iff`).
-/

namespace Esp32Iot

open CStr (lit empty concat)

/-! ## The functions that publish -/

/-- `CayenneBuildResponsePayload`. -/
def cayenneBuildResponsePayload (length : Nat) (id error : Option CStr) : Built (CStr × Nat) :=
  cayenneBuildDataPayload length (some (if error.isSome then lit "error" else lit "ok"))
    [⟨id, error⟩]

/-- `size = sizeof(buffer) - (size + 1)`, where `size` is the length of the topic. -/
def payloadRoom (topicName : CStr) : UInt32 :=
  UInt32.ofNat publishBufferSize - (UInt32.ofNat topicName.length + 1)

/-- `CayenneMQTTPublishResponse`: its return code and what is written to the network; `none` is an
access behind the local buffer. -/
def cayenneMqttPublishResponse (client : CayenneMqttClient) (clientID id error : Option CStr)
    (line : PublishLine) : Option (Int × Bytes) :=
  match cayenneBuildTopic publishBufferSize client.username (clientID.getD client.clientID)
      .response cayenneNoChannel with
  | none => none
  | some (.error e) => some (e.code, [])
  | some (.ok topicName) =>
      let size := (payloadRoom topicName).toNat
      match cayenneBuildResponsePayload size id error with
      | none => none
      | some (.error e) => some (e.code, [])
      | some (.ok (payload, payloadlen)) =>
          if size < payloadlen then none
          else
            let mem := payload.val ++ List.replicate (size - payload.length) 0
            some (mqttPublish client topicName ⟨.qos1, true, mem.take payloadlen⟩ line)

/-! ## Lengths that fit -/

/-- A topic that was built is the right string, and fits its buffer with the terminator. -/
def TopicFits (length : Nat) (username clientID : CStr) (topic : CayenneTopic)
    (channel : UInt32) : Prop :=
  ∀ room s, cayenneBuildTopicAt room length username clientID topic channel = some (.ok s) →
    (∃ suffix, buildSuffix 20 topic channel = some (.ok suffix) ∧
      s = topicText username clientID suffix) ∧
    s.length + 1 ≤ length

/-- In a function that publishes, the size of what is left of the buffer does not wrap around. -/
def RoomLeft (username clientID : CStr) (topic : CayenneTopic) (channel : UInt32) : Prop :=
  ∀ room s, cayenneBuildTopicAt room publishBufferSize username clientID topic channel =
      some (.ok s) →
    (payloadRoom s).toNat + (s.length + 1) = publishBufferSize

/-- Topics fit: those that are built in any buffer, and those that `CayenneMQTTPublishDataArray` and
`CayenneMQTTPublishResponse` build in theirs. -/
structure TopicsFit (client : CayenneMqttClient) (clientID : Option CStr) (length : Nat)
    (topic : CayenneTopic) (channel : UInt32) : Prop where
  build : TopicFits length client.username (clientID.getD client.clientID) topic channel
  dataArray : RoomLeft client.username (clientID.getD client.clientID) topic channel
  response : RoomLeft client.username (clientID.getD client.clientID) .response cayenneNoChannel

/-- The length is not one of the two that the check accepts although one or two bytes are
missing. -/
def NotTight (length : Nat) (username clientID : CStr) (topic : CayenneTopic)
    (channel : UInt32) : Prop :=
  ∀ suffix, suffixText topic channel = some suffix →
    length ≠ username.length + clientID.length + min 19 suffix.length + 11 ∧
    length ≠ username.length + clientID.length + min 19 suffix.length + 12

/-- The check keeps a property of the length of a topic exactly when the topic has it or the check
refuses the topic. -/
theorem forall_built_iff (length : Nat) (username clientID : CStr) {topic : CayenneTopic}
    {channel : UInt32} (P : CStr → Prop) :
    (∀ room s, cayenneBuildTopicAt room length username clientID topic channel = some (.ok s) →
        P s) ↔
      ∀ suffix, suffixText topic channel = some suffix →
        username.length + clientID.length + min 19 suffix.length + 11 ≤ length →
        P (topicText username clientID (suffix.truncate 20)) := by
  constructor
  · intro h suffix hsuffix hcheck
    refine h _ _ ((cayenneBuildTopicAt_ok_iff _ length username clientID hsuffix _).2
      ⟨rfl, ?_, Nat.lt_succ_self _⟩)
    rw [length_topicText, length_truncate]
    omega
  · intro h room s hs
    cases hsuffix : suffixText topic channel with
    | none =>
      rw [cayenneBuildTopicAt_of_none room length username clientID hsuffix] at hs
      cases hs
    | some suffix =>
      obtain ⟨rfl, hcheck, -⟩ :=
        (cayenneBuildTopicAt_ok_iff room length username clientID hsuffix s).1 hs
      refine h suffix hsuffix ?_
      rw [length_topicText, length_truncate] at hcheck
      omega

theorem topicFits_iff (length : Nat) (username clientID : CStr) (topic : CayenneTopic)
    (channel : UInt32) :
    TopicFits length username clientID topic channel ↔
      NotTight length username clientID topic channel := by
  rw [TopicFits, forall_built_iff]
  refine forall_congr' fun suffix => forall_congr' fun hsuffix => ?_
  have hbuilt : buildSuffix 20 topic channel = some (.ok (suffix.truncate 20)) := by
    rw [buildSuffix_eq (by decide), hsuffix]
  rw [length_topicText, length_truncate]
  constructor
  · intro h
    constructor
    · intro heq
      have hle := (h (Nat.le_of_eq heq.symm)).2
      omega
    · intro heq
      have hle := (h (by omega)).2
      omega
  · rintro ⟨h₁, h₂⟩ hcheck
    exact ⟨⟨_, hbuilt, rfl⟩, by omega⟩

/-- The difference of sizes is right for a topic that fits. -/
theorem payloadRoom_eq_iff {topicName : CStr} (h : topicName.length < 4294967295) :
    (payloadRoom topicName).toNat + (topicName.length + 1) = publishBufferSize ↔
      topicName.length + 1 ≤ publishBufferSize := by
  have hsize : publishBufferSize = 135 := rfl
  have hlength : (UInt32.ofNat topicName.length + 1).toNat = topicName.length + 1 := by
    rw [UInt32.toNat_add, UInt32.toNat_ofNat']
    show (topicName.length % 4294967296 + 1) % 4294967296 = topicName.length + 1
    omega
  rw [payloadRoom, UInt32.toNat_sub, hlength, hsize]
  show (4294967296 - (topicName.length + 1) + 135) % 4294967296 + (topicName.length + 1) = 135 ↔ _
  omega

theorem roomLeft_iff (username clientID : CStr) (topic : CayenneTopic) (channel : UInt32) :
    RoomLeft username clientID topic channel ↔
      NotTight publishBufferSize username clientID topic channel := by
  have hsize : publishBufferSize = 135 := rfl
  rw [← topicFits_iff, RoomLeft, TopicFits, forall_built_iff, forall_built_iff]
  refine forall_congr' fun suffix => forall_congr' fun hsuffix => forall_congr' fun hcheck => ?_
  have hbuilt : buildSuffix 20 topic channel = some (.ok (suffix.truncate 20)) := by
    rw [buildSuffix_eq (by decide), hsuffix]
  rw [payloadRoom_eq_iff]
  · exact ⟨fun h => ⟨⟨_, hbuilt, rfl⟩, h⟩, And.right⟩
  · rw [length_topicText, length_truncate]
    omega

/-- **Topics fit their buffers**, and the publishing functions have room left behind them, exactly
when no length is one of the two that the check misses. -/
theorem topics_fit_iff (client : CayenneMqttClient) (clientID : Option CStr) (length : Nat)
    (topic : CayenneTopic) (channel : UInt32) :
    TopicsFit client clientID length topic channel ↔
      NotTight length client.username (clientID.getD client.clientID) topic channel ∧
      NotTight publishBufferSize client.username (clientID.getD client.clientID) topic channel ∧
      NotTight publishBufferSize client.username (clientID.getD client.clientID) .response
        cayenneNoChannel := by
  rw [← topicFits_iff, ← roomLeft_iff, ← roomLeft_iff]
  exact ⟨fun h => ⟨h.build, h.dataArray, h.response⟩, fun h => ⟨h.1, h.2.1, h.2.2⟩⟩

/-- A topic of 20 characters in a buffer of 19 bytes. -/
theorem short_buffer_overruns :
    ¬ ∀ (client : CayenneMqttClient) (clientID : Option CStr) (length : Nat)
      (topic : CayenneTopic) (channel : UInt32),
      TopicsFit client clientID length topic channel := by
  intro h
  have hfits := (h ⟨lit "u", lit "p", lit "c", true⟩ none 19 .data 7).build
  have hbuilt := hfits 64 (lit "v1/u/things/c/data/7") (by decide +kernel)
  exact absurd hbuilt.2 (by decide)

/-! ## Responses -/

/-- A response is refused, or it fits what it is given. -/
theorem cayenneBuildResponsePayload_fits (length : Nat) (id error : Option CStr) :
    cayenneBuildResponsePayload length id error = some (.error .bufferOverflow) ∨
      ∃ payload n, cayenneBuildResponsePayload length id error = some (.ok (payload, n)) ∧
        n ≤ length := by
  have htype : ∃ type : CStr, type.nonEmpty = true ∧ cayenneBuildResponsePayload length id error =
      cayenneBuildDataPayload length (some type) [⟨id, error⟩] := by
    cases error with
    | none => exact ⟨lit "ok", by decide, rfl⟩
    | some error => exact ⟨lit "error", by decide, rfl⟩
  obtain ⟨type, hne, hbuild⟩ := htype
  rw [hbuild, cayenneBuildDataPayload_eq]
  split
  next => exact .inl rfl
  next hroom =>
    -- the type, the unit and, if there is one, the value have a separator each
    have htext : (payloadText (some type) [⟨id, error⟩]).length + 1 =
        predictedLength (some type) [⟨id, error⟩] := by
      have hlength := length_payloadText (some type) [⟨id, error⟩]
      cases error with
      | none =>
        simp [separators, unitCommas, equalsSigns, valueCommas, countedStrings, lostLength,
          firstValue, valueLength, hne] at hlength
        omega
      | some error =>
        simp [separators, unitCommas, equalsSigns, valueCommas, countedStrings, lostLength,
          firstValue, hne] at hlength
        omega
    rw [fit_of_lt (by omega)]
    exact .inr ⟨_, _, rfl, by omega⟩

/-- **A response stays in its buffer** exactly when its topic does. -/
theorem publishResponse_inside_iff (client : CayenneMqttClient) (clientID id error : Option CStr)
    (line : PublishLine) :
    (cayenneMqttPublishResponse client clientID id error line).isSome ↔
      NotTight publishBufferSize client.username (clientID.getD client.clientID) .response
        cayenneNoChannel := by
  have hsize : publishBufferSize = 135 := rfl
  have hsuffix : suffixText .response cayenneNoChannel = some (lit "response") := by decide
  have hbuilt := cayenneBuildTopicAt_eq (show 0 < publishBufferSize by decide) publishBufferSize
    client.username (clientID.getD client.clientID) hsuffix rfl
  rw [cayenneBuildTopicAt_self] at hbuilt
  have hlength := length_topicText client.username (clientID.getD client.clientID)
    ((lit "response").truncate 20)
  rw [length_truncate] at hlength
  have htight : NotTight publishBufferSize client.username (clientID.getD client.clientID)
      .response cayenneNoChannel ↔
      (topicText client.username (clientID.getD client.clientID)
        ((lit "response").truncate 20)).length ≠ 136 ∧
      (topicText client.username (clientID.getD client.clientID)
        ((lit "response").truncate 20)).length ≠ 135 := by
    rw [NotTight, hsuffix, hsize]
    constructor
    · intro h
      have hresponse := h _ rfl
      omega
    · rintro h suffix hresponse
      obtain rfl := Option.some.inj hresponse
      omega
  generalize topicText client.username (clientID.getD client.clientID)
    ((lit "response").truncate 20) = topicName at hbuilt htight
  rw [htight, cayenneMqttPublishResponse, hbuilt, hsize]
  split_ifs with hover hfits
  · exact iff_of_true rfl (by omega)
  · refine iff_of_true ?_ (by omega)
    rcases cayenneBuildResponsePayload_fits (payloadRoom topicName).toNat id error with
      herror | ⟨payload, n, hok, hn⟩
    · simp only [herror, Option.isSome_some]
    · simp only [hok, if_neg (Nat.not_lt.2 hn), Option.isSome_some]
  · refine iff_of_false (fun h => ?_) (by omega)
    cases h

end Esp32Iot
