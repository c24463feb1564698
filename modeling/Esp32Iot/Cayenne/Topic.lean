import Esp32Iot.CFormat

/-!
# Topics and payloads

`CayenneUtils/CayenneUtils.c`: the builders of topics and payloads. Each one predicts the length of
its string, compares it with the size of the buffer and then puts the string together with `strcat`.
The prediction for a topic is short by two: it counts eleven characters beside the three parts, and
there are twelve, and the terminator. `cayenneBuildTopic_data` says what comes out for every length.
The lengths of the parts are those of strings in the memory of the device, so that their sum is far
below the `SIZE_MAX` of 32 bits, and a natural number.
-/

namespace Esp32Iot

open CStr (lit empty concat)

/-- The return codes other than `CAYENNE_SUCCESS`. -/
inductive CayenneError
  /-- `CAYENNE_FAILURE` -/
  | failure
  /-- `CAYENNE_BUFFER_OVERFLOW` -/
  | bufferOverflow
  deriving DecidableEq

/-- What a builder returns, and what it leaves in its buffer; `none` is a write behind the buffer.
-/
abbrev Built (α : Type) := Option (Except CayenneError α)

/-- `CayenneTopic`, without support for digital and analog topics. -/
inductive CayenneTopic
  | undefined
  | data
  | command
  | config
  | response
  | sysModel
  | sysVersion
  | sysCpuModel
  | sysCpuSpeed
  deriving DecidableEq

/-- `CAYENNE_NO_CHANNEL`. -/
def cayenneNoChannel : UInt32 := 0xFFFE

/-- `CAYENNE_ALL_CHANNELS`. -/
def cayenneAllChannels : UInt32 := 0xFFFF

/-- `topicString` of `buildSuffix`. -/
def CayenneTopic.string : CayenneTopic → Option CStr
  | .undefined => none
  | .data => some (lit "data")
  | .command => some (lit "cmd")
  | .config => some (lit "conf")
  | .response => some (lit "response")
  | .sysModel => some (lit "sys/model")
  | .sysVersion => some (lit "sys/version")
  | .sysCpuModel => some (lit "sys/cpu/model")
  | .sysCpuSpeed => some (lit "sys/cpu/speed")

/-! ## Topics -/

/-- `buildSuffix`. -/
def buildSuffix (length : Nat) (topic : CayenneTopic) (channel : UInt32) : Built CStr :=
  match topic.string with
  | none => some (.error .failure)
  | some topicString =>
      if length ≤ topicString.length then some (.error .bufferOverflow)
      else if channel = cayenneNoChannel then some (.ok topicString)
      else
        (CStr.strcat length topicString (lit "/")).bind fun suffix =>
          if channel = cayenneAllChannels then
            (CStr.strcat length suffix (lit "+")).map .ok
          else
            some (.ok (suffix ++
              (CStr.ofNat channel.toNat).truncate (length - suffix.length)))

/-- `buildTopic`. -/
def buildTopic (length : Nat) (username clientID suffix : CStr) : Built CStr :=
  let topicLength := username.length + clientID.length + suffix.length + 11
  if length < topicLength then some (.error .bufferOverflow)
  else
    (CStr.strcatAll length empty
      [lit "v1", lit "/", username, lit "/things/", clientID, lit "/", suffix]).map .ok

/-- `CayenneBuildTopic`, with the local `channelSuffix[20]`. -/
def cayenneBuildTopic (length : Nat) (username clientID : CStr) (topic : CayenneTopic)
    (channel : UInt32) : Built CStr :=
  match buildSuffix 20 topic channel with
  | some (.ok suffix) => buildTopic length username clientID suffix
  | some (.error e) => some (.error e)
  | none => none

/-- The topic that a channel's data is published to. -/
def dataTopic (username clientID : CStr) (channel : UInt32) : CStr :=
  concat [lit "v1/", username, lit "/things/", clientID, lit "/data/", .ofNat channel.toNat]

theorem dataTopic_length (username clientID : CStr) (channel : UInt32) :
    (dataTopic username clientID channel).length =
      username.length + clientID.length + (CStr.ofNat channel.toNat).length + 17 := by
  have h₁ : (lit "v1/").length = 3 := rfl
  have h₂ : (lit "/things/").length = 8 := rfl
  have h₃ : (lit "/data/").length = 6 := rfl
  simp only [dataTopic, concat, CStr.length_append, CStr.length_empty, h₁, h₂, h₃]
  omega

/-- The suffix of a data topic fits its local array. -/
theorem buildSuffix_data {channel : UInt32} (hno : channel ≠ cayenneNoChannel)
    (hall : channel ≠ cayenneAllChannels) :
    buildSuffix 20 .data channel = some (.ok (lit "data/" ++ .ofNat channel.toNat)) := by
  have hdigits := CStr.length_ofNat_uint32 channel
  have hsuffix : CStr.strcat 20 (lit "data") (lit "/") = some (lit "data/") := rfl
  have hlength : (lit "data/").length = 5 := rfl
  simp only [buildSuffix, CayenneTopic.string, hno, hall, if_false, hsuffix, Option.bind_some,
    hlength]
  rw [CStr.truncate_of_lt (by omega), if_neg (by decide)]

/-- A topic is refused when the prediction exceeds the buffer, and otherwise written, possibly
behind its end. -/
theorem buildTopic_eq {length : Nat} (hlength : 0 < length) (username clientID suffix : CStr) :
    buildTopic length username clientID suffix =
      if length < username.length + clientID.length + suffix.length + 11 then
        some (.error .bufferOverflow)
      else if username.length + clientID.length + suffix.length + 12 < length then
        some (.ok (lit "v1/" ++ username ++ lit "/things/" ++ clientID ++ lit "/" ++ suffix))
      else none := by
  have h₁ : (lit "v1").length = 2 := rfl
  have h₂ : (lit "/things/").length = 8 := rfl
  have h₃ : (lit "/").length = 1 := rfl
  have htotal : (concat [lit "v1", lit "/", username, lit "/things/", clientID, lit "/",
      suffix]).length = username.length + clientID.length + suffix.length + 12 := by
    simp only [concat, CStr.length_append, CStr.length_empty, h₁, h₂, h₃]
    omega
  have hv1 : lit "v1/" = lit "v1" ++ lit "/" := rfl
  rw [buildTopic, CStr.strcatAll_eq (by simpa using hlength)]
  simp only [CStr.length_empty, Nat.zero_add, htotal]
  split_ifs
  · rfl
  · simp only [hv1, concat, CStr.append_empty, CStr.empty_append, CStr.append_assoc,
      Option.map_some]
  · rfl

/-- **The topic of a channel's data**: two lengths are accepted that do not fit. -/
theorem cayenneBuildTopic_data {length : Nat} (hlength : 0 < length) (username clientID : CStr)
    {channel : UInt32} (hno : channel ≠ cayenneNoChannel) (hall : channel ≠ cayenneAllChannels) :
    cayenneBuildTopic length username clientID .data channel =
      if length + 1 < (dataTopic username clientID channel).length then
        some (.error .bufferOverflow)
      else if (dataTopic username clientID channel).length < length then
        some (.ok (dataTopic username clientID channel))
      else none := by
  have hlength' : (lit "data/" ++ CStr.ofNat channel.toNat).length =
      (CStr.ofNat channel.toNat).length + 5 := by
    rw [CStr.length_append, Nat.add_comm]
    rfl
  have htopic : lit "v1/" ++ username ++ lit "/things/" ++ clientID ++ lit "/" ++
      (lit "data/" ++ CStr.ofNat channel.toNat) = dataTopic username clientID channel := by
    have hdata : lit "/data/" = lit "/" ++ lit "data/" := rfl
    simp only [dataTopic, concat, hdata, CStr.append_empty, CStr.append_assoc]
  rw [cayenneBuildTopic, buildSuffix_data hno hall]
  simp only [buildTopic_eq hlength, hlength', htopic, dataTopic_length]
  have hover : length < username.length + clientID.length +
      ((CStr.ofNat channel.toNat).length + 5) + 11 ↔
      length + 1 < username.length + clientID.length + (CStr.ofNat channel.toNat).length + 17 := by
    omega
  have hfits : username.length + clientID.length +
      ((CStr.ofNat channel.toNat).length + 5) + 12 < length ↔
      username.length + clientID.length + (CStr.ofNat channel.toNat).length + 17 < length := by
    omega
  simp only [hover, hfits]

/-! ## Payloads -/

/-- `CayenneValuePair`. -/
structure CayenneValuePair where
  unit : Option CStr
  value : Option CStr
  deriving DecidableEq

/-- `UNIT_UNDEFINED`. -/
def unitUndefined : CStr := lit "null"

/-- What one pair adds to `payloadLength`. -/
def CayenneValuePair.payloadLength (type : Option CStr) (pair : CayenneValuePair) : Nat :=
  (match pair.unit, type with
    | some unit, _ => unit.length + 1
    | none, some _ => unitUndefined.length + 1
    | none, none => 0) +
  (match pair.value with
    | some value => value.length + 1
    | none => 0)

/-- The loop over the units. -/
def catUnits (size : Nat) (type : Option CStr) : CStr → List CayenneValuePair → Option CStr
  | payload, [] => some payload
  | payload, pair :: pairs =>
      (if payload.nonEmpty then CStr.strcat size payload (lit ",") else some payload).bind
        fun payload =>
          (match pair.unit, type with
            | some unit, _ => CStr.strcat size payload unit
            | none, some _ => CStr.strcat size payload unitUndefined
            | none, none => some payload).bind fun payload => catUnits size type payload pairs

/-- The loop over the values, which ends at the first pair without one. -/
def catValues (size : Nat) : CStr → List CayenneValuePair → Option CStr
  | payload, [] => some payload
  | payload, pair :: pairs =>
      match pair.value with
      | none => some payload
      | some value =>
          (CStr.strcat size payload value).bind fun payload =>
            (if pairs.isEmpty then some payload else CStr.strcat size payload (lit ",")).bind
              fun payload => catValues size payload pairs

/-- `CayenneBuildDataPayload`: the payload and the new value of `*length`. -/
def cayenneBuildDataPayload (length : Nat) (type : Option CStr) (values : List CayenneValuePair) :
    Built (CStr × Nat) :=
  let payloadLength := values.foldr (fun pair n => pair.payloadLength type + n) 0 +
    (match type with
      | some type => type.length + 1
      | none => 0)
  if length < payloadLength then some (.error .bufferOverflow)
  else if length = 0 then none -- `payload[0] = '\0'` is behind the buffer
  else
    (CStr.strcatAll length empty type.toList).bind fun payload =>
    (catUnits length type payload values).bind fun payload =>
    (if payload.nonEmpty && (values.head?.bind CayenneValuePair.value).isSome then
      CStr.strcat length payload (lit "=") else some payload).bind fun payload =>
    (catValues length payload values).map fun payload =>
      -- `--payloadLength` of a `size_t`
      .ok (payload, (payloadLength + 4294967295) % 4294967296)

/-- The payload of one value with its type and unit. -/
def dataPayload (type unit value : CStr) : CStr :=
  concat [type, lit ",", unit, lit "=", value]

theorem dataPayload_length (type unit value : CStr) :
    (dataPayload type unit value).length = type.length + unit.length + value.length + 2 := by
  have h₁ : (lit ",").length = 1 := rfl
  have h₂ : (lit "=").length = 1 := rfl
  simp only [dataPayload, concat, CStr.length_append, CStr.length_empty, h₁, h₂]
  omega

/-- A `strcat` that fits. -/
theorem strcat_eq_some {size : Nat} {s t : CStr} (h : s.length + t.length < size) :
    CStr.strcat size s t = some (s ++ t) :=
  if_pos h

end Esp32Iot
