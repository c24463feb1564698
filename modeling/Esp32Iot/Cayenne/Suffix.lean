import Esp32Iot.Cayenne.Topic

/-!
# The suffix of a topic

`buildSuffix` checks that the name of the topic fits its array and leaves the digits of the channel
to `snprintf`, which cuts them off without a word. `buildSuffix_eq` describes the suffix by the text
it should have and the size of the array.

In the array of 20 bytes that `CayenneBuildTopic` uses, the digits of a channel are complete behind
the four short names; behind the names of the system topics some are lost, and two channels can have
the same topic. `cayenneBuildTopic_injective_iff` says which.
-/

namespace Esp32Iot

open CStr (lit empty concat)

/-! ## Text and array -/

/-- What stands behind the name of a topic. -/
def channelText (channel : UInt32) : CStr :=
  if channel = cayenneNoChannel then empty
  else if channel = cayenneAllChannels then lit "/+"
  else lit "/" ++ .ofNat channel.toNat

/-- The suffix of a topic, as long as it needs to be. -/
def suffixText (topic : CayenneTopic) (channel : UInt32) : Option CStr :=
  topic.string.map (· ++ channelText channel)

theorem CayenneTopic.length_string_le {topic : CayenneTopic} {name : CStr}
    (h : topic.string = some name) : name.length ≤ 13 := by
  cases topic <;> cases h <;> decide

/-- `snprintf` behind a string leaves as much as `snprintf` of both. -/
theorem append_truncate {s t : CStr} {size : Nat} (h : s.length < size) :
    s ++ t.truncate (size - s.length) = (s ++ t).truncate size := by
  refine CStr.ext ?_
  have htake : (s.val ++ t.val).take (size - 1) =
      s.val ++ t.val.take (size - 1 - s.val.length) := by
    rw [List.take_append, List.take_of_length_le (Nat.le_sub_one_of_lt h)]
  have hsize : size - s.length - 1 = size - 1 - s.val.length := Nat.sub_right_comm ..
  show s.val ++ t.val.take (size - s.length - 1) = (s.val ++ t.val).take (size - 1)
  rw [htake, hsize]

/-- **The suffix in its array**: what `buildSuffix` leaves in one of the sizes that the source
uses. -/
theorem buildSuffix_eq {length : Nat} (hlength : 15 < length) (topic : CayenneTopic)
    (channel : UInt32) :
    buildSuffix length topic channel =
      some (match suffixText topic channel with
        | none => .error .failure
        | some suffix => .ok (suffix.truncate length)) := by
  rw [buildSuffix, suffixText]
  cases hname : topic.string with
  | none => rfl
  | some name =>
    have hle := CayenneTopic.length_string_le hname
    have hslash : (lit "/").length = 1 := rfl
    have hplus : (lit "+").length = 1 := rfl
    have htext : lit "/+" = lit "/" ++ lit "+" := rfl
    have h₁ : CStr.strcat length name (lit "/") = some (name ++ lit "/") :=
      strcat_eq_some (by omega)
    have h₂ : CStr.strcat length (name ++ lit "/") (lit "+") = some (name ++ lit "/" ++ lit "+") :=
      strcat_eq_some (by rw [CStr.length_append]; omega)
    simp only [if_neg (Nat.not_le.2 (show name.length < length by omega)), Option.map_some,
      channelText]
    split
    next => rw [CStr.append_empty, CStr.truncate_of_lt (by omega)]
    next =>
      rw [h₁, Option.bind_some]
      split
      next =>
        rw [h₂, Option.map_some, htext, ← CStr.append_assoc, CStr.truncate_of_lt]
        simp only [CStr.length_append]
        omega
      next =>
        rw [append_truncate (by rw [CStr.length_append]; omega), CStr.append_assoc]

/-! ## A buffer with memory behind it -/

/-- `buildTopic`, in a buffer at the start of writable memory of the given size. -/
def buildTopicAt (room length : Nat) (username clientID suffix : CStr) : Built CStr :=
  let topicLength := username.length + clientID.length + suffix.length + 11
  if length < topicLength then some (.error .bufferOverflow)
  else
    (CStr.strcatAll room empty
      [lit "v1", lit "/", username, lit "/things/", clientID, lit "/", suffix]).map .ok

/-- `CayenneBuildTopic`, in a buffer at the start of writable memory of the given size. -/
def cayenneBuildTopicAt (room length : Nat) (username clientID : CStr) (topic : CayenneTopic)
    (channel : UInt32) : Built CStr :=
  match buildSuffix 20 topic channel with
  | some (.ok suffix) => buildTopicAt room length username clientID suffix
  | some (.error e) => some (.error e)
  | none => none

/-- Without memory behind the buffer, this is the builder as before. -/
theorem cayenneBuildTopicAt_self (length : Nat) :
    cayenneBuildTopicAt length length = cayenneBuildTopic length := rfl

/-- `"v1/<username>/things/<clientID>/<suffix>"`. -/
def topicText (username clientID suffix : CStr) : CStr :=
  lit "v1/" ++ username ++ lit "/things/" ++ clientID ++ lit "/" ++ suffix

theorem length_topicText (username clientID suffix : CStr) :
    (topicText username clientID suffix).length =
      username.length + clientID.length + suffix.length + 12 := by
  have h₁ : (lit "v1/").length = 3 := rfl
  have h₂ : (lit "/things/").length = 8 := rfl
  have h₃ : (lit "/").length = 1 := rfl
  simp only [topicText, CStr.length_append, h₁, h₂, h₃]
  omega

theorem length_truncate (s : CStr) (size : Nat) :
    (s.truncate size).length = min (size - 1) s.length :=
  List.length_take

/-- What the builder does in memory, by the length of its string. -/
theorem cayenneBuildTopicAt_eq {room : Nat} (hroom : 0 < room) (length : Nat)
    (username clientID : CStr) {topic : CayenneTopic} {channel : UInt32} {suffix : CStr}
    (hsuffix : suffixText topic channel = some suffix) {s : CStr}
    (hs : topicText username clientID (suffix.truncate 20) = s) :
    cayenneBuildTopicAt room length username clientID topic channel =
      if length + 1 < s.length then some (.error .bufferOverflow)
      else if s.length < room then some (.ok s) else none := by
  have hlen : s.length =
      username.length + clientID.length + (suffix.truncate 20).length + 12 := by
    rw [← hs, length_topicText]
  have hconcat : concat [lit "v1", lit "/", username, lit "/things/", clientID, lit "/",
      suffix.truncate 20] = s := by
    have hv1 : lit "v1/" = lit "v1" ++ lit "/" := rfl
    rw [← hs]
    simp only [topicText, hv1, concat, CStr.append_empty, CStr.append_assoc]
  rw [cayenneBuildTopicAt, buildSuffix_eq (by decide), hsuffix]
  simp only [buildTopicAt]
  rw [CStr.strcatAll_eq (by simpa using hroom), hconcat]
  simp only [CStr.length_empty, Nat.zero_add, CStr.empty_append]
  split
  next h => rw [if_pos (show length + 1 < s.length by omega)]
  next h =>
    rw [if_neg (show ¬ length + 1 < s.length by omega)]
    split <;> rfl

/-- A topic that has no string is refused. -/
theorem cayenneBuildTopicAt_of_none (room length : Nat) (username clientID : CStr)
    {topic : CayenneTopic} {channel : UInt32} (h : suffixText topic channel = none) :
    cayenneBuildTopicAt room length username clientID topic channel = some (.error .failure) := by
  rw [cayenneBuildTopicAt, buildSuffix_eq (by decide), h]

/-- In memory that is large enough, every length that passes the check is a success. -/
theorem cayenneBuildTopicAt_ok_iff (room length : Nat) (username clientID : CStr)
    {topic : CayenneTopic} {channel : UInt32} {suffix : CStr}
    (hsuffix : suffixText topic channel = some suffix) (s : CStr) :
    cayenneBuildTopicAt room length username clientID topic channel = some (.ok s) ↔
      s = topicText username clientID (suffix.truncate 20) ∧ s.length ≤ length + 1 ∧
        s.length < room := by
  cases Nat.eq_zero_or_pos room with
  | inl hzero =>
    refine iff_of_false ?_ (by omega)
    rw [hzero, cayenneBuildTopicAt, buildSuffix_eq (by decide), hsuffix]
    simp only [buildTopicAt]
    split
    next => intro h; cases h
    next =>
      rw [CStr.strcatAll, CStr.strcat, if_neg (Nat.not_lt_zero _)]
      intro h
      cases h
  | inr hpos =>
    rw [cayenneBuildTopicAt_eq hpos length username clientID hsuffix rfl]
    constructor
    · intro h
      split_ifs at h with hover hfits
      · cases h
      · obtain rfl := Except.ok.inj (Option.some.inj h)
        exact ⟨rfl, Nat.le_of_not_lt hover, hfits⟩
    · rintro ⟨rfl, hcheck, hfits⟩
      rw [if_neg (by omega), if_pos hfits]

/-- A topic that was built. -/
theorem cayenneBuildTopic_eq_ok_iff (length : Nat) (username clientID : CStr)
    (topic : CayenneTopic) (channel : UInt32) (s : CStr) :
    cayenneBuildTopic length username clientID topic channel = some (.ok s) ↔
      ∃ name, topic.string = some name ∧
        s = topicText username clientID ((name ++ channelText channel).truncate 20) ∧
        s.length < length := by
  rw [← cayenneBuildTopicAt_self]
  cases hname : topic.string with
  | none =>
    have hnone : suffixText topic channel = none := by rw [suffixText, hname]; rfl
    rw [cayenneBuildTopicAt_of_none length length username clientID hnone]
    simp
  | some name =>
    have hsuffix : suffixText topic channel = some (name ++ channelText channel) := by
      rw [suffixText, hname]
      rfl
    rw [cayenneBuildTopicAt_ok_iff length length username clientID hsuffix]
    constructor
    · rintro ⟨rfl, -, hfits⟩
      exact ⟨name, rfl, rfl, hfits⟩
    · rintro ⟨_, heq, rfl, hfits⟩
      cases heq
      exact ⟨rfl, by omega, hfits⟩

/-! ## Topics with the same suffix -/

/-- A byte that no name of a topic has: a digit or `+`. -/
def isChannelByte (b : UInt8) : Bool := b = 43 ∨ (48 ≤ b.toNat ∧ b.toNat ≤ 57)

theorem not_isChannelByte_of_mem_name {topic : CayenneTopic} {name : CStr}
    (h : topic.string = some name) : ∀ b ∈ name.val, isChannelByte b = false := by
  cases topic <;> cases h <;> decide +kernel

theorem CayenneTopic.string_injective {topic topic' : CayenneTopic} {name : CStr}
    (h : topic.string = some name) (h' : topic'.string = some name) : topic = topic' := by
  cases topic <;> cases h <;> cases topic' <;> first | rfl | exact absurd h' (by decide +kernel)

/-- The text behind a name is empty, or a slash and one of the other bytes. -/
theorem channelText_cases (channel : UInt32) :
    (channel = cayenneNoChannel ∧ (channelText channel).val = []) ∨
      ∃ b rest, isChannelByte b = true ∧ (channelText channel).val = 47 :: b :: rest := by
  unfold channelText
  split
  next h => exact .inl ⟨h, rfl⟩
  next =>
    refine .inr ?_
    split
    next => exact ⟨43, [], by decide, rfl⟩
    next =>
      have hdigits : ∀ b ∈ (CStr.ofNat channel.toNat).val, isChannelByte b = true := fun b hb =>
        decide_eq_true (.inr (CStr.digit_of_mem_ofNat hb))
      cases hval : (CStr.ofNat channel.toNat).val with
      | nil =>
        rw [CStr.ofNat_val, List.map_eq_nil_iff] at hval
        exact absurd hval Nat.toDigits_ne_nil
      | cons b rest =>
        refine ⟨b, rest, hdigits b (by rw [hval]; exact .head _), ?_⟩
        rw [CStr.append_val, hval]
        rfl

/-- What a suffix has before its channel. -/
theorem takeWhile_suffix {name : Bytes} (hname : ∀ b ∈ name, isChannelByte b = false) {b : UInt8}
    (hb : isChannelByte b = true) (rest : Bytes) :
    (name ++ 47 :: b :: rest).takeWhile (!isChannelByte ·) = name ++ [47] := by
  have hslash : isChannelByte 47 = false := by decide
  rw [List.takeWhile_append_of_pos (by simpa using hname),
    List.takeWhile_cons_of_pos (by simp [hslash]), List.takeWhile_cons_of_neg (by simp [hb])]

/-- A suffix that shows at least one byte of its channel tells the name of its topic. -/
theorem name_eq_of_suffix_eq {name name' : Bytes} (hname : ∀ b ∈ name, isChannelByte b = false)
    (hname' : ∀ b ∈ name', isChannelByte b = false) {channel channel' : UInt32} {m m' : Nat}
    (hm : 2 ≤ m) (hm' : 2 ≤ m')
    (h : name ++ (channelText channel).val.take m = name' ++ (channelText channel').val.take m') :
    name = name' := by
  obtain ⟨m, rfl⟩ := Nat.exists_eq_add_of_le' hm
  obtain ⟨m', rfl⟩ := Nat.exists_eq_add_of_le' hm'
  -- a name with a channel is not another name alone
  have hmixed : ∀ {name name' : Bytes} {b : UInt8} {rest : Bytes},
      (∀ b ∈ name, isChannelByte b = false) → isChannelByte b = true →
      name ≠ name' ++ 47 :: b :: rest := by
    rintro name name' b rest hname hb rfl
    have hin : b ∈ name' ++ 47 :: b :: rest :=
      List.mem_append_right _ (List.mem_cons_of_mem _ (.head _))
    rw [hname b hin] at hb
    cases hb
  rcases channelText_cases channel with ⟨-, hno⟩ | ⟨b, rest, hb, htext⟩ <;>
    rcases channelText_cases channel' with ⟨-, hno'⟩ | ⟨b', rest', hb', htext'⟩
  · simpa [hno, hno'] using h
  · rw [hno, List.take_nil, List.append_nil, htext', List.take_succ_cons, List.take_succ_cons] at h
    exact absurd h (hmixed hname hb')
  · rw [hno', List.take_nil, List.append_nil, htext, List.take_succ_cons, List.take_succ_cons] at h
    exact absurd h.symm (hmixed hname' hb)
  · rw [htext, htext', List.take_succ_cons, List.take_succ_cons, List.take_succ_cons,
      List.take_succ_cons] at h
    have hbefore := congrArg (List.takeWhile (!isChannelByte ·)) h
    rw [takeWhile_suffix hname hb, takeWhile_suffix hname' hb'] at hbefore
    exact List.append_cancel_right hbefore

/-- A channel that is written as its number. -/
def Numbered (channel : UInt32) : Prop :=
  channel ≠ cayenneNoChannel ∧ channel ≠ cayenneAllChannels

theorem channelText_numbered {channel : UInt32} (h : Numbered channel) :
    (channelText channel).val = 47 :: (CStr.ofNat channel.toNat).val := by
  rw [channelText, if_neg h.1, if_neg h.2]
  rfl

/-- The two channels that are not numbers show in full. -/
theorem channelText_take_eq_iff {channel channel' : UInt32} (hne : channel ≠ channel') (m : Nat) :
    (channelText channel).val.take (m + 2) = (channelText channel').val.take (m + 2) ↔
      Numbered channel ∧ Numbered channel' ∧
        (CStr.ofNat channel.toNat).val.take (m + 1) =
          (CStr.ofNat channel'.toNat).val.take (m + 1) := by
  -- a channel without a number differs from every other one
  have hother : ∀ {channel channel' : UInt32}, channel ≠ channel' → ¬ Numbered channel →
      (channelText channel).val.take (m + 2) ≠ (channelText channel').val.take (m + 2) := by
    intro channel channel' hne hnot heq
    rcases channelText_cases channel' with ⟨hno', htext'⟩ | ⟨b', rest', hb', htext'⟩
    · rcases channelText_cases channel with ⟨hno, -⟩ | ⟨b, rest, -, htext⟩
      · exact hne (hno.trans hno'.symm)
      · rw [htext, htext'] at heq
        cases heq
    · by_cases hno : channel = cayenneNoChannel
      · rw [htext', channelText, if_pos hno] at heq
        cases heq
      · have hall : channel = cayenneAllChannels :=
          Classical.not_not.1 fun hall => hnot ⟨hno, hall⟩
        have hplus : (channelText channel).val = [47, 43] := by
          rw [hall]
          rfl
        have hnumbered : Numbered channel' := by
          refine ⟨fun h => ?_, fun h => hne (hall.trans h.symm)⟩
          rw [channelText, if_pos h] at htext'
          cases htext'
        rw [hplus, htext', List.take_succ_cons, List.take_succ_cons, List.take_succ_cons,
          List.take_succ_cons] at heq
        rw [channelText_numbered hnumbered] at htext'
        have hdigit : b' ∈ (CStr.ofNat channel'.toNat).val := by
          rw [(List.cons.inj htext').2]
          exact .head _
        have hrange := CStr.digit_of_mem_ofNat hdigit
        rw [← (List.cons.inj (List.cons.inj heq).2).1] at hrange
        exact absurd hrange.1 (by decide)
  by_cases h : Numbered channel
  · by_cases h' : Numbered channel'
    · rw [channelText_numbered h, channelText_numbered h', List.take_succ_cons,
        List.take_succ_cons, List.cons_inj_right]
      simp only [h, h', true_and]
    · exact iff_of_false (fun heq => hother hne.symm h' heq.symm) fun hand => h' hand.2.1
  · exact iff_of_false (hother hne h) fun hand => h hand.1

/-- Two channels of one topic whose numbers agree in all digits that the array of 20 bytes has room
for. -/
structure Collide (topic topic' : CayenneTopic) (channel channel' : UInt32) : Prop where
  sameTopic : topic = topic'
  differ : channel ≠ channel'
  numbered : Numbered channel
  numbered' : Numbered channel'
  digits : ∃ name, topic.string = some name ∧
    (CStr.ofNat channel.toNat).val.take (18 - name.length) =
      (CStr.ofNat channel'.toNat).val.take (18 - name.length)

/-- Two different pairs of a topic and a channel do not get the same topic string. -/
def DistinctTopics (length : Nat) (username clientID : CStr) (topic topic' : CayenneTopic)
    (channel channel' : UInt32) : Prop :=
  (topic, channel) ≠ (topic', channel') → ∀ s s',
    cayenneBuildTopic length username clientID topic channel = some (.ok s) →
    cayenneBuildTopic length username clientID topic' channel' = some (.ok s') → s ≠ s'

/-- The suffix in its array of 20 bytes. -/
theorem truncate_suffix {topic : CayenneTopic} {name : CStr} (h : topic.string = some name)
    (channel : UInt32) :
    ((name ++ channelText channel).truncate 20).val =
      name.val ++ (channelText channel).val.take (17 - name.length + 2) := by
  have hle := CayenneTopic.length_string_le h
  have hname : name.val.length = name.length := rfl
  have hm : 19 - name.length = 17 - name.length + 2 := by omega
  show (name.val ++ (channelText channel).val).take 19 = _
  rw [List.take_append, List.take_of_length_le (by omega), hname, hm]

/-- **Topics of different channels** are different, unless the numbers of the channels agree in the
digits that are left of them. -/
theorem cayenneBuildTopic_injective_iff {length : Nat} {username clientID : CStr}
    (hlength : username.length + clientID.length + 32 ≤ length) (topic topic' : CayenneTopic)
    (channel channel' : UInt32) :
    DistinctTopics length username clientID topic topic' channel channel' ↔
      ¬ Collide topic topic' channel channel' := by
  simp only [DistinctTopics, cayenneBuildTopic_eq_ok_iff]
  -- every topic fits
  have hfits : ∀ suffix : CStr,
      (topicText username clientID (suffix.truncate 20)).length < length := by
    intro suffix
    rw [length_topicText, length_truncate]
    omega
  constructor
  · rintro hdistinct ⟨rfl, hne, hnum, hnum', name, hname, hdigits⟩
    refine hdistinct (fun h => hne (Prod.mk.inj h).2) _ _ ⟨name, hname, rfl, hfits _⟩
      ⟨name, hname, rfl, hfits _⟩ ?_
    have hle := CayenneTopic.length_string_le hname
    have hm : 18 - name.length = 17 - name.length + 1 := by omega
    rw [hm] at hdigits
    have htext := (channelText_take_eq_iff hne (17 - name.length)).2 ⟨hnum, hnum', hdigits⟩
    refine congrArg _ (CStr.ext ?_)
    rw [truncate_suffix hname, truncate_suffix hname, htext]
  · rintro hcollide hpair s s' ⟨name, hname, rfl, -⟩ ⟨name', hname', rfl, -⟩ heq
    have hval := congrArg CStr.val heq
    simp only [topicText, CStr.append_val, List.append_assoc, List.append_cancel_left_eq,
      truncate_suffix hname, truncate_suffix hname'] at hval
    obtain rfl : name = name' := CStr.ext (name_eq_of_suffix_eq
      (not_isChannelByte_of_mem_name hname) (not_isChannelByte_of_mem_name hname') (by omega)
      (by omega) hval)
    obtain rfl := CayenneTopic.string_injective hname hname'
    have hne : channel ≠ channel' := fun h => hpair (by rw [h])
    have htext := (channelText_take_eq_iff hne _).1 (List.append_cancel_left hval)
    have hle := CayenneTopic.length_string_le hname
    have hm : 18 - name.length = 17 - name.length + 1 := by omega
    exact hcollide ⟨rfl, hne, htext.1, htext.2.1, name, hname, by rw [hm]; exact htext.2.2⟩

theorem cayenneBuildTopic_injective_data :
    (lit "user").length + (lit "client").length + 32 ≤ 135 ∧
      DistinctTopics 135 (lit "user") (lit "client") .data .data 1 10 := by
  refine ⟨by decide, (cayenneBuildTopic_injective_iff (by decide) .data .data 1 10).2 ?_⟩
  rintro ⟨-, -, -, -, name, hname, hdigits⟩
  cases hname
  exact absurd hdigits (by decide +kernel)

/-- The model of the processor has room for five digits. -/
theorem sysCpuModel_collides :
    ¬ ∀ (length : Nat) (username clientID : CStr) (topic topic' : CayenneTopic)
      (channel channel' : UInt32), username.length + clientID.length + 32 ≤ length →
      DistinctTopics length username clientID topic topic' channel channel' := by
  intro h
  have hdistinct := h 135 (lit "user") (lit "client") .sysCpuModel .sysCpuModel 123456 12345
    (by decide)
  exact hdistinct (by decide) (lit "v1/user/things/client/sys/cpu/model/12345") _
    (by decide +kernel) (by decide +kernel) rfl

end Esp32Iot
