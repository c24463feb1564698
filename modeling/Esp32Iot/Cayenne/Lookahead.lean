import Esp32Iot.Cayenne.ParseTopic

/-!
# What the parser reads behind a topic

In the receive buffer a topic has no terminator, and the payload follows it. `MQTTMessageArrived`
gives the length of the topic to `CayenneParseTopic`, which uses it only after `strncmp` and
`strchr` have found the end of the client ID. A topic that ends before that is continued with the
payload: the parser overwrites the next slash there, and the length wraps around when it is
subtracted.

`topic_only_iff` says that these are the only topics for which the payload matters.
-/

namespace Esp32Iot

open CStr (lit)

/-- What the caller of `CayenneParseTopic` gets: the return code, the topic, the channel and the
client ID. -/
def ParsedTopic.outcome (p : ParsedTopic) :
    Option CayenneError × Option CayenneTopic × Option UInt32 × Option CStr :=
  (p.code, p.topic, p.channel, p.clientIDString)

/-- The call of `MQTTMessageArrived`, for a topic with memory behind it. -/
def parseReceived (table : List TopicChannel) (username : CStr) (topic rest : Bytes) :
    Option ParsedTopic :=
  cayenneParseTopic table username (topic ++ rest) (UInt32.ofNat topic.length)

/-- Parsing looks at the topic only: what follows it does not change the outcome and is not
changed, and no more than the length of the topic is subtracted from it. -/
structure TopicOnly (table : List TopicChannel) (username : CStr) (topic : Bytes) : Prop where
  same : ∀ rest rest', (parseReceived table username topic rest).map ParsedTopic.outcome =
    (parseReceived table username topic rest').map ParsedTopic.outcome
  keeps : ∀ rest, ∃ parsed, parseReceived table username topic rest = some parsed ∧
    parsed.memory.drop topic.length = rest
  subtracts : ∀ rest deviceIDEnd, findDeviceID username (topic ++ rest)
    (UInt32.ofNat topic.length) = some (.ok deviceIDEnd) → deviceIDEnd + 1 ≤ topic.length

/-- The topic ends in or before the client ID: it is the start of what the parser expects there. -/
def EndsEarly (username : CStr) (topic : Bytes) : Prop :=
  ∃ b c, Scan.Clear 47 0 c ∧ topic <+: topicHead username b ++ c

section
variable (table : List TopicChannel) {username : CStr} {topic : Bytes}

/-- A refusal that the topic alone decides. -/
theorem topicOnly_of_error {e : CayenneError}
    (h : findDeviceID username topic (UInt32.ofNat topic.length) = some (.error e)) :
    TopicOnly table username topic := by
  have hparse : ∀ rest, parseReceived table username topic rest =
      some ⟨some e, none, none, none, topic ++ rest⟩ := by
    intro rest
    rw [parseReceived, cayenneParseTopic, findDeviceID_append h]
    rfl
  constructor
  · intro rest rest'
    rw [hparse, hparse]
    rfl
  · intro rest
    exact ⟨_, hparse rest, List.drop_left⟩
  · intro rest deviceIDEnd hfound
    rw [findDeviceID_append h] at hfound
    cases hfound

section
variable (hshort : topic.length ≤ cayenneMaxMessageSize) {b : UInt8} {c after : Bytes}
  (hclear : Scan.Clear 47 0 c) (htopic : topic = topicHead username b ++ (c ++ 47 :: after))
include hshort hclear htopic

/-- The slash behind the client ID is found in the topic. -/
theorem findDeviceID_of_found (rest : Bytes) :
    findDeviceID username (topic ++ rest) (UInt32.ofNat topic.length) =
      some (.ok (11 + username.length + c.length)) := by
  have hmax : cayenneMaxMessageSize = 134 := rfl
  have htoNat : (UInt32.ofNat topic.length).toNat = topic.length :=
    UInt32.toNat_ofNat_of_lt' (show topic.length < 4294967296 by omega)
  refine findDeviceID_eq_ok_iff.2 ⟨by omega, b, c, after ++ rest, ?_, hclear, rfl⟩
  rw [htopic]
  simp only [List.append_assoc, List.cons_append]

/-- What follows is parsed without the payload. -/
theorem parseReceived_of_found (rest : Bytes) :
    parseReceived table username topic rest =
      some ⟨(parseName table after).1, some (parseName table after).2.1,
        some (parseName table after).2.2, some (11 + username.length),
        topicHead username b ++ (c ++ 0 :: after) ++ rest⟩ := by
  have hmax : cayenneMaxMessageSize = 134 := rfl
  have htoNat : (UInt32.ofNat topic.length).toNat = topic.length :=
    UInt32.toNat_ofNat_of_lt' (show topic.length < 4294967296 by omega)
  have hlength : topic.length = 12 + username.length + c.length + after.length := by
    rw [htopic]
    simp only [List.length_append, List.length_cons, length_topicHead]
    omega
  have hmem : topic ++ rest = topicHead username b ++ (c ++ 47 :: (after ++ rest)) := by
    rw [htopic]
    simp only [List.append_assoc, List.cons_append]
  have htake : (after ++ rest).take (topic.length - (12 + username.length + c.length)) =
      after := by
    rw [hlength, Nat.add_sub_cancel_left]
    exact List.take_left
  have hmore : after.length ≤ (after ++ rest).length := (List.prefix_append _ _).length_le
  rw [parseReceived, hmem, cayenneParseTopic_inside table username b _ hclear (by omega)
    (by omega) (by omega), htoNat, htake]
  simp only [List.append_assoc, List.cons_append]

/-- A topic in which the client ID ends. -/
theorem topicOnly_of_found : TopicOnly table username topic := by
  have hparse := parseReceived_of_found table hshort hclear htopic
  constructor
  · intro rest rest'
    rw [hparse, hparse]
    simp only [Option.map_some, ParsedTopic.outcome, List.append_assoc, List.cons_append,
      clientIDString_found username b _ hclear]
  · intro rest
    have hsame : topic.length = (topicHead username b ++ (c ++ 0 :: after)).length := by
      rw [htopic]
      simp only [List.length_append, List.length_cons]
    refine ⟨_, hparse rest, ?_⟩
    rw [hsame]
    exact List.drop_left
  · intro rest deviceIDEnd hfound
    rw [findDeviceID_of_found hshort hclear htopic] at hfound
    cases hfound
    rw [htopic]
    simp only [List.length_append, List.length_cons, length_topicHead]
    omega

end

/-- **The payload does not matter**, exactly for the topics that are too long or do not end before
the slash behind the client ID. -/
theorem topic_only_iff (username : CStr) (topic : Bytes) (htopic : topic.length < 65536) :
    TopicOnly table username topic ↔
      cayenneMaxMessageSize < topic.length ∨ ¬ EndsEarly username topic := by
  have htoNat : (UInt32.ofNat topic.length).toNat = topic.length :=
    UInt32.toNat_ofNat_of_lt' (show topic.length < 4294967296 by omega)
  rcases Nat.lt_or_ge cayenneMaxMessageSize topic.length with hlong | hshort
  · refine iff_of_true (topicOnly_of_error table (if_pos ?_)) (.inl hlong)
    rwa [htoNat]
  · constructor
    · rintro h
      refine .inr ?_
      rintro ⟨b, c, hclear, t, ht⟩
      -- the payload that completes the client ID
      have hmem : topic ++ (t ++ [47]) = topicHead username b ++ (c ++ 47 :: []) := by
        rw [← List.append_assoc, ht]
        simp
      have hfound := h.subtracts (t ++ [47]) _
        (findDeviceID_eq_ok_iff.2 ⟨by omega, b, c, [], hmem, hclear, rfl⟩)
      have hlen := congrArg List.length ht
      simp only [List.length_append, length_topicHead] at hlen
      omega
    · rintro (hlong | hearly)
      · omega
      · have hfits : (UInt32.ofNat topic.length).toNat ≤ cayenneMaxMessageSize := by omega
        rcases findDeviceID_cases username topic hfits with ⟨b, t, rfl⟩ | herror | ⟨-, b, hpre⟩
        · rcases Scan.seek_cases 47 0 t with hclear | ⟨c, after, rfl, hclear⟩ |
            ⟨c, after, rfl, hclear⟩
          · exact absurd ⟨b, t, hclear, List.prefix_rfl⟩ hearly
          · exact topicOnly_of_found table hshort hclear rfl
          · refine topicOnly_of_error table (e := .failure) ?_
            rw [findDeviceID_head (by omega), Scan.seek_stopped (by decide) hclear]
            rfl
        · exact topicOnly_of_error table herror
        · exact absurd ⟨b, [], nofun, hpre.trans (List.prefix_append _ _)⟩ hearly

end

theorem topic_only_cmd :
    (lit "v1/u/things/c/cmd/5").val.length < 65536 ∧
      TopicOnly (parseTopics false) (lit "u") (lit "v1/u/things/c/cmd/5").val := by
  refine ⟨by decide, (topic_only_iff (parseTopics false) (lit "u") _ (by decide)).2 (.inr ?_)⟩
  rintro ⟨b, c, hclear, hpre⟩
  have hdrop := hpre.drop (topicHead (lit "u") b).length
  have hc : (topicHead (lit "u") b ++ c).drop (topicHead (lit "u") b).length = c := List.drop_left
  rw [hc] at hdrop
  rw [length_topicHead] at hdrop
  have hslash : (47 : UInt8) ∈ c := hdrop.subset (by decide)
  exact (hclear 47 hslash).1 rfl

/-- A topic that ends with its client ID: the slash of the payload is overwritten. -/
theorem payload_is_parsed :
    ¬ ∀ (table : List TopicChannel) (username : CStr) (topic : Bytes), topic.length < 65536 →
      TopicOnly table username topic := by
  intro h
  have hkeeps := (h (parseTopics false) (lit "u") (lit "v1/u/things/c").val (by decide)).keeps
    (bytes "x/1")
  obtain ⟨parsed, hparsed, hdrop⟩ := hkeeps
  have hfound : parseReceived (parseTopics false) (lit "u") (lit "v1/u/things/c").val
      (bytes "x/1") = some ⟨some .failure, some .undefined, some cayenneNoChannel, some 12,
        bytes "v1/u/things/cx" ++ 0 :: bytes "1"⟩ := by decide +kernel
  rw [hfound] at hparsed
  rw [← Option.some.inj hparsed] at hdrop
  exact absurd hdrop (by decide)

end Esp32Iot
