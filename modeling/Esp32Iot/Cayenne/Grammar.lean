import Esp32Iot.Cayenne.ParseTopic

/-!
# The topics that are accepted

A command or configuration topic is `v1/<username>/things/<clientID>/<kind>/<channel>`. On strings
with their terminator, `CayenneParseTopic` differs from that in three places: the character behind
the version is not looked at, kind and channel together may not have more than 31 characters, and
the channel is read with `strtoul`, which takes spaces and signs and saturates.

`accepts_iff` says what is accepted, `channelNumber_eq_iff` which channels are read as their number,
and `parses_grammar_iff` for which strings the outcome is that of the grammar. The limit of 31
characters is that of the buffer for the channel; with it, `accepts_grammar` is the grammar of the
strings that have a slash behind the version.
-/

namespace Esp32Iot

open CStr (lit)

/-! ## The grammar -/

/-- The parts of a topic: the character behind the version, the client ID, the kind and the text of
the channel. In the grammar the character is a slash. -/
structure Shape (username s : CStr) (b : UInt8) (c : Bytes) (topic : CayenneTopic) (x : Bytes) :
    Prop where
  text : ∃ name, topic.string = some name ∧
    s.val = topicHead username b ++ (c ++ 47 :: (name.val ++ 47 :: x))
  kind : topic = .command ∨ topic = .config
  clientID : (47 : UInt8) ∉ c
  nonempty : x ≠ []
  level : (47 : UInt8) ∉ x

/-- The channel that a text stands for: its number, when it is a canonical decimal of 32 bits. -/
def grammarChannel (x : Bytes) : UInt32 :=
  match canonicalNumber x with
  | some n => if n < 4294967296 then UInt32.ofNat n else cayenneNoChannel
  | none => cayenneNoChannel

/-- The call on a string with its terminator, and memory behind it, succeeds. -/
def Accepts (username s : CStr) (rest : Bytes) (parsed : ParsedTopic) : Prop :=
  cayenneParseTopic (parseTopics false) username (s.val ++ 0 :: rest) (UInt32.ofNat s.length) =
    some parsed ∧ parsed.code = none

/-- The parser accepts the string exactly when it is in the grammar, and gives its parts. -/
structure ParsesGrammar (username s : CStr) (rest : Bytes) : Prop where
  accepts : (∃ parsed, Accepts username s rest parsed) ↔ ∃ c topic x, Shape username s 47 c topic x
  parts : ∀ parsed, Accepts username s rest parsed → ∀ c topic x,
    Shape username s 47 c topic x →
      parsed.clientIDString.map CStr.val = some c ∧ parsed.topic = some topic ∧
        parsed.channel = some (grammarChannel x)

/-- The length of kind and channel with the slash between them. -/
def levelsLength (topic : CayenneTopic) (x : Bytes) : Nat :=
  (topic.string.map CStr.length).getD 0 + 1 + x.length

/-- A text that is no canonical decimal of 32 bits, but which `strtoul` reads to its end as a number
other than 0 and `CAYENNE_NO_CHANNEL`. -/
def Misread (x : Bytes) : Prop :=
  (∀ n, canonicalNumber x = some n → 4294967296 ≤ n) ∧ (strtoul x).2 = [] ∧
    x.head? ≠ some 48 ∧ (strtoul x).1 ≠ 0 ∧ (strtoul x).1 ≠ cayenneNoChannel

/-- Of the strings with these parts, those with a slash behind the version are short and have a
channel that is not misread, and the others are too long to be accepted. -/
def ShapesAgree (username s : CStr) : Prop :=
  ∀ b c topic x, Shape username s b c topic x →
    (b = 47 ∧ levelsLength topic x ≤ 31 ∧ ¬ Misread x) ∨ (b ≠ 47 ∧ 31 < levelsLength topic x)

/-! ## Channels -/

/-- More digits do not make a number smaller. -/
theorem le_foldl_digits (digits : Bytes) (n : Nat) :
    n ≤ digits.foldl (fun n b => 10 * n + (b.toNat - 48)) n := by
  induction digits generalizing n with
  | nil => exact Nat.le_refl _
  | cons b digits ih =>
    exact Nat.le_trans (show n ≤ 10 * n + (b.toNat - 48) by omega) (ih _)

/-- A numeral is 0 only when it starts with a zero. -/
theorem digitsValue_pos {x : Bytes} (hne : x ≠ []) (hdigits : x.all isDigit = true)
    (hhead : x.head? ≠ some 48) : 0 < digitsValue x := by
  obtain ⟨b, x, rfl⟩ := List.exists_cons_of_ne_nil hne
  have hb : isDigit b = true := List.all_eq_true.1 hdigits b (.head _)
  have h48 : b ≠ 48 := fun h => hhead (by rw [h]; rfl)
  have hpos : 0 < b.toNat - 48 := by
    simp only [isDigit, decide_eq_true_eq] at hb
    have hne48 : b.toNat ≠ 48 := fun h => h48 (UInt8.toNat_inj.1 h)
    omega
  exact Nat.lt_of_lt_of_le (by omega) (le_foldl_digits x (10 * 0 + (b.toNat - 48)))

/-- A canonical decimal of 32 bits is read as its number. -/
theorem channelNumber_canonical {x : Bytes} {n : Nat} (h : canonicalNumber x = some n)
    (hn : n < 4294967296) : channelNumber x = UInt32.ofNat n := by
  unfold canonicalNumber at h
  split at h
  next hcanon =>
    obtain ⟨hne, hdigits, hzero⟩ := hcanon
    obtain rfl := Option.some.inj h
    have hread : strtoul x = (UInt32.ofNat (digitsValue x), []) := by
      rw [strtoul_digits hne hdigits, if_neg (by omega)]
    unfold channelNumber
    simp only [hread]
    rw [if_pos]
    refine ⟨trivial, ?_⟩
    by_cases hhead : x.head? = some 48
    · refine .inr ⟨?_, hhead, hzero hhead⟩
      obtain ⟨b, rfl⟩ := List.length_eq_one_iff.1 (hzero hhead)
      obtain rfl : b = 48 := by simpa using hhead
      rfl
    · refine .inl ⟨fun h0 => ?_, hhead⟩
      have hpos := digitsValue_pos hne hdigits hhead
      have hval := congrArg UInt32.toNat h0
      rw [UInt32.toNat_ofNat', Nat.mod_eq_of_lt hn] at hval
      exact absurd hval (Nat.ne_of_gt hpos)
  next => cases h

/-- **The channels that are read as the grammar says.** -/
theorem channelNumber_eq_iff (x : Bytes) : channelNumber x = grammarChannel x ↔ ¬ Misread x := by
  by_cases hcanon : ∃ n, canonicalNumber x = some n ∧ n < 4294967296
  · obtain ⟨n, hn, hlt⟩ := hcanon
    refine iff_of_true ?_ fun h => Nat.not_lt.2 (h.1 n hn) hlt
    rw [channelNumber_canonical hn hlt, grammarChannel, hn]
    exact (if_pos hlt).symm
  · have hlarge : ∀ n, canonicalNumber x = some n → 4294967296 ≤ n := fun n hn =>
      Nat.le_of_not_lt fun hlt => hcanon ⟨n, hn, hlt⟩
    have hgrammar : grammarChannel x = cayenneNoChannel := by
      unfold grammarChannel
      split
      next n hn => rw [if_neg (Nat.not_lt.2 (hlarge n hn))]
      next => rfl
    -- the numeral of 0 is canonical
    have hzero : ¬ (x.head? = some 48 ∧ x.length = 1) := by
      rintro ⟨hhead, hlen⟩
      obtain ⟨b, rfl⟩ := List.length_eq_one_iff.1 hlen
      obtain rfl : b = 48 := by simpa using hhead
      exact absurd (hlarge 0 rfl) (by decide)
    rw [hgrammar]
    unfold channelNumber Misread
    simp only
    split
    next h =>
      obtain ⟨hend, hnumber⟩ := h
      rcases hnumber with ⟨hne, hhead⟩ | ⟨-, hhead, hlen⟩
      · constructor
        · intro heq hmisread
          exact hmisread.2.2.2.2 heq
        · intro hmisread
          exact Classical.not_not.1 fun hne' => hmisread ⟨hlarge, hend, hhead, hne, hne'⟩
      · exact absurd ⟨hhead, hlen⟩ hzero
    next h =>
      refine iff_of_true rfl ?_
      rintro ⟨-, hend, hhead, hne, -⟩
      exact h ⟨hend, .inl ⟨hne, hhead⟩⟩

/-! ## Acceptance -/

/-- The length of kind and channel of a topic that has a name. -/
theorem levelsLength_eq {topic : CayenneTopic} {name : CStr} (h : topic.string = some name)
    (x : Bytes) : levelsLength topic x = name.length + 1 + x.length := by
  rw [levelsLength, h]
  rfl

/-- The entry of a name that is found is that of commands or of configurations. -/
theorem entry_of_find {text : Bytes} {entry : TopicChannel}
    (h : (parseTopics false).find? (·.fits text) = some entry) :
    ∃ topic name, (topic = .command ∨ topic = .config) ∧ topic.string = some name ∧
      entry = ⟨topic, cayenneAllChannels⟩ := by
  have hentry : entry = ⟨.command, cayenneAllChannels⟩ ∨
      entry = ⟨.config, cayenneAllChannels⟩ := by
    simpa [parseTopics] using List.mem_of_find?_eq_some h
  rcases hentry with rfl | rfl
  · exact ⟨_, _, .inl rfl, rfl, rfl⟩
  · exact ⟨_, _, .inr rfl, rfl, rfl⟩

/-- A name with an entry is accepted by its length. -/
theorem parseName_code_of_find {text : Bytes} {topic : CayenneTopic}
    (h : (parseTopics false).find? (·.fits text) = some ⟨topic, cayenneAllChannels⟩) :
    (parseName (parseTopics false) text).1 = none ↔ ¬ (text = [] ∨ 31 < text.length) := by
  have hchannel : cayenneAllChannels ≠ cayenneNoChannel := by decide
  unfold parseName
  simp only [h, if_neg hchannel]
  split
  next hlong => simp [hlong]
  next hshort => simp [hshort]

/-- The names that are accepted behind a client ID. -/
theorem parseName_code_iff (text : Bytes) :
    (parseName (parseTopics false) text).1 = none ↔
      ∃ topic name x, (topic = .command ∨ topic = .config) ∧
        CayenneTopic.string topic = some name ∧ text = name.val ++ 47 :: x ∧ x ≠ [] ∧
        (47 : UInt8) ∉ x ∧ name.length + 1 + x.length ≤ 31 := by
  have hlen : ∀ (name : CStr) (x : Bytes),
      (name.val ++ 47 :: x).length = name.length + 1 + x.length := by
    intro name x
    rw [List.length_append, List.length_cons, CStr.length]
    omega
  constructor
  · intro h
    cases hfind : (parseTopics false).find? (·.fits text) with
    | none =>
      unfold parseName at h
      rw [hfind] at h
      cases h
    | some entry =>
      have hfits : entry.fits text = true := by simpa using List.find?_some hfind
      obtain ⟨topic, name, htopic, hname, rfl⟩ := entry_of_find hfind
      obtain ⟨x, rfl, hne, hx⟩ := (fits_allChannels hname text).1 hfits
      have hshort := (parseName_code_of_find hfind).1 h
      rw [hlen] at hshort
      exact ⟨topic, name, x, htopic, hname, rfl, hne, hx, by omega⟩
  · rintro ⟨topic, name, x, htopic, hname, rfl, hne, hx, hshort⟩
    refine (parseName_code_of_find (find_parseTopics htopic hname false hne hx)).2 ?_
    rw [hlen]
    rintro (hnil | hlong)
    · exact absurd hnil (by simp)
    · omega

/-- In a topic that is accepted, the client ID ends. -/
theorem Accepts.inside {username s : CStr} {rest : Bytes} {parsed : ParsedTopic}
    (h : Accepts username s rest parsed) (hshort : s.length ≤ cayenneMaxMessageSize) :
    ∃ b c text, Scan.Clear 47 0 c ∧ s.val = topicHead username b ++ (c ++ 47 :: text) := by
  obtain ⟨hparsed, hcode⟩ := h
  have hmax : cayenneMaxMessageSize = 134 := rfl
  have htoNat : (UInt32.ofNat s.length).toNat = s.length :=
    UInt32.toNat_ofNat_of_lt' (show s.length < 4294967296 by omega)
  obtain ⟨found, hfound, hrest⟩ := Option.map_eq_some_iff.1 hparsed
  cases found with
  | error e =>
    rw [← hrest] at hcode
    cases hcode
  | ok e =>
    obtain ⟨hlength, b, c, after, hmem, hclear, rfl⟩ := findDeviceID_eq_ok_iff.1 hfound
    refine ⟨b, c, ?_⟩
    rcases Nat.lt_or_ge s.length (12 + username.length + c.length) with houtside | hinside
    · -- the topic ends before, and nothing fits
      rw [hmem, cayenneParseTopic_found _ username b after hclear hlength,
        parseSuffix_outside _ _ _ (by rw [htoNat]; exact houtside)] at hparsed
      rw [← Option.some.inj hparsed] at hcode
      cases hcode
    · have hstart : topicHead username b ++ (c ++ [47]) <+: s.val ++ 0 :: rest := by
        rw [hmem]
        exact ⟨after, by simp⟩
      have hle : (topicHead username b ++ (c ++ [47])).length ≤ s.val.length := by
        simp only [List.length_append, List.length_singleton, length_topicHead]
        show _ ≤ s.length
        omega
      obtain ⟨text, htext⟩ := List.prefix_of_prefix_length_le hstart (List.prefix_append _ _) hle
      exact ⟨text, hclear, by rw [← htext]; simp⟩

/-- What the parser makes of a string with the parts of a topic. -/
theorem Shape.parsed {username s : CStr} {b : UInt8} {c : Bytes} {topic : CayenneTopic} {x : Bytes}
    (h : Shape username s b c topic x) (hshort : s.length ≤ cayenneMaxMessageSize)
    (rest : Bytes) :
    ∃ parsed, cayenneParseTopic (parseTopics false) username (s.val ++ 0 :: rest)
        (UInt32.ofNat s.length) = some parsed ∧
      (parsed.code = none ↔ levelsLength topic x ≤ 31) ∧
      (parsed.code = none → parsed.clientIDString.map CStr.val = some c ∧
        parsed.topic = some topic ∧ parsed.channel = some (channelNumber x)) := by
  obtain ⟨name, hname, htext⟩ := h.text
  have hfree : ∀ b ∈ s.val, b ≠ 0 := fun b hb heq => s.nulFree (heq ▸ hb)
  have hclear : Scan.Clear 47 0 c := fun b hb =>
    ⟨fun heq => h.clientID (heq ▸ hb), hfree b (by rw [htext]; simp [hb])⟩
  have hnul : (0 : UInt8) ∉ x := fun hmem => hfree 0 (by rw [htext]; simp [hmem]) rfl
  have hparse := parseName_channel h.level hnul
    (find_parseTopics h.kind hname false h.nonempty h.level)
  rw [cayenneParseTopic_string (parseTopics false) username b hclear htext hshort, hparse,
    levelsLength_eq hname]
  refine ⟨_, rfl, ?_, ?_⟩
  · simp only
    split
    next hfits => simp [hfits]
    next hlong => simp [hlong]
  · intro hcode
    rw [clientIDString_found username b _ hclear]
    simp only at hcode ⊢
    split at hcode
    next hfits => simp [hfits]
    next => cases hcode

/-- **What is accepted**: the strings with the parts of a topic, whatever stands behind the version,
that are short enough. -/
theorem accepts_iff {username s : CStr} (hshort : s.length ≤ cayenneMaxMessageSize)
    (rest : Bytes) :
    (∃ parsed, Accepts username s rest parsed) ↔
      ∃ b c topic x, Shape username s b c topic x ∧ levelsLength topic x ≤ 31 := by
  constructor
  · rintro ⟨parsed, haccepts⟩
    obtain ⟨b, c, text, hclear, htext⟩ := haccepts.inside hshort
    obtain ⟨hparsed, hcode⟩ := haccepts
    rw [cayenneParseTopic_string (parseTopics false) username b hclear htext hshort] at hparsed
    rw [← Option.some.inj hparsed] at hcode
    obtain ⟨topic, name, x, hkind, hname, rfl, hne, hx, hfits⟩ := (parseName_code_iff text).1 hcode
    refine ⟨b, c, topic, x, ⟨⟨name, hname, htext⟩, hkind, fun h => (hclear 47 h).1 rfl, hne, hx⟩,
      ?_⟩
    rwa [levelsLength_eq hname]
  · rintro ⟨b, c, topic, x, hshape, hfits⟩
    obtain ⟨parsed, hparsed, hcode, -⟩ := hshape.parsed hshort rest
    exact ⟨parsed, hparsed, hcode.2 hfits⟩

/-- A string has the parts of a topic in one way only, as far as the first of them. -/
theorem Shape.unique_b {username s : CStr} {b b' : UInt8} {c c' : Bytes}
    {topic topic' : CayenneTopic} {x x' : Bytes} (h : Shape username s b c topic x)
    (h' : Shape username s b' c' topic' x') : b = b' := by
  obtain ⟨name, -, htext⟩ := h.text
  obtain ⟨name', -, htext'⟩ := h'.text
  have hval := congrArg (fun l : Bytes => l[2]?) (htext.symm.trans htext')
  simpa [topicHead] using hval

/-- **The outcome is that of the grammar** exactly when the parts of the string agree. -/
theorem parses_grammar_iff {username s : CStr} (hshort : s.length ≤ cayenneMaxMessageSize)
    (rest : Bytes) : ParsesGrammar username s rest ↔ ShapesAgree username s := by
  constructor
  · intro h b c topic x hshape
    obtain ⟨parsed, hparsed, hcode, hparts⟩ := hshape.parsed hshort rest
    by_cases hfits : levelsLength topic x ≤ 31
    · -- accepted, so it is in the grammar
      have haccepts : Accepts username s rest parsed := ⟨hparsed, hcode.2 hfits⟩
      obtain ⟨c', topic', x', hshape'⟩ := h.accepts.1 ⟨parsed, haccepts⟩
      obtain rfl := hshape.unique_b hshape'
      have hchannel := (h.parts parsed haccepts c topic x hshape).2.2
      rw [(hparts (hcode.2 hfits)).2.2, Option.some.injEq] at hchannel
      exact .inl ⟨rfl, hfits, (channelNumber_eq_iff x).1 hchannel⟩
    · refine .inr ⟨?_, Nat.lt_of_not_le hfits⟩
      rintro rfl
      obtain ⟨parsed', haccepts⟩ := h.accepts.2 ⟨c, topic, x, hshape⟩
      rw [← Option.some.inj (hparsed.symm.trans haccepts.1)] at haccepts
      exact hfits (hcode.1 haccepts.2)
  · intro h
    constructor
    · rw [accepts_iff hshort]
      constructor
      · rintro ⟨b, c, topic, x, hshape, hfits⟩
        rcases h b c topic x hshape with ⟨rfl, -⟩ | ⟨-, hlong⟩
        · exact ⟨c, topic, x, hshape⟩
        · omega
      · rintro ⟨c, topic, x, hshape⟩
        rcases h 47 c topic x hshape with ⟨-, hfits, -⟩ | ⟨hne, -⟩
        · exact ⟨47, c, topic, x, hshape, hfits⟩
        · exact absurd rfl hne
    · intro parsed haccepts c topic x hshape
      obtain ⟨parsed', hparsed, hcode, hparts⟩ := hshape.parsed hshort rest
      obtain rfl := Option.some.inj (haccepts.1.symm.trans hparsed)
      obtain ⟨hclient, htopic, hchannel⟩ := hparts haccepts.2
      refine ⟨hclient, htopic, ?_⟩
      rcases h 47 c topic x hshape with ⟨-, -, hread⟩ | ⟨hne, -⟩
      · rw [hchannel, (channelNumber_eq_iff x).2 hread]
      · exact absurd rfl hne

/-- The point behind the version is taken for a slash. -/
example : ∃ parsed, Accepts (lit "u") (lit "v1.u/things/c/cmd/5") [] parsed :=
  ⟨⟨none, some .command, some 5, some 12, (lit "v1.u/things/c").val ++ 0 :: (lit "cmd/5").val ++
    [0]⟩, by decide +kernel, rfl⟩

/-- **The topics with a slash behind the version** are accepted when they are in the grammar and
kind and channel fit their buffer, and their parts are those of the grammar, up to the channels that
`strtoul` takes for numbers. -/
theorem accepts_grammar {username s : CStr} (hshort : s.length ≤ cayenneMaxMessageSize)
    (hslash : ∀ b, s.val[2]? = some b → b = 47) (rest : Bytes) :
    ((∃ parsed, Accepts username s rest parsed) ↔
      ∃ c topic x, Shape username s 47 c topic x ∧ levelsLength topic x ≤ 31) ∧
    ∀ parsed, Accepts username s rest parsed → ∀ c topic x, Shape username s 47 c topic x →
      parsed.clientIDString.map CStr.val = some c ∧ parsed.topic = some topic ∧
        (¬ Misread x → parsed.channel = some (grammarChannel x)) := by
  constructor
  · rw [accepts_iff hshort]
    constructor
    · rintro ⟨b, c, topic, x, hshape, hfits⟩
      obtain ⟨name, -, htext⟩ := hshape.text
      obtain rfl : b = 47 := hslash b (by rw [htext]; rfl)
      exact ⟨c, topic, x, hshape, hfits⟩
    · rintro ⟨c, topic, x, hshape, hfits⟩
      exact ⟨47, c, topic, x, hshape, hfits⟩
  · intro parsed haccepts c topic x hshape
    obtain ⟨parsed', hparsed, -, hparts⟩ := hshape.parsed hshort rest
    obtain rfl := Option.some.inj (haccepts.1.symm.trans hparsed)
    obtain ⟨hclient, htopic, hchannel⟩ := hparts haccepts.2
    refine ⟨hclient, htopic, fun hread => ?_⟩
    rw [hchannel, (channelNumber_eq_iff x).2 hread]

theorem accepts_grammar_cmd :
    (lit "v1/u/things/c/cmd/5").length ≤ cayenneMaxMessageSize ∧
      (lit "v1/u/things/c/cmd/5").val[2]? = some 47 ∧
      ∃ parsed, Accepts (lit "u") (lit "v1/u/things/c/cmd/5") [] parsed := by
  have hslash : (lit "v1/u/things/c/cmd/5").val[2]? = some 47 := by decide
  have hthird : ∀ b, (lit "v1/u/things/c/cmd/5").val[2]? = some b → b = 47 := by
    intro b hb
    exact Option.some.inj (hb.symm.trans hslash)
  refine ⟨by decide, hslash, (accepts_grammar (by decide) hthird []).1.2 ?_⟩
  exact ⟨(lit "c").val, .command, (lit "5").val,
    ⟨⟨lit "cmd", rfl, by decide⟩, .inl rfl, by decide, by decide, by decide⟩, by decide⟩

/-- A channel of 28 characters: with its kind it does not fit the buffer. -/
theorem long_channel_refused :
    ¬ ∀ (username s : CStr) (rest : Bytes), s.length ≤ cayenneMaxMessageSize →
      ParsesGrammar username s rest := by
  intro h
  have hgrammar := h (lit "u") (lit "v1/u/things/c/cmd/1234567890123456789012345678") [] (by decide)
  have hshape : Shape (lit "u") (lit "v1/u/things/c/cmd/1234567890123456789012345678") 47
      (lit "c").val .command (lit "1234567890123456789012345678").val :=
    ⟨⟨lit "cmd", rfl, by decide⟩, .inl rfl, by decide, by decide, by decide⟩
  obtain ⟨parsed, hparsed, hcode⟩ := hgrammar.accepts.2 ⟨_, _, _, hshape⟩
  have hrefused : cayenneParseTopic (parseTopics false) (lit "u")
      ((lit "v1/u/things/c/cmd/1234567890123456789012345678").val ++ [0]) 46 =
      some ⟨some .failure, some .command, some cayenneNoChannel, some 12,
        (lit "v1/u/things/c").val ++
          0 :: (lit "cmd/1234567890123456789012345678").val ++ [0]⟩ := by decide +kernel
  obtain rfl := Option.some.inj (hrefused.symm.trans hparsed)
  cases hcode

end Esp32Iot
