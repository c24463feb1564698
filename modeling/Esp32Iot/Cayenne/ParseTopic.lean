import Esp32Iot.Cayenne
import Esp32Iot.Cayenne.Suffix
import Esp32Iot.CNumber
import Esp32Iot.Lib.Scan

/-!
# Parsing a topic

`topicMatches` and `CayenneParseTopic` of `CayenneUtils.c`. The topic lies in memory that goes on
behind it: in the receive buffer the payload follows without a terminator. The parser compares and
searches with `strncmp` and `strchr`, which do not know the length of the topic, and uses the length
only for what is behind the client ID. So the model is given the memory from `topicName` on
(`Bytes`) and the length beside it, and `none` is a read behind all of that memory.

`findDeviceID_eq_ok_iff` says where the client ID ends, and `findDeviceID_append` that what has been
found does not depend on what follows. `parseTopic_built` is the round trip: a command or
configuration topic that `CayenneBuildTopic` has built is parsed into its parts.
-/

namespace Esp32Iot

open CStr (lit)

/-! ## The source -/

/-- `TopicChannel`. -/
structure TopicChannel where
  topic : CayenneTopic
  channel : UInt32
  deriving DecidableEq

/-- `parseTopics`, without and with `PARSE_INFO_PAYLOADS`. -/
def parseTopics (parseInfo : Bool) : List TopicChannel :=
  [⟨.command, cayenneAllChannels⟩, ⟨.config, cayenneAllChannels⟩] ++
    if parseInfo then
      [⟨.data, cayenneAllChannels⟩, ⟨.sysModel, cayenneNoChannel⟩,
        ⟨.sysVersion, cayenneNoChannel⟩, ⟨.sysCpuModel, cayenneNoChannel⟩,
        ⟨.sysCpuSpeed, cayenneNoChannel⟩]
    else []

/-- The loop of `topicMatches`, with the filter and the name from where `curf` and `curn` point
on. -/
def matchLoop : Bytes → Bytes → Bool
  | [], name => name.isEmpty
  | _ :: _, [] => false
  | f :: filter, n :: name =>
    -- the characters are '/', '+' and '#'
    if n = 47 ∧ f ≠ 47 then false
    else if f ≠ 43 ∧ f ≠ 35 ∧ f ≠ n then false
    else if f = 43 then matchLoop filter (name.dropWhile (· ≠ 47))
    else if f = 35 then matchLoop filter []
    else matchLoop filter name

/-- `topicMatches`, for the name at an index of the memory. The end of the name is a pointer of 32
bits; when it lies before the start, the loop is not entered. -/
def topicMatches (filter mem : Bytes) (index : Nat) (topicNameLen : UInt32) : Bool :=
  let curnEnd := (index + topicNameLen.toNat) % 4294967296
  if curnEnd < index then false
  else matchLoop filter ((mem.drop index).take (curnEnd - index))

/-- The first half of `CayenneParseTopic`: `deviceIDEnd`, as an index. -/
def findDeviceID (username : CStr) (mem : Bytes) (length : UInt32) :
    Option (Except CayenneError Nat) :=
  if cayenneMaxMessageSize < length.toNat then some (.error .bufferOverflow)
  else
    (Scan.leads (lit "v1").val mem).bind fun version =>
    if !version then some (.error .failure)
    else
      -- the character behind the version is skipped
      let index := (lit "v1").length + 1
      (Scan.leads username.val (mem.drop index)).bind fun user =>
      if !user then some (.error .failure)
      else
        let index := index + username.length
        (Scan.leads (lit "/things/").val (mem.drop index)).bind fun things =>
        if !things then some (.error .failure)
        else
          let index := index + (lit "/things/").length
          (Scan.seek 47 0 (mem.drop index)).map fun deviceIDEnd =>
            match deviceIDEnd with
            | none => .error .failure
            | some k => .ok (index + k)

/-- `strrchr(s, '/') + 1`, if there is one. -/
def lastSegment (s : Bytes) : Option Bytes :=
  if 47 ∈ s then some ((s.reverse.takeWhile (· ≠ 47)).reverse) else none

/-- The channel that the characters from `channelIndex` on stand for. -/
def channelNumber (channelIndex : Bytes) : UInt32 :=
  let (number, indexEnd) := strtoul channelIndex
  if indexEnd = [] ∧
      ((number ≠ 0 ∧ channelIndex.head? ≠ some 48) ∨
        (number = 0 ∧ channelIndex.head? = some 48 ∧ channelIndex.length = 1)) then number
  else cayenneNoChannel

/-- The channel in `buffer`. -/
def parseChannel (buffer : CStr) : UInt32 :=
  match lastSegment buffer.val with
  | none => cayenneNoChannel
  | some channelIndex => channelNumber channelIndex

/-- A call of `CayenneParseTopic`: its return code, where `none` is `CAYENNE_SUCCESS`, what it
stored through its pointers, and the memory from `topicName` on. -/
structure ParsedTopic where
  code : Option CayenneError
  topic : Option CayenneTopic
  channel : Option UInt32
  /-- `*clientID`, as an index -/
  clientID : Option Nat
  memory : Bytes
  deriving DecidableEq

/-- The second half of `CayenneParseTopic`, with `length` after the subtraction. -/
def parseSuffix (table : List TopicChannel) (clientID : Nat) (memory : Bytes) (index : Nat)
    (length : UInt32) : ParsedTopic :=
  let entry := table.find? fun entry =>
    match buildSuffix 32 entry.topic entry.channel with
    | some (.ok channelSuffix) => topicMatches channelSuffix.val memory index length
    | _ => false
  match entry with
  | none => ⟨some .failure, some .undefined, some cayenneNoChannel, some clientID, memory⟩
  | some entry =>
    if entry.channel = cayenneNoChannel then
      ⟨none, some entry.topic, some cayenneNoChannel, some clientID, memory⟩
    else if length = 0 ∨ 31 < length then
      ⟨some .failure, some entry.topic, some cayenneNoChannel, some clientID, memory⟩
    else
      let buffer := CStr.ofBytes ((memory.drop index).take length.toNat)
      ⟨none, some entry.topic, some (parseChannel buffer), some clientID, memory⟩

/-- `CayenneParseTopic`. -/
def cayenneParseTopic (table : List TopicChannel) (username : CStr) (mem : Bytes)
    (length : UInt32) : Option ParsedTopic :=
  (findDeviceID username mem length).map fun found =>
    match found with
    | .error e => ⟨some e, none, none, none, mem⟩
    | .ok deviceIDEnd =>
      let clientID := (lit "v1").length + 1 + username.length + (lit "/things/").length
      let index := deviceIDEnd + 1
      parseSuffix table clientID (mem.set deviceIDEnd 0) index (length - UInt32.ofNat index)

/-- The client ID that the caller reads. -/
def ParsedTopic.clientIDString (p : ParsedTopic) : Option CStr :=
  p.clientID.map fun i => CStr.ofBytes (p.memory.drop i)

/-! ## The filter -/

/-- A character of the filter that is none of the wildcards. -/
theorem matchLoop_literal {f : UInt8} (hplus : f ≠ 43) (hhash : f ≠ 35) (filter name : Bytes) :
    matchLoop (f :: filter) name = true ↔
      ∃ name', name = f :: name' ∧ matchLoop filter name' = true := by
  cases name with
  | nil => simp [matchLoop]
  | cons n name =>
    rw [matchLoop]
    simp only [hplus, hhash, ne_eq, not_false_eq_true, true_and, if_false]
    by_cases heq : f = n
    · subst heq
      simp
    · simp [heq, Ne.symm heq]

/-- A part of the filter without wildcards is compared. -/
theorem matchLoop_append {literal : Bytes} (h : ∀ f ∈ literal, f ≠ 43 ∧ f ≠ 35)
    (filter name : Bytes) :
    matchLoop (literal ++ filter) name = true ↔
      ∃ name', name = literal ++ name' ∧ matchLoop filter name' = true := by
  induction literal generalizing name with
  | nil => simp
  | cons f literal ih =>
    have hf := h f (.head _)
    rw [List.cons_append, matchLoop_literal hf.1 hf.2]
    constructor
    · rintro ⟨name', rfl, hmatch⟩
      obtain ⟨name'', rfl, hrest⟩ := (ih (fun g hg => h g (.tail _ hg)) name').1 hmatch
      exact ⟨name'', rfl, hrest⟩
    · rintro ⟨name', rfl, hrest⟩
      exact ⟨literal ++ name', rfl, (ih (fun g hg => h g (.tail _ hg)) _).2 ⟨name', rfl, hrest⟩⟩

/-- A `+` at the end stands for a level that is not empty. -/
theorem matchLoop_plus (name : Bytes) :
    matchLoop [43] name = true ↔ name ≠ [] ∧ (47 : UInt8) ∉ name := by
  cases name with
  | nil => simp [matchLoop]
  | cons n name =>
    by_cases hn : n = 47
    · simp [matchLoop, hn]
    · simp [matchLoop, hn, Ne.symm hn]
      exact ⟨fun h hmem => h 47 hmem rfl, fun h b hb heq => h (heq ▸ hb)⟩

/-- The end of the name is that of the topic, unless it starts behind it. -/
theorem topicMatches_eq (filter mem : Bytes) (index : Nat) (length : UInt32) :
    topicMatches filter mem index (length - UInt32.ofNat index) =
      (decide (index ≤ length.toNat) &&
        matchLoop filter ((mem.drop index).take (length.toNat - index))) := by
  have hlength := length.toNat_lt
  have hend : (index + (length - UInt32.ofNat index).toNat) % 4294967296 = length.toNat := by
    rw [UInt32.toNat_sub, UInt32.toNat_ofNat']
    show (index + (4294967296 - index % 4294967296 + length.toNat) % 4294967296) % 4294967296 = _
    omega
  rw [topicMatches, hend]
  by_cases hle : index ≤ length.toNat
  · rw [if_neg (Nat.not_lt.2 hle), decide_eq_true hle, Bool.true_and]
  · rw [if_pos (Nat.lt_of_not_le hle), decide_eq_false hle, Bool.false_and]

/-! ## The client ID -/

/-- What the parser expects before the client ID: any character stands behind the version. -/
def topicHead (username : CStr) (b : UInt8) : Bytes :=
  118 :: 49 :: b :: (username.val ++ (lit "/things/").val)

theorem length_topicHead (username : CStr) (b : UInt8) :
    (topicHead username b).length = 11 + username.length := by
  have h : (lit "/things/").val.length = 8 := rfl
  simp only [topicHead, List.length_cons, List.length_append, h, CStr.length]
  omega

section
variable {username : CStr} {mem : Bytes} {length : UInt32}

/-- Behind the expected start, the parser looks for the next slash. -/
theorem findDeviceID_head (hlength : length.toNat ≤ cayenneMaxMessageSize) (username : CStr)
    (b : UInt8) (mem : Bytes) :
    findDeviceID username (topicHead username b ++ mem) length =
      (Scan.seek 47 0 mem).map fun deviceIDEnd =>
        match deviceIDEnd with
        | none => .error .failure
        | some k => .ok (11 + username.length + k) := by
  have hversion : Scan.leads (lit "v1").val (topicHead username b ++ mem) = some true := rfl
  have huser : Scan.leads username.val (username.val ++ ((lit "/things/").val ++ mem)) =
      some true := Scan.leads_eq_true_iff.2 (List.prefix_append _ _)
  have hthings : Scan.leads (lit "/things/").val ((lit "/things/").val ++ mem) = some true :=
    Scan.leads_eq_true_iff.2 (List.prefix_append _ _)
  have hdrop : (topicHead username b ++ mem).drop 3 =
      username.val ++ ((lit "/things/").val ++ mem) := by
    simp [topicHead]
  have hdrop' : (topicHead username b ++ mem).drop (3 + username.length) =
      (lit "/things/").val ++ mem := by
    rw [← List.drop_drop, hdrop]
    exact List.drop_left
  have hdrop'' : (topicHead username b ++ mem).drop (11 + username.length) = mem := by
    rw [← length_topicHead username b]
    exact List.drop_left
  have hv1 : (lit "v1").length = 2 := rfl
  have hlen : (lit "/things/").length = 8 := rfl
  have hindex : 3 + username.length + 8 = 11 + username.length := by omega
  unfold findDeviceID
  rw [if_neg (Nat.not_lt.2 hlength)]
  simp only [hversion, Option.bind_some, Bool.not_true, Bool.false_eq_true, if_false, hv1, hdrop,
    huser, hdrop', hthings, hlen, hindex, hdrop'']

/-- A memory that does not start as expected is refused, or ends before that can be told. -/
theorem findDeviceID_cases (username : CStr) (mem : Bytes)
    (hlength : length.toNat ≤ cayenneMaxMessageSize) :
    (∃ b rest, mem = topicHead username b ++ rest) ∨
      findDeviceID username mem length = some (.error .failure) ∨
      findDeviceID username mem length = none ∧ ∃ b, mem <+: topicHead username b := by
  have hv1 : (lit "v1").length = 2 := rfl
  unfold findDeviceID
  rw [if_neg (Nat.not_lt.2 hlength), hv1]
  rcases Scan.leads_cases (lit "v1").val mem with ⟨hversion, t, rfl⟩ | hversion | ⟨hversion, hpre⟩
  · rw [hversion]
    simp only [Option.bind_some, Bool.not_true, Bool.false_eq_true, if_false]
    cases t with
    | nil =>
      -- the memory ends with the version
      refine .inr (.inr ⟨?_, 0, List.prefix_append (lit "v1").val _⟩)
      have hnil : ∀ n, ((lit "v1").val ++ []).drop (2 + 1 + n) = [] :=
        fun n => List.drop_eq_nil_of_le (show 2 ≤ 2 + 1 + n by omega)
      have hthings : Scan.leads (lit "/things/").val [] = none := rfl
      have huser : ((lit "v1").val ++ []).drop (2 + 1) = [] := hnil 0
      rw [huser, hnil username.length, hthings]
      cases username.val with
      | nil => rfl
      | cons u us => rfl
    | cons b t =>
      have hdrop : ((lit "v1").val ++ b :: t).drop (2 + 1) = t := rfl
      rw [hdrop]
      rcases Scan.leads_cases username.val t with ⟨huser, t, rfl⟩ | huser | ⟨huser, hpre⟩
      · have hdrop' : ((lit "v1").val ++ b :: (username.val ++ t)).drop
            (2 + 1 + username.length) = t := by
          rw [← List.drop_drop]
          exact List.drop_left
        rw [huser, hdrop']
        simp only [Option.bind_some, Bool.not_true, Bool.false_eq_true, if_false]
        rcases Scan.leads_cases (lit "/things/").val t with
          ⟨-, t, rfl⟩ | hthings | ⟨hthings, hpre⟩
        · exact .inl ⟨b, t, by simp [topicHead]; rfl⟩
        · rw [hthings]
          exact .inr (.inl rfl)
        · rw [hthings]
          exact .inr (.inr ⟨rfl, b,
            List.prefix_append_right_inj ((lit "v1").val ++ b :: username.val) |>.2 hpre⟩)
      · rw [huser]
        exact .inr (.inl rfl)
      · rw [huser]
        have hmore := hpre.trans (List.prefix_append username.val (lit "/things/").val)
        exact .inr (.inr ⟨rfl, b,
          List.prefix_append_right_inj ((lit "v1").val ++ [b]) |>.2 hmore⟩)
  · rw [hversion]
    exact .inr (.inl rfl)
  · rw [hversion]
    exact .inr (.inr ⟨rfl, 0, hpre.trans (List.prefix_append (lit "v1").val _)⟩)

/-- Where the client ID ends. -/
theorem findDeviceID_eq_ok_iff {e : Nat} :
    findDeviceID username mem length = some (.ok e) ↔
      length.toNat ≤ cayenneMaxMessageSize ∧ ∃ b c after,
        mem = topicHead username b ++ (c ++ 47 :: after) ∧ Scan.Clear 47 0 c ∧
          e = 11 + username.length + c.length := by
  rcases Nat.lt_or_ge cayenneMaxMessageSize length.toNat with hlong | hlength
  · have hover : findDeviceID username mem length = some (.error .bufferOverflow) := if_pos hlong
    refine iff_of_false ?_ fun h => Nat.not_le.2 hlong h.1
    rw [hover]
    intro h
    cases h
  · constructor
    · intro h
      refine ⟨hlength, ?_⟩
      rcases findDeviceID_cases username mem hlength with ⟨b, rest, rfl⟩ | hfail | ⟨hnone, -⟩
      · rw [findDeviceID_head hlength] at h
        obtain ⟨found, hfound, hend⟩ := Option.map_eq_some_iff.1 h
        cases found with
        | none => cases hend
        | some k =>
          obtain ⟨c, after, rfl, hclear, rfl⟩ := Scan.exists_of_seek_eq_some hfound
          cases hend
          exact ⟨b, c, after, rfl, hclear, rfl⟩
      · rw [hfail] at h
        cases h
      · rw [hnone] at h
        cases h
    · rintro ⟨-, b, c, after, rfl, hclear, rfl⟩
      rw [findDeviceID_head hlength, Scan.seek_found hclear]
      rfl

/-- A search that has ended does not look at what follows. -/
theorem findDeviceID_append {found : Except CayenneError Nat}
    (h : findDeviceID username mem length = some found) (more : Bytes) :
    findDeviceID username (mem ++ more) length = some found := by
  unfold findDeviceID at h ⊢
  split
  next hlong => rw [if_pos hlong] at h; exact h
  next hlong =>
    rw [if_neg hlong] at h
    obtain ⟨version, hversion, h⟩ := Option.bind_eq_some_iff.1 h
    rw [Scan.leads_append hversion, Option.bind_some]
    cases version with
    | false => exact h
    | true =>
      obtain ⟨user, huser, h⟩ := Option.bind_eq_some_iff.1 h
      simp only [Bool.not_true, Bool.false_eq_true, if_false]
      rw [Scan.leads_drop_append huser, Option.bind_some]
      cases user with
      | false => exact h
      | true =>
        obtain ⟨things, hthings, h⟩ := Option.bind_eq_some_iff.1 h
        simp only [Bool.not_true, Bool.false_eq_true, if_false]
        rw [Scan.leads_drop_append hthings, Option.bind_some]
        cases things with
        | false => exact h
        | true =>
          obtain ⟨deviceIDEnd, hend, h⟩ := Option.map_eq_some_iff.1 h
          simp only [Bool.not_true, Bool.false_eq_true, if_false]
          rw [Scan.seek_drop_append hend, Option.map_some, h]

end

/-! ## The rest of the topic -/

/-- An entry of the table fits what stands behind the client ID. -/
def TopicChannel.fits (name : Bytes) (entry : TopicChannel) : Bool :=
  match buildSuffix 32 entry.topic entry.channel with
  | some (.ok channelSuffix) => matchLoop channelSuffix.val name
  | _ => false

/-- What `CayenneParseTopic` makes of what stands behind the client ID: the return code, the topic
and the channel. -/
def parseName (table : List TopicChannel) (name : Bytes) :
    Option CayenneError × CayenneTopic × UInt32 :=
  match table.find? (·.fits name) with
  | none => (some .failure, .undefined, cayenneNoChannel)
  | some entry =>
    if entry.channel = cayenneNoChannel then (none, entry.topic, cayenneNoChannel)
    else if name = [] ∨ 31 < name.length then (some .failure, entry.topic, cayenneNoChannel)
    else (none, entry.topic, parseChannel (CStr.ofBytes name))

/-- The second half on a topic that has room for the name. -/
theorem parseSuffix_inside (table : List TopicChannel) (clientID : Nat) {memory : Bytes}
    {index : Nat} {length : UInt32} (hindex : index ≤ length.toNat)
    (hmemory : length.toNat ≤ memory.length) :
    parseSuffix table clientID memory index (length - UInt32.ofNat index) =
      let parsed := parseName table ((memory.drop index).take (length.toNat - index))
      ⟨parsed.1, some parsed.2.1, some parsed.2.2, some clientID, memory⟩ := by
  have hlt := length.toNat_lt
  have hlen : (length - UInt32.ofNat index).toNat = length.toNat - index := by
    rw [UInt32.toNat_sub, UInt32.toNat_ofNat']
    show (4294967296 - index % 4294967296 + length.toNat) % 4294967296 = _
    omega
  generalize hname : (memory.drop index).take (length.toNat - index) = name
  have hnamelen : name.length = length.toNat - index := by
    rw [← hname, List.length_take, List.length_drop]
    omega
  have hempty : length - UInt32.ofNat index = 0 ↔ name = [] := by
    rw [← UInt32.toNat_inj, hlen, ← List.length_eq_zero_iff, hnamelen]
    rfl
  have hlong : 31 < length - UInt32.ofNat index ↔ 31 < name.length := by
    rw [UInt32.lt_iff_toNat_lt, hlen, hnamelen]
    rfl
  have hfits : (fun entry : TopicChannel =>
      match buildSuffix 32 entry.topic entry.channel with
      | some (.ok channelSuffix) => topicMatches channelSuffix.val memory index
          (length - UInt32.ofNat index)
      | _ => false) = (·.fits name) := by
    funext entry
    simp only [TopicChannel.fits, topicMatches_eq, decide_eq_true hindex, Bool.true_and, hname]
  unfold parseSuffix parseName
  simp only [hfits, hempty, hlong, hlen, hname]
  split
  next => rfl
  next entry _ => split_ifs <;> rfl

/-- The second half on a topic that ends before. -/
theorem parseSuffix_outside (table : List TopicChannel) (clientID : Nat) (memory : Bytes)
    {index : Nat} {length : UInt32} (hindex : length.toNat < index) :
    parseSuffix table clientID memory index (length - UInt32.ofNat index) =
      ⟨some .failure, some .undefined, some cayenneNoChannel, some clientID, memory⟩ := by
  have hfits : (fun entry : TopicChannel =>
      match buildSuffix 32 entry.topic entry.channel with
      | some (.ok channelSuffix) => topicMatches channelSuffix.val memory index
          (length - UInt32.ofNat index)
      | _ => false) = fun _ => false := by
    funext entry
    simp only [topicMatches_eq, decide_eq_false (Nat.not_le.2 hindex), Bool.false_and]
    split <;> rfl
  have hnone : table.find? (fun _ => false) = none := List.find?_eq_none.2 (by simp)
  unfold parseSuffix
  simp only [hfits, hnone]

section
variable (table : List TopicChannel) (username : CStr) (b : UInt8) {c : Bytes} (after : Bytes)
  {length : UInt32}

/-- A topic in whose memory the client ID ends. -/
theorem cayenneParseTopic_found (hclear : Scan.Clear 47 0 c)
    (hlength : length.toNat ≤ cayenneMaxMessageSize) :
    cayenneParseTopic table username (topicHead username b ++ (c ++ 47 :: after)) length =
      some (parseSuffix table (11 + username.length)
        (topicHead username b ++ (c ++ 0 :: after)) (12 + username.length + c.length)
        (length - UInt32.ofNat (12 + username.length + c.length))) := by
  have hfound : findDeviceID username (topicHead username b ++ (c ++ 47 :: after)) length =
      some (.ok (11 + username.length + c.length)) :=
    findDeviceID_eq_ok_iff.2 ⟨hlength, b, c, after, rfl, hclear, rfl⟩
  have hset : (topicHead username b ++ (c ++ 47 :: after)).set
      (11 + username.length + c.length) 0 = topicHead username b ++ (c ++ 0 :: after) := by
    rw [← length_topicHead username b, List.set_append_right _ _ (Nat.le_add_right _ _),
      Nat.add_sub_cancel_left, List.set_append_right _ _ (Nat.le_refl _), Nat.sub_self]
    rfl
  have hindex : 11 + username.length + c.length + 1 = 12 + username.length + c.length := by omega
  have hv1 : (lit "v1").length = 2 := rfl
  have hlen : (lit "/things/").length = 8 := rfl
  have hclient : 2 + 1 + username.length + 8 = 11 + username.length := by omega
  rw [cayenneParseTopic, hfound]
  simp only [Option.map_some, hset, hindex, hv1, hlen, hclient]

/-- A topic in which the client ID ends. -/
theorem cayenneParseTopic_inside (hclear : Scan.Clear 47 0 c)
    (hlength : length.toNat ≤ cayenneMaxMessageSize)
    (hinside : 12 + username.length + c.length ≤ length.toNat)
    (hafter : length.toNat ≤ 12 + username.length + c.length + after.length) :
    cayenneParseTopic table username (topicHead username b ++ (c ++ 47 :: after)) length =
      let parsed := parseName table (after.take (length.toNat - (12 + username.length + c.length)))
      some ⟨parsed.1, some parsed.2.1, some parsed.2.2, some (11 + username.length),
        topicHead username b ++ (c ++ 0 :: after)⟩ := by
  have hdrop : (topicHead username b ++ (c ++ 0 :: after)).drop
      (12 + username.length + c.length) = after := by
    have hsplit : 12 + username.length + c.length = (topicHead username b).length +
        (c.length + 1) := by
      rw [length_topicHead]
      omega
    rw [hsplit, ← List.drop_drop, List.drop_left, ← List.drop_drop, List.drop_left]
    rfl
  have hmemory : length.toNat ≤ (topicHead username b ++ (c ++ 0 :: after)).length := by
    simp only [List.length_append, List.length_cons, length_topicHead]
    omega
  rw [cayenneParseTopic_found table username b after hclear hlength,
    parseSuffix_inside table _ hinside hmemory, hdrop]

/-- A topic with its terminator. -/
theorem cayenneParseTopic_string {s : CStr} {name : Bytes} (hclear : Scan.Clear 47 0 c)
    (hs : s.val = topicHead username b ++ (c ++ 47 :: name))
    (hshort : s.length ≤ cayenneMaxMessageSize) (rest : Bytes) :
    cayenneParseTopic table username (s.val ++ 0 :: rest) (UInt32.ofNat s.length) =
      some ⟨(parseName table name).1, some (parseName table name).2.1,
        some (parseName table name).2.2, some (11 + username.length),
        topicHead username b ++ (c ++ 0 :: (name ++ 0 :: rest))⟩ := by
  have hmem : s.val ++ 0 :: rest = topicHead username b ++ (c ++ 47 :: (name ++ 0 :: rest)) := by
    rw [hs]
    simp only [List.append_assoc, List.cons_append]
  have hlength : s.length = 12 + username.length + c.length + name.length := by
    rw [CStr.length, hs]
    simp only [List.length_append, List.length_cons, length_topicHead]
    omega
  have hmax : cayenneMaxMessageSize = 134 := rfl
  have htoNat : (UInt32.ofNat s.length).toNat = s.length :=
    UInt32.toNat_ofNat_of_lt' (show s.length < 4294967296 by omega)
  have htake : (name ++ 0 :: rest).take (s.length - (12 + username.length + c.length)) = name := by
    rw [hlength, Nat.add_sub_cancel_left]
    exact List.take_left
  have hmore : name.length ≤ (name ++ 0 :: rest).length := (List.prefix_append _ _).length_le
  rw [hmem, cayenneParseTopic_inside table username b _ hclear (by omega) (by omega) (by omega),
    htoNat, htake]

/-- The client ID of a topic, when it is stored. -/
theorem clientIDString_found (hclear : Scan.Clear 47 0 c) {code : Option CayenneError}
    {topic : Option CayenneTopic} {channel : Option UInt32} :
    (ParsedTopic.mk code topic channel (some (11 + username.length))
      (topicHead username b ++ (c ++ 0 :: after))).clientIDString =
      some ⟨c, fun h => (hclear 0 h).2 rfl⟩ := by
  have hdrop : (topicHead username b ++ (c ++ 0 :: after)).drop (11 + username.length) =
      c ++ 0 :: after := by
    rw [← length_topicHead username b]
    exact List.drop_left
  simp only [ParsedTopic.clientIDString, Option.map_some, hdrop, Option.some.injEq,
    CStr.ofBytes_append_nul]
  exact CStr.ext (CStr.ofBytes_val_of_nulFree fun h => (hclear 0 h).2 rfl)

end

/-! ## Topics with a channel -/

/-- The names of the topics have no wildcards. -/
theorem ne_wildcard_of_mem_name {topic : CayenneTopic} {name : CStr}
    (h : topic.string = some name) : ∀ f ∈ name.val, f ≠ 43 ∧ f ≠ 35 := by
  cases topic <;> cases h <;> decide +kernel

/-- An entry for all channels fits the name of its topic and one level more. -/
theorem fits_allChannels {topic : CayenneTopic} {name : CStr} (h : topic.string = some name)
    (text : Bytes) :
    TopicChannel.fits text ⟨topic, cayenneAllChannels⟩ = true ↔
      ∃ x, text = name.val ++ 47 :: x ∧ x ≠ [] ∧ (47 : UInt8) ∉ x := by
  have hsuffix : buildSuffix 32 topic cayenneAllChannels = some (.ok (name ++ lit "/+")) := by
    have htext : suffixText topic cayenneAllChannels = some (name ++ lit "/+") := by
      rw [suffixText, h]
      rfl
    have hle := CayenneTopic.length_string_le h
    have htwo : (lit "/+").length = 2 := rfl
    rw [buildSuffix_eq (by decide), htext]
    simp only
    rw [CStr.truncate_of_lt (by rw [CStr.length_append]; omega)]
  have hval : (name ++ lit "/+").val = name.val ++ [47, 43] := rfl
  simp only [TopicChannel.fits, hsuffix, hval]
  rw [matchLoop_append (ne_wildcard_of_mem_name h)]
  simp only [matchLoop_literal (show (47 : UInt8) ≠ 43 by decide) (by decide), matchLoop_plus]
  constructor
  · rintro ⟨rest, rfl, x, rfl, hx⟩
    exact ⟨x, rfl, hx⟩
  · rintro ⟨x, rfl, hx⟩
    exact ⟨47 :: x, rfl, x, rfl, hx⟩

/-- What follows the last slash. -/
theorem lastSegment_append {x : Bytes} (hx : (47 : UInt8) ∉ x) (s : Bytes) :
    lastSegment (s ++ 47 :: x) = some x := by
  have hrev : (s ++ 47 :: x).reverse = x.reverse ++ 47 :: s.reverse := by simp
  have htake : (x.reverse ++ 47 :: s.reverse).takeWhile (· ≠ 47) = x.reverse := by
    rw [List.takeWhile_append_of_pos, List.takeWhile_cons_of_neg (by simp), List.append_nil]
    intro b hb
    simpa using fun heq : b = 47 => hx (heq ▸ List.mem_reverse.1 hb)
  rw [lastSegment, if_pos (by simp), hrev, htake, List.reverse_reverse]

/-- A name that an entry for all channels fits. -/
theorem parseName_channel {table : List TopicChannel} {topic : CayenneTopic} {name : CStr}
    {x : Bytes} (hx : (47 : UInt8) ∉ x) (hnul : (0 : UInt8) ∉ x)
    (hfind : table.find? (·.fits (name.val ++ 47 :: x)) = some ⟨topic, cayenneAllChannels⟩) :
    parseName table (name.val ++ 47 :: x) =
      if name.length + 1 + x.length ≤ 31 then (none, topic, channelNumber x)
      else (some .failure, topic, cayenneNoChannel) := by
  have hfree : (0 : UInt8) ∉ name.val ++ 47 :: x := by
    rintro hmem
    rcases List.mem_append.1 hmem with hname | hrest
    · exact name.nulFree hname
    · rcases List.mem_cons.1 hrest with hslash | hmem
      · cases hslash
      · exact hnul hmem
  have hlen : (name.val ++ 47 :: x).length = name.length + 1 + x.length := by
    rw [List.length_append, List.length_cons, CStr.length]
    omega
  have hchannel : cayenneAllChannels ≠ cayenneNoChannel := by decide
  have hne : name.val ++ 47 :: x ≠ [] := by simp
  have hparse : parseChannel (CStr.ofBytes (name.val ++ 47 :: x)) = channelNumber x := by
    rw [parseChannel, CStr.ofBytes_val_of_nulFree hfree, lastSegment_append hx]
  unfold parseName
  simp only [hfind, if_neg hchannel, hne, false_or, hlen, hparse]
  split
  next hlong => rw [if_neg (by omega)]
  next hshort => rw [if_pos (by omega)]

/-- The first entries of the table are those for commands and configurations. -/
theorem find_parseTopics {topic : CayenneTopic} (htopic : topic = .command ∨ topic = .config)
    {name : CStr} (h : topic.string = some name) (parseInfo : Bool) {x : Bytes} (hne : x ≠ [])
    (hx : (47 : UInt8) ∉ x) :
    (parseTopics parseInfo).find? (·.fits (name.val ++ 47 :: x)) =
      some ⟨topic, cayenneAllChannels⟩ := by
  have hfits := (fits_allChannels h (name.val ++ 47 :: x)).2 ⟨x, rfl, hne, hx⟩
  rcases htopic with rfl | rfl
  · rw [parseTopics, List.cons_append, List.find?_cons_of_pos hfits]
  · cases h
    have hother : ¬ TopicChannel.fits ((lit "conf").val ++ 47 :: x)
        ⟨.command, cayenneAllChannels⟩ = true := by
      rw [fits_allChannels (show CayenneTopic.command.string = some (lit "cmd") from rfl)]
      rintro ⟨y, heq, -⟩
      cases heq
    rw [parseTopics, List.cons_append, List.find?_cons_of_neg hother, List.cons_append,
      List.find?_cons_of_pos hfits]

/-! ## The round trip -/

theorem topicText_val (username clientID suffix : CStr) :
    (topicText username clientID suffix).val =
      topicHead username 47 ++ (clientID.val ++ 47 :: suffix.val) := by
  have hv1 : (lit "v1/").val = [118, 49, 47] := rfl
  have hslash : (lit "/").val = [47] := rfl
  simp only [topicText, topicHead, CStr.append_val, hv1, hslash, List.append_assoc,
    List.cons_append, List.nil_append]

/-- The characters of a printed number are no slashes. -/
theorem slash_notMem_ofNat (n : Nat) : (47 : UInt8) ∉ (CStr.ofNat n).val := fun h =>
  absurd (CStr.digit_of_mem_ofNat h).1 (by decide)

/-- A number that was printed as a channel is read as that channel. -/
theorem channelNumber_ofNat (channel : UInt32) :
    channelNumber (CStr.ofNat channel.toNat).val = channel := by
  unfold channelNumber
  simp only [CStr.strtoul_ofNat]
  rw [if_pos]
  refine ⟨trivial, ?_⟩
  by_cases hzero : channel = 0
  · subst hzero
    exact .inr (by decide)
  · refine .inl ⟨hzero, fun hhead => hzero ?_⟩
    exact UInt32.toNat_inj.1 (CStr.eq_zero_of_head_ofNat hhead)

/-- **Parsing a topic that was built** gives back its topic, its channel and its client ID. -/
theorem parseTopic_built (parseInfo : Bool) (username : CStr) {clientID : CStr}
    (hclientID : (47 : UInt8) ∉ clientID.val) {topic : CayenneTopic}
    (htopic : topic = .command ∨ topic = .config) {channel : UInt32}
    (hno : channel ≠ cayenneNoChannel) (hall : channel ≠ cayenneAllChannels) {size : Nat}
    {s : CStr} (hbuilt : cayenneBuildTopic size username clientID topic channel = some (.ok s))
    (hshort : s.length ≤ cayenneMaxMessageSize) (rest : Bytes) :
    ∃ parsed, cayenneParseTopic (parseTopics parseInfo) username (s.val ++ 0 :: rest)
        (UInt32.ofNat s.length) = some parsed ∧
      parsed.code = none ∧ parsed.topic = some topic ∧ parsed.channel = some channel ∧
      parsed.clientIDString = some clientID := by
  obtain ⟨name, hname, rfl, -⟩ := (cayenneBuildTopic_eq_ok_iff ..).1 hbuilt
  have hfour : name.length ≤ 4 := by
    rcases htopic with rfl | rfl <;> cases hname <;> decide
  have hten := CStr.length_ofNat_uint32 channel
  have htext : (channelText channel).val = 47 :: (CStr.ofNat channel.toNat).val :=
    channelText_numbered ⟨hno, hall⟩
  have hwhole : (name ++ channelText channel).truncate 20 = name ++ channelText channel := by
    refine CStr.truncate_of_lt ?_
    have hlen : (channelText channel).length = (CStr.ofNat channel.toNat).length + 1 := by
      rw [CStr.length, htext, List.length_cons, CStr.length]
    rw [CStr.length_append, hlen]
    omega
  rw [hwhole] at hshort ⊢
  generalize hdigits : (CStr.ofNat channel.toNat).val = digits at htext
  have hs : (topicText username clientID (name ++ channelText channel)).val =
      topicHead username 47 ++ (clientID.val ++ 47 :: (name.val ++ 47 :: digits)) := by
    rw [topicText_val, CStr.append_val, htext]
  have hclear : Scan.Clear 47 0 clientID.val := fun b hb =>
    ⟨fun heq => hclientID (heq ▸ hb), fun heq => clientID.nulFree (heq ▸ hb)⟩
  have hx : (47 : UInt8) ∉ digits := hdigits ▸ slash_notMem_ofNat _
  have hnul : (0 : UInt8) ∉ digits := hdigits ▸ (CStr.ofNat channel.toNat).nulFree
  have hne : digits ≠ [] := hdigits ▸ CStr.ofNat_ne_nil _
  have hparsed : parseName (parseTopics parseInfo) (name.val ++ 47 :: digits) =
      (none, topic, channel) := by
    rw [parseName_channel hx hnul (find_parseTopics htopic hname parseInfo hne hx), if_pos,
      ← hdigits, channelNumber_ofNat]
    have hdlen : digits.length ≤ 10 := hdigits ▸ hten
    omega
  rw [cayenneParseTopic_string (parseTopics parseInfo) username 47 hclear hs hshort, hparsed]
  exact ⟨_, rfl, rfl, rfl, rfl, clientIDString_found username 47 _ hclear⟩

theorem parseTopic_built_cmd :
    (47 : UInt8) ∉ (lit "c-1").val ∧
      cayenneBuildTopic 135 (lit "u/x") (lit "c-1") .command 4294967295 =
        some (.ok (lit "v1/u/x/things/c-1/cmd/4294967295")) ∧
      ∃ parsed, cayenneParseTopic (parseTopics false) (lit "u/x")
          ((lit "v1/u/x/things/c-1/cmd/4294967295").val ++ [0])
          (UInt32.ofNat (lit "v1/u/x/things/c-1/cmd/4294967295").length) = some parsed ∧
        parsed.code = none ∧ parsed.topic = some .command ∧ parsed.channel = some 4294967295 ∧
        parsed.clientIDString = some (lit "c-1") := by
  have hslash : (47 : UInt8) ∉ (lit "c-1").val := by decide
  have hbuilt : cayenneBuildTopic 135 (lit "u/x") (lit "c-1") .command 4294967295 =
      some (.ok (lit "v1/u/x/things/c-1/cmd/4294967295")) := by decide +kernel
  exact ⟨hslash, hbuilt, parseTopic_built false (lit "u/x") hslash (.inl rfl) (by decide)
    (by decide) hbuilt (by decide) []⟩

end Esp32Iot
