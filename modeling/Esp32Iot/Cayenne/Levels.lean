import Esp32Iot.Cayenne.ParseTopic
import Esp32Iot.Mqtt.Receive

/-!
# Topic filters, level by level

`topicMatches` of `CayenneUtils.c` and `isTopicMatched` of `MQTTClient.c` are two copies of one loop
over characters, `matchLoop`. What they are for is a comparison of levels, the parts between the
slashes (`LevelsMatch`): a level of the filter is the level of the name or `+`, and a `#` at the end
takes all the levels that are left.

`topicMatches_iff_levels` says that this is what both of them compute, for filters that the comment
before `isTopicMatched` assumes and names without an empty level.
-/

namespace Esp32Iot

/-! ## Levels -/

/-- The levels of a topic or of a filter. -/
def levels (topic : Bytes) : List Bytes := topic.splitOn 47

/-- The levels of a name match those of a filter. -/
def LevelsMatch : List Bytes → List Bytes → Prop
  | [], [] => True
  | f :: fs, n :: ns => (f = [35] ∧ fs = []) ∨ ((f = n ∨ f = [43]) ∧ LevelsMatch fs ns)
  | _, _ => False

instance decidableLevelsMatch : (fs ns : List Bytes) → Decidable (LevelsMatch fs ns)
  | [], [] => .isTrue trivial
  | [], _ :: _ => .isFalse id
  | _ :: _, [] => .isFalse id
  | f :: fs, n :: ns =>
    have := decidableLevelsMatch fs ns
    inferInstanceAs (Decidable ((f = [35] ∧ fs = []) ∨ ((f = n ∨ f = [43]) ∧ LevelsMatch fs ns)))

/-- `+` and `#` fill a level, and `#` is the last one. -/
structure FilterLevels (fs : List Bytes) : Prop where
  plus : ∀ f ∈ fs, 43 ∈ f → f = [43]
  hash : ∀ f ∈ fs, 35 ∈ f → f = [35]
  last : ∀ f ∈ fs.dropLast, f ≠ [35]

theorem FilterLevels.tail {f : Bytes} {fs : List Bytes} (h : FilterLevels (f :: fs)) :
    FilterLevels fs where
  plus := fun g hg => h.plus g (.tail _ hg)
  hash := fun g hg => h.hash g (.tail _ hg)
  last := by
    intro g hg
    have hne : fs ≠ [] := by
      rintro rfl
      cases hg
    refine h.last g ?_
    rw [List.dropLast_cons_of_ne_nil hne]
    exact .tail _ hg

theorem FilterLevels.eq_nil {fs : List Bytes} (h : FilterLevels ([35] :: fs)) : fs = [] := by
  by_contra hne
  refine h.last [35] ?_ rfl
  rw [List.dropLast_cons_of_ne_nil hne]
  exact .head _

/-- `isTopicMatched`, for a name in the receive buffer. -/
def isTopicMatched (topicFilter : Bytes) (buf : Memory) (topicName : LenString) : Bool :=
  matchLoop topicFilter ((List.range topicName.len).map fun i => buf (topicName.data + i))

/-! ## The loop -/

section
variable {fs ns : List Bytes}

/-- Behind the levels of the filter, or at the next one, no name goes on within a level. -/
theorem matchLoop_fields_ne {b : UInt8} (hb : b ≠ 47) (name : Bytes) :
    matchLoop (Scan.fields 47 fs) (b :: name) = false := by
  cases fs with
  | nil => rfl
  | cons g gs => simp [matchLoop, hb, hb.symm]

/-- **A level without a wildcard** is compared as a whole. -/
theorem matchLoop_level {f n : Bytes} (hf : ∀ c ∈ f, c ≠ 43 ∧ c ≠ 35) (hslash : 47 ∉ f)
    (hn : 47 ∉ n) :
    matchLoop (f ++ Scan.fields 47 fs) (n ++ Scan.fields 47 ns) = true ↔
      f = n ∧ matchLoop (Scan.fields 47 fs) (Scan.fields 47 ns) = true := by
  induction f generalizing n with
  | nil =>
    cases n with
    | nil => simp
    | cons b n =>
      have hb : b ≠ 47 := fun heq => hn (heq ▸ .head _)
      simp [matchLoop_fields_ne hb]
  | cons c f ih =>
    obtain ⟨hc, hf⟩ := List.forall_mem_cons.1 hf
    rw [List.mem_cons, not_or] at hslash
    rw [List.cons_append, matchLoop_literal hc.1 hc.2]
    cases n with
    | nil =>
      refine ⟨?_, fun h => absurd h.1 (List.cons_ne_nil _ _)⟩
      -- the name has a slash or nothing where the filter has a character
      rintro ⟨name', hname, -⟩
      cases ns with
      | nil => cases hname
      | cons m ms =>
        rw [Scan.fields_cons, List.nil_append] at hname
        exact absurd (List.cons.inj hname).1 hslash.1
    | cons b n =>
      rw [List.mem_cons, not_or] at hn
      rw [List.cons.injEq, and_assoc, ← ih hf hslash.2 hn.2]
      refine ⟨?_, ?_⟩
      · rintro ⟨name', hname, hmatch⟩
        obtain ⟨rfl, rfl⟩ := List.cons.inj hname
        exact ⟨rfl, hmatch⟩
      · rintro ⟨rfl, hmatch⟩
        exact ⟨_, rfl, hmatch⟩

/-- **A `+`** takes a level of the name. -/
theorem matchLoop_plus_level {n : Bytes} (hn : 47 ∉ n) (hne : n ≠ []) :
    matchLoop (43 :: Scan.fields 47 fs) (n ++ Scan.fields 47 ns) =
      matchLoop (Scan.fields 47 fs) (Scan.fields 47 ns) := by
  obtain ⟨b, n, rfl⟩ := List.exists_cons_of_ne_nil hne
  rw [List.mem_cons, not_or] at hn
  rw [List.cons_append, matchLoop, Scan.dropWhile_fields 47 hn.2]
  simp [Ne.symm hn.1]

/-- **A `#`** takes the rest of the name. -/
theorem matchLoop_hash_level {n : Bytes} (hn : 47 ∉ n) (hne : n ≠ []) (rest : Bytes) :
    matchLoop [35] (n ++ rest) = true := by
  obtain ⟨b, n, rfl⟩ := List.exists_cons_of_ne_nil hne
  rw [List.mem_cons, not_or] at hn
  rw [List.cons_append, matchLoop]
  simp [Ne.symm hn.1, matchLoop]

/-- **The loop compares levels.** The induction is on the levels of the filter; each of them comes
with the slash before it. -/
theorem matchLoop_fields (hslash : ∀ f ∈ fs, 47 ∉ f) (hfilter : FilterLevels fs)
    (hname : ∀ n ∈ ns, 47 ∉ n ∧ n ≠ []) :
    matchLoop (Scan.fields 47 fs) (Scan.fields 47 ns) = true ↔ LevelsMatch fs ns := by
  induction fs generalizing ns with
  | nil =>
    cases ns with
    | nil => simp [matchLoop, LevelsMatch]
    | cons n ns => simp [matchLoop, LevelsMatch]
  | cons f fs ih =>
    cases ns with
    | nil => simp [matchLoop, LevelsMatch]
    | cons n ns =>
      obtain ⟨hn, hns⟩ := List.forall_mem_cons.1 hname
      obtain ⟨hf, hfs⟩ := List.forall_mem_cons.1 hslash
      have hstep : matchLoop (Scan.fields 47 (f :: fs)) (Scan.fields 47 (n :: ns)) =
          matchLoop (f ++ Scan.fields 47 fs) (n ++ Scan.fields 47 ns) := by
        simp [matchLoop]
      rw [hstep, LevelsMatch, ← ih hfs hfilter.tail hns]
      by_cases hhash : 35 ∈ f
      · have hf35 := hfilter.hash f (.head _) hhash
        subst hf35
        have hnil := hfilter.eq_nil
        subst hnil
        exact ⟨fun _ => .inl ⟨rfl, rfl⟩, fun _ => matchLoop_hash_level hn.1 hn.2 _⟩
      · have hne35 : f ≠ [35] := fun heq => hhash (heq ▸ .head _)
        by_cases hplus : 43 ∈ f
        · have hf43 := hfilter.plus f (.head _) hplus
          subst hf43
          rw [List.singleton_append, matchLoop_plus_level hn.1 hn.2]
          simp
        · have hne43 : f ≠ [43] := fun heq => hplus (heq ▸ .head _)
          have hliteral : ∀ c ∈ f, c ≠ 43 ∧ c ≠ 35 :=
            fun c hc => ⟨fun heq => hplus (heq ▸ hc), fun heq => hhash (heq ▸ hc)⟩
          rw [matchLoop_level hliteral hf hn.1]
          simp [hne35, hne43]

/-- Names and filters with the slash that belongs to their first level. -/
theorem matchLoop_eq_fields (filter name : Bytes) :
    matchLoop filter name =
      matchLoop (Scan.fields 47 (levels filter)) (Scan.fields 47 (levels name)) := by
  rw [levels, levels, Scan.fields_splitOn, Scan.fields_splitOn]
  simp [matchLoop]

end

/-! ## The two copies -/

/-- **Topic filters match level by level**, in both copies of the loop: for a name of
`topicNameLen` bytes at an index of the memory, and for one in the receive buffer. -/
theorem topicMatches_iff_levels {filter : CStr} {name : Bytes}
    (hfilter : FilterLevels (levels filter.val)) (hname : ∀ level ∈ levels name, level ≠ []) :
    (∀ (mem : Bytes) (index : Nat) (topicNameLen : UInt32),
      index + topicNameLen.toNat < 2 ^ 32 → (mem.drop index).take topicNameLen.toNat = name →
      (topicMatches filter.val mem index topicNameLen = true ↔
        LevelsMatch (levels filter.val) (levels name))) ∧
    ∀ (buf : Memory) (topicName : LenString),
      (List.range topicName.len).map (fun i => buf (topicName.data + i)) = name →
      (isTopicMatched filter.val buf topicName = true ↔
        LevelsMatch (levels filter.val) (levels name)) := by
  have hloop : matchLoop filter.val name = true ↔
      LevelsMatch (levels filter.val) (levels name) := by
    rw [matchLoop_eq_fields]
    exact matchLoop_fields (fun f hf => Scan.not_mem_of_mem_splitOn 47 hf) hfilter
      fun n hn => ⟨Scan.not_mem_of_mem_splitOn 47 hn, hname n hn⟩
  refine ⟨?_, ?_⟩
  · intro mem index topicNameLen hend hmem
    have hlt : (index + topicNameLen.toNat) % 4294967296 = index + topicNameLen.toNat :=
      Nat.mod_eq_of_lt hend
    rw [topicMatches, hlt, if_neg (Nat.not_lt.2 (Nat.le_add_right _ _)), Nat.add_sub_cancel_left,
      hmem]
    exact hloop
  · intro buf topicName hbuf
    rw [isTopicMatched, hbuf]
    exact hloop

theorem filterLevels_hash : FilterLevels (levels (CStr.lit "a/+/#").val) where
  plus := by decide +kernel
  hash := by decide +kernel
  last := by decide +kernel

/-- `a/+/#` matches `a/b/c/d`, whose bytes have others around them, and does not match `a/b`. -/
theorem topicMatches_hash :
    topicMatches (CStr.lit "a/+/#").val [7, 97, 47, 98, 47, 99, 47, 100, 7] 1 7 = true ∧
      isTopicMatched (CStr.lit "a/+/#").val (fun i => [97, 47, 98].getD i 0) ⟨0, 3⟩ = false := by
  have hlong : ∀ level ∈ levels [97, 47, 98, 47, 99, 47, 100], level ≠ [] := by decide +kernel
  have htwo : ∀ level ∈ levels [97, 47, 98], level ≠ [] := by decide +kernel
  have hmatch := (topicMatches_iff_levels filterLevels_hash hlong).1
    [7, 97, 47, 98, 47, 99, 47, 100, 7] 1 7 (by decide) (by decide)
  have hshort := (topicMatches_iff_levels filterLevels_hash htwo).2
    (fun i => [97, 47, 98].getD i 0) ⟨0, 3⟩ (by decide)
  refine ⟨hmatch.2 (by decide +kernel), ?_⟩
  rw [← Bool.not_eq_true, hshort]
  decide +kernel

end Esp32Iot
