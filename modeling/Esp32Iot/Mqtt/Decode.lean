import Mathlib.Algebra.Order.Group.Nat
import Esp32Iot.Mqtt.Packet

/-!
# Decoding packets

The decoders of the remaining length and `MQTTDeserialize_publish`. `MQTTPacket_decode` of
`MQTTPacket.c` and `decodePacket` of `MQTTClient.c` have the same body and take their bytes from
different places, so they are one definition here, with the place as an argument. The buffer that a
packet is decoded from is memory that has contents at every index (`Memory`): the source compares no
index with `buflen`.

`decodeLoop_field` is the decoder on a complete length field, `decodeLoop_readField` on anything
else, and `isField_mqttPacketEncode` and `fieldValue_mqttPacketEncode` say what the encoder writes.
-/

namespace Esp32Iot

/-- The bytes from the start of a buffer on. -/
abbrev Memory := Nat → UInt8

/-! ## The remaining length -/

section
variable {σ : Type}

/-- What a decoder of the remaining length leaves: its return value, `*value`, and the place that
the next bytes come from. -/
@[ext] structure Decoded (σ : Type) where
  len : Nat
  value : Nat
  rest : σ
  deriving DecidableEq

/-- The loop of `MQTTPacket_decode`, with the bytes that are still allowed. -/
def decodeLoop (getchar : σ → Option UInt8 × σ) : Nat → Nat → Nat → σ → Decoded σ
  -- a byte too many is counted and not read
  | 0, _, value, s => ⟨1, value, s⟩
  | rounds + 1, multiplier, value, s =>
      match getchar s with
      | (none, s) => ⟨1, value, s⟩
      | (some i, s) =>
          let value := value + (i &&& 127).toNat * multiplier
          if i &&& 128 ≠ 0 then
            let decoded := decodeLoop getchar rounds (multiplier * 128) value s
            { decoded with len := decoded.len + 1 }
          else ⟨1, value, s⟩

theorem decodeLoop_len_pos {σ : Type} (getchar : σ → Option UInt8 × σ)
    (rounds multiplier value : Nat) (s : σ) :
    0 < (decodeLoop getchar rounds multiplier value s).len := by
  cases rounds with
  | zero => exact Nat.one_pos
  | succ rounds =>
    rw [decodeLoop]
    split
    next => exact Nat.one_pos
    next =>
      dsimp only
      split
      next => exact Nat.succ_pos _
      next => exact Nat.one_pos

/-- `MQTTPacket_decode`. -/
def mqttPacketDecode (getchar : σ → Option UInt8 × σ) (s : σ) : Decoded σ :=
  decodeLoop getchar 4 1 0 s

/-- `bufchar`. -/
def bufchar (buf : Memory) (bufptr : Nat) : Option UInt8 × Nat := (some (buf bufptr), bufptr + 1)

/-- `MQTTPacket_decodeBuf`. -/
def mqttPacketDecodeBuf (buf : Memory) (pos : Nat) : Decoded Nat :=
  mqttPacketDecode (bufchar buf) pos

/-! ### Length fields -/

/-- The number that the bytes of a length field stand for: seven bits each, lowest first. -/
def fieldValue : Bytes → Nat
  | [] => 0
  | b :: bs => b.toNat % 128 + 128 * fieldValue bs

/-- A complete length field: the top bit is set in all bytes but the last. -/
inductive IsField : Bytes → Prop
  | last {b : UInt8} (hb : b.toNat < 128) : IsField [b]
  | more {b : UInt8} {bs : Bytes} (hb : 128 ≤ b.toNat) (hbs : IsField bs) : IsField (b :: bs)

theorem IsField.length_pos {bs : Bytes} (h : IsField bs) : 0 < bs.length := by
  cases h with
  | last => exact Nat.succ_pos _
  | more => exact Nat.succ_pos _

/-- The bytes of a length field that come, at most `rounds` of them, and the place after them. -/
def readField (getchar : σ → Option UInt8 × σ) : Nat → σ → Bytes × σ
  | 0, s => ([], s)
  | rounds + 1, s =>
      match getchar s with
      | (none, s) => ([], s)
      | (some b, s) =>
          if 128 ≤ b.toNat then
            (b :: (readField getchar rounds s).1, (readField getchar rounds s).2)
          else ([b], s)

/-- The bytes come from one place and leave another. -/
def Delivers (getchar : σ → Option UInt8 × σ) : Bytes → σ → σ → Prop
  | [], s, s' => s = s'
  | b :: bs, s, s' => ∃ t, getchar s = (some b, t) ∧ Delivers getchar bs t s'

theorem and_127_toNat (b : UInt8) : (b &&& 127).toNat = b.toNat % 128 := by
  rw [UInt8.toNat_and]
  exact Nat.and_two_pow_sub_one_eq_mod b.toNat 7

theorem and_128_ne_zero_iff (b : UInt8) : b &&& 128 ≠ 0 ↔ 128 ≤ b.toNat := by
  have hall : ∀ n : Fin 256, n.val &&& 128 ≠ 0 ↔ 128 ≤ n.val := by decide +kernel
  rw [← hall ⟨b.toNat, b.toNat_lt⟩, Ne, Ne, ← UInt8.toNat_inj, UInt8.toNat_and]
  rfl

theorem or_128_toNat {b : UInt8} (hb : b.toNat < 128) : (b ||| 0x80).toNat = b.toNat + 128 := by
  have hor := Nat.two_pow_add_eq_or_of_lt (i := 7) hb 1
  rw [UInt8.toNat_or, Nat.or_comm, Nat.add_comm]
  exact hor.symm

/-- A digit of a field, multiplied out as the decoder does it. -/
theorem mul_digit (multiplier value d n : Nat) :
    value + d * multiplier + multiplier * 128 * n = value + multiplier * (d + 128 * n) := by
  rw [Nat.mul_add, Nat.mul_assoc, Nat.mul_comm d, Nat.add_assoc]

/-- A decoder sees of its place only the bytes that come from it. -/
theorem decodeLoop_map {τ : Type} {getchar : σ → Option UInt8 × σ}
    {getchar' : τ → Option UInt8 × τ} {view : σ → τ}
    (h : ∀ s, getchar' (view s) = ((getchar s).1, view (getchar s).2))
    (rounds multiplier value : Nat) (s : σ) :
    decodeLoop getchar' rounds multiplier value (view s) =
      ⟨(decodeLoop getchar rounds multiplier value s).len,
        (decodeLoop getchar rounds multiplier value s).value,
        view (decodeLoop getchar rounds multiplier value s).rest⟩ := by
  induction rounds generalizing multiplier value s with
  | zero => rfl
  | succ rounds ih =>
    rw [decodeLoop, decodeLoop, h]
    cases getchar s with
    | mk next t =>
      cases next with
      | none => rfl
      | some b =>
        dsimp only
        split
        · rw [ih]
        · rfl

/-- **The decoder**, on whatever comes: the number of the bytes of the field that came. -/
theorem decodeLoop_readField (getchar : σ → Option UInt8 × σ) (rounds multiplier value : Nat)
    (s : σ) :
    (decodeLoop getchar rounds multiplier value s).value =
        value + multiplier * fieldValue (readField getchar rounds s).1 ∧
      (decodeLoop getchar rounds multiplier value s).rest = (readField getchar rounds s).2 := by
  induction rounds generalizing multiplier value s with
  | zero => exact ⟨rfl, rfl⟩
  | succ rounds ih =>
    rw [decodeLoop, readField]
    cases hnext : getchar s with
    | mk next t =>
      cases next with
      | none => exact ⟨rfl, rfl⟩
      | some b =>
        simp only [and_128_ne_zero_iff, and_127_toNat]
        split
        next hb =>
          obtain ⟨hvalue, hrest⟩ := ih (multiplier * 128) (value + b.toNat % 128 * multiplier) t
          refine ⟨?_, hrest⟩
          rw [hvalue, fieldValue, mul_digit]
        next hb =>
          refine ⟨?_, rfl⟩
          simp only [fieldValue, Nat.mul_zero, Nat.add_zero, Nat.mul_comm _ multiplier]

/-- **The decoder on a complete field.** -/
theorem decodeLoop_field {getchar : σ → Option UInt8 × σ} {bs : Bytes} (hbs : IsField bs)
    {rounds : Nat} (hrounds : bs.length ≤ rounds) {s s' : σ} (h : Delivers getchar bs s s')
    (multiplier value : Nat) :
    decodeLoop getchar rounds multiplier value s =
      ⟨bs.length, value + multiplier * fieldValue bs, s'⟩ := by
  induction hbs generalizing rounds multiplier value s with
  | @last b hb =>
    obtain ⟨t, hnext, rfl⟩ := h
    obtain ⟨rounds, rfl⟩ := Nat.exists_eq_add_of_le' hrounds
    rw [List.length_singleton, decodeLoop, hnext]
    simp only [and_128_ne_zero_iff, and_127_toNat, Nat.not_le.2 hb, if_false, fieldValue,
      Nat.mul_zero, Nat.add_zero, Nat.mul_comm _ multiplier]
  | @more b bs hb hbs ih =>
    obtain ⟨t, hnext, hrest⟩ := h
    rw [List.length_cons] at hrounds
    obtain ⟨rounds, rfl⟩ := Nat.exists_eq_add_of_le' (Nat.le_trans (Nat.le_add_left 1 _) hrounds)
    rw [decodeLoop, hnext]
    simp only [and_128_ne_zero_iff, and_127_toNat, hb, if_true, fieldValue, List.length_cons,
      ih (show bs.length ≤ rounds by omega) hrest, mul_digit]

/-- A complete field is read as it is. -/
theorem readField_field {getchar : σ → Option UInt8 × σ} {bs : Bytes} (hbs : IsField bs)
    {rounds : Nat} (hrounds : bs.length ≤ rounds) {s s' : σ} (h : Delivers getchar bs s s') :
    readField getchar rounds s = (bs, s') := by
  induction hbs generalizing rounds s with
  | @last b hb =>
    obtain ⟨t, hnext, rfl⟩ := h
    obtain ⟨rounds, rfl⟩ := Nat.exists_eq_add_of_le' hrounds
    rw [List.length_singleton, readField, hnext]
    exact if_neg (Nat.not_le.2 hb)
  | @more b bs hb hbs ih =>
    obtain ⟨t, hnext, hrest⟩ := h
    obtain ⟨rounds, rfl⟩ := Nat.exists_eq_add_of_le' (Nat.le_trans (Nat.le_add_left 1 _) hrounds)
    rw [readField, hnext]
    simp only [hb, if_true, ih (Nat.le_of_succ_le_succ hrounds) hrest]

end

/-! ### What the encoder writes -/

theorem isField_encodeDigits (rounds length : Nat) (h : length ≤ rounds) :
    IsField (encodeDigits rounds length) := by
  induction rounds generalizing length with
  | zero =>
    rw [Nat.le_zero.1 h]
    exact .last (by decide)
  | succ rounds ih =>
    have hd : (UInt8.ofNat (length % 128)).toNat = length % 128 := by
      rw [UInt8.toNat_ofNat']; omega
    rw [encodeDigits]
    split
    next hmore =>
      refine .more ?_ (ih (length / 128) (by omega))
      rw [or_128_toNat (by omega)]
      omega
    next => exact .last (by omega)

theorem fieldValue_encodeDigits (rounds length : Nat) (h : length ≤ rounds) :
    fieldValue (encodeDigits rounds length) = length := by
  induction rounds generalizing length with
  | zero =>
    rw [Nat.le_zero.1 h]
    rfl
  | succ rounds ih =>
    have hd : (UInt8.ofNat (length % 128)).toNat = length % 128 := by
      rw [UInt8.toNat_ofNat']; omega
    rw [encodeDigits]
    split
    next hmore =>
      rw [fieldValue, ih (length / 128) (by omega), or_128_toNat (by omega), hd]
      omega
    next =>
      simp only [fieldValue, hd]
      omega

/-- What `MQTTPacket_encode` writes is a complete field. -/
theorem isField_mqttPacketEncode (length : Nat) : IsField (mqttPacketEncode length) :=
  isField_encodeDigits length length (Nat.le_refl _)

/-- It stands for the length. -/
theorem fieldValue_mqttPacketEncode (length : Nat) :
    fieldValue (mqttPacketEncode length) = length :=
  fieldValue_encodeDigits length length (Nat.le_refl _)

/-- A field of at most `n` bytes stands for a number below `128 ^ n`, and the encoder writes no
more bytes than are needed. -/
theorem length_encodeDigits_le (n : Nat) {rounds length : Nat} (h : length < 128 ^ (n + 1)) :
    (encodeDigits rounds length).length ≤ n + 1 := by
  induction n generalizing rounds length with
  | zero =>
    have hmore : ¬ 0 < length / 128 := by omega
    cases rounds with
    | zero => exact Nat.le_refl _
    | succ rounds => rw [encodeDigits, if_neg hmore]; exact Nat.le_refl _
  | succ n ih =>
    have hdiv : length / 128 < 128 ^ (n + 1) := by
      rw [pow_succ] at h
      exact Nat.div_lt_of_lt_mul (Nat.mul_comm _ 128 ▸ h)
    cases rounds with
    | zero => exact Nat.succ_le_succ (Nat.zero_le _)
    | succ rounds =>
      rw [encodeDigits]
      split
      · exact Nat.succ_le_succ (ih hdiv)
      · exact Nat.succ_le_succ (Nat.zero_le _)

theorem fieldValue_lt (bs : Bytes) : fieldValue bs < 128 ^ bs.length := by
  induction bs with
  | nil => exact Nat.one_pos
  | cons b bs ih =>
    rw [fieldValue, List.length_cons, pow_succ]
    omega

/-- What was decoded is written back in at most four bytes. -/
theorem length_mqttPacketEncode_le {length : Nat} (h : length < 128 ^ 4) :
    (mqttPacketEncode length).length ≤ 4 := length_encodeDigits_le 3 h

/-- One byte is enough below 128 only. -/
theorem length_mqttPacketEncode_eq_one_iff {length : Nat} :
    (mqttPacketEncode length).length = 1 ↔ length < 128 := by
  cases length with
  | zero => decide
  | succ n =>
    rw [mqttPacketEncode, encodeDigits]
    split
    next hmore =>
      have hpos := (isField_encodeDigits n ((n + 1) / 128) (by omega)).length_pos
      simp only [List.length_cons]
      omega
    next hlast => simp only [List.length_singleton, true_iff]; omega

theorem length_readField_le {σ : Type} (getchar : σ → Option UInt8 × σ) (rounds : Nat) (s : σ) :
    (readField getchar rounds s).1.length ≤ rounds := by
  induction rounds generalizing s with
  | zero => exact Nat.le_refl _
  | succ rounds ih =>
    rw [readField]
    cases getchar s with
    | mk next t =>
      cases next with
      | none => exact Nat.zero_le _
      | some b =>
        dsimp only
        split
        · exact Nat.succ_le_succ (ih t)
        · exact Nat.succ_le_succ (Nat.zero_le _)

/-- A length field ends itself. -/
theorem IsField.append_inj {as bs xs ys : Bytes} (has : IsField as) (hbs : IsField bs)
    (h : as ++ xs = bs ++ ys) : as = bs ∧ xs = ys := by
  induction has generalizing bs with
  | @last a ha =>
    cases hbs with
    | last => cases h; exact ⟨rfl, rfl⟩
    | more hb => cases h; omega
  | @more a as ha has ih =>
    cases hbs with
    | last hb => cases h; omega
    | more hb hbs =>
      obtain ⟨rfl, hrest⟩ := List.cons.inj h
      obtain ⟨rfl, rfl⟩ := ih hbs hrest
      exact ⟨rfl, rfl⟩

/-! ## Memory -/

/-- The bytes stand in memory from an index on. -/
def HasAt (buf : Memory) : Nat → Bytes → Prop
  | _, [] => True
  | pos, b :: bs => buf pos = b ∧ HasAt buf (pos + 1) bs

theorem hasAt_append {buf : Memory} {pos : Nat} {as bs : Bytes} :
    HasAt buf pos (as ++ bs) ↔ HasAt buf pos as ∧ HasAt buf (pos + as.length) bs := by
  induction as generalizing pos with
  | nil => simp [HasAt]
  | cons a as ih =>
    rw [List.cons_append, HasAt, HasAt, ih, and_assoc, List.length_cons, Nat.add_right_comm,
      Nat.add_assoc]

/-- What stands in memory is what the decoder of a buffer gets. -/
theorem HasAt.delivers {buf : Memory} {pos : Nat} {bs : Bytes} (h : HasAt buf pos bs) :
    Delivers (bufchar buf) bs pos (pos + bs.length) := by
  induction bs generalizing pos with
  | nil => rfl
  | cons b bs ih =>
    refine ⟨pos + 1, ?_, ?_⟩
    · rw [bufchar, h.1]
    · rw [List.length_cons, ← Nat.add_assoc, Nat.add_right_comm]
      exact ih h.2

/-- A write of the bytes `bytes` from the index on. -/
structure BufWrite where
  index : Nat
  bytes : Bytes
  deriving DecidableEq

/-- Memory after a write. -/
def BufWrite.apply (w : BufWrite) (buf : Memory) : Memory := fun i =>
  if w.index ≤ i then w.bytes.getD (i - w.index) (buf i) else buf i

/-- Memory after some writes. -/
def applyWrites (buf : Memory) (writes : List BufWrite) : Memory :=
  writes.foldl (fun buf w => w.apply buf) buf

/-- What is written stands there. -/
theorem hasAt_apply (buf : Memory) (pos : Nat) (bs : Bytes) :
    HasAt (BufWrite.apply ⟨pos, bs⟩ buf) pos bs := by
  suffices h : ∀ (as : Bytes) (cs : Bytes), as ++ cs = bs →
      HasAt (BufWrite.apply ⟨pos, bs⟩ buf) (pos + as.length) cs from h [] bs rfl
  intro as cs
  induction cs generalizing as with
  | nil => intro _; trivial
  | cons c cs ih =>
    intro heq
    refine ⟨?_, ?_⟩
    · simp [BufWrite.apply, ← heq]
    · have hrest := ih (as ++ [c]) (by simp [heq])
      rwa [List.length_append, List.length_singleton, ← Nat.add_assoc] at hrest

/-- What stands before the place of a write stays. -/
theorem HasAt.apply {buf : Memory} {pos : Nat} {bs : Bytes} (h : HasAt buf pos bs) {w : BufWrite}
    (hw : pos + bs.length ≤ w.index) : HasAt (w.apply buf) pos bs := by
  induction bs generalizing pos with
  | nil => trivial
  | cons b bs ih =>
    rw [List.length_cons] at hw
    refine ⟨?_, ih h.2 (by omega)⟩
    have hpos : ¬ w.index ≤ pos := by omega
    rw [BufWrite.apply, if_neg hpos, h.1]

end Esp32Iot
