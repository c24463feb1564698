import Esp32Iot.Mqtt.Receive

/-!
# The remaining length, written and read

`MQTTPacket_encode` of `MQTTPacket.c` against its two readers, `MQTTPacket_decode` of the same file,
which gets its bytes from a function, and `decodePacket` of `MQTTClient.c`, which gets them from
`mqttread`. A reader stops behind the fourth byte; what it takes of bytes that come is
`decodeLoop_supplied`, for both.

`remainingLength_exact` is the round trip with the number of bytes, and that the readers agree on
whatever comes.
-/

namespace Esp32Iot

/-! ## The number of digits -/

/-- `j` digits are enough exactly below `128 ^ j`. -/
theorem length_mqttPacketEncode_le_iff (length : Nat) {j : Nat} (hj : 0 < j) :
    (mqttPacketEncode length).length ≤ j ↔ length < 128 ^ j := by
  refine ⟨?_, ?_⟩
  · intro h
    have hlt := fieldValue_lt (mqttPacketEncode length)
    rw [fieldValue_mqttPacketEncode] at hlt
    exact Nat.lt_of_lt_of_le hlt (Nat.pow_le_pow_right (by decide) h)
  · intro h
    obtain ⟨n, rfl⟩ := Nat.exists_eq_add_of_le' hj
    exact length_encodeDigits_le n h

/-! ## A stream that supplies what is asked for -/

/-- Bytes from the front of a list. -/
def nextByte : Bytes → Option UInt8 × Bytes
  | [] => (none, [])
  | b :: bs => (some b, bs)

/-- A decoder that may take `rounds` bytes finds each one that it asks for among these. -/
def Supplies : Nat → Bytes → Prop
  | 0, _ => True
  | _ + 1, [] => False
  | rounds + 1, b :: bs => 128 ≤ b.toNat → Supplies rounds bs

/-- **A decoder on bytes that come**: it takes some of them, at most as many as it may, and goes by
nothing else. -/
theorem decodeLoop_supplied {rounds : Nat} {bs : Bytes} (h : Supplies rounds bs)
    (multiplier value : Nat) :
    ∃ len total used rest, bs = used ++ rest ∧ used.length ≤ rounds ∧
      ∀ {σ : Type} {getchar : σ → Option UInt8 × σ} {s s' : σ}, Delivers getchar bs s s' →
        ∃ t, decodeLoop getchar rounds multiplier value s = ⟨len, total, t⟩ ∧
          Delivers getchar used s t ∧ Delivers getchar rest t s' := by
  induction rounds generalizing bs multiplier value with
  | zero => exact ⟨1, value, [], bs, rfl, Nat.le_refl _, fun hd => ⟨_, rfl, rfl, hd⟩⟩
  | succ rounds ih =>
    cases bs with
    | nil => exact h.elim
    | cons b bs =>
      by_cases hb : 128 ≤ b.toNat
      · obtain ⟨len, total, used, rest, rfl, hused, hall⟩ :=
          ih (h hb) (multiplier * 128) (value + b.toNat % 128 * multiplier)
        refine ⟨len + 1, total, b :: used, rest, rfl, Nat.succ_le_succ hused, ?_⟩
        rintro σ getchar s s' ⟨t, hnext, hd⟩
        obtain ⟨u, hloop, hfront, hback⟩ := hall hd
        refine ⟨u, ?_, ⟨t, hnext, hfront⟩, hback⟩
        rw [decodeLoop, hnext]
        simp only [and_128_ne_zero_iff, and_127_toNat, hb, if_true, hloop]
      · refine ⟨1, value + b.toNat % 128 * multiplier, [b], bs, rfl, Nat.le_add_left 1 _, ?_⟩
        rintro σ getchar s s' ⟨t, hnext, hd⟩
        refine ⟨t, ?_, ⟨t, hnext, rfl⟩, hd⟩
        rw [decodeLoop, hnext]
        simp only [and_128_ne_zero_iff, and_127_toNat, hb, if_false]

theorem readField_nextByte (rounds : Nat) (bs : Bytes) :
    (readField nextByte rounds bs).1 ++ (readField nextByte rounds bs).2 = bs := by
  induction rounds generalizing bs with
  | zero => rfl
  | succ rounds ih =>
    cases bs with
    | nil => rfl
    | cons b bs =>
      rw [readField, nextByte]
      dsimp only
      split
      · rw [List.cons_append, ih]
      · rfl

/-- Bytes that are decoded as a whole are enough digits for their number. -/
theorem lt_of_mqttPacketDecode {bs : Bytes} {n : Nat}
    (h : mqttPacketDecode nextByte bs = ⟨bs.length, n, []⟩) :
    0 < bs.length ∧ n < 128 ^ bs.length := by
  obtain ⟨hvalue, hrest⟩ := decodeLoop_readField nextByte 4 1 0 bs
  rw [← mqttPacketDecode, h, Nat.zero_add, Nat.one_mul] at hvalue
  rw [← mqttPacketDecode, h] at hrest
  have hused := readField_nextByte 4 bs
  rw [← hrest, List.append_nil] at hused
  refine ⟨?_, ?_⟩
  · cases bs with
    | nil => cases h
    | cons b bs => exact Nat.succ_pos _
  · have hlt := fieldValue_lt bs
    rw [hused] at hvalue
    rwa [← hvalue] at hlt

/-! ## The two readers -/

theorem delivers_next {bs : Bytes} {f g : Feed UInt8} :
    Delivers Feed.next bs f g ↔ f = Feed.append bs g := by
  induction bs generalizing f with
  | nil => rfl
  | cons b bs ih =>
    rw [Delivers, Feed.append_cons]
    refine ⟨?_, ?_⟩
    · rintro ⟨t, hnext, h⟩
      rw [← ih.1 h]
      cases f with
      | item a f => cases hnext; rfl
      | quiet | pause f | ended tail => cases hnext
    · intro h
      exact ⟨_, by rw [h]; rfl, ih.2 rfl⟩

/-- `decodePacket` is the same loop over the bytes of the line. -/
theorem decodePacket_eq (l : ReadLine) :
    mqttPacketDecode Feed.next l.feed =
      ⟨(decodePacket l).len, (decodePacket l).value, (decodePacket l).rest.feed⟩ :=
  decodeLoop_map mqttreadChar_feed 4 1 0 l

theorem mqttPacketDecode_encode {σ : Type} {getchar : σ → Option UInt8 × σ} {n : Nat}
    (hn : n < 2 ^ 28) {s s' : σ} (h : Delivers getchar (mqttPacketEncode n) s s') :
    mqttPacketDecode getchar s = ⟨(mqttPacketEncode n).length, n, s'⟩ := by
  have hdecode := decodeLoop_field (isField_mqttPacketEncode n)
    (length_mqttPacketEncode_le (show n < 128 ^ 4 from hn)) h 1 0
  rwa [fieldValue_mqttPacketEncode, Nat.zero_add, Nat.one_mul] at hdecode

/-- **The remaining length is written and read exactly.** Below `2 ^ 28` the encoder writes one to
four bytes, no shorter bytes are decoded to the same number, and both readers get the number from
them and leave what follows, whatever it is. On any bytes that supply what is asked for the readers
agree, on the value and on the bytes they take, which are at most four. -/
theorem remainingLength_exact {σ : Type} (getchar : σ → Option UInt8 × σ) :
    (∀ n < 2 ^ 28, ∃ k, (mqttPacketEncode n).length = k ∧ 1 ≤ k ∧ k ≤ 4 ∧
      (∀ bs : Bytes, mqttPacketDecode nextByte bs = ⟨bs.length, n, []⟩ → k ≤ bs.length) ∧
      (∀ s s', Delivers getchar (mqttPacketEncode n) s s' →
        mqttPacketDecode getchar s = ⟨k, n, s'⟩) ∧
      ∀ (l : ReadLine) (data : Feed UInt8), l.feed = Feed.append (mqttPacketEncode n) data →
        (decodePacket l).len = k ∧ (decodePacket l).value = n ∧
          (decodePacket l).rest.feed = data) ∧
    ∀ (bs : Bytes) (s s' : σ) (l : ReadLine) (data : Feed UInt8), Supplies 4 bs →
      Delivers getchar bs s s' → l.feed = Feed.append bs data →
      (mqttPacketDecode getchar s).value = (decodePacket l).value ∧
        (mqttPacketDecode getchar s).len = (decodePacket l).len ∧
        ∃ used rest, bs = used ++ rest ∧ used.length ≤ 4 ∧
          Delivers getchar used s (mqttPacketDecode getchar s).rest ∧
          Delivers getchar rest (mqttPacketDecode getchar s).rest s' ∧
          (decodePacket l).rest.feed = Feed.append rest data := by
  refine ⟨?_, ?_⟩
  · intro n hn
    have hk := (isField_mqttPacketEncode n).length_pos
    refine ⟨_, rfl, hk, length_mqttPacketEncode_le hn, ?_, ?_, ?_⟩
    · intro bs hbs
      obtain ⟨hpos, hlt⟩ := lt_of_mqttPacketDecode hbs
      exact (length_mqttPacketEncode_le_iff n hpos).2 hlt
    · intro s s' hd
      exact mqttPacketDecode_encode hn hd
    · intro l data hfeed
      have hdecode := mqttPacketDecode_encode hn (delivers_next.2 hfeed)
      rw [decodePacket_eq] at hdecode
      injection hdecode with hlen hvalue hrest
      exact ⟨hlen, hvalue, hrest⟩
  · intro bs s s' l data hbs hd hfeed
    obtain ⟨len, total, used, rest, hsplit, hused, hall⟩ := decodeLoop_supplied hbs 1 0
    obtain ⟨t, hdecode, hfront, hback⟩ := hall hd
    obtain ⟨g, hline, -, hafter⟩ := hall (delivers_next.2 hfeed)
    rw [← mqttPacketDecode] at hdecode hline
    rw [decodePacket_eq] at hline
    injection hline with hlen hvalue hrest
    rw [hdecode]
    exact ⟨hvalue.symm, hlen.symm, used, rest, hsplit, hused, hfront, hback,
      hrest.trans (delivers_next.1 hafter)⟩

/-- The length 300 in two segments, and a byte behind it. -/
def lengthLine : ReadLine where
  connected := true
  errno := .clear
  incoming := [.arrived [0xac], .arrived [2, 7]]

/-- Both readers take 300 from the first two of three bytes. -/
theorem remainingLength_lengthLine :
    mqttPacketDecode nextByte [0xac, 2, 7] = ⟨2, 300, [7]⟩ ∧
      (decodePacket lengthLine).value = 300 ∧
      (decodePacket lengthLine).rest.feed = .item 7 .quiet ∧
      (mqttPacketDecode nextByte [0xac, 2, 7]).len = (decodePacket lengthLine).len := by
  obtain ⟨hcodec, hagree⟩ := remainingLength_exact nextByte
  obtain ⟨k, hk, -, -, -, hdecode, hline⟩ := hcodec 300 (by decide)
  have hfeed : lengthLine.feed = Feed.append (mqttPacketEncode 300) (.item 7 .quiet) := by
    decide +kernel
  have hbytes : Delivers nextByte [0xac, 2] [0xac, 2, 7] [7] := ⟨_, rfl, _, rfl, rfl⟩
  have hsupplied : Supplies 4 [0xac, 2, 7] := fun _ h => absurd h (by decide)
  have htwo : k = 2 := hk.symm
  obtain ⟨-, hvalue, hrest⟩ := hline lengthLine _ hfeed
  refine ⟨?_, hvalue, hrest, ?_⟩
  · rw [hdecode [0xac, 2, 7] [7] hbytes, htwo]
  · exact (hagree [0xac, 2, 7] [0xac, 2, 7] [] lengthLine .quiet hsupplied
      ⟨_, rfl, _, rfl, _, rfl, rfl⟩ (by decide +kernel)).2.1

end Esp32Iot
