import Esp32Iot.Lib.Runs
import Esp32Iot.Lib.Source
import Esp32Iot.Mqtt.Malformed

/-!
# The reader that does not wait

`MQTTPacket_readnb` of `MQTTPacket.c`, which reads a packet in as many calls as it takes and keeps
what it has in an `MQTTTransport`: a state for the header byte, one for the length field and one for
the body, each of which falls through into the next. A call that finds nothing to read returns 0.

`nbReports_in_order` says that the calls report the packets in order, in whatever pieces their bytes
come. `awaitPacket_outcome` says what becomes of a packet: `MQTTPacket_decodenb` counts its tries
and not the bytes it got, so a length field that is waited for too often is an error, and the packet
with no body is never reported, because no bytes are what a source hands out that has none yet.
`nbWrites_inside_iff` is the room that the calls need.
-/

namespace Esp32Iot

/-! ## `MQTTPacket_readnb` -/

/-- `MQTTPACKET_READ_ERROR`. -/
def mqttpacketReadError : Int := -1

/-- `MQTTTransport`. Its `getfn` is an argument of the functions that call it. -/
structure MqttTransport (σ : Type) where
  sck : σ
  multiplier : Nat
  remLen : Nat
  len : Nat
  state : Nat
  deriving DecidableEq

/-- A transport before its first call. -/
def freshTransport {σ : Type} (sck : σ) : MqttTransport σ := ⟨sck, 0, 0, 0, 0⟩

/-- What a call of `MQTTPacket_readnb` returns, writes to `buf` and leaves of the transport. -/
structure NbRead (σ : Type) where
  code : Int
  writes : List BufWrite
  trp : MqttTransport σ
  deriving DecidableEq

section
variable {σ : Type} (getfn : σ → Nat → Option Bytes × σ)

/-- The loop of `MQTTPacket_decodenb`, with the tries that are still allowed. A try that gets
nothing is counted in `len` as well. -/
def decodenbLoop : Nat → MqttTransport σ → Int × MqttTransport σ
  | 0, trp => (mqttpacketReadError, { trp with len := trp.len + 1 })
  | tries + 1, trp =>
      let trp := { trp with len := trp.len + 1 }
      match getfn trp.sck 1 with
      | (none, sck) => (mqttpacketReadError, { trp with sck })
      | (some [], sck) => (0, { trp with sck })
      | (some (c :: _), sck) =>
          let trp := { trp with
            sck
            remLen := trp.remLen + (c &&& 127).toNat * trp.multiplier
            multiplier := trp.multiplier * 128 }
          if c &&& 128 ≠ 0 then decodenbLoop tries trp else (trp.len, trp)

/-- `MQTTPacket_decodenb`. -/
def mqttPacketDecodenb (trp : MqttTransport σ) : Int × MqttTransport σ :=
  let trp := if trp.len = 0 then { trp with multiplier := 1, remLen := 0 } else trp
  decodenbLoop getfn (4 - trp.len) trp

/-- `MQTTPacket_readnb` from `case 2` on: the body. -/
def readnbBody (buf : Memory) (trp : MqttTransport σ) : NbRead σ :=
  match getfn trp.sck trp.remLen with
  | (none, sck) => ⟨-1, [], { trp with sck, state := 0 }⟩
  | (some [], sck) => ⟨0, [], { trp with sck }⟩
  | (some bytes, sck) =>
      let write : BufWrite := ⟨trp.len, bytes⟩
      let trp := { trp with
        sck, remLen := trp.remLen - bytes.length, len := trp.len + bytes.length }
      if trp.remLen ≠ 0 then ⟨0, [write], trp⟩
      else ⟨headerType (write.apply buf 0), [write], { trp with state := 0 }⟩

/-- `MQTTPacket_readnb` from `case 1` on: the remaining length, which is put back into the buffer
before it is compared with its size. -/
def readnbLength (buf : Memory) (buflen : Nat) (trp : MqttTransport σ) : NbRead σ :=
  let frc := mqttPacketDecodenb getfn trp
  if frc.1 = mqttpacketReadError then ⟨-1, [], { frc.2 with state := 0 }⟩
  else if frc.1 = 0 then ⟨0, [], frc.2⟩
  else
    let write : BufWrite := ⟨1, mqttPacketEncode frc.2.remLen⟩
    let trp := { frc.2 with len := 1 + (mqttPacketEncode frc.2.remLen).length }
    if buflen < trp.remLen + trp.len then ⟨-1, [write], { trp with state := 0 }⟩
    else
      let body := readnbBody getfn (write.apply buf) { trp with state := trp.state + 1 }
      { body with writes := write :: body.writes }

/-- `MQTTPacket_readnb` from `case 0` on: the header byte. -/
def readnbHeader (buf : Memory) (buflen : Nat) (trp : MqttTransport σ) : NbRead σ :=
  match getfn trp.sck 1 with
  | (none, sck) => ⟨-1, [], { trp with sck, state := 0 }⟩
  | (some [], sck) => ⟨0, [], { trp with sck }⟩
  | (some bytes, sck) =>
      let write : BufWrite := ⟨0, bytes⟩
      let trp := { trp with sck, len := 0, state := trp.state + 1 }
      let length := readnbLength getfn (write.apply buf) buflen trp
      { length with writes := write :: length.writes }

/-- `MQTTPacket_readnb`. -/
def mqttPacketReadnb (buf : Memory) (buflen : Nat) (trp : MqttTransport σ) : NbRead σ :=
  match trp.state with
  | 1 => readnbLength getfn buf buflen trp
  | 2 => readnbBody getfn buf trp
  | _ => readnbHeader getfn buf buflen { trp with state := 0 }

end

/-! ## The length field -/

theorem fieldValue_append (as bs : Bytes) :
    fieldValue (as ++ bs) = fieldValue as + 128 ^ as.length * fieldValue bs := by
  induction as with
  | nil => simp [fieldValue]
  | cons a as ih =>
    rw [List.cons_append, fieldValue, fieldValue, ih, List.length_cons, pow_succ, Nat.mul_add,
      ← Nat.mul_assoc, Nat.mul_comm (128 ^ as.length), Nat.add_assoc]

/-- The top bit of a byte of a length field says whether another one follows. -/
theorem IsField.more_iff {as bs : Bytes} {b : UInt8} (h : IsField (as ++ b :: bs)) :
    128 ≤ b.toNat ↔ bs ≠ [] := by
  induction as with
  | nil =>
    cases h with
    | last hb => exact iff_of_false (Nat.not_le.2 hb) (fun hne => hne rfl)
    | more hb hbs =>
      refine iff_of_true hb ?_
      rintro rfl
      cases hbs
  | cons a as ih =>
    rw [List.cons_append] at h
    generalize hrest : as ++ b :: bs = rest at h ih
    cases h with
    | last => exact absurd hrest (by simp)
    | more ha hrest => exact ih hrest

namespace WirePacket

/-- The packet as it is put together in a buffer, where its length is encoded again. -/
def contents (p : WirePacket) : Bytes := p.header :: (mqttPacketEncode p.body.length ++ p.body)

end WirePacket

section
variable {σ : Type} {src : Source σ UInt8} {p : WirePacket} {later : Bytes} {buflen waits : Nat}

/-- What the transport holds of a length field, some tries of which got nothing. -/
structure MqttTransport.Partial (trp : MqttTransport σ) (done : Bytes) (waits : Nat) : Prop where
  len : trp.len = done.length + waits
  multiplier : trp.multiplier = 128 ^ done.length
  remLen : trp.remLen = fieldValue done

/-- How far a call of `MQTTPacket_decodenb` gets with the length field of a packet. -/
inductive FieldRead (src : Source σ UInt8) (p : WirePacket) (later : Bytes) (waits : Nat) (s : σ) :
    Int × MqttTransport σ → Prop
  | failed {trp : MqttTransport σ} (h : src.Fails ∨ 4 < p.lengthField.length + waits) :
      FieldRead src p later waits s (mqttpacketReadError, trp)
  | waiting {trp : MqttTransport σ} (done todo : Bytes) (hfield : p.lengthField = done ++ todo)
      (htodo : todo ≠ []) (hpart : trp.Partial done (waits + 1))
      (hstream : src.stream trp.sck = todo ++ (p.body ++ later))
      (hwaited : src.Waited s trp.sck) : FieldRead src p later waits s (0, trp)
  | complete {trp : MqttTransport σ} {n : Nat} (hn : 0 < n)
      (htries : p.lengthField.length + waits ≤ 4) (hrem : trp.remLen = p.body.length)
      (hstream : src.stream trp.sck = p.body ++ later) (hfollows : src.Follows s trp.sck) :
      FieldRead src p later waits s (n, trp)

/-- A byte of the field, added to what the transport holds. -/
theorem MqttTransport.Partial.byte {trp : MqttTransport σ} {done : Bytes}
    (h : trp.Partial done waits) (c : UInt8) (t : σ) :
    MqttTransport.Partial
      { sck := t, multiplier := trp.multiplier * 128,
        remLen := trp.remLen + (c &&& 127).toNat * trp.multiplier,
        len := trp.len + 1, state := trp.state } (done ++ [c]) waits where
  len := by
    rw [List.length_append, List.length_singleton, h.len, Nat.add_right_comm]
  multiplier := by
    rw [List.length_append, List.length_singleton, pow_succ, h.multiplier]
  remLen := by
    change trp.remLen + (c &&& 127).toNat * trp.multiplier = _
    rw [fieldValue_append, h.remLen, h.multiplier, and_127_toNat, fieldValue, fieldValue,
      Nat.mul_zero, Nat.add_zero, Nat.mul_comm]

/-- The loop, from any byte of the field on. -/
theorem decodenbLoop_field {s : σ} {tries : Nat} {trp : MqttTransport σ} {done todo : Bytes}
    (hfield : p.lengthField = done ++ todo) (htodo : todo ≠ []) (hpart : trp.Partial done waits)
    (htries : tries = 4 - trp.len) (hstream : src.stream trp.sck = todo ++ (p.body ++ later))
    (hfollows : src.Follows s trp.sck) :
    FieldRead src p later waits s (decodenbLoop src.get tries trp) := by
  induction tries generalizing trp done todo with
  | zero =>
    have hpos := List.length_pos_of_ne_nil htodo
    have hlen := hpart.len
    refine .failed (.inr ?_)
    rw [hfield, List.length_append]
    omega
  | succ tries ih =>
    rw [decodenbLoop]
    cases hget : src.get trp.sck 1 with
    | mk next t =>
      match next with
      | none => exact .failed (.inl ⟨trp.sck, 1, by rw [hget]⟩)
      | some [] =>
        have hrest : src.stream t = todo ++ (p.body ++ later) :=
          (src.stream_eq hget).symm.trans hstream
        have hpart' : MqttTransport.Partial
            { trp with sck := t, len := trp.len + 1 } done (waits + 1) :=
          ⟨by rw [← Nat.add_assoc, ← hpart.len], hpart.multiplier, hpart.remLen⟩
        refine .waiting done todo hfield htodo hpart' hrest
          (hfollows.get_short hget Nat.one_pos ?_)
        rw [hrest]
        exact List.append_ne_nil_of_left_ne_nil htodo _
      | some (c :: cs) =>
        have hcs : cs = [] := List.eq_nil_of_length_eq_zero
          (Nat.le_zero.1 (Nat.le_of_succ_le_succ (src.length_le hget)))
        subst hcs
        obtain ⟨todo, rfl, hrest⟩ :=
          Source.get_of_stream hget hstream (List.length_pos_of_ne_nil htodo)
        have hmore : 128 ≤ c.toNat ↔ todo ≠ [] := (hfield ▸ p.isField).more_iff
        have hfield' : p.lengthField = (done ++ [c]) ++ todo := by
          rw [hfield, List.append_assoc]
        have hpart' := hpart.byte c t
        simp only [and_128_ne_zero_iff, hmore]
        split
        next htodo' =>
          exact ih hfield' htodo' hpart' (by simp only; omega) hrest (hfollows.get hget)
        next hend =>
          rw [Decidable.not_not] at hend
          subst hend
          rw [List.append_nil] at hfield'
          refine .complete (Nat.succ_pos _) ?_ ?_ hrest (hfollows.get hget)
          · have hlen := hpart'.len
            simp only at hlen
            rw [hfield', ← hlen]
            omega
          · rw [← p.announces, hfield', ← hpart'.remLen]

/-- **`MQTTPacket_decodenb`** on the length field of a packet, of which some bytes can have been
read before. -/
theorem mqttPacketDecodenb_field {s : σ} {trp : MqttTransport σ} {done todo : Bytes}
    (hfield : p.lengthField = done ++ todo) (htodo : todo ≠ [])
    (hpart : trp.len = 0 ∧ done = [] ∧ waits = 0 ∨ trp.len ≠ 0 ∧ trp.Partial done waits)
    (hstream : src.stream trp.sck = todo ++ (p.body ++ later)) (hfollows : src.Follows s trp.sck) :
    FieldRead src p later waits s (mqttPacketDecodenb src.get trp) := by
  rw [mqttPacketDecodenb]
  rcases hpart with ⟨hlen, rfl, rfl⟩ | ⟨hlen, hpart⟩
  · simp only [hlen, if_true]
    exact decodenbLoop_field hfield htodo ⟨rfl, rfl, rfl⟩ rfl hstream hfollows
  · simp only [hlen, if_false]
    exact decodenbLoop_field hfield htodo hpart rfl hstream hfollows

theorem decodenbLoop_state (getfn : σ → Nat → Option Bytes × σ) (tries : Nat)
    (trp : MqttTransport σ) : (decodenbLoop getfn tries trp).2.state = trp.state := by
  induction tries generalizing trp with
  | zero => rfl
  | succ tries ih =>
    rw [decodenbLoop]
    cases getfn trp.sck 1 with
    | mk next t =>
      match next with
      | none => rfl
      | some [] => rfl
      | some (c :: _) =>
        dsimp only
        split
        · rw [ih]
        · rfl

theorem mqttPacketDecodenb_state (getfn : σ → Nat → Option Bytes × σ) (trp : MqttTransport σ) :
    (mqttPacketDecodenb getfn trp).2.state = trp.state := by
  rw [mqttPacketDecodenb]
  split
  · rw [decodenbLoop_state]
  · rw [decodenbLoop_state]

/-! ## A call -/

/-- How far the calls have got with a packet, with the number of those that ended in its length
field. -/
inductive Reached (src : Source σ UInt8) (p : WirePacket) (later : Bytes) (buflen : Nat) :
    Nat → MqttTransport σ → Memory → Prop
  | header {trp : MqttTransport σ} {buf : Memory} (hone : trp.state ≠ 1) (htwo : trp.state ≠ 2)
      (hstream : src.stream trp.sck = p.bytes ++ later) : Reached src p later buflen 0 trp buf
  | length {trp : MqttTransport σ} {buf : Memory} {waits : Nat} (done todo : Bytes)
      (hstate : trp.state = 1) (hfield : p.lengthField = done ++ todo) (htodo : todo ≠ [])
      (hlen : trp.len ≠ 0) (hpart : trp.Partial done waits) (hheader : HasAt buf 0 [p.header])
      (hstream : src.stream trp.sck = todo ++ (p.body ++ later)) :
      Reached src p later buflen waits trp buf
  | body {trp : MqttTransport σ} {buf : Memory} {waits : Nat} (done todo : Bytes)
      (hstate : trp.state = 2) (hbody : p.body = done ++ todo) (htodo : p.body ≠ [] → todo ≠ [])
      (hrem : trp.remLen = todo.length)
      (hlen : trp.len = 1 + (mqttPacketEncode p.body.length).length + done.length)
      (hat : HasAt buf 0 (p.header :: (mqttPacketEncode p.body.length ++ done)))
      (htries : p.lengthField.length + waits ≤ 4) (hfits : p.contents.length ≤ buflen)
      (hstream : src.stream trp.sck = todo ++ later) : Reached src p later buflen waits trp buf

/-- What a call returns, and leaves of the transport and of the buffer. -/
inductive CallEnds (src : Source σ UInt8) (p : WirePacket) (later : Bytes) (buflen waits : Nat)
    (s : σ) : Int → MqttTransport σ → Memory → Prop
  | failed {trp : MqttTransport σ} {buf : Memory} (hstate : trp.state = 0)
      (h : src.Fails ∨ 4 < p.lengthField.length + waits ∨ buflen < p.contents.length) :
      CallEnds src p later buflen waits s (-1) trp buf
  | waiting {trp : MqttTransport σ} {buf : Memory}
      (h : Reached src p later buflen (if trp.state = 1 then waits + 1 else waits) trp buf)
      (hsince : src.Waited s trp.sck ∨ trp.state = 2 ∧ p.body = []) :
      CallEnds src p later buflen waits s 0 trp buf
  | complete {trp : MqttTransport σ} {buf : Memory} (hstate : trp.state = 0)
      (hstream : src.stream trp.sck = later) (hat : HasAt buf 0 p.contents)
      (htries : p.lengthField.length + waits ≤ 4) (hfits : p.contents.length ≤ buflen)
      (hbody : p.body ≠ []) : CallEnds src p later buflen waits s (headerType p.header) trp buf

/-- Some bytes of the body. -/
theorem readnbBody_bytes {getfn : σ → Nat → Option Bytes × σ} (buf : Memory)
    {trp : MqttTransport σ} {t : σ} {bytes : Bytes} (hne : bytes ≠ [])
    (hget : getfn trp.sck trp.remLen = (some bytes, t)) :
    readnbBody getfn buf trp =
      if trp.remLen - bytes.length ≠ 0 then
        ⟨0, [⟨trp.len, bytes⟩], ⟨t, trp.multiplier, trp.remLen - bytes.length,
          trp.len + bytes.length, trp.state⟩⟩
      else
        ⟨headerType (BufWrite.apply ⟨trp.len, bytes⟩ buf 0), [⟨trp.len, bytes⟩],
          ⟨t, trp.multiplier, trp.remLen - bytes.length, trp.len + bytes.length, 0⟩⟩ := by
  rw [readnbBody, hget]
  cases bytes with
  | nil => exact absurd rfl hne
  | cons b bytes => rfl

/-- The body, from any byte on. -/
theorem readnbBody_ends {s : σ} {trp : MqttTransport σ} {buf : Memory} {done todo : Bytes}
    (hstate : trp.state = 2) (hbody : p.body = done ++ todo) (htodo : p.body ≠ [] → todo ≠ [])
    (hrem : trp.remLen = todo.length)
    (hlen : trp.len = 1 + (mqttPacketEncode p.body.length).length + done.length)
    (hat : HasAt buf 0 (p.header :: (mqttPacketEncode p.body.length ++ done)))
    (htries : p.lengthField.length + waits ≤ 4) (hfits : p.contents.length ≤ buflen)
    (hstream : src.stream trp.sck = todo ++ later) (hfollows : src.Follows s trp.sck) :
    CallEnds src p later buflen waits s (readnbBody src.get buf trp).code
      (readnbBody src.get buf trp).trp (applyWrites buf (readnbBody src.get buf trp).writes) := by
  rcases hget : src.get trp.sck trp.remLen with ⟨next, t⟩
  rcases next with _ | bytes
  · rw [readnbBody, hget]
    exact .failed rfl (.inl ⟨trp.sck, trp.remLen, by rw [hget]⟩)
  have hfound := hget
  rw [hrem] at hfound
  obtain ⟨rest, rfl, hrest⟩ := Source.get_of_stream hfound hstream (Nat.le_refl _)
  by_cases hnil : bytes = []
  · -- nothing to read yet, or nothing to read at all
    subst hnil
    rw [readnbBody, hget]
    refine .waiting ?_ ?_
    · rw [if_neg (by rw [hstate]; decide)]
      exact .body done rest hstate hbody htodo hrem hlen hat htries hfits hrest
    · by_cases hempty : p.body = []
      · exact .inr ⟨hstate, hempty⟩
      · have hne : rest ≠ [] := htodo hempty
        refine .inl (hfollows.get_short hfound (List.length_pos_of_ne_nil hne) ?_)
        rw [hrest]
        exact List.append_ne_nil_of_left_ne_nil hne _
  · have hat' : HasAt (BufWrite.apply ⟨trp.len, bytes⟩ buf) 0
        (p.header :: (mqttPacketEncode p.body.length ++ (done ++ bytes))) := by
      have hindex : 0 + (p.header :: (mqttPacketEncode p.body.length ++ done)).length =
          trp.len := by
        simp only [List.length_cons, List.length_append]; omega
      rw [← List.append_assoc, ← List.cons_append, hasAt_append, hindex]
      exact ⟨hat.apply (Nat.le_of_eq hindex), hasAt_apply buf trp.len bytes⟩
    have hbody' : p.body = (done ++ bytes) ++ rest := by rw [hbody, List.append_assoc]
    have hrem' : trp.remLen - bytes.length = rest.length := by
      rw [hrem, List.length_append, Nat.add_sub_cancel_left]
    rw [readnbBody_bytes buf hnil hget, hrem']
    split
    next hmore =>
      have hne : rest ≠ [] := List.length_pos_iff_ne_nil.1 (Nat.pos_of_ne_zero hmore)
      refine .waiting ?_ (.inl (hfollows.get_short hfound ?_ ?_))
      · rw [if_neg (by rw [hstate]; decide)]
        refine .body (done ++ bytes) rest hstate hbody' (fun _ => hne) rfl ?_ hat' htries hfits
          hrest
        change trp.len + bytes.length = _
        rw [hlen, List.length_append, Nat.add_assoc]
      · rw [List.length_append]
        exact Nat.lt_add_of_pos_right (Nat.pos_of_ne_zero hmore)
      · rw [hrest]
        exact List.append_ne_nil_of_left_ne_nil hne _
    next hend =>
      rw [Decidable.not_not] at hend
      have hrestNil : rest = [] := List.eq_nil_of_length_eq_zero hend
      rw [hrestNil, List.append_nil] at hbody'
      rw [hrestNil] at hrest
      rw [← hbody'] at hat'
      have hheader : BufWrite.apply ⟨trp.len, bytes⟩ buf 0 = p.header := hat'.1
      rw [hheader]
      refine .complete rfl hrest hat' htries hfits ?_
      rw [hbody']
      exact List.append_ne_nil_of_right_ne_nil done hnil

/-- The length field, from any byte on, and what follows it in the same call. -/
theorem readnbLength_ends {s : σ} {trp : MqttTransport σ} {buf : Memory} {done todo : Bytes}
    (hstate : trp.state = 1) (hfield : p.lengthField = done ++ todo) (htodo : todo ≠ [])
    (hpart : trp.len = 0 ∧ done = [] ∧ waits = 0 ∨ trp.len ≠ 0 ∧ trp.Partial done waits)
    (hheader : HasAt buf 0 [p.header]) (hstream : src.stream trp.sck = todo ++ (p.body ++ later))
    (hfollows : src.Follows s trp.sck) :
    CallEnds src p later buflen waits s (readnbLength src.get buf buflen trp).code
      (readnbLength src.get buf buflen trp).trp
      (applyWrites buf (readnbLength src.get buf buflen trp).writes) := by
  have hread := mqttPacketDecodenb_field hfield htodo hpart hstream hfollows
  have hstate' := (mqttPacketDecodenb_state src.get trp).trans hstate
  rw [readnbLength]
  generalize mqttPacketDecodenb src.get trp = frc at hread hstate'
  cases hread with
  | failed h => exact .failed rfl (h.imp_right .inl)
  | waiting done todo hfield htodo hpart hstream hwaited =>
    have hcode : (0 : Int) ≠ mqttpacketReadError := by decide
    simp only [hcode, if_false, if_true]
    refine .waiting ?_ (.inl hwaited)
    rw [if_pos hstate']
    refine .length done todo hstate' hfield htodo ?_ hpart hheader hstream
    rw [hpart.len]
    omega
  | @complete trp n hn htries hrem hstream hfollows =>
    have hcode : (n : Int) ≠ mqttpacketReadError := by rw [mqttpacketReadError]; omega
    have hcode' : (n : Int) ≠ 0 := by omega
    simp only [hcode, hcode', if_false, hrem]
    split
    next hlong =>
      refine .failed rfl (.inr (.inr ?_))
      rw [WirePacket.contents, List.length_cons, List.length_append]
      omega
    next hfits =>
      have hat : HasAt (BufWrite.apply ⟨1, mqttPacketEncode p.body.length⟩ buf) 0
          (p.header :: (mqttPacketEncode p.body.length ++ [])) := by
        rw [List.append_nil]
        exact ⟨(hheader.apply (Nat.le_refl 1)).1, hasAt_apply buf 1 _⟩
      have hfits' : p.contents.length ≤ buflen := by
        rw [WirePacket.contents, List.length_cons, List.length_append]
        omega
      have htwo : trp.state + 1 = 2 := congrArg (· + 1) hstate'
      exact readnbBody_ends htwo rfl id rfl rfl hat htries hfits' hstream hfollows

section
variable {getfn : σ → Nat → Option Bytes × σ} (buf : Memory) {trp : MqttTransport σ}

theorem mqttPacketReadnb_header (hone : trp.state ≠ 1) (htwo : trp.state ≠ 2) :
    mqttPacketReadnb getfn buf buflen trp =
      readnbHeader getfn buf buflen { trp with state := 0 } := by
  rw [mqttPacketReadnb]
  split
  next h => exact absurd h hone
  next h => exact absurd h htwo
  next => rfl

theorem mqttPacketReadnb_length (hone : trp.state = 1) :
    mqttPacketReadnb getfn buf buflen trp = readnbLength getfn buf buflen trp := by
  rw [mqttPacketReadnb]
  split
  next => rfl
  next htwo => exact absurd (hone.symm.trans htwo) (by decide)
  next hother _ => exact absurd hone hother

theorem mqttPacketReadnb_body (htwo : trp.state = 2) :
    mqttPacketReadnb getfn buf buflen trp = readnbBody getfn buf trp := by
  rw [mqttPacketReadnb]
  split
  next hone => exact absurd (htwo.symm.trans hone) (by decide)
  next => rfl
  next _ hother => exact absurd htwo hother

end

/-- **A call**, wherever the calls before it have got with the packet. -/
theorem mqttPacketReadnb_ends {trp : MqttTransport σ} {buf : Memory}
    (h : Reached src p later buflen waits trp buf) :
    CallEnds src p later buflen waits trp.sck (mqttPacketReadnb src.get buf buflen trp).code
      (mqttPacketReadnb src.get buf buflen trp).trp
      (applyWrites buf (mqttPacketReadnb src.get buf buflen trp).writes) := by
  cases h with
  | header hone htwo hstream =>
    rw [mqttPacketReadnb_header buf hone htwo, readnbHeader]
    rcases hget : src.get trp.sck 1 with ⟨next, t⟩
    match next with
    | none => exact .failed rfl (.inl ⟨trp.sck, 1, by rw [hget]⟩)
    | some [] =>
      have hrest : src.stream t = p.bytes ++ later := (src.stream_eq hget).symm.trans hstream
      refine .waiting (.header nofun nofun hrest) (.inl ?_)
      refine (Source.Follows.refl src trp.sck).get_short hget Nat.one_pos ?_
      rw [hrest]
      exact List.cons_ne_nil _ _
    | some (b :: bs) =>
      have hbs : bs = [] := List.eq_nil_of_length_eq_zero
        (Nat.le_zero.1 (Nat.le_of_succ_le_succ (src.length_le hget)))
      subst hbs
      obtain ⟨rfl, hrest⟩ := List.cons.inj ((src.stream_eq hget).symm.trans hstream)
      refine readnbLength_ends rfl rfl (List.length_pos_iff_ne_nil.1 p.isField.length_pos)
        (.inl ⟨rfl, rfl, rfl⟩) (hasAt_apply buf 0 [p.header]) ?_
        ((Source.Follows.refl src trp.sck).get hget)
      rw [← List.append_assoc]
      exact hrest
  | length done todo hstate hfield htodo hlen hpart hheader hstream =>
    rw [mqttPacketReadnb_length buf hstate]
    exact readnbLength_ends hstate hfield htodo (.inr ⟨hlen, hpart⟩) hheader hstream
      (Source.Follows.refl src trp.sck)
  | body done todo hstate hbody htodo hrem hlen hat htries hfits hstream =>
    rw [mqttPacketReadnb_body buf hstate]
    exact readnbBody_ends hstate hbody htodo hrem hlen hat htries hfits hstream
      (Source.Follows.refl src trp.sck)

/-! ## Any number of calls -/

/-- What is seen of a call: its return value, its writes and the buffer after it. -/
structure NbReport where
  code : Int
  writes : List BufWrite
  buf : Memory

/-- A call on the buffer that the packet is in, which is the caller's between two packets. -/
def nbCall (getfn : σ → Nat → Option Bytes × σ) (buflen : Nat) (s : MqttTransport σ × Memory)
    (caller : Memory) : NbReport × (MqttTransport σ × Memory) :=
  let buf := if s.1.state = 1 ∨ s.1.state = 2 then s.2 else caller
  let read := mqttPacketReadnb getfn buf buflen s.1
  (⟨read.code, read.writes, applyWrites buf read.writes⟩, (read.trp, applyWrites buf read.writes))

/-- Successive calls, with the buffers that the caller has. -/
def nbCalls (getfn : σ → Nat → Option Bytes × σ) (buflen : Nat) (s : MqttTransport σ × Memory)
    (callers : List Memory) : List NbReport :=
  (Runs.outputs (nbCall getfn buflen) s callers).1

/-- The packets that the calls report, until one of them fails. -/
def nbReports (getfn : σ → Nat → Option Bytes × σ) (buflen : Nat) (s : MqttTransport σ × Memory)
    (callers : List Memory) : List NbReport :=
  ((nbCalls getfn buflen s callers).takeWhile (·.code ≠ -1)).filter (·.code ≠ 0)

/-- The report is the packet, which fits the buffer. -/
structure NbReport.Shows (buflen : Nat) (report : NbReport) (p : WirePacket) : Prop where
  type : report.code = headerType p.header
  contents : HasAt report.buf 0 p.contents
  fits : p.contents.length ≤ buflen

/-- Where the calls are among packets. -/
inductive AtPackets (src : Source σ UInt8) (buflen : Nat) :
    MqttTransport σ × Memory → List WirePacket → Prop
  | none {trp : MqttTransport σ} {buf : Memory} (hone : trp.state ≠ 1) (htwo : trp.state ≠ 2)
      (hstream : src.stream trp.sck = []) : AtPackets src buflen (trp, buf) []
  | some {trp : MqttTransport σ} {buf : Memory} {waits : Nat} {p : WirePacket}
      {packets : List WirePacket}
      (h : Reached src p (packets.flatMap WirePacket.bytes) buflen waits trp buf) :
      AtPackets src buflen (trp, buf) (p :: packets)

/-- Between two packets. -/
theorem AtPackets.between {trp : MqttTransport σ} (buf : Memory) {packets : List WirePacket}
    (hstate : trp.state = 0) (hstream : src.stream trp.sck = packets.flatMap WirePacket.bytes) :
    AtPackets src buflen (trp, buf) packets := by
  have hone : trp.state ≠ 1 := by rw [hstate]; decide
  have htwo : trp.state ≠ 2 := by rw [hstate]; decide
  cases packets with
  | nil => exact .none hone htwo hstream
  | cons p packets => exact .some (.header hone htwo hstream)

/-- The buffer of a call is the one that the packet is in. -/
theorem Reached.caller {trp : MqttTransport σ} {buf : Memory}
    (h : Reached src p later buflen waits trp buf) (caller : Memory) :
    Reached src p later buflen waits trp
      (if trp.state = 1 ∨ trp.state = 2 then buf else caller) := by
  split
  next => exact h
  next hbetween =>
    cases h with
    | header hone htwo hstream => exact .header hone htwo hstream
    | length _ _ hstate => exact absurd (.inl hstate) hbetween
    | body _ _ hstate => exact absurd (.inr hstate) hbetween

/-- A call fails, or reports the packet that is next, or nothing. -/
theorem nbCall_atPackets {s : MqttTransport σ × Memory} {packets : List WirePacket}
    (h : AtPackets src buflen s packets) (htypes : ∀ p ∈ packets, headerType p.header ≠ 0)
    (caller : Memory) :
    (nbCall src.get buflen s caller).1.code = -1 ∨
      ((nbCall src.get buflen s caller).1.code = 0 ∧
        AtPackets src buflen (nbCall src.get buflen s caller).2 packets) ∨
      ∃ p rest, packets = p :: rest ∧ (nbCall src.get buflen s caller).1.Shows buflen p ∧
        AtPackets src buflen (nbCall src.get buflen s caller).2 rest := by
  cases h with
  | @none trp buf hone htwo hstream =>
    rw [nbCall, if_neg (by simp only [hone, htwo, or_self, not_false_eq_true])]
    simp only [mqttPacketReadnb_header caller hone htwo, readnbHeader]
    rcases hget : src.get trp.sck 1 with ⟨next, t⟩
    match next with
    | none => exact .inl rfl
    | some [] =>
      have hrest : src.stream t = [] := (src.stream_eq hget).symm.trans hstream
      exact .inr (.inl ⟨rfl, .none nofun nofun hrest⟩)
    | some (b :: bs) => cases (src.stream_eq hget).symm.trans hstream
  | @some trp buf waits p packets h =>
    have hends := mqttPacketReadnb_ends (h.caller caller)
    rw [nbCall]
    generalize mqttPacketReadnb src.get
      (if trp.state = 1 ∨ trp.state = 2 then buf else caller) buflen trp = read at hends
    obtain ⟨code, writes, trp'⟩ := read
    dsimp only at hends ⊢
    generalize applyWrites (if trp.state = 1 ∨ trp.state = 2 then buf else caller) writes = buf'
      at hends
    cases hends with
    | failed => exact .inl rfl
    | waiting h => exact .inr (.inl ⟨rfl, .some h⟩)
    | complete hstate hstream hat htries hfits hbody =>
      exact .inr (.inr ⟨p, packets, rfl, ⟨rfl, hat, hfits⟩, .between _ hstate hstream⟩)

/-- **The calls report the packets**, in order, none left out and none that was not sent, with their
contents in the buffer, as long as no call fails: whatever the pieces that the bytes come in, and
whatever the calls that come too early. -/
theorem nbReports_in_order (src : Source σ UInt8) (buflen : Nat) {trp : MqttTransport σ}
    (hstate : trp.state = 0) {packets : List WirePacket}
    (hstream : src.stream trp.sck = packets.flatMap WirePacket.bytes)
    (htypes : ∀ p ∈ packets, headerType p.header ≠ 0) (buf : Memory) (callers : List Memory) :
    ∃ done rest, packets = done ++ rest ∧
      List.Forall₂ (NbReport.Shows buflen) (nbReports src.get buflen (trp, buf) callers) done := by
  have h : AtPackets src buflen (trp, buf) packets := .between buf hstate hstream
  generalize (trp, buf) = s at h
  clear hstream
  induction callers generalizing s packets with
  | nil => exact ⟨[], packets, rfl, .nil⟩
  | cons caller callers ih =>
    have hcons : nbCalls src.get buflen s (caller :: callers) =
        (nbCall src.get buflen s caller).1 ::
          nbCalls src.get buflen (nbCall src.get buflen s caller).2 callers := rfl
    rw [nbReports, hcons]
    rcases nbCall_atPackets h htypes caller with hfail | ⟨hzero, hnext⟩ | ⟨p, rest, rfl, hp, hnext⟩
    · rw [List.takeWhile_cons_of_neg (by simp [hfail])]
      exact ⟨[], packets, rfl, .nil⟩
    · rw [List.takeWhile_cons_of_pos (by simp [hzero]), List.filter_cons_of_neg (by simp [hzero])]
      exact ih htypes _ hnext
    · rw [List.forall_mem_cons] at htypes
      have hcode := hp.type
      rw [List.takeWhile_cons_of_pos (by simp [hcode]),
        List.filter_cons_of_pos (by simp [hcode, htypes.1])]
      obtain ⟨done, rest, rfl, hdone⟩ := ih htypes.2 _ hnext
      exact ⟨p :: done, rest, rfl, .cons hp hdone⟩

end

/-- The `SUBACK` of the packet 1. -/
def subackOne : WirePacket where
  header := 0x90
  lengthField := [3]
  body := [0, 1, 1]
  isField := .last (by decide)
  atMostFour := by decide
  announces := rfl

/-- Two of them in pieces, the second one in the middle of a piece. -/
def subackPieces : List Bytes := [[0x90], [], [3, 0], [1, 1, 0x90], [3], [0], [1, 1]]

/-- Five calls report both of them. -/
theorem nbReports_subackPieces :
    (nbReports Source.chunks.get 128 (freshTransport subackPieces, fun _ => 0)
      (List.replicate 5 fun _ => 0)).length = 2 ∧
    ∃ done rest, [subackOne, subackOne] = done ++ rest ∧
      List.Forall₂ (NbReport.Shows 128) (nbReports Source.chunks.get 128
        (freshTransport subackPieces, fun _ => 0) (List.replicate 5 fun _ => 0)) done :=
  ⟨by decide +kernel, nbReports_in_order Source.chunks 128 rfl rfl (by decide) _ _⟩

section
variable {σ : Type} {src : Source σ UInt8} {p : WirePacket} {later : Bytes} {buflen waits : Nat}

/-! ## Waiting for a packet -/

/-- What a caller has that calls until there is a packet or an error. -/
structure Awaited (σ : Type) where
  code : Int
  /-- the calls that ended in the length field -/
  waits : Nat
  buf : Memory
  trp : MqttTransport σ

/-- Call until there is a packet or an error, at most `n` times. -/
def awaitPacket (getfn : σ → Nat → Option Bytes × σ) (buflen : Nat) :
    Nat → Memory → MqttTransport σ → Awaited σ
  | 0, buf, trp => ⟨0, 0, buf, trp⟩
  | n + 1, buf, trp =>
      let read := mqttPacketReadnb getfn buf buflen trp
      let buf := applyWrites buf read.writes
      if read.code ≠ 0 then ⟨read.code, 0, buf, read.trp⟩
      else
        let more := awaitPacket getfn buflen n buf read.trp
        { more with waits := if read.trp.state = 1 then more.waits + 1 else more.waits }

/-- One call more. -/
theorem awaitPacket_succ {getfn : σ → Nat → Option Bytes × σ} (n : Nat) {buf : Memory}
    {trp : MqttTransport σ} {read : NbRead σ}
    (hread : mqttPacketReadnb getfn buf buflen trp = read) (hcode : read.code = 0) :
    awaitPacket getfn buflen (n + 1) buf trp =
      { awaitPacket getfn buflen n (applyWrites buf read.writes) read.trp with
        waits := if read.trp.state = 1 then
            (awaitPacket getfn buflen n (applyWrites buf read.writes) read.trp).waits + 1
          else (awaitPacket getfn buflen n (applyWrites buf read.writes) read.trp).waits } := by
  rw [awaitPacket, hread]
  exact if_neg (Decidable.not_not.2 hcode)

/-- A call for a body of no bytes. -/
theorem mqttPacketReadnb_empty (hreliable : ¬ src.Fails) {trp : MqttTransport σ} (buf : Memory)
    (buflen : Nat) (htwo : trp.state = 2) (hrem : trp.remLen = 0) :
    ∃ t, src.stream t = src.stream trp.sck ∧
      mqttPacketReadnb src.get buf buflen trp = ⟨0, [], { trp with sck := t }⟩ := by
  rw [mqttPacketReadnb_body buf htwo, readnbBody, hrem]
  rcases hget : src.get trp.sck 0 with ⟨next, t⟩
  cases next with
  | none => exact absurd ⟨trp.sck, 0, by rw [hget]⟩ hreliable
  | some bytes =>
    obtain ⟨rfl, hrest⟩ := Source.get_zero hget
    exact ⟨t, hrest, rfl⟩

/-- A packet without a body is waited for in vain. -/
theorem awaitPacket_empty (hreliable : ¬ src.Fails) {trp : MqttTransport σ} (buf : Memory)
    (buflen : Nat) (htwo : trp.state = 2) (hrem : trp.remLen = 0) (n : Nat) :
    (awaitPacket src.get buflen n buf trp).code = 0 ∧
      (awaitPacket src.get buflen n buf trp).waits = 0 := by
  induction n generalizing trp buf with
  | zero => exact ⟨rfl, rfl⟩
  | succ n ih =>
    obtain ⟨t, -, hread⟩ := mqttPacketReadnb_empty hreliable buf buflen htwo hrem
    have hone : trp.state ≠ 1 := by rw [htwo]; decide
    rw [awaitPacket_succ n hread rfl]
    simp only [hone, if_false]
    exact ih (applyWrites buf []) htwo hrem

/-- What becomes of a packet, from wherever the calls have got with it. -/
theorem awaitPacket_reached {delays : σ → Nat} (hprompt : src.Prompt delays)
    (htype : headerType p.header ≠ 0) {trp : MqttTransport σ} {buf : Memory}
    (h : Reached src p later buflen waits trp buf) {n : Nat} (hn : delays trp.sck < n) :
    (awaitPacket src.get buflen n buf trp).code =
        (if 4 < p.lengthField.length + waits + (awaitPacket src.get buflen n buf trp).waits ∨
            buflen < p.contents.length then (-1 : Int)
          else if p.body = [] then 0 else headerType p.header) ∧
      (0 < (awaitPacket src.get buflen n buf trp).code →
        HasAt (awaitPacket src.get buflen n buf trp).buf 0 p.contents ∧
        src.stream (awaitPacket src.get buflen n buf trp).trp.sck = later) := by
  induction n generalizing waits trp buf with
  | zero => exact absurd hn (Nat.not_lt_zero _)
  | succ n ih =>
    have hends := mqttPacketReadnb_ends h
    generalize hread : mqttPacketReadnb src.get buf buflen trp = read at hends
    generalize hcode : read.code = code, htrp : read.trp = trp',
      hbuf : applyWrites buf read.writes = buf' at hends
    cases hends with
    | failed hstate hwhy =>
      have hlast : awaitPacket src.get buflen (n + 1) buf trp = ⟨-1, 0, buf', trp'⟩ := by
        rw [awaitPacket, hread, hcode, htrp, hbuf]
        rfl
      have hwhy' := hwhy.resolve_left hprompt.reliable
      rw [hlast]
      exact ⟨(if_pos hwhy').symm, nofun⟩
    | complete hstate hstream hat htries hfits hbody =>
      have hlast : awaitPacket src.get buflen (n + 1) buf trp =
          ⟨headerType p.header, 0, buf', trp'⟩ := by
        rw [awaitPacket, hread, hcode, htrp, hbuf]
        exact if_pos (by simpa using htype)
      rw [hlast]
      refine ⟨?_, fun _ => ⟨hat, hstream⟩⟩
      rw [if_neg (by simp only [not_or, Nat.not_lt]; exact ⟨htries, hfits⟩), if_neg hbody]
    | waiting hreached hsince =>
      rw [awaitPacket_succ n hread hcode, htrp, hbuf]
      rcases hsince with hwaited | ⟨htwo, hempty⟩
      · have hn' : delays trp'.sck < n := by
          have := hwaited delays hprompt
          omega
        obtain ⟨hresult, hpacket⟩ := ih hreached hn'
        have hsum (more : Nat) : (if trp'.state = 1 then waits + 1 else waits) + more =
            waits + if trp'.state = 1 then more + 1 else more := by
          split
          next => rw [Nat.add_assoc, Nat.add_comm 1]
          next => rfl
        refine ⟨?_, hpacket⟩
        rw [hresult, Nat.add_assoc, hsum, ← Nat.add_assoc]
      · have hone : trp'.state ≠ 1 := by rw [htwo]; decide
        rw [if_neg hone] at hreached
        cases hreached with
        | header _ hother => exact absurd htwo hother
        | length _ _ hstate => exact absurd hstate hone
        | body done todo _ hbody _ hrem _ _ htries hfits =>
          have htodo : todo = [] := (List.append_eq_nil_iff.1 (hbody.symm.trans hempty)).2
          rw [htodo, List.length_nil] at hrem
          obtain ⟨hzero, hnone⟩ :=
            awaitPacket_empty hprompt.reliable buf' buflen htwo hrem n
          simp only [hone, if_false, hzero, hnone, Nat.add_zero]
          refine ⟨?_, nofun⟩
          rw [if_neg (by simp only [not_or, Nat.not_lt]; exact ⟨htries, hfits⟩), if_pos hempty]

/-- **What becomes of a packet** when the source does not fail and the calls go on: it is an error
when its length field and the calls that end there take more than four tries, or when it does not
fit, and else it is reported, but for a packet without a body, which is never reported. -/
theorem awaitPacket_outcome {delays : σ → Nat} (hprompt : src.Prompt delays) (buflen : Nat)
    (p : WirePacket) (later : Bytes) {trp : MqttTransport σ} (hstate : trp.state = 0)
    (hstream : src.stream trp.sck = p.bytes ++ later) (htype : headerType p.header ≠ 0)
    (buf : Memory) {n : Nat} (hn : delays trp.sck < n) :
    (awaitPacket src.get buflen n buf trp).code =
        (if 4 < p.lengthField.length + (awaitPacket src.get buflen n buf trp).waits ∨
            buflen < p.contents.length then (-1 : Int)
          else if p.body = [] then 0 else headerType p.header) ∧
      (0 < (awaitPacket src.get buflen n buf trp).code →
        HasAt (awaitPacket src.get buflen n buf trp).buf 0 p.contents ∧
        src.stream (awaitPacket src.get buflen n buf trp).trp.sck = later) := by
  have hone : trp.state ≠ 1 := by rw [hstate]; decide
  have htwo : trp.state ≠ 2 := by rw [hstate]; decide
  exact awaitPacket_reached hprompt htype (.header hone htwo hstream) hn

end

/-- A `SUBACK` whose length field is waited for twice. -/
theorem awaitPacket_subackPieces :
    (awaitPacket Source.chunks.get 128 6 (fun _ => 0)
      (freshTransport [[0x90], [], [], [3, 0], [1, 1]])).waits = 2 ∧
    (awaitPacket Source.chunks.get 128 6 (fun _ => 0)
      (freshTransport [[0x90], [], [], [3, 0], [1, 1]])).code = 9 := by
  have hwaits : (awaitPacket Source.chunks.get 128 6 (fun _ => 0)
      (freshTransport [[0x90], [], [], [3, 0], [1, 1]])).waits = 2 := by decide +kernel
  have houtcome := awaitPacket_outcome Source.chunks_prompt 128 subackOne [] rfl
    (show Source.chunks.stream (freshTransport [[0x90], [], [], [3, 0], [1, 1]]).sck = _ from rfl)
    (by decide) (fun _ => 0) (show 5 < 6 by decide)
  rw [hwaits] at houtcome
  exact ⟨hwaits, houtcome.1⟩

section
variable {σ : Type} {buflen : Nat}

/-! ## The room that the calls need -/

/-- A number of so many digits, of which the transport has the next power. -/
structure MqttTransport.Digits (trp : MqttTransport σ) (k : Nat) : Prop where
  multiplier : trp.multiplier = 128 ^ k
  remLen : trp.remLen < 128 ^ k

/-- What the transport holds between two calls: in a length field no more digits than tries, in a
body no more bytes to come than there is room for. -/
structure MqttTransport.RoomFor (buflen : Nat) (trp : MqttTransport σ) : Prop where
  length : trp.state = 1 → trp.len = 0 ∨ ∃ k ≤ trp.len, trp.Digits k
  body : trp.state = 2 → trp.len + trp.remLen ≤ buflen

/-- The writes end inside the buffer, or inside its first five bytes. -/
def NbWritesFit (buflen : Nat) (writes : List BufWrite) : Prop :=
  ∀ w ∈ writes, w.index + w.bytes.length ≤ max 5 buflen

theorem decodenbLoop_digits (src : Source σ UInt8) {tries : Nat} {trp : MqttTransport σ} {k : Nat}
    (hk : k ≤ trp.len) (hdigits : trp.Digits k) (htries : tries = 4 - trp.len)
    (hcode : (decodenbLoop src.get tries trp).1 ≠ mqttpacketReadError) :
    (decodenbLoop src.get tries trp).2.len ≤ 4 ∧
      ∃ k ≤ (decodenbLoop src.get tries trp).2.len,
        (decodenbLoop src.get tries trp).2.Digits k := by
  induction tries generalizing trp k with
  | zero => exact absurd rfl hcode
  | succ tries ih =>
    rw [decodenbLoop] at hcode ⊢
    rcases hget : src.get trp.sck 1 with ⟨next, t⟩
    rw [hget] at hcode
    match next with
    | none => exact absurd rfl hcode
    | some [] =>
      refine ⟨?_, k, Nat.le_succ_of_le hk, hdigits.multiplier, hdigits.remLen⟩
      change trp.len + 1 ≤ 4
      omega
    | some (c :: cs) =>
      have hdigit : (c &&& 127).toNat < 128 := by
        rw [and_127_toNat]
        exact Nat.mod_lt _ (by decide)
      have hmore : trp.remLen + (c &&& 127).toNat * trp.multiplier < 128 ^ (k + 1) := by
        have hle : (c &&& 127).toNat * trp.multiplier ≤ 127 * 128 ^ k := by
          rw [hdigits.multiplier]
          exact Nat.mul_le_mul_right _ (by omega)
        have := hdigits.remLen
        rw [pow_succ]
        omega
      have hmult : trp.multiplier * 128 = 128 ^ (k + 1) := by rw [hdigits.multiplier, pow_succ]
      dsimp only at hcode ⊢
      split at hcode
      next hc =>
        rw [if_pos hc]
        exact ih (Nat.succ_le_succ hk) ⟨hmult, hmore⟩ (by simp only; omega) hcode
      next hc =>
        rw [if_neg hc]
        refine ⟨?_, k + 1, Nat.succ_le_succ hk, hmult, hmore⟩
        change trp.len + 1 ≤ 4
        omega

theorem mqttPacketDecodenb_digits (src : Source σ UInt8) {trp : MqttTransport σ}
    (h : trp.len = 0 ∨ ∃ k ≤ trp.len, trp.Digits k)
    (hcode : (mqttPacketDecodenb src.get trp).1 ≠ mqttpacketReadError) :
    (mqttPacketDecodenb src.get trp).2.len ≤ 4 ∧
      ∃ k ≤ (mqttPacketDecodenb src.get trp).2.len,
        (mqttPacketDecodenb src.get trp).2.Digits k := by
  rw [mqttPacketDecodenb] at hcode ⊢
  split at hcode
  next hzero =>
    rw [if_pos hzero]
    exact decodenbLoop_digits src (k := 0) (Nat.zero_le _) ⟨rfl, Nat.one_pos⟩ rfl hcode
  next hpos =>
    obtain ⟨k, hk, hdigits⟩ := h.resolve_left hpos
    rw [if_neg hpos]
    exact decodenbLoop_digits src hk hdigits rfl hcode

theorem readnbBody_inside (src : Source σ UInt8) (buf : Memory) {trp : MqttTransport σ}
    (h : trp.len + trp.remLen ≤ buflen) (hstate : trp.state = 2) :
    NbWritesFit buflen (readnbBody src.get buf trp).writes ∧
      (readnbBody src.get buf trp).trp.RoomFor buflen := by
  have hone : trp.state ≠ 1 := by rw [hstate]; decide
  rcases hget : src.get trp.sck trp.remLen with ⟨next, t⟩
  rcases next with _ | bytes
  · rw [readnbBody, hget]
    exact ⟨nofun, nofun, nofun⟩
  · have hle := src.length_le hget
    by_cases hnil : bytes = []
    · rw [readnbBody, hget, hnil]
      exact ⟨nofun, fun h => absurd h hone, fun _ => h⟩
    · have hwrite : NbWritesFit buflen [⟨trp.len, bytes⟩] := by
        intro w hw
        rw [List.mem_singleton.1 hw]
        exact Nat.le_trans (by simp only; omega) (Nat.le_max_right 5 buflen)
      rw [readnbBody_bytes buf hnil hget]
      split
      next =>
        refine ⟨hwrite, fun h => absurd h hone, fun _ => ?_⟩
        simp only
        omega
      next => exact ⟨hwrite, nofun, nofun⟩

theorem readnbLength_inside (src : Source σ UInt8) (buf : Memory) (buflen : Nat)
    {trp : MqttTransport σ} (h : trp.len = 0 ∨ ∃ k ≤ trp.len, trp.Digits k)
    (hstate : trp.state = 1) :
    NbWritesFit buflen (readnbLength src.get buf buflen trp).writes ∧
      (readnbLength src.get buf buflen trp).trp.RoomFor buflen := by
  have hdigits := mqttPacketDecodenb_digits src h
  have hstate' := (mqttPacketDecodenb_state src.get trp).trans hstate
  rw [readnbLength]
  generalize mqttPacketDecodenb src.get trp = frc at hdigits hstate'
  dsimp only
  split
  next => exact ⟨nofun, nofun, nofun⟩
  next hcode =>
    obtain ⟨hlen, k, hk, hdigits⟩ := hdigits hcode
    split
    next =>
      refine ⟨nofun, fun _ => .inr ⟨k, hk, hdigits⟩, fun htwo => ?_⟩
      exact absurd (hstate'.symm.trans htwo) (by decide)
    next =>
      -- four digits are written back in four bytes
      have hfour : (mqttPacketEncode frc.2.remLen).length ≤ 4 :=
        length_mqttPacketEncode_le (Nat.lt_of_lt_of_le hdigits.remLen
          (Nat.pow_le_pow_right (by decide) (Nat.le_trans hk hlen)))
      have hwrite : (1 + (mqttPacketEncode frc.2.remLen).length) ≤ max 5 buflen :=
        Nat.le_trans (by omega) (Nat.le_max_left 5 buflen)
      split
      next => exact ⟨List.forall_mem_singleton.2 hwrite, nofun, nofun⟩
      next hfits =>
        let trp : MqttTransport σ := ⟨frc.2.sck, frc.2.multiplier, frc.2.remLen,
          1 + (mqttPacketEncode frc.2.remLen).length, frc.2.state + 1⟩
        have hfits' : trp.len + trp.remLen ≤ buflen := by simp only [trp]; omega
        obtain ⟨hbody, hroom⟩ := readnbBody_inside src
          (BufWrite.apply ⟨1, mqttPacketEncode frc.2.remLen⟩ buf) hfits'
          (congrArg (· + 1) hstate')
        exact ⟨List.forall_mem_cons.2 ⟨hwrite, hbody⟩, hroom⟩

/-- The writes of a call. -/
theorem mqttPacketReadnb_inside (src : Source σ UInt8) {trp : MqttTransport σ}
    (h : trp.RoomFor buflen) (buf : Memory) :
    NbWritesFit buflen (mqttPacketReadnb src.get buf buflen trp).writes ∧
      (mqttPacketReadnb src.get buf buflen trp).trp.RoomFor buflen := by
  by_cases hone : trp.state = 1
  · rw [mqttPacketReadnb_length buf hone]
    exact readnbLength_inside src buf buflen (h.length hone) hone
  by_cases htwo : trp.state = 2
  · rw [mqttPacketReadnb_body buf htwo]
    exact readnbBody_inside src buf (h.body htwo) htwo
  rw [mqttPacketReadnb_header buf hone htwo, readnbHeader]
  rcases hget : src.get trp.sck 1 with ⟨next, t⟩
  match next with
  | none => exact ⟨nofun, nofun, nofun⟩
  | some [] => exact ⟨nofun, nofun, nofun⟩
  | some (b :: bs) =>
    let trp' : MqttTransport σ := ⟨t, trp.multiplier, trp.remLen, 0, 1⟩
    obtain ⟨hlength, hroom⟩ := readnbLength_inside src (BufWrite.apply ⟨0, b :: bs⟩ buf) buflen
      (show trp'.len = 0 ∨ _ from .inl rfl) rfl
    refine ⟨List.forall_mem_cons.2 ⟨?_, hlength⟩, hroom⟩
    have hle := src.length_le hget
    exact Nat.le_trans (by simp only; omega) (Nat.le_max_left 5 buflen)

/-- The writes of any number of calls. -/
theorem nbCalls_inside (src : Source σ UInt8) {s : MqttTransport σ × Memory}
    (h : s.1.RoomFor buflen) (callers : List Memory) :
    ∀ report ∈ nbCalls src.get buflen s callers, NbWritesFit buflen report.writes := by
  induction callers generalizing s with
  | nil => exact nofun
  | cons caller callers ih =>
    obtain ⟨hwrites, hroom⟩ := mqttPacketReadnb_inside src h
      (if s.1.state = 1 ∨ s.1.state = 2 then s.2 else caller)
    exact List.forall_mem_cons.2 ⟨hwrites, ih hroom⟩

end

/-- A header byte and a length field of four bytes. -/
def fourDigits : List Bytes := [[0x30, 0xff, 0xff, 0xff, 0x7f]]

/-- **The room that the calls need**: they keep inside a buffer, whatever comes, exactly if it has
five bytes. The length is put back into it before it is looked at. -/
theorem nbWrites_inside_iff (buflen : Nat) :
    (∀ (incoming : List Bytes) (buf : Memory) (callers : List Memory),
      ∀ report ∈ nbCalls Source.chunks.get buflen (freshTransport incoming, buf) callers,
        ∀ w ∈ report.writes, w.index + w.bytes.length ≤ buflen) ↔ 5 ≤ buflen := by
  refine ⟨fun h => ?_, fun h incoming buf callers report hreport w hw => ?_⟩
  · by_contra hshort
    have hlast := h fourDigits (fun _ => 0) [fun _ => 0] _ (.head _) ⟨1, [0xff, 0xff, 0xff, 0x7f]⟩
    have hwritten : ∀ buflen < 5, ⟨1, [0xff, 0xff, 0xff, 0x7f]⟩ ∈
        (mqttPacketReadnb Source.chunks.get (fun _ => 0) buflen
          (freshTransport fourDigits)).writes := by
      decide +kernel
    have := hlast (hwritten buflen (by omega))
    simp only [List.length_cons, List.length_nil] at this
    omega
  · have hroom : (freshTransport incoming).RoomFor buflen := ⟨nofun, nofun⟩
    have hinside := nbCalls_inside Source.chunks hroom callers report hreport w hw
    rwa [Nat.max_eq_right h] at hinside

end Esp32Iot
