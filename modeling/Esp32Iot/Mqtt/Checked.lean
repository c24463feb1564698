import Esp32Iot.Mqtt.Framing

/-!
# The packet reader that looks at the buffer

`MQTTPacket_read` of `MQTTPacket.c` over `mqttread`, which the client could call in the place of its
own `readPacket`. It compares the announced packet with the size of the buffer, and it asks for the
body also when there is none.

`mqttPacketRead_checked` says that calls of it keep inside a buffer of five bytes or more, whatever
comes, that on a line whose packets fit they report what the calls of `readPacket` report, and that
the body of a packet that does not fit is left on the line, where the next call takes it for a
packet.
-/

namespace Esp32Iot

/-- `MQTTPacket_read` with `mqttread` as its `getfn`. The return value of `MQTTPacket_decode` is not
looked at. -/
def mqttPacketRead (buf : Memory) (buflen : Nat) (l : ReadLine) : PacketRead :=
  let header := esp32Read 1 l
  if header.code ≠ 1 then ⟨-1, [⟨0, header.written⟩], header.line⟩
  else
    let remLen := mqttPacketDecode mqttreadChar header.line
    let lengthField := mqttPacketEncode remLen.value
    let len := 1 + lengthField.length
    let writes := [⟨0, header.written⟩, ⟨1, lengthField⟩]
    if buflen < remLen.value + len then ⟨-1, writes, remLen.rest⟩
    else
      let body := esp32Read remLen.value remLen.rest
      let writes := writes ++ [⟨len, body.written⟩]
      if body.code ≠ remLen.value then ⟨-1, writes, body.line⟩
      else ⟨headerType (applyWrites buf writes 0), writes, body.line⟩

/-- The packet that a line begins with, if there is one, fits the buffer. -/
def ReadLine.Fits (buflen : Nat) (l : ReadLine) : Prop :=
  ∀ p ∈ announced l.feed, p.length + p.bodyIndex ≤ buflen

instance (buflen : Nat) (l : ReadLine) : Decidable (l.Fits buflen) :=
  inferInstanceAs (Decidable (∀ p ∈ announced l.feed, p.length + p.bodyIndex ≤ buflen))

/-- A read of nothing. -/
theorem esp32Read_zero (l : ReadLine) : esp32Read 0 l = ⟨0, [], l⟩ := by
  obtain ⟨connected, errno, incoming⟩ := l
  cases connected with
  | false => rfl
  | true =>
    cases incoming with
    | nil => rfl
    | cons r rest => cases r <;> rfl

/-- A write of nothing. -/
theorem BufWrite.apply_nil (pos : Nat) (buf : Memory) : BufWrite.apply ⟨pos, []⟩ buf = buf := by
  funext i
  rw [BufWrite.apply]
  split
  next => exact List.getD_nil
  next => rfl

/-- The packet that a line announces, as the two readers get it. -/
theorem announced_of_header {l : ReadLine} (hcode : (esp32Read 1 l).code = 1) :
    ∃ p, announced l.feed = some p ∧ (decodePacket (esp32Read 1 l).line).value = p.length ∧
      (decodePacket (esp32Read 1 l).line).rest.feed = p.body ∧
      (esp32Read 1 l).written = [p.header] := by
  have hfront := (esp32Read_code_eq_iff 1 l).1 hcode
  cases hfeed : l.feed with
  | quiet | pause f | ended tail =>
    rw [hfeed] at hfront
    exact absurd hfront (Nat.not_succ_le_zero 0)
  | item header f =>
    obtain ⟨-, hwritten, hline⟩ := esp32Read_header hfeed
    obtain ⟨hvalue, hrest⟩ := decodePacket_feed (esp32Read 1 l).line
    rw [hline] at hvalue hrest
    exact ⟨_, rfl, hvalue, hrest, hwritten⟩

/-- Two readings that are the same for a caller. -/
structure SameRead (buf : Memory) (r r' : PacketRead) : Prop where
  code : r.code = r'.code
  buf : applyWrites buf r.writes = applyWrites buf r'.writes
  line : r.line = r'.line

/-- **The two readers agree** on a packet that fits the buffer. -/
theorem mqttPacketRead_eq_readPacket {buflen : Nat} {l : ReadLine} (h : l.Fits buflen)
    (buf : Memory) : SameRead buf (mqttPacketRead buf buflen l) (readPacket buf l) := by
  by_cases hcode : (esp32Read 1 l).code = 1
  · obtain ⟨p, hp, hvalue, -⟩ := announced_of_header hcode
    have hfits := h p hp
    rw [Announced.bodyIndex] at hfits
    have hdecode : mqttPacketDecode mqttreadChar (esp32Read 1 l).line =
        decodePacket (esp32Read 1 l).line := rfl
    rw [mqttPacketRead, readPacket]
    simp only [hcode, ne_eq, not_true_eq_false, if_false, hdecode, hvalue, Nat.not_lt.2 hfits]
    by_cases hpos : 0 < p.length
    · rw [if_pos hpos]
      exact ⟨rfl, rfl, rfl⟩
    · have hzero : p.length = 0 := Nat.eq_zero_of_not_pos hpos
      have hcast : ((0 : Nat) : Int) = 0 := rfl
      simp only [hzero, esp32Read_zero, hcast, not_true_eq_false, if_false, Nat.lt_irrefl]
      have hbuf (writes : List BufWrite) (pos : Nat) :
          applyWrites buf (writes ++ [⟨pos, []⟩]) = applyWrites buf writes := by
        rw [applyWrites, List.foldl_append]
        exact BufWrite.apply_nil pos _
      exact ⟨by simp only [hbuf], hbuf _ _, rfl⟩
  · rw [mqttPacketRead, readPacket, if_pos hcode, if_pos hcode]
    exact ⟨rfl, rfl, rfl⟩

/-- A packet that does not fit is refused, and its body stays on the line. -/
theorem mqttPacketRead_long {buflen : Nat} {l : ReadLine} {p : Announced}
    (hp : announced l.feed = some p) (hlong : buflen < p.length + p.bodyIndex) (buf : Memory) :
    (mqttPacketRead buf buflen l).code = -1 ∧
      (mqttPacketRead buf buflen l).writes = [⟨0, [p.header]⟩, ⟨1, mqttPacketEncode p.length⟩] ∧
      (mqttPacketRead buf buflen l).line.feed = p.body := by
  obtain ⟨header, f, hfeed, -⟩ := announced_eq_some hp
  have hcode := (esp32Read_header hfeed).1
  obtain ⟨q, hq, hvalue, hrest, hwritten⟩ := announced_of_header hcode
  cases hp.symm.trans hq
  have hdecode : mqttPacketDecode mqttreadChar (esp32Read 1 l).line =
      decodePacket (esp32Read 1 l).line := rfl
  rw [Announced.bodyIndex] at hlong
  rw [mqttPacketRead]
  simp only [hcode, ne_eq, not_true_eq_false, if_false, hdecode, hvalue, hlong, if_true]
  exact ⟨trivial, by rw [hwritten], hrest⟩

/-- The writes of a call. -/
theorem mqttPacketRead_inside (buflen : Nat) (l : ReadLine) (buf : Memory) :
    ∀ w ∈ (mqttPacketRead buf buflen l).writes, w.index + w.bytes.length ≤ max 5 buflen := by
  by_cases hcode : (esp32Read 1 l).code = 1
  · obtain ⟨p, hp, hvalue, hrest, hwritten⟩ := announced_of_header hcode
    have hfour : (mqttPacketEncode p.length).length ≤ 4 :=
      length_mqttPacketEncode_le (announced_length_lt hp)
    have hdecode : mqttPacketDecode mqttreadChar (esp32Read 1 l).line =
        decodePacket (esp32Read 1 l).line := rfl
    have hbody : (esp32Read p.length (decodePacket (esp32Read 1 l).line).rest).written.length ≤
        p.length := by
      rw [esp32Read_written]
      exact List.length_take_le _ _
    have hheader : (⟨0, [p.header]⟩ : BufWrite).index + [p.header].length ≤ max 5 buflen :=
      Nat.le_trans (Nat.le_add_left 1 4) (Nat.le_max_left 5 buflen)
    have hfield : 1 + (mqttPacketEncode p.length).length ≤ max 5 buflen :=
      Nat.le_trans (by omega) (Nat.le_max_left 5 buflen)
    rw [mqttPacketRead]
    simp only [hcode, ne_eq, not_true_eq_false, if_false, hdecode, hvalue, hwritten]
    split
    next => exact List.forall_mem_cons.2 ⟨hheader, List.forall_mem_singleton.2 hfield⟩
    next hfits =>
      have hthree : ∀ w ∈ [⟨0, [p.header]⟩, ⟨1, mqttPacketEncode p.length⟩] ++
          [(⟨1 + (mqttPacketEncode p.length).length,
            (esp32Read p.length (decodePacket (esp32Read 1 l).line).rest).written⟩ : BufWrite)],
          w.index + w.bytes.length ≤ max 5 buflen := by
        refine List.forall_mem_cons.2 ⟨hheader, List.forall_mem_cons.2 ⟨hfield, ?_⟩⟩
        exact List.forall_mem_singleton.2
          (Nat.le_trans (by simp only; omega) (Nat.le_max_right 5 buflen))
      split
      next => exact hthree
      next => exact hthree
  · rw [mqttPacketRead, if_pos hcode]
    refine List.forall_mem_singleton.2 (Nat.le_trans ?_ (Nat.le_max_left 5 buflen))
    rw [esp32Read_written]
    exact Nat.le_trans (Nat.add_le_add_left (List.length_take_le _ _) 0) (by decide)

/-- A call of `MQTTPacket_read` on a buffer, and what it reports. -/
def checkedCall (buflen : Nat) (l : ReadLine) (readbuf : Memory) :
    Option (Int × Memory) × ReadLine :=
  let packet := mqttPacketRead readbuf buflen l
  (if packet.code = -1 then none else some (packet.code, applyWrites readbuf packet.writes),
    packet.line)

/-- The reports of successive calls. -/
def checkedReports (buflen : Nat) (l : ReadLine) (readbufs : List Memory) : List (Int × Memory) :=
  (Runs.outputs (checkedCall buflen) l readbufs).1.reduceOption

/-- One call of each. -/
theorem checkedCall_eq {buflen : Nat} {l : ReadLine} (h : l.Fits buflen) (readbuf : Memory) :
    checkedCall buflen l readbuf = readPacketCall l readbuf := by
  obtain ⟨hcode, hbuf, hline⟩ := mqttPacketRead_eq_readPacket h readbuf
  have hfailure : mqttFailure = -1 := rfl
  rw [checkedCall, readPacketCall]
  simp only [hcode, hbuf, hline, hfailure]

/-- Any number of calls of each. -/
theorem checkedReports_eq {buflen : Nat} {l : ReadLine} {readbufs : List Memory}
    (h : Runs.AlongSpec readPacketCall (fun l _ => l.Fits buflen) l readbufs) :
    checkedReports buflen l readbufs = reports l readbufs := by
  have houtputs : Runs.outputs (checkedCall buflen) l readbufs =
      Runs.outputs readPacketCall l readbufs := by
    induction readbufs generalizing l with
    | nil => rfl
    | cons readbuf readbufs ih =>
      rw [Runs.outputs, Runs.outputs, checkedCall_eq h.1, ih h.2]
  rw [checkedReports, reports, houtputs]

/-- **The reader that looks at the buffer**: it keeps inside of it, it agrees with `readPacket` as
long as the packets fit, and it leaves the body of one that does not fit on the line. -/
theorem mqttPacketRead_checked {buflen : Nat} (hbuflen : 5 ≤ buflen) :
    (∀ l buf, ∀ w ∈ (mqttPacketRead buf buflen l).writes, w.index + w.bytes.length ≤ buflen) ∧
    (∀ l readbufs, Runs.AlongSpec readPacketCall (fun l _ => l.Fits buflen) l readbufs →
      checkedReports buflen l readbufs = reports l readbufs) ∧
    ∀ l p buf, announced l.feed = some p → buflen < p.length + p.bodyIndex →
      (mqttPacketRead buf buflen l).code = -1 ∧
        (mqttPacketRead buf buflen l).line.feed = p.body := by
  refine ⟨fun l buf w hw => ?_, fun l readbufs h => checkedReports_eq h,
    fun l p buf hp hlong => ?_⟩
  · have hinside := mqttPacketRead_inside buflen l buf w hw
    rwa [Nat.max_eq_right hbuflen] at hinside
  · obtain ⟨hcode, -, hline⟩ := mqttPacketRead_long hp hlong buf
    exact ⟨hcode, hline⟩

/-- On a line with a pause the two readers report the same two packets. -/
theorem checkedReports_pausedLine :
    checkedReports 134 pausedLine [fun _ => 0, fun _ => 0, fun _ => 0] =
        reports pausedLine [fun _ => 0, fun _ => 0, fun _ => 0] ∧
      (reports pausedLine [fun _ => 0, fun _ => 0, fun _ => 0]).length = 2 := by
  obtain ⟨-, hsame, -⟩ := mqttPacketRead_checked (show 5 ≤ 134 by decide)
  refine ⟨hsame _ _ ?_, by decide +kernel⟩
  refine ⟨?_, ?_, ?_, trivial⟩
  · decide +kernel
  · decide +kernel
  · decide +kernel

end Esp32Iot
