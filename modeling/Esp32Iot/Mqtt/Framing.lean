import Mathlib.Data.List.Forall2
import Mathlib.Data.List.ReduceOption
import Esp32Iot.Lib.Runs
import Esp32Iot.Mqtt.Length

/-!
# Packets on the line

Any number of calls of `readPacket` on what the broker sends, whatever segments `recv` gets it in.
`readPacket` reads a packet in three parts and gives up when one of them times out, but what it
already has is gone: the header byte, a part of the length field, or, inside `esp32_read`, a part
of the body. A timeout in the length field is not even noticed.

`reports_prefix` says that the calls report the packets in order, none left out and none that was
not sent, when each timeout comes between two packets. `interrupted_misframed` is a timeout after
the first byte of a packet.
-/

namespace Esp32Iot

/-! ## What the broker sends -/

/-- A packet on the wire. The length field need not be the shortest one. -/
structure SentPacket where
  header : UInt8
  lengthField : Bytes
  body : Bytes
  isField : IsField lengthField
  atMostFour : lengthField.length ≤ 4
  announces : fieldValue lengthField = body.length
  /-- the packet fits `readbuf` -/
  fits : 1 + lengthField.length + body.length ≤ cayenneMaxMessageSize

namespace SentPacket

/-- The bytes on the wire. -/
def wire (p : SentPacket) : Bytes := p.header :: (p.lengthField ++ p.body)

/-- The packet as it stands in `readbuf`, where its length is encoded again. -/
def contents (p : SentPacket) : Bytes := p.header :: (mqttPacketEncode p.body.length ++ p.body)

end SentPacket

/-- The bytes of some packets. -/
def wires (packets : List SentPacket) : Bytes := packets.flatMap SentPacket.wire

/-- The bytes that a call of `recv` finds. -/
def Recv.data : Recv → Bytes
  | .arrived data => data
  | .failed _ => []

/-- The bytes that are received. -/
def received (incoming : List Recv) : Bytes := incoming.flatMap Recv.data

/-- A call of `recv` gets bytes or times out. -/
def Recv.Ordinary : Recv → Prop
  | .arrived data => data ≠ []
  | .failed errno => errno = .eagain

instance Recv.decidableOrdinary (r : Recv) : Decidable r.Ordinary :=
  match r with
  | .arrived data => inferInstanceAs (Decidable (data ≠ []))
  | .failed errno => inferInstanceAs (Decidable (errno = .eagain))

/-- The bytes come in segments, with timeouts anywhere between them. -/
def Segmented (incoming : List Recv) (stream : Bytes) : Prop :=
  (∀ r ∈ incoming, r.Ordinary) ∧ received incoming = stream

/-- At each timeout, the bytes before it are a number of whole packets. -/
def TimeoutsBetween (incoming : List Recv) (packets : List SentPacket) : Prop :=
  ∀ before after, incoming = before ++ .failed .eagain :: after →
    ∃ k, received before = wires (packets.take k)

/-! ## What the calls report -/

/-- A call of `readPacket` on a buffer, and what it reports: the type and the buffer after it. -/
def readPacketCall (l : ReadLine) (readbuf : Memory) : Option (Int × Memory) × ReadLine :=
  let packet := readPacket readbuf l
  (if packet.code = mqttFailure then none
    else some (packet.code, applyWrites readbuf packet.writes), packet.line)

/-- The reports of successive calls. The handlers may change the buffer between two of them. -/
def reports (l : ReadLine) (readbufs : List Memory) : List (Int × Memory) :=
  (Runs.outputs readPacketCall l readbufs).1.reduceOption

/-- The report is the packet. -/
def Reports (report : Int × Memory) (p : SentPacket) : Prop :=
  report.1 = headerType p.header ∧ HasAt report.2 0 p.contents

/-! ## Lines at the boundary of packets -/

/-- The line is at the beginning of a packet, and pauses or ends only there. -/
inductive Aligned : Feed UInt8 → List SentPacket → Prop
  | quiet : Aligned .quiet []
  | ended (tail : Bytes) (packets : List SentPacket) : Aligned (.ended tail) packets
  | pause {f : Feed UInt8} {packets : List SentPacket} (h : Aligned f packets) :
      Aligned (.pause f) packets
  | packet (p : SentPacket) {f : Feed UInt8} {packets : List SentPacket} (h : Aligned f packets) :
      Aligned (.append p.wire f) (p :: packets)

theorem Aligned.wires {f : Feed UInt8} {packets : List SentPacket} (h : Aligned f packets)
    (ps : List SentPacket) : Aligned (.append (wires ps) f) (ps ++ packets) := by
  induction ps with
  | nil => exact h
  | cons p ps ih =>
    have hcons : Esp32Iot.wires (p :: ps) = p.wire ++ Esp32Iot.wires ps := rfl
    rw [hcons, Feed.append_append]
    exact .packet p ih

/-- Segments are their bytes. -/
theorem feed_segments {errno : Errno} (herrno : errno.broken = false) {segments : List Bytes}
    (h : ∀ s ∈ segments, s ≠ []) (rest : List Recv) :
    Recv.feed errno (segments.map .arrived ++ rest) =
      .append segments.flatten (Recv.feed errno rest) := by
  induction segments with
  | nil => rfl
  | cons s segments ih =>
    rw [List.forall_mem_cons] at h
    have hgood : ¬ (s = [] ∨ errno.broken = true) := by simp [h.1, herrno]
    rw [List.map_cons, List.cons_append, Recv.feed, if_neg hgood, ih h.2, List.flatten_cons,
      Feed.append_append]

/-- Whole packets in segments, before a line at a boundary. A connection that `errno` says is broken
ends with the first of them. -/
theorem Aligned.segments {errno : Errno} {rest : List Recv} {packets : List SentPacket}
    (h : Aligned (Recv.feed errno rest) packets) {segments : List Bytes}
    (hne : ∀ s ∈ segments, s ≠ []) {ps : List SentPacket}
    (hps : segments.flatten = Esp32Iot.wires ps) :
    Aligned (Recv.feed errno (segments.map .arrived ++ rest)) (ps ++ packets) := by
  cases segments with
  | nil =>
    cases ps with
    | nil => exact h
    | cons p ps => cases hps
  | cons s segments =>
    cases herrno : errno.broken with
    | true =>
      rw [List.map_cons, List.cons_append, Recv.feed, if_pos (.inr herrno)]
      exact .ended s (ps ++ packets)
    | false =>
      rw [feed_segments herrno hne, hps]
      exact h.wires ps

theorem received_append (a b : List Recv) : received (a ++ b) = received a ++ received b :=
  List.flatMap_append

theorem received_segments (segments : List Bytes) :
    received (segments.map .arrived) = segments.flatten := by
  induction segments with
  | nil => rfl
  | cons s segments ih => rw [List.map_cons, List.flatten_cons, ← ih]; rfl

theorem received_timeout (after : List Recv) :
    received (.failed .eagain :: after) = received after := rfl

theorem wires_append (ps qs : List SentPacket) : wires (ps ++ qs) = wires ps ++ wires qs :=
  List.flatMap_append

/-- The segments before the first timeout. -/
theorem splits_at_timeout {incoming : List Recv} (h : ∀ r ∈ incoming, r.Ordinary) :
    ∃ segments : List Bytes, (∀ s ∈ segments, s ≠ []) ∧
      (incoming = segments.map .arrived ∨
        ∃ after, incoming = segments.map .arrived ++ .failed .eagain :: after) := by
  induction incoming with
  | nil => exact ⟨[], nofun, .inl rfl⟩
  | cons r incoming ih =>
    rw [List.forall_mem_cons] at h
    cases r with
    | failed errno =>
      have herrno : errno = .eagain := h.1
      exact ⟨[], nofun, .inr ⟨incoming, by rw [herrno]; rfl⟩⟩
    | arrived data =>
      obtain ⟨segments, hne, hsplit⟩ := ih h.2
      refine ⟨data :: segments, List.forall_mem_cons.2 ⟨h.1, hne⟩, ?_⟩
      rcases hsplit with rfl | ⟨after, rfl⟩
      · exact .inl rfl
      · exact .inr ⟨after, rfl⟩

/-- After a timeout the packets go on. -/
theorem TimeoutsBetween.after {segments : List Bytes} {after : List Recv}
    {packets : List SentPacket}
    (h : TimeoutsBetween (segments.map .arrived ++ .failed .eagain :: after) packets) {k : Nat}
    (hk : segments.flatten = wires (packets.take k)) :
    TimeoutsBetween after (packets.drop k) := by
  rintro before after' rfl
  obtain ⟨k', hk'⟩ := h (segments.map .arrived ++ .failed .eagain :: before) after' (by simp)
  rw [received_append, received_segments, received_timeout, hk] at hk'
  cases Nat.le_total k k' with
  | inl hle =>
    obtain ⟨j, rfl⟩ := Nat.exists_eq_add_of_le hle
    rw [List.take_add, wires_append] at hk'
    exact ⟨j, List.append_cancel_left hk'⟩
  | inr hle =>
    -- nothing came since the timeout before
    obtain ⟨j, rfl⟩ := Nat.exists_eq_add_of_le hle
    rw [List.take_add, wires_append, List.append_assoc] at hk'
    have hnil := List.append_right_eq_self.1 hk'
    exact ⟨0, (List.append_eq_nil_iff.1 hnil).2⟩

/-- A line whose timeouts come between packets is at a boundary. -/
theorem aligned_of_timeoutsBetween {incoming : List Recv} {packets : List SentPacket}
    (hseg : Segmented incoming (wires packets)) (htime : TimeoutsBetween incoming packets)
    (errno : Errno) : Aligned (Recv.feed errno incoming) packets := by
  -- by the number of outcomes, cut at the first timeout
  induction hn : incoming.length using Nat.strong_induction_on
    generalizing incoming packets errno with
  | _ n ih =>
    obtain ⟨hordinary, hreceived⟩ := hseg
    obtain ⟨segments, hne, rfl | ⟨after, rfl⟩⟩ := splits_at_timeout hordinary
    · rw [received_segments] at hreceived
      have hquiet : Aligned (Recv.feed errno []) [] := .quiet
      have haligned := hquiet.segments hne hreceived
      rwa [List.append_nil, List.append_nil] at haligned
    · obtain ⟨k, hk⟩ := htime _ after rfl
      rw [received_segments] at hk
      rw [received_append, received_segments, received_timeout, hk] at hreceived
      have hrest : Segmented after (wires (packets.drop k)) := by
        refine ⟨fun r hr => hordinary r (List.mem_append_right _ (.tail _ hr)), ?_⟩
        rw [← List.take_append_drop k packets, wires_append, List.take_append_drop] at hreceived
        exact List.append_cancel_left hreceived
      have hlater := ih after.length (by simp at hn; omega) hrest (htime.after hk) .eagain rfl
      have hpause : Aligned (Recv.feed errno (.failed .eagain :: after)) (packets.drop k) :=
        .pause hlater
      have haligned := hpause.segments hne hk
      rwa [List.take_append_drop] at haligned

/-! ## The calls -/

/-- The packet at the beginning of the line is announced. -/
theorem announced_wire (p : SentPacket) (f : Feed UInt8) :
    announced (.append p.wire f) = some ⟨p.header, p.body.length, .append p.body f⟩ := by
  have hfield : lengthField (.append (p.lengthField ++ p.body) f) =
      (p.lengthField, .append p.body f) := by
    rw [lengthField, Feed.append_append]
    exact readField_field p.isField p.atMostFour (delivers_next.2 rfl)
  rw [SentPacket.wire, Feed.append_cons, announced, hfield, p.announces]

/-- A call that gets no header byte reports nothing. -/
theorem readPacketCall_of_none {l : ReadLine} (h : announced l.feed = none) (readbuf : Memory) :
    (readPacketCall l readbuf).1 = none ∧ (readPacketCall l readbuf).2.feed = l.feed.next.2 := by
  obtain ⟨hcode, -, hline⟩ := readPacket_of_none readbuf h
  exact ⟨if_pos hcode, hline⟩

/-- A call at the beginning of a packet reports it, and leaves the line behind it. -/
theorem readPacketCall_wire {l : ReadLine} {p : SentPacket} {f : Feed UInt8}
    (h : l.feed = .append p.wire f) (readbuf : Memory) :
    ∃ report, (readPacketCall l readbuf).1 = some report ∧ Reports report p ∧
      (readPacketCall l readbuf).2.feed = f := by
  have hp : announced l.feed = some ⟨p.header, p.body.length, .append p.body f⟩ := by
    rw [h, announced_wire]
  generalize hq : (⟨p.header, p.body.length, .append p.body f⟩ : Announced) = q at hp
  have hfront : q.body.front = p.body ++ f.front := by rw [← hq, Feed.front_append]
  have hlength : q.length = p.body.length := by rw [← hq]
  have hcomplete : q.Complete := by
    rw [Announced.Complete, hfront, hlength, List.length_append]
    exact Nat.le_add_right _ _
  obtain ⟨hcode, hwrites, hline⟩ := readPacket_announced readbuf hp
  rw [if_pos hcomplete] at hcode
  have hfound : (readPacket readbuf l).code ≠ mqttFailure := by
    rw [hcode]
    intro hneg
    cases hneg
  refine ⟨_, if_neg hfound, ⟨?_, ?_⟩, ?_⟩
  · rw [hcode, ← hq]
  · have hat := q.hasAt_writes readbuf
    rw [Feed.take_arriving hcomplete, hfront, hlength, List.take_left] at hat
    rw [hwrites]
    rwa [← hq] at hat ⊢
  · rw [← hq, Feed.read_append] at hline
    exact hline

/-- A call at a boundary of packets reports the next packet or nothing, and leaves the line at a
boundary. -/
theorem readPacketCall_aligned {l : ReadLine} {packets : List SentPacket}
    (h : Aligned l.feed packets) (readbuf : Memory) :
    ∃ done rest, packets = done ++ rest ∧
      List.Forall₂ Reports (readPacketCall l readbuf).1.toList done ∧
      Aligned (readPacketCall l readbuf).2.feed rest := by
  generalize hf : l.feed = f at h
  have hnothing : announced f = none → Aligned f.next.2 packets →
      ∃ done rest, packets = done ++ rest ∧
        List.Forall₂ Reports (readPacketCall l readbuf).1.toList done ∧
        Aligned (readPacketCall l readbuf).2.feed rest := by
    intro hnone hnext
    obtain ⟨hreport, hline⟩ := readPacketCall_of_none (hf ▸ hnone) readbuf
    rw [hreport, hline, hf]
    exact ⟨[], packets, rfl, .nil, hnext⟩
  cases h with
  | quiet => exact hnothing rfl .quiet
  | ended tail packets => exact hnothing rfl (.ended [] packets)
  | pause h => exact hnothing rfl h
  | @packet p f packets h =>
    obtain ⟨report, hreport, hshows, hline⟩ := readPacketCall_wire hf readbuf
    rw [hreport, hline]
    exact ⟨[p], packets, rfl, .cons hshows .nil, h⟩

/-- The first call and the others. -/
theorem reports_cons (l : ReadLine) (readbuf : Memory) (readbufs : List Memory) :
    reports l (readbuf :: readbufs) =
      (readPacketCall l readbuf).1.toList ++ reports (readPacketCall l readbuf).2 readbufs := by
  rw [reports, Runs.outputs]
  cases (readPacketCall l readbuf).1 with
  | none => exact List.reduceOption_cons_of_none _
  | some report => exact List.reduceOption_cons_of_some _ _

/-- Any number of calls from a boundary of packets. -/
theorem reports_aligned {l : ReadLine} {packets : List SentPacket} (h : Aligned l.feed packets)
    (readbufs : List Memory) :
    ∃ done rest, packets = done ++ rest ∧ List.Forall₂ Reports (reports l readbufs) done ∧
      Aligned (Runs.outputs readPacketCall l readbufs).2.feed rest := by
  induction readbufs generalizing l packets with
  | nil => exact ⟨[], packets, rfl, .nil, h⟩
  | cons readbuf readbufs ih =>
    obtain ⟨done, rest, rfl, hdone, hrest⟩ := readPacketCall_aligned h readbuf
    obtain ⟨done', rest', rfl, hdone', hrest'⟩ := ih hrest
    refine ⟨done ++ done', rest', (List.append_assoc ..).symm, ?_, hrest'⟩
    rw [reports_cons]
    exact List.rel_append hdone hdone'

/-- **The calls report the packets**, in order, none left out and none that was not sent, and each
begins at a packet, when the timeouts come between packets: whatever the segments, the buffers, and
the state of the connection. -/
theorem reports_prefix {l : ReadLine} {packets : List SentPacket}
    (hseg : Segmented l.incoming (wires packets)) (htime : TimeoutsBetween l.incoming packets)
    (readbufs : List Memory) :
    ∃ done rest, packets = done ++ rest ∧ List.Forall₂ Reports (reports l readbufs) done ∧
      Aligned (Runs.outputs readPacketCall l readbufs).2.feed rest := by
  refine reports_aligned ?_ readbufs
  rw [ReadLine.feed]
  split
  · exact aligned_of_timeoutsBetween hseg htime l.errno
  · exact .ended [] packets

/-- `PINGRESP`. -/
def pingresp : SentPacket where
  header := 0xd0
  lengthField := [0]
  body := []
  isField := .last (by decide)
  atMostFour := by decide
  announces := rfl
  fits := by decide

/-- The `PUBACK` of the packet 1. -/
def puback : SentPacket where
  header := 0x40
  lengthField := [2]
  body := [0, 1]
  isField := .last (by decide)
  atMostFour := by decide
  announces := rfl
  fits := by decide

/-- Two packets in four segments, with a timeout between them. -/
def pausedLine : ReadLine where
  connected := true
  errno := .eagain
  incoming :=
    [.arrived [0xd0], .arrived [0], .failed .eagain, .arrived [0x40, 2], .arrived [0, 1]]

/-- Three calls report the two packets. -/
theorem reports_pausedLine :
    (reports pausedLine [fun _ => 0, fun _ => 0, fun _ => 0]).length = 2 ∧
    ∃ done rest, [pingresp, puback] = done ++ rest ∧
      List.Forall₂ Reports (reports pausedLine [fun _ => 0, fun _ => 0, fun _ => 0]) done ∧
      Aligned (Runs.outputs readPacketCall pausedLine
        [fun _ => 0, fun _ => 0, fun _ => 0]).2.feed rest := by
  have hseg : Segmented pausedLine.incoming (wires [pingresp, puback]) := ⟨by decide, rfl⟩
  have htime : TimeoutsBetween pausedLine.incoming [pingresp, puback] := by
    intro before after h
    rcases before with _ | ⟨a, _ | ⟨b, _ | ⟨c, _ | ⟨d, _ | ⟨e, before⟩⟩⟩⟩⟩ <;>
      simp [pausedLine] at h
    obtain ⟨rfl, rfl, -⟩ := h
    exact ⟨1, rfl⟩
  refine ⟨by decide +kernel, reports_prefix hseg htime _⟩

/-- A packet with a timeout after its first byte. -/
def interruptedLine : ReadLine where
  connected := true
  errno := .clear
  incoming := [.arrived [0x40], .failed .eagain, .arrived [2, 0, 1]]

/-- The first call reports a packet without a body, and the second one begins in the middle. -/
theorem interrupted_misframed :
    Segmented interruptedLine.incoming (wires [puback]) ∧
    (reports interruptedLine [fun _ => 0, fun _ => 0]).map
      (fun report => (report.1, report.2 0, report.2 1)) = [(4, 0x40, 0), (0, 2, 0)] ∧
    ¬ ∃ done rest, [puback] = done ++ rest ∧
      List.Forall₂ Reports (reports interruptedLine [fun _ => 0, fun _ => 0]) done := by
  have hreports : (reports interruptedLine [fun _ => 0, fun _ => 0]).map
      (fun report => (report.1, report.2 0, report.2 1)) = [(4, 0x40, 0), (0, 2, 0)] := by
    decide +kernel
  refine ⟨⟨by decide, rfl⟩, hreports, ?_⟩
  rintro ⟨done, rest, hpackets, hdone⟩
  have hlen := hdone.length_eq
  have htwo := congrArg List.length hreports
  have hone := congrArg List.length hpackets
  simp only [List.length_map, List.length_cons, List.length_nil, List.length_append] at htwo hone
  omega

end Esp32Iot
