import Mathlib.Algebra.GroupWithZero.Nat
import Esp32Iot.Mqtt.Publish

/-!
# Short writes

The loop of `sendPacket` moves on by what `mqttwrite` took, but offers it `length` bytes each time
and not the `length - sent` that are left. After a short write the next one may therefore take bytes
behind the packet. `sendPacket_prefix_iff` says when it does not: as long as no write steps over the
end of the packet (`StopsAtEnd`).
-/

namespace Esp32Iot

/-- The send buffer and the memory behind it, as far as the loop can read. -/
def sendMemory (mem : Nat → UInt8) (length : Nat) : Bytes := (List.range (2 * length)).map mem

/-- The bytes `buf[0..length)`. -/
def packetBytes (mem : Nat → UInt8) (length : Nat) : Bytes := (List.range length).map mem

/-- What a `sendPacket` puts on the network is the start of the packet, and the packet as a whole
exactly when it reports success. -/
structure SendsPrefix (mem : Nat → UInt8) (length : Nat) (rounds : List SendRound) : Prop where
  start : (sendPacket (sendMemory mem length) length rounds).2 <+: packetBytes mem length
  success : (sendPacket (sendMemory mem length) length rounds).1 = cayenneSuccess ↔
    (sendPacket (sendMemory mem length) length rounds).2 = packetBytes mem length

/-- What the writes take, up to a round without one. -/
def takenCounts (length : Nat) : List SendRound → List Nat
  | [] => []
  | round :: rounds =>
    match round.taken length with
    | none => []
    | some rc => rc :: takenCounts length rounds

/-- No write takes the sum of the counts from below the length to above it. -/
def StopsAtEnd (length : Nat) (counts : List Nat) : Prop :=
  ∀ k, (counts.take k).sum < length → (counts.take (k + 1)).sum ≤ length

/-- No round offers more than the packet. -/
theorem SendRound.taken_le {length rc : Nat} {round : SendRound}
    (h : round.taken length = some rc) : rc ≤ length := by
  cases round with
  | expired | failed => cases h
  | whole => cases h; exact Nat.le_refl _
  | part limit => cases h; exact Nat.min_le_right limit length

/-- The loop reads less than twice the packet. -/
theorem sendLoop_le {buf : Bytes} {length sent : Nat} (hsent : sent ≤ 2 * length)
    (rounds : List SendRound) : (sendLoop buf length sent rounds).2 ≤ 2 * length := by
  induction rounds generalizing sent with
  | nil => exact hsent
  | cons round rounds ih =>
    rw [sendLoop]
    split
    next hlt =>
      split
      next => exact hsent
      next rc hrc =>
        have hle := SendRound.taken_le hrc
        exact ih (show sent + rc ≤ 2 * length by omega)
    next => exact hsent

/-- The loop ends within the packet exactly when the writes, from where it starts, do not step over
the end. -/
theorem sendLoop_le_length_iff (buf : Bytes) {length sent : Nat} (hsent : sent ≤ length)
    (rounds : List SendRound) :
    (sendLoop buf length sent rounds).2 ≤ length ↔
      ∀ k, sent + ((takenCounts length rounds).take k).sum < length →
        sent + ((takenCounts length rounds).take (k + 1)).sum ≤ length := by
  induction rounds generalizing sent with
  | nil => simp [sendLoop, takenCounts, hsent]
  | cons round rounds ih =>
    rw [sendLoop]
    split
    next hlt =>
      cases hrc : round.taken length with
      | none => simp [takenCounts, hrc, hsent]
      | some rc =>
        simp only [takenCounts, hrc]
        constructor
        · intro hend k hk
          have hle : sent + rc ≤ length := Nat.le_trans (le_sendLoop ..) hend
          cases k with
          | zero => simpa using hle
          | succ k =>
            rw [List.take_succ_cons, List.sum_cons, ← Nat.add_assoc] at hk ⊢
            exact (ih hle).1 hend k hk
        · intro hsteps
          have hle : sent + rc ≤ length := by simpa using hsteps 0 (by simpa using hlt)
          refine (ih hle).2 fun k hk => ?_
          have hnext := hsteps (k + 1)
          simp only [List.take_succ_cons, List.sum_cons, ← Nat.add_assoc] at hnext
          exact hnext hk
    next hge =>
      -- the packet is sent, and the sums only grow
      refine iff_of_true hsent fun k hk => ?_
      omega

theorem length_sendMemory (mem : Nat → UInt8) (length : Nat) :
    (sendMemory mem length).length = 2 * length := by
  rw [sendMemory, List.length_map, List.length_range]

theorem take_sendMemory (mem : Nat → UInt8) (length : Nat) :
    (sendMemory mem length).take length = packetBytes mem length := by
  rw [sendMemory, packetBytes, ← List.map_take, List.take_range, Nat.min_eq_left (by omega)]

/-- **Short writes**: `sendPacket` puts a part of its packet on the network, and reports success for
the whole of it, exactly when no write steps over the end of the packet. -/
theorem sendPacket_prefix_iff (mem : Nat → UInt8) (length : Nat) (rounds : List SendRound) :
    SendsPrefix mem length rounds ↔ StopsAtEnd length (takenCounts length rounds) := by
  have hwritten := sendLoop_eq_take (sendMemory mem length) length 0 rounds
  have hbound : (sendLoop (sendMemory mem length) length 0 rounds).2 ≤ 2 * length :=
    sendLoop_le (Nat.zero_le _) rounds
  have hsteps := sendLoop_le_length_iff (sendMemory mem length) (Nat.zero_le length) rounds
  simp only [Nat.zero_add] at hsteps
  rw [List.drop_zero, Nat.sub_zero] at hwritten
  rw [StopsAtEnd, ← hsteps]
  generalize hsent : (sendLoop (sendMemory mem length) length 0 rounds).2 = sent at *
  have hcount : (sendLoop (sendMemory mem length) length 0 rounds).1.length = sent := by
    rw [hwritten, List.length_take, length_sendMemory, Nat.min_eq_left hbound]
  have hpacket : (packetBytes mem length).length = length := by
    rw [packetBytes, List.length_map, List.length_range]
  constructor
  · intro h
    have hle := h.start.length_le
    rwa [sendPacket, hcount, hpacket] at hle
  · intro hle
    constructor
    · show (sendLoop (sendMemory mem length) length 0 rounds).1 <+: packetBytes mem length
      rw [hwritten, ← take_sendMemory]
      exact List.take_prefix_take_left hle
    · simp only [sendPacket, hsent]
      constructor
      · intro hcode
        split at hcode
        next heq => rw [hwritten, heq, take_sendMemory]
        next => exact absurd hcode (by decide)
      · intro hall
        rw [if_pos]
        rw [← hcount, hall, hpacket]

/-- A packet of two bytes of which the first write takes one: the second write sends two more. -/
theorem short_write_overruns :
    ¬ ∀ (mem : Nat → UInt8) (length : Nat) (rounds : List SendRound),
      SendsPrefix mem length rounds := by
  intro h
  have hstart := (h (fun i => UInt8.ofNat i) 2 [.part 1, .whole]).start
  exact absurd hstart.length_le (by decide)

end Esp32Iot
