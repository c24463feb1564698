import Esp32Iot.Network.Reset

/-!
# An `errno` from before the read

`recv` leaves `errno` alone when it succeeds, and the loop of `esp32_read` looks at it then too,
where `esp32_write` looks at it after a failure only. Here two calls on the same line are compared
that start with different values of `errno`. They agree as long as no bytes arrive while `errno` is
that of a connection that is gone (`Stale`), and `stale_errno_iff` says that this is exact: bytes
that arrive then are not counted.
-/

namespace Esp32Iot

/-! ## What a caller sees -/

/-- The buffer after some rounds, from its first cell on as far as it was written: `recv` writes
behind the bytes that are counted. -/
def readWritten (len : Int) (start : ReadCall) (recv : Nat → Recv) : Nat → Bytes
  | 0 => []
  | n + 1 =>
    let call := readRounds len start recv n
    match call.result, recv n with
    | none, .arrived data =>
      (readWritten len start recv n).take call.bytes.toNat ++
        data.take (len - call.bytes).toNat
    | _, _ => readWritten len start recv n

/-- What the caller of `esp32_read` has when it returns. -/
structure ReadAnswer where
  code : Int
  /-- the bytes of the buffer that the return value counts -/
  reported : Bytes
  connected : Bool
  deriving DecidableEq

/-- The answer of a call of `esp32_read` that has returned. -/
def readAnswer (len : Int) (start : ReadCall) (recv : Nat → Recv) (n : Nat) : Option ReadAnswer :=
  let call := readRounds len start recv n
  call.result.map fun code =>
    ⟨code, (readWritten len start recv n).take code.toNat, call.connected⟩

/-- `esp32_read` returns, with this answer. -/
def ReturnsAnswer (len timeoutMs : Int) (connected : Bool) (errno : Errno) (recv : Nat → Recv)
    (answer : ReadAnswer) : Prop :=
  ∃ n, readAnswer len (readStart len timeoutMs connected errno) recv n = some answer

/-- Every positive result of `recv` is added to `bytes`. -/
def CountsAll (len timeoutMs : Int) (connected : Bool) (errno : Errno) (recv : Nat → Recv) : Prop :=
  ∀ n data, (readRounds len (readStart len timeoutMs connected errno) recv n).result = none →
    recv n = .arrived data → data ≠ [] →
    (readRounds len (readStart len timeoutMs connected errno) recv (n + 1)).bytes =
      (readRounds len (readStart len timeoutMs connected errno) recv n).bytes +
        recvCount len (readRounds len (readStart len timeoutMs connected errno) recv n).bytes data

/-- `network->connected` is cleared only because `recv` returned 0, or failed in this call with an
`errno` of a connection that is gone. -/
def DisconnectsForCause (len timeoutMs : Int) (connected : Bool) (errno : Errno)
    (recv : Nat → Recv) : Prop :=
  ∀ n, (readRounds len (readStart len timeoutMs connected errno) recv n).connected = true →
    (readRounds len (readStart len timeoutMs connected errno) recv (n + 1)).connected = false →
    recv n = .arrived [] ∨ ∃ j, j < n ∧ ∃ e, recv j = .failed e ∧ e.broken = true

/-- The value of `errno` before the call has no part in what it does: two calls with different ones
return the same, count what they receive and clear `network->connected` for a cause only. -/
structure IgnoresErrno (len timeoutMs : Int) (connected : Bool) (recv : Nat → Recv)
    (errno errno' : Errno) : Prop where
  same : ∀ answer, ReturnsAnswer len timeoutMs connected errno recv answer ↔
    ReturnsAnswer len timeoutMs connected errno' recv answer
  counts : CountsAll len timeoutMs connected errno recv
  counts' : CountsAll len timeoutMs connected errno' recv
  cause : DisconnectsForCause len timeoutMs connected errno recv
  cause' : DisconnectsForCause len timeoutMs connected errno' recv

/-- Bytes arrive that the loop asks for while `errno`, from before the call or from the failure just
before, is that of a connection that is gone. -/
def Stale (len : Int) (connected : Bool) (errno : Errno) (recv : Nat → Recv) : Prop :=
  connected = true ∧ ∃ i, (bytesBy recv i : Int) < len ∧
    (∀ j, j < i → KeepsOn (errnoAt errno recv j) (recv j)) ∧
    (∃ data, data ≠ [] ∧ recv i = .arrived data) ∧ (errnoAt errno recv i).broken = true

/-! ## The rounds before a call returns -/

/-- A round that fills the buffer is the last one. -/
theorem round_full {len : Int} (timeout : Timeval) {errno : Errno} {bytes : Nat} {outcome : Recv}
    (hroom : (bytes : Int) < len) (hfull : len ≤ bytes + outcome.size) (h : KeepsOn errno outcome) :
    ∃ code,
      (ReadCall.round len ⟨timeout, true, errno, bytes, none⟩ outcome).result = some code := by
  cases outcome with
  | failed e => simp only [Recv.size] at hfull; omega
  | arrived data =>
    simp only [Recv.size] at hfull
    have hstops := recvCount_stops_iff hroom (Int.natCast_nonneg bytes) data errno
    have hcount : recvCount len bytes data = len - bytes := by
      rw [recvCount, List.length_take]
      omega
    refine ⟨bytes + (len - bytes), ?_⟩
    rw [ReadCall.round]
    simp only [hstops]
    rw [if_neg h, hcount, ReadCall.check_of_full (show len ≤ bytes + (len - bytes) by omega)]

/-- The state of a call that has not returned. -/
theorem looping_inv {len timeoutMs : Int} {connected : Bool} {errno : Errno} {recv : Nat → Recv}
    {n : Nat}
    (h : (readRounds len (readStart len timeoutMs connected errno) recv n).result = none) :
    connected = true ∧ (bytesBy recv n : Int) < len ∧
      ∀ j, j < n → KeepsOn (errnoAt errno recv j) (recv j) := by
  induction n with
  | zero =>
    rw [readRounds, readStart, ReadCall.check] at h
    split at h
    next hloop => exact ⟨hloop.2, hloop.1, fun j hj => absurd hj (Nat.not_lt_zero j)⟩
    next => cases h
  | succ n ih =>
    have hn : (readRounds len (readStart len timeoutMs connected errno) recv n).result = none := by
      cases hr : (readRounds len (readStart len timeoutMs connected errno) recv n).result with
      | none => rfl
      | some code => rw [readRounds, ReadCall.round_of_result hr, hr] at h; cases h
    obtain ⟨rfl, hroom, hkeeps⟩ := ih hn
    have hstate := readRounds_looping timeoutMs hroom hkeeps
    rw [readRounds, hstate] at h
    -- an outcome that stops the loop, or fills the buffer, gives a result
    have hkeep : KeepsOn (errnoAt errno recv n) (recv n) := by
      refine Classical.not_not.1 fun hstop => ?_
      obtain ⟨code, hcode, -⟩ := round_stopping (socketTimeout timeoutMs) hroom hstop
      rw [hcode] at h
      cases h
    refine ⟨rfl, ?_, ?_⟩
    · refine Int.not_le.1 fun hfull => ?_
      obtain ⟨code, hcode⟩ := round_full (socketTimeout timeoutMs) hroom hfull hkeep
      rw [hcode] at h
      cases h
    · intro j hj
      rcases Nat.lt_succ_iff_lt_or_eq.1 hj with hlt | rfl
      · exact hkeeps j hlt
      · exact hkeep

/-- The round in which bytes arrive, in the loop. -/
theorem round_arrived {len : Int} {c : ReadCall} (hresult : c.result = none) {data : Bytes}
    (hdata : data ≠ []) (hroom : c.bytes < len) (hbytes : 0 ≤ c.bytes) :
    c.round len (.arrived data) =
      if c.errno.broken then { c with connected := false, result := some c.bytes }
      else ReadCall.check len { c with bytes := c.bytes + recvCount len c.bytes data } := by
  have hstops := recvCount_stops_iff hroom hbytes data c.errno
  rw [ReadCall.round.eq_def]
  simp only [hresult, hstops, hdata, false_or]
  split
  next => rw [ReadCall.check, if_neg (by simp)]
  next => rfl

/-- The condition of the loop changes neither the count nor the connection. -/
theorem ReadCall.check_bytes (len : Int) (c : ReadCall) : (c.check len).bytes = c.bytes := by
  rw [ReadCall.check]
  split <;> rfl

theorem ReadCall.check_connected (len : Int) (c : ReadCall) :
    (c.check len).connected = c.connected := by
  rw [ReadCall.check]
  split <;> rfl

/-- Bytes that a call asks for arrive with an `errno` that lets them be counted, unless it is
stale. -/
theorem not_broken_of_looping {len timeoutMs : Int} {connected : Bool} {errno : Errno}
    {recv : Nat → Recv} (h : ¬ Stale len connected errno recv) {n : Nat}
    (hn : (readRounds len (readStart len timeoutMs connected errno) recv n).result = none)
    {data : Bytes} (hrecv : recv n = .arrived data) (hdata : data ≠ []) :
    (readRounds len (readStart len timeoutMs connected errno) recv n).errno.broken = false := by
  obtain ⟨rfl, hroom, hkeeps⟩ := looping_inv hn
  rw [readRounds_looping timeoutMs hroom hkeeps]
  exact Bool.eq_false_iff.2 fun hbroken =>
    h ⟨rfl, n, hroom, hkeeps, ⟨data, hdata, hrecv⟩, hbroken⟩

/-- Where a call that has not returned is. -/
theorem looping_bytes {len timeoutMs : Int} {connected : Bool} {errno : Errno} {recv : Nat → Recv}
    {n : Nat}
    (h : (readRounds len (readStart len timeoutMs connected errno) recv n).result = none) :
    (readRounds len (readStart len timeoutMs connected errno) recv n).bytes = bytesBy recv n := by
  obtain ⟨rfl, hroom, hkeeps⟩ := looping_inv h
  rw [readRounds_looping timeoutMs hroom hkeeps]

/-! ## One call -/

/-- All bytes are counted exactly when none of them arrive with a stale `errno`. -/
theorem countsAll_iff (len timeoutMs : Int) (connected : Bool) (errno : Errno)
    (recv : Nat → Recv) :
    CountsAll len timeoutMs connected errno recv ↔ ¬ Stale len connected errno recv := by
  constructor
  · rintro hcounts ⟨rfl, i, hroom, hkeeps, ⟨data, hdata, hrecv⟩, hbroken⟩
    have hstate := readRounds_looping timeoutMs hroom hkeeps
    have hbytes := hcounts i data (by rw [hstate]) hrecv hdata
    rw [readRounds, hstate, hrecv, round_arrived rfl hdata hroom (Int.natCast_nonneg _)] at hbytes
    simp only [hbroken, if_true] at hbytes
    -- nothing was added, and `recv` took at least one byte
    have hpos : 0 < data.length := List.length_pos_iff.2 hdata
    simp only [recvCount, List.length_take] at hbytes
    omega
  · intro hstale n data hn hrecv hdata
    obtain ⟨-, hroom, -⟩ := looping_inv hn
    have hbytes := looping_bytes hn
    rw [readRounds, hrecv, round_arrived hn hdata (by omega) (by omega),
      not_broken_of_looping hstale hn hrecv hdata]
    exact ReadCall.check_bytes _ _

/-- Without bytes that arrive with a stale `errno`, only the end of the connection clears
`network->connected`. -/
theorem disconnectsForCause_of_not_stale {len : Int} (timeoutMs : Int) {connected : Bool}
    {errno : Errno} {recv : Nat → Recv} (h : ¬ Stale len connected errno recv) :
    DisconnectsForCause len timeoutMs connected errno recv := by
  intro n hbefore hafter
  refine .inl ?_
  cases hn : (readRounds len (readStart len timeoutMs connected errno) recv n).result with
  | some code =>
    rw [readRounds, ReadCall.round_of_result hn, hbefore] at hafter
    cases hafter
  | none =>
    cases hrecv : recv n with
    | failed e =>
      rw [readRounds, hrecv, ReadCall.round.eq_def] at hafter
      simp only [hn] at hafter
      split at hafter
      next => rw [ReadCall.check_connected, hbefore] at hafter; cases hafter
      next => rw [hbefore] at hafter; cases hafter
    | arrived data =>
      by_cases hdata : data = []
      · rw [hdata]
      · obtain ⟨-, hroom, -⟩ := looping_inv hn
        have hbytes := looping_bytes hn
        rw [readRounds, hrecv, round_arrived hn hdata (by omega) (by omega),
          not_broken_of_looping h hn hrecv hdata] at hafter
        simp only [Bool.false_eq_true, if_false, ReadCall.check_connected, hbefore] at hafter
        cases hafter

/-! ## Two calls -/

/-- Two calls that differ in `errno` at most. -/
def ReadCall.Agree (c c' : ReadCall) : Prop := ∃ e, c' = { c with errno := e }

theorem ReadCall.check_errno (len : Int) (c : ReadCall) (e : Errno) :
    ReadCall.check len { c with errno := e } = { c.check len with errno := e } := by
  rw [ReadCall.check, ReadCall.check]
  split <;> rfl

/-- One round of both calls, when bytes that arrive are counted by both. -/
theorem ReadCall.Agree.round {c c' : ReadCall} (h : c.Agree c') {len : Int} {outcome : Recv}
    (hroom : c.result = none → c.bytes < len ∧ 0 ≤ c.bytes)
    (hclean : ∀ data, c.result = none → outcome = .arrived data → data ≠ [] →
      c.errno.broken = false ∧ c'.errno.broken = false) :
    (c.round len outcome).Agree (c'.round len outcome) := by
  obtain ⟨e, rfl⟩ := h
  obtain ⟨timeout, connected, errno, bytes, result⟩ := c
  cases result with
  | some code => exact ⟨e, rfl⟩
  | none =>
    obtain ⟨hlt, hbytes⟩ : bytes < len ∧ 0 ≤ bytes := hroom rfl
    cases outcome with
    | failed e' =>
      -- both have the `errno` of the failure now
      refine ⟨e', ?_⟩
      rw [ReadCall.round, ReadCall.round]
      simp only
      split
      · exact ReadCall.check_errno len ⟨timeout, connected, e', bytes, none⟩ e'
      · rfl
    | arrived data =>
      refine ⟨e, ?_⟩
      by_cases hdata : data = []
      · have hend : recvCount len bytes data = 0 ∧ len ≠ 0 := by
          refine ⟨?_, by omega⟩
          rw [recvCount, hdata, List.take_nil]
          rfl
        rw [ReadCall.round, ReadCall.round]
        simp only [hend, ne_eq, not_false_eq_true, and_self, true_or, if_true]
        exact ReadCall.check_errno len ⟨timeout, false, errno, bytes, none⟩ e
      · obtain ⟨hc, hc'⟩ := hclean data rfl rfl hdata
        have hround : ∀ e : Errno, e.broken = false →
            ReadCall.round len ⟨timeout, connected, e, bytes, none⟩ (.arrived data) =
              ReadCall.check len
                ⟨timeout, connected, e, bytes + recvCount len bytes data, none⟩ := by
          intro e he
          rw [round_arrived rfl hdata hlt hbytes, if_neg (by simp [he])]
        simp only [hround errno hc, hround e hc']
        exact ReadCall.check_errno len
          ⟨timeout, connected, errno, bytes + recvCount len bytes data, none⟩ e

/-- The two calls, round by round. -/
theorem readRounds_agree {len timeoutMs : Int} {connected : Bool} {recv : Nat → Recv}
    {errno errno' : Errno} (h : ¬ Stale len connected errno recv)
    (h' : ¬ Stale len connected errno' recv) (n : Nat) :
    (readRounds len (readStart len timeoutMs connected errno) recv n).Agree
      (readRounds len (readStart len timeoutMs connected errno') recv n) := by
  induction n with
  | zero => exact ⟨errno', ReadCall.check_errno len ⟨_, connected, errno, 0, none⟩ errno'⟩
  | succ n ih =>
    have hresult : (readRounds len (readStart len timeoutMs connected errno') recv n).result =
        (readRounds len (readStart len timeoutMs connected errno) recv n).result := by
      obtain ⟨e, he⟩ := ih
      rw [he]
    refine ih.round ?_ ?_
    · intro hn
      obtain ⟨-, hroom, -⟩ := looping_inv hn
      rw [looping_bytes hn]
      exact ⟨hroom, Int.natCast_nonneg _⟩
    · intro data hn hrecv hdata
      exact ⟨not_broken_of_looping h hn hrecv hdata,
        not_broken_of_looping h' (hresult.trans hn) hrecv hdata⟩

/-- What they have written. -/
theorem readWritten_agree {len : Int} {start start' : ReadCall} {recv : Nat → Recv}
    (h : ∀ n, (readRounds len start recv n).Agree (readRounds len start' recv n)) (n : Nat) :
    readWritten len start' recv n = readWritten len start recv n := by
  induction n with
  | zero => rfl
  | succ n ih =>
    obtain ⟨e, he⟩ := h n
    simp only [readWritten, he, ih]

/-- The answer is that of the other call, when there is one. -/
theorem readAnswer_agree {len : Int} {start start' : ReadCall} {recv : Nat → Recv}
    (h : ∀ n, (readRounds len start recv n).Agree (readRounds len start' recv n)) (n : Nat) :
    readAnswer len start' recv n = readAnswer len start recv n := by
  obtain ⟨e, he⟩ := h n
  simp only [readAnswer, he, readWritten_agree h n]

/-- **A stale `errno`**: two calls do the same, and count what they receive, exactly when in neither
of them bytes arrive with an `errno` of a connection that is gone. -/
theorem stale_errno_iff (len timeoutMs : Int) (connected : Bool) (recv : Nat → Recv)
    (errno errno' : Errno) :
    IgnoresErrno len timeoutMs connected recv errno errno' ↔
      ¬ Stale len connected errno recv ∧ ¬ Stale len connected errno' recv := by
  constructor
  · intro h
    exact ⟨(countsAll_iff ..).1 h.counts, (countsAll_iff ..).1 h.counts'⟩
  · rintro ⟨h, h'⟩
    refine ⟨fun answer => ?_, (countsAll_iff ..).2 h, (countsAll_iff ..).2 h',
      disconnectsForCause_of_not_stale timeoutMs h, disconnectsForCause_of_not_stale timeoutMs h'⟩
    simp only [ReturnsAnswer, readAnswer_agree (readRounds_agree h h')]

/-- A failed write leaves `EPIPE`, and the next read throws away what it receives. -/
theorem epipe_loses_bytes :
    ¬ ∀ (len timeoutMs : Int) (connected : Bool) (recv : Nat → Recv) (errno errno' : Errno),
      IgnoresErrno len timeoutMs connected recv errno errno' := by
  intro h
  have hcounts := (h 2 1000 true (fun _ => .arrived [208, 0]) .epipe .clear).counts
  exact (countsAll_iff ..).1 hcounts
    ⟨rfl, 0, by decide, nofun, ⟨[208, 0], by decide, rfl⟩, rfl⟩

end Esp32Iot
