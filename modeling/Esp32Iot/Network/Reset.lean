import Mathlib.Data.Nat.Find
import Esp32Iot.Network.Read

/-!
# A read on a connection that is gone

`Esp32Iot.Network.Read` runs the loop of `esp32_read` over a finite list of outcomes. Here the
outcomes of `recv` never end, and the loop is run round by round, so that a call which does not
return can be told from one that does. `readRounds_of_list` ties the two: on a line whose outcomes
are used up and time out from then on, the rounds end as `esp32Read` does.

A round in which `recv` fails with `ENOTCONN` or `ECONNRESET` changes nothing but `errno`: unlike
`esp32_write`, the loop does not clear `network->connected` there, and only a later outcome ends it.
`read_ends_iff` says on which lines that die in mid-read the call returns and finds the connection
gone; `reset_never_returns` is a peer that resets at once.
-/

namespace Esp32Iot

/-! ## The loop, round by round -/

/-- `struct timeval`. -/
structure Timeval where
  tvSec : Int
  tvUsec : Int
  deriving DecidableEq

/-- The timeout that `esp32_read` and `esp32_write` set on the socket. -/
def socketTimeout (timeoutMs : Int) : Timeval :=
  let interval : Timeval := ⟨timeoutMs.tdiv 1000, timeoutMs.tmod 1000 * 1000⟩
  if interval.tvSec < 0 ∨ (interval.tvSec = 0 ∧ interval.tvUsec ≤ 0) then ⟨0, 100⟩ else interval

/-- `setsockopt` is never given a timeout of zero, with which `recv` would block. -/
theorem socketTimeout_pos (timeoutMs : Int) :
    0 < (socketTimeout timeoutMs).tvSec ∨
      (socketTimeout timeoutMs).tvSec = 0 ∧ 0 < (socketTimeout timeoutMs).tvUsec := by
  unfold socketTimeout
  simp only
  split
  next => exact .inr ⟨rfl, by decide⟩
  next h =>
    simp only at h ⊢
    omega

/-- A call of `esp32_read` in the middle of its loop, or after it. -/
structure ReadCall where
  /-- `SO_RCVTIMEO` of the socket -/
  rcvtimeo : Timeval
  connected : Bool
  errno : Errno
  bytes : Int
  /-- the value returned, when the loop was left -/
  result : Option Int
  deriving DecidableEq

/-- The condition of the loop: `bytes < len && network->connected`. -/
def ReadCall.check (len : Int) (c : ReadCall) : ReadCall :=
  if c.bytes < len ∧ c.connected = true then c else { c with result := some c.bytes }

theorem ReadCall.check_of_full {len : Int} {c : ReadCall} (h : len ≤ c.bytes) :
    c.check len = { c with result := some c.bytes } := by
  rw [ReadCall.check, if_neg]
  rintro ⟨hlt, -⟩
  omega

/-- What `recv` returns when this much has arrived. -/
def recvCount (len bytes : Int) (data : Bytes) : Int := (data.take (len - bytes).toNat).length

/-- One round of the loop, with the outcome of its `recv`. A call that has returned stays as it
is. -/
def ReadCall.round (len : Int) (c : ReadCall) (outcome : Recv) : ReadCall :=
  match c.result with
  | some _ => c
  | none =>
    match outcome with
    | .failed e =>
      if e.gone then { c with errno := e }.check len
      else { c with errno := e, bytes := -1, result := some (-1) }
    | .arrived data =>
      let rc := recvCount len c.bytes data
      if (rc = 0 ∧ len ≠ 0) ∨ c.errno.broken then { c with connected := false }.check len
      else { c with bytes := c.bytes + rc }.check len

/-- The state in which `esp32_read` reaches its loop. -/
def readStart (len timeoutMs : Int) (connected : Bool) (errno : Errno) : ReadCall :=
  ReadCall.check len ⟨socketTimeout timeoutMs, connected, errno, 0, none⟩

/-- `esp32_read` after some calls of `recv`. -/
def readRounds (len : Int) (start : ReadCall) (recv : Nat → Recv) : Nat → ReadCall
  | 0 => start
  | n + 1 => (readRounds len start recv n).round len (recv n)

theorem ReadCall.round_of_result {len : Int} {c : ReadCall} {code : Int}
    (h : c.result = some code) (outcome : Recv) : c.round len outcome = c := by
  rw [ReadCall.round.eq_def, h]

/-- A call that has returned takes no further rounds. -/
theorem readRounds_of_result {len : Int} {start : ReadCall} {recv : Nat → Recv} {m n : Nat}
    {code : Int} (h : (readRounds len start recv m).result = some code) (hmn : m ≤ n) :
    readRounds len start recv n = readRounds len start recv m := by
  induction hmn with
  | refl => rfl
  | step _ ih => rw [readRounds, ih, ReadCall.round_of_result h]

/-- `recv` returns 0 at the end of the connection only, as the loop asks for at least one byte. -/
theorem recvCount_stops_iff {len bytes : Int} (hlt : bytes < len) (hbytes : 0 ≤ bytes)
    (data : Bytes) (errno : Errno) :
    ((recvCount len bytes data = 0 ∧ len ≠ 0) ∨ errno.broken = true) ↔
      (data = [] ∨ errno.broken = true) := by
  have hzero : recvCount len bytes data = 0 ↔ data = [] := by
    rw [recvCount, List.length_take, ← List.length_eq_zero_iff]
    omega
  rw [hzero, and_iff_left (show len ≠ 0 by omega)]

/-! ## Lines that are used up -/

/-- The outcomes of a line on which nothing comes any more: every further `recv` times out. -/
def outcomesOf (incoming : List Recv) (i : Nat) : Recv := incoming.getD i (.failed .eagain)

/-- The rounds have ended as a call of `esp32_read` does. -/
structure ReadCall.Ends (c : ReadCall) (r : MqttRead) : Prop where
  result : c.result = some r.code
  connected : c.connected = r.line.connected
  errno : c.errno = r.line.errno

/-- The first round, and the others after it. -/
theorem readRounds_succ (len : Int) (start : ReadCall) (recv : Nat → Recv) (n : Nat) :
    readRounds len start recv (n + 1) =
      readRounds len (start.round len (recv 0)) (fun i => recv (i + 1)) n := by
  induction n with
  | zero => rfl
  | succ n ih => rw [readRounds, ih]; rfl

theorem exists_rounds_cons {len : Int} {start : ReadCall} {r : Recv} {rest : List Recv}
    {read : MqttRead}
    (h : ∃ n, (readRounds len (start.round len r) (outcomesOf rest) n).Ends read) :
    ∃ n, (readRounds len start (outcomesOf (r :: rest)) n).Ends read := by
  obtain ⟨n, hn⟩ := h
  refine ⟨n + 1, ?_⟩
  rw [readRounds_succ]
  exact hn

theorem readLoop_rounds (len : Nat) (timeout : Timeval) (bytes : Nat) (errno : Errno)
    (incoming : List Recv) :
    ∃ n, (readRounds len (ReadCall.check len ⟨timeout, true, errno, bytes, none⟩)
      (outcomesOf incoming) n).Ends (esp32ReadLoop len bytes errno incoming) := by
  induction incoming generalizing bytes errno with
  | nil =>
    rw [esp32ReadLoop]
    split
    next hlt =>
      refine ⟨1, ?_⟩
      have hcheck : ((bytes : Int) < len ∧ true = true) := ⟨by omega, rfl⟩
      rw [readRounds, readRounds, ReadCall.check, if_pos hcheck]
      exact ⟨rfl, rfl, rfl⟩
    next hge =>
      refine ⟨0, ?_⟩
      rw [readRounds, ReadCall.check_of_full (Int.ofNat_le.2 (Nat.le_of_not_lt hge))]
      exact ⟨rfl, rfl, rfl⟩
  | cons r rest ih =>
    rcases Nat.lt_or_ge bytes len with hlt | hge
    · have hcheck : ((bytes : Int) < len ∧ true = true) := ⟨by omega, rfl⟩
      apply exists_rounds_cons
      rw [ReadCall.check, if_pos hcheck]
      cases r with
      | failed e =>
        rw [esp32ReadLoop, if_pos hlt, ReadCall.round]
        simp only
        split
        next => exact ih bytes e
        next => exact ⟨0, rfl, rfl, rfl⟩
      | arrived data =>
        have hstops := recvCount_stops_iff hcheck.1 (Int.natCast_nonneg bytes) data errno
        rw [esp32ReadLoop, if_pos hlt, ReadCall.round]
        simp only [hstops]
        split
        next =>
          rw [ReadCall.check, if_neg (by simp)]
          exact ⟨0, rfl, rfl, rfl⟩
        next =>
          have hcount : recvCount len bytes data = (min (len - bytes) data.length : Nat) := by
            rw [recvCount, List.length_take]
            omega
          rw [hcount]
          split
          next hlong =>
            have hfull : (bytes : Int) + (len - bytes : Nat) = len := by omega
            rw [Nat.min_eq_left (Nat.le_of_lt hlong),
              ReadCall.check_of_full (Int.le_of_eq hfull.symm)]
            exact ⟨0, congrArg some hfull, rfl, rfl⟩
          next hshort =>
            rw [Nat.min_eq_right (Nat.le_of_not_lt hshort)]
            obtain ⟨n, hn⟩ := ih (bytes + data.length) errno
            exact ⟨n, hn.result, hn.connected, hn.errno⟩
    · refine ⟨0, ?_⟩
      have hloop : esp32ReadLoop len bytes errno (r :: rest) =
          ⟨bytes, [], ⟨true, errno, r :: rest⟩⟩ := by
        cases r <;> rw [esp32ReadLoop, if_neg (Nat.not_lt.2 hge)]
      rw [hloop, readRounds, ReadCall.check_of_full (Int.ofNat_le.2 hge)]
      exact ⟨rfl, rfl, rfl⟩

/-- The rounds on a line that is used up end as `esp32Read` says. -/
theorem readRounds_of_list (len : Nat) (timeoutMs : Int) (l : ReadLine) :
    ∃ n, (readRounds len (readStart len timeoutMs l.connected l.errno) (outcomesOf l.incoming)
      n).Ends (esp32Read len l) := by
  obtain ⟨connected, errno, incoming⟩ := l
  cases connected with
  | true => exact readLoop_rounds len (socketTimeout timeoutMs) 0 errno incoming
  | false =>
    refine ⟨0, ?_⟩
    rw [readRounds, readStart, ReadCall.check, if_neg (by simp)]
    exact ⟨rfl, rfl, rfl⟩

/-! ## What stops the loop -/

/-- The bytes that an outcome of `recv` delivers. -/
def Recv.size : Recv → Nat
  | .arrived data => data.length
  | .failed _ => 0

/-- The bytes that the first calls of `recv` deliver. -/
def bytesBy (recv : Nat → Recv) : Nat → Nat
  | 0 => 0
  | n + 1 => bytesBy recv n + (recv n).size

/-- `errno` before a call of `recv`: what the last failure left there. -/
def errnoAt (errno : Errno) (recv : Nat → Recv) : Nat → Errno
  | 0 => errno
  | n + 1 =>
    match recv n with
    | .failed e => e
    | .arrived _ => errnoAt errno recv n

/-- A connection that delivers fewer bytes than were asked for and then is gone. -/
structure DiesAfter (len : Int) (recv : Nat → Recv) (n : Nat) : Prop where
  short : (bytesBy recv n : Int) < len
  dead : ∀ i, n ≤ i → ∃ e : Errno, e.gone = true ∧ recv i = .failed e

/-- An outcome of `recv` with which `esp32_read` clears `network->connected`: the end of the
connection, or bytes while `errno` is that of a connection that is gone. -/
def Noticed (errno : Errno) : Recv → Prop
  | .failed _ => False
  | .arrived data => data = [] ∨ errno.broken = true

/-- An outcome of `recv` after which the loop goes on, when it has not filled the buffer. -/
def KeepsOn (errno : Errno) : Recv → Prop
  | .failed e => e.gone = true
  | .arrived data => ¬ (data = [] ∨ errno.broken = true)

theorem bytesBy_mono (recv : Nat → Recv) {m n : Nat} (hmn : m ≤ n) :
    bytesBy recv m ≤ bytesBy recv n := by
  induction hmn with
  | refl => exact Nat.le_refl _
  | step _ ih => exact Nat.le_trans ih (Nat.le_add_right _ _)

theorem DiesAfter.bytesBy_lt {len : Int} {recv : Nat → Recv} {n : Nat}
    (h : DiesAfter len recv n) (m : Nat) : (bytesBy recv m : Int) < len := by
  have hdead : ∀ k, bytesBy recv (n + k) = bytesBy recv n := by
    intro k
    induction k with
    | zero => rfl
    | succ k ih =>
      obtain ⟨e, -, he⟩ := h.dead (n + k) (Nat.le_add_right n k)
      show bytesBy recv (n + k) + (recv (n + k)).size = bytesBy recv n
      rw [ih, he]
      rfl
  have hm : bytesBy recv m ≤ bytesBy recv n := by
    rw [← hdead m]
    exact bytesBy_mono recv (Nat.le_add_left m n)
  have hn := h.short
  omega

/-- A round in the loop. -/
theorem round_looping {len : Int} {timeout : Timeval} {errno : Errno} {bytes : Nat} {outcome : Recv}
    (hroom : (bytes + outcome.size : Int) < len) (h : KeepsOn errno outcome) :
    ReadCall.round len ⟨timeout, true, errno, bytes, none⟩ outcome =
      ⟨timeout, true, errnoAt errno (fun _ => outcome) 1, (bytes + outcome.size : Nat), none⟩ := by
  cases outcome with
  | failed e =>
    have hgone : e.gone = true := h
    simp only [Recv.size] at hroom ⊢
    rw [ReadCall.round]
    simp only [hgone, if_true]
    rw [ReadCall.check, if_pos ⟨by simpa using hroom, rfl⟩]
    rfl
  | arrived data =>
    simp only [Recv.size] at hroom ⊢
    have hcount : recvCount len bytes data = data.length := by
      rw [recvCount, List.take_of_length_le (by omega)]
    have hstops := recvCount_stops_iff (show (bytes : Int) < len by omega)
      (Int.natCast_nonneg bytes) data errno
    rw [ReadCall.round]
    simp only [hstops]
    rw [if_neg h, hcount, ReadCall.check, if_pos ⟨hroom, rfl⟩]
    simp [errnoAt]

/-- The loop goes on as long as all outcomes let it. -/
theorem readRounds_looping {len : Int} (timeoutMs : Int) {errno : Errno} {recv : Nat → Recv}
    {n : Nat} (hroom : (bytesBy recv n : Int) < len)
    (h : ∀ j, j < n → KeepsOn (errnoAt errno recv j) (recv j)) :
    readRounds len (readStart len timeoutMs true errno) recv n =
      ⟨socketTimeout timeoutMs, true, errnoAt errno recv n, bytesBy recv n, none⟩ := by
  induction n with
  | zero => rw [readRounds, readStart, ReadCall.check, if_pos ⟨hroom, rfl⟩]; rfl
  | succ n ih =>
    have hless := bytesBy_mono recv (Nat.le_add_right n 1)
    rw [readRounds, ih (by omega) fun j hj => h j (Nat.lt_succ_of_lt hj),
      round_looping hroom (h n (Nat.lt_succ_self n))]
    rfl

/-- The round with which the loop is left for an outcome that does not keep it going. -/
theorem round_stopping {len : Int} (timeout : Timeval) {errno : Errno} {bytes : Nat}
    {outcome : Recv} (hroom : (bytes : Int) < len) (h : ¬ KeepsOn errno outcome) :
    ∃ code, (ReadCall.round len ⟨timeout, true, errno, bytes, none⟩ outcome).result = some code ∧
      ((ReadCall.round len ⟨timeout, true, errno, bytes, none⟩ outcome).connected = false ↔
        Noticed errno outcome) := by
  cases outcome with
  | failed e =>
    have hgone : e.gone = false := by simpa [KeepsOn] using h
    refine ⟨-1, ?_⟩
    simp [ReadCall.round, hgone, Noticed]
  | arrived data =>
    have hstop : data = [] ∨ errno.broken = true := Classical.not_not.1 h
    have hcond := (recvCount_stops_iff hroom (Int.natCast_nonneg bytes) data errno).2 hstop
    refine ⟨bytes, ?_⟩
    simp [ReadCall.round, hcond, ReadCall.check, Noticed, hstop]

/-! ## Calls that return -/

/-- The call returns, and leaves the connection marked as gone. -/
def ReturnsDisconnected (len timeoutMs : Int) (connected : Bool) (errno : Errno)
    (recv : Nat → Recv) : Prop :=
  ∃ n code, (readRounds len (readStart len timeoutMs connected errno) recv n).result = some code ∧
    (readRounds len (readStart len timeoutMs connected errno) recv n).connected = false

/-- An outcome clears `network->connected`, and no earlier call failed with an `errno` that ends the
loop. -/
def NoticedInTime (errno : Errno) (recv : Nat → Recv) : Prop :=
  ∃ i, Noticed (errnoAt errno recv i) (recv i) ∧
    ∀ j, j < i → ∀ e, recv j = .failed e → e.gone = true

theorem Noticed.not_keepsOn {errno : Errno} {outcome : Recv} (h : Noticed errno outcome) :
    ¬ KeepsOn errno outcome := by
  cases outcome with
  | failed e => exact h.elim
  | arrived data => exact not_not_intro h

/-- The first outcome that stops the loop of a connection that was up decides how the call ends. -/
theorem returnsDisconnected_iff_of_first {len timeoutMs : Int} {errno : Errno} {recv : Nat → Recv}
    (hroom : ∀ m, (bytesBy recv m : Int) < len) {i : Nat}
    (hi : ¬ KeepsOn (errnoAt errno recv i) (recv i))
    (hfirst : ∀ j, j < i → KeepsOn (errnoAt errno recv j) (recv j)) :
    ReturnsDisconnected len timeoutMs true errno recv ↔
      Noticed (errnoAt errno recv i) (recv i) := by
  have hstate := readRounds_looping timeoutMs (hroom i) hfirst
  obtain ⟨code, hresult, hconn⟩ := round_stopping (socketTimeout timeoutMs) (hroom i) hi
  rw [← hstate] at hresult hconn
  have hlast : (readRounds len (readStart len timeoutMs true errno) recv (i + 1)).result =
      some code := hresult
  constructor
  · rintro ⟨n, code', hresult', hconn'⟩
    refine hconn.1 ?_
    show (readRounds len (readStart len timeoutMs true errno) recv (i + 1)).connected = false
    rcases Nat.le_total n (i + 1) with hle | hle
    · rwa [readRounds_of_result hresult' hle]
    · rwa [← readRounds_of_result hlast hle]
  · intro hnoticed
    exact ⟨i + 1, code, hresult, hconn.2 hnoticed⟩

/-- **A read on a dead connection.** The call returns with `network->connected` cleared when it
finds it cleared, or when the end of the connection, or bytes after a failure for a connection that
is gone, comes before any other failure. -/
theorem read_ends_iff (len timeoutMs : Int) (connected : Bool) (errno : Errno) (recv : Nat → Recv)
    (n : Nat) (hdies : DiesAfter len recv n) :
    ReturnsDisconnected len timeoutMs connected errno recv ↔
      connected = false ∨ NoticedInTime errno recv := by
  cases connected with
  | false =>
    refine iff_of_true ⟨0, 0, ?_, ?_⟩ (.inl rfl) <;> simp [readRounds, readStart, ReadCall.check]
  | true =>
    classical
    have hroom := hdies.bytesBy_lt
    simp only [Bool.true_eq_false, false_or]
    rcases Classical.em (∃ i, ¬ KeepsOn (errnoAt errno recv i) (recv i)) with hstop | hgoes
    · -- the least outcome that stops the loop
      obtain ⟨i, hi, hmin⟩ := Nat.findX hstop
      have hfirst : ∀ j, j < i → KeepsOn (errnoAt errno recv j) (recv j) :=
        fun j hj => Classical.not_not.1 (hmin j hj)
      rw [returnsDisconnected_iff_of_first hroom hi hfirst]
      constructor
      · intro hnoticed
        refine ⟨i, hnoticed, fun j hj e he => ?_⟩
        have hkeeps := hfirst j hj
        rwa [he] at hkeeps
      · rintro ⟨k, hk, hgone⟩
        have hle : i ≤ k := Nat.le_of_not_lt fun hlt => hk.not_keepsOn (hfirst k hlt)
        rcases Nat.lt_or_eq_of_le hle with hlt | rfl
        · -- a failure before the noticed outcome keeps the loop going, so this one has bytes
          cases hr : recv i with
          | failed e => exact absurd (hgone i hlt e hr) (by rw [hr] at hi; exact hi)
          | arrived data => rw [hr] at hi; exact Classical.not_not.1 hi
        · exact hk
    · have hall : ∀ i, KeepsOn (errnoAt errno recv i) (recv i) :=
        fun i => Classical.not_not.1 fun hi => hgoes ⟨i, hi⟩
      refine iff_of_false ?_ ?_
      · rintro ⟨m, code, hresult, -⟩
        rw [readRounds_looping timeoutMs (hroom m) fun j _ => hall j] at hresult
        cases hresult
      · rintro ⟨i, hi, -⟩
        exact hi.not_keepsOn (hall i)

theorem read_ends_iff_closed :
    DiesAfter 4 (fun i => if i = 0 then .arrived [65, 66] else if i = 1 then .arrived []
        else .failed .enotconn) 2 ∧
      ReturnsDisconnected 4 1000 true .clear (fun i => if i = 0 then .arrived [65, 66]
        else if i = 1 then .arrived [] else .failed .enotconn) := by
  have hdies : DiesAfter 4 (fun i => if i = 0 then .arrived [65, 66] else if i = 1 then .arrived []
      else .failed .enotconn) 2 := by
    refine ⟨by decide, fun i hi => ⟨.enotconn, rfl, ?_⟩⟩
    rw [if_neg (by omega), if_neg (by omega)]
  refine ⟨hdies, (read_ends_iff 4 1000 true .clear _ 2 hdies).2 (.inr ⟨1, .inl rfl, ?_⟩)⟩
  intro j hj e he
  obtain rfl : j = 0 := by omega
  cases he

/-- A peer that resets the connection in mid-read: the loop asks `recv` again and again. -/
theorem reset_never_returns :
    ¬ ∀ (len timeoutMs : Int) (connected : Bool) (errno : Errno) (recv : Nat → Recv) (n : Nat),
      DiesAfter len recv n → ReturnsDisconnected len timeoutMs connected errno recv := by
  intro h
  have hdies : DiesAfter 2 (fun _ => .failed .econnreset) 0 :=
    ⟨by decide, fun _ _ => ⟨.econnreset, rfl, rfl⟩⟩
  obtain ⟨n, code, hresult, -⟩ := h 2 1000 true .clear _ 0 hdies
  rw [readRounds_looping 1000 (hdies.bytesBy_lt n) fun _ _ => rfl] at hresult
  cases hresult

end Esp32Iot
