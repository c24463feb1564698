import Mathlib.Algebra.Group.Int.Defs
import Esp32Iot.Mqtt.Session
import Esp32Iot.Network.Reset

/-!
# The timers

`Platform/esp32/Timer.c` over `struct timeval`, with the BSD macros `timeradd` and `timersub`. A
`tv_sec` and a `tv_usec` are `long`s of 32 bits; each operation on them is checked (`long32`), and a
result of `none` is an overflow. The reading of the clock, `gettimeofday`, is an argument.

The session takes its timers in microseconds; `timerCountdown_micros`, `timerIsExpired_micros` and
`timerLeftMS_micros` say that these are the timers of the source, and `countdown_exact` what a timer
tells between two readings.
-/

namespace Esp32Iot

/-! ## Time values -/

/-- A result of 32-bit arithmetic, if it is one. -/
def long32 (n : Int) : Option Int := if -2 ^ 31 ≤ n ∧ n < 2 ^ 31 then some n else none

theorem long32_eq_some {n : Int} (h : -2 ^ 31 ≤ n ∧ n < 2 ^ 31) : long32 n = some n := if_pos h

/-- `timeradd`. -/
def timeradd (a b : Timeval) : Option Timeval := do
  let tvSec ← long32 (a.tvSec + b.tvSec)
  let tvUsec ← long32 (a.tvUsec + b.tvUsec)
  if tvUsec ≥ 1000000 then
    let tvSec ← long32 (tvSec + 1)
    let tvUsec ← long32 (tvUsec - 1000000)
    return ⟨tvSec, tvUsec⟩
  else return ⟨tvSec, tvUsec⟩

/-- `timersub`. -/
def timersub (a b : Timeval) : Option Timeval := do
  let tvSec ← long32 (a.tvSec - b.tvSec)
  let tvUsec ← long32 (a.tvUsec - b.tvUsec)
  if tvUsec < 0 then
    let tvSec ← long32 (tvSec - 1)
    let tvUsec ← long32 (tvUsec + 1000000)
    return ⟨tvSec, tvUsec⟩
  else return ⟨tvSec, tvUsec⟩

namespace Timeval

/-- In microseconds. -/
def micros (t : Timeval) : Int := t.tvSec * 1000000 + t.tvUsec

/-- The microseconds are a part of a second; the seconds are whatever is left, which can be
negative. -/
structure Normal (t : Timeval) : Prop where
  usec_nonneg : 0 ≤ t.tvUsec
  usec_lt : t.tvUsec < 1000000

/-- A reading of the clock: a normal time value of a time since its start that `time_t` holds. -/
structure Reading (t : Timeval) : Prop extends Normal t where
  sec_nonneg : 0 ≤ t.tvSec
  sec_lt : t.tvSec < 2 ^ 31

theorem Reading.micros_nonneg {t : Timeval} (h : t.Reading) : 0 ≤ t.micros := by
  obtain ⟨⟨h1, h2⟩, h3, h4⟩ := h
  rw [micros]
  omega

end Timeval

open Timeval

/-- **The addition** of an interval to a reading, as long as the sum is one. -/
theorem timeradd_spec {a b : Timeval} (ha : a.Reading) (hb : b.Reading)
    (hsum : a.micros + b.micros < 2 ^ 31 * 1000000) :
    ∃ t, timeradd a b = some t ∧ t.Reading ∧ t.micros = a.micros + b.micros := by
  obtain ⟨⟨ha1, ha2⟩, ha3, ha4⟩ := ha
  obtain ⟨⟨hb1, hb2⟩, hb3, hb4⟩ := hb
  simp only [micros] at hsum
  have hsec := long32_eq_some (n := a.tvSec + b.tvSec) (by omega)
  have husec := long32_eq_some (n := a.tvUsec + b.tvUsec) (by omega)
  by_cases hcarry : a.tvUsec + b.tvUsec ≥ 1000000
  · have hsec' := long32_eq_some (n := a.tvSec + b.tvSec + 1) (by omega)
    have husec' := long32_eq_some (n := a.tvUsec + b.tvUsec - 1000000) (by omega)
    refine ⟨⟨a.tvSec + b.tvSec + 1, a.tvUsec + b.tvUsec - 1000000⟩, ?_, ⟨⟨?_, ?_⟩, ?_, ?_⟩, ?_⟩
    · simp [timeradd, hsec, husec, hcarry, hsec', husec']
    all_goals
      simp only [micros]
      omega
  · refine ⟨⟨a.tvSec + b.tvSec, a.tvUsec + b.tvUsec⟩, ?_, ⟨⟨?_, ?_⟩, ?_, ?_⟩, ?_⟩
    · simp [timeradd, hsec, husec, hcarry]
    all_goals
      simp only [micros]
      omega

/-- **The difference** of two readings. -/
theorem timersub_spec {a b : Timeval} (ha : a.Reading) (hb : b.Reading) :
    ∃ t, timersub a b = some t ∧ t.Normal ∧ t.micros = a.micros - b.micros := by
  obtain ⟨⟨ha1, ha2⟩, ha3, ha4⟩ := ha
  obtain ⟨⟨hb1, hb2⟩, hb3, hb4⟩ := hb
  have hsec := long32_eq_some (n := a.tvSec - b.tvSec) (by omega)
  have husec := long32_eq_some (n := a.tvUsec - b.tvUsec) (by omega)
  by_cases hborrow : a.tvUsec - b.tvUsec < 0
  · have hsec' := long32_eq_some (n := a.tvSec - b.tvSec - 1) (by omega)
    have husec' := long32_eq_some (n := a.tvUsec - b.tvUsec + 1000000) (by omega)
    refine ⟨⟨a.tvSec - b.tvSec - 1, a.tvUsec - b.tvUsec + 1000000⟩, ?_, ⟨?_, ?_⟩, ?_⟩
    · simp [timersub, hsec, husec, hborrow, hsec', husec']
    all_goals
      simp only [micros]
      omega
  · refine ⟨⟨a.tvSec - b.tvSec, a.tvUsec - b.tvUsec⟩, ?_, ⟨?_, ?_⟩, ?_⟩
    · simp [timersub, hsec, husec, hborrow]
    all_goals
      simp only [micros]
      omega

/-! ## `Timer.c` -/

namespace Platform

/-- `TimerCountdownMS`: `end_time`. -/
def timerCountdownMS (now : Timeval) (timeout : UInt32) : Option Timeval :=
  timeradd now ⟨timeout.toNat / 1000, timeout.toNat % 1000 * 1000⟩

/-- `TimerCountdown`: `end_time`. The seconds are `unsigned` and become a `time_t`. -/
def timerCountdown (now : Timeval) (timeout : UInt32) : Option Timeval :=
  timeradd now ⟨(timeout.toNat : Int).bmod (2 ^ 32), 0⟩

/-- `TimerIsExpired`. -/
def timerIsExpired (endTime now : Timeval) : Option Bool := do
  let res ← timersub endTime now
  return res.tvSec < 0 ∨ (res.tvSec = 0 ∧ res.tvUsec ≤ 0)

/-- `TimerLeftMS`. -/
def timerLeftMS (endTime now : Timeval) : Option Int := do
  let res ← timersub endTime now
  if res.tvSec < 0 then return 0
  else
    let ms ← long32 (res.tvSec * 1000)
    long32 (ms + res.tvUsec.tdiv 1000)

/-! ### In microseconds -/

section
variable {now endTime : Timeval}

/-- The timer of an interval that is added to a reading. -/
theorem timeradd_interval (hnow : now.Reading) {interval : Timeval} (hinterval : interval.Reading)
    {n : Nat} (hn : interval.micros = n) (hend : now.micros + n < 2 ^ 31 * 1000000) :
    ∃ t, timeradd now interval = some t ∧ t.Reading ∧
      t.micros.toNat = now.micros.toNat + n := by
  have hpos := hnow.micros_nonneg
  obtain ⟨t, ht, hreading, hsum⟩ := timeradd_spec hnow hinterval (by rw [hn]; exact hend)
  refine ⟨t, ht, hreading, ?_⟩
  rw [hsum, hn]
  omega

/-- The timer of `TimerCountdownMS` is the one of the session. -/
theorem timerCountdownMS_micros (hnow : now.Reading) {timeout : UInt32}
    (hend : now.micros + (timeout.toNat * 1000 : Nat) < 2 ^ 31 * 1000000) :
    ∃ t, timerCountdownMS now timeout = some t ∧ t.Reading ∧
      t.micros.toNat = Esp32Iot.timerCountdownMS now.micros.toNat timeout.toNat := by
  have hlt := timeout.toNat_lt
  refine timeradd_interval hnow ⟨⟨?_, ?_⟩, ?_, ?_⟩ ?_ hend
  all_goals
    simp only [micros]
    omega

/-- The timer of `TimerCountdown` is the one of the session. -/
theorem timerCountdown_micros (hnow : now.Reading) {timeout : UInt32}
    (hend : now.micros + (timeout.toNat * 1000000 : Nat) < 2 ^ 31 * 1000000) :
    ∃ t, timerCountdown now timeout = some t ∧ t.Reading ∧
      t.micros.toNat = Esp32Iot.timerCountdown now.micros.toNat timeout.toNat := by
  have hpos := hnow.micros_nonneg
  have hseconds : (timeout.toNat : Int).bmod (2 ^ 32) = timeout.toNat :=
    Int.bmod_eq_of_le (by omega) (by omega)
  rw [timerCountdown, hseconds]
  refine timeradd_interval hnow ⟨⟨?_, ?_⟩, ?_, ?_⟩ ?_ hend
  all_goals
    simp only [micros]
    omega

/-- `TimerIsExpired` is the comparison of the session. -/
theorem timerIsExpired_micros (hend : endTime.Reading) (hnow : now.Reading) :
    timerIsExpired endTime now =
      some (Esp32Iot.timerIsExpired endTime.micros.toNat now.micros.toNat) := by
  obtain ⟨res, hres, ⟨husec, hlt⟩, hmicros⟩ := timersub_spec hend hnow
  have h1 := hend.micros_nonneg
  have h2 := hnow.micros_nonneg
  have hiff : (res.tvSec < 0 ∨ (res.tvSec = 0 ∧ res.tvUsec ≤ 0)) ↔
      endTime.micros.toNat ≤ now.micros.toNat := by
    rw [micros] at hmicros
    omega
  simp only [timerIsExpired, hres, Option.bind_eq_bind, Option.bind_some, Esp32Iot.timerIsExpired,
    decide_eq_decide.2 hiff]
  rfl

/-- `TimerLeftMS` is the rest of the time in whole milliseconds, if that is an `int`. -/
theorem timerLeftMS_micros (hend : endTime.Reading) (hnow : now.Reading)
    (hleft : endTime.micros - now.micros < 2 ^ 31 * 1000) :
    timerLeftMS endTime now =
      some (if endTime.micros ≤ now.micros then 0 else (endTime.micros - now.micros) / 1000) := by
  obtain ⟨res, hres, ⟨husec, hlt⟩, hmicros⟩ := timersub_spec hend hnow
  have hdiv : res.tvUsec.tdiv 1000 = res.tvUsec / 1000 := Int.tdiv_eq_ediv_of_nonneg husec
  rw [micros] at hmicros
  simp only [timerLeftMS, hres, Option.bind_eq_bind, Option.bind_some]
  by_cases hneg : res.tvSec < 0
  · rw [if_pos hneg, if_pos (by omega)]
    rfl
  · rw [if_neg hneg, long32_eq_some (by omega), Option.bind_some, hdiv, long32_eq_some (by omega)]
    congr 1
    split <;> omega

end

/-! ## Countdowns -/

/-- A timeout, and the function that sets it. -/
inductive Countdown
  /-- `TimerCountdownMS` -/
  | milliseconds (timeout : UInt32)
  /-- `TimerCountdown` -/
  | seconds (timeout : UInt32)
  deriving DecidableEq

namespace Countdown

/-- The timer it sets. -/
def set (now : Timeval) : Countdown → Option Timeval
  | milliseconds timeout => timerCountdownMS now timeout
  | seconds timeout => timerCountdown now timeout

/-- In microseconds. -/
def micros : Countdown → Nat
  | milliseconds timeout => timeout.toNat * 1000
  | seconds timeout => timeout.toNat * 1000000

/-- At most `INT_MAX` milliseconds, or 65535 seconds. -/
def Allowed : Countdown → Prop
  | milliseconds timeout => timeout.toNat < 2 ^ 31
  | seconds timeout => timeout.toNat ≤ 65535

theorem micros_lt {c : Countdown} (h : c.Allowed) : c.micros < 2 ^ 31 * 1000 := by
  cases c with
  | milliseconds timeout => exact Nat.mul_lt_mul_of_pos_right h (by decide)
  | seconds timeout =>
    rw [Allowed] at h
    rw [micros]
    omega

theorem set_spec {a : Timeval} (ha : a.Reading) {c : Countdown}
    (hend : a.micros + c.micros < 2 ^ 31 * 1000000) :
    ∃ t, c.set a = some t ∧ t.Reading ∧ t.micros = a.micros + c.micros := by
  have hpos := ha.micros_nonneg
  cases c with
  | milliseconds timeout =>
    obtain ⟨t, ht, hreading, hmicros⟩ := timerCountdownMS_micros ha hend
    have htpos := hreading.micros_nonneg
    refine ⟨t, ht, hreading, ?_⟩
    rw [Esp32Iot.timerCountdownMS] at hmicros
    rw [micros]
    omega
  | seconds timeout =>
    obtain ⟨t, ht, hreading, hmicros⟩ := timerCountdown_micros ha hend
    have htpos := hreading.micros_nonneg
    refine ⟨t, ht, hreading, ?_⟩
    rw [Esp32Iot.timerCountdown] at hmicros
    rw [micros]
    omega

end Countdown

/-- What a timer tells at a reading, without an overflow: `TimerIsExpired` and `TimerLeftMS`. -/
structure Tells (endTime now : Timeval) (expired : Bool) (left : Int) : Prop where
  expired : timerIsExpired endTime now = some expired
  left : timerLeftMS endTime now = some left

/-- **Countdown timers are exact.** A timer that was set at `a` has expired at `b` exactly when the
timeout has passed to the microsecond, it tells the rest of the time in whole milliseconds and 0
when it has expired, and at a later reading it has not unexpired and tells no more time. -/
theorem countdown_exact {a b : Timeval} (ha : a.Reading) (hb : b.Reading)
    (hab : a.micros ≤ b.micros) {c : Countdown} (hc : c.Allowed)
    (hend : a.micros + c.micros < 2 ^ 31 * 1000000) :
    ∃ endTime expired left, c.set a = some endTime ∧ Tells endTime b expired left ∧
      (expired = true ↔ c.micros ≤ b.micros - a.micros) ∧
      left = (if expired = true then 0 else (a.micros + c.micros - b.micros) / 1000) ∧
      ∀ b' : Timeval, b'.Reading → b.micros ≤ b'.micros →
        ∃ expired' left', Tells endTime b' expired' left' ∧ (expired = true → expired' = true) ∧
          left' ≤ left := by
  obtain ⟨endTime, hset, hreading, hmicros⟩ := Countdown.set_spec ha hend
  have hsmall := Countdown.micros_lt hc
  have hend0 := hreading.micros_nonneg
  -- any reading from `a` on
  have htells : ∀ t : Timeval, t.Reading → a.micros ≤ t.micros →
      ∃ expired left, Tells endTime t expired left ∧
        (expired = true ↔ endTime.micros ≤ t.micros) ∧
        left = if expired = true then 0 else (endTime.micros - t.micros) / 1000 := by
    intro t ht hat
    have ht0 := ht.micros_nonneg
    have hle : endTime.micros.toNat ≤ t.micros.toNat ↔ endTime.micros ≤ t.micros := by omega
    have hiff : Esp32Iot.timerIsExpired endTime.micros.toNat t.micros.toNat = true ↔
        endTime.micros ≤ t.micros := decide_eq_true_iff.trans hle
    refine ⟨_, _, ⟨timerIsExpired_micros hreading ht,
      timerLeftMS_micros hreading ht (by omega)⟩, hiff, ?_⟩
    simp only [hiff]
  obtain ⟨expired, left, htell, hexpired, hleft⟩ := htells b hb hab
  refine ⟨endTime, expired, left, hset, htell, ?_, ?_, ?_⟩
  · rw [hexpired]
    omega
  · rw [hleft, hmicros]
  · intro b' hb' hbb'
    obtain ⟨expired', left', htell', hexpired', hleft'⟩ := htells b' hb' (by omega)
    refine ⟨expired', left', htell', ?_, ?_⟩
    · rw [hexpired, hexpired']
      omega
    · simp only [hexpired] at hleft
      simp only [hexpired'] at hleft'
      rw [hleft, hleft']
      split <;> split <;> omega

/-- A timeout of 1500 milliseconds that carries into the next second, one microsecond before it is
over. -/
theorem countdown_1500 :
    ∃ endTime expired left, Countdown.set ⟨10, 600000⟩ (.milliseconds 1500) = some endTime ∧
      Tells endTime ⟨12, 99999⟩ expired left ∧ expired = false ∧ left = 0 := by
  have ha : Reading ⟨10, 600000⟩ := ⟨⟨by decide, by decide⟩, by decide, by decide⟩
  have hb : Reading ⟨12, 99999⟩ := ⟨⟨by decide, by decide⟩, by decide, by decide⟩
  obtain ⟨endTime, expired, left, hset, htell, hexpired, hleft, -⟩ :=
    countdown_exact ha hb (by decide) (c := .milliseconds 1500)
      (show 1500 < 2 ^ 31 by decide) (by decide)
  have hnot : expired = false := by
    cases expired with
    | false => rfl
    | true => exact absurd (hexpired.1 rfl) (by decide)
  refine ⟨endTime, expired, left, hset, htell, hnot, ?_⟩
  rw [hleft, hnot]
  decide

end Platform

end Esp32Iot
