import Esp32Iot.Bluetooth.Discovery
import Esp32Iot.Lib.Trunc

/-!
# The readings of the sensors

`ESP_GATTC_NOTIFY_EVT` and `ESP_GATTC_READ_CHAR_EVT`: raw words are assembled from the bytes of a
value and converted in place. Values are read without a look at their length, and `none` stands for
an access behind the last byte. Arithmetic in `double` is exact here, on fractions; what is done in
`int` wraps around at 32 bits, and what is done in `int64_t` at 64.

`compensation_exact_iff` says when the pressure sensor's compensation gives what the formulas in
its comments say: exactly when its three products of `int` do not wrap. `compensation_wraps` is a
reading at which they do.
-/

namespace Esp32Iot

open Trunc (trunc)

/-! ## Words and data -/

/-- `lo | (hi << 8)`. -/
def word16 (hi lo : UInt8) : Nat := lo.toNat ||| hi.toNat <<< 8

/-- `b₀ | (b₁ << 8) | (b₂ << 16)`. -/
def word24 (b₂ b₁ b₀ : UInt8) : Nat := b₀.toNat ||| b₁.toNat <<< 8 ||| b₂.toNat <<< 16

/-- The value of an `int` expression. -/
def int32 (x : Int) : Int := x.bmod 4294967296

/-- The value of an `int64_t` expression. -/
def int64 (x : Int) : Int := x.bmod 18446744073709551616

/-- `BA5C_data_t`. -/
structure SensorData where
  htu21dCounter : UInt8
  htu21dTemperature : Int16
  htu21dHumidity : Int16
  htu21dStatus : UInt8
  ms5637Counter : UInt8
  ms5637D1 : UInt32
  ms5637D2 : UInt32
  ms5637Temperature : Int32
  ms5637Pressure : Int32
  ms5637Status : UInt8
  batteryLevel : UInt8
  batteryStatus : UInt8
  deriving DecidableEq

/-- A global is zero at boot. -/
def SensorData.boot : SensorData := ⟨0, 0, 0, 0, 0, 0, 0, 0, 0, 0, 0, 0⟩

/-- `read_interval`. -/
def readInterval : UInt8 := 10

/-! ## Notifications -/

/-- The branch of the HTU21D in `ESP_GATTC_NOTIFY_EVT`: the characteristics that are read, and the
data. The raw words are stored in the fields of 16 bits and converted from there. -/
def SensorData.htu21dNotify (h : HandleData) (d : SensorData) :
    Bytes → Option (List UInt16 × SensorData)
  | v₀ :: v₁ :: _ :: v₃ :: v₄ :: _ =>
      let temperature := Int16.ofInt (word16 v₀ v₁)
      let humidity := Int16.ofInt (word16 v₃ v₄)
      let d := { d with
        htu21dTemperature :=
          Int16.ofInt (trunc (-46.85 + 175.72 * (temperature.toInt : ℚ) / 65536))
        htu21dHumidity := Int16.ofInt (-6 + (125 * humidity.toInt).tdiv 65536)
        htu21dCounter := d.htu21dCounter + 1 }
      if readInterval ≤ d.htu21dCounter then
        some ([h.charHandle .htu21d .status, h.charHandle .battery .data],
          { d with htu21dCounter := 0 })
      else some ([], d)
  | _ => none

/-- The branch of the MS5637. -/
def SensorData.ms5637Notify (h : HandleData) (d : SensorData) :
    Bytes → Option (List UInt16 × SensorData)
  | v₀ :: v₁ :: v₂ :: v₃ :: v₄ :: v₅ :: _ =>
      let d := { d with
        ms5637D1 := UInt32.ofNat (word24 v₀ v₁ v₂)
        ms5637D2 := UInt32.ofNat (word24 v₃ v₄ v₅)
        ms5637Counter := d.ms5637Counter + 1 }
      if readInterval ≤ d.ms5637Counter then
        some ([h.charHandle .ms5637 .calibration, h.charHandle .ms5637 .status],
          { d with ms5637Counter := 0 })
      else some ([], d)
  | _ => none

/-- The branch of the battery, here and in `ESP_GATTC_READ_CHAR_EVT`. -/
def SensorData.batteryValue (d : SensorData) : Bytes → Option SensorData
  | v₀ :: v₁ :: _ => some { d with batteryLevel := v₀, batteryStatus := v₁ }
  | _ => none

/-- `ESP_GATTC_NOTIFY_EVT`. -/
def SensorData.notify (h : HandleData) (d : SensorData) (handle : UInt16) (value : Bytes) :
    Option (List UInt16 × SensorData) :=
  if handle = h.charHandle .htu21d .data then d.htu21dNotify h value
  else if handle = h.charHandle .ms5637 .data then d.ms5637Notify h value
  else if handle = h.charHandle .battery .data then (d.batteryValue value).map ([], ·)
  else some ([], d)

/-! ## Compensation -/

/-- The words `C1` to `C6`. -/
structure Calibration where
  c1 : Nat
  c2 : Nat
  c3 : Nat
  c4 : Nat
  c5 : Nat
  c6 : Nat
  deriving DecidableEq

/-- The words of a calibration read. -/
def Calibration.ofValue : Bytes → Option Calibration
  | v₀ :: v₁ :: v₂ :: v₃ :: v₄ :: v₅ :: v₆ :: v₇ :: v₈ :: v₉ :: v₁₀ :: v₁₁ :: _ =>
      some ⟨word16 v₀ v₁, word16 v₂ v₃, word16 v₄ v₅, word16 v₆ v₇, word16 v₈ v₉, word16 v₁₀ v₁₁⟩
  | _ => none

/-- The variables of the compensation. -/
structure Compensation where
  dT : Int
  temperature : Int
  off : Int
  sens : Int
  pressure : Int
  deriving DecidableEq

/-- The compensation as the branch of `ESP_GATTC_READ_CHAR_EVT` computes it. `dT * C6`, `C4 * dT`
and `C3 * dT` are products of two `int`, and `D1 * SENS` is one of `int64_t`. -/
def compensate (d1 d2 : UInt32) (c : Calibration) : Compensation :=
  let dT := trunc (d2.toNat - c.c5 * 2 ^ 8)
  let off := trunc (c.c2 * 2 ^ 17 + int32 (c.c4 * dT) / 2 ^ 6)
  let sens := trunc (c.c1 * 2 ^ 16 + int32 (c.c3 * dT) / 2 ^ 7)
  { dT := dT
    temperature := trunc ((2000 + int32 (dT * c.c6) / 2 ^ 23) / 100)
    off := off
    sens := sens
    pressure := trunc ((int64 (d1.toNat * sens) / 2 ^ 21 - off) / 2 ^ 15 / 100) }

/-- The formulas of the comments. -/
def exactCompensation (d1 d2 : UInt32) (c : Calibration) : Compensation :=
  let dT : Int := d2.toNat - c.c5 * 2 ^ 8
  let off := trunc (c.c2 * 2 ^ 17 + c.c4 * dT / 2 ^ 6)
  let sens := trunc (c.c1 * 2 ^ 16 + c.c3 * dT / 2 ^ 7)
  { dT := dT
    temperature := trunc ((2000 + dT * c.c6 / 2 ^ 23) / 100)
    off := off
    sens := sens
    pressure := trunc ((d1.toNat * sens / 2 ^ 21 - off) / 2 ^ 15 / 100) }

/-- The branch of the calibration in `ESP_GATTC_READ_CHAR_EVT`. -/
def SensorData.ms5637Calibration (d : SensorData) (value : Bytes) : Option SensorData :=
  (Calibration.ofValue value).map fun c =>
    { d with
      ms5637Temperature := Int32.ofInt (compensate d.ms5637D1 d.ms5637D2 c).temperature
      ms5637Pressure := Int32.ofInt (compensate d.ms5637D1 d.ms5637D2 c).pressure }

/-- `ESP_GATTC_READ_CHAR_EVT`; `ok` is `status == ESP_GATT_OK`. -/
def SensorData.readChar (h : HandleData) (d : SensorData) (ok : Bool) (handle : UInt16)
    (value : Bytes) : Option SensorData :=
  if !ok then some d
  else if handle = h.charHandle .htu21d .status then
    value.head?.map fun v₀ => { d with htu21dStatus := v₀ }
  else if handle = h.charHandle .ms5637 .calibration then d.ms5637Calibration value
  else if handle = h.charHandle .ms5637 .status then
    value.head?.map fun v₀ => { d with ms5637Status := v₀ }
  else if handle = h.charHandle .battery .data then d.batteryValue value
  else some d

/-! ## Ranges -/

/-- A value of `int`. -/
def InInt32 (x : Int) : Prop := -2147483648 ≤ x ∧ x < 2147483648

instance (x : Int) : Decidable (InInt32 x) := inferInstanceAs (Decidable (_ ∧ _))

theorem word16_eq (hi lo : UInt8) : word16 hi lo = 256 * hi.toNat + lo.toNat := by
  have hlo := lo.toNat_lt
  rw [word16, Nat.or_comm, ← Nat.shiftLeft_add_eq_or_of_lt hlo, Nat.shiftLeft_eq]
  omega

theorem word16_lt (hi lo : UInt8) : word16 hi lo < 65536 := by
  have hhi := hi.toNat_lt
  have hlo := lo.toNat_lt
  rw [word16_eq]
  omega

theorem word24_lt (b₂ b₁ b₀ : UInt8) : word24 b₂ b₁ b₀ < 16777216 := by
  have h₀ := b₀.toNat_lt
  have h₁ := b₁.toNat_lt
  have h₂ := b₂.toNat_lt
  have hlow : b₀.toNat ||| b₁.toNat <<< 8 < 2 ^ 24 := by
    refine Nat.or_lt_two_pow (by omega) ?_
    rw [Nat.shiftLeft_eq]
    omega
  refine Nat.or_lt_two_pow hlow ?_
  rw [Nat.shiftLeft_eq]
  omega

theorem inInt32_int32 (x : Int) : InInt32 (int32 x) := by
  have hlo : -((4294967296 : Nat) / 2 : Int) ≤ int32 x := Int.le_bmod (by decide)
  have hhi : int32 x < ((4294967296 : Nat) + 1) / 2 := Int.bmod_lt (by decide)
  unfold InInt32
  omega

/-- An `int` expression has its mathematical value exactly when that is a value of `int`. -/
theorem int32_eq_iff {x : Int} : int32 x = x ↔ InInt32 x := by
  constructor
  · intro h
    rw [← h]
    exact inInt32_int32 x
  · rintro ⟨hlo, hhi⟩
    exact Int.bmod_eq_of_le (by omega) (by omega)

/-- The value of an `int` expression, as a bound on a fraction. -/
theorem abs_int32_le (x : Int) : |(int32 x : ℚ)| ≤ 2147483648 := by
  obtain ⟨hlo, hhi⟩ := inInt32_int32 x
  have hlo' : (-2147483648 : ℚ) ≤ int32 x := by exact_mod_cast hlo
  have hhi' : (int32 x : ℚ) ≤ 2147483648 := by exact_mod_cast hhi.le
  exact abs_le.2 ⟨hlo', hhi'⟩

/-- The words of a calibration read have 16 bits. -/
structure Calibration.Words16 (c : Calibration) : Prop where
  c1 : c.c1 < 65536
  c2 : c.c2 < 65536
  c3 : c.c3 < 65536
  c4 : c.c4 < 65536
  c5 : c.c5 < 65536
  c6 : c.c6 < 65536

theorem Calibration.words16_of_ofValue {value : Bytes} {c : Calibration}
    (h : Calibration.ofValue value = some c) : c.Words16 := by
  unfold Calibration.ofValue at h
  split at h
  · cases h
    exact ⟨word16_lt .., word16_lt .., word16_lt .., word16_lt .., word16_lt .., word16_lt ..⟩
  · cases h

/-- The raw readings of a notification have 24 bits. -/
theorem SensorData.ms5637Notify_lt {h : HandleData} {d d' : SensorData} {value : Bytes}
    {reads : List UInt16} (hn : d.ms5637Notify h value = some (reads, d')) :
    d'.ms5637D1.toNat < 16777216 ∧ d'.ms5637D2.toNat < 16777216 := by
  unfold SensorData.ms5637Notify at hn
  split at hn
  · rename_i v₀ v₁ v₂ v₃ v₄ v₅ rest
    have hd1 : (UInt32.ofNat (word24 v₀ v₁ v₂)).toNat < 16777216 :=
      Nat.lt_of_le_of_lt (Nat.mod_le ..) (word24_lt v₀ v₁ v₂)
    have hd2 : (UInt32.ofNat (word24 v₃ v₄ v₅)).toNat < 16777216 :=
      Nat.lt_of_le_of_lt (Nat.mod_le ..) (word24_lt v₃ v₄ v₅)
    simp only at hn
    split at hn
    · cases hn
      exact ⟨hd1, hd2⟩
    · cases hn
      exact ⟨hd1, hd2⟩
  · cases hn

/-! ## When the compensation is exact -/

section
variable {d1 d2 : UInt32} {c : Calibration}

theorem compensate_dT (d1 d2 : UInt32) (c : Calibration) :
    (compensate d1 d2 c).dT = (exactCompensation d1 d2 c).dT := by
  refine Eq.trans ?_ (Trunc.trunc_intCast _)
  show trunc _ = trunc _
  congr 1
  simp only [exactCompensation]
  push_cast
  ring

/-- The three products that are formed in `int` have a value there. -/
structure ProductsFit (d2 : UInt32) (c : Calibration) : Prop where
  temperature : InInt32 ((d2.toNat - c.c5 * 2 ^ 8) * c.c6)
  off : InInt32 (c.c4 * (d2.toNat - c.c5 * 2 ^ 8))
  sens : InInt32 (c.c3 * (d2.toNat - c.c5 * 2 ^ 8))

/-- A product that wraps shows in the result, as none of the formulas divides by more than
`2 ^ 31`. -/
theorem trunc_int32_iff {p q : ℚ} (hq : 0 < q) (hq' : q ≤ 2147483648) (x : Int) :
    trunc (p + int32 x / q) = trunc (p + x / q) ↔ InInt32 x := by
  rw [← int32_eq_iff]
  refine Trunc.trunc_add_div_bmod_eq_iff hq ?_ x
  push_cast
  linarith

theorem compensate_temperature_iff (d1 d2 : UInt32) (c : Calibration) :
    (compensate d1 d2 c).temperature = (exactCompensation d1 d2 c).temperature ↔
      InInt32 ((d2.toNat - c.c5 * 2 ^ 8) * c.c6) := by
  have hscale : ∀ w : ℚ, (2000 + w / 2 ^ 23) / 100 = 20 + w / 838860800 := by
    intro w
    ring
  have hwrap := trunc_int32_iff (p := 20) (q := 838860800) (by norm_num) (by norm_num)
    ((exactCompensation d1 d2 c).dT * c.c6)
  rw [Int.cast_mul, Int.cast_natCast, ← hscale, ← hscale, ← compensate_dT] at hwrap
  nth_rewrite 2 [compensate_dT] at hwrap
  exact hwrap.trans (by rw [compensate_dT]; rfl)

theorem compensate_off_iff (d1 d2 : UInt32) (c : Calibration) :
    (compensate d1 d2 c).off = (exactCompensation d1 d2 c).off ↔
      InInt32 (c.c4 * (d2.toNat - c.c5 * 2 ^ 8)) := by
  have hwrap := trunc_int32_iff (p := c.c2 * 2 ^ 17) (q := 2 ^ 6) (by norm_num) (by norm_num)
    (c.c4 * (exactCompensation d1 d2 c).dT)
  rw [Int.cast_mul, Int.cast_natCast, ← compensate_dT] at hwrap
  nth_rewrite 2 [compensate_dT] at hwrap
  exact hwrap.trans (by rw [compensate_dT]; rfl)

theorem compensate_sens_iff (d1 d2 : UInt32) (c : Calibration) :
    (compensate d1 d2 c).sens = (exactCompensation d1 d2 c).sens ↔
      InInt32 (c.c3 * (d2.toNat - c.c5 * 2 ^ 8)) := by
  have hwrap := trunc_int32_iff (p := c.c1 * 2 ^ 16) (q := 2 ^ 7) (by norm_num) (by norm_num)
    (c.c3 * (exactCompensation d1 d2 c).dT)
  rw [Int.cast_mul, Int.cast_natCast, ← compensate_dT] at hwrap
  nth_rewrite 2 [compensate_dT] at hwrap
  exact hwrap.trans (by rw [compensate_dT]; rfl)

/-- A word scaled up and an `int` scaled down. -/
theorem abs_trunc_scaled_le {n : Nat} (hn : n < 65536) {p q : ℚ} (hp : 0 < p) (hq : 1 ≤ q) (x : Int)
    {b : Int} (hb : 65536 * p + 2147483648 ≤ b) : |trunc (n * p + int32 x / q)| ≤ b := by
  refine Trunc.abs_trunc_le_of_le ?_
  have hn' : (n : ℚ) ≤ 65536 := by exact_mod_cast hn.le
  have hword : |(n : ℚ) * p| ≤ 65536 * p := by
    rw [abs_of_nonneg (by positivity)]
    exact mul_le_mul_of_nonneg_right hn' hp.le
  have hint : |(int32 x : ℚ) / q| ≤ 2147483648 := by
    rw [abs_div, abs_of_pos (show 0 < q by linarith)]
    exact (div_le_self (abs_nonneg _) hq).trans (abs_int32_le x)
  calc |(n : ℚ) * p + int32 x / q| ≤ |(n : ℚ) * p| + |(int32 x : ℚ) / q| := abs_add_le _ _
    _ ≤ 65536 * p + 2147483648 := add_le_add hword hint
    _ ≤ b := hb

theorem compensate_sens_abs (d1 d2 : UInt32) (hc : c.Words16) :
    |(compensate d1 d2 c).sens| ≤ 8589934592 :=
  abs_trunc_scaled_le hc.c1 (by norm_num) (by norm_num) _ (by norm_num)

theorem compensate_off_abs (d1 d2 : UInt32) (hc : c.Words16) :
    |(compensate d1 d2 c).off| ≤ 17179869184 :=
  abs_trunc_scaled_le hc.c2 (by norm_num) (by norm_num) _ (by norm_num)

/-- The temperature fits its field, whatever has become of the product. -/
theorem compensate_temperature_inInt32 (d1 d2 : UInt32) (c : Calibration) :
    InInt32 (compensate d1 d2 c).temperature := by
  have habs : |(compensate d1 d2 c).temperature| ≤ 2147483647 := by
    refine Trunc.abs_trunc_le_of_le ?_
    have hw := abs_le.1 (abs_int32_le ((compensate d1 d2 c).dT * c.c6))
    change |(2000 + (int32 ((compensate d1 d2 c).dT * c.c6) : ℚ) / 2 ^ 23) / 100| ≤ _
    rw [abs_le]
    push_cast
    constructor <;> linarith [hw.1, hw.2]
  have := abs_le.1 habs
  unfold InInt32
  omega

theorem compensate_product_abs (hd1 : d1.toNat < 16777216) (d2 : UInt32) (hc : c.Words16) :
    |(d1.toNat : Int) * (compensate d1 d2 c).sens| ≤ 16777216 * 8589934592 := by
  rw [abs_mul, Nat.abs_cast]
  exact mul_le_mul (by exact_mod_cast hd1.le) (compensate_sens_abs d1 d2 hc) (abs_nonneg _)
    (by norm_num)

/-- The product of the raw pressure and the sensitivity fits 64 bits. -/
theorem compensate_int64 (hd1 : d1.toNat < 16777216) (d2 : UInt32) (hc : c.Words16) :
    int64 (d1.toNat * (compensate d1 d2 c).sens) = d1.toNat * (compensate d1 d2 c).sens := by
  have := abs_le.1 (compensate_product_abs hd1 d2 hc)
  exact Int.bmod_eq_of_le (by omega) (by omega)

/-- The pressure is the exact one when offset and sensitivity are. -/
theorem compensate_pressure_eq (hd1 : d1.toNat < 16777216) (hc : c.Words16)
    (hoff : (compensate d1 d2 c).off = (exactCompensation d1 d2 c).off)
    (hsens : (compensate d1 d2 c).sens = (exactCompensation d1 d2 c).sens) :
    (compensate d1 d2 c).pressure = (exactCompensation d1 d2 c).pressure := by
  change trunc (((int64 (d1.toNat * (compensate d1 d2 c).sens) : ℚ) / 2 ^ 21 -
      (compensate d1 d2 c).off) / 2 ^ 15 / 100) =
    trunc (((d1.toNat : ℚ) * (exactCompensation d1 d2 c).sens / 2 ^ 21 -
      (exactCompensation d1 d2 c).off) / 2 ^ 15 / 100)
  rw [compensate_int64 hd1 d2 hc, hoff, hsens]
  push_cast
  rfl

/-- The pressure fits its field. -/
theorem compensate_pressure_inInt32 (hd1 : d1.toNat < 16777216) (d2 : UInt32) (hc : c.Words16) :
    InInt32 (compensate d1 d2 c).pressure := by
  have hoff : |((compensate d1 d2 c).off : ℚ)| ≤ 17179869184 := by
    exact_mod_cast compensate_off_abs d1 d2 hc
  have hprod : |((d1.toNat * (compensate d1 d2 c).sens : Int) : ℚ)| ≤ 16777216 * 8589934592 := by
    exact_mod_cast compensate_product_abs hd1 d2 hc
  rw [abs_le] at hoff hprod
  have habs : |(compensate d1 d2 c).pressure| ≤ 2147483647 := by
    refine Trunc.abs_trunc_le_of_le ?_
    change |((int64 (d1.toNat * (compensate d1 d2 c).sens) : ℚ) / 2 ^ 21 -
      (compensate d1 d2 c).off) / 2 ^ 15 / 100| ≤ _
    rw [compensate_int64 hd1 d2 hc, abs_le]
    push_cast at hprod ⊢
    constructor <;> linarith [hprod.1, hprod.2, hoff.1, hoff.2]
  have := abs_le.1 habs
  unfold InInt32
  omega

end

theorem toInt_ofInt_of_inInt32 {x : Int} (h : InInt32 x) : (Int32.ofInt x).toInt = x :=
  Int32.toInt_ofInt_of_le (by have := h.1; omega) (by have := h.2; omega)

/-- **The compensation is exact exactly when none of its three products wraps.** -/
theorem compensation_exact_iff {h : HandleData} {d d₁ d₂ : SensorData} {reads : List UInt16}
    {value calibration : Bytes} {c : Calibration}
    (hnotify : d.ms5637Notify h value = some (reads, d₁))
    (hwords : Calibration.ofValue calibration = some c)
    (hread : d₁.ms5637Calibration calibration = some d₂) :
    ((compensate d₁.ms5637D1 d₁.ms5637D2 c).dT =
        (exactCompensation d₁.ms5637D1 d₁.ms5637D2 c).dT ∧
      d₂.ms5637Temperature.toInt = (exactCompensation d₁.ms5637D1 d₁.ms5637D2 c).temperature ∧
      (compensate d₁.ms5637D1 d₁.ms5637D2 c).off =
        (exactCompensation d₁.ms5637D1 d₁.ms5637D2 c).off ∧
      (compensate d₁.ms5637D1 d₁.ms5637D2 c).sens =
        (exactCompensation d₁.ms5637D1 d₁.ms5637D2 c).sens ∧
      d₂.ms5637Pressure.toInt = (exactCompensation d₁.ms5637D1 d₁.ms5637D2 c).pressure) ↔
    ProductsFit d₁.ms5637D2 c := by
  obtain ⟨hd1, -⟩ := SensorData.ms5637Notify_lt hnotify
  have hc := Calibration.words16_of_ofValue hwords
  rw [SensorData.ms5637Calibration, hwords] at hread
  cases hread
  simp only [toInt_ofInt_of_inInt32 (compensate_temperature_inInt32 d₁.ms5637D1 d₁.ms5637D2 c),
    toInt_ofInt_of_inInt32 (compensate_pressure_inInt32 hd1 d₁.ms5637D2 hc)]
  constructor
  · rintro ⟨-, htemperature, hoff, hsens, -⟩
    exact ⟨(compensate_temperature_iff ..).1 htemperature, (compensate_off_iff ..).1 hoff,
      (compensate_sens_iff ..).1 hsens⟩
  · rintro ⟨htemperature, hoff, hsens⟩
    have hoff' := (compensate_off_iff d₁.ms5637D1 d₁.ms5637D2 c).2 hoff
    have hsens' := (compensate_sens_iff d₁.ms5637D1 d₁.ms5637D2 c).2 hsens
    exact ⟨compensate_dT .., (compensate_temperature_iff ..).2 htemperature, hoff', hsens',
      compensate_pressure_eq hd1 hc hoff' hsens'⟩

/-- A calibration as the sensor's data sheet gives one. -/
def sampleCalibration : Bytes :=
  [0xB5, 0x24, 0xAB, 0xCD, 0x71, 0x83, 0x6C, 0xC2, 0x7B, 0x41, 0x6E, 0x05]

/-- A reading near the temperature at which the sensor was calibrated. -/
theorem compensation_exact_at_reference :
    ∃ d₁ d₂ c, SensorData.boot.ms5637Notify .boot [0x62, 0xA7, 0xA4, 0x7B, 0x41, 0x44] =
        some ([], d₁) ∧ Calibration.ofValue sampleCalibration = some c ∧
      d₁.ms5637Calibration sampleCalibration = some d₂ ∧
      d₂.ms5637Temperature.toInt = (exactCompensation d₁.ms5637D1 d₁.ms5637D2 c).temperature ∧
      d₂.ms5637Pressure.toInt = (exactCompensation d₁.ms5637D1 d₁.ms5637D2 c).pressure := by
  refine ⟨_, _, _, rfl, rfl, rfl, ?_⟩
  have hexact := (@compensation_exact_iff .boot .boot _ _ _ [0x62, 0xA7, 0xA4, 0x7B, 0x41, 0x44]
    sampleCalibration _ rfl rfl rfl).2 ⟨by decide, by decide, by decide⟩
  exact ⟨hexact.2.1, hexact.2.2.2.2⟩

/-- Sixteen degrees more: the product with `C6` leaves 32 bits, and 21 degrees are stored instead
of 36. -/
theorem compensation_wraps :
    ∃ d₁ d₂ c, SensorData.boot.ms5637Notify .boot [0x62, 0xA7, 0xA4, 0x82, 0xE2, 0x64] =
        some ([], d₁) ∧ Calibration.ofValue sampleCalibration = some c ∧
      d₁.ms5637Calibration sampleCalibration = some d₂ ∧ d₂.ms5637Temperature.toInt = 21 ∧
      (exactCompensation d₁.ms5637D1 d₁.ms5637D2 c).temperature = 36 := by
  refine ⟨_, _, _, rfl, rfl, rfl, ?_, ?_⟩
  · decide +kernel
  · decide +kernel

end Esp32Iot
