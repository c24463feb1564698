import Mathlib.Data.List.GetD
import Esp32Iot.CString
import Esp32Iot.Lib.Cells

/-!
# The station's configuration

`wifi_sta_configure` and `wifi_apsta_configure` (`WiFi/esp32iot_wifi.c`) copy the credentials with
their terminators into a `wifi_config_t` that was initialised before. The fields `ssid[32]` and
`password[64]` lie one behind the other there, in `sta` as in `ap`, and a write behind the first
lands in the second.

Both functions pass on what was meant, for every SSID and password that a network can have: the
terminator of an SSID of 32 bytes goes to `password[0]`, which the second loop then writes again.
But it is written outside its field, and `station_configured_iff` says that this is the only case.
-/

namespace Esp32Iot

open CStr (lit)
open Cells (Mem Unaffected)

/-! ## `wifi_config_t` -/

/-- The fields that the loops fill. -/
inductive StaField
  | ssid
  | password
  deriving DecidableEq

/-- The number of elements of a field. -/
def StaField.size : StaField → Nat
  | .ssid => 32
  | .password => 64

/-- Where an element of a field lies in the structure. -/
def StaField.addr : StaField → Nat → Nat
  | .ssid, i => i
  | .password, i => 32 + i

/-- The other members of the union that the source initialises. -/
inductive WifiMembers
  /-- `channel`, `authmode == WIFI_AUTH_WPA2_PSK`, `ssid_hidden`, `max_connection` and
  `beacon_interval` of `ap` -/
  | ap (channel : Nat) (wpa2Psk : Bool) (ssidHidden maxConnection beaconInterval : Nat)
  /-- `bssid_set` and `channel` of `sta` -/
  | sta (bssidSet : Bool) (channel : Nat)
  deriving DecidableEq

/-- `wifi_config_t`: the two fields, which `ap` and `sta` share, and the other members. -/
@[ext] structure WifiConfig where
  cells : Nat → UInt8
  members : WifiMembers

/-- A designated initialiser of a member of the union: the literals for the two fields, and the
others. -/
structure WifiInit where
  ssid : CStr
  password : CStr
  members : WifiMembers

/-- An array that is initialised with a literal is padded with zeros. -/
def WifiInit.config (init : WifiInit) : WifiConfig where
  cells i := if i < 32 then init.ssid.val.getD i 0 else init.password.val.getD (i - 32) 0
  members := init.members

/-- A union that is initialised more than once holds what the last initialiser gives it. -/
def unionInit (first : WifiInit) (others : List WifiInit) : WifiConfig :=
  ((first :: others).getLast (List.cons_ne_nil _ _)).config

/-- `.ap = { .ssid=DEFAULT_AP_SSID, … }`. -/
def apInit : WifiInit where
  ssid := lit "S/M/H_Beacon"
  password := lit "smh_322aq"
  members := .ap 0 true 0 4 100

/-- `.sta = { .ssid = "", .password = "", .bssid_set = false, .channel = 1. }`. -/
def staInit : WifiInit where
  ssid := lit ""
  password := lit ""
  members := .sta false 1

/-! ## The functions -/

/-- The calls of ESP-IDF that the functions make, with what they pass. -/
inductive WifiCall
  | setModeSta
  | setModeApsta
  /-- `esp_wifi_set_config(WIFI_IF_STA, &wifi_config)` -/
  | setConfigSta (config : WifiConfig)

/-- Which of these calls succeed: `ESP_ERROR_CHECK` reboots the device at any other return code. -/
structure WifiAnswers where
  setMode : Bool
  setConfig : Bool
  deriving DecidableEq

/-- A call of one of the functions: what it calls, which elements its loops write, and whether it
returns. -/
structure Configured where
  calls : List WifiCall
  writes : List (StaField × Nat)
  returned : Bool

/-- `for (i = 0; i <= strlen(s); ++i) wifi_config.sta.field[i] = s[i]`. -/
def copyField (m : Mem StaField Nat UInt8) (field : StaField) (s : CStr) : Mem StaField Nat UInt8 :=
  m.copyLoop StaField.addr field (fun _ i => s.val.getD i 0) (s.length + 1)

/-- The two loops. -/
def copyCredentials (config : WifiConfig) (ssid password : CStr) : Mem StaField Nat UInt8 :=
  copyField (copyField ⟨config.cells, []⟩ .ssid ssid) .password password

/-- What the two functions have in common, given the mode and the initialised configuration. -/
def wifiConfigure (mode : WifiCall) (config : WifiConfig) (answers : WifiAnswers)
    (ssid password : CStr) : Configured :=
  if answers.setMode then
    let m := copyCredentials config ssid password
    { calls := [mode, .setConfigSta { config with cells := m.cells }]
      writes := m.writes
      returned := answers.setConfig }
  else { calls := [mode], writes := [], returned := false }

/-- `wifi_sta_configure`. -/
def wifiStaConfigure : WifiAnswers → CStr → CStr → Configured :=
  wifiConfigure .setModeSta (unionInit staInit [])

/-- `wifi_apsta_configure`. -/
def wifiApstaConfigure : WifiAnswers → CStr → CStr → Configured :=
  wifiConfigure .setModeApsta (unionInit apInit [staInit])

/-- The configurations that were passed to `esp_wifi_set_config`. -/
def Configured.configs (c : Configured) : List WifiConfig :=
  c.calls.filterMap fun
    | .setConfigSta config => some config
    | _ => none

/-- The elements of a field. -/
def WifiConfig.field (c : WifiConfig) (field : StaField) : Bytes :=
  (List.range field.size).map fun i => c.cells (field.addr i)

/-! ## What the loops leave -/

/-- The loop reads nothing from the structure that it writes. -/
theorem unaffected_string (field : StaField) (s : CStr) :
    Unaffected StaField.addr field fun (_ : Nat → UInt8) i => s.val.getD i 0 := by
  intro c i b
  rfl

theorem addr_injective (field : StaField) : Function.Injective field.addr := by
  intro i j h
  cases field with
  | ssid => exact h
  | password => exact Nat.add_left_cancel h

/-- In a field of zeros, the loop leaves the string and zeros behind it. -/
theorem cells_copyField_addr {m : Mem StaField Nat UInt8} (field : StaField) {s : CStr} {i : Nat}
    (h : s.length < i → m.cells (field.addr i) = 0) :
    (copyField m field s).cells (field.addr i) = s.val.getD i 0 := by
  rcases Nat.lt_or_ge i (s.length + 1) with hlt | hge
  · exact Cells.cells_copyLoop (unaffected_string field s) (addr_injective field) hlt
  · rw [copyField, Cells.cells_copyLoop_of_ne, h hge, List.getD_eq_default _ _ (Nat.le_of_lt hge)]
    intro j hj heq
    have := addr_injective field heq
    omega

/-- Neither loop leaves something in the other field, apart from the terminator of an SSID that
fills its own, which the second loop writes over. -/
theorem cells_copyCredentials {config : WifiConfig} (hconfig : ∀ i, config.cells i = 0)
    {ssid : CStr} (password : CStr) (hssid : ssid.length ≤ 32) :
    (∀ i, i < 32 → (copyCredentials config ssid password).cells i = ssid.val.getD i 0) ∧
      ∀ i, (copyCredentials config ssid password).cells (32 + i) = password.val.getD i 0 := by
  constructor
  · intro i hi
    rw [copyCredentials, copyField, Cells.cells_copyLoop_of_ne]
    · exact cells_copyField_addr .ssid fun _ => hconfig i
    · intro j _ heq
      simp only [StaField.addr] at heq
      omega
  · intro i
    refine cells_copyField_addr .password fun hlt => ?_
    rw [copyField, Cells.cells_copyLoop_of_ne]
    · exact hconfig _
    · intro j hj heq
      simp only [StaField.addr] at heq
      omega

theorem writes_copyCredentials (config : WifiConfig) (ssid password : CStr) :
    (copyCredentials config ssid password).writes =
      (List.range (ssid.length + 1)).map (StaField.ssid, ·) ++
        (List.range (password.length + 1)).map (StaField.password, ·) := by
  simp [copyCredentials, copyField, Cells.writes_copyLoop]

/-- A string with zeros behind it. -/
theorem map_range_getD {s : Bytes} {n : Nat} (h : s.length ≤ n) :
    (List.range n).map (fun i => s.getD i 0) = s ++ List.replicate (n - s.length) 0 := by
  apply List.ext_getElem
  · simp
    omega
  · intro i hi _
    simp only [List.length_map, List.length_range] at hi
    simp only [List.getElem_map, List.getElem_range]
    rcases Nat.lt_or_ge i s.length with hlt | hge
    · rw [List.getElem_append_left hlt, List.getD_eq_getElem _ _ hlt]
    · rw [List.getElem_append_right hge, List.getD_eq_default _ _ hge, List.getElem_replicate]

/-- Both functions start from the same configuration, in which the two fields are zero: the second
initialiser of the union replaces the first. -/
theorem cells_staInit (i : Nat) : staInit.config.cells i = 0 := by
  have hempty : (lit "").val = [] := rfl
  simp [WifiInit.config, staInit, hempty]

/-! ## The two functions -/

/-- A configuration holds a string in a field, padded with zeros. -/
def WifiConfig.Holds (c : WifiConfig) (field : StaField) (s : CStr) : Prop :=
  c.field field = s.val ++ List.replicate (field.size - s.length) 0

theorem holds_of_cells {c : WifiConfig} {field : StaField} {s : CStr} (hlen : s.length ≤ field.size)
    (h : ∀ i, i < field.size → c.cells (field.addr i) = s.val.getD i 0) : c.Holds field s := by
  rw [WifiConfig.Holds, CStr.length, ← map_range_getD hlen]
  exact List.map_congr_left fun i hi => h i (List.mem_range.1 hi)

/-- A function passes a configuration on, unless `esp_wifi_set_mode` fails. -/
def Passes (configure : WifiAnswers → CStr → CStr → Configured) (ssid password : CStr)
    (c : WifiConfig) : Prop :=
  ∀ answers, (configure answers ssid password).configs = if answers.setMode then [c] else []

/-- The loops of a function write elements of their fields only. -/
def WritesWithin (configure : WifiAnswers → CStr → CStr → Configured) (ssid password : CStr) :
    Prop :=
  ∀ answers, ∀ w ∈ (configure answers ssid password).writes, w.2 < w.1.size

/-- Both functions pass the same configuration on, with the credentials in its fields, and their
loops stay in the fields. -/
structure CopiesExactly (ssid password : CStr) : Prop where
  config : ∃ c : WifiConfig, Passes wifiStaConfigure ssid password c ∧
    Passes wifiApstaConfigure ssid password c ∧ c.Holds .ssid ssid ∧ c.Holds .password password
  sta : WritesWithin wifiStaConfigure ssid password
  apsta : WritesWithin wifiApstaConfigure ssid password

/-- What is passed on is right for all credentials. -/
theorem station_config {ssid password : CStr} (hssid : ssid.length ≤ 32)
    (hpassword : password.length ≤ 63) :
    ∃ c : WifiConfig, Passes wifiStaConfigure ssid password c ∧
      Passes wifiApstaConfigure ssid password c ∧ c.Holds .ssid ssid ∧
      c.Holds .password password := by
  obtain ⟨hfirst, hsecond⟩ := cells_copyCredentials cells_staInit password hssid
  refine ⟨{ staInit.config with cells := (copyCredentials staInit.config ssid password).cells },
    ?_, ?_, ?_, ?_⟩
  · intro answers
    rw [wifiStaConfigure, wifiConfigure]
    split <;> rfl
  · intro answers
    rw [wifiApstaConfigure, wifiConfigure]
    split <;> rfl
  · exact holds_of_cells hssid hfirst
  · exact holds_of_cells (Nat.le_succ_of_le hpassword) fun i _ => hsecond i

/-- The loops stay in the fields when the strings leave room for their terminators. -/
theorem writesWithin_iff (mode : WifiCall) (config : WifiConfig) (ssid password : CStr) :
    WritesWithin (wifiConfigure mode config) ssid password ↔
      ssid.length < 32 ∧ password.length < 64 := by
  have hwrites : (∀ w ∈ (copyCredentials config ssid password).writes, w.2 < w.1.size) ↔
      ssid.length < 32 ∧ password.length < 64 := by
    rw [writes_copyCredentials, List.forall_mem_append, Cells.within_range_iff,
      Cells.within_range_iff]
    rfl
  rw [← hwrites]
  constructor
  · intro h
    exact h ⟨true, true⟩
  · intro h answers
    rw [wifiConfigure]
    split
    next => exact h
    next => exact nofun

/-- **The station's configuration.** Of the SSIDs that a network can have, those of 32 bytes, and
only they, make the loops write outside their fields; all else is as it was meant. -/
theorem station_configured_iff (ssid password : CStr) (hssid : ssid.length ≤ 32)
    (hpassword : password.length ≤ 63) : CopiesExactly ssid password ↔ ssid.length ≤ 31 := by
  constructor
  · intro h
    have hsta := ((writesWithin_iff _ _ ssid password).1 h.sta).1
    omega
  · intro h
    have hroom : ssid.length < 32 ∧ password.length < 64 := by omega
    exact ⟨station_config hssid hpassword, (writesWithin_iff ..).2 hroom,
      (writesWithin_iff ..).2 hroom⟩

theorem station_configured_home :
    ((lit "home").length ≤ 32 ∧ (lit "secret").length ≤ 63) ∧
      CopiesExactly (lit "home") (lit "secret") := by
  have hssid : (lit "home").length ≤ 32 := by decide
  have hpassword : (lit "secret").length ≤ 63 := by decide
  exact ⟨⟨hssid, hpassword⟩, (station_configured_iff _ _ hssid hpassword).2 (by decide)⟩

/-- An SSID of 32 bytes: its terminator is written to `ssid[32]`. -/
theorem long_ssid_leaves_field :
    let ssid := lit "abcdefghijklmnopqrstuvwxyz012345"
    (ssid.length ≤ 32 ∧ (lit "secret").length ≤ 63) ∧ ¬ CopiesExactly ssid (lit "secret") := by
  intro ssid
  refine ⟨⟨by decide, by decide⟩, fun h => ?_⟩
  have hlt := ((writesWithin_iff _ _ ssid (lit "secret")).1 h.sta).1
  exact absurd hlt (by decide)

end Esp32Iot
