import Esp32Iot.Cayenne
import Esp32Iot.Storage.Settings

/-!
# Connecting, and what a boot makes of it

The parts of `WiFi/esp32iot_wifi.c` that read and write the settings: `wifi_event_handler` at
`SYSTEM_EVENT_STA_CONNECTED` and `SYSTEM_EVENT_STA_GOT_IP`, and `wifi_start`.

Three round trips through the store go wrong at their borders, and each has its exact condition
here. A network is saved under its SSID, which the store takes only up to 15 characters
(`staConnected_getWifi_iff`). A network without a password is accepted when it is set up and not
when the device boots (`staConnected_wifiStart_iff`). And a missing account field leaves the local
array of the handler as it was (`staGotIp_decides_iff`).
-/

namespace Esp32Iot

open CStr (lit)
open Halting (bind_of_ok bind_of_error)

/-- `wifi_evidence_t`: the strings in `ssid[33]` and `password[64]`. -/
structure WifiEvidence where
  ssid : CStr
  password : CStr
  ssid_lt : ssid.length < 33
  password_lt : password.length < 64
  deriving DecidableEq

/-- `actual_wifi` before anything is written to it. -/
def WifiEvidence.zeroed : WifiEvidence := ⟨lit "", lit "", by decide, by decide⟩

/-- A network that can be set up: its SSID has 1 to 32 bytes. -/
structure Network extends WifiEvidence where
  ssid_pos : 1 ≤ ssid.length
  deriving DecidableEq

/-! ## The handler and the boot -/

/-- `wifi_event_handler` at `SYSTEM_EVENT_STA_CONNECTED`. -/
def staConnected (actualWifi : WifiEvidence) : Nvs Unit := do
  saveLastConnectedWifi actualWifi.ssid actualWifi.password
  saveWifi actualWifi.ssid actualWifi.password

/-- What `wifi_start` configures. -/
inductive WifiStart
  | staConfigure (ssid password : CStr)
  | apConfigure
  deriving DecidableEq

/-- `wifi_start`, on the arrays of `actual_wifi`. -/
def wifiStart (ssid : CharArray 33) (password : CharArray 64) : Nvs WifiStart := do
  let (ssid, password) ← getLastConnectedWifi ssid password
  if ssid.nonEmpty && password.nonEmpty then
    match ssid.read, password.read with
    | some ssid, some password => pure (.staConfigure ssid password)
    | _, _ => throw .overrun
  else pure .apConfigure

/-- The local arrays of `wifi_event_handler` at `SYSTEM_EVENT_STA_GOT_IP`, with what the stack held
before. -/
structure GotIpStack where
  username : CharArray 100
  password : CharArray 100
  clientID : CharArray 100
  deriving DecidableEq

/-- The test on the three arrays, and the arguments of `CayenneInit` when it is passed. -/
def initArguments (username password clientID : CharArray 100) :
    Nvs (Option (CStr × CStr × CStr)) :=
  if username.nonEmpty && password.nonEmpty && clientID.nonEmpty then
    match username.read, password.read, clientID.read with
    | some username, some password, some clientID => pure (some (username, password, clientID))
    | _, _, _ => throw .overrun
  else pure none

/-- `wifi_event_handler` at `SYSTEM_EVENT_STA_GOT_IP`, up to `CayenneInit`: its arguments, if it is
called. -/
def staGotIp (stack : GotIpStack) : Nvs (Option (CStr × CStr × CStr)) := do
  let (username, password, clientID) ←
    getLastConnectedMqtt stack.username stack.password stack.clientID
  initArguments username password clientID

/-! ## Saving a network -/

/-- The handler on a store at rest: the last network first, then the network itself. -/
theorem staConnected_ofContents (c : Contents) (e : WifiEvidence)
    (hssid : e.ssid.length ≤ maxKeyLength) :
    staConnected e (.ofContents c) = .ok () (.ofContents
      ((c.setAll [(lastSsidKey, e.ssid), (lastPasswordKey, e.password)]).setAll
        [(e.ssid, e.password)])) := by
  rw [staConnected, bind_of_ok (saveLastConnectedWifi_ofContents c e.ssid e.password)]
  exact saveWifi_ofContents _ hssid e.password

/-- An SSID that the store does not take as a key: the last network is saved, and the device
reboots. -/
theorem staConnected_tooLong (c : Contents) (e : WifiEvidence)
    (hssid : maxKeyLength < e.ssid.length) :
    staConnected e (.ofContents c) = .error (.aborted .keyTooLong) (.ofContents
      (c.setAll [(lastSsidKey, e.ssid), (lastPasswordKey, e.password)])) := by
  rw [staConnected, bind_of_ok (saveLastConnectedWifi_ofContents c e.ssid e.password)]
  exact saveRecord_tooLong _ hssid

/-- An entry that fits its array is delivered and read back. -/
theorem deliver_some {n : Nat} (tmp : Option Nat) (out : CharArray n) {s : CStr}
    (hs : s.length < n) (htmp : ∀ size ∈ tmp, s.length < size) :
    ∃ out', deliver tmp out (some s) = some out' ∧ out'.read = some s ∧
      out'.nonEmpty = s.nonEmpty := by
  obtain ⟨out', hout'⟩ := Option.isSome_iff_exists.1 (CharArray.strcpy_isSome_iff (a := out).2 hs)
  refine ⟨out', ?_, CharArray.read_of_strcpy hout', CharArray.nonEmpty_of_strcpy hout'⟩
  cases tmp with
  | none => exact hout'
  | some size => rw [deliver, if_pos (htmp size rfl), hout']

/-- **Saving a network works exactly up to 15 characters.** Handling the event for a network ends
without a reboot, and its password can then be read back, if and only if its SSID is no longer than
a key of the store. -/
theorem staConnected_getWifi_iff (c : Contents) (e : Network) (out : CharArray 64) :
    (∃ c', staConnected e.toWifiEvidence (.ofContents c) = .ok () (.ofContents c') ∧
      ∃ out', getWifi e.ssid out (.ofContents c') = .ok out' (.ofContents c') ∧
        out'.read = some e.password) ↔ e.ssid.length ≤ maxKeyLength := by
  constructor
  · rintro ⟨c', hrun, -⟩
    refine Nat.not_lt.1 fun hlong => ?_
    rw [staConnected_tooLong c _ hlong] at hrun
    cases hrun
  · intro hssid
    refine ⟨_, staConnected_ofContents c _ hssid, ?_⟩
    obtain ⟨out', hout', hread, -⟩ := deliver_some (some 64) out e.password_lt
      fun size hsize => by cases hsize; exact e.password_lt
    refine ⟨out', ?_, hread⟩
    rw [getWifi_ofContents _ hssid, Contents.setAll_str_of_mem (by simp) (.head _), hout']
    rfl

/-- The network `Guest WiFi 2.4GHz` of 17 characters reboots the device that connects to it. -/
def guestWifi : Network where
  ssid := lit "Guest WiFi 2.4GHz"
  password := lit "welcome1"
  ssid_lt := by decide
  password_lt := by decide
  ssid_pos := by decide

theorem staConnected_reboots :
    staConnected guestWifi.toWifiEvidence (.ofContents .erased) =
        .error (.aborted .keyTooLong) (.ofContents (Contents.erased.setAll
          [(lastSsidKey, guestWifi.ssid), (lastPasswordKey, guestWifi.password)])) ∧
      ¬ ∃ c', staConnected guestWifi.toWifiEvidence (.ofContents .erased) =
        .ok () (.ofContents c') := by
  have hlong : maxKeyLength < guestWifi.ssid.length := by decide
  have hrun := staConnected_tooLong .erased guestWifi.toWifiEvidence hlong
  refine ⟨hrun, ?_⟩
  rintro ⟨c', hc'⟩
  rw [hrun] at hc'
  cases hc'

/-! ## The network of the next boot -/

/-- `wifi_start` from zeroed arrays on a store at rest that has both strings of the last network. -/
theorem wifiStart_ofContents {c : Contents} {ssid password : CStr}
    (hs : c.str lastSsidKey = some ssid) (hp : c.str lastPasswordKey = some password)
    (hpl : password.length < 64) :
    wifiStart (.fill 33 0) (.fill 64 0) (.ofContents c) =
      if ssid.length < 33 then
        .ok (if ssid.nonEmpty && password.nonEmpty then .staConfigure ssid password
          else .apConfigure) (.ofContents c)
      else .error .overrun (.ofContents c) := by
  have hget := getLastConnectedWifi_ofContents c (.fill 33 0) (.fill 64 0)
  rw [hs, hp] at hget
  by_cases hsl : ssid.length < 33
  · obtain ⟨out, hout, hread, hne⟩ := deliver_some (some 33) (.fill 33 0) hsl
      fun size hsize => by cases hsize; exact hsl
    obtain ⟨out', hout', hread', hne'⟩ := deliver_some (some 64) (.fill 64 0) hpl
      fun size hsize => by cases hsize; exact hpl
    rw [hout, hout'] at hget
    rw [if_pos hsl, wifiStart, bind_of_ok hget]
    simp only [hne, hne', hread, hread']
    split <;> rfl
  · have hnone : deliver (some 33) (CharArray.fill 33 0) (some ssid) = none := if_neg hsl
    rw [hnone] at hget
    rw [if_neg hsl, wifiStart, bind_of_error hget]

/-- The strings of the last network after its event: a network called `last_ssid` is saved over
the SSID. -/
theorem staConnected_lastKeys (c : Contents) (e : WifiEvidence) :
    (Halting.final (staConnected e (.ofContents c))).durable.str lastSsidKey =
        some (if e.ssid = lastSsidKey then e.password else e.ssid) ∧
      (Halting.final (staConnected e (.ofContents c))).durable.str lastPasswordKey =
        some e.password := by
  have hs : (c.setAll [(lastSsidKey, e.ssid), (lastPasswordKey, e.password)]).str lastSsidKey =
      some e.ssid := Contents.setAll_str_of_mem lastKeys_nodup (.head _)
  have hp : (c.setAll [(lastSsidKey, e.ssid), (lastPasswordKey, e.password)]).str lastPasswordKey =
      some e.password := Contents.setAll_str_of_mem lastKeys_nodup (.tail _ (.head _))
  by_cases hlong : maxKeyLength < e.ssid.length
  · have hne : e.ssid ≠ lastSsidKey := by
      intro heq
      rw [heq] at hlong
      exact absurd hlong (by decide)
    rw [staConnected_tooLong c e hlong, if_neg hne]
    exact ⟨hs, hp⟩
  · rw [staConnected_ofContents c e (Nat.not_lt.1 hlong)]
    constructor
    · by_cases heq : e.ssid = lastSsidKey
      · rw [if_pos heq, heq]
        exact Contents.setAll_str_of_mem (by simp) (.head _)
      · rw [if_neg heq, ← hs]
        exact Contents.setAll_str_of_notMem (by simpa using Ne.symm heq)
    · by_cases heq : e.ssid = lastPasswordKey
      · rw [heq]
        exact Contents.setAll_str_of_mem (by simp) (.head _)
      · rw [← hp]
        exact Contents.setAll_str_of_notMem (by simpa using Ne.symm heq)

/-- **The last network is used again exactly when it has a password.** After the event of a network
was handled and while the keys of the last network stay as they are, the next boot starts that
network if and only if its password is not empty (and the network is not called `last_ssid`, unless
its password is the same). -/
theorem staConnected_wifiStart_iff (c c' : Contents) (e : Network)
    (hkeys : ∀ key ∈ lastKeys, c'.str key =
      (Halting.final (staConnected e.toWifiEvidence (.ofContents c))).durable.str key) :
    wifiStart (.fill 33 0) (.fill 64 0) (.ofContents c') =
        .ok (.staConfigure e.ssid e.password) (.ofContents c') ↔
      e.password ≠ lit "" ∧ (e.ssid = lastSsidKey → e.password = lastSsidKey) := by
  obtain ⟨hs, hp⟩ := staConnected_lastKeys c e.toWifiEvidence
  rw [← hkeys lastSsidKey (by simp [lastKeys])] at hs
  rw [← hkeys lastPasswordKey (by simp [lastKeys])] at hp
  have hssid : e.ssid.nonEmpty = true := by
    rw [CStr.nonEmpty_iff, ← List.length_pos_iff]
    exact e.ssid_pos
  have hpw : e.password ≠ lit "" ↔ e.password.nonEmpty = true := by simp [CStr.nonEmpty]
  rw [wifiStart_ofContents hs hp e.password_lt]
  by_cases heq : e.ssid = lastSsidKey
  · -- the password stands where the SSID is read
    rw [if_pos heq, Bool.and_self, hpw]
    constructor
    · intro h
      split at h
      · cases hne : e.password.nonEmpty with
        | false => rw [hne] at h; cases h
        | true =>
            rw [hne] at h
            injection h with h
            injection h with hsame
            exact ⟨rfl, fun _ => hsame.trans heq⟩
      · cases h
    · rintro ⟨hne, hsame⟩
      have hpass : e.password = e.ssid := (hsame heq).trans heq.symm
      rw [if_pos (hpass ▸ e.ssid_lt), hne, if_pos rfl, ← hpass]
  · rw [if_neg heq, if_pos e.ssid_lt, hssid, hpw]
    cases e.password.nonEmpty <;> simp [heq]

/-- At a network with a password. -/
theorem staConnected_wifiStart_guestWifi :
    let c' := (Halting.final
      (staConnected guestWifi.toWifiEvidence (.ofContents .erased))).durable
    wifiStart (.fill 33 0) (.fill 64 0) (.ofContents c') =
      .ok (.staConfigure (lit "Guest WiFi 2.4GHz") (lit "welcome1")) (.ofContents c') :=
  (staConnected_wifiStart_iff .erased _ guestWifi fun _ _ => rfl).2
    ⟨by decide +kernel, fun h => absurd h (by decide +kernel)⟩

/-- An open network. -/
def cafe : Network where
  ssid := lit "cafe"
  password := lit ""
  ssid_lt := by decide
  password_lt := by decide
  ssid_pos := by decide

/-- The event of the open network is handled, and the next boot starts the access point. -/
theorem openNetwork_forgotten :
    let c' := (Halting.final (staConnected cafe.toWifiEvidence (.ofContents .erased))).durable
    (∀ key ∈ lastKeys, c'.str key =
        (Halting.final (staConnected cafe.toWifiEvidence (.ofContents .erased))).durable.str key) ∧
      wifiStart (.fill 33 0) (.fill 64 0) (.ofContents c') = .ok .apConfigure (.ofContents c') ∧
      wifiStart (.fill 33 0) (.fill 64 0) (.ofContents c') ≠
        .ok (.staConfigure cafe.ssid cafe.password) (.ofContents c') := by
  obtain ⟨hs, hp⟩ := staConnected_lastKeys .erased cafe.toWifiEvidence
  rw [if_neg (by decide +kernel)] at hs
  have hne : cafe.password.nonEmpty = false := by decide
  have hboot := wifiStart_ofContents hs hp cafe.password_lt
  rw [if_pos cafe.ssid_lt, hne, Bool.and_false] at hboot
  exact ⟨fun _ _ => rfl, hboot, fun h => by rw [hboot] at h; cases h⟩

/-! ## The account of the next connection -/

/-- The stored account: all three strings are there and not empty. -/
def storedAccount (c : Contents) : Option (CStr × CStr × CStr) :=
  match c.str mqttUserKey, c.str mqttPassKey, c.str mqttIdKey with
  | some username, some password, some clientID =>
      if username.nonEmpty && password.nonEmpty && clientID.nonEmpty then
        some (username, password, clientID)
      else none
  | _, _, _ => none

theorem storedAccount_of_empty {c : Contents} {key : CStr} (hkey : key ∈ mqttKeys)
    (hempty : c.str key = some (lit "")) : storedAccount c = none := by
  have hnil : (lit "").nonEmpty = false := by decide
  simp only [mqttKeys, List.mem_cons, List.not_mem_nil, or_false] at hkey
  unfold storedAccount
  split
  · next hu hp hi =>
      rcases hkey with rfl | rfl | rfl <;> simp_all
  · rfl

/-- Every stored string of the account fits the arrays of the handler. -/
def AccountFits (c : Contents) : Prop := ∀ key ∈ mqttKeys, ∀ s ∈ c.str key, s.length < 100

instance (c : Contents) : Decidable (AccountFits c) :=
  inferInstanceAs (Decidable (∀ key ∈ mqttKeys, ∀ s ∈ c.str key, s.length < 100))

theorem deliver_none_eq {n : Nat} {out : CharArray n} {entry : Option CStr}
    (hfit : ∀ s ∈ entry, s.length < n) : deliver none out entry = some (put out entry) :=
  deliver_eq_put hfit fun _ _ _ h => by cases h

/-- `get_last_connected_mqtt` on a store at rest, when every stored string fits. -/
theorem getLastConnectedMqtt_of_fits {c : Contents} (hfit : AccountFits c)
    (username password clientID : CharArray 100) :
    getLastConnectedMqtt username password clientID (.ofContents c) =
      .ok (put username (c.str mqttUserKey), put password (c.str mqttPassKey),
        put clientID (c.str mqttIdKey)) (.ofContents c) := by
  rw [getLastConnectedMqtt_ofContents, deliver_none_eq (hfit mqttUserKey (by simp [mqttKeys])),
    deliver_none_eq (hfit mqttPassKey (by simp [mqttKeys])),
    deliver_none_eq (hfit mqttIdKey (by simp [mqttKeys]))]
  rfl

/-- The handler on a store at rest, when every stored string fits. -/
theorem staGotIp_of_fits {c : Contents} (hfit : AccountFits c) (stack : GotIpStack) :
    staGotIp stack (.ofContents c) =
      initArguments (put stack.username (c.str mqttUserKey))
        (put stack.password (c.str mqttPassKey)) (put stack.clientID (c.str mqttIdKey))
        (.ofContents c) :=
  bind_of_ok (getLastConnectedMqtt_of_fits hfit _ _ _) _

/-- A handler that ends has found strings that fit. -/
theorem accountFits_of_ok {c : Contents} {stack : GotIpStack} {f : Flash}
    {o : Option (CStr × CStr × CStr)} (h : staGotIp stack (.ofContents c) = .ok o f) :
    AccountFits c := by
  have hget := getLastConnectedMqtt_ofContents c stack.username stack.password stack.clientID
  have hfits : ∀ {out out' : CharArray 100} {entry : Option CStr},
      deliver none out entry = some out' → ∀ s ∈ entry, s.length < 100 := by
    rintro out out' entry hout s rfl
    exact CharArray.strcpy_isSome_iff.1 (Option.isSome_of_eq_some hout)
  cases hu : deliver none stack.username (c.str mqttUserKey) with
  | none => rw [hu] at hget; rw [staGotIp, bind_of_error hget] at h; cases h
  | some u =>
      cases hp : deliver none stack.password (c.str mqttPassKey) with
      | none => rw [hu, hp] at hget; rw [staGotIp, bind_of_error hget] at h; cases h
      | some p =>
          cases hi : deliver none stack.clientID (c.str mqttIdKey) with
          | none => rw [hu, hp, hi] at hget; rw [staGotIp, bind_of_error hget] at h; cases h
          | some i =>
              intro key hkey
              simp only [mqttKeys, List.mem_cons, List.not_mem_nil, or_false] at hkey
              rcases hkey with rfl | rfl | rfl
              · exact hfits hu
              · exact hfits hp
              · exact hfits hi

section
variable {n : Nat} {out : CharArray n} {s : CStr}

theorem read_put_some (hs : s.length < n) : (put out (some s)).read = some s := by
  obtain ⟨out', hout'⟩ := Option.isSome_iff_exists.1 (CharArray.strcpy_isSome_iff (a := out).2 hs)
  rw [put, hout']
  exact CharArray.read_of_strcpy hout'

theorem nonEmpty_put_some (hs : s.length < n) : (put out (some s)).nonEmpty = s.nonEmpty := by
  obtain ⟨out', hout'⟩ := Option.isSome_iff_exists.1 (CharArray.strcpy_isSome_iff (a := out).2 hs)
  rw [put, hout']
  exact CharArray.nonEmpty_of_strcpy hout'

end

/-- An array in which an earlier call left the string `x`. -/
def leftover : CharArray 100 := ⟨byte 'x' :: List.replicate 99 0, rfl⟩

/-- A field that is absent, or stored and not empty, passes the test of the handler on that
array. -/
theorem put_leftover {entry : Option CStr} (hfit : ∀ s ∈ entry, s.length < 100)
    (hne : entry ≠ some (lit "")) :
    (put leftover entry).nonEmpty = true ∧ ∃ t, (put leftover entry).read = some t := by
  cases entry with
  | none => exact ⟨by decide, lit "x", by decide +kernel⟩
  | some s =>
      have hs : s.length < 100 := hfit s rfl
      refine ⟨?_, s, read_put_some hs⟩
      rw [nonEmpty_put_some hs]
      simpa [CStr.nonEmpty] using hne

/-- **The decision depends on the store alone exactly when no field is missing.** For every content
of the local arrays the handler calls `CayenneInit` with the stored account, and only if there is
one, if and only if every stored string fits the arrays and either all three are stored or one that
is stored is empty. -/
theorem staGotIp_decides_iff (c : Contents) :
    (∀ stack, staGotIp stack (.ofContents c) = .ok (storedAccount c) (.ofContents c)) ↔
      AccountFits c ∧ ((∀ key ∈ mqttKeys, (c.str key).isSome) ∨
        ∃ key ∈ mqttKeys, c.str key = some (lit "")) := by
  have hmem : mqttUserKey ∈ mqttKeys ∧ mqttPassKey ∈ mqttKeys ∧ mqttIdKey ∈ mqttKeys := by
    simp [mqttKeys]
  constructor
  · intro h
    have hfit := accountFits_of_ok (h ⟨leftover, leftover, leftover⟩)
    refine ⟨hfit, ?_⟩
    by_contra hmissing
    rw [not_or] at hmissing
    obtain ⟨habsent, hempty⟩ := hmissing
    have hfield : ∀ key ∈ mqttKeys, (put leftover (c.str key)).nonEmpty = true ∧
        ∃ t, (put leftover (c.str key)).read = some t :=
      fun key hkey => put_leftover (hfit key hkey) fun h => hempty ⟨key, hkey, h⟩
    obtain ⟨hu, u, hru⟩ := hfield _ hmem.1
    obtain ⟨hp, p, hrp⟩ := hfield _ hmem.2.1
    obtain ⟨hi, i, hri⟩ := hfield _ hmem.2.2
    -- the handler connects with what the arrays held, and there is no account
    have hrun := h ⟨leftover, leftover, leftover⟩
    rw [staGotIp_of_fits hfit] at hrun
    simp only [initArguments, hu, hp, hi, hru, hrp, hri, Bool.and_self, if_true] at hrun
    injection hrun with hsome
    refine habsent fun key hkey => ?_
    simp only [mqttKeys, List.mem_cons, List.not_mem_nil, or_false] at hkey
    unfold storedAccount at hsome
    split at hsome
    · next hu hp hi => rcases hkey with rfl | rfl | rfl <;> simp [hu, hp, hi]
    · cases hsome
  · rintro ⟨hfit, hall | ⟨key, hkey, hempty⟩⟩ stack
    · obtain ⟨u, hu⟩ := Option.isSome_iff_exists.1 (hall _ hmem.1)
      obtain ⟨p, hp⟩ := Option.isSome_iff_exists.1 (hall _ hmem.2.1)
      obtain ⟨i, hi⟩ := Option.isSome_iff_exists.1 (hall _ hmem.2.2)
      have hul := hfit _ hmem.1 u hu
      have hpl := hfit _ hmem.2.1 p hp
      have hil := hfit _ hmem.2.2 i hi
      rw [staGotIp_of_fits hfit, storedAccount, hu, hp, hi, initArguments]
      simp only [nonEmpty_put_some, read_put_some, hul, hpl, hil]
      split <;> rfl
    · have hnil : ∀ out : CharArray 100, (put out (some (lit ""))).nonEmpty = false :=
        fun out => nonEmpty_put_some (by decide)
      rw [staGotIp_of_fits hfit, initArguments]
      simp only [mqttKeys, List.mem_cons, List.not_mem_nil, or_false] at hkey
      rcases hkey with rfl | rfl | rfl <;>
        simp [storedAccount_of_empty (by simp [mqttKeys]) hempty, hempty, hnil] <;> rfl

/-- A device whose store has a user name and a password and no client ID. -/
def noClientID : Contents :=
  Contents.erased.setAll [(mqttUserKey, lit "alice"), (mqttPassKey, lit "secret")]

/-- It connects with the client ID that an earlier call left on the stack, and does not connect
when the stack is zero. -/
theorem staGotIp_stale_clientID :
    storedAccount noClientID = none ∧
      staGotIp ⟨leftover, leftover, leftover⟩ (.ofContents noClientID) =
        .ok (some (lit "alice", lit "secret", lit "x")) (.ofContents noClientID) ∧
      staGotIp ⟨.fill 100 0, .fill 100 0, .fill 100 0⟩ (.ofContents noClientID) =
        .ok none (.ofContents noClientID) := by
  have hfit : AccountFits noClientID := by decide +kernel
  refine ⟨by decide +kernel, ?_, ?_⟩
  · rw [staGotIp_of_fits hfit]
    rfl
  · rw [staGotIp_of_fits hfit]
    rfl

end Esp32Iot
