import Esp32Iot.Lib.Runs
import Esp32Iot.Storage.Settings

/-!
# The store as four records

What the storage functions are for: a password for each network, the network that was connected
last, the Cayenne account that was connected last and the number of restarts, four records that
have nothing to do with each other (`Store`). The functions keep all strings of these records in
one namespace, and a network is kept under its SSID, so a network whose SSID is one of the fixed
keys is written over a field of another record.

`storage_refines_records` is the forward simulation of the storage functions by the four records,
for every sequence of calls that uses no such network and reads back no string that is longer than
the arrays of the getters; `lastSsid_overwritten` is a sequence that loses the last network.
-/

namespace Esp32Iot

open CStr (lit)
open Halting (bind_of_ok)

/-- An SSID that can be a key of the store. -/
@[ext] structure ShortSsid where
  str : CStr
  pos : 1 ≤ str.length
  short : str.length ≤ maxKeyLength
  deriving DecidableEq

/-! ## The calls -/

/-- A call of a storage function, with the arrays a getter is given. -/
inductive Call
  | saveWifi (ssid : ShortSsid) (password : CStr)
  | getWifi (ssid : ShortSsid) (password : CharArray 64)
  | saveLastConnectedWifi (ssid : ShortSsid) (password : CStr)
  | getLastConnectedWifi (ssid : CharArray 33) (password : CharArray 64)
  | saveLastConnectedMqtt (username password clientID : CStr)
  | getLastConnectedMqtt (username password clientID : CharArray 100)
  | saveRestartCounter
  | getRestartCounter
  | resetRestartCounter
  | eraseStorage

/-- What the caller sees of a call that returns `ESP_OK`: the arrays after a getter. -/
inductive Output
  | done
  | wifi (password : CharArray 64)
  | last (ssid : CharArray 33) (password : CharArray 64)
  | mqtt (username password clientID : CharArray 100)
  | restarts (counter : Int32)
  deriving DecidableEq

/-- Run a call. -/
def Call.run : Call → Nvs Output
  | .saveWifi ssid password => do Esp32Iot.saveWifi ssid.str password; pure .done
  | .getWifi ssid password => do pure (.wifi (← Esp32Iot.getWifi ssid.str password))
  | .saveLastConnectedWifi ssid password => do
      Esp32Iot.saveLastConnectedWifi ssid.str password; pure .done
  | .getLastConnectedWifi ssid password => do
      let (ssid, password) ← Esp32Iot.getLastConnectedWifi ssid password
      pure (.last ssid password)
  | .saveLastConnectedMqtt username password clientID => do
      Esp32Iot.saveLastConnectedMqtt username password clientID; pure .done
  | .getLastConnectedMqtt username password clientID => do
      let (username, password, clientID) ←
        Esp32Iot.getLastConnectedMqtt username password clientID
      pure (.mqtt username password clientID)
  | .saveRestartCounter => do Esp32Iot.saveRestartCounter; pure .done
  | .getRestartCounter => do pure (.restarts (← Esp32Iot.getRestartCounter))
  | .resetRestartCounter => do Esp32Iot.resetRestartCounter; pure .done
  | .eraseStorage => do Esp32Iot.eraseStorage; pure .done

/-- One call as a step of the store; a call that halts has no next step. -/
def storageStep (f : Flash) (call : Call) : Option (Output × Flash) :=
  match call.run f with
  | .ok o f' => some (o, f')
  | .error _ _ => none

/-! ## The records -/

/-- The four records. -/
structure Store where
  wifi : ShortSsid → Option CStr
  last : Option (ShortSsid × CStr)
  mqtt : Option (CStr × CStr × CStr)
  restarts : Int32

namespace Store

/-- The records of a new device. -/
def empty : Store := ⟨fun _ => none, none, none, 0⟩

/-- What a call does to the records: a save replaces one of them, a getter delivers one of them and
leaves its arrays as they are when there is none. -/
def apply (t : Store) : Call → Output × Store
  | .saveWifi ssid password =>
      (.done, { t with wifi := Function.update t.wifi ssid (some password) })
  | .getWifi ssid password => (.wifi (put password (t.wifi ssid)), t)
  | .saveLastConnectedWifi ssid password => (.done, { t with last := some (ssid, password) })
  | .getLastConnectedWifi ssid password =>
      (.last (put ssid (t.last.map (·.1.str))) (put password (t.last.map (·.2))), t)
  | .saveLastConnectedMqtt username password clientID =>
      (.done, { t with mqtt := some (username, password, clientID) })
  | .getLastConnectedMqtt username password clientID =>
      (.mqtt (put username (t.mqtt.map (·.1))) (put password (t.mqtt.map (·.2.1)))
        (put clientID (t.mqtt.map (·.2.2))), t)
  | .saveRestartCounter => (.done, { t with restarts := t.restarts + 1 })
  | .getRestartCounter => (.restarts t.restarts, t)
  | .resetRestartCounter => (.done, { t with restarts := 0 })
  | .eraseStorage => (.done, { t with wifi := fun _ => none, last := none, mqtt := none })

/-- The call names no network after a fixed key, and what it reads back fits its arrays. -/
def Separate (t : Store) : Call → Prop
  | .saveWifi ssid _ => ssid.str ∉ fixedKeys
  | .getWifi ssid _ => ssid.str ∉ fixedKeys ∧ ∀ password ∈ t.wifi ssid, password.length < 64
  | .getLastConnectedWifi _ _ => ∀ r ∈ t.last, r.2.length < 64
  | .getLastConnectedMqtt _ _ _ =>
      ∀ r ∈ t.mqtt, r.1.length < 100 ∧ r.2.1.length < 100 ∧ r.2.2.length < 100
  | _ => True

end Store

/-! ## The records in the store -/

/-- The store holds the four records, each under its own keys. -/
structure Holds (c : Contents) (t : Store) : Prop where
  wifi : ∀ ssid : ShortSsid, ssid.str ∉ fixedKeys → c.str ssid.str = t.wifi ssid
  lastSsid : c.str lastSsidKey = t.last.map (·.1.str)
  lastPassword : c.str lastPasswordKey = t.last.map (·.2)
  mqttUser : c.str mqttUserKey = t.mqtt.map (·.1)
  mqttPass : c.str mqttPassKey = t.mqtt.map (·.2.1)
  mqttId : c.str mqttIdKey = t.mqtt.map (·.2.2)
  restarts : (c.i32 restartCounterKey).getD 0 = t.restarts

theorem holds_empty : Holds .erased .empty := ⟨fun _ _ => rfl, rfl, rfl, rfl, rfl, rfl, rfl⟩

section
variable {c : Contents} {t : Store}

theorem Holds.saveWifi (h : Holds c t) {ssid : ShortSsid} (hssid : ssid.str ∉ fixedKeys)
    (password : CStr) :
    Holds (c.setAll [(ssid.str, password)])
      { t with wifi := Function.update t.wifi ssid (some password) } := by
  have hfixed : ∀ key ∈ fixedKeys, (c.setAll [(ssid.str, password)]).str key = c.str key := by
    intro key hkey
    refine Contents.setAll_str_of_notMem ?_
    simpa using fun heq : key = ssid.str => hssid (heq ▸ hkey)
  refine ⟨fun s hs => ?_, ?_, ?_, ?_, ?_, ?_, h.restarts⟩
  · by_cases heq : s = ssid
    · rw [heq, Contents.setAll_str_of_mem (by simp) (.head _)]
      exact (Function.update_self ssid (some password) t.wifi).symm
    · have hne : s.str ∉ [(ssid.str, password)].map (·.1) := by
        simpa using fun hs : s.str = ssid.str => heq (ShortSsid.ext hs)
      rw [Contents.setAll_str_of_notMem hne, h.wifi s hs]
      exact (Function.update_of_ne heq _ _).symm
  · exact (hfixed _ (by simp [fixedKeys, lastKeys, mqttKeys])).trans h.lastSsid
  · exact (hfixed _ (by simp [fixedKeys, lastKeys, mqttKeys])).trans h.lastPassword
  · exact (hfixed _ (by simp [fixedKeys, lastKeys, mqttKeys])).trans h.mqttUser
  · exact (hfixed _ (by simp [fixedKeys, lastKeys, mqttKeys])).trans h.mqttPass
  · exact (hfixed _ (by simp [fixedKeys, lastKeys, mqttKeys])).trans h.mqttId

/-- The networks after a record with fixed keys was written. -/
theorem Holds.wifi_setAll (h : Holds c t) {fields : List (CStr × CStr)}
    (hfixed : fields.map (·.1) ⊆ fixedKeys) {ssid : ShortSsid}
    (hssid : ssid.str ∉ fixedKeys) : (c.setAll fields).str ssid.str = t.wifi ssid := by
  rw [Contents.setAll_str_of_notMem fun hmem => hssid (hfixed hmem), h.wifi ssid hssid]

theorem Holds.saveLastConnectedWifi (h : Holds c t) (ssid : ShortSsid) (password : CStr) :
    Holds (c.setAll [(lastSsidKey, ssid.str), (lastPasswordKey, password)])
      { t with last := some (ssid, password) } := by
  have hmqtt : ∀ key ∈ mqttKeys,
      (c.setAll [(lastSsidKey, ssid.str), (lastPasswordKey, password)]).str key = c.str key :=
    fun key hkey => Contents.setAll_str_of_notMem (notMem_lastKeys_of_mem key hkey)
  refine ⟨fun s hs => ?_, ?_, ?_, ?_, ?_, ?_, h.restarts⟩
  · exact h.wifi_setAll (by simp [fixedKeys, lastKeys, mqttKeys]) hs
  · exact Contents.setAll_str_of_mem lastKeys_nodup (.head _)
  · exact Contents.setAll_str_of_mem lastKeys_nodup (.tail _ (.head _))
  · exact (hmqtt _ (by simp [mqttKeys])).trans h.mqttUser
  · exact (hmqtt _ (by simp [mqttKeys])).trans h.mqttPass
  · exact (hmqtt _ (by simp [mqttKeys])).trans h.mqttId

theorem Holds.saveLastConnectedMqtt (h : Holds c t) (username password clientID : CStr) :
    Holds (c.setAll [(mqttUserKey, username), (mqttPassKey, password), (mqttIdKey, clientID)])
      { t with mqtt := some (username, password, clientID) } := by
  have hlast : ∀ key ∈ lastKeys, (c.setAll [(mqttUserKey, username), (mqttPassKey, password),
      (mqttIdKey, clientID)]).str key = c.str key :=
    fun key hkey => Contents.setAll_str_of_notMem (notMem_mqttKeys_of_mem key hkey)
  refine ⟨fun s hs => ?_, ?_, ?_, ?_, ?_, ?_, h.restarts⟩
  · exact h.wifi_setAll (by simp [fixedKeys, lastKeys, mqttKeys]) hs
  · exact (hlast _ (by simp [lastKeys])).trans h.lastSsid
  · exact (hlast _ (by simp [lastKeys])).trans h.lastPassword
  · exact Contents.setAll_str_of_mem mqttKeys_nodup (.head _)
  · exact Contents.setAll_str_of_mem mqttKeys_nodup (.tail _ (.head _))
  · exact Contents.setAll_str_of_mem mqttKeys_nodup (.tail _ (.tail _ (.head _)))

theorem Holds.setRestarts (h : Holds c t) (counter : Int32) :
    Holds (c.setI32 restartCounterKey counter) { t with restarts := counter } :=
  ⟨h.wifi, h.lastSsid, h.lastPassword, h.mqttUser, h.mqttPass, h.mqttId,
    by simp [Contents.setI32]⟩

theorem Holds.eraseStorage (h : Holds c t) :
    Holds c.eraseStr { t with wifi := fun _ => none, last := none, mqtt := none } :=
  ⟨fun _ _ => rfl, rfl, rfl, rfl, rfl, rfl, h.restarts⟩

end

/-! ## The simulation -/

/-- The store at rest holds the four records. -/
def Represents (f : Flash) (t : Store) : Prop := ∃ c, f = .ofContents c ∧ Holds c t

/-- The step of a call that ends. -/
theorem storageStep_of_ok {call : Call} {f f' : Flash} {o : Output} (h : call.run f = .ok o f') :
    storageStep f call = some (o, f') := by
  rw [storageStep, h]

theorem storageStep_save {call : Call} {f f' : Flash} {x : Nvs Unit}
    (hcall : call.run = (do x; pure .done)) (h : x f = .ok () f') :
    storageStep f call = some (.done, f') :=
  storageStep_of_ok (by rw [hcall, bind_of_ok h]; rfl)

/-- An entry that is shorter than the arrays is delivered. -/
theorem deliver_field {n : Nat} {tmp : Option Nat} (out : CharArray n) {α : Type}
    {record : Option α} {field : α → CStr} (hfit : ∀ r ∈ record, (field r).length < n)
    (htmp : ∀ size ∈ tmp, n ≤ size) :
    deliver tmp out (record.map field) = some (put out (record.map field)) := by
  refine deliver_eq_put ?_ ?_
  · rintro found hfound
    obtain ⟨r, hr, rfl⟩ := Option.map_eq_some_iff.1 hfound
    exact hfit r hr
  · rintro found size hfound hsize
    obtain ⟨r, hr, rfl⟩ := Option.map_eq_some_iff.1 hfound
    exact Nat.lt_of_lt_of_le (hfit r hr) (htmp size hsize)

/-- **One call.** Every call that keeps the records apart does to the store what it does to the
records, and delivers the same. -/
theorem storageStep_simulates (f : Flash) (t : Store) (call : Call) (hrep : Represents f t)
    (hsep : t.Separate call) :
    ∃ f', storageStep f call = some ((t.apply call).1, f') ∧ Represents f' (t.apply call).2 := by
  obtain ⟨c, rfl, h⟩ := hrep
  cases call with
  | saveWifi ssid password =>
      have hrun := saveWifi_ofContents c ssid.short password
      exact ⟨_, storageStep_save rfl hrun, _, rfl, h.saveWifi hsep password⟩
  | getWifi ssid password =>
      have hrun := getWifi_ofContents c ssid.short password
      have hfit : deliver (some 64) password (t.wifi ssid) = some (put password (t.wifi ssid)) :=
        deliver_eq_put hsep.2 fun found size hfound hsize => by
          cases hsize; exact hsep.2 found hfound
      rw [h.wifi ssid hsep.1, hfit] at hrun
      exact ⟨_, storageStep_of_ok (bind_of_ok hrun _), c, rfl, h⟩
  | saveLastConnectedWifi ssid password =>
      have hrun := saveLastConnectedWifi_ofContents c ssid.str password
      exact ⟨_, storageStep_save rfl hrun, _, rfl, h.saveLastConnectedWifi ssid password⟩
  | getLastConnectedWifi ssid password =>
      have hrun := getLastConnectedWifi_ofContents c ssid password
      have hshort : ∀ r ∈ t.last, r.1.str.length < 33 := fun r _ =>
        Nat.lt_of_le_of_lt r.1.short (by decide)
      rw [h.lastSsid, h.lastPassword, deliver_field ssid hshort (by simp),
        deliver_field password hsep (by simp)] at hrun
      exact ⟨_, storageStep_of_ok (bind_of_ok hrun _), c, rfl, h⟩
  | saveLastConnectedMqtt username password clientID =>
      have hrun := saveLastConnectedMqtt_ofContents c username password clientID
      exact ⟨_, storageStep_save rfl hrun, _, rfl,
        h.saveLastConnectedMqtt username password clientID⟩
  | getLastConnectedMqtt username password clientID =>
      have hrun := getLastConnectedMqtt_ofContents c username password clientID
      rw [h.mqttUser, h.mqttPass, h.mqttId,
        deliver_field username (fun r hr => (hsep r hr).1) (by simp),
        deliver_field password (fun r hr => (hsep r hr).2.1) (by simp),
        deliver_field clientID (fun r hr => (hsep r hr).2.2) (by simp)] at hrun
      exact ⟨_, storageStep_of_ok (bind_of_ok hrun _), c, rfl, h⟩
  | saveRestartCounter =>
      have hrun := saveRestartCounter_ofContents c
      rw [h.restarts] at hrun
      exact ⟨_, storageStep_save rfl hrun, _, rfl, h.setRestarts _⟩
  | getRestartCounter =>
      have hrun := getRestartCounter_ofContents c
      rw [h.restarts] at hrun
      exact ⟨_, storageStep_of_ok (bind_of_ok hrun _), c, rfl, h⟩
  | resetRestartCounter =>
      exact ⟨_, storageStep_save rfl (resetRestartCounter_ofContents c), _, rfl, h.setRestarts 0⟩
  | eraseStorage =>
      exact ⟨_, storageStep_save rfl (eraseStorage_ofContents c), _, rfl, h.eraseStorage⟩

/-- **The store refines the four records.** Every sequence of calls on a new device that names no
network after a fixed key, and reads back nothing that is longer than its arrays, ends, delivers
what the four records deliver and leaves them in the store. -/
theorem storage_refines_records (calls : List Call)
    (hsep : Runs.AlongSpec Store.apply Store.Separate .empty calls) :
    ∃ f, Runs.exec storageStep (.ofContents .erased) calls =
        some ((Runs.outputs Store.apply .empty calls).1, f) ∧
      Represents f (Runs.outputs Store.apply .empty calls).2 :=
  Runs.exec_simulates storageStep_simulates ⟨_, rfl, holds_empty⟩ hsep

/-- A network, and its password, saved as the last one and for itself, then read back. -/
def saveAndRead (network : ShortSsid) : List Call :=
  [.saveLastConnectedWifi ⟨lit "home", by decide, by decide⟩ (lit "secret"),
    .saveWifi network (lit "pw"),
    .getLastConnectedWifi (.fill 33 0) (.fill 64 0)]

/-- The network `cafe` does not touch the record of the last network. -/
theorem storage_refines_records_cafe :
    let calls := saveAndRead ⟨lit "cafe", by decide, by decide⟩
    Runs.AlongSpec Store.apply Store.Separate .empty calls ∧
      ∃ f, Runs.exec storageStep (.ofContents .erased) calls =
          some ((Runs.outputs Store.apply .empty calls).1, f) ∧
        Represents f (Runs.outputs Store.apply .empty calls).2 := by
  have hsep : Runs.AlongSpec Store.apply Store.Separate .empty
      (saveAndRead ⟨lit "cafe", by decide, by decide⟩) := by
    refine ⟨trivial, ?_, ?_, trivial⟩
    · show lit "cafe" ∉ fixedKeys
      decide +kernel
    · rintro r hr
      cases hr
      decide +kernel
  exact ⟨hsep, storage_refines_records _ hsep⟩

/-- The network `last_ssid` is written over the SSID of the last network: the getter delivers its
password in the place of the SSID `home`. -/
theorem lastSsid_overwritten :
    let calls := saveAndRead ⟨lit "last_ssid", by decide, by decide⟩
    (Runs.exec storageStep (.ofContents .erased) calls).map (·.1) =
        some [.done, .done, .last (put (.fill 33 0) (lit "pw")) (put (.fill 64 0) (lit "secret"))] ∧
      (Runs.outputs Store.apply .empty calls).1 =
        [.done, .done, .last (put (.fill 33 0) (lit "home")) (put (.fill 64 0) (lit "secret"))] ∧
      (Runs.exec storageStep (.ofContents .erased) calls).map (·.1) ≠
        some (Runs.outputs Store.apply .empty calls).1 := by
  decide +kernel

end Esp32Iot
