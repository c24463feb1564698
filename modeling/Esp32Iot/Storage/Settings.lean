import Esp32Iot.Storage.Nvs

/-!
# The settings of the device

The storage functions of `Storage/esp32iot_storage.c`, over the store of `Storage/Nvs.lean`. The
three `save_` functions that write strings follow one pattern, and so do the three that read them:
`saveRecord` opens the store, writes its fields one by one and commits, and `readStr` reads one key
into an output array.

A getter that finds no entry leaves its output array as it is and still returns `ESP_OK`; an entry
that does not fit the array it is copied to is written past its end (`Halt.overrun`).
-/

namespace Esp32Iot

open CStr (lit)
open Halting (bind_apply bind_of_ok bind_of_error)

/-! ## The fixed keys -/

def lastSsidKey : CStr := lit "last_ssid"
def lastPasswordKey : CStr := lit "last_password"
def mqttUserKey : CStr := lit "mqtt_user"
def mqttPassKey : CStr := lit "mqtt_pass"
def mqttIdKey : CStr := lit "mqtt_id"
def restartCounterKey : CStr := lit "restart_counter"

/-- The keys of the last network. -/
def lastKeys : List CStr := [lastSsidKey, lastPasswordKey]

/-- The keys of the Cayenne account. -/
def mqttKeys : List CStr := [mqttUserKey, mqttPassKey, mqttIdKey]

/-- The keys of the two records that share `wifi_storage` with the networks. -/
def fixedKeys : List CStr := lastKeys ++ mqttKeys

theorem lastKeys_nodup : lastKeys.Nodup := by decide +kernel

theorem mqttKeys_nodup : mqttKeys.Nodup := by decide +kernel

theorem notMem_mqttKeys_of_mem : ∀ key ∈ lastKeys, key ∉ mqttKeys := by decide +kernel

theorem notMem_lastKeys_of_mem : ∀ key ∈ mqttKeys, key ∉ lastKeys := by decide +kernel

theorem length_le_of_mem_fixedKeys : ∀ key ∈ fixedKeys, key.length ≤ maxKeyLength := by
  decide +kernel

theorem length_le_of_fixed {fields : List (CStr × CStr)} (h : fields.map (·.1) ⊆ fixedKeys) :
    ∀ field ∈ fields, field.1.length ≤ maxKeyLength :=
  fun _ hf => length_le_of_mem_fixedKeys _ (h (List.mem_map_of_mem hf))

/-! ## Saving -/

/-- Write one string of a record. Its present size is read first and not used. -/
def saveField (key value : CStr) : Nvs Unit := do
  let _ ← checked (nvsGetStr key)
  checked (nvsSetStr key value)

/-- Write the strings of a record one by one. -/
def saveFields : List (CStr × CStr) → Nvs Unit
  | [] => pure ()
  | (key, value) :: fields => do
      saveField key value
      saveFields fields

/-- Open the store, write the record and commit. -/
def saveRecord (fields : List (CStr × CStr)) : Nvs Unit := do
  checked nvsOpen
  saveFields fields
  checked nvsCommit

/-- `save_wifi`: the SSID is the key. -/
def saveWifi (ssid password : CStr) : Nvs Unit := saveRecord [(ssid, password)]

/-- `save_last_connected_wifi`. -/
def saveLastConnectedWifi (ssid password : CStr) : Nvs Unit :=
  saveRecord [(lastSsidKey, ssid), (lastPasswordKey, password)]

/-- `save_last_connected_mqtt`. -/
def saveLastConnectedMqtt (username password clientID : CStr) : Nvs Unit :=
  saveRecord [(mqttUserKey, username), (mqttPassKey, password), (mqttIdKey, clientID)]

/-! ## Reading -/

/-- Copy an entry to an output array by way of an array of `tmp` bytes, or of one that is allocated
to its size. -/
def deliver {n : Nat} (tmp : Option Nat) (out : CharArray n) : Option CStr → Option (CharArray n)
  | none => some out
  | some found =>
      match tmp with
      | some size => if found.length < size then out.strcpy found else none
      | none => out.strcpy found

/-- Read one key into an output array: first the size of the entry, then the entry. -/
def readStr {n : Nat} (key : CStr) (tmp : Option Nat) (out : CharArray n) : Nvs (CharArray n) := do
  match ← checked (nvsGetStr key) with
  | none => pure out
  | some _ =>
      match ← checked (nvsGetStr key) with
      | none => throw (.aborted .notFound)
      | some found =>
          match deliver tmp out (some found) with
          | some out' => pure out'
          | none => throw .overrun

/-- `get_wifi`. -/
def getWifi {n : Nat} (ssid : CStr) (password : CharArray n) : Nvs (CharArray n) := do
  checked nvsOpen
  readStr ssid (some 64) password

/-- `get_last_connected_wifi`. -/
def getLastConnectedWifi {n m : Nat} (ssid : CharArray n) (password : CharArray m) :
    Nvs (CharArray n × CharArray m) := do
  checked nvsOpen
  let ssid ← readStr lastSsidKey (some 33) ssid
  let password ← readStr lastPasswordKey (some 64) password
  pure (ssid, password)

/-- `get_last_connected_mqtt`. -/
def getLastConnectedMqtt {n m k : Nat} (username : CharArray n) (password : CharArray m)
    (clientID : CharArray k) : Nvs (CharArray n × CharArray m × CharArray k) := do
  checked nvsOpen
  let username ← readStr mqttUserKey none username
  let password ← readStr mqttPassKey none password
  let clientID ← readStr mqttIdKey none clientID
  pure (username, password, clientID)

/-! ## The restart counter and erasing -/

/-- `save_restart_counter`; the addition is that of the machine. -/
def saveRestartCounter : Nvs Unit := do
  checked nvsOpen
  let counter ← checked (nvsGetI32 restartCounterKey)
  checked (nvsSetI32 restartCounterKey (counter.getD 0 + 1))
  checked nvsCommit

/-- `get_restart_counter`: the counter it prints. -/
def getRestartCounter : Nvs Int32 := do
  checked nvsOpen
  let counter ← checked (nvsGetI32 restartCounterKey)
  pure (counter.getD 0)

/-- `reset_restart_counter`. -/
def resetRestartCounter : Nvs Unit := do
  checked nvsOpen
  checked (nvsSetI32 restartCounterKey 0)
  checked nvsCommit

/-- `erase_storage`: the strings only, and without a commit. -/
def eraseStorage : Nvs Unit := do
  checked nvsOpen
  checked nvsEraseAll

/-! ## What saving a record does -/

/-- The store after a record's writes. -/
def Contents.setAll (c : Contents) (fields : List (CStr × CStr)) : Contents :=
  fields.foldl (fun c field => c.setStr field.1 field.2) c

/-- A record does not touch the keys it does not have. -/
theorem Contents.setAll_str_of_notMem {key : CStr} {fields : List (CStr × CStr)} {c : Contents}
    (h : key ∉ fields.map (·.1)) : (c.setAll fields).str key = c.str key := by
  induction fields generalizing c with
  | nil => rfl
  | cons field fields ih =>
      rw [List.map_cons, List.mem_cons, not_or] at h
      exact (ih h.2).trans (c.setStr_str_of_ne field.2 h.1)

/-- A record whose keys differ is in the store after its writes. -/
theorem Contents.setAll_str_of_mem {key value : CStr} {fields : List (CStr × CStr)} {c : Contents}
    (hnd : (fields.map (·.1)).Nodup) (hmem : (key, value) ∈ fields) :
    (c.setAll fields).str key = some value := by
  induction fields generalizing c with
  | nil => cases hmem
  | cons field fields ih =>
      rw [List.map_cons, List.nodup_cons] at hnd
      rcases List.mem_cons.1 hmem with rfl | hmem
      · exact (Contents.setAll_str_of_notMem hnd.1).trans (c.setStr_str_self key value)
      · exact ih (c := c.setStr field.1 field.2) hnd.2 hmem

/-- Writing the fields of a record, when its calls work. -/
theorem saveFields_works (n : Nat) (fields : List (CStr × CStr)) (f : Flash)
    (hkeys : ∀ field ∈ fields, field.1.length ≤ maxKeyLength)
    (hw : Works (2 * fields.length + n) f.plan) :
    ∃ f', saveFields fields f = .ok () f' ∧ f'.data = f.data.setAll fields ∧
      f'.plan = f.plan.drop (2 * fields.length) ∧ Works n f'.plan := by
  induction fields generalizing f with
  | nil => exact ⟨f, rfl, rfl, rfl, by simpa using hw⟩
  | cons field fields ih =>
      obtain ⟨key, value⟩ := field
      have hlen : 2 * ((key, value) :: fields).length + n = (2 * fields.length + n) + 1 + 1 := by
        simp only [List.length_cons]; omega
      rw [hlen] at hw
      have hkey : key.length ≤ maxKeyLength := hkeys (key, value) (.head _)
      have hget := checked_nvsGetStr (hw.mono (by omega)) hkey
      obtain ⟨b, hset⟩ := checked_nvsSetStr (hw.next.mono (by omega)) hkey value
      have hfield : saveField key value f = .ok () (f.next.next.write (·.setStr key value) b) :=
        (bind_of_ok hget _).trans hset
      obtain ⟨f', hrun, hdata, hplan, hw'⟩ := ih (f.next.next.write (·.setStr key value) b)
        (fun field hf => hkeys field (.tail _ hf)) hw.next.next
      refine ⟨f', (bind_of_ok hfield _).trans hrun, hdata, ?_, hw'⟩
      rw [hplan]
      simp only [Flash.next, Flash.write_plan, List.length_cons, ← List.drop_one, List.drop_drop]
      congr 1
      omega

/-- Saving a record, when its calls work: the record is in the store, and the store is durable. -/
theorem saveRecord_works {fields : List (CStr × CStr)} {f : Flash}
    (hkeys : ∀ field ∈ fields, field.1.length ≤ maxKeyLength)
    (hw : Works (2 * fields.length + 2) f.plan) :
    ∃ f', saveRecord fields f = .ok () f' ∧ f'.data = f.data.setAll fields ∧
      f'.durable = f'.data ∧ f'.plan = f.plan.drop (2 * fields.length + 2) := by
  have hopen := checked_nvsOpen (hw.mono (by omega))
  have hw₁ : Works (2 * fields.length + 1) f.next.plan := Works.next (n := 2 * fields.length + 1) hw
  obtain ⟨f₁, hrun, hdata, hplan, hw₂⟩ := saveFields_works 1 fields f.next hkeys hw₁
  have hcommit := checked_nvsCommit hw₂
  refine ⟨_, (bind_of_ok hopen _).trans ((bind_of_ok hrun _).trans hcommit), hdata, rfl, ?_⟩
  simp only [Flash.next, hplan, ← List.drop_one, List.drop_drop]
  congr 1
  omega

/-- Without failures, saving a record takes the store at rest to the store at rest with it. -/
theorem saveRecord_ofContents {fields : List (CStr × CStr)} (c : Contents)
    (hkeys : ∀ field ∈ fields, field.1.length ≤ maxKeyLength) :
    saveRecord fields (.ofContents c) = .ok () (.ofContents (c.setAll fields)) := by
  obtain ⟨f', hrun, hdata, hdurable, hplan⟩ :=
    saveRecord_works (f := .ofContents c) hkeys (works_nil _)
  obtain ⟨data, durable, plan⟩ := f'
  simp only [Flash.ofContents, List.drop_nil] at hdata hdurable hplan
  rw [hrun, Flash.ofContents, hdurable, hdata, hplan]

/-- `save_last_connected_wifi` on a store at rest. -/
theorem saveLastConnectedWifi_ofContents (c : Contents) (ssid password : CStr) :
    saveLastConnectedWifi ssid password (.ofContents c) =
      .ok () (.ofContents (c.setAll [(lastSsidKey, ssid), (lastPasswordKey, password)])) :=
  saveRecord_ofContents c (length_le_of_fixed (by simp [fixedKeys, lastKeys, mqttKeys]))

/-- `save_last_connected_mqtt` on a store at rest. -/
theorem saveLastConnectedMqtt_ofContents (c : Contents) (username password clientID : CStr) :
    saveLastConnectedMqtt username password clientID (.ofContents c) = .ok () (.ofContents
      (c.setAll [(mqttUserKey, username), (mqttPassKey, password), (mqttIdKey, clientID)])) :=
  saveRecord_ofContents c (length_le_of_fixed (by simp [fixedKeys, lastKeys, mqttKeys]))

/-- `save_wifi` on a store at rest. -/
theorem saveWifi_ofContents (c : Contents) {ssid : CStr} (hkey : ssid.length ≤ maxKeyLength)
    (password : CStr) :
    saveWifi ssid password (.ofContents c) = .ok () (.ofContents (c.setAll [(ssid, password)])) :=
  saveRecord_ofContents c (by simpa using hkey)

/-- A record whose first write is not reached, or does not work, is not begun. -/
theorem saveRecord_halts {key value : CStr} {fields : List (CStr × CStr)} {f : Flash}
    (hkey : key.length ≤ maxKeyLength) (hw : ¬ Works 3 f.plan) :
    ∃ e f', saveRecord ((key, value) :: fields) f = .error e f' ∧ f'.data = f.data ∧
      f'.durable = f.durable := by
  by_cases h₁ : Works 1 f.plan
  · have hopen := checked_nvsOpen h₁
    by_cases h₂ : Works 1 f.next.plan
    · have hget := checked_nvsGetStr h₂ hkey
      have h₃ : ¬ Works 1 f.next.next.plan := by
        intro h₃
        refine hw ?_
        obtain ⟨data, durable, plan⟩ := f
        rcases plan with _ | ⟨a, _ | ⟨b, _ | ⟨c, plan⟩⟩⟩
        · trivial
        · exact ⟨h₁.1, trivial⟩
        · exact ⟨h₁.1, h₂.1, trivial⟩
        · exact ⟨h₁.1, h₂.1, h₃.1, trivial⟩
      obtain ⟨e, hset⟩ := checked_halts (fun atOnce f =>
        if maxKeyLength < key.length then (.error .keyTooLong, f)
        else (.ok (), f.write (·.setStr key value) atOnce)) h₃
      have hfield : saveField key value f.next = .error e f.next.next.next :=
        (bind_of_ok hget _).trans hset
      exact ⟨e, _, (bind_of_ok hopen _).trans
        (bind_of_error (bind_of_error hfield _) _), rfl, rfl⟩
    · obtain ⟨e, hget⟩ := checked_halts (fun _ f =>
        (if maxKeyLength < key.length then .error .keyTooLong else .ok (f.data.str key), f)) h₂
      have hfield : saveField key value f.next = .error e f.next.next := bind_of_error hget _
      exact ⟨e, _, (bind_of_ok hopen _).trans
        (bind_of_error (bind_of_error hfield _) _), rfl, rfl⟩
  · obtain ⟨e, hopen⟩ := checked_halts (fun _ f => (.ok (), f)) h₁
    exact ⟨e, _, bind_of_error hopen _, rfl, rfl⟩

/-- A key that is too long ends the save in a reboot. -/
theorem saveRecord_tooLong {key value : CStr} {fields : List (CStr × CStr)} (c : Contents)
    (hkey : maxKeyLength < key.length) :
    saveRecord ((key, value) :: fields) (.ofContents c) =
      .error (.aborted .keyTooLong) (.ofContents c) := by
  have hopen := checked_nvsOpen (f := .ofContents c) (works_nil _)
  have hget := checked_nvsGetStr_tooLong (f := (Flash.ofContents c).next) (works_nil _) hkey
  have hfield : saveField key value (Flash.ofContents c).next =
      .error (.aborted .keyTooLong) (Flash.ofContents c).next.next := bind_of_error hget _
  exact (bind_of_ok hopen _).trans (bind_of_error (bind_of_error hfield _) _)

/-- Saving a record leaves no array, whatever becomes of its calls. -/
theorem saveRecord_avoids_overrun (fields : List (CStr × CStr)) :
    Halting.Avoids .overrun (saveRecord fields) := by
  have hfields : ∀ fields, Halting.Avoids .overrun (saveFields fields) := by
    intro fields
    induction fields with
    | nil => exact .pure ()
    | cons field fields ih =>
        refine .bind (.bind ?_ fun _ => ?_) fun _ => ih
        · exact checked_avoids_overrun _
        · exact checked_avoids_overrun _
  refine .bind ?_ fun _ => .bind (hfields fields) fun _ => ?_
  · exact checked_avoids_overrun _
  · exact checked_avoids_overrun _

/-- Saving a record keeps a property of the entries that its own have, wherever it halts. -/
theorem saveRecord_keeps {Q : CStr → CStr → Prop} {fields : List (CStr × CStr)}
    (hQ : ∀ field ∈ fields, Q field.1 field.2) : Halting.Keeps (Entries Q) (saveRecord fields) := by
  have hfields : ∀ fields : List (CStr × CStr), (∀ field ∈ fields, Q field.1 field.2) →
      Halting.Keeps (Entries Q) (saveFields fields) := by
    intro fields
    induction fields with
    | nil => exact fun _ => .pure ()
    | cons field fields ih =>
        intro hQ
        refine .bind (.bind (checked_nvsGetStr_keeps _) fun _ => ?_) fun _ => ?_
        · exact checked_nvsSetStr_keeps (hQ field (.head _))
        · exact ih fun f hf => hQ f (.tail _ hf)
  exact .bind checked_nvsOpen_keeps fun _ => .bind (hfields fields hQ) fun _ =>
    checked_nvsCommit_keeps

/-! ## The counter and erasing, without failures -/

theorem restartCounterKey_length : restartCounterKey.length ≤ maxKeyLength := by decide +kernel

/-- `save_restart_counter` on a store at rest. -/
theorem saveRestartCounter_ofContents (c : Contents) :
    saveRestartCounter (.ofContents c) = .ok () (.ofContents
      (c.setI32 restartCounterKey ((c.i32 restartCounterKey).getD 0 + 1))) := by
  have hk := restartCounterKey_length
  have hopen := checked_nvsOpen (f := .ofContents c) (works_nil _)
  have hget := checked_nvsGetI32 (f := (Flash.ofContents c).next) (works_nil _) hk
  obtain ⟨b, hset⟩ := checked_nvsSetI32 (f := (Flash.ofContents c).next.next) (works_nil _) hk
    ((c.i32 restartCounterKey).getD 0 + 1)
  refine (bind_of_ok hopen _).trans ((bind_of_ok hget _).trans ?_)
  exact (bind_of_ok hset _).trans (checked_nvsCommit (works_nil _))

/-- `get_restart_counter` on a store at rest. -/
theorem getRestartCounter_ofContents (c : Contents) :
    getRestartCounter (.ofContents c) =
      .ok ((c.i32 restartCounterKey).getD 0) (.ofContents c) := by
  have hopen := checked_nvsOpen (f := .ofContents c) (works_nil _)
  have hget := checked_nvsGetI32 (f := (Flash.ofContents c).next) (works_nil _)
    restartCounterKey_length
  exact (bind_of_ok hopen _).trans (bind_of_ok hget _)

/-- `reset_restart_counter` on a store at rest. -/
theorem resetRestartCounter_ofContents (c : Contents) :
    resetRestartCounter (.ofContents c) = .ok () (.ofContents (c.setI32 restartCounterKey 0)) := by
  have hopen := checked_nvsOpen (f := .ofContents c) (works_nil _)
  obtain ⟨b, hset⟩ := checked_nvsSetI32 (f := (Flash.ofContents c).next) (works_nil _)
    restartCounterKey_length 0
  exact (bind_of_ok hopen _).trans ((bind_of_ok hset _).trans
    (checked_nvsCommit (works_nil _)))

/-- `erase_storage` on a store at rest. -/
theorem eraseStorage_ofContents (c : Contents) :
    eraseStorage (.ofContents c) = .ok () (.ofContents c.eraseStr) := rfl

/-! ## What reading a record does, without failures -/

/-- A value that is there, or an access outside an array, with the store at rest. -/
def delivered {α : Type} (c : Contents) : Option α → EStateM.Result Halt Flash α
  | some a => .ok a (.ofContents c)
  | none => .error .overrun (.ofContents c)

theorem bind_of_delivered {α β : Type} {c : Contents} {x : Nvs α} {o : Option α}
    (h : x (.ofContents c) = delivered c o) {g : α → Nvs β} {r : α → Option β}
    (hg : ∀ a, g a (.ofContents c) = delivered c (r a)) :
    (x >>= g) (.ofContents c) = delivered c (o.bind r) := by
  rw [bind_apply, h]
  cases o with
  | none => rfl
  | some a => exact hg a

theorem pure_delivered {α : Type} (c : Contents) (a : α) :
    (pure a : Nvs α) (.ofContents c) = delivered c (some a) := rfl

theorem checked_nvsOpen_ofContents (c : Contents) :
    checked nvsOpen (.ofContents c) = .ok () (.ofContents c) := rfl

theorem readStr_ofContents {n : Nat} (c : Contents) {key : CStr} (hkey : key.length ≤ maxKeyLength)
    (tmp : Option Nat) (out : CharArray n) :
    readStr key tmp out (.ofContents c) = delivered c (deliver tmp out (c.str key)) := by
  have hget : checked (nvsGetStr key) (.ofContents c) = .ok (c.str key) (.ofContents c) :=
    checked_nvsGetStr (works_nil _) hkey
  rw [readStr, bind_of_ok hget]
  cases hfound : c.str key with
  | none => rfl
  | some found =>
      show (checked (nvsGetStr key) >>= _) (Flash.ofContents c) = _
      rw [bind_of_ok hget, hfound]
      show (match deliver tmp out (some found) with
        | some out' => pure out'
        | none => throw .overrun : Nvs (CharArray n)) (Flash.ofContents c) = _
      cases deliver tmp out (some found) <;> rfl

/-- `get_wifi` on a store at rest. -/
theorem getWifi_ofContents {n : Nat} (c : Contents) {ssid : CStr}
    (hkey : ssid.length ≤ maxKeyLength) (out : CharArray n) :
    getWifi ssid out (.ofContents c) = delivered c (deliver (some 64) out (c.str ssid)) :=
  (bind_of_ok (checked_nvsOpen_ofContents c) _).trans (readStr_ofContents c hkey _ _)

/-- `get_last_connected_wifi` on a store at rest. -/
theorem getLastConnectedWifi_ofContents {n m : Nat} (c : Contents) (ssid : CharArray n)
    (password : CharArray m) :
    getLastConnectedWifi ssid password (.ofContents c) =
      delivered c ((deliver (some 33) ssid (c.str lastSsidKey)).bind fun ssid =>
        (deliver (some 64) password (c.str lastPasswordKey)).bind fun password =>
          some (ssid, password)) := by
  have hs : lastSsidKey.length ≤ maxKeyLength := by decide
  have hp : lastPasswordKey.length ≤ maxKeyLength := by decide
  rw [getLastConnectedWifi, bind_of_ok (checked_nvsOpen_ofContents c)]
  refine bind_of_delivered (readStr_ofContents c hs _ _) fun ssid => ?_
  refine bind_of_delivered (readStr_ofContents c hp _ _) fun password => ?_
  exact pure_delivered c (ssid, password)

/-- `get_last_connected_mqtt` on a store at rest. -/
theorem getLastConnectedMqtt_ofContents {n m k : Nat} (c : Contents) (username : CharArray n)
    (password : CharArray m) (clientID : CharArray k) :
    getLastConnectedMqtt username password clientID (.ofContents c) =
      delivered c ((deliver none username (c.str mqttUserKey)).bind fun username =>
        (deliver none password (c.str mqttPassKey)).bind fun password =>
          (deliver none clientID (c.str mqttIdKey)).bind fun clientID =>
            some (username, password, clientID)) := by
  have hu : mqttUserKey.length ≤ maxKeyLength := by decide
  have hp : mqttPassKey.length ≤ maxKeyLength := by decide
  have hi : mqttIdKey.length ≤ maxKeyLength := by decide
  rw [getLastConnectedMqtt, bind_of_ok (checked_nvsOpen_ofContents c)]
  refine bind_of_delivered (readStr_ofContents c hu _ _) fun username => ?_
  refine bind_of_delivered (readStr_ofContents c hp _ _) fun password => ?_
  refine bind_of_delivered (readStr_ofContents c hi _ _) fun clientID => ?_
  exact pure_delivered c (username, password, clientID)

/-- What the output array of a getter holds, when the entry fits: the entry, or what it held. -/
def put {n : Nat} (out : CharArray n) : Option CStr → CharArray n
  | none => out
  | some found => (out.strcpy found).getD out

theorem deliver_eq_put {n : Nat} {tmp : Option Nat} {out : CharArray n} {entry : Option CStr}
    (hout : ∀ found, entry = some found → found.length < n)
    (htmp : ∀ found size, entry = some found → tmp = some size → found.length < size) :
    deliver tmp out entry = some (put out entry) := by
  cases entry with
  | none => rfl
  | some found =>
      have hsome := CharArray.strcpy_isSome_iff (a := out).2 (hout found rfl)
      obtain ⟨out', hout'⟩ := Option.isSome_iff_exists.1 hsome
      cases tmp with
      | none => simp [deliver, put, hout']
      | some size => simp [deliver, put, hout', htmp found size rfl rfl]

end Esp32Iot
