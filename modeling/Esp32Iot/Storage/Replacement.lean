import Esp32Iot.Cayenne
import Esp32Iot.Lib.Runs
import Esp32Iot.Storage.Settings

/-!
# Replacing a record

A record of the last connection is two or three entries of the store, which are written one by one
and committed at the end. Any of the NVS calls may fail, which reboots the device, and the power may
be lost between any two of them; a write may be durable before the commit. What the getters read
after the next boot is then not always the record of one save.

`records_replaced_whole` says that it is, over all runs of saves in which no save is stopped between
its first write and its commit; `lastWifi_mixed` is a run that is stopped there.
-/

namespace Esp32Iot

open CStr (lit)

/-! ## Runs of saves -/

/-- A save of a record of the last connection, with the fates of its NVS calls, or a reboot between
two of them. -/
inductive SaveEvent
  | wifi (ssid password : CStr) (nvs : List Fate)
  /-- `POST /mqtt-setup` from `CayenneInit` on: the account is saved when `connectClient`
  succeeds -/
  | mqtt (username password clientID : CStr) (broker : Broker) (nvs : List Fate)
  | reboot
  deriving DecidableEq

/-- The store after a save: where it left it, or, when it halted, after the boot that follows. -/
def afterSave (save : Nvs Unit) (nvs : List Fate) (f : Flash) : Flash :=
  match save { f with plan := nvs } with
  | .ok _ f' => { f' with plan := [] }
  | .error _ f' => f'.reboot

/-- The account is accepted by the broker. -/
def Connects (username password clientID : CStr) (broker : Broker) : Prop :=
  (connectClient (cayenneInit username password clientID) broker).1 = cayenneSuccess

instance (username password clientID : CStr) (broker : Broker) :
    Decidable (Connects username password clientID broker) :=
  inferInstanceAs (Decidable (_ = _))

/-- The store after an event. A connection that fails goes to `ESP_ERROR_CHECK`. -/
def SaveEvent.apply (f : Flash) : SaveEvent → Flash
  | .wifi ssid password nvs => afterSave (saveLastConnectedWifi ssid password) nvs f
  | .mqtt username password clientID broker nvs =>
      if Connects username password clientID broker then
        afterSave (saveLastConnectedMqtt username password clientID) nvs f
      else f.reboot
  | .reboot => f.reboot

/-- An event as a step of the store. -/
def saveStep (f : Flash) (e : SaveEvent) : Option (Unit × Flash) := some ((), e.apply f)

/-- The calls of a save of `n` strings work from its first write on, if it gets that far: opening
the store and reading the size of the first string come before the write, and two calls for each
string, and the commit, are all its calls. -/
def WholeOnce (n : Nat) (nvs : List Fate) : Prop := Works 3 nvs → Works (2 * n + 2) nvs

/-- The event is not stopped between the first write and the commit of its save. -/
def SaveEvent.Whole : SaveEvent → Prop
  | .wifi _ _ nvs => WholeOnce 2 nvs
  | .mqtt username password clientID broker nvs =>
      Connects username password clientID broker → WholeOnce 3 nvs
  | .reboot => True

/-! ## One save -/

/-- A save that is not stopped in the middle is done or has not begun. -/
theorem afterSave_whole {key value : CStr} {fields : List (CStr × CStr)} {nvs : List Fate}
    {f : Flash} (hkeys : ∀ field ∈ (key, value) :: fields, field.1.length ≤ maxKeyLength)
    (hrest : f.durable = f.data) (hwhole : WholeOnce (fields.length + 1) nvs) :
    afterSave (saveRecord ((key, value) :: fields)) nvs f = .ofContents f.data ∨
      afterSave (saveRecord ((key, value) :: fields)) nvs f =
        .ofContents (f.data.setAll ((key, value) :: fields)) := by
  by_cases hw : Works 3 nvs
  · obtain ⟨f', hrun, hdata, hdurable, -⟩ :=
      saveRecord_works (f := { f with plan := nvs }) hkeys (hwhole hw)
    right
    rw [afterSave, hrun]
    simp only [Flash.ofContents, hdurable, hdata]
  · obtain ⟨e, f', hrun, hdata, hdurable⟩ :=
      saveRecord_halts (f := { f with plan := nvs }) (hkeys _ (.head _)) hw
    left
    rw [afterSave, hrun]
    simp only [Flash.reboot, Flash.ofContents, hdurable, hrest]

theorem afterSave_wifi {nvs : List Fate} {f : Flash} (ssid password : CStr)
    (hrest : f.durable = f.data) (hwhole : WholeOnce 2 nvs) :
    afterSave (saveLastConnectedWifi ssid password) nvs f = .ofContents f.data ∨
      afterSave (saveLastConnectedWifi ssid password) nvs f =
        .ofContents (f.data.setAll [(lastSsidKey, ssid), (lastPasswordKey, password)]) :=
  afterSave_whole (length_le_of_fixed (by simp [fixedKeys, lastKeys])) hrest hwhole

theorem afterSave_mqtt {nvs : List Fate} {f : Flash} (username password clientID : CStr)
    (hrest : f.durable = f.data) (hwhole : WholeOnce 3 nvs) :
    afterSave (saveLastConnectedMqtt username password clientID) nvs f = .ofContents f.data ∨
      afterSave (saveLastConnectedMqtt username password clientID) nvs f = .ofContents
        (f.data.setAll [(mqttUserKey, username), (mqttPassKey, password), (mqttIdKey, clientID)]) :=
  afterSave_whole (length_le_of_fixed (by simp [fixedKeys, mqttKeys])) hrest hwhole

/-! ## Whole records -/

/-- The record that `get_last_connected_wifi` reads, or none: its entries, and what the getter
copies to the arrays it is given. -/
structure ReadsLast (c : Contents) (record : Option (CStr × CStr)) : Prop where
  ssid : c.str lastSsidKey = record.map (·.1)
  password : c.str lastPasswordKey = record.map (·.2)
  getter : ∀ (ssid : CharArray 33) (password : CharArray 64),
    getLastConnectedWifi ssid password (.ofContents c) =
      delivered c ((deliver (some 33) ssid (record.map (·.1))).bind fun ssid =>
        (deliver (some 64) password (record.map (·.2))).bind fun password =>
          some (ssid, password))

/-- The record that `get_last_connected_mqtt` reads, or none. -/
structure ReadsMqtt (c : Contents) (record : Option (CStr × CStr × CStr)) : Prop where
  username : c.str mqttUserKey = record.map (·.1)
  password : c.str mqttPassKey = record.map (·.2.1)
  clientID : c.str mqttIdKey = record.map (·.2.2)
  getter : ∀ username password clientID : CharArray 100,
    getLastConnectedMqtt username password clientID (.ofContents c) =
      delivered c ((deliver none username (record.map (·.1))).bind fun username =>
        (deliver none password (record.map (·.2.1))).bind fun password =>
          (deliver none clientID (record.map (·.2.2))).bind fun clientID =>
            some (username, password, clientID))

/-- What `get_last_connected_wifi` reads is nothing or the record of one of the saves. -/
def WifiWhole (events : List SaveEvent) (c : Contents) : Prop :=
  ∃ record, ReadsLast c record ∧
    ∀ r ∈ record, ∃ nvs, .wifi r.1 r.2 nvs ∈ events

/-- What `get_last_connected_mqtt` reads is nothing or the record of one of the saves, whose account
was accepted. -/
def MqttWhole (events : List SaveEvent) (c : Contents) : Prop :=
  ∃ record, ReadsMqtt c record ∧
    ∀ r ∈ record, ∃ broker nvs, .mqtt r.1 r.2.1 r.2.2 broker nvs ∈ events ∧
      Connects r.1 r.2.1 r.2.2 broker

/-- The entries of the two keys decide what the getter reads. -/
theorem ReadsLast.of_entries {c : Contents} {record : Option (CStr × CStr)}
    (hs : c.str lastSsidKey = record.map (·.1)) (hp : c.str lastPasswordKey = record.map (·.2)) :
    ReadsLast c record := by
  refine ⟨hs, hp, fun ssid password => ?_⟩
  rw [getLastConnectedWifi_ofContents, hs, hp]

theorem ReadsMqtt.of_entries {c : Contents} {record : Option (CStr × CStr × CStr)}
    (hu : c.str mqttUserKey = record.map (·.1)) (hp : c.str mqttPassKey = record.map (·.2.1))
    (hi : c.str mqttIdKey = record.map (·.2.2)) : ReadsMqtt c record := by
  refine ⟨hu, hp, hi, fun username password clientID => ?_⟩
  rw [getLastConnectedMqtt_ofContents, hu, hp, hi]

/-- Both records are whole, and nothing waits for a commit. -/
structure AtRest (events : List SaveEvent) (f : Flash) : Prop where
  durable : f.durable = f.data
  wifi : WifiWhole events f.data
  mqtt : MqttWhole events f.data

section
variable {events : List SaveEvent} {c c' : Contents}

theorem WifiWhole.saved {ssid password : CStr} {nvs : List Fate}
    (hmem : .wifi ssid password nvs ∈ events) :
    WifiWhole events (c.setAll [(lastSsidKey, ssid), (lastPasswordKey, password)]) := by
  refine ⟨some (ssid, password), .of_entries ?_ ?_, ?_⟩
  · exact Contents.setAll_str_of_mem lastKeys_nodup (.head _)
  · exact Contents.setAll_str_of_mem lastKeys_nodup (.tail _ (.head _))
  · rintro r hr
    cases hr
    exact ⟨nvs, hmem⟩

theorem MqttWhole.saved {username password clientID : CStr} {broker : Broker} {nvs : List Fate}
    (hmem : .mqtt username password clientID broker nvs ∈ events)
    (hconnects : Connects username password clientID broker) :
    MqttWhole events (c.setAll
      [(mqttUserKey, username), (mqttPassKey, password), (mqttIdKey, clientID)]) := by
  refine ⟨some (username, password, clientID), .of_entries ?_ ?_ ?_, ?_⟩
  · exact Contents.setAll_str_of_mem mqttKeys_nodup (.head _)
  · exact Contents.setAll_str_of_mem mqttKeys_nodup (.tail _ (.head _))
  · exact Contents.setAll_str_of_mem mqttKeys_nodup (.tail _ (.tail _ (.head _)))
  · rintro r hr
    cases hr
    exact ⟨broker, nvs, hmem, hconnects⟩

theorem WifiWhole.congr (h : WifiWhole events c)
    (hsame : ∀ key ∈ lastKeys, c'.str key = c.str key) : WifiWhole events c' := by
  obtain ⟨record, hreads, hsaved⟩ := h
  refine ⟨record, .of_entries ?_ ?_, hsaved⟩
  · exact (hsame _ (by simp [lastKeys])).trans hreads.ssid
  · exact (hsame _ (by simp [lastKeys])).trans hreads.password

theorem MqttWhole.congr (h : MqttWhole events c)
    (hsame : ∀ key ∈ mqttKeys, c'.str key = c.str key) : MqttWhole events c' := by
  obtain ⟨record, hreads, hsaved⟩ := h
  refine ⟨record, .of_entries ?_ ?_ ?_, hsaved⟩
  · exact (hsame _ (by simp [mqttKeys])).trans hreads.username
  · exact (hsame _ (by simp [mqttKeys])).trans hreads.password
  · exact (hsame _ (by simp [mqttKeys])).trans hreads.clientID

/-- Nothing is read from a new device. -/
theorem wifiWhole_erased : WifiWhole events .erased :=
  ⟨none, .of_entries rfl rfl, fun _ hr => by cases hr⟩

theorem mqttWhole_erased : MqttWhole events .erased :=
  ⟨none, .of_entries rfl rfl rfl, fun _ hr => by cases hr⟩

end

theorem AtRest.ofContents {events : List SaveEvent} {c : Contents} (hw : WifiWhole events c)
    (hm : MqttWhole events c) : AtRest events (.ofContents c) := ⟨rfl, hw, hm⟩

/-- **One event.** A save that is not stopped in the middle leaves both records whole. -/
theorem SaveEvent.apply_atRest {events : List SaveEvent} {f : Flash} {e : SaveEvent}
    (hf : AtRest events f) (hmem : e ∈ events) (hwhole : e.Whole) : AtRest events (e.apply f) := by
  have hreboot : AtRest events f.reboot := by
    rw [Flash.reboot, hf.durable]
    exact .ofContents hf.wifi hf.mqtt
  cases e with
  | reboot => exact hreboot
  | wifi ssid password nvs =>
      rw [SaveEvent.apply]
      rcases afterSave_wifi ssid password hf.durable hwhole with h | h
      · rw [h]
        exact .ofContents hf.wifi hf.mqtt
      · rw [h]
        refine .ofContents (.saved hmem) (hf.mqtt.congr fun key hkey => ?_)
        exact Contents.setAll_str_of_notMem (notMem_lastKeys_of_mem key hkey)
  | mqtt username password clientID broker nvs =>
      by_cases hconnects : Connects username password clientID broker
      · rw [SaveEvent.apply, if_pos hconnects]
        rcases afterSave_mqtt username password clientID hf.durable (hwhole hconnects) with h | h
        · rw [h]
          exact .ofContents hf.wifi hf.mqtt
        · rw [h]
          refine .ofContents (hf.wifi.congr fun key hkey => ?_) (.saved hmem hconnects)
          exact Contents.setAll_str_of_notMem (notMem_mqttKeys_of_mem key hkey)
      · rw [SaveEvent.apply, if_neg hconnects]
        exact hreboot

/-- **Records are replaced as a whole.** After every run of saves on a new device, none of which is
stopped between its first write and its commit, what the getters read at the next boot is for each
record nothing or exactly the strings of one save, and for the account of one that was accepted. -/
theorem records_replaced_whole {events : List SaveEvent} {outputs : List Unit} {f : Flash}
    (hwhole : ∀ e ∈ events, e.Whole)
    (hrun : Runs.exec saveStep (.ofContents .erased) events = some (outputs, f)) :
    WifiWhole events f.reboot.data ∧ MqttWhole events f.reboot.data := by
  have hstep : ∀ (f : Flash) (e : SaveEvent) (o : Unit) (f' : Flash), AtRest events f →
      (e ∈ events ∧ e.Whole) → saveStep f e = some (o, f') → AtRest events f' := by
    rintro f e o f' hf ⟨hmem, he⟩ hstep
    cases hstep
    exact SaveEvent.apply_atRest hf hmem he
  have hinit : AtRest events (.ofContents .erased) :=
    .ofContents wifiWhole_erased mqttWhole_erased
  have hrest := Runs.exec_invariant hstep hinit
    (Runs.along_of_forall fun e he => ⟨he, hwhole e he⟩) hrun
  rw [Flash.reboot, hrest.durable]
  exact ⟨hrest.wifi, hrest.mqtt⟩

/-- Two saves of a network, the second with the fates `nvs` of its calls. -/
def homeThenWork (nvs : List Fate) : List SaveEvent :=
  [.wifi (lit "home") (lit "secret") [], .wifi (lit "work") (lit "passw0rd") nvs]

/-- A loss of power before the first write. -/
theorem records_replaced_whole_home :
    (∀ e ∈ homeThenWork [.works true, .works true, .powerLoss], e.Whole) ∧
      ∃ outputs f, Runs.exec saveStep (.ofContents .erased)
          (homeThenWork [.works true, .works true, .powerLoss]) = some (outputs, f) ∧
        WifiWhole (homeThenWork [.works true, .works true, .powerLoss]) f.reboot.data := by
  have hwhole : ∀ e ∈ homeThenWork [.works true, .works true, .powerLoss], e.Whole := by
    simp only [homeThenWork, List.mem_cons, List.not_mem_nil, or_false, forall_eq_or_imp, forall_eq]
    refine ⟨fun _ => works_nil _, ?_⟩
    rintro ⟨-, -, ⟨b, h⟩, -⟩
    cases h
  exact ⟨hwhole, _, _, rfl, (records_replaced_whole hwhole rfl).1⟩

/-- A loss of power after the SSID was written and became durable: the next boot finds the SSID of
the second network with the password of the first. -/
theorem lastWifi_mixed :
    ∃ outputs f, Runs.exec saveStep (.ofContents .erased)
        (homeThenWork [.works true, .works true, .works true, .powerLoss]) = some (outputs, f) ∧
      f.reboot.data.str lastSsidKey = some (lit "work") ∧
      f.reboot.data.str lastPasswordKey = some (lit "secret") ∧
      ¬ WifiWhole (homeThenWork [.works true, .works true, .works true, .powerLoss])
        f.reboot.data := by
  have hmixed : ∀ c : Contents, c.str lastSsidKey = some (lit "work") →
      c.str lastPasswordKey = some (lit "secret") →
      ¬ WifiWhole (homeThenWork [.works true, .works true, .works true, .powerLoss]) c := by
    rintro c hs hp ⟨record, hreads, hsaved⟩
    obtain ⟨r, hr, hrs⟩ := Option.map_eq_some_iff.1 (hreads.ssid.symm.trans hs)
    obtain ⟨r', hr', hrp⟩ := Option.map_eq_some_iff.1 (hreads.password.symm.trans hp)
    cases hr.symm.trans hr'
    obtain ⟨nvs, hmem⟩ := hsaved r hr
    simp only [homeThenWork, List.mem_cons, List.not_mem_nil, or_false, SaveEvent.wifi.injEq,
      hrs, hrp] at hmem
    rcases hmem with ⟨h, -, -⟩ | ⟨-, h, -⟩
    · exact absurd h (by decide +kernel)
    · exact absurd h (by decide +kernel)
  refine ⟨_, _, rfl, by decide +kernel, by decide +kernel, ?_⟩
  exact hmixed _ (by decide +kernel) (by decide +kernel)

end Esp32Iot
