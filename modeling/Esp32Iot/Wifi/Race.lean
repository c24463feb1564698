import Esp32Iot.Http.Serve
import Esp32Iot.Lib.Runs

/-!
# Connecting while requests come in

`actual_wifi` is one global of two tasks. The HTTP task writes it at the start of a `/wifi-setup`
request, configures the driver from it and calls `esp_wifi_connect`; the event loop reads it when
an attempt to connect has succeeded, and saves it as the network that was connected. The attempt
was made with the configuration of the driver at that time, and requests may have come in since.

Here the two tasks and the driver take their steps in any order. Of the driver it is assumed that
attempts end asynchronously and that their events are handled in the order of the attempts.
`saved_is_connected` says that what is saved is what connected, over all runs in which no request
has begun to write `actual_wifi` since the reported attempt was configured, and
`saved_other_network` is a run that saves a network the device never connected to.
-/

namespace Esp32Iot

open CStr (lit)

/-! ## The tasks and the driver -/

/-- A station configuration, and the number of the request it was made for: 0 for the boot. -/
structure StaConfig where
  wifi : WifiEvidence
  request : Nat
  deriving DecidableEq

/-- Where the HTTP task is in a `/wifi-setup` request. -/
inductive HttpPhase
  | idle
  /-- between the two `strcpy` -/
  | ssidWritten (wifi : WifiEvidence)
  /-- before `wifi_apsta_configure` -/
  | written
  /-- before `esp_wifi_connect` -/
  | configured
  deriving DecidableEq

/-- The two tasks and the driver. -/
structure Radio where
  actualWifi : WifiEvidence
  /-- the number of requests that have begun to write `actual_wifi` -/
  requests : Nat
  http : HttpPhase
  /-- the station configuration in force -/
  config : Option StaConfig
  /-- the attempts whose events have not been handled, the oldest first -/
  attempts : List StaConfig
  /-- the attempt whose success the event loop is handling, between its two saves -/
  handling : Option StaConfig
  deriving DecidableEq

/-- `wifi_start` has read the last network and configured it, if it has both strings. -/
def Radio.boot (last : WifiEvidence) : Radio where
  actualWifi := last
  requests := 0
  http := .idle
  config := if last.ssid.nonEmpty && last.password.nonEmpty then some ⟨last, 0⟩ else none
  attempts := []
  handling := none

/-- The steps of the two tasks, and of the driver as it reports. -/
inductive RadioStep
  /-- `strcpy(actual_wifi.ssid, ssid)` of a request with the credentials `wifi` -/
  | writeSsid (wifi : WifiEvidence)
  /-- `strcpy(actual_wifi.password, password)` -/
  | writePassword
  /-- `wifi_apsta_configure(actual_wifi.ssid, actual_wifi.password)` -/
  | apstaConfigure
  /-- `esp_wifi_connect()` of the request -/
  | connect
  /-- `SYSTEM_EVENT_STA_START`: `esp_wifi_connect()` of the event loop -/
  | staStart
  /-- `SYSTEM_EVENT_STA_CONNECTED` of the oldest attempt: `save_last_connected_wifi` -/
  | saveLast
  /-- the `save_wifi` that follows it -/
  | saveWifi
  /-- `SYSTEM_EVENT_STA_DISCONNECTED` of the oldest attempt -/
  | connectFailed
  deriving DecidableEq

/-- What a save is given, and the attempt whose success it answers. -/
structure SavedFor where
  saved : WifiEvidence
  attempt : StaConfig
  deriving DecidableEq

/-- One step; a step that is not the next one of its task is not enabled. -/
def Radio.step (r : Radio) : RadioStep → Option (Option SavedFor × Radio)
  | .writeSsid wifi =>
      if r.http = .idle then
        some (none, { r with
          actualWifi := { r.actualWifi with ssid := wifi.ssid, ssid_lt := wifi.ssid_lt }
          requests := r.requests + 1
          http := .ssidWritten wifi })
      else none
  | .writePassword =>
      match r.http with
      | .ssidWritten wifi =>
          some (none, { r with
            actualWifi :=
              { r.actualWifi with password := wifi.password, password_lt := wifi.password_lt }
            http := .written })
      | _ => none
  | .apstaConfigure =>
      if r.http = .written then
        some (none, { r with config := some ⟨r.actualWifi, r.requests⟩, http := .configured })
      else none
  | .connect =>
      match r.http, r.config with
      | .configured, some config =>
          some (none, { r with attempts := r.attempts ++ [config], http := .idle })
      | _, _ => none
  | .staStart =>
      match r.handling, r.config with
      | none, some config => some (none, { r with attempts := r.attempts ++ [config] })
      | _, _ => none
  | .saveLast =>
      match r.handling, r.attempts with
      | none, attempt :: attempts =>
          some (some ⟨r.actualWifi, attempt⟩,
            { r with attempts := attempts, handling := some attempt })
      | _, _ => none
  | .saveWifi =>
      match r.handling with
      | some attempt => some (some ⟨r.actualWifi, attempt⟩, { r with handling := none })
      | none => none
  | .connectFailed =>
      match r.handling, r.attempts with
      | none, _ :: attempts => some (none, { r with attempts := attempts })
      | _, _ => none

/-! ## What is saved -/

/-- The attempt that a save answers. -/
def Radio.reported (r : Radio) : RadioStep → Option StaConfig
  | .saveLast => r.attempts.head?
  | .saveWifi => r.handling
  | _ => none

/-- No request has begun to write `actual_wifi` since the attempt that the step answers was
configured. -/
def Radio.Current (r : Radio) (s : RadioStep) : Prop :=
  ∀ attempt ∈ r.reported s, attempt.request = r.requests

/-- A configuration that is in force, or of an attempt that has not been handled to its end. -/
def Radio.Live (r : Radio) (c : StaConfig) : Prop :=
  r.config = some c ∨ c ∈ r.attempts ∨ r.handling = some c

/-- The configurations belong to requests up to the last one, that of the last one is the content of
`actual_wifi`, and there is none of it while the request is still writing. -/
structure Radio.Numbered (r : Radio) : Prop where
  le : ∀ c, r.Live c → c.request ≤ r.requests
  current : ∀ c, r.Live c → c.request = r.requests → c.wifi = r.actualWifi
  writing : r.http ≠ .idle → r.http ≠ .configured → ∀ c, r.Live c → c.request < r.requests

theorem Radio.numbered_boot (last : WifiEvidence) : (Radio.boot last).Numbered := by
  have hlive : ∀ c, (Radio.boot last).Live c → c = ⟨last, 0⟩ := by
    rintro c (h | h | h)
    · simp only [Radio.boot] at h
      split at h
      · exact (Option.some.inj h).symm
      · cases h
    · cases h
    · cases h
  refine ⟨?_, ?_, fun h => absurd rfl h⟩
  · intro c hc
    rw [hlive c hc]
    exact Nat.zero_le _
  · intro c hc _
    rw [hlive c hc]
    rfl

section
variable {r r' : Radio}

/-- A step that writes nothing and makes no configuration. -/
theorem Radio.Numbered.of_live (h : r.Numbered) (hlive : ∀ c, r'.Live c → r.Live c)
    (hrequests : r'.requests = r.requests) (hactual : r'.actualWifi = r.actualWifi)
    (hhttp : r'.http = .idle ∨ r'.http = r.http) : r'.Numbered := by
  refine ⟨?_, ?_, ?_⟩
  · intro c hc
    rw [hrequests]
    exact h.le c (hlive c hc)
  · intro c hc hlast
    rw [hactual]
    exact h.current c (hlive c hc) (hrequests ▸ hlast)
  · intro hidle hconfigured c hc
    have hsame := hhttp.resolve_left hidle
    rw [hrequests]
    exact h.writing (hsame ▸ hidle) (hsame ▸ hconfigured) c (hlive c hc)

/-- A step of a request that writes: every configuration is older than the request. -/
theorem Radio.Numbered.of_older (hlive : ∀ c, r'.Live c → c.request < r'.requests) : r'.Numbered :=
  ⟨fun c hc => Nat.le_of_lt (hlive c hc),
    fun c hc heq => absurd heq (Nat.ne_of_lt (hlive c hc)), fun _ _ => hlive⟩

/-- The step that configures the driver from `actual_wifi`. -/
theorem Radio.Numbered.configured (h : r.Numbered) :
    Radio.Numbered { r with config := some ⟨r.actualWifi, r.requests⟩, http := .configured } := by
  refine ⟨?_, ?_, fun _ hne => absurd rfl hne⟩
  · rintro c (hc | hc)
    · cases hc
      exact Nat.le_refl _
    · exact h.le c (.inr hc)
  · rintro c (hc | hc) heq
    · cases hc
      rfl
    · exact h.current c (.inr hc) heq

/-- An attempt is made with a configuration that is live already. -/
theorem Radio.live_of_attempt {config : StaConfig} (hconfig : r.config = some config)
    {http : HttpPhase} :
    ∀ c, Radio.Live { r with attempts := r.attempts ++ [config], http := http } c → r.Live c := by
  rintro c (hc | hc | hc)
  · exact .inl hc
  · rcases List.mem_append.1 hc with hc | hc
    · exact .inr (.inl hc)
    · rw [List.mem_singleton.1 hc]
      exact .inl hconfig
  · exact .inr (.inr hc)

/-- **One step** keeps the numbering. -/
theorem Radio.step_numbered (r : Radio) (s : RadioStep) (o : Option SavedFor) (r' : Radio)
    (h : r.Numbered) (hstep : r.step s = some (o, r')) : r'.Numbered := by
  cases s with
  | writeSsid wifi =>
      simp only [Radio.step] at hstep
      split at hstep
      · cases hstep
        exact .of_older fun c hc => Nat.lt_succ_of_le (h.le c hc)
      · cases hstep
  | writePassword =>
      simp only [Radio.step] at hstep
      split at hstep
      · next wifi hhttp =>
          cases hstep
          exact .of_older (h.writing (by simp [hhttp]) (by simp [hhttp]))
      · cases hstep
  | apstaConfigure =>
      simp only [Radio.step] at hstep
      split at hstep
      · cases hstep
        exact h.configured
      · cases hstep
  | connect =>
      simp only [Radio.step] at hstep
      split at hstep
      · next config hhttp hconfig =>
          cases hstep
          exact h.of_live (Radio.live_of_attempt hconfig) rfl rfl (.inl rfl)
      · cases hstep
  | staStart =>
      simp only [Radio.step] at hstep
      split at hstep
      · next config hhandling hconfig =>
          cases hstep
          exact h.of_live (Radio.live_of_attempt hconfig) rfl rfl (.inr rfl)
      · cases hstep
  | saveLast =>
      simp only [Radio.step] at hstep
      split at hstep
      · next attempt attempts hhandling hattempts =>
          cases hstep
          refine h.of_live ?_ rfl rfl (.inr rfl)
          rintro c (hc | hc | hc)
          · exact .inl hc
          · exact .inr (.inl (hattempts ▸ .tail _ hc))
          · cases hc
            exact .inr (.inl (hattempts ▸ .head _))
      · cases hstep
  | saveWifi =>
      simp only [Radio.step] at hstep
      split at hstep
      · cases hstep
        refine h.of_live ?_ rfl rfl (.inr rfl)
        rintro c (hc | hc | hc)
        · exact .inl hc
        · exact .inr (.inl hc)
        · cases hc
      · cases hstep
  | connectFailed =>
      simp only [Radio.step] at hstep
      split at hstep
      · next attempt attempts hhandling hattempts =>
          cases hstep
          refine h.of_live ?_ rfl rfl (.inr rfl)
          rintro c (hc | hc | hc)
          · exact .inl hc
          · exact .inr (.inl (hattempts ▸ .tail _ hc))
          · exact .inr (.inr hc)
      · cases hstep

/-- What a step saves is `actual_wifi`, for the attempt it answers. -/
theorem Radio.step_saved {s : RadioStep} {o : Option SavedFor} (hstep : r.step s = some (o, r')) :
    ∀ saved ∈ o, saved.saved = r.actualWifi ∧ r.reported s = some saved.attempt ∧
      r.Live saved.attempt := by
  intro saved hsaved
  cases s <;> simp only [Radio.step] at hstep <;> split at hstep <;> cases hstep <;>
    cases hsaved
  · next hhandling hattempts =>
      exact ⟨rfl, by simp [Radio.reported, hattempts], .inr (.inl (hattempts ▸ .head _))⟩
  · next hhandling =>
      exact ⟨rfl, hhandling, .inr (.inr hhandling)⟩

end

/-- **What is saved is what connected.** In every interleaving of requests and events after a boot
in which each success is handled before another request begins to write `actual_wifi`, every save
is given the credentials of the attempt that succeeded. -/
theorem saved_is_connected {last : WifiEvidence} {steps : List RadioStep}
    {outputs : List (Option SavedFor)} {r : Radio}
    (hcurrent : Runs.Along Radio.step Radio.Current (.boot last) steps)
    (hrun : Runs.exec Radio.step (.boot last) steps = some (outputs, r)) :
    ∀ o ∈ outputs, ∀ saved ∈ o, saved.saved = saved.attempt.wifi := by
  refine Runs.exec_outputs ?_ ?_ (Radio.numbered_boot last) hcurrent hrun
  · exact fun r s o r' h _ hstep => Radio.step_numbered r s o r' h hstep
  · intro r s o r' h hs hstep saved hsaved
    obtain ⟨hactual, hreported, hlive⟩ := Radio.step_saved hstep saved hsaved
    rw [hactual, h.current _ hlive (hs _ hreported)]

/-- The steps of the HTTP task in a call of a request with the credentials `wifi`. -/
def ServeCall.radioSteps (wifi : WifiEvidence) : ServeCall → List RadioStep
  | .setActualWifi _ _ => [.writeSsid wifi, .writePassword]
  | .wifiApstaConfigure _ _ => [.apstaConfigure]
  | .espWifiConnect => [.connect]
  | _ => []

/-- A request for a network. -/
def requestSteps (wifi : WifiEvidence) : List RadioStep :=
  [.writeSsid wifi, .writePassword, .apstaConfigure, .connect]

/-- The WiFi branch of the server takes these steps, in this order and as far as its calls work. -/
theorem connectWifi_radioSteps (answers : Answers) (wifi : WifiEvidence) (d : Device) :
    (Halting.final (connectWifi answers wifi (d.start answers))).calls.flatMap
      (ServeCall.radioSteps wifi) <+: requestSteps wifi := by
  obtain ⟨inbuf, write, configure, connect, ble, broker, nvs⟩ := answers
  cases write
  · exact ⟨[.apstaConfigure, .connect], rfl⟩
  · cases configure
    · exact ⟨[.connect], rfl⟩
    · cases connect <;> exact ⟨[], rfl⟩

/-- Two networks. -/
def homeWifi : WifiEvidence := ⟨lit "home", lit "secret", by decide, by decide⟩
def workWifi : WifiEvidence := ⟨lit "work", lit "passw0rd", by decide, by decide⟩

/-- One request, and its success. -/
theorem saved_is_connected_home :
    Runs.Along Radio.step Radio.Current (.boot .zeroed)
        (requestSteps homeWifi ++ [.saveLast, .saveWifi]) ∧
      ∃ outputs r, Runs.exec Radio.step (.boot .zeroed)
          (requestSteps homeWifi ++ [.saveLast, .saveWifi]) = some (outputs, r) ∧
        ∀ o ∈ outputs, ∀ saved ∈ o, saved.saved = saved.attempt.wifi := by
  have hcurrent : Runs.Along Radio.step Radio.Current (.boot .zeroed)
      (requestSteps homeWifi ++ [.saveLast, .saveWifi]) := by
    refine .cons (fun _ h => by cases h) rfl (.cons (fun _ h => by cases h) rfl ?_)
    refine .cons (fun _ h => by cases h) rfl (.cons (fun _ h => by cases h) rfl ?_)
    exact .cons (fun _ h => by cases h; rfl) rfl (.cons (fun _ h => by cases h; rfl) rfl trivial)
  exact ⟨hcurrent, _, _, rfl, saved_is_connected hcurrent rfl⟩

/-- A request for `home`, and one for `work` that writes `actual_wifi` before the success of the
first is handled: the device is connected to `home` and saves `work`. -/
theorem saved_other_network :
    (Runs.exec Radio.step (.boot .zeroed)
        (requestSteps homeWifi ++ [.writeSsid workWifi, .writePassword, .saveLast, .saveWifi])).map
        (fun result => result.1.filterMap id) =
      some [⟨workWifi, homeWifi, 1⟩, ⟨workWifi, homeWifi, 1⟩] ∧
      workWifi ≠ homeWifi := by
  decide +kernel

end Esp32Iot
