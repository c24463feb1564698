import Esp32Iot.Cayenne
import Esp32Iot.Lib.Runs

/-!
# The tasks that publish

When the station gets an address, the event loop connects to the broker with the stored account and
starts to publish: in the event loop itself when the first attempt succeeds, and in a task of its
own when a later one does, or when the client turns out to be connected. That last test comes right
after `CayenneInit`, which has just marked the client as not connected. Nothing records that a
publisher runs, and Bluetooth is started on the first of these ways and by every request for
`/ble_test`.

The steps of the event loop and of the HTTP task are taken here in any order. `single_publisher`
says that there is one publisher and one start of Bluetooth for each boot, over all runs in which
no attempt of the event loop succeeds while a publisher runs and Bluetooth is asked for once;
`second_publisher` is a device that gets its address twice.
-/

namespace Esp32Iot

open CStr (lit)

/-- Where the event loop is in `SYSTEM_EVENT_STA_GOT_IP`. -/
inductive GotIpPhase
  | idle
  /-- after `CayenneInit`, before `CayenneMQTTConnected` is tested -/
  | inited
  /-- before the first `connectClient` -/
  | trying
  /-- in the loop that repeats `connectClient` -/
  | retrying
  /-- before `bluetooth_initialize` -/
  | connected
  /-- in the loop around `cayenne_task`, which does not end -/
  | publishing
  deriving DecidableEq

/-- The device between two boots. -/
structure Telemetry where
  /-- the global `mqttClient` -/
  client : CayenneMqttClient
  phase : GotIpPhase
  /-- the HTTP task is between `CayenneInit` and `connectClient` of `/mqtt-setup` -/
  settingUp : Bool
  /-- the tasks of `cayenne_task_handler`, none of which ends -/
  tasks : Nat
  /-- the calls of `bluetooth_initialize` since the boot -/
  bluetoothStarts : Nat
  /-- an `ESP_ERROR_CHECK` has failed, and the device is about to reboot -/
  aborted : Bool
  deriving DecidableEq

def Telemetry.boot : Telemetry where
  client := cayenneInit (lit "") (lit "") (lit "")
  phase := .idle
  settingUp := false
  tasks := 0
  bluetoothStarts := 0
  aborted := false

/-- The loops around `cayenne_task`. -/
def Telemetry.publishers (s : Telemetry) : Nat :=
  s.tasks + if s.phase = .publishing then 1 else 0

/-- The steps of the event loop and of the HTTP task. -/
inductive TelemetryStep
  /-- `SYSTEM_EVENT_STA_GOT_IP` with the strings of `get_last_connected_mqtt`, up to
  `CayenneInit` -/
  | gotIp (username password clientID : CStr)
  /-- `if(!CayenneMQTTConnected(&mqttClient))`; `created` is whether `xTaskCreate` succeeds -/
  | test (created : Bool)
  /-- a `connectClient` of the event loop, and the `xTaskCreate` that may follow -/
  | connect (broker : Broker) (created : Bool)
  /-- `bluetooth_initialize` of the event loop; `ok` is whether it returns `ESP_OK` -/
  | bluetooth (ok : Bool)
  /-- a request for `/mqtt-setup` with these fields, up to `CayenneInit` -/
  | mqttSetup (username password clientID : CStr)
  /-- its `connectClient` -/
  | mqttConnect (broker : Broker)
  /-- a request for `/ble_test` -/
  | bleTest (ok : Bool)
  /-- `keepalive` gets no answer to its ping -/
  | pingLost
  /-- the device starts over -/
  | reboot
  deriving DecidableEq

/-- `xTaskCreate(&cayenne_task_handler, ...)`, the result of which is ignored, and the end of the
handler. -/
def Telemetry.createTask (s : Telemetry) (created : Bool) : Telemetry :=
  { s with tasks := s.tasks + (if created then 1 else 0), phase := .idle }

/-- `bluetooth_initialize` and the `ESP_ERROR_CHECK` of its result. -/
def Telemetry.startBluetooth (s : Telemetry) (ok : Bool) : Telemetry :=
  { s with bluetoothStarts := s.bluetoothStarts + 1, aborted := !ok }

/-- `connectClient` on the global client. -/
def Telemetry.connectClient (s : Telemetry) (broker : Broker) : Telemetry :=
  { s with client := (Esp32Iot.connectClient s.client broker).2 }

/-- The attempt succeeds. -/
def Telemetry.Connects (s : Telemetry) (broker : Broker) : Prop :=
  (Esp32Iot.connectClient s.client broker).1 = cayenneSuccess

instance Telemetry.decidableConnects (s : Telemetry) (broker : Broker) :
    Decidable (s.Connects broker) :=
  inferInstanceAs (Decidable (_ = _))

/-- One step of a device that is not about to reboot; a step that is not the next one of its task is
not enabled. -/
def Telemetry.next (s : Telemetry) : TelemetryStep → Option Telemetry
  | .gotIp username password clientID =>
      if s.phase = .idle then
        if username.nonEmpty && password.nonEmpty && clientID.nonEmpty then
          some { s with client := cayenneInit username password clientID, phase := .inited }
        else some s
      else none
  | .test created =>
      if s.phase = .inited then
        if s.client.isconnected then some (s.createTask created)
        else some { s with phase := .trying }
      else none
  | .connect broker created =>
      match s.phase with
      | .trying =>
          if s.Connects broker then some { s.connectClient broker with phase := .connected }
          else some { s.connectClient broker with phase := .retrying }
      | .retrying =>
          if s.Connects broker then some ((s.connectClient broker).createTask created)
          else some (s.connectClient broker)
      | _ => none
  | .bluetooth ok =>
      if s.phase = .connected then
        if ok then some { s.startBluetooth ok with phase := .publishing }
        else some (s.startBluetooth ok)
      else none
  | .mqttSetup username password clientID =>
      if s.settingUp then none
      else if username.nonEmpty && password.nonEmpty && clientID.nonEmpty then
        some { s with client := cayenneInit username password clientID, settingUp := true }
      else some s
  | .mqttConnect broker =>
      if s.settingUp then
        some { s.connectClient broker with settingUp := false, aborted := ¬ s.Connects broker }
      else none
  | .bleTest ok => if s.settingUp then none else some (s.startBluetooth ok)
  | .pingLost => some { s with client.isconnected := false }
  | .reboot => some .boot

/-- One step. A device on which an `ESP_ERROR_CHECK` has failed can only reboot. -/
def Telemetry.step (s : Telemetry) (e : TelemetryStep) : Option (Unit × Telemetry) :=
  if s.aborted && e ≠ .reboot then none else (s.next e).map ((), ·)

/-! ## One publisher -/

/-- At most one publisher runs, and Bluetooth was started at most once since the boot. -/
structure Telemetry.Single (s : Telemetry) : Prop where
  publisher : s.publishers ≤ 1
  bluetooth : s.bluetoothStarts ≤ 1

/-- No attempt of the event loop brings a connection, and the client is not found connected, while a
task publishes; and Bluetooth is asked for once: by a first attempt that succeeds, or by a request
for `/ble_test` that does not come between such an attempt and its start of Bluetooth. -/
def Telemetry.Paced (s : Telemetry) : TelemetryStep → Prop
  | .test created => s.client.isconnected = true → created = true → s.tasks = 0
  | .connect broker created => s.Connects broker →
      (s.phase = .trying → s.tasks = 0 ∧ s.bluetoothStarts = 0) ∧
      (s.phase = .retrying → created = true → s.tasks = 0)
  | .bleTest _ => s.bluetoothStarts = 0 ∧ s.phase ≠ .connected
  | _ => True

/-- A device that is about to start Bluetooth has not started it, and no task publishes. -/
def Telemetry.Ready (s : Telemetry) : Prop :=
  s.aborted = false → s.phase = .connected → s.tasks = 0 ∧ s.bluetoothStarts = 0

theorem Telemetry.single_boot : Telemetry.boot.Single := ⟨Nat.zero_le _, Nat.zero_le _⟩

section
variable {s t : Telemetry} {e : TelemetryStep}

/-- Steps that start nothing and do not end in a publishing event loop. -/
theorem Telemetry.Single.of_same (h : s.Single) (htasks : t.tasks = s.tasks)
    (hstarts : t.bluetoothStarts = s.bluetoothStarts) (hphase : t.phase = .publishing →
      s.phase = .publishing) : t.Single := by
  refine ⟨?_, hstarts ▸ h.bluetooth⟩
  refine Nat.le_trans ?_ h.publisher
  unfold Telemetry.publishers
  rw [htasks]
  by_cases hpub : t.phase = .publishing
  · rw [if_pos hpub, if_pos (hphase hpub)]
  · rw [if_neg hpub]
    exact Nat.le_add_right ..

/-- A task is created while there is none. -/
theorem Telemetry.Single.createTask (h : s.Single) {created : Bool}
    (htasks : created = true → s.tasks = 0) : (s.createTask created).Single := by
  refine ⟨?_, h.bluetooth⟩
  cases created with
  | false => exact Nat.le_trans (Nat.le_add_right ..) h.publisher
  | true => simp [Telemetry.publishers, Telemetry.createTask, htasks rfl]

/-- Bluetooth is started for the first time, and the phase stays as it is. -/
theorem Telemetry.Single.startBluetooth (h : s.Single) (hstarts : s.bluetoothStarts = 0)
    (ok : Bool) : (s.startBluetooth ok).Single :=
  ⟨h.publisher, by simp [Telemetry.startBluetooth, hstarts]⟩

/-- **What one step preserves.** -/
theorem Telemetry.Single.next (h : s.Single) (hr : s.Ready) (ha : s.aborted = false)
    (hok : s.Paced e) (hnext : s.next e = some t) : t.Single ∧ t.Ready := by
  cases e with
  | gotIp username password clientID =>
      simp only [Telemetry.next] at hnext
      split at hnext
      · split at hnext
        · cases hnext
          exact ⟨h.of_same rfl rfl nofun, fun _ => nofun⟩
        · cases hnext
          exact ⟨h, hr⟩
      · cases hnext
  | test created =>
      simp only [Telemetry.next] at hnext
      split at hnext
      · split at hnext
        · rename_i hconn
          cases hnext
          exact ⟨h.createTask (hok hconn), fun _ => nofun⟩
        · cases hnext
          exact ⟨h.of_same rfl rfl nofun, fun _ => nofun⟩
      · cases hnext
  | connect broker created =>
      simp only [Telemetry.next] at hnext
      split at hnext
      · rename_i hphase
        split at hnext
        · rename_i hconn
          cases hnext
          exact ⟨h.of_same rfl rfl nofun, fun _ _ => (hok hconn).1 hphase⟩
        · cases hnext
          exact ⟨h.of_same rfl rfl nofun, fun _ => nofun⟩
      · rename_i hphase
        split at hnext
        · rename_i hconn
          cases hnext
          have hsame : (s.connectClient broker).Single := h.of_same rfl rfl id
          exact ⟨hsame.createTask ((hok hconn).2 hphase), fun _ => nofun⟩
        · cases hnext
          exact ⟨h.of_same rfl rfl id, hr⟩
      · cases hnext
  | bluetooth ok =>
      simp only [Telemetry.next] at hnext
      split at hnext
      · rename_i hphase
        obtain ⟨htasks, hstarts⟩ := hr ha hphase
        cases ok with
        | true =>
            cases hnext
            refine ⟨⟨?_, (h.startBluetooth hstarts true).bluetooth⟩, fun _ => nofun⟩
            simp [Telemetry.publishers, Telemetry.startBluetooth, htasks]
        | false => cases hnext; exact ⟨h.startBluetooth hstarts false, nofun⟩
      · cases hnext
  | mqttSetup username password clientID =>
      simp only [Telemetry.next] at hnext
      split at hnext
      · cases hnext
      · split at hnext
        · cases hnext
          exact ⟨h.of_same rfl rfl id, hr⟩
        · cases hnext
          exact ⟨h, hr⟩
  | mqttConnect broker =>
      simp only [Telemetry.next] at hnext
      split at hnext
      · cases hnext
        exact ⟨h.of_same rfl rfl id, fun _ => hr ha⟩
      · cases hnext
  | bleTest ok =>
      simp only [Telemetry.next] at hnext
      split at hnext
      · cases hnext
      · cases hnext
        exact ⟨h.startBluetooth hok.1 ok, fun _ hphase => absurd hphase hok.2⟩
  | pingLost => cases hnext; exact ⟨h.of_same rfl rfl id, hr⟩
  | reboot => cases hnext; exact ⟨Telemetry.single_boot, fun _ => nofun⟩

theorem Telemetry.Single.step (h : s.Single ∧ s.Ready) (hok : s.Paced e)
    (hstep : s.step e = some ((), t)) : t.Single ∧ t.Ready := by
  unfold Telemetry.step at hstep
  split at hstep
  · cases hstep
  · rename_i hrun
    obtain ⟨u, hnext, heq⟩ := Option.map_eq_some_iff.1 hstep
    cases heq
    by_cases he : e = .reboot
    · subst he
      cases hnext
      exact ⟨Telemetry.single_boot, fun _ => nofun⟩
    · have ha : s.aborted = false := by simpa [he] using hrun
      exact h.1.next h.2 ha hok hnext

end

/-- **There is one publisher and one start of Bluetooth for each boot**, in every state of every run
whose steps meet `Paced`. -/
theorem single_publisher {steps : List TelemetryStep}
    (hok : Runs.Along Telemetry.step Telemetry.Paced Telemetry.boot steps) :
    ∀ s ∈ Telemetry.boot :: Runs.visited Telemetry.step Telemetry.boot steps, s.Single := by
  rw [List.forall_mem_cons]
  refine ⟨Telemetry.single_boot, fun s hs => ?_⟩
  exact (Runs.visited_forall (fun _ _ _ _ h hok hstep => Telemetry.Single.step h hok hstep)
    ⟨Telemetry.single_boot, fun _ => nofun⟩ hok s hs).1

/-- A broker that accepts the account. -/
def acceptingBroker : Broker := ⟨0, true, some 0⟩

/-- A broker that cannot be reached. -/
def unreachableBroker : Broker := ⟨-1, false, none⟩

/-- The first attempt fails, the second one succeeds, and Bluetooth is started by request. -/
theorem single_publisher_after_retry :
    ∃ u, Runs.exec Telemetry.step Telemetry.boot
        [.gotIp (lit "alice") (lit "secret") (lit "c1"), .test true,
          .connect unreachableBroker true, .connect acceptingBroker true, .bleTest true] =
        some ([(), (), (), (), ()], u) ∧ u.publishers = 1 ∧ u.bluetoothStarts = 1 ∧
      ∀ s ∈ Telemetry.boot :: Runs.visited Telemetry.step Telemetry.boot
        [.gotIp (lit "alice") (lit "secret") (lit "c1"), .test true,
          .connect unreachableBroker true, .connect acceptingBroker true, .bleTest true],
        s.Single := by
  refine ⟨_, rfl, rfl, rfl, single_publisher ?_⟩
  refine .cons trivial rfl (.cons (fun _ _ => rfl) rfl (.cons ?_ rfl (.cons ?_ rfl
    (.cons ⟨rfl, ?_⟩ rfl trivial))))
  · exact fun _ => ⟨fun _ => ⟨rfl, rfl⟩, fun _ _ => rfl⟩
  · exact fun _ => ⟨nofun, fun _ _ => rfl⟩
  · exact nofun

/-- The address is lost and got again: the task of the first connection goes on, and the event loop
publishes as well. -/
theorem second_publisher :
    ∃ u, Runs.exec Telemetry.step Telemetry.boot
        [.gotIp (lit "alice") (lit "secret") (lit "c1"), .test true,
          .connect unreachableBroker true, .connect acceptingBroker true,
          .gotIp (lit "alice") (lit "secret") (lit "c1"), .test true,
          .connect acceptingBroker true, .bluetooth true] =
        some ([(), (), (), (), (), (), (), ()], u) ∧
      u.publishers = 2 ∧ ¬ u.Single := by
  refine ⟨_, rfl, rfl, fun h => ?_⟩
  exact absurd h.publisher (by decide)

end Esp32Iot
