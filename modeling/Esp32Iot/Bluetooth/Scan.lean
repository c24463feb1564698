import Esp32Iot.CString
import Esp32Iot.Lib.Runs

/-!
# Scanning for the sensor tag and connecting to it

The GAP callback opens a connection to the first device that advertises the name of the tag, and
the profile's handler restarts the scan when a connection ends. The two share four variables: the
flags `Isconnecting`, `stop_scan_done` and `conn_device`, and the address of the last device that
was opened. A handler is a function of these that returns the calls it makes; what the calls do and
which events may follow is the part of the stack (`Controller`), of which it is assumed that a scan
runs until it is stopped or reported complete and that each open is answered once.

`alive_iff_recovers` says in which runs the client never gets stuck without a scan, an attempt or a
connection, and `openFailed_dead` is a run in which it does. `open_only_when_idle` says that there
is never more than one attempt or connection, over all runs in which no disconnection of the stored
address is reported while an attempt is pending; `openTwice` is a run in which one is.
-/

namespace Esp32Iot

/-- `esp_bd_addr_t`: the six bytes of a device address. -/
abbrev BdAddr := BitVec 48

/-- `remote_device_name[0]`. -/
def remoteDeviceName : Bytes := bytes "MEAS Tag BA5C"

/-! ## The handlers -/

/-- What the two callbacks share: two flags of the file, and three fields of the profile. -/
structure BleLink where
  isconnecting : Bool
  stopScanDone : Bool
  connDevice : Bool
  remoteBda : BdAddr
  connId : UInt16
  deriving DecidableEq

/-- The calls into the stack. -/
inductive BleCall
  /-- `esp_ble_gap_start_scanning(30)` -/
  | startScanning
  /-- `esp_ble_gap_stop_scanning()` -/
  | stopScanning
  /-- `esp_ble_gattc_open(gattc_if, bda, true)` -/
  | gattcOpen (bda : BdAddr)
  /-- `esp_ble_gattc_send_mtu_req(gattc_if, conn_id)` -/
  | sendMtuReq (connId : UInt16)
  deriving DecidableEq

/-- The events that reach the two callbacks while the client looks for the tag or is connected to
it. -/
inductive BleEvent
  /-- `ESP_GAP_SEARCH_INQ_RES_EVT`; the name is what `esp_ble_resolve_adv_data` finds -/
  | scanResult (bda : BdAddr) (advName : Option Bytes)
  /-- `ESP_GAP_SEARCH_INQ_CMPL_EVT` -/
  | scanComplete
  /-- `ESP_GATTC_OPEN_EVT`; `ok` is `status == ESP_GATT_OK` -/
  | opened (bda : BdAddr) (connId : UInt16) (ok : Bool)
  /-- `ESP_GATTC_WRITE_DESCR_EVT` -/
  | writeDescr (ok : Bool)
  /-- `ESP_GATTC_WRITE_CHAR_EVT` -/
  | writeChar (ok : Bool)
  /-- `ESP_GATTC_DISCONNECT_EVT` -/
  | disconnected (bda : BdAddr)
  deriving DecidableEq

/-- `start_scan`. -/
def startScan (l : BleLink) : List BleCall × BleLink :=
  ([.startScanning], { l with stopScanDone := false, isconnecting := false })

/-- `esp_gap_cb` on a scan result. -/
def onScanResult (l : BleLink) (bda : BdAddr) (advName : Option Bytes) : List BleCall × BleLink :=
  if l.isconnecting then ([], l)
  else if l.connDevice && !l.stopScanDone then ([.stopScanning], { l with stopScanDone := true })
  else if advName = some remoteDeviceName then
    if l.connDevice = false then
      ([.stopScanning, .gattcOpen bda], { l with connDevice := true, isconnecting := true })
    else ([], l)
  else ([], l)

/-- `gattc_profile_BA5C_event_handler` on `ESP_GATTC_OPEN_EVT`. -/
def onOpened (l : BleLink) (bda : BdAddr) (connId : UInt16) (ok : Bool) : List BleCall × BleLink :=
  -- the `start_scan` of the failing branch is commented out in the source
  if ok then ([.sendMtuReq connId], { l with remoteBda := bda, connId := connId })
  else ([], { l with connDevice := false })

/-- `gattc_profile_BA5C_event_handler` on `ESP_GATTC_DISCONNECT_EVT`. -/
def onDisconnected (l : BleLink) (bda : BdAddr) : List BleCall × BleLink :=
  if bda = l.remoteBda then
    ((startScan l).1, { (startScan l).2 with connDevice := false })
  else startScan l

/-- `esp_gap_cb` and `gattc_profile_BA5C_event_handler` on these events. -/
def BleLink.handle (l : BleLink) : BleEvent → List BleCall × BleLink
  | .scanResult bda advName => onScanResult l bda advName
  | .scanComplete => ([], l)
  | .opened bda connId ok => onOpened l bda connId ok
  | .writeDescr _ => ([], l)
  | .writeChar _ => startScan l
  | .disconnected bda => onDisconnected l bda

/-! ## The stack -/

/-- What the stack is doing for the client. -/
structure Controller where
  /-- a scan is running -/
  scanning : Bool
  /-- the opens that have not been answered -/
  opening : List BdAddr
  /-- the devices that are connected -/
  connected : List BdAddr
  deriving DecidableEq

/-- The effect of a call. -/
def Controller.call (c : Controller) : BleCall → Controller
  | .startScanning => { c with scanning := true }
  | .stopScanning => { c with scanning := false }
  | .gattcOpen bda => { c with opening := c.opening ++ [bda] }
  | .sendMtuReq _ => c

/-- The calls in order, each with the state of the stack in which it is made. -/
def Controller.perform (c : Controller) : List BleCall → List (BleCall × Controller) × Controller
  | [] => ([], c)
  | call :: calls =>
      ((call, c) :: ((c.call call).perform calls).1, ((c.call call).perform calls).2)

/-- What has happened when an event is reported: a scan is reported complete only while it runs, and
an open is answered only while it is pending. A disconnection may be reported of any address. -/
def Controller.report (c : Controller) : BleEvent → Option Controller
  | .scanComplete => if c.scanning then some { c with scanning := false } else none
  | .opened bda _ ok =>
      if bda ∈ c.opening then
        some { c with
          opening := c.opening.erase bda
          connected := if ok then c.connected.insert bda else c.connected }
      else none
  | .disconnected bda => some { c with connected := c.connected.filter (· ≠ bda) }
  | .scanResult .. | .writeDescr _ | .writeChar _ => some c

/-- The client and the stack. -/
structure BleClient where
  link : BleLink
  ctl : Controller
  deriving DecidableEq

/-- `ESP_GAP_BLE_SCAN_PARAM_SET_COMPLETE_EVT` has started the first scan. -/
def BleClient.scanStarted : BleClient where
  link := ⟨false, false, false, 0, 0⟩
  ctl := ⟨true, [], []⟩

/-- An event is reported and handled. What is emitted are the calls of the handler, each with the
state of the stack in which it is made. -/
def BleClient.step (s : BleClient) (e : BleEvent) :
    Option (List (BleCall × Controller) × BleClient) :=
  (s.ctl.report e).map fun ctl =>
    ((ctl.perform (s.link.handle e).1).1,
      ⟨(s.link.handle e).2, (ctl.perform (s.link.handle e).1).2⟩)

/-- What an event can do to the client: the calls of the handler, each with the state of the stack
in which it is made, and the state after them. -/
inductive BleClient.Outcome (l : BleLink) (c : Controller) :
    BleEvent → List (BleCall × Controller) → BleClient → Prop
  /-- a scan result that is not looked at, or not of the tag -/
  | ignored (bda : BdAddr) (advName : Option Bytes) :
      Outcome l c (.scanResult bda advName) [] ⟨l, c⟩
  /-- the client has its device -/
  | scanStopped (bda : BdAddr) (advName : Option Bytes) (hdev : l.connDevice = true) :
      Outcome l c (.scanResult bda advName) [(.stopScanning, c)]
        ⟨{ l with stopScanDone := true }, { c with scanning := false }⟩
  | tagFound (bda : BdAddr) (advName : Option Bytes) (hdev : l.connDevice = false) :
      Outcome l c (.scanResult bda advName)
        [(.stopScanning, c), (.gattcOpen bda, { c with scanning := false })]
        ⟨{ l with connDevice := true, isconnecting := true },
          { c with scanning := false, opening := c.opening ++ [bda] }⟩
  | scanOver : Outcome l c .scanComplete [] ⟨l, { c with scanning := false }⟩
  | openFailed (bda : BdAddr) (connId : UInt16) (hmem : bda ∈ c.opening) :
      Outcome l c (.opened bda connId false) []
        ⟨{ l with connDevice := false }, { c with opening := c.opening.erase bda }⟩
  | openDone (bda : BdAddr) (connId : UInt16) (hmem : bda ∈ c.opening) :
      Outcome l c (.opened bda connId true)
        [(.sendMtuReq connId,
          { c with opening := c.opening.erase bda, connected := c.connected.insert bda })]
        ⟨{ l with remoteBda := bda, connId := connId },
          { c with opening := c.opening.erase bda, connected := c.connected.insert bda }⟩
  | descrWritten (ok : Bool) : Outcome l c (.writeDescr ok) [] ⟨l, c⟩
  | charWritten (ok : Bool) :
      Outcome l c (.writeChar ok) [(.startScanning, c)]
        ⟨{ l with stopScanDone := false, isconnecting := false }, { c with scanning := true }⟩
  | tagLost :
      Outcome l c (.disconnected l.remoteBda)
        [(.startScanning, { c with connected := c.connected.filter (· ≠ l.remoteBda) })]
        ⟨{ l with stopScanDone := false, isconnecting := false, connDevice := false },
          { c with scanning := true, connected := c.connected.filter (· ≠ l.remoteBda) }⟩
  | otherLost (bda : BdAddr) (hbda : bda ≠ l.remoteBda) :
      Outcome l c (.disconnected bda)
        [(.startScanning, { c with connected := c.connected.filter (· ≠ bda) })]
        ⟨{ l with stopScanDone := false, isconnecting := false },
          { c with scanning := true, connected := c.connected.filter (· ≠ bda) }⟩

/-- What a scan result makes the callback do: nothing, stop the scan of a client that has its
device, or open the tag. -/
theorem onScanResult_cases (l : BleLink) (bda : BdAddr) (advName : Option Bytes) :
    onScanResult l bda advName = ([], l) ∨
    l.connDevice = true ∧
      onScanResult l bda advName = ([.stopScanning], { l with stopScanDone := true }) ∨
    l.connDevice = false ∧
      onScanResult l bda advName =
        ([.stopScanning, .gattcOpen bda], { l with connDevice := true, isconnecting := true }) := by
  unfold onScanResult
  split
  · exact .inl rfl
  · split
    · rename_i hdev
      rw [Bool.and_eq_true] at hdev
      exact .inr (.inl ⟨hdev.1, rfl⟩)
    · split
      · split
        · rename_i hdev
          exact .inr (.inr ⟨hdev, rfl⟩)
        · exact .inl rfl
      · exact .inl rfl

/-- Every step is one of these. -/
theorem BleClient.step_outcome {s t : BleClient} {e : BleEvent} {o : List (BleCall × Controller)}
    (h : s.step e = some (o, t)) : BleClient.Outcome s.link s.ctl e o t := by
  obtain ⟨ctl, hctl, heq⟩ := Option.map_eq_some_iff.1 h
  cases heq
  cases e with
  | scanResult bda advName =>
      cases hctl
      simp only [BleLink.handle]
      obtain heq | ⟨hdev, heq⟩ | ⟨hdev, heq⟩ := onScanResult_cases s.link bda advName
      · rw [heq]
        exact .ignored bda advName
      · rw [heq]
        exact .scanStopped bda advName hdev
      · rw [heq]
        exact .tagFound bda advName hdev
  | scanComplete =>
      simp only [Controller.report] at hctl
      split at hctl
      · cases hctl
        exact .scanOver
      · cases hctl
  | opened bda connId ok =>
      simp only [Controller.report] at hctl
      split at hctl
      · rename_i hmem
        cases hctl
        cases ok with
        | false => exact .openFailed bda connId hmem
        | true => exact .openDone bda connId hmem
      · cases hctl
  | writeDescr ok => cases hctl; exact .descrWritten ok
  | writeChar ok => cases hctl; exact .charWritten ok
  | disconnected bda =>
      cases hctl
      simp only [BleLink.handle, onDisconnected]
      split
      · rename_i hbda
        rw [hbda]
        exact .tagLost
      · rename_i hbda
        exact .otherLost bda hbda

/-! ## No dead state -/

/-- The client can still get to its device: a scan runs whose results it looks at, an attempt is
pending, or a device is connected; and while it ignores scan results it holds a device. -/
structure BleClient.Alive (s : BleClient) : Prop where
  live : (s.ctl.scanning = true ∧ s.link.isconnecting = false) ∨ s.ctl.opening ≠ [] ∨
    s.ctl.connected ≠ []
  holds : s.link.isconnecting = true → s.link.connDevice = true

/-- The event finds the client in a state that the handler leaves alive: a scan completes only while
an attempt is pending or a device is connected, and an attempt fails only when scan results are
looked at again and there is a scan, another attempt or a connection. -/
def BleClient.Recovers (s : BleClient) : BleEvent → Prop
  | .scanComplete => s.ctl.opening ≠ [] ∨ s.ctl.connected ≠ []
  | .opened bda _ false =>
      s.link.isconnecting = false ∧
        (s.ctl.scanning = true ∨ s.ctl.opening.erase bda ≠ [] ∨ s.ctl.connected ≠ [])
  | _ => True

/-- `conn_device` stands for an attempt or for the connection to the stored address. -/
def BleClient.Backed (s : BleClient) : Prop :=
  s.link.connDevice = true → s.ctl.opening ≠ [] ∨ s.link.remoteBda ∈ s.ctl.connected

theorem BleClient.alive_scanStarted : BleClient.scanStarted.Alive :=
  ⟨.inl ⟨rfl, rfl⟩, nofun⟩

theorem BleClient.backed_scanStarted : BleClient.scanStarted.Backed :=
  nofun

section
variable {s t : BleClient} {o : List (BleCall × Controller)}

theorem BleClient.Backed.step {e : BleEvent} (hs : s.Backed) (h : s.step e = some (o, t)) :
    t.Backed := by
  cases BleClient.step_outcome h with
  | ignored | scanStopped | scanOver | descrWritten | charWritten => exact hs
  | tagFound => exact fun _ => .inl (List.append_ne_nil_of_right_ne_nil _ (List.cons_ne_nil _ _))
  | openFailed | tagLost => exact nofun
  | openDone => exact fun _ => .inr List.mem_insert_self
  | otherLost bda hbda =>
      intro hdev
      refine (hs hdev).imp id fun hmem => List.mem_filter.2 ⟨hmem, ?_⟩
      exact decide_eq_true hbda.symm

/-- **A step keeps the client alive exactly when it meets `Recovers`.** -/
theorem BleClient.Alive.step_iff {e : BleEvent} (hb : s.Backed) (hs : s.Alive)
    (h : s.step e = some (o, t)) : t.Alive ↔ s.Recovers e := by
  cases BleClient.step_outcome h with
  | ignored | descrWritten => exact iff_of_true hs trivial
  | scanStopped bda advName hdev =>
      refine iff_of_true ⟨.inr ?_, fun _ => hdev⟩ trivial
      exact (hb hdev).imp id fun hmem => List.ne_nil_of_mem hmem
  | tagFound bda advName hdev =>
      refine iff_of_true ⟨.inr (.inl ?_), fun _ => rfl⟩ trivial
      exact List.append_ne_nil_of_right_ne_nil _ (List.cons_ne_nil _ _)
  | scanOver =>
      constructor
      · intro ht
        exact ht.live.resolve_left nofun
      · intro hrec
        exact ⟨.inr hrec, hs.holds⟩
  | openFailed bda connId hmem =>
      constructor
      · rintro ⟨hlive, hholds⟩
        have hconn : s.link.isconnecting = false :=
          Bool.eq_false_iff.2 fun hc => nomatch hholds hc
        exact ⟨hconn, hlive.imp And.left id⟩
      · rintro ⟨hconn, hlive⟩
        exact ⟨hlive.imp (⟨·, hconn⟩) id, fun hc => nomatch hconn.symm.trans hc⟩
  | openDone bda connId hmem =>
      refine iff_of_true ⟨.inr (.inr ?_), hs.holds⟩ trivial
      exact List.ne_nil_of_mem List.mem_insert_self
  | charWritten | tagLost | otherLost => exact iff_of_true ⟨.inl ⟨rfl, rfl⟩, nofun⟩ trivial

end

/-- **The client never gets stuck, exactly in the runs whose events all meet `Recovers`.** In the
others an attempt fails while nothing restarts the scan, or the scan runs out before the tag was
seen. -/
theorem alive_iff_recovers {events : List BleEvent} {os : List (List (BleCall × Controller))}
    {u : BleClient} (h : Runs.exec BleClient.step BleClient.scanStarted events = some (os, u)) :
    (∀ s ∈ BleClient.scanStarted :: Runs.visited BleClient.step BleClient.scanStarted events,
      s.Alive) ↔ Runs.Along BleClient.step BleClient.Recovers BleClient.scanStarted events := by
  rw [List.forall_mem_cons, and_iff_right BleClient.alive_scanStarted]
  exact Runs.visited_forall_iff (fun _ _ _ _ hb hstep => hb.step hstep)
    (fun _ _ _ _ hb ha hstep => ha.step_iff hb hstep) BleClient.backed_scanStarted
    BleClient.alive_scanStarted h

/-- The tag is found, opened and lost, and its second attempt fails after another device's
disconnection has restarted the scan. -/
theorem alive_iff_recovers_reconnect :
    ∃ os u, Runs.exec BleClient.step BleClient.scanStarted
        [.scanResult 1 (some remoteDeviceName), .opened 1 0 true, .writeChar true, .scanComplete,
          .disconnected 1, .scanResult 1 (some remoteDeviceName), .disconnected 2,
          .opened 1 0 false] = some (os, u) ∧
      ∀ s ∈ BleClient.scanStarted :: Runs.visited BleClient.step BleClient.scanStarted
        [.scanResult 1 (some remoteDeviceName), .opened 1 0 true, .writeChar true, .scanComplete,
          .disconnected 1, .scanResult 1 (some remoteDeviceName), .disconnected 2,
          .opened 1 0 false], s.Alive := by
  refine ⟨_, _, rfl, (alive_iff_recovers rfl).2 ?_⟩
  refine .cons trivial rfl (.cons trivial rfl (.cons trivial rfl (.cons (.inr nofun) rfl ?_)))
  exact .cons trivial rfl (.cons trivial rfl (.cons trivial rfl
    (.cons ⟨rfl, .inl rfl⟩ rfl trivial)))

/-- The attempt to connect fails: the client ignores all further scan results, and there will be
none. -/
theorem openFailed_dead :
    ∃ os u, Runs.exec BleClient.step BleClient.scanStarted
        [.scanResult 1 (some remoteDeviceName), .opened 1 0 false] = some (os, u) ∧
      ¬ u.Alive ∧ u.ctl.scanning = false ∧ u.ctl.opening = [] ∧ u.ctl.connected = [] ∧
      u.link.isconnecting = true ∧ u.link.connDevice = false := by
  refine ⟨_, _, rfl, fun ha => ?_, rfl, rfl, rfl, rfl, rfl⟩
  exact nomatch ha.holds rfl

/-! ## One attempt at a time -/

/-- No disconnection of the stored address is reported while an attempt is pending. The stored
address is that of the last device that was opened with success, and not of the attempt. -/
def BleClient.Settled (s : BleClient) : BleEvent → Prop
  | .disconnected bda => bda = s.link.remoteBda → s.ctl.opening = []
  | _ => True

/-- A call that opens a device is made while no open is unanswered and no device is connected. -/
def OpensWhenIdle (c : BleCall × Controller) : Prop :=
  ∀ bda, c.1 = .gattcOpen bda → c.2.opening = [] ∧ c.2.connected = []

/-- There is at most one attempt or connection, `conn_device` is set while there is one, and a
connection is to the stored address. -/
structure BleClient.Single (s : BleClient) : Prop where
  atMostOne : s.ctl.opening = [] ∧ s.ctl.connected = [] ∨
    (∃ bda, s.ctl.opening = [bda]) ∧ s.ctl.connected = [] ∨
    s.ctl.opening = [] ∧ s.ctl.connected = [s.link.remoteBda]
  held : s.link.connDevice = false → s.ctl.opening = [] ∧ s.ctl.connected = []

theorem BleClient.single_scanStarted : BleClient.scanStarted.Single :=
  ⟨.inl ⟨rfl, rfl⟩, fun _ => ⟨rfl, rfl⟩⟩

section
variable {s t : BleClient} {o : List (BleCall × Controller)}

/-- An answer is to the one attempt, so nothing is connected before it. -/
theorem BleClient.Single.only {bda : BdAddr} (hs : s.Single) (hmem : bda ∈ s.ctl.opening) :
    s.ctl.opening = [bda] ∧ s.ctl.connected = [] := by
  obtain ⟨hnil, -⟩ | ⟨⟨bda', hone⟩, hconnected⟩ | ⟨hnil, -⟩ := hs.atMostOne
  · rw [hnil] at hmem
    cases hmem
  · rw [hone, List.mem_singleton] at hmem
    exact ⟨hmem ▸ hone, hconnected⟩
  · rw [hnil] at hmem
    cases hmem

theorem BleClient.Single.step {e : BleEvent} (hs : s.Single) (hok : s.Settled e)
    (h : s.step e = some (o, t)) : t.Single := by
  cases BleClient.step_outcome h with
  | ignored | descrWritten => exact hs
  | scanStopped | scanOver | charWritten => exact ⟨hs.atMostOne, hs.held⟩
  | tagFound bda advName hdev =>
      obtain ⟨hopening, hconnected⟩ := hs.held hdev
      exact ⟨.inr (.inl ⟨⟨bda, by simp [hopening]⟩, hconnected⟩), nofun⟩
  | openFailed bda connId hmem =>
      obtain ⟨hopening, hconnected⟩ := hs.only hmem
      have hnone : s.ctl.opening.erase bda = [] := by simp [hopening]
      exact ⟨.inl ⟨hnone, hconnected⟩, fun _ => ⟨hnone, hconnected⟩⟩
  | openDone bda connId hmem =>
      obtain ⟨hopening, hconnected⟩ := hs.only hmem
      have hdev : s.link.connDevice = true := by
        by_contra hdev
        have hnil := (hs.held (Bool.eq_false_iff.2 hdev)).1
        rw [hopening] at hnil
        cases hnil
      refine ⟨.inr (.inr ⟨by simp [hopening], by simp [hconnected]⟩), fun hdev' => ?_⟩
      exact nomatch hdev.symm.trans hdev'
  | tagLost =>
      have hopening := hok rfl
      have hconnected : s.ctl.connected.filter (· ≠ s.link.remoteBda) = [] := by
        obtain ⟨-, hnil⟩ | ⟨-, hnil⟩ | ⟨-, hone⟩ := hs.atMostOne
        · simp [hnil]
        · simp [hnil]
        · simp [hone]
      exact ⟨.inl ⟨hopening, hconnected⟩, fun _ => ⟨hopening, hconnected⟩⟩
  | otherLost bda hbda =>
      have hconnected : s.ctl.connected.filter (· ≠ bda) = s.ctl.connected := by
        obtain ⟨-, hnil⟩ | ⟨-, hnil⟩ | ⟨-, hone⟩ := hs.atMostOne
        · simp [hnil]
        · simp [hnil]
        · simp [hone, hbda.symm]
      rw [hconnected]
      exact ⟨hs.atMostOne, hs.held⟩

/-- Only a scan result opens a device, and it does so only while `conn_device` is not set. -/
theorem BleClient.Single.opens {e : BleEvent} (hs : s.Single) (h : s.step e = some (o, t)) :
    ∀ c ∈ o, OpensWhenIdle c := by
  cases BleClient.step_outcome h with
  | ignored | scanOver | openFailed | descrWritten => exact nofun
  | scanStopped | openDone | charWritten | tagLost | otherLost =>
      rintro c (_ | ⟨_, ⟨⟩⟩)
      exact nofun
  | tagFound bda advName hdev =>
      rintro c (_ | ⟨_, _ | ⟨_, ⟨⟩⟩⟩)
      · exact nofun
      · exact fun _ _ => hs.held hdev

end

/-- **There is one attempt at a time**, in every run in which no disconnection of the stored address
is reported while an attempt is pending. -/
theorem open_only_when_idle {events : List BleEvent} {os : List (List (BleCall × Controller))}
    {u : BleClient} (h : Runs.exec BleClient.step BleClient.scanStarted events = some (os, u))
    (hok : Runs.Along BleClient.step BleClient.Settled BleClient.scanStarted events) :
    ∀ o ∈ os, ∀ c ∈ o, OpensWhenIdle c :=
  Runs.exec_outputs (fun _ _ _ _ hs hok hstep => BleClient.Single.step hs hok hstep)
    (fun _ _ _ _ hs _ hstep => BleClient.Single.opens hs hstep) BleClient.single_scanStarted hok h

/-- The tag is opened, lost and opened again, while another device's disconnection is reported. -/
theorem open_only_when_idle_reconnect :
    ∃ os u, Runs.exec BleClient.step BleClient.scanStarted
        [.scanResult 1 (some remoteDeviceName), .opened 1 0 true, .disconnected 1,
          .scanResult 1 (some remoteDeviceName), .disconnected 2, .opened 1 0 true] =
        some (os, u) ∧ ∀ o ∈ os, ∀ c ∈ o, OpensWhenIdle c := by
  refine ⟨_, _, rfl, ?_⟩
  refine @open_only_when_idle
    [.scanResult 1 (some remoteDeviceName), .opened 1 0 true, .disconnected 1,
      .scanResult 1 (some remoteDeviceName), .disconnected 2, .opened 1 0 true] _ _ rfl ?_
  refine .cons trivial rfl (.cons trivial rfl (.cons (fun _ => rfl) rfl ?_))
  exact .cons trivial rfl (.cons nofun rfl (.cons trivial rfl trivial))

/-- The tag is opened and lost, and while it is being opened again its disconnection is reported a
second time: the next scan result opens it once more, with the earlier open unanswered. -/
theorem openTwice :
    ∃ os u, Runs.exec BleClient.step BleClient.scanStarted
        [.scanResult 1 (some remoteDeviceName), .opened 1 0 true, .disconnected 1,
          .scanResult 1 (some remoteDeviceName), .disconnected 1,
          .scanResult 1 (some remoteDeviceName)] = some (os, u) ∧
      u.ctl.opening = [1, 1] ∧ ¬ ∀ o ∈ os, ∀ c ∈ o, OpensWhenIdle c := by
  refine ⟨_, _, rfl, rfl, fun hidle => ?_⟩
  -- the second call of the last event is the open
  have hopen := hidle [(.stopScanning, ⟨true, [1], []⟩), (.gattcOpen 1, ⟨false, [1], []⟩)]
    (by decide) (.gattcOpen 1, ⟨false, [1], []⟩) (by decide) 1 rfl
  exact nomatch hopen.1

end Esp32Iot
