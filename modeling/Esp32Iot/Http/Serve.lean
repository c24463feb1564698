import Esp32Iot.Http.Form
import Esp32Iot.Http.Route
import Esp32Iot.Lib.Runs
import Esp32Iot.Wifi.Event

/-!
# Serving a request

`http_server_netconn_serve` (`HttpServer/esp32iot_http_server.c`) as a program over the device: the
store, the Cayenne client and the globals that outlive a request. The calls it makes are recorded in
order, and everything that decides about their return codes is an argument (`Answers`).

The return codes of the field parsers are not looked at. A field that a request lacks leaves its
destination as it is: the local arrays of the WiFi branch, which then hold what the stack held, or
the globals of the MQTT branch, which then hold the value of an earlier request.
-/

namespace Esp32Iot

open CStr (lit)
open Halting (bind_of_ok bind_of_error)

/-- The pages of the server. -/
inductive Page
  | index
  | wifiSetup
  | mqttSetup
  | notFoundError
  | success
  | emptyFieldForm
  deriving DecidableEq

/-- The calls of `http_server_netconn_serve` that reach beyond it. -/
inductive ServeCall
  /-- the header and the body of a page -/
  | netconnWrite (page : Page)
  | netconnClose
  /-- with a buffer, or with `NULL` -/
  | netbufDelete (inbuf : Option Nat)
  /-- the two `strcpy` to `actual_wifi` -/
  | setActualWifi (ssid password : CStr)
  | wifiApstaConfigure (ssid password : CStr)
  | espWifiConnect
  | cayenneInit (username password clientID : CStr)
  | connectClient
  | saveLastConnectedMqtt (username password clientID : CStr)
  | eraseStorage
  | resetRestartCounter
  | bluetoothInitialize
  | espRestart
  deriving DecidableEq

/-- Why a request is not served to its end. -/
inductive Ended
  /-- a call of the storage module did not return, or an access left an array -/
  | halted (halt : Halt)
  /-- `ESP_ERROR_CHECK` of the error code of another call -/
  | aborted
  /-- `esp_restart` -/
  | restarted
  deriving DecidableEq

/-- What the calls made for one request return. -/
structure Answers where
  /-- what `netconn_recv` leaves in `inbuf`: a buffer, or `NULL` -/
  inbuf : Option Nat
  /-- the second `netconn_write` of a page succeeds -/
  netconnWrite : Bool
  wifiApstaConfigure : Bool
  espWifiConnect : Bool
  bluetoothInitialize : Bool
  broker : Broker
  /-- the fates of the NVS calls -/
  nvs : List Fate
  deriving DecidableEq

/-- The local arrays of the WiFi branch, with what the stack held before. -/
structure ServeStack where
  ssid : CharArray 33
  password : CharArray 64
  deriving DecidableEq

/-- The device, as far as a request can see it. -/
structure Device where
  flash : Flash
  actualWifi : WifiEvidence
  username : CStr
  password : CStr
  clientID : CStr
  client : CayenneMqttClient
  /-- the calls made for the present request -/
  calls : List ServeCall

/-- The globals after a boot. -/
def Device.boot (flash : Flash) : Device where
  flash := flash
  actualWifi := .zeroed
  username := lit ""
  password := lit ""
  clientID := lit ""
  client := cayenneInit (lit "") (lit "") (lit "")
  calls := []

/-- A program over the device. -/
abbrev Serve := EStateM Ended Device

/-! ## The branches -/

/-- Make a call. -/
def emit (call : ServeCall) : Serve Unit := modify fun d => { d with calls := d.calls ++ [call] }

/-- `ESP_ERROR_CHECK` of a return code: any but that of success reboots the device. -/
def check (ok : Bool) : Serve Unit :=
  if ok then pure () else throw .aborted

/-- A call of the storage module. -/
def storage (program : Nvs Unit) : Serve Unit := fun d =>
  match program d.flash with
  | .ok _ f => .ok () { d with flash := f }
  | .error halt f => .error (.halted halt) { d with flash := f }

/-- Write a page. -/
def respond (answers : Answers) (page : Page) : Serve Unit := do
  emit (.netconnWrite page)
  check answers.netconnWrite

/-- Close the connection and delete the buffer. -/
def closeConnection (answers : Answers) : Serve Unit := do
  emit .netconnClose
  emit (.netbufDelete answers.inbuf)

/-- The value of a step that leaves no array. -/
def within {α : Type} : Option α → Serve α
  | some a => pure a
  | none => throw (.halted .overrun)

theorem within_some_bind {α β : Type} (a : α) (g : α → Serve β) (d : Device) :
    (within (some a) >>= g) d = g a d := rfl

/-- A local array after `parse_http_request`. -/
def fieldToArray {n : Nat} (recvBuf key : CStr) (value : CharArray n) : Option (CharArray n) :=
  match parseHttpRequest recvBuf key with
  | .error .notFound => some value
  | .error .overrun => none
  | .ok found => value.strcpy found

/-- The string a global points to after `parse_http_request2`. -/
def fieldToGlobal (recvBuf key value : CStr) : Option CStr :=
  match parseHttpRequest2 recvBuf key with
  | .error .notFound => some value
  | .error .overrun => none
  | .ok found => some found

/-- The strings of the local arrays, when both are terminated. -/
def evidenceOf (ssid : CharArray 33) (password : CharArray 64) : Option WifiEvidence :=
  match hs : ssid.read, hp : password.read with
  | some s, some p => some ⟨s, p, CharArray.length_lt_of_read hs, CharArray.length_lt_of_read hp⟩
  | _, _ => none

/-- From the `strcpy` to `actual_wifi` to `esp_wifi_connect`. -/
def connectWifi (answers : Answers) (actualWifi : WifiEvidence) : Serve Unit := do
  modify fun d => { d with actualWifi := actualWifi }
  emit (.setActualWifi actualWifi.ssid actualWifi.password)
  respond answers .success
  closeConnection answers
  emit (.wifiApstaConfigure actualWifi.ssid actualWifi.password)
  check answers.wifiApstaConfigure
  emit .espWifiConnect
  check answers.espWifiConnect

/-- The branch `/wifi-setup`. -/
def wifiSetup (recvBuf : CStr) (answers : Answers) (stack : ServeStack) : Serve Unit := do
  let ssid ← within (fieldToArray recvBuf (lit "ssid") stack.ssid)
  if ssid.nonEmpty then
    let password ← within (fieldToArray recvBuf (lit "password") stack.password)
    connectWifi answers (← within (evidenceOf ssid password))
  else
    respond answers .emptyFieldForm
    closeConnection answers

/-- From `CayenneInit` to `save_last_connected_mqtt`. -/
def connectAndSave (username password clientID : CStr) (broker : Broker) : Serve Unit := do
  emit (.cayenneInit username password clientID)
  emit .connectClient
  let (err, client) :=
    Esp32Iot.connectClient (Esp32Iot.cayenneInit username password clientID) broker
  modify fun d => { d with client := client }
  check (err = cayenneSuccess)
  emit (.saveLastConnectedMqtt username password clientID)
  storage (Esp32Iot.saveLastConnectedMqtt username password clientID)

theorem connectAndSave_of_success {username password clientID : CStr} {broker : Broker} (d : Device)
    (h : (Esp32Iot.connectClient (Esp32Iot.cayenneInit username password clientID) broker).1 =
      cayenneSuccess) :
    ∃ client, connectAndSave username password clientID broker d =
      storage (Esp32Iot.saveLastConnectedMqtt username password clientID)
        { d with
          client := client
          calls := d.calls ++ [.cayenneInit username password clientID] ++ [.connectClient] ++
            [.saveLastConnectedMqtt username password clientID] } := by
  refine ⟨(Esp32Iot.connectClient (Esp32Iot.cayenneInit username password clientID) broker).2, ?_⟩
  simp only [connectAndSave, h, decide_true]
  rfl

theorem connectAndSave_of_failure {username password clientID : CStr} {broker : Broker} (d : Device)
    (h : (Esp32Iot.connectClient (Esp32Iot.cayenneInit username password clientID) broker).1 ≠
      cayenneSuccess) :
    ∃ client, connectAndSave username password clientID broker d =
      .error .aborted
        { d with
          client := client
          calls := d.calls ++ [.cayenneInit username password clientID] ++ [.connectClient] } := by
  refine ⟨(Esp32Iot.connectClient (Esp32Iot.cayenneInit username password clientID) broker).2, ?_⟩
  simp only [connectAndSave, h, decide_false]
  rfl

/-- The branch `/mqtt-setup`. -/
def mqttSetup (recvBuf : CStr) (answers : Answers) : Serve Unit := do
  let username ← within (fieldToGlobal recvBuf (lit "username") (← get).username)
  modify fun d => { d with username := username }
  let password ← within (fieldToGlobal recvBuf (lit "password") (← get).password)
  modify fun d => { d with password := password }
  let clientID ← within (fieldToGlobal recvBuf (lit "clientID") (← get).clientID)
  modify fun d => { d with clientID := clientID }
  if username.nonEmpty && password.nonEmpty && clientID.nonEmpty then
    connectAndSave username password clientID answers.broker
    respond answers .success
    closeConnection answers
  else
    respond answers .emptyFieldForm
    closeConnection answers

/-- The account the MQTT branch goes on with: each field from the request or from before. -/
def accountAfter (recvBuf : CStr) (d : Device) : Option (CStr × CStr × CStr) :=
  (fieldToGlobal recvBuf (lit "username") d.username).bind fun username =>
    (fieldToGlobal recvBuf (lit "password") d.password).bind fun password =>
      (fieldToGlobal recvBuf (lit "clientID") d.clientID).map fun clientID =>
        (username, password, clientID)

/-- The MQTT branch, when no parser leaves its arrays. -/
theorem mqttSetup_of_account {recvBuf : CStr} {d : Device} {username password clientID : CStr}
    (answers : Answers) (h : accountAfter recvBuf d = some (username, password, clientID)) :
    mqttSetup recvBuf answers d =
      (if username.nonEmpty && password.nonEmpty && clientID.nonEmpty then do
        connectAndSave username password clientID answers.broker
        respond answers .success
        closeConnection answers
      else do
        respond answers .emptyFieldForm
        closeConnection answers : Serve Unit) { d with username, password, clientID } := by
  obtain ⟨u, hu, h⟩ := Option.bind_eq_some_iff.1 h
  obtain ⟨p, hp, h⟩ := Option.bind_eq_some_iff.1 h
  obtain ⟨c, hc, h⟩ := Option.map_eq_some_iff.1 h
  cases h
  show (within (fieldToGlobal recvBuf (lit "username") d.username) >>= _) d = _
  rw [hu, within_some_bind]
  show (within (fieldToGlobal recvBuf (lit "password") d.password) >>= _) { d with username } = _
  rw [hp, within_some_bind]
  show (within (fieldToGlobal recvBuf (lit "clientID") d.clientID) >>= _)
    { d with username, password } = _
  rw [hc, within_some_bind]
  rfl

/-- The MQTT branch, when a parser leaves its arrays. -/
theorem mqttSetup_of_overrun {recvBuf : CStr} {d : Device} (answers : Answers)
    (h : accountAfter recvBuf d = none) :
    ∃ d', mqttSetup recvBuf answers d = .error (.halted .overrun) d' ∧ d'.flash = d.flash := by
  show ∃ d', (within (fieldToGlobal recvBuf (lit "username") d.username) >>= _) d = _ ∧ _
  cases hu : fieldToGlobal recvBuf (lit "username") d.username with
  | none => exact ⟨d, rfl, rfl⟩
  | some username =>
      show ∃ d', (within (fieldToGlobal recvBuf (lit "password") d.password) >>= _)
        { d with username } = _ ∧ _
      cases hp : fieldToGlobal recvBuf (lit "password") d.password with
      | none => exact ⟨_, rfl, rfl⟩
      | some password =>
          show ∃ d', (within (fieldToGlobal recvBuf (lit "clientID") d.clientID) >>= _)
            { d with username, password } = _ ∧ _
          cases hc : fieldToGlobal recvBuf (lit "clientID") d.clientID with
          | none => exact ⟨_, rfl, rfl⟩
          | some clientID => simp [accountAfter, hu, hp, hc] at h

/-- The branch taken on a receive buffer. -/
def serveBranch (recvBuf : CStr) (answers : Answers) (stack : ServeStack) : Branch → Serve Unit
  | .index => do respond answers .index; closeConnection answers
  | .wifiSetupMenu => do respond answers .wifiSetup; closeConnection answers
  | .mqttSetupMenu => do respond answers .mqttSetup; closeConnection answers
  | .notFound => do respond answers .notFoundError; closeConnection answers
  | .wifiSetup => Esp32Iot.wifiSetup recvBuf answers stack
  | .mqttSetup => Esp32Iot.mqttSetup recvBuf answers
  | .eraseWifiData => do
      emit .eraseStorage
      storage Esp32Iot.eraseStorage
      respond answers .success
      closeConnection answers
  | .resetRestartCounter => do
      emit .resetRestartCounter
      storage Esp32Iot.resetRestartCounter
      respond answers .success
      closeConnection answers
  | .bleTest => do
      emit .bluetoothInitialize
      check answers.bluetoothInitialize
      respond answers .success
      closeConnection answers
  | .restart => do
      respond answers .success
      emit .espRestart
      throw .restarted
  | .unanswered => closeConnection answers

/-- The device at the start of a request. -/
def Device.start (d : Device) (answers : Answers) : Device :=
  { d with calls := [], flash := { d.flash with plan := answers.nvs } }

/-- `http_server_netconn_serve`; without a buffer when `netconn_recv` fails. -/
def httpServerNetconnServe (received : Option CStr) (answers : Answers) (stack : ServeStack) :
    Serve Unit := do
  modify (·.start answers)
  match received with
  | none => closeConnection answers
  | some recvBuf => serveBranch recvBuf answers stack (route recvBuf)

/-- A request is served by its branch. -/
theorem httpServerNetconnServe_of_route {recvBuf : CStr} {answers : Answers} {stack : ServeStack}
    {d : Device} {branch : Branch} (hroute : route recvBuf = branch) :
    httpServerNetconnServe (some recvBuf) answers stack d =
      serveBranch recvBuf answers stack branch (d.start answers) := by
  rw [← hroute]
  rfl

end Esp32Iot
