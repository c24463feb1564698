import Esp32Iot.Http.Serve

/-!
# Requests and what came before them

A setup request is isolated from the requests before it when what the device does with it, from the
empty-field page to the credentials it connects with, is the same after every history and on every
stack. `wifiSetup_observe` and `mqttSetup_observe` say what a request shows as a function of the
local arrays and of the globals; `isolated_iff_fieldsDecide` says which requests are isolated, and
`clientID_of_earlier_request` is one that is not.
-/

namespace Esp32Iot

open CStr (lit)
open Halting (bind_of_ok bind_of_error)

/-- The calls by which a setup request shows what it made of its fields. -/
def ServeCall.shown : ServeCall → Bool
  | .netconnWrite .emptyFieldForm => true
  | .setActualWifi _ _ => true
  | .espWifiConnect => true
  | .cayenneInit _ _ _ => true
  | .connectClient => true
  | .saveLastConnectedMqtt _ _ _ => true
  | _ => false

/-- What a served request shows; nothing can be said after an access outside an array. -/
def observe (result : EStateM.Result Ended Device Unit) : Option (List ServeCall) :=
  match result with
  | .error (.halted .overrun) _ => none
  | result => some ((Halting.final result).calls.filter ServeCall.shown)

section
variable {recvBuf : CStr} {answers : Answers} {stack : ServeStack} {d : Device}

theorem connectWifi_observe (e : WifiEvidence) :
    observe (connectWifi answers e (d.start answers)) =
      some (.setActualWifi e.ssid e.password ::
        if answers.netconnWrite && answers.wifiApstaConfigure then [.espWifiConnect] else []) := by
  obtain ⟨inbuf, write, configure, connect, ble, broker, nvs⟩ := answers
  cases write
  · rfl
  · cases configure
    · rfl
    · cases connect <;> rfl

theorem emptyField_observe :
    observe ((do respond answers .emptyFieldForm; closeConnection answers : Serve Unit)
        (d.start answers)) = some [.netconnWrite .emptyFieldForm] := by
  obtain ⟨inbuf, write, configure, connect, ble, broker, nvs⟩ := answers
  cases write <;> rfl

/-- What the WiFi branch shows, from the two local arrays after the parsers. -/
theorem wifiSetup_observe (hroute : route recvBuf = .wifiSetup) :
    observe (httpServerNetconnServe (some recvBuf) answers stack d) =
      (fieldToArray recvBuf (lit "ssid") stack.ssid).bind fun ssid =>
        if ssid.nonEmpty then
          (fieldToArray recvBuf (lit "password") stack.password).bind fun password =>
            (evidenceOf ssid password).map fun e =>
              .setActualWifi e.ssid e.password ::
                if answers.netconnWrite && answers.wifiApstaConfigure then [.espWifiConnect] else []
        else some [.netconnWrite .emptyFieldForm] := by
  rw [httpServerNetconnServe_of_route hroute, serveBranch, wifiSetup]
  cases hs : fieldToArray recvBuf (lit "ssid") stack.ssid with
  | none => rfl
  | some ssid =>
      rw [within_some_bind, Option.bind_some]
      cases hne : ssid.nonEmpty with
      | false => exact emptyField_observe
      | true =>
          cases hp : fieldToArray recvBuf (lit "password") stack.password with
          | none => rfl
          | some password =>
              rw [if_pos rfl, if_pos rfl, within_some_bind, Option.bind_some]
              cases he : evidenceOf ssid password with
              | none => rfl
              | some e => exact connectWifi_observe e

/-- What the device makes of an account, from `CayenneInit` on. -/
def shownAccount (broker : Broker) (username password clientID : CStr) : List ServeCall :=
  .cayenneInit username password clientID :: .connectClient ::
    if (Esp32Iot.connectClient (Esp32Iot.cayenneInit username password clientID) broker).1 =
      cayenneSuccess then [.saveLastConnectedMqtt username password clientID] else []

theorem connectAndSave_observe {username password clientID : CStr} (hcalls : d.calls = []) :
    observe ((do
        connectAndSave username password clientID answers.broker
        respond answers .success
        closeConnection answers : Serve Unit) d) =
      some (shownAccount answers.broker username password clientID) := by
  rw [shownAccount]
  by_cases hsuccess : (Esp32Iot.connectClient (Esp32Iot.cayenneInit username password clientID)
      answers.broker).1 = cayenneSuccess
  · obtain ⟨client, hrun⟩ := connectAndSave_of_success d hsuccess
    rw [if_pos hsuccess]
    cases hsave : Esp32Iot.saveLastConnectedMqtt username password clientID d.flash with
    | ok u f =>
        simp only [storage, hsave, hcalls] at hrun
        rw [bind_of_ok hrun]
        obtain ⟨inbuf, write, configure, connect, ble, broker, nvs⟩ := answers
        cases write <;> rfl
    | error halt f =>
        have hover : halt ≠ .overrun := fun h => saveRecord_avoids_overrun _ _ _ (h ▸ hsave)
        simp only [storage, hsave, hcalls] at hrun
        rw [bind_of_error hrun]
        cases halt with
        | overrun => exact absurd rfl hover
        | aborted err => rfl
        | powerLost => rfl
  · obtain ⟨client, hrun⟩ := connectAndSave_of_failure d hsuccess
    rw [if_neg hsuccess, bind_of_error hrun, hcalls]
    rfl

/-- What the MQTT branch shows, from the three globals after the parsers. -/
theorem mqttSetup_observe (hroute : route recvBuf = .mqttSetup) :
    observe (httpServerNetconnServe (some recvBuf) answers stack d) =
      (accountAfter recvBuf d).map fun (username, password, clientID) =>
        if username.nonEmpty && password.nonEmpty && clientID.nonEmpty then
          shownAccount answers.broker username password clientID
        else [.netconnWrite .emptyFieldForm] := by
  rw [httpServerNetconnServe_of_route hroute, serveBranch]
  cases haccount : accountAfter recvBuf d with
  | none =>
      obtain ⟨d', hrun, -⟩ := mqttSetup_of_overrun (d := d.start answers) answers haccount
      rw [hrun]
      rfl
  | some account =>
      obtain ⟨username, password, clientID⟩ := account
      rw [mqttSetup_of_account (d := d.start answers) answers haccount, Option.map_some]
      by_cases hne : (username.nonEmpty && password.nonEmpty && clientID.nonEmpty) = true
      · rw [if_pos hne]
        simp only [hne, if_true]
        exact connectAndSave_observe rfl
      · rw [if_neg hne]
        simp only [hne]
        exact emptyField_observe (d := { d with username, password, clientID })

end

/-! ## Histories -/

/-- A request with everything the device meets while it is served. -/
structure Served where
  received : Option CStr
  answers : Answers
  stack : ServeStack

/-- Serve a request; a request that is not served to its end is followed by a boot. -/
def serveStep (d : Device) (s : Served) : Option (List ServeCall × Device) :=
  match httpServerNetconnServe s.received s.answers s.stack d with
  | .ok _ d' => some (d'.calls, d')
  | .error (.halted .overrun) _ => none
  | .error _ d' => some (d'.calls, .boot d'.flash.reboot)

/-- The device after some history of requests, on any store. -/
def Reachable (d : Device) : Prop :=
  ∃ flash served calls, Runs.exec serveStep (.boot flash) served = some (calls, d)

theorem reachable_boot (flash : Flash) : Reachable (.boot flash) := ⟨flash, [], [], rfl⟩

/-- The names of the fields a setup request needs. -/
def requiredNames (recvBuf : CStr) : List CStr :=
  match route recvBuf with
  | .wifiSetup => [lit "ssid", lit "password"]
  | .mqttSetup => [lit "username", lit "password", lit "clientID"]
  | _ => []

/-- A request is isolated from the requests before it: what it shows is the same after every history
and on every stack, and without one of its names it is the empty-field page. -/
structure Isolated (recvBuf : CStr) : Prop where
  same : ∀ answers, ∃ seen, ∀ d, Reachable d → ∀ stack,
    observe (httpServerNetconnServe (some recvBuf) answers stack d) = some seen
  lacking : ∀ name ∈ requiredNames recvBuf, recvBuf.has name = false →
    ∀ answers d stack, Reachable d →
      observe (httpServerNetconnServe (some recvBuf) answers stack d) =
        some [.netconnWrite .emptyFieldForm]

/-- The fields of a request decide about it. In the WiFi form the SSID is there and fits its array,
and if it is not empty so is and does the password. In the MQTT form no parser leaves its arrays,
and all fields are there or one that is there is empty. -/
def FieldsDecide (recvBuf : CStr) : Prop :=
  match route recvBuf with
  | .wifiSetup => ∃ s, parseHttpRequest recvBuf (lit "ssid") = .ok s ∧ s.length < 33 ∧
      (s = lit "" ∨ ∃ p, parseHttpRequest recvBuf (lit "password") = .ok p ∧ p.length < 64)
  | .mqttSetup =>
      (∀ name ∈ requiredNames recvBuf, parseHttpRequest2 recvBuf name ≠ .error .overrun) ∧
        ((∀ name ∈ requiredNames recvBuf, ∃ v, parseHttpRequest2 recvBuf name = .ok v) ∨
          ∃ name ∈ requiredNames recvBuf, parseHttpRequest2 recvBuf name = .ok (lit ""))
  | _ => True

/-! ## The WiFi form -/

section
variable {recvBuf : CStr}

theorem fieldToArray_of_ok {n : Nat} {key s : CStr} (h : parseHttpRequest recvBuf key = .ok s)
    (hs : s.length < n) (value : CharArray n) :
    ∃ a, fieldToArray recvBuf key value = some a ∧ a.read = some s ∧
      a.nonEmpty = s.nonEmpty := by
  obtain ⟨a, ha⟩ := Option.isSome_iff_exists.1 (CharArray.strcpy_isSome_iff (a := value).2 hs)
  refine ⟨a, ?_, CharArray.read_of_strcpy ha, CharArray.nonEmpty_of_strcpy ha⟩
  rw [fieldToArray, h]
  exact ha

/-- What is in an array after a parser that found its key and kept to the array. -/
theorem ok_of_fieldToArray {n : Nat} {key : CStr} {value a : CharArray n}
    (h : fieldToArray recvBuf key value = some a) (hkey : recvBuf.has key ≠ false) :
    ∃ s, parseHttpRequest recvBuf key = .ok s ∧ s.length < n ∧ a.nonEmpty = s.nonEmpty := by
  rw [fieldToArray] at h
  split at h
  · next hnot => exact absurd (map_paramOf_notFound_iff.1 hnot) hkey
  · cases h
  · next s hs =>
      exact ⟨s, hs, CharArray.strcpy_isSome_iff.1 (Option.isSome_of_eq_some h),
        CharArray.nonEmpty_of_strcpy h⟩

/-- A parser that does not find its key leaves the array as it is. -/
theorem fieldToArray_of_lacking {n : Nat} {key : CStr} (hkey : recvBuf.has key = false)
    (value : CharArray n) : fieldToArray recvBuf key value = some value := by
  have hnot : parseHttpRequest recvBuf key = .error .notFound := map_paramOf_notFound_iff.2 hkey
  rw [fieldToArray, hnot]

theorem evidenceOf_of_read {ssid : CharArray 33} {password : CharArray 64} {s p : CStr}
    (hs : ssid.read = some s) (hp : password.read = some p) :
    ∃ e, evidenceOf ssid password = some e ∧ e.ssid = s ∧ e.password = p := by
  unfold evidenceOf
  split
  · next s' p' hs' hp' =>
      rw [hs] at hs'
      rw [hp] at hp'
      cases hs'
      cases hp'
      exact ⟨_, rfl, rfl, rfl⟩
  · next h => exact absurd hp (h s p hs)

/-- A stack on which an earlier call left the string `x` twice. -/
def usedStack : ServeStack where
  ssid := ⟨byte 'x' :: List.replicate 32 0, rfl⟩
  password := ⟨byte 'x' :: List.replicate 63 0, rfl⟩

/-- A WiFi form with an empty SSID. -/
theorem wifiSetup_emptySsid (hroute : route recvBuf = .wifiSetup)
    (hs : parseHttpRequest recvBuf (lit "ssid") = .ok (lit "")) (answers : Answers) (d : Device)
    (stack : ServeStack) :
    observe (httpServerNetconnServe (some recvBuf) answers stack d) =
      some [.netconnWrite .emptyFieldForm] := by
  obtain ⟨a, ha, -, hne⟩ := fieldToArray_of_ok hs (by decide) stack.ssid
  rw [wifiSetup_observe hroute, ha, Option.bind_some, hne]
  rfl

/-- A WiFi form with both fields. -/
theorem wifiSetup_fields (hroute : route recvBuf = .wifiSetup) {s p : CStr}
    (hs : parseHttpRequest recvBuf (lit "ssid") = .ok s) (hsl : s.length < 33) (hne : s ≠ lit "")
    (hp : parseHttpRequest recvBuf (lit "password") = .ok p) (hpl : p.length < 64)
    (answers : Answers) (d : Device) (stack : ServeStack) :
    observe (httpServerNetconnServe (some recvBuf) answers stack d) =
      some (.setActualWifi s p ::
        if answers.netconnWrite && answers.wifiApstaConfigure then [.espWifiConnect] else []) := by
  obtain ⟨a, ha, hread, hnonEmpty⟩ := fieldToArray_of_ok hs hsl stack.ssid
  obtain ⟨b, hb, hread', -⟩ := fieldToArray_of_ok hp hpl stack.password
  obtain ⟨e, he, rfl, rfl⟩ := evidenceOf_of_read hread hread'
  have htrue : e.ssid.nonEmpty = true := by simpa [CStr.nonEmpty] using hne
  rw [wifiSetup_observe hroute, ha, hb, Option.bind_some, Option.bind_some, hnonEmpty, htrue, he]
  rfl

/-- A WiFi form whose fields decide is isolated. -/
theorem wifiSetup_isolated (hroute : route recvBuf = .wifiSetup) (h : FieldsDecide recvBuf) :
    Isolated recvBuf := by
  rw [FieldsDecide, hroute] at h
  obtain ⟨s, hs, hsl, hfields⟩ := h
  by_cases hne : s = lit ""
  · rw [hne] at hs
    exact ⟨fun answers => ⟨_, fun d _ stack => wifiSetup_emptySsid hroute hs answers d stack⟩,
      fun name _ _ answers d stack _ => wifiSetup_emptySsid hroute hs answers d stack⟩
  · obtain ⟨p, hp, hpl⟩ := hfields.resolve_left hne
    refine ⟨fun answers => ⟨_, fun d _ stack =>
      wifiSetup_fields hroute hs hsl hne hp hpl answers d stack⟩, ?_⟩
    -- neither name is missing
    intro name hname hlacks
    simp only [requiredNames, hroute, List.mem_cons, List.not_mem_nil, or_false] at hname
    rcases hname with rfl | rfl
    · exact absurd hlacks (has_of_map_paramOf hs)
    · exact absurd hlacks (has_of_map_paramOf hp)

/-- The fields of an isolated WiFi form decide: on a used stack a missing name would show. -/
theorem wifiSetup_fieldsDecide (hroute : route recvBuf = .wifiSetup) (h : Isolated recvBuf) :
    FieldsDecide recvBuf := by
  let answers : Answers := ⟨some 0, true, true, true, true, ⟨0, true, some 0⟩, []⟩
  obtain ⟨seen, hseen⟩ := h.same answers
  have hboot := hseen _ (reachable_boot (.ofContents .erased)) usedStack
  have hlacking := fun name hname hlacks =>
    h.lacking name hname hlacks answers _ usedStack (reachable_boot (.ofContents .erased))
  rw [requiredNames, hroute] at hlacking
  rw [wifiSetup_observe hroute] at hboot hlacking
  obtain ⟨a, ha, hboot⟩ := Option.bind_eq_some_iff.1 hboot
  rw [ha, Option.bind_some] at hlacking
  -- a request that goes on with an SSID does not answer with the empty-field page
  have hshown : a.nonEmpty = true → ∀ name ∈ [lit "ssid", lit "password"],
      recvBuf.has name ≠ false := by
    intro hne name hname hlacks
    have hpage := hlacking name hname hlacks
    rw [if_pos hne] at hpage
    obtain ⟨b, -, hpage⟩ := Option.bind_eq_some_iff.1 hpage
    obtain ⟨e, -, hpage⟩ := Option.map_eq_some_iff.1 hpage
    cases hpage
  have hssid : recvBuf.has (lit "ssid") ≠ false := by
    intro hlacks
    rw [fieldToArray_of_lacking hlacks] at ha
    cases ha
    exact hshown (by decide) (lit "ssid") (by simp) hlacks
  obtain ⟨s, hs, hsl, hne⟩ := ok_of_fieldToArray ha hssid
  rw [FieldsDecide, hroute]
  refine ⟨s, hs, hsl, or_iff_not_imp_left.2 fun hnot => ?_⟩
  have htrue : a.nonEmpty = true := by rw [hne]; simpa [CStr.nonEmpty] using hnot
  rw [if_pos htrue] at hboot
  obtain ⟨b, hb, -⟩ := Option.bind_eq_some_iff.1 hboot
  obtain ⟨p, hp, hpl, -⟩ := ok_of_fieldToArray hb (hshown htrue (lit "password") (by simp))
  exact ⟨p, hp, hpl⟩

end

/-! ## The MQTT form -/

/-- The value of a field, or what was there before. -/
def fieldOr (recvBuf key value : CStr) : CStr :=
  match parseHttpRequest2 recvBuf key with
  | .ok found => found
  | .error _ => value

/-- The names of the MQTT form. -/
def mqttNames : List CStr := [lit "username", lit "password", lit "clientID"]

section
variable {recvBuf : CStr}

theorem fieldToGlobal_eq {key : CStr} (h : parseHttpRequest2 recvBuf key ≠ .error .overrun)
    (value : CStr) : fieldToGlobal recvBuf key value = some (fieldOr recvBuf key value) := by
  rw [fieldToGlobal, fieldOr]
  split
  · next hnot => rw [hnot]
  · next hover => exact absurd hover h
  · next found hfound => rw [hfound]

theorem not_overrun_of_fieldToGlobal {key value found : CStr}
    (h : fieldToGlobal recvBuf key value = some found) :
    parseHttpRequest2 recvBuf key ≠ .error .overrun := by
  intro hover
  rw [fieldToGlobal, hover] at h
  cases h

/-- What the MQTT branch shows, when no parser leaves its arrays. -/
theorem mqttSetup_observe_fields (hroute : route recvBuf = .mqttSetup)
    (hno : ∀ name ∈ mqttNames, parseHttpRequest2 recvBuf name ≠ .error .overrun)
    (answers : Answers) (d : Device) (stack : ServeStack) :
    observe (httpServerNetconnServe (some recvBuf) answers stack d) =
      some (if (fieldOr recvBuf (lit "username") d.username).nonEmpty &&
          (fieldOr recvBuf (lit "password") d.password).nonEmpty &&
          (fieldOr recvBuf (lit "clientID") d.clientID).nonEmpty then
        shownAccount answers.broker (fieldOr recvBuf (lit "username") d.username)
          (fieldOr recvBuf (lit "password") d.password)
          (fieldOr recvBuf (lit "clientID") d.clientID)
      else [.netconnWrite .emptyFieldForm]) := by
  rw [mqttSetup_observe hroute, accountAfter,
    fieldToGlobal_eq (hno (lit "username") (by simp [mqttNames])),
    fieldToGlobal_eq (hno (lit "password") (by simp [mqttNames])),
    fieldToGlobal_eq (hno (lit "clientID") (by simp [mqttNames]))]
  rfl

theorem fieldOr_of_ok {key found : CStr} (h : parseHttpRequest2 recvBuf key = .ok found)
    (value : CStr) : fieldOr recvBuf key value = found := by rw [fieldOr, h]

/-- An MQTT form whose fields decide is isolated. -/
theorem mqttSetup_isolated (hroute : route recvBuf = .mqttSetup) (h : FieldsDecide recvBuf) :
    Isolated recvBuf := by
  have hnames : requiredNames recvBuf = mqttNames := by rw [requiredNames, hroute]; rfl
  rw [FieldsDecide, hroute] at h
  dsimp only at h
  rw [hnames] at h
  obtain ⟨hno, hall | ⟨name, hname, hempty⟩⟩ := h
  · obtain ⟨u, hu⟩ := hall (lit "username") (by simp [mqttNames])
    obtain ⟨p, hp⟩ := hall (lit "password") (by simp [mqttNames])
    obtain ⟨c, hc⟩ := hall (lit "clientID") (by simp [mqttNames])
    constructor
    · intro answers
      refine ⟨if u.nonEmpty && p.nonEmpty && c.nonEmpty then shownAccount answers.broker u p c
        else [.netconnWrite .emptyFieldForm], fun d _ stack => ?_⟩
      rw [mqttSetup_observe_fields hroute hno, fieldOr_of_ok hu, fieldOr_of_ok hp, fieldOr_of_ok hc]
    · intro name hname hlacks
      rw [hnames] at hname
      obtain ⟨v, hv⟩ := hall name hname
      exact absurd hlacks (has_of_map_paramOf hv)
  · have hpage : ∀ answers d stack,
        observe (httpServerNetconnServe (some recvBuf) answers stack d) =
          some [.netconnWrite .emptyFieldForm] := by
      intro answers d stack
      have hnil : (lit "").nonEmpty = false := by decide
      rw [mqttSetup_observe_fields hroute hno]
      simp only [mqttNames, List.mem_cons, List.not_mem_nil, or_false] at hname
      rcases hname with rfl | rfl | rfl <;> simp [fieldOr_of_ok hempty, hnil]
    exact ⟨fun answers => ⟨_, fun d _ stack => hpage answers d stack⟩,
      fun _ _ _ answers d stack _ => hpage answers d stack⟩

/-- A request that sets all three globals. -/
def aliceRequest : CStr :=
  lit "POST /mqtt-setup HTTP/1.1\r\n\r\nusername=alice&password=secret&clientID=c1"

/-- A network and a broker that accept, and no failure anywhere. -/
def accepting : Answers := ⟨some 0, true, true, true, true, ⟨0, true, some 0⟩, []⟩

/-- A request with three fields that the broker accepts is served to its end, and leaves its fields
in the globals and in the store. -/
theorem mqttSetup_accepted (hroute : route recvBuf = .mqttSetup) {c : Contents} {d : Device}
    (hflash : d.flash = .ofContents c) {username password clientID : CStr}
    (haccount : accountAfter recvBuf d = some (username, password, clientID))
    (hne : (username.nonEmpty && password.nonEmpty && clientID.nonEmpty) = true)
    (hfits : FitsPacket username password clientID) (stack : ServeStack) :
    ∃ d', httpServerNetconnServe (some recvBuf) accepting stack d = .ok () d' ∧
      d'.flash = .ofContents (c.setAll
        [(mqttUserKey, username), (mqttPassKey, password), (mqttIdKey, clientID)]) ∧
      d'.username = username ∧ d'.password = password ∧ d'.clientID = clientID := by
  have hconnect := (connectClient_success_iff username password clientID accepting.broker).2
    ⟨⟨rfl, rfl, rfl⟩, hfits⟩
  obtain ⟨client, hrun⟩ := connectAndSave_of_success
    { d.start accepting with username, password, clientID } hconnect
  have hstart : (d.start accepting).flash = .ofContents c := by
    rw [Device.start, hflash]
    rfl
  simp only [storage, hstart, saveLastConnectedMqtt_ofContents] at hrun
  rw [httpServerNetconnServe_of_route hroute, serveBranch,
    mqttSetup_of_account (d := d.start accepting) accepting haccount, if_pos hne, hstart,
    bind_of_ok hrun]
  exact ⟨_, rfl, rfl, rfl, rfl, rfl⟩

/-- The run of one such request on a new device. -/
theorem exec_accepted (hroute : route recvBuf = .mqttSetup) {username password clientID : CStr}
    (haccount : accountAfter recvBuf (.boot (.ofContents .erased)) =
      some (username, password, clientID))
    (hne : (username.nonEmpty && password.nonEmpty && clientID.nonEmpty) = true)
    (hfits : FitsPacket username password clientID) :
    ∃ calls d, Runs.exec serveStep (.boot (.ofContents .erased))
        [⟨some recvBuf, accepting, usedStack⟩] = some (calls, d) ∧
      d.flash = .ofContents (Contents.erased.setAll
        [(mqttUserKey, username), (mqttPassKey, password), (mqttIdKey, clientID)]) ∧
      d.username = username ∧ d.password = password ∧ d.clientID = clientID := by
  obtain ⟨d, hrun, hd⟩ := mqttSetup_accepted hroute rfl haccount hne hfits usedStack
  refine ⟨[d.calls], d, ?_, hd⟩
  rw [Runs.exec, serveStep, hrun]
  rfl

theorem aliceRequest_route : route aliceRequest = .mqttSetup := by decide +kernel

theorem aliceRequest_fields :
    parseHttpRequest2 aliceRequest (lit "username") = .ok (lit "alice") ∧
      parseHttpRequest2 aliceRequest (lit "password") = .ok (lit "secret") ∧
      parseHttpRequest2 aliceRequest (lit "clientID") = .ok (lit "c1") := by decide +kernel

theorem aliceRequest_account : accountAfter aliceRequest (.boot (.ofContents .erased)) =
    some (lit "alice", lit "secret", lit "c1") := by
  obtain ⟨husername, hpassword, hclientID⟩ := aliceRequest_fields
  rw [accountAfter, fieldToGlobal, fieldToGlobal, fieldToGlobal, husername, hpassword, hclientID]
  rfl

/-- The run of `aliceRequest` leaves its fields in the globals. -/
theorem exec_alice : ∃ calls d, Runs.exec serveStep (.boot (.ofContents .erased))
      [⟨some aliceRequest, accepting, usedStack⟩] = some (calls, d) ∧
    d.username = lit "alice" ∧ d.password = lit "secret" ∧ d.clientID = lit "c1" := by
  obtain ⟨calls, d, hrun, -, hglobals⟩ := exec_accepted aliceRequest_route aliceRequest_account
    (by decide) (by decide)
  exact ⟨calls, d, hrun, hglobals⟩

/-- A device whose globals are not empty any more. -/
theorem reachable_after_alice : ∃ d, Reachable d ∧ d.username = lit "alice" ∧
    d.password = lit "secret" ∧ d.clientID = lit "c1" := by
  obtain ⟨calls, d, hrun, hglobals⟩ := exec_alice
  exact ⟨d, ⟨_, _, calls, hrun⟩, hglobals⟩

/-- The fields of an isolated MQTT form decide: after a request that set the globals a missing name
would show. -/
theorem mqttSetup_fieldsDecide (hroute : route recvBuf = .mqttSetup) (h : Isolated recvBuf) :
    FieldsDecide recvBuf := by
  have hnames : requiredNames recvBuf = mqttNames := by rw [requiredNames, hroute]; rfl
  obtain ⟨seen, hseen⟩ := h.same accepting
  have hno : ∀ name ∈ mqttNames, parseHttpRequest2 recvBuf name ≠ .error .overrun := by
    have hboot := hseen _ (reachable_boot (.ofContents .erased)) usedStack
    rw [mqttSetup_observe hroute] at hboot
    obtain ⟨account, haccount, -⟩ := Option.map_eq_some_iff.1 hboot
    obtain ⟨u, hu, haccount⟩ := Option.bind_eq_some_iff.1 haccount
    obtain ⟨p, hp, haccount⟩ := Option.bind_eq_some_iff.1 haccount
    obtain ⟨c, hc, -⟩ := Option.map_eq_some_iff.1 haccount
    intro name hname
    simp only [mqttNames, List.mem_cons, List.not_mem_nil, or_false] at hname
    rcases hname with rfl | rfl | rfl
    · exact not_overrun_of_fieldToGlobal hu
    · exact not_overrun_of_fieldToGlobal hp
    · exact not_overrun_of_fieldToGlobal hc
  rw [FieldsDecide, hroute]
  dsimp only
  rw [hnames]
  refine ⟨hno, ?_⟩
  by_contra hmissing
  rw [not_or] at hmissing
  obtain ⟨hnotAll, hnotEmpty⟩ := hmissing
  -- a name is missing
  obtain ⟨name, hname, hlacks⟩ : ∃ name ∈ mqttNames, recvBuf.has name = false := by
    by_contra hhas
    refine hnotAll fun name hname => ?_
    cases hparse : parseHttpRequest2 recvBuf name with
    | ok v => exact ⟨v, rfl⟩
    | error e =>
        cases e with
        | notFound => exact absurd ⟨name, hname, map_paramOf_notFound_iff.1 hparse⟩ hhas
        | overrun => exact absurd hparse (hno name hname)
  obtain ⟨d, hd, hu, hp, hc⟩ := reachable_after_alice
  -- every field is not empty, from the request or from the one before
  have hfield : ∀ name ∈ mqttNames, ∀ value, value ≠ lit "" →
      (fieldOr recvBuf name value).nonEmpty = true := by
    intro name hname value hvalue
    rw [fieldOr]
    split
    · next v hv =>
        simpa [CStr.nonEmpty] using fun h : v = lit "" => hnotEmpty ⟨name, hname, h ▸ hv⟩
    · simpa [CStr.nonEmpty] using hvalue
  have hpage := h.lacking name (hnames ▸ hname) hlacks accepting d usedStack hd
  rw [mqttSetup_observe_fields hroute hno, hu, hp, hc,
    hfield (lit "username") (by simp [mqttNames]) (lit "alice") (by decide +kernel),
    hfield (lit "password") (by simp [mqttNames]) (lit "secret") (by decide +kernel),
    hfield (lit "clientID") (by simp [mqttNames]) (lit "c1") (by decide +kernel)] at hpage
  cases hpage

end

/-! ## Isolation -/

/-- **A setup request is isolated exactly when its fields decide.** -/
theorem isolated_iff_fieldsDecide (recvBuf : CStr)
    (hroute : route recvBuf = .wifiSetup ∨ route recvBuf = .mqttSetup) :
    Isolated recvBuf ↔ FieldsDecide recvBuf := by
  rcases hroute with hroute | hroute
  · exact ⟨wifiSetup_fieldsDecide hroute, wifiSetup_isolated hroute⟩
  · exact ⟨mqttSetup_fieldsDecide hroute, mqttSetup_isolated hroute⟩

/-- At a request with all its fields. -/
theorem isolated_iff_fieldsDecide_alice :
    route aliceRequest = .mqttSetup ∧ Isolated aliceRequest := by
  refine ⟨aliceRequest_route,
    (isolated_iff_fieldsDecide aliceRequest (.inr aliceRequest_route)).2 ?_⟩
  rw [FieldsDecide, aliceRequest_route]
  dsimp only
  rw [requiredNames, aliceRequest_route]
  simp only [List.mem_cons, List.not_mem_nil, or_false, forall_eq_or_imp, forall_eq]
  obtain ⟨husername, hpassword, hclientID⟩ := aliceRequest_fields
  rw [husername, hpassword, hclientID]
  exact ⟨⟨nofun, nofun, nofun⟩, .inl ⟨⟨_, rfl⟩, ⟨_, rfl⟩, ⟨_, rfl⟩⟩⟩

/-- A request without a client ID. -/
def bobRequest : CStr := lit "POST /mqtt-setup HTTP/1.1\r\n\r\nusername=bob&password=hunter2"

/-- After a boot it is answered with the empty-field page; after the request of another user it
connects, and is saved, with that user's client ID. -/
theorem clientID_of_earlier_request :
    route bobRequest = .mqttSetup ∧ bobRequest.has (lit "clientID") = false ∧
      observe (httpServerNetconnServe (some bobRequest) accepting usedStack
        (.boot (.ofContents .erased))) = some [.netconnWrite .emptyFieldForm] ∧
      (∃ d, Reachable d ∧
        observe (httpServerNetconnServe (some bobRequest) accepting usedStack d) =
          some [.cayenneInit (lit "bob") (lit "hunter2") (lit "c1"), .connectClient,
            .saveLastConnectedMqtt (lit "bob") (lit "hunter2") (lit "c1")]) ∧
      ¬ Isolated bobRequest := by
  have hroute : route bobRequest = .mqttSetup := by decide +kernel
  obtain ⟨husername, hpassword, hclientID⟩ :
      parseHttpRequest2 bobRequest (lit "username") = .ok (lit "bob") ∧
        parseHttpRequest2 bobRequest (lit "password") = .ok (lit "hunter2") ∧
        parseHttpRequest2 bobRequest (lit "clientID") = .error .notFound := by decide +kernel
  have hlacks : bobRequest.has (lit "clientID") = false := map_paramOf_notFound_iff.1 hclientID
  have hno : ∀ name ∈ mqttNames, parseHttpRequest2 bobRequest name ≠ .error .overrun := by
    simp only [mqttNames, List.mem_cons, List.not_mem_nil, or_false, forall_eq_or_imp, forall_eq,
      husername, hpassword, hclientID]
    exact ⟨nofun, nofun, nofun⟩
  have hshown := mqttSetup_observe_fields hroute hno accepting
  simp only [fieldOr, husername, hpassword, hclientID] at hshown
  obtain ⟨d, hd, hu, hp, hc⟩ := reachable_after_alice
  have halice : observe (httpServerNetconnServe (some bobRequest) accepting usedStack d) =
      some [.cayenneInit (lit "bob") (lit "hunter2") (lit "c1"), .connectClient,
        .saveLastConnectedMqtt (lit "bob") (lit "hunter2") (lit "c1")] := by
    rw [hshown, hc]
    rfl
  refine ⟨hroute, hlacks, ?_, ⟨d, hd, halice⟩, fun h => ?_⟩
  · rw [hshown]
    rfl
  · have hname : lit "clientID" ∈ requiredNames bobRequest := by
      rw [requiredNames, hroute]
      simp
    have hpage := h.lacking _ hname hlacks accepting d usedStack hd
    rw [halice] at hpage
    cases hpage

end Esp32Iot
