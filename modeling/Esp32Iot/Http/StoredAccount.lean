import Esp32Iot.Http.Isolation

/-!
# The lengths of a stored account

Nothing checks the length of an account before it is stored. The only bound is indirect: an account
is stored when `connectClient` succeeds, so its three strings have fitted one connect packet, which
leaves 113 bytes to them. One of them may then be longer than the 100 bytes of the arrays that
`wifi_event_handler` reads it back into.

`storedAccount_fits` is the invariant of all runs in which no account does that, and
`longUsername_stored` is a run that ends in an account that overruns the arrays.
-/

namespace Esp32Iot

open CStr (lit)

/-! ## What a request does to the store -/

/-- A string under a key of the account fits the arrays of the handler. -/
def FitsArrays (key s : CStr) : Prop := key ∈ mqttKeys → s.length < 100

/-- The account in the store, and the one a reboot finds, fit the arrays of the handler. -/
def AccountsFit (d : Device) : Prop := Entries FitsArrays d.flash

section
variable {α : Type}

/-- A program that does not touch the store. -/
theorem keeps_of_flash {x : Serve α} (h : ∀ d, (Halting.final (x d)).flash = d.flash) :
    Halting.Keeps AccountsFit x := by
  intro d hd
  rw [AccountsFit, h d]
  exact hd

theorem emit_keeps (call : ServeCall) : Halting.Keeps AccountsFit (emit call) :=
  keeps_of_flash fun _ => rfl

theorem check_keeps (ok : Bool) : Halting.Keeps AccountsFit (check ok) :=
  keeps_of_flash fun _ => by cases ok <;> rfl

theorem within_keeps (o : Option α) : Halting.Keeps AccountsFit (within o) :=
  keeps_of_flash fun _ => by cases o <;> rfl

theorem storage_keeps {program : Nvs Unit} (h : Halting.Keeps (Entries FitsArrays) program) :
    Halting.Keeps AccountsFit (storage program) := by
  intro d hd
  have hfinal := h d.flash hd
  rw [storage]
  cases hrun : program d.flash with
  | ok u f => rw [hrun] at hfinal; exact hfinal
  | error halt f => rw [hrun] at hfinal; exact hfinal

theorem respond_keeps (answers : Answers) (page : Page) :
    Halting.Keeps AccountsFit (respond answers page) :=
  .bind (emit_keeps _) fun _ => check_keeps _

theorem closeConnection_keeps (answers : Answers) :
    Halting.Keeps AccountsFit (closeConnection answers) :=
  .bind (emit_keeps _) fun _ => emit_keeps _

theorem page_keeps (answers : Answers) (page : Page) :
    Halting.Keeps AccountsFit (do respond answers page; closeConnection answers : Serve Unit) :=
  .bind (respond_keeps answers page) fun _ => closeConnection_keeps answers

end

theorem connectWifi_keeps (answers : Answers) (e : WifiEvidence) :
    Halting.Keeps AccountsFit (connectWifi answers e) := by
  refine .bind (keeps_of_flash fun _ => rfl) fun _ => .bind (emit_keeps _) fun _ => ?_
  refine .bind (respond_keeps _ _) fun _ => .bind (closeConnection_keeps _) fun _ => ?_
  refine .bind (emit_keeps _) fun _ => .bind (check_keeps _) fun _ => ?_
  exact .bind (emit_keeps _) fun _ => check_keeps _

theorem wifiSetup_keeps (recvBuf : CStr) (answers : Answers) (stack : ServeStack) :
    Halting.Keeps AccountsFit (wifiSetup recvBuf answers stack) := by
  refine .bind (within_keeps _) fun ssid => ?_
  split
  · exact .bind (within_keeps _) fun _ => .bind (within_keeps _) fun _ => connectWifi_keeps _ _
  · exact page_keeps _ _

theorem connectAndSave_keeps {username password clientID : CStr} {broker : Broker}
    (hfit : broker.Accepts ∧ FitsPacket username password clientID →
      username.length < 100 ∧ password.length < 100 ∧ clientID.length < 100) :
    Halting.Keeps AccountsFit (connectAndSave username password clientID broker) := by
  intro d hd
  by_cases h : (connectClient (cayenneInit username password clientID) broker).1 = cayenneSuccess
  · obtain ⟨hu, hp, hc⟩ := hfit ((connectClient_success_iff _ _ _ _).1 h)
    obtain ⟨client, hrun⟩ := connectAndSave_of_success d h
    rw [hrun]
    refine storage_keeps (saveRecord_keeps ?_) _ hd
    simp only [List.mem_cons, List.not_mem_nil, or_false]
    rintro field (rfl | rfl | rfl) -
    · exact hu
    · exact hp
    · exact hc
  · obtain ⟨client, hrun⟩ := connectAndSave_of_failure d h
    rw [hrun]
    exact hd

/-! ## Runs -/

/-- If the request stores an account, each of its strings fits the arrays of the handler: where the
broker accepts, three strings that are not empty and together have at most 113 bytes have at most 99
each. The strings are those of the request, or of an earlier one for a field it lacks. -/
def StoresShort (d : Device) (s : Served) : Prop :=
  ∀ recvBuf ∈ s.received, route recvBuf = .mqttSetup →
    ∀ username password clientID, accountAfter recvBuf d = some (username, password, clientID) →
      username ≠ lit "" → password ≠ lit "" → clientID ≠ lit "" →
      s.answers.broker.Accepts → FitsPacket username password clientID →
        username.length < 100 ∧ password.length < 100 ∧ clientID.length < 100

theorem mqttSetup_keeps {recvBuf : CStr} {answers : Answers} {d : Device} (hd : AccountsFit d)
    (hshort : ∀ username password clientID,
      accountAfter recvBuf d = some (username, password, clientID) →
        username ≠ lit "" → password ≠ lit "" → clientID ≠ lit "" →
        answers.broker.Accepts → FitsPacket username password clientID →
          username.length < 100 ∧ password.length < 100 ∧ clientID.length < 100) :
    AccountsFit (Halting.final (mqttSetup recvBuf answers d)) := by
  cases haccount : accountAfter recvBuf d with
  | none =>
      obtain ⟨d', hrun, hflash⟩ := mqttSetup_of_overrun answers haccount
      rw [hrun, AccountsFit]
      exact hflash ▸ hd
  | some account =>
      obtain ⟨username, password, clientID⟩ := account
      rw [mqttSetup_of_account answers haccount]
      split
      · next hne =>
          simp only [CStr.nonEmpty, Bool.and_eq_true, decide_eq_true_eq] at hne
          refine Halting.Keeps.bind (connectAndSave_keeps fun h => ?_)
            (fun _ => page_keeps _ _) _ hd
          exact hshort _ _ _ haccount hne.1.1 hne.1.2 hne.2 h.1 h.2
      · exact page_keeps _ _ _ hd

/-- One request keeps the accounts short. -/
theorem httpServerNetconnServe_keeps {d : Device} {s : Served} (hd : AccountsFit d)
    (hs : StoresShort d s) :
    AccountsFit (Halting.final (httpServerNetconnServe s.received s.answers s.stack d)) := by
  obtain ⟨received, answers, stack⟩ := s
  have hstart : AccountsFit (d.start answers) := hd
  cases received with
  | none => exact closeConnection_keeps answers (d.start answers) hstart
  | some recvBuf =>
      rw [httpServerNetconnServe_of_route rfl]
      cases hroute : route recvBuf with
      | index => exact page_keeps _ _ _ hstart
      | wifiSetupMenu => exact page_keeps _ _ _ hstart
      | mqttSetupMenu => exact page_keeps _ _ _ hstart
      | notFound => exact page_keeps _ _ _ hstart
      | wifiSetup => exact wifiSetup_keeps _ _ _ _ hstart
      | mqttSetup => exact mqttSetup_keeps hstart (hs recvBuf rfl hroute)
      | eraseWifiData =>
          refine Halting.Keeps.bind (emit_keeps _) (fun _ => .bind (storage_keeps ?_) fun _ =>
            page_keeps _ _) _ hstart
          exact .bind checked_nvsOpen_keeps fun _ => checked_nvsEraseAll_keeps
      | resetRestartCounter =>
          refine Halting.Keeps.bind (emit_keeps _) (fun _ => .bind (storage_keeps ?_) fun _ =>
            page_keeps _ _) _ hstart
          exact .bind checked_nvsOpen_keeps fun _ => .bind (checked_nvsSetI32_keeps _ _) fun _ =>
            checked_nvsCommit_keeps
      | bleTest =>
          exact Halting.Keeps.bind (emit_keeps _) (fun _ => .bind (check_keeps _) fun _ =>
            page_keeps _ _) _ hstart
      | restart =>
          exact Halting.Keeps.bind (respond_keeps _ _) (fun _ => .bind (emit_keeps _) fun _ =>
            .throw _) _ hstart
      | unanswered => exact closeConnection_keeps answers _ hstart

theorem serveStep_keeps (d : Device) (s : Served) (calls : List ServeCall) (d' : Device)
    (hd : AccountsFit d) (hs : StoresShort d s) (h : serveStep d s = some (calls, d')) :
    AccountsFit d' := by
  have hfinal := httpServerNetconnServe_keeps hd hs
  rw [serveStep] at h
  split at h
  · next hrun => cases h; rw [hrun] at hfinal; exact hfinal
  · cases h
  · next hrun =>
      -- the boot starts from what is durable
      cases h
      rw [hrun] at hfinal
      exact ⟨hfinal.2, hfinal.2⟩

/-- **The stored account fits.** On a new device, after every history of requests none of which
stores an account with a string of 100 bytes or more, the account in the store and the one the next
boot finds fit the arrays of the handler, and reading them back stays inside these. -/
theorem storedAccount_fits {served : List Served} {calls : List (List ServeCall)} {d : Device}
    (hshort : Runs.Along serveStep StoresShort (.boot (.ofContents .erased)) served)
    (hrun : Runs.exec serveStep (.boot (.ofContents .erased)) served = some (calls, d)) :
    ∀ c, c = d.flash.data ∨ c = d.flash.durable → AccountFits c ∧
      ∀ username password clientID : CharArray 100, ∃ arrays,
        getLastConnectedMqtt username password clientID (.ofContents c) =
          .ok arrays (.ofContents c) := by
  have hinit : AccountsFit (.boot (.ofContents .erased)) :=
    ⟨fun _ _ h => (by cases h), fun _ _ h => (by cases h)⟩
  have hfits := Runs.exec_invariant serveStep_keeps hinit hshort hrun
  intro c hc
  have hfit : AccountFits c := by
    rcases hc with rfl | rfl
    · exact fun key hkey s hs => hfits.1 key s hs hkey
    · exact fun key hkey s hs => hfits.2 key s hs hkey
  exact ⟨hfit, fun _ _ _ => ⟨_, getLastConnectedMqtt_of_fits hfit _ _ _⟩⟩

/-- At the request of `aliceRequest`. -/
theorem storedAccount_fits_alice :
    Runs.Along serveStep StoresShort (.boot (.ofContents .erased))
        [⟨some aliceRequest, accepting, usedStack⟩] ∧
      ∃ calls d, Runs.exec serveStep (.boot (.ofContents .erased))
          [⟨some aliceRequest, accepting, usedStack⟩] = some (calls, d) ∧
        AccountFits d.flash.durable := by
  have hshort : Runs.Along serveStep StoresShort (.boot (.ofContents .erased))
      [⟨some aliceRequest, accepting, usedStack⟩] := by
    refine ⟨?_, fun _ _ _ => trivial⟩
    rintro recvBuf hrecv - username password clientID hsame - - - - -
    cases hrecv
    rw [aliceRequest_account] at hsame
    cases hsame
    decide
  obtain ⟨calls, d, hrun, -⟩ := exec_alice
  exact ⟨hshort, calls, d, hrun, (storedAccount_fits hshort hrun d.flash.durable (.inr rfl)).1⟩

/-- A user name of 111 bytes. -/
def longUsername : CStr := .ofBytes (List.replicate 111 (byte 'a'))

/-- A request with that user name and two fields of one byte. -/
def longRequest : CStr := .ofBytes (bytes "POST /mqtt-setup HTTP/1.1\r\n\r\nusername=" ++
  longUsername.val ++ bytes "&password=b&clientID=c")

/-- The broker accepts the account, it is stored, and reading it back overruns the arrays of the
handler. -/
theorem longUsername_stored :
    ∃ calls d, Runs.exec serveStep (.boot (.ofContents .erased))
        [⟨some longRequest, accepting, usedStack⟩] = some (calls, d) ∧
      d.flash.data.str mqttUserKey = some longUsername ∧ longUsername.length = 111 ∧
      ∀ username password clientID : CharArray 100,
        getLastConnectedMqtt username password clientID (.ofContents d.flash.data) =
          .error .overrun (.ofContents d.flash.data) := by
  have haccount : accountAfter longRequest (.boot (.ofContents .erased)) =
      some (longUsername, lit "b", lit "c") := by decide +kernel
  obtain ⟨calls, d, hrun, hflash, -⟩ := exec_accepted (by decide +kernel) haccount
    (by decide +kernel) (by decide +kernel)
  have hstored : d.flash.data.str mqttUserKey = some longUsername := by
    rw [hflash]
    exact Contents.setAll_str_of_mem (by decide +kernel) (.head _)
  refine ⟨calls, d, hrun, hstored, by decide +kernel, fun username password clientID => ?_⟩
  have hnone : deliver none username (some longUsername) = none :=
    CharArray.strcpy_eq_none_iff.2 (by decide +kernel)
  rw [getLastConnectedMqtt_ofContents, hstored, hnone]
  rfl

end Esp32Iot
