import Esp32Iot.Http.Serve

/-!
# The release of a connection

Each request comes with a connection and, when `netconn_recv` succeeds, with a buffer. Both must be
given back once, on each of the ways out of `http_server_netconn_serve`: two branches do it before
they go on and return, the others fall through to the end of the function, and where
`ESP_ERROR_CHECK` or `esp_restart` ends the device there is no way out.

All branches do (`serveBranch_releases`). The end of the function is reached as well when
`netconn_recv` has failed, and `netbuf_delete` is called there with the pointer that it was given.
What that holds then is not said by this code: `Answers.RecvClears` is what lwIP says of it, and
with it every way out is balanced (`released_once`).
-/

namespace Esp32Iot

open Halting (Adds)

/-- How often a call was made for the present request. -/
def Device.times (call : ServeCall) (d : Device) : Nat := d.calls.count call

/-- The two functions that give something back. -/
def IsRelease (call : ServeCall) : Prop :=
  call = .netconnClose ∨ ∃ inbuf, call = .netbufDelete inbuf

/-- How often a branch calls them, with the pointer that `netconn_recv` has left. -/
def Answers.releases (answers : Answers) (call : ServeCall) : Nat :=
  if call = .netconnClose ∨ call = .netbufDelete answers.inbuf then 1 else 0

section
variable {call : ServeCall}

theorem emit_adds (call other : ServeCall) :
    Adds (Device.times call) (if other = call then 1 else 0) (emit other) := by
  refine Adds.modify fun d => ?_
  simp only [Device.times, List.count_append, List.count_singleton, beq_iff_eq]

/-- Another call releases nothing. -/
theorem emit_other {other : ServeCall} (h : other ≠ call) :
    Adds (Device.times call) 0 (emit other) := by
  have hadds := emit_adds call other
  rwa [if_neg h] at hadds

theorem check_adds (ok : Bool) : Adds (Device.times call) 0 (check ok) := by
  unfold check
  split
  · exact .pure ()
  · exact .throw _

theorem storage_adds (program : Nvs Unit) : Adds (Device.times call) 0 (storage program) := by
  intro d a d' h
  unfold storage at h
  split at h
  · cases h; rfl
  · cases h

theorem within_adds {α : Type} (o : Option α) : Adds (Device.times call) 0 (within o) := by
  cases o with
  | none => exact .throw _
  | some a => exact .pure a

variable {answers : Answers} (hcall : IsRelease call)
include hcall

/-- Both are released once. -/
theorem closeConnection_adds :
    Adds (Device.times call) (answers.releases call) (closeConnection answers) := by
  have hadds := (emit_adds call .netconnClose).bind fun _ =>
    emit_adds call (.netbufDelete answers.inbuf)
  have hcount : (if .netconnClose = call then 1 else 0) +
      (if .netbufDelete answers.inbuf = call then 1 else 0) = answers.releases call := by
    rcases hcall with rfl | ⟨inbuf, rfl⟩
    · simp [Answers.releases]
    · simp [Answers.releases, eq_comm]
  rw [hcount] at hadds
  exact hadds

/-- A call that is not a release. -/
theorem quiet {other : ServeCall} (h : ¬ IsRelease other) :
    Adds (Device.times call) 0 (emit other) :=
  emit_other fun heq => h (heq ▸ hcall)

theorem respond_adds (page : Page) : Adds (Device.times call) 0 (respond answers page) :=
  (quiet hcall (by simp [IsRelease])).after fun _ => check_adds _

/-- A page and the end of the function. -/
theorem respondAndClose_adds (page : Page) :
    Adds (Device.times call) (answers.releases call)
      (do respond answers page; closeConnection answers) :=
  (respond_adds hcall page).after fun _ => closeConnection_adds hcall

theorem connectWifi_adds (actualWifi : WifiEvidence) :
    Adds (Device.times call) (answers.releases call) (connectWifi answers actualWifi) := by
  refine Adds.after (.modify fun d => rfl) fun _ => ?_
  refine Adds.after (quiet hcall (by simp [IsRelease])) fun _ => ?_
  refine Adds.after (respond_adds hcall _) fun _ => ?_
  refine Adds.bind (n := 0) (closeConnection_adds hcall) fun _ => ?_
  refine Adds.after (quiet hcall (by simp [IsRelease])) fun _ => ?_
  refine Adds.after (check_adds _) fun _ => ?_
  exact Adds.after (quiet hcall (by simp [IsRelease])) fun _ => check_adds _

theorem wifiSetup_adds (recvBuf : CStr) (stack : ServeStack) :
    Adds (Device.times call) (answers.releases call) (wifiSetup recvBuf answers stack) := by
  refine Adds.after (within_adds _) fun ssid => ?_
  split
  · refine Adds.after (within_adds _) fun password => ?_
    exact Adds.after (within_adds _) fun e => connectWifi_adds hcall e
  · exact respondAndClose_adds hcall _

theorem connectAndSave_adds (username password clientID : CStr) (broker : Broker) :
    Adds (Device.times call) 0 (connectAndSave username password clientID broker) := by
  refine Adds.after (quiet hcall (by simp [IsRelease])) fun _ => ?_
  refine Adds.after (quiet hcall (by simp [IsRelease])) fun _ => ?_
  refine Adds.after (.modify fun d => rfl) fun _ => ?_
  refine Adds.after (check_adds _) fun _ => ?_
  exact Adds.after (quiet hcall (by simp [IsRelease])) fun _ => storage_adds _

theorem mqttSetup_adds (recvBuf : CStr) :
    Adds (Device.times call) (answers.releases call) (mqttSetup recvBuf answers) := by
  intro d a d' h
  cases haccount : accountAfter recvBuf d with
  | none =>
    obtain ⟨e, hhalt, -⟩ := mqttSetup_of_overrun answers haccount
    rw [hhalt] at h
    cases h
  | some account =>
    obtain ⟨username, password, clientID⟩ := account
    rw [mqttSetup_of_account answers haccount] at h
    split at h
    · have hconnect := connectAndSave_adds hcall username password clientID answers.broker
      have hadds := hconnect.after (fun _ => respondAndClose_adds hcall _) _ a d' h
      exact hadds
    · have hadds := respondAndClose_adds hcall _ _ a d' h
      exact hadds

/-- Every branch releases the connection and the buffer once. -/
theorem serveBranch_releases (recvBuf : CStr) (stack : ServeStack) (branch : Branch) :
    Adds (Device.times call) (answers.releases call)
      (serveBranch recvBuf answers stack branch) := by
  cases branch with
  | index | wifiSetupMenu | mqttSetupMenu | notFound => exact respondAndClose_adds hcall _
  | wifiSetup => exact wifiSetup_adds hcall recvBuf stack
  | mqttSetup => exact mqttSetup_adds hcall recvBuf
  | eraseWifiData | resetRestartCounter =>
    refine Adds.after (quiet hcall (by simp [IsRelease])) fun _ => ?_
    exact Adds.after (storage_adds _) fun _ => respondAndClose_adds hcall _
  | bleTest =>
    refine Adds.after (quiet hcall (by simp [IsRelease])) fun _ => ?_
    exact Adds.after (check_adds _) fun _ => respondAndClose_adds hcall _
  | restart =>
    refine Adds.after (respond_adds hcall _) fun _ => ?_
    exact Adds.after (quiet hcall (by simp [IsRelease])) fun _ => .throw _
  | unanswered => exact closeConnection_adds hcall

end

/-- What lwIP says of `netconn_recv`: when it fails, there is `NULL` in place of a buffer. -/
def Answers.RecvClears (answers : Answers) (received : Option CStr) : Prop :=
  received = none → answers.inbuf = none

/-- The buffer that `netconn_recv` delivers. -/
def Answers.delivered (answers : Answers) (received : Option CStr) : Option Nat :=
  received.bind fun _ => answers.inbuf

/-- A way out of `http_server_netconn_serve` at which the connection was closed once, and the one
call of `netbuf_delete` was for the buffer that was delivered, or for `NULL` when there was none,
and then it does nothing. -/
structure ReleasedOnce (delivered : Option Nat) (d : Device) : Prop where
  closed : d.times .netconnClose = 1
  deleted : ∀ inbuf, d.times (.netbufDelete inbuf) = if inbuf = delivered then 1 else 0

/-- The calls at every way out: the end of the function is the same without a buffer. -/
theorem serve_times {received : Option CStr} {answers : Answers} {stack : ServeStack}
    {d d' : Device} (h : httpServerNetconnServe received answers stack d = .ok () d')
    {call : ServeCall} (hcall : IsRelease call) : d'.times call = answers.releases call := by
  rw [← Nat.zero_add (answers.releases call)]
  cases received with
  | none => exact closeConnection_adds hcall (d.start answers) () d' h
  | some recvBuf => exact serveBranch_releases hcall recvBuf stack (route recvBuf) _ () d' h

/-- **A connection is released once**, and its buffer if there is one, at every way out, for every
request and all outcomes of the calls. -/
theorem released_once (received : Option CStr) (answers : Answers) (stack : ServeStack)
    (d : Device) (hrecv : answers.RecvClears received) {d' : Device}
    (h : httpServerNetconnServe received answers stack d = .ok () d') :
    ReleasedOnce (answers.delivered received) d' := by
  have hdelivered : answers.delivered received = answers.inbuf := by
    cases received with
    | none => exact (hrecv rfl).symm
    | some recvBuf => rfl
  refine ⟨?_, fun inbuf => ?_⟩
  · rw [serve_times h (.inl rfl)]
    exact if_pos (.inl rfl)
  · rw [serve_times h (.inr ⟨inbuf, rfl⟩), hdelivered, Answers.releases]
    simp

/-- A client that goes away before it sends its request. -/
theorem released_once_undelivered :
    let answers : Answers := ⟨none, true, true, true, true, ⟨0, true, some 0⟩, []⟩
    let stack : ServeStack := ⟨.fill 33 0, .fill 64 0⟩
    ∃ d', httpServerNetconnServe none answers stack (.boot (.ofContents .erased)) = .ok () d' ∧
      d'.calls = [.netconnClose, .netbufDelete none] ∧ ReleasedOnce none d' := by
  intro answers stack
  exact ⟨_, rfl, rfl, released_once none answers stack _ (fun _ => rfl) rfl⟩

end Esp32Iot
