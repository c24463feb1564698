import Esp32Iot.Cayenne
import Esp32Iot.Lib.Runs

/-!
# The socket to the broker

`Network.c` keeps one descriptor. `NetworkInit` overwrites it, `NetworkConnect` replaces it by a
new socket and does not give that back when `connect` fails, and only `NetworkDisconnect` closes
it. Here the open sockets are counted beside the structure, over any sequence of `CayenneInit` and
`connectClient`, with all outcomes of the calls below.

`sockets_released_iff` says when every `connectClient` leaves one socket after a success and none
after a failure: when each call finds no socket open and none of them fails in `socket` or
`connect`. `refused_leaks` is a broker that cannot be reached.
-/

namespace Esp32Iot

/-! ## `Network.c` -/

/-- The fields of the structure `Network` that are not function pointers. -/
structure MqttNetwork where
  mySocket : Int
  connected : Bool
  deriving DecidableEq

/-- `NetworkInit`. -/
def networkInit : MqttNetwork where
  mySocket := 0
  connected := false

/-- `ai_family` of an address. -/
inductive AddrFamily
  | inet
  | inet6
  deriving DecidableEq

/-- How the calls of one `NetworkConnect` end. -/
structure Dial where
  /-- the return code of `getaddrinfo` -/
  getaddrinfo : Int
  /-- the families of the addresses it found -/
  addresses : List AddrFamily
  /-- the descriptor that `socket` returns, or -1 -/
  socket : Int
  /-- the return code of `connect` -/
  connect : Int
  deriving DecidableEq

/-- The value of `rc` after the addresses were looked through for one of IPv4. -/
def Dial.resolved (dial : Dial) : Int :=
  if dial.getaddrinfo = 0 then
    if AddrFamily.inet ∈ dial.addresses then 0 else -1
  else dial.getaddrinfo

/-- The structure and the sockets that are open. -/
structure Sockets where
  network : MqttNetwork
  opened : List Int
  deriving DecidableEq

/-- `NetworkConnect`. -/
def networkConnect (s : Sockets) (dial : Dial) : Int × Sockets :=
  if dial.resolved = 0 then
    if dial.socket ≠ -1 then
      (dial.connect,
        { network := ⟨dial.socket, if dial.connect = 0 then true else s.network.connected⟩
          opened := dial.socket :: s.opened })
    else (dial.resolved, { s with network := { s.network with mySocket := dial.socket } })
  else (dial.resolved, s)

/-- `NetworkDisconnect`. Closing a descriptor that is not open does nothing. -/
def networkDisconnect (s : Sockets) : Sockets where
  network := { s.network with connected := false }
  opened := s.opened.erase s.network.mySocket

/-! ## Calls of the client -/

/-- The globals `network` and `mqttClient`, and the sockets. -/
structure CayenneLink where
  sockets : Sockets
  client : CayenneMqttClient
  deriving DecidableEq

/-- The outcome of everything that a `connectClient` depends on. -/
structure Attempt where
  dial : Dial
  /-- `sendPacket` succeeds, if there is a socket -/
  sendPacket : Bool
  /-- the code of the `CONNACK` that comes in time and can be decoded -/
  connack : Option UInt8
  /-- publishing the device information finds the connection lost -/
  dropped : Bool
  deriving DecidableEq

/-- The answers that the handshake gets on the socket. Nothing can be sent on the descriptor -1. -/
def Attempt.broker (a : Attempt) (rc : Int) (s : Sockets) : Broker where
  networkConnect := rc
  sendPacket := a.sendPacket && s.network.mySocket ≠ -1
  connack := a.connack

/-- What is seen of a `connectClient`. -/
structure ConnectReport where
  /-- its return code -/
  code : Int
  /-- the number of sockets that are open after it -/
  opened : Nat
  /-- the return code of its `NetworkConnect` -/
  networkConnect : Int
  /-- `network->connected` when `NetworkConnect` returns -/
  connected : Bool
  deriving DecidableEq

/-- The handshake of `connectClient`, after `NetworkConnect` returned 0. -/
def CayenneLink.handshake (l : CayenneLink) (a : Attempt) : Int × CayenneLink :=
  let mqtt := cayenneMqttConnect l.client (a.broker 0 l.sockets)
  if mqtt.1 ≠ cayenneSuccess then (mqtt.1, ⟨networkDisconnect l.sockets, mqtt.2⟩)
  else if a.dropped then
    (cayenneSuccess,
      ⟨{ l.sockets with network := { l.sockets.network with connected := false } }, mqtt.2⟩)
  else (cayenneSuccess, ⟨l.sockets, mqtt.2⟩)

/-- `connectClient` with its socket. -/
def CayenneLink.connectClient (l : CayenneLink) (a : Attempt) : ConnectReport × CayenneLink :=
  let net := networkConnect l.sockets a.dial
  let result := if net.1 ≠ 0 then (net.1, { l with sockets := net.2 })
    else CayenneLink.handshake { l with sockets := net.2 } a
  (⟨result.1, result.2.sockets.opened.length, net.1, net.2.network.connected⟩, result.2)

/-- What happens to the link, in any order. -/
inductive LinkStep
  /-- `CayenneInit` -/
  | init (username password clientID : CStr)
  /-- `connectClient` -/
  | connect (a : Attempt)
  /-- a read or a write between the calls finds the connection lost -/
  | socketLost
  /-- `keepalive` gets no answer to its ping -/
  | pingLost
  deriving DecidableEq

/-- The descriptor that `socket` returns is not one that is open. -/
def Dial.Fresh (dial : Dial) (s : Sockets) : Prop := dial.socket ≠ -1 → dial.socket ∉ s.opened

instance (dial : Dial) (s : Sockets) : Decidable (dial.Fresh s) :=
  inferInstanceAs (Decidable (_ → _))

/-- One step; only a `connectClient` is reported. -/
def CayenneLink.step (l : CayenneLink) : LinkStep → Option (Option ConnectReport × CayenneLink)
  | .init username password clientID =>
      some (none, ⟨{ l.sockets with network := networkInit },
        cayenneInit username password clientID⟩)
  | .connect a =>
      if a.dial.Fresh l.sockets then
        some (some (l.connectClient a).1, (l.connectClient a).2)
      else none
  | .socketLost =>
      some (none,
        { l with sockets.network.connected := false })
  | .pingLost => some (none, { l with client.isconnected := false })

/-- The link at boot. -/
def CayenneLink.boot : CayenneLink where
  sockets := ⟨⟨0, false⟩, []⟩
  client := cayenneInit (CStr.lit "") (CStr.lit "") (CStr.lit "")

/-! ## What a call does to the sockets -/

/-- The outcomes of `connectClient`: what it reports and the sockets after it. -/
inductive CayenneLink.Outcome (l : CayenneLink) (a : Attempt) : ConnectReport → Sockets → Prop
  /-- no address is found -/
  | unresolved (h : a.dial.resolved ≠ 0) :
      Outcome l a ⟨a.dial.resolved, l.sockets.opened.length, a.dial.resolved,
        l.sockets.network.connected⟩ l.sockets
  /-- there is no socket left, and the handshake fails on the descriptor -1 -/
  | noSocket {code : Int} (h : a.dial.resolved = 0) (hsocket : a.dial.socket = -1)
      (hcode : code ≠ cayenneSuccess) :
      Outcome l a ⟨code, (l.sockets.opened.erase (-1)).length, 0, l.sockets.network.connected⟩
        ⟨⟨-1, false⟩, l.sockets.opened.erase (-1)⟩
  /-- the broker cannot be reached -/
  | refused (h : a.dial.resolved = 0) (hsocket : a.dial.socket ≠ -1) (hcode : a.dial.connect ≠ 0) :
      Outcome l a ⟨a.dial.connect, l.sockets.opened.length + 1, a.dial.connect,
        l.sockets.network.connected⟩
        ⟨⟨a.dial.socket, l.sockets.network.connected⟩, a.dial.socket :: l.sockets.opened⟩
  /-- the handshake fails, and the socket is closed -/
  | rejected {code : Int} (h : a.dial.resolved = 0) (hsocket : a.dial.socket ≠ -1)
      (hconnect : a.dial.connect = 0) (hcode : code ≠ cayenneSuccess) :
      Outcome l a ⟨code, l.sockets.opened.length, 0, true⟩
        ⟨⟨a.dial.socket, false⟩, l.sockets.opened⟩
  /-- the client is connected, unless it finds the connection lost at once -/
  | accepted {connected : Bool} (h : a.dial.resolved = 0) (hsocket : a.dial.socket ≠ -1)
      (hconnect : a.dial.connect = 0) :
      Outcome l a ⟨cayenneSuccess, l.sockets.opened.length + 1, 0, true⟩
        ⟨⟨a.dial.socket, connected⟩, a.dial.socket :: l.sockets.opened⟩

/-- A handshake that cannot send its packet fails. -/
theorem cayenneMqttConnect_of_not_sent (client : CayenneMqttClient) {broker : Broker}
    (h : broker.sendPacket = false) : (cayenneMqttConnect client broker).1 = mqttFailure := by
  unfold cayenneMqttConnect mqttConnect
  split
  · rfl
  · split
    · rfl
    · split
      · rfl
      · rw [h]
        rfl

theorem CayenneLink.connectClient_outcome (l : CayenneLink) (a : Attempt) :
    CayenneLink.Outcome l a (l.connectClient a).1 (l.connectClient a).2.sockets := by
  by_cases hres : a.dial.resolved = 0
  · by_cases hsocket : a.dial.socket = -1
    · have hnet : networkConnect l.sockets a.dial =
          (0, ⟨⟨-1, l.sockets.network.connected⟩, l.sockets.opened⟩) := by
        simp [networkConnect, hres, hsocket]
      have hsent : (a.broker 0 (networkConnect l.sockets a.dial).2).sendPacket = false := by
        simp [Attempt.broker, hnet]
      have hcode := cayenneMqttConnect_of_not_sent l.client hsent
      have hne : mqttFailure ≠ cayenneSuccess := by decide
      simp only [CayenneLink.connectClient, CayenneLink.handshake, hcode, hne, ne_eq,
        not_false_eq_true, if_true]
      simp only [hnet, not_true_eq_false, if_false]
      exact .noSocket hres hsocket hne
    · by_cases hconnect : a.dial.connect = 0
      · have hnet : networkConnect l.sockets a.dial =
            (0, ⟨⟨a.dial.socket, true⟩, a.dial.socket :: l.sockets.opened⟩) := by
          simp [networkConnect, hres, hsocket, hconnect]
        simp only [CayenneLink.connectClient, CayenneLink.handshake, hnet, ne_eq,
          not_true_eq_false, if_false]
        split
        · rename_i hcode
          simp only [networkDisconnect, List.erase_cons_head]
          exact .rejected hres hsocket hconnect hcode
        · split
          · exact .accepted hres hsocket hconnect
          · exact .accepted hres hsocket hconnect
      · have hnet : networkConnect l.sockets a.dial =
            (a.dial.connect, ⟨⟨a.dial.socket, l.sockets.network.connected⟩,
              a.dial.socket :: l.sockets.opened⟩) := by
          simp [networkConnect, hres, hsocket, hconnect]
        simp only [CayenneLink.connectClient, hnet, ne_eq, hconnect, not_false_eq_true, if_true]
        exact .refused hres hsocket hconnect
  · have hnet : networkConnect l.sockets a.dial = (a.dial.resolved, l.sockets) := by
      simp [networkConnect, hres]
    simp only [CayenneLink.connectClient, hnet, ne_eq, hres, not_false_eq_true, if_true]
    exact .unresolved hres

/-- The code and the client are those of the model without sockets (`connectClient`). -/
theorem CayenneLink.connectClient_eq (l : CayenneLink) (a : Attempt) :
    ((l.connectClient a).1.code, (l.connectClient a).2.client) =
      Esp32Iot.connectClient l.client
        (a.broker (networkConnect l.sockets a.dial).1 (networkConnect l.sockets a.dial).2) := by
  unfold CayenneLink.connectClient Esp32Iot.connectClient
  by_cases hnet : (networkConnect l.sockets a.dial).1 = 0
  · have hbroker : (a.broker 0 (networkConnect l.sockets a.dial).2).networkConnect = 0 := rfl
    simp only [hnet, ne_eq, not_true_eq_false, if_false, CayenneLink.handshake, hbroker]
    split
    · rfl
    · split
      · rfl
      · rfl
  · have hbroker : (a.broker (networkConnect l.sockets a.dial).1
        (networkConnect l.sockets a.dial).2).networkConnect ≠ 0 := hnet
    rw [if_pos hbroker]
    simp only [ne_eq, hnet, not_false_eq_true, if_true]
    rfl

/-! ## Sockets over whole runs -/

/-- One socket is open after a success and none after a failure, and `NetworkConnect` reports
success only when it is connected. -/
def ConnectReport.Released (r : ConnectReport) : Prop :=
  r.opened = (if r.code = cayenneSuccess then 1 else 0) ∧ (r.networkConnect = 0 → r.connected)

/-- A call finds no socket open, and fails neither in `socket` nor in `connect`. -/
def CayenneLink.Releases (l : CayenneLink) : LinkStep → Prop
  | .connect a => l.sockets.opened = [] ∧
      (a.dial.resolved = 0 → a.dial.socket ≠ -1 ∧ a.dial.connect = 0)
  | _ => True

/-- A connected structure holds an open socket, and -1 is none. -/
structure Sockets.Valid (s : Sockets) : Prop where
  holds : s.network.connected = true → s.network.mySocket ∈ s.opened
  noError : (-1 : Int) ∉ s.opened

section
variable {l l' : CayenneLink} {o : Option ConnectReport}

theorem CayenneLink.step_connect {a : Attempt} (h : l.step (.connect a) = some (o, l')) :
    ∃ r, o = some r ∧ CayenneLink.Outcome l a r l'.sockets := by
  simp only [CayenneLink.step] at h
  split at h
  · cases h
    exact ⟨_, rfl, l.connectClient_outcome a⟩
  · cases h

theorem Sockets.Valid.step {e : LinkStep} (hl : l.sockets.Valid) (h : l.step e = some (o, l')) :
    l'.sockets.Valid := by
  cases e with
  | init username password clientID => cases h; exact ⟨nofun, hl.noError⟩
  | socketLost => cases h; exact ⟨nofun, hl.noError⟩
  | pingLost => cases h; exact hl
  | connect a =>
      obtain ⟨r, -, hout⟩ := CayenneLink.step_connect h
      generalize l'.sockets = s at hout ⊢
      cases hout with
      | unresolved => exact hl
      | noSocket => exact ⟨nofun, fun hmem => hl.noError (List.mem_of_mem_erase hmem)⟩
      | refused _ hsocket =>
          exact ⟨fun _ => .head _, List.not_mem_cons_of_ne_of_not_mem (Ne.symm hsocket) hl.noError⟩
      | rejected => exact ⟨nofun, hl.noError⟩
      | accepted _ hsocket =>
          exact ⟨fun _ => .head _, List.not_mem_cons_of_ne_of_not_mem (Ne.symm hsocket) hl.noError⟩

/-- **A call releases its socket exactly when it meets `Releases`.** -/
theorem Sockets.Valid.released_iff {e : LinkStep} (hl : l.sockets.Valid)
    (h : l.step e = some (o, l')) : (∀ r ∈ o, r.Released) ↔ l.Releases e := by
  cases e with
  | init username password clientID => cases h; exact iff_of_true nofun trivial
  | socketLost => cases h; exact iff_of_true nofun trivial
  | pingLost => cases h; exact iff_of_true nofun trivial
  | connect a =>
      obtain ⟨r, rfl, hout⟩ := CayenneLink.step_connect h
      simp only [Option.mem_some_iff, forall_eq', CayenneLink.Releases, ConnectReport.Released]
      generalize l'.sockets = s at hout
      cases hout with
      | unresolved hres => simp [hres, cayenneSuccess]
      | noSocket hres hsocket hcode =>
          rw [List.erase_of_not_mem hl.noError]
          simp only [hcode, if_false, List.length_eq_zero_iff, hres, hsocket, ne_eq,
            not_true_eq_false, false_and, imp_false, and_false, iff_false, not_and,
            forall_const, Bool.not_eq_true]
          intro hnil
          by_contra hconn
          have hmem := hl.holds (by simpa using hconn)
          rw [hnil] at hmem
          cases hmem
      | refused hres hsocket hcode => simp [hres, hcode, cayenneSuccess]
      | rejected hres hsocket hconnect hcode => simp [hres, hsocket, hconnect, hcode]
      | accepted hres hsocket hconnect => simp [hres, hsocket, hconnect]

end

/-- **Connecting leaks no socket, exactly in the runs whose calls all meet `Releases`.** -/
theorem sockets_released_iff {steps : List LinkStep} {reports : List (Option ConnectReport)}
    {u : CayenneLink} (h : Runs.exec CayenneLink.step .boot steps = some (reports, u)) :
    (∀ o ∈ reports, ∀ r ∈ o, r.Released) ↔
      Runs.Along CayenneLink.step CayenneLink.Releases .boot steps :=
  Runs.outputs_forall_iff (fun _ _ _ _ hl _ hstep => Sockets.Valid.step hl hstep)
    (fun _ _ _ _ hl hstep => Sockets.Valid.released_iff hl hstep) ⟨nofun, nofun⟩ h

/-- The name cannot be resolved, then the broker rejects the account, then it accepts it. -/
theorem sockets_released_third_attempt :
    ∃ reports u, Runs.exec CayenneLink.step .boot
        [.init (.lit "alice") (.lit "secret") (.lit "c1"),
          .connect ⟨⟨202, [], -1, -1⟩, true, none, false⟩,
          .connect ⟨⟨0, [.inet6, .inet], 54, 0⟩, true, some 5, false⟩,
          .connect ⟨⟨0, [.inet], 54, 0⟩, true, some 0, false⟩] = some (reports, u) ∧
      (∀ o ∈ reports, ∀ r ∈ o, r.Released) ∧ u.sockets.opened = [54] := by
  refine ⟨_, _, rfl, ?_, rfl⟩
  refine (@sockets_released_iff
    [.init (.lit "alice") (.lit "secret") (.lit "c1"),
      .connect ⟨⟨202, [], -1, -1⟩, true, none, false⟩,
      .connect ⟨⟨0, [.inet6, .inet], 54, 0⟩, true, some 5, false⟩,
      .connect ⟨⟨0, [.inet], 54, 0⟩, true, some 0, false⟩] _ _ rfl).2 ?_
  refine .cons trivial rfl (.cons ⟨rfl, ?_⟩ rfl (.cons ⟨rfl, ?_⟩ rfl (.cons ⟨rfl, ?_⟩ rfl trivial)))
  · decide
  · decide
  · decide

/-- The broker refuses two connections: both sockets stay open. -/
theorem refused_leaks :
    ∃ reports u, Runs.exec CayenneLink.step .boot
        [.init (.lit "alice") (.lit "secret") (.lit "c1"),
          .connect ⟨⟨0, [.inet], 54, -1⟩, true, none, false⟩,
          .connect ⟨⟨0, [.inet], 55, -1⟩, true, none, false⟩] = some (reports, u) ∧
      reports = [none, some ⟨-1, 1, -1, false⟩, some ⟨-1, 2, -1, false⟩] ∧
      ¬ ∀ o ∈ reports, ∀ r ∈ o, r.Released := by
  refine ⟨_, _, rfl, rfl, fun h => ?_⟩
  have hfirst := h (some ⟨-1, 1, -1, false⟩) (.tail _ (.head _)) _ rfl
  exact nomatch hfirst.1

end Esp32Iot
