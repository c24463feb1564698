import Esp32Iot.Mqtt.Session

/-!
# Dropped connections

`keepalive` sends a PINGREQ when the connection has been idle, and clears `isconnected` when the
answer has not come in time. Whether an answer is due is in `ping_outstanding`, which is set with
the ping and cleared by a PINGRESP and by `MQTTDisconnect`; `MQTTConnect` leaves it as it is.

`openPing` says what it should stand for: of the connects, pings and answers in a session, the last
one is a ping. `drops_justified` is the invariant over all runs in which no connection begins with
a ping of an earlier one outstanding, and `stale_ping_drops` a run in which one does: its second
connection is dropped before it has sent any ping.
-/

namespace Esp32Iot

/-! ## The ping of a connection -/

/-- The events that decide whether an answer is due. -/
def SessionEvent.restarts : SessionEvent → Bool
  | .connected | .pingreq _ | .pingresp => true
  | .dropped _ | .returned .. | .acknowledged .. | .timedOut .. | .replied .. => false

/-- When the answer is due that this connection waits for. -/
def openPing (log : List SessionEvent) : Option Timer :=
  match log.reverse.find? SessionEvent.restarts with
  | some (.pingreq deadline) => some deadline
  | _ => none

/-- A connection is dropped only when the answer to its ping is overdue. -/
def DropsJustified (log : List SessionEvent) : Prop :=
  ∀ before now after, log = before ++ .dropped now :: after →
    ∃ deadline, openPing before = some deadline ∧ timerIsExpired deadline now

theorem openPing_pingreq (log : List SessionEvent) (deadline : Timer) :
    openPing (log ++ [.pingreq deadline]) = some deadline := by
  rw [openPing, List.reverse_append]
  rfl

theorem openPing_other (log : List SessionEvent) {e : SessionEvent} (he : e.restarts = false) :
    openPing (log ++ [e]) = openPing log := by
  simp [openPing, he]

/-- One event more. -/
theorem DropsJustified.snoc {log : List SessionEvent} (h : DropsJustified log) {e : SessionEvent}
    (he : ∀ now, e = .dropped now →
      ∃ deadline, openPing log = some deadline ∧ timerIsExpired deadline now) :
    DropsJustified (log ++ [e]) := by
  intro before now after heq
  rcases List.eq_nil_or_concat after with rfl | ⟨after', last, rfl⟩
  · obtain ⟨rfl, hlast⟩ := List.append_inj' heq rfl
    exact he now (List.cons.inj hlast).1
  · rw [List.concat_eq_append, ← List.cons_append, ← List.append_assoc] at heq
    obtain ⟨hlog, -⟩ := List.append_inj' heq rfl
    exact h before now after' hlog

/-- The reading of the clock at which the connection is dropped. -/
def SessionEvent.droppedAt : SessionEvent → Option Nat
  | .dropped now => some now
  | .connected | .pingreq _ | .pingresp | .returned .. | .acknowledged .. | .timedOut ..
  | .replied .. => none

/-- A connection that is dropped without a ping of its own. -/
theorem not_dropsJustified {log : List SessionEvent} {k now : Nat}
    (hdropped : log[k]?.bind SessionEvent.droppedAt = some now)
    (hopen : openPing (log.take k) = none) : ¬ DropsJustified log := by
  obtain ⟨e, hk, he⟩ := Option.bind_eq_some_iff.1 hdropped
  obtain rfl : e = .dropped now := by
    cases e <;> cases he
    rfl
  obtain ⟨hlt, hget⟩ := List.getElem?_eq_some_iff.1 hk
  have hsplit : log = log.take k ++ .dropped now :: log.drop (k + 1) := by
    rw [← hget, ← List.drop_eq_getElem_cons hlt, List.take_append_drop]
  intro h
  obtain ⟨deadline, hsome, -⟩ := h _ _ _ hsplit
  rw [hopen] at hsome
  cases hsome

/-- `ping_outstanding` and the timer are those of the last ping. -/
structure MqttClient.KeepsPing (c : MqttClient) (log : List SessionEvent) : Prop where
  justified : DropsJustified log
  outstanding : c.pingOutstanding → openPing log = some c.pingResponseTimer

namespace MqttClient.KeepsPing

variable {c c' : MqttClient} {log : List SessionEvent}

/-- The invariant is about `ping_outstanding` and its timer only. -/
theorem congr (h : c.KeepsPing log) (htimer : c'.pingResponseTimer = c.pingResponseTimer)
    (hping : c'.pingOutstanding → c.pingOutstanding) : c'.KeepsPing log := by
  refine ⟨h.justified, fun hout => ?_⟩
  rw [htimer]
  exact h.outstanding (hping hout)

/-- No answer is due any more. -/
theorem settled (h : c.KeepsPing log) (hping : c'.pingOutstanding = false) {e : SessionEvent}
    (he : ∀ now, e ≠ .dropped now) : c'.KeepsPing (log ++ [e]) := by
  refine ⟨h.justified.snoc fun now heq => absurd heq (he now), fun hout => ?_⟩
  rw [hping] at hout
  cases hout

/-- The returns of calls and waits. -/
theorem others (h : c.KeepsPing log) {events : List SessionEvent}
    (hevents : ∀ e ∈ events, ¬ e.OfLink) : c.KeepsPing (log ++ events) := by
  induction events generalizing log with
  | nil => rwa [List.append_nil]
  | cons e events ih =>
    obtain ⟨he, hrest⟩ := List.forall_mem_cons.1 hevents
    have hrestarts : e.restarts = false := by
      cases e <;> first | rfl | exact absurd trivial he
    have hdropped : ∀ now, e ≠ .dropped now := by
      rintro now rfl
      exact he trivial
    rw [List.append_cons]
    refine ih ⟨h.justified.snoc fun now heq => absurd heq (hdropped now), fun hout => ?_⟩ hrest
    rw [openPing_other log hrestarts]
    exact h.outstanding hout

/-- An answer to a packet is sent. -/
theorem replied (h : c.KeepsPing log) (reply : Reply) (sent : Bool) :
    c.KeepsPing (log ++ [.replied reply sent]) := by
  refine ⟨h.justified.snoc nofun, fun hout => ?_⟩
  rw [openPing_other log rfl]
  exact h.outstanding hout

/-- **`keepalive`** drops the connection for its own ping. -/
theorem keepalive (h : c.KeepsPing log) (i : KeepaliveInput) :
    (c.keepalive i).2.KeepsPing (log ++ (c.keepalive i).1) := by
  have hkept := c.keepalive_keptAlive i
  generalize c.keepalive i = kept at hkept ⊢
  cases hkept with
  | idle => rwa [List.append_nil]
  | pinged => exact ⟨h.justified.snoc nofun, fun _ => openPing_pingreq log _⟩
  | dropped hout hexpired =>
    have hopen := h.outstanding hout
    refine ⟨h.justified.snoc ?_, fun _ => ?_⟩
    · rintro now heq
      cases heq
      exact ⟨c.pingResponseTimer, hopen, hexpired⟩
    · rw [openPing_other log rfl]
      exact hopen

theorem sendPacket (h : c.KeepsPing log) {sent : Option Nat} (hsent : c.sendPacket sent = some c') :
    c'.KeepsPing log := by
  have hbegins := sendPacket_begins hsent
  exact h.congr hbegins.pingResponseTimer hbegins.pingOutstanding

/-- A packet that is read can be the answer. -/
theorem handlePacket (h : c.KeepsPing log) (type : Int) (i : CycleInput) :
    (c.handlePacket type i).1.client.KeepsPing (log ++ (c.handlePacket type i).1.events) := by
  have hsame : c.KeepsPing (log ++ []) := by rwa [List.append_nil]
  have hhandled := c.handlePacket_handled type i
  generalize c.handlePacket type i = handled at hhandled ⊢
  cases hhandled with
  | acknowledged | delivered => exact hsame.congr rfl id
  | released _ _ hsent => exact (h.sendPacket hsent).replied _ _
  | unsent => exact h.replied _ _
  | pingresp => exact h.settled rfl nofun
  | ignored => exact hsame

theorem cycle (h : c.KeepsPing log) (i : CycleInput) :
    (c.cycle i).client.KeepsPing (log ++ (c.cycle i).events) := by
  have hread : (c.readPacket i.received).2.KeepsPing log := h.congr rfl id
  have hhandled := hread.handlePacket (c.readPacket i.received).1 i
  unfold MqttClient.cycle
  dsimp only
  split
  next =>
    have hkept := hhandled.keepalive i.keepalive
    rwa [List.append_assoc] at hkept
  next => exact hhandled

theorem sendAck (h : c.KeepsPing log) (reply : Reply) (sent : Option Nat) (i : KeepaliveInput) :
    (c.sendAck reply sent i).2.KeepsPing (log ++ (c.sendAck reply sent i).1) := by
  unfold MqttClient.sendAck
  split
  next => exact h.replied reply false
  next c' hsent =>
    have hkept := ((h.sendPacket hsent).replied reply true).keepalive i
    rwa [List.append_assoc] at hkept

theorem answer (h : c.KeepsPing log) (message : Delivery) (sent : Option Nat) (i : KeepaliveInput) :
    (c.answer message sent i).2.KeepsPing (log ++ (c.answer message sent i).1) := by
  have hsame : c.KeepsPing (log ++ []) := by rwa [List.append_nil]
  unfold MqttClient.answer
  split
  next => exact h.keepalive i
  next =>
    split
    next => exact h.sendAck _ sent i
    next =>
      split
      next => exact h.sendAck _ sent i
      next => exact hsame

end MqttClient.KeepsPing

/-! ## Sessions -/

namespace Session

/-- `MQTTConnect` sets `isconnected` in this step. -/
def connects (s : Session) : SessionAction → Bool
  | .poll .. =>
      match s.stack with
      | .waiting w :: _ =>
          w.kind = .connack ∧ s.client.received w.kind ∧ w.call.result s.client.readbuf = 0
      | [] | .handling _ :: _ => false
  | .network _ | .call .. | .yield _ | .handled .. => false

/-- A connection begins without a ping that is outstanding. -/
def ConnectsFresh (s : Session) (a : SessionAction) : Prop :=
  s.connects a → s.client.pingOutstanding = false

instance (s : Session) (a : SessionAction) : Decidable (s.ConnectsFresh a) :=
  inferInstanceAs (Decidable (s.connects a → s.client.pingOutstanding = false))

theorem keepsPing_acknowledge {s : Session} {log : List SessionEvent}
    (h : s.client.KeepsPing log) {w : MqttWait} {rest : List MqttFrame}
    (hfresh : w.kind = .connack ∧ w.call.result s.client.readbuf = 0 →
      s.client.pingOutstanding = false) :
    (s.acknowledge w rest).2.client.KeepsPing (log ++ (s.acknowledge w rest).1) := by
  have hreturns : ∀ e ∈ [SessionEvent.acknowledged w.kind w.arrived s.client.readbuf,
      .returned w.call w.packetid (w.call.result s.client.readbuf) w.arrived], ¬ e.OfLink := by
    simp [SessionEvent.OfLink]
  unfold acknowledge
  dsimp only
  split
  next hconnects =>
    rw [List.append_cons]
    refine MqttClient.KeepsPing.others ?_ hreturns
    refine h.settled ?_ ?_
    · exact hfresh hconnects
    · intro now heq
      cases heq
  next =>
    refine MqttClient.KeepsPing.others ?_ hreturns
    exact h.congr rfl id

/-- One step. -/
theorem keepsPing_step {s t : Session} {a : SessionAction} {log events : List SessionEvent}
    (h : s.client.KeepsPing log) (hfresh : s.ConnectsFresh a)
    (hstep : s.step a = some (events, t)) : t.client.KeepsPing (log ++ events) := by
  have hsame : s.client.KeepsPing (log ++ []) := by rwa [List.append_nil]
  cases step_effect hstep with
  | network line => exact hsame.congr rfl id
  | returned hbegins _ =>
    exact .others (h.congr hbegins.pingResponseTimer hbegins.pingOutstanding)
      (by simp [SessionEvent.OfLink])
  | began hbegins _ => exact hsame.congr hbegins.pingResponseTimer hbegins.pingOutstanding
  | @acknowledged now i w rest hstack hflag =>
    refine keepsPing_acknowledge h ?_
    rintro ⟨hkind, hresult⟩
    refine hfresh ?_
    rw [connects, hstack]
    exact decide_eq_true ⟨hkind, hflag, hresult⟩
  | timedOut hstack hflag => exact h.others (by simp [SessionEvent.OfLink])
  | read i hreads => exact h.cycle i
  | handled hstack => exact h.answer _ _ _

end Session

/-- **Connections are dropped for their own pings only**, in every run in which no connection begins
with a ping outstanding. -/
theorem drops_justified {commandTimeoutMs keepAliveInterval : Nat} {readbuf : Memory}
    {line : ReadLine} {actions : List SessionAction} {os : List (List SessionEvent)} {u : Session}
    (hrun : Runs.exec Session.step (.init commandTimeoutMs keepAliveInterval readbuf line) actions =
      some (os, u))
    (hfresh : Runs.Along Session.step Session.ConnectsFresh
      (.init commandTimeoutMs keepAliveInterval readbuf line) actions) :
    DropsJustified os.flatten := by
  have hkept : ∀ (os : List (List SessionEvent)) (s : Session) a o t,
      s.client.KeepsPing os.flatten → s.ConnectsFresh a → s.step a = some (o, t) →
      t.client.KeepsPing (os ++ [o]).flatten := by
    intro os s a o t h hok hstep
    have hnext := Session.keepsPing_step h hok hstep
    simpa using hnext
  have hinit : (Session.init commandTimeoutMs keepAliveInterval readbuf line).client.KeepsPing
      ([] : List (List SessionEvent)).flatten := by
    refine ⟨?_, nofun⟩
    intro before now after heq
    exact absurd heq.symm (List.append_ne_nil_of_right_ne_nil _ (List.cons_ne_nil _ _))
  have hend := Runs.exec_history hkept hinit hfresh hrun
  exact hend.justified

/-! ### A stale ping -/

/-- A connection with a keep-alive interval of one second, on which a ping is sent after two, and
not answered. -/
def unansweredPing : List SessionAction :=
  connecting 1 0 ++ [.yield (.at 2000000), .yield (.at 4000000)]

theorem drops_justified_unanswered :
    ∃ os u, Runs.exec Session.step sampleSession unansweredPing =
      some (os, u) ∧ os.flatten[4]?.bind SessionEvent.droppedAt = some 4000000 ∧
      DropsJustified os.flatten := by
  have hlog : (Runs.exec Session.step sampleSession unansweredPing).map
      (fun r => r.1.flatten[4]?.bind SessionEvent.droppedAt) = some (some 4000000) := by
    decide +kernel
  obtain ⟨⟨os, u⟩, hrun, hdropped⟩ := Option.map_eq_some_iff.1 hlog
  exact ⟨os, u, hrun, hdropped, drops_justified hrun (by decide +kernel)⟩

/-- After that the client connects again. It is dropped one second later, for the old ping. -/
theorem stale_ping_drops :
    ∃ os u, Runs.exec Session.step sampleSession
      (unansweredPing ++ connecting 1 5000000 ++ [.yield (.at 6000000)]) = some (os, u) ∧
      ¬ DropsJustified os.flatten := by
  have hlog : (Runs.exec Session.step sampleSession
      (unansweredPing ++ connecting 1 5000000 ++ [.yield (.at 6000000)])).map
      (fun r => (r.1.flatten[8]?.bind SessionEvent.droppedAt, openPing (r.1.flatten.take 8))) =
      some (some 6000000, none) := by decide +kernel
  obtain ⟨⟨os, u⟩, hrun, hlast⟩ := Option.map_eq_some_iff.1 hlog
  obtain ⟨hdropped, hopen⟩ := Prod.mk.inj hlast
  exact ⟨os, u, hrun, not_dropsJustified hdropped hopen⟩

end Esp32Iot
