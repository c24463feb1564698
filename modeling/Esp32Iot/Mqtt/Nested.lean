import Esp32Iot.Mqtt.Session

/-!
# Nested waits

While a call waits for its acknowledgement, `cycle` can hand a message to its handler, and the
handler can publish an answer and wait for the PUBACK of that. The flags keep the two waits apart,
as long as their types differ; but they share one `readbuf`, and a call decodes it after `waitfor`
has returned.

`nested_waits_undisturbed` is about all runs in which handlers wait for nothing but a PUBACK. The
outer wait misses no packet of its type: when it times out, none has arrived. And when it returns
its type, exactly one packet of it has arrived and is in the buffer, provided that nothing is read
while it is there; `nested_wait_overwrites` is a run in which the PUBACK of the inner wait is read
then.
-/

namespace Esp32Iot

/-! ## Outer waits -/

/-- The packets of a type. -/
def packetsOf (kind : AckKind) (arrived : List MqttPacket) : List MqttPacket :=
  arrived.filter fun p => p.type = kind.type

/-- The outer wait misses no packet. -/
def SessionEvent.MissesNone : SessionEvent → Prop
  | .timedOut kind arrived => kind ≠ .puback → packetsOf kind arrived = []
  | .acknowledged .. | .returned .. | .connected | .pingreq _ | .pingresp | .dropped _
  | .replied .. => True

/-- The outer wait finds its packet in the buffer. -/
def SessionEvent.FindsPacket : SessionEvent → Prop
  | .acknowledged kind arrived readbuf =>
      kind ≠ .puback → ∃ p, packetsOf kind arrived = [p] ∧ HasAt readbuf 0 p.bytes
  | .timedOut .. | .returned .. | .connected | .pingreq _ | .pingresp | .dropped _
  | .replied .. => True

section
-- the assumption that the buffer is left alone
variable {Q : Prop}

/-- The flag of a wait is set when its packet has arrived, and then the packet is in the buffer if
that is left alone. -/
inductive MqttWait.Kept (Q : Prop) (w : MqttWait) (c : MqttClient) : Prop
  | missing (hflag : c.received w.kind = false) (harrived : packetsOf w.kind w.arrived = [])
  | arrived (hflag : c.received w.kind = true)
      (hfound : Q → ∃ p, packetsOf w.kind w.arrived = [p] ∧ HasAt c.readbuf 0 p.bytes)

/-- Only the outermost wait can be for something else than a PUBACK, and its packet is kept. -/
def Kept (Q : Prop) (c : MqttClient) : List MqttFrame → Prop
  | [] => True
  | .handling _ :: rest => Kept Q c rest
  | .waiting w :: rest => (w.kind ≠ .puback → rest = [] ∧ w.Kept Q c) ∧ Kept Q c rest

theorem MqttWait.Kept.congr {w : MqttWait} {c c' : MqttClient} (h : w.Kept Q c)
    (hflag : c'.received w.kind = c.received w.kind) (hreadbuf : c'.readbuf = c.readbuf) :
    w.Kept Q c' := by
  cases h with
  | missing hold harrived => exact .missing (hflag.trans hold) harrived
  | arrived hold hfound =>
    refine .arrived (hflag.trans hold) ?_
    rw [hreadbuf]
    exact hfound

/-- A change of the client that keeps every outer wait keeps the stack. -/
theorem Kept.mono {c c' : MqttClient} {stack : List MqttFrame} (h : Kept Q c stack)
    (hwaits : ∀ w : MqttWait, w.kind ≠ .puback → w.Kept Q c → w.Kept Q c') : Kept Q c' stack := by
  induction stack with
  | nil => trivial
  | cons f stack ih =>
    cases f with
    | handling message => exact ih h
    | waiting w =>
      refine ⟨fun hkind => ?_, ih h.2⟩
      obtain ⟨hlast, hkept⟩ := h.1 hkind
      exact ⟨hlast, hwaits w hkind hkept⟩

theorem Kept.sameWaits {c c' : MqttClient} {stack : List MqttFrame} (h : Kept Q c stack)
    (hsame : c.SameWaits c') : Kept Q c' stack :=
  h.mono fun w _ hkept => hkept.congr (congrFun hsame.received w.kind) hsame.readbuf

/-- The flag of a PUBACK does not matter to the outer waits. -/
theorem Kept.clear_puback {c : MqttClient} {stack : List MqttFrame} (h : Kept Q c stack)
    (value : Bool) : Kept Q (c.setReceived .puback value) stack :=
  h.mono fun _ hkind hkept => hkept.congr (Function.update_of_ne hkind _ _) rfl

theorem Kept.deliveries {c : MqttClient} {stack : List MqttFrame} (h : Kept Q c stack)
    (messages : List Delivery) : Kept Q c (messages.map .handling ++ stack) := by
  induction messages with
  | nil => exact h
  | cons message messages ih => exact ih

/-! ## A packet more -/

theorem packetsOf_note_of_ne {kind : AckKind} {p : MqttPacket} (h : p.type ≠ kind.type)
    (arrived : List MqttPacket) : packetsOf kind (p :: arrived) = packetsOf kind arrived := by
  rw [packetsOf, List.filter_cons_of_neg (by simp [h])]
  rfl

theorem packetsOf_note {kind : AckKind} {p : MqttPacket} (h : p.type = kind.type)
    (arrived : List MqttPacket) : packetsOf kind (p :: arrived) = p :: packetsOf kind arrived := by
  rw [packetsOf, List.filter_cons_of_pos (by simp [h])]
  rfl

/-- A `cycle` in which nothing comes. -/
theorem cycle_note_of_silence (w : MqttWait) (c : MqttClient) (i : CycleInput)
    (h : c.line.feed.arriving = []) :
    w.note c.line.packet = w ∧ (c.cycle i).client.readbuf = c.readbuf := by
  obtain ⟨hnone, hreadbuf, -⟩ := c.cycle_of_silence i h
  rw [hnone]
  exact ⟨rfl, hreadbuf⟩

/-- A flag that is set stays set. -/
theorem cycle_received_of_set {c : MqttClient} {kind : AckKind} (h : c.received kind = true)
    (i : CycleInput) : (c.cycle i).client.received kind = true := by
  cases hp : c.line.packet with
  | none =>
    rw [c.cycle_received_of_none i hp]
    exact h
  | some p =>
    rcases eq_or_ne p.type kind.type with htype | hne
    · rw [(c.cycle_of_ack i hp htype).1]
      exact Function.update_self _ _ _
    · exact (c.cycle_received_of_ne i hp hne).trans h

/-- **A `cycle`**, in which nothing comes if the packet of the wait is there already. -/
theorem MqttWait.Kept.cycle {w : MqttWait} {c : MqttClient} (h : w.Kept Q c) (i : CycleInput)
    (hquiet : Q → c.received w.kind → c.line.feed.arriving = []) :
    (w.note c.line.packet).Kept Q (c.cycle i).client := by
  cases h with
  | arrived hflag hfound =>
    refine .arrived (cycle_received_of_set hflag i) fun hq => ?_
    obtain ⟨hnote, hreadbuf⟩ := cycle_note_of_silence w c i (hquiet hq hflag)
    rw [hnote, hreadbuf]
    exact hfound hq
  | missing hflag harrived =>
    cases hp : c.line.packet with
    | none =>
      refine .missing ?_ harrived
      rw [c.cycle_received_of_none i hp]
      exact hflag
    | some p =>
      rcases eq_or_ne p.type w.kind.type with htype | hne
      · -- this is the packet of the wait
        obtain ⟨hreceived, hat, -, -⟩ := c.cycle_of_ack i hp htype
        refine .arrived ?_ fun _ => ⟨p, ?_, hat⟩
        · rw [hreceived]
          exact Function.update_self _ _ _
        · rw [← harrived]
          exact packetsOf_note htype w.arrived
      · refine .missing ?_ ?_
        · exact (c.cycle_received_of_ne i hp hne).trans hflag
        · rw [← harrived]
          exact packetsOf_note_of_ne hne w.arrived

/-- A wait whose packet is in the buffer, and that is not for a PUBACK. -/
def MqttFrame.satisfied (c : MqttClient) : MqttFrame → Bool
  | .waiting w => w.kind ≠ .puback ∧ c.received w.kind
  | .handling _ => false

theorem Kept.cycle {c : MqttClient} {stack : List MqttFrame} (h : Kept Q c stack) (i : CycleInput)
    (hquiet : Q → ∀ f ∈ stack, f.satisfied c → c.line.feed.arriving = []) :
    Kept Q (c.cycle i).client (stack.map (MqttFrame.note c.line.packet)) := by
  induction stack with
  | nil => trivial
  | cons f stack ih =>
    have hrest : Q → ∀ f ∈ stack, f.satisfied c → c.line.feed.arriving = [] :=
      fun hq f hf => hquiet hq f (.tail _ hf)
    cases f with
    | handling message => exact ih h hrest
    | waiting w =>
      refine ⟨fun hkind => ?_, ih h.2 hrest⟩
      obtain ⟨hlast, hkept⟩ := h.1 hkind
      refine ⟨by rw [hlast]; rfl, hkept.cycle i fun hq hflag => hquiet hq _ (.head _) ?_⟩
      exact decide_eq_true ⟨hkind, hflag⟩

end

/-! ## Sessions -/

namespace Session

/-- A call that a handler makes waits for a PUBACK, if it waits. -/
def Responds (s : Session) : SessionAction → Prop
  | .call call _ => s.stack.isEmpty ∨ ∀ kind ∈ call.awaits, kind = .puback
  | .network _ | .poll .. | .yield _ | .handled .. => True

/-- Nothing is read while the packet of an outer wait is in the buffer. -/
def KeepsBuffer (s : Session) (a : SessionAction) : Prop :=
  s.reads a → ∀ f ∈ s.stack, f.satisfied s.client → s.client.line.feed.arriving = []

instance (s : Session) : ∀ a, Decidable (s.Responds a)
  | .call call _ =>
      inferInstanceAs (Decidable (s.stack.isEmpty ∨ ∀ kind ∈ call.awaits, kind = .puback))
  | .network _ | .poll .. | .yield _ | .handled .. => .isTrue trivial

instance (s : Session) (a : SessionAction) : Decidable (s.KeepsBuffer a) :=
  inferInstanceAs (Decidable (s.reads a → ∀ f ∈ s.stack, f.satisfied s.client →
    s.client.line.feed.arriving = []))

variable {Q : Prop} {s t : Session} {a : SessionAction} {events : List SessionEvent}

/-- **One step.** -/
theorem kept_step (h : Kept Q s.client s.stack) (hresponds : s.Responds a)
    (hbuffer : Q → s.KeepsBuffer a) (hstep : s.step a = some (events, t)) :
    Kept Q t.client t.stack := by
  cases step_effect hstep with
  | network line => exact h.sameWaits ⟨rfl, rfl⟩
  | returned hbegins _ => exact h.sameWaits hbegins.waits
  | @began i c w hbegins harrived =>
    have hkept : Kept Q c s.stack := h.sameWaits hbegins.waits
    rcases hresponds with hempty | hpuback
    · have hnil : s.stack = [] := List.isEmpty_iff.1 hempty
      show Kept Q _ (.waiting w :: s.stack)
      rw [hnil]
      refine ⟨fun _ => ⟨rfl, .missing (Function.update_self _ _ _) ?_⟩, trivial⟩
      rw [harrived]
      rfl
    · have hkind : w.kind = .puback := hpuback w.kind w.awaits
      refine ⟨fun hother => absurd hkind hother, ?_⟩
      rw [hkind]
      exact hkept.clear_puback false
  | @acknowledged now i w rest hstack _ =>
    obtain ⟨hsame, hrest⟩ := s.acknowledge_client w rest
    rw [hstack] at h
    rw [hrest]
    refine Kept.sameWaits ?_ hsame
    rcases eq_or_ne w.kind .puback with hkind | hkind
    · rw [hkind]
      exact h.2.clear_puback false
    · rw [(h.1 hkind).1]
      trivial
  | @timedOut now i w rest hstack hflag =>
    rw [hstack] at h
    exact h.2
  | read i hreads => exact (h.cycle i fun hq => hbuffer hq hreads).deliveries _
  | @handled sent i message rest hstack =>
    rw [hstack] at h
    have hrest : Kept Q s.client rest := h
    exact hrest.sameWaits (s.client.answer_sameWaits message sent i).1

/-- What the outer wait finds when it returns. -/
theorem kept_events (h : Kept Q s.client s.stack) (hstep : s.step a = some (events, t)) :
    ∀ e ∈ events, e.MissesNone ∧ (Q → e.FindsPacket) := by
  intro e he
  cases step_emits hstep e he with
  | link hlink =>
    cases e with
    | connected | pingreq | pingresp | dropped | replied => exact ⟨trivial, fun _ => trivial⟩
    | returned | acknowledged | timedOut => cases hlink
  | refused | decoded | failed => exact ⟨trivial, fun _ => trivial⟩
  | acknowledged hstack hflag =>
    refine ⟨trivial, fun hq hkind => ?_⟩
    rw [hstack] at h
    cases (h.1 hkind).2 with
    | missing hcleared harrived =>
      rw [hflag] at hcleared
      cases hcleared
    | arrived hset hfound => exact hfound hq
  | timedOut hstack hflag =>
    refine ⟨fun hkind => ?_, fun _ => trivial⟩
    rw [hstack] at h
    cases (h.1 hkind).2 with
    | missing hcleared harrived => exact harrived
    | arrived hset hfound =>
      rw [hflag] at hset
      cases hset

end Session

/-- **Nested waits do not disturb the outer one**, in every run in which handlers wait for nothing
but a PUBACK: no packet is lost to it, and it finds its packet in the buffer if nothing is read
while the packet is there. -/
theorem nested_waits_undisturbed {commandTimeoutMs keepAliveInterval : Nat} {readbuf : Memory}
    {line : ReadLine} {actions : List SessionAction} {os : List (List SessionEvent)} {u : Session}
    (hrun : Runs.exec Session.step (.init commandTimeoutMs keepAliveInterval readbuf line) actions =
      some (os, u))
    (hresponds : Runs.Along Session.step Session.Responds
      (.init commandTimeoutMs keepAliveInterval readbuf line) actions) :
    (∀ e ∈ os.flatten, e.MissesNone) ∧
      (Runs.Along Session.step Session.KeepsBuffer
          (.init commandTimeoutMs keepAliveInterval readbuf line) actions →
        ∀ e ∈ os.flatten, e.FindsPacket) := by
  let Q := Runs.Along Session.step Session.KeepsBuffer
    (.init commandTimeoutMs keepAliveInterval readbuf line) actions
  have hbuffer : Runs.Along Session.step (fun s a => Q → s.KeepsBuffer a)
      (.init commandTimeoutMs keepAliveInterval readbuf line) actions := Runs.along_of_imp id
  have hkept : ∀ (s : Session) a events t, Kept Q s.client s.stack →
      s.Responds a ∧ (Q → s.KeepsBuffer a) → s.step a = some (events, t) →
      Kept Q t.client t.stack :=
    fun _ _ _ _ h hok hstep => Session.kept_step h hok.1 hok.2 hstep
  have hout : ∀ (s : Session) a events t, Kept Q s.client s.stack →
      s.Responds a ∧ (Q → s.KeepsBuffer a) → s.step a = some (events, t) →
      ∀ e ∈ events, e.MissesNone ∧ (Q → e.FindsPacket) :=
    fun _ _ _ _ h _ hstep => Session.kept_events h hstep
  have hinit : Kept Q (Session.init commandTimeoutMs keepAliveInterval readbuf line).client
    (Session.init commandTimeoutMs keepAliveInterval readbuf line).stack := trivial
  have hevents := Runs.exec_outputs_flatten hkept hout hinit (hresponds.and hbuffer) hrun
  exact ⟨fun e he => (hevents e he).1, fun hq e he => (hevents e he).2 hq⟩

/-- The type of a wait that returns it, what has arrived for it, and the first byte of the buffer
then. -/
def SessionEvent.acknowledges : SessionEvent → Option (AckKind × List MqttPacket × UInt8)
  | .acknowledged kind arrived readbuf => some (kind, arrived, readbuf 0)
  | .returned .. | .timedOut .. | .connected | .pingreq _ | .pingresp | .dropped _
  | .replied .. => none

theorem SessionEvent.acknowledges_eq_some {e : SessionEvent} {kind : AckKind}
    {arrived : List MqttPacket} {first : UInt8} (h : e.acknowledges = some (kind, arrived, first)) :
    ∃ readbuf, e = .acknowledged kind arrived readbuf ∧ readbuf 0 = first := by
  cases e with
  | acknowledged kind arrived readbuf =>
    cases h
    exact ⟨readbuf, rfl, rfl⟩
  | returned | timedOut | connected | pingreq | pingresp | dropped | replied => cases h

/-- A subscription; before its SUBACK a message comes, and the handler publishes an answer. -/
def answering : List SessionAction :=
  connecting 60 0 ++ [.call .subscribe (.at 0), .network (.sends [0x30, 3, 0, 1, 116]),
    .poll 0 (.at 0), .call (.publish .qos1) (.at 0)]

/-- The PUBACK of the answer comes first. -/
def pubackFirst : List SessionAction :=
  answering ++ [.network (.sends [0x40, 2, 0, 3]), .poll 0 (.at 0), .poll 0 (.at 0),
    .handled none ⟨0, 0, none, 0, 0⟩, .network (.sends [0x90, 3, 0, 2, 0x80]), .poll 0 (.at 0),
    .poll 0 (.at 0)]

theorem nested_waits_undisturbed_puback :
    ∃ os u, Runs.exec Session.step sampleSession pubackFirst = some (os, u) ∧
      os.flatten[5]?.bind SessionEvent.acknowledges = some (.suback,
        [⟨0x90, [0, 2, 0x80]⟩, ⟨0x40, [0, 3]⟩, ⟨0x30, [0, 1, 116]⟩], 0x90) ∧
      ∀ e ∈ os.flatten, e.MissesNone ∧ e.FindsPacket := by
  have hlog : (Runs.exec Session.step sampleSession pubackFirst).map
      (fun r => r.1.flatten[5]?.bind SessionEvent.acknowledges) = some (some (.suback,
        [⟨0x90, [0, 2, 0x80]⟩, ⟨0x40, [0, 3]⟩, ⟨0x30, [0, 1, 116]⟩], 0x90)) := by decide +kernel
  obtain ⟨⟨os, u⟩, hrun, hfound⟩ := Option.map_eq_some_iff.1 hlog
  obtain ⟨hmisses, hfinds⟩ := nested_waits_undisturbed hrun (by decide +kernel)
  have hpacket := hfinds (by decide +kernel)
  exact ⟨os, u, hrun, hfound, fun e he => ⟨hmisses e he, hpacket e he⟩⟩

/-- The SUBACK comes first, with the return code of a refusal. -/
def subackFirst : List SessionAction :=
  answering ++ [.network (.sends [0x90, 3, 0, 2, 0x80]), .poll 0 (.at 0),
    .network (.sends [0x40, 2, 0, 3]), .poll 0 (.at 0), .poll 0 (.at 0),
    .handled none ⟨0, 0, none, 0, 0⟩, .poll 0 (.at 0)]

/-- `MQTTSubscribe` decodes the PUBACK, and returns success. -/
theorem nested_wait_overwrites :
    ∃ os u, Runs.exec Session.step sampleSession subackFirst = some (os, u) ∧
      Runs.Along Session.step Session.Responds sampleSession subackFirst ∧
      ∃ e ∈ os.flatten, e.acknowledges = some (.suback,
        [⟨0x40, [0, 3]⟩, ⟨0x90, [0, 2, 0x80]⟩, ⟨0x30, [0, 1, 116]⟩], 0x40) ∧
        ¬ e.FindsPacket := by
  have hlog : (Runs.exec Session.step sampleSession subackFirst).map
      (fun r => r.1.flatten[5]?.bind SessionEvent.acknowledges) = some (some (.suback,
        [⟨0x40, [0, 3]⟩, ⟨0x90, [0, 2, 0x80]⟩, ⟨0x30, [0, 1, 116]⟩], 0x40)) := by decide +kernel
  obtain ⟨⟨os, u⟩, hrun, hfound⟩ := Option.map_eq_some_iff.1 hlog
  obtain ⟨e, he, hfound⟩ := Option.bind_eq_some_iff.1 hfound
  refine ⟨os, u, hrun, by decide +kernel, e, List.mem_of_getElem? he, hfound, ?_⟩
  obtain ⟨readbuf, rfl, hfirst⟩ := SessionEvent.acknowledges_eq_some hfound
  intro hfinds
  obtain ⟨p, hp, hat⟩ := hfinds (by decide)
  cases hp
  rw [hat.1] at hfirst
  cases hfirst

end Esp32Iot
