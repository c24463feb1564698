import Esp32Iot.Mqtt.Session

/-!
# Acknowledgements and requests

`waitfor` returns when the flag of its packet type is set, and the flag is set by any packet of
that type. The callers decode the packet id, and do not compare it with the one they have sent.

`SessionEvent.Matched` says of a call that returns success that the acknowledgement of its own
request has arrived. `acknowledgements_matched` proves it for all runs in which every
acknowledgement that is read is that of the innermost call that waits for its type;
`late_puback_accepted` is a run with an acknowledgement that comes after its call has given up.
-/

namespace Esp32Iot

/-! ## Whose acknowledgement it is -/

/-- The packets that acknowledge a subscription, its end, or a message of quality 1. -/
def AckKind.numbered : AckKind → Bool
  | .suback | .unsuback | .puback => true
  | .connack | .pubcomp => false

/-- A packet acknowledges the request with this packet id. -/
def MqttPacket.Acknowledges (p : MqttPacket) (kind : AckKind) (packetid : Nat) : Prop :=
  p.type = kind.type ∧ p.packetid = some packetid

/-- A call that returns success has got the acknowledgement of its request. -/
def SessionEvent.Matched : SessionEvent → Prop
  | .returned .subscribe packetid rc arrived =>
      0 ≤ rc ∧ rc ≠ 0x80 → ∃ p ∈ arrived, p.Acknowledges .suback packetid
  | .returned .unsubscribe packetid rc arrived =>
      0 ≤ rc ∧ rc ≠ 0x80 → ∃ p ∈ arrived, p.Acknowledges .unsuback packetid
  | .returned (.publish .qos1) packetid rc arrived =>
      rc = 0 → ∃ p ∈ arrived, p.Acknowledges .puback packetid
  | _ => True

/-- The acknowledgement of a wait has arrived. -/
def MqttWait.Answered (w : MqttWait) : Prop := ∃ p ∈ w.arrived, p.Acknowledges w.kind w.packetid

/-- The innermost wait for a packet type. -/
def waitFor (kind : AckKind) : List MqttFrame → Option MqttWait
  | [] => none
  | .waiting w :: rest => if w.kind = kind then some w else waitFor kind rest
  | .handling _ :: rest => waitFor kind rest

theorem SessionEvent.matched_of_link {e : SessionEvent} (h : e.OfLink) : e.Matched := by
  cases e with
  | connected | pingreq | pingresp | dropped | replied => trivial
  | returned | acknowledged | timedOut => cases h

theorem SessionEvent.matched_of_failure (call : MqttCall) (packetid : Nat)
    (arrived : List MqttPacket) :
    (SessionEvent.returned call packetid mqttFailure arrived).Matched := by
  have hneg : ¬ 0 ≤ mqttFailure := by decide
  have hne : mqttFailure ≠ 0 := by decide
  unfold SessionEvent.Matched
  split
  next heq =>
    cases heq
    exact fun h => absurd h.1 hneg
  next heq =>
    cases heq
    exact fun h => absurd h.1 hneg
  next heq =>
    cases heq
    exact fun h => absurd h hne
  next => trivial

theorem SessionEvent.matched_of_no_wait {call : MqttCall} (h : call.awaits = none) (packetid : Nat)
    (rc : Int) (arrived : List MqttPacket) :
    (SessionEvent.returned call packetid rc arrived).Matched := by
  cases call with
  | connect | disconnect => trivial
  | subscribe | unsubscribe => cases h
  | publish qos =>
    cases qos with
    | qos0 | qos2 => trivial
    | qos1 => cases h

/-- A call that waits may return what it likes when its acknowledgement has arrived. -/
theorem MqttWait.matched (w : MqttWait) (rc : Int) (h : w.kind.numbered → w.Answered) :
    (SessionEvent.returned w.call w.packetid rc w.arrived).Matched := by
  have hanswered : ∀ kind : AckKind, w.call.awaits = some kind → kind.numbered →
      ∃ p ∈ w.arrived, p.Acknowledges kind w.packetid := by
    intro kind hawaits hnumbered
    have hkind : w.kind = kind := Option.some.inj (w.awaits.symm.trans hawaits)
    rw [← hkind] at hnumbered ⊢
    exact h hnumbered
  cases hcall : w.call with
  | connect | disconnect => trivial
  | subscribe => exact fun _ => hanswered .suback (by rw [hcall]; rfl) rfl
  | unsubscribe => exact fun _ => hanswered .unsuback (by rw [hcall]; rfl) rfl
  | publish qos =>
    cases qos with
    | qos0 | qos2 => trivial
    | qos1 => exact fun _ => hanswered .puback (by rw [hcall]; rfl) rfl

/-! ## Flags -/

theorem MqttWait.Answered.note {w : MqttWait} (h : w.Answered) (packet : Option MqttPacket) :
    (w.note packet).Answered := by
  obtain ⟨p, hp, hack⟩ := h
  exact ⟨p, List.mem_append_right _ hp, hack⟩

theorem waitFor_note (kind : AckKind) (packet : Option MqttPacket) (stack : List MqttFrame) :
    waitFor kind (stack.map (MqttFrame.note packet)) =
      (waitFor kind stack).map (MqttWait.note packet) := by
  induction stack with
  | nil => rfl
  | cons f stack ih =>
    cases f with
    | handling message => exact ih
    | waiting w =>
      have hkind : (w.note packet).kind = w.kind := rfl
      rw [List.map_cons, MqttFrame.note, waitFor, waitFor, hkind]
      split
      next => rfl
      next => exact ih

theorem waitFor_deliveries (kind : AckKind) (messages : List Delivery) (stack : List MqttFrame) :
    waitFor kind (messages.map .handling ++ stack) = waitFor kind stack := by
  induction messages with
  | nil => rfl
  | cons message messages ih => exact ih

theorem waitFor_of_ne {kind : AckKind} {w : MqttWait} (h : w.kind ≠ kind) (rest : List MqttFrame) :
    waitFor kind (.waiting w :: rest) = waitFor kind rest := if_neg h

theorem waitFor_self (w : MqttWait) (rest : List MqttFrame) :
    waitFor w.kind (.waiting w :: rest) = some w := if_pos rfl

theorem waitFor_kind {kind : AckKind} {stack : List MqttFrame} {w : MqttWait}
    (h : waitFor kind stack = some w) : w.kind = kind := by
  induction stack with
  | nil => cases h
  | cons f stack ih =>
    cases f with
    | handling message => exact ih h
    | waiting w' =>
      rw [waitFor] at h
      split at h
      next hkind =>
        cases h
        exact hkind
      next => exact ih h

namespace Session

/-- A flag that is set stands for the acknowledgement of the innermost wait for it. -/
def Matches (s : Session) : Prop :=
  ∀ kind : AckKind, kind.numbered → s.client.received kind →
    ∀ w, waitFor kind s.stack = some w → w.Answered

/-- An acknowledgement that is read is that of the innermost call that waits for its type. -/
def AcksMatch (s : Session) (a : SessionAction) : Prop :=
  s.reads a → ∀ p ∈ s.client.line.packet, ∀ kind ∈ AckKind.ofType p.type, kind.numbered →
    ∀ w ∈ waitFor kind s.stack, p.packetid = some w.packetid

instance (s : Session) (a : SessionAction) : Decidable (s.AcksMatch a) :=
  inferInstanceAs (Decidable (s.reads a → ∀ p ∈ s.client.line.packet,
    ∀ kind ∈ AckKind.ofType p.type, kind.numbered →
      ∀ w ∈ waitFor kind s.stack, p.packetid = some w.packetid))

variable {s t : Session}

theorem Matches.congr (h : s.Matches) (hreceived : t.client.received = s.client.received)
    (hstack : ∀ kind, waitFor kind t.stack = waitFor kind s.stack) : t.Matches := by
  intro kind hnumbered hflag w hw
  rw [hreceived] at hflag
  rw [hstack] at hw
  exact h kind hnumbered hflag w hw

/-- A flag is cleared, and the stack is another one for its kind only. -/
theorem Matches.clear (h : s.Matches) (kind : AckKind)
    (hreceived : t.client.received = Function.update s.client.received kind false)
    (hstack : ∀ other, kind ≠ other → waitFor other t.stack = waitFor other s.stack) :
    t.Matches := by
  intro other hnumbered hflag w hw
  rw [hreceived] at hflag
  rcases eq_or_ne other kind with rfl | hne
  · rw [Function.update_self] at hflag
    cases hflag
  · rw [Function.update_of_ne hne] at hflag
    rw [hstack other hne.symm] at hw
    exact h other hnumbered hflag w hw

/-- A packet is read. -/
theorem Matches.cycle (h : s.Matches) {a : SessionAction} (hreads : s.reads a)
    (hok : s.AcksMatch a) (i : CycleInput) : (s.cycle i).2.Matches := by
  intro kind hnumbered hflag w hw
  change (s.client.cycle i).client.received kind = true at hflag
  change waitFor kind ((s.client.cycle i).delivery.toList.map .handling ++
    s.stack.map (MqttFrame.note s.client.line.packet)) = some w at hw
  rw [waitFor_deliveries, waitFor_note] at hw
  obtain ⟨w, hold, rfl⟩ := Option.map_eq_some_iff.1 hw
  -- the waits whose flag was set before have been answered before
  have hbefore : s.client.received kind = true → (w.note s.client.line.packet).Answered :=
    fun hset => (h kind hnumbered hset w hold).note _
  cases hack : s.client.line.ack with
  | none =>
    rw [(s.client.cycle_of_other i hack).1] at hflag
    exact hbefore hflag
  | some kind' =>
    obtain ⟨p, hp, htype⟩ := Option.bind_eq_some_iff.1 hack
    have htype' : p.type = kind'.type := Int.ofNat_inj.1 (AckKind.ofType_eq_some_iff.1 htype)
    rw [(s.client.cycle_of_ack i hp htype').1] at hflag
    rcases eq_or_ne kind kind' with rfl | hne
    · -- this is the packet that sets the flag
      have hid := hok hreads p hp kind htype hnumbered w hold
      refine ⟨p, ?_, ?_, hid⟩
      · rw [hp]
        exact List.mem_cons_self
      · rw [htype', ← waitFor_kind hold]
        rfl
    · rw [Function.update_of_ne hne] at hflag
      exact hbefore hflag

/-- **One step.** -/
theorem Matches.step (h : s.Matches) {a : SessionAction} (hok : s.AcksMatch a)
    {events : List SessionEvent} (hstep : s.step a = some (events, t)) : t.Matches := by
  cases step_effect hstep with
  | network line => exact h.congr rfl fun _ => rfl
  | returned hbegins _ => exact h.congr hbegins.waits.received fun _ => rfl
  | @began i c w hbegins _ =>
    refine h.clear w.kind ?_ fun other hne => waitFor_of_ne hne _
    show Function.update c.received w.kind false = _
    rw [hbegins.waits.received]
  | @acknowledged now i w rest hstack _ =>
    obtain ⟨hsame, hrest⟩ := s.acknowledge_client w rest
    refine h.clear w.kind hsame.received fun other hne => ?_
    rw [hrest, hstack, waitFor_of_ne hne]
  | @timedOut now i w rest hstack hflag =>
    refine h.clear w.kind ?_ fun other hne => ?_
    · show s.client.received = _
      rw [← hflag, Function.update_eq_self]
    · rw [hstack, waitFor_of_ne hne]
  | read i hreads => exact h.cycle hreads hok i
  | @handled sent i message rest hstack =>
    refine h.congr (s.client.answer_sameWaits message sent i).1.received fun _ => ?_
    rw [hstack]
    rfl

/-- What a step returns is matched. -/
theorem Matches.events (h : s.Matches) {a : SessionAction} {events : List SessionEvent}
    (hstep : s.step a = some (events, t)) : ∀ e ∈ events, e.Matched := by
  intro e he
  cases step_emits hstep e he with
  | link hlink => exact SessionEvent.matched_of_link hlink
  | @refused call packetid rc hrc =>
    cases hawaits : call.awaits with
    | some kind =>
      rw [hrc (by rw [hawaits]; rfl)]
      exact SessionEvent.matched_of_failure call packetid []
    | none => exact SessionEvent.matched_of_no_wait hawaits packetid rc []
  | acknowledged | timedOut => trivial
  | @decoded w rest hstack hflag =>
    refine w.matched _ fun hnumbered => h w.kind hnumbered hflag w ?_
    rw [hstack, waitFor_self]
  | @failed w => exact SessionEvent.matched_of_failure w.call w.packetid w.arrived

end Session

/-- **Acknowledgements are matched to requests**, in every run in which each acknowledgement that is
read is that of the innermost call that waits for its type. -/
theorem acknowledgements_matched {commandTimeoutMs keepAliveInterval : Nat} {readbuf : Memory}
    {line : ReadLine} {actions : List SessionAction} {os : List (List SessionEvent)} {u : Session}
    (hrun : Runs.exec Session.step (.init commandTimeoutMs keepAliveInterval readbuf line) actions =
      some (os, u))
    (hmatch : Runs.Along Session.step Session.AcksMatch
      (.init commandTimeoutMs keepAliveInterval readbuf line) actions) :
    ∀ e ∈ os.flatten, e.Matched := by
  have hinit : (Session.init commandTimeoutMs keepAliveInterval readbuf line).Matches :=
    fun _ _ hflag => nomatch hflag
  have hkept : ∀ (s : Session) a events t, s.Matches → s.AcksMatch a →
      s.step a = some (events, t) → t.Matches := fun _ _ _ _ h hok hstep => h.step hok hstep
  have hout : ∀ (s : Session) a events t, s.Matches → s.AcksMatch a →
      s.step a = some (events, t) → ∀ e ∈ events, e.Matched :=
    fun _ _ _ _ h _ hstep => h.events hstep
  exact Runs.exec_outputs_flatten hkept hout hinit hmatch hrun

/-- What a call returns, with what has arrived since its packet was sent. -/
def SessionEvent.returns : SessionEvent → Option (MqttCall × Nat × Int × List MqttPacket)
  | .returned call packetid rc arrived => some (call, packetid, rc, arrived)
  | .acknowledged .. | .timedOut .. | .connected | .pingreq _ | .pingresp | .dropped _
  | .replied .. => none

theorem SessionEvent.returns_eq_some {e : SessionEvent} {call : MqttCall} {packetid : Nat}
    {rc : Int} {arrived : List MqttPacket} (h : e.returns = some (call, packetid, rc, arrived)) :
    e = .returned call packetid rc arrived := by
  cases e <;> cases h
  rfl

/-- A message of quality 1, and its acknowledgement. -/
def published : List SessionAction :=
  connecting 60 0 ++ [.call (.publish .qos1) (.at 0), .network (.sends [0x40, 2, 0, 2]),
    .poll 0 (.at 0), .poll 0 (.at 0)]

theorem acknowledgements_matched_published :
    ∃ os u, Runs.exec Session.step sampleSession published = some (os, u) ∧
      (os.flatten[4]?.bind SessionEvent.returns =
        some (.publish .qos1, 2, 0, [⟨0x40, [0, 2]⟩])) ∧
      ∀ e ∈ os.flatten, e.Matched := by
  have hlog : (Runs.exec Session.step sampleSession published).map
      (fun r => r.1.flatten[4]?.bind SessionEvent.returns) =
      some (some (.publish .qos1, 2, 0, [⟨0x40, [0, 2]⟩])) := by decide +kernel
  obtain ⟨⟨os, u⟩, hrun, hreturns⟩ := Option.map_eq_some_iff.1 hlog
  exact ⟨os, u, hrun, hreturns, acknowledgements_matched hrun (by decide +kernel)⟩

/-- The first message is given up after two seconds, and its acknowledgement comes when the second
has been sent. -/
def latePuback : List SessionAction :=
  connecting 60 0 ++ [.call (.publish .qos1) (.at 0), .poll 2000000 (.at 2000000),
    .call (.publish .qos1) (.at 3000000), .network (.sends [0x40, 2, 0, 2]),
    .poll 3000000 (.at 3000000), .poll 3000000 (.at 3000000)]

theorem late_puback_accepted :
    ∃ os u, Runs.exec Session.step sampleSession latePuback = some (os, u) ∧
      ∃ e ∈ os.flatten, e.returns = some (.publish .qos1, 3, 0, [⟨0x40, [0, 2]⟩]) ∧
        ¬ e.Matched := by
  have hlog : (Runs.exec Session.step sampleSession latePuback).map
      (fun r => r.1.flatten[6]?.bind SessionEvent.returns) =
      some (some (.publish .qos1, 3, 0, [⟨0x40, [0, 2]⟩])) := by decide +kernel
  obtain ⟨⟨os, u⟩, hrun, hreturns⟩ := Option.map_eq_some_iff.1 hlog
  obtain ⟨e, he, hreturns⟩ := Option.bind_eq_some_iff.1 hreturns
  refine ⟨os, u, hrun, e, List.mem_of_getElem? he, hreturns, ?_⟩
  rw [SessionEvent.returns_eq_some hreturns]
  intro hmatched
  obtain ⟨p, hp, hack⟩ := hmatched rfl
  cases List.mem_singleton.1 hp
  exact absurd hack.2 (by decide)

end Esp32Iot
