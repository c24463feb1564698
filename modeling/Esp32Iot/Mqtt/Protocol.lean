import Mathlib.Data.List.ReduceOption
import Esp32Iot.Mqtt.Keepalive

/-!
# What a session keeps to

`LinkState` is what an MQTT client has to know of its connection to keep to the protocol: the packet
ids that it has given away, the answer to a ping that is due, and whether there is a connection.
`LinkState.Moves` are the moves that the protocol allows, and `Session.step_moves` says that every
step of a session is one of them, whatever the application, its handlers, the network and the broker
do, and however deep the calls are nested. So three rules hold of every run:

The packet ids of the requests are taken in turn, from 2 to 65535 and then from 1 on again, so that
an ID is not taken again before all the others have been (`packet_ids_in_turn`). A PINGREQ is sent
only when no answer is due, and a connection is dropped only when one is overdue (`pings_in_turn`);
what is due is not forgotten when a connection begins, and `drops_justified` is about the runs in
which that makes no difference. And `isconnected` tells what has last happened to the connection
(`connected_iff_online`).
-/

namespace Esp32Iot

/-! ## Packet ids -/

/-- The packet id of a request that waits. A CONNECT has none. -/
def MqttFrame.pendingId : MqttFrame → Option Nat
  | .waiting w => if w.kind = .connack then none else some w.packetid
  | .handling _ => none

/-- The packet ids of the requests that wait, the innermost first. -/
def pendingIds (stack : List MqttFrame) : List Nat := stack.filterMap MqttFrame.pendingId

/-- The packet id number `k`. -/
def packetIdAt (k : Nat) : Nat := (k + 1) % 65535 + 1

theorem getNextPacketId_packetIdAt (k : Nat) :
    getNextPacketId (packetIdAt k) = packetIdAt (k + 1) := by
  rw [getNextPacketId, packetIdAt, packetIdAt]
  split <;> omega

theorem packetIdAt_injective {i j : Nat} (hij : i < j) (hnear : j < i + 65535) :
    packetIdAt i ≠ packetIdAt j := by
  rw [packetIdAt, packetIdAt]
  omega

/-! ## Pings -/

/-- The events after which it is known whether an answer is due. -/
def SessionEvent.settles : SessionEvent → Bool
  | .pingreq _ | .pingresp | .returned .disconnect .. => true
  | .returned .. | .connected | .dropped _ | .acknowledged .. | .timedOut .. | .replied .. => false

/-- When the answer is due to the last ping, on whichever connection that was sent. -/
def pingDue (log : List SessionEvent) : Option Timer :=
  match log.reverse.find? SessionEvent.settles with
  | some (.pingreq deadline) => some deadline
  | _ => none

/-- What an event needs: a ping that no answer is due, and the end of a connection that one is
overdue. -/
def SessionEvent.InTurn (due : Option Timer) : SessionEvent → Prop
  | .pingreq _ => due = none
  | .dropped now => ∃ deadline, due = some deadline ∧ timerIsExpired deadline now
  | .returned .. | .connected | .pingresp | .acknowledged .. | .timedOut .. | .replied .. => True

/-- Each event of the log comes in turn. -/
def PingsInTurn (log : List SessionEvent) : Prop :=
  ∀ before e after, log = before ++ e :: after → e.InTurn (pingDue before)

theorem pingDue_settled (log : List SessionEvent) {e : SessionEvent} (he : e.settles = true) :
    pingDue (log ++ [e]) = match e with
      | .pingreq deadline => some deadline
      | _ => none := by
  rw [pingDue, List.reverse_append, List.reverse_singleton, List.singleton_append,
    List.find?_cons_of_pos he]
  cases e <;> rfl

theorem pingDue_other (log : List SessionEvent) {e : SessionEvent} (he : e.settles = false) :
    pingDue (log ++ [e]) = pingDue log := by
  simp [pingDue, he]

theorem PingsInTurn.snoc {log : List SessionEvent} (h : PingsInTurn log) {e : SessionEvent}
    (he : e.InTurn (pingDue log)) : PingsInTurn (log ++ [e]) := by
  intro before e' after heq
  rcases List.eq_nil_or_concat after with rfl | ⟨after', last, rfl⟩
  · obtain ⟨rfl, hlast⟩ := List.append_inj' heq rfl
    cases hlast
    exact he
  · rw [List.concat_eq_append, ← List.cons_append, ← List.append_assoc] at heq
    obtain ⟨hlog, -⟩ := List.append_inj' heq rfl
    exact h before e' after' hlog

/-! ## Connections -/

/-- What an event says about the connection. -/
def SessionEvent.link : SessionEvent → Option Bool
  | .connected => some true
  | .dropped _ | .returned .disconnect .. => some false
  | .returned .. | .pingreq _ | .pingresp | .acknowledged .. | .timedOut .. | .replied .. => none

/-- Whether a connection has begun that has not been dropped or ended since. -/
def online (log : List SessionEvent) : Bool := (log.reverse.findSome? SessionEvent.link).getD false

theorem online_snoc_none {e : SessionEvent} (h : e.link = none) (log : List SessionEvent) :
    online (log ++ [e]) = online log := by
  simp [online, h]

theorem online_snoc {e : SessionEvent} {up : Bool} (h : e.link = some up)
    (log : List SessionEvent) : online (log ++ [e]) = up := by
  rw [online, List.reverse_append, List.reverse_singleton, List.singleton_append,
    List.findSome?_cons_of_isSome (by rw [h]; rfl), h]
  rfl

/-! ## The moves of the protocol -/

/-- What the rules are about. -/
@[ext] structure LinkState where
  nextPacketid : Nat
  /-- the packet ids of the requests that wait, the innermost first -/
  pending : List Nat
  /-- when the answer to a ping is due -/
  due : Option Timer
  isconnected : Bool

/-- An event that tells nothing of pings and connections: a wait or a call other than a
disconnection returns, or a packet is answered. -/
def SessionEvent.Neutral (e : SessionEvent) : Prop :=
  e.settles = false ∧ e.link = none

/-- The moves, with the packet id that is taken and what is seen of them. -/
inductive LinkState.Moves : LinkState → Option Nat → List SessionEvent → LinkState → Prop
  /-- some calls and waits return -/
  | finished {p : LinkState} {events : List SessionEvent} {pending : List Nat}
      (h : ∀ e ∈ events, e.Neutral) (hpending : pending.Sublist p.pending) :
      Moves p none events { p with pending := pending }
  /-- a request takes its packet id, and waits, or fails -/
  | takes {p : LinkState} {events : List SessionEvent} {pending : List Nat}
      (h : ∀ e ∈ events, e.Neutral)
      (hpending : pending.Sublist (getNextPacketId p.nextPacketid :: p.pending)) :
      Moves p (some (getNextPacketId p.nextPacketid)) events
        { p with nextPacketid := getNextPacketId p.nextPacketid, pending := pending }
  | pingreq {p : LinkState} (hdue : p.due = none) (deadline : Timer) :
      Moves p none [.pingreq deadline] { p with due := some deadline }
  | pingresp (p : LinkState) : Moves p none [.pingresp] { p with due := none }
  | dropped {p : LinkState} {now : Nat} {deadline : Timer} (hdue : p.due = some deadline)
      (hexpired : timerIsExpired deadline now) :
      Moves p none [.dropped now] { p with isconnected := false }
  | connected (p : LinkState) : Moves p none [.connected] { p with isconnected := true }
  | disconnected (p : LinkState) (packetid : Nat) (rc : Int) :
      Moves p none [.returned .disconnect packetid rc []]
        { p with due := none, isconnected := false }
  | trans {p q r : LinkState} {events events' : List SessionEvent}
      (h : Moves p none events q) (h' : Moves q none events' r) : Moves p none (events ++ events') r

theorem LinkState.Moves.refl (p : LinkState) : p.Moves none [] p := .finished nofun (.refl _)

/-- The packet id that is taken is the one that is the next then. -/
theorem LinkState.Moves.takes_eq {p q : LinkState} {id : Option Nat} {events : List SessionEvent}
    (h : p.Moves id events q) :
    id = if q.nextPacketid = p.nextPacketid then none else some q.nextPacketid := by
  induction h with
  | takes h hpending =>
    refine (if_neg ?_).symm
    rw [getNextPacketId]
    dsimp only
    split <;> omega
  | trans h h' ih ih' =>
    split at ih
    next heq =>
      rw [heq] at ih'
      exact ih'
    next => cases ih
  | finished | pingreq | pingresp | dropped | connected | disconnected => exact (if_pos rfl).symm

/-- The rules, for the packet ids that were taken and what was seen up to now. -/
structure LinkState.Kept (taken : List Nat) (log : List SessionEvent) (p : LinkState) : Prop where
  next : getNextPacketId p.nextPacketid = packetIdAt taken.length
  ids : taken = (List.range taken.length).map packetIdAt
  pending : p.pending.Sublist taken.reverse
  inTurn : PingsInTurn log
  due : pingDue log = p.due
  link : online log = p.isconnected

/-- Neutral events change nothing of what the log tells. -/
theorem neutral_append {events : List SessionEvent} (h : ∀ e ∈ events, e.Neutral)
    {log : List SessionEvent} (hturn : PingsInTurn log) :
    PingsInTurn (log ++ events) ∧ pingDue (log ++ events) = pingDue log ∧
      online (log ++ events) = online log := by
  induction events generalizing log with
  | nil => simpa using hturn
  | cons e events ih =>
    obtain ⟨⟨hsettles, hlink⟩, hrest⟩ := List.forall_mem_cons.1 h
    have he : e.InTurn (pingDue log) := by
      cases e with
      | pingreq | pingresp => cases hsettles
      | dropped => cases hlink
      | returned | connected | acknowledged | timedOut | replied => trivial
    obtain ⟨hturn', hdue, honline⟩ := ih hrest (hturn.snoc he)
    rw [List.append_cons]
    exact ⟨hturn', hdue.trans (pingDue_other log hsettles),
      honline.trans (online_snoc_none hlink log)⟩

/-- **A move keeps the rules.** -/
theorem LinkState.Kept.move {taken : List Nat} {log events : List SessionEvent} {p q : LinkState}
    {id : Option Nat} (h : p.Kept taken log) (hmove : p.Moves id events q) :
    q.Kept (taken ++ id.toList) (log ++ events) := by
  induction hmove generalizing taken log with
  | finished hneutral hpending =>
    obtain ⟨hturn, hdue, honline⟩ := neutral_append hneutral h.inTurn
    rw [Option.toList_none, List.append_nil]
    exact ⟨h.next, h.ids, hpending.trans h.pending, hturn, hdue.trans h.due, honline.trans h.link⟩
  | @takes p events pending hneutral hpending =>
    obtain ⟨hturn, hdue, honline⟩ := neutral_append hneutral h.inTurn
    refine ⟨?_, ?_, ?_, hturn, hdue.trans h.due, honline.trans h.link⟩
    · dsimp only
      rw [h.next, getNextPacketId_packetIdAt, Option.toList_some, List.length_append,
        List.length_singleton]
    · rw [h.next, Option.toList_some, List.length_append, List.length_singleton, List.range_succ,
        List.map_append, ← h.ids]
      rfl
    · rw [Option.toList_some, List.reverse_append]
      exact hpending.trans (h.pending.cons_cons _)
  | trans hmove hmove' ih ih' =>
    have hboth := ih' (ih h)
    rwa [Option.toList_none, List.append_nil, List.append_nil, List.append_assoc,
      ← List.append_nil taken] at hboth
  | pingreq hdue deadline =>
    rw [Option.toList_none, List.append_nil]
    exact ⟨h.next, h.ids, h.pending, h.inTurn.snoc (h.due.trans hdue), pingDue_settled log rfl,
      (online_snoc_none rfl log).trans h.link⟩
  | pingresp =>
    rw [Option.toList_none, List.append_nil]
    exact ⟨h.next, h.ids, h.pending, h.inTurn.snoc trivial, pingDue_settled log rfl,
      (online_snoc_none rfl log).trans h.link⟩
  | dropped hdue hexpired =>
    rw [Option.toList_none, List.append_nil]
    exact ⟨h.next, h.ids, h.pending, h.inTurn.snoc ⟨_, h.due.trans hdue, hexpired⟩,
      (pingDue_other log rfl).trans h.due, online_snoc rfl log⟩
  | connected =>
    rw [Option.toList_none, List.append_nil]
    exact ⟨h.next, h.ids, h.pending, h.inTurn.snoc trivial, (pingDue_other log rfl).trans h.due,
      online_snoc rfl log⟩
  | disconnected =>
    rw [Option.toList_none, List.append_nil]
    exact ⟨h.next, h.ids, h.pending, h.inTurn.snoc trivial, pingDue_settled log rfl,
      online_snoc rfl log⟩

/-! ## The client makes them -/

namespace MqttClient

/-- What `ping_outstanding` and its timer say of the answer that is due. -/
def due (c : MqttClient) : Option Timer :=
  if c.pingOutstanding then some c.pingResponseTimer else none

/-- What the rules are about, in the client. -/
def linkState (c : MqttClient) (pending : List Nat) : LinkState :=
  ⟨c.nextPacketid, pending, c.due, c.isconnected⟩

/-- What the client shows is a move of the protocol. -/
def Makes (c : MqttClient) (events : List SessionEvent) (c' : MqttClient) : Prop :=
  ∀ pending, (c.linkState pending).Moves none events (c'.linkState pending)

theorem makes_nil {c c' : MqttClient} (h : ∀ pending, c'.linkState pending = c.linkState pending) :
    c.Makes [] c' := by
  intro pending
  rw [h]
  exact .refl _

/-- An answer to a packet. -/
theorem makes_replied {c c' : MqttClient}
    (h : ∀ pending, c'.linkState pending = c.linkState pending) (reply : Reply) (sent : Bool) :
    c.Makes [.replied reply sent] c' := by
  intro pending
  rw [h]
  refine .finished (fun e he => ?_) (.refl _)
  cases List.mem_singleton.1 he
  exact ⟨rfl, rfl⟩

theorem sendPacket_linkState {c c' : MqttClient} {sent : Option Nat}
    (h : c.sendPacket sent = some c') (pending : List Nat) :
    c'.linkState pending = c.linkState pending := by
  obtain ⟨now, -, rfl⟩ := Option.map_eq_some_iff.1 h
  simp only [linkState, due]

theorem keepalive_makes (c : MqttClient) (i : KeepaliveInput) :
    c.Makes (c.keepalive i).1 (c.keepalive i).2 := by
  have hkept := c.keepalive_keptAlive i
  generalize c.keepalive i = kept at hkept ⊢
  cases hkept with
  | idle => exact makes_nil fun _ => rfl
  | @pinged c' hout hsent =>
    intro pending
    have hdue : (c'.linkState pending).due = none := by
      rw [sendPacket_linkState hsent]
      exact if_neg hout
    rw [← sendPacket_linkState hsent]
    exact .pingreq hdue _
  | dropped hout hexpired => exact fun pending => .dropped (if_pos hout) hexpired

theorem handlePacket_makes (c : MqttClient) (type : Int) (i : CycleInput) :
    c.Makes (c.handlePacket type i).1.events (c.handlePacket type i).1.client := by
  have hhandled := c.handlePacket_handled type i
  generalize c.handlePacket type i = handled at hhandled ⊢
  cases hhandled with
  | acknowledged | delivered | ignored => exact makes_nil fun _ => rfl
  | released _ _ hsent => exact makes_replied (sendPacket_linkState hsent) _ _
  | unsent => exact makes_replied (fun _ => rfl) _ _
  | pingresp => exact fun pending => .pingresp _

theorem cycle_makes (c : MqttClient) (i : CycleInput) :
    c.Makes (c.cycle i).events (c.cycle i).client := by
  have hhandled : c.Makes _ _ := handlePacket_makes (c.readPacket i.received).2
    (c.readPacket i.received).1 i
  unfold cycle
  dsimp only
  split
  next => exact fun pending => (hhandled pending).trans (keepalive_makes _ i.keepalive pending)
  next => exact hhandled

theorem sendAck_makes (c : MqttClient) (reply : Reply) (sent : Option Nat) (i : KeepaliveInput) :
    c.Makes (c.sendAck reply sent i).1 (c.sendAck reply sent i).2 := by
  unfold sendAck
  split
  next => exact makes_replied (fun _ => rfl) reply false
  next c' hsent =>
    have hreplied := makes_replied (sendPacket_linkState hsent) reply true
    exact fun pending => (hreplied pending).trans (keepalive_makes c' i pending)

theorem answer_makes (c : MqttClient) (message : Delivery) (sent : Option Nat)
    (i : KeepaliveInput) : c.Makes (c.answer message sent i).1 (c.answer message sent i).2 := by
  unfold answer
  split
  next => exact keepalive_makes c i
  next =>
    split
    next => exact sendAck_makes c _ sent i
    next =>
      split
      next => exact sendAck_makes c _ sent i
      next => exact makes_nil fun _ => rfl

end MqttClient

/-- A call up to its `waitfor` is a move of the protocol. A CONNECT waits without a packet id. -/
def Begun.Makes (c : MqttClient) (call : MqttCall) : Begun → Prop
  | .returns packetid rc c' => ∀ pending, ∃ id,
      (c.linkState pending).Moves id [.returned call packetid rc []] (c'.linkState pending)
  | .sent packetid c' => ∀ pending,
      (call.awaits = some .connack ∧ c'.linkState pending = c.linkState pending) ∨
        call.awaits ≠ some .connack ∧
          ∃ id, (c.linkState pending).Moves id [] (c'.linkState (packetid :: pending))

/-- The return of a call that is no disconnection. -/
theorem neutral_returned {call : MqttCall} (h : call ≠ .disconnect) (packetid : Nat) (rc : Int)
    (arrived : List MqttPacket) :
    SessionEvent.Neutral (.returned call packetid rc arrived) := by
  cases call with
  | disconnect => exact absurd rfl h
  | connect | subscribe | unsubscribe | publish => exact ⟨rfl, rfl⟩

namespace MqttClient

/-- A call that takes no packet id and does not wait. -/
theorem makes_returns {c c' : MqttClient} {call : MqttCall} (hcall : call ≠ .disconnect)
    (h : ∀ pending, c'.linkState pending = c.linkState pending) (packetid : Nat) (rc : Int) :
    (Begun.returns packetid rc c').Makes c call := by
  intro pending
  rw [h]
  exact ⟨none, .finished (List.forall_mem_singleton.2 (neutral_returned hcall _ _ _)) (.refl _)⟩

theorem beginRequest_makes (c : MqttClient) (i : CallInput) {call : MqttCall}
    (hcall : call ≠ .disconnect) (hconnack : call.awaits ≠ some .connack) :
    (c.beginRequest i).Makes c call := by
  unfold beginRequest
  split
  next =>
    dsimp only
    split
    next =>
      intro pending
      exact ⟨_, .takes (List.forall_mem_singleton.2 (neutral_returned hcall _ _ _))
        (List.sublist_cons_self _ _)⟩
    next c' hsent =>
      intro pending
      have hsame := sendPacket_linkState hsent
      have hid : c'.nextPacketid = getNextPacketId c.nextPacketid :=
        congrArg LinkState.nextPacketid (hsame pending)
      refine .inr ⟨hconnack, some (getNextPacketId c.nextPacketid), ?_⟩
      rw [hid, hsame (getNextPacketId c.nextPacketid :: pending)]
      exact .takes (p := c.linkState pending) nofun (.refl _)
  next => exact makes_returns hcall (fun _ => rfl) _ _

theorem beginCall_makes (c : MqttClient) (call : MqttCall) (i : CallInput) :
    (c.beginCall call i).Makes c call := by
  cases call with
  | connect keepAliveInterval =>
    have hcall : MqttCall.connect keepAliveInterval ≠ .disconnect := nofun
    show (c.beginConnect keepAliveInterval i).Makes c _
    unfold beginConnect
    split
    next => exact makes_returns hcall (fun _ => rfl) _ _
    next =>
      dsimp only
      split
      next => exact makes_returns hcall (fun _ => rfl) _ _
      next c' hsent =>
        have hsame := sendPacket_linkState hsent
        exact fun pending => .inl ⟨rfl, hsame pending⟩
  | subscribe => exact c.beginRequest_makes i nofun nofun
  | unsubscribe => exact c.beginRequest_makes i nofun nofun
  | publish qos =>
    cases qos with
    | qos0 =>
      have hcall : MqttCall.publish .qos0 ≠ .disconnect := nofun
      show (c.beginPublish i).Makes c _
      unfold beginPublish
      split
      next =>
        split
        next => exact makes_returns hcall (fun _ => rfl) _ _
        next c' hsent => exact makes_returns hcall (sendPacket_linkState hsent) _ _
      next => exact makes_returns hcall (fun _ => rfl) _ _
    | qos1 => exact c.beginRequest_makes i nofun nofun
    | qos2 => exact c.beginRequest_makes i nofun nofun
  | disconnect =>
    show (c.beginDisconnect i).Makes c _
    unfold beginDisconnect
    dsimp only
    split
    next => exact fun pending => ⟨none, .disconnected _ 0 _⟩
    next c' hsent =>
      intro pending
      have hid := congrArg LinkState.nextPacketid (sendPacket_linkState hsent pending)
      have hend : ({ c' with isconnected := false, pingOutstanding := false } :
          MqttClient).linkState pending =
            { c.linkState pending with due := none, isconnected := false } :=
        LinkState.ext hid rfl rfl rfl
      rw [hend]
      exact ⟨none, .disconnected _ 0 _⟩

end MqttClient

/-! ## A session makes them -/

theorem pendingIds_cons (f : MqttFrame) (stack : List MqttFrame) :
    pendingIds (f :: stack) = f.pendingId.toList ++ pendingIds stack := by
  rw [pendingIds, List.filterMap_cons]
  cases f.pendingId <;> rfl

theorem pendingIds_deliveries (messages : List Delivery) (stack : List MqttFrame) :
    pendingIds (messages.map .handling ++ stack) = pendingIds stack := by
  induction messages with
  | nil => rfl
  | cons message messages ih => exact ih

theorem pendingIds_note (packet : Option MqttPacket) (stack : List MqttFrame) :
    pendingIds (stack.map (MqttFrame.note packet)) = pendingIds stack := by
  have hsame : MqttFrame.pendingId ∘ MqttFrame.note packet = MqttFrame.pendingId := by
    funext f
    cases f <;> rfl
  rw [pendingIds, List.filterMap_map, hsame]
  rfl

namespace Session

/-- What the rules are about, in the session. -/
def linkState (s : Session) : LinkState := s.client.linkState (pendingIds s.stack)

theorem call_moves (s : Session) (call : MqttCall) (i : CallInput) :
    ∃ id, s.linkState.Moves id (s.call call i).1 (s.call call i).2.linkState := by
  have hmakes := s.client.beginCall_makes call i
  rw [Session.call]
  cases hbegun : s.client.beginCall call i with
  | returns packetid rc c =>
    rw [hbegun] at hmakes
    exact hmakes (pendingIds s.stack)
  | sent packetid c =>
    rw [hbegun] at hmakes
    dsimp only
    split
    next hnone =>
      have hsome := s.client.beginCall_from call i
      rw [hbegun] at hsome
      have hawaits := hsome.2
      rw [hnone] at hawaits
      cases hawaits
    next kind hkind =>
      rcases hmakes (pendingIds s.stack) with ⟨hconnack, hsame⟩ | ⟨hconnack, id, hmove⟩
      · obtain rfl : kind = .connack := Option.some.inj (hkind.symm.trans hconnack)
        refine ⟨none, ?_⟩
        show s.linkState.Moves none [] (c.linkState (pendingIds s.stack))
        rw [hsame]
        exact .refl _
      · have hkind' : kind ≠ .connack := fun heq => hconnack (hkind.trans (congrArg some heq))
        refine ⟨id, ?_⟩
        show s.linkState.Moves id []
          ((c.setReceived kind false).linkState (pendingIds (_ :: s.stack)))
        rw [pendingIds_cons, MqttFrame.pendingId, if_neg hkind']
        exact hmove

/-- **Every step of a session is a move of the protocol.** -/
theorem step_moves {s t : Session} {a : SessionAction} {events : List SessionEvent}
    (h : s.step a = some (events, t)) : ∃ id, s.linkState.Moves id events t.linkState := by
  have hcall : ∀ call i, s.step (.call call i) = some (events, t) →
      ∃ id, s.linkState.Moves id events t.linkState := by
    intro call i hcall
    have hmoves := s.call_moves call i
    rw [step] at hcall
    split at hcall
    next => cases hcall
    all_goals
      rw [Option.some.inj hcall] at hmoves
      exact hmoves
  have htail : ∀ f rest, s.stack = f :: rest →
      (pendingIds rest).Sublist (pendingIds s.stack) := by
    intro f rest hstack
    rw [hstack, pendingIds_cons]
    exact List.sublist_append_right _ _
  have hwait : ∀ w : MqttWait, w.call ≠ .disconnect := by
    intro w heq
    have hawaits := w.awaits
    rw [heq] at hawaits
    cases hawaits
  cases step_effect h with
  | network line => exact ⟨none, .refl _⟩
  | returned _ _ => exact hcall _ _ h
  | began _ _ => exact hcall _ _ h
  | @acknowledged now i w rest hstack hflag =>
    have hneutral : ∀ e ∈ [SessionEvent.acknowledged w.kind w.arrived s.client.readbuf,
        .returned w.call w.packetid (w.call.result s.client.readbuf) w.arrived], e.Neutral :=
      List.forall_mem_cons.2 ⟨⟨rfl, rfl⟩,
        List.forall_mem_singleton.2 (neutral_returned (hwait w) _ _ _)⟩
    refine ⟨none, ?_⟩
    unfold acknowledge
    dsimp only
    split
    next => exact (LinkState.Moves.connected _).trans (.finished hneutral (htail _ _ hstack))
    next => exact .finished hneutral (htail _ _ hstack)
  | @timedOut now i w rest hstack hflag =>
    refine ⟨none, .finished (List.forall_mem_cons.2 ⟨⟨rfl, rfl⟩, ?_⟩) (htail _ _ hstack)⟩
    exact List.forall_mem_singleton.2 (neutral_returned (hwait w) _ _ _)
  | read i hreads =>
    refine ⟨none, ?_⟩
    have hids : pendingIds (s.cycle i).2.stack = pendingIds s.stack :=
      (pendingIds_deliveries _ _).trans (pendingIds_note _ _)
    show s.linkState.Moves none _ ((s.client.cycle i).client.linkState _)
    rw [hids]
    exact s.client.cycle_makes i _
  | @handled sent i message rest hstack =>
    refine ⟨none, ?_⟩
    have hmove := s.client.answer_makes message sent i (pendingIds rest)
    rw [linkState, hstack]
    exact hmove

end Session

/-! ## Runs -/

/-- A step, with the packet id that it takes beside what is seen. -/
def Session.idStep (s : Session) (a : SessionAction) :
    Option ((Option Nat × List SessionEvent) × Session) :=
  (s.step a).map fun r =>
    ((if r.2.client.nextPacketid = s.client.nextPacketid then none
      else some r.2.client.nextPacketid, r.1), r.2)

section
variable {commandTimeoutMs keepAliveInterval : Nat} {readbuf : Memory} {line : ReadLine}
  {actions : List SessionAction} {u : Session}

/-- **The rules hold in every run.** -/
theorem session_kept {os : List (Option Nat × List SessionEvent)}
    (hrun : Runs.exec Session.idStep (.init commandTimeoutMs keepAliveInterval readbuf line)
      actions = some (os, u)) :
    u.linkState.Kept (os.map Prod.fst).reduceOption (os.map Prod.snd).flatten := by
  have hstep : ∀ (os : List (Option Nat × List SessionEvent)) (s : Session) a o t,
      s.linkState.Kept (os.map Prod.fst).reduceOption (os.map Prod.snd).flatten → True →
      s.idStep a = some (o, t) →
      t.linkState.Kept ((os ++ [o]).map Prod.fst).reduceOption
        ((os ++ [o]).map Prod.snd).flatten := by
    intro os s a o t h _ hstep
    obtain ⟨⟨events, t⟩, hs, heq⟩ := Option.map_eq_some_iff.1 hstep
    obtain ⟨rfl, rfl⟩ := Prod.mk.inj heq
    obtain ⟨id, hmove⟩ := Session.step_moves hs
    have hnext := h.move hmove
    rw [hmove.takes_eq] at hnext
    change t.linkState.Kept (_ ++ Option.toList (if t.client.nextPacketid = s.client.nextPacketid
      then none else some t.client.nextPacketid)) _ at hnext
    simpa [List.reduceOption_append, List.reduceOption_singleton] using hnext
  have hinit : (Session.init commandTimeoutMs keepAliveInterval readbuf line).linkState.Kept
      [] [] := by
    refine ⟨rfl, rfl, .refl _, ?_, rfl, rfl⟩
    intro before e after heq
    exact absurd heq.symm (List.append_ne_nil_of_right_ne_nil _ (List.cons_ne_nil _ _))
  have hend : u.linkState.Kept (([] ++ os).map Prod.fst).reduceOption
      (([] ++ os).map Prod.snd).flatten :=
    Runs.exec_history hstep hinit (Runs.along_of_forall fun _ _ => trivial) hrun
  rwa [List.nil_append] at hend

/-- What is seen of a run, without the packet ids. -/
theorem exec_idStep {s u : Session} {os : List (List SessionEvent)}
    (hrun : Runs.exec Session.step s actions = some (os, u)) :
    ∃ os', Runs.exec Session.idStep s actions = some (os', u) ∧ os'.map Prod.snd = os := by
  induction actions generalizing s os with
  | nil => cases hrun; exact ⟨[], rfl, rfl⟩
  | cons a actions ih =>
    obtain ⟨o, t, rest, hfirst, hrest, rfl⟩ := Runs.exec_cons_eq_some hrun
    obtain ⟨os', hlater, rfl⟩ := ih hrest
    obtain ⟨id, hid⟩ : ∃ id, s.idStep a = some ((id, o), t) := by
      rw [Session.idStep, hfirst]
      exact ⟨_, rfl⟩
    refine ⟨(id, o) :: os', ?_, rfl⟩
    rw [Runs.exec, hid]
    dsimp only
    rw [hlater]
    rfl

/-- **The packet ids are taken in turn**, in every run: none is 0, none is taken again before 65534
others, and the requests that wait have those of the turns in which they began. -/
theorem packet_ids_in_turn {os : List (Option Nat × List SessionEvent)}
    (hrun : Runs.exec Session.idStep (.init commandTimeoutMs keepAliveInterval readbuf line)
      actions = some (os, u)) :
    let taken := (os.map Prod.fst).reduceOption
    taken = (List.range taken.length).map packetIdAt ∧ (∀ id ∈ taken, 0 < id ∧ id ≤ 65535) ∧
      (∀ i j, i < j → j < i + 65535 → j < taken.length → taken[i]? ≠ taken[j]?) ∧
      (pendingIds u.stack).Sublist taken.reverse := by
  intro taken
  have hkept : u.linkState.Kept taken _ := session_kept hrun
  refine ⟨hkept.ids, ?_, ?_, hkept.pending⟩
  · rw [hkept.ids, List.forall_mem_map]
    intro k _
    rw [packetIdAt]
    omega
  · intro i j hij hnear hlt
    have hget : ∀ k, k < taken.length → taken[k]? = some (packetIdAt k) := by
      intro k hk
      rw [hkept.ids]
      simp [hk]
    rw [hget i (hij.trans hlt), hget j hlt]
    exact fun heq => packetIdAt_injective hij hnear (Option.some.inj heq)

/-- Connected, a subscription that waits, and a handler that publishes meanwhile. -/
def nestedRequests : List SessionAction :=
  connecting 0 0 ++
    [.call .subscribe (.at 1), .network (.sends [0x30, 3, 0, 1, 97]), .poll 2 (.at 2),
      .call (.publish .qos1) (.at 3)]

theorem packet_ids_nestedRequests :
    ∃ os u, Runs.exec Session.idStep sampleSession nestedRequests = some (os, u) ∧
      (os.map Prod.fst).reduceOption = [2, 3] ∧ pendingIds u.stack = [3, 2] ∧
      (pendingIds u.stack).Sublist (os.map Prod.fst).reduceOption.reverse := by
  have hids : (Runs.exec Session.idStep sampleSession nestedRequests).map
      (fun r => ((r.1.map Prod.fst).reduceOption, pendingIds r.2.stack)) =
        some ([2, 3], [3, 2]) := by
    decide +kernel
  obtain ⟨⟨os, u⟩, hrun, hlast⟩ := Option.map_eq_some_iff.1 hids
  obtain ⟨htaken, hpending⟩ := Prod.mk.inj hlast
  exact ⟨os, u, hrun, htaken, hpending, (packet_ids_in_turn hrun).2.2.2⟩

/-- **Pings and drops come in turn**, in every run: no PINGREQ is sent while the answer to another
one is due, and no connection is dropped unless one is overdue. -/
theorem pings_in_turn {os : List (List SessionEvent)}
    (hrun : Runs.exec Session.step (.init commandTimeoutMs keepAliveInterval readbuf line) actions =
      some (os, u)) :
    PingsInTurn os.flatten ∧
      pingDue os.flatten =
        if u.client.pingOutstanding then some u.client.pingResponseTimer else none := by
  obtain ⟨os', hrun', rfl⟩ := exec_idStep hrun
  have hkept := session_kept hrun'
  exact ⟨hkept.inTurn, hkept.due⟩

/-- A second connection that is dropped for the ping of the first one. -/
def stalePing : List SessionAction :=
  unansweredPing ++ connecting 1 5000000 ++ [.yield (.at 6000000)]

theorem pings_in_turn_stalePing :
    ∃ os u, Runs.exec Session.step sampleSession stalePing = some (os, u) ∧
      os.flatten[8]?.bind SessionEvent.droppedAt = some 6000000 ∧
      pingDue (os.flatten.take 8) = some 3000000 ∧ PingsInTurn os.flatten := by
  have hlog : (Runs.exec Session.step sampleSession stalePing).map
      (fun r => (r.1.flatten[8]?.bind SessionEvent.droppedAt, pingDue (r.1.flatten.take 8))) =
      some (some 6000000, some 3000000) := by decide +kernel
  obtain ⟨⟨os, u⟩, hrun, hlast⟩ := Option.map_eq_some_iff.1 hlog
  obtain ⟨hdropped, hdue⟩ := Prod.mk.inj hlast
  exact ⟨os, u, hrun, hdropped, hdue, (pings_in_turn hrun).1⟩

/-- **`CayenneMQTTConnected`** tells of every run whether the last that happened to the connection
was that it began: it is ended by `MQTTDisconnect` and by `keepalive`, and by nothing that the
network does. -/
theorem connected_iff_online {os : List (List SessionEvent)}
    (hrun : Runs.exec Session.step (.init commandTimeoutMs keepAliveInterval readbuf line) actions =
      some (os, u)) :
    u.client.isconnected = online os.flatten := by
  obtain ⟨os', hrun', rfl⟩ := exec_idStep hrun
  exact (session_kept hrun').link.symm

theorem connected_stalePing :
    ∃ os u, Runs.exec Session.step sampleSession stalePing = some (os, u) ∧
      online (os.flatten.take 8) = true ∧ u.client.isconnected = false ∧
      u.client.isconnected = online os.flatten := by
  have hlog : (Runs.exec Session.step sampleSession stalePing).map
      (fun r => (online (r.1.flatten.take 8), r.2.client.isconnected)) =
      some (true, false) := by decide +kernel
  obtain ⟨⟨os, u⟩, hrun, hlast⟩ := Option.map_eq_some_iff.1 hlog
  obtain ⟨honline, hdropped⟩ := Prod.mk.inj hlast
  exact ⟨os, u, hrun, honline, hdropped, connected_iff_online hrun⟩

end

end Esp32Iot
