import Esp32Iot.Cayenne
import Esp32Iot.Cayenne.Topic
import Esp32Iot.Lib.Runs

/-!
# Subscriptions and their handlers

`CayenneMQTTSubscribe` and `CayenneMQTTUnsubscribe` keep a table of five entries, which
`MQTTMessageArrived` searches for the handlers of a message. `handlersFor` says what the table is
for: a subscription is active from the call that makes it to one that takes its topic back, and a
message goes to all active subscriptions of its client, topic and channel.

The table keeps the client ID as it was passed, and `NULL` stands for the client's own ID only when
the topic is built; and when it is full, a subscription is dropped without a word.
`handlers_exact_iff` says that these are the only two ways to lose a message: after any sequence of
calls, exactly the active subscriptions are served, and no string is compared with `NULL`, if and
only if every subscription that is made names a client ID and finds a free entry.
-/

namespace Esp32Iot

open CStr (lit)

/-! ## The table -/

/-- A handler, by its address. -/
abbrev CayenneMessageHandler := Nat

/-- An entry of `messageHandlers`. -/
structure HandlerEntry where
  clientID : Option CStr
  topic : CayenneTopic
  channel : UInt32
  fp : Option CayenneMessageHandler
  deriving DecidableEq

/-- An entry after `CayenneMQTTClientInit` or `CayenneMQTTUnsubscribe`. -/
def HandlerEntry.cleared : HandlerEntry := ⟨none, .undefined, cayenneNoChannel, none⟩

/-- `CAYENNE_MAX_MESSAGE_HANDLERS`. -/
def cayenneMaxMessageHandlers : Nat := 5

/-- The fields of `CayenneMQTTClient` that these functions read. -/
structure SubscribingClient where
  username : CStr
  clientID : CStr
  messageHandlers : List HandlerEntry
  defaultMessageHandler : Option CayenneMessageHandler
  deriving DecidableEq

/-- `CayenneMQTTClientInit`. -/
def SubscribingClient.init (username clientID : CStr)
    (defaultHandler : Option CayenneMessageHandler) : SubscribingClient where
  username := username
  clientID := clientID
  messageHandlers := List.replicate cayenneMaxMessageHandlers .cleared
  defaultMessageHandler := defaultHandler

/-- Why a call does not return. -/
inductive HandlerFault
  /-- `strcmp` of a `NULL` pointer -/
  | nullCompare
  /-- a topic is written behind its buffer -/
  | overrun
  deriving DecidableEq

/-- `strcmp(stored, id) == 0`. -/
def strcmpEq (stored : Option CStr) (id : CStr) : Except HandlerFault Bool :=
  match stored with
  | none => .error .nullCompare
  | some s => .ok (s = id)

/-- The loop of `CayenneMQTTSubscribe`: the first entry without a handler. -/
def storeHandler (new : HandlerEntry) : List HandlerEntry → List HandlerEntry
  | [] => []
  | entry :: entries =>
      if entry.fp = none then new :: entries else entry :: storeHandler new entries

/-- The loop of `CayenneMQTTUnsubscribe`. -/
def clearHandlers (id : CStr) (topic : CayenneTopic) (channel : UInt32) :
    List HandlerEntry → Except HandlerFault (List HandlerEntry)
  | [] => .ok []
  | entry :: entries => do
      if entry.topic = topic ∧ entry.channel = channel then
        let same ← strcmpEq entry.clientID id
        return (if same then .cleared else entry) :: (← clearHandlers id topic channel entries)
      else return entry :: (← clearHandlers id topic channel entries)

/-- `CayenneMQTTSubscribe`, with the result of `MQTTSubscribe`: what it returns, and the client. -/
def SubscribingClient.subscribe (client : SubscribingClient) (clientID : Option CStr)
    (topic : CayenneTopic) (channel : UInt32) (handler : Option CayenneMessageHandler)
    (mqttSubscribe : Int) : Except HandlerFault (Except CayenneError Int × SubscribingClient) :=
  match cayenneBuildTopic cayenneMaxMessageSize client.username (clientID.getD client.clientID) topic
      channel with
  | none => .error .overrun
  | some (.error e) => .ok (.error e, client)
  | some (.ok _) =>
      .ok (.ok mqttSubscribe,
        if handler.isSome ∧ mqttSubscribe = 0 then
          { client with
            messageHandlers := storeHandler ⟨clientID, topic, channel, handler⟩
              client.messageHandlers }
        else client)

/-- `CayenneMQTTUnsubscribe`, with the result of `MQTTUnsubscribe`. -/
def SubscribingClient.unsubscribe (client : SubscribingClient) (clientID : Option CStr)
    (topic : CayenneTopic) (channel : UInt32) (mqttUnsubscribe : Int) :
    Except HandlerFault (Except CayenneError Int × SubscribingClient) :=
  match cayenneBuildTopic cayenneMaxMessageSize client.username (clientID.getD client.clientID) topic
      channel with
  | none => .error .overrun
  | some (.error e) => .ok (.error e, client)
  | some (.ok _) =>
      if mqttUnsubscribe = 0 then do
        let entries ←
          clearHandlers (clientID.getD client.clientID) topic channel client.messageHandlers
        return (.ok mqttUnsubscribe, { client with messageHandlers := entries })
      else .ok (.ok mqttUnsubscribe, client)

/-- What `CayenneParseTopic` takes out of the topic of a message whose payload can be parsed. -/
structure ParsedMessage where
  clientID : CStr
  topic : CayenneTopic
  channel : UInt32
  deriving DecidableEq

/-- The topic and the channel of an entry or a subscription are those of a message. -/
def ParsedMessage.onChannel (message : ParsedMessage) (topic : CayenneTopic) (channel : UInt32) :
    Bool :=
  topic = message.topic ∧ (channel = message.channel ∨ channel = cayenneAllChannels)

/-- The loop of `MQTTMessageArrived`: the handlers that are called. -/
def callHandlers (message : ParsedMessage) :
    List HandlerEntry → Except HandlerFault (List CayenneMessageHandler)
  | [] => .ok []
  | entry :: entries =>
      match entry.fp with
      | none => callHandlers message entries
      | some fp => do
          if message.onChannel entry.topic entry.channel then
            let same ← strcmpEq entry.clientID message.clientID
            let called ← callHandlers message entries
            return if same then fp :: called else called
          else callHandlers message entries

/-- `MQTTMessageArrived`, from where the message is parsed on: the handlers that are called, and the
default handler when it is called. -/
def SubscribingClient.messageArrived (client : SubscribingClient) (message : ParsedMessage) :
    Except HandlerFault (List CayenneMessageHandler × Option CayenneMessageHandler) := do
  let called ← callHandlers message client.messageHandlers
  return (called, if called = [] then client.defaultMessageHandler else none)

/-! ## Subscriptions -/

/-- A subscription, with the client ID that is in its topic. -/
structure Subscription where
  clientID : CStr
  topic : CayenneTopic
  channel : UInt32
  handler : CayenneMessageHandler
  deriving DecidableEq

/-- A message is one of a subscription. -/
def ParsedMessage.isFor (message : ParsedMessage) (s : Subscription) : Bool :=
  message.onChannel s.topic s.channel ∧ s.clientID = message.clientID

/-- Whom a message is for. -/
def handlersFor (active : List Subscription) (message : ParsedMessage) :
    List CayenneMessageHandler :=
  (active.filter message.isFor).map (·.handler)

/-- A subscription's topic. -/
def Subscription.hasTopic (id : CStr) (topic : CayenneTopic) (channel : UInt32)
    (s : Subscription) : Bool :=
  s.topic = topic ∧ s.channel = channel ∧ s.clientID = id

/-- The calls of an application. -/
inductive SubscriptionCall
  | subscribe (clientID : Option CStr) (topic : CayenneTopic) (channel : UInt32)
      (handler : CayenneMessageHandler) (mqttSubscribe : Int)
  | unsubscribe (clientID : Option CStr) (topic : CayenneTopic) (channel : UInt32)
      (mqttUnsubscribe : Int)
  deriving DecidableEq

/-- The client, and beside it the subscriptions that are active. -/
structure Subscriptions where
  client : SubscribingClient
  active : List Subscription
  deriving DecidableEq

/-- A successful call begins or ends subscriptions. -/
def SubscriptionCall.update (own : CStr) (active : List Subscription) :
    SubscriptionCall → List Subscription
  | .subscribe clientID topic channel handler _ =>
      ⟨clientID.getD own, topic, channel, handler⟩ :: active
  | .unsubscribe clientID topic channel _ =>
      active.filter fun s => !s.hasTopic (clientID.getD own) topic channel

/-- A call of the client. -/
def SubscribingClient.call (client : SubscribingClient) :
    SubscriptionCall → Except HandlerFault (Except CayenneError Int × SubscribingClient)
  | .subscribe clientID topic channel handler result =>
      client.subscribe clientID topic channel (some handler) result
  | .unsubscribe clientID topic channel result => client.unsubscribe clientID topic channel result

/-- One call, and what it returns. After a fault there is nothing to tell of the client. -/
def Subscriptions.step (s : Subscriptions) (call : SubscriptionCall) :
    Option (Except HandlerFault (Except CayenneError Int) × Subscriptions) :=
  match s.client.call call with
  | .error fault => some (.error fault, s)
  | .ok (code, client) =>
      some (.ok code,
        { client := client
          active := if code = .ok 0 then call.update s.client.clientID s.active else s.active })

/-! ## Entries and subscriptions -/

/-- The entry of a subscription. -/
def HandlerEntry.of (s : Subscription) : HandlerEntry :=
  ⟨some s.clientID, s.topic, s.channel, some s.handler⟩

/-- An entry is free or that of a subscription. -/
def HandlerEntry.Proper (e : HandlerEntry) : Prop := e = .cleared ∨ ∃ s, e = .of s

/-- The subscription of an entry. -/
def HandlerEntry.subscription (e : HandlerEntry) : Option Subscription :=
  match e.clientID, e.fp with
  | some id, some fp => some ⟨id, e.topic, e.channel, fp⟩
  | _, _ => none

/-- The subscriptions in a table. -/
def subscriptionsOf (entries : List HandlerEntry) : List Subscription :=
  entries.filterMap HandlerEntry.subscription

@[simp] theorem subscriptionsOf_cleared (entries : List HandlerEntry) :
    subscriptionsOf (.cleared :: entries) = subscriptionsOf entries := rfl

@[simp] theorem subscriptionsOf_of (s : Subscription) (entries : List HandlerEntry) :
    subscriptionsOf (.of s :: entries) = s :: subscriptionsOf entries := rfl

/-- A message goes to the subscriptions in the table. -/
theorem callHandlers_eq {entries : List HandlerEntry} (h : ∀ e ∈ entries, e.Proper)
    (message : ParsedMessage) :
    callHandlers message entries = .ok (handlersFor (subscriptionsOf entries) message) := by
  induction entries with
  | nil => rfl
  | cons e entries ih =>
    have hrest := ih fun e he => h e (.tail _ he)
    obtain rfl | ⟨s, rfl⟩ := h e (.head _)
    · exact hrest
    · rw [subscriptionsOf_of, handlersFor, List.filter_cons]
      cases hon : message.onChannel s.topic s.channel with
      | false =>
        have hnot : message.isFor s = false := by simp [ParsedMessage.isFor, hon]
        simp only [callHandlers, HandlerEntry.of, hon, hnot, hrest]
        rfl
      | true =>
        have hiff : message.isFor s = decide (s.clientID = message.clientID) := by
          simp [ParsedMessage.isFor, hon]
        simp only [callHandlers, HandlerEntry.of, hon, strcmpEq, hrest, hiff]
        cases decide (s.clientID = message.clientID) <;> rfl

theorem messageArrived_eq {client : SubscribingClient}
    (h : ∀ e ∈ client.messageHandlers, e.Proper) (message : ParsedMessage) :
    client.messageArrived message =
      .ok (handlersFor (subscriptionsOf client.messageHandlers) message,
        if handlersFor (subscriptionsOf client.messageHandlers) message = [] then
          client.defaultMessageHandler
        else none) := by
  rw [SubscribingClient.messageArrived, callHandlers_eq h]
  rfl

/-- The entry of a subscription is cleared when it has the topic. -/
theorem clearHandlers_of {entries entries' : List HandlerEntry} {id : CStr} {topic : CayenneTopic}
    {channel : UInt32} (h : clearHandlers id topic channel entries = .ok entries')
    (s : Subscription) :
    clearHandlers id topic channel (.of s :: entries) =
      .ok ((if s.hasTopic id topic channel then .cleared else .of s) :: entries') := by
  simp only [clearHandlers, HandlerEntry.of, strcmpEq, h, Subscription.hasTopic]
  split
  next hsame =>
    have hiff : (s.topic = topic ∧ s.channel = channel ∧ s.clientID = id) ↔ s.clientID = id := by
      simp [hsame.1, hsame.2]
    simp only [hiff]
    rfl
  next hother =>
    have hnot : ¬ (s.topic = topic ∧ s.channel = channel ∧ s.clientID = id) :=
      fun heq => hother ⟨heq.1, heq.2.1⟩
    simp only [hnot]
    rfl

/-- Unsubscribing takes the subscriptions of the topic out of the table. -/
theorem clearHandlers_eq {entries : List HandlerEntry} (h : ∀ e ∈ entries, e.Proper) (id : CStr)
    {topic : CayenneTopic} (htopic : topic ≠ .undefined) (channel : UInt32) :
    ∃ entries', clearHandlers id topic channel entries = .ok entries' ∧
      (∀ e ∈ entries', e.Proper) ∧
      subscriptionsOf entries' =
        (subscriptionsOf entries).filter fun s => !s.hasTopic id topic channel := by
  induction entries with
  | nil => exact ⟨[], rfl, nofun, rfl⟩
  | cons e entries ih =>
    obtain ⟨entries', hclear, hproper, hsubs⟩ := ih fun e he => h e (.tail _ he)
    obtain rfl | ⟨s, rfl⟩ := h e (.head _)
    · refine ⟨.cleared :: entries', ?_, ?_, hsubs⟩
      · have hother : ¬ (HandlerEntry.cleared.topic = topic ∧
            HandlerEntry.cleared.channel = channel) := fun heq => htopic heq.1.symm
        rw [clearHandlers, if_neg hother, hclear]
        rfl
      · exact List.forall_mem_cons.2 ⟨.inl rfl, hproper⟩
    · have hfirst := clearHandlers_of hclear s
      rw [subscriptionsOf_of, List.filter_cons, ← hsubs]
      cases htop : s.hasTopic id topic channel with
      | true =>
        rw [htop] at hfirst
        exact ⟨.cleared :: entries', hfirst, List.forall_mem_cons.2 ⟨.inl rfl, hproper⟩, rfl⟩
      | false =>
        rw [htop] at hfirst
        exact ⟨.of s :: entries', hfirst, List.forall_mem_cons.2 ⟨.inr ⟨s, rfl⟩, hproper⟩, rfl⟩

/-- A subscription goes to the first free entry. -/
theorem storeHandler_of_free {entries : List HandlerEntry} (h : ∀ e ∈ entries, e.Proper)
    (hfree : ∃ e ∈ entries, e.fp = none) (s : Subscription) :
    (∀ e ∈ storeHandler (.of s) entries, e.Proper) ∧
      (subscriptionsOf (storeHandler (.of s) entries)).Perm (s :: subscriptionsOf entries) := by
  induction entries with
  | nil => obtain ⟨e, he, -⟩ := hfree; cases he
  | cons e entries ih =>
    have hrest : ∀ e ∈ entries, e.Proper := fun e he => h e (.tail _ he)
    obtain rfl | ⟨s', rfl⟩ := h e (.head _)
    · exact ⟨List.forall_mem_cons.2 ⟨.inr ⟨s, rfl⟩, hrest⟩, List.Perm.refl _⟩
    · obtain ⟨hproper, hperm⟩ := ih hrest (by
        obtain ⟨e, he, hnone⟩ := hfree
        rcases List.mem_cons.1 he with rfl | he
        · cases hnone
        · exact ⟨e, he, hnone⟩)
      have hstore : storeHandler (.of s) (.of s' :: entries) =
          .of s' :: storeHandler (.of s) entries := rfl
      rw [hstore]
      refine ⟨List.forall_mem_cons.2 ⟨.inr ⟨s', rfl⟩, hproper⟩, ?_⟩
      exact (hperm.cons s').trans (List.Perm.swap s s' _)

/-- A full table stays as it is. -/
theorem storeHandler_of_full {entries : List HandlerEntry} (hfull : ¬ ∃ e ∈ entries, e.fp = none)
    (new : HandlerEntry) : storeHandler new entries = entries := by
  induction entries with
  | nil => rfl
  | cons e entries ih =>
    have hused : ¬ e.fp = none := fun hnone => hfull ⟨e, .head _, hnone⟩
    rw [storeHandler, if_neg hused, ih]
    rintro ⟨e', he', hnone⟩
    exact hfull ⟨e', .tail _ he', hnone⟩

/-- An entry without a client ID stops the search of its messages. -/
theorem callHandlers_of_null {entries : List HandlerEntry} (h : ∀ e ∈ entries, e.Proper)
    (hfree : ∃ e ∈ entries, e.fp = none) {message : ParsedMessage} {topic : CayenneTopic}
    {channel : UInt32} (hon : message.onChannel topic channel = true)
    (handler : CayenneMessageHandler) :
    callHandlers message (storeHandler ⟨none, topic, channel, some handler⟩ entries) =
      .error .nullCompare := by
  induction entries with
  | nil => obtain ⟨e, he, -⟩ := hfree; cases he
  | cons e entries ih =>
    obtain rfl | ⟨s, rfl⟩ := h e (.head _)
    · show callHandlers message (⟨none, topic, channel, some handler⟩ :: entries) = _
      simp only [callHandlers, hon, if_true]
      rfl
    · have hrest := ih (fun e he => h e (.tail _ he)) (by
        obtain ⟨e, he, hnone⟩ := hfree
        rcases List.mem_cons.1 he with rfl | he
        · cases hnone
        · exact ⟨e, he, hnone⟩)
      show callHandlers message (.of s :: storeHandler _ entries) = _
      simp only [callHandlers, HandlerEntry.of, strcmpEq, hrest]
      split <;> rfl

/-! ## One call -/

/-- The topic of a call can be built. -/
def SubscribingClient.Builds (client : SubscribingClient) (clientID : Option CStr)
    (topic : CayenneTopic) (channel : UInt32) : Prop :=
  ∃ topicName, cayenneBuildTopic cayenneMaxMessageSize client.username
    (clientID.getD client.clientID) topic channel = some (.ok topicName)

/-- There is no topic to build for an entry that is free. -/
theorem SubscribingClient.Builds.topic_ne {client : SubscribingClient} {clientID : Option CStr}
    {topic : CayenneTopic} {channel : UInt32} (h : client.Builds clientID topic channel) :
    topic ≠ .undefined := by
  rintro rfl
  obtain ⟨topicName, hbuilt⟩ := h
  cases hbuilt

section
variable {s t : Subscriptions} {clientID : Option CStr} {topic : CayenneTopic} {channel : UInt32}

/-- A subscription whose topic is built, by the result of `MQTTSubscribe`. -/
theorem step_subscribe (h : s.client.Builds clientID topic channel)
    (handler : CayenneMessageHandler) (result : Int) :
    s.step (.subscribe clientID topic channel handler result) =
      some (.ok (.ok result),
        if result = 0 then
          { client := { s.client with
              messageHandlers := storeHandler ⟨clientID, topic, channel, some handler⟩
                s.client.messageHandlers }
            active := ⟨clientID.getD s.client.clientID, topic, channel, handler⟩ :: s.active }
        else s) := by
  obtain ⟨topicName, hbuilt⟩ := h
  simp only [Subscriptions.step, SubscribingClient.call, SubscribingClient.subscribe, hbuilt,
    Option.isSome_some, true_and, Except.ok.injEq, SubscriptionCall.update]
  split <;> rfl

/-- The end of a subscription whose topic is built. -/
theorem step_unsubscribe (h : s.client.Builds clientID topic channel) {entries : List HandlerEntry}
    (hclear : clearHandlers (clientID.getD s.client.clientID) topic channel
      s.client.messageHandlers = .ok entries) (result : Int) :
    s.step (.unsubscribe clientID topic channel result) =
      some (.ok (.ok result),
        if result = 0 then
          { client := { s.client with messageHandlers := entries }
            active := s.active.filter fun sub =>
              !sub.hasTopic (clientID.getD s.client.clientID) topic channel }
        else s) := by
  obtain ⟨topicName, hbuilt⟩ := h
  simp only [Subscriptions.step, SubscribingClient.call, SubscribingClient.unsubscribe, hbuilt,
    hclear, SubscriptionCall.update]
  rcases Classical.em (result = 0) with rfl | hne
  · rfl
  · simp [hne]

/-- A call whose topic is not built changes nothing. -/
theorem step_of_not_builds (h : ¬ s.client.Builds clientID topic channel)
    (handler : CayenneMessageHandler) (result : Int) :
    (∃ o, s.step (.subscribe clientID topic channel handler result) = some (o, s)) ∧
      ∃ o, s.step (.unsubscribe clientID topic channel result) = some (o, s) := by
  simp only [Subscriptions.step, SubscribingClient.call, SubscribingClient.subscribe,
    SubscribingClient.unsubscribe]
  cases hbuilt : cayenneBuildTopic cayenneMaxMessageSize s.client.username
      (clientID.getD s.client.clientID) topic channel with
  | none => exact ⟨⟨_, rfl⟩, ⟨_, rfl⟩⟩
  | some built =>
    cases built with
    | error e => exact ⟨⟨_, rfl⟩, ⟨_, rfl⟩⟩
    | ok topicName => exact absurd ⟨topicName, hbuilt⟩ h

end

/-! ## Sequences of calls -/

/-- Messages go to exactly the active subscriptions, each of which is served once, and to the
default handler without one; and neither a message nor a call makes a comparison with `NULL`. -/
structure Subscriptions.Exact (s : Subscriptions) : Prop where
  served : ∀ message, ∃ called,
    s.client.messageArrived message =
        .ok (called,
          if handlersFor s.active message = [] then s.client.defaultMessageHandler else none) ∧
      called.Perm (handlersFor s.active message)
  compared : ∀ call, s.client.call call ≠ .error .nullCompare

/-- The table holds the active subscriptions. -/
structure Subscriptions.Reflects (s : Subscriptions) : Prop where
  proper : ∀ e ∈ s.client.messageHandlers, e.Proper
  perm : (subscriptionsOf s.client.messageHandlers).Perm s.active

/-- A subscription that is made names a client ID and finds a free entry. -/
def Subscriptions.Accepts (s : Subscriptions) : SubscriptionCall → Prop
  | .subscribe clientID topic channel _ result =>
      s.client.Builds clientID topic channel → result = 0 →
        clientID ≠ none ∧ ∃ e ∈ s.client.messageHandlers, e.fp = none
  | .unsubscribe .. => True

/-- A client after `CayenneMQTTClientInit`. -/
def Subscriptions.init (username clientID : CStr)
    (defaultHandler : Option CayenneMessageHandler) : Subscriptions where
  client := .init username clientID defaultHandler
  active := []

theorem Subscriptions.reflects_init (username clientID : CStr)
    (defaultHandler : Option CayenneMessageHandler) :
    (Subscriptions.init username clientID defaultHandler).Reflects where
  proper _ he := .inl (List.eq_of_mem_replicate he)
  perm := List.Perm.refl _

/-- A table that holds the active subscriptions serves them. -/
theorem Subscriptions.Reflects.exact {s : Subscriptions} (h : s.Reflects) : s.Exact where
  served message := by
    have hperm : (handlersFor (subscriptionsOf s.client.messageHandlers) message).Perm
        (handlersFor s.active message) := (h.perm.filter _).map _
    have hnil : handlersFor (subscriptionsOf s.client.messageHandlers) message = [] ↔
        handlersFor s.active message = [] := by
      rw [← List.length_eq_zero_iff, hperm.length_eq, List.length_eq_zero_iff]
    refine ⟨_, ?_, hperm⟩
    rw [messageArrived_eq h.proper]
    simp only [hnil]
  compared call := by
    cases call with
    | subscribe clientID topic channel handler result =>
      simp only [SubscribingClient.call, SubscribingClient.subscribe]
      split <;> simp
    | unsubscribe clientID topic channel result =>
      simp only [SubscribingClient.call, SubscribingClient.unsubscribe]
      split
      next => simp
      next => simp
      next topicName hbuilt =>
        have htopic := SubscribingClient.Builds.topic_ne ⟨topicName, hbuilt⟩
        obtain ⟨entries, hclear, -⟩ := clearHandlers_eq h.proper (clientID.getD s.client.clientID)
          htopic channel
        rw [hclear]
        split <;> simp [bind, Except.bind, pure, Except.pure]

/-- A call that is accepted keeps the table in line with the active subscriptions. -/
theorem Subscriptions.Reflects.step {s t : Subscriptions} {call : SubscriptionCall}
    {o : Except HandlerFault (Except CayenneError Int)} (h : s.Reflects) (hok : s.Accepts call)
    (hstep : s.step call = some (o, t)) : t.Reflects := by
  cases call with
  | subscribe clientID topic channel handler result =>
    rcases Classical.em (s.client.Builds clientID topic channel) with hb | hb
    · rw [step_subscribe hb] at hstep
      split at hstep
      next hzero =>
        cases hstep
        obtain ⟨hid, hfree⟩ := hok hb hzero
        obtain ⟨id, rfl⟩ := Option.ne_none_iff_exists'.1 hid
        obtain ⟨hproper, hperm⟩ := storeHandler_of_free h.proper hfree ⟨id, topic, channel, handler⟩
        exact ⟨hproper, hperm.trans (h.perm.cons _)⟩
      next => cases hstep; exact h
    · obtain ⟨⟨o', hsame⟩, -⟩ := step_of_not_builds hb handler result
      rw [hsame] at hstep
      cases hstep
      exact h
  | unsubscribe clientID topic channel result =>
    rcases Classical.em (s.client.Builds clientID topic channel) with hb | hb
    · obtain ⟨entries, hclear, hproper, hsubs⟩ := clearHandlers_eq h.proper
        (clientID.getD s.client.clientID) hb.topic_ne channel
      rw [step_unsubscribe hb hclear] at hstep
      split at hstep
      next =>
        cases hstep
        refine ⟨hproper, ?_⟩
        rw [hsubs]
        exact h.perm.filter _
      next => cases hstep; exact h
    · obtain ⟨-, ⟨o', hsame⟩⟩ := step_of_not_builds hb 0 result
      rw [hsame] at hstep
      cases hstep
      exact h

/-- A message that is stopped by a comparison with `NULL` is not served. -/
theorem Subscriptions.not_exact_of_fault {s : Subscriptions} {m : ParsedMessage}
    (h : s.client.messageArrived m = .error .nullCompare) : ¬ s.Exact := by
  intro hexact
  obtain ⟨called, harrived, -⟩ := hexact.served m
  rw [h] at harrived
  cases harrived

/-- Nor is one that reaches another number of handlers. -/
theorem Subscriptions.not_exact_of_length {s : Subscriptions} {m : ParsedMessage}
    {called : List CayenneMessageHandler} {default : Option CayenneMessageHandler}
    (h : s.client.messageArrived m = .ok (called, default))
    (hlen : called.length ≠ (handlersFor s.active m).length) : ¬ s.Exact := by
  intro hexact
  obtain ⟨called', harrived, hperm⟩ := hexact.served m
  rw [h] at harrived
  cases harrived
  exact hlen hperm.length_eq

/-- A subscription that is not accepted loses its messages. -/
theorem Subscriptions.Reflects.not_exact {s t : Subscriptions} {call : SubscriptionCall}
    {o : Except HandlerFault (Except CayenneError Int)} (h : s.Reflects) (hnot : ¬ s.Accepts call)
    (hstep : s.step call = some (o, t)) : ¬ t.Exact := by
  cases call with
  | unsubscribe => exact absurd trivial hnot
  | subscribe clientID topic channel handler result =>
    simp only [Subscriptions.Accepts, Classical.not_imp] at hnot
    obtain ⟨hb, rfl, hnot⟩ := hnot
    rw [step_subscribe hb, if_pos rfl] at hstep
    cases hstep
    -- a message of the subscription
    have hon : ParsedMessage.onChannel ⟨clientID.getD s.client.clientID, topic, channel⟩ topic
        channel = true := by simp [ParsedMessage.onChannel]
    rcases Classical.em (∃ e ∈ s.client.messageHandlers, e.fp = none) with hfree | hfull
    · obtain rfl : clientID = none := by
        cases clientID with
        | none => rfl
        | some id => exact absurd ⟨Option.some_ne_none id, hfree⟩ hnot
      have hstopped := callHandlers_of_null h.proper hfree hon handler
      refine Subscriptions.not_exact_of_fault (m := ⟨s.client.clientID, topic, channel⟩) ?_
      show (callHandlers _ (storeHandler _ _) >>= _) = _
      rw [Option.getD_none] at hstopped
      rw [hstopped]
      rfl
    · -- the table has all subscriptions but this one
      rw [storeHandler_of_full hfull]
      refine Subscriptions.not_exact_of_length
        (messageArrived_eq h.proper ⟨clientID.getD s.client.clientID, topic, channel⟩) ?_
      have hold : (handlersFor (subscriptionsOf s.client.messageHandlers)
          ⟨clientID.getD s.client.clientID, topic, channel⟩).length =
          (handlersFor s.active ⟨clientID.getD s.client.clientID, topic, channel⟩).length :=
        ((h.perm.filter _).map _).length_eq
      have hnew : ParsedMessage.isFor ⟨clientID.getD s.client.clientID, topic, channel⟩
          ⟨clientID.getD s.client.clientID, topic, channel, handler⟩ = true := by
        simp [ParsedMessage.isFor, hon]
      rw [hold]
      simp only [handlersFor, List.filter_cons, hnew, if_true, List.map_cons, List.length_cons]
      omega

theorem Subscriptions.step_isSome (s : Subscriptions) (call : SubscriptionCall) :
    (s.step call).isSome := by
  unfold Subscriptions.step
  split <;> rfl

/-- **Messages go to exactly the subscribed handlers**, before and after every call of a sequence,
if and only if each subscription that is made names a client ID and finds a free entry. -/
theorem handlers_exact_iff (username clientID : CStr)
    (defaultHandler : Option CayenneMessageHandler) (calls : List SubscriptionCall) :
    let start := Subscriptions.init username clientID defaultHandler
    (∀ s ∈ start :: Runs.visited Subscriptions.step start calls, s.Exact) ↔
      Runs.Along Subscriptions.step Subscriptions.Accepts start calls := by
  intro start
  have hstart : start.Reflects := Subscriptions.reflects_init username clientID defaultHandler
  obtain ⟨os, u, hexec⟩ := Runs.exec_of_total Subscriptions.step_isSome start calls
  have hkept : ∀ (s : Subscriptions) call o t, s.Reflects → s.Accepts call →
      s.step call = some (o, t) → t.Reflects :=
    fun _ _ _ _ h hok hstep => h.step hok hstep
  have hiff : ∀ (s : Subscriptions) call o t, s.Reflects → s.step call = some (o, t) →
      (t.Exact ↔ s.Accepts call) := by
    intro s call o t h hstep
    constructor
    · intro hexact
      exact Classical.not_not.1 fun hnot => h.not_exact hnot hstep hexact
    · intro hok
      exact (h.step hok hstep).exact
  rw [List.forall_mem_cons, and_iff_right hstart.exact]
  exact Runs.visited_forall_iff_along hkept hiff hstart hexec

/-- Two ways to lose messages: a subscription to the client's own topic with `NULL` for its ID,
whose first message makes a comparison with `NULL`; and the sixth of six subscriptions, of which the
message goes to the default handler. All calls return success. -/
theorem subscriptions_lost :
    let start := Subscriptions.init (lit "user") (lit "own") (some 99)
    let six := [1, 2, 3, 4, 5, 6].map fun i : Nat =>
      SubscriptionCall.subscribe (some (lit "own")) .command (UInt32.ofNat i) i 0
    (∃ s, Runs.exec Subscriptions.step start [.subscribe none .command 1 7 0] =
        some ([.ok (.ok 0)], s) ∧
      s.client.messageArrived ⟨lit "own", .command, 1⟩ = .error .nullCompare ∧ ¬ s.Exact) ∧
    ∃ s, Runs.exec Subscriptions.step start six = some (List.replicate 6 (.ok (.ok 0)), s) ∧
      s.client.messageArrived ⟨lit "own", .command, 6⟩ = .ok ([], some 99) ∧
      handlersFor s.active ⟨lit "own", .command, 6⟩ = [6] ∧ ¬ s.Exact := by
  intro start six
  constructor
  · exact ⟨_, rfl, by decide +kernel, Subscriptions.not_exact_of_fault
      (m := ⟨lit "own", .command, 1⟩) (by decide +kernel)⟩
  · refine ⟨_, rfl, by decide +kernel, by decide +kernel, ?_⟩
    refine Subscriptions.not_exact_of_length (m := ⟨lit "own", .command, 6⟩)
      (show _ = Except.ok ([], some 99) by decide +kernel) ?_
    decide +kernel

end Esp32Iot
