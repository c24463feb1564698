import Mathlib.Logic.Function.Basic
import Esp32Iot.Bluetooth.Scan

/-!
# Discovering the services of the tag

When the MTU is agreed, three searches are started at once, one for each service of the tag. The
handler marks the service of a result in one of three flags, of which at most one is set, and looks
up the characteristics of the marked service when a completion arrives, whichever search that
completion is of. No completion clears a flag.

`registered_once_iff` says for which orders of the answers every service that notifies is registered
exactly once: those in which exactly one completion arrives while its result is the last one.
`registered_thrice` is a peripheral with one of the services, which is registered three times.
-/

namespace Esp32Iot

/-! ## Handles and the database of the peer -/

/-- The services of the tag, in the order in which they are searched. -/
inductive TagService
  | htu21d
  | ms5637
  | battery
  deriving DecidableEq

/-- The characteristics of a service that the client uses. -/
inductive CharRole
  | data
  | status
  | calibration
  deriving DecidableEq

/-- `esp_bt_uuid_t`. -/
inductive BtUuid
  | uuid16 (uuid : UInt16)
  | uuid32 (uuid : UInt32)
  | uuid128 (uuid : Bytes)
  deriving DecidableEq

/-- The UUIDs of the tag differ in two bytes. -/
def tagUuid (b₁₂ b₁₃ : UInt8) : BtUuid :=
  .uuid128 [0x00, 0x00, 0x00, 0x00, 0x00, 0x00, 0x00, 0xB0, 0x00, 0x40, 0x51, 0x04, b₁₂, b₁₃,
    0x00, 0xF0]

/-- The service UUIDs of `BA5C_uuid`. -/
def TagService.uuid : TagService → BtUuid
  | .htu21d => tagUuid 0x20 0xAA
  | .ms5637 => tagUuid 0x40 0xAA
  | .battery => tagUuid 0x0F 0x18

/-- The characteristics that are looked up in a service, in order, with their UUIDs. -/
def TagService.chars : TagService → List (CharRole × BtUuid)
  | .htu21d => [(.data, tagUuid 0x21 0xAA), (.status, tagUuid 0x2F 0xAA)]
  | .ms5637 => [(.data, tagUuid 0x41 0xAA), (.calibration, tagUuid 0x43 0xAA),
      (.status, tagUuid 0x4F 0xAA)]
  | .battery => [(.data, tagUuid 0x19 0x2A)]

/-- The property a characteristic must have: `ESP_GATT_CHAR_PROP_BIT_NOTIFY` for the data, and
`ESP_GATT_CHAR_PROP_BIT_READ` for the others. -/
def CharRole.property : CharRole → UInt8
  | .data => 0x10
  | .status | .calibration => 0x02

/-- `BA5C_handle_data_t`, less `conn_device`. -/
@[ext] structure HandleData where
  getService : TagService → Bool
  startHandle : TagService → UInt16
  endHandle : TagService → UInt16
  charHandle : TagService → CharRole → UInt16

/-- `esp_gattc_char_elem_t`. -/
structure CharElem where
  charHandle : UInt16
  properties : UInt8

/-- The answers of the stack from its copy of the peer's database. -/
structure GattDb where
  /-- `count` after `esp_ble_gattc_get_attr_count`; it stays 0 when the call fails -/
  attrCount : UInt16 → UInt16 → UInt16
  /-- `esp_ble_gattc_get_char_by_uuid`; `none` when the call fails -/
  charByUuid : UInt16 → UInt16 → BtUuid → Option (List CharElem)

/-- A call `esp_ble_gattc_register_for_notify(gattc_if, bda, handle)` in the branch of a service. -/
structure Registration where
  service : TagService
  bda : BdAddr
  handle : UInt16
  deriving DecidableEq

/-! ## The handler -/

/-- A static structure is zero at boot. -/
def HandleData.boot : HandleData where
  getService _ := false
  startHandle _ := 0
  endHandle _ := 0
  charHandle _ _ := 0

/-- The three flags are cleared: the branch of `ESP_GATTC_DISCONNECT_EVT` for the stored address. At
boot they are cleared as well. -/
def HandleData.clearServices (d : HandleData) : HandleData :=
  { d with getService := fun _ => false }

/-- The branch of a service in `ESP_GATTC_SEARCH_RES_EVT`. -/
def HandleData.mark (d : HandleData) (s : TagService) (startHandle endHandle : UInt16) :
    HandleData :=
  { d with
    getService := fun s' => s' = s
    startHandle := Function.update d.startHandle s startHandle
    endHandle := Function.update d.endHandle s endHandle }

/-- `ESP_GATTC_SEARCH_RES_EVT`. -/
def HandleData.searchRes (d : HandleData) (uuid : BtUuid) (startHandle endHandle : UInt16) :
    HandleData :=
  if uuid = TagService.uuid .htu21d then d.mark .htu21d startHandle endHandle
  else if uuid = TagService.uuid .ms5637 then d.mark .ms5637 startHandle endHandle
  else if uuid = TagService.uuid .battery then d.mark .battery startHandle endHandle
  else d

/-- The first characteristic that a query finds, if it has the property. -/
def GattDb.lookup (db : GattDb) (startHandle endHandle : UInt16) (role : CharRole)
    (uuid : BtUuid) : Option UInt16 :=
  match db.charByUuid startHandle endHandle uuid with
  | none | some [] => none
  | some (elem :: _) =>
      if elem.properties &&& role.property ≠ 0 then some elem.charHandle else none

/-- The assignment to the field of a characteristic. -/
def HandleData.store (d : HandleData) (s : TagService) (role : CharRole) (handle : UInt16) :
    HandleData :=
  { d with
    charHandle := Function.update d.charHandle s
      (Function.update (d.charHandle s) role handle) }

/-- The look-ups of a service in order. The handle that is found is stored, and for the data
characteristic notifications are registered. -/
def HandleData.lookups (db : GattDb) (bda : BdAddr) (s : TagService) :
    List (CharRole × BtUuid) → HandleData → List Registration × HandleData
  | [], d => ([], d)
  | (role, uuid) :: chars, d =>
      match db.lookup (d.startHandle s) (d.endHandle s) role uuid with
      | none => lookups db bda s chars d
      | some handle =>
          ((if role = .data then [⟨s, bda, handle⟩] else []) ++
              (lookups db bda s chars (d.store s role handle)).1,
            (lookups db bda s chars (d.store s role handle)).2)

/-- The branch of a service in `ESP_GATTC_SEARCH_CMPL_EVT`; `memory` is whether `malloc` succeeds.
-/
def HandleData.serve (db : GattDb) (bda : BdAddr) (memory : Bool) (d : HandleData)
    (s : TagService) : List Registration × HandleData :=
  if 0 < db.attrCount (d.startHandle s) (d.endHandle s) then
    if memory then d.lookups db bda s s.chars else ([], d)
  else ([], d)

/-- `ESP_GATTC_SEARCH_CMPL_EVT`; `ok` is `status == ESP_GATT_OK`. -/
def HandleData.searchCmpl (db : GattDb) (bda : BdAddr) (d : HandleData) (ok memory : Bool) :
    List Registration × HandleData :=
  if !ok then ([], d)
  else if d.getService .htu21d then d.serve db bda memory .htu21d
  else if d.getService .ms5637 then d.serve db bda memory .ms5637
  else if d.getService .battery then d.serve db bda memory .battery
  else ([], d)

/-- An answer to one of the searches. The completion names its search here only to say which answers
may be interleaved how; the handler does not see it. -/
inductive SearchEvent
  | result (s : TagService) (startHandle endHandle : UInt16)
  | complete (s : TagService) (ok memory : Bool)
  deriving DecidableEq

/-- The handler on an answer. -/
def HandleData.answer (db : GattDb) (bda : BdAddr) (d : HandleData) :
    SearchEvent → List Registration × HandleData
  | .result s startHandle endHandle => ([], d.searchRes s.uuid startHandle endHandle)
  | .complete _ ok memory => d.searchCmpl db bda ok memory

/-- The registrations made while answers are handled. -/
def registrations (db : GattDb) (bda : BdAddr) (d : HandleData) (events : List SearchEvent) :
    List Registration :=
  (Runs.outputs (HandleData.answer db bda) d events).1.flatten

/-! ## What the handler remembers -/

/-- A service that was found, with its range of handles. -/
structure FoundService where
  service : TagService
  startHandle : UInt16
  endHandle : UInt16
  deriving DecidableEq

/-- The service of a completion is that of the last result, and a completion that fails or finds no
memory serves none. -/
def served : Option FoundService → List SearchEvent → List FoundService
  | _, [] => []
  | _, .result s startHandle endHandle :: events => served (some ⟨s, startHandle, endHandle⟩) events
  | last, .complete _ ok memory :: events =>
      if ok && memory then last.toList ++ served last events else served last events

/-- The handle for which the notifications of a service are registered: that of its data
characteristic, if this allows notification. -/
def GattDb.notifyHandle (db : GattDb) (f : FoundService) : Option UInt16 :=
  if 0 < db.attrCount f.startHandle f.endHandle then
    f.service.chars.head?.bind fun c => db.lookup f.startHandle f.endHandle c.1 c.2
  else none

/-- The flags and the ranges of handles hold the last result. -/
def HandleData.Remembers (d : HandleData) : Option FoundService → Prop
  | none => ∀ s, d.getService s = false
  | some f => (∀ s, d.getService s = decide (s = f.service)) ∧
      d.startHandle f.service = f.startHandle ∧ d.endHandle f.service = f.endHandle

section
variable {db : GattDb} {bda : BdAddr} {d : HandleData}

theorem HandleData.searchRes_uuid (s : TagService) (startHandle endHandle : UInt16) :
    d.searchRes s.uuid startHandle endHandle = d.mark s startHandle endHandle := by
  cases s with
  | htu21d => rfl
  | ms5637 => rfl
  | battery => rfl

theorem HandleData.remembers_mark (s : TagService) (startHandle endHandle : UInt16) :
    (d.mark s startHandle endHandle).Remembers (some ⟨s, startHandle, endHandle⟩) :=
  ⟨fun _ => rfl, Function.update_self .., Function.update_self ..⟩

/-- Looking up characteristics leaves the flags and the ranges as they are. -/
theorem HandleData.Remembers.lookups {last : Option FoundService} {s : TagService}
    {chars : List (CharRole × BtUuid)} (h : d.Remembers last) :
    (d.lookups db bda s chars).2.Remembers last := by
  induction chars generalizing d with
  | nil => exact h
  | cons c chars ih =>
      rw [HandleData.lookups]
      split
      · exact ih h
      · refine ih ?_
        cases last with
        | none => exact h
        | some f => exact h

/-- Only the look-up of the data characteristic registers anything. -/
theorem HandleData.lookups_fst_eq_nil {s : TagService} {chars : List (CharRole × BtUuid)}
    (h : ∀ c ∈ chars, c.1 ≠ .data) : (d.lookups db bda s chars).1 = [] := by
  induction chars generalizing d with
  | nil => rfl
  | cons c chars ih =>
      have hrest := fun c' hc' => h c' (.tail _ hc')
      rw [HandleData.lookups]
      split
      · exact ih hrest
      · simp only [if_neg (h c (.head _)), List.nil_append]
        exact ih hrest

/-- The look-ups that start with the data characteristic register what it has. -/
theorem HandleData.lookups_data {s : TagService} {uuid : BtUuid}
    {chars : List (CharRole × BtUuid)} (h : ∀ c ∈ chars, c.1 ≠ .data) :
    (d.lookups db bda s ((.data, uuid) :: chars)).1 =
      ((db.lookup (d.startHandle s) (d.endHandle s) .data uuid).map (⟨s, bda, ·⟩)).toList := by
  rw [HandleData.lookups]
  split
  · rename_i hnone
    rw [hnone, HandleData.lookups_fst_eq_nil h]
    rfl
  · rename_i handle hsome
    simp only [hsome, HandleData.lookups_fst_eq_nil h]
    rfl

/-- What a completion registers for the marked service. -/
theorem HandleData.serve_fst (s : TagService) :
    (d.serve db bda true s).1 =
      ((db.notifyHandle ⟨s, d.startHandle s, d.endHandle s⟩).map (⟨s, bda, ·⟩)).toList := by
  rw [HandleData.serve, GattDb.notifyHandle]
  split
  · cases s with
    | htu21d => exact lookups_data (by decide)
    | ms5637 => exact lookups_data (by decide)
    | battery => exact lookups_data (by decide)
  · rfl

theorem HandleData.Remembers.serve {last : Option FoundService} {s : TagService} {memory : Bool}
    (h : d.Remembers last) : (d.serve db bda memory s).2.Remembers last := by
  rw [HandleData.serve]
  split
  · split
    · exact h.lookups
    · exact h
  · exact h

/-- A completion serves the last result. -/
theorem HandleData.Remembers.searchCmpl_some {f : FoundService} {memory : Bool}
    (h : d.Remembers (some f)) :
    d.searchCmpl db bda true memory = d.serve db bda memory f.service := by
  obtain ⟨s, startHandle, endHandle⟩ := f
  obtain ⟨hget, -, -⟩ := h
  cases s with
  | htu21d => simp [HandleData.searchCmpl, hget]
  | ms5637 => simp [HandleData.searchCmpl, hget]
  | battery => simp [HandleData.searchCmpl, hget]

theorem HandleData.Remembers.searchCmpl_none {memory : Bool} (h : d.Remembers none) :
    d.searchCmpl db bda true memory = ([], d) := by
  simp [HandleData.searchCmpl, show ∀ s, d.getService s = false from h]

/-- **What a run of the handler registers** is what the services of its completions have. -/
theorem registrations_eq {last : Option FoundService} {events : List SearchEvent}
    (h : d.Remembers last) :
    registrations db bda d events =
      (served last events).filterMap fun f => (db.notifyHandle f).map (⟨f.service, bda, ·⟩) := by
  induction events generalizing d last with
  | nil => rfl
  | cons e events ih =>
      cases e with
      | result s startHandle endHandle =>
          refine ih (d := d.searchRes s.uuid startHandle endHandle) ?_
          rw [HandleData.searchRes_uuid]
          exact HandleData.remembers_mark s startHandle endHandle
      | complete s ok memory =>
          have hstep : registrations db bda d (.complete s ok memory :: events) =
              (d.searchCmpl db bda ok memory).1 ++
                registrations db bda (d.searchCmpl db bda ok memory).2 events := rfl
          rw [hstep, served]
          cases ok with
          | false => exact ih h
          | true =>
              cases last with
              | none =>
                  rw [h.searchCmpl_none]
                  cases memory with
                  | false => exact ih h
                  | true => exact ih h
              | some f =>
                  rw [h.searchCmpl_some, ih h.serve]
                  cases memory with
                  | false =>
                      have hnone : (d.serve db bda false f.service).1 = [] := by
                        simp [HandleData.serve]
                      rw [hnone]
                      rfl
                  | true =>
                      rw [HandleData.serve_fst, h.2.1, h.2.2]
                      simp only [Bool.and_self, if_true, Option.toList_some, List.cons_append,
                        List.nil_append, List.filterMap_cons]
                      cases db.notifyHandle f with
                      | none => rfl
                      | some handle => rfl

end

/-! ## Interleaved searches -/

/-- `ESP_GATTC_CFG_MTU_EVT`: the calls of `esp_ble_gattc_search_service`. -/
def cfgMtu : List TagService := [.htu21d, .ms5637, .battery]

/-- The search that an event answers. -/
def SearchEvent.search : SearchEvent → TagService
  | .result s _ _ => s
  | .complete s _ _ => s

/-- A peripheral: the ranges of handles of the services it offers. -/
abbrev Peripheral := TagService → Option (UInt16 × UInt16)

/-- The answers of the three searches in some order: each search is answered by its result, if the
service is offered, and then by its completion. -/
def Peripheral.Answers (p : Peripheral) (events : List SearchEvent) : Prop :=
  ∀ s ∈ cfgMtu, ∃ ok memory,
    events.filter (fun e => e.search = s) =
      ((p s).map fun r => SearchEvent.result s r.1 r.2).toList ++ [.complete s ok memory]

/-- The services of the completions that succeed, each of which is the service of the last result
before it. -/
def servedServices (events : List SearchEvent) : List TagService :=
  (served none events).map FoundService.service

/-- The number of registrations for a service. -/
def registrationCount (db : GattDb) (bda : BdAddr) (d : HandleData) (events : List SearchEvent)
    (s : TagService) : Nat :=
  (registrations db bda d events).countP fun r => r.service = s

/-- A service that is offered and whose data characteristic allows notification. -/
def Peripheral.Notifies (p : Peripheral) (db : GattDb) (s : TagService) : Prop :=
  ∃ r, p s = some r ∧ (db.notifyHandle ⟨s, r.1, r.2⟩).isSome = true

theorem mem_cfgMtu (s : TagService) : s ∈ cfgMtu := by
  cases s <;> decide

/-- What is served has been found. -/
theorem result_mem_of_mem_served {last : Option FoundService} {events : List SearchEvent}
    {f : FoundService} (h : f ∈ served last events) :
    last = some f ∨ .result f.service f.startHandle f.endHandle ∈ events := by
  induction events generalizing last with
  | nil => cases h
  | cons e events ih =>
      cases e with
      | result s startHandle endHandle =>
          obtain hlast | hmem := ih h
          · cases hlast
            exact .inr (.head _)
          · exact .inr (.tail _ hmem)
      | complete s ok memory =>
          rw [served] at h
          have hrest : f ∈ served last events →
              last = some f ∨ .result f.service f.startHandle f.endHandle ∈
                .complete s ok memory :: events :=
            fun hf => (ih hf).imp id (.tail _)
          split at h
          · obtain hlast | hmem := List.mem_append.1 h
            · exact .inl (Option.mem_toList.1 hlast)
            · exact hrest hmem
          · exact hrest h

section
variable {p : Peripheral} {db : GattDb} {bda : BdAddr} {d : HandleData}
  {events : List SearchEvent}

/-- The one result of a service carries the range that the peripheral has. -/
theorem Peripheral.Answers.eq_some_of_result (h : p.Answers events) {s : TagService}
    {startHandle endHandle : UInt16} (hmem : .result s startHandle endHandle ∈ events) :
    p s = some (startHandle, endHandle) := by
  obtain ⟨ok, memory, heq⟩ := h s (mem_cfgMtu s)
  have hf : SearchEvent.result s startHandle endHandle ∈
      events.filter (fun e => e.search = s) :=
    List.mem_filter.2 ⟨hmem, decide_eq_true rfl⟩
  rw [heq] at hf
  cases hp : p s with
  | none => rw [hp] at hf; simp at hf
  | some r =>
      rw [hp] at hf
      simp only [Option.map_some, Option.toList_some, List.cons_append, List.nil_append,
        List.mem_cons, List.not_mem_nil, or_false, SearchEvent.result.injEq, reduceCtorEq,
        true_and] at hf
      rw [hf.1, hf.2]

/-- All services are served with the range that the peripheral has. -/
theorem Peripheral.Answers.eq_some_of_served (h : p.Answers events) {f : FoundService}
    (hf : f ∈ served none events) : p f.service = some (f.startHandle, f.endHandle) :=
  h.eq_some_of_result ((result_mem_of_mem_served hf).resolve_left nofun)

theorem HandleData.remembers_clearServices : d.clearServices.Remembers none :=
  fun _ => rfl

/-- A service is registered each time it is served and has something to register. -/
theorem registrationCount_eq (s : TagService) :
    registrationCount db bda d.clearServices events s =
      (served none events).countP fun f => f.service = s ∧ (db.notifyHandle f).isSome := by
  rw [registrationCount, registrations_eq HandleData.remembers_clearServices,
    List.countP_filterMap]
  refine List.countP_congr fun f _ => ?_
  cases db.notifyHandle f <;> simp

/-- No service that is not offered is registered. -/
theorem Peripheral.Answers.registrationCount_eq_zero (h : p.Answers events) {s : TagService}
    (hp : p s = none) : registrationCount db bda d.clearServices events s = 0 := by
  rw [registrationCount_eq, List.countP_eq_zero]
  intro f hf hfs
  have hsome := h.eq_some_of_served hf
  rw [(of_decide_eq_true hfs).1, hp] at hsome
  cases hsome

/-- A service that notifies is registered each time it is served. -/
theorem Peripheral.Answers.registrationCount_of_notifies (h : p.Answers events) {s : TagService}
    (hn : p.Notifies db s) :
    registrationCount db bda d.clearServices events s = (servedServices events).count s := by
  obtain ⟨r, hp, hr⟩ := hn
  rw [registrationCount_eq, servedServices, List.count, List.countP_map]
  refine List.countP_congr fun f hf => ?_
  have hrange : f.service = s → db.notifyHandle f = db.notifyHandle ⟨s, r.1, r.2⟩ := by
    rintro rfl
    have heq := h.eq_some_of_served hf
    rw [hp] at heq
    cases heq
    rfl
  simp only [decide_eq_true_eq, Function.comp_apply, beq_iff_eq]
  constructor
  · exact And.left
  · exact fun hs => ⟨hs, by rw [hrange hs]; exact hr⟩

/-- **Every service that notifies is registered exactly once, and no service that is not offered,
exactly when** for each service that notifies one completion succeeds while its result is the last
one. -/
theorem registered_once_iff (h : p.Answers events) :
    ((∀ s, p.Notifies db s → registrationCount db bda d.clearServices events s = 1) ∧
      ∀ s, p s = none → registrationCount db bda d.clearServices events s = 0) ↔
    ∀ s, p.Notifies db s → (servedServices events).count s = 1 := by
  constructor
  · rintro ⟨honce, -⟩ s hn
    rw [← h.registrationCount_of_notifies hn]
    exact honce s hn
  · intro honce
    refine ⟨fun s hn => ?_, fun s hp => h.registrationCount_eq_zero hp⟩
    rw [h.registrationCount_of_notifies hn]
    exact honce s hn

end

/-- A database in which every characteristic can be read and notifies, and follows its service's
declaration. -/
def sampleDb : GattDb where
  attrCount _ _ := 1
  charByUuid startHandle _ _ := some [⟨startHandle + 1, 0x12⟩]

/-- Each search is answered to its end before the next one: all three services are registered
once. -/
theorem registered_once_in_sequence :
    ∃ p : Peripheral, ∃ events, p.Answers events ∧ (∀ s, p.Notifies sampleDb s) ∧
      ∀ s, registrationCount sampleDb 1 HandleData.boot.clearServices events s = 1 := by
  have h : Peripheral.Answers
      (fun s => match s with
        | .htu21d => some (1, 9)
        | .ms5637 => some (10, 19)
        | .battery => some (20, 29))
      [.result .htu21d 1 9, .complete .htu21d true true, .result .ms5637 10 19,
        .complete .ms5637 true true, .result .battery 20 29, .complete .battery true true] := by
    intro s _
    cases s with
    | htu21d => exact ⟨true, true, rfl⟩
    | ms5637 => exact ⟨true, true, rfl⟩
    | battery => exact ⟨true, true, rfl⟩
  have hn : ∀ s, Peripheral.Notifies
      (fun s => match s with
        | .htu21d => some (1, 9)
        | .ms5637 => some (10, 19)
        | .battery => some (20, 29)) sampleDb s := by
    intro s
    cases s with
    | htu21d => exact ⟨(1, 9), rfl, rfl⟩
    | ms5637 => exact ⟨(10, 19), rfl, rfl⟩
    | battery => exact ⟨(20, 29), rfl, rfl⟩
  refine ⟨_, _, h, hn, fun s => ((registered_once_iff h).2 fun s _ => ?_).1 s (hn s)⟩
  cases s with
  | htu21d => rfl
  | ms5637 => rfl
  | battery => rfl

/-- The peripheral offers the HTU21D only: the completions of the two other searches register it
again. -/
theorem registered_thrice :
    ∃ p : Peripheral, ∃ events,
      p = (fun s => if s = .htu21d then some (1, 9) else none) ∧ p.Answers events ∧
      p.Notifies sampleDb .htu21d ∧
      registrationCount sampleDb 1 HandleData.boot.clearServices events
        .htu21d = 3 := by
  refine ⟨_, [.result .htu21d 1 9, .complete .htu21d true true, .complete .ms5637 true true,
    .complete .battery true true], rfl, fun s _ => ?_, ⟨(1, 9), rfl, rfl⟩, rfl⟩
  cases s with
  | htu21d => exact ⟨true, true, rfl⟩
  | ms5637 => exact ⟨true, true, rfl⟩
  | battery => exact ⟨true, true, rfl⟩

end Esp32Iot
