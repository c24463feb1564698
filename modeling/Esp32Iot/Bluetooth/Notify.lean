import Esp32Iot.Bluetooth.Discovery

/-!
# Enabling the notifications of the tag

A registration with the stack only says that the client wants the notifications of a handle. That
the tag sends any is decided by a descriptor of the characteristic, into which the handler writes 1
at `ESP_GATTC_REG_FOR_NOTIFY_EVT`. These events come in between the answers to the searches, and the
handler knows a registration again by the handle that it has stored for one of the services.

`notifications_enabled` says that this works for every order of the events: every registration that
is acknowledged is known again, its descriptor is written once, and nothing else is. What this rests
on is that a characteristic with descriptors has the one that is asked for; `describedOnly` has one
without it, where the handler looks at memory that was never written.
-/

namespace Esp32Iot

/-! ## The handler -/

/-- `ESP_GATT_UUID_CHAR_CLIENT_CONFIG`, the `notify_descr_char_uuid` of `BA5C_uuid`. -/
def clientConfig : BtUuid := .uuid16 0x2902

/-- `esp_gattc_descr_elem_t`. -/
structure DescrElem where
  handle : UInt16
  uuid : BtUuid
  deriving DecidableEq

/-- The answers of the stack about the descriptors of a characteristic. It looks at the handle of
the characteristic and not at the range of the service. -/
structure DescrDb where
  /-- `count` after `esp_ble_gattc_get_attr_count` -/
  count : UInt16 → Nat
  /-- the first result of `esp_ble_gattc_get_descr_by_char_handle`; `none` when the call fails,
  which then leaves the results and `count` as they were -/
  first : UInt16 → Option DescrElem

/-- A call `esp_ble_gattc_write_char_descr`. -/
structure DescrWrite where
  connId : UInt16
  handle : UInt16
  value : Bytes
  deriving DecidableEq

/-- The bytes of `notify_en`. -/
def notifyEn : Bytes := [1, 0]

/-- The branch of a service in `ESP_GATTC_REG_FOR_NOTIFY_EVT`; `memory` is what `malloc` returns,
with what is there. -/
def HandleData.enable (descrs : DescrDb) (connId : UInt16) (d : HandleData) (s : TagService)
    (handle : UInt16) (memory : Option DescrElem) : List DescrWrite :=
  if 0 < descrs.count (d.charHandle s .data) then
    match memory with
    | none => []
    | some result =>
        let result := (descrs.first handle).getD result
        if result.uuid = clientConfig then [⟨connId, result.handle, notifyEn⟩] else []
  else []

/-- `ESP_GATTC_REG_FOR_NOTIFY_EVT`; `ok` is `status == ESP_GATT_OK`. -/
def HandleData.regForNotify (descrs : DescrDb) (connId : UInt16) (d : HandleData) (ok : Bool)
    (handle : UInt16) (memory : Option DescrElem) : List DescrWrite :=
  if !ok then []
  else if handle = d.charHandle .htu21d .data then d.enable descrs connId .htu21d handle memory
  else if handle = d.charHandle .ms5637 .data then d.enable descrs connId .ms5637 handle memory
  else if handle = d.charHandle .battery .data then d.enable descrs connId .battery handle memory
  else []

/-! ## The client and the stack -/

/-- What reaches the handler between `ESP_GATTC_CFG_MTU_EVT` and the first notification. -/
inductive TagEvent
  | answer (e : SearchEvent)
  | registered (ok : Bool) (handle : UInt16) (memory : Option DescrElem)
  deriving DecidableEq

/-- The calls of the handler. -/
inductive GattcCall
  | registerForNotify (r : Registration)
  | writeCharDescr (w : DescrWrite)
  deriving DecidableEq

/-- The handles of the client, and those whose registration the stack has not acknowledged yet. -/
structure TagClient where
  data : HandleData
  pending : List UInt16

/-- The stack acknowledges each registration once, in any order. -/
def TagClient.step (db : GattDb) (descrs : DescrDb) (bda : BdAddr) (connId : UInt16)
    (s : TagClient) : TagEvent → Option (List GattcCall × TagClient)
  | .answer e =>
      some ((s.data.answer db bda e).1.map .registerForNotify,
        ⟨(s.data.answer db bda e).2, s.pending ++ (s.data.answer db bda e).1.map (·.handle)⟩)
  | .registered ok handle memory =>
      if handle ∈ s.pending then
        some ((s.data.regForNotify descrs connId ok handle memory).map .writeCharDescr,
          ⟨s.data, s.pending.erase handle⟩)
      else none

/-! ## What is seen of a run -/

def GattcCall.registration : GattcCall → Option Registration
  | .registerForNotify r => some r
  | .writeCharDescr _ => none

def GattcCall.descrWrite : GattcCall → Option DescrWrite
  | .registerForNotify _ => none
  | .writeCharDescr w => some w

def TagEvent.searchEvent : TagEvent → Option SearchEvent
  | .answer e => some e
  | .registered _ _ _ => none

/-- The handle of an acknowledgement. -/
def TagEvent.acknowledged : TagEvent → Option UInt16
  | .answer _ => none
  | .registered _ handle _ => some handle

/-- The handle of an acknowledgement that the handler can go on with. -/
def TagEvent.granted : TagEvent → Option UInt16
  | .registered true handle (some _) => some handle
  | _ => none

/-- The descriptor that enables the notifications of a characteristic. -/
def DescrDb.config (descrs : DescrDb) (handle : UInt16) : Option UInt16 :=
  if 0 < descrs.count handle then
    (descrs.first handle).bind fun elem =>
      if elem.uuid = clientConfig then some elem.handle else none
  else none

/-- The call that enables them. -/
def DescrDb.configWrite (descrs : DescrDb) (connId handle : UInt16) : Option DescrWrite :=
  (descrs.config handle).map (⟨connId, ·, notifyEn⟩)

/-- A characteristic that has descriptors has the one that is asked for. -/
def DescrDb.Configurable (descrs : DescrDb) (handle : UInt16) : Prop :=
  0 < descrs.count handle → (descrs.first handle).isSome = true

/-- The results of the searches carry the ranges that the peripheral has. -/
def Peripheral.Consistent (p : Peripheral) (events : List SearchEvent) : Prop :=
  ∀ s startHandle endHandle, .result s startHandle endHandle ∈ events →
    p s = some (startHandle, endHandle)

/-! ## One acknowledgement -/

/-- The handle of the data characteristic of one of the services is known again. -/
theorem HandleData.regForNotify_eq {d : HandleData} {descrs : DescrDb} {connId handle : UInt16}
    {s : TagService} (hs : d.charHandle s .data = handle) (hconf : descrs.Configurable handle)
    (result : DescrElem) :
    d.regForNotify descrs connId true handle (some result) =
      (descrs.configWrite connId handle).toList := by
  have henable : ∀ s', handle = d.charHandle s' .data →
      d.enable descrs connId s' handle (some result) =
        (descrs.configWrite connId handle).toList := by
    intro s' hs'
    rw [enable, ← hs', DescrDb.configWrite, DescrDb.config]
    by_cases hcount : 0 < descrs.count handle
    · obtain ⟨elem, helem⟩ := Option.isSome_iff_exists.1 (hconf hcount)
      rw [if_pos hcount, if_pos hcount, helem]
      dsimp only [Option.getD_some, Option.bind_some]
      split <;> rfl
    · rw [if_neg hcount, if_neg hcount]
      rfl
  rw [regForNotify, Bool.not_true, if_neg Bool.false_ne_true]
  split
  · next heq => exact henable _ heq
  · split
    · next heq => exact henable _ heq
    · split
      · next heq => exact henable _ heq
      · next hhtu hms hbat =>
        cases s with
        | htu21d => exact absurd hs.symm hhtu
        | ms5637 => exact absurd hs.symm hms
        | battery => exact absurd hs.symm hbat

/-- An acknowledgement with an error, or without memory for the answer, writes nothing. -/
theorem HandleData.regForNotify_not_granted {d : HandleData} {descrs : DescrDb}
    {connId handle : UInt16} {ok : Bool} {memory : Option DescrElem}
    (h : (TagEvent.registered ok handle memory).granted = none) :
    d.regForNotify descrs connId ok handle memory = [] := by
  cases ok with
  | false => rfl
  | true =>
    cases memory with
    | some result => cases h
    | none =>
      have henable : ∀ s, d.enable descrs connId s handle none = [] := fun s => by
        rw [enable]
        split <;> rfl
      simp only [regForNotify, henable, ite_self]

/-! ## The handles that are stored -/

/-- The handle of a characteristic in a range. -/
def GattDb.charOf (db : GattDb) (f : FoundService) (role : CharRole) : Option UInt16 :=
  if 0 < db.attrCount f.startHandle f.endHandle then
    (f.service.chars.find? fun c => c.1 = role).bind fun c =>
      db.lookup f.startHandle f.endHandle c.1 c.2
  else none

section
variable {db : GattDb} {bda : BdAddr} {d : HandleData}

/-- Every role is looked up once, and what is found is stored. -/
theorem HandleData.lookups_charHandle {s s' : TagService} {role : CharRole}
    {chars : List (CharRole × BtUuid)} (h : (chars.map Prod.fst).Nodup) :
    (d.lookups db bda s chars).2.charHandle s' role =
      if s' = s then
        ((chars.find? fun c => c.1 = role).bind fun c =>
          db.lookup (d.startHandle s) (d.endHandle s) c.1 c.2).getD (d.charHandle s' role)
      else d.charHandle s' role := by
  induction chars generalizing d with
  | nil => rw [lookups, List.find?_nil, Option.bind_none, Option.getD_none, ite_self]
  | cons c chars ih =>
    obtain ⟨role', uuid⟩ := c
    obtain ⟨hfirst, hrest⟩ := List.nodup_cons.1 h
    have hnone : role' = role → (chars.find? fun c => c.1 = role) = none := by
      rintro rfl
      exact List.find?_eq_none.2 fun c hc heq =>
        hfirst (List.mem_map.2 ⟨c, hc, of_decide_eq_true heq⟩)
    rw [lookups, List.find?_cons]
    split
    · next hlookup =>
      rw [ih hrest]
      by_cases hrole : role' = role
      · subst hrole
        simp [hnone rfl, hlookup]
      · simp [hrole]
    · next handle hlookup =>
      refine (ih hrest).trans ?_
      by_cases hs : s' = s
      · subst hs
        by_cases hrole : role' = role
        · subst hrole
          simp [store, hnone rfl, hlookup]
        · simp [store, hrole, Ne.symm hrole]
      · simp [store, hs]

/-- A completion stores what the service has. -/
theorem HandleData.serve_charHandle (s s' : TagService) (role : CharRole) :
    (d.serve db bda true s).2.charHandle s' role =
      if s' = s then
        (db.charOf ⟨s, d.startHandle s, d.endHandle s⟩ role).getD (d.charHandle s' role)
      else d.charHandle s' role := by
  have hroles : (s.chars.map Prod.fst).Nodup := by cases s <;> decide
  rw [serve, GattDb.charOf]
  split
  · exact lookups_charHandle hroles
  · rw [Option.getD_none, ite_self]

/-- The handle that is registered is that of the data characteristic. -/
theorem GattDb.charOf_data (f : FoundService) : db.charOf f .data = db.notifyHandle f := by
  obtain ⟨s, startHandle, endHandle⟩ := f
  cases s <;> rfl

end

/-! ## One event -/

/-- The last result has the range of the peripheral, and every handle whose registration is pending
is stored as that of the data characteristic of its service. -/
structure TagClient.Knows (p : Peripheral) (db : GattDb) (last : Option FoundService)
    (s : TagClient) : Prop where
  remembers : s.data.Remembers last
  range : ∀ f, last = some f → p f.service = some (f.startHandle, f.endHandle)
  pending : ∀ handle ∈ s.pending, ∃ service r, p service = some r ∧
    db.notifyHandle ⟨service, r.1, r.2⟩ = some handle ∧ s.data.charHandle service .data = handle

/-- The last result after an answer. -/
def SearchEvent.lastResult (last : Option FoundService) : SearchEvent → Option FoundService
  | .result s startHandle endHandle => some ⟨s, startHandle, endHandle⟩
  | .complete _ _ _ => last

section
variable {p : Peripheral} {db : GattDb} {descrs : DescrDb} {bda : BdAddr} {connId : UInt16}
  {last : Option FoundService} {s t : TagClient} {os : List (List GattcCall)}

/-- A completion that serves the last result. -/
theorem TagClient.Knows.serve {f : FoundService} (h : s.Knows p db (some f)) :
    TagClient.Knows p db (some f) ⟨(s.data.serve db bda true f.service).2,
      s.pending ++ (s.data.serve db bda true f.service).1.map (·.handle)⟩ := by
  have hrange := h.range f rfl
  have hnotify : db.notifyHandle
      ⟨f.service, s.data.startHandle f.service, s.data.endHandle f.service⟩ =
        db.notifyHandle f := by rw [h.remembers.2.1, h.remembers.2.2]
  refine ⟨h.remembers.serve, h.range, fun handle hmem => ?_⟩
  rw [HandleData.serve_fst, hnotify, List.mem_append] at hmem
  rcases hmem with hmem | hmem
  · obtain ⟨service, r, hp, hfound, hstored⟩ := h.pending handle hmem
    refine ⟨service, r, hp, hfound, ?_⟩
    dsimp only
    rw [HandleData.serve_charHandle, GattDb.charOf_data, hnotify]
    by_cases hs : service = f.service
    · -- a characteristic that is served again has the same handle
      rw [hs, hrange] at hp
      cases hp
      rw [hs] at hfound
      rw [if_pos hs, hfound, Option.getD_some]
    · rw [if_neg hs]
      exact hstored
  · cases hfound : db.notifyHandle f with
    | none =>
      rw [hfound] at hmem
      cases hmem
    | some found =>
      rw [hfound] at hmem
      obtain rfl : handle = found := List.mem_singleton.1 hmem
      refine ⟨f.service, _, hrange, hfound, ?_⟩
      dsimp only
      rw [HandleData.serve_charHandle, GattDb.charOf_data, hnotify, if_pos rfl, hfound, Option.getD_some]

/-- An answer, with a result that has the range of the peripheral. -/
theorem TagClient.Knows.answer {e : SearchEvent} (h : s.Knows p db last)
    (he : p.Consistent [e]) :
    TagClient.Knows p db (e.lastResult last) ⟨(s.data.answer db bda e).2,
      s.pending ++ (s.data.answer db bda e).1.map (·.handle)⟩ := by
  cases e with
  | result service startHandle endHandle =>
    have hdata : (s.data.answer db bda (.result service startHandle endHandle)).2 =
        s.data.mark service startHandle endHandle := HandleData.searchRes_uuid ..
    rw [hdata]
    refine ⟨HandleData.remembers_mark .., fun f hf => ?_, fun handle hmem => ?_⟩
    · cases hf
      exact he _ _ _ (.head _)
    · exact h.pending handle (by simpa [HandleData.answer] using hmem)
  | complete service ok memory =>
    have hsame : TagClient.Knows p db last ⟨s.data, s.pending ++ ([] : List Registration).map
        (·.handle)⟩ := by
      rw [List.map_nil, List.append_nil]
      exact h
    cases ok with
    | false => exact hsame
    | true =>
      show TagClient.Knows p db last ⟨(s.data.searchCmpl db bda true memory).2,
        s.pending ++ (s.data.searchCmpl db bda true memory).1.map (·.handle)⟩
      cases last with
      | none =>
        rw [h.remembers.searchCmpl_none]
        exact hsame
      | some f =>
        rw [h.remembers.searchCmpl_some]
        cases memory with
        | true => exact h.serve
        | false =>
          have hnothing : s.data.serve db bda false f.service = ([], s.data) := by
            simp [HandleData.serve]
          rw [hnothing]
          exact hsame

/-- What an acknowledgement of a pending registration makes the handler write. -/
theorem TagClient.Knows.regForNotify (h : s.Knows p db last)
    (hconf : ∀ service r handle, p service = some r →
      db.notifyHandle ⟨service, r.1, r.2⟩ = some handle → descrs.Configurable handle)
    {ok : Bool} {handle : UInt16} {memory : Option DescrElem} (hmem : handle ∈ s.pending) :
    s.data.regForNotify descrs connId ok handle memory =
      (TagEvent.registered ok handle memory).granted.toList.filterMap
        (descrs.configWrite connId) := by
  cases hgranted : (TagEvent.registered ok handle memory).granted with
  | none =>
    rw [HandleData.regForNotify_not_granted hgranted]
    rfl
  | some granted =>
    obtain ⟨service, r, hp, hfound, hstored⟩ := h.pending handle hmem
    cases ok with
    | false => cases hgranted
    | true =>
      cases memory with
      | none => cases hgranted
      | some result =>
        cases hgranted
        rw [HandleData.regForNotify_eq hstored (hconf service r handle hp hfound)]
        simp only [Option.toList_some, List.filterMap_cons, List.filterMap_nil]
        cases descrs.configWrite connId handle <;> rfl

/-! ## Every order of the events -/

namespace GattcCall

theorem registration_registrations (rs : List Registration) :
    (rs.map registerForNotify).filterMap registration = rs := by
  rw [List.filterMap_map]
  exact List.filterMap_some

theorem descrWrite_registrations (rs : List Registration) :
    (rs.map registerForNotify).filterMap descrWrite = [] := by
  rw [List.filterMap_map]
  exact List.filterMap_none _

theorem registration_writes (ws : List DescrWrite) :
    (ws.map writeCharDescr).filterMap registration = [] := by
  rw [List.filterMap_map]
  exact List.filterMap_none _

theorem descrWrite_writes (ws : List DescrWrite) :
    (ws.map writeCharDescr).filterMap descrWrite = ws := by
  rw [List.filterMap_map]
  exact List.filterMap_some

end GattcCall

/-- What a run of the handler does, from a state in which it knows its registrations. -/
theorem TagClient.Knows.exec {events : List TagEvent} (h : s.Knows p db last)
    (hranges : p.Consistent (events.filterMap TagEvent.searchEvent))
    (hconf : ∀ service r handle, p service = some r →
      db.notifyHandle ⟨service, r.1, r.2⟩ = some handle → descrs.Configurable handle)
    (hrun : Runs.exec (TagClient.step db descrs bda connId) s events = some (os, t)) :
    os.flatten.filterMap GattcCall.registration =
        registrations db bda s.data (events.filterMap TagEvent.searchEvent) ∧
      os.flatten.filterMap GattcCall.descrWrite =
        (events.filterMap TagEvent.granted).filterMap (descrs.configWrite connId) ∧
      (s.pending ++ (os.flatten.filterMap GattcCall.registration).map (·.handle)).Perm
        (events.filterMap TagEvent.acknowledged ++ t.pending) := by
  induction events generalizing s last os with
  | nil =>
    cases hrun
    exact ⟨rfl, rfl, by simp⟩
  | cons event events ih =>
    obtain ⟨o, u, os', hstep, hrest, rfl⟩ := Runs.exec_cons_eq_some hrun
    rw [List.flatten_cons, List.filterMap_append, List.filterMap_append]
    cases event with
    | answer e =>
      cases hstep
      have hfirst : p.Consistent [e] := fun s a b hmem =>
        hranges s a b (List.mem_singleton.1 hmem ▸ List.mem_cons_self ..)
      obtain ⟨hregs, hwrites, hperm⟩ :=
        ih (h.answer hfirst) (fun s a b hmem => hranges s a b (.tail _ hmem)) hrest
      rw [GattcCall.registration_registrations, GattcCall.descrWrite_registrations]
      refine ⟨?_, hwrites, ?_⟩
      · rw [hregs]
        rfl
      · rw [List.map_append, ← List.append_assoc]
        exact hperm
    | registered ok handle memory =>
      rw [TagClient.step] at hstep
      split at hstep
      · next hmem =>
        cases hstep
        have hnext : TagClient.Knows p db last ⟨s.data, s.pending.erase handle⟩ :=
          ⟨h.remembers, h.range, fun handle' hmem' =>
            h.pending handle' (List.mem_of_mem_erase hmem')⟩
        obtain ⟨hregs, hwrites, hperm⟩ := ih hnext hranges hrest
        rw [GattcCall.registration_writes, GattcCall.descrWrite_writes, List.nil_append, hwrites,
          h.regForNotify hconf hmem, ← List.filterMap_append]
        refine ⟨hregs, ?_, ?_⟩
        · rw [List.filterMap_cons]
          cases (TagEvent.registered ok handle memory).granted <;> rfl
        · show List.Perm _ (handle :: (_ ++ _))
          refine ((List.perm_cons_erase hmem).append_right _).trans ?_
          exact hperm.cons handle
      · cases hstep

/-- **Notifications are enabled**, in whatever order the answers to the searches and the
acknowledgements come, and whatever an earlier connection has left behind: each acknowledgement that
the handler can go on with makes it write the descriptor of that characteristic, and it writes
nothing else. The acknowledgements are those of the services that were served, so that with all of
them in hand each of these has been enabled as often as it was served. -/
theorem notifications_enabled {d : HandleData} {events : List TagEvent}
    (hranges : p.Consistent (events.filterMap TagEvent.searchEvent))
    (hconf : ∀ service r handle, p service = some r →
      db.notifyHandle ⟨service, r.1, r.2⟩ = some handle → descrs.Configurable handle)
    (hrun : Runs.exec (TagClient.step db descrs bda connId) ⟨d.clearServices, []⟩ events =
      some (os, t)) :
    os.flatten.filterMap GattcCall.descrWrite =
        (events.filterMap TagEvent.granted).filterMap (descrs.configWrite connId) ∧
      (events.filterMap TagEvent.acknowledged ++ t.pending).Perm
        ((served none (events.filterMap TagEvent.searchEvent)).filterMap db.notifyHandle) ∧
      (t.pending = [] →
        events.filterMap TagEvent.granted = events.filterMap TagEvent.acknowledged →
        (os.flatten.filterMap GattcCall.descrWrite).Perm
          ((served none (events.filterMap TagEvent.searchEvent)).filterMap fun f =>
            (db.notifyHandle f).bind (descrs.configWrite connId))) := by
  have hknows : TagClient.Knows p db none ⟨d.clearServices, []⟩ :=
    ⟨HandleData.remembers_clearServices, nofun, nofun⟩
  obtain ⟨hregs, hwrites, hperm⟩ := hknows.exec hranges hconf hrun
  have hhandles : (registrations db bda d.clearServices
      (events.filterMap TagEvent.searchEvent)).map (·.handle) =
        (served none (events.filterMap TagEvent.searchEvent)).filterMap db.notifyHandle := by
    rw [registrations_eq HandleData.remembers_clearServices, List.map_filterMap]
    refine List.filterMap_congr fun f _ => ?_
    cases db.notifyHandle f <;> rfl
  rw [List.nil_append, hregs, hhandles] at hperm
  refine ⟨hwrites, hperm.symm, fun hnone hall => ?_⟩
  rw [hnone, List.append_nil] at hperm
  rw [hwrites, hall, ← List.filterMap_filterMap]
  exact (hperm.filterMap _).symm

end

/-! ## Two peripherals -/

/-- Every characteristic has the descriptor right behind it. -/
def sampleDescrs : DescrDb where
  count _ := 2
  first handle := some ⟨handle + 1, clientConfig⟩

/-- A tag without a barometer. -/
def sampleTag : Peripheral := fun s =>
  if s = .htu21d then some (1, 9) else if s = .battery then some (20, 29) else none

/-- The answers of the tag. The battery is served twice, and one of its acknowledgements comes
before the last search is complete. -/
def sampleTagEvents : List TagEvent := [
  .answer (.result .htu21d 1 9), .answer (.complete .htu21d true true),
  .answer (.result .battery 20 29), .registered true 2 (some ⟨0, .uuid16 0⟩),
  .answer (.complete .ms5637 true true), .registered true 21 (some ⟨0, .uuid16 0⟩),
  .answer (.complete .battery true true), .registered true 21 (some ⟨0, .uuid16 0⟩)]

theorem notifications_enabled_sampleTagEvents :
    ∃ os t, Runs.exec (TagClient.step sampleDb sampleDescrs 1 4)
        ⟨HandleData.boot.clearServices, []⟩ sampleTagEvents = some (os, t) ∧
      os.flatten.filterMap GattcCall.descrWrite =
        [⟨4, 3, [1, 0]⟩, ⟨4, 22, [1, 0]⟩, ⟨4, 22, [1, 0]⟩] := by
  obtain ⟨⟨os, t⟩, hrun⟩ := Option.isSome_iff_exists.1 (show (Runs.exec
    (TagClient.step sampleDb sampleDescrs 1 4) ⟨HandleData.boot.clearServices, []⟩
      sampleTagEvents).isSome = true from by decide +kernel)
  refine ⟨os, t, hrun, ?_⟩
  have hranges : sampleTag.Consistent (sampleTagEvents.filterMap TagEvent.searchEvent) := by
    intro s a b hmem
    simp [sampleTagEvents, TagEvent.searchEvent] at hmem
    rcases hmem with ⟨rfl, rfl, rfl⟩ | ⟨rfl, rfl, rfl⟩ <;> rfl
  have hconf : ∀ service r handle, sampleTag service = some r →
      sampleDb.notifyHandle ⟨service, r.1, r.2⟩ = some handle → sampleDescrs.Configurable handle :=
    fun _ _ _ _ _ _ => rfl
  exact (notifications_enabled hranges hconf hrun).1.trans (by decide +kernel)

/-- A characteristic with a descriptor that is not the one asked for. -/
def describedOnly : DescrDb where
  count _ := 1
  first _ := none

/-- The handler takes what an earlier call has left in its memory for the answer, and writes to a
handle that the tag may not even have. -/
example :
    ∃ d : HandleData, d.charHandle .htu21d .data = 2 ∧
      ¬ describedOnly.Configurable 2 ∧
      d.regForNotify describedOnly 4 true 2 (some ⟨77, clientConfig⟩) = [⟨4, 77, notifyEn⟩] :=
  ⟨HandleData.boot.store .htu21d .data 2, by decide, fun h => absurd (h Nat.one_pos) nofun,
    by decide⟩

end Esp32Iot
