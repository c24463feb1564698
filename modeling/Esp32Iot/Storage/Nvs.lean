import Mathlib.Logic.Function.Basic
import Esp32Iot.CString
import Esp32Iot.Lib.Halting

/-!
# The non-volatile store and its failures

The storage module (`Storage/esp32iot_storage.c`) reaches the flash through the NVS library of
ESP-IDF, which is not part of the repository. What the code relies on is stated here: the store is
a map from namespace and key to value, a key of more than 15 characters is refused with
`ESP_ERR_NVS_KEY_TOO_LONG`, a failed call changes nothing, and a successful write is seen by the
next read and is durable after `nvs_commit` at the latest.

A program over the store is a state transformer that may halt (`Nvs`). Every NVS call takes its
`Fate` from a plan: it succeeds, and a write then may or may not become durable at once, it fails
with an error code, or the power is lost before it. When the plan is used up, calls succeed, so the
empty plan is the run without failures. `ESP_ERROR_CHECK` of an error code reboots the device, which
is a halt too: the state that a halt leaves behind is what the next boot starts from
(`Flash.reboot`).
-/

namespace Esp32Iot

/-- The error codes of NVS calls that the code tells apart. -/
inductive NvsError
  /-- `ESP_ERR_NVS_NOT_FOUND` -/
  | notFound
  /-- `ESP_ERR_NVS_KEY_TOO_LONG` -/
  | keyTooLong
  | other (code : Nat)
  deriving DecidableEq

/-- What becomes of one NVS call. -/
inductive Fate
  /-- the call does its work; a write that is `atOnce` is durable before the commit -/
  | works (atOnce : Bool)
  | fails (code : Nat)
  /-- the power is lost before the call -/
  | powerLoss
  deriving DecidableEq

/-- Why the program does not go on. -/
inductive Halt
  /-- `ESP_ERROR_CHECK` of an error code -/
  | aborted (err : NvsError)
  | powerLost
  /-- a write outside an array: the source says nothing about what follows -/
  | overrun
  deriving DecidableEq

/-- The entries of the store. Strings are only kept in `WIFI_SETTINGS_STORAGE_NAMESPACE`, and the
32-bit integers only in `GENERAL_STORAGE_NAMESPACE`; `MQTT_SETTINGS_STORAGE_NAMESPACE` is declared
and never opened. -/
structure Contents where
  /-- the entries of `wifi_storage` -/
  str : CStr → Option CStr
  /-- the entries of `general_storage` -/
  i32 : CStr → Option Int32

namespace Contents

/-- The store of a new device. -/
def erased : Contents := ⟨fun _ => none, fun _ => none⟩

def setStr (c : Contents) (key value : CStr) : Contents :=
  { c with str := Function.update c.str key (some value) }

def setI32 (c : Contents) (key : CStr) (value : Int32) : Contents :=
  { c with i32 := Function.update c.i32 key (some value) }

/-- `nvs_erase_all` of `wifi_storage`. -/
def eraseStr (c : Contents) : Contents := { c with str := fun _ => none }

@[simp] theorem setStr_str_self (c : Contents) (key value : CStr) :
    (c.setStr key value).str key = some value := by simp [setStr]

theorem setStr_str_of_ne (c : Contents) {key key' : CStr} (value : CStr) (h : key' ≠ key) :
    (c.setStr key value).str key' = c.str key' := by simp [setStr, h]

end Contents

/-- The store as a program sees it, what of it is durable, and the fates of the calls to come. -/
structure Flash where
  data : Contents
  durable : Contents
  plan : List Fate

namespace Flash

/-- The store after a reboot, with no failure ahead. -/
def reboot (f : Flash) : Flash := ⟨f.durable, f.durable, []⟩

/-- The store at rest, with no failure ahead. -/
def ofContents (c : Contents) : Flash := ⟨c, c, []⟩

/-- Write to the store, and at once to what is durable if so decided. -/
def write (f : Flash) (g : Contents → Contents) (atOnce : Bool) : Flash :=
  { f with data := g f.data, durable := if atOnce then g f.durable else f.durable }

end Flash

/-- A program over the store. -/
abbrev Nvs := EStateM Halt Flash

/-! ## The calls -/

/-- One call, with the next fate of the plan. -/
def nvsCall {α : Type} (op : Bool → Flash → Except NvsError α × Flash) :
    Nvs (Except NvsError α) := fun f =>
  match f.plan with
  | [] => .ok (op true f).1 (op true f).2
  | .works atOnce :: plan =>
      .ok (op atOnce { f with plan := plan }).1 (op atOnce { f with plan := plan }).2
  | .fails code :: plan => .ok (.error (.other code)) { f with plan := plan }
  | .powerLoss :: plan => .error .powerLost { f with plan := plan }

/-- The longest key, `NVS_KEY_NAME_MAX_SIZE - 1`. -/
def maxKeyLength : Nat := 15

/-- `nvs_open`. -/
def nvsOpen : Nvs (Except NvsError Unit) := nvsCall fun _ f => (.ok (), f)

/-- `nvs_get_str`; `none` stands for `ESP_ERR_NVS_NOT_FOUND`. -/
def nvsGetStr (key : CStr) : Nvs (Except NvsError (Option CStr)) := nvsCall fun _ f =>
  (if maxKeyLength < key.length then .error .keyTooLong else .ok (f.data.str key), f)

/-- `nvs_set_str`. -/
def nvsSetStr (key value : CStr) : Nvs (Except NvsError Unit) := nvsCall fun atOnce f =>
  if maxKeyLength < key.length then (.error .keyTooLong, f)
  else (.ok (), f.write (·.setStr key value) atOnce)

/-- `nvs_get_i32`. -/
def nvsGetI32 (key : CStr) : Nvs (Except NvsError (Option Int32)) := nvsCall fun _ f =>
  (if maxKeyLength < key.length then .error .keyTooLong else .ok (f.data.i32 key), f)

/-- `nvs_set_i32`. -/
def nvsSetI32 (key : CStr) (value : Int32) : Nvs (Except NvsError Unit) := nvsCall fun atOnce f =>
  if maxKeyLength < key.length then (.error .keyTooLong, f)
  else (.ok (), f.write (·.setI32 key value) atOnce)

/-- `nvs_erase_all` of `wifi_storage`. -/
def nvsEraseAll : Nvs (Except NvsError Unit) := nvsCall fun atOnce f =>
  (.ok (), f.write Contents.eraseStr atOnce)

/-- `nvs_commit`. -/
def nvsCommit : Nvs (Except NvsError Unit) := nvsCall fun _ f =>
  (.ok (), { f with durable := f.data })

/-- `ESP_ERROR_CHECK`: reboot on any error code. -/
def espErrorCheck {α : Type} : Except NvsError α → Nvs α
  | .ok a => pure a
  | .error err => throw (.aborted err)

/-- A call whose error code, if it returns one, goes to `ESP_ERROR_CHECK`. -/
def checked {α : Type} (call : Nvs (Except NvsError α)) : Nvs α := do
  espErrorCheck (← call)

/-! ## Running a program -/

/-- The store with one fate of the plan used up. -/
def Flash.next (f : Flash) : Flash := { f with plan := f.plan.tail }

@[simp] theorem Flash.next_data (f : Flash) : f.next.data = f.data := rfl

@[simp] theorem Flash.write_plan (f : Flash) (g : Contents → Contents) (b : Bool) :
    (f.write g b).plan = f.plan := rfl

/-- The next `n` calls work. -/
def Works : Nat → List Fate → Prop
  | 0, _ => True
  | _ + 1, [] => True
  | n + 1, fate :: plan => (∃ atOnce, fate = .works atOnce) ∧ Works n plan

@[simp] theorem works_nil (n : Nat) : Works n [] := by cases n <;> trivial

theorem Works.next {n : Nat} {f : Flash} (h : Works (n + 1) f.plan) : Works n f.next.plan := by
  unfold Flash.next
  cases hp : f.plan with
  | nil => simp
  | cons fate plan => rw [hp] at h; exact h.2

theorem Works.mono {m n : Nat} (hmn : m ≤ n) :
    ∀ {plan : List Fate}, Works n plan → Works m plan := by
  induction m generalizing n with
  | zero => exact fun _ => trivial
  | succ m ih =>
      intro plan h
      obtain ⟨n, rfl⟩ := Nat.exists_eq_add_of_lt hmn
      cases plan with
      | nil => trivial
      | cons fate plan => exact ⟨h.1, ih (Nat.le_of_succ_le_succ hmn) h.2⟩

/-- A call that works does its operation, and its error code is checked. -/
theorem checked_works {α : Type} (op : Bool → Flash → Except NvsError α × Flash) {f : Flash}
    (h : Works 1 f.plan) :
    ∃ atOnce, checked (nvsCall op) f =
      match (op atOnce f.next).1 with
      | .ok a => .ok a (op atOnce f.next).2
      | .error err => .error (.aborted err) (op atOnce f.next).2 := by
  obtain ⟨data, durable, plan⟩ := f
  have hcall : ∃ atOnce, nvsCall op ⟨data, durable, plan⟩ =
      .ok (op atOnce ⟨data, durable, plan.tail⟩).1 (op atOnce ⟨data, durable, plan.tail⟩).2 := by
    cases plan with
    | nil => exact ⟨true, rfl⟩
    | cons fate plan =>
        obtain ⟨⟨b, rfl⟩, -⟩ := h
        exact ⟨b, rfl⟩
  obtain ⟨b, hb⟩ := hcall
  refine ⟨b, (Halting.bind_of_ok hb _).trans ?_⟩
  show espErrorCheck (op b ⟨data, durable, plan.tail⟩).1 _ =
    match (op b ⟨data, durable, plan.tail⟩).1 with
    | .ok a => .ok a (op b ⟨data, durable, plan.tail⟩).2
    | .error err => .error (.aborted err) (op b ⟨data, durable, plan.tail⟩).2
  cases (op b ⟨data, durable, plan.tail⟩).1 <;> rfl

/-- A call that does not work halts the program, and the store is as it was. -/
theorem checked_halts {α : Type} (op : Bool → Flash → Except NvsError α × Flash) {f : Flash}
    (h : ¬ Works 1 f.plan) : ∃ e, checked (nvsCall op) f = .error e f.next := by
  obtain ⟨data, durable, plan⟩ := f
  cases plan with
  | nil => exact absurd trivial h
  | cons fate plan =>
      cases fate with
      | works b => exact absurd ⟨⟨b, rfl⟩, trivial⟩ h
      | fails code => exact ⟨.aborted (.other code), rfl⟩
      | powerLoss => exact ⟨.powerLost, rfl⟩

/-- No call leaves an array. -/
theorem checked_avoids_overrun {α : Type} (op : Bool → Flash → Except NvsError α × Flash) :
    Halting.Avoids .overrun (checked (nvsCall op)) := by
  intro f f' h
  by_cases hw : Works 1 f.plan
  · obtain ⟨b, hb⟩ := checked_works op hw
    rw [hb] at h
    split at h <;> cases h
  · obtain ⟨data, durable, plan⟩ := f
    rcases plan with _ | ⟨fate, plan⟩
    · exact hw trivial
    · cases fate <;> first | exact hw ⟨⟨_, rfl⟩, trivial⟩ | cases h

/-- Every string of the store, durable or not yet, has a property that may depend on its key. -/
def Entries (Q : CStr → CStr → Prop) (f : Flash) : Prop :=
  (∀ key, ∀ s ∈ f.data.str key, Q key s) ∧ ∀ key, ∀ s ∈ f.durable.str key, Q key s

section
variable {Q : CStr → CStr → Prop}

/-- A call keeps what its operation keeps, whatever becomes of it. -/
theorem checked_keeps {α : Type} {op : Bool → Flash → Except NvsError α × Flash}
    (hop : ∀ atOnce f, Entries Q f → Entries Q (op atOnce f).2) :
    Halting.Keeps (Entries Q) (checked (nvsCall op)) := by
  intro f hf
  by_cases hw : Works 1 f.plan
  · obtain ⟨b, hb⟩ := checked_works op hw
    rw [hb]
    split <;> exact hop b f.next hf
  · obtain ⟨e, he⟩ := checked_halts op hw
    rw [he]
    exact hf

theorem Entries.write {f : Flash} (hf : Entries Q f) {g : Contents → Contents}
    (hg : ∀ c : Contents, (∀ key, ∀ s ∈ c.str key, Q key s) → ∀ key, ∀ s ∈ (g c).str key, Q key s)
    (atOnce : Bool) : Entries Q (f.write g atOnce) := by
  refine ⟨hg f.data hf.1, ?_⟩
  cases atOnce with
  | true => exact hg f.durable hf.2
  | false => exact hf.2

theorem checked_nvsOpen_keeps : Halting.Keeps (Entries Q) (checked nvsOpen) :=
  checked_keeps fun _ _ hf => hf

theorem checked_nvsGetStr_keeps (key : CStr) :
    Halting.Keeps (Entries Q) (checked (nvsGetStr key)) :=
  checked_keeps fun _ _ hf => hf

theorem checked_nvsSetStr_keeps {key value : CStr} (hQ : Q key value) :
    Halting.Keeps (Entries Q) (checked (nvsSetStr key value)) := by
  refine checked_keeps fun atOnce f hf => ?_
  split
  · exact hf
  · refine hf.write (fun c hc key' s hs => ?_) atOnce
    by_cases heq : key' = key
    · rw [heq, Contents.setStr_str_self] at hs
      cases hs
      exact heq ▸ hQ
    · rw [Contents.setStr_str_of_ne c value heq] at hs
      exact hc key' s hs

theorem checked_nvsSetI32_keeps (key : CStr) (value : Int32) :
    Halting.Keeps (Entries Q) (checked (nvsSetI32 key value)) := by
  refine checked_keeps fun atOnce f hf => ?_
  split
  · exact hf
  · exact hf.write (g := (·.setI32 key value)) (fun _ hc => hc) atOnce

theorem checked_nvsEraseAll_keeps : Halting.Keeps (Entries Q) (checked nvsEraseAll) :=
  checked_keeps fun atOnce _ hf => hf.write (fun _ _ _ _ hs => by cases hs) atOnce

theorem checked_nvsCommit_keeps : Halting.Keeps (Entries Q) (checked nvsCommit) :=
  checked_keeps fun _ _ hf => ⟨hf.1, hf.1⟩

end

/-! ## One equation for each call -/

section
variable {f : Flash}

theorem checked_nvsOpen (h : Works 1 f.plan) : checked nvsOpen f = .ok () f.next := by
  obtain ⟨b, hb⟩ := checked_works _ h
  exact hb

theorem checked_nvsGetStr (h : Works 1 f.plan) {key : CStr} (hk : key.length ≤ maxKeyLength) :
    checked (nvsGetStr key) f = .ok (f.data.str key) f.next := by
  obtain ⟨b, hb⟩ := checked_works _ h
  rw [nvsGetStr, hb]
  simp [Nat.not_lt.2 hk]

theorem checked_nvsGetStr_tooLong (h : Works 1 f.plan) {key : CStr}
    (hk : maxKeyLength < key.length) :
    checked (nvsGetStr key) f = .error (.aborted .keyTooLong) f.next := by
  obtain ⟨b, hb⟩ := checked_works _ h
  rw [nvsGetStr, hb]
  simp [hk]

theorem checked_nvsSetStr (h : Works 1 f.plan) {key : CStr} (hk : key.length ≤ maxKeyLength)
    (value : CStr) :
    ∃ b, checked (nvsSetStr key value) f = .ok () (f.next.write (·.setStr key value) b) := by
  obtain ⟨b, hb⟩ := checked_works _ h
  refine ⟨b, ?_⟩
  rw [nvsSetStr, hb]
  simp [Nat.not_lt.2 hk]

theorem checked_nvsGetI32 (h : Works 1 f.plan) {key : CStr} (hk : key.length ≤ maxKeyLength) :
    checked (nvsGetI32 key) f = .ok (f.data.i32 key) f.next := by
  obtain ⟨b, hb⟩ := checked_works _ h
  rw [nvsGetI32, hb]
  simp [Nat.not_lt.2 hk]

theorem checked_nvsSetI32 (h : Works 1 f.plan) {key : CStr} (hk : key.length ≤ maxKeyLength)
    (value : Int32) :
    ∃ b, checked (nvsSetI32 key value) f = .ok () (f.next.write (·.setI32 key value) b) := by
  obtain ⟨b, hb⟩ := checked_works _ h
  refine ⟨b, ?_⟩
  rw [nvsSetI32, hb]
  simp [Nat.not_lt.2 hk]

theorem checked_nvsCommit (h : Works 1 f.plan) :
    checked nvsCommit f = .ok () { f.next with durable := f.data } := by
  obtain ⟨b, hb⟩ := checked_works _ h
  exact hb

end

end Esp32Iot
