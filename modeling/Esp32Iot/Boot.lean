import Esp32Iot.Lib.Runs
import Esp32Iot.Wifi.Event

/-!
# The boots of a device

`app_main` opens the store, prints the restart counter and raises it, and starts the network; then
events and requests use the store until the device is reset, an `ESP_ERROR_CHECK` reboots it or the
power is lost. The next boot starts from what was durable then.

`RestartCounter.Counts` is what the counter is for: every boot prints it, and raises it by one or
not at all. `restarts_counted` says that the stored counter does that over all boots, whatever
becomes of each call of the store: a boot that gets past its commit is counted, none is counted
twice, and only a request or a flash without free pages sets the counter back.
-/

namespace Esp32Iot

open Halting (Keeps bind_of_ok bind_of_error)

/-! ## `app_main` -/

/-- What `nvs_flash_init` returns at a boot. -/
inductive FlashInit
  | works
  /-- `ESP_ERR_NVS_NO_FREE_PAGES`, with the error codes of `nvs_flash_erase` and of the second
  attempt -/
  | noFreePages (erase second : Option Nat)
  | fails (code : Nat)
  deriving DecidableEq

/-- `ESP_ERROR_CHECK` of the result of a call that is not one of an open store. -/
def espCheck : Option Nat → Nvs Unit
  | none => pure ()
  | some code => throw (.aborted (.other code))

/-- `storage_init`: a store without free pages is erased. -/
def storageInit : FlashInit → Nvs Unit
  | .works => pure ()
  | .noFreePages erase second => do
      espCheck erase
      modify fun f => { f with data := .erased, durable := .erased }
      espCheck second
  | .fails code => espCheck (some code)

/-- What uses the store after the boot. -/
inductive StorageUse
  | staConnected (actualWifi : WifiEvidence)
  | staGotIp (stack : GotIpStack)
  /-- the end of `/mqtt-setup` -/
  | mqttSetup (username password clientID : CStr)
  | eraseWifiData
  | resetRestartCounter
  deriving DecidableEq

def StorageUse.run : StorageUse → Nvs Unit
  | .staConnected actualWifi => Esp32Iot.staConnected actualWifi
  | .staGotIp stack => do let _ ← Esp32Iot.staGotIp stack
  | .mqttSetup username password clientID => saveLastConnectedMqtt username password clientID
  | .eraseWifiData => eraseStorage
  | .resetRestartCounter => Esp32Iot.resetRestartCounter

/-- From one boot to the next: what the flash reports, the fates of the calls of the store, and what
uses it. -/
structure Life where
  init : FlashInit
  plan : List Fate
  uses : List StorageUse
  deriving DecidableEq

/-- What is seen of a life. -/
structure LifeOutcome where
  /-- the counter that is printed -/
  printed : Option Int32
  /-- `save_restart_counter` returns -/
  counted : Bool
  /-- the number of uses that are done -/
  done : Nat
  deriving DecidableEq

/-- The uses one after the other, up to the first that halts: the number of those that are done, and
what is left behind. -/
def runUses : List StorageUse → Flash → Nat × Flash
  | [], f => (0, f)
  | use :: uses, f =>
      match use.run f with
      | .ok _ f' => ((runUses uses f').1 + 1, (runUses uses f').2)
      | .error _ f' => (0, f')

/-- A life, on what the one before has left behind. -/
def Life.run (l : Life) (c : Contents) : LifeOutcome × Contents :=
  match (storageInit l.init >>= fun _ => getRestartCounter) ⟨c, c, l.plan⟩ with
  | .error _ f => (⟨none, false, 0⟩, f.durable)
  | .ok printed f =>
      match saveRestartCounter f with
      | .error _ f => (⟨some printed, false, 0⟩, f.durable)
      | .ok _ f =>
          match wifiStart (.fill 33 0) (.fill 64 0) f with
          | .error _ f => (⟨some printed, true, 0⟩, f.durable)
          | .ok _ f => (⟨some printed, true, (runUses l.uses f).1⟩, (runUses l.uses f).2.durable)

/-- A life as a step of what is durable. -/
def lifeStep (c : Contents) (l : Life) : Option (LifeOutcome × Contents) := some (l.run c)

/-! ## A counter of restarts -/

/-- What a life makes of the counter. -/
inductive CounterEffect
  | kept
  | counted
  | reset
  deriving DecidableEq

def CounterEffect.apply : CounterEffect → Int32 → Int32
  | .kept, n => n
  | .counted, n => n + 1
  | .reset, _ => 0

/-- The counter after `storage_init`: a store that was erased has none. -/
def FlashInit.base : FlashInit → Int32 → Int32
  | .noFreePages none _, _ => 0
  | _, n => n

/-- What a life may make of the counter. -/
structure Life.Explains (l : Life) (o : LifeOutcome) (e : CounterEffect) : Prop where
  kept : e = .kept → ¬ o.counted
  reset : e = .reset → .resetRestartCounter ∈ l.uses
  done : .resetRestartCounter ∈ l.uses.take o.done → e = .reset

/-- Every life prints the counter, if it gets that far, and counts or resets it. -/
inductive RestartCounter.Counts : Int32 → List Life → List LifeOutcome → Int32 → Prop
  | nil (n : Int32) : Counts n [] [] n
  | cons {n m : Int32} {l : Life} {o : LifeOutcome} {e : CounterEffect} {lives : List Life}
      {outs : List LifeOutcome} (hprinted : ∀ v ∈ o.printed, v = l.init.base n)
      (heffect : l.Explains o e) (hrest : Counts (e.apply (l.init.base n)) lives outs m) :
      Counts n (l :: lives) (o :: outs) m

/-- A life in which the counter is not set back. -/
def Life.Ordinary (l : Life) : Prop :=
  (∀ second, l.init ≠ .noFreePages none second) ∧ .resetRestartCounter ∉ l.uses

theorem FlashInit.base_of_ne {init : FlashInit} (h : ∀ second, init ≠ .noFreePages none second)
    (n : Int32) : init.base n = n := by
  unfold base
  split
  · next second => exact absurd rfl (h second)
  · rfl

/-- Where it is not set back, the counter tells how many lives there were: at least those whose save
returned, and not more than there were in all. -/
theorem RestartCounter.Counts.between {n m : Int32} {lives : List Life} {outs : List LifeOutcome}
    (h : Counts n lives outs m) (hordinary : ∀ l ∈ lives, l.Ordinary) :
    ∃ k, outs.countP LifeOutcome.counted ≤ k ∧ k ≤ lives.length ∧ m = n + .ofNat k := by
  induction h with
  | nil n => exact ⟨0, Nat.le_refl _, Nat.le_refl _, (Int32.add_zero n).symm⟩
  | @cons n m l o e lives outs _ heffect _ ih =>
    rw [List.forall_mem_cons] at hordinary
    obtain ⟨⟨hinit, hreset⟩, hlater⟩ := hordinary
    obtain ⟨k, hlow, hhigh, rfl⟩ := ih hlater
    rw [List.countP_cons, List.length_cons, FlashInit.base_of_ne hinit]
    cases e with
    | kept =>
      refine ⟨k, ?_, by omega, rfl⟩
      rw [if_neg (heffect.kept rfl)]
      exact hlow
    | counted =>
      refine ⟨k + 1, by split <;> omega, by omega, ?_⟩
      rw [CounterEffect.apply, Int32.add_assoc, Int32.add_comm 1, Int32.ofNat_add]
      rfl
    | reset => exact absurd (heffect.reset rfl) hreset

/-! ## What the calls of the store do to the counter -/

/-- The counter, which is 0 before the first save. -/
def Contents.restarts (c : Contents) : Int32 := (c.i32 restartCounterKey).getD 0

@[simp] theorem Contents.restarts_setI32 (c : Contents) (n : Int32) :
    (c.setI32 restartCounterKey n).restarts = n := by simp [restarts, setI32]

/-- The counter stands at `n`, and nothing of it waits for a commit. -/
def RestartsAt (n : Int32) (f : Flash) : Prop :=
  f.data.restarts = n ∧ f.durable.restarts = n

section
variable {α : Type} {n : Int32}

theorem RestartsAt.write {f : Flash} (h : RestartsAt n f) {g : Contents → Contents}
    (hg : ∀ c, (g c).i32 = c.i32) (atOnce : Bool) : RestartsAt n (f.write g atOnce) := by
  have hrestarts : ∀ c, (g c).restarts = c.restarts := fun c => by
    rw [Contents.restarts, hg, Contents.restarts]
  refine ⟨(hrestarts _).trans h.1, ?_⟩
  cases atOnce with
  | true => exact (hrestarts _).trans h.2
  | false => exact h.2

/-- A call keeps what its operation keeps, whatever becomes of it. -/
theorem checked_keeps_restarts {op : Bool → Flash → Except NvsError α × Flash}
    (hop : ∀ atOnce f, RestartsAt n f → RestartsAt n (op atOnce f).2) :
    Keeps (RestartsAt n) (checked (nvsCall op)) := by
  intro f hf
  by_cases hw : Works 1 f.plan
  · obtain ⟨b, hb⟩ := checked_works op hw
    rw [hb]
    split <;> exact hop b f.next hf
  · obtain ⟨e, he⟩ := checked_halts op hw
    rw [he]
    exact hf

theorem checked_nvsOpen_keeps_restarts : Keeps (RestartsAt n) (checked nvsOpen) :=
  checked_keeps_restarts fun _ _ hf => hf

theorem checked_nvsGetStr_keeps_restarts (key : CStr) :
    Keeps (RestartsAt n) (checked (nvsGetStr key)) :=
  checked_keeps_restarts fun _ _ hf => hf

theorem checked_nvsGetI32_keeps_restarts (key : CStr) :
    Keeps (RestartsAt n) (checked (nvsGetI32 key)) :=
  checked_keeps_restarts fun _ _ hf => hf

theorem checked_nvsSetStr_keeps_restarts (key value : CStr) :
    Keeps (RestartsAt n) (checked (nvsSetStr key value)) := by
  refine checked_keeps_restarts fun atOnce f hf => ?_
  split
  · exact hf
  · exact hf.write (g := (·.setStr key value)) (fun _ => rfl) atOnce

theorem checked_nvsEraseAll_keeps_restarts : Keeps (RestartsAt n) (checked nvsEraseAll) :=
  checked_keeps_restarts fun atOnce _ hf => hf.write (g := Contents.eraseStr) (fun _ => rfl) atOnce

theorem checked_nvsCommit_keeps_restarts : Keeps (RestartsAt n) (checked nvsCommit) :=
  checked_keeps_restarts fun _ _ hf => ⟨hf.1, hf.1⟩

end

/-! ## The three programs over the counter -/

/-- Where a program leaves the counter that moves it from `n` to `m`: at `m` if it ends, and at one
of the two if it halts. -/
def Moved {α : Type} (n m : Int32) : EStateM.Result Halt Flash α → Prop
  | .ok _ f => RestartsAt m f
  | .error _ f => f.durable.restarts = n ∨ f.durable.restarts = m

section
variable {α β : Type} {n m : Int32} {f : Flash}

/-- After a program that keeps the counter and ends. -/
theorem RestartsAt.of_ok {x : Nvs α} (hx : Keeps (RestartsAt n) x) (hf : RestartsAt n f) {a : α}
    {f' : Flash} (h : x f = .ok a f') : RestartsAt n f' := by
  have hkept := hx f hf
  rwa [h] at hkept

theorem moved_of_keeps {x : Nvs α} (hx : Keeps (RestartsAt n) x) (hf : RestartsAt n f) :
    Moved n n (x f) := by
  have hkept := hx f hf
  cases hrun : x f with
  | ok a f' => rwa [hrun] at hkept
  | error e f' =>
    rw [hrun] at hkept
    exact .inl hkept.2

/-- A program that keeps the counter, and then one that moves it. -/
theorem moved_bind {x : Nvs α} (hx : Keeps (RestartsAt n) x) (hf : RestartsAt n f)
    {g : α → Nvs β} (hg : ∀ a f', x f = .ok a f' → RestartsAt n f' → Moved n m (g a f')) :
    Moved n m ((x >>= g) f) := by
  have hkept := hx f hf
  cases hrun : x f with
  | ok a f' =>
    rw [hrun] at hkept
    rw [bind_of_ok hrun]
    exact hg a f' hrun hkept
  | error e f' =>
    rw [hrun] at hkept
    rw [bind_of_error hrun]
    exact .inl hkept.2

/-- `nvs_get_i32` of the counter, if it returns a value. -/
theorem checked_nvsGetI32_eq_ok {f' : Flash} {v : Option Int32} (hf : RestartsAt n f)
    (h : checked (nvsGetI32 restartCounterKey) f = .ok v f') : v.getD 0 = n := by
  by_cases hw : Works 1 f.plan
  · rw [checked_nvsGetI32 hw restartCounterKey_length] at h
    cases h
    exact hf.1
  · obtain ⟨e, he⟩ := checked_halts _ hw
    rw [nvsGetI32, he] at h
    cases h

/-- `nvs_set_i32` of the counter and `nvs_commit`. -/
theorem setRestarts_moved (hf : RestartsAt n f) (m : Int32) :
    Moved n m ((checked (nvsSetI32 restartCounterKey m) >>= fun _ => checked nvsCommit) f) := by
  by_cases hw : Works 1 f.plan
  · obtain ⟨b, hset⟩ := checked_nvsSetI32 hw restartCounterKey_length m
    rw [bind_of_ok hset]
    by_cases hw' : Works 1 (f.next.write (·.setI32 restartCounterKey m) b).plan
    · rw [checked_nvsCommit hw']
      exact ⟨Contents.restarts_setI32 _ m, Contents.restarts_setI32 _ m⟩
    · -- the write is durable already if it was done at once
      obtain ⟨e, hcommit⟩ := checked_halts (fun _ f => (.ok (), { f with durable := f.data })) hw'
      rw [nvsCommit, hcommit]
      cases b with
      | true => exact .inr (Contents.restarts_setI32 _ m)
      | false => exact .inl hf.2
  · obtain ⟨e, hset⟩ := checked_halts _ hw
    rw [bind_of_error (show checked (nvsSetI32 restartCounterKey m) f = _ from hset)]
    exact .inl hf.2

theorem saveRestartCounter_moved (hf : RestartsAt n f) :
    Moved n (n + 1) (saveRestartCounter f) := by
  refine moved_bind checked_nvsOpen_keeps_restarts hf fun _ f₁ _ hf₁ => ?_
  refine moved_bind (checked_nvsGetI32_keeps_restarts _) hf₁ fun v f₂ hget hf₂ => ?_
  rw [checked_nvsGetI32_eq_ok hf₁ hget]
  exact setRestarts_moved hf₂ (n + 1)

theorem resetRestartCounter_moved (hf : RestartsAt n f) : Moved n 0 (resetRestartCounter f) :=
  moved_bind checked_nvsOpen_keeps_restarts hf fun _ _ _ hf' => setRestarts_moved hf' 0

theorem getRestartCounter_keeps : Keeps (RestartsAt n) getRestartCounter :=
  .bind checked_nvsOpen_keeps_restarts fun _ =>
    .bind (checked_nvsGetI32_keeps_restarts _) fun _ => .pure _

theorem getRestartCounter_eq_ok {f' : Flash} {v : Int32} (hf : RestartsAt n f)
    (h : getRestartCounter f = .ok v f') : v = n := by
  cases hopen : checked nvsOpen f with
  | error e f₁ =>
    rw [getRestartCounter, bind_of_error hopen] at h
    cases h
  | ok u f₁ =>
    rw [getRestartCounter, bind_of_ok hopen] at h
    have hf₁ := hf.of_ok checked_nvsOpen_keeps_restarts hopen
    cases hget : checked (nvsGetI32 restartCounterKey) f₁ with
    | error e f₂ =>
      rw [bind_of_error hget] at h
      cases h
    | ok w f₂ =>
      rw [bind_of_ok hget] at h
      cases h
      exact checked_nvsGetI32_eq_ok hf₁ hget

end

/-! ## The programs over the strings -/

section
variable {n : Int32}

theorem saveRecord_keeps_restarts (fields : List (CStr × CStr)) :
    Keeps (RestartsAt n) (saveRecord fields) := by
  have hfields : Keeps (RestartsAt n) (saveFields fields) := by
    induction fields with
    | nil => exact .pure ()
    | cons field fields ih =>
      refine .bind (.bind (checked_nvsGetStr_keeps_restarts _) fun _ => ?_) fun _ => ih
      exact checked_nvsSetStr_keeps_restarts _ _
  exact .bind checked_nvsOpen_keeps_restarts fun _ =>
    .bind hfields fun _ => checked_nvsCommit_keeps_restarts

theorem readStr_keeps_restarts {k : Nat} (key : CStr) (tmp : Option Nat) (out : CharArray k) :
    Keeps (RestartsAt n) (readStr key tmp out) := by
  refine .bind (checked_nvsGetStr_keeps_restarts key) fun entry => ?_
  cases entry with
  | none => exact .pure out
  | some _ =>
    refine .bind (checked_nvsGetStr_keeps_restarts key) fun entry => ?_
    cases entry with
    | none => exact .throw _
    | some found =>
      dsimp only
      split
      · exact .pure _
      · exact .throw _

theorem wifiStart_keeps_restarts (ssid : CharArray 33) (password : CharArray 64) :
    Keeps (RestartsAt n) (wifiStart ssid password) := by
  refine .bind (.bind checked_nvsOpen_keeps_restarts fun _ => ?_) fun found => ?_
  · exact .bind (readStr_keeps_restarts _ _ _) fun _ =>
      .bind (readStr_keeps_restarts _ _ _) fun _ => .pure _
  · dsimp only
    split
    · split
      · exact .pure _
      · exact .throw _
    · exact .pure _

theorem staGotIp_keeps_restarts (stack : GotIpStack) : Keeps (RestartsAt n) (staGotIp stack) := by
  refine .bind (.bind checked_nvsOpen_keeps_restarts fun _ => ?_) fun found => ?_
  · exact .bind (readStr_keeps_restarts _ _ _) fun _ => .bind (readStr_keeps_restarts _ _ _)
      fun _ => .bind (readStr_keeps_restarts _ _ _) fun _ => .pure _
  · dsimp only [initArguments]
    split
    · split
      · exact .pure _
      · exact .throw _
    · exact .pure _

/-- Only the request moves the counter. -/
theorem StorageUse.run_keeps_restarts {use : StorageUse} (h : use ≠ .resetRestartCounter) :
    Keeps (RestartsAt n) use.run := by
  cases use with
  | staConnected actualWifi =>
    exact .bind (saveRecord_keeps_restarts _) fun _ => saveRecord_keeps_restarts _
  | staGotIp stack => exact .bind (staGotIp_keeps_restarts stack) fun _ => .pure ()
  | mqttSetup username password clientID => exact saveRecord_keeps_restarts _
  | eraseWifiData =>
    exact .bind checked_nvsOpen_keeps_restarts fun _ => checked_nvsEraseAll_keeps_restarts
  | resetRestartCounter => exact absurd rfl h

end

/-! ## A life, and all lives -/

/-- The uses of a life leave the counter as it is, or one of them resets it. A reset that is done is
not undone. -/
theorem runUses_restarts {n : Int32} {uses : List StorageUse} {f : Flash} (hf : RestartsAt n f) :
    (runUses uses f).2.durable.restarts = n ∧
        .resetRestartCounter ∉ uses.take (runUses uses f).1 ∨
      (runUses uses f).2.durable.restarts = 0 ∧ .resetRestartCounter ∈ uses := by
  induction uses generalizing n f with
  | nil => exact .inl ⟨hf.2, nofun⟩
  | cons use uses ih =>
    rw [runUses]
    by_cases hreset : use = .resetRestartCounter
    · subst hreset
      have hmoved : Moved n 0 (StorageUse.resetRestartCounter.run f) := resetRestartCounter_moved hf
      cases hrun : StorageUse.resetRestartCounter.run f with
      | ok u f' =>
        rw [hrun] at hmoved
        refine .inr ⟨?_, .head _⟩
        rcases ih hmoved with ⟨hleft, -⟩ | ⟨hleft, -⟩ <;> exact hleft
      | error e f' =>
        rw [hrun] at hmoved
        rcases hmoved with hleft | hleft
        · exact .inl ⟨hleft, nofun⟩
        · exact .inr ⟨hleft, .head _⟩
    · have hmoved := moved_of_keeps (StorageUse.run_keeps_restarts hreset) hf
      cases hrun : use.run f with
      | ok u f' =>
        rw [hrun] at hmoved
        rcases ih hmoved with ⟨hleft, hnot⟩ | ⟨hleft, hmem⟩
        · refine .inl ⟨hleft, ?_⟩
          rw [List.take_succ_cons, List.mem_cons, not_or]
          exact ⟨Ne.symm hreset, hnot⟩
        · exact .inr ⟨hleft, .tail _ hmem⟩
      | error e f' =>
        rw [hrun] at hmoved
        exact .inl ⟨or_self_iff.1 hmoved, nofun⟩

/-- `storage_init` leaves the counter of the flash or that of an erased one. -/
theorem storageInit_restarts {n : Int32} {f : Flash} (hf : RestartsAt n f) (init : FlashInit) :
    RestartsAt (init.base n) (Halting.final (storageInit init f)) := by
  cases init with
  | works => exact hf
  | noFreePages erase second =>
    cases erase with
    | none => cases second <;> exact ⟨rfl, rfl⟩
    | some code => exact hf
  | fails code => exact hf

/-- What a life does to the counter. -/
theorem Life.run_restarts (l : Life) (c : Contents) :
    (∀ v ∈ (l.run c).1.printed, v = l.init.base c.restarts) ∧
      ∃ e, l.Explains (l.run c).1 e ∧
        (l.run c).2.restarts = e.apply (l.init.base c.restarts) := by
  have hf : RestartsAt c.restarts ⟨c, c, l.plan⟩ := ⟨rfl, rfl⟩
  have hinit := storageInit_restarts hf l.init
  generalize hn : l.init.base c.restarts = n at hinit ⊢
  rw [Life.run]
  cases hrun : storageInit l.init ⟨c, c, l.plan⟩ with
  | error e f =>
    rw [hrun] at hinit
    rw [bind_of_error hrun]
    exact ⟨nofun, .kept, ⟨fun _ => nofun, nofun, nofun⟩, hinit.2⟩
  | ok u f =>
    replace hinit : RestartsAt n f := by rwa [hrun] at hinit
    rw [bind_of_ok hrun]
    have hget := moved_of_keeps getRestartCounter_keeps hinit
    cases hprint : getRestartCounter f with
    | error e f₁ =>
      rw [hprint] at hget
      exact ⟨nofun, .kept, ⟨fun _ => nofun, nofun, nofun⟩, or_self_iff.1 hget⟩
    | ok v f₁ =>
      rw [hprint] at hget
      obtain rfl := getRestartCounter_eq_ok hinit hprint
      have hsave := saveRestartCounter_moved hget
      dsimp only
      cases hsaved : saveRestartCounter f₁ with
      | error e f₂ =>
        rw [hsaved] at hsave
        refine ⟨fun w hw => (Option.some.inj hw).symm, ?_⟩
        rcases hsave with hleft | hleft
        · exact ⟨.kept, ⟨fun _ => nofun, nofun, nofun⟩, hleft⟩
        · exact ⟨.counted, ⟨nofun, nofun, nofun⟩, hleft⟩
      | ok u f₂ =>
        rw [hsaved] at hsave
        have hstart := moved_of_keeps (wifiStart_keeps_restarts (.fill 33 0) (.fill 64 0)) hsave
        dsimp only
        cases hwifi : wifiStart (.fill 33 0) (.fill 64 0) f₂ with
        | error e f₃ =>
          rw [hwifi] at hstart
          refine ⟨fun w hw => (Option.some.inj hw).symm, .counted, ⟨nofun, nofun, nofun⟩, ?_⟩
          exact or_self_iff.1 hstart
        | ok started f₃ =>
          rw [hwifi] at hstart
          refine ⟨fun w hw => (Option.some.inj hw).symm, ?_⟩
          rcases @runUses_restarts _ l.uses _ hstart with ⟨hleft, hnot⟩ | ⟨hleft, hmem⟩
          · exact ⟨.counted, ⟨nofun, nofun, fun h => absurd h hnot⟩, hleft⟩
          · exact ⟨.reset, ⟨nofun, fun _ => hmem, fun _ => rfl⟩, hleft⟩

/-- **The restarts are counted.** Over any number of boots, whatever becomes of each call of the
store and wherever the power is lost, the stored counter is a counter of restarts: each life prints
it as the one before left it and raises it by one, or leaves it if its save did not return; and if
no life sets it back, it has gone up by a number between that of the lives whose save returned and
that of all of them. -/
theorem restarts_counted {c c' : Contents} {lives : List Life} {outs : List LifeOutcome}
    (h : Runs.exec lifeStep c lives = some (outs, c')) :
    RestartCounter.Counts c.restarts lives outs c'.restarts ∧
      ((∀ l ∈ lives, l.Ordinary) → ∃ k, outs.countP LifeOutcome.counted ≤ k ∧
        k ≤ lives.length ∧ c'.restarts = c.restarts + .ofNat k) := by
  have hcounts : RestartCounter.Counts c.restarts lives outs c'.restarts := by
    induction lives generalizing c outs with
    | nil =>
      cases h
      exact .nil _
    | cons l lives ih =>
      obtain ⟨o, d, os, hstep, hrest, rfl⟩ := Runs.exec_cons_eq_some h
      have hlife : l.run c = (o, d) := Option.some.inj hstep
      obtain ⟨hprinted, e, heffect, hleft⟩ := l.run_restarts c
      rw [hlife] at hprinted heffect hleft
      refine .cons hprinted heffect ?_
      rw [← hleft]
      exact ih hrest
  exact ⟨hcounts, hcounts.between⟩

/-- Three lives of a new device: one that loses its power before the commit of a reset, one that
loses it before the commit of the counter, and one without failures. Both writes are durable
before their commits. -/
def threeLives : List Life := [
  ⟨.works, List.replicate 11 (.works true) ++ [.powerLoss], [.resetRestartCounter]⟩,
  ⟨.works, [.works true, .works true, .works true, .works true, .works true, .powerLoss], []⟩,
  ⟨.works, [], []⟩]

theorem restarts_counted_threeLives :
    ∃ outs c', Runs.exec lifeStep .erased threeLives = some (outs, c') ∧
      outs = [⟨some 0, true, 0⟩, ⟨some 0, false, 0⟩, ⟨some 1, true, 0⟩] ∧
      RestartCounter.Counts 0 threeLives outs 2 := by
  have hrun : Runs.exec lifeStep .erased threeLives =
    some ([⟨some 0, true, 0⟩, ⟨some 0, false, 0⟩, ⟨some 1, true, 0⟩], _) := rfl
  exact ⟨_, _, hrun, rfl, (restarts_counted hrun).1⟩

end Esp32Iot
