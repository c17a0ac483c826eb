import Postprocessor.Proofs.Disk.Identities
import Postprocessor.Session

/-!
# Proofs — sessions

* `thresholdOf_name`: the name of a level stands for its weight.
* `Session.Opens`, `opens_openFile`: what opening the file for the log can do; `Opens.standsAt`: the
  file that is opened stands at its path only; `Opens.isSound`: files keep their identities.
* `Session.SetsUp`, `setsUp_setUp`: what setting logging up can do; `setUp_eq_error_iff`: when it
  fails.
-/

namespace Postprocessor

theorem Log.thresholdOf_name (l : Level) : thresholdOf l.name = .ok (l.weight : Int) := by
  cases l <;> rfl

namespace Session
open Postprocessor.Step

variable {ε δ α : Type}

theorem run_onDisk (step : Disk.Step α) (s : Session) :
    onDisk step s = ((step s.disk).1, { s with disk := (step s.disk).2 }) := rfl

theorem run_adapt (f : δ → ε) (step : Session.Step δ α) (s : Session) :
    adapt f step s = ((step s).1.mapError f, (step s).2) := rfl

@[simp] theorem run_setLog (f : Log → Log) (s : Session) :
    (setLog f : Session.Step ε Unit) s = (.ok (), { s with log := f s.log }) := rfl

/-! ### The file for the log -/

/-- What opening a file to which records are added does, with what comes of it. -/
inductive Opens (p : Path) (d : Disk) : Except Disk.Fault Nat × Disk → Prop
  | refused {e : Disk.Fault} {d' : Disk} (hf : Disk.FoldersMade p.parent d d') :
    Opens p d (.error e, d')
  /-- The file is there. -/
  | found {id : Nat} {bytes : List UInt8} {d' : Disk} (hf : Disk.FoldersMade p.parent d d')
      (hi : d'.item? p.place = some (.file id bytes)) : Opens p d (.ok id, d')
  /-- An empty file is made. -/
  | made {d₁ d' : Disk} (hf : Disk.FoldersMade p.parent d d₁) (hi : d₁.item? p.place = none)
      (hi' : ∀ q, d'.item? q = if q = p.place then some (.file d₁.nextId []) else d₁.item? q)
      (hn : d'.nextId = d₁.nextId + 1) : Opens p d (.ok d₁.nextId, d')

theorem opens_openFile {path : String} {d : Disk} {r : Except Disk.Fault Nat × Disk}
    (h : openFile path d = r) : Opens (Path.ofText path) d r := by
  subst h
  have hf := Disk.foldersMade_ensureFolder (Path.ofText path).parent d
  rw [openFile]
  rcases he : Disk.ensureFolder (Path.ofText path).parent d with ⟨e | _, d₁⟩ <;> rw [he] at hf
  · rw [bind_of_error he]
    exact .refused hf
  rw [bind_of_ok he]
  rcases Disk.openLog_cases (Path.ofText path) d₁ with ⟨e, h⟩ | ⟨id, bytes, hi, h⟩ | ⟨hi, h⟩
  all_goals rw [h]
  · exact .refused hf
  · exact .found hf hi
  · have hfixed : Disk.isFixed (Path.ofText path).place = false :=
      Disk.isFixed_of_item?_ne (d := d₁) (by simp [hi])
    exact .made hf hi (fun q => Disk.item?_put hfixed q _) rfl

/-- At most, an empty file is made. -/
theorem Opens.bytes?_cases {p : Path} {d d' : Disk} {r : Except Disk.Fault Nat}
    (h : Opens p d (r, d')) (q : Place) : d'.bytes? q = d.bytes? q ∨
      q = p.place ∧ d.bytes? q = none ∧ d'.bytes? q = some [] := by
  cases h with
  | refused hf => exact .inl (hf.bytes?_eq q)
  | found hf _ => exact .inl (hf.bytes?_eq q)
  | @made d₁ _ hf hi hi' _ =>
      by_cases hq : q = p.place
      · subst hq
        refine .inr ⟨rfl, ?_, ?_⟩
        · rw [← hf.bytes?_eq, Disk.bytes?, hi]
        · rw [Disk.bytes?, hi', if_pos rfl]
      · exact .inl ((Disk.bytes?_congr ((hi' q).trans (if_neg hq))).trans (hf.bytes?_eq q))

/-- The file that is opened stands at its path only. -/
theorem Opens.standsAt {p : Path} {d d' : Disk} {id : Nat} (h : Opens p d (.ok id, d'))
    (hd : d.IsSound) : id < d'.nextId ∧ d'.StandsAt id (some p.place) := by
  cases h with
  | found hf hi =>
      have hsound := hd.foldersMade hf
      exact ⟨hsound.lt_nextId hi, hsound.standsAt hi⟩
  | made hf _ hi' hn =>
      refine ⟨by omega, fun q bytes hq => ?_⟩
      rw [hi'] at hq
      split at hq
      · next hp => rw [hp]
      · exact absurd ((hd.foldersMade hf).lt_nextId hq) (Nat.lt_irrefl _)

theorem Opens.item?_place {p : Path} {d d' : Disk} {id : Nat} (h : Opens p d (.ok id, d')) :
    ∃ bytes, d'.item? p.place = some (.file id bytes) := by
  cases h with
  | found _ hi => exact ⟨_, hi⟩
  | made _ _ hi' _ => exact ⟨[], (hi' _).trans (if_pos rfl)⟩

theorem Opens.isSound {p : Path} {d d' : Disk} {r : Except Disk.Fault Nat}
    (h : Opens p d (r, d')) (hd : d.IsSound) : d'.IsSound := by
  cases h with
  | refused hf | found hf _ => exact hd.foldersMade hf
  | @made d₁ _ hf _ hi' hn =>
      have sound := hd.foldersMade hf
      -- the new file has an identity that no file had before
      have new {q : Place} {bytes : List UInt8} : d₁.item? q ≠ some (.file d₁.nextId bytes) :=
        fun hq => Nat.lt_irrefl _ (sound.lt_nextId hq)
      constructor
      · intro q id bytes hq
        rw [hi'] at hq
        split at hq
        · cases hq
          omega
        · have := sound.lt_nextId hq
          omega
      · intro q q' id bytes bytes' hq hq'
        rw [hi'] at hq hq'
        split at hq <;> split at hq'
        · next hp hp' => rw [hp, hp']
        · cases hq
          exact absurd hq' new
        · cases hq'
          exact absurd hq new
        · exact sound.place_eq hq hq'

/-! ### Setting logging up -/

/-- The handler for the console. -/
def consoleHandler (u : Setup) (s : Session) : Log.Handler := ⟨.console, ⟨u.json, s.terminal⟩⟩

/-- The handler for a file. -/
def fileHandler (u : Setup) (id : Nat) : Log.Handler := ⟨.file id, ⟨u.json, false⟩⟩

/-- The session with logging set up: the given handlers, and the fields of the setup in the
context. -/
def logging (s : Session) (u : Setup) (threshold : Int) (handlers : List Log.Handler) : Session :=
  { s with log := (⟨threshold, handlers, s.log.context⟩ : Log).push u.context }

/-- What setting logging up does, with what comes of it.  The handlers of an earlier setup are gone
in any case. -/
inductive SetsUp (u : Setup) (s : Session) : Except SetupFault Unit × Session → Prop
  /-- The name of the level stands for none. -/
  | unknown {why : Log.LevelFault} (hl : Log.thresholdOf u.level = .error why) :
    SetsUp u s (.error (.level why), { s with log := { s.log with handlers := [] } })
  /-- No file is named. -/
  | unnamed {threshold : Int} (hl : Log.thresholdOf u.level = .ok threshold)
      (hu : u.file = none ∨ u.file = some "") :
    SetsUp u s (.ok (), s.logging u threshold [consoleHandler u s])
  /-- A file is named, and it is opened. -/
  | opened {threshold : Int} {path : String} {id : Nat} {d : Disk}
      (hl : Log.thresholdOf u.level = .ok threshold) (hu : u.file = some path) (hne : path ≠ "")
      (ho : openFile path s.disk = (.ok id, d)) :
    SetsUp u s (.ok (),
      ({ s with disk := d } : Session).logging u threshold [consoleHandler u s, fileHandler u id])
  /-- A file is named that cannot be opened. -/
  | refused {threshold : Int} {path : String} {why : Disk.Fault} {d : Disk}
      (hl : Log.thresholdOf u.level = .ok threshold) (hu : u.file = some path) (hne : path ≠ "")
      (ho : openFile path s.disk = (.error why, d)) :
    SetsUp u s (.error (.file why), { s with disk := d, log := ⟨threshold, [], s.log.context⟩ })

theorem setUp_of_error {u : Setup} {why : Log.LevelFault}
    (hl : Log.thresholdOf u.level = .error why) (s : Session) :
    setUp u s = (.error (.level why), { s with log := { s.log with handlers := [] } }) := by
  rw [setUp, run_bind, run_setLog]
  simp only [hl]
  rfl

/-- Once the level is known, setting up is a matter of the handlers. -/
theorem setUp_of_ok {u : Setup} {threshold : Int} (hl : Log.thresholdOf u.level = .ok threshold)
    (s : Session) :
    setUp u s = match handlersFor u { s with log := ⟨threshold, [], s.log.context⟩ } with
      | (.ok handlers, s') =>
        (.ok (), { s' with log := ({ s'.log with handlers } : Log).push u.context })
      | (.error f, s') => (.error f, s') := by
  rw [setUp, run_bind, run_setLog]
  simp only [hl]
  rw [run_bind, run_setLog]
  simp only
  rw [run_bind]
  rcases handlersFor u _ with ⟨_ | handlers, s'⟩ <;> rfl

theorem handlersFor_unnamed {u : Setup} (hu : u.file = none ∨ u.file = some "") (s : Session) :
    handlersFor u s = (.ok [consoleHandler u s], s) := by
  rcases hu with hu | hu <;> simp only [handlersFor, hu] <;> rfl

theorem handlersFor_named {u : Setup} {path : String} (hu : u.file = some path) (hne : path ≠ "")
    (s : Session) :
    handlersFor u s = match openFile path s.disk with
      | (.ok id, d) => (.ok [consoleHandler u s, fileHandler u id], { s with disk := d })
      | (.error why, d) => (.error (.file why), { s with disk := d }) := by
  rw [handlersFor, run_bind, run_get]
  simp only [hu]
  rw [run_bind, run_adapt, run_onDisk]
  rcases openFile path s.disk with ⟨_ | id, d⟩ <;> rfl

/-- Setting logging up does one of four things. -/
theorem setsUp_setUp (u : Setup) (s : Session) : SetsUp u s (setUp u s) := by
  rcases hl : Log.thresholdOf u.level with why | threshold
  · rw [setUp_of_error hl]
    exact .unknown hl
  rw [setUp_of_ok hl]
  by_cases hu : u.file = none ∨ u.file = some ""
  · rw [handlersFor_unnamed hu]
    exact .unnamed hl hu
  · obtain ⟨path, hpath, hne⟩ : ∃ path, u.file = some path ∧ path ≠ "" := by
      rcases hf : u.file with _ | path <;> simp_all
    rw [handlersFor_named hpath hne]
    rcases ho : openFile path s.disk with ⟨why | id, d⟩
    · exact .refused hl hpath hne ho
    · exact .opened hl hpath hne ho

/-- With the name of a level, setting logging up fails at the file alone. -/
theorem setUp_eq_error_iff {u : Setup} {l : Level} (hl : u.level = l.name) (s : Session)
    (f : SetupFault) :
    (setUp u s).1 = .error f ↔ ∃ path why, u.file = some path ∧ path ≠ "" ∧
      (openFile path s.disk).1 = .error why ∧ f = .file why := by
  have h := setsUp_setUp u s
  have known := Log.thresholdOf_name l
  generalize setUp u s = r at h
  cases h with
  | unknown hunknown =>
      rw [hl, known] at hunknown
      cases hunknown
  | unnamed _ hu => rcases hu with hu | hu <;> simp [hu]
  | opened _ hu hne ho => simp [hu, ho]
  | refused _ hu hne ho => simp [hu, hne, ho, eq_comm]

end Session

end Postprocessor
