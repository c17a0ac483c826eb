import Postprocessor.Command.Run
import Postprocessor.Proofs.Session

/-!
# Proofs — outcomes of runs

A run ends with a code, or it breaks off because the file for the log cannot be opened: nothing
stands guard over setting logging up.

* `Runs`, `runs_run`: what a run does, from the configuration to the code.
* `Breaks`: where post-processing fails: at the trace, at the dump, at an event, or at the files.
* `run_outcomes`: when a run breaks off, when it ends with the code of failure, and when it goes
  well.
-/

namespace Postprocessor.Command
open Step

/-! ### The parts of a run -/

/-- The session after a notice was logged. -/
def noted (n : Notice) (s : Session) : Session :=
  ((notify n : Session.Step Session.SetupFault Unit) s).2

theorem run_notify {ε : Type} (n : Notice) (s : Session) :
    (notify n : Session.Step ε Unit) s = (.ok (), noted n s) := rfl

theorem run_inform {ε : Type} (message : String) (s : Session) :
    (inform message : Session.Step ε Unit) s = (.ok (), noted ⟨.info, .command, message⟩ s) := rfl

theorem run_onDisk {α : Type} (step : Disk.Step α) (s : Session) :
    onDisk step s
      = ((step s.disk).1.mapError .disk, { s with disk := (step s.disk).2 }) := rfl

theorem onDisk_of_ok {α : Type} {step : Disk.Step α} {s : Session} {x : α} {d : Disk}
    (h : step s.disk = (.ok x, d)) : onDisk step s = (.ok x, { s with disk := d }) := by
  rw [run_onDisk, h]
  rfl

theorem onDisk_of_error {α : Type} {step : Disk.Step α} {s : Session} {e : Disk.Fault} {d : Disk}
    (h : step s.disk = (.error e, d)) :
    onDisk step s = (.error (.disk e), { s with disk := d }) := by
  rw [run_onDisk, h]
  rfl

/-- The records of a text. -/
def recordsOf (text : List Char) : List Trace.Record := (Trace.records (String.ofList text)).toList

theorem readRecords_of_ok {a : Arguments} {s : Session} {text : List Char} {d : Disk}
    (h : Disk.readText (Path.ofText a.trace) s.disk = (.ok text, d)) :
    readRecords a s = (.ok (recordsOf text),
      noted ⟨.info, .command,
          s!"Parsed {(recordsOf text).length} events from {(Path.ofText a.trace).text}"⟩
        (noted (Trace.notice (recordsOf text)) { s with disk := d })) := by
  rw [readRecords, bind_of_ok (onDisk_of_ok h), bind_of_ok (run_notify _ _),
    bind_of_ok (run_inform _ _)]
  rfl

theorem readRecords_of_error {a : Arguments} {s : Session} {e : Disk.Fault} {d : Disk}
    (h : Disk.readText (Path.ofText a.trace) s.disk = (.error e, d)) :
    readRecords a s = (.error (.disk e), { s with disk := d }) := by
  rw [readRecords, bind_of_error (onDisk_of_error h)]

/-- The value that is dumped for records. -/
def dumped (records : List Trace.Record) : Value := .list (records.map fun r => .ofFields r.fields)

theorem dump_of_none {a : Arguments} (ha : a.dumpEvents = none) (records : List Trace.Record)
    (s : Session) : dump a records s = (.ok (), s) := by
  rw [dump, ha]
  rfl

theorem dump_of_ok {a : Arguments} {path : String} (ha : a.dumpEvents = some path)
    {records : List Trace.Record} {s : Session} {d : Disk}
    (h : Disk.storeJson (Path.ofText path) (dumped records) s.disk = (.ok (), d)) :
    dump a records s
      = (.ok (), noted ⟨.info, .command, "Event dump written to " ++ path⟩
          { s with disk := d }) := by
  rw [dump, ha]
  exact bind_of_ok (onDisk_of_ok h) _

theorem dump_of_error {a : Arguments} {path : String} (ha : a.dumpEvents = some path)
    {records : List Trace.Record} {s : Session} {e : Disk.Fault} {d : Disk}
    (h : Disk.storeJson (Path.ofText path) (dumped records) s.disk = (.error e, d)) :
    dump a records s = (.error (.disk e), { s with disk := d }) := by
  rw [dump, ha]
  exact bind_of_error (onDisk_of_error h) _

theorem run_forM_notify {ε : Type} (notices : List Notice) (s : Session) :
    (notices.forM notify : Session.Step ε Unit) s
      = (.ok (), notices.foldl (fun s n => noted n s) s) := by
  induction notices generalizing s with
  | nil => rfl
  | cons n notices ih =>
      change (notify n >>= fun _ => notices.forM notify) s = _
      rw [bind_of_ok (run_notify n s)]
      exact ih (noted n s)

/-- The notices of the program are logged before its failure counts. -/
theorem produceFrom_eq (c : Config) (records : List Trace.Record) (s : Session) :
    produceFrom c records s
      = ((postProcess c records).1.mapError .program,
        (postProcess c records).2.notices.foldl (fun s n => noted n s) s) := by
  rw [produceFrom]
  rcases postProcess c records with ⟨_ | files, program⟩
  all_goals
    simp only
    rw [bind_of_ok (run_forM_notify _ _)]
    rfl

/-! ### Runs -/

/-- The session in which the trace is post-processed: the context names the trace. -/
def underway (a : Arguments) (s : Session) : Session :=
  { s with log := s.log.push [("trace", .text (Path.ofText a.trace).name)] }

/-- The session after that: the context does not name the trace any more. -/
def settled (s : Session) : Session := { s with log := s.log.pop (some ["trace"]) }

/-- The session after a fault was reported. -/
def withReport (e : Fault) (s : Session) : Session :=
  ((reportFault e : Session.Step Session.SetupFault Unit) s).2

/-- What a run does, with what comes of it. -/
inductive Runs (a : Arguments) (s : Session) : Except Session.SetupFault Nat × Session → Prop
  /-- There is no configuration. -/
  | unloaded {e : Config.LoadFault} (hc : configFor s.disk a = .error e) :
    Runs a s (.ok failed,
      { s with console := s.console ++ ("Error loading config: " ++ e.message) ++ "\n" })
  /-- Logging cannot be set up. -/
  | unlogged {c : Config} {f : Session.SetupFault} {s' : Session} (hc : configFor s.disk a = .ok c)
      (hu : Session.setUp (setupFor a c) s = (.error f, s')) : Runs a s (.error f, s')
  /-- Post-processing fails, which is reported. -/
  | broken {c : Config} {s₁ s₂ : Session} {e : Fault} (hc : configFor s.disk a = .ok c)
      (hu : Session.setUp (setupFor a c) s = (.ok (), s₁))
      (hp : post a c (underway a s₁) = (.error e, s₂)) :
    Runs a s (.ok failed, settled (withReport e s₂))
  /-- Post-processing goes well. -/
  | done {c : Config} {s₁ s₂ : Session} (hc : configFor s.disk a = .ok c)
      (hu : Session.setUp (setupFor a c) s = (.ok (), s₁))
      (hp : post a c (underway a s₁) = (.ok (), s₂)) : Runs a s (.ok wentWell, settled s₂)

theorem attempt_of_ok {a : Arguments} {c : Config} {s s' : Session}
    (h : post a c s = (.ok (), s')) :
    (attempt a c : Session.Step Session.SetupFault Nat) s = (.ok wentWell, s') := by
  delta attempt
  generalize post a c s = outcome at h
  subst h
  rfl

theorem attempt_of_error {a : Arguments} {c : Config} {s s' : Session} {e : Fault}
    (h : post a c s = (.error e, s')) :
    (attempt a c : Session.Step Session.SetupFault Nat) s = (.ok failed, withReport e s') := by
  delta attempt
  generalize post a c s = outcome at h
  subst h
  rfl

/-- What a run does is one of four things. -/
theorem runs_run (a : Arguments) (s : Session) : Runs a s (run a s) := by
  rw [run, bind_of_ok (run_get s)]
  rcases hc : configFor s.disk a with e | c
  · exact .unloaded hc
  simp only [runWith]
  rcases hu : Session.setUp (setupFor a c) s with ⟨f | _, s₁⟩
  · rw [bind_of_error hu]
    exact .unlogged hc hu
  rw [bind_of_ok hu, bind_of_ok (Session.run_setLog _ s₁)]
  change Runs a s ((attempt a c >>= _) (underway a s₁))
  rcases hp : post a c (underway a s₁) with ⟨e | _, s₂⟩
  · rw [bind_of_ok (attempt_of_error hp), bind_of_ok (Session.run_setLog _ _)]
    exact .broken hc hu hp
  · rw [bind_of_ok (attempt_of_ok hp), bind_of_ok (Session.run_setLog _ _)]
    exact .done hc hu hp

/-! ### Failures -/

/-- Where post-processing in a session fails. -/
inductive Breaks (a : Arguments) (c : Config) (s : Session) : Prop
  /-- The trace cannot be read. -/
  | reading {e : Disk.Fault} (h : (Disk.readText (Path.ofText a.trace) s.disk).1 = .error e) :
    Breaks a c s
  /-- The dump of the events cannot be written. -/
  | dumping {records : List Trace.Record} {s₁ : Session} {path : String} {e : Disk.Fault}
      (hr : readRecords a s = (.ok records, s₁)) (ha : a.dumpEvents = some path)
      (h : (Disk.storeJson (Path.ofText path) (dumped records) s₁.disk).1 = .error e) :
    Breaks a c s
  /-- An event or the end of a line fails. -/
  | processing {records : List Trace.Record} {s₁ s₂ : Session} {e : Failure}
      (hr : readRecords a s = (.ok records, s₁)) (hd : dump a records s₁ = (.ok (), s₂))
      (h : (postProcess c records).1 = .error e) : Breaks a c s
  /-- A file cannot be written. -/
  | writing {records : List Trace.Record} {files : List (Value × String)} {s₁ s₂ s₃ : Session}
      {e : Fault} (hr : readRecords a s = (.ok records, s₁))
      (hd : dump a records s₁ = (.ok (), s₂)) (hf : produceFrom c records s₂ = (.ok files, s₃))
      (h : (emit a c files s₃).1 = .error e) : Breaks a c s

theorem readText_of_readRecords {a : Arguments} {s s' : Session} {e : Fault}
    (h : readRecords a s = (.error e, s')) :
    ∃ e, (Disk.readText (Path.ofText a.trace) s.disk).1 = .error e := by
  rcases hd : Disk.readText (Path.ofText a.trace) s.disk with ⟨e' | text, d⟩
  · exact ⟨e', rfl⟩
  · rw [readRecords_of_ok hd] at h
    cases h

theorem storeJson_of_dump {a : Arguments} {records : List Trace.Record} {s s' : Session} {e : Fault}
    (h : dump a records s = (.error e, s')) : ∃ path, a.dumpEvents = some path ∧
      ∃ e, (Disk.storeJson (Path.ofText path) (dumped records) s.disk).1 = .error e := by
  rcases ha : a.dumpEvents with _ | path
  · rw [dump_of_none ha] at h
    cases h
  · rcases hd : Disk.storeJson (Path.ofText path) (dumped records) s.disk with ⟨e' | _, d⟩
    · exact ⟨path, rfl, e', by rw [hd]⟩
    · rw [dump_of_ok ha hd] at h
      cases h

/-- A failure is one of reading, dumping, processing or writing. -/
theorem breaks_of_error {a : Arguments} {c : Config} {s s' : Session} {e : Fault}
    (h : post a c s = (.error e, s')) : Breaks a c s := by
  rcases bind_cases h with ⟨files, s₃, hproduce, hemit⟩ | ⟨e, hproduce, -⟩
  · rcases bind_cases hproduce with ⟨records, s₁, hr, hrest⟩ | ⟨_, -, ⟨⟩⟩
    rcases bind_cases hrest with ⟨⟨⟩, s₂, hd, hf⟩ | ⟨_, -, ⟨⟩⟩
    exact .writing hr hd hf (congrArg Prod.fst hemit)
  · rcases bind_cases hproduce with ⟨records, s₁, hr, hrest⟩ | ⟨_, hr, -⟩
    · rcases bind_cases hrest with ⟨⟨⟩, s₂, hd, hf⟩ | ⟨_, hd, -⟩
      · rw [produceFrom_eq] at hf
        rcases hf' : (postProcess c records).1 with why | files <;> rw [hf'] at hf
        · exact .processing hr hd hf'
        · cases hf
      · obtain ⟨path, ha, _, hs⟩ := storeJson_of_dump hd
        exact .dumping hr ha hs
    · obtain ⟨_, ht⟩ := readText_of_readRecords hr
      exact .reading ht

theorem Breaks.post_eq_error {a : Arguments} {c : Config} {s : Session} (h : Breaks a c s) :
    ∃ e s', post a c s = (.error e, s') := by
  cases h with
  | reading h =>
      have hd := eq_mk_of_fst h
      exact ⟨_, _, bind_of_error (bind_of_error (readRecords_of_error hd) _) _⟩
  | dumping hr ha h =>
      have hd := dump_of_error ha (eq_mk_of_fst h)
      exact ⟨_, _, bind_of_error ((bind_of_ok hr _).trans (bind_of_error hd _)) _⟩
  | @processing records _ s₂ e hr hd h =>
      have hf : (produceFrom c records s₂).1 = .error (.program e) := by
        rw [produceFrom_eq, h]
        rfl
      have hf := eq_mk_of_fst hf
      exact ⟨_, _, bind_of_error ((bind_of_ok hr _).trans ((bind_of_ok hd _).trans hf)) _⟩
  | writing hr hd hf h =>
      have he := eq_mk_of_fst h
      exact ⟨_, _, (bind_of_ok ((bind_of_ok hr _).trans ((bind_of_ok hd _).trans hf)) _).trans he⟩

theorem not_breaks_of_ok {a : Arguments} {c : Config} {s s' : Session}
    (h : post a c s = (.ok (), s')) : ¬ Breaks a c s := by
  intro hb
  obtain ⟨_, _, he⟩ := hb.post_eq_error
  rw [h] at he
  cases he

/-! ### Outcomes -/

theorem run_eq_error_iff (a : Arguments) (s : Session) (f : Session.SetupFault) :
    (run a s).1 = .error f ↔
      ∃ c, configFor s.disk a = .ok c ∧ (Session.setUp (setupFor a c) s).1 = .error f := by
  have h := runs_run a s
  generalize run a s = r at h
  cases h with
  | unloaded hc => simp [hc]
  | unlogged hc hu => simp [hc, hu]
  | broken hc hu hp => simp [hc, hu]
  | done hc hu hp => simp [hc, hu]

theorem run_eq_failed_iff (a : Arguments) (s : Session) :
    (run a s).1 = .ok failed ↔ (∃ e, configFor s.disk a = .error e) ∨
      ∃ c s', configFor s.disk a = .ok c ∧ Session.setUp (setupFor a c) s = (.ok (), s') ∧
        Breaks a c (underway a s') := by
  have h := runs_run a s
  generalize run a s = r at h
  cases h with
  | unloaded hc => simp [hc]
  | unlogged hc hu => simp [hc, run_eq_iff hu]
  | broken hc hu hp => simp [hc, run_eq_iff hu, breaks_of_error hp]
  | done hc hu hp => simp [hc, run_eq_iff hu, not_breaks_of_ok hp]

theorem run_eq_wentWell_iff (a : Arguments) (s : Session) :
    (run a s).1 = .ok wentWell ↔
      ∃ c s', configFor s.disk a = .ok c ∧ Session.setUp (setupFor a c) s = (.ok (), s') ∧
        ¬ Breaks a c (underway a s') := by
  have h := runs_run a s
  generalize run a s = r at h
  cases h with
  | unloaded hc => simp [hc]
  | unlogged hc hu => simp [hc, run_eq_iff hu]
  | broken hc hu hp => simp [hc, run_eq_iff hu, breaks_of_error hp]
  | done hc hu hp => simp [hc, run_eq_iff hu, not_breaks_of_ok hp]

theorem code_of_run (a : Arguments) (s : Session) (code : Nat) (h : (run a s).1 = .ok code) :
    code = wentWell ∨ code = failed := by
  have hr := runs_run a s
  generalize run a s = r at h hr
  cases hr with
  | unloaded => exact .inr (Except.ok.inj h).symm
  | unlogged => cases h
  | broken => exact .inr (Except.ok.inj h).symm
  | done => exact .inl (Except.ok.inj h).symm

/-- A run ends with one of two codes, or it breaks off, and it breaks off exactly when the file for
the log cannot be opened: nothing stands guard over setting logging up.  The code of failure means
that there is no configuration, or that reading, dumping, processing or writing fails. -/
theorem run_outcomes (a : Arguments) (s : Session) :
    (∀ f, (run a s).1 = .error f ↔ ∃ c, configFor s.disk a = .ok c ∧
      ∃ path why, a.logFile = some path ∧ path ≠ "" ∧
        (Session.openFile path s.disk).1 = .error why ∧ f = .file why) ∧
    ((run a s).1 = .ok failed ↔ (∃ e, configFor s.disk a = .error e) ∨
      ∃ c s', configFor s.disk a = .ok c ∧ Session.setUp (setupFor a c) s = (.ok (), s') ∧
        Breaks a c (underway a s')) ∧
    ((run a s).1 = .ok wentWell ↔
      ∃ c s', configFor s.disk a = .ok c ∧ Session.setUp (setupFor a c) s = (.ok (), s') ∧
        ¬ Breaks a c (underway a s')) ∧
    ∀ code, (run a s).1 = .ok code → code = wentWell ∨ code = failed := by
  refine ⟨fun f => (run_eq_error_iff a s f).trans ?_, run_eq_failed_iff a s,
    run_eq_wentWell_iff a s, code_of_run a s⟩
  refine exists_congr fun c => and_congr_right fun _ => ?_
  exact Session.setUp_eq_error_iff (l := a.logLevel.getD c.logging.level) rfl s f

/-- A log below the trace, which is a file. -/
theorem run_logBelowTrace :
    (run { trace := "t", logFile := some "t/x", dryRun := true }
      (.start ⟨[(["t"], .file 0 (Text.Utf8.encode "(0)@absolute_mode".toList))], 1⟩ false ⟨0⟩)).1
      = .error (.file (.refused .exists "t" none)) := by
  rfl

end Postprocessor.Command
