import Postprocessor.Proofs.Command.Outcome
import Postprocessor.Proofs.Program.PostProcessing
import Postprocessor.Proofs.Session.Keeping

/-!
# Proofs — what a run writes

A run writes its program as a whole or not at all, as long as the log and the dump are kept apart
from it.

* `Arguments.IsApart`: neither the log nor the dump stands at a place.
* `keeps_readRecords`, `keeps_dump`, `keeps_produceFrom`: the parts of a run before the program is
  written leave its place alone.
* `all_or_nothing`: what is at the place of the program after a run.
-/

namespace Postprocessor.Command
open Step Session

/-! ### Paths of a run -/

namespace Arguments

/-- The path of the file for the log, if there is to be one. -/
def logPath? (a : Arguments) : Option Path := (a.logFile.filter (· ≠ "")).map Path.ofText

/-- The path of the program. -/
def programPath (a : Arguments) (c : Config) : Path :=
  pathOf c (Path.ofText (a.outputDir.text?.getD ".")) c.files.main

/-- Where the file for the log stands when the program is written: the dump may have carried it
along, or ended it. -/
def logPlace? (a : Arguments) : Option Place :=
  match a.dumpEvents with
  | none => a.logPath?.map Path.place
  | some path => Disk.movedBy (Path.ofText path) (a.logPath?.map Path.place)

/-- Neither the log nor the dump stands at a place, nor does the file beside the dump. -/
structure IsApart (a : Arguments) (P : Place) : Prop where
  log : ∀ p ∈ a.logPath?, p.place ≠ P
  dump : ∀ path ∈ a.dumpEvents,
    (Path.ofText path).place ≠ P ∧ (Path.ofText path).temporary.place ≠ P

end Arguments

/-- A text is the program for a trace of certain bytes. -/
def IsProgram (c : Config) (bytes : List UInt8) (program : String) : Prop :=
  ∃ text, Text.Utf8.decode bytes = .ok text ∧
    (postProcess c (recordsOf (Text.unifyBreaks text))).1 = .ok [(.text c.files.main, program)]

/-! ### The parts of a run -/

variable {P : Place} {B : Option (List UInt8)} {O : String} {L : Option Place} {s s' : Session}
  {a : Arguments} {c : Config} {records : List Trace.Record}

theorem keeps_readRecords {r : Except Fault (List Trace.Record)} (h : Keeps P B O L s)
    (hr : readRecords a s = (r, s')) : Keeps P B O L s' ∧ ∀ records, r = .ok records →
      ∃ bytes text, s.disk.bytes? (Path.ofText a.trace).place = some bytes ∧
        Text.Utf8.decode bytes = .ok text ∧ records = recordsOf (Text.unifyBreaks text) := by
  rcases Disk.readText_cases (Path.ofText a.trace) s.disk with ⟨e, he⟩ | ⟨bytes, text, hb, ht, ho⟩
  · rw [readRecords_of_error he] at hr
    cases hr
    exact ⟨h, nofun⟩
  · rw [readRecords_of_ok ho] at hr
    cases hr
    refine ⟨(Keeps.report (s := { s with disk := s.disk }) h _).report _, ?_⟩
    rintro _ ⟨⟩
    exact ⟨bytes, text, hb, ht, rfl⟩

/-- The dump leaves the place alone, and may carry the log along. -/
theorem keeps_dump {r : Except Fault Unit} (h : Keeps P B O (a.logPath?.map Path.place) s)
    (ha : a.IsApart P) (hr : dump a records s = (r, s')) :
    ∃ L, Keeps P B O L s' ∧ (r = .ok () → L = a.logPlace?) := by
  rcases hd : a.dumpEvents with _ | path
  · rw [dump_of_none hd] at hr
    cases hr
    exact ⟨_, h, fun _ => by rw [Arguments.logPlace?, hd]⟩
  obtain ⟨hplace, hbeside⟩ := ha.dump path hd
  obtain ⟨bytes, hs⟩ := Disk.stores_storeJson (Path.ofText path) (dumped records) s.disk
  rcases ho : Disk.storeJson (Path.ofText path) (dumped records) s.disk with ⟨e | _, d⟩
  all_goals rw [ho] at hs
  · rw [dump_of_error hd ho] at hr
    cases hr
    exact ⟨_, h.failed hs hbeside, nofun⟩
  · rw [dump_of_ok hd ho] at hr
    cases hr
    have hstored := h.stored hs hbeside fun hP => absurd hP hplace
    rw [if_neg hplace] at hstored
    exact ⟨_, hstored.report _, fun _ => by rw [Arguments.logPlace?, hd]⟩

theorem keeps_produceFrom (h : Keeps P B O L s) : Keeps P B O L (produceFrom c records s).2 := by
  rw [produceFrom_eq]
  dsimp only
  generalize (postProcess c records).2.notices = notices
  induction notices generalizing s with
  | nil => exact h
  | cons n notices ih => exact ih (h.report _)

/-! ### The program -/

theorem emit_dryRun (ha : a.dryRun = true) (name text : String) (s : Session) :
    emit a c [(.text name, text)] s =
      (.ok (), { s with output := s.output ++ "--- " ++ name ++ " ---\n" ++ text ++ "\n" }) := by
  have hname : Program.nameShown (.text name) = name := rfl
  have hline : s.output ++ ("--- " ++ name ++ " ---") ++ "\n"
      = s.output ++ "--- " ++ name ++ " ---\n" := by
    simp [String.append_assoc]
  rw [emit, if_pos ha, ← hline, ← hname]
  rfl

/-- The folder that is given is the one of the path of the program. -/
theorem folder_eq {folder : Path} (h : pathGiven a.outputDir = .ok folder) :
    Path.ofText (a.outputDir.text?.getD ".") = folder := by
  cases hg : a.outputDir with
  | nothing => simp [hg, pathGiven] at h
  | text value =>
      rw [hg] at h
      cases h
      rw [Given.text?]
      split
      · next hempty =>
        obtain rfl : value = "" := by simpa using hempty
        rfl
      · rfl

/-- Writing the program leaves its place alone if it fails, and else the program stands there, if
the log does not stand beside it. -/
theorem keeps_writeFile {r : Except Fault Unit} {folder p : Path} {name text : String}
    (hp : pathOf c folder name = p) (h : Keeps p.place B O L s)
    (hr : writeFile c folder (.text name, text) s = (r, s')) :
    (∀ e, r = .error e → Keeps p.place B O L s') ∧
      (r = .ok () → L ≠ some p.temporary.place →
        s'.disk.bytes? p.place = some (Text.Utf8.encode (text ++ "\n").toList)) := by
  have hs : Disk.Stores p _ s.disk (Disk.storeText p (text ++ "\n") s.disk) :=
    Disk.stores_store p _ s.disk
  have hname : pathOf c folder (Program.nameShown (.text name)) = p := hp
  rw [writeFile] at hr
  dsimp only at hr
  rw [hname] at hr
  rcases ho : Disk.storeText p (text ++ "\n") s.disk with ⟨e | _, d⟩ <;> rw [ho] at hs
  · rw [bind_of_error (onDisk_of_error ho)] at hr
    cases hr
    exact ⟨fun _ _ => h.failed hs p.temporary_place_ne, nofun⟩
  · rw [bind_of_ok (onDisk_of_ok ho), run_inform] at hr
    cases hr
    refine ⟨nofun, fun _ hL => ?_⟩
    have hstored := h.stored hs p.temporary_place_ne fun _ => hL
    rw [if_pos rfl] at hstored
    exact (hstored.report _).bytes

theorem keeps_emit {r : Except Fault Unit} {text : String} (ha : a.dryRun = false)
    (h : Keeps (a.programPath c).place B O L s)
    (hr : emit a c [(.text c.files.main, text)] s = (r, s')) :
    (∀ e, r = .error e → Keeps (a.programPath c).place B O L s') ∧
      (r = .ok () → L ≠ some (a.programPath c).temporary.place →
        s'.disk.bytes? (a.programPath c).place =
          some (Text.Utf8.encode (text ++ "\n").toList)) := by
  rw [emit, if_neg (by simp [ha])] at hr
  rcases hg : pathGiven a.outputDir with e | folder <;> rw [hg] at hr
  · rw [bind_of_error (onDisk_of_error (Disk.run_lift _ _))] at hr
    cases hr
    exact ⟨fun _ _ => h, nofun⟩
  rw [bind_of_ok (onDisk_of_ok (Disk.run_lift _ _))] at hr
  have hf := Disk.foldersMade_ensureFolder folder s.disk
  rcases he : Disk.ensureFolder folder s.disk with ⟨e | _, d⟩ <;> rw [he] at hf
  · rw [bind_of_error (onDisk_of_error he)] at hr
    cases hr
    exact ⟨fun _ _ => h.foldersMade hf, nofun⟩
  rw [bind_of_ok (onDisk_of_ok he), List.forM_eq_forM, List.forM_cons, List.forM_nil,
    bind_pure] at hr
  have hp : pathOf c folder c.files.main = a.programPath c := by
    rw [Arguments.programPath, folder_eq hg]
  exact keeps_writeFile hp (h.foldersMade hf) hr

/-! ### The whole -/

/-- What is produced is the program alone. -/
theorem isProgram_of_produceFrom {files : List (Value × String)}
    (h : produceFrom c records s = (.ok files, s')) : ∃ program,
      (postProcess c records).1 = .ok [(.text c.files.main, program)] ∧
        files = [(.text c.files.main, program)] := by
  rw [produceFrom_eq, postProcess_eq] at h
  rw [postProcess_eq]
  rcases hp : (Program.processed c records).1 with e | _ <;> rw [hp] at h <;> cases h
  exact ⟨_, rfl, rfl⟩

theorem keeps_produce {r : Except Fault (List (Value × String))}
    (h : Keeps P B O (a.logPath?.map Path.place) s) (ha : a.IsApart P)
    (hr : produce a c s = (r, s')) :
    ∃ L, Keeps P B O L s' ∧ ∀ files, r = .ok files → L = a.logPlace? ∧
      ∃ bytes program, s.disk.bytes? (Path.ofText a.trace).place = some bytes ∧
        IsProgram c bytes program ∧ files = [(.text c.files.main, program)] := by
  rcases bind_cases hr with ⟨records, s₁, hread, hrest⟩ | ⟨e, hread, rfl⟩
  · obtain ⟨h₁, hrecords⟩ := keeps_readRecords h hread
    obtain ⟨bytes, text, hbytes, htext, rfl⟩ := hrecords records rfl
    rcases bind_cases hrest with ⟨⟨⟩, s₂, hdump, hfrom⟩ | ⟨e, hdump, rfl⟩
    · obtain ⟨L, h₂, hL⟩ := keeps_dump h₁ ha hdump
      have h₃ : Keeps P B O L (produceFrom c (recordsOf (Text.unifyBreaks text)) s₂).2 :=
        keeps_produceFrom h₂
      rw [hfrom] at h₃
      refine ⟨L, h₃, fun files hfiles => ⟨hL rfl, bytes, ?_⟩⟩
      obtain ⟨program, hprogram, rfl⟩ := isProgram_of_produceFrom (hfiles ▸ hfrom)
      exact ⟨program, hbytes, ⟨text, htext, hprogram⟩, rfl⟩
    · obtain ⟨L, h₂, -⟩ := keeps_dump h₁ ha hdump
      exact ⟨L, h₂, nofun⟩
  · exact ⟨_, (keeps_readRecords h hread).1, nofun⟩

theorem keeps_post {r : Except Fault Unit}
    (h : Keeps (a.programPath c).place B O (a.logPath?.map Path.place) s)
    (ha : a.IsApart (a.programPath c).place) (hr : post a c s = (r, s')) :
    (∀ e, r = .error e → ∃ L, Keeps (a.programPath c).place B O L s') ∧
      (r = .ok () → ∃ bytes program,
        s.disk.bytes? (Path.ofText a.trace).place = some bytes ∧ IsProgram c bytes program ∧
        (a.dryRun = true → s'.disk.bytes? (a.programPath c).place = B ∧
          s'.output = O ++ "--- " ++ c.files.main ++ " ---\n" ++ program ++ "\n") ∧
        (a.dryRun = false → a.logPlace? ≠ some (a.programPath c).temporary.place →
          s'.disk.bytes? (a.programPath c).place =
            some (Text.Utf8.encode (program ++ "\n").toList))) := by
  rcases bind_cases hr with ⟨files, s₁, hproduce, hemit⟩ | ⟨e, hproduce, rfl⟩
  · obtain ⟨L, h₁, hfiles⟩ := keeps_produce h ha hproduce
    obtain ⟨rfl, bytes, program, hbytes, hprogram, rfl⟩ := hfiles files rfl
    cases hdry : a.dryRun with
    | true =>
        rw [emit_dryRun hdry] at hemit
        cases hemit
        refine ⟨nofun, fun _ => ⟨bytes, program, hbytes, hprogram, fun _ => ⟨h₁.bytes, ?_⟩, nofun⟩⟩
        rw [← h₁.output]
    | false =>
        obtain ⟨hfails, hwritten⟩ := keeps_emit hdry h₁ hemit
        exact ⟨fun e he => ⟨_, hfails e he⟩,
          fun hok => ⟨bytes, program, hbytes, hprogram, nofun, fun _ => hwritten hok⟩⟩
  · obtain ⟨L, h₁, -⟩ := keeps_produce h ha hproduce
    exact ⟨fun _ _ => ⟨L, h₁⟩, nofun⟩

theorem Arguments.IsApart.log_ne (h : a.IsApart P) : some P ≠ a.logPath?.map Path.place := by
  intro hp
  obtain ⟨p, hpath, hplace⟩ := Option.map_eq_some_iff.mp hp.symm
  exact h.log p hpath hplace

/-- What logging does before the trace is read. -/
theorem bytes?_underway {r : Except SetupFault Unit} (hu : setUp (setupFor a c) s = (r, s'))
    (q : Place) : s'.disk.bytes? q = s.disk.bytes? q ∨
      a.logPath?.map Path.place = some q ∧ s.disk.bytes? q = none ∧ s'.disk.bytes? q = some [] :=
  bytes?_setUp hu q

theorem keeps_underway (hd : s.disk.IsSound) (ha : a.IsApart P)
    (hu : setUp (setupFor a c) s = (.ok (), s')) :
    Keeps P (s.disk.bytes? P) s.output (a.logPath?.map Path.place) (underway a s') :=
  have h := keeps_setUp hd ha.log_ne hu
  ⟨h.bytes, h.output, h.apart, h.logs⟩

/-- The bytes that a run reads for the trace: those that stand there, or none if the trace is not
there and is the file for the log, which is made before. -/
def ReadsTrace (a : Arguments) (d : Disk) (bytes : List UInt8) : Prop :=
  d.bytes? (Path.ofText a.trace).place = some bytes ∨
    a.logPath?.map Path.place = some (Path.ofText a.trace).place ∧
      d.bytes? (Path.ofText a.trace).place = none ∧ bytes = []

/-- **All or nothing.**  Where neither the log nor the dump stands at the place of the program, a
run that does not go well leaves what is there as it is.  A run that goes well leaves there the
program for the trace with a line feed, or it prints the program and leaves the place as it is.
When the program is written, the log must not stand beside its place either. -/
theorem all_or_nothing (a : Arguments) (s : Session) (hd : s.disk.IsSound) :
    (∀ e, configFor s.disk a = .error e →
      (run a s).1 = .ok failed ∧ (run a s).2.disk = s.disk) ∧
    ∀ c, configFor s.disk a = .ok c → a.IsApart (a.programPath c).place →
      ((run a s).1 ≠ .ok wentWell → (run a s).2.disk.bytes? (a.programPath c).place =
        s.disk.bytes? (a.programPath c).place) ∧
      ((run a s).1 = .ok wentWell → ∃ bytes program,
        ReadsTrace a s.disk bytes ∧ IsProgram c bytes program ∧
        (a.dryRun = true → (run a s).2.disk.bytes? (a.programPath c).place =
            s.disk.bytes? (a.programPath c).place ∧
          (run a s).2.output =
            s.output ++ "--- " ++ c.files.main ++ " ---\n" ++ program ++ "\n") ∧
        (a.dryRun = false → a.logPlace? ≠ some (a.programPath c).temporary.place →
          (run a s).2.disk.bytes? (a.programPath c).place =
            some (Text.Utf8.encode (program ++ "\n").toList))) := by
  refine ⟨fun e he => ?_, fun c hc ha => ?_⟩
  · have h := runs_run a s
    generalize run a s = r at h
    cases h with
    | unloaded => exact ⟨rfl, rfl⟩
    | unlogged hc | broken hc | done hc =>
        rw [he] at hc
        cases hc
  have h := runs_run a s
  generalize run a s = r at h
  cases h with
  | unloaded he =>
      rw [hc] at he
      cases he
  | unlogged hc' hu =>
      obtain rfl := Except.ok.inj (hc.symm.trans hc')
      -- at most, the file for the log is made, which stands elsewhere
      have hkept := (bytes?_underway hu _).resolve_right fun hmade => ha.log_ne hmade.1.symm
      exact ⟨fun _ => hkept, nofun⟩
  | @broken _ _ s₂ e hc' hu hp =>
      obtain rfl := Except.ok.inj (hc.symm.trans hc')
      obtain ⟨L, h⟩ := (keeps_post (keeps_underway hd ha hu) ha hp).1 e rfl
      have reported : Keeps _ _ _ _ (withReport e s₂) := h.report _
      exact ⟨fun _ => reported.bytes, nofun⟩
  | done hc' hu hp =>
      obtain rfl := Except.ok.inj (hc.symm.trans hc')
      obtain ⟨bytes, program, hbytes, hprogram⟩ :=
        (keeps_post (keeps_underway hd ha hu) ha hp).2 rfl
      refine ⟨fun hne => absurd rfl hne, fun _ => ⟨bytes, program, ?_, hprogram⟩⟩
      -- the trace is read when logging is set up, so it may be the file that was made for the log
      rcases bytes?_underway hu (Path.ofText a.trace).place with hsame | ⟨hlog, hnone, hempty⟩
      · exact .inl (hsame.symm.trans hbytes)
      · exact .inr ⟨hlog, hnone, Option.some.inj (hbytes.symm.trans hempty)⟩

/-- A folder with a trace of one event. -/
def tracedDisk : Disk :=
  (Disk.writeBytes (Path.ofText "t") (Text.Utf8.encode "(0)@absolute_mode".toList) .empty).2

/-- A run with a log and a dump beside the program. -/
def loggedRun : Arguments :=
  { trace := "t", logFile := some "main.log", dumpEvents := some "main.json" }

theorem all_or_nothing_logged :
    tracedDisk.IsSound ∧ configFor tracedDisk loggedRun = .ok {} ∧
      loggedRun.IsApart (loggedRun.programPath {}).place ∧
      ∃ bytes program, ReadsTrace loggedRun tracedDisk bytes ∧ IsProgram {} bytes program ∧
        (run loggedRun (.start tracedDisk false ⟨0⟩)).2.disk.bytes? ["main.MPF"] =
          some (Text.Utf8.encode (program ++ "\n").toList) := by
  have sound : tracedDisk.IsSound := Disk.isSound_empty.writeBytes _ _
  have apart : loggedRun.IsApart (loggedRun.programPath {}).place := ⟨by decide, by decide⟩
  have code : (run loggedRun (.start tracedDisk false ⟨0⟩)).1 = .ok wentWell :=
    eq_ok_of_toOption (by decide +kernel)
  obtain ⟨bytes, program, reads, isProgram, -, written⟩ :=
    ((all_or_nothing loggedRun (.start tracedDisk false ⟨0⟩) sound).2 {} rfl apart).2 code
  exact ⟨sound, rfl, apart, bytes, program, reads, isProgram, written rfl (by decide)⟩

/-- A log that stands beside the place of the program is moved there, and the last record is added
to the program. -/
theorem written_logBeside :
    let a : Arguments := { trace := "t", logFile := some "main.MPF.tmp" }
    let outcome := run a (.start tracedDisk false ⟨1700000000500000⟩)
    configFor tracedDisk a = .ok {} ∧ a.IsApart (a.programPath {}).place ∧
      outcome.1 = .ok wentWell ∧
      IsProgram {} (Text.Utf8.encode "(0)@absolute_mode".toList) "N10 G90" ∧
      outcome.2.disk.bytes? (a.programPath {}).place = some (Text.Utf8.encode ("N10 G90\n" ++
        "2023-11-14T22:13:20.500Z | INFO     | app=run_post trace=t | " ++
        "Wrote main.MPF\n").toList) := by
  intro a outcome
  have program : IsProgram {} (Text.Utf8.encode "(0)@absolute_mode".toList) "N10 G90" := by
    refine ⟨"(0)@absolute_mode".toList, rfl, ?_⟩
    obtain ⟨processed, text⟩ : (Program.processed {}
          (recordsOf (Text.unifyBreaks "(0)@absolute_mode".toList))).1.toOption = some () ∧
        (Program.processed {}
          (recordsOf (Text.unifyBreaks "(0)@absolute_mode".toList))).2.writer.files.main.text =
            "N10 G90" := by
      rw [String.toList_ofList]
      decide +kernel
    rw [postProcess_eq, eq_ok_of_toOption processed, text]
    rfl
  -- the exit code and the bytes come of one evaluation of the run
  refine ⟨rfl, ⟨by decide, by decide⟩, and_left_comm.mp ⟨program, .imp_left eq_ok_of_toOption ?_⟩⟩
  rw [String.toList_append, String.toList_append, String.toList_ofList, String.toList_ofList,
    String.toList_ofList]
  simp only [outcome, tracedDisk]
  rw [String.toList_ofList]
  decide +kernel

end Postprocessor.Command
