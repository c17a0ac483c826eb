import Postprocessor.Proofs.Program.Grouping

/-!
# Proofs — the generation of texts

Texts can be generated at any time and any number of times: the lines of all files are ended the
first time, and nothing happens after that.

* `Writer.EndsAs`: a writer with its lines ended, and otherwise as it was.
* `Program.Demand`: the text of the main file, or those of all files; `Demand.serve` generates them.
* `serve_eq`: what is generated, and what is left of the program.
* `generation_repeats`: any demands, one after the other.
-/

namespace Postprocessor

/-! ### Ended lines -/

namespace FileSet

variable {s s' : FileSet}

theorem LinesEnded.opened_isSome (h : LinesEnded s s') : s'.opened.isSome = s.opened.isSome := by
  have hr := h.opened
  generalize s.opened = before at hr
  generalize s'.opened = after at hr
  cases hr <;> rfl

theorem LinesEnded.name_current (h : LinesEnded s s') : s'.current.name = s.current.name := by
  have hr := h.opened
  have hmain := h.main.name
  rw [current, current]
  generalize s.opened = before at hr
  generalize s'.opened = after at hr
  cases hr with
  | none => exact hmain
  | some hr => exact hr.name

end FileSet

namespace Writer

/-- The second writer is the first one with the lines of all files ended.  The machine, the files
and their words are the same, and so is the file that is being written. -/
structure EndsAs (w v : Writer) : Prop where
  pending : ∀ f ∈ v.files.files, f.pending = []
  machine : v.machine = w.machine
  names : v.files.files.map ProgramFile.name = w.files.files.map ProgramFile.name
  words : v.files.files.map ProgramFile.words = w.files.files.map ProgramFile.words
  opened : v.files.opened.isSome = w.files.opened.isSome
  current : v.files.current.name = w.files.current.name

variable {w : Writer}

theorem files_after_flushAll (w : Writer) :
    (w.after .flushAll).files = (FileSet.flushAll w.files).2 := files_after w .flushAll

theorem outcome_flushAll (h : w.files.CanEnd) : w.outcome .flushAll = .ok () :=
  (outcome_eq w .flushAll).trans (FileSet.flushAll_of_canEnd h).1

theorem endsAs_flushAll (h : w.files.CanEnd) : w.EndsAs (w.after .flushAll) := by
  have lines := FileSet.flushAll_linesEnded w.files
  rw [← files_after_flushAll] at lines
  exact {
    pending := by
      rw [files_after_flushAll]
      exact (FileSet.flushAll_of_canEnd h).2
    machine := machine_after w .flushAll
    names := lines.map_files FileSet.Flushed.name
    words := lines.map_files FileSet.Flushed.words
    opened := lines.opened_isSome
    current := lines.name_current }

/-- Where no line is open, none is ended. -/
theorem after_flushAll_of_ended (h : ∀ f ∈ w.files.files, f.pending = []) :
    w.after .flushAll = w := by
  have files := (files_after_flushAll w).trans
    (congrArg Prod.snd (FileSet.flushAll_of_ended h))
  have machine : (w.after .flushAll).machine = w.machine := machine_after w .flushAll
  exact congr (congrArg Writer.mk machine) files

end Writer

/-! ### Demands -/

namespace Program

variable {ι : Type}

/-- What texts are to be generated. -/
inductive Demand where
  /-- That of the main file. -/
  | main
  /-- Those of all files. -/
  | all

/-- Texts that were generated. -/
inductive Generated where
  | text (text : String)
  | files (texts : List (Value × String))

namespace Demand

/-- Generates texts. -/
def serve : Demand → Step (Program ι) Generated
  | .main => .text <$> generate
  | .all => .files <$> generateFiles

/-- The texts of a writer without open lines. -/
def read (w : Writer) : Demand → Generated
  | .main => .text w.files.main.text
  | .all => .files w.files.texts

/-- What is reported: with the texts of all files, that a subprogram is still open. -/
def reports (s : FileSet) : Demand → List (Entry ι)
  | .main => []
  | .all =>
    if s.opened.isSome then
      [.notified ⟨.warning, .events,
        "Subprogram " ++ nameShown s.current.name ++ " still open at end of output"⟩]
    else []

theorem reports_congr {w v : Writer} (h : w.EndsAs v) (d : Demand) :
    (d.reports v.files : List (Entry ι)) = d.reports w.files := by
  cases d with
  | main => rfl
  | all => rw [reports, reports, h.opened, h.current]

end Demand

/-- The program after texts were generated: its lines are ended, and a report may have been made. -/
def generated (p : Program ι) (reports : List (Entry ι)) : Program ι :=
  { p with writer := p.writer.after .flushAll, journal := p.journal ++ reports.toArray }

theorem run_flushAll {p : Program ι} (h : p.writer.files.CanEnd) :
    flushAll p = (.ok (), { p with writer := p.writer.after .flushAll }) := by
  rw [flushAll, run_write, Writer.outcome_flushAll h]
  rfl

/-- **What a demand does**: it ends the lines of all files and reads their texts. -/
theorem serve_eq {p : Program ι} (h : p.writer.files.CanEnd) (d : Demand) :
    d.serve p =
      (.ok (d.read (p.writer.after .flushAll)), p.generated (d.reports p.writer.files)) := by
  cases d with
  | main =>
      rw [Demand.serve, map_eq_pure_bind, generate, bind_assoc, Step.bind_of_ok (run_flushAll h)]
      exact congrArg (Prod.mk _) (by simp [generated, Demand.reports])
  | all =>
      rw [Demand.serve, map_eq_pure_bind, generateFiles, bind_assoc,
        Step.bind_of_ok (Step.run_get p), generated, Demand.reports]
      by_cases opened : p.writer.files.opened.isSome = true
      · rw [if_pos opened, if_pos opened, bind_assoc, notify, record,
          Step.bind_of_ok (Step.run_modify _ p), bind_assoc]
        have ended := run_flushAll (p := { p with
          journal := p.journal.push (.notified ⟨.warning, .events,
            "Subprogram " ++ nameShown p.writer.files.current.name
              ++ " still open at end of output"⟩) }) h
        rw [Step.bind_of_ok ended]
        exact congrArg (Prod.mk _) (by simp)
      · simp only [if_neg opened, bind_assoc]
        rw [Step.bind_of_ok (run_flushAll h)]
        exact congrArg (Prod.mk _) (by simp)

/-- Demands on a program without open lines read its texts, each time the same. -/
theorem serve_ended {p : Program ι} (h : ∀ f ∈ p.writer.files.files, f.pending = [])
    (ds : List Demand) :
    ds.mapM Demand.serve p =
      (.ok (ds.map (Demand.read p.writer)),
        { p with journal :=
            p.journal ++ (ds.flatMap (Demand.reports p.writer.files)).toArray }) := by
  induction ds generalizing p with
  | nil => exact congrArg (Prod.mk _) (by simp)
  | cons d ds ih =>
      have served := serve_eq (FileSet.canEnd_of_ended h) d
      rw [generated, Writer.after_flushAll_of_ended h] at served
      have rest := ih (p := { p with
        journal := p.journal ++ (d.reports p.writer.files).toArray }) h
      rw [List.mapM_cons, Step.bind_of_ok served, Step.bind_of_ok rest]
      exact congrArg (Prod.mk _) (by simp)

/-- **Generation repeats.**  Where all lines can be ended, any demands, in any order and from
wherever the program has come, are served with the texts of one writer: that of the program with
its lines ended.  The first of all texts is that of the main file. -/
theorem generation_repeats {p : Program ι} (h : p.writer.files.CanEnd) :
    ∃ w, p.writer.EndsAs w ∧
      w.files.texts.head? = some (w.files.main.name, w.files.main.text) ∧
      ∀ (d : Demand) (ds : List Demand), (d :: ds).mapM Demand.serve p =
        (.ok ((d :: ds).map (Demand.read w)),
          { p with
            writer := w
            journal :=
              p.journal ++ ((d :: ds).flatMap (Demand.reports p.writer.files)).toArray }) := by
  have ends := Writer.endsAs_flushAll h
  refine ⟨p.writer.after .flushAll, ends, rfl, fun d ds => ?_⟩
  have rest := serve_ended (p := p.generated (d.reports p.writer.files)) ends.pending ds
  rw [List.mapM_cons, Step.bind_of_ok (serve_eq h d), Step.bind_of_ok rest]
  have reports : (Demand.reports (p.writer.after .flushAll).files : Demand → List (Entry ι)) =
      Demand.reports p.writer.files := funext (Demand.reports_congr ends)
  exact congrArg (Prod.mk _) (by simp [generated, reports])

/-- A subprogram is open, and words wait in it and in the main file. -/
theorem generation_repeats_open :
    let p : Program Empty := (start (.start {})).useAll [.write (.put (.text "G90") true),
      .write (.openSub (.text "SUB1")), .write (.put (.text "X1") true)]
    p.writer.files.CanEnd ∧
      ∃ w, p.writer.EndsAs w ∧
        w.files.texts.head? = some (w.files.main.name, w.files.main.text) ∧
        [Demand.all, .main, .all].mapM Demand.serve p =
          (.ok ([Demand.all, .main, .all].map (Demand.read w)),
            { p with
              writer := w
              journal := p.journal ++
                ([Demand.all, .main, .all].flatMap (Demand.reports p.writer.files)).toArray }) := by
  intro p
  have h : p.writer.files.CanEnd := by decide +kernel
  obtain ⟨w, ends, first, served⟩ := generation_repeats h
  exact ⟨h, w, ends, first, served .all [.main, .all]⟩

end Program

end Postprocessor
