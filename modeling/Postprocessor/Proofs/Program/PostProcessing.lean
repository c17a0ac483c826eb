import Postprocessor.Program.PostProcessing
import Postprocessor.Proofs.Program.Continuation

/-!
# Proofs — the file of a trace

The standard handlers open no subprogram and leave no line open, so what is generated of a trace is
one file with the text that the events have written.

* `generateFiles_of_isSettled`: what is generated where no line is open.
* `postProcess_eq`: the files for records, or the failure of an event.
-/

namespace Postprocessor

theorem FileSet.flushAll_of_isSettled {s : FileSet} (h : s.IsSettled) :
    FileSet.flushAll s = (.ok (), s) := by
  obtain ⟨numbering, endWord, main, closed, opened⟩ := s
  obtain ⟨⟨rfl, rfl⟩, hp⟩ := h
  have hmain : main.flush numbering = .ok main := ProgramFile.flush_of_pending_eq_nil hp
  rw [flushAll, Step.run_bind, Step.run_update, hmain]
  rfl

namespace Program

/-- Where no line is open, the main file is generated as it is. -/
theorem generateFiles_of_isSettled {p : Program Handler} (h : p.writer.files.IsSettled) :
    (generateFiles p).1 = .ok [(p.writer.files.main.name, p.writer.files.main.text)] := by
  have hflush : (flushAll p : Except Failure Unit × Program Handler) = (.ok (), p) := by
    rw [flushAll, write, Step.bind_of_ok (Step.run_get p), Step.run_bind, Step.run_within,
      Writer.perform, Writer.onFiles, Step.run_within, FileSet.flushAll_of_isSettled h]
    rfl
  rw [generateFiles, Step.bind_of_ok (Step.run_get p)]
  dsimp only
  rw [h.opened, if_neg (by simp), Step.bind_of_ok hflush, Step.bind_of_ok (Step.run_get p)]
  simp [FileSet.texts, FileSet.files, h.opened, h.closed]

/-- Nothing that is written renames the main file. -/
theorem name_processed (c : Config) (records : List Trace.Record) :
    (processed c records).2.writer.files.main.name = .text c.files.main := by
  obtain ⟨calls, -, driven⟩ : ∃ calls, (∀ call ∈ calls, True) ∧
      (processed c records).2.writer = (Writer.start c).runAll calls :=
    drives_processed c fun _ _ _ _ _ _ => trivial
  rw [driven]
  exact (Writer.grows_runAll (.start c) calls).main.name

end Program

open Program in
/-- The files for records are the main file alone, with what the events have written. -/
theorem postProcess_eq (c : Config) (records : List Trace.Record) :
    (postProcess c records).1 = (processed c records).1.map fun _ =>
      [(.text c.files.main, (processed c records).2.writer.files.main.text)] := by
  -- the events are processed first, and that alone is what the rest of the theory is about
  have run : postProcess c records =
      (processing records >>= fun _ => generateFiles) (start (.start c)) := by
    simp only [postProcess, postProcessing, processing, Program.run, bind_assoc]
  have whole : processing records (start (.start c)) = processed c records := by
    rw [processed, Program.run]
  rw [run, Step.run_bind, whole]
  rcases hp : (processed c records).1 with e | _
  · rfl
  · dsimp only
    rw [generateFiles_of_isSettled (isSettled_processed c hp), name_processed]
    rfl

end Postprocessor
