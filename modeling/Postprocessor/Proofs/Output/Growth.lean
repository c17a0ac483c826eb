import Mathlib.Logic.Relation
import Postprocessor.Proofs.Output.Ledger

/-!
# Proofs — how files grow

Nothing that is done to a file takes a line or a word away from it: words are put, and the line that
is being written is ended.  A file keeps its place among the files, so what a file was like once
bounds what it is like after any calls.

* `ProgramFile.Grows`: a file comes from another by putting words and ending lines.
* `Grows.lines`: the lines of a file stay as they are, and others come after them.
* `ProgramFile.IsStuck`: the line that is being written cannot be ended; `Grows.isStuck` says that
  it never will.
* `FileSet.Grows`: every file grows in its place; `grows_after` and `grows_runAll` say that calls do
  nothing else to the files that there are.
-/

namespace Postprocessor

/-! ### One file -/

namespace ProgramFile

variable {n : Numbering} {f g : ProgramFile}

/-- What is done to a file at once. -/
inductive Grow (n : Numbering) (f : ProgramFile) : ProgramFile → Prop
  | put (word : String) : Grow n f (f.put word)
  | ended (words : f.pending ≠ []) (number : f.CanEnd n) : Grow n f (f.ended n)

/-- The second file comes from the first one by putting words and ending lines. -/
abbrev Grows (n : Numbering) (f g : ProgramFile) : Prop := Relation.ReflTransGen (Grow n) f g

theorem grows_putAll (f : ProgramFile) (words : List String) : f.Grows n (words.foldl put f) := by
  induction words generalizing f with
  | nil => exact .refl
  | cons word words ih =>
      rw [List.foldl_cons]
      exact .head (.put word) (ih (f.put word))

theorem grows_flush (h : f.flush n = .ok g) : f.Grows n g := by
  rcases f.flush_eq n with ⟨-, e⟩ | ⟨words, number, e⟩ | ⟨-, -, e⟩ <;> rw [e] at h <;> cases h
  · exact .refl
  · exact .single (.ended words number)

/-- **Lines stay as they are**, and others come after them. -/
theorem Grows.lines (h : f.Grows n g) : f.lines.toList <+: g.lines.toList := by
  induction h with
  | refl => exact List.prefix_refl _
  | tail _ grow ih =>
      cases grow with
      | put word =>
          rw [put_eq]
          exact ih
      | ended => exact ih.trans (by simp [ended])

theorem Grows.name (h : f.Grows n g) : g.name = f.name := by
  induction h with
  | refl => rfl
  | tail _ grow ih =>
      cases grow with
      | put word => rwa [put_eq]
      | ended => exact ih

/-- The line that is being written has words, and its number cannot be written. -/
def IsStuck (n : Numbering) (f : ProgramFile) : Prop := f.pending ≠ [] ∧ ¬ f.CanEnd n

/-- **A line that cannot be ended** stays so. -/
theorem Grows.isStuck (h : f.Grows n g) (hf : f.IsStuck n) : g.IsStuck n := by
  induction h with
  | refl => exact hf
  | tail _ grow ih =>
      cases grow with
      | put word =>
          rw [put_eq]
          exact ⟨by simp [ih.1], ih.2⟩
      | ended words number => exact absurd number ih.2

/-- Nor will there be any lines after it. -/
theorem Grows.lines_of_isStuck (h : f.Grows n g) (hf : f.IsStuck n) : g.lines = f.lines := by
  induction h with
  | refl => rfl
  | tail before grow ih =>
      cases grow with
      | put word =>
          rw [put_eq]
          exact ih
      | ended words number => exact absurd number (Grows.isStuck before hf).2

theorem IsStuck.flush (h : f.IsStuck n) :
    f.flush n = .error .tooManyDigits := by
  rcases f.flush_eq n with ⟨none, -⟩ | ⟨-, number, -⟩ | ⟨-, -, e⟩
  · exact absurd none h.1
  · exact absurd number h.2
  · exact e

/-- Ending a line fails only where the line is stuck. -/
theorem flush_of_not_isStuck (h : ¬ f.IsStuck n) : ∃ g, f.flush n = .ok g := by
  rcases f.flush_eq n with ⟨-, e⟩ | ⟨-, -, e⟩ | ⟨words, number, -⟩
  · exact ⟨f, e⟩
  · exact ⟨_, e⟩
  · exact absurd ⟨words, number⟩ h

end ProgramFile

/-! ### All files -/

namespace FileSet

/-- Every file of the first state has grown to the file of the second state at its place. -/
structure Grows (s s' : FileSet) : Prop where
  numbering : s'.numbering = s.numbering
  files : ∀ (k : Nat) (f : ProgramFile), s.files[k]? = some f →
    ∃ g, s'.files[k]? = some g ∧ f.Grows s.numbering g

variable {s t u : FileSet}

theorem Grows.refl (s : FileSet) : s.Grows s := ⟨rfl, fun _ f hf => ⟨f, hf, .refl⟩⟩

theorem Grows.trans (h : s.Grows t) (h' : t.Grows u) : s.Grows u := by
  refine ⟨h'.numbering.trans h.numbering, fun k f hf => ?_⟩
  obtain ⟨g, hg, first⟩ := h.files k f hf
  obtain ⟨g', hg', second⟩ := h'.files k g hg
  exact ⟨g', hg', first.trans (h.numbering ▸ second)⟩

theorem grows_setCurrent {f : ProgramFile} (h : s.current.Grows s.numbering f) :
    s.Grows (s.setCurrent f) := by
  refine ⟨numbering_setCurrent s f, fun k g hg => ?_⟩
  rw [files_setCurrent]
  by_cases hk : s.place = k
  · subst hk
    have inside : s.place < s.files.length := (List.getElem?_eq_some_iff.mp hg).1
    obtain rfl : s.current = g := Option.some.inj (s.files_place.symm.trans hg)
    exact ⟨f, List.getElem?_set_self inside, h⟩
  · exact ⟨g, (List.getElem?_set_ne hk).trans hg, .refl⟩

theorem grows_flush (s : FileSet) : s.Grows (flush s).2 := by
  rw [flush_eq]
  cases e : s.current.flush s.numbering with
  | error e => exact .refl s
  | ok f => exact grows_setCurrent (ProgramFile.grows_flush e)

theorem grows_emit (words : List String) (noFlush : Bool) (s : FileSet) :
    s.Grows (emit words noFlush s).2 := by
  have put : s.Grows (words.foldl put s) := by
    rw [putAll_eq]
    exact grows_setCurrent (s.current.grows_putAll words)
  cases noFlush with
  | true => exact put
  | false => exact put.trans (grows_flush _)

theorem Flushed.grows {n : Numbering} {f g : ProgramFile} (h : Flushed n f g) : f.Grows n g := by
  rcases h with rfl | h
  · exact .refl
  · exact ProgramFile.grows_flush h

theorem LinesEnded.grows (h : LinesEnded s t) : s.Grows t := by
  refine ⟨h.numbering, fun k f hf => ?_⟩
  obtain ⟨inside, rfl⟩ := List.getElem?_eq_some_iff.mp hf
  have inside' : k < t.files.length := h.files.length_eq ▸ inside
  exact ⟨_, List.getElem?_eq_getElem inside', (h.files.get inside inside').grows⟩

/-- Files that come after the others. -/
theorem grows_of_files {more : List ProgramFile} (hn : t.numbering = s.numbering)
    (h : t.files = s.files ++ more) : s.Grows t := by
  refine ⟨hn, fun k f hf => ⟨f, ?_, .refl⟩⟩
  rw [h, List.getElem?_append_left (List.getElem?_eq_some_iff.mp hf).1, hf]

theorem grows_openSub (name : Value) (s : FileSet) : s.Grows (openSub name s).2 := by
  rcases openSub_eq name s with ⟨e, he⟩ | ⟨ho, -, he⟩ <;> rw [he]
  · exact .refl s
  · have added : ({ s with opened := some (.empty name s.numbering.start) } : FileSet).files =
        s.files ++ [.empty name s.numbering.start] := by
      simp [FileSet.files, ho]
    exact grows_of_files rfl added

theorem grows_closeSub (s : FileSet) : s.Grows (closeSub s).2 := by
  cases ho : s.opened with
  | none =>
      rw [closeSub_of_not_opened ho]
      exact .refl s
  | some f =>
      rw [closeSub_of_opened ho]
      have first := grows_flush s
      rcases hf : flush s with ⟨e | _, s'⟩ <;> rw [hf] at first
      · exact first
      · have second := first.trans (grows_emit [s.endWord] false s')
        simp only
        rcases he : emit [s.endWord] false s' with ⟨e | _, s''⟩ <;> rw [he] at second
        · exact second
        · have closed : s''.closeOpened.files = s''.files ++ [] := by
            simp [FileSet.files, closeOpened]
          exact second.trans (grows_of_files rfl closed)

theorem grows_fileStep (m : Machine) (call : Call) (s : FileSet) :
    s.Grows (call.fileStep m s).2 := by
  rcases call.fileStep_cases m with rfl | ⟨name, rfl⟩ | rfl | ⟨-, handed⟩
  · exact (flushAll_linesEnded s).grows
  · exact grows_openSub name s
  · exact grows_closeSub s
  · rw [handed]
    rcases call.emission m with e | ⟨words, noFlush⟩
    · exact .refl s
    · exact grows_emit words noFlush s

/-- The main file grows as every other file. -/
theorem Grows.main (h : s.Grows t) : s.main.Grows s.numbering t.main := by
  obtain ⟨g, hg, grows⟩ := h.files 0 s.main rfl
  obtain rfl : t.main = g := Option.some.inj hg
  exact grows

/-- Files without stuck lines have had none before. -/
theorem Grows.not_isStuck (h : s.Grows t) (ht : ∀ g ∈ t.files, ¬ g.IsStuck t.numbering) :
    ∀ f ∈ s.files, ¬ f.IsStuck s.numbering := by
  intro f hf stuck
  obtain ⟨k, hk⟩ := List.getElem?_of_mem hf
  obtain ⟨g, hg, grows⟩ := h.files k f hk
  refine ht g (List.mem_of_getElem? hg) ?_
  rw [h.numbering]
  exact grows.isStuck stuck

end FileSet

/-! ### Calls -/

namespace Writer

theorem grows_after (w : Writer) (call : Call) : w.files.Grows (w.after call).files := by
  rw [files_after]
  exact FileSet.grows_fileStep w.machine call w.files

/-- **Calls let files grow**, and do nothing else to the files that there are. -/
theorem grows_runAll (w : Writer) (calls : List Call) : w.files.Grows (w.runAll calls).files := by
  induction calls generalizing w with
  | nil => exact .refl _
  | cons call calls ih => exact (w.grows_after call).trans (ih _)

end Writer

end Postprocessor
