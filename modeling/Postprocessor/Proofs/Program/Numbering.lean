import Postprocessor.Program.Standard
import Postprocessor.Proofs.Config.Acceptance
import Postprocessor.Proofs.Output.Ledger
import Postprocessor.Proofs.Program.Changes

/-!
# Proofs — the numbers of lines

A line takes the number that its file keeps for it, and takes it only if the number can be written.
So the numbers of a file are those of its places, one for each line, whatever was done to the
program.

* `Config.numbering_of_ofValue`: the numbering of a configuration that is accepted.
* `ProgramFile.IsPrinted`: the numbers of the lines were written in full.
* `Numbering.write`: a line at a place, from its words.
* `ProgramFile.IsNumbered`, `isNumbered_runAll`: the lines of every file carry the numbers of their
  places, after any operations.
-/

namespace Postprocessor

namespace Config

/-- **A configuration that is accepted** numbers lines upward, and from no negative number. -/
theorem numbering_of_ofValue {v : Value} {c : Config} (h : ofValue v = .ok c) :
    0 ≤ c.numbering.start ∧ 0 < c.numbering.increment :=
  have valid := isValid_of_ofValue h
  ⟨valid.start, valid.increment⟩

end Config

/-- The line at a place: its number, if lines are numbered, and what it says. -/
def Numbering.write (n : Numbering) (k : Nat) (body : String) : Except Failure String :=
  if n.enabled then
    (Value.int (n.start + k * n.increment)).written.map fun digits => "N" ++ digits ++ " " ++ body
  else .ok body

namespace ProgramFile

variable {n : Numbering} {f : ProgramFile}

/-- The numbers of the lines were written in full. -/
def IsPrinted (f : ProgramFile) : Prop :=
  ∀ l ∈ f.lines.toList, ∀ i ∈ l.number, IsPrintable i

/-- A new file has no numbers, and a line is ended only if its number can be written. -/
theorem isPrinted_invariant (n : Numbering) : FileInvariant n IsPrinted where
  empty name := by simp [IsPrinted, empty]
  put f word h := by
    rw [put_eq]
    exact h
  ended f _ hc h := by
    intro l hl i hi
    have mem : l ∈ f.lines.toList ∨ l = f.nextLine n := by simpa [ended] using hl
    rcases mem with hl | rfl
    · exact h l hl i hi
    · rw [nextLine] at hi
      split at hi
      · next he =>
        obtain rfl := Option.some.inj hi
        exact hc he
      · cases hi

/-- The lines of a file carry the numbers of their places. -/
structure IsNumbered (n : Numbering) (f : ProgramFile) : Prop where
  /-- Every line is its number, if lines are numbered, and a text without blanks around it. -/
  text : ∀ k (h : k < f.lines.size), ∃ body : String, body ≠ "" ∧ Text.IsTrim body.toList ∧
    n.write k body = .ok f.lines[k].text
  /-- The number of the next line. -/
  next : f.nextNumber = n.start + f.lines.size * n.increment
  /-- No number is left out, and none is used twice. -/
  numbers : n.enabled = true →
    f.lines.toList.map Line.number =
      (List.range f.lines.size).map fun k : Nat => some (n.start + k * n.increment)
  increasing : (f.lines.toList.filterMap Line.number).Pairwise (· < ·)

/-- The numbers of the lines of a tidy file. -/
theorem IsTidy.numbers (h : f.IsTidy n) :
    f.lines.toList.map Line.number = (List.range f.lines.size).map n.numberAt := by
  refine List.ext_getElem (by simp) fun k hk _ => ?_
  have hk' : k < f.lines.size := by simpa using hk
  simpa using h.numbered k hk'

theorem IsTidy.write (h : f.IsTidy n) (hp : f.IsPrinted) {k : Nat} (hk : k < f.lines.size) :
    n.write k (" ".intercalate f.lines[k].words) = .ok f.lines[k].text := by
  rw [h.text hk, Numbering.write, Numbering.labelAt]
  have number := h.numbered k hk
  rw [Numbering.numberAt] at number ⊢
  by_cases he : n.enabled = true
  · rw [if_pos he] at number
    have printable := hp _ (Array.getElem_mem_toList hk) _ number
    have written : (Value.int (n.start + k * n.increment)).written =
        .ok (String.ofList (intText (n.start + k * n.increment))) :=
      intWritten_of_isPrintable printable
    rw [if_pos he, if_pos he, written]
    rfl
  · rw [if_neg he, if_neg he, String.empty_append]

/-- Numbers that go up from place to place are in ascending order. -/
theorem IsTidy.increasing (h : f.IsTidy n) (hn : 0 < n.increment) :
    (f.lines.toList.filterMap Line.number).Pairwise (· < ·) := by
  have places : f.lines.toList.filterMap Line.number =
      (List.range f.lines.size).filterMap n.numberAt := by
    have numbers := congrArg (List.filterMap id) h.numbers
    rwa [List.filterMap_map, List.filterMap_map] at numbers
  rw [places, List.pairwise_filterMap]
  -- places ascend, and so do their numbers
  refine List.pairwise_lt_range.imp fun {j k} hjk i hi i' hi' => ?_
  have step : j * n.increment < k * n.increment :=
    Int.mul_lt_mul_of_pos_right (Int.ofNat_lt.mpr hjk) hn
  rw [Numbering.numberAt] at hi hi'
  split at hi
  · next he =>
    rw [if_pos he] at hi'
    cases hi
    cases hi'
    exact Int.add_lt_add_left step n.start
  · cases hi

/-- A tidy file whose numbers were written is numbered. -/
theorem IsTidy.isNumbered (h : f.IsTidy n) (hp : f.IsPrinted) (hn : 0 < n.increment) :
    f.IsNumbered n where
  text k hk := by
    have mem := Array.getElem_mem_toList hk
    have word := isWord_intercalate (h.nonempty _ mem) (h.words _ mem)
    exact ⟨_, word.1, word.isTrim, h.write hp hk⟩
  next := h.next
  numbers he := by
    rw [h.numbers]
    refine List.map_congr_left fun k _ => ?_
    rw [Numbering.numberAt, if_pos he]
  increasing := h.increasing hn

end ProgramFile

namespace Program

variable {ι : Type} [BEq ι]

/-- **The numbers of lines.**  After any operations on a program whose configuration was accepted,
every line of every file carries the number of its place, if lines are numbered, and no number is
left out or used twice. -/
theorem isNumbered_runAll {data : Value} {c : Config} (h : Config.ofValue data = .ok c)
    (behaviours : ι → Listener ι) (operations : List (Operation ι)) :
    ∀ f ∈ ((start (Writer.start c)).runAll behaviours operations).writer.files.files,
      f.IsNumbered c.numbering := by
  intro f hf
  obtain ⟨calls, driven⟩ := (reaches_runAll behaviours (start (Writer.start c)) operations).writer
  rw [driven] at hf
  have tidy : f.IsTidy c.numbering := tidy_runAll c calls hf
  have printed : f.IsPrinted :=
    ((ProgramFile.isPrinted_invariant c.numbering).runAll calls).files f hf
  exact tidy.isNumbered printed (Config.numbering_of_ofValue h).2

/-- Two lines of the preset numbering. -/
theorem isNumbered_lines : Config.ofValue (.mapping []) = .ok {} ∧
    ∀ f ∈ ((start (Writer.start {})).runAll Handler.listener
      [.write (.put (.text "G90") true), .generate]).writer.files.files, f.IsNumbered {} := by
  have accepted : Config.ofValue (.mapping []) = .ok {} := rfl
  exact ⟨accepted, isNumbered_runAll accepted Handler.listener _⟩

end Program

end Postprocessor
