/-!
# Tables of characters

A standard that lays characters out in rows knows each of them by its place, counted from the
first place of the first row.

* `CharTable`: characters with their places.
* `CharTable.place?`: the place of a character.
* `CharTable.countBelow`: how many characters come before a code point in the order of Unicode.
-/

namespace Postprocessor.Text

/-- Characters with their places. -/
structure CharTable where
  /-- Runs of characters at successive places, each with the place of its first character.  A blank
  stands for a place without a character. -/
  runs : List (Nat × String)
  deriving Repr

namespace CharTable

/-- The place of a character other than a blank. -/
def place? (t : CharTable) (c : Char) : Option Nat :=
  t.runs.findSome? fun run => (run.2.toList.idxOf? c).map (run.1 + ·)

/-- A place that is found lies in a run that has the character there. -/
theorem exists_run_of_place? {t : CharTable} {c : Char} {p : Nat} (h : t.place? c = some p) :
    ∃ run ∈ t.runs, ∃ i, p = run.1 + i ∧ run.2.toList.idxOf? c = some i := by
  obtain ⟨run, hrun, hp⟩ := List.exists_of_findSome?_eq_some h
  obtain ⟨i, hi, rfl⟩ := Option.map_eq_some_iff.1 hp
  exact ⟨run, hrun, i, rfl, hi⟩

/-- The characters of a table. -/
def chars (t : CharTable) : List Char :=
  t.runs.flatMap fun run => run.2.toList.filter (· != ' ')

/-- How many characters of a table have a code point below `n`. -/
def countBelow (t : CharTable) (n : Nat) : Nat := t.chars.countP (·.toNat < n)

end CharTable

end Postprocessor.Text
