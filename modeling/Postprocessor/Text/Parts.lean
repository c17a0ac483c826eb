/-!
# Texts in parts

* `partsAt`: the parts of a text between the characters of a kind.
* `intercalate_partsAt`: with the character between them they make up the text again.
-/

namespace Postprocessor.Text

/-- The parts of a text between the characters of a kind. -/
def partsAt (between : Char → Bool) : List Char → List (List Char)
  | [] => [[]]
  | c :: rest =>
    match partsAt between rest with
    | [] => [[c]]
    | part :: parts => if between c then [] :: part :: parts else (c :: part) :: parts

theorem partsAt_ne_nil (between : Char → Bool) (cs : List Char) : partsAt between cs ≠ [] := by
  induction cs with
  | nil => simp [partsAt]
  | cons c rest ih =>
    unfold partsAt
    split
    · simp
    · split <;> simp

/-- With the character between them the parts make up the text again. -/
theorem intercalate_partsAt (m : Char) (cs : List Char) :
    [m].intercalate (partsAt (· == m) cs) = cs := by
  induction cs with
  | nil => rfl
  | cons c rest ih =>
    unfold partsAt
    split
    · next h => exact absurd h (partsAt_ne_nil _ rest)
    · next part parts h =>
      rw [h] at ih
      by_cases hc : c = m
      · simp [hc, List.intercalate_cons_cons, ih]
      · cases parts with
        | nil => simpa [hc, List.intercalate] using ih
        | cons next parts =>
          simp only [List.intercalate_cons_cons] at ih
          simp [hc, List.intercalate_cons_cons, ih]

end Postprocessor.Text
