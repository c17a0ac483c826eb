import Postprocessor.Proofs.Text.Lines

/-!
# Proofs — texts without line breaks

* `Text.IsUnbroken`, `IsUnbroken`: no character of the text ends a line.
* `isUnbroken_lines`: the lines of a text are so.
* `IsUnbroken.trim`, `IsUnbroken.squeeze`, `isUnbroken_intercalate`: trimming and squeezing add no
  break, and neither does joining unbroken texts.
-/

namespace Postprocessor

namespace Text

/-- No character of the text ends a line. -/
def IsUnbroken (cs : List Char) : Prop := ∀ c ∈ cs, isBreak c = false

instance (cs : List Char) : Decidable (IsUnbroken cs) :=
  List.decidableBAll (fun c => isBreak c = false) cs

variable {cs ds : List Char}

theorem IsUnbroken.mono (h : IsUnbroken cs) (hs : ds ⊆ cs) : IsUnbroken ds :=
  fun c hc => h c (hs hc)

theorem isUnbroken_append : IsUnbroken (cs ++ ds) ↔ IsUnbroken cs ∧ IsUnbroken ds :=
  List.forall_mem_append

theorem isUnbroken_linesFrom {done : List (List Char)} {line : List Char}
    (hd : ∀ l ∈ done, IsUnbroken l) (hl : IsUnbroken line) (cs : List Char) :
    ∀ l ∈ linesFrom done line cs, IsUnbroken l := by
  have next {done : List (List Char)} {line : List Char} (hd : ∀ l ∈ done, IsUnbroken l)
      (hl : IsUnbroken line) : ∀ l ∈ line.reverse :: done, IsUnbroken l :=
    List.forall_mem_cons.mpr ⟨fun c hc => hl c (List.mem_reverse.mp hc), hd⟩
  fun_induction linesFrom done line cs with
  | case1 done line =>
      intro l hmem
      rw [List.mem_reverse] at hmem
      split at hmem
      · exact hd l hmem
      · exact next hd hl l hmem
  | case2 done line rest ih => exact ih (next hd hl) (List.forall_mem_nil _)
  | case3 done line c rest _ hc ih => exact ih (next hd hl) (List.forall_mem_nil _)
  | case4 done line c rest _ hc ih =>
      exact ih hd (List.forall_mem_cons.mpr ⟨by simpa using hc, hl⟩)

/-- **The lines of a text** are unbroken. -/
theorem isUnbroken_lines (cs : List Char) : ∀ l ∈ lines cs, IsUnbroken l :=
  isUnbroken_linesFrom (List.forall_mem_nil _) (List.forall_mem_nil _) cs

theorem IsUnbroken.trim (h : IsUnbroken cs) : IsUnbroken (trim cs) :=
  h.mono (List.Subset.trans ( trimRight_prefix _).subset (List.dropWhile_suffix _).subset)

theorem IsUnbroken.squeezeFrom (h : IsUnbroken cs) (inside : Bool) :
    IsUnbroken (squeezeFrom inside cs) := by
  induction cs generalizing inside with
  | nil => exact h
  | cons c cs ih =>
      obtain ⟨first, others⟩ := List.forall_mem_cons.mp h
      rw [Text.squeezeFrom]
      split
      · split
        · exact ih others true
        · exact List.forall_mem_cons.mpr ⟨by decide, ih others true⟩
      · exact List.forall_mem_cons.mpr ⟨first, ih others false⟩

theorem isUnbroken_intercalate {between : List Char} {parts : List (List Char)}
    (hb : IsUnbroken between) (hp : ∀ part ∈ parts, IsUnbroken part) :
    IsUnbroken (between.intercalate parts) := by
  induction parts with
  | nil => exact List.forall_mem_nil _
  | cons part parts ih =>
      obtain ⟨first, others⟩ := List.forall_mem_cons.mp hp
      cases parts with
      | nil => simpa [List.intercalate] using first
      | cons next parts =>
          rw [List.intercalate_cons_cons, isUnbroken_append, isUnbroken_append]
          exact ⟨⟨first, hb⟩, ih others⟩

end Text

/-- No character of the text ends a line. -/
def IsUnbroken (s : String) : Prop := Text.IsUnbroken s.toList

instance (s : String) : Decidable (IsUnbroken s) :=
  inferInstanceAs (Decidable (Text.IsUnbroken _))

theorem isUnbroken_ofList {cs : List Char} :
    IsUnbroken (String.ofList cs) ↔ Text.IsUnbroken cs := by
  rw [IsUnbroken, String.toList_ofList]

namespace IsUnbroken

variable {s t : String}

theorem append (hs : IsUnbroken s) (ht : IsUnbroken t) : IsUnbroken (s ++ t) := by
  rw [IsUnbroken, String.toList_append, Text.isUnbroken_append]
  exact ⟨hs, ht⟩

theorem trimmed (h : IsUnbroken s) : IsUnbroken s.trimmed :=
  isUnbroken_ofList.mpr (Text.IsUnbroken.trim h)

theorem intercalate (hs : IsUnbroken s) {parts : List String}
    (hp : ∀ part ∈ parts, IsUnbroken part) : IsUnbroken (s.intercalate parts) := by
  rw [IsUnbroken, String.toList_intercalate]
  refine Text.isUnbroken_intercalate hs fun part hmem => ?_
  obtain ⟨t, ht, rfl⟩ := List.mem_map.mp hmem
  exact hp t ht

end IsUnbroken

end Postprocessor
