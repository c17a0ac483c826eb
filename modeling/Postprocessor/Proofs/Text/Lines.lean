import Postprocessor.Proofs.Text.Trimming
import Postprocessor.Text.Digit
import Postprocessor.Text.Lines
import Postprocessor.Text.Word

/-!
# Proofs — lines and the classes of characters

Cutting a text at every break differs from its lines by empty lines only: a carriage return and the
line feed after it count as two breaks then, and a break at the end is followed by an empty part.
Whatever ignores empty lines may therefore be computed on the parts, and these follow the structure
of the text.

* `apart`, `isBlank_of_apart`: ranges of characters that hold no blank.
* `not_isWord_of_isBlank`, `not_isBlank_of_isDigit`: no blank is a word character or a digit.
* `partsAt_cons_of_between`, `partsAt_cons_of_not`, `partsAt_append_cons`, `partsAt_eq_singleton`:
  the parts of a text, from its first character on, around a cut and without a cut.
* `foldl_lines`: a fold that ignores empty lines, over the lines and over the parts.
-/

namespace Postprocessor.Text

/-! ### Classes -/

/-- Two closed ranges have no number in common. -/
def apart (r b : Nat × Nat) : Bool := Nat.blt r.2 b.1 || Nat.blt b.2 r.1

/-- No blank lies in a range that stands apart from those of the blanks. -/
theorem isBlank_of_apart {r : Nat × Nat} (h : blankTable.ranges.all (apart r) = true) {c : Char}
    (hc : r.1 ≤ c.toNat ∧ c.toNat ≤ r.2) : isBlank c = false := by
  rw [Bool.eq_false_iff]
  intro hb
  obtain ⟨b, hbm, hb₁, hb₂⟩ := CharSet.contains_iff.mp hb
  have one := List.all_eq_true.mp h b hbm
  simp only [apart, Nat.blt_eq, Bool.or_eq_true] at one
  omega

/-- The two tables have no code point in common. -/
theorem wordTable_apart_blankTable :
    (wordTable.ranges.all fun w => blankTable.ranges.all (apart w)) = true := by
  decide +kernel

theorem not_isWord_of_isBlank {c : Char} (h : isBlank c = true) : isWord c = false := by
  rw [Bool.eq_false_iff]
  intro hw
  rw [isWord] at hw
  split at hw
  · -- among the ASCII characters the blanks stand below the digits
    next small =>
    have blank : c.toNat < 0x21 := by
      simp [isBlank, CharSet.contains, blankTable] at h
      omega
    have low : ∀ n < 0x21, ((Char.ofNat n).isAlphanum || Char.ofNat n == '_') = false := by decide
    have other := low c.toNat blank
    rw [Char.ofNat_toNat, hw] at other
    cases other
  · obtain ⟨w, hwm, hw⟩ := CharSet.contains_iff.mp hw
    rw [isBlank_of_apart (List.all_eq_true.mp wordTable_apart_blankTable w hwm) hw] at h
    cases h

theorem not_isBlank_of_isWord {c : Char} (h : isWord c = true) : isBlank c = false := by
  rw [Bool.eq_false_iff]
  intro hb
  rw [not_isWord_of_isBlank hb] at h
  cases h

/-- No script has a digit among the blanks. -/
theorem digitZeros_apart_blankTable :
    (digitZeros.all fun z => blankTable.ranges.all (apart (z, z + 9))) = true := rfl

theorem not_isBlank_of_isDigit {c : Char} (h : isDigit c = true) : isBlank c = false := by
  rw [isDigit, digitValue?] at h
  split at h
  · split at h
    · next digit =>
      simp only [Char.isDigit, Bool.and_eq_true, decide_eq_true_eq] at digit
      exact isBlank_of_apart (r := (48, 57)) rfl digit
    · cases h
  · rw [Option.isSome_map, List.find?_isSome] at h
    obtain ⟨z, hzm, hz⟩ := h
    simp only [Bool.and_eq_true, decide_eq_true_eq] at hz
    exact isBlank_of_apart (List.all_eq_true.mp digitZeros_apart_blankTable z hzm) (by omega)

theorem not_isBreak_of_not_isBlank {c : Char} (h : isBlank c = false) : isBreak c = false := by
  rw [Bool.eq_false_iff]
  intro hb
  rw [isBlank_of_isBreak hb] at h
  cases h

/-! ### Parts -/

section Parts

variable {between : Char → Bool} {c : Char} {cs : List Char}

theorem partsAt_cons_of_between (h : between c = true) :
    partsAt between (c :: cs) = [] :: partsAt between cs := by
  rw [partsAt]
  split
  · next e => exact absurd e (partsAt_ne_nil between cs)
  · next part parts e => rw [if_pos h, e]

theorem partsAt_cons_of_not (h : between c = false) {part : List Char} {parts : List (List Char)}
    (e : partsAt between cs = part :: parts) :
    partsAt between (c :: cs) = (c :: part) :: parts := by
  rw [partsAt, e]
  simp [h]

theorem partsAt_append_cons (as bs : List Char) (h : between c = true) :
    partsAt between (as ++ c :: bs) = partsAt between as ++ partsAt between bs := by
  induction as with
  | nil => exact partsAt_cons_of_between h
  | cons a as ih =>
      by_cases ha : between a = true
      · rw [List.cons_append, partsAt_cons_of_between ha, partsAt_cons_of_between ha, ih]
        rfl
      · have ha' : between a = false := by simpa using ha
        obtain ⟨part, parts, e⟩ := List.exists_cons_of_ne_nil (partsAt_ne_nil between as)
        rw [e, List.cons_append] at ih
        rw [List.cons_append, partsAt_cons_of_not ha' ih, partsAt_cons_of_not ha' e]
        rfl

/-- A text without a cut is its only part. -/
theorem partsAt_eq_singleton (h : ∀ c ∈ cs, between c = false) : partsAt between cs = [cs] := by
  have key : partsAt between (cs ++ []) = [cs ++ []] := partsAt_append h rfl
  rwa [List.append_nil] at key

/-- The first part is what the text starts with. -/
theorem prefix_of_partsAt {part : List Char} {parts : List (List Char)}
    (h : partsAt between cs = part :: parts) : part <+: cs := by
  induction cs generalizing part parts with
  | nil =>
      cases h
      exact List.prefix_refl []
  | cons c cs ih =>
      by_cases hc : between c = true
      · rw [partsAt_cons_of_between hc] at h
        cases h
        exact List.nil_prefix
      · obtain ⟨first, rest, e⟩ := List.exists_cons_of_ne_nil (partsAt_ne_nil between cs)
        rw [partsAt_cons_of_not (by simpa using hc) e] at h
        cases h
        exact List.cons_prefix_cons.mpr ⟨rfl, ih e⟩

theorem mem_head?_of_partsAt {part : List Char} {parts : List (List Char)}
    (h : partsAt between cs = part :: parts) (hc : c ∈ part.head?) : c ∈ cs.head? := by
  obtain ⟨more, rfl⟩ := prefix_of_partsAt h
  rw [List.head?_append, Option.mem_def.mp hc]
  rfl

end Parts

/-! ### Lines -/

section Lines

variable {σ : Type} {f : σ → List Char → σ}

/-- The lines from the middle of a text on, where `line` is what was read of the first of them. -/
theorem foldl_linesFrom (hf : ∀ s, f s [] = s) (done : List (List Char)) (line cs : List Char)
    (hl : ∀ c ∈ line, isBreak c = false) (s : σ) :
    (linesFrom done line cs).foldl f s =
      (partsAt isBreak (line.reverse ++ cs)).foldl f (done.reverse.foldl f s) := by
  have read : ∀ line : List Char, (∀ c ∈ line, isBreak c = false) →
      partsAt isBreak line.reverse = [line.reverse] :=
    fun line hl => partsAt_eq_singleton fun c hc => hl c (List.mem_reverse.mp hc)
  fun_induction linesFrom done line cs with
  | case1 done line =>
      rw [List.append_nil, read line hl, List.foldl_cons, List.foldl_nil]
      split
      · next empty =>
        rw [List.isEmpty_iff.mp empty, List.reverse_nil, hf]
      · rw [List.reverse_cons, List.foldl_append]
        rfl
  | case2 done line rest ih =>
      -- the line feed after a carriage return makes one more part, which is empty
      rw [ih (by simp), partsAt_append_cons _ _ (by decide : isBreak '\r' = true), read line hl,
        partsAt_cons_of_between (by decide : isBreak '\n' = true), List.singleton_append,
        List.foldl_cons, List.foldl_cons, hf, List.reverse_cons, List.foldl_append]
      rfl
  | case3 done line c rest _ hc ih =>
      rw [ih (by simp), partsAt_append_cons _ _ hc, read line hl, List.singleton_append,
        List.foldl_cons, List.reverse_cons, List.foldl_append]
      rfl
  | case4 done line c rest _ hc ih =>
      have hl' : ∀ d ∈ c :: line, isBreak d = false := by
        intro d hd
        rcases List.mem_cons.mp hd with rfl | hd
        · simpa using hc
        · exact hl d hd
      rw [ih hl', List.reverse_cons, List.append_assoc]
      rfl

/-- **Lines and parts.**  To a fold that ignores empty lines the lines of a text are its parts
between breaks. -/
theorem foldl_lines (hf : ∀ s, f s [] = s) (cs : List Char) (s : σ) :
    (lines cs).foldl f s = (partsAt isBreak cs).foldl f s :=
  foldl_linesFrom hf [] [] cs (by simp) s

end Lines

end Postprocessor.Text
