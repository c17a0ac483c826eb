import Postprocessor.Proofs.Text.Lines
import Postprocessor.Trace.Assignment

/-!
# Proofs — scanning for assignments

An assignment is found by its colon: the key stands right before it, with at most one blank between
them.  So a scan passes over any text without a colon, as long as that text does not end in the
middle of a key, and it takes an assignment that is written out as it stands there.

* `Stands`: an assignment as it stands at the start of a text; `assignmentAt?_eq_some_iff` says that
  this is what is found there.
* `Assignment.text`, `Assignment.IsProper`: an assignment written out, and what it may consist of.
* `assignmentAt?_text`: a proper assignment that is written out is found.
* `assignmentsIn`: the assignments of the lines of a text.
* `assignmentsIn_skip`, `assignmentsIn_text`: what a scan passes over, and what it takes.
-/

namespace Postprocessor.Trace
open Text

/-! ### What stands where an assignment is found -/

/-- At most one blank. -/
def IsGap (gap : List Char) : Prop := gap = [] ∨ ∃ b, isBlank b = true ∧ gap = [b]

/-- A text between single quotes stands at the start of `cs`, with the quote that closes it. -/
def StandsQuoted (cs content after : List Char) : Prop :=
  cs = '\'' :: content ++ '\'' :: after ∧ '\'' ∉ content

/-- A bare token stands at the start of `cs`, up to a blank or to the end. -/
def StandsBare (cs token after : List Char) : Prop :=
  cs = token ++ after ∧ token ≠ [] ∧ (∀ c ∈ token, isBlank c = false) ∧
    ∀ c ∈ after.head?, isBlank c = true

/-- A value stands at the start of `cs`: a quoted text if a complete one is there, and otherwise a
bare token. -/
inductive StandsValue (cs : List Char) : List Char → Bool → List Char → Prop
  | quoted {content after : List Char} (value : StandsQuoted cs content after) :
      StandsValue cs content true after
  | bare {token after : List Char} (value : StandsBare cs token after)
      (incomplete : ∀ content after', ¬ StandsQuoted cs content after') :
      StandsValue cs token false after

/-- An assignment stands at the start of a text: all the word characters, of which there is one at
least, a colon with at most one blank on each side, and a value. -/
inductive Stands : List Char → Assignment → List Char → Prop
  | intro {key gap gap' value content after : List Char} {quoted : Bool} (key_ne_nil : key ≠ [])
      (word : ∀ c ∈ key, isWord c = true)
      (longest : ∀ c ∈ (gap ++ ':' :: (gap' ++ value)).head?, isWord c = false)
      (gap_left : IsGap gap) (gap_right : IsGap gap')
      (here : StandsValue value content quoted after) :
      Stands (key ++ gap ++ ':' :: (gap' ++ value)) ⟨key, content, quoted⟩ after

/-! ### Where an assignment is found -/

section Found

variable {cs gap content token after : List Char}

/-- One blank is skipped, or nothing. -/
theorem skipBlank_eq (cs : List Char) : ∃ gap, cs = gap ++ skipBlank cs ∧ IsGap gap := by
  cases cs with
  | nil => exact ⟨[], rfl, .inl rfl⟩
  | cons c rest =>
      rw [skipBlank]
      by_cases hc : isBlank c = true
      · rw [if_pos hc]
        exact ⟨[c], rfl, .inr ⟨c, hc, rfl⟩⟩
      · rw [if_neg hc]
        exact ⟨[], rfl, .inl rfl⟩

theorem skipBlank_of_not {c : Char} (h : isBlank c = false) (rest : List Char) :
    skipBlank (c :: rest) = c :: rest := by
  rw [skipBlank, if_neg (by simp [h])]

/-- At most one blank is skipped in front of anything else. -/
theorem skipBlank_append (h : IsGap gap) (hs : ∀ c ∈ cs.head?, isBlank c = false) :
    skipBlank (gap ++ cs) = cs := by
  rcases h with rfl | ⟨b, hb, rfl⟩
  · cases cs with
    | nil => rfl
    | cons c cs => exact skipBlank_of_not (hs c rfl) cs
  · exact if_pos hb

theorem quotedAt?_eq_some_iff :
    quotedAt? cs = some content ↔ ∃ after, StandsQuoted cs content after := by
  constructor
  · intro h
    rw [quotedAt?.eq_def] at h
    split at h
    · next rest =>
      split at h
      · next closed =>
        obtain ⟨split, plain, stop⟩ :=
          (takeWhile_eq_iff (· != '\'') rest).mp ⟨Option.some.inj h, rfl⟩
        have no_quote : '\'' ∉ content := fun mem => by simpa using plain _ mem
        generalize rest.dropWhile (· != '\'') = left at split stop
        cases left with
        | nil =>
            rw [split, List.append_nil] at closed
            exact absurd (by simpa using closed) no_quote
        | cons c after =>
            obtain rfl : c = '\'' := by simpa using stop c rfl
            exact ⟨after, by rw [split, List.cons_append], no_quote⟩
      · cases h
    · cases h
  · rintro ⟨after, rfl, plain⟩
    have inside : ∀ c ∈ content, (c != '\'') = true := by
      intro c hc
      exact bne_iff_ne.mpr fun e => plain (e ▸ hc)
    have front := (takeWhile_eq_iff _ (content ++ '\'' :: after)).mpr ⟨rfl, inside, by simp⟩
    rw [List.cons_append, quotedAt?, if_pos (by simp), front.1]

theorem bareAt?_eq_some_iff : bareAt? cs = some token ↔ ∃ after, StandsBare cs token after := by
  constructor
  · intro h
    rw [bareAt?] at h
    split at h
    · cases h
    · next some =>
      obtain ⟨split, solid, stop⟩ :=
        (takeWhile_eq_iff (!isBlank ·) cs).mp ⟨Option.some.inj h, rfl⟩
      rw [Option.some.inj h] at some
      exact ⟨_, split, by simpa using some, by simpa using solid, by simpa using stop⟩
  · rintro ⟨after, rfl, ne_nil, solid, stop⟩
    have front := (takeWhile_eq_iff (!isBlank ·) (token ++ after)).mpr
      ⟨rfl, by simpa using solid, by simpa using stop⟩
    rw [bareAt?]
    simp only [front.1]
    exact if_neg (by simpa using ne_nil)

/-- A value does not start with a blank. -/
theorem StandsValue.not_isBlank_head {quoted : Bool} (h : StandsValue cs content quoted after) :
    ∀ c ∈ cs.head?, isBlank c = false := by
  cases h with
  | quoted value =>
      rw [value.1]
      rintro c ⟨⟩
      decide
  | bare value =>
      obtain ⟨rfl, ne_nil, solid, -⟩ := value
      obtain ⟨c, token, rfl⟩ := List.exists_cons_of_ne_nil ne_nil
      rintro d ⟨⟩
      exact solid c (List.mem_cons_self ..)

theorem StandsValue.quotedAt?_eq {quoted : Bool} (h : StandsValue cs content quoted after) :
    quotedAt? cs = if quoted then some content else none := by
  cases h with
  | quoted value => exact quotedAt?_eq_some_iff.mpr ⟨after, value⟩
  | bare _ incomplete =>
      refine Option.eq_none_iff_forall_ne_some.mpr fun content found => ?_
      obtain ⟨after', value⟩ := quotedAt?_eq_some_iff.mp found
      exact incomplete content after' value

theorem StandsQuoted.drop_eq (h : StandsQuoted cs content after) :
    cs.drop (content.length + 2) = after := by
  rw [h.1, List.append_cons]
  exact List.drop_left' (by simp)

theorem StandsBare.drop_eq (h : StandsBare cs token after) : cs.drop token.length = after := by
  rw [h.1]
  exact List.drop_left

/-- A quoted text holds no quote; a bare token holds no blank and ends at one, or at the end. -/
theorem Stands.written {a : Assignment} (h : Stands cs a after) :
    (a.quoted = true → '\'' ∉ a.content) ∧
      (a.quoted = false → (∀ c ∈ a.content, isBlank c = false) ∧
        ∀ c ∈ after.head?, isBlank c = true) := by
  cases h with
  | intro _ _ _ _ _ here =>
      cases here with
      | quoted value => exact ⟨fun _ => value.2, nofun⟩
      | bare value => exact ⟨nofun, fun _ => value.2.2⟩

/-- An assignment takes a part of the text. -/
theorem Stands.exists_front {a : Assignment} (h : Stands cs a after) :
    ∃ front, front ≠ [] ∧ cs = front ++ after := by
  cases h with
  | @intro key gap gap' value content after quoted ne_nil _ _ _ _ here =>
      have value : ∃ written, value = written ++ after := by
        cases here with
        | quoted value => exact ⟨'\'' :: content ++ ['\''], by rw [value.1]; simp⟩
        | bare value => exact ⟨content, value.1⟩
      obtain ⟨written, rfl⟩ := value
      exact ⟨key ++ gap ++ ':' :: (gap' ++ written), by simp [ne_nil], by simp⟩

/-- **What is found** at the start of a text is the assignment that stands there. -/
theorem assignmentAt?_eq_some_iff {a : Assignment} :
    assignmentAt? cs = some (a, after) ↔ Stands cs a after := by
  constructor
  · intro h
    rw [assignmentAt?] at h
    dsimp only at h
    split at h
    · cases h
    next some_key =>
    split at h
    · next afterColon colon =>
      obtain ⟨gap, left, gap_left⟩ := skipBlank_eq (cs.dropWhile isWord)
      obtain ⟨gap', right, gap_right⟩ := skipBlank_eq afterColon
      obtain ⟨whole, word, longest⟩ := (takeWhile_eq_iff isWord cs).mp ⟨rfl, rfl⟩
      rw [colon, right] at left
      rw [left] at whole longest
      have stands : ∀ {content quoted after},
          StandsValue (skipBlank afterColon) content quoted after →
          Stands cs ⟨cs.takeWhile isWord, content, quoted⟩ after := by
        intro content quoted after here
        have found := Stands.intro (by simpa using some_key) word longest gap_left gap_right here
        rwa [List.append_assoc, ← whole] at found
      split at h
      · next content found =>
        obtain ⟨after', value⟩ := quotedAt?_eq_some_iff.mp found
        cases h
        rw [value.drop_eq]
        exact stands (.quoted value)
      · next none =>
        split at h
        · next token found =>
          obtain ⟨after', value⟩ := bareAt?_eq_some_iff.mp found
          cases h
          rw [value.drop_eq]
          refine stands (.bare value fun content after' value' => ?_)
          rw [quotedAt?_eq_some_iff.mpr ⟨after', value'⟩] at none
          cases none
        · cases h
    · cases h
  · intro h
    cases h with
    | @intro key gap gap' value content after quoted ne_nil word longest gap_left gap_right here =>
        have front := (takeWhile_eq_iff _ _).mpr ⟨rfl, word, longest⟩
        have colon : ∀ c ∈ (':' :: (gap' ++ value)).head?, isBlank c = false := by
          rintro c ⟨⟩
          decide
        rw [List.append_assoc, assignmentAt?]
        simp only [front.1, front.2, skipBlank_append gap_left colon,
          skipBlank_append gap_right here.not_isBlank_head, here.quotedAt?_eq]
        rw [if_neg (by simpa using ne_nil)]
        cases here with
        | quoted value => simp only [if_true, value.drop_eq]
        | bare value =>
            simp only [Bool.false_eq_true, if_false, bareAt?_eq_some_iff.mpr ⟨after, value⟩,
              value.drop_eq]

/-- **An assignment starts with its key**, a run of word characters, and then comes the colon, with
at most one blank before it. -/
theorem assignmentAt?_eq_some {a : Assignment} (h : assignmentAt? cs = some (a, after)) :
    (∀ c ∈ a.key, isWord c = true) ∧ ∃ gap rest, cs = a.key ++ gap ++ ':' :: rest ∧ IsGap gap := by
  cases assignmentAt?_eq_some_iff.mp h with
  | @intro key gap gap' value _ _ _ _ word _ gap_left =>
      exact ⟨word, gap, gap' ++ value, rfl, gap_left⟩

end Found

/-! ### Assignments that are written out -/

namespace Assignment

/-- The value as it is written: a text between single quotes, or a bare token. -/
def written (a : Assignment) : List Char :=
  if a.quoted then '\'' :: a.content ++ ['\''] else a.content

/-- The assignment as it is written. -/
def text (a : Assignment) : List Char := a.key ++ ':' :: ' ' :: a.written

/-- The key is a run of word characters.  A quoted text holds no quote and no line break; a bare
token is not empty, holds no blank and does not start with a quote. -/
structure IsProper (a : Assignment) : Prop where
  key_ne_nil : a.key ≠ []
  key : ∀ c ∈ a.key, isWord c = true
  quoted : a.quoted = true → ∀ c ∈ a.content, c ≠ '\'' ∧ isBreak c = false
  bare_ne_nil : a.quoted = false → a.content ≠ []
  bare : a.quoted = false → ∀ c ∈ a.content, isBlank c = false
  bare_head : a.quoted = false → a.content.head? ≠ some '\''

variable {a : Assignment}

/-- An assignment is written on one line. -/
theorem IsProper.not_isBreak (h : a.IsProper) : ∀ c ∈ a.text, isBreak c = false := by
  have key : ∀ c ∈ a.key, isBreak c = false :=
    fun c hc => not_isBreak_of_not_isBlank (not_isBlank_of_isWord (h.key c hc))
  have colon : isBreak ':' = false := by decide
  have space : isBreak ' ' = false := by decide
  have written : ∀ c ∈ a.written, isBreak c = false := by
    rw [Assignment.written]
    by_cases hq : a.quoted = true
    · have quote : isBreak '\'' = false := by decide
      have content : ∀ c ∈ a.content, isBreak c = false := fun c hc => (h.quoted hq c hc).2
      simp only [hq, if_true, List.mem_append, List.mem_cons]
      rintro c ((rfl | hc) | rfl | hc)
      · exact quote
      · exact content c hc
      · exact quote
      · cases hc
    · rw [if_neg hq]
      exact fun c hc => not_isBreak_of_not_isBlank (h.bare (by simpa using hq) c hc)
  simp only [text, List.mem_append, List.mem_cons]
  rintro c (hc | rfl | rfl | hc)
  · exact key c hc
  · exact colon
  · exact space
  · exact written c hc

/-- An assignment starts with a word character. -/
theorem IsProper.head_text (h : a.IsProper) : ∃ c rest, a.text = c :: rest ∧ isWord c = true := by
  obtain ⟨c, rest, e⟩ := List.exists_cons_of_ne_nil h.key_ne_nil
  exact ⟨c, rest ++ ':' :: ' ' :: a.written, by rw [text, e]; rfl, h.key c (by simp [e])⟩

end Assignment

/-- **A proper assignment** that is written out, at the end of a line or before a blank, is found
there, and what follows it is left. -/
theorem assignmentAt?_text {a : Assignment} (h : a.IsProper) {rest : List Char}
    (hr : ∀ c ∈ rest.head?, isBlank c = true) :
    assignmentAt? (a.text ++ rest) = some (a, rest) := by
  rw [assignmentAt?_eq_some_iff]
  obtain ⟨key, content, quoted⟩ := a
  have value :
      StandsValue (Assignment.written ⟨key, content, quoted⟩ ++ rest) content quoted rest := by
    cases quoted with
    | true => exact .quoted ⟨by simp [Assignment.written], fun mem => (h.quoted rfl _ mem).1 rfl⟩
    | false =>
        refine .bare ⟨rfl, h.bare_ne_nil rfl, h.bare rfl, hr⟩ fun text after quoted => ?_
        obtain ⟨c, content, rfl⟩ := List.exists_cons_of_ne_nil (h.bare_ne_nil rfl)
        exact h.bare_head rfl (congrArg some (List.cons.inj quoted.1).1)
  have colon : ∀ c ∈ ([] ++ ':' :: ([' '] ++
      (Assignment.written ⟨key, content, quoted⟩ ++ rest))).head?, isWord c = false := by
    rintro c ⟨⟩
    decide
  have gap : IsGap [' '] := .inr ⟨' ', isBlank_space, rfl⟩
  have stands := Stands.intro h.key_ne_nil h.key colon (.inl rfl) gap value
  simpa [Assignment.text] using stands

/-! ### Scanning a line -/

theorem scanFrom_eq_drop (skip : Nat) (cs : List Char) :
    scanFrom skip cs = scan (cs.drop skip) := by
  induction cs generalizing skip with
  | nil => cases skip <;> rfl
  | cons c rest ih =>
      cases skip with
      | zero => rfl
      | succ skip => exact ih skip

/-- Where no assignment is found the scan goes on one character later. -/
theorem scan_cons_of_none {c : Char} {rest : List Char} (h : assignmentAt? (c :: rest) = none) :
    scan (c :: rest) = scan rest := by
  rw [scan, scanFrom, h]
  rfl

/-- Where an assignment is found the scan goes on after it. -/
theorem scan_of_some {cs after : List Char} {a : Assignment}
    (h : assignmentAt? cs = some (a, after)) (hs : after <:+ cs.tail) :
    scan cs = a :: scan after := by
  cases cs with
  | nil => cases h
  | cons c rest =>
      have left : rest.drop (rest.length - after.length) = after :=
        (List.suffix_iff_eq_drop.mp hs).symm
      rw [scan, scanFrom, h]
      simp only [scanFrom_eq_drop, left]

/-! ### Scanning the lines of a text -/

/-- The assignments of the lines of a text. -/
def assignmentsIn (cs : List Char) : List Assignment := (partsAt isBreak cs).flatMap scan

theorem assignmentsIn_cons_of_isBreak {c : Char} (h : isBreak c = true) (cs : List Char) :
    assignmentsIn (c :: cs) = assignmentsIn cs := by
  rw [assignmentsIn, partsAt_cons_of_between h, List.flatMap_cons]
  rfl

/-- No assignment is found at the start of a text whose first colon comes after `pre`, unless the
key goes on after `pre` or the colon follows right away. -/
theorem assignmentAt?_eq_none {cs pre rest : List Char} (hp : cs <+: pre ++ rest) (hc : ':' ∉ pre)
    (hr : rest ≠ [] → (∃ b ∈ pre.getLast?, isBlank b = true) ∧ rest.head? ≠ some ':') :
    assignmentAt? cs = none := by
  rw [Option.eq_none_iff_forall_ne_some]
  rintro ⟨a, after⟩ h
  obtain ⟨key, gap, tail, rfl, hgap⟩ := assignmentAt?_eq_some h
  obtain ⟨more, hmore⟩ := hp
  rw [List.append_assoc, List.cons_append] at hmore
  rcases List.append_eq_append_iff.mp hmore.symm with ⟨z, hz, hrest⟩ | ⟨z, hz, hrest⟩
  · -- the colon stands after `pre`, whose last character is a blank
    have hne : rest ≠ [] := by
      rw [hrest]
      exact List.append_ne_nil_of_right_ne_nil _ (List.cons_ne_nil _ _)
    obtain ⟨⟨b, hb, blank⟩, head⟩ := hr hne
    obtain ⟨front, rfl⟩ := List.getLast?_eq_some_iff.mp hb
    have not_key : b ∉ a.key := by
      intro hmem
      have word := key b hmem
      rw [not_isWord_of_isBlank blank] at word
      cases word
    rcases hgap with rfl | ⟨g, -, rfl⟩
    · rw [List.append_nil] at hz
      exact not_key (by simp [hz])
    · rcases List.eq_nil_or_concat z with rfl | ⟨z', g', rfl⟩
      · exact head (by rw [hrest]; rfl)
      · -- the blank before the colon is a later one, so that of `pre` is part of the key
        rw [List.concat_eq_append, ← List.append_assoc] at hz
        obtain ⟨hkey, -⟩ := List.append_inj' hz rfl
        exact not_key (by simp [hkey])
  · cases z with
    | nil =>
        have hne : rest ≠ [] := by
          rw [← List.nil_append rest, ← hrest]
          exact List.cons_ne_nil _ _
        exact (hr hne).2 (by rw [← List.nil_append rest, ← hrest]; rfl)
    | cons c z =>
        obtain rfl : ':' = c := (List.cons.inj hrest).1
        exact hc (by simp [hz])

/-- **What a scan passes over**: a text without a colon, up to the end or up to a blank before a
character other than a colon. -/
theorem assignmentsIn_skip {pre rest : List Char} (hc : ':' ∉ pre)
    (hr : rest ≠ [] → pre ≠ [] → (∃ b ∈ pre.getLast?, isBlank b = true) ∧ rest.head? ≠ some ':') :
    assignmentsIn (pre ++ rest) = assignmentsIn rest := by
  induction pre with
  | nil => rfl
  | cons c pre ih =>
      have hc' : ':' ∉ pre := fun hmem => hc (List.mem_cons_of_mem _ hmem)
      have hr' : rest ≠ [] → pre ≠ [] →
          (∃ b ∈ pre.getLast?, isBlank b = true) ∧ rest.head? ≠ some ':' := by
        intro hrest hpre
        obtain ⟨⟨b, hb, blank⟩, head⟩ := hr hrest (List.cons_ne_nil _ _)
        rw [List.getLast?_cons_of_ne_nil hpre] at hb
        exact ⟨⟨b, hb, blank⟩, head⟩
      rw [List.cons_append]
      by_cases hbreak : isBreak c = true
      · rw [assignmentsIn_cons_of_isBreak hbreak, ih hc' hr']
      · obtain ⟨part, parts, e⟩ :=
          List.exists_cons_of_ne_nil (partsAt_ne_nil isBreak (pre ++ rest))
        have front : c :: part <+: c :: pre ++ rest :=
          List.cons_prefix_cons.mpr ⟨rfl, prefix_of_partsAt e⟩
        have nothing : assignmentAt? (c :: part) = none :=
          assignmentAt?_eq_none front hc fun h => hr h (List.cons_ne_nil _ _)
        rw [← ih hc' hr', assignmentsIn, assignmentsIn, e,
          partsAt_cons_of_not (by simpa using hbreak) e, List.flatMap_cons, List.flatMap_cons,
          scan_cons_of_none nothing]

/-- **What a scan takes**: a proper assignment that is written out. -/
theorem assignmentsIn_text {a : Assignment} (h : a.IsProper) {rest : List Char}
    (hr : ∀ c ∈ rest.head?, isBlank c = true) :
    assignmentsIn (a.text ++ rest) = a :: assignmentsIn rest := by
  obtain ⟨part, parts, e⟩ := List.exists_cons_of_ne_nil (partsAt_ne_nil isBreak rest)
  have hp : ∀ c ∈ part.head?, isBlank c = true := fun c hc => hr c (mem_head?_of_partsAt e hc)
  obtain ⟨c, tail, htext, -⟩ := h.head_text
  have suffix : part <:+ (a.text ++ part).tail := by
    rw [htext]
    exact List.suffix_append tail part
  rw [assignmentsIn, partsAt_append h.not_isBreak e, List.flatMap_cons,
    scan_of_some (assignmentAt?_text h hp) suffix, assignmentsIn, e]
  rfl

end Postprocessor.Trace
