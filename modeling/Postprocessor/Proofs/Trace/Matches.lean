import Postprocessor.Proofs.Text.Pattern
import Postprocessor.Proofs.Trace.Blocks

/-!
# Proofs — the assignments of a line as matches

The scan of a line looks for a key, takes as much as it can and never goes back.  The assignments
that it finds are the matches of a pattern, which is tried way after way, and what stands where a
match is found can be said without either.

* `keyValue`: the pattern of an assignment, and `ofGroups`, what the groups of a match tell.
* `first?_keyValue`, `exists_first?_iff`: the pattern has a match where an assignment stands.
* `IsGiven`: the assignments of the matches in a line; `isGiven_iff` says that these are the ones
  that the scan finds.
* `scan_leftmost`: where the matches stand, that none is passed over, and what the values are.
-/

namespace Postprocessor.Trace
open Text Pattern

/-! ### The pattern -/

/-- A key under a number, a colon with at most one blank on each side, and a value. -/
def keyed (number : Nat) (value : Pattern) : Pattern :=
  .seq (.group number (.run isWord)) <| .seq (.optional isBlank) <| .seq (.one (· == ':')) <|
    .seq (.optional isBlank) value

/-- A text between single quotes. -/
def quotedText (number : Nat) : Pattern :=
  .seq (.one (· == '\'')) <| .seq (.group number (.many (· != '\''))) (.one (· == '\''))

/-- A bare token. -/
def bareToken (number : Nat) : Pattern := .group number (.run (!isBlank ·))

/-- The pattern of an assignment: a key with a quoted text or else with a bare token. -/
def keyValue : Pattern := .either (keyed 1 (quotedText 2)) (keyed 3 (bareToken 4))

/-- The assignment that the groups of a match tell. -/
def ofGroups (groups : Groups) : Assignment :=
  match groups.lookup 1 with
  | some key => ⟨key, (groups.lookup 2).getD [], true⟩
  | none => ⟨(groups.lookup 3).getD [], (groups.lookup 4).getD [], false⟩

section Matching

variable {cs : List Char} {q : Pattern} {number : Nat}

theorem first?_either (p q : Pattern) (cs : List Char) :
    (either p q).first? cs = (p.first? cs).or (q.first? cs) := by
  rw [first?, ways_either, List.head?_append]
  rfl

/-- At most one blank, in front of a pattern that cannot start with one. -/
theorem ways_gap_seq (solid : ∀ c cs, isBlank c = true → q.ways (c :: cs) = []) (cs : List Char) :
    (seq (optional isBlank) q).ways cs = q.ways (skipBlank cs) := by
  cases cs with
  | nil => exact ways_optional_seq_nil
  | cons c cs =>
      rw [ways_optional_seq solid, skipBlank]
      split <;> rfl

/-- The key and the colon of a match are found without going back. -/
theorem first?_keyed (solid : ∀ c cs, isBlank c = true → q.ways (c :: cs) = []) :
    (keyed number q).first? cs =
      if cs.takeWhile isWord ≠ [] ∧ (skipBlank (cs.dropWhile isWord)).head? = some ':' then
        (q.first? (skipBlank (skipBlank (cs.dropWhile isWord)).tail)).map fun w =>
          ((number, cs.takeWhile isWord) :: w.1, w.2)
      else none := by
  have colon : ∀ c cs, isBlank c = true →
      (seq (one (· == ':')) (seq (optional isBlank) q)).ways (c :: cs) = [] := by
    intro c cs hc
    rw [ways_one_seq, if_neg]
    simp only [beq_iff_eq]
    rintro rfl
    exact absurd hc (by decide)
  have gap : ∀ c cs, isWord c = true → (seq (optional isBlank)
      (seq (one (· == ':')) (seq (optional isBlank) q))).ways (c :: cs) = [] := by
    intro c cs hc
    rw [ways_gap_seq colon, skipBlank_of_not (not_isBlank_of_isWord hc), ways_one_seq, if_neg]
    simp only [beq_iff_eq]
    rintro rfl
    exact absurd hc (by decide)
  rw [first?, keyed, ways_group_run_seq gap, ways_gap_seq colon]
  by_cases empty : cs.takeWhile isWord = []
  · rw [if_pos empty, if_neg fun h => h.1 empty]
    rfl
  rw [if_neg empty]
  cases skipBlank (cs.dropWhile isWord) with
  | nil =>
      rw [if_neg (by simp)]
      rfl
  | cons c rest =>
      rw [ways_one_seq, ways_gap_seq solid, List.head?_map]
      by_cases hc : c = ':'
      · subst hc
        rw [if_pos (beq_self_eq_true _), if_pos ⟨empty, rfl⟩]
        rfl
      · rw [if_neg (by simpa using hc), if_neg fun h => hc (Option.some.inj h.2)]
        rfl

theorem first?_quotedText (number : Nat) (cs : List Char) : (quotedText number).first? cs =
    (quotedAt? cs).map fun content => ([(number, content)], cs.drop (content.length + 2)) := by
  cases cs with
  | nil => rfl
  | cons c rest =>
      have closing : ∀ c cs, (c != '\'') = true → (one (· == '\'')).ways (c :: cs) = [] := by
        intro c cs hc
        rw [ways_one_cons, if_neg (by simpa using hc)]
      rw [first?, quotedText, ways_one_seq, ways_group_many_seq closing]
      by_cases hc : c = '\''
      · subst hc
        rw [if_pos (beq_self_eq_true _)]
        obtain ⟨split, inside, stop⟩ :=
          (takeWhile_eq_iff (· != '\'') rest).mp ⟨rfl, rfl⟩
        generalize rest.takeWhile (· != '\'') = content at split inside ⊢
        generalize rest.dropWhile (· != '\'') = left at split stop ⊢
        have no_quote : '\'' ∉ content := fun mem => by simpa using inside _ mem
        cases left with
        | nil =>
            -- the quote that would close the text is missing
            rw [List.append_nil] at split
            rw [split, quotedAt?, if_neg (by simpa using no_quote)]
            rfl
        | cons d after =>
            obtain rfl : d = '\'' := by simpa using stop d rfl
            have value : StandsQuoted ('\'' :: rest) content after :=
              ⟨by rw [split, List.cons_append], no_quote⟩
            rw [quotedAt?_eq_some_iff.mpr ⟨after, value⟩, Option.map_some, value.drop_eq]
            rfl
      · rw [if_neg (by simpa using hc), quotedAt?]
        · rfl
        · rintro _ e
          exact hc (List.cons.inj e).1

theorem first?_bareToken (number : Nat) (cs : List Char) : (bareToken number).first? cs =
    (bareAt? cs).map fun token => ([(number, token)], cs.drop token.length) := by
  rw [bareToken, first?_group_run]
  split
  · next none =>
    rw [bareAt?, if_pos (by simpa using none)]
    rfl
  · next some =>
    have left : cs.drop (cs.takeWhile (!isBlank ·)).length = cs.dropWhile (!isBlank ·) := by
      have split := List.takeWhile_append_dropWhile (p := (!isBlank ·)) (l := cs)
      exact (congrArg (List.drop _) split.symm).trans List.drop_left
    rw [bareAt?, if_neg (by simpa using some), Option.map_some, left]

/-- **The pattern finds what the scan finds.** -/
theorem first?_keyValue (cs : List Char) :
    (keyValue.first? cs).map (fun w => (ofGroups w.1, w.2)) = assignmentAt? cs := by
  have quoted : ∀ c cs, isBlank c = true → (quotedText 2).ways (c :: cs) = [] := by
    intro c cs hc
    rw [quotedText, ways_one_seq, if_neg]
    simp only [beq_iff_eq]
    rintro rfl
    exact absurd hc (by decide)
  have bare : ∀ c cs, isBlank c = true → (bareToken 4).ways (c :: cs) = [] := by
    intro c cs hc
    have none := first?_bareToken 4 (c :: cs)
    rw [bareAt?, List.takeWhile_cons_of_neg (by simpa using hc)] at none
    exact first?_eq_none_iff.mp none
  rw [keyValue, first?_either, first?_keyed quoted, first?_keyed bare, assignmentAt?]
  by_cases empty : cs.takeWhile isWord = []
  · rw [if_neg fun h => h.1 empty, if_neg fun h => h.1 empty, if_pos (by simpa using empty)]
    rfl
  rw [if_neg (c := (cs.takeWhile isWord).isEmpty = true) (by simpa using empty)]
  by_cases colon : (skipBlank (cs.dropWhile isWord)).head? = some ':'
  · obtain ⟨rest, e⟩ := List.head?_eq_some_iff.mp colon
    rw [if_pos ⟨empty, colon⟩, if_pos ⟨empty, colon⟩, first?_quotedText, first?_bareToken, e]
    simp only [List.tail_cons]
    cases quotedAt? (skipBlank rest) with
    | some content => rfl
    | none => cases bareAt? (skipBlank rest) <;> rfl
  · rw [if_neg fun h => colon h.2, if_neg fun h => colon h.2]
    split
    · next e => exact absurd (congrArg List.head? e) colon
    · rfl

/-- The matches of the pattern are the assignments that stand in a text. -/
theorem exists_first?_iff {a : Assignment} {after : List Char} :
    (∃ groups, keyValue.first? cs = some (groups, after) ∧ ofGroups groups = a) ↔
      Stands cs a after := by
  rw [← assignmentAt?_eq_some_iff, ← first?_keyValue, Option.map_eq_some_iff]
  constructor
  · rintro ⟨groups, found, rfl⟩
    exact ⟨(groups, after), found, rfl⟩
  · rintro ⟨⟨groups, after'⟩, found, e⟩
    cases e
    exact ⟨groups, found, rfl⟩

end Matching

/-! ### The assignments of a line -/

/-- The assignments of the matches in a line, from left to right. -/
def IsGiven (line : List Char) (given : List Assignment) : Prop :=
  ∃ ms, keyValue.Leftmost line 0 ms ∧ given = ms.map fun m => ofGroups m.groups

section Line

variable {line : List Char} {m : Match} {ms : List Match}

/-- The scan passes over the places at which nothing is found. -/
theorem scan_drop_of_none {place stop : Nat} (le : place ≤ stop)
    (none : ∀ i, place ≤ i → i < stop → keyValue.ways (line.drop i) = []) :
    scan (line.drop place) = scan (line.drop stop) := by
  induction le with
  | refl => rfl
  | @step stop le ih =>
      rw [ih fun i hi less => none i hi (Nat.lt_succ_of_lt less), ← List.tail_drop]
      have nothing := first?_eq_none_iff.mpr (none stop le (Nat.lt_succ_self stop))
      cases e : line.drop stop with
      | nil => rfl
      | cons c rest =>
          rw [e] at nothing
          exact scan_cons_of_none (by rw [← first?_keyValue, nothing, Option.map_none])

theorem stands_of_isFirst (h : m.IsFirst keyValue line) :
    Stands (line.drop m.start) (ofGroups m.groups) (line.drop m.stop) :=
  exists_first?_iff.mp ⟨m.groups, h.first, rfl⟩

/-- What the scan finds from a place on are the matches from there on. -/
theorem scan_of_leftmost {place : Nat} (h : keyValue.Leftmost line place ms) :
    scan (line.drop place) = ms.map fun m => ofGroups m.groups := by
  induction h with
  | @nil place none =>
      rcases Nat.le_total place line.length with inside | beyond
      · rw [scan_drop_of_none inside fun i hi _ => none i hi, List.drop_length]
        rfl
      · rw [List.drop_eq_nil_of_le beyond]
        rfl
  | @cons place m ms later none here _ ih =>
      have found := assignmentAt?_eq_some_iff.mpr (stands_of_isFirst here)
      have suffix : line.drop m.stop <:+ (line.drop m.start).tail := by
        rw [List.tail_drop]
        exact List.drop_suffix_drop_left line here.nonempty
      rw [scan_drop_of_none later none, scan_of_some found suffix, ih, List.map_cons]

theorem exists_leftmost_keyValue (line : List Char) : ∃ ms, keyValue.Leftmost line 0 ms := by
  refine exists_leftmost (fun cs w found => ?_) line 0
  obtain ⟨front, ne_nil, rfl⟩ := (exists_first?_iff.mp ⟨w.1, found, rfl⟩).exists_front
  have length := List.length_pos_iff.mpr ne_nil
  exact ⟨by rw [List.length_append]; omega, List.suffix_append ..⟩

/-- **The scan finds the assignments of the matches.** -/
theorem isGiven_iff {given : List Assignment} : IsGiven line given ↔ given = scan line := by
  constructor
  · rintro ⟨ms, h, rfl⟩
    exact (scan_of_leftmost h).symm
  · rintro rfl
    obtain ⟨ms, h⟩ := exists_leftmost_keyValue line
    exact ⟨ms, h, scan_of_leftmost h⟩

/-- **The scan implements its pattern.**  Where the pattern has a match an assignment stands, and
the other way round.  The assignments of a line, and so the values that its parameters are given,
are those of the leftmost matches that do not overlap: each starts at the first place that has one,
not before the end of the match before it.  So an assignment that stands anywhere in the line lies
in one of them or starts inside it.  A quoted text holds no quote and is taken as it stands; a bare
token holds no blank, reaches up to one or to the end, and is taken by its form. -/
theorem scan_leftmost (line : List Char) :
    (∀ cs a after, (∃ groups, keyValue.first? cs = some (groups, after) ∧ ofGroups groups = a) ↔
      Stands cs a after) ∧
    ∃ ms : List Match, (∀ ms', keyValue.Leftmost line 0 ms' ↔ ms' = ms) ∧
      scan line = ms.map (fun m => ofGroups m.groups) ∧
      (∀ params, assign params line = giveAll params (ms.map fun m => ofGroups m.groups)) ∧
      (∀ i a after, Stands (line.drop i) a after → ∃ m ∈ ms, m.start ≤ i ∧ i < m.stop) ∧
      ∀ m ∈ ms, Stands (line.drop m.start) (ofGroups m.groups) (line.drop m.stop) ∧
        ((ofGroups m.groups).quoted = true → '\'' ∉ (ofGroups m.groups).content ∧
          (ofGroups m.groups).value = .text (String.ofList (ofGroups m.groups).content)) ∧
        ((ofGroups m.groups).quoted = false →
          (∀ c ∈ (ofGroups m.groups).content, isBlank c = false) ∧
          (∀ c ∈ (line.drop m.stop).head?, isBlank c = true) ∧
          (ofGroups m.groups).value = .ofToken (ofGroups m.groups).content) := by
  refine ⟨fun cs a after => exists_first?_iff, ?_⟩
  obtain ⟨ms, h⟩ := exists_leftmost_keyValue line
  have given : scan line = ms.map fun m => ofGroups m.groups := scan_of_leftmost h
  refine ⟨ms, fun ms' => ⟨fun h' => h'.unique h, fun e => e ▸ h⟩, given, ?_, ?_, ?_⟩
  · intro params
    rw [assign_eq, given]
  · intro i a after stands
    refine h.exists_mem (Nat.zero_le i) fun none => ?_
    obtain ⟨groups, found, -⟩ := exists_first?_iff.mpr stands
    rw [first?_eq_none_iff.mpr none] at found
    cases found
  · intro m mem
    have stands := stands_of_isFirst (h.isFirst m mem)
    obtain ⟨quoted, bare⟩ := stands.written
    refine ⟨stands, fun hq => ⟨quoted hq, ?_⟩, fun hq => ⟨(bare hq).1, (bare hq).2, ?_⟩⟩
    · rw [Assignment.value, if_pos hq]
    · rw [Assignment.value, if_neg (by simp [hq])]

/-- Where an assignment stands inside the value of another one, the match of that one is found. -/
theorem scan_leftmost_colon : Stands ("a:b:c".toList.drop 2) ⟨['b'], ['c'], false⟩ [] ∧
    ∃ m : Match, m.start ≤ 2 ∧ 2 < m.stop ∧
      Stands ("a:b:c".toList.drop m.start) (ofGroups m.groups) ("a:b:c".toList.drop m.stop) := by
  have inner : Stands ("a:b:c".toList.drop 2) ⟨['b'], ['c'], false⟩ [] :=
    assignmentAt?_eq_some_iff.mp (by decide)
  obtain ⟨-, ms, -, -, -, covers, stands⟩ := scan_leftmost "a:b:c".toList
  obtain ⟨m, mem, before, after⟩ := covers 2 _ _ inner
  exact ⟨inner, m, before, after, (stands m mem).1⟩

/-- A bare token with a colon, a quoted text, a key right after its quote, and a quote that is not
closed. -/
example : scan "a:b: c:'d: e'f:'g h : i".toList =
    [⟨['a'], "b:".toList, false⟩, ⟨['c'], "d: e".toList, true⟩, ⟨['f'], "'g".toList, false⟩,
      ⟨['h'], ['i'], false⟩] := by decide

end Line

end Postprocessor.Trace
