/-!
# Proofs — patterns

A pattern says how a text may start.  It is matched by trying its ways in a fixed order: a run of
characters gives back one character after another until the rest of the pattern fits, and of two
patterns the first one is tried before the second.  The first way that fits is the match.

* `Pattern.ways`: all ways to match a pattern at the start of a text, in this order; `ways_seq`,
  `ways_either` and the like: how they are made of those of its parts.
* `Pattern.first?`: the match at the start of a text.
* `ways_optional_seq`, `ways_group_run_seq`, `ways_group_many_seq`: where nothing is given back.
* `Pattern.Leftmost`: the matches in a text, from left to right; `Leftmost.unique`,
  `Leftmost.exists_mem` and `exists_leftmost` say that there is one such list and that no match is
  passed over.
-/

namespace Postprocessor.Text

/-- What a text may start with. -/
inductive Pattern where
  | nothing
  /-- A character of a kind. -/
  | one (kind : Char → Bool)
  /-- Characters of a kind, as many as possible. -/
  | many (kind : Char → Bool)
  | seq (first second : Pattern)
  /-- One of two patterns, preferably the first. -/
  | either (first second : Pattern)
  /-- A pattern whose text is kept under a number. -/
  | group (number : Nat) (inner : Pattern)

/-- The texts of the groups of a match. -/
abbrev Groups := List (Nat × List Char)

namespace Pattern

/-- A character of a kind, if there is one. -/
def optional (kind : Char → Bool) : Pattern := .either (.one kind) .nothing

/-- Characters of a kind, as many as possible and no fewer than one. -/
def run (kind : Char → Bool) : Pattern := .seq (.one kind) (.many kind)

/-- What is left of a text after characters of a kind, from as many as possible down to none. -/
def rests (kind : Char → Bool) : List Char → List (List Char)
  | [] => [[]]
  | c :: cs => if kind c then rests kind cs ++ [c :: cs] else [c :: cs]

/-- The ways to match a pattern at the start of a text, in the order in which they are tried: the
groups, and the text that is left. -/
def ways : Pattern → List Char → List (Groups × List Char)
  | nothing, cs => [([], cs)]
  | one kind, c :: cs => if kind c then [([], cs)] else []
  | one _, [] => []
  | many kind, cs => (rests kind cs).map ([], ·)
  | seq p q, cs => (p.ways cs).flatMap fun w => (q.ways w.2).map fun v => (w.1 ++ v.1, v.2)
  | either p q, cs => p.ways cs ++ q.ways cs
  | group number p, cs =>
    (p.ways cs).map fun w => ((number, cs.take (cs.length - w.2.length)) :: w.1, w.2)

/-- The match of a pattern at the start of a text. -/
def first? (p : Pattern) (cs : List Char) : Option (Groups × List Char) := (p.ways cs).head?

theorem first?_eq_none_iff {p : Pattern} {cs : List Char} : p.first? cs = none ↔ p.ways cs = [] :=
  List.head?_eq_none_iff

section Ways

variable {kind : Char → Bool} {p q : Pattern} {number : Nat} {c : Char} {cs : List Char}

theorem ways_nothing : nothing.ways cs = [([], cs)] := rfl

theorem ways_one_cons : (one kind).ways (c :: cs) = if kind c then [([], cs)] else [] := rfl

theorem ways_many : (many kind).ways cs = (rests kind cs).map ([], ·) := rfl

theorem ways_seq :
    (seq p q).ways cs = (p.ways cs).flatMap fun w => (q.ways w.2).map fun v =>
      (w.1 ++ v.1, v.2) := rfl

theorem ways_either : (either p q).ways cs = p.ways cs ++ q.ways cs := rfl

theorem ways_kept :
    (group number p).ways cs =
      (p.ways cs).map fun w => ((number, cs.take (cs.length - w.2.length)) :: w.1, w.2) := rfl

end Ways

/-! ### Where nothing is given back -/

section Runs

variable {kind : Char → Bool} {p q : Pattern} {number : Nat} {c : Char} {cs : List Char}

theorem ways_one_seq (c : Char) (cs : List Char) :
    (seq (one kind) q).ways (c :: cs) = if kind c then q.ways cs else [] := by
  rw [ways_seq, ways_one_cons]
  split <;> simp

/-- If the rest of a pattern fits after the first way only, no other way counts. -/
theorem ways_seq_of_fails {w : Groups × List Char} {others : List (Groups × List Char)}
    (h : p.ways cs = w :: others) (fails : ∀ v ∈ others, q.ways v.2 = []) :
    (seq p q).ways cs = (q.ways w.2).map fun v => (w.1 ++ v.1, v.2) := by
  rw [ways_seq, h, List.flatMap_cons, List.flatMap_eq_nil_iff.mpr, List.append_nil]
  intro v hv
  rw [fails v hv, List.map_nil]

/-- An optional character that the rest cannot start with. -/
theorem ways_optional_seq (fails : ∀ c cs, kind c = true → q.ways (c :: cs) = []) (c : Char)
    (cs : List Char) :
    (seq (optional kind) q).ways (c :: cs) = if kind c then q.ways cs else q.ways (c :: cs) := by
  rw [optional]
  split
  · next hc =>
    have taken : (either (one kind) nothing).ways (c :: cs) = [([], cs), ([], c :: cs)] := by
      rw [ways_either, ways_one_cons, ways_nothing, if_pos hc]
      rfl
    rw [ways_seq_of_fails taken (List.forall_mem_singleton.mpr (fails c cs hc))]
    simp
  · next hc =>
    have left : (either (one kind) nothing).ways (c :: cs) = [([], c :: cs)] := by
      rw [ways_either, ways_one_cons, ways_nothing, if_neg hc]
      rfl
    rw [ways_seq_of_fails left (List.forall_mem_nil _)]
    simp

theorem ways_optional_seq_nil : (seq (optional kind) q).ways [] = q.ways [] := by
  have left : (optional kind).ways [] = [([], [])] := rfl
  rw [ways_seq_of_fails left (List.forall_mem_nil _)]
  simp

/-- Whatever a run gives back starts with a character of the run. -/
theorem rests_eq (kind : Char → Bool) (cs : List Char) :
    ∃ others, rests kind cs = cs.dropWhile kind :: others ∧
      ∀ r ∈ others, ∃ c r', r = c :: r' ∧ kind c = true := by
  induction cs with
  | nil => exact ⟨[], rfl, nofun⟩
  | cons c cs ih =>
      rw [rests]
      split
      · next hc =>
        obtain ⟨others, split, starts⟩ := ih
        refine ⟨others ++ [c :: cs], ?_, ?_⟩
        · rw [split, List.dropWhile_cons_of_pos hc, List.cons_append]
        · exact List.forall_mem_append.mpr ⟨starts, List.forall_mem_singleton.mpr ⟨c, cs, rfl, hc⟩⟩
      · next hc => exact ⟨[], by rw [List.dropWhile_cons_of_neg hc], nofun⟩

/-- The text of a group that takes all characters of a kind. -/
theorem take_of_dropWhile (kind : Char → Bool) (cs : List Char) :
    cs.take (cs.length - (cs.dropWhile kind).length) = cs.takeWhile kind := by
  have length := congrArg List.length (List.takeWhile_append_dropWhile (p := kind) (l := cs))
  rw [List.length_append] at length
  have split := List.takeWhile_append_dropWhile (p := kind) (l := cs)
  have count : cs.length - (cs.dropWhile kind).length = (cs.takeWhile kind).length := by omega
  rw [count]
  exact List.prefix_iff_eq_take.mp (List.takeWhile_prefix kind) |>.symm

/-- A group that takes all characters of a kind first, and then gives some back. -/
theorem ways_group {others : List (List Char)} (number : Nat)
    (h : p.ways cs = (cs.dropWhile kind :: others).map ([], ·))
    (starts : ∀ r ∈ others, ∃ c r', r = c :: r' ∧ kind c = true) :
    ∃ others', (group number p).ways cs =
        ([(number, cs.takeWhile kind)], cs.dropWhile kind) :: others' ∧
      ∀ v ∈ others', ∃ c r, v.2 = c :: r ∧ kind c = true := by
  refine ⟨others.map fun r => ([(number, cs.take (cs.length - r.length))], r), ?_, ?_⟩
  · rw [ways_kept, h, List.map_map, List.map_cons, Function.comp_apply, take_of_dropWhile]
    rfl
  · intro v hv
    obtain ⟨r, hr, rfl⟩ := List.mem_map.mp hv
    exact starts r hr

theorem ways_group_many (number : Nat) (kind : Char → Bool) (cs : List Char) :
    ∃ others, (group number (many kind)).ways cs =
        ([(number, cs.takeWhile kind)], cs.dropWhile kind) :: others ∧
      ∀ v ∈ others, ∃ c r, v.2 = c :: r ∧ kind c = true := by
  obtain ⟨others, split, starts⟩ := rests_eq kind cs
  exact ways_group number (by rw [ways_many, split]) starts

theorem ways_group_run (number : Nat) (kind : Char → Bool) (cs : List Char) :
    (cs.takeWhile kind = [] ∧ (group number (run kind)).ways cs = []) ∨
      cs.takeWhile kind ≠ [] ∧ ∃ others, (group number (run kind)).ways cs =
          ([(number, cs.takeWhile kind)], cs.dropWhile kind) :: others ∧
        ∀ v ∈ others, ∃ c r, v.2 = c :: r ∧ kind c = true := by
  cases cs with
  | nil => exact .inl ⟨rfl, rfl⟩
  | cons c cs =>
      by_cases hc : kind c = true
      · obtain ⟨others, split, starts⟩ := rests_eq kind cs
        refine .inr ⟨by simp [hc], ways_group number ?_ starts⟩
        rw [run, ways_one_seq, if_pos hc, ways_many, split, List.dropWhile_cons_of_pos hc]
      · refine .inl ⟨List.takeWhile_cons_of_neg hc, ?_⟩
        rw [ways_kept, run, ways_one_seq, if_neg hc, List.map_nil]

/-- A run in front of a pattern that cannot start with a character of the run. -/
theorem ways_group_run_seq (fails : ∀ c cs, kind c = true → q.ways (c :: cs) = []) :
    (seq (group number (run kind)) q).ways cs =
      if cs.takeWhile kind = [] then []
      else (q.ways (cs.dropWhile kind)).map fun v => ((number, cs.takeWhile kind) :: v.1, v.2) := by
  rcases ways_group_run number kind cs with ⟨none, no⟩ | ⟨some, others, split, starts⟩
  · rw [if_pos none, ways_seq, no, List.flatMap_nil]
  · have later : ∀ v ∈ others, q.ways v.2 = [] := by
      intro v hv
      obtain ⟨c, r, e, hc⟩ := starts v hv
      rw [e]
      exact fails c r hc
    rw [if_neg some, ways_seq_of_fails split later]
    rfl

/-- The same for a run that may be empty. -/
theorem ways_group_many_seq (fails : ∀ c cs, kind c = true → q.ways (c :: cs) = []) :
    (seq (group number (many kind)) q).ways cs =
      (q.ways (cs.dropWhile kind)).map fun v => ((number, cs.takeWhile kind) :: v.1, v.2) := by
  obtain ⟨others, split, starts⟩ := ways_group_many number kind cs
  have later : ∀ v ∈ others, q.ways v.2 = [] := by
    intro v hv
    obtain ⟨c, r, e, hc⟩ := starts v hv
    rw [e]
    exact fails c r hc
  rw [ways_seq_of_fails split later]
  rfl

/-- A run at the end of a pattern gives nothing back. -/
theorem first?_group_run : (group number (run kind)).first? cs =
    if cs.takeWhile kind = [] then none
    else some ([(number, cs.takeWhile kind)], cs.dropWhile kind) := by
  rcases ways_group_run number kind cs with ⟨none, no⟩ | ⟨some, others, split, -⟩
  · rw [if_pos none, first?, no, List.head?_nil]
  · rw [if_neg some, first?, split, List.head?_cons]

end Runs

/-! ### The matches in a text -/

/-- A match in a text, from its place `start` up to its place `stop`. -/
structure Match where
  start : Nat
  stop : Nat
  groups : Groups

/-- The pattern has this match where it starts, and it is not empty. -/
structure Match.IsFirst (p : Pattern) (cs : List Char) (m : Match) : Prop where
  first : p.first? (cs.drop m.start) = some (m.groups, cs.drop m.stop)
  nonempty : m.start < m.stop
  inside : m.stop ≤ cs.length

/-- The matches of a pattern in a text, left to right from a place on: each starts at the first
place at which the pattern has a match, not before the end of the match before it. -/
inductive Leftmost (p : Pattern) (cs : List Char) : Nat → List Match → Prop
  | nil {place : Nat} (none : ∀ i, place ≤ i → p.ways (cs.drop i) = []) : Leftmost p cs place []
  | cons {place : Nat} {m : Match} {ms : List Match} (later : place ≤ m.start)
      (none : ∀ i, place ≤ i → i < m.start → p.ways (cs.drop i) = []) (here : m.IsFirst p cs)
      (others : Leftmost p cs m.stop ms) : Leftmost p cs place (m :: ms)

section Matches

variable {p : Pattern} {cs : List Char} {place : Nat} {m m' : Match} {ms ms' : List Match}

theorem Match.IsFirst.ways_ne_nil (h : m.IsFirst p cs) : p.ways (cs.drop m.start) ≠ [] := by
  intro none
  have found := h.first
  rw [first?_eq_none_iff.mpr none] at found
  cases found

theorem Match.IsFirst.unique (h : m.IsFirst p cs) (h' : m'.IsFirst p cs)
    (same : m.start = m'.start) : m = m' := by
  obtain ⟨start, stop, groups⟩ := m
  obtain ⟨start', stop', groups'⟩ := m'
  obtain rfl : start = start' := same
  have both := h.first.symm.trans h'.first
  simp only [Option.some.injEq, Prod.mk.injEq] at both
  have length := congrArg List.length both.2
  have inside := h.inside
  have inside' := h'.inside
  rw [List.length_drop, List.length_drop] at length
  obtain rfl : stop = stop' := by simp only at inside inside'; omega
  rw [both.1]

/-- **There is one list of matches at most.** -/
theorem Leftmost.unique (h : p.Leftmost cs place ms) (h' : p.Leftmost cs place ms') : ms = ms' := by
  induction h generalizing ms' with
  | nil none =>
      cases h' with
      | nil => rfl
      | cons later _ here => exact absurd (none _ later) here.ways_ne_nil
  | @cons place m ms later none here _ ih =>
      cases h' with
      | nil none' => exact absurd (none' _ later) here.ways_ne_nil
      | @cons _ m' ms' later' none' here' others' =>
          -- neither of the two first matches starts before the other
          have same : m.start = m'.start := by
            rcases Nat.lt_trichotomy m.start m'.start with less | same | more
            · exact absurd (none' _ later less) here.ways_ne_nil
            · exact same
            · exact absurd (none _ later' more) here'.ways_ne_nil
          obtain rfl := here.unique here' same
          rw [ih others']

/-- **No match is passed over**: a place at which the pattern has one lies in a match. -/
theorem Leftmost.exists_mem (h : p.Leftmost cs place ms) {i : Nat} (hi : place ≤ i)
    (some : p.ways (cs.drop i) ≠ []) : ∃ m ∈ ms, m.start ≤ i ∧ i < m.stop := by
  induction h with
  | nil none => exact absurd (none i hi) some
  | @cons place m ms later none here _ ih =>
      rcases Nat.lt_or_ge i m.start with before | after
      · exact absurd (none i hi before) some
      rcases Nat.lt_or_ge i m.stop with inside | beyond
      · exact ⟨m, List.mem_cons_self .., after, inside⟩
      · obtain ⟨m', mem, bounds⟩ := ih beyond
        exact ⟨m', List.mem_cons_of_mem _ mem, bounds⟩

theorem Leftmost.isFirst (h : p.Leftmost cs place ms) : ∀ m ∈ ms, m.IsFirst p cs := by
  induction h with
  | nil => exact List.forall_mem_nil _
  | cons _ _ here _ ih => exact List.forall_mem_cons.mpr ⟨here, ih⟩

/-- A place without a match may be added in front. -/
theorem Leftmost.of_none (none : p.ways (cs.drop place) = []) (h : p.Leftmost cs (place + 1) ms) :
    p.Leftmost cs place ms := by
  have earlier : ∀ {i}, place ≤ i → (place + 1 ≤ i → p.ways (cs.drop i) = []) →
      p.ways (cs.drop i) = [] := by
    intro i hi others
    rcases Nat.eq_or_lt_of_le hi with rfl | more
    · exact none
    · exact others more
  cases h with
  | nil others => exact .nil fun i hi => earlier hi (others i)
  | cons later others here rest =>
      exact .cons (by omega) (fun i hi less => earlier hi fun more => others i more less) here rest

/-- **There is a list of matches**, if the pattern has no empty match. -/
theorem exists_leftmost
    (consumes : ∀ cs w, p.first? cs = some w → w.2.length < cs.length ∧ w.2 <:+ cs)
    (cs : List Char) (place : Nat) : ∃ ms, p.Leftmost cs place ms := by
  cases found : p.first? (cs.drop place) with
  | none =>
      by_cases inside : place < cs.length
      · obtain ⟨ms, h⟩ := exists_leftmost consumes cs (place + 1)
        exact ⟨ms, .of_none (first?_eq_none_iff.mp found) h⟩
      · -- nothing is left from here on
        refine ⟨[], .nil fun i hi => first?_eq_none_iff.mp ?_⟩
        rw [List.drop_eq_nil_of_le (by omega)] at found ⊢
        exact found
  | some w =>
      obtain ⟨groups, after⟩ := w
      obtain ⟨shorter, suffix⟩ := consumes _ _ found
      rw [List.length_drop] at shorter
      have left : after = cs.drop (cs.length - after.length) :=
        List.suffix_iff_eq_drop.mp (suffix.trans (List.drop_suffix _ _))
      have later : place < cs.length - after.length := by simp only at shorter; omega
      obtain ⟨ms, h⟩ := exists_leftmost consumes cs (cs.length - after.length)
      refine ⟨⟨place, cs.length - after.length, groups⟩ :: ms, .cons (Nat.le_refl _) ?_ ?_ h⟩
      · intro i hi less
        exact absurd hi (Nat.not_le.mpr less)
      · exact ⟨by rw [← left]; exact found, later, Nat.sub_le ..⟩
termination_by cs.length - place

end Matches

end Pattern

end Postprocessor.Text
