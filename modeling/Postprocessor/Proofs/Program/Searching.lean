import Mathlib.Data.Finset.Card
import Mathlib.Data.Finset.Range
import Postprocessor.Program.Event
import Postprocessor.Proofs.Running

/-!
# Proofs — searching a sequence of events

A search counts the events of a name from an index on, upward or downward.  What it finds is told by
ranks: the `n`-th event of a name after an index is the one with `n - 1` events of that name between
the index and itself.

* `between`: the positions of a name between two whole numbers.
* `IsNthAfter`, `IsNthBefore`: the `n`-th position of a name after and before a whole number.
* `exists_nthNext`, `exists_nthPrevious`: what the searches find, from any index.
* `Looks`, `looks_of_lt`: the lookups at a position of the sequence; `Asks`: those of a listener.
* `rank_select`: all lookups by their ranks.
* `Bounds`, `bounds`: the lookups at any whole number, and where they fail.
-/

namespace Postprocessor.Search

variable {names : List String} {name : String} {a b i n : Int} {r : Option Nat}

/-! ### Ranks -/

/-- The positions at which a name stands between two whole numbers, neither of which counts. -/
def between (names : List String) (name : String) (a b : Int) : Finset Nat :=
  (Finset.range names.length).filter fun k => a < k ∧ (k : Int) < b ∧ names[k]? = some name

theorem lt_length_of_getElem? {k : Nat} (h : names[k]? = some name) : k < names.length :=
  (List.getElem?_eq_some_iff.mp h).1

theorem mem_between {k : Nat} :
    k ∈ between names name a b ↔ a < k ∧ (k : Int) < b ∧ names[k]? = some name := by
  rw [between, Finset.mem_filter, Finset.mem_range, and_iff_right_iff_imp]
  exact fun h => lt_length_of_getElem? h.2.2

/-- The position is the `n`-th at which a name stands after `i`; there is none if the name stands at
fewer than `n` positions there. -/
structure IsNthAfter (names : List String) (name : String) (i n : Int) (r : Option Nat) : Prop where
  found : ∀ j : Nat, r = some j ↔
    i < j ∧ names[j]? = some name ∧ ((between names name i j).card : Int) = n - 1
  missing : r = none ↔ ((between names name i names.length).card : Int) < n

/-- The position is the `n`-th at which a name stands before `i`, counted downward. -/
structure IsNthBefore (names : List String) (name : String) (i n : Int) (r : Option Nat) :
    Prop where
  found : ∀ j : Nat, r = some j ↔
    j < i ∧ names[j]? = some name ∧ ((between names name j i).card : Int) = n - 1
  missing : r = none ↔ ((between names name (-1) i).card : Int) < n

/-- There is one `n`-th position at most. -/
theorem IsNthBefore.unique {r' : Option Nat} (h : IsNthBefore names name i n r)
    (h' : IsNthBefore names name i n r') : r = r' :=
  Option.ext fun j => (h.found j).trans (h'.found j).symm

/-! ### Lists of positions -/

/-- In a list that goes in one direction the place of an item is the number of those before it. -/
theorem getElem?_eq_some_iff_rank {before : Nat → Nat → Prop} [DecidableRel before]
    (asymm : ∀ {x y}, before x y → ¬ before y x) {ps : List Nat} (h : ps.Pairwise before)
    {m j : Nat} :
    ps[m]? = some j ↔ j ∈ ps ∧ (ps.filter fun k => decide (before k j)).length = m := by
  have irrefl : ∀ x, ¬ before x x := fun x hx => asymm hx hx
  induction ps generalizing m with
  | nil => simp
  | cons p ps ih =>
      obtain ⟨first, rest⟩ := List.pairwise_cons.mp h
      -- nothing comes before the first item
      have none : (ps.filter fun k => decide (before k p)) = [] :=
        List.filter_eq_nil_iff.mpr fun k hk => by simpa using asymm (first k hk)
      by_cases hj : j = p
      · subst hj
        have absent : ∀ m, ps[m]? ≠ some j := fun m hm =>
          irrefl j (first j (List.mem_of_getElem? hm))
        cases m with
        | zero => simp [irrefl, none]
        | succ m => simp [irrefl, none, absent]
      · cases m with
        | zero =>
            have later : j ∈ ps → before p j := first j
            simp only [List.getElem?_cons_zero, Option.some.injEq, Ne.symm hj, false_iff, not_and,
              List.mem_cons, hj, false_or]
            intro hmem
            simp [later hmem]
        | succ m =>
            rw [List.getElem?_cons_succ, List.mem_cons, or_iff_right hj]
            refine (ih rest).trans (and_congr_right fun hmem => ?_)
            rw [List.filter_cons_of_pos (by simpa using first j hmem), List.length_cons,
              Nat.add_right_cancel_iff]

theorem pairwise_positions (names : List String) (name : String) :
    (positions names name).Pairwise (· < ·) := by
  have sub : (positions names name).Sublist (names.zipIdx.map Prod.snd) :=
    List.filter_sublist.map Prod.snd
  rw [List.zipIdx_map_snd] at sub
  exact (List.pairwise_lt_range' 1).sublist sub

/-- Positions are counted by the set of them. -/
theorem length_eq_card {ps : List Nat} (h : ps.Nodup)
    (hmem : ∀ k, k ∈ ps ↔ a < k ∧ (k : Int) < b ∧ names[k]? = some name) :
    ps.length = (between names name a b).card := by
  have same : ps.toFinset = between names name a b := by
    ext k
    rw [List.mem_toFinset, hmem, mem_between]
  rw [← List.toFinset_card_of_nodup h, same]

/-- The positions of a name from `start` on, in ascending order. -/
theorem isNthAfter_filter (names : List String) (name : String) (start : Nat) (hn : 1 ≤ n) :
    IsNthAfter names name (start - 1) n
      ((positions names name).filter (start ≤ ·))[(n - 1).toNat]? := by
  have ascending := (pairwise_positions names name).filter (start ≤ ·)
  have mem : ∀ k, k ∈ (positions names name).filter (start ≤ ·) ↔
      start ≤ k ∧ names[k]? = some name := by
    intro k
    rw [List.mem_filter, mem_positions, decide_eq_true_eq, and_comm]
  generalize (positions names name).filter (start ≤ ·) = ps at ascending mem
  have nodup : ps.Nodup := ascending.imp Nat.ne_of_lt
  constructor
  · intro j
    have rank : (ps.filter (· < j)).length = (between names name (start - 1) j).card := by
      refine length_eq_card (nodup.filter _) fun k => ?_
      rw [List.mem_filter, mem, decide_eq_true_eq]
      constructor
      · exact fun ⟨⟨hs, hk⟩, hj⟩ => ⟨by omega, by omega, hk⟩
      · exact fun ⟨hs, hj, hk⟩ => ⟨⟨by omega, hk⟩, by omega⟩
    rw [getElem?_eq_some_iff_rank Nat.lt_asymm ascending, mem, and_assoc, rank]
    exact and_congr (by omega) (and_congr_right fun _ => by omega)
  · have count : ps.length = (between names name (start - 1) names.length).card := by
      refine length_eq_card nodup fun k => ?_
      rw [mem]
      constructor
      · exact fun ⟨hs, hk⟩ => ⟨by omega, Int.ofNat_lt.mpr (lt_length_of_getElem? hk), hk⟩
      · exact fun ⟨hs, _, hk⟩ => ⟨by omega, hk⟩
    rw [List.getElem?_eq_none_iff, count]
    omega

/-- The positions of a name before `i`, in descending order. -/
theorem isNthBefore_filter (names : List String) (name : String) (i : Int) (hn : 1 ≤ n) :
    IsNthBefore names name i n
      ((positions names name).reverse.filter fun (j : Nat) => (j : Int) < i)[(n - 1).toNat]? := by
  have descending := (List.pairwise_reverse.mpr (pairwise_positions names name)).filter
    fun (j : Nat) => (j : Int) < i
  have mem : ∀ k, k ∈ ((positions names name).reverse.filter fun (j : Nat) => (j : Int) < i) ↔
      (k : Int) < i ∧ names[k]? = some name := by
    intro k
    rw [List.mem_filter, List.mem_reverse, mem_positions, decide_eq_true_eq, and_comm]
  generalize (positions names name).reverse.filter (fun (j : Nat) => (j : Int) < i) = ps
    at descending mem
  have nodup : ps.Nodup := descending.imp Nat.ne_of_gt
  constructor
  · intro j
    have rank : (ps.filter fun k => j < k).length = (between names name j i).card := by
      refine length_eq_card (nodup.filter _) fun k => ?_
      rw [List.mem_filter, mem, decide_eq_true_eq]
      constructor
      · exact fun ⟨⟨hi, hk⟩, hj⟩ => ⟨by omega, hi, hk⟩
      · exact fun ⟨hj, hi, hk⟩ => ⟨⟨hi, hk⟩, by omega⟩
    rw [getElem?_eq_some_iff_rank Nat.lt_asymm descending, mem, and_assoc, rank]
    exact and_congr_right fun _ => and_congr_right fun _ => by omega
  · have count : ps.length = (between names name (-1) i).card := by
      refine length_eq_card nodup fun k => ?_
      rw [mem]
      constructor
      · exact fun ⟨hi, hk⟩ => ⟨by omega, hi, hk⟩
      · exact fun ⟨_, hi, hk⟩ => ⟨hi, hk⟩
    rw [List.getElem?_eq_none_iff, count]
    omega

/-! ### Searches -/

theorem checkCount_of_pos (hn : 1 ≤ n) : checkCount n = .ok () := if_neg (by omega)

/-- A count that is not positive is refused before anything else. -/
theorem checkCount_of_not_pos (hn : n < 1) :
    ∃ e, checkCount n = .error e ∧ e.kind = "ValueError" := by
  rw [checkCount, if_pos hn, Value.intWritten]
  split
  · exact ⟨_, rfl, rfl⟩
  · exact ⟨_, rfl, rfl⟩

/-- **A search upward** finds the `n`-th position of the name in the part that starts after the
index. -/
theorem exists_nthNext (names : List String) (name : String) (i : Int) (hn : 1 ≤ n) :
    ∃ r, nthNext names (some i) name n = .ok r ∧
      IsNthAfter names name (partStart names.length (i + 1) - 1) n r := by
  refine ⟨_, ?_, isNthAfter_filter names name _ hn⟩
  rw [nthNext, checkCount_of_pos hn]
  rfl

/-- **A search downward** finds the `n`-th position of the name before the index. -/
theorem exists_nthPrevious (names : List String) (name : String) (i : Int) (hn : 1 ≤ n) :
    ∃ r, nthPrevious names (some i) name n = .ok r ∧ IsNthBefore names name i n r := by
  refine ⟨_, ?_, isNthBefore_filter names name i hn⟩
  rw [nthPrevious, checkCount_of_pos hn]
  rfl

/-- From an index that is not below the start of the sequence the search upward counts on the number
line. -/
theorem exists_nthNext_of_le (names : List String) (name : String) (hi : -1 ≤ i) (hn : 1 ≤ n) :
    ∃ r, nthNext names (some i) name n = .ok r ∧ IsNthAfter names name i n r := by
  have start : (partStart names.length (i + 1) : Int) - 1 = i := by
    rw [partStart, if_neg (by omega)]
    omega
  have found := exists_nthNext names name i hn
  rwa [start] at found

/-! ### Looking back -/

theorem getElem?_reverse_mirrored {k : Nat} (hk : k < names.length) :
    names.reverse[names.length - 1 - k]? = names[k]? := by
  rw [List.getElem?_reverse (by omega)]
  congr 1
  omega

/-- In the reversed sequence a name stands as often between the mirrored bounds. -/
theorem card_between_reverse (names : List String) (name : String) (a b : Int) :
    (between names.reverse name a b).card =
      (between names name (names.length - 1 - b) (names.length - 1 - a)).card := by
  refine Finset.card_nbij' (names.length - 1 - ·) (names.length - 1 - ·) ?_ ?_ ?_ ?_
  · intro k hk
    obtain ⟨ha, hb, hk⟩ := mem_between.mp hk
    have inside := List.length_reverse ▸ lt_length_of_getElem? hk
    rw [List.getElem?_reverse inside] at hk
    refine mem_between.mpr ⟨?_, ?_, hk⟩ <;> dsimp only <;> omega
  · intro k hk
    obtain ⟨ha, hb, hk⟩ := mem_between.mp hk
    have inside := lt_length_of_getElem? hk
    rw [← getElem?_reverse_mirrored inside] at hk
    refine mem_between.mpr ⟨?_, ?_, hk⟩ <;> dsimp only <;> omega
  · intro k hk
    have inside := List.length_reverse ▸ lt_length_of_getElem? (mem_between.mp hk).2.2
    simp only
    omega
  · intro k hk
    have inside := lt_length_of_getElem? (mem_between.mp hk).2.2
    simp only
    omega

/-- What is the `n`-th after the mirrored index in the reversed sequence is the `n`-th before. -/
theorem IsNthAfter.mirrored (h : IsNthAfter names.reverse name (names.length - 1 - i) n r) :
    IsNthBefore names name i n (r.map fun j => names.length - 1 - j) := by
  constructor
  · intro j
    rw [Option.map_eq_some_iff]
    constructor
    · rintro ⟨k, hk, rfl⟩
      obtain ⟨after, hname, rank⟩ := (h.found k).mp hk
      have inside := List.length_reverse ▸ lt_length_of_getElem? hname
      rw [List.getElem?_reverse inside] at hname
      rw [card_between_reverse] at rank
      refine ⟨by omega, hname, ?_⟩
      rw [← rank]
      congr 3 <;> omega
    · rintro ⟨before, hname, rank⟩
      have inside := lt_length_of_getElem? hname
      refine ⟨names.length - 1 - j, (h.found _).mpr ⟨by omega, ?_, ?_⟩, by omega⟩
      · rw [getElem?_reverse_mirrored inside, hname]
      · rw [card_between_reverse, ← rank]
        congr 3 <;> omega
  · rw [Option.map_eq_none_iff, h.missing, card_between_reverse, List.length_reverse]
    have lower : (names.length : Int) - 1 - names.length = -1 := by omega
    have upper : (names.length : Int) - 1 - (names.length - 1 - i) = i := by omega
    rw [lower, upper]

/-- **Searching downward is searching the reversed sequence upward.** -/
theorem nthPrevious_eq_reverse (names : List String) (name : String) (n : Int)
    (hi : i ≤ names.length) :
    nthPrevious names (some i) name n =
      (nthNext names.reverse (some (names.length - 1 - i)) name n).map
        (Option.map fun j => names.length - 1 - j) := by
  by_cases hn : 1 ≤ n
  · obtain ⟨r, found, before⟩ := exists_nthPrevious names name i hn
    obtain ⟨r', found', after⟩ := exists_nthNext_of_le names.reverse name
      (i := names.length - 1 - i) (by omega) hn
    rw [found, found', before.unique after.mirrored]
    rfl
  · obtain ⟨e, refused, -⟩ := checkCount_of_not_pos (Int.not_le.mp hn)
    rw [nthPrevious, nthNext, refused]
    rfl

/-- From what a search upward has found, the search downward for the name at the index comes back to
the index, with the number of events of that name from there on. -/
theorem nthPrevious_of_nthNext {i j : Nat} {own : String}
    (h : nthNext names (some i) name n = .ok (some j)) (hn : 1 ≤ n) (hown : names[i]? = some own) :
    nthPrevious names (some j) own (between names own (i - 1) j).card = .ok (some i) := by
  obtain ⟨r, found, after⟩ := exists_nthNext_of_le names name (i := i) (by omega) hn
  rw [found] at h
  obtain ⟨forward, -, -⟩ := (after.found j).mp (Except.ok.inj h)
  -- the event at the index is one of those that are counted
  have whole : between names own (i - 1) j = insert i (between names own i j) := by
    ext k
    rw [Finset.mem_insert, mem_between, mem_between]
    constructor
    · rintro ⟨hi, hj, hk⟩
      by_cases e : k = i
      · exact .inl e
      · exact .inr ⟨by omega, hj, hk⟩
    · rintro (rfl | ⟨hi, hj, hk⟩)
      · exact ⟨by omega, forward, hown⟩
      · exact ⟨by omega, hj, hk⟩
  have outside : i ∉ between names own i j := fun h => absurd (mem_between.mp h).1 (by omega)
  have count : (between names own (i - 1) j).card = (between names own i j).card + 1 := by
    rw [whole, Finset.card_insert_of_notMem outside]
  obtain ⟨r', found', before⟩ := exists_nthPrevious names own (j : Int)
    (n := (between names own (i - 1) j).card) (by omega)
  rw [found', (before.found i).mpr ⟨by omega, hown, by omega⟩]

/-! ### At a position -/

/-- The lookups at a position of a sequence with these names. -/
structure Looks (names : List String) (i : Nat) : Prop where
  here : here names.length (some i) = some i
  next : next names.length (some i) = .ok (if i + 1 < names.length then some (i + 1) else none)
  previous : previous names.length (some i) = .ok (if 0 < i then some (i - 1) else none)
  nthNext : ∀ name n, 1 ≤ n →
    ∃ r, nthNext names (some i) name n = .ok r ∧ IsNthAfter names name i n r
  nthPrevious : ∀ name n, 1 ≤ n →
    ∃ r, nthPrevious names (some i) name n = .ok r ∧ IsNthBefore names name i n r
  nearest : ∀ name, nearest names (some i) name = Search.nthNext names (some i) name 1
  last : ∀ name, last names (some i) name = Search.nthPrevious names (some i) name 1
  /-- Looking back is looking forward in the reversed sequence. -/
  mirror : ∀ name n, Search.nthPrevious names (some i) name n =
    (Search.nthNext names.reverse (some (names.length - 1 - i)) name n).map
      (Option.map fun j => names.length - 1 - j)
  /-- From what is found ahead, the position is found again: it is as far back as there are events
  of its name from it on. -/
  back : ∀ name n j own, 1 ≤ n → Search.nthNext names (some i) name n = .ok (some j) →
    names[i]? = some own →
    Search.nthPrevious names (some j) own (between names own (i - 1) j).card = .ok (some i)

/-- What a listener looks up in its context. -/
structure Asks (names : List String) (c : Context) : Prop where
  here : c.find .here = .ok (here names.length c.index)
  next : c.find .next = next names.length c.index
  previous : c.find .previous = previous names.length c.index
  nearest : ∀ name, c.find (.nearest name) = nearest names c.index name
  last : ∀ name, c.find (.last name) = last names c.index name
  nthNext : ∀ name n, c.find (.nthNext name n) = nthNext names c.index name n
  nthPrevious : ∀ name n, c.find (.nthPrevious name n) = nthPrevious names c.index name n

theorem next_of_lt {size i : Nat} (hi : i < size) :
    next size (some i) = .ok (if i + 1 < size then some (i + 1) else none) := by
  rw [next]
  by_cases h : i + 1 < size
  · rw [if_neg (by omega), if_pos h, subscript, if_pos (by omega)]
    exact congrArg (fun j => Except.ok (some j)) (by omega)
  · rw [if_pos (by omega), if_neg h]

theorem previous_of_lt {size i : Nat} (hi : i < size) :
    previous size (some i) = .ok (if 0 < i then some (i - 1) else none) := by
  rw [previous]
  by_cases h : 0 < i
  · rw [if_neg (by omega), if_pos h, subscript, if_pos (by omega)]
    exact congrArg (fun j => Except.ok (some j)) (by omega)
  · rw [if_pos (by omega), if_neg h]

theorem size_eq_of_names {c : Context} (h : c.names = names) : c.events.size = names.length := by
  rw [← h, Context.names, List.length_map, Array.length_toList]

theorem asks_names (c : Context) : Asks c.names c := by
  have size := size_eq_of_names (c := c) rfl
  constructor <;> intros <;> simp only [Context.find, size]

theorem looks_of_lt {i : Nat} (hi : i < names.length) : Looks names i where
  here := by rw [here, if_pos (by omega), Int.toNat_natCast]
  next := next_of_lt hi
  previous := previous_of_lt hi
  nthNext name n hn := exists_nthNext_of_le names name (by omega) hn
  nthPrevious name n hn := exists_nthPrevious names name i hn
  nearest _ := rfl
  last _ := rfl
  mirror name n := nthPrevious_eq_reverse names name n (by omega)
  back name n j own hn h hown := nthPrevious_of_nthNext h hn hown

/-- **Lookups rank and select.**  At every position of a sequence they find their event by its rank
among the events of its name; without an index they find nothing, and a count that is not positive
is refused in any case.  A listener looks up the same in its context. -/
theorem rank_select (names : List String) :
    (∀ i < names.length, Looks names i) ∧
    (here names.length none = none ∧ next names.length none = .ok none ∧
      previous names.length none = .ok none ∧
      ∀ name n, 1 ≤ n → nearest names none name = .ok none ∧ last names none name = .ok none ∧
        nthNext names none name n = .ok none ∧ nthPrevious names none name n = .ok none) ∧
    (∀ index name n, n < 1 → ∃ e, e.kind = "ValueError" ∧
      nthNext names index name n = .error e ∧ nthPrevious names index name n = .error e) ∧
    ∀ c : Context, c.names = names → Asks names c := by
  refine ⟨fun i => looks_of_lt, ⟨rfl, rfl, rfl, fun name n hn => ?_⟩, fun index name n hn => ?_, ?_⟩
  · have found :
        nthNext names none name n = .ok none ∧ nthPrevious names none name n = .ok none := by
      rw [nthNext.eq_def, nthPrevious.eq_def, checkCount_of_pos hn]
      exact ⟨rfl, rfl⟩
    exact ⟨rfl, rfl, found⟩
  · obtain ⟨e, refused, kind⟩ := checkCount_of_not_pos hn
    rw [nthNext.eq_def, nthPrevious.eq_def, refused]
    exact ⟨e, kind, rfl, rfl⟩
  · rintro c rfl
    exact asks_names c

/-- The middle one of three events of one name. -/
theorem rank_select_repeated : 2 < ["A", "B", "A", "C", "A", "B"].length ∧
    Looks ["A", "B", "A", "C", "A", "B"] 2 ∧
    nthNext ["A", "B", "A", "C", "A", "B"] (some 2) "A" 1 = .ok (some 4) ∧
    nthPrevious ["A", "B", "A", "C", "A", "B"] (some 2) "A" 2 = .ok none :=
  ⟨by decide, (rank_select _).1 2 (by decide), rfl, rfl⟩

/-! ### On the number line -/

/-- The lookup succeeds, and with what is asked for. -/
def Yields (found : Except Failure (Option Nat)) (asked : Option Nat → Prop) : Prop :=
  ∃ r, found = .ok r ∧ asked r

/-- The first position after a point on the number line. -/
def IsFirstAfter (size : Nat) (i : Int) (r : Option Nat) : Prop :=
  ∀ j : Nat, r = some j ↔ i < j ∧ j < size ∧ ∀ k : Nat, i < k → j ≤ k

/-- The last position before a point on the number line. -/
def IsLastBefore (size : Nat) (i : Int) (r : Option Nat) : Prop :=
  ∀ j : Nat, r = some j ↔ j < i ∧ j < size ∧ ∀ k : Nat, k < size → k < i → k ≤ j

theorem not_yields_error (e : Failure) (asked : Option Nat → Prop) :
    ¬ Yields (.error e) asked := fun ⟨_, h, _⟩ => nomatch h

theorem yields_ok_iff {asked : Option Nat → Prop} : Yields (.ok r) asked ↔ asked r :=
  ⟨fun ⟨_, h, ha⟩ => Except.ok.inj h ▸ ha, fun h => ⟨r, rfl, h⟩⟩

variable {size : Nat}

theorem yields_here (size : Nat) (i : Int) : Yields (.ok (here size (some i)))
    fun r => ∀ j : Nat, r = some j ↔ (j : Int) = i ∧ j < size := by
  rw [yields_ok_iff, here]
  intro j
  by_cases h : 0 ≤ i ∧ i < size
  · rw [if_pos h, Option.some.injEq]
    omega
  · rw [if_neg h]
    refine ⟨nofun, fun ⟨e, hj⟩ => absurd ⟨?_, ?_⟩ h⟩ <;> omega

/-! #### Neighbours -/

theorem next_of_le (hi : -1 ≤ i) :
    next size (some i) = .ok (if size ≤ i + 1 then none else some (i + 1).toNat) := by
  rw [next]
  split
  · rfl
  · rw [subscript, if_pos (by omega)]
    rfl

/-- A negative subscript counts from the end. -/
theorem next_of_lt_neg (hi : i < -1) :
    next size (some i) =
      if -size - 1 ≤ i then .ok (some (size + (i + 1)).toNat) else .error .outOfRange := by
  rw [next, if_neg (by omega), subscript, if_neg (by omega)]
  by_cases h : -size - 1 ≤ i
  · rw [if_pos h, if_pos (by omega)]
    rfl
  · rw [if_neg h, if_neg (by omega)]
    rfl

theorem isFirstAfter_of_le (hi : -1 ≤ i) :
    IsFirstAfter size i (if size ≤ i + 1 then none else some (i + 1).toNat) := by
  intro j
  split
  · exact ⟨nofun, fun ⟨_, _, _⟩ => by omega⟩
  · rw [Option.some.injEq]
    constructor
    · rintro rfl
      exact ⟨by omega, by omega, fun k hk => by omega⟩
    · rintro ⟨after, -, first⟩
      have := first (i + 1).toNat (by omega)
      omega

/-- Below the start of the sequence its first event comes next. -/
theorem isFirstAfter_of_lt_neg (hi : i < -1) {j : Nat} (hsize : 0 < size) :
    IsFirstAfter size i (some j) ↔ j = 0 := by
  constructor
  · intro h
    exact Option.some.inj ((h 0).mpr ⟨by omega, hsize, fun k _ => Nat.zero_le k⟩)
  · rintro rfl k
    rw [Option.some.injEq]
    constructor
    · rintro rfl
      exact ⟨by omega, hsize, fun k _ => Nat.zero_le k⟩
    · rintro ⟨-, -, first⟩
      exact (Nat.le_zero.mp (first 0 (by omega))).symm

theorem yields_next_iff (size : Nat) (i : Int) :
    Yields (next size (some i)) (IsFirstAfter size i) ↔ -1 ≤ i ∨ i = -size - 1 := by
  by_cases hi : -1 ≤ i
  · rw [next_of_le hi, yields_ok_iff]
    exact ⟨fun _ => .inl hi, fun _ => isFirstAfter_of_le hi⟩
  · rw [next_of_lt_neg (by omega)]
    by_cases h : -size - 1 ≤ i
    · rw [if_pos h, yields_ok_iff, isFirstAfter_of_lt_neg (by omega) (by omega)]
      omega
    · rw [if_neg h]
      refine ⟨fun yields => absurd yields (not_yields_error _ _), ?_⟩
      omega

theorem next_eq_error_iff {e : Failure} :
    next size (some i) = .error e ↔ e = .outOfRange ∧ i < -size - 1 := by
  by_cases hi : -1 ≤ i
  · rw [next_of_le hi]
    refine ⟨nofun, fun ⟨_, h⟩ => ?_⟩
    omega
  · rw [next_of_lt_neg (by omega)]
    by_cases h : -size - 1 ≤ i
    · rw [if_pos h]
      refine ⟨nofun, fun ⟨_, h⟩ => ?_⟩
      omega
    · rw [if_neg h, Except.error.injEq, eq_comm]
      exact ⟨fun e => ⟨e, by omega⟩, And.left⟩

theorem previous_of_le (hi : i ≤ size) :
    previous size (some i) = .ok (if i ≤ 0 then none else some (i - 1).toNat) := by
  rw [previous]
  split
  · rfl
  · rw [subscript, if_pos (by omega)]
    rfl

theorem previous_of_gt (hi : size < i) : previous size (some i) = .error .outOfRange := by
  rw [previous, if_neg (by omega), subscript, if_neg (by omega), if_neg (by omega)]
  rfl

theorem isLastBefore_of_le (hi : i ≤ size) :
    IsLastBefore size i (if i ≤ 0 then none else some (i - 1).toNat) := by
  intro j
  split
  · exact ⟨nofun, fun ⟨_, _, _⟩ => by omega⟩
  · rw [Option.some.injEq]
    constructor
    · rintro rfl
      exact ⟨by omega, by omega, fun k _ hk => by omega⟩
    · rintro ⟨before, -, last⟩
      have := last (i - 1).toNat (by omega) (by omega)
      omega

theorem yields_previous_iff (size : Nat) (i : Int) :
    Yields (previous size (some i)) (IsLastBefore size i) ↔ i ≤ size := by
  by_cases hi : i ≤ size
  · rw [previous_of_le hi, yields_ok_iff]
    exact ⟨fun _ => hi, fun _ => isLastBefore_of_le hi⟩
  · rw [previous_of_gt (by omega)]
    exact ⟨fun yields => absurd yields (not_yields_error _ _), fun h => absurd h hi⟩

theorem previous_eq_error_iff {e : Failure} :
    previous size (some i) = .error e ↔ e = .outOfRange ∧ size < i := by
  by_cases hi : i ≤ size
  · rw [previous_of_le hi]
    refine ⟨nofun, fun ⟨_, h⟩ => ?_⟩
    omega
  · rw [previous_of_gt (by omega), Except.error.injEq, eq_comm]
    exact ⟨fun e => ⟨e, by omega⟩, And.left⟩

/-! #### Searches -/

/-- The point after which a search upward counts.  Below the start of the sequence the index counts
from the end, down to the start. -/
def countedFrom (size : Nat) (i : Int) : Int := if -1 ≤ i then i else max (-1) (size + i)

theorem partStart_eq (size : Nat) (i : Int) :
    (partStart size (i + 1) : Int) - 1 = countedFrom size i := by
  rw [partStart, countedFrom]
  split <;> split <;> omega

theorem yields_nthNext (names : List String) (name : String) (i : Int) (hn : 1 ≤ n) :
    Yields (nthNext names (some i) name n)
      (IsNthAfter names name (countedFrom names.length i) n) := by
  rw [← partStart_eq]
  exact exists_nthNext names name i hn

/-- A search upward is right about every name if the index is not below the start of the sequence,
or so far below that counting from the end does not reach the sequence. -/
theorem yields_nthNext_iff (names : List String) (i : Int) :
    (∀ name n, 1 ≤ n → Yields (nthNext names (some i) name n) (IsNthAfter names name i n)) ↔
      -1 ≤ i ∨ i < -names.length := by
  constructor
  · intro h
    by_contra inside
    -- the first name is not found, though it stands after the index
    have hsize : 0 < names.length := by omega
    have first : names[0]? = some names[0] := List.getElem?_eq_getElem hsize
    obtain ⟨r, found, after⟩ := h names[0] 1 (Int.le_refl 1)
    obtain ⟨r', found', counted⟩ := yields_nthNext names names[0] i (Int.le_refl 1)
    obtain rfl : r = r' := Except.ok.inj (found.symm.trans found')
    have empty : between names names[0] i 0 = ∅ :=
      Finset.eq_empty_of_forall_notMem fun k hk => absurd (mem_between.mp hk).2.1 (by omega)
    have here := (after.found 0).mpr ⟨by omega, first, by simp [empty]⟩
    have beyond := ((counted.found 0).mp here).1
    rw [countedFrom] at beyond
    omega
  · intro h name n hn
    by_cases hi : -1 ≤ i
    · exact exists_nthNext_of_le names name hi hn
    · -- nothing stands between the index and the start of the sequence
      have start : countedFrom names.length i = -1 := by
        rw [countedFrom, if_neg hi]
        omega
      obtain ⟨r, found, counted⟩ := yields_nthNext names name i hn
      rw [start] at counted
      have same : ∀ b, between names name i b = between names name (-1) b := fun b => by
        ext k
        rw [mem_between, mem_between]
        exact and_congr_left fun _ => ⟨fun _ => by omega, fun _ => by omega⟩
      refine ⟨r, found, fun j => ?_, ?_⟩
      · rw [counted.found, same]
        exact and_congr_left fun _ => ⟨fun _ => by omega, fun _ => by omega⟩
      · rw [counted.missing, same]

/-- The lookups in a context with any whole number for an index, as a point on the number line. -/
structure Bounds (events : Array Event) (i : Int) (c : Context) : Prop where
  here : Yields (c.find .here) fun r => ∀ j : Nat, r = some j ↔ (j : Int) = i ∧ j < events.size
  /-- The searches downward are right everywhere. -/
  nthPrevious : ∀ name n, 1 ≤ n →
    Yields (c.find (.nthPrevious name n)) (IsNthBefore c.names name i n)
  last : ∀ name, c.find (.last name) = c.find (.nthPrevious name 1)
  /-- The searches upward never fail, but they may count from elsewhere. -/
  nthNext : ∀ name n, 1 ≤ n →
    Yields (c.find (.nthNext name n)) (IsNthAfter c.names name (countedFrom events.size i) n)
  nthNext_iff :
    (∀ name n, 1 ≤ n → Yields (c.find (.nthNext name n)) (IsNthAfter c.names name i n)) ↔
      -1 ≤ i ∨ i < -events.size
  nearest : ∀ name, c.find (.nearest name) = c.find (.nthNext name 1)
  next_iff : Yields (c.find .next) (IsFirstAfter events.size i) ↔ -1 ≤ i ∨ i = -events.size - 1
  next_fails : ∀ e, c.find .next = .error e ↔ e = .outOfRange ∧ i < -events.size - 1
  /-- Between these bounds the event after the index is counted from the end. -/
  next_wraps : -events.size - 1 ≤ i → i < -1 →
    c.find .next = .ok (some (events.size + (i + 1)).toNat)
  previous_iff : Yields (c.find .previous) (IsLastBefore events.size i) ↔ i ≤ events.size
  previous_fails : ∀ e, c.find .previous = .error e ↔ e = .outOfRange ∧ events.size < i

/-- **The bounds of lookups.**  The event itself and the searches downward take every index for a
point on the number line.  The event before fails for an index past the end, the event after fails
or is counted from the end for one below the start, and so do the searches upward count. -/
theorem bounds (events : Array Event) (i : Int) : Bounds events i ⟨events, some i⟩ := by
  have size : (Context.names ⟨events, some i⟩).length = events.size :=
    (size_eq_of_names (c := ⟨events, some i⟩) rfl).symm
  exact {
    here := yields_here events.size i
    nthPrevious := fun name n hn => exists_nthPrevious _ name i hn
    last := fun _ => rfl
    nthNext := fun name n hn => size ▸ yields_nthNext _ name i hn
    nthNext_iff := size ▸ yields_nthNext_iff (Context.names ⟨events, some i⟩) i
    nearest := fun _ => rfl
    next_iff := yields_next_iff events.size i
    next_fails := fun _ => next_eq_error_iff
    next_wraps := fun hs hi => (next_of_lt_neg hi).trans (if_pos hs)
    previous_iff := yields_previous_iff events.size i
    previous_fails := fun _ => previous_eq_error_iff }

/-- Three events from an index below the start, of which the first is not found, and no events,
before which the one before an index is looked for. -/
theorem bounds_missed :
    Context.find ⟨#[⟨"A", []⟩, ⟨"B", []⟩, ⟨"C", []⟩], some (-3)⟩ (.nearest "A") = .ok none ∧
    ¬ IsNthAfter ["A", "B", "C"] "A" (-3) 1 none ∧
    Context.find ⟨#[], some 1⟩ .previous = .error .outOfRange := by
  refine ⟨rfl, fun h => ?_, rfl⟩
  have count : (between ["A", "B", "C"] "A" (-3) 3).card = 1 := by decide
  have few := h.missing.mp rfl
  rw [show ((["A", "B", "C"].length : Nat) : Int) = 3 from rfl, count] at few
  omega

end Postprocessor.Search
