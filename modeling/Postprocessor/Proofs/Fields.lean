import Mathlib.Data.List.Induction
import Postprocessor.Fields

/-!
# Proofs — tables that are put together

A key keeps the place at which it was first given, and takes the value that it was given last.

* `keys_put_of_mem`, `nodup_put`, `nodup_putAll`: the keys of a table, none of them twice.
* `lookup_putAll`, `lookup_putAll_reverse`: the value of a key.
* `mem_putAll`: where the entries come from; `keys_putAll`: the keys in their order.
* `putAll_of_nodup`: tables without a common key.
* `eq_of_lookup`: a table is known from its keys and their values.
* `drop_putAll`: a key that is taken away might as well not have been put.
-/

namespace Postprocessor.Fields

variable {κ α : Type} [BEq κ] [LawfulBEq κ] {fields more : List (κ × α)}

/-- A key that is there keeps its place. -/
theorem keys_put_of_mem {key : κ} (h : key ∈ fields.map Prod.fst) (v : α) :
    (put fields key v).map Prod.fst = fields.map Prod.fst := by
  induction fields with
  | nil => exact absurd h List.not_mem_nil
  | cons e rest ih =>
      rw [put]
      split
      · rfl
      · next other =>
        have later : key ∈ rest.map Prod.fst :=
          (List.mem_cons.mp h).resolve_left fun same => other (beq_iff_eq.mpr same.symm)
        exact congrArg (e.1 :: ·) (ih later)

theorem nodup_put (h : (fields.map Prod.fst).Nodup) (key : κ) (v : α) :
    ((put fields key v).map Prod.fst).Nodup := by
  by_cases hk : key ∈ fields.map Prod.fst
  · rwa [keys_put_of_mem hk]
  · rw [put_of_not_mem hk, List.map_append]
    refine List.nodup_append.mpr ⟨h, by simp, fun k hm k' hm' same => hk ?_⟩
    obtain rfl : k' = key := List.mem_singleton.mp hm'
    rwa [← same]

theorem nodup_putAll (h : (fields.map Prod.fst).Nodup) (more : List (κ × α)) :
    ((putAll fields more).map Prod.fst).Nodup := by
  induction more generalizing fields with
  | nil => exact h
  | cons e more ih => exact ih (nodup_put h e.1 e.2)

theorem mem_put {e : κ × α} {key : κ} {v : α} (h : e ∈ put fields key v) :
    e = (key, v) ∨ e ∈ fields := by
  induction fields with
  | nil => exact .inl (List.mem_singleton.mp h)
  | cons f rest ih =>
      rw [put] at h
      split at h
      · next same =>
        refine (List.mem_cons.mp h).imp (fun he => ?_) (List.mem_cons_of_mem _)
        rw [he, beq_iff_eq.mp same]
      · rcases List.mem_cons.mp h with rfl | h
        · exact .inr (List.mem_cons_self ..)
        · exact (ih h).imp_right (List.mem_cons_of_mem _)

/-- Every entry was there or was put. -/
theorem mem_putAll {e : κ × α} (h : e ∈ putAll fields more) : e ∈ fields ∨ e ∈ more := by
  induction more generalizing fields with
  | nil => exact .inl h
  | cons f more ih =>
      rcases ih h with h | h
      · exact (mem_put h).elim (fun he => .inr (he ▸ List.mem_cons_self ..)) .inl
      · exact .inr (List.mem_cons_of_mem _ h)

theorem lookup_eq_none {key : κ} (h : key ∉ fields.map Prod.fst) : fields.lookup key = none :=
  List.lookup_eq_none_iff.mpr fun e he =>
    bne_iff_ne.mpr fun same => h (List.mem_map.mpr ⟨e, he, same.symm⟩)

/-- What is put last is found first. -/
theorem lookup_putAll (h : (more.map Prod.fst).Nodup) (key : κ) :
    (putAll fields more).lookup key = (more.lookup key).or (fields.lookup key) := by
  induction more generalizing fields with
  | nil => rfl
  | cons e more ih =>
      obtain ⟨k, v⟩ := e
      obtain ⟨first, others⟩ := List.nodup_cons.mp h
      refine (ih others).trans ?_
      rw [List.lookup_cons]
      by_cases hk : key = k
      · subst hk
        rw [lookup_eq_none first, lookup_put_self, beq_self_eq_true]
        rfl
      · rw [lookup_put_of_ne hk, beq_eq_false_iff_ne.mpr hk]

/-- Whatever the keys, the last value of a key is the one that counts. -/
theorem lookup_putAll_reverse (fields more : List (κ × α)) (key : κ) :
    (putAll fields more).lookup key = (more.reverse.lookup key).or (fields.lookup key) := by
  induction more generalizing fields with
  | nil => rfl
  | cons e more ih =>
      rw [List.reverse_cons, List.lookup_append, Option.or_assoc]
      refine (ih (put fields e.1 e.2)).trans (congrArg _ ?_)
      by_cases hk : key = e.1
      · subst hk
        rw [lookup_put_self, List.lookup_cons, beq_self_eq_true]
        rfl
      · rw [lookup_put_of_ne hk, List.lookup_cons, beq_eq_false_iff_ne.mpr hk]
        rfl

/-- A key stands where it was first given. -/
theorem keys_putAll (more : List (κ × α)) :
    (putAll [] more).map Prod.fst = (more.map Prod.fst).eraseDups := by
  induction more using List.reverseRecOn with
  | nil => rfl
  | append_singleton more e ih =>
      have last : putAll [] (more ++ [e]) = put (putAll [] more) e.1 e.2 := List.foldl_append
      rw [last, List.map_append, List.eraseDups_append, ← ih]
      by_cases hk : e.1 ∈ (putAll [] more).map Prod.fst
      · have known : e.1 ∈ more.map Prod.fst := by
          rw [ih] at hk
          exact List.mem_eraseDups.mp hk
        rw [keys_put_of_mem hk]
        simp [List.removeAll, known]
      · have new : e.1 ∉ more.map Prod.fst := by
          rw [ih] at hk
          exact fun h => hk (List.mem_eraseDups.mpr h)
        rw [put_of_not_mem hk]
        simp [List.removeAll, new, List.eraseDups_cons]

/-- Entries of new keys come after those that are there. -/
theorem putAll_of_nodup (h : ((fields ++ more).map Prod.fst).Nodup) :
    putAll fields more = fields ++ more := by
  induction more generalizing fields with
  | nil => exact (List.append_nil fields).symm
  | cons e more ih =>
      have new : e.1 ∉ fields.map Prod.fst := by
        intro there
        rw [List.map_append, List.nodup_append] at h
        exact h.2.2 _ there _ (List.mem_cons_self ..) rfl
      rw [List.append_cons] at h
      calc putAll fields (e :: more) = putAll (put fields e.1 e.2) more := rfl
        _ = putAll (fields ++ [e]) more := by rw [put_of_not_mem new]
        _ = fields ++ e :: more := by rw [ih h, ← List.append_cons]

/-- A table is known from its keys and their values. -/
theorem eq_of_lookup (hn : (fields.map Prod.fst).Nodup)
    (hk : fields.map Prod.fst = more.map Prod.fst)
    (hl : ∀ key, fields.lookup key = more.lookup key) : fields = more := by
  induction fields generalizing more with
  | nil => exact (List.map_eq_nil_iff.mp hk.symm).symm
  | cons e fields ih =>
      obtain ⟨f, more, rfl, first, others⟩ := List.map_eq_cons_iff.mp hk.symm
      obtain ⟨new, distinct⟩ := List.nodup_cons.mp hn
      have value : e.2 = f.2 := by
        have found := hl e.1
        rw [List.lookup_cons, List.lookup_cons, first, beq_self_eq_true] at found
        exact Option.some.inj found
      have rest (key : κ) : fields.lookup key = more.lookup key := by
        by_cases same : key = e.1
        · rw [same, lookup_eq_none new, lookup_eq_none (others ▸ new)]
        · have later := hl key
          rwa [List.lookup_cons, List.lookup_cons, first, beq_eq_false_iff_ne.mpr same] at later
      rw [ih distinct others.symm rest, Prod.ext first.symm value]

/-! ### Keys that are taken away -/

theorem drop_put_self (fields : List (κ × α)) (key : κ) (v : α) :
    drop (put fields key v) key = drop fields key := by
  induction fields with
  | nil => simp [put, drop]
  | cons e rest ih =>
      rw [put]
      split
      · next same => simp [drop, same]
      · next other =>
        simp only [drop] at ih ⊢
        simp [other, ih]

theorem drop_put_of_ne {key other : κ} (h : other ≠ key) (fields : List (κ × α)) (v : α) :
    drop (put fields other v) key = put (drop fields key) other v := by
  induction fields with
  | nil => simp [put, drop, h]
  | cons e rest ih =>
      obtain ⟨k, w⟩ := e
      simp only [drop] at ih
      by_cases hk : k = key
      · subst hk
        simp [put, drop, ih, Ne.symm h]
      · by_cases ho : k = other
        · subst ho
          simp [put, drop, hk]
        · simp [put, drop, ih, hk, ho]

/-- A key that is taken away might as well not have been put. -/
theorem drop_putAll (fields more : List (κ × α)) (key : κ) :
    drop (putAll fields more) key = putAll (drop fields key) (drop more key) := by
  induction more generalizing fields with
  | nil => rfl
  | cons e more ih =>
      refine (ih (put fields e.1 e.2)).trans ?_
      by_cases hk : e.1 = key
      · have taken : drop (e :: more) key = drop more key := by simp [drop, hk]
        rw [taken, ← hk, drop_put_self]
      · have kept : drop (e :: more) key = e :: drop more key := by simp [drop, hk]
        rw [kept, drop_put_of_ne hk]
        rfl

end Postprocessor.Fields
