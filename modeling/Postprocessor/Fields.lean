import Postprocessor.Value

/-!
# Fields

Parameters, context fields and mappings are lists of keys with values in the order in which the
keys were first given.  A key that is given again keeps its place and takes the new value.

* `put`: gives a key a value; `lookup_put_self` and `lookup_put_of_ne` say what is then found.
* `drop`: takes a key away; `lookup_drop_of_ne` says what is then found.
* `Params`: the parameters of an event.
* `Value.entry?`, `Value.putEntry`: the same for a mapping, whose keys are any values.
-/

namespace Postprocessor.Fields

variable {κ α : Type} [BEq κ]

/-- Gives `key` the value `v`. -/
def put (fields : List (κ × α)) (key : κ) (v : α) : List (κ × α) :=
  match fields with
  | [] => [(key, v)]
  | (k, w) :: rest => if k == key then (k, v) :: rest else (k, w) :: put rest key v

/-- Gives the keys of `more` their values, one after the other. -/
def putAll (fields more : List (κ × α)) : List (κ × α) :=
  more.foldl (fun fs e => put fs e.1 e.2) fields

/-- Takes `key` away. -/
def drop (fields : List (κ × α)) (key : κ) : List (κ × α) :=
  fields.filter fun e => !(e.1 == key)

@[simp] theorem lookup_put_self [LawfulBEq κ] (fields : List (κ × α)) (key : κ) (v : α) :
    (put fields key v).lookup key = some v := by
  induction fields with
  | nil => simp [put]
  | cons e rest ih =>
    obtain ⟨k, w⟩ := e
    by_cases h : k = key
    · simp [put, h]
    · have h' : (key == k) = false := by simpa using Ne.symm h
      simp [put, h, List.lookup_cons, h', ih]

theorem lookup_put_of_ne [LawfulBEq κ] {key other : κ} (h : other ≠ key) (fields : List (κ × α))
    (v : α) : (put fields key v).lookup other = fields.lookup other := by
  have h' : (other == key) = false := by simpa using h
  induction fields with
  | nil => simp [put, List.lookup_cons, h']
  | cons e rest ih =>
    obtain ⟨k, w⟩ := e
    by_cases hk : k = key
    · subst hk
      simp [put, List.lookup_cons, h']
    · simp [put, hk, List.lookup_cons, ih]

@[simp] theorem lookup_drop_self [LawfulBEq κ] (fields : List (κ × α)) (key : κ) :
    (drop fields key).lookup key = none := by
  simp only [drop, List.lookup_eq_none_iff, List.mem_filter]
  rintro e ⟨-, he⟩
  have hne : e.1 ≠ key := by simpa using he
  simpa using hne.symm

theorem lookup_drop_of_ne [LawfulBEq κ] {key other : κ} (h : other ≠ key)
    (fields : List (κ × α)) : (drop fields key).lookup other = fields.lookup other := by
  simp only [drop]
  induction fields with
  | nil => rfl
  | cons e rest ih =>
    obtain ⟨k, w⟩ := e
    by_cases hk : k = key
    · subst hk
      have h' : (other == k) = false := by simpa using h
      simp only [BEq.rfl, Bool.not_true, Bool.false_eq_true, not_false_eq_true,
        List.filter_cons_of_neg, ih, List.lookup_cons, h']
    · simp [hk, List.lookup_cons, ih]

/-- A key that is not there yet comes last. -/
theorem put_of_not_mem [LawfulBEq κ] {key : κ} {fields : List (κ × α)}
    (h : key ∉ fields.map Prod.fst) (v : α) : put fields key v = fields ++ [(key, v)] := by
  induction fields with
  | nil => rfl
  | cons e rest ih =>
    obtain ⟨k, w⟩ := e
    simp only [List.map_cons, List.mem_cons, not_or] at h
    simp [put, Ne.symm h.1, ih h.2]

end Fields

/-- The parameters of an event. -/
abbrev Params := List (String × Value)

/-- The value of a parameter, null if it is not given. -/
def Params.get (params : Params) (key : String) : Value := (params.lookup key).getD .null

namespace Value

/-- The value of a key of a mapping. -/
def entry? (entries : List (Value × Value)) (key : Value) : Option Value :=
  (entries.find? fun e => e.1.finds key).map (·.2)

/-- Gives a key of a mapping a value. -/
def putEntry {α : Type} (entries : List (Value × α)) (key : Value) (v : α) : List (Value × α) :=
  match entries with
  | [] => [(key, v)]
  | (k, w) :: rest => if k.finds key then (k, v) :: rest else (k, w) :: putEntry rest key v

/-- The mapping of a list of keys and values, given one after the other. -/
def ofEntries (entries : List (Value × Value)) : Value :=
  .mapping (entries.foldl (fun es e => putEntry es e.1 e.2) [])

/-- A table with texts for keys as a mapping. -/
def ofFields (fields : List (String × Value)) : Value :=
  .mapping (fields.map fun e => (.text e.1, e.2))

end Value

end Postprocessor
