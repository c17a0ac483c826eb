import Postprocessor.Value

/-!
# Searching a sequence of events

A search starts at an index, which is any whole number, or from nowhere, where it finds nothing.  It
yields the position of an event.

* `here`, `next`, `previous`: the event at the index, after it and before it.
* `positions`: where a name stands.
* `nthNext`, `nthPrevious`: the `n`-th event of a name after the index, and before it.
-/

namespace Postprocessor.Search

/-- The position that a subscript stands for.  A negative one counts from the end. -/
def subscript (size : Nat) (i : Int) : Except Failure Nat :=
  if 0 ≤ i ∧ i < size then .ok i.toNat
  else if i < 0 ∧ 0 ≤ size + i then .ok (size + i).toNat
  else .error .outOfRange

/-- The position at the index, if there is one. -/
def here (size : Nat) (index : Option Int) : Option Nat :=
  match index with
  | some i => if 0 ≤ i ∧ i < size then some i.toNat else none
  | none => none

/-- The position after the index. -/
def next (size : Nat) (index : Option Int) : Except Failure (Option Nat) :=
  match index with
  | some i => if size ≤ i + 1 then .ok none else (subscript size (i + 1)).map some
  | none => .ok none

/-- The position before the index. -/
def previous (size : Nat) (index : Option Int) : Except Failure (Option Nat) :=
  match index with
  | some i => if i ≤ 0 then .ok none else (subscript size (i - 1)).map some
  | none => .ok none

/-- The positions of a name, in ascending order. -/
def positions (names : List String) (name : String) : List Nat :=
  (names.zipIdx.filter (·.1 == name)).map (·.2)

theorem mem_positions {names : List String} {name : String} {j : Nat} :
    j ∈ positions names name ↔ names[j]? = some name := by
  simp only [positions, List.mem_map, List.mem_filter, Prod.exists, beq_iff_eq]
  constructor
  · rintro ⟨s, k, ⟨h, rfl⟩, rfl⟩
    simpa [List.mk_mem_zipIdx_iff_getElem?] using h
  · intro h
    exact ⟨name, j, ⟨by simpa [List.mk_mem_zipIdx_iff_getElem?] using h, rfl⟩, rfl⟩

/-- The first position of the part of a sequence that starts at a subscript. -/
def partStart (size : Nat) (i : Int) : Nat :=
  if i < 0 then (size + i).toNat else i.toNat

/-- Refuses a count that is not positive. -/
def checkCount (n : Int) : Except Failure Unit :=
  if n < 1 then (Value.intWritten n).bind fun shown => .error (.badCount shown) else .ok ()

/-- The position of the `n`-th event of a name after the index. -/
def nthNext (names : List String) (index : Option Int) (name : String) (n : Int) :
    Except Failure (Option Nat) := do
  checkCount n
  match index with
  | some i =>
    let after := (positions names name).filter (partStart names.length (i + 1) ≤ ·)
    return after[(n - 1).toNat]?
  | none => return none

/-- The position of the `n`-th event of a name before the index, counted backward. -/
def nthPrevious (names : List String) (index : Option Int) (name : String) (n : Int) :
    Except Failure (Option Nat) := do
  checkCount n
  match index with
  | some i =>
    let before := (positions names name).reverse.filter fun (j : Nat) => (j : Int) < i
    return before[(n - 1).toNat]?
  | none => return none

/-- The position of the first event of a name after the index. -/
def nearest (names : List String) (index : Option Int) (name : String) :
    Except Failure (Option Nat) :=
  nthNext names index name 1

/-- The position of the last event of a name before the index. -/
def last (names : List String) (index : Option Int) (name : String) :
    Except Failure (Option Nat) :=
  nthPrevious names index name 1

end Postprocessor.Search
