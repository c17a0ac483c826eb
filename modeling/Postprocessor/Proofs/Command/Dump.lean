import Postprocessor.Proofs.Command.Outcome
import Postprocessor.Proofs.Fields
import Postprocessor.Proofs.Json
import Postprocessor.Proofs.Trace.Values

/-!
# Proofs — what a dump of events tells

A dump has a table for every record of a trace.  A table begins with the framing, the name and the
place of the record under two keys of their own, and goes on with the parameters.  A parameter may
have one of these two keys; it then stands where the name or the place should.

* `Trace.at_records`: the places and the keys of the records of a trace.
* `Record.IsTold`, `isTold_fields_iff`: a table tells its record if no parameter has a framing key.
* `Record.spelled`, `spelled_of_dumped`: records with one dump are spelled alike.
* `Command.dump_told`: what the dump of a trace tells.
-/

namespace Postprocessor

/-- What holds of all values of two tables holds of those of the two put together. -/
theorem Params.forall_putAll {P : Value → Prop} {params more : Params}
    (h : ∀ e ∈ params, P e.2) (hm : ∀ e ∈ more, P e.2) :
    ∀ e ∈ Fields.putAll params more, P e.2 := by
  induction more generalizing params with
  | nil => exact h
  | cons e more ih =>
      obtain ⟨first, others⟩ := List.forall_mem_cons.mp hm
      exact ih (forall_put h first e.1) others

/-! ### Records -/

namespace Trace

theorem nodup_assign {params : Params} (h : (params.map Prod.fst).Nodup) (line : List Char) :
    ((assign params line).map Prod.fst).Nodup := by
  rw [assign]
  induction scan line generalizing params with
  | nil => exact h
  | cons a rest ih => exact ih (Fields.nodup_put h ..)

/-- The records are at their places, and no parameter is given twice. -/
structure Reading.IsOrdered (r : Reading) : Prop where
  done : ∀ (i : Nat) (record : Record), r.done[i]? = some record →
    record.index = i ∧ (record.params.map Prod.fst).Nodup
  opened : ∀ block ∈ r.opened, (block.2.map Prod.fst).Nodup

namespace Reading.IsOrdered

variable {r : Reading}

theorem close (h : r.IsOrdered) : r.close.IsOrdered := by
  rw [Reading.close]
  cases ho : r.opened with
  | none => exact h
  | some block =>
      refine ⟨fun i record hi => ?_, fun _ none => by cases none⟩
      rw [Array.getElem?_push] at hi
      split at hi
      · next last =>
        cases hi
        exact ⟨last.symm, h.opened block ho⟩
      · exact h.done i record hi

theorem step (h : r.IsOrdered) (line : List Char) : (r.step line).IsOrdered := by
  rw [Reading.step]
  split
  · refine ⟨h.close.done, fun block hb => ?_⟩
    cases hb
    have none : (([] : Params).map Prod.fst).Nodup := List.nodup_nil
    exact nodup_assign none line
  · refine ⟨h.done, fun block hb => ?_⟩
    obtain ⟨before, ho, rfl⟩ := Option.map_eq_some_iff.mp hb
    exact nodup_assign (h.opened before ho) line

theorem foldl (h : r.IsOrdered) (lines : List (List Char)) :
    (lines.foldl Reading.step r).IsOrdered := by
  induction lines generalizing r with
  | nil => exact h
  | cons line lines ih => exact ih (h.step line)

end Reading.IsOrdered

/-- **The records of a trace** are at their places, and none of their parameters is given twice. -/
theorem at_records {text : String} {i : Nat} {r : Record} (h : (records text)[i]? = some r) :
    r.index = i ∧ (r.params.map Prod.fst).Nodup := by
  have start : Reading.start.IsOrdered := ⟨by simp [Reading.start], nofun⟩
  exact (start.foldl _).close.done i r h

theorem isTellable_ofToken (token : List Char) : (Value.ofToken token).IsTellable := by
  have nearest : ∀ s num den, (Value.float (.nearest s num den)).IsTellable := by
    intro s num den
    simp only [Binary64.nearest]
    split <;> trivial
  have number : ∀ d : Decimal, (Value.float d.toBinary64).IsTellable := by
    intro d
    rw [Decimal.toBinary64]
    split
    · trivial
    split
    · trivial
    split <;> exact nearest ..
  rw [Value.ofToken]
  split
  · trivial
  split
  · trivial
  split
  · exact number _
  split <;> trivial

/-- The parameters of a trace have Json texts of their own. -/
theorem isTellable_records (text : String) :
    ∀ r ∈ (records text).toList, ∀ e ∈ r.params, e.2.IsTellable := by
  refine forall_records fun _ _ a _ => ?_
  rw [Assignment.value]
  split
  · trivial
  · exact isTellable_ofToken _

/-! ### Tables of records -/

namespace Record

/-- The name and the place of a record under their keys. -/
def framing (r : Record) : List (String × Value) :=
  [("_eventName", .text r.name), ("_index", .int r.index)]

/-- No parameter has a key of the framing. -/
def IsUnframed (r : Record) : Prop := ∀ e ∈ r.params, e.1 ≠ "_eventName" ∧ e.1 ≠ "_index"

instance (r : Record) : Decidable r.IsUnframed :=
  inferInstanceAs (Decidable (∀ e ∈ r.params, e.1 ≠ "_eventName" ∧ e.1 ≠ "_index"))

/-- The table tells the record at a place: its name, its place and, under all other keys, its
parameters. -/
structure IsTold (r : Record) (i : Nat) (fields : List (String × Value)) : Prop where
  name : fields.lookup "_eventName" = some (.text r.name)
  index : fields.lookup "_index" = some (.int i)
  params : fields.filter (fun e => e.1 != "_eventName" && e.1 != "_index") = r.params

/-- The record with its symbols spelled. -/
def spelled (r : Record) : Record := { r with params := r.params.map (Prod.map id Value.spelled) }

variable {r : Record}

theorem nodup_framing (r : Record) : (r.framing.map Prod.fst).Nodup :=
  (by decide : ["_eventName", "_index"].Nodup)

theorem fields_of_isUnframed (h : r.IsUnframed) (hn : (r.params.map Prod.fst).Nodup) :
    r.fields = r.framing ++ r.params := by
  refine Fields.putAll_of_nodup ?_
  rw [List.map_append, List.nodup_append]
  refine ⟨r.nodup_framing, hn, fun a ha b hb same => ?_⟩
  obtain ⟨e, he, rfl⟩ := List.mem_map.mp hb
  obtain ⟨name, index⟩ := h e he
  rcases List.mem_cons.mp ha with rfl | ha
  · exact name same.symm
  · exact index (same.symm.trans (List.mem_singleton.mp ha))

/-- **A table tells its record** if no parameter has a key of the framing, and only then. -/
theorem isTold_fields_iff (hn : (r.params.map Prod.fst).Nodup) :
    r.IsTold r.index r.fields ↔ r.IsUnframed := by
  constructor
  · intro told e he
    rw [← told.params] at he
    simpa using (List.mem_filter.mp he).2
  · intro h
    rw [fields_of_isUnframed h hn]
    refine ⟨rfl, rfl, ?_⟩
    have others : r.params.filter (fun e => e.1 != "_eventName" && e.1 != "_index") = r.params :=
      List.filter_eq_self.mpr fun e he => by simpa using h e he
    rw [List.filter_append, others]
    rfl

/-- A record is told by its framing and its parameters. -/
theorem framed_injective : Function.Injective fun r : Record => r.framing ++ r.params := by
  rintro ⟨name, index, params⟩ ⟨name', index', params'⟩ h
  obtain ⟨rfl, places, rfl⟩ :
      name = name' ∧ (index : Int) = index' ∧ params = params' := by simpa [framing] using h
  obtain rfl : index = index' := Int.ofNat.inj places
  rfl

theorem map_spelled_fields (h : r.IsUnframed) (hn : (r.params.map Prod.fst).Nodup) :
    r.fields.map (Prod.map id Value.spelled) = r.spelled.framing ++ r.spelled.params := by
  rw [fields_of_isUnframed h hn, List.map_append]
  rfl

theorem isTellable_fields (h : ∀ e ∈ r.params, e.2.IsTellable) :
    ∀ e ∈ r.fields, e.2.IsTellable := by
  have framing : ∀ e ∈ r.framing, e.2.IsTellable :=
    List.forall_mem_cons.mpr ⟨trivial, List.forall_mem_singleton.mpr trivial⟩
  exact Params.forall_putAll framing h

end Record

end Trace

open Trace

/-! ### Dumps -/

namespace Command

/-- **Records with one dump are spelled alike**, unless a parameter has a key of the framing. -/
theorem spelled_of_dumped {text other t : String}
    (h : ∀ r ∈ (records text).toList, r.IsUnframed)
    (h' : ∀ r ∈ (records other).toList, r.IsUnframed)
    (ht : (dumped (records text).toList).json .indented = .ok t)
    (ht' : (dumped (records other).toList).json .indented = .ok t) :
    (records text).toList.map Record.spelled = (records other).toList.map Record.spelled := by
  have tellable (text : String) : ∀ fields ∈ (records text).toList.map Record.fields,
      ∀ e ∈ fields, e.2.IsTellable := by
    intro fields hf
    obtain ⟨r, hr, rfl⟩ := List.mem_map.mp hf
    exact Record.isTellable_fields (isTellable_records text r hr)
  have framed {text : String} (h : ∀ r ∈ (records text).toList, r.IsUnframed) :
      ((records text).toList.map Record.fields).map (List.map (Prod.map id Value.spelled)) =
        ((records text).toList.map Record.spelled).map fun r => r.framing ++ r.params := by
    rw [List.map_map, List.map_map]
    refine List.map_congr_left fun r hr => ?_
    obtain ⟨i, hi⟩ := List.mem_iff_getElem?.mp hr
    rw [Array.getElem?_toList] at hi
    exact Record.map_spelled_fields (h r hr) (at_records hi).2
  have tables (text : String) : dumped (records text).toList =
      .list (((records text).toList.map Record.fields).map Value.ofFields) := by
    rw [dumped, List.map_map]
    rfl
  rw [tables] at ht ht'
  have alike := Json.spelled_of_json (tellable text) (tellable other) ht ht'
  rw [framed h, framed h'] at alike
  exact List.map_injective_iff.mpr Record.framed_injective alike

/-- **What the dump of a trace tells.**  In the table of a record every key has the value of the
parameter of that name, or else that of the framing; so the table tells the record and its place if
no parameter has a key of the framing, and only then.  Traces without such parameters that have one
dump have the same records, but for symbols and their spellings. -/
theorem dump_told (text : String) :
    (∀ (i : Nat) (r : Record), (records text)[i]? = some r →
      r.index = i ∧ (r.fields.map Prod.fst).Nodup ∧
      (∀ key, r.fields.lookup key = (r.params.lookup key).or (r.framing.lookup key)) ∧
      (r.IsTold i r.fields ↔ r.IsUnframed)) ∧
    ∀ other t : String, (∀ r ∈ (records text).toList, r.IsUnframed) →
      (∀ r ∈ (records other).toList, r.IsUnframed) →
      (dumped (records text).toList).json .indented = .ok t →
      (dumped (records other).toList).json .indented = .ok t →
      (records text).toList.map Record.spelled = (records other).toList.map Record.spelled := by
  refine ⟨fun i r hr => ?_, fun other t => spelled_of_dumped⟩
  obtain ⟨rfl, hn⟩ := at_records hr
  exact ⟨rfl, Fields.nodup_putAll r.nodup_framing r.params, Fields.lookup_putAll hn,
    Record.isTold_fields_iff hn⟩

/-- A symbol and its spelling between quotes are dumped alike. -/
theorem dump_told_spelling :
    let t := "[\n  \x7b\n    \"_eventName\": \"Fan\",\n    \"_index\": 0,\n" ++
      "    \"x\": \"on\"\n  \x7d\n]"
    (dumped (records "(0)@fan x: on").toList).json .indented = .ok t ∧
      (dumped (records "(0)@fan x: 'on'").toList).json .indented = .ok t ∧
      (records "(0)@fan x: on").toList.map Record.spelled =
        (records "(0)@fan x: 'on'").toList.map Record.spelled := by
  intro t
  have bare : (records "(0)@fan x: on").toList =
      [⟨"Fan", 0, [("x", .symbol (.switch .on))]⟩] := by
    rw [records_ofList]
    rfl
  have quoted : (records "(0)@fan x: 'on'").toList = [⟨"Fan", 0, [("x", .text "on")]⟩] := by
    rw [records_ofList]
    rfl
  have first : (dumped (records "(0)@fan x: on").toList).json .indented = .ok t := by
    rw [bare]
    rfl
  have second : (dumped (records "(0)@fan x: 'on'").toList).json .indented = .ok t := by
    rw [quoted]
    rfl
  have unframed : ∀ r ∈ (records "(0)@fan x: on").toList, r.IsUnframed := by
    rw [bare]
    decide
  have unframed' : ∀ r ∈ (records "(0)@fan x: 'on'").toList, r.IsUnframed := by
    rw [quoted]
    decide
  exact ⟨first, second, (dump_told _).2 _ t unframed unframed' first second⟩

/-- **A parameter takes the place of the name.**  The table of the record does not tell it, and a
trace with another record has the same dump. -/
theorem name_overwritten :
    (records "(0)@line _eventName: 'Rapid'").toList =
        [⟨"Line", 0, [("_eventName", .text "Rapid")]⟩] ∧
      (records "(0)@rapid").toList = [⟨"Rapid", 0, []⟩] ∧
      dumped (records "(0)@line _eventName: 'Rapid'").toList =
        dumped (records "(0)@rapid").toList ∧
      ∀ r ∈ (records "(0)@line _eventName: 'Rapid'").toList, ¬ r.IsTold 0 r.fields := by
  have line : (records "(0)@line _eventName: 'Rapid'").toList =
      [⟨"Line", 0, [("_eventName", .text "Rapid")]⟩] := by
    rw [records_ofList]
    rfl
  have rapid : (records "(0)@rapid").toList = [⟨"Rapid", 0, []⟩] := by
    rw [records_ofList]
    rfl
  rw [line, rapid]
  refine ⟨rfl, rfl, rfl, List.forall_mem_singleton.mpr fun told => ?_⟩
  have found : some (Value.text "Rapid") = some (.text "Line") := told.name
  simp at found

end Command

end Postprocessor
