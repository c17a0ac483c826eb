import Postprocessor.Log.Basic
import Postprocessor.Proofs.Fields
import Postprocessor.Proofs.Machine.Values

/-!
# Proofs — what a log line carries

The fields of a context stand in a line one after the other, between the level and the message.  In
a Json text they keep apart from the fields of the record itself only if they have other names.

* `Value.IsSimple`, `Value.IsWritable`: values without parts, and those that have a text.
* `IsPlain`: fields of such values that do not go by a name of the record's own.
* `Record.Carries`: a text with a record in it, and with the fields of a context.
* `Record.IsWritable`: when there is such a text; `exists_line_iff`: a line is written just then.
* `Record.carries_of_line`: what is written.
-/

namespace Postprocessor

namespace Value

/-- A value without parts. -/
def IsSimple : Value → Prop
  | .null | .bool _ | .int _ | .float _ | .text _ | .symbol _ => True
  | _ => False

/-- A whole number of few enough digits, or any other value. -/
def IsWritable : Value → Prop
  | .int i => IsPrintable i
  | _ => True

variable {v : Value}

theorem exists_intWritten_iff {i : Int} : (∃ w, intWritten i = .ok w) ↔ IsPrintable i := by
  constructor
  · rintro ⟨w, h⟩
    by_contra long
    rw [intWritten_of_not_isPrintable long] at h
    cases h
  · exact fun h => ⟨_, intWritten_of_isPrintable h⟩

theorem exists_written_iff (h : v.IsSimple) : (∃ w, v.written = .ok w) ↔ v.IsWritable := by
  cases v with
  | int i => simpa [written, shown, shownAtom, IsWritable] using exists_intWritten_iff
  | null | bool | float | text | symbol => simp [written, shown, shownAtom, IsWritable]
  | _ => exact h.elim

theorem exists_jsonAt_iff (h : v.IsSimple) (layout : Json.Layout) (depth : Nat) :
    (∃ w, v.jsonAt layout depth = .ok w) ↔ v.IsWritable := by
  cases v with
  | int i => simpa [jsonAt, Json.atom, IsWritable] using exists_intWritten_iff
  | null | bool | float | text | symbol => simp [jsonAt, Json.atom, IsWritable]
  | _ => exact h.elim

/-- A table of values without parts has a Json text if each of them has a text. -/
theorem exists_json_ofFields_iff {fields : Params} (h : ∀ e ∈ fields, e.2.IsSimple)
    (layout : Json.Layout) :
    (∃ t, (ofFields fields).json layout = .ok t) ↔ ∀ e ∈ fields, e.2.IsWritable := by
  have entries : (∃ ts, jsonEntries layout 1 (fields.map fun e => (.text e.1, e.2)) = .ok ts) ↔
      ∀ e ∈ fields, e.2.IsWritable := by
    induction fields with
    | nil => simp [jsonEntries]
    | cons e fields ih =>
        obtain ⟨first, others⟩ := List.forall_mem_cons.mp h
        rw [List.forall_mem_cons, ← exists_jsonAt_iff first layout 1, ← ih others]
        simp only [List.map_cons, jsonEntries]
        constructor
        · rintro ⟨ts, ok⟩
          obtain ⟨k, -, rest⟩ := bind_eq_ok ok
          obtain ⟨w, value, rest⟩ := bind_eq_ok rest
          obtain ⟨ws, more, -⟩ := bind_eq_ok rest
          exact ⟨⟨w, value⟩, ws, more⟩
        · rintro ⟨⟨w, value⟩, ws, more⟩
          exact ⟨_, by rw [value, more]; rfl⟩
  rw [← entries, ofFields, json, jsonAt]
  exact exists_map_eq_ok_iff

end Value

namespace Log

/-- The names of the fields that a record has of itself. -/
def ownNames : List String := ["t", "lvl", "name", "msg", "exc"]

/-- Fields of values without parts, none of which goes by a name of the record's own. -/
def IsPlain (fields : Params) : Prop := ∀ e ∈ fields, e.1 ∉ ownNames ∧ e.2.IsSimple

/-- Every level has a name unless its number is too long. -/
theorem exists_levelName_iff {level : Int} :
    (∃ name, levelName level = .ok name) ↔ IsPrintable level := by
  rw [levelName]
  split
  · next l hl =>
    have weight : (l.weight : Int) = level := by simpa using List.find?_some hl
    have printable : IsPrintable l.weight := by cases l <;> decide
    exact ⟨fun _ => weight ▸ printable, fun _ => ⟨_, rfl⟩⟩
  · split
    · next hzero =>
      have printable : IsPrintable 0 := by decide
      exact ⟨fun _ => hzero ▸ printable, fun _ => ⟨_, rfl⟩⟩
    · rw [exists_map_eq_ok_iff, Value.exists_intWritten_iff]

namespace Record

variable {r : Record} {style : Style} {context : Params} {time : Moment}

/-- The fields of a record around those of a context. -/
def told (r : Record) (context : Params) (time : Moment) (level message : String) : Params :=
  [("t", .text time.iso), ("lvl", .text level), ("name", .text r.source)] ++ context
    ++ [("msg", .text message)]
    ++ (r.failure.map fun failure => ("exc", Value.text (failureShown failure))).toList

/-- The own fields of a record are texts, so what holds of texts need only be seen to hold in the
context. -/
theorem forall_told_iff {P : Value → Prop} (texts : ∀ s, P (.text s)) (level message : String) :
    (∀ e ∈ r.told context time level message, P e.2) ↔ ∀ e ∈ context, P e.2 := by
  rw [told]
  cases r.failure <;> simp [or_imp, forall_and, texts]

/-- Fields of other names come between the own fields of a record, as they are. -/
theorem fields_eq_told (distinct : (context.map Prod.fst).Nodup) (plain : IsPlain context)
    (level message : String) :
    r.fields context time level message = r.told context time level message := by
  have other : ∀ key ∈ ownNames, key ∉ context.map Prod.fst := by
    intro key own there
    obtain ⟨e, he, rfl⟩ := List.mem_map.mp there
    exact (plain e he).1 own
  let own : Params := [("t", .text time.iso), ("lvl", .text level), ("name", .text r.source)]
  have keys : (own ++ context).map Prod.fst = ["t", "lvl", "name"] ++ context.map Prod.fst :=
    List.map_append
  have apart : ((own ++ context).map Prod.fst).Nodup := by
    rw [keys, List.nodup_append]
    refine ⟨by decide, distinct, fun key first key' there same => other key ?_ (same ▸ there)⟩
    exact List.mem_append_left ["msg", "exc"] first
  have message_new : "msg" ∉ (own ++ context).map Prod.fst := by
    rw [keys, List.mem_append, not_or]
    exact ⟨by decide, other "msg" (by decide)⟩
  have failure_new : "exc" ∉ (own ++ context ++ [("msg", Value.text message)]).map Prod.fst := by
    rw [List.map_append, keys, List.mem_append, List.mem_append, not_or, not_or]
    exact ⟨⟨by decide, other "exc" (by decide)⟩, by simp⟩
  rw [fields, told, Fields.putAll_of_nodup apart, Fields.put_of_not_mem message_new]
  cases r.failure with
  | none => exact (List.append_nil _).symm
  | some failure => exact Fields.put_of_not_mem failure_new _

/-- What tells a field in a line for people. -/
def ShowsField (field : String × Value) (text : String) : Prop :=
  ∃ w, field.2.written = .ok w ∧ text = field.1 ++ "=" ++ w

/-- A text in which a record is told with the fields of a context, and with no others: between bars
for people, or as a table. -/
inductive Carries (r : Record) (context : Params) (time : Moment) : Style → String → Prop
  | people {colours : Bool} {level message : String} {shown : List String}
      (hl : Log.levelName r.level = .ok level) (hm : fill r.template r.arguments = .ok message)
      (hs : List.Forall₂ ShowsField context shown) :
    Carries r context time ⟨false, colours⟩
      (" | ".intercalate ([time.stamp, levelShown colours r.level level]
        ++ (if context = [] then [] else [" ".intercalate shown]) ++ [message]) ++ r.failureLine)
  | table {colours : Bool} {level message line : String}
      (hl : Log.levelName r.level = .ok level) (hm : fill r.template r.arguments = .ok message)
      (ht : (Value.ofFields (r.told context time level message)).json .line = .ok line) :
    Carries r context time ⟨true, colours⟩ line

/-- Whether the numbers that come with a record, of its level and in its context, can be
written. -/
def IsWritable (r : Record) (context : Params) : Prop :=
  IsPrintable r.level ∧ ∀ e ∈ context, e.2.IsWritable

/-- Whether the arguments of a record fit its template. -/
def Fits (r : Record) : Prop := ∃ message, fill r.template r.arguments = .ok message

theorem exists_levelName_iff : (∃ name, r.levelName = .ok name) ↔ IsPrintable r.level := by
  simp only [levelName, mapError_eq_ok_iff]
  exact Log.exists_levelName_iff

theorem exists_mapM_fieldShown_iff (plain : IsPlain context) :
    (∃ shown, context.mapM fieldShown = .ok shown) ↔ ∀ e ∈ context, e.2.IsWritable := by
  rw [exists_mapM_iff]
  refine forall₂_congr fun e he => ?_
  simp only [fieldShown, exists_map_eq_ok_iff, mapError_eq_ok_iff]
  exact Value.exists_written_iff (plain e he).2

/-- What is written of a record is told with the fields of the context. -/
theorem carries_of_line (distinct : (context.map Prod.fst).Nodup) (plain : IsPlain context)
    {line : String} (h : r.line style context time = .ok line) :
    r.Carries context time style line := by
  obtain ⟨json, colours⟩ := style
  cases json with
  | true =>
      obtain ⟨level, hl, rest⟩ := bind_eq_ok h
      obtain ⟨message, hm, rest⟩ := bind_eq_ok rest
      rw [fields_eq_told distinct plain] at rest
      exact .table (mapError_eq_ok_iff.mp hl) (mapError_eq_ok_iff.mp hm)
        (mapError_eq_ok_iff.mp rest)
  | false =>
      obtain ⟨level, hl, rest⟩ := bind_eq_ok h
      obtain ⟨shown, hs, rest⟩ := bind_eq_ok rest
      obtain ⟨message, hm, rest⟩ := bind_eq_ok rest
      have told : List.Forall₂ ShowsField context shown := by
        refine (mapM_eq_ok_iff.mp hs).imp fun e t ht => ?_
        obtain ⟨w, hw, rfl⟩ := map_eq_ok ht
        exact ⟨w, mapError_eq_ok_iff.mp hw, rfl⟩
      have empty : shown.isEmpty = true ↔ context = [] := by
        rw [List.isEmpty_iff, ← List.length_eq_zero_iff, ← told.length_eq, List.length_eq_zero_iff]
      cases rest
      simp only [empty]
      exact .people (mapError_eq_ok_iff.mp hl) (mapError_eq_ok_iff.mp hm) told

theorem Fits.exists_message (fits : r.Fits) : ∃ message, r.message = .ok message := by
  obtain ⟨message, hm⟩ := fits
  exact ⟨message, mapError_eq_ok_iff.mpr hm⟩

theorem exists_humanLine_iff {colours : Bool} (plain : IsPlain context) (fits : r.Fits) :
    (∃ line, r.humanLine colours context time = .ok line) ↔ r.IsWritable context := by
  rw [IsWritable, ← exists_levelName_iff, ← exists_mapM_fieldShown_iff plain]
  constructor
  · rintro ⟨line, h⟩
    obtain ⟨level, hl, rest⟩ := bind_eq_ok h
    obtain ⟨shown, hs, -⟩ := bind_eq_ok rest
    exact ⟨⟨level, hl⟩, shown, hs⟩
  · rintro ⟨⟨level, hl⟩, shown, hs⟩
    obtain ⟨message, hm⟩ := fits.exists_message
    exact ⟨_, by rw [humanLine, hl, hs, hm]; rfl⟩

theorem exists_jsonLine_iff (distinct : (context.map Prod.fst).Nodup) (plain : IsPlain context)
    (fits : r.Fits) :
    (∃ line, r.jsonLine context time = .ok line) ↔ r.IsWritable context := by
  have table (level message : String) :
      (∃ t, (Value.ofFields (r.fields context time level message)).json .line = .ok t) ↔
        ∀ e ∈ context, e.2.IsWritable := by
    rw [fields_eq_told distinct plain, Value.exists_json_ofFields_iff]
    · exact forall_told_iff (fun _ => trivial) level message
    · exact (forall_told_iff (fun _ => trivial) level message).mpr fun e he => (plain e he).2
  rw [IsWritable, ← exists_levelName_iff]
  constructor
  · rintro ⟨line, h⟩
    obtain ⟨level, hl, rest⟩ := bind_eq_ok h
    obtain ⟨message, -, ht⟩ := bind_eq_ok rest
    exact ⟨⟨level, hl⟩, (table level message).mp ⟨line, mapError_eq_ok_iff.mp ht⟩⟩
  · rintro ⟨⟨level, hl⟩, writable⟩
    obtain ⟨message, hm⟩ := fits.exists_message
    obtain ⟨t, ht⟩ := (table level message).mpr writable
    refine ⟨t, ?_⟩
    rw [jsonLine, hl, hm]
    exact mapError_eq_ok_iff.mpr ht

/-- **A record whose message fits is written** unless a number that comes with it is too long. -/
theorem exists_line_iff (distinct : (context.map Prod.fst).Nodup) (plain : IsPlain context)
    (fits : r.Fits) : (∃ line, r.line style context time = .ok line) ↔ r.IsWritable context := by
  obtain ⟨json, colours⟩ := style
  cases json with
  | true => exact exists_jsonLine_iff distinct plain fits
  | false => exact exists_humanLine_iff plain fits

end Record

end Log

end Postprocessor
