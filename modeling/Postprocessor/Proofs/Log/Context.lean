import Postprocessor.Log.Basic
import Postprocessor.Proofs.Fields

/-!
# Proofs — the context of a log

A context is changed one step after the other, but what is in it can be said of all steps at once:
the fields that were pushed and not popped since.  A field that is pushed again stays where it is
and has its latest value; one that was popped in between comes last.

* `Change`: a step that changes the context.
* `standing`: the fields that were pushed and not popped since.
* `IsContext`: the context that these fields make; `isContext_iff`: there is one and no other.
* `IsContext.apply`: what a change does to it.
-/

namespace Postprocessor.Log

/-- What changes the context of a log. -/
inductive Change where
  /-- Fields are added. -/
  | push (fields : Params)
  /-- Fields are taken away: those of the given keys, or all of them. -/
  | pop (keys : Option (List String))

namespace Change

/-- The log after a change. -/
def apply (l : Log) : Change → Log
  | .push fields => l.push fields
  | .pop keys => l.pop keys

/-- The fields that are added. -/
def added : Change → Params
  | .push fields => fields
  | .pop _ => []

/-- Whether a key is taken away. -/
def takes (key : String) : Change → Bool
  | .push _ => false
  | .pop none => true
  | .pop (some keys) => keys.contains key

end Change

/-- The fields that were pushed and not popped since, in the order in which they were pushed. -/
def standing : List Change → Params
  | [] => []
  | c :: later => (c.added.filter fun e => !later.any (·.takes e.1)) ++ standing later

theorem standing_append (changes : List Change) (c : Change) :
    standing (changes ++ [c]) = (standing changes).filter (fun e => !c.takes e.1) ++ c.added := by
  induction changes with
  | nil => simp [standing]
  | cons first changes ih =>
      simp only [List.cons_append, standing, ih, List.filter_append, List.filter_filter,
        List.append_assoc]
      congr 2
      funext e
      simp [Bool.and_comm]

theorem mem_standing {changes : List Change} {e : String × Value} (h : e ∈ standing changes) :
    ∃ c ∈ changes, e ∈ c.added := by
  induction changes with
  | nil => cases h
  | cons c changes ih =>
      rcases List.mem_append.mp h with h | h
      · exact ⟨c, List.mem_cons_self .., (List.mem_filter.mp h).1⟩
      · obtain ⟨c', hc, he⟩ := ih h
        exact ⟨c', List.mem_cons_of_mem _ hc, he⟩

theorem nodup_standing (changes : List Change) :
    ((standing changes).map Prod.fst).eraseDups.Nodup := by
  have none : (([] : Params).map Prod.fst).Nodup := List.nodup_nil
  rw [← Fields.keys_putAll]
  exact Fields.nodup_putAll none _

/-- The context that changes leave behind, if it was empty before: its keys are those that stand, in
the order in which they were first pushed, and each has the value that was pushed last. -/
structure IsContext (changes : List Change) (context : Params) : Prop where
  keys : context.map Prod.fst = ((standing changes).map Prod.fst).eraseDups
  last : ∀ key, context.lookup key = (standing changes).reverse.lookup key

/-- There is one such context. -/
theorem isContext_iff {changes : List Change} {context : Params} :
    IsContext changes context ↔ context = Fields.putAll [] (standing changes) := by
  have made : IsContext changes (Fields.putAll [] (standing changes)) :=
    ⟨Fields.keys_putAll _, fun key => by simp [Fields.lookup_putAll_reverse]⟩
  constructor
  · intro h
    exact Fields.eq_of_lookup (h.keys ▸ nodup_standing changes) (h.keys.trans made.keys.symm)
      fun key => (h.last key).trans (made.last key).symm
  · rintro rfl
    exact made

theorem IsContext.nodup {changes : List Change} {context : Params} (h : IsContext changes context) :
    (context.map Prod.fst).Nodup := h.keys ▸ nodup_standing changes

/-- Every field of the context was added. -/
theorem IsContext.exists_added {changes : List Change} {context : Params}
    (h : IsContext changes context) {e : String × Value} (he : e ∈ context) :
    ∃ c ∈ changes, e ∈ c.added := by
  rw [isContext_iff.mp h] at he
  exact mem_standing ((Fields.mem_putAll he).resolve_left List.not_mem_nil)

/-- Keys that are taken away one after the other are taken away all at once. -/
theorem foldl_drop (keys : List String) (fields : Params) :
    keys.foldl Fields.drop fields = fields.filter fun e => !keys.contains e.1 := by
  induction keys generalizing fields with
  | nil => exact (List.filter_eq_self.mpr fun _ _ => rfl).symm
  | cons key keys ih =>
      rw [List.foldl_cons, ih, Fields.drop, List.filter_filter]
      refine List.filter_congr fun e _ => ?_
      rw [List.contains_cons, Bool.not_or, Bool.and_comm]

theorem foldl_drop_putAll (keys : List String) (fields more : Params) :
    keys.foldl Fields.drop (Fields.putAll fields more) =
      Fields.putAll (keys.foldl Fields.drop fields) (keys.foldl Fields.drop more) := by
  induction keys generalizing fields more with
  | nil => rfl
  | cons key keys ih =>
      rw [List.foldl_cons, Fields.drop_putAll, ih, List.foldl_cons, List.foldl_cons]

/-- **The context after a change** is made of the fields that stand then. -/
theorem IsContext.apply {l : Log} {changes : List Change} (h : IsContext changes l.context)
    (c : Change) : IsContext (changes ++ [c]) (c.apply l).context := by
  rw [isContext_iff] at h ⊢
  rw [standing_append]
  cases c with
  | push fields =>
      have all : (standing changes).filter (fun e => !(Change.push fields).takes e.1) =
        standing changes := List.filter_eq_self.mpr fun _ _ => rfl
      rw [all, Change.added, Fields.putAll, List.foldl_append]
      exact congrArg (Fields.putAll · fields) h
  | pop keys =>
      rw [Change.added, List.append_nil]
      cases keys with
      | none =>
          have none : (standing changes).filter (fun e => !(Change.pop .none).takes e.1) = [] :=
            List.filter_eq_nil_iff.mpr fun _ _ => nofun
          rw [none]
          rfl
      | some keys =>
          have empty : keys.foldl Fields.drop ([] : Params) = [] := by
            rw [foldl_drop, List.filter_nil]
          calc keys.foldl Fields.drop l.context
              = Fields.putAll [] (keys.foldl Fields.drop (standing changes)) := by
                rw [h, foldl_drop_putAll, empty]
            _ = Fields.putAll [] ((standing changes).filter fun e => !keys.contains e.1) := by
                rw [foldl_drop]

end Postprocessor.Log
