import Postprocessor.Proofs.Control.Suppression

/-!
# Proofs — values that cannot be written

Assignments are written one after the other, and each is remembered before its text is made.  So
writing stops at the first value that has no text, with that value and those before it remembered.

* `Assignment.text`, `Assignment.IsNeeded`, `Assignment.IsWritable`: the text of a value, whether it
  is asked for, and whether there is one.
* `write_of_needed`, `write_of_not_needed`: the writing of one value.
* `Stops`: writing stops at a value; `writeAll_eq_error_iff` says that it fails in no other way.
* `Verb.words_eq_error_iff`: a verb that is not refused fails where the writing of its assignments
  stops; `Verb.words_of_isWritable`: if every value can be written it does not fail.
* `Setting.HasTexts`: there are texts for what a setting is given, so that it can be written.
-/

namespace Postprocessor

namespace Assignment

/-- The text of the value. -/
def text (a : Assignment) : Except Failure String := a.channel.style.write a.value

/-- There is nothing to write, or it can be written. -/
def IsWritable (a : Assignment) : Prop := a.value = .null ∨ ∃ s, a.text = .ok s

/-- The machine needs a word for the value. -/
structure IsNeeded (force : Bool) (m : Machine) (a : Assignment) : Prop where
  given : a.value ≠ .null
  new : (!force && Register.agrees (m.get a.channel) a.value) = false

end Assignment

namespace Machine

variable {force : Bool} {a : Assignment} {as us vs : List Assignment} {m m' : Machine} {e : Failure}
  {words : List String}

/-! ### Values -/

theorem write_of_needed (h : a.IsNeeded force m) :
    write a.channel a.value force m =
      (a.text.map (a.channel.address ++ ·), m.set a.channel a.value) := by
  rw [write_eq h.given, h.new]
  rfl

theorem write_of_not_needed (h : ¬ a.IsNeeded force m) :
    write a.channel a.value force m = (.ok "", m) := by
  by_cases hv : a.value = .null
  · rw [hv]
    exact write_null a.channel force m
  · have known : (!force && Register.agrees (m.get a.channel) a.value) = true :=
      Bool.not_eq_false _ ▸ fun new => h ⟨hv, new⟩
    rw [write_eq hv, if_pos known]

/-- The writing of a value fails if a word is needed and the value has no text. -/
theorem write_eq_error_iff : write a.channel a.value force m = (.error e, m') ↔
    a.IsNeeded force m ∧ a.text = .error e ∧ m' = m.set a.channel a.value := by
  by_cases h : a.IsNeeded force m
  · rw [write_of_needed h]
    constructor
    · intro hw
      cases ht : a.text <;> rw [ht] at hw <;> cases hw
      exact ⟨h, rfl, rfl⟩
    · rintro ⟨-, text, rfl⟩
      rw [text]
      rfl
  · rw [write_of_not_needed h]
    constructor
    · intro hw
      cases hw
    · exact fun hw => absurd hw.1 h

/-! ### Assignments -/

/-- Writing stops at a value for which a word is needed and that has no text.  It is remembered, as
are the values before it. -/
inductive Stops (force : Bool) (m : Machine) : List Assignment → Failure → Machine → Prop
  | value {us : List Assignment} {a : Assignment} {words : List String} {m' : Machine} {e : Failure}
      (written : writeAll force us m = (.ok words, m')) (needed : a.IsNeeded force m')
      (text : a.text = .error e) (vs : List Assignment) :
      Stops force m (us ++ a :: vs) e (m'.set a.channel a.value)

theorem writeAll_cons (a : Assignment) (as : List Assignment) :
    writeAll force (a :: as) = (do
      let w ← write a.channel a.value force
      let ws ← writeAll force as
      return w :: ws) := by
  rw [writeAll, List.mapM_cons]
  rfl

/-- What is written after other assignments. -/
theorem writeAll_append_of_ok (h : writeAll force us m = (.ok words, m')) :
    writeAll force (us ++ vs) m = (do
      let ws ← writeAll force vs
      return words ++ ws) m' := by
  rw [writeAll, List.mapM_append]
  exact Step.bind_of_ok h _

/-- **Writing fails where it stops**, and in no other way. -/
theorem writeAll_eq_error_iff : writeAll force as m = (.error e, m') ↔ Stops force m as e m' := by
  constructor
  · intro h
    induction as generalizing m with
    | nil => cases h
    | cons a as ih =>
        rcases hw : write a.channel a.value force m with ⟨e' | w, m₁⟩
        · rw [writeAll_cons_of_error hw] at h
          cases h
          obtain ⟨needed, text, rfl⟩ := write_eq_error_iff.mp hw
          exact .value (writeAll_nil force m) needed text as
        · rw [writeAll_cons, Step.bind_of_ok hw] at h
          rcases hr : writeAll force as m₁ with ⟨e' | ws, m₂⟩
          · rw [Step.bind_of_error hr] at h
            cases h
            obtain ⟨written, needed, text, vs⟩ := ih hr
            have stopped := Stops.value (writeAll_cons_of_ok hw written) needed text vs
            exact stopped
          · rw [Step.bind_of_ok hr] at h
            cases h
  · rintro ⟨written, needed, text, vs⟩
    have stopped := write_eq_error_iff.mpr ⟨needed, text, rfl⟩
    rw [writeAll_append_of_ok written]
    exact Step.bind_of_error (writeAll_cons_of_error stopped vs) _

/-- Writing does not stop if there is a text for every value. -/
theorem writeAll_of_isWritable (h : ∀ a ∈ as, a.IsWritable) (force : Bool) (m : Machine) :
    ∃ words m', writeAll force as m = (.ok words, m') := by
  rcases hw : writeAll force as m with ⟨e | words, m'⟩
  · obtain @⟨us, a, _, _, _, _, needed, text, vs⟩ := writeAll_eq_error_iff.mp hw
    rcases h a (by simp) with hnull | ⟨s, hs⟩
    · exact absurd hnull needed.given
    · rw [hs] at text
      cases text
  · exact ⟨words, m', rfl⟩

/-! ### Settings -/

/-- A setting that is not refused ends as the writing of its assignments does. -/
theorem apply_ends {s : Setting} (hs : s.assignments = .ok as) (force : Bool) (m : Machine) :
    (∃ words text m', writeAll force as m = (.ok words, m') ∧ apply force s m = (.ok text, m')) ∨
      ∃ e m', writeAll force as m = (.error e, m') ∧ apply force s m = (.error e, m') := by
  rw [apply_eq, hs, Step.bind_of_ok (Step.run_lift _ _)]
  rcases hw : writeAll force as m with ⟨e | words, m'⟩
  · exact .inr ⟨e, m', rfl, Step.bind_of_error hw _⟩
  · exact .inl ⟨words, s.joined words, m', rfl, Step.bind_of_ok hw _⟩

/-- Several settings that are not refused end as the writing of their assignments does. -/
theorem applyAll_ends {ss : List Setting} (hs : ∀ s ∈ ss, ∃ as, s.assignments = .ok as)
    (force : Bool) (m : Machine) :
    (∃ words texts m', writeAll force (ss.flatMap Setting.assigned) m = (.ok words, m') ∧
        ss.mapM (apply force) m = (.ok texts, m')) ∨
      ∃ e m', writeAll force (ss.flatMap Setting.assigned) m = (.error e, m') ∧
        ss.mapM (apply force) m = (.error e, m') := by
  induction ss generalizing m with
  | nil => exact .inl ⟨[], [], m, rfl, rfl⟩
  | cons s ss ih =>
      obtain ⟨as, has⟩ := hs s (List.mem_cons_self ..)
      rw [List.flatMap_cons, Setting.assigned_of_ok has, List.mapM_cons]
      rcases apply_ends has force m with ⟨words, text, m', hw, ht⟩ | ⟨e, m', hw, ht⟩
      · rw [Step.bind_of_ok ht, writeAll_append_of_ok hw]
        rcases ih (fun t mem => hs t (List.mem_cons_of_mem _ mem)) m' with
          ⟨words', texts, m'', hw', ht'⟩ | ⟨e, m'', hw', ht'⟩
        · exact .inl ⟨_, _, m'', Step.bind_of_ok hw' _, Step.bind_of_ok ht' _⟩
        · exact .inr ⟨e, m'', Step.bind_of_error hw' _, Step.bind_of_error ht' _⟩
      · refine .inr ⟨e, m', ?_, Step.bind_of_error ht _⟩
        rw [writeAll, List.mapM_append]
        exact Step.bind_of_error hw _

end Machine

namespace Setting

/-- There are texts for what the axes, the feed, the speed and the tool are given. -/
def HasTexts : Setting → Prop
  | .position target => ∀ of, ∃ s, (target of).written = .ok s
  | .feed v | .speed v | .tool v => ∃ s, v.written = .ok s
  | .mode .. | .plane _ | .direction _ => True

/-- A text is all that a word needs. -/
theorem isWritable_of_written {v : Value} (h : ∃ s, v.written = .ok s) (c : Channel) :
    Assignment.IsWritable ⟨c, v⟩ := by
  obtain ⟨s, hs⟩ := h
  have plain : ∃ t, v.plain = .ok t := by
    cases v with
    | float x => exact ⟨_, rfl⟩
    | _ => exact ⟨s, hs⟩
  obtain ⟨t, ht⟩ := plain
  cases c with
  | tool => exact .inr ⟨_, congrArg (Except.map fun w => "=\"" ++ w ++ "\"") hs⟩
  | _ => exact .inr ⟨t, ht⟩

theorem isWritable_of_admits {a : Assignment} (h : a.channel.Admits a.value) : a.IsWritable :=
  .inr ⟨_, Channel.write_of_admits h⟩

/-- The assignments of a setting can be written if there are texts for what it is given. -/
theorem HasTexts.isWritable {s : Setting} (h : s.HasTexts) {as : List Assignment}
    (hs : s.assignments = .ok as) : ∀ a ∈ as, a.IsWritable := by
  cases s with
  | position target =>
      cases hs
      intro a ha
      obtain ⟨of, -, rfl⟩ := List.mem_map.mp ha
      exact isWritable_of_written (h of) _
  | feed v | speed v | tool v =>
      cases hs
      exact List.forall_mem_singleton.mpr (isWritable_of_written h _)
  | mode mode code =>
      obtain ⟨_, hc, rfl⟩ := map_eq_ok hs
      exact List.forall_mem_singleton.mpr (isWritable_of_admits (Mode.admits_of_check hc))
  | plane v =>
      obtain ⟨_, hc, rfl⟩ := map_eq_ok hs
      obtain ⟨p, -, rfl⟩ := planeCode_eq_ok hc
      exact List.forall_mem_singleton.mpr (isWritable_of_admits p.admits_code)
  | direction v =>
      obtain ⟨_, hc, rfl⟩ := map_eq_ok hs
      obtain ⟨d, -, hd⟩ := directionCode_eq_ok hc
      exact List.forall_mem_singleton.mpr (isWritable_of_admits (Direction.admits_code hd))

end Setting

/-! ### Verbs -/

namespace Verb

variable {v : Verb} {force : Bool} {m m' : Machine} {e : Failure}

/-- A verb that is not refused ends as the writing of its assignments does. -/
theorem words_ends (hr : v.refusal = .ok ()) (force : Bool) (m : Machine) :
    (∃ words texts m', Machine.writeAll force v.assigned m = (.ok words, m') ∧
        v.words force m = (.ok texts, m')) ∨
      ∃ e m', Machine.writeAll force v.assigned m = (.error e, m') ∧
        v.words force m = (.error e, m') := by
  rcases Machine.applyAll_ends (assignments_of_refusal hr) force m with
    ⟨words, texts, m', hw, ht⟩ | ⟨e, m', hw, ht⟩
  · exact .inl ⟨words, texts ++ v.actions, m', hw, Step.bind_of_ok ht _⟩
  · exact .inr ⟨e, m', hw, Step.bind_of_error ht _⟩

/-- **A verb that is not refused** fails where the writing of its assignments stops. -/
theorem words_eq_error_iff (hr : v.refusal = .ok ()) :
    v.words force m = (.error e, m') ↔ Machine.Stops force m v.assigned e m' := by
  rw [← Machine.writeAll_eq_error_iff]
  rcases words_ends hr force m with ⟨words, texts, m'', hw, ht⟩ | ⟨e', m'', hw, ht⟩ <;>
    rw [hw, ht]
  constructor <;> intro h <;> cases h

/-- It does not fail if every value can be written. -/
theorem words_of_isWritable (hr : v.refusal = .ok ()) (h : ∀ a ∈ v.assigned, a.IsWritable)
    (force : Bool) (m : Machine) : ∃ texts m', v.words force m = (.ok texts, m') := by
  obtain ⟨words, m', written⟩ := Machine.writeAll_of_isWritable h force m
  rcases words_ends hr force m with ⟨_, texts, m'', -, ht⟩ | ⟨e, m'', hw, -⟩
  · exact ⟨texts, m'', ht⟩
  · rw [hw] at written
    cases written

/-- The assignments of a verb can be written if there are texts for what its settings are given. -/
theorem isWritable_assigned (h : ∀ s ∈ v.settings, s.HasTexts) : ∀ a ∈ v.assigned, a.IsWritable := by
  intro a ha
  obtain ⟨s, hs, mem⟩ := List.mem_flatMap.mp ha
  cases has : s.assignments with
  | error e =>
      rw [Setting.assigned_of_error has] at mem
      cases mem
  | ok as => exact (h s hs).isWritable has a (Setting.assigned_of_ok has ▸ mem)

end Verb

end Postprocessor
