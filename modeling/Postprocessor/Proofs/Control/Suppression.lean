import Postprocessor.Proofs.Control.Reading

/-!
# Proofs — suppressed words say nothing new

A machine leaves out the word for a value that agrees with the last one of its channel.  What keeps
this harmless is that a control *tracks* the machine: where the machine remembers a value, the
control holds the word for it.

* `Control.Tracks`: a control tracks a machine.
* `Shortens`: some of the words of a list, from which a control in a given state reads the same.
* `write_step`, `writeAll_step`: of the words of one value, or of several, some are left out; the
  control reads the same and goes on tracking.
* `Verb.assigned`, `Verb.full`, `Verb.refusal`: the assignments and the words of a verb in full, and
  the failure of one that is refused; none depends on the machine.
* `words_written`, `words_step`: a verb writes its assignments, and shortens its words in full.
-/

namespace Postprocessor

/-! ### Tracking -/

/-- The control holds the word for every value that the machine remembers. -/
def Control.Tracks (k : Control) (m : Machine) : Prop :=
  ∀ c, m.get c ≠ .null → c.Admits (m.get c) ∧ k c = some (c.word (m.get c))

/-- A machine that remembers nothing is tracked by every control. -/
theorem Control.tracks_fresh (k : Control) : k.Tracks .fresh :=
  fun c h => absurd (Machine.get_fresh c) h

/-- The words `us` are some of the words `vs`, and a control in state `k` reads the same from both;
they are all of them if `forced` holds. -/
structure Shortens (forced : Prop) (k : Control) (us vs : List String) : Prop where
  sublist : us.Sublist vs
  control : k.readAll us = k.readAll vs
  full : forced → us = vs

namespace Shortens

variable {p : Prop} {k : Control} {us vs us' vs' : List String}

theorem refl (p : Prop) (k : Control) (us : List String) : Shortens p k us us :=
  ⟨.refl us, rfl, fun _ => rfl⟩

theorem append (h : Shortens p k us vs) (h' : Shortens p (k.readAll vs) us' vs') :
    Shortens p k (us ++ us') (vs ++ vs') := by
  refine ⟨h.sublist.append h'.sublist, ?_, fun hp => by rw [h.full hp, h'.full hp]⟩
  rw [Control.readAll_append, h.control, h'.control, Control.readAll_append]

theorem weaken {q : Prop} (hq : q → p) (h : Shortens p k us vs) : Shortens q k us vs :=
  ⟨h.sublist, h.control, fun hp => h.full (hq hp)⟩

end Shortens

/-! ### Values -/

variable {k : Control} {m : Machine}

/-- **Writing one value** yields its word or nothing.  The control reads the same either way, and
goes on tracking. -/
theorem write_step (h : k.Tracks m) {a : Assignment} (ha : a.IsTaken) (force : Bool) :
    ∃ w m', Machine.write a.channel a.value force m = (.ok w, m') ∧
      (w = a.word ∨ force = false ∧ w = "") ∧ k.read w = k.read a.word ∧
      (k.read a.word).Tracks m' := by
  obtain ⟨c, v⟩ := a
  rcases ha with rfl | ha
  · exact ⟨"", m, Machine.write_null c force m, .inl rfl, rfl, h⟩
  · have spelled : Assignment.word ⟨c, v⟩ = c.word v := Channel.wordOrNone_of_admits ha
    have told : k.read (c.word v) = Function.update k c (some (c.word v)) :=
      Control.read_of_group (Control.group?_word ha)
    rw [spelled]
    simp only [Machine.write_admitted ha force m]
    by_cases hs : (!force && Register.agrees (m.get c) v) = true
    · -- nothing is written: the control already holds the word
      obtain ⟨hf, hagrees⟩ := Bool.and_eq_true_iff.mp hs
      have known : m.get c ≠ .null := by
        intro e
        rw [e, Channel.not_agrees_null ha] at hagrees
        cases hagrees
      obtain ⟨hold, hk⟩ := h c known
      have kept : k.read (c.word v) = k := by
        rw [told, ← Channel.word_eq_of_agrees hold ha hagrees, ← hk, Function.update_eq_self]
      rw [if_pos hs, kept]
      exact ⟨"", m, rfl, .inr ⟨by simpa using hf, rfl⟩, rfl, h⟩
    · -- the word is written: the control and the machine both hold `v` on this channel
      rw [if_neg hs]
      refine ⟨c.word v, m.set c v, rfl, .inl rfl, rfl, fun d hd => ?_⟩
      rw [told]
      rw [Machine.get_set] at hd ⊢
      by_cases hcd : c = d
      · subst hcd
        simpa using ha
      · rw [if_neg hcd] at hd ⊢
        rw [Function.update_of_ne (Ne.symm hcd)]
        exact h d hd

/-- Writing several values, word by word. -/
theorem writeAll_step {as : List Assignment} (ha : ∀ a ∈ as, a.IsTaken) (force : Bool)
    (h : k.Tracks m) :
    ∃ words m', Machine.writeAll force as m = (.ok words, m') ∧
      List.Forall₂ (fun w a => w = a.word ∨ force = false ∧ w = "") words as ∧
      k.readAll words = k.readAll (as.map Assignment.word) ∧
      (k.readAll (as.map Assignment.word)).Tracks m' := by
  induction as generalizing k m with
  | nil => exact ⟨[], m, rfl, .nil, rfl, h⟩
  | cons a as ih =>
      obtain ⟨w, m', hw, hcut, hread, htracks⟩ := write_step h (ha a (List.mem_cons_self ..)) force
      obtain ⟨words, m'', hws, hcuts, hreads, htracks'⟩ :=
        ih (fun b hb => ha b (List.mem_cons_of_mem _ hb)) htracks
      refine ⟨w :: words, m'', Machine.writeAll_cons_of_ok hw hws, .cons hcut hcuts, ?_, htracks'⟩
      show (k.read w).readAll words = (k.read a.word).readAll (as.map Assignment.word)
      rw [hread, hreads]

/-- Some of several words, the others empty. -/
theorem filter_sublist_of_cut {force : Bool} {words : List String} {as : List Assignment}
    (h : List.Forall₂ (fun w a => w = a.word ∨ force = false ∧ w = "") words as) :
    (words.filter (· ≠ "")).Sublist ((as.map Assignment.word).filter (· ≠ "")) := by
  induction h with
  | nil => exact .slnil
  | cons hw _ ih =>
      rcases hw with rfl | ⟨-, rfl⟩
      · rw [List.map_cons, List.filter_cons, List.filter_cons]
        split
        · exact ih.cons_cons _
        · exact ih
      · rw [List.filter_cons_of_neg (by simp), List.map_cons, List.filter_cons]
        split
        · exact ih.cons _
        · exact ih

theorem eq_of_cut_forced {words : List String} {as : List Assignment}
    (h : List.Forall₂ (fun w a => w = Assignment.word a ∨ true = false ∧ w = "") words as) :
    words = as.map Assignment.word := by
  induction h with
  | nil => rfl
  | cons hw _ ih =>
      rw [List.map_cons, ← ih, hw.resolve_right (by simp)]

/-- The words of several values, written one by one, shorten their words in full. -/
theorem shortens_of_cut {force : Bool} {words : List String} {as : List Assignment}
    (h : List.Forall₂ (fun w a => w = a.word ∨ force = false ∧ w = "") words as)
    (hread : k.readAll words = k.readAll (as.map Assignment.word)) :
    Shortens (force = true) k (words.filter (· ≠ ""))
      ((as.map Assignment.word).filter (· ≠ "")) := by
  refine ⟨filter_sublist_of_cut h, ?_, ?_⟩
  · rw [Control.readAll_filter, Control.readAll_filter, hread]
  · rintro rfl
    rw [eq_of_cut_forced h]

/-! ### Settings -/

/-- The assignments of a setting, none if it is refused. -/
def Setting.assigned (s : Setting) : List Assignment := s.assignments.toOption.getD []

theorem Setting.assigned_of_ok {s : Setting} {as : List Assignment}
    (h : s.assignments = .ok as) : s.assigned = as := by
  rw [assigned, h]
  rfl

theorem Setting.assigned_of_error {s : Setting} {e : Failure} (h : s.assignments = .error e) :
    s.assigned = [] := by
  rw [assigned, h]
  rfl

/-- **A setting** writes its assignments, and its text is heard as their words. -/
theorem apply_written {s : Setting} {as : List Assignment} (has : s.assignments = .ok as)
    (ha : ∀ a ∈ as, a.IsTaken) {force : Bool} {words : List String} {m' : Machine}
    (hw : Machine.writeAll force as m = (.ok words, m'))
    (hcut : List.Forall₂ (fun w a => w = a.word ∨ force = false ∧ w = "") words as) :
    Machine.apply force s m = (.ok (s.joined words), m') ∧
      Control.heard [s.joined words] = words.filter (· ≠ "") := by
  refine ⟨?_, Control.heard_joined has ?_⟩
  · rw [Machine.apply_eq, has]
    exact (Step.bind_of_ok (Step.run_lift _ _) _).trans ((Step.bind_of_ok hw _).trans rfl)
  · rw [List.forall₂_iff_get] at hcut ⊢
    refine ⟨hcut.1, fun i hi hi' => ?_⟩
    rcases ha _ (List.get_mem as ⟨i, hi'⟩) with hnull | hadmits
    · refine .inl ((hcut.2 i hi hi').elim (fun e => ?_) And.right)
      rw [e, Assignment.word, hnull]
      rfl
    · refine (hcut.2 i hi hi').symm.imp And.right fun e => ⟨hadmits, ?_⟩
      rw [e, Assignment.word, Channel.wordOrNone_of_admits hadmits]

/-- Several settings write their assignments, and their texts are heard as the words. -/
theorem applyAll_written {ss : List Setting} (hs : ∀ s ∈ ss, s.IsModal)
    (has : ∀ s ∈ ss, ∃ as, s.assignments = .ok as) (force : Bool) (h : k.Tracks m) :
    ∃ words texts m', Machine.writeAll force (ss.flatMap Setting.assigned) m = (.ok words, m') ∧
      ss.mapM (Machine.apply force) m = (.ok texts, m') ∧
      Control.heard texts = words.filter (· ≠ "") := by
  induction ss generalizing k m with
  | nil => exact ⟨[], [], m, rfl, rfl, rfl⟩
  | cons s ss ih =>
      obtain ⟨as, hsa⟩ := has s (List.mem_cons_self ..)
      have taken := (hs s (List.mem_cons_self ..)).isTaken hsa
      obtain ⟨words, m', hw, hcut, -, htracks⟩ := writeAll_step taken force h
      obtain ⟨applied, heard⟩ := apply_written hsa taken hw hcut
      obtain ⟨words', texts, m'', hw', ht, heard'⟩ :=
        ih (fun t ht => hs t (List.mem_cons_of_mem _ ht))
          (fun t ht => has t (List.mem_cons_of_mem _ ht)) htracks
      refine ⟨words ++ words', s.joined words :: texts, m'', ?_, ?_, ?_⟩
      · rw [List.flatMap_cons, Setting.assigned_of_ok hsa]
        exact Machine.writeAll_append hw hw'
      · rw [List.mapM_cons, Step.bind_of_ok applied]
        exact (Step.bind_of_ok ht _).trans rfl
      · have split : Control.heard (s.joined words :: texts) =
            Control.heard [s.joined words] ++ Control.heard texts :=
          Control.heard_append [s.joined words] texts
        rw [split, heard, heard', List.filter_append]

/-! ### Verbs -/

namespace Verb

/-- The assignments of a verb, none if it is refused. -/
def assigned (v : Verb) : List Assignment := v.settings.flatMap Setting.assigned

/-- The words of a verb in full, none if it is refused. -/
def full (v : Verb) : List String :=
  (v.assigned.map Assignment.word).filter (· ≠ "") ++ v.actions

/-- The failure of a verb whose setting is refused. -/
def refusal : Verb → Except Failure Unit
  | .set s => s.assignments.map fun _ => ()
  | _ => .ok ()

/-- All settings of the verb are modal. -/
def IsModal (v : Verb) : Prop := ∀ s ∈ v.settings, s.IsModal

theorem isModal_rapid {target : Axis → Value} (h : (Setting.position target).IsModal) :
    (rapid target).IsModal := by
  intro s hs
  simp only [settings, List.mem_cons, List.not_mem_nil, or_false] at hs
  rcases hs with rfl | rfl
  · trivial
  · exact h

theorem isModal_line {target : Axis → Value} {feed : Value}
    (h : (Setting.position target).IsModal) (hf : Channel.feed.Takes feed) :
    (line target feed).IsModal := by
  intro s hs
  simp only [settings, List.mem_cons, List.not_mem_nil, or_false] at hs
  rcases hs with rfl | rfl | rfl
  · trivial
  · exact h
  · exact hf

theorem isModal_set {s : Setting} (h : s.IsModal) : (set s).IsModal :=
  List.forall_mem_singleton.mpr h

theorem assigned_rapid (target : Axis → Value) : (rapid target).assigned =
    ⟨.mode .motion, .int 0⟩ :: Axis.all.map fun of => ⟨.axis of, target of⟩ := by
  rw [assigned, settings, List.flatMap_cons,
    Setting.assigned_of_ok (Setting.assignments_mode (by decide))]
  rfl

theorem assigned_line (target : Axis → Value) (feed : Value) :
    (line target feed).assigned =
      ⟨.mode .motion, .int 1⟩ :: (Axis.all.map fun of => ⟨.axis of, target of⟩) ++
        [⟨.feed, feed⟩] := by
  rw [assigned, settings, List.flatMap_cons,
    Setting.assigned_of_ok (Setting.assignments_mode (by decide))]
  rfl

theorem assigned_set (s : Setting) : (set s).assigned = s.assigned := List.flatMap_singleton ..

/-- The values of a verb go to different channels. -/
theorem nodup_assigned (v : Verb) : (v.assigned.map Assignment.channel).Nodup := by
  cases v with
  | rapid target =>
      rw [assigned_rapid]
      exact (by decide : [Channel.mode .motion, .axis .x, .axis .y, .axis .z, .axis .a, .axis .b,
        .axis .c].Nodup)
  | line target feed =>
      rw [assigned_line]
      exact (by decide : [Channel.mode .motion, .axis .x, .axis .y, .axis .z, .axis .a, .axis .b,
        .axis .c, .feed].Nodup)
  | set s =>
      rw [assigned_set]
      cases hs : s.assignments with
      | error e =>
          rw [Setting.assigned_of_error hs]
          exact List.nodup_nil
      | ok as =>
          rw [Setting.assigned_of_ok hs, Setting.map_channel_assignments hs]
          exact s.nodup_channels
  | changeTool name => exact List.pairwise_singleton _ _

/-- A verb that is not refused has its assignments. -/
theorem assignments_of_refusal {v : Verb} (h : v.refusal = .ok ()) :
    ∀ s ∈ v.settings, ∃ as, s.assignments = .ok as := by
  intro s hs
  cases v with
  | rapid target =>
      simp only [settings, List.mem_cons, List.not_mem_nil, or_false] at hs
      rcases hs with rfl | rfl
      · exact ⟨_, Setting.assignments_mode (by decide)⟩
      · exact ⟨_, rfl⟩
  | line target feed =>
      simp only [settings, List.mem_cons, List.not_mem_nil, or_false] at hs
      rcases hs with rfl | rfl | rfl
      · exact ⟨_, Setting.assignments_mode (by decide)⟩
      · exact ⟨_, rfl⟩
      · exact ⟨_, rfl⟩
  | set t =>
      obtain rfl := List.mem_singleton.mp hs
      obtain ⟨as, has, -⟩ := map_eq_ok h
      exact ⟨as, has⟩
  | changeTool name =>
      obtain rfl := List.mem_singleton.mp hs
      exact ⟨_, rfl⟩

theorem isTaken_assigned {v : Verb} (hv : v.IsModal) : ∀ a ∈ v.assigned, a.IsTaken := by
  intro a ha
  obtain ⟨s, hs, ha⟩ := List.mem_flatMap.mp ha
  cases has : s.assignments with
  | error e =>
      rw [Setting.assigned_of_error has] at ha
      cases ha
  | ok as => exact (hv s hs).isTaken has a (Setting.assigned_of_ok has ▸ ha)

end Verb

/-- Words that a control does not read. -/
theorem readAll_actions (v : Verb) (k : Control) : k.readAll v.actions = k := by
  cases v <;> rfl

theorem heard_actions (v : Verb) : Control.heard v.actions = v.actions := by
  cases v with
  | changeTool name => exact (by decide : Control.heard ["M6"] = ["M6"])
  | _ => rfl

/-- **A verb** that is not refused writes its assignments, and its texts are heard as their words
and its actions. -/
theorem words_written {v : Verb} (hv : v.IsModal) (hr : v.refusal = .ok ()) (force : Bool)
    (h : k.Tracks m) :
    ∃ words texts m', Machine.writeAll force v.assigned m = (.ok words, m') ∧
      v.words force m = (.ok texts, m') ∧
      Control.heard texts = words.filter (· ≠ "") ++ v.actions := by
  obtain ⟨words, texts, m', hw, ht, heard⟩ :=
    applyAll_written hv (Verb.assignments_of_refusal hr) force h
  refine ⟨words, texts ++ v.actions, m', hw, Step.bind_of_ok ht _, ?_⟩
  rw [Control.heard_append, heard_actions, heard]

/-- It shortens its words in full. -/
theorem words_step {v : Verb} (hv : v.IsModal) (hr : v.refusal = .ok ()) (force : Bool)
    (h : k.Tracks m) :
    ∃ texts m', v.words force m = (.ok texts, m') ∧
      Shortens (force = true) k (Control.heard texts) v.full ∧ (k.readAll v.full).Tracks m' := by
  obtain ⟨words, texts, m', hw, ht, heard⟩ := words_written hv hr force h
  obtain ⟨words', m'', hw', hcut, hread, htracks⟩ :=
    writeAll_step (Verb.isTaken_assigned hv) force h
  obtain ⟨rfl, rfl⟩ : words' = words ∧ m'' = m' := by
    rw [hw] at hw'
    cases hw'
    exact ⟨rfl, rfl⟩
  refine ⟨texts, m'', ht, ?_, ?_⟩
  · rw [heard]
    exact (shortens_of_cut hcut hread).append (.refl _ _ v.actions)
  · rw [Verb.full, Control.readAll_append, readAll_actions, Control.readAll_filter]
    exact htracks

/-- The words of a verb that is one setting. -/
theorem words_set {force : Bool} {s : Setting} {r : Except Failure String} {m' : Machine}
    (h : Machine.apply force s m = (r, m')) :
    (Verb.set s).words force m = (r.map fun text => [text], m') := by
  cases r with
  | error e =>
      have all : [s].mapM (Machine.apply force) m = (.error e, m') := by
        rw [List.mapM_cons]
        exact Step.bind_of_error h _
      exact Step.bind_of_error all _
  | ok text =>
      have all : [s].mapM (Machine.apply force) m = (.ok [text], m') := by
        rw [List.mapM_cons]
        exact (Step.bind_of_ok h _).trans rfl
      exact (Step.bind_of_ok all _).trans rfl

/-- A verb that is refused is a setting without assignments, and changes nothing. -/
theorem words_refused {v : Verb} {e : Failure} (hr : v.refusal = .error e) (force : Bool)
    (m : Machine) : v.words force m = (.error e, m) ∧ v.assigned = [] ∧ v.actions = [] := by
  cases v with
  | set s =>
      have has : s.assignments = .error e := by
        rw [Verb.refusal] at hr
        cases hs : s.assignments with
        | error e' =>
            rw [hs] at hr
            exact congrArg Except.error (Except.error.inj hr)
        | ok as =>
            rw [hs] at hr
            cases hr
      have applied : Machine.apply force s m = (.error e, m) := by
        rw [Machine.apply_eq, has]
        exact Step.bind_of_error (Step.run_lift _ _) _
      refine ⟨words_set applied, ?_, rfl⟩
      rw [Verb.assigned, Verb.settings, List.flatMap_singleton, Setting.assigned_of_error has]
  | _ => cases hr

theorem full_refused {v : Verb} {e : Failure} (hr : v.refusal = .error e) : v.full = [] := by
  obtain ⟨-, assigned, actions⟩ := words_refused hr false .fresh
  rw [Verb.full, assigned, actions]
  rfl

end Postprocessor
