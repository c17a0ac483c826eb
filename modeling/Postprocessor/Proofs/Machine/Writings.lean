import Postprocessor.Proofs.Machine.Words

/-!
# Proofs — what the words of a verb are written for

A verb hands over a few texts, in which the words of several channels may stand together.  Each word
is the writing of one assignment.

* `Writing`: an assignment with the word that is written for it.
* `Setting.writings`, `Verb.writings`: the steps of a setting and of a verb, which tell their
  writings.
* `words_eq`: the texts of a verb are put together from its writings.
* `Writing.Arises`, `arises_writings`: each of them is an assignment of the verb, as it is written.
-/

namespace Postprocessor

/-- An assignment with the word that is written for it, which is empty if it is left out. -/
structure Writing extends Assignment where
  written : String

namespace Setting

/-- Writes the assignments of a setting. -/
def writings (force : Bool) (s : Setting) : Step Machine (List Writing) := do
  let as ← Step.lift s.assignments
  as.mapM fun a => return ⟨a, ← Machine.write a.channel a.value force⟩

/-- The text that a setting yields for its writings. -/
def textOf (s : Setting) (ws : List Writing) : String := s.joined (ws.map Writing.written)

theorem apply_eq_writings (force : Bool) (s : Setting) :
    Machine.apply force s = s.textOf <$> s.writings force := by
  have words : ∀ as : List Assignment, Machine.writeAll force as = List.map Writing.written <$>
      as.mapM fun a => return ⟨a, ← Machine.write a.channel a.value force⟩ := by
    intro as
    rw [← Step.mapM_map_result]
    refine congrArg as.mapM (funext fun a => ?_)
    rw [map_bind]
    simp
  rw [Machine.apply_eq, writings, map_bind]
  refine congrArg _ (funext fun as => ?_)
  rw [words, bind_map_left, bind_pure_comp]
  rfl

end Setting

namespace Verb

/-- Writes the assignments of a verb, setting by setting. -/
def writings (force : Bool) (v : Verb) : Step Machine (List (Setting × List Writing)) :=
  v.settings.mapM fun s => return (s, ← s.writings force)

/-- The text of a setting and its writings. -/
def textOf (group : Setting × List Writing) : String := group.1.textOf group.2

/-- **The words of a verb** are the texts of its writings, and its actions. -/
theorem words_eq (force : Bool) (v : Verb) :
    v.words force = (fun groups => groups.map textOf ++ v.actions) <$> v.writings force := by
  have texts : v.settings.mapM (Machine.apply force) = List.map textOf <$> v.writings force := by
    rw [writings, ← Step.mapM_map_result]
    refine congrArg v.settings.mapM (funext fun s => ?_)
    rw [Setting.apply_eq_writings, map_bind, ← bind_pure_comp]
    simp [textOf]
  rw [words, texts, bind_map_left, bind_pure_comp]

end Verb

/-- The word is what some machine writes for an assignment of the setting. -/
structure Writing.Arises (s : Setting) (force : Bool) (w : Writing) : Prop where
  assigned : ∃ as, s.assignments = .ok as ∧ w.toAssignment ∈ as
  written : ∃ m, (Machine.write w.channel w.value force m).1 = .ok w.written

namespace Setting

theorem arises_writings {s : Setting} {force : Bool} {m : Machine} {ws : List Writing}
    (h : (s.writings force m).1 = .ok ws) : ∀ w ∈ ws, w.Arises s force := by
  rw [writings, Step.run_bind] at h
  split at h
  · next as assigned =>
    refine Step.forall_mapM (fun a ha m w hw => ?_) h
    rw [Step.run_bind] at hw
    split at hw
    · next word written =>
      cases hw
      exact ⟨⟨as, assigned, ha⟩, m, written⟩
    · cases hw
  · cases h

end Setting

/-- **The writings of a verb** arise from its settings. -/
theorem Verb.arises_writings {v : Verb} {force : Bool} {m : Machine}
    {groups : List (Setting × List Writing)} (h : (v.writings force m).1 = .ok groups) :
    ∀ g ∈ groups, g.1 ∈ v.settings ∧ ∀ w ∈ g.2, w.Arises g.1 force := by
  refine Step.forall_mapM (fun s hs m g hg => ?_) h
  rw [Step.run_bind] at hg
  split at hg
  · next ws written =>
    cases hg
    exact ⟨hs, Setting.arises_writings written⟩
  · cases hg

/-- What holds of every word that is written, of words that are put together from such words, and of
the actions holds of all words of a verb. -/
theorem Verb.forall_words {P : String → Prop} {v : Verb} {force : Bool} {m : Machine}
    {words : List String} (hw : (v.words force m).1 = .ok words)
    (written : ∀ s ∈ v.settings, ∀ w : Writing, w.Arises s force → P w.written)
    (joined : ∀ s ∈ v.settings, ∀ ws : List String, (∀ w ∈ ws, P w) → P (s.joined ws))
    (actions : ∀ w ∈ v.actions, P w) : ∀ w ∈ words, P w := by
  rw [words_eq, ← bind_pure_comp, Step.run_bind] at hw
  split at hw
  · next groups run =>
    cases hw
    refine List.forall_mem_append.mpr ⟨List.forall_mem_map.mpr fun g hg => ?_, actions⟩
    obtain ⟨setting, arises⟩ := arises_writings run g hg
    exact joined g.1 setting _ (List.forall_mem_map.mpr fun w hw =>
      written g.1 setting w (arises w hw))
  · cases hw

end Postprocessor
