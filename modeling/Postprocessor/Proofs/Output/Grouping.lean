import Postprocessor.Proofs.Output.Failing
import Postprocessor.Proofs.Output.Growth
import Postprocessor.Proofs.Output.Subprograms

/-!
# Proofs — the grouping of words into lines

A call hands the same words to the same file whether the line before it was ended or not, and it is
refused for the same reasons; only the number of a line may be impossible to write, and then the
line stays as it is.  So as long as every open line can be ended, where lines end matters for the
grouping of words into lines and for nothing else.

* `FileSet.SameWords`: two states of the files that differ in the grouping of words into lines only;
  `SameWords.emit`, `openSub` and `closeSub` say that they stay so.
* `FileSet.CanEnd`: no line that is open has a number that cannot be written.
* `Call.wording?`: what is left of a call without its order to end a line or to keep it open.
* `Writer.Agrees`: the same machine and the same words; `Agrees.after` says that a call and what is
  left of it keep two writers so, with the same outcome.
-/

namespace Postprocessor

/-! ### Files -/

/-- The name of a file and its words, however they are grouped into lines. -/
def ProgramFile.gist (f : ProgramFile) : Value × List String := (f.name, f.words)

namespace ProgramFile

variable {n n' : Numbering} {f f' g g' : ProgramFile} {endWord : String}

theorem gist_eq_iff : f.gist = g.gist ↔ f.name = g.name ∧ f.words = g.words := Prod.ext_iff

theorem gist_putAll (h : f.gist = g.gist) (words : List String) :
    (words.foldl put f).gist = (words.foldl put g).gist := by
  obtain ⟨name, same⟩ := gist_eq_iff.mp h
  refine gist_eq_iff.mpr ⟨?_, by rw [words_putAll, words_putAll, same]⟩
  rwa [putAll_eq, putAll_eq]

theorem words_finish (h : f.finish n endWord = .ok g) : g.words = f.words ++ taken [endWord] := by
  obtain ⟨f', first, second⟩ := finish_eq_ok h
  have put := f'.words_putAll [endWord]
  rw [List.foldl_cons, List.foldl_nil] at put
  rw [words_flush second, put, words_flush first]

theorem gist_finish (h : f.gist = g.gist) (hf : f.finish n endWord = .ok f')
    (hg : g.finish n' endWord = .ok g') : f'.gist = g'.gist := by
  obtain ⟨name, same⟩ := gist_eq_iff.mp h
  refine gist_eq_iff.mpr ⟨?_, by rw [words_finish hf, words_finish hg, same]⟩
  rw [name_finish hf, name_finish hg, name]

end ProgramFile

namespace FileSet

/-- The two states hold the same files with the same words. -/
structure SameWords (s t : FileSet) : Prop where
  endWord : s.endWord = t.endWord
  main : s.main.gist = t.main.gist
  closed : s.closed.map ProgramFile.gist = t.closed.map ProgramFile.gist
  opened : s.opened.map ProgramFile.gist = t.opened.map ProgramFile.gist

variable {s t u : FileSet} {f g : ProgramFile} {words : List String}

theorem SameWords.refl (s : FileSet) : s.SameWords s := ⟨rfl, rfl, rfl, rfl⟩

theorem SameWords.symm (h : s.SameWords t) : t.SameWords s :=
  ⟨h.endWord.symm, h.main.symm, h.closed.symm, h.opened.symm⟩

theorem SameWords.trans (h : s.SameWords t) (h' : t.SameWords u) : s.SameWords u :=
  ⟨h.endWord.trans h'.endWord, h.main.trans h'.main, h.closed.trans h'.closed,
    h.opened.trans h'.opened⟩

/-- No subprogram is open in either state, or the same one in both. -/
theorem SameWords.opened_cases (h : s.SameWords t) :
    (s.opened = none ∧ t.opened = none) ∨
      ∃ f g, s.opened = some f ∧ t.opened = some g ∧ f.gist = g.gist := by
  have opened := h.opened
  cases hs : s.opened <;> cases ht : t.opened <;>
    simp only [hs, ht, Option.map_none, Option.map_some, Option.some.injEq, reduceCtorEq] at opened
  · exact .inl ⟨rfl, rfl⟩
  · exact .inr ⟨_, _, rfl, rfl, opened⟩

theorem SameWords.current (h : s.SameWords t) : s.current.gist = t.current.gist := by
  rcases h.opened_cases with ⟨hs, ht⟩ | ⟨f, g, hs, ht, same⟩
  · rw [current_of_not_opened hs, current_of_not_opened ht, h.main]
  · rw [current_of_opened hs, current_of_opened ht, same]

theorem SameWords.files (h : s.SameWords t) :
    s.files.map ProgramFile.gist = t.files.map ProgramFile.gist := by
  have opened : s.opened.toList.map ProgramFile.gist = t.opened.toList.map ProgramFile.gist := by
    rw [← Option.toList_map, ← Option.toList_map, h.opened]
  rw [FileSet.files, FileSet.files, List.map_append, List.map_append, List.map_cons, List.map_cons,
    h.main, h.closed, opened]

theorem SameWords.setCurrent (h : s.SameWords t) (hf : f.gist = g.gist) :
    (s.setCurrent f).SameWords (t.setCurrent g) := by
  obtain ⟨endWord, main, closed, opened⟩ := h
  obtain ⟨_, _, _, _, _ | _⟩ := s <;> obtain ⟨_, _, _, _, _ | _⟩ := t <;>
    simp only [Option.map_none, Option.map_some, reduceCtorEq] at opened
  · exact ⟨endWord, hf, closed, rfl⟩
  · exact ⟨endWord, main, closed, congrArg some hf⟩

/-- A state with the current file replaced by one of the same name and words. -/
theorem sameWords_setCurrent (h : s.current.gist = f.gist) : s.SameWords (s.setCurrent f) := by
  have same := (SameWords.refl s).setCurrent h
  rwa [setCurrent_current] at same

/-! ### Ending lines -/

theorem Flushed.gist {n : Numbering} (h : Flushed n f g) : f.gist = g.gist :=
  ProgramFile.gist_eq_iff.mpr ⟨h.name.symm, h.words.symm⟩

/-- Ending lines changes no words, whether all lines can be ended or not. -/
theorem LinesEnded.sameWords (h : LinesEnded s t) : s.SameWords t := by
  have closed := h.closed.imp fun f g hfg => Flushed.gist hfg
  rw [← List.forall₂_map_right_iff, ← List.forall₂_map_left_iff, List.forall₂_eq_eq_eq] at closed
  have opened : s.opened.map ProgramFile.gist = t.opened.map ProgramFile.gist := by
    have hr := h.opened
    generalize s.opened = before at hr
    generalize t.opened = after at hr
    cases hr with
    | none => rfl
    | some hr => exact congrArg some hr.gist
  exact ⟨h.endWord.symm, h.main.gist, closed, opened⟩

theorem sameWords_flush (s : FileSet) : s.SameWords (flush s).2 := by
  rw [flush_eq]
  cases e : s.current.flush s.numbering with
  | error e => exact .refl s
  | ok f => exact sameWords_setCurrent (Flushed.gist (.inr e))

/-- No line that is open has a number that cannot be written. -/
def CanEnd (s : FileSet) : Prop := ∀ f ∈ s.files, ¬ f.IsStuck s.numbering

instance (s : FileSet) : Decidable s.CanEnd :=
  inferInstanceAs (Decidable (∀ f ∈ s.files, ¬ (f.pending ≠ [] ∧
    ¬ (s.numbering.enabled = true → IsPrintable f.nextNumber))))

theorem Grows.canEnd (h : s.Grows t) (ht : t.CanEnd) : s.CanEnd := h.not_isStuck ht

theorem canEnd_of_not_enabled (h : s.numbering.enabled = false) : s.CanEnd := by
  intro f _ stuck
  exact stuck.2 fun enabled => by
    rw [h] at enabled
    cases enabled

theorem canEnd_of_ended (h : ∀ f ∈ s.files, f.pending = []) : s.CanEnd :=
  fun f hf stuck => stuck.1 (h f hf)

theorem IsStuck.not_canEnd (h : s.IsStuck words) : ¬ (words.foldl put s).CanEnd := by
  rw [putAll_eq]
  intro all
  refine all _ (List.mem_of_getElem? (files_place _)) ?_
  rw [current_setCurrent, numbering_setCurrent, ProgramFile.putAll_eq]
  exact ⟨h.words, h.number⟩

/-! ### Handing words over -/

theorem SameWords.putAll (h : s.SameWords t) (words : List String) :
    (words.foldl put s).SameWords (words.foldl put t) := by
  rw [putAll_eq, putAll_eq]
  exact h.setCurrent (ProgramFile.gist_putAll h.current words)

theorem SameWords.emit (h : s.SameWords t) (words : List String) (keep keep' : Bool) :
    (FileSet.emit words keep s).2.SameWords (FileSet.emit words keep' t).2 := by
  have emitted : ∀ (u : FileSet) (keep : Bool),
      (words.foldl put u).SameWords (FileSet.emit words keep u).2 := by
    intro u keep
    cases keep with
    | true => exact .refl _
    | false => exact sameWords_flush _
  exact ((emitted s keep).symm.trans (h.putAll words)).trans (emitted t keep')

/-- Words are emitted if the line can be ended after them. -/
theorem emit_of_canEnd {keep : Bool} (h : (emit words keep s).2.CanEnd) :
    (emit words keep s).1 = .ok () := by
  rcases e : emit words keep s with ⟨e' | ⟨⟩, s'⟩
  · obtain ⟨-, stuck, -, rfl⟩ := emit_eq_error_iff.mp e
    rw [e] at h
    exact absurd h stuck.not_canEnd
  · rfl

/-! ### Subprograms -/

theorem SameWords.hasName (h : s.SameWords t) (name : Value) :
    s.hasName name = t.hasName name := by
  have names := congrArg (List.any · fun g => name.finds g.1) h.files
  rwa [List.any_map, List.any_map] at names

/-- Whether a subprogram can be opened depends on the names of the files alone. -/
theorem SameWords.openSub (h : s.SameWords t) (name : Value) :
    (FileSet.openSub name s).1 = (FileSet.openSub name t).1 ∧
      (FileSet.openSub name s).2.SameWords (FileSet.openSub name t).2 := by
  have refused : ∀ e : Failure, (Except.error e : Except Failure Unit) = .error e ∧
      s.SameWords t := fun _ => ⟨rfl, h⟩
  rcases h.opened_cases with ⟨hs, ht⟩ | ⟨f, g, hs, ht, same⟩
  · simp only [FileSet.openSub, Step.run_update, hs, ht, h.hasName]
    cases name.isComparable with
    | false => exact refused _
    | true =>
        cases t.hasName name with
        | false => exact ⟨rfl, h.endWord, h.main, h.closed, rfl⟩
        | true => cases name.written <;> exact refused _
  · have current : f.name = g.name := congrArg Prod.fst same
    simp only [FileSet.openSub, Step.run_update, hs, ht, current]
    cases name.written with
    | error e => exact refused e
    | ok _ => cases g.name.written <;> exact refused _

/-- A subprogram that is open can be closed if its lines can be ended after that. -/
theorem closeSub_of_canEnd (ho : s.opened.isSome = true) (h : (closeSub s).2.CanEnd) :
    (closeSub s).1 = .ok () := by
  rcases e : closeSub s with ⟨e' | ⟨⟩, s'⟩
  · rw [e] at h
    rcases (closeSub_eq_error_iff ho).mp e with ⟨stuck, -, rfl⟩ | ⟨t, -, stuck, -, rfl⟩
    · exact absurd h stuck.not_canEnd
    · exact absurd h stuck.not_canEnd
  · rfl

theorem SameWords.closeSub (h : s.SameWords t) (hs : (FileSet.closeSub s).2.CanEnd)
    (ht : (FileSet.closeSub t).2.CanEnd) : (FileSet.closeSub s).1 = (FileSet.closeSub t).1 ∧
      (FileSet.closeSub s).2.SameWords (FileSet.closeSub t).2 := by
  rcases h.opened_cases with ⟨os, ot⟩ | ⟨f, g, os, ot, same⟩
  · have main : s.main.name = t.main.name := congrArg Prod.fst h.main
    rw [closeSub_of_not_opened os, closeSub_of_not_opened ot, main]
    exact ⟨rfl, h⟩
  · have first := closeSub_of_canEnd (by simp [os]) hs
    have second := closeSub_of_canEnd (by simp [ot]) ht
    refine ⟨first.trans second.symm, ?_⟩
    rcases closeSub_cases os with ⟨f', hf, es⟩ | ⟨e, f', -, -, es⟩
    · rcases closeSub_cases ot with ⟨g', hg, et⟩ | ⟨e, g', -, -, et⟩
      · rw [← h.endWord] at hg
        have file := ProgramFile.gist_finish same hf hg
        rw [es, et]
        refine ⟨h.endWord, h.main, ?_, rfl⟩
        rw [List.map_append, List.map_append, h.closed, List.map_singleton, List.map_singleton,
          file]
      · rw [et] at second
        cases second
    · rw [es] at first
      cases first

/-! ### Ending all lines -/

theorem flushEach_of_not_isStuck {n : Numbering} {fs : List ProgramFile}
    (h : ∀ f ∈ fs, ¬ f.IsStuck n) : ∃ gs, flushEach n fs = (.ok (), gs) := by
  induction fs with
  | nil => exact ⟨[], rfl⟩
  | cons f fs ih =>
      obtain ⟨first, others⟩ := List.forall_mem_cons.mp h
      obtain ⟨g, hf⟩ := ProgramFile.flush_of_not_isStuck first
      obtain ⟨gs, hfs⟩ := ih others
      exact ⟨g :: gs, by simp only [flushEach, hf, hfs]⟩

/-- The lines of all files are ended if they can be. -/
theorem flushAll_of_canEnd (h : s.CanEnd) :
    (flushAll s).1 = .ok () ∧ ∀ f ∈ (flushAll s).2.files, f.pending = [] := by
  have ok : (flushAll s).1 = .ok () := by
    obtain ⟨n, endWord, main, closed, opened⟩ := s
    simp only [CanEnd, files, List.cons_append, List.forall_mem_cons, List.forall_mem_append] at h
    obtain ⟨hmain, hclosed, hopened⟩ := h
    obtain ⟨main', em⟩ := ProgramFile.flush_of_not_isStuck hmain
    obtain ⟨closed', ec⟩ := flushEach_of_not_isStuck hclosed
    simp only [flushAll, Step.run_bind, Step.run_update, em, Except.map, ec]
    cases opened with
    | none => rfl
    | some f =>
        obtain ⟨f', ef⟩ := ProgramFile.flush_of_not_isStuck (hopened f (by simp))
        simp only [ef]
  exact ⟨ok, pending_of_flushAll ok⟩

end FileSet

/-! ### Calls -/

/-- A call without its order to end the line or to keep it open, if anything is left of it then. -/
def Call.wording? : Call → Option Call
  | .verb v force _ => some (.verb v force true)
  | .put word _ => some (.put word false)
  | .flush | .flushAll => none
  | .callSub name _ => some (.callSub name true)
  | .callExternal name _ => some (.callExternal name true)
  | .comment text _ => some (.comment text true)
  | .openSub name => some (.openSub name)
  | .closeSub => some .closeSub
  | .resetMachine => some .resetMachine

variable {call a : Call}

/-- The words and their refusal do not depend on where lines end, and neither does the machine. -/
theorem Call.wording_emission (h : call.wording? = some a) (m : Machine) :
    (call.emission m).map Prod.fst = (a.emission m).map Prod.fst ∧
      call.machineAfter m = a.machineAfter m := by
  cases call with
  | flush | flushAll => cases h
  | openSub | closeSub | resetMachine =>
      cases h
      exact ⟨rfl, rfl⟩
  | verb v force noFlush =>
      cases h
      refine ⟨?_, rfl⟩
      rw [emission, emission]
      cases (v.words force m).1 <;> rfl
  | comment text noFlush =>
      cases h
      refine ⟨?_, rfl⟩
      rw [emission, emission]
      cases Writer.wordOf text with
      | error e => simp only [Except.map]
      | ok t =>
          simp only [Except.map]
          cases t.trimmed.isEmpty <;> rfl
  | put word ends | callSub word noFlush =>
      cases h
      refine ⟨?_, rfl⟩
      rw [emission, emission]
      cases Writer.wordOf word <;> rfl
  | callExternal name noFlush =>
      cases h
      refine ⟨?_, rfl⟩
      rw [emission, emission]
      cases name.written <;> rfl

namespace FileSet

variable {s t : FileSet}

theorem SameWords.handOver (h : s.SameWords t) {r r' : Except Failure (List String × Bool)}
    (hr : r.map Prod.fst = r'.map Prod.fst) (hs : (FileSet.handOver r s).2.CanEnd)
    (ht : (FileSet.handOver r' t).2.CanEnd) :
    (FileSet.handOver r s).1 = (FileSet.handOver r' t).1 ∧
      (FileSet.handOver r s).2.SameWords (FileSet.handOver r' t).2 := by
  rcases r with e | ⟨words, keep⟩ <;> rcases r' with e' | ⟨words', keep'⟩ <;> cases hr
  · exact ⟨rfl, h⟩
  · exact ⟨(emit_of_canEnd hs).trans (emit_of_canEnd ht).symm, h.emit words keep keep'⟩

/-- A call and what is left of it do the same to the words, as long as lines can be ended. -/
theorem SameWords.fileStep (h : s.SameWords t) (ha : call.wording? = some a) (m : Machine)
    (hs : (call.fileStep m s).2.CanEnd) (ht : (a.fileStep m t).2.CanEnd) :
    (call.fileStep m s).1 = (a.fileStep m t).1 ∧
      (call.fileStep m s).2.SameWords (a.fileStep m t).2 := by
  have emission := (Call.wording_emission ha m).1
  cases call with
  | flush | flushAll => cases ha
  | openSub name =>
      cases ha
      exact h.openSub name
  | closeSub =>
      cases ha
      exact h.closeSub hs ht
  | _ =>
      cases ha
      exact h.handOver emission hs ht

end FileSet

namespace Writer

variable {w v u : Writer}

/-- The writers have the same machine and the same words in the same files. -/
structure Agrees (w v : Writer) : Prop where
  machine : w.machine = v.machine
  files : w.files.SameWords v.files

theorem Agrees.symm (h : w.Agrees v) : v.Agrees w := ⟨h.machine.symm, h.files.symm⟩

theorem Agrees.trans (h : w.Agrees v) (h' : v.Agrees u) : w.Agrees u :=
  ⟨h.machine.trans h'.machine, h.files.trans h'.files⟩

/-- **A call does the same** wherever lines end, as long as they can be ended. -/
theorem Agrees.after (h : w.Agrees v) (ha : call.wording? = some a)
    (hw : (w.after call).files.CanEnd) (hv : (v.after a).files.CanEnd) :
    w.outcome call = v.outcome a ∧ (w.after call).Agrees (v.after a) := by
  rw [files_after] at hw hv
  rw [outcome_eq, outcome_eq]
  rw [← h.machine] at hv ⊢
  obtain ⟨outcome, files⟩ := h.files.fileStep ha w.machine hw hv
  refine ⟨outcome, ?_, ?_⟩
  · rw [machine_after, machine_after, (Call.wording_emission ha w.machine).2, h.machine]
  · rwa [files_after, files_after, ← h.machine]

/-- **Ending lines** succeeds as long as they can be ended, and is nothing but a matter of
grouping. -/
theorem agrees_of_wording?_eq_none (hc : call.wording? = none)
    (h : (w.after call).files.CanEnd) : w.outcome call = .ok () ∧ w.Agrees (w.after call) := by
  cases call with
  | flush =>
      rw [files_after] at h
      rw [outcome_eq]
      refine ⟨FileSet.emit_of_canEnd h, (machine_after w .flush).symm, ?_⟩
      rw [files_after]
      exact FileSet.sameWords_flush _
  | flushAll =>
      have before := (w.grows_after .flushAll).canEnd h
      rw [outcome_eq]
      refine ⟨(FileSet.flushAll_of_canEnd before).1, (machine_after w .flushAll).symm, ?_⟩
      rw [files_after]
      exact (FileSet.flushAll_linesEnded _).sameWords
  | _ => cases hc

end Writer

end Postprocessor
