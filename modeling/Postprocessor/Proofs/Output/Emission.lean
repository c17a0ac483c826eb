import Postprocessor.Proofs.Output.Files

/-!
# Proofs — emitting words

Words that are emitted go to the line of the current file, which is then ended unless it is to be
kept open.  Nothing can fail as long as the numbers of the lines can be written.

* `Numbering.Prints`: the numbers of the first lines of a file can be written.
* `ProgramFile.emitted`: a file after words are emitted; `pending_emitted`, `lines_emitted` and
  `size_emitted` say what it holds.
* `emit_eq`, `emit_main`: emitting words replaces the current file, which is the main file while no
  subprogram is open, by that file.
-/

namespace Postprocessor

/-- The numbers of the first `count` lines of a file can be written, if lines are numbered. -/
def Numbering.Prints (n : Numbering) (count : Nat) : Prop :=
  n.enabled = true → ∀ k < count, IsPrintable (n.start + k * n.increment)

instance (n : Numbering) (count : Nat) : Decidable (n.Prints count) :=
  inferInstanceAs (Decidable (_ → _))

theorem Numbering.Prints.mono {n : Numbering} {i j : Nat} (h : n.Prints j) (hij : i ≤ j) :
    n.Prints i := fun he k hk => h he k (Nat.lt_of_lt_of_le hk hij)

namespace ProgramFile

/-- The file after words are emitted, when the number of its line can be written. -/
def emitted (n : Numbering) (words : List String) (noFlush : Bool) (f : ProgramFile) :
    ProgramFile :=
  let g := words.foldl put f
  if noFlush ∨ g.pending = [] then g else g.ended n

variable {n : Numbering} {f : ProgramFile} {words : List String} {noFlush : Bool}

theorem pending_emitted : (f.emitted n words false).pending = [] := by
  rw [emitted]
  split
  · next h => exact h.resolve_left (by simp)
  · rfl

theorem pending_emitted_keep : (f.emitted n words true).pending = f.pending ++ taken words := by
  rw [emitted, if_pos (.inl rfl), putAll_eq]

/-- The lines after words are emitted: at most one more, made of the words that were pending. -/
theorem lines_emitted (f : ProgramFile) (words : List String) (noFlush : Bool) :
    (f.emitted n words noFlush).lines = f.lines ∨
      f.pending ++ taken words ≠ [] ∧ (f.emitted n words noFlush).lines =
        f.lines.push ⟨if n.enabled then some f.nextNumber else none, f.pending ++ taken words⟩ := by
  rw [emitted, putAll_eq]
  split
  · exact .inl rfl
  · next h => exact .inr ⟨fun e => h (.inr e), rfl⟩

theorem prefix_emitted (n : Numbering) (f : ProgramFile) (words : List String) (noFlush : Bool) :
    f.lines.toList <+: (f.emitted n words noFlush).lines.toList := by
  rcases f.lines_emitted (n := n) words noFlush with e | ⟨-, e⟩
  · exact ⟨[], by rw [e, List.append_nil]⟩
  · exact ⟨[_], by rw [e, Array.toList_push]⟩

theorem lines_emitted_keep : (f.emitted n words true).lines = f.lines := by
  rw [emitted, if_pos (.inl rfl), putAll_eq]

theorem size_emitted :
    (f.emitted n words noFlush).lines.size ≤ f.lines.size + if noFlush then 0 else 1 := by
  cases noFlush with
  | true => exact Nat.le_of_eq (congrArg Array.size lines_emitted_keep)
  | false =>
      have lines := f.lines_emitted (n := n) words false
      rcases lines with h | ⟨-, h⟩ <;> rw [h]
      · exact Nat.le_succ _
      · exact Nat.le_of_eq (Array.size_push _)

theorem canEnd_putAll (h : f.IsTidy n) (hp : n.Prints (f.lines.size + 1)) (words : List String) :
    (words.foldl put f).CanEnd n := by
  intro he
  rw [putAll_eq]
  show IsPrintable f.nextNumber
  rw [h.next]
  exact hp he _ (Nat.lt_succ_self _)

theorem isTidy_emitted (h : f.IsTidy n) (hp : noFlush = false → n.Prints (f.lines.size + 1)) :
    (f.emitted n words noFlush).IsTidy n := by
  have put := (isTidy_invariant n).putAll h words
  rw [emitted]
  split
  · exact put
  · next hne =>
      have flushed : noFlush = false := by
        cases noFlush with
        | true => exact absurd (.inl rfl) hne
        | false => rfl
      exact (isTidy_invariant n).ended _ (fun e => hne (.inr e))
        (canEnd_putAll h (hp flushed) words) put

end ProgramFile

namespace FileSet

theorem current_of_not_opened {s : FileSet} (h : s.opened = none) : s.current = s.main := by
  rw [current, h]
  rfl

theorem setCurrent_of_not_opened {s : FileSet} (h : s.opened = none) (f : ProgramFile) :
    s.setCurrent f = { s with main := f } := by
  rw [setCurrent, h]

/-- Putting words while no subprogram is open. -/
theorem putAll_main {s : FileSet} (h : s.opened = none) (words : List String) :
    words.foldl put s = { s with main := words.foldl ProgramFile.put s.main } := by
  rw [putAll_eq, current_of_not_opened h, setCurrent_of_not_opened h]

/-- Ending the line while no subprogram is open. -/
theorem flush_main {s : FileSet} (h : s.opened = none) :
    flush s = match s.main.flush s.numbering with
      | .ok f => (.ok (), { s with main := f })
      | .error e => (.error e, s) := by
  rw [flush_eq, current_of_not_opened h]
  cases s.main.flush s.numbering with
  | error e => rfl
  | ok f => simp only [setCurrent_of_not_opened h]

/-- **Emitting words** succeeds as long as the number of the line can be written. -/
theorem emit_eq {s : FileSet} {n : Numbering} (hn : s.numbering = n)
    (ht : s.current.IsTidy n) (words : List String) {noFlush : Bool}
    (hp : noFlush = false → n.Prints (s.current.lines.size + 1)) :
    emit words noFlush s = (.ok (), s.setCurrent (s.current.emitted n words noFlush)) := by
  cases noFlush with
  | true =>
      rw [emit_keep, putAll_eq, ProgramFile.emitted, if_pos (.inl rfl)]
  | false =>
      rw [emit_flush, putAll_eq, flush_eq, current_setCurrent, numbering_setCurrent, hn,
        ProgramFile.emitted]
      rcases ProgramFile.flush_eq n (words.foldl ProgramFile.put s.current) with
        ⟨hnil, e⟩ | ⟨hne, -, e⟩ | ⟨-, hc, -⟩
      · rw [e, if_pos (.inr hnil)]
        simp only [setCurrent_setCurrent]
      · rw [e, if_neg (by simpa using hne)]
        simp only [setCurrent_setCurrent]
      · exact absurd (ProgramFile.canEnd_putAll ht (hp rfl) words) hc

/-- Emitting words while no subprogram is open replaces the main file. -/
theorem emit_main {s : FileSet} {n : Numbering} (ho : s.opened = none) (hn : s.numbering = n)
    (ht : s.main.IsTidy n) (words : List String) {noFlush : Bool}
    (hp : noFlush = false → n.Prints (s.main.lines.size + 1)) :
    emit words noFlush s = (.ok (), { s with main := s.main.emitted n words noFlush }) := by
  have current := current_of_not_opened ho
  rw [emit_eq hn (current ▸ ht) words (current ▸ hp), current, setCurrent_of_not_opened ho]

/-- Emitting words fails where the number of the line cannot be written. -/
theorem emit_error {s : FileSet} {n : Numbering} (hn : s.numbering = n) {words : List String}
    (hne : s.current.pending ++ taken words ≠ []) (hc : ¬ s.current.CanEnd n) :
    (emit words false s).1 = .error .tooManyDigits := by
  rw [emit_flush, putAll_eq, flush_eq, current_setCurrent, numbering_setCurrent, hn,
    ProgramFile.putAll_eq]
  rcases ProgramFile.flush_eq n { s.current with pending := s.current.pending ++ taken words } with
    ⟨hnil, -⟩ | ⟨-, hc', -⟩ | ⟨-, -, e⟩
  · exact absurd hnil hne
  · exact absurd hc' hc
  · rw [e]

end FileSet

end Postprocessor
