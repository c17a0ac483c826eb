import Postprocessor.Proofs.Machine.Values
import Postprocessor.Proofs.Output.Calls
import Postprocessor.Proofs.Text.Trimming
import Mathlib.Data.List.Forall2

/-!
# Proofs — the files of a program

Whatever is done to a file is a sequence of two things: a word is put, or the line is ended.  A
property that a new file has and that both keep is therefore a property of every file of every
program (`FileInvariant.runAll`).

* `taken`: the words that a file takes over from those that are put.
* `flush_eq`: the three outcomes of ending a line.
* `FileInvariant`: a property of files that putting and ending keep.
* `ProgramFile.IsTidy`: the words of a file are trimmed and not empty, no line is empty, and the
  lines carry the numbers of their places; `tidy_runAll` says that every file is so.
* `Line.text_eq`: a line is its label followed by its words with single spaces between them.
-/

namespace Postprocessor

/-! ### Words -/

/-- A text that a line takes over as it is. -/
def IsWord (w : String) : Prop := w ≠ "" ∧ w.trimmed = w

/-- The words that a file takes over from those that are put: without the blanks around them, and
only those that are not empty then. -/
def taken (words : List String) : List String := (words.map String.trimmed).filter (!·.isEmpty)

theorem taken_append (us vs : List String) : taken (us ++ vs) = taken us ++ taken vs := by
  simp [taken]

theorem trimmed_trimmed (s : String) : s.trimmed.trimmed = s.trimmed := by
  simp [String.trimmed, Text.trim_trim]

theorem isWord_of_mem_taken {words : List String} {w : String} (h : w ∈ taken words) :
    IsWord w := by
  obtain ⟨hmem, hne⟩ := List.mem_filter.mp h
  obtain ⟨s, -, rfl⟩ := List.mem_map.mp hmem
  exact ⟨by simpa using hne, trimmed_trimmed s⟩

theorem taken_of_isWord {words : List String} (h : ∀ w ∈ words, IsWord w) :
    taken words = words := by
  have same : words.map String.trimmed = words.map id :=
    List.map_congr_left fun w hw => (h w hw).2
  rw [taken, same, List.map_id, List.filter_eq_self]
  intro w hw
  simpa using (h w hw).1

theorem IsWord.isTrim {w : String} (h : IsWord w) : Text.IsTrim w.toList := by
  have e : Text.trim w.toList = w.toList := by
    rw [← String.toList_ofList (l := Text.trim w.toList)]
    exact congrArg String.toList h.2
  exact e ▸ Text.isTrim_trim w.toList

theorem isWord_of_isTrim {w : String} (hne : w ≠ "") (h : Text.IsTrim w.toList) : IsWord w := by
  refine ⟨hne, ?_⟩
  rw [String.trimmed, Text.trim_eq_self h, String.ofList_toList]

/-- Words joined by spaces need no trimming. -/
theorem trimmed_intercalate {words : List String} (h : ∀ w ∈ words, IsWord w) :
    (" ".intercalate words).trimmed = " ".intercalate words := by
  have key : Text.IsTrim (" ".intercalate words).toList := by
    rw [String.toList_intercalate]
    refine Text.isTrim_intercalate fun cs hcs => ?_
    obtain ⟨w, hw, rfl⟩ := List.mem_map.mp hcs
    exact ⟨(h w hw).isTrim, fun e => (h w hw).1 (String.toList_eq_nil_iff.mp e)⟩
  rw [String.trimmed, Text.trim_eq_self key, String.ofList_toList]

theorem isWord_intercalate {words : List String} (hne : words ≠ []) (h : ∀ w ∈ words, IsWord w) :
    IsWord (" ".intercalate words) := by
  refine ⟨fun e => ?_, trimmed_intercalate h⟩
  have empty := congrArg String.toList e
  rw [String.toList_intercalate] at empty
  refine Text.intercalate_ne_nil (by simpa using hne) (fun cs hcs => ?_) empty
  obtain ⟨w, hw, rfl⟩ := List.mem_map.mp hcs
  exact fun e => (h w hw).1 (String.toList_eq_nil_iff.mp e)

/-- A line is its label followed by its words with single spaces between them. -/
theorem Line.text_eq {l : Line} (h : ∀ w ∈ l.words, IsWord w) :
    l.text = l.label ++ " ".intercalate l.words := by
  rw [Line.text, Line.body, trimmed_intercalate h]

/-! ### Files -/

namespace ProgramFile

theorem put_eq (f : ProgramFile) (word : String) :
    f.put word = { f with pending := f.pending ++ taken [word] } := by
  rw [put]
  by_cases h : word.trimmed.isEmpty = true <;> simp [taken, h]

theorem putAll_eq (f : ProgramFile) (words : List String) :
    words.foldl put f = { f with pending := f.pending ++ taken words } := by
  induction words generalizing f with
  | nil => simp [taken]
  | cons w ws ih =>
      have split : taken (w :: ws) = taken [w] ++ taken ws := taken_append [w] ws
      rw [List.foldl_cons, ih, put_eq, split]
      simp

theorem words_putAll (f : ProgramFile) (words : List String) :
    (words.foldl put f).words = f.words ++ taken words := by
  rw [putAll_eq]
  simp [ProgramFile.words]

/-- The line that is being written, as it stands when it is ended. -/
def nextLine (numbering : Numbering) (f : ProgramFile) : Line :=
  ⟨if numbering.enabled then some f.nextNumber else none, f.pending⟩

/-- The file after its line is ended. -/
def ended (numbering : Numbering) (f : ProgramFile) : ProgramFile :=
  { f with
    lines := f.lines.push (f.nextLine numbering)
    pending := []
    nextNumber := f.nextNumber + numbering.increment }

/-- The number of the next line can be written, if it is needed. -/
def CanEnd (numbering : Numbering) (f : ProgramFile) : Prop :=
  numbering.enabled = true → IsPrintable f.nextNumber

/-- **Ending a line.**  Nothing happens if the line is empty; otherwise it is ended, or its number
cannot be written. -/
theorem flush_eq (numbering : Numbering) (f : ProgramFile) :
    (f.pending = [] ∧ f.flush numbering = .ok f) ∨
      (f.pending ≠ [] ∧ f.CanEnd numbering ∧ f.flush numbering = .ok (f.ended numbering)) ∨
      (f.pending ≠ [] ∧ ¬ f.CanEnd numbering ∧ f.flush numbering = .error .tooManyDigits) := by
  by_cases hp : f.pending = []
  · exact .inl ⟨hp, by simp [flush, hp]⟩
  · refine .inr ?_
    have hp' : f.pending.isEmpty = false := by simpa using hp
    by_cases he : numbering.enabled = true
    · by_cases hi : IsPrintable f.nextNumber
      · refine .inl ⟨hp, fun _ => hi, ?_⟩
        simp [flush, hp', he, intWritten_of_isPrintable hi, Except.map, ended, nextLine]
      · refine .inr ⟨hp, fun h => hi (h he), ?_⟩
        simp [flush, hp', he, intWritten_of_not_isPrintable hi, Except.map]
    · refine .inl ⟨hp, fun h => absurd h he, ?_⟩
      simp [flush, hp', he, ended, nextLine]

end ProgramFile

/-- A property that the files of a numbering have when they are made and keep when a word is put
and when a line is ended. -/
structure FileInvariant (numbering : Numbering) (P : ProgramFile → Prop) : Prop where
  empty : ∀ name, P (.empty name numbering.start)
  put : ∀ f word, P f → P (f.put word)
  ended : ∀ f : ProgramFile, f.pending ≠ [] → f.CanEnd numbering → P f → P (f.ended numbering)

namespace FileInvariant

variable {n : Numbering} {P : ProgramFile → Prop}

theorem putAll (h : FileInvariant n P) {f : ProgramFile} (hf : P f) (words : List String) :
    P (words.foldl ProgramFile.put f) := by
  induction words generalizing f with
  | nil => exact hf
  | cons w ws ih =>
      rw [List.foldl_cons]
      exact ih (h.put f w hf)

theorem flush (h : FileInvariant n P) {f g : ProgramFile} (hf : P f)
    (e : f.flush n = .ok g) : P g := by
  rcases f.flush_eq n with ⟨-, e'⟩ | ⟨hp, hc, e'⟩ | ⟨-, -, e'⟩ <;> rw [e'] at e <;> cases e
  · exact hf
  · exact h.ended f hp hc hf

end FileInvariant

/-- The property holds of all files, whose numbering is `n`. -/
structure FileSet.Holds (n : Numbering) (P : ProgramFile → Prop) (s : FileSet) : Prop where
  numbering : s.numbering = n
  main : P s.main
  closed : ∀ f ∈ s.closed, P f
  opened : ∀ f ∈ s.opened, P f

namespace FileSet

variable {n : Numbering} {P : ProgramFile → Prop}

theorem Holds.files {s : FileSet} (h : s.Holds n P) : ∀ f ∈ s.files, P f := by
  intro f hf
  simp only [FileSet.files, List.cons_append, List.mem_cons, List.mem_append,
    Option.mem_toList] at hf
  rcases hf with rfl | hf | hf
  · exact h.main
  · exact h.closed f hf
  · exact h.opened f hf

theorem Holds.current {s : FileSet} (h : s.Holds n P) : P s.current := by
  rw [FileSet.current]
  cases ho : s.opened with
  | none => exact h.main
  | some f => exact h.opened f ho

theorem Holds.setCurrent {s : FileSet} (h : s.Holds n P) {f : ProgramFile} (hf : P f) :
    (s.setCurrent f).Holds n P := by
  rw [FileSet.setCurrent]
  cases ho : s.opened with
  | none => exact ⟨h.numbering, hf, h.closed, fun g hg => by simp at hg⟩
  | some g => exact ⟨h.numbering, h.main, h.closed, fun g hg => Option.some.inj hg ▸ hf⟩

theorem setCurrent_setCurrent (s : FileSet) (f g : ProgramFile) :
    (s.setCurrent f).setCurrent g = s.setCurrent g := by
  cases h : s.opened <;> simp [setCurrent, h]

theorem setCurrent_current (s : FileSet) : s.setCurrent s.current = s := by
  obtain ⟨_, _, _, _, _ | f⟩ := s <;> rfl

theorem putAll_eq (s : FileSet) (words : List String) :
    words.foldl put s = s.setCurrent (words.foldl ProgramFile.put s.current) := by
  induction words generalizing s with
  | nil => exact (setCurrent_current s).symm
  | cons w ws ih =>
      rw [List.foldl_cons, ih, put, current_setCurrent, setCurrent_setCurrent, List.foldl_cons]

theorem numbering_setCurrent (s : FileSet) (f : ProgramFile) :
    (s.setCurrent f).numbering = s.numbering := by
  cases h : s.opened <;> simp [setCurrent, h]

theorem flush_eq (s : FileSet) :
    flush s = match s.current.flush s.numbering with
      | .ok f => (.ok (), s.setCurrent f)
      | .error e => (.error e, s) := by
  rw [flush, Step.run_update]
  cases s.current.flush s.numbering <;> rfl

theorem Holds.flush (hP : FileInvariant n P) {s : FileSet} (h : s.Holds n P) :
    (FileSet.flush s).2.Holds n P := by
  rw [flush_eq]
  cases e : s.current.flush s.numbering with
  | error e => exact h
  | ok f =>
      rw [h.numbering] at e
      exact h.setCurrent (hP.flush h.current e)

theorem Holds.emit (hP : FileInvariant n P) {s : FileSet} (h : s.Holds n P)
    (words : List String) (noFlush : Bool) : (FileSet.emit words noFlush s).2.Holds n P := by
  have put : (words.foldl FileSet.put s).Holds n P := by
    rw [putAll_eq]
    exact h.setCurrent (hP.putAll h.current words)
  cases noFlush with
  | true => exact put
  | false => exact put.flush hP

/-! ### Ending the lines of every file -/

/-- The second file is the first one, with its line ended or left as it was. -/
def Flushed (n : Numbering) (f g : ProgramFile) : Prop := g = f ∨ f.flush n = .ok g

/-- The lines of some files were ended, and nothing else was done. -/
structure LinesEnded (s s' : FileSet) : Prop where
  numbering : s'.numbering = s.numbering
  endWord : s'.endWord = s.endWord
  main : Flushed s.numbering s.main s'.main
  closed : List.Forall₂ (Flushed s.numbering) s.closed s'.closed
  opened : Option.Rel (Flushed s.numbering) s.opened s'.opened

theorem forall₂_flushed_refl (n : Numbering) (fs : List ProgramFile) :
    List.Forall₂ (Flushed n) fs fs := List.forall₂_same.mpr fun _ _ => .inl rfl

theorem rel_flushed_refl (n : Numbering) (f : Option ProgramFile) :
    Option.Rel (Flushed n) f f := by
  cases f with
  | none => exact .none
  | some f => exact .some (.inl rfl)

theorem flushEach_flushed (n : Numbering) (fs : List ProgramFile) :
    List.Forall₂ (Flushed n) fs (flushEach n fs).2 := by
  induction fs with
  | nil => exact .nil
  | cons f fs ih =>
      rw [flushEach]
      cases e : f.flush n with
      | error e => exact forall₂_flushed_refl n (f :: fs)
      | ok f' => exact .cons (.inr e) ih

theorem flushAll_linesEnded (s : FileSet) : LinesEnded s (flushAll s).2 := by
  obtain ⟨n, endWord, main, closed, opened⟩ := s
  rw [flushAll, Step.run_bind, Step.run_update]
  cases hm : main.flush n with
  | error e =>
      exact ⟨rfl, rfl, .inl rfl, forall₂_flushed_refl _ _, rel_flushed_refl _ _⟩
  | ok main' =>
      have each := flushEach_flushed n closed
      rcases hc : flushEach n closed with ⟨e | _, fs⟩ <;> rw [hc] at each <;>
        simp only [Except.map, Step.run_bind, hc, Step.run_update]
      · exact ⟨rfl, rfl, .inr hm, each, rel_flushed_refl _ _⟩
      · cases opened with
        | none => exact ⟨rfl, rfl, .inr hm, each, .none⟩
        | some f =>
            cases hf : f.flush n with
            | error e =>
                simp only [hf]
                exact ⟨rfl, rfl, .inr hm, each, rel_flushed_refl _ _⟩
            | ok f' =>
                simp only [hf]
                exact ⟨rfl, rfl, .inr hm, each, .some (.inr hf)⟩

theorem Flushed.holds (hP : FileInvariant n P) {f g : ProgramFile} (h : Flushed n f g)
    (hf : P f) : P g := by
  rcases h with rfl | h
  · exact hf
  · exact hP.flush hf h

theorem LinesEnded.holds (hP : FileInvariant n P) {s s' : FileSet} (h : LinesEnded s s')
    (hs : s.Holds n P) : s'.Holds n P := by
  obtain ⟨numbering, -, main, closed, opened⟩ := h
  rw [hs.numbering] at main closed opened
  refine ⟨numbering.trans hs.numbering, main.holds hP hs.main, fun g hg => ?_, fun g hg => ?_⟩
  · obtain ⟨k, hk, rfl⟩ := List.getElem_of_mem hg
    have hk' : k < s.closed.length := closed.length_eq ▸ hk
    exact (closed.get hk' hk).holds hP (hs.closed _ (List.getElem_mem hk'))
  · rw [Option.mem_def.mp hg] at opened
    generalize ho : s.opened = before at opened
    obtain ⟨hr⟩ := opened
    exact hr.holds hP (hs.opened _ ho)

/-! ### Opening and closing subprograms -/

/-- Opening a subprogram adds a new file, or fails and changes nothing. -/
theorem openSub_eq (name : Value) (s : FileSet) :
    (∃ e, openSub name s = (.error e, s)) ∨
      (s.opened = none ∧ s.hasName name = false ∧ openSub name s =
        (.ok (), { s with opened := some (.empty name s.numbering.start) })) := by
  rw [openSub, Step.run_update]
  cases ho : s.opened with
  | some f =>
      refine .inl ?_
      simp only
      rcases name.written with e | w
      · exact ⟨e, rfl⟩
      · rcases f.name.written with e | current <;> exact ⟨_, rfl⟩
  | none =>
      by_cases hc : name.isComparable = true
      · cases hn : s.hasName name with
        | true =>
            refine .inl ?_
            simp only [hc, Bool.not_true, Bool.false_eq_true, if_false, if_true]
            cases name.written with
            | error e => exact ⟨e, rfl⟩
            | ok w => exact ⟨_, rfl⟩
        | false => exact .inr ⟨rfl, rfl, by simp [hc]⟩
      · exact .inl ⟨.notComparable, by simp [hc]⟩

/-- The files after the open subprogram is put to the closed ones. -/
def closeOpened (s : FileSet) : FileSet :=
  { s with closed := s.closed ++ s.opened.toList, opened := none }

/-- Closing a subprogram ends its line, writes the end word and returns to the main file; it stops
where one of these fails. -/
theorem closeSub_of_opened {s : FileSet} {f : ProgramFile} (h : s.opened = some f) :
    closeSub s = match flush s with
      | (.error e, s') => (.error e, s')
      | (.ok _, s') => match emit [s.endWord] false s' with
        | (.error e, s'') => (.error e, s'')
        | (.ok _, s'') => (.ok (), s''.closeOpened) := by
  rw [closeSub, Step.bind_of_ok (Step.run_get s)]
  simp only [h]
  rw [Step.run_bind]
  rcases flush s with ⟨e | _, s'⟩
  · rfl
  · simp only
    rw [Step.run_bind]
    rcases emit [s.endWord] false s' with ⟨e | _, s''⟩ <;> rfl

theorem closeSub_of_not_opened {s : FileSet} (h : s.opened = none) :
    closeSub s = (.error (.noSubprogram (s.main.name.written.toOption.getD "")), s) := by
  rw [closeSub, Step.bind_of_ok (Step.run_get s)]
  simp only [h]
  rfl

theorem Holds.closeOpened {s : FileSet} (h : s.Holds n P) : s.closeOpened.Holds n P := by
  refine ⟨h.numbering, h.main, fun f hf => ?_, fun f hf => by simp [FileSet.closeOpened] at hf⟩
  simp only [FileSet.closeOpened, List.mem_append, Option.mem_toList] at hf
  rcases hf with hf | hf
  · exact h.closed f hf
  · exact h.opened f hf

theorem Holds.closeSub (hP : FileInvariant n P) {s : FileSet} (h : s.Holds n P) :
    (FileSet.closeSub s).2.Holds n P := by
  cases ho : s.opened with
  | none =>
      rw [closeSub_of_not_opened ho]
      exact h
  | some f =>
      rw [closeSub_of_opened ho]
      have first := h.flush hP
      rcases hf : FileSet.flush s with ⟨e | _, s'⟩ <;> rw [hf] at first
      · exact first
      · have second := first.emit hP [s.endWord] false
        simp only
        rcases he : FileSet.emit [s.endWord] false s' with ⟨e | _, s''⟩ <;> rw [he] at second
        · exact second
        · exact second.closeOpened

theorem Holds.openSub (hP : FileInvariant n P) {s : FileSet} (h : s.Holds n P) (name : Value) :
    (FileSet.openSub name s).2.Holds n P := by
  rcases openSub_eq name s with ⟨e, he⟩ | ⟨ho, -, he⟩ <;> rw [he]
  · exact h
  · refine ⟨h.numbering, h.main, h.closed, fun f hf => ?_⟩
    obtain rfl := Option.some.inj hf
    exact h.numbering ▸ hP.empty name

theorem Holds.fileStep (hP : FileInvariant n P) {s : FileSet} (h : s.Holds n P) (m : Machine)
    (call : Call) : (call.fileStep m s).2.Holds n P := by
  rcases call.fileStep_cases m with rfl | ⟨name, rfl⟩ | rfl | ⟨-, handed⟩
  · exact (flushAll_linesEnded s).holds hP h
  · exact h.openSub hP name
  · exact h.closeSub hP
  · rw [handed]
    rcases call.emission m with e | ⟨words, noFlush⟩
    · exact h
    · exact h.emit hP words noFlush

end FileSet

/-- **Every file of every run** has the properties that a new file has and that putting and ending
keep. -/
theorem FileInvariant.runAll {c : Config} {P : ProgramFile → Prop}
    (hP : FileInvariant c.numbering P) (calls : List Call) :
    ((Writer.start c).runAll calls).files.Holds c.numbering P := by
  have run : ∀ w : Writer, w.files.Holds c.numbering P →
      (w.runAll calls).files.Holds c.numbering P := by
    induction calls with
    | nil => exact fun w hw => hw
    | cons call calls ih =>
        intro w hw
        rw [Writer.runAll_cons]
        refine ih _ ?_
        rw [Writer.files_after]
        exact hw.fileStep hP w.machine call
  exact run _ ⟨rfl, hP.empty _, by simp [Writer.start, FileSet.start],
    by simp [Writer.start, FileSet.start]⟩

/-! ### Tidy files -/

/-- The number of the line at a place, if lines are numbered. -/
def Numbering.numberAt (n : Numbering) (k : Nat) : Option Int :=
  if n.enabled then some (n.start + k * n.increment) else none

/-- The words of the file are trimmed and not empty, no line is empty, and the lines carry the
numbers of their places. -/
structure ProgramFile.IsTidy (n : Numbering) (f : ProgramFile) : Prop where
  pending : ∀ w ∈ f.pending, IsWord w
  nonempty : ∀ l ∈ f.lines.toList, l.words ≠ []
  words : ∀ l ∈ f.lines.toList, ∀ w ∈ l.words, IsWord w
  numbered : ∀ k (h : k < f.lines.size), f.lines[k].number = n.numberAt k
  next : f.nextNumber = n.start + f.lines.size * n.increment

/-- New files are tidy, and stay so. -/
theorem ProgramFile.isTidy_invariant (n : Numbering) : FileInvariant n (IsTidy n) where
  empty name := ⟨by simp [empty], by simp [empty], by simp [empty], by simp [empty],
    by simp [empty]⟩
  put f word h := by
    rw [put_eq]
    refine ⟨fun w hw => ?_, h.nonempty, h.words, h.numbered, h.next⟩
    rcases List.mem_append.mp hw with hw | hw
    · exact h.pending w hw
    · exact isWord_of_mem_taken hw
  ended f hne _ h := by
    have mem : ∀ l ∈ (f.ended n).lines.toList, l ∈ f.lines.toList ∨ l = f.nextLine n := by
      intro l hl
      simpa [ended] using hl
    refine ⟨by simp [ended], fun l hl => ?_, fun l hl => ?_, fun k hk => ?_, ?_⟩
    · rcases mem l hl with hl | rfl
      · exact h.nonempty l hl
      · exact hne
    · rcases mem l hl with hl | rfl
      · exact h.words l hl
      · exact h.pending
    · -- the new line takes the number that was kept for it
      simp only [ended, Array.getElem_push]
      split
      · next hlt => exact h.numbered k hlt
      · have last : k = f.lines.size := by
          simp only [ended, Array.size_push] at hk
          omega
        rw [nextLine, Numbering.numberAt, h.next, last]
    · simp only [ended, Array.size_push, h.next]
      rw [Int.natCast_succ, Int.add_mul, Int.one_mul, Int.add_assoc]

/-- **Every file of every run is tidy.** -/
theorem tidy_runAll (c : Config) (calls : List Call) {f : ProgramFile}
    (hf : f ∈ ((Writer.start c).runAll calls).files.files) : f.IsTidy c.numbering :=
  ((ProgramFile.isTidy_invariant c.numbering).runAll calls).files f hf

end Postprocessor
