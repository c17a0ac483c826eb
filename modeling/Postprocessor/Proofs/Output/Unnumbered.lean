import Postprocessor.Proofs.Output.Grouping

/-!
# Proofs — programs without numbers

The number of a line is written before its words and is never read again.  So taking the numbers
away from a program commutes with everything that is done to it, as long as the numbers can be
written: a run with numbers is a run without them, seen through `unnumbered`.

* `ProgramFile.unnumbered`, `FileSet.unnumbered`: files without the numbers of their lines.
* `unnumbered_fileStep`: a call does to the files without numbers what it does to the files.
* `Text.dropField`: a text without its first field.
* `Writer.SameButNumbers`: two writers whose files differ in the numbers of their lines only.
* `sameButNumbers_trail`: two runs whose configurations differ in the numbering.
-/

namespace Postprocessor

/-- No line has a number. -/
def Numbering.off : Numbering := ⟨false, 0, 0⟩

/-! ### One file -/

namespace ProgramFile

variable {n : Numbering} {f g : ProgramFile} {endWord : String}

/-- The file without the numbers of its lines. -/
def unnumbered (f : ProgramFile) : ProgramFile :=
  ⟨f.name, f.lines.map fun l => ⟨none, l.words⟩, f.pending, 0⟩

theorem unnumbered_empty (name : Value) (start : Int) :
    (empty name start).unnumbered = empty name 0 := by
  simp [unnumbered, empty]

theorem unnumbered_putAll (f : ProgramFile) (words : List String) :
    words.foldl put f.unnumbered = (words.foldl put f).unnumbered := by
  rw [putAll_eq, putAll_eq]
  rfl

theorem unnumbered_put (f : ProgramFile) (word : String) :
    f.unnumbered.put word = (f.put word).unnumbered := by
  rw [put_eq, put_eq]
  rfl

theorem unnumbered_ended (n : Numbering) (f : ProgramFile) :
    f.unnumbered.ended .off = (f.ended n).unnumbered := by
  simp [unnumbered, ended, nextLine, Numbering.off]

/-- Where a line is ended, it is ended without its number. -/
theorem unnumbered_flush (h : f.flush n = .ok g) :
    f.unnumbered.flush .off = .ok g.unnumbered := by
  rcases f.flush_eq n with ⟨hp, e⟩ | ⟨hp, -, e⟩ | ⟨-, -, e⟩ <;> rw [e] at h <;> cases h
  · exact flush_of_pending_eq_nil hp
  · rcases f.unnumbered.flush_eq .off with ⟨hp', -⟩ | ⟨-, -, e'⟩ | ⟨-, hc, -⟩
    · exact absurd hp' hp
    · rw [e', unnumbered_ended]
    · exact absurd (nofun : f.unnumbered.CanEnd .off) hc

theorem unnumbered_finish (h : f.finish n endWord = .ok g) :
    f.unnumbered.finish .off endWord = .ok g.unnumbered := by
  obtain ⟨f', first, second⟩ := finish_eq_ok h
  rw [finish_of_ok (unnumbered_flush first), unnumbered_put]
  exact unnumbered_flush second

end ProgramFile

/-! ### All files -/

namespace FileSet

variable {s : FileSet} {words : List String}

/-- The files without the numbers of their lines. -/
def unnumbered (s : FileSet) : FileSet :=
  ⟨.off, s.endWord, s.main.unnumbered, s.closed.map ProgramFile.unnumbered,
    s.opened.map ProgramFile.unnumbered⟩

theorem unnumbered_files (s : FileSet) :
    s.unnumbered.files = s.files.map ProgramFile.unnumbered := by
  simp [files, unnumbered, Option.toList_map]

theorem unnumbered_current (s : FileSet) : s.unnumbered.current = s.current.unnumbered := by
  obtain ⟨_, _, _, _, _ | f⟩ := s <;> rfl

theorem unnumbered_setCurrent (s : FileSet) (f : ProgramFile) :
    s.unnumbered.setCurrent f.unnumbered = (s.setCurrent f).unnumbered := by
  obtain ⟨_, _, _, _, _ | f⟩ := s <;> rfl

theorem unnumbered_hasName (s : FileSet) (name : Value) :
    s.unnumbered.hasName name = s.hasName name := by
  rw [hasName, unnumbered_files, List.any_map]
  rfl

theorem unnumbered_putAll (s : FileSet) (words : List String) :
    words.foldl put s.unnumbered = (words.foldl put s).unnumbered := by
  rw [putAll_eq, putAll_eq, unnumbered_current, ProgramFile.unnumbered_putAll,
    unnumbered_setCurrent]

/-! ### Calls -/

/-- The step does to the files without numbers what it does to the files, as long as lines can be
ended after it. -/
def KeepsUnnumbered (x : Step FileSet Unit) : Prop :=
  ∀ s, (x s).2.CanEnd → x s.unnumbered = ((x s).1, (x s).2.unnumbered)

theorem keepsUnnumbered_throw (e : Failure) : KeepsUnnumbered (throw e) := fun _ _ => rfl

theorem keepsUnnumbered_emit (words : List String) (noFlush : Bool) :
    KeepsUnnumbered (emit words noFlush) := by
  intro s h
  cases noFlush with
  | true => exact congrArg (Prod.mk _) (s.unnumbered_putAll words)
  | false =>
      have ended := emit_of_canEnd h
      rw [emit_flush, flush_eq] at ended h ⊢
      rw [emit_flush, flush_eq, unnumbered_putAll, unnumbered_current]
      cases e : (words.foldl put s).current.flush (words.foldl put s).numbering with
      | error e' =>
          rw [e] at ended
          cases ended
      | ok f =>
          have written := ProgramFile.unnumbered_flush e
          have numbering : (words.foldl put s).unnumbered.numbering = .off := rfl
          rw [numbering, written]
          exact congrArg (Prod.mk _) (unnumbered_setCurrent _ f)

theorem keepsUnnumbered_openSub (name : Value) : KeepsUnnumbered (openSub name) := by
  intro s _
  rcases ho : s.opened with _ | f
  · have ho' : s.unnumbered.opened = none := by rw [unnumbered, ho]; rfl
    simp only [openSub, Step.run_update, ho, ho', unnumbered_hasName]
    cases name.isComparable with
    | false => rfl
    | true =>
        cases s.hasName name with
        | false =>
            have new := ProgramFile.unnumbered_empty name s.numbering.start
            exact congrArg (fun f => ((.ok () : Except Failure Unit),
              { s.unnumbered with opened := some f })) new.symm
        | true => cases name.written <;> rfl
  · have ho' : s.unnumbered.opened = some f.unnumbered := by rw [unnumbered, ho]; rfl
    have same : f.unnumbered.name = f.name := rfl
    simp only [openSub, Step.run_update, ho, ho', same]
    cases name.written with
    | error e => rfl
    | ok _ => cases f.name.written <;> rfl

theorem keepsUnnumbered_closeSub : KeepsUnnumbered closeSub := by
  intro s h
  cases ho : s.opened with
  | none =>
      have ho' : s.unnumbered.opened = none := by rw [unnumbered, ho]; rfl
      rw [closeSub_of_not_opened ho, closeSub_of_not_opened ho']
      rfl
  | some f =>
      have ho' : s.unnumbered.opened = some f.unnumbered := by rw [unnumbered, ho]; rfl
      have ok := closeSub_of_canEnd (by simp [ho]) h
      rcases closeSub_cases ho with ⟨g, finish, e⟩ | ⟨_, _, -, -, e⟩
      · have finish' : f.unnumbered.finish s.unnumbered.numbering s.unnumbered.endWord =
            .ok g.unnumbered := ProgramFile.unnumbered_finish finish
        rcases closeSub_cases ho' with ⟨g', finished, e'⟩ | ⟨_, _, failed, -, -⟩
        · obtain rfl : g.unnumbered = g' := Except.ok.inj (finish'.symm.trans finished)
          rw [e, e']
          simp [unnumbered]
        · rw [finish'] at failed
          cases failed
      · rw [e] at ok
        cases ok

theorem flushEach_unnumbered {n : Numbering} {fs gs : List ProgramFile}
    (h : flushEach n fs = (.ok (), gs)) :
    flushEach .off (fs.map ProgramFile.unnumbered) = (.ok (), gs.map ProgramFile.unnumbered) := by
  induction fs generalizing gs with
  | nil =>
      cases h
      rfl
  | cons f fs ih =>
      rw [flushEach] at h
      cases first : f.flush n with
      | error e =>
          rw [first] at h
          cases h
      | ok f' =>
          rcases rest : flushEach n fs with ⟨e | ⟨⟩, fs'⟩ <;> rw [first, rest] at h <;> cases h
          simp only [List.map_cons, flushEach, ProgramFile.unnumbered_flush first, ih rest]

theorem keepsUnnumbered_flushAll : KeepsUnnumbered flushAll := by
  intro s h
  -- a line that could not be ended before could not be ended after
  have ended := flushAll_of_canEnd ((flushAll_linesEnded s).grows.canEnd h)
  obtain ⟨n, endWord, main, closed, opened⟩ := s
  simp only [flushAll, Step.run_bind, Step.run_update, unnumbered] at ended ⊢
  cases hm : main.flush n with
  | error e => simp [hm, Except.map] at ended
  | ok main' =>
      simp only [hm, ProgramFile.unnumbered_flush hm, Except.map] at ended ⊢
      rcases hc : flushEach n closed with ⟨e | ⟨⟩, closed'⟩
      · simp [hc] at ended
      · simp only [hc, flushEach_unnumbered hc] at ended ⊢
        cases opened with
        | none => rfl
        | some f =>
            cases hf : f.flush n with
            | error e => simp [hf] at ended
            | ok f' =>
                simp only [hf, Option.map_some, ProgramFile.unnumbered_flush hf]

/-- **A call** does to the files without numbers what it does to the files. -/
theorem unnumbered_fileStep (m : Machine) (call : Call) : KeepsUnnumbered (call.fileStep m) := by
  rcases call.fileStep_cases m with rfl | ⟨name, rfl⟩ | rfl | ⟨-, handed⟩
  · exact keepsUnnumbered_flushAll
  · exact keepsUnnumbered_openSub name
  · exact keepsUnnumbered_closeSub
  · rw [handed]
    rcases call.emission m with e | ⟨words, noFlush⟩
    · exact keepsUnnumbered_throw e
    · exact keepsUnnumbered_emit words noFlush

end FileSet

/-! ### Runs -/

namespace Writer

variable {w v : Writer}

/-- The writer without the numbers of the lines. -/
def unnumbered (w : Writer) : Writer := ⟨w.machine, w.files.unnumbered⟩

/-- **A call** of the writer without numbers has the outcome of the call, and leaves what the call
leaves. -/
theorem unnumbered_after {call : Call} (h : (w.after call).files.CanEnd) :
    w.unnumbered.outcome call = w.outcome call ∧
      w.unnumbered.after call = (w.after call).unnumbered := by
  rw [files_after] at h
  have step := FileSet.unnumbered_fileStep w.machine call w.files h
  rw [outcome_eq, outcome_eq, after, run, perform_eq, after, run, perform_eq]
  simp only [unnumbered, step, and_self]

/-- Writers that are the same without numbers stay so. -/
theorem after_of_unnumbered {call : Call} (h : w.unnumbered = v.unnumbered)
    (hw : (w.after call).files.CanEnd) (hv : (v.after call).files.CanEnd) :
    w.outcome call = v.outcome call ∧ (w.after call).unnumbered = (v.after call).unnumbered := by
  obtain ⟨given, left⟩ := unnumbered_after hw
  obtain ⟨given', left'⟩ := unnumbered_after hv
  rw [h] at given left
  exact ⟨given.symm.trans given', left.symm.trans left'⟩

end Writer

/-! ### Lines -/

namespace Text

/-- The text without its first field, which ends at the first blank, and the blanks after that. -/
def dropField (cs : List Char) : List Char :=
  (cs.dropWhile fun c => !isBlank c).dropWhile isBlank

theorem dropField_append {field cs : List Char} (hf : IsSolid field) (hc : IsTrim cs) :
    dropField (field ++ ' ' :: cs) = cs := by
  have solid : ∀ c ∈ field, (!isBlank c) = true := fun c hc => by simp [hf c hc]
  rw [dropField, List.dropWhile_append_of_pos solid, List.dropWhile_cons_of_neg (by decide),
    List.dropWhile_cons_of_pos (by decide)]
  exact trimLeft_eq_self hc.1

end Text

/-- What stands before the words of a numbered line is one field. -/
theorem dropField_labelAt {n : Numbering} (h : n.enabled = true) (k : Nat) {body : String}
    (hb : Text.IsTrim body.toList) :
    String.ofList (Text.dropField (n.labelAt k ++ body).toList) = body := by
  have label : (n.labelAt k ++ body).toList =
      ('N' :: intText (n.start + k * n.increment)) ++ ' ' :: body.toList := by
    simp [Numbering.labelAt, Numbering.numberAt, h]
  have solid : Text.IsSolid ('N' :: intText (n.start + k * n.increment)) := by
    intro c hc
    rcases List.mem_cons.mp hc with rfl | hc
    · decide
    · exact Control.not_isBlank_of_isPlainDigit (isPlainDigit_of_mem_intText hc)
  rw [label, Text.dropField_append solid hb, String.ofList_toList]

namespace ProgramFile

variable {n n' : Numbering} {f g : ProgramFile}

/-- The two files differ in the numbers of their lines only. -/
structure SameBodies (n n' : Numbering) (f g : ProgramFile) : Prop where
  name : f.name = g.name
  pending : f.pending = g.pending
  size : f.lines.size = g.lines.size
  /-- After its number, if it has one, a line says the same in both files. -/
  body : ∀ (k : Nat) (hf : k < f.lines.size) (hg : k < g.lines.size), ∃ body : String,
    body ≠ "" ∧ Text.IsTrim body.toList ∧
      f.lines[k].text = n.labelAt k ++ body ∧ g.lines[k].text = n'.labelAt k ++ body
  /-- The lines without numbers are those with numbers, each without its first field. -/
  bare : n.enabled = true → n'.enabled = false → g.lines.toList.map Line.text =
    f.lines.toList.map fun l => String.ofList (Text.dropField l.text.toList)

theorem words_of_unnumbered (h : f.unnumbered = g.unnumbered) :
    f.lines.toList.map Line.words = g.lines.toList.map Line.words := by
  have lines := congrArg (fun f => f.lines.toList.map Line.words) h
  simpa [unnumbered, Function.comp_def] using lines

/-- Tidy files that are the same without numbers. -/
theorem sameBodies_of_unnumbered (h : f.unnumbered = g.unnumbered) (hf : f.IsTidy n)
    (hg : g.IsTidy n') : f.SameBodies n n' g := by
  have words := words_of_unnumbered h
  have size : f.lines.size = g.lines.size := by simpa using congrArg List.length words
  have body : ∀ (k : Nat) (hk : k < f.lines.size) (hk' : k < g.lines.size), ∃ body : String,
      body ≠ "" ∧ Text.IsTrim body.toList ∧
        f.lines[k].text = n.labelAt k ++ body ∧ g.lines[k].text = n'.labelAt k ++ body := by
    intro k hk hk'
    have mem := Array.getElem_mem_toList hk
    have word := isWord_intercalate (hf.nonempty _ mem) (hf.words _ mem)
    have same : f.lines[k].words = g.lines[k].words := by
      have at_k := congrArg (fun l => l[k]?) words
      simpa [hk, hk'] using at_k
    exact ⟨_, word.1, word.isTrim, hf.text hk, same ▸ hg.text hk'⟩
  have name : f.unnumbered.name = g.unnumbered.name := congrArg ProgramFile.name h
  have pending : f.unnumbered.pending = g.unnumbered.pending := congrArg ProgramFile.pending h
  refine ⟨name, pending, size, body, fun on off => ?_⟩
  refine List.ext_getElem (by simp [size]) fun k hk hk' => ?_
  have inside : k < f.lines.size := by simpa using hk'
  obtain ⟨text, -, trim, numbered, bare⟩ := body k inside (size ▸ inside)
  have none : n'.labelAt k = "" := by simp [Numbering.labelAt, Numbering.numberAt, off]
  simp only [List.getElem_map, Array.getElem_toList]
  rw [numbered, dropField_labelAt on k trim, bare, none, String.empty_append]

end ProgramFile

/-! ### Two runs -/

namespace Writer

variable {w v : Writer} {n n' : Numbering}

/-- The two writers differ in the numbers of the lines only. -/
structure SameButNumbers (n n' : Numbering) (w v : Writer) : Prop where
  machine : w.machine = v.machine
  /-- There are the same files, in the same order. -/
  names : w.files.names = v.files.names
  /-- Output goes to the same file. -/
  place : w.files.place = v.files.place
  current : w.files.current.name = v.files.current.name
  files : List.Forall₂ (ProgramFile.SameBodies n n') w.files.files v.files.files

/-- Writers with tidy files that are the same without numbers. -/
theorem sameButNumbers_of_unnumbered (h : w.unnumbered = v.unnumbered)
    (hw : w.files.Holds n (ProgramFile.IsTidy n)) (hv : v.files.Holds n' (ProgramFile.IsTidy n')) :
    w.SameButNumbers n n' v := by
  have all : w.files.unnumbered = v.files.unnumbered := congrArg files h
  have files : w.files.files.map ProgramFile.unnumbered =
      v.files.files.map ProgramFile.unnumbered := by
    rw [← FileSet.unnumbered_files, ← FileSet.unnumbered_files, all]
  have current : w.files.current.unnumbered = v.files.current.unnumbered := by
    rw [← FileSet.unnumbered_current, ← FileSet.unnumbered_current, all]
  have place : ∀ s : FileSet, s.unnumbered.place = s.place := by
    rintro ⟨_, _, _, closed, _ | f⟩ <;> simp [FileSet.place, FileSet.unnumbered]
  have machine : w.unnumbered.machine = v.unnumbered.machine := congrArg Writer.machine h
  have name : w.files.current.unnumbered.name = v.files.current.unnumbered.name :=
    congrArg ProgramFile.name current
  refine ⟨machine, ?_, ?_, name, ?_⟩
  · have names := congrArg (List.map ProgramFile.name) files
    rwa [List.map_map, List.map_map] at names
  · rw [← place w.files, ← place v.files, all]
  · rw [← List.forall₂_eq_eq_eq, List.forall₂_map_left_iff, List.forall₂_map_right_iff,
      List.forall₂_iff_get] at files
    refine List.forall₂_iff_get.mpr ⟨files.1, fun k hk hk' => ?_⟩
    exact ProgramFile.sameBodies_of_unnumbered (files.2 k hk hk')
      (hw.files _ (List.get_mem _ ⟨k, hk⟩)) (hv.files _ (List.get_mem _ ⟨k, hk'⟩))

/-- **Numbers are a matter of presentation.**  Two configurations agree on the names of files and
on the end word, and no line is open at the end of a run whose number cannot be written.  Then the
same calls fail alike in both runs, and after every call the files, the words that are pending, the
machine and the bodies of the lines are the same. -/
theorem sameButNumbers_trail (c d : Config) (hf : c.files = d.files) (calls : List Call)
    (hc : ((start c).runAll calls).files.CanEnd) (hd : ((start d).runAll calls).files.CanEnd) :
    List.Forall₂ (fun a b => a.1 = b.1 ∧ a.2.SameButNumbers c.numbering d.numbering b.2)
      ((start c).trail calls) ((start d).trail calls) := by
  -- what two writers must have in common for the rest of the calls
  have run : ∀ (calls : List Call) (w v : Writer), w.unnumbered = v.unnumbered →
      w.files.Holds c.numbering (ProgramFile.IsTidy c.numbering) →
      v.files.Holds d.numbering (ProgramFile.IsTidy d.numbering) →
      (w.runAll calls).files.CanEnd → (v.runAll calls).files.CanEnd →
      List.Forall₂ (fun a b => a.1 = b.1 ∧ a.2.SameButNumbers c.numbering d.numbering b.2)
        (w.trail calls) (v.trail calls) := by
    intro calls
    induction calls with
    | nil => exact fun _ _ _ _ _ _ _ => .nil
    | cons call calls ih =>
        intro w v same hw hv endsW endsV
        obtain ⟨outcome, same'⟩ := after_of_unnumbered same
          ((grows_runAll _ calls).canEnd endsW) ((grows_runAll _ calls).canEnd endsV)
        have hw' := hw.fileStep (ProgramFile.isTidy_invariant _) w.machine call
        have hv' := hv.fileStep (ProgramFile.isTidy_invariant _) v.machine call
        rw [← files_after] at hw' hv'
        exact .cons ⟨outcome, sameButNumbers_of_unnumbered same' hw' hv'⟩
          (ih _ _ same' hw' hv' endsW endsV)
  have started : (start c).unnumbered = (start d).unnumbered := by
    simp [start, unnumbered, FileSet.start, FileSet.unnumbered, ProgramFile.unnumbered_empty, hf]
  exact run calls _ _ started ((ProgramFile.isTidy_invariant _).runAll [])
    ((ProgramFile.isTidy_invariant _).runAll []) hc hd

/-- A body that starts like a number, and a subprogram that is closed twice. -/
theorem sameButNumbers_sub1 :
    let c : Config := {}
    let d : Config := { numbering := { enabled := false } }
    let calls : List Call := [.put (.text "N7 X1") true, .openSub (.text "SUB1"),
      .put (.text "G1") false, .closeSub, .closeSub, .put (.text "M30") false]
    c.files = d.files ∧ ((start c).runAll calls).files.CanEnd ∧
      ((start d).runAll calls).files.CanEnd ∧
      List.Forall₂ (fun a b => a.1 = b.1 ∧ a.2.SameButNumbers c.numbering d.numbering b.2)
        ((start c).trail calls) ((start d).trail calls) := by
  intro c d calls
  have hc : ((start c).runAll calls).files.CanEnd := by decide +kernel
  have hd : ((start d).runAll calls).files.CanEnd := by decide +kernel
  exact ⟨rfl, hc, hd, sameButNumbers_trail c d rfl calls hc hd⟩

end Writer

end Postprocessor
