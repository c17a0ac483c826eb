import Postprocessor.Proofs.Output.Files

/-!
# Proofs — no word is lost

A file is known by its place in the order in which the files were opened.  A call hands its words to
the file that is current then, and every other file keeps the words that it has.  So the words of a
file are those that were handed to it, in order.

* `FileSet.place`, `FileSet.wordsAt`: the place of the current file; the words of the file at a
  place.
* `Call.handed`, `Writer.handedTo`: the words that a call hands over; those that several calls hand
  to the file at a place.
* `FileSet.Took`: one state of the files comes from another by taking words into the current file.
* `wordsAt_after`, `wordsAt_runAll`: what a call, and a run, does to the words of every file.
* `lines_of_words`: the lines of a file group the words that were handed to it.
-/

namespace Postprocessor

namespace FileSet

/-! ### Places -/

/-- The place of the file that is being written. -/
def place (s : FileSet) : Nat :=
  match s.opened with
  | some _ => s.closed.length + 1
  | none => 0

/-- The words of the file at a place, none if there is no such file. -/
def wordsAt (s : FileSet) (k : Nat) : List String := (s.files[k]?.map ProgramFile.words).getD []

theorem files_place (s : FileSet) : s.files[s.place]? = some s.current := by
  obtain ⟨n, endWord, main, closed, _ | f⟩ := s
  · rfl
  · simp [files, place, current]

theorem place_setCurrent (s : FileSet) (f : ProgramFile) : (s.setCurrent f).place = s.place := by
  obtain ⟨n, endWord, main, closed, _ | g⟩ := s <;> rfl

theorem endWord_setCurrent (s : FileSet) (f : ProgramFile) :
    (s.setCurrent f).endWord = s.endWord := by
  obtain ⟨n, endWord, main, closed, _ | g⟩ := s <;> rfl

theorem files_setCurrent (s : FileSet) (f : ProgramFile) :
    (s.setCurrent f).files = s.files.set s.place f := by
  obtain ⟨n, endWord, main, closed, _ | g⟩ := s
  · rfl
  · simp [files, place, setCurrent]

theorem wordsAt_setCurrent (s : FileSet) (f : ProgramFile) (k : Nat) :
    (s.setCurrent f).wordsAt k = if k = s.place then f.words else s.wordsAt k := by
  have inside : s.place < s.files.length := (List.getElem?_eq_some_iff.mp s.files_place).1
  rw [wordsAt, files_setCurrent, List.getElem?_set]
  by_cases h : k = s.place
  · simp [h, inside]
  · rw [if_neg (Ne.symm h), if_neg h, wordsAt]

theorem wordsAt_place (s : FileSet) : s.wordsAt s.place = s.current.words := by
  rw [wordsAt, files_place, Option.map_some, Option.getD_some]

/-! ### Taking words -/

/-- The second state comes from the first one by taking words into the current file. -/
structure Took (s : FileSet) (words : List String) (s' : FileSet) : Prop where
  numbering : s'.numbering = s.numbering
  endWord : s'.endWord = s.endWord
  place : s'.place = s.place
  wordsAt : ∀ k, s'.wordsAt k = s.wordsAt k ++ if k = s.place then taken words else []

theorem Took.refl (s : FileSet) : Took s [] s := ⟨rfl, rfl, rfl, fun k => by simp [taken]⟩

theorem Took.trans {s t u : FileSet} {us vs : List String} (h : Took s us t) (h' : Took t vs u) :
    Took s (us ++ vs) u := by
  refine ⟨h'.numbering.trans h.numbering, h'.endWord.trans h.endWord, h'.place.trans h.place,
    fun k => ?_⟩
  rw [h'.wordsAt, h.wordsAt, h.place, List.append_assoc, taken_append]
  split <;> rfl

/-- Replacing the current file by one that has taken words. -/
theorem took_setCurrent {s : FileSet} {f : ProgramFile} {words : List String}
    (h : f.words = s.current.words ++ taken words) : Took s words (s.setCurrent f) := by
  refine ⟨numbering_setCurrent s f, endWord_setCurrent s f, place_setCurrent s f, fun k => ?_⟩
  rw [wordsAt_setCurrent]
  split
  · next e => rw [h, e, wordsAt_place]
  · rw [List.append_nil]

theorem took_putAll (s : FileSet) (words : List String) : Took s words (words.foldl put s) := by
  rw [putAll_eq]
  exact took_setCurrent (ProgramFile.words_putAll s.current words)

theorem took_flush (s : FileSet) : Took s [] (flush s).2 := by
  rw [flush_eq]
  cases e : s.current.flush s.numbering with
  | error e => exact .refl s
  | ok f =>
      refine took_setCurrent ?_
      rw [ProgramFile.words_flush e]
      exact (List.append_nil _).symm

theorem took_emit (words : List String) (noFlush : Bool) (s : FileSet) :
    Took s words (emit words noFlush s).2 := by
  cases noFlush with
  | true => exact took_putAll s words
  | false =>
      have both := (took_putAll s words).trans (took_flush (words.foldl put s))
      rwa [List.append_nil] at both

theorem place_eq_zero {s : FileSet} : s.place = 0 ↔ s.opened = none := by
  rw [place]
  cases s.opened <;> simp

/-- What emitting words does to the main file while no subprogram is open. -/
theorem main_emit {s : FileSet} (h : s.opened = none) (words : List String) (noFlush : Bool) :
    (emit words noFlush s).2.opened = none ∧
      (emit words noFlush s).2.main.words = s.main.words ++ taken words := by
  obtain ⟨-, -, place, wordsAt⟩ := took_emit words noFlush s
  have main := place_eq_zero.mpr h
  refine ⟨place_eq_zero.mp (place.trans main), ?_⟩
  have written := wordsAt 0
  rw [if_pos main.symm] at written
  exact written

/-! ### Calls on several files -/

theorem Flushed.words {n : Numbering} {f g : ProgramFile} (h : Flushed n f g) :
    g.words = f.words := by
  rcases h with rfl | h
  · rfl
  · exact ProgramFile.words_flush h

theorem LinesEnded.files {s s' : FileSet} (h : LinesEnded s s') :
    List.Forall₂ (Flushed s.numbering) s.files s'.files := by
  have opened : List.Forall₂ (Flushed s.numbering) s.opened.toList s'.opened.toList := by
    have hr := h.opened
    generalize s.opened = before at hr
    generalize s'.opened = after at hr
    cases hr with
    | none => exact .nil
    | some hr => exact .cons hr .nil
  exact List.rel_append (.cons h.main h.closed) opened

/-- What ending a line keeps of a file is the same for all files after lines are ended. -/
theorem LinesEnded.map_files {α : Type} {s s' : FileSet} (h : LinesEnded s s')
    {part : ProgramFile → α} (hp : ∀ {f g}, Flushed s.numbering f g → part g = part f) :
    s'.files.map part = s.files.map part := by
  have same := h.files.imp fun f g hfg => (hp hfg).symm
  rw [← List.forall₂_map_right_iff, ← List.forall₂_map_left_iff, List.forall₂_eq_eq_eq] at same
  exact same.symm

theorem LinesEnded.took {s s' : FileSet} (h : LinesEnded s s') : Took s [] s' := by
  have place : s'.place = s.place := by
    have hr := h.opened
    rw [FileSet.place, FileSet.place, h.closed.length_eq]
    generalize s.opened = before at hr
    generalize s'.opened = after at hr
    cases hr <;> rfl
  have words : s'.files.map ProgramFile.words = s.files.map ProgramFile.words :=
    h.map_files Flushed.words
  refine ⟨h.numbering, h.endWord, place, fun k => ?_⟩
  rw [wordsAt, wordsAt, ← List.getElem?_map, ← List.getElem?_map, words]
  simp [taken]

theorem wordsAt_openSub (name : Value) (s : FileSet) (k : Nat) :
    (openSub name s).2.wordsAt k = s.wordsAt k := by
  rcases openSub_eq name s with ⟨e, he⟩ | ⟨ho, -, he⟩ <;> rw [he]
  have files : ({ s with opened := some (.empty name s.numbering.start) } : FileSet).files =
      s.files ++ [.empty name s.numbering.start] := by
    simp [FileSet.files, ho]
  rw [wordsAt, wordsAt, files]
  by_cases hk : k < s.files.length
  · rw [List.getElem?_append_left hk]
  · have hk' : s.files.length ≤ k := Nat.le_of_not_lt hk
    rw [List.getElem?_append_right hk', List.getElem?_eq_none hk']
    cases k - s.files.length <;> rfl

theorem wordsAt_closeOpened (s : FileSet) (k : Nat) : s.closeOpened.wordsAt k = s.wordsAt k := by
  have files : s.closeOpened.files = s.files := by
    simp [FileSet.files, closeOpened]
  rw [wordsAt, wordsAt, files]

/-- The words that closing a subprogram hands over: the end word, once the line is ended. -/
def closing (s : FileSet) : List String :=
  match s.opened, (flush s).1 with
  | some _, .ok _ => [s.endWord]
  | _, _ => []

theorem wordsAt_closeSub (s : FileSet) (k : Nat) :
    (closeSub s).2.wordsAt k = s.wordsAt k ++ if k = s.place then taken s.closing else [] := by
  cases ho : s.opened with
  | none =>
      rw [closeSub_of_not_opened ho, closing, ho]
      simp [taken]
  | some f =>
      rw [closeSub_of_opened ho, closing, ho]
      have first := took_flush s
      rcases hf : flush s with ⟨e | _, s'⟩ <;> rw [hf] at first
      · exact first.wordsAt k
      · have second := first.trans (took_emit [s.endWord] false s')
        simp only
        rcases he : emit [s.endWord] false s' with ⟨e | _, s''⟩ <;> rw [he] at second
        · exact second.wordsAt k
        · exact (wordsAt_closeOpened s'' k).trans (second.wordsAt k)

end FileSet

/-! ### Calls -/

/-- The words that a call hands to the current file.  A call that is refused hands over none. -/
def Call.handed (w : Writer) : Call → List String
  | .closeSub => w.files.closing
  | call =>
    match call.emission w.machine with
    | .ok (words, _) => words
    | .error _ => []

theorem Call.handed_eq {call : Call} (h : call ≠ .closeSub) (w : Writer) :
    call.handed w = match call.emission w.machine with
      | .ok (words, _) => words
      | .error _ => [] := Call.handed.eq_2 w call h

namespace Writer

/-- **A call writes to the current file only**, and there it adds the words that it hands over. -/
theorem wordsAt_after (w : Writer) (call : Call) (k : Nat) :
    (w.after call).files.wordsAt k =
      w.files.wordsAt k ++ if k = w.files.place then taken (call.handed w) else [] := by
  rw [files_after]
  rcases call.fileStep_cases w.machine with rfl | ⟨name, rfl⟩ | rfl | ⟨⟨-, -, noClose⟩, step⟩
  · exact (FileSet.flushAll_linesEnded w.files).took.wordsAt k
  · refine (FileSet.wordsAt_openSub name w.files k).trans ?_
    simp [Call.handed, Call.emission, taken]
  · exact FileSet.wordsAt_closeSub w.files k
  · rw [step, Call.handed]
    · rcases call.emission w.machine with e | ⟨words, noFlush⟩
      · simp [taken, FileSet.handOver]
      · exact (FileSet.took_emit words noFlush w.files).wordsAt k
    · exact noClose

/-- The words that calls hand to the file at a place: those of every call that is made while that
file is current. -/
def handedTo (k : Nat) (w : Writer) : List Call → List String
  | [] => []
  | call :: calls =>
    (if k = w.files.place then call.handed w else []) ++ handedTo k (w.after call) calls

theorem wordsAt_runAll (w : Writer) (calls : List Call) (k : Nat) :
    (w.runAll calls).files.wordsAt k = w.files.wordsAt k ++ taken (w.handedTo k calls) := by
  induction calls generalizing w with
  | nil => simp [runAll, handedTo, taken]
  | cons call calls ih =>
      rw [runAll_cons, ih, wordsAt_after, handedTo, taken_append, List.append_assoc]
      split <;> rfl

theorem wordsAt_start (c : Config) (k : Nat) : (start c).files.wordsAt k = [] := by
  cases k <;> rfl

end Writer

/-! ### Lines -/

/-- What stands before the words of the line at a place: its number, if lines are numbered. -/
def Numbering.labelAt (n : Numbering) (k : Nat) : String :=
  match n.numberAt k with
  | some i => "N" ++ String.ofList (intText i) ++ " "
  | none => ""

theorem ProgramFile.IsTidy.text {n : Numbering} {f : ProgramFile} (h : f.IsTidy n) {k : Nat}
    (hk : k < f.lines.size) :
    f.lines[k].text = n.labelAt k ++ " ".intercalate f.lines[k].words := by
  have tidy := h.words f.lines[k] (Array.getElem_mem_toList hk)
  have label : f.lines[k].label = n.labelAt k := by
    rw [Line.label, h.numbered k hk]
    rfl
  rw [Line.text_eq tidy, label]

theorem ProgramFile.IsTidy.texts {n : Numbering} {f : ProgramFile} (h : f.IsTidy n) :
    f.lines.toList.map Line.text =
      (f.lines.toList.map Line.words).mapIdx fun k group =>
        n.labelAt k ++ " ".intercalate group := by
  refine List.ext_getElem (by simp) fun k hk _ => ?_
  have hk' : k < f.lines.size := by simpa using hk
  simp only [List.getElem_map, List.getElem_mapIdx, Array.getElem_toList]
  exact h.text hk'

/-- **No word is lost, doubled, moved or misfiled.**  After any calls, the trimmed words that were
handed to a file while it was current are those of its lines, one group for each line in order, and
then those of the line that is being written.  No group is empty, and a line is its number, if
lines are numbered, and its group with single spaces between the words. -/
theorem lines_of_words (c : Config) (calls : List Call)
    (k : Fin ((Writer.start c).runAll calls).files.files.length) :
    ∃ groups : List (List String), [] ∉ groups ∧
      taken ((Writer.start c).handedTo k calls) =
        groups.flatten ++ (((Writer.start c).runAll calls).files.files[k]).pending ∧
      (((Writer.start c).runAll calls).files.files[k]).lines.toList.map Line.text =
        groups.mapIdx fun j group => c.numbering.labelAt j ++ " ".intercalate group := by
  have tidy := tidy_runAll c calls (List.getElem_mem k.isLt)
  refine ⟨_, fun h => ?_, ?_, tidy.texts⟩
  · obtain ⟨l, hl, e⟩ := List.mem_map.mp h
    exact tidy.nonempty l hl e
  · have words := Writer.wordsAt_runAll (Writer.start c) calls k
    rw [Writer.wordsAt_start, List.nil_append] at words
    rw [← words, FileSet.wordsAt, List.getElem?_eq_getElem k.isLt, Option.map_some,
      Option.getD_some, ProgramFile.words, List.flatMap_def]
    rfl

end Postprocessor
