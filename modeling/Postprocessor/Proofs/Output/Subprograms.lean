import Postprocessor.Proofs.Output.Emission
import Postprocessor.Proofs.Output.Ledger

/-!
# Proofs — opening and closing subprograms

A call of a writer does one of four things to the files (`FileSet.Becomes`): it writes to the
current file, it ends the lines of all files, it opens a subprogram, or it closes the one that is
open.  What holds of the files in every state follows from these four.

* `Value.finds_eq`: texts are found by their spelling.
* `ProgramFile.finish`: what closing a subprogram does to its file.
* `pending_of_flushAll`: ending the lines of all files leaves no word pending.
* `FileSet.Becomes`, `becomes_fileStep`: what a call may do to the files.
* `Writer.created`: the names of the subprograms that calls open, in order.
* `FileSet.IsNamed`, `FileSet.AreFinished`: the names of the files, and the closed subprograms, as
  every call leaves them.
* `Writer.Requires`: a call that succeeds under a condition, and else changes nothing.
* `Writer.KeepsFiles`, `keepsFiles_runAll`: what holds of the files after any calls.
-/

namespace Postprocessor

/-! ### Names -/

namespace Value

/-- A text is given as such or as a symbol. -/
theorem text?_eq_some {v : Value} {s : String} (h : v.text? = some s) :
    v = .text s ∨ ∃ y : Symbol, v = .symbol y ∧ y.word = s := by
  cases v with
  | text t => exact .inl (congrArg text (Option.some.inj h))
  | symbol y => exact .inr ⟨y, rfl, Option.some.inj h⟩
  | _ => cases h

/-- A text is found where its own spelling is looked up. -/
theorem finds_eq {a b : Value} {s t : String} (ha : a.text? = some s) (hb : b.text? = some t) :
    a.finds b = (s == t) := by
  rcases text?_eq_some ha with rfl | ⟨x, rfl, rfl⟩ <;>
    rcases text?_eq_some hb with rfl | ⟨y, rfl, rfl⟩ <;>
      simp [finds, isOne, same_text, same_symbol, sameAtom, int?, text?]

theorem isComparable_of_text? {v : Value} {s : String} (h : v.text? = some s) :
    v.isComparable = true := by
  rcases text?_eq_some h with rfl | ⟨y, rfl, -⟩ <;> rfl

end Value

/-- A text is the word that it spells. -/
theorem Writer.wordOf_of_text? {v : Value} {t : String} (h : v.text? = some t) :
    wordOf v = .ok t := by
  rcases Value.text?_eq_some h with rfl | ⟨y, rfl, rfl⟩
  · by_cases e : t = ""
    · subst e
      rfl
    · simp [wordOf, Value.truthy, Value.text?, e]
  · rfl

/-- The name of a file that is opened is a text. -/
def Call.NamesText : Call → Prop
  | .openSub name => ∃ t, name.text? = some t
  | _ => True

/-! ### Finishing a file -/

namespace ProgramFile

variable {n : Numbering} {f g : ProgramFile} {endWord : String}

theorem name_put (f : ProgramFile) (word : String) : (f.put word).name = f.name := by
  rw [put_eq]

/-- Ending a line leaves no word pending, keeps the name and adds lines at most. -/
theorem flush_ok (h : f.flush n = .ok g) :
    g.pending = [] ∧ g.name = f.name ∧ f.lines.toList <+: g.lines.toList := by
  rcases f.flush_eq n with ⟨hp, e⟩ | ⟨-, -, e⟩ | ⟨-, -, e⟩ <;> rw [e] at h <;> cases h
  · exact ⟨hp, rfl, List.prefix_refl _⟩
  · exact ⟨rfl, rfl, by simp [ended]⟩

theorem flush_of_pending_eq_nil (h : f.pending = []) : f.flush n = .ok f := by
  rw [flush, h]
  rfl

/-- Ends the line, writes the end word and ends its line. -/
def finish (n : Numbering) (endWord : String) (f : ProgramFile) : Except Failure ProgramFile := do
  let f ← f.flush n
  (f.put endWord).flush n

/-- The file is finished: no word is pending, and the last line holds the end word alone, unless
that is blank. -/
structure IsFinished (endWord : String) (f : ProgramFile) : Prop where
  pending : f.pending = []
  last : endWord.trimmed ≠ "" → ∃ l, f.lines.back? = some l ∧ l.words = [endWord.trimmed]

theorem finish_of_error {e : Failure} (h : f.flush n = .error e) :
    f.finish n endWord = .error e := by
  rw [finish, h]
  rfl

theorem finish_of_ok (h : f.flush n = .ok g) :
    f.finish n endWord = (g.put endWord).flush n := by
  rw [finish, h]
  exact pure_bind g fun g => (g.put endWord).flush n

theorem finish_eq_ok (h : f.finish n endWord = .ok g) :
    ∃ f', f.flush n = .ok f' ∧ (f'.put endWord).flush n = .ok g := by
  cases first : f.flush n with
  | error e =>
      rw [finish_of_error first] at h
      cases h
  | ok f' => exact ⟨f', rfl, (finish_of_ok first).symm.trans h⟩

theorem name_finish (h : f.finish n endWord = .ok g) : g.name = f.name := by
  obtain ⟨f', first, second⟩ := finish_eq_ok h
  rw [(flush_ok second).2.1, name_put, (flush_ok first).2.1]

theorem isFinished_finish (h : f.finish n endWord = .ok g) : g.IsFinished endWord := by
  obtain ⟨f', first, second⟩ := finish_eq_ok h
  refine ⟨(flush_ok second).1, fun hne => ?_⟩
  have word : taken [endWord] = [endWord.trimmed] := by simp [taken, hne]
  rw [put_eq, (flush_ok first).1, word, List.nil_append] at second
  -- the end word is pending, so a line is written
  rcases flush_eq n { f' with pending := [endWord.trimmed] } with ⟨hp, -⟩ | ⟨-, -, e⟩ | ⟨-, -, e⟩
  · cases hp
  · rw [e] at second
    cases second
    exact ⟨_, Array.back?_push .., rfl⟩
  · rw [e] at second
    cases second

/-- A finished file ends with the end word. -/
theorem IsFinished.words (h : f.IsFinished endWord) :
    ∃ body, f.words = body ++ taken [endWord] := by
  by_cases blank : endWord.trimmed = ""
  · exact ⟨f.words, by simp [taken, blank]⟩
  · obtain ⟨l, last, words⟩ := h.last blank
    rw [← Array.getLast?_toList] at last
    obtain ⟨others, lines⟩ := List.getLast?_eq_some_iff.mp last
    refine ⟨others.flatMap Line.words, ?_⟩
    simp [ProgramFile.words, lines, h.pending, words, taken, blank]

/-- A tidy file can be finished if the numbers of two more lines can be written. -/
theorem finish_of_prints (h : f.IsTidy n) (hp : n.Prints (f.lines.size + 2)) (endWord : String) :
    ∃ g, f.finish n endWord = .ok g := by
  -- the open line is one more line at most, and the end word another
  have flushed : ∀ f' : ProgramFile, f'.IsTidy n → f'.lines.size ≤ f.lines.size + 1 →
      ∃ g, f'.flush n = .ok g ∧ g.IsTidy n ∧ g.lines.size ≤ f'.lines.size + 1 := by
    intro f' tidy size
    have prints : f'.CanEnd n :=
      canEnd_putAll tidy (hp.mono (Nat.succ_le_succ size)) []
    rcases f'.flush_eq n with ⟨-, e⟩ | ⟨hne, hc, e⟩ | ⟨-, hc, -⟩
    · exact ⟨f', e, tidy, Nat.le_succ _⟩
    · exact ⟨_, e, (isTidy_invariant n).ended f' hne hc tidy, Nat.le_of_eq (Array.size_push _)⟩
    · exact absurd prints hc
  obtain ⟨f', first, tidy, size⟩ := flushed f h (Nat.le_succ _)
  have tidy' := (isTidy_invariant n).put f' endWord tidy
  have size' : (f'.put endWord).lines.size ≤ f.lines.size + 1 := by
    rw [put_eq]
    exact size
  obtain ⟨g, second, -, -⟩ := flushed (f'.put endWord) tidy' size'
  refine ⟨g, ?_⟩
  rw [finish_of_ok first, second]

end ProgramFile

namespace FileSet

theorem Flushed.name {n : Numbering} {f g : ProgramFile} (h : Flushed n f g) : g.name = f.name := by
  rcases h with rfl | h
  · rfl
  · exact (ProgramFile.flush_ok h).2.1

/-! ### Ended lines -/

/-- Where no line has words, none is ended. -/
theorem flushEach_of_ended {n : Numbering} {fs : List ProgramFile} (h : ∀ f ∈ fs, f.pending = []) :
    flushEach n fs = (.ok (), fs) := by
  induction fs with
  | nil => rfl
  | cons f fs ih =>
      obtain ⟨first, others⟩ := List.forall_mem_cons.mp h
      rw [flushEach, ProgramFile.flush_of_pending_eq_nil first]
      simp only [ih others]

theorem flushAll_of_ended {s : FileSet} (h : ∀ f ∈ s.files, f.pending = []) :
    flushAll s = (.ok (), s) := by
  obtain ⟨n, endWord, main, closed, opened⟩ := s
  simp only [files, List.cons_append, List.forall_mem_cons, List.forall_mem_append] at h
  obtain ⟨hmain, hclosed, hopened⟩ := h
  have first : main.flush n = .ok main := ProgramFile.flush_of_pending_eq_nil hmain
  have second : flushEach n closed = (.ok (), closed) := flushEach_of_ended hclosed
  simp only [flushAll, Step.run_bind, Step.run_update, first, Except.map, second]
  cases opened with
  | none => rfl
  | some f =>
      have last : f.flush n = .ok f := ProgramFile.flush_of_pending_eq_nil (hopened f (by simp))
      simp only [last]

theorem pending_of_flushEach {n : Numbering} {fs gs : List ProgramFile}
    (h : flushEach n fs = (.ok (), gs)) : ∀ g ∈ gs, g.pending = [] := by
  induction fs generalizing gs with
  | nil =>
      cases h
      exact List.forall_mem_nil _
  | cons f fs ih =>
      rw [flushEach] at h
      cases hf : f.flush n with
      | error e =>
          rw [hf] at h
          cases h
      | ok g =>
          rw [hf] at h
          obtain ⟨rest, rfl⟩ := Prod.ext_iff.mp h
          exact List.forall_mem_cons.mpr ⟨(ProgramFile.flush_ok hf).1, ih (eq_mk_of_fst rest)⟩

/-- No word is pending when the lines of all files were ended. -/
theorem pending_of_flushAll {s : FileSet} (h : (flushAll s).1 = .ok ()) :
    ∀ f ∈ (flushAll s).2.files, f.pending = [] := by
  obtain ⟨n, endWord, main, closed, opened⟩ := s
  simp only [flushAll, Step.run_bind, Step.run_update] at h ⊢
  cases hm : main.flush n with
  | error e =>
      rw [hm] at h
      cases h
  | ok main' =>
      simp only [hm, Except.map] at h ⊢
      rcases hc : flushEach n closed with ⟨e | ⟨⟩, closed'⟩
      · rw [hc] at h
        cases h
      · simp only [hc] at h ⊢
        have first := (ProgramFile.flush_ok hm).1
        have others := pending_of_flushEach hc
        cases opened with
        | none =>
            simp only [files, List.cons_append, List.forall_mem_cons, List.forall_mem_append]
            exact ⟨first, others, List.forall_mem_nil _⟩
        | some f =>
            cases hf : f.flush n with
            | error e =>
                simp only [hf] at h
                cases h
            | ok f' =>
                simp only [hf, files, List.cons_append, List.forall_mem_cons,
                  List.forall_mem_append]
                exact ⟨first, others, List.forall_mem_singleton.mpr (ProgramFile.flush_ok hf).1⟩

/-! ### What a call may do -/

/-- What a call may do to the files, and how it ends then. -/
inductive Becomes (s : FileSet) : Call → Except Failure Unit → FileSet → Prop
  /-- Only the current file changes, and it keeps its name; no file was opened or closed. -/
  | written {call : Call} {r : Except Failure Unit} (f : ProgramFile)
      (name : f.name = s.current.name) (other : call ≠ .flushAll)
      (opens : ∀ name, call = .openSub name → r ≠ .ok ()) (closes : call = .closeSub → r ≠ .ok ()) :
      Becomes s call r (s.setCurrent f)
  /-- The lines of files are ended. -/
  | ended {r : Except Failure Unit} {s' : FileSet} (lines : LinesEnded s s') :
      Becomes s .flushAll r s'
  /-- A subprogram is opened. -/
  | opened {name : Value} (main : s.opened = none) (fresh : s.hasName name = false) :
      Becomes s (.openSub name) (.ok ())
        { s with opened := some (.empty name s.numbering.start) }
  /-- The open subprogram is closed. -/
  | closed {f g : ProgramFile} (current : s.opened = some f)
      (finish : f.finish s.numbering s.endWord = .ok g) :
      Becomes s .closeSub (.ok ()) { s with closed := s.closed ++ [g], opened := none }

theorem current_of_opened {s : FileSet} {f : ProgramFile} (h : s.opened = some f) :
    s.current = f := by
  rw [current, h]
  rfl

/-- Emitting words replaces the current file by one of the same name. -/
theorem emit_setCurrent (words : List String) (noFlush : Bool) (s : FileSet) : ∃ r f,
    emit words noFlush s = (r, s.setCurrent f) ∧ f.name = s.current.name := by
  have name : (words.foldl ProgramFile.put s.current).name = s.current.name := by
    rw [ProgramFile.putAll_eq]
  cases noFlush with
  | true => exact ⟨.ok (), _, by rw [emit_keep, putAll_eq], name⟩
  | false =>
      rw [emit_flush, putAll_eq, flush_eq, current_setCurrent, numbering_setCurrent]
      cases h : (words.foldl ProgramFile.put s.current).flush s.numbering with
      | error e => exact ⟨.error e, _, rfl, name⟩
      | ok f =>
          refine ⟨.ok (), f, ?_, (ProgramFile.flush_ok h).2.1.trans name⟩
          simp only [setCurrent_setCurrent]

/-- Closing a subprogram finishes its file, or fails and leaves the file open. -/
theorem closeSub_cases {s : FileSet} {f : ProgramFile} (h : s.opened = some f) :
    (∃ g, f.finish s.numbering s.endWord = .ok g ∧
        closeSub s = (.ok (), { s with closed := s.closed ++ [g], opened := none })) ∨
      (∃ e g, f.finish s.numbering s.endWord = .error e ∧ g.name = f.name ∧
        closeSub s = (.error e, s.setCurrent g)) := by
  have current : s.current = f := current_of_opened h
  have numbering := s.numbering_setCurrent
  rw [closeSub_of_opened h, flush_eq, current]
  cases first : f.flush s.numbering with
  | error e =>
      refine .inr ⟨e, f, ProgramFile.finish_of_error first, rfl, ?_⟩
      rw [← current, setCurrent_current]
  | ok f' =>
      have name : f'.name = f.name := (ProgramFile.flush_ok first).2.1
      have put : (s.setCurrent f').put s.endWord = s.setCurrent (f'.put s.endWord) := by
        rw [FileSet.put, current_setCurrent, setCurrent_setCurrent]
      simp only [emit_flush, List.foldl_cons, List.foldl_nil, put]
      rw [flush_eq, current_setCurrent, numbering, ProgramFile.finish_of_ok first]
      cases second : (f'.put s.endWord).flush s.numbering with
      | error e => exact .inr ⟨e, f'.put s.endWord, rfl, (f'.name_put s.endWord).trans name, rfl⟩
      | ok g =>
          refine .inl ⟨g, rfl, ?_⟩
          have closed : (s.setCurrent g).closeOpened =
              { s with closed := s.closed ++ [g], opened := none } := by
            rw [setCurrent, h]
            rfl
          simp only [setCurrent_setCurrent, closed]

/-- A call that fails before it writes anything. -/
theorem Becomes.refused {s : FileSet} {call : Call} (e : Failure) (h : call ≠ .flushAll) :
    Becomes s call (.error e) s := by
  have same : Becomes s call (.error e) (s.setCurrent s.current) :=
    .written s.current rfl h (by simp) (by simp)
  rwa [setCurrent_current] at same

/-- **What a call does to the files** is one of the four. -/
theorem becomes_fileStep (m : Machine) (s : FileSet) (call : Call) :
    Becomes s call (call.fileStep m s).1 (call.fileStep m s).2 := by
  rcases call.fileStep_cases m with rfl | ⟨name, rfl⟩ | rfl | ⟨⟨noFlushAll, noOpen, noClose⟩, h⟩
  · exact .ended (flushAll_linesEnded s)
  · rw [Call.fileStep]
    rcases openSub_eq name s with ⟨e, h⟩ | ⟨main, fresh, h⟩ <;> rw [h]
    · exact .refused e (by simp)
    · exact .opened main fresh
  · rw [Call.fileStep]
    cases ho : s.opened with
    | none =>
        rw [closeSub_of_not_opened ho]
        exact .refused _ (by simp)
    | some f =>
        rcases closeSub_cases ho with ⟨g, finish, h⟩ | ⟨e, g, -, name, h⟩ <;> rw [h]
        · exact .closed ho finish
        · exact .written g (name.trans (congrArg _ (current_of_opened ho).symm)) (by simp) (by simp)
            (by simp)
  · rw [h]
    rcases call.emission m with e | ⟨words, noFlush⟩
    · exact .refused e noFlushAll
    · obtain ⟨r, f, emitted, name⟩ := emit_setCurrent words noFlush s
      rw [handOver, emitted]
      exact .written f name noFlushAll (fun name e => absurd e (noOpen name))
        (fun e => absurd e noClose)

/-! ### The names of the files -/

/-- The names of all files, in the order in which they were opened. -/
def names (s : FileSet) : List Value := s.files.map ProgramFile.name

/-- The files have these names, and no two files have the same. -/
structure IsNamed (names : List String) (s : FileSet) : Prop where
  named : s.names.map Value.text? = names.map some
  distinct : names.Nodup

theorem IsNamed.exists_text? {names : List String} {s : FileSet} (h : s.IsNamed names)
    {f : ProgramFile} (hf : f ∈ s.files) : ∃ u ∈ names, f.name.text? = some u := by
  have mem : f.name.text? ∈ s.names.map Value.text? :=
    List.mem_map_of_mem (List.mem_map_of_mem hf)
  obtain ⟨u, hu, e⟩ := List.mem_map.mp (h.named ▸ mem)
  exact ⟨u, hu, e.symm⟩

/-- A file is found by its name. -/
theorem IsNamed.hasName_iff {names : List String} {s : FileSet} (h : s.IsNamed names) {name : Value}
    {t : String} (ht : name.text? = some t) : s.hasName name = true ↔ t ∈ names := by
  rw [hasName, List.any_eq_true]
  constructor
  · rintro ⟨f, hf, found⟩
    obtain ⟨u, hu, e⟩ := h.exists_text? hf
    rw [Value.finds_eq ht e, beq_iff_eq] at found
    exact found ▸ hu
  · intro hmem
    have known : some t ∈ s.names.map Value.text? := h.named ▸ List.mem_map_of_mem hmem
    obtain ⟨v, hv, e⟩ := List.mem_map.mp known
    obtain ⟨f, hf, rfl⟩ := List.mem_map.mp hv
    exact ⟨f, hf, by rw [Value.finds_eq ht e, beq_self_eq_true]⟩

/-- A call keeps the names of the files, or it opens a subprogram and adds the new name. -/
theorem Becomes.names {s s' : FileSet} {call : Call} {r : Except Failure Unit}
    (h : Becomes s call r s') :
    ((∀ name, call = .openSub name → r ≠ .ok ()) ∧ s'.names = s.names) ∨
      ∃ name, call = .openSub name ∧ r = .ok () ∧ s.hasName name = false ∧
        s'.names = s.names ++ [name] := by
  cases h with
  | written f name other opens closes =>
      refine .inl ⟨opens, ?_⟩
      obtain ⟨n, endWord, main, closed, _ | g⟩ := s <;>
        simp [FileSet.names, files, setCurrent, current] at name ⊢ <;> exact name
  | ended lines =>
      exact .inl ⟨by simp, lines.map_files Flushed.name⟩
  | @opened name main fresh =>
      refine .inr ⟨name, rfl, rfl, fresh, ?_⟩
      simp [FileSet.names, files, main, ProgramFile.empty]
  | closed current finish =>
      refine .inl ⟨by simp, ?_⟩
      simp [FileSet.names, files, current, ProgramFile.name_finish finish]

end FileSet

/-! ### The files after any calls -/

namespace Writer

/-- The name of the subprogram that a call opens, if it opens one. -/
def creates (w : Writer) : Call → List String
  | .openSub name =>
    match w.outcome (.openSub name) with
    | .ok _ => name.text?.toList
    | .error _ => []
  | _ => []

/-- The names of the subprograms that calls open, in order. -/
def created (w : Writer) : List Call → List String
  | [] => []
  | call :: calls => w.creates call ++ (w.after call).created calls

theorem becomes_after (w : Writer) (call : Call) :
    FileSet.Becomes w.files call (w.outcome call) (w.after call).files := by
  rw [outcome_eq, files_after]
  exact FileSet.becomes_fileStep w.machine w.files call

/-- **The names of the files after a call**: those before it, and that of a new subprogram. -/
theorem isNamed_after {w : Writer} {names : List String} (h : w.files.IsNamed names) {call : Call}
    (hc : call.NamesText) : (w.after call).files.IsNamed (names ++ w.creates call) := by
  rcases (w.becomes_after call).names with ⟨notOpened, same⟩ | ⟨name, rfl, ok, fresh, more⟩
  -- a call that opens no subprogram adds no name
  · have nothing : w.creates call = [] := by
      cases call with
      | openSub name =>
          cases e : w.outcome (.openSub name) with
          | ok _ => exact absurd e (notOpened name rfl)
          | error _ => rw [creates, e]
      | _ => rfl
    rw [nothing, List.append_nil]
    exact ⟨by rw [same, h.named], h.distinct⟩
  · obtain ⟨t, ht⟩ := hc
    have unknown : t ∉ names := by
      rw [← h.hasName_iff ht, fresh]
      exact Bool.false_ne_true
    have new : w.creates (.openSub name) = [t] := by
      simp [creates, ok, ht]
    rw [new]
    refine ⟨by simp [more, h.named, ht], ?_⟩
    refine List.nodup_append.mpr ⟨h.distinct, List.pairwise_singleton .., fun u hu v hv e => ?_⟩
    obtain rfl := List.mem_singleton.mp hv
    exact unknown (e ▸ hu)

theorem isNamed_runAll {w : Writer} {names : List String} (h : w.files.IsNamed names)
    {calls : List Call} (hc : ∀ call ∈ calls, call.NamesText) :
    (w.runAll calls).files.IsNamed (names ++ w.created calls) := by
  induction calls generalizing w names with
  | nil => simpa [created, runAll] using h
  | cons call calls ih =>
      have first := isNamed_after h (hc call (List.mem_cons_self ..))
      rw [runAll_cons, created, ← List.append_assoc]
      exact ih first fun d hd => hc d (List.mem_cons_of_mem _ hd)

end Writer

/-! ### Closed subprograms -/

namespace FileSet

/-- All closed subprograms are finished with the end word of the files. -/
structure AreFinished (e : String) (s : FileSet) : Prop where
  endWord : s.endWord = e
  closed : ∀ f ∈ s.closed, f.IsFinished e

theorem eq_of_flushed {n : Numbering} {fs gs : List ProgramFile}
    (h : List.Forall₂ (Flushed n) fs gs) (hp : ∀ f ∈ fs, f.pending = []) : gs = fs := by
  induction h with
  | nil => rfl
  | @cons f g fs gs hfg _ ih =>
      have same : g = f := by
        rcases hfg with rfl | hfg
        · rfl
        · rw [ProgramFile.flush_of_pending_eq_nil (hp f (List.mem_cons_self ..))] at hfg
          exact (Except.ok.inj hfg).symm
      rw [same, ih fun f hf => hp f (List.mem_cons_of_mem _ hf)]

/-- **A closed subprogram is left alone** by every call; closing one adds it to them, finished. -/
theorem Becomes.areFinished {e : String} {s s' : FileSet} {call : Call} {r : Except Failure Unit}
    (h : Becomes s call r s') (hs : s.AreFinished e) :
    s'.AreFinished e ∧ s.closed <+: s'.closed := by
  cases h with
  | written f name other opens closes =>
      have closed : (s.setCurrent f).closed = s.closed := by
        rw [setCurrent]
        split <;> rfl
      exact ⟨⟨(endWord_setCurrent s f).trans hs.endWord, closed ▸ hs.closed⟩,
        closed ▸ List.prefix_refl _⟩
  | ended lines =>
      -- a finished file has no open line that could be ended
      have closed : s'.closed = s.closed :=
        eq_of_flushed lines.closed fun f hf => (hs.closed f hf).pending
      exact ⟨⟨lines.endWord.trans hs.endWord, closed ▸ hs.closed⟩, closed ▸ List.prefix_refl _⟩
  | opened main fresh => exact ⟨⟨hs.endWord, hs.closed⟩, List.prefix_refl _⟩
  | @closed f g current finish =>
      refine ⟨⟨hs.endWord, fun f' hf' => ?_⟩, List.prefix_append s.closed [g]⟩
      rcases List.mem_append.mp hf' with hf' | hf'
      · exact hs.closed f' hf'
      · obtain rfl := List.mem_singleton.mp hf'
        exact hs.endWord ▸ ProgramFile.isFinished_finish finish

end FileSet

namespace Writer

theorem areFinished_runAll {e : String} {w : Writer} (h : w.files.AreFinished e)
    (calls : List Call) :
    (w.runAll calls).files.AreFinished e ∧ w.files.closed <+: (w.runAll calls).files.closed := by
  induction calls generalizing w with
  | nil => exact ⟨h, List.prefix_refl _⟩
  | cons call calls ih =>
      obtain ⟨first, more⟩ := (w.becomes_after call).areFinished h
      obtain ⟨last, rest⟩ := ih first
      exact ⟨last, more.trans rest⟩

end Writer

/-! ### Opening and closing -/

namespace FileSet

/-- **Opening a subprogram** succeeds while the main file is written and the name is new; otherwise
it is refused and changes nothing. -/
theorem openSub_of_isNamed {s : FileSet} {names : List String} (h : s.IsNamed names) {name : Value}
    {t : String} (ht : name.text? = some t) :
    ((s.place = 0 ∧ t ∉ names) ∧ (openSub name s).1 = .ok ()) ∨
      (¬ (s.place = 0 ∧ t ∉ names) ∧
        ∃ e : Failure, e.kind = "FileContextError" ∧ openSub name s = (.error e, s)) := by
  have written := Value.written_of_text? ht
  rw [openSub, Step.run_update, place_eq_zero]
  cases ho : s.opened with
  | some f =>
      have mem : f ∈ s.files := by simp [files, ho]
      obtain ⟨u, -, hu⟩ := h.exists_text? mem
      refine .inr ⟨by simp, .nestedSubprogram t u, rfl, ?_⟩
      simp only [written, Value.written_of_text? hu]
      rfl
  | none =>
      have comparable := Value.isComparable_of_text? ht
      by_cases known : t ∈ names
      · have found := (h.hasName_iff ht).mpr known
        refine .inr ⟨fun free => free.2 known, .fileExists t, rfl, ?_⟩
        simp [comparable, found, written, Except.bind]
      · have fresh : s.hasName name = false := by
          rw [Bool.eq_false_iff, ne_eq, h.hasName_iff ht]
          exact known
        exact .inl ⟨⟨rfl, known⟩, by simp [comparable, fresh]⟩

/-- **Closing a subprogram** finishes its file, if one is open and the numbers of its last lines can
be written. -/
theorem closeSub_of_place {s : FileSet} {n : Numbering} (hn : s.numbering = n)
    (ht : s.current.IsTidy n) (hp : n.Prints (s.current.lines.size + 2)) (h : s.place ≠ 0) :
    ∃ f g, s.opened = some f ∧ f.finish n s.endWord = .ok g ∧
      closeSub s = (.ok (), { s with closed := s.closed ++ [g], opened := none }) := by
  obtain ⟨f, ho⟩ := Option.ne_none_iff_exists'.mp fun none => h (place_eq_zero.mpr none)
  rw [current_of_opened ho] at ht hp
  obtain ⟨g, finish⟩ := ProgramFile.finish_of_prints ht hp s.endWord
  refine ⟨f, g, ho, finish, ?_⟩
  rw [← hn] at finish
  rcases closeSub_cases ho with ⟨g', finish', closed⟩ | ⟨e, g', finish', -, -⟩ <;>
    rw [finish] at finish' <;> cases finish'
  exact closed

theorem place_cases (s : FileSet) : s.place = 0 ∨ s.place + 1 = s.files.length := by
  obtain ⟨n, endWord, main, closed, _ | f⟩ := s
  · exact .inl rfl
  · exact .inr (by simp [place, files])

/-- While a subprogram is open, only ending all lines changes the main file. -/
theorem Becomes.main {s s' : FileSet} {call : Call} {r : Except Failure Unit}
    (h : Becomes s call r s') (hc : call ≠ .flushAll) (hp : s.place ≠ 0) : s'.main = s.main := by
  cases h with
  | written f name other opens closes =>
      rw [setCurrent]
      split
      · rfl
      · next ho => exact absurd (place_eq_zero.mpr ho) hp
  | ended lines => exact absurd rfl hc
  | opened main fresh => rfl
  | closed current finish => rfl

end FileSet

namespace Writer

/-- The call succeeds under a condition only; without it the call is refused and changes nothing. -/
structure Requires (w : Writer) (call : Call) (condition : Prop) : Prop where
  succeeds : w.outcome call = .ok () ↔ condition
  refused : ∀ e, w.outcome call = .error e → e.kind = "FileContextError" ∧ w.after call = w

theorem requires_of_fileStep {w : Writer} {call : Call} {p : Prop}
    (machine : call.machineAfter w.machine = w.machine)
    (h : (p ∧ (call.fileStep w.machine w.files).1 = .ok ()) ∨ (¬ p ∧ ∃ e : Failure,
      e.kind = "FileContextError" ∧ call.fileStep w.machine w.files = (.error e, w.files))) :
    w.Requires call p := by
  rcases h with ⟨hp, ok⟩ | ⟨hp, e, kind, failed⟩
  · rw [← outcome_eq] at ok
    exact ⟨⟨fun _ => hp, fun _ => ok⟩, fun e he => by rw [ok] at he; cases he⟩
  · have outcome : w.outcome call = .error e := by rw [outcome_eq, failed]
    refine ⟨⟨fun ok => ?_, fun h => absurd h hp⟩, fun e' he => ?_⟩
    · rw [outcome] at ok
      cases ok
    · rw [outcome] at he
      cases he
      exact ⟨kind, by rw [after, run, perform_eq, machine, failed]⟩

/-- What holds of the files of a writer that has opened subprograms of these names. -/
structure KeepsFiles (c : Config) (created : List String) (w : Writer) : Prop where
  /-- The main file is the first, and the others follow in the order in which they were opened. -/
  names : w.files.names.map Value.text? = (c.files.main :: created).map some
  /-- No two files have the same name. -/
  distinct : (c.files.main :: created).Nodup
  /-- Output goes to the main file or to the subprogram that was opened last. -/
  current : w.files.files[w.files.place]? = some w.files.current ∧
    (w.files.place = 0 ∨ w.files.place + 1 = w.files.files.length)
  /-- A subprogram can be opened from the main file only, and under a new name. -/
  opens : ∀ {name t}, name.text? = some t →
    w.Requires (.openSub name) (w.files.place = 0 ∧ t ∉ c.files.main :: created)
  /-- A subprogram can be closed if output goes to one. -/
  closes : w.Requires .closeSub (w.files.place ≠ 0)
  /-- A subprogram that is closed has no open line, its last line holds the end word, and whatever
  is called later leaves it as it is. -/
  closed : w.files.place ≠ 0 → (w.after .closeSub).files.place = 0 ∧
    ∃ f : ProgramFile, f.name = w.files.current.name ∧ f.pending = [] ∧
      (c.files.endWord.trimmed ≠ "" → ∃ l, f.lines.back? = some l ∧
        l.text = c.numbering.labelAt (f.lines.size - 1) ++ c.files.endWord.trimmed) ∧
      ∀ more, ((w.after .closeSub).runAll more).files.files[w.files.place]? = some f
  /-- While a subprogram is open, only ending the lines of all files changes the main file. -/
  main : ∀ {call}, call ≠ .flushAll → w.files.place ≠ 0 → (w.after call).files.main = w.files.main

end Writer

/-- The last line of a finished file is its number and the end word. -/
theorem ProgramFile.IsFinished.back? {n : Numbering} {f : ProgramFile} {endWord : String}
    (h : f.IsFinished endWord) (ht : f.IsTidy n) (hne : endWord.trimmed ≠ "") :
    ∃ l, f.lines.back? = some l ∧
      l.text = n.labelAt (f.lines.size - 1) ++ endWord.trimmed := by
  obtain ⟨l, last, words⟩ := h.last hne
  refine ⟨l, last, ?_⟩
  rw [Array.back?] at last
  obtain ⟨hk, rfl⟩ := Array.getElem?_eq_some_iff.mp last
  rw [ht.text hk, words]
  rfl

/-- **A subprogram is closed for good**: its file is finished, and later calls leave it alone. -/
theorem Writer.closed_forever {w : Writer} {n : Numbering} {e : String}
    (hw : w.files.Holds n (ProgramFile.IsTidy n)) (hf : w.files.AreFinished e)
    (hp : n.Prints (w.files.current.lines.size + 2)) (h : w.files.place ≠ 0) :
    (w.after .closeSub).files.place = 0 ∧
      ∃ f : ProgramFile, f.name = w.files.current.name ∧ f.IsFinished e ∧ f.IsTidy n ∧
        ∀ more, ((w.after .closeSub).runAll more).files.files[w.files.place]? = some f := by
  obtain ⟨f, g, ho, finish, closed⟩ := FileSet.closeSub_of_place hw.numbering hw.current hp h
  have files : (w.after .closeSub).files =
      { w.files with closed := w.files.closed ++ [g], opened := none } := by
    rw [files_after, Call.fileStep, closed]
  have after := hw.fileStep (ProgramFile.isTidy_invariant n) w.machine .closeSub
  rw [← files_after] at after
  have mem : g ∈ (w.after .closeSub).files.closed := by simp [files]
  refine ⟨by rw [files]; rfl, g, ?_, ?_, after.closed g mem, fun more => ?_⟩
  · rw [FileSet.current_of_opened ho, ProgramFile.name_finish finish]
  · exact hf.endWord ▸ ProgramFile.isFinished_finish finish
  · -- the file stands behind the files that were closed before it
    obtain ⟨finished, -⟩ := (w.becomes_after .closeSub).areFinished hf
    obtain ⟨-, later, e⟩ := areFinished_runAll finished more
    simp [FileSet.files, FileSet.place, ho, ← e, files]

/-- **The files of a program, in every state.**  After any calls that name subprograms by texts,
files have distinct names and stand in the order in which they were opened, subprograms open from
the main file and close back to it, a call that is refused changes nothing, a closed subprogram
ends with the end word for good, and the main file is left alone while a subprogram is open. -/
theorem keepsFiles_runAll (c : Config) (calls : List Call) (hc : ∀ call ∈ calls, call.NamesText)
    (hp : c.numbering.Prints (((Writer.start c).runAll calls).files.current.lines.size + 2)) :
    ((Writer.start c).runAll calls).KeepsFiles c ((Writer.start c).created calls) := by
  have started : (Writer.start c).files.IsNamed [c.files.main] := ⟨rfl, List.pairwise_singleton ..⟩
  have named := Writer.isNamed_runAll started hc
  obtain ⟨finished, -⟩ := Writer.areFinished_runAll (w := Writer.start c) (e := c.files.endWord)
    ⟨rfl, by simp [Writer.start, FileSet.start]⟩ calls
  have tidy := (ProgramFile.isTidy_invariant c.numbering).runAll calls
  -- from here on only what the calls have kept matters
  generalize (Writer.start c).runAll calls = w at named finished tidy hp ⊢
  refine ⟨named.named, named.distinct, ⟨w.files.files_place, w.files.place_cases⟩, fun ht => ?_,
    ?_, fun sub => ?_, fun hc hp => (w.becomes_after _).main hc hp⟩
  · exact Writer.requires_of_fileStep rfl (FileSet.openSub_of_isNamed named ht)
  · refine Writer.requires_of_fileStep rfl ?_
    by_cases main : w.files.place = 0
    · have refused := FileSet.closeSub_of_not_opened (FileSet.place_eq_zero.mp main)
      exact .inr ⟨fun sub => sub main, _, rfl, refused⟩
    · obtain ⟨f, g, -, -, ok⟩ :=
        FileSet.closeSub_of_place tidy.numbering tidy.current hp main
      exact .inl ⟨main, congrArg Prod.fst ok⟩
  · obtain ⟨main, f, name, last, ft, kept⟩ := Writer.closed_forever tidy finished hp sub
    exact ⟨main, f, name, last.pending, last.back? ft, kept⟩

/-- The state in which a subprogram is open and has a line. -/
theorem keepsFiles_sub1 :
    ((Writer.start {}).runAll [.openSub (.text "SUB1"), .put (.text "X1") true]).KeepsFiles {}
      ["SUB1"] := by
  have created : (Writer.start {}).created [.openSub (.text "SUB1"), .put (.text "X1") true] =
      ["SUB1"] := by decide +kernel
  rw [← created]
  refine keepsFiles_runAll {} _ (fun call hc => ?_) (by decide +kernel)
  simp only [List.mem_cons, List.not_mem_nil, or_false] at hc
  rcases hc with rfl | rfl
  · exact ⟨"SUB1", rfl⟩
  · trivial

end Postprocessor
