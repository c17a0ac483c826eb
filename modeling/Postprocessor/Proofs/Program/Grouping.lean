import Postprocessor.Proofs.Output.Grouping
import Postprocessor.Proofs.Program.Changes
import Postprocessor.Proofs.Views

/-!
# Proofs — lines are a matter of presentation

Whoever writes with a program can end lines, keep them open, and read and generate the texts at any
time.  None of this matters for what is written: as long as the numbers of the lines can be written,
the same calls leave the same words in the same files, and the same ones are refused.

* `Program.Use`: what is done with a program from outside; `Use.wording?` is what is left of it
  without what concerns the ends of lines.
* `Program.useAll`, `Program.outcomes`, `Program.replies`: the program after uses, the outcome of
  every use, and the outcomes of those of which something is left.
* `agrees_useAll`: any uses, and a writer without line numbers that makes the calls that are left.
* `Writer.SameContent`: two writers that differ at most in the grouping of words into lines and in
  their numbers.
* `sameContent_of_wording`: two rows of uses of which the same is left.
-/

namespace Postprocessor

namespace Program

/-! ### Uses -/

/-- What is done with a program from outside, apart from its events. -/
inductive Use where
  /-- A call of the writer. -/
  | write (call : Call)
  /-- The text of the main file, as far as its lines are ended. -/
  | mainText
  /-- The names and the texts of all files, as far as their lines are ended. -/
  | texts
  | generate
  | generateFiles

section Programs

variable {ι : Type}

/-- The text of the main file, as far as its lines are ended. -/
def mainText : Step (Program ι) String := return (← get).writer.files.main.text

/-- The names and the texts of all files, as far as their lines are ended. -/
def texts : Step (Program ι) (List (Value × String)) := return (← get).writer.files.texts

namespace Use

/-- Uses a program. -/
def perform : Use → Step (Program ι) Unit
  | .write call => Program.write call
  | .mainText => do let _ ← Program.mainText
  | .texts => do let _ ← Program.texts
  | .generate => do let _ ← Program.generate
  | .generateFiles => do let _ ← Program.generateFiles

/-- The call of the writer that a use makes, if it makes one. -/
def call? : Use → Option Call
  | .write call => some call
  | .mainText | .texts => none
  | .generate | .generateFiles => some .flushAll

/-- What is left of a use without what concerns the ends of lines. -/
def wording? (u : Use) : Option Call := u.call?.bind Call.wording?

end Use

/-- The program after uses, one after the other, whether they succeed or not. -/
def useAll (p : Program ι) (uses : List Use) : Program ι :=
  uses.foldl (fun p u => (p.run u.perform).2) p

/-- Every use with its outcome. -/
def outcomes (p : Program ι) : List Use → List (Use × Except Failure Unit)
  | [] => []
  | u :: uses => (u, (p.run u.perform).1) :: outcomes (p.run u.perform).2 uses

/-- The outcomes of the uses that do more than to end lines and to read texts. -/
def replies (p : Program ι) (uses : List Use) : List (Except Failure Unit) :=
  (p.outcomes uses).filterMap fun o => o.1.wording?.map fun _ => o.2

variable {p : Program ι} {u : Use} {uses : List Use} {call a : Call}

theorem useAll_append (p : Program ι) (uses more : List Use) :
    p.useAll (uses ++ more) = (p.useAll uses).useAll more := List.foldl_append

/-- The step does to the writer what a call does, and has its outcome. -/
abbrev Calls (call : Call) (x : Step (Program ι) Unit) : Prop :=
  Step.SeenAs (fun _ => True) writer x (Writer.perform call)

theorem calls_write (call : Call) : Calls call (write call : Step (Program ι) Unit) := by
  intro p _
  rw [run_write]
  exact ⟨rfl, trivial⟩

/-- Whatever is read after the call does not matter. -/
theorem Calls.read {x : Step (Program ι) Unit} (h : Calls call x) {α : Type}
    (f : Program ι → α) : Calls call (do let _ ← (do x; return f (← get) : Step _ α)) := by
  intro p _
  rw [h.run trivial, Step.run_bind, Step.run_bind]
  cases (x p).1 <;> exact ⟨rfl, trivial⟩

/-- A use that makes a call does to the writer what the call does. -/
theorem Use.calls_perform (h : u.call? = some call) :
    Calls call (u.perform : Step (Program ι) Unit) := by
  cases u with
  | write call =>
      cases h
      exact calls_write call
  | mainText | texts => cases h
  | generate =>
      cases h
      exact (calls_write .flushAll).read _
  | generateFiles =>
      cases h
      have flushed : Calls .flushAll (do let _ ← (do flushAll; return (← get).writer.files.texts :
          Step (Program ι) (List (Value × String)))) := (calls_write .flushAll).read _
      intro p _
      by_cases opened : p.writer.files.opened.isSome
      -- the warning is an entry of the journal, which the writer does not see
      · have after := flushed { p with journal := p.journal.push (.notified ⟨.warning, .events,
          "Subprogram " ++ nameShown p.writer.files.current.name ++
            " still open at end of output"⟩) } trivial
        simp only [perform, Program.generateFiles, Step.run_bind, Step.run_get, opened,
          if_true] at after ⊢
        exact after
      · have after := flushed p trivial
        simp only [perform, Program.generateFiles, Step.run_bind, Step.run_get, opened,
          Bool.false_eq_true, if_false] at after ⊢
        exact after

theorem Use.run_perform_of_call? (h : u.call? = some call) (p : Program ι) :
    (p.run u.perform).1 = p.writer.outcome call ∧
      (p.run u.perform).2.writer = p.writer.after call := by
  obtain ⟨outcome, after⟩ := Prod.ext_iff.mp ((Use.calls_perform h).run (s := p) trivial)
  exact ⟨outcome.symm, after.symm⟩

/-- A use that makes no call succeeds and changes nothing. -/
theorem Use.run_perform_of_call?_eq_none (h : u.call? = none) (p : Program ι) :
    p.run u.perform = (.ok (), p) := by
  cases u with
  | mainText | texts => rfl
  | _ => cases h

/-! ### Rows of uses -/

/-- Uses drive the writer by the calls that they make. -/
theorem writer_useAll (p : Program ι) (uses : List Use) :
    (p.useAll uses).writer = p.writer.runAll (uses.filterMap Use.call?) := by
  induction uses generalizing p with
  | nil => rfl
  | cons u uses ih =>
      refine (ih (p.run u.perform).2).trans ?_
      cases h : u.call? with
      | none => rw [List.filterMap_cons_none h, Use.run_perform_of_call?_eq_none h]
      | some call =>
          rw [List.filterMap_cons_some h, (Use.run_perform_of_call? h p).2, Writer.runAll_cons]

theorem grows_useAll (p : Program ι) (uses : List Use) :
    p.writer.files.Grows (p.useAll uses).writer.files := by
  rw [writer_useAll]
  exact Writer.grows_runAll ..

variable {v : Writer}

/-- **A use does the same** as what is left of it. -/
theorem agrees_perform (h : p.writer.Agrees v) (ha : u.wording? = some a)
    (hp : (p.run u.perform).2.writer.files.CanEnd) (hv : (v.after a).files.CanEnd) :
    (p.run u.perform).1 = v.outcome a ∧ (p.run u.perform).2.writer.Agrees (v.after a) := by
  obtain ⟨call, hc, wording⟩ := Option.bind_eq_some_iff.mp ha
  obtain ⟨outcome, after⟩ := Use.run_perform_of_call? hc p
  rw [after] at hp
  rw [outcome, after]
  exact h.after wording hp hv

/-- A use of which nothing is left succeeds. -/
theorem agrees_perform_of_wording?_eq_none (h : p.writer.Agrees v) (hu : u.wording? = none)
    (hp : (p.run u.perform).2.writer.files.CanEnd) :
    (p.run u.perform).1 = .ok () ∧ (p.run u.perform).2.writer.Agrees v := by
  cases hc : u.call? with
  | none =>
      rw [Use.run_perform_of_call?_eq_none hc]
      exact ⟨rfl, h⟩
  | some call =>
      obtain ⟨outcome, after⟩ := Use.run_perform_of_call? hc p
      have wording : call.wording? = none := by
        rwa [Use.wording?, hc] at hu
      rw [after] at hp
      rw [outcome, after]
      obtain ⟨ok, agrees⟩ := Writer.agrees_of_wording?_eq_none wording hp
      exact ⟨ok, agrees.symm.trans h⟩

/-- Every use that only ends lines or reads texts has succeeded. -/
def EndLines (outcomes : List (Use × Except Failure Unit)) : Prop :=
  ∀ o ∈ outcomes, o.1.wording? = none → o.2 = .ok ()

/-- **Uses do the same** as what is left of them, made by a writer that can end every line. -/
theorem agrees_useAll (h : p.writer.Agrees v) (hv : v.files.numbering.enabled = false)
    (hp : (p.useAll uses).writer.files.CanEnd) :
    (p.useAll uses).writer.Agrees (v.runAll (uses.filterMap Use.wording?)) ∧
      p.replies uses = (v.trail (uses.filterMap Use.wording?)).map Prod.fst ∧
      EndLines (p.outcomes uses) := by
  induction uses generalizing p v with
  | nil => exact ⟨h, rfl, List.forall_mem_nil _⟩
  | cons u uses ih =>
      -- a line that cannot be ended would stay so
      have first : (p.run u.perform).2.writer.files.CanEnd := (grows_useAll _ uses).canEnd hp
      rw [replies, outcomes, List.filterMap_cons, List.filterMap_cons]
      cases hu : u.wording? with
      | none =>
          obtain ⟨ok, agrees⟩ := agrees_perform_of_wording?_eq_none h hu first
          obtain ⟨rest, replies, ends⟩ := ih agrees hv hp
          exact ⟨rest, replies, List.forall_mem_cons.mpr ⟨fun _ => ok, ends⟩⟩
      | some a =>
          have numbering : (v.after a).files.numbering.enabled = false := by
            rw [(v.grows_after a).numbering, hv]
          obtain ⟨outcome, agrees⟩ :=
            agrees_perform h hu first (FileSet.canEnd_of_not_enabled numbering)
          obtain ⟨rest, replies, ends⟩ := ih agrees numbering hp
          refine ⟨rest, congrArg₂ List.cons outcome replies, List.forall_mem_cons.mpr ⟨?_, ends⟩⟩
          rw [hu]
          nofun

end Programs

end Program

/-! ### What was written -/

/-- All lines are ended, and the writers differ at most in the grouping of words into lines and in
the numbers of the lines. -/
structure Writer.SameContent (w v : Writer) : Prop where
  ended : ∀ f ∈ w.files.files ++ v.files.files, f.pending = []
  /-- The names of the files, with the words of their lines one after the other. -/
  words : (w.files.files.map fun f => (f.name, f.lines.toList.flatMap Line.words)) =
    v.files.files.map fun f => (f.name, f.lines.toList.flatMap Line.words)
  /-- The lines of the files without their numbers, one after the other. -/
  bodies : (w.files.files.map fun f => " ".intercalate (f.lines.toList.map Line.body)) =
    v.files.files.map fun f => " ".intercalate (f.lines.toList.map Line.body)
  machine : w.machine = v.machine
  /-- Output goes to the same file. -/
  place : w.files.place = v.files.place
  current : w.files.current.name = v.files.current.name

namespace FileSet

variable {s t : FileSet}

theorem SameWords.place (h : s.SameWords t) : s.place = t.place := by
  have closed : s.closed.length = t.closed.length := by
    simpa using congrArg List.length h.closed
  rcases h.opened_cases with ⟨hs, ht⟩ | ⟨_, _, hs, ht, -⟩ <;> simp [FileSet.place, hs, ht, closed]

/-- The words of a file whose last line is ended. -/
theorem gist_of_ended {f : ProgramFile} (h : f.pending = []) :
    f.gist = (f.name, f.lines.toList.flatMap Line.words) := by
  rw [ProgramFile.gist, ProgramFile.words, h, List.append_nil]

end FileSet

/-- The lines of a tidy file without their numbers, one after the other, are its words. -/
theorem ProgramFile.IsTidy.bodies {n : Numbering} {f : ProgramFile} (h : f.IsTidy n) :
    " ".intercalate (f.lines.toList.map Line.body) =
      " ".intercalate (f.lines.toList.flatMap Line.words) := by
  have nonempty := h.nonempty
  have words := h.words
  generalize f.lines.toList = lines at nonempty words ⊢
  induction lines with
  | nil => rfl
  | cons l lines ih =>
      obtain ⟨first, others⟩ := List.forall_mem_cons.mp nonempty
      obtain ⟨firstWords, otherWords⟩ := List.forall_mem_cons.mp words
      have body : l.body = " ".intercalate l.words := trimmed_intercalate firstWords
      rw [List.map_cons, List.flatMap_cons, body]
      cases lines with
      | nil => simp [String.intercalate_singleton]
      | cons next lines =>
          have more : (next :: lines).flatMap Line.words ≠ [] := by
            simp [others next (List.mem_cons_self ..)]
          rw [String.intercalate_append_of_ne_nil first more, ← ih others otherWords]
          exact String.intercalate_cons_of_ne_nil (List.cons_ne_nil _ _)

/-- A writer whose lines are tidy and ended. -/
structure Writer.IsComplete (n : Numbering) (w : Writer) : Prop where
  tidy : ∀ f ∈ w.files.files, f.IsTidy n
  ended : ∀ f ∈ w.files.files, f.pending = []

theorem Writer.IsComplete.canEnd {n : Numbering} {w : Writer} (h : w.IsComplete n) :
    w.files.CanEnd := FileSet.canEnd_of_ended h.ended

theorem Writer.Agrees.sameContent {w v : Writer} {n : Numbering} (h : w.Agrees v)
    (hw : w.IsComplete n) (hv : v.IsComplete n) : w.SameContent v := by
  have words := h.files.files
  rw [List.map_congr_left fun f hf => FileSet.gist_of_ended (hw.ended f hf),
    List.map_congr_left fun f hf => FileSet.gist_of_ended (hv.ended f hf)] at words
  refine ⟨List.forall_mem_append.mpr ⟨hw.ended, hv.ended⟩, words, ?_, h.machine, h.files.place,
    congrArg Prod.fst h.files.current⟩
  rw [List.map_congr_left fun f hf => (hw.tidy f hf).bodies,
    List.map_congr_left fun f hf => (hv.tidy f hf).bodies]
  have joined := congrArg (List.map fun x : Value × List String => " ".intercalate x.2) words
  rwa [List.map_map, List.map_map] at joined

namespace Program

variable {ι : Type}

/-- After uses, and after the lines of all files are ended, every line is tidy and ended. -/
theorem isComplete_flushed (c : Config) {uses : List Use}
    (h : ((start (.start c) : Program ι).useAll uses).writer.files.CanEnd) :
    ((start (.start c) : Program ι).useAll (uses ++ [.write .flushAll])).writer.IsComplete
      c.numbering := by
  constructor
  · rw [writer_useAll]
    exact fun f hf => tidy_runAll c _ hf
  · have after {p : Program ι} : (p.useAll [.write .flushAll]).writer = p.writer.after .flushAll :=
      (Use.run_perform_of_call? (u := .write .flushAll) rfl p).2
    rw [useAll_append, after, Writer.files_after]
    exact (FileSet.flushAll_of_canEnd h).2

/-- **Where lines end is a matter of presentation.**  Of two rows of uses let the same be left
without what concerns the ends of lines, and let no line be open at the end of a row whose number
cannot be written.  Once all lines are ended, the same words are in the same files, the machine and
the current file are the same, the same calls were refused in the same way, and nothing that only
ends lines or reads texts has failed. -/
theorem sameContent_of_wording (c : Config) {us vs : List Use}
    (h : us.filterMap Use.wording? = vs.filterMap Use.wording?)
    (hu : ((start (.start c) : Program ι).useAll us).writer.files.CanEnd)
    (hv : ((start (.start c) : Program ι).useAll vs).writer.files.CanEnd) :
    let p : Program ι := start (.start c)
    let us' := us ++ [.write .flushAll]
    let vs' := vs ++ [.write .flushAll]
    (p.useAll us').writer.SameContent (p.useAll vs').writer ∧ p.replies us' = p.replies vs' ∧
      EndLines (p.outcomes us') ∧ EndLines (p.outcomes vs') := by
  intro p us' vs'
  -- both rows are compared with what is left of them, written without numbers
  let plain : Writer := .start { c with numbering := { c.numbering with enabled := false } }
  have started : p.writer.Agrees plain := ⟨rfl, rfl, rfl, rfl, rfl⟩
  have completeU := isComplete_flushed c hu
  have completeV := isComplete_flushed c hv
  have left : us'.filterMap Use.wording? = vs'.filterMap Use.wording? := by
    rw [List.filterMap_append, List.filterMap_append, h]
  obtain ⟨agreesU, repliesU, endsU⟩ := agrees_useAll started rfl completeU.canEnd
  obtain ⟨agreesV, repliesV, endsV⟩ := agrees_useAll started rfl completeV.canEnd
  rw [left] at agreesU repliesU
  exact ⟨(agreesU.trans agreesV.symm).sameContent completeU completeV,
    repliesU.trans repliesV.symm, endsU, endsV⟩

/-- A word that is kept back in the main file while a subprogram is written, and two closings of
which the second is refused. -/
theorem sameContent_kept :
    let p : Program Empty := start (.start {})
    let us : List Use := [.write (.put (.text "G90") true), .write (.put (.text "SUB1") false),
      .write (.openSub (.text "SUB1")), .write (.put (.text "X1") false), .generate,
      .write (.put (.text "Y1") true), .write .closeSub, .write .closeSub]
    let vs : List Use := [.write (.put (.text "G90") false), .mainText,
      .write (.put (.text "SUB1") false), .write (.openSub (.text "SUB1")), .generateFiles,
      .write (.put (.text "X1") true), .write (.put (.text "Y1") false), .texts, .write .closeSub,
      .write .flush, .write .closeSub, .write .flushAll]
    (p.useAll us).writer.files.CanEnd ∧ (p.useAll vs).writer.files.CanEnd ∧
      us.filterMap Use.wording? = vs.filterMap Use.wording? ∧
      (p.useAll (us ++ [.write .flushAll])).writer.SameContent
        (p.useAll (vs ++ [.write .flushAll])).writer ∧
      p.replies (us ++ [.write .flushAll]) = p.replies (vs ++ [.write .flushAll]) := by
  intro p us vs
  have hu : (p.useAll us).writer.files.CanEnd := by decide +kernel
  have hv : (p.useAll vs).writer.files.CanEnd := by decide +kernel
  have same : us.filterMap Use.wording? = vs.filterMap Use.wording? := rfl
  -- the rest is a matter of these facts alone
  clear_value us vs
  obtain ⟨content, replies, -, -⟩ := sameContent_of_wording {} same hu hv
  exact ⟨hu, hv, same, content, replies⟩

end Program

end Postprocessor
