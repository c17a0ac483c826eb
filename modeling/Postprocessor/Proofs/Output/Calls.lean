import Postprocessor.Proofs.Running
import Postprocessor.Writer

/-!
# Proofs — what a call does

A call of a writer hands words to the current file and may end its line; three calls do more with
the files, and two change the machine.  The outcome of a call is that of its step on the files.

* `Call.emission`: the words that a call hands over, and whether the line stays open;
  `FileSet.handOver` writes them.
* `Call.fileStep`, `Call.machineAfter`: what a call does to the files, and to the machine.
* `perform_eq`: a call is these two together.
* `Writer.after`, `Writer.runAll`, `Writer.trail`: the writer after a call, after several calls, and
  the outcome and the writer of every call in turn.
* `Writer.Accepts`: calls that all succeed.
-/

namespace Postprocessor

/-- Hands over the words of a call that is not refused, and ends the line unless it stays open. -/
def FileSet.handOver : Except Failure (List String × Bool) → Step FileSet Unit
  | .ok (words, noFlush) => emit words noFlush
  | .error e => throw e

namespace Call

/-- The words that a call hands to the current file, and whether the line stays open after them. -/
def emission (m : Machine) : Call → Except Failure (List String × Bool)
  | .verb v force noFlush => (v.words force m).1.map fun words => (words, noFlush)
  | .put word ends => (Writer.wordOf word).map fun word => ([word], !ends)
  | .flush => .ok ([], false)
  | .callSub name noFlush => (Writer.wordOf name).map fun word => ([word], noFlush)
  | .callExternal name noFlush =>
    name.written.map fun name => (["EXTCALL \"" ++ name ++ "\""], noFlush)
  | .comment text noFlush => (Writer.wordOf text).map fun text =>
    if text.trimmed.isEmpty then ([], true) else (["; " ++ text.trimmed], noFlush)
  | .flushAll | .openSub _ | .closeSub | .resetMachine => .ok ([], true)

/-- What a call does to the files while the machine is `m`. -/
def fileStep (m : Machine) : Call → Step FileSet Unit
  | .flushAll => FileSet.flushAll
  | .openSub name => FileSet.openSub name
  | .closeSub => FileSet.closeSub
  | call => FileSet.handOver (call.emission m)

/-- The machine after a call. -/
def machineAfter (m : Machine) : Call → Machine
  | .verb v force _ => (v.words force m).2
  | .resetMachine => .fresh
  | _ => m

end Call

/-- Three calls do more with the files than to hand over words. -/
theorem Call.fileStep_cases (m : Machine) (call : Call) :
    call = .flushAll ∨ (∃ name, call = .openSub name) ∨ call = .closeSub ∨
      (call ≠ .flushAll ∧ (∀ name, call ≠ .openSub name) ∧ call ≠ .closeSub) ∧
        call.fileStep m = FileSet.handOver (call.emission m) := by
  cases call <;> simp [fileStep]

namespace FileSet

theorem emit_keep (words : List String) (s : FileSet) :
    emit words true s = (.ok (), words.foldl put s) := rfl

theorem emit_flush (words : List String) (s : FileSet) :
    emit words false s = flush (words.foldl put s) := rfl

end FileSet

namespace Writer

theorem onMachine_eq {α : Type} (step : Step Machine α) (w : Writer) :
    onMachine step w = ((step w.machine).1, ⟨(step w.machine).2, w.files⟩) := rfl

/-- A call that hands over words that do not depend on the files or the machine. -/
theorem lift_emit {α : Type} (r : Except Failure α) (f : α → List String × Bool) (w : Writer) :
    (do let a ← Step.lift r
        onFiles (FileSet.emit (f a).1 (f a).2) : Step Writer Unit) w =
      ((FileSet.handOver (r.map f) w.files).1,
        ⟨w.machine, (FileSet.handOver (r.map f) w.files).2⟩) := by
  cases r with
  | error e => rfl
  | ok a => rfl

/-- **What a call does**: a step on the files, which decides the outcome, and a new machine. -/
theorem perform_eq (call : Call) (w : Writer) :
    perform call w = ((call.fileStep w.machine w.files).1,
      ⟨call.machineAfter w.machine, (call.fileStep w.machine w.files).2⟩) := by
  cases call with
  | verb v force noFlush =>
      rw [perform, Call.fileStep, Call.emission, Call.machineAfter]
      · rcases h : v.words force w.machine with ⟨e | words, m⟩
        · have hw : onMachine (v.words force) w = (.error e, ⟨m, w.files⟩) := by
            rw [onMachine_eq, h]
          rw [Step.bind_of_error hw]
          rfl
        · have hw : onMachine (v.words force) w = (.ok words, ⟨m, w.files⟩) := by
            rw [onMachine_eq, h]
          rw [Step.bind_of_ok hw]
          rfl
      all_goals simp
  | put word ends => exact lift_emit (wordOf word) (fun word => ([word], !ends)) w
  | flush => rfl
  | flushAll => rfl
  | callSub name noFlush => exact lift_emit (wordOf name) (fun word => ([word], noFlush)) w
  | callExternal name noFlush =>
      exact lift_emit name.written (fun name => (["EXTCALL \"" ++ name ++ "\""], noFlush)) w
  | comment text noFlush =>
      rw [perform, Call.fileStep, Call.emission]
      · cases wordOf text with
        | error e => rfl
        | ok t =>
            rw [Step.bind_of_ok (Step.run_lift _ _)]
            cases h : t.trimmed.isEmpty <;> simp [h, Except.map] <;> rfl
      all_goals simp
  | openSub name => rfl
  | closeSub => rfl
  | resetMachine => rfl

/-! ### Runs -/

/-- The writer after a call, whether it succeeds or not. -/
def after (w : Writer) (call : Call) : Writer := (w.run (perform call)).2

/-- The outcome of a call. -/
def outcome (w : Writer) (call : Call) : Except Failure Unit := (w.run (perform call)).1

/-- The writer after calls that are made one after the other. -/
def runAll (w : Writer) (calls : List Call) : Writer := calls.foldl after w

/-- The outcome of every call, with the writer after it. -/
def trail (w : Writer) : List Call → List (Except Failure Unit × Writer)
  | [] => []
  | call :: calls => (w.outcome call, w.after call) :: trail (w.after call) calls

theorem outcome_eq (w : Writer) (call : Call) :
    w.outcome call = (call.fileStep w.machine w.files).1 := by
  rw [outcome, run, perform_eq]

theorem machine_after (w : Writer) (call : Call) :
    (w.after call).machine = call.machineAfter w.machine := by
  rw [after, run, perform_eq]

theorem files_after (w : Writer) (call : Call) :
    (w.after call).files = (call.fileStep w.machine w.files).2 := by
  rw [after, run, perform_eq]

theorem runAll_cons (w : Writer) (call : Call) (calls : List Call) :
    w.runAll (call :: calls) = (w.after call).runAll calls := rfl

theorem runAll_append (w : Writer) (calls more : List Call) :
    w.runAll (calls ++ more) = (w.runAll calls).runAll more := List.foldl_append

/-- The calls all succeed, made one after the other. -/
def Accepts (w : Writer) : List Call → Prop
  | [] => True
  | call :: calls => w.outcome call = .ok () ∧ (w.after call).Accepts calls

theorem accepts_append {w : Writer} {us vs : List Call} :
    w.Accepts (us ++ vs) ↔ w.Accepts us ∧ (w.runAll us).Accepts vs := by
  induction us generalizing w with
  | nil => exact ⟨fun h => ⟨trivial, h⟩, And.right⟩
  | cons call us ih =>
      rw [List.cons_append, Accepts, Accepts, ih, runAll_cons, and_assoc]

end Writer

end Postprocessor
