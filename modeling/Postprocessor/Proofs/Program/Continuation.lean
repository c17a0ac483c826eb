import Postprocessor.Proofs.Output.Growth
import Postprocessor.Proofs.Program.Relevance
import Postprocessor.Proofs.Trace.Continuation

/-!
# Proofs — earlier output is final

A trace that is continued is processed as far as it goes by itself, and then the continuation
follows.  The lines of the first part stay as they are, and as every handler ends the line that it
writes, no word of the continuation can join them.

* `FileSet.IsSettled`: the only file is the main file, and it has no open line.
* `Settles`: calls that leave a settled writer settled if they succeed; `settles_calls` says that
  the calls of every handler do.
* `Program.Continues`: a run that goes on after another.
* `processed_append`: the processing of a continued trace goes on after that of its first part.
-/

namespace Postprocessor

/-! ### Ended lines -/

/-- The only file is the main file. -/
structure FileSet.IsAlone (s : FileSet) : Prop where
  opened : s.opened = none
  closed : s.closed = []

/-- The only file is the main file, and its last line is ended. -/
structure FileSet.IsSettled (s : FileSet) : Prop extends s.IsAlone where
  ended : s.main.pending = []

namespace FileSet

variable {s s' : FileSet} {words : List String} {noFlush : Bool}

theorem IsSettled.files (h : s.IsSettled) : ∀ f ∈ s.files, f.pending = [] := by
  rw [FileSet.files, h.opened, h.closed]
  exact List.forall_mem_singleton.mpr h.ended

theorem isSettled_start (c : Config) : (start c).IsSettled := ⟨⟨rfl, rfl⟩, rfl⟩

theorem IsAlone.emit (h : s.IsAlone) (words : List String) (noFlush : Bool) :
    (FileSet.emit words noFlush s).2.IsAlone := by
  obtain ⟨r, f, run, -⟩ := emit_setCurrent words noFlush s
  rw [run, setCurrent_of_not_opened h.opened]
  exact ⟨h.opened, h.closed⟩

/-- A line that is ended leaves no word pending. -/
theorem pending_emit (h : FileSet.emit words false s = (.ok (), s')) : s'.current.pending = [] := by
  rw [emit_flush, flush_eq] at h
  split at h
  · next f flushed =>
    cases h
    rw [current_setCurrent]
    exact (ProgramFile.flush_ok flushed).1
  · cases h

/-- Emitting words settles the files if it ends the line, and leaves settled files settled if there
are no words. -/
theorem IsAlone.isSettled_emit (h : s.IsAlone)
    (ends : noFlush = false ∨ words = [] ∧ s.IsSettled)
    (run : FileSet.emit words noFlush s = (.ok (), s')) : s'.IsSettled := by
  rcases ends with rfl | ⟨rfl, settled⟩
  · have alone := h.emit words false
    have pending := pending_emit run
    rw [run] at alone
    rw [current_of_not_opened alone.opened] at pending
    exact ⟨alone, pending⟩
  · cases noFlush with
    | true =>
        cases run
        exact settled
    | false =>
        rw [emit_flush, List.foldl_nil, flush_eq, current_of_not_opened h.opened,
          ProgramFile.flush_of_pending_eq_nil settled.ended] at run
        cases run
        rwa [setCurrent_of_not_opened h.opened]

end FileSet

/-- The call does nothing with the files but to hand over words. -/
def Call.IsEmission (call : Call) : Prop :=
  ∀ m, call.fileStep m = FileSet.handOver (call.emission m)

/-- The call ends the line whenever it succeeds. -/
def Call.Ends (call : Call) : Prop :=
  ∀ m words noFlush, call.emission m = .ok (words, noFlush) → noFlush = false

/-- The calls hand over words, and the last one ends the line; a single call may hand over nothing
instead. -/
inductive Settles : List Call → Prop
  | nothing : Settles []
  | line {calls : List Call} {last : Call} (hc : ∀ call ∈ calls, call.IsEmission)
      (hl : last.IsEmission) (ends : last.Ends) : Settles (calls ++ [last])
  | single {call : Call} (hc : call.IsEmission)
      (ends : ∀ m words noFlush, call.emission m = .ok (words, noFlush) →
        noFlush = false ∨ words = []) : Settles [call]

namespace Writer

variable {w w' : Writer} {calls : List Call} {call : Call}

theorem isAlone_perform (hc : call.IsEmission) (h : w.files.IsAlone) :
    (perform call w).2.files.IsAlone := by
  rw [perform_eq, hc]
  rcases call.emission w.machine with e | ⟨words, noFlush⟩
  · exact h
  · exact h.emit words noFlush

theorem isAlone_forM (hc : ∀ call ∈ calls, call.IsEmission) (h : w.files.IsAlone) :
    (calls.forM perform w).2.files.IsAlone := by
  induction calls generalizing w with
  | nil => exact h
  | cons call calls ih =>
      obtain ⟨first, rest⟩ := List.forall_mem_cons.mp hc
      rw [List.forM, Step.run_bind]
      have alone := isAlone_perform first h
      cases (perform call w).1 with
      | error e => exact alone
      | ok _ => exact ih rest alone

theorem isSettled_perform (hc : call.IsEmission) (h : w.files.IsAlone)
    (ends : ∀ m words noFlush, call.emission m = .ok (words, noFlush) →
      noFlush = false ∨ words = [] ∧ w.files.IsSettled)
    (run : perform call w = (.ok (), w')) : w'.files.IsSettled := by
  rw [perform_eq, hc] at run
  rcases he : call.emission w.machine with e | ⟨words, noFlush⟩ <;> rw [he] at run
  · cases run
  · obtain ⟨outcome, rfl⟩ := Prod.mk.inj run
    exact h.isSettled_emit (ends _ _ _ he) (eq_mk_of_fst outcome)

/-- **Calls that settle** leave settled files settled, if they all succeed. -/
theorem isSettled_forM (hs : Settles calls) (h : w.files.IsSettled)
    (run : calls.forM perform w = (.ok (), w')) : w'.files.IsSettled := by
  cases hs with
  | nothing =>
      cases run
      exact h
  | @line calls last hc hl ends =>
      rw [List.forM_eq_forM, List.forM_append, Step.run_bind] at run
      have alone := isAlone_forM hc h.toIsAlone
      rw [List.forM_eq_forM] at alone
      split at run
      · rw [List.forM_cons, List.forM_nil, bind_pure] at run
        exact isSettled_perform hl alone
          (fun m words noFlush e => .inl (ends m words noFlush e)) run
      · cases run
  | single hc ends =>
      rw [List.forM, List.forM, bind_pure] at run
      exact isSettled_perform hc h.toIsAlone
        (fun m words noFlush e => (ends m words noFlush e).imp_right fun none => ⟨none, h⟩) run

end Writer

/-! ### Events -/

theorem Call.IsEmission.settles {call : Call} (h : call.IsEmission) (ends : call.Ends) :
    Settles [call] := .single h fun m words noFlush e => .inl (ends m words noFlush e)

theorem Call.ends_verb (v : Verb) (force : Bool) : (verb v force false).Ends := by
  intro m words noFlush e
  obtain ⟨_, -, e'⟩ := map_eq_ok e
  exact (Prod.mk.inj e').2.symm

theorem settles_verb (v : Verb) : Settles [.verb v false false] :=
  Call.IsEmission.settles (fun _ => rfl) (Call.ends_verb v false)

/-- **The calls of a handler** leave no line open. -/
theorem Handler.settles_calls {h : Handler} {params : Params} {made : List Call}
    (hm : h.calls params = .ok made) : Settles made := by
  cases h with
  | feedSpin =>
      cases hm
      refine .line (fun call mem => ?_) (fun _ => rfl) fun m words noFlush e => ?_
      · rcases List.mem_cons.mp mem with rfl | mem
        · exact fun _ => rfl
        · rw [directionCalls] at mem
          split at mem
          · obtain rfl := List.mem_singleton.mp mem
            exact fun _ => rfl
          · cases mem
      · cases e
        rfl
  | rapidMove | line | absoluteMode =>
      cases hm
      exact settles_verb _
  | machinePlane =>
      rw [calls] at hm
      split at hm <;> cases hm
      · exact .nothing
      · exact settles_verb _
  | changeTool =>
      rw [calls] at hm
      split at hm
      · cases hm
        exact .nothing
      · obtain ⟨name, -, rfl⟩ := map_eq_ok hm
        exact settles_verb _
  | message =>
      obtain ⟨text, -, rfl⟩ := map_eq_ok hm
      refine .single (fun _ => rfl) fun m words noFlush e => ?_
      obtain ⟨t, -, e'⟩ := map_eq_ok e
      split at e' <;> cases e'
      · exact .inr rfl
      · exact .inl rfl
  | endOfFile =>
      cases hm
      refine Call.IsEmission.settles (fun _ => rfl) fun m words noFlush e => ?_
      rw [Call.emission] at e
      obtain ⟨_, -, e'⟩ := map_eq_ok e
      exact (Prod.mk.inj e').2.symm

namespace Event

theorem isSettled_perform {e : Event} {w w' : Writer} (h : w.files.IsSettled)
    (run : e.perform w = (.ok (), w')) : w'.files.IsSettled := by
  rw [perform] at run
  cases hc : standardCalls e.name e.params with
  | error failure =>
      rw [hc] at run
      cases run
  | ok made =>
      have settles : Settles made := by
        rw [standardCalls] at hc
        split at hc
        · exact Handler.settles_calls hc
        · cases hc
          exact .nothing
      rw [hc] at run
      exact Writer.isSettled_forM settles h run

/-- Events that succeed leave no line open. -/
theorem isSettled_forM {es : List Event} {w w' : Writer} (h : w.files.IsSettled)
    (run : es.forM perform w = (.ok (), w')) : w'.files.IsSettled := by
  induction es generalizing w with
  | nil =>
      cases run
      exact h
  | cons e es ih =>
      rw [List.forM, Step.run_bind] at run
      split at run
      · next ok => exact ih (isSettled_perform h (eq_mk_of_fst ok)) run
      · cases run

end Event

/-! ### Continued traces -/

namespace Program

/-- The second run goes on after the first one. -/
structure Continues (x y : Except Failure Unit × Program Handler) : Prop where
  /-- The lines of the main file stay as they are, and others at most come after them. -/
  lines : x.2.writer.files.main.lines.toList <+: y.2.writer.files.main.lines.toList
  /-- If the first run ends normally, no line is open that the second one could add to. -/
  ended : x.1 = .ok () → ∀ f ∈ x.2.writer.files.files, f.pending = []
  /-- If the first run fails, the second one fails in the same way and puts out the same. -/
  failed : ∀ e, x.1 = .error e → Alike x y

variable (c : Config)

/-- The processing of records, and of more records after them, where the first of them fail. -/
theorem alike_append {records : List Trace.Record} {e : Failure}
    (h : (processed c records).1 = .error e) (more : List Trace.Record) :
    Alike (processed c records) (processed c (records ++ more)) := by
  have first := work_processed c records
  have whole := work_processed c (records ++ more)
  rw [List.map_append, List.forM_eq_forM, List.forM_append] at whole
  rw [List.forM_eq_forM, h] at first
  rw [Step.bind_of_error first] at whole
  obtain ⟨outcome, work⟩ := Prod.mk.inj whole
  exact alike_of_work (registry_processed c _) (registry_processed c _) (h.trans outcome) work

/-- The writer after more records is driven on. -/
theorem exists_runAll_append (records more : List Trace.Record) : ∃ calls,
    (processed c (records ++ more)).2.writer = (processed c records).2.writer.runAll calls := by
  have first := writer_processed c records
  have whole := writer_processed c (records ++ more)
  rw [List.map_append, List.forM_eq_forM, List.forM_append, ← List.forM_eq_forM] at whole
  cases outcome : (processed c records).1 with
  | error e =>
      rw [outcome] at first
      rw [Step.bind_of_error first] at whole
      exact ⟨[], (Prod.mk.inj whole).2.symm⟩
  | ok _ =>
      rw [outcome] at first
      rw [Step.bind_of_ok first] at whole
      have events : ∀ e ∈ more.map Trace.Record.event, Writer.Drives (fun _ => True) e.perform :=
        fun e _ => Event.MakesOnly.drives fun _ _ _ _ => trivial
      obtain ⟨calls, -, driven⟩ := Writer.drives_forM events (processed c records).2.writer
      rw [whole] at driven
      exact ⟨calls, driven⟩

/-- Where no event fails, no line is open, and there is one file. -/
theorem isSettled_processed {records : List Trace.Record} (h : (processed c records).1 = .ok ()) :
    (processed c records).2.writer.files.IsSettled := by
  have run := writer_processed c records
  rw [h] at run
  exact Event.isSettled_forM (FileSet.isSettled_start c) run

theorem continues_append (records more : List Trace.Record) :
    Continues (processed c records) (processed c (records ++ more)) := by
  refine ⟨?_, fun ok => ?_, fun e failed => alike_append c failed more⟩
  · obtain ⟨calls, driven⟩ := exists_runAll_append c records more
    rw [driven]
    exact (Writer.grows_runAll _ calls).main.lines
  · exact (isSettled_processed c ok).files

/-- **Earlier output is final.**  The records of a trace that is continued by another one, which
starts with a marker line, are those of the first one, and after them those of the second one, whose
places follow on.  Their processing goes on after that of the first trace, whether either ends
normally or fails. -/
theorem processed_append (first : String) {second : String}
    (h : ∃ line ∈ (Text.lines second.toList).head?, Trace.OpensBlock line) :
    (Trace.records (first ++ "\n" ++ second)).toList = (Trace.records first).toList ++
        (Trace.records second).toList.map (Trace.Record.later (Trace.records first).size) ∧
      Continues (processed c (Trace.records first).toList)
        (processed c (Trace.records (first ++ "\n" ++ second)).toList) := by
  have records := Trace.records_append first h
  refine ⟨records, ?_⟩
  rw [records]
  exact continues_append c _ _

/-- A move, and a plane that is none after it: the move is final, and the continuation fails.  The
break at the end of the first trace makes one break with the one that joins the two. -/
theorem processed_append_rejected :
    (∃ line ∈ (Text.lines "(0)@machine_plane machine_plane: zx".toList).head?,
        Trace.OpensBlock line) ∧
      (Trace.records ("(0)@line xpos: 1 feed: 60\r" ++ "\n" ++
        "(0)@machine_plane machine_plane: zx")).toList.map Trace.Record.index = [0, 1] ∧
      Continues (processed {} (Trace.records "(0)@line xpos: 1 feed: 60\r").toList)
        (processed {} (Trace.records ("(0)@line xpos: 1 feed: 60\r" ++ "\n" ++
          "(0)@machine_plane machine_plane: zx")).toList) := by
  have opens : ∃ line ∈ (Text.lines "(0)@machine_plane machine_plane: zx".toList).head?,
      Trace.OpensBlock line := by
    rw [String.toList_ofList]
    exact ⟨_, rfl, by decide +kernel⟩
  obtain ⟨records, continues⟩ := processed_append {} "(0)@line xpos: 1 feed: 60\r" opens
  refine ⟨opens, ?_, continues⟩
  rw [records, Trace.records_ofList, Trace.records_ofList]
  decide +kernel

end Program

end Postprocessor
