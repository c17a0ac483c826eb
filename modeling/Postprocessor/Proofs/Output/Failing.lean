import Postprocessor.Proofs.Control.Modal
import Postprocessor.Proofs.Machine.Stopping

/-!
# Proofs — calls that fail

A call that is refused changes nothing.  But a value is remembered before its text is made, and the
words of a call are put before the number of their line is, so that two failures leave a trace: of a
value that cannot be written, and of a number that cannot be.

* `FileSet.IsStuck`: the line of the current file cannot be ended; `emit_eq_error_iff` says that
  words are emitted otherwise.
* `Writer.refusal`: the failure of a call that is refused.
* `Fails`: how a call fails, and what is left then; `outcome_eq_error_iff` says that these are all
  failures of all calls but `flushAll`.
* `after_of_printable`: a call that fails changes nothing if its values and the numbers of the lines
  can be written.
* `retry_unwritable`: a value that cannot be written, given twice, fails once.
-/

namespace Postprocessor

namespace FileSet

variable {s s' : FileSet} {words : List String} {noFlush : Bool} {e : Failure}

/-! ### Lines that cannot be ended -/

/-- With these words the line of the current file has words, and its number cannot be written. -/
structure IsStuck (words : List String) (s : FileSet) : Prop where
  words : s.current.pending ++ taken words ≠ []
  number : ¬ s.current.CanEnd s.numbering

theorem emit_of_isStuck (h : s.IsStuck words) :
    emit words false s = (.error .tooManyDigits, words.foldl put s) := by
  rw [emit_flush, putAll_eq, flush_eq, current_setCurrent, numbering_setCurrent,
    ProgramFile.putAll_eq]
  rcases ProgramFile.flush_eq s.numbering
    { s.current with pending := s.current.pending ++ taken words } with
    ⟨hnil, -⟩ | ⟨-, hc, -⟩ | ⟨-, -, he⟩
  · exact absurd hnil h.words
  · exact absurd hc h.number
  · rw [he]

/-- Words are emitted unless the line is to be ended and cannot be. -/
theorem emit_eq_error_iff : emit words noFlush s = (.error e, s') ↔
    noFlush = false ∧ s.IsStuck words ∧ e = .tooManyDigits ∧ s' = words.foldl put s := by
  constructor
  · intro h
    cases noFlush with
    | true => cases h
    | false =>
        by_cases stuck : s.IsStuck words
        · rw [emit_of_isStuck stuck] at h
          cases h
          exact ⟨rfl, stuck, rfl, rfl⟩
        · rw [emit_flush, putAll_eq, flush_eq, current_setCurrent, numbering_setCurrent,
            ProgramFile.putAll_eq] at h
          rcases ProgramFile.flush_eq s.numbering
            { s.current with pending := s.current.pending ++ taken words } with
            ⟨-, he⟩ | ⟨-, -, he⟩ | ⟨hne, hc, -⟩
          · rw [he] at h
            cases h
          · rw [he] at h
            cases h
          · exact absurd ⟨hne, hc⟩ stuck
  · rintro ⟨rfl, stuck, rfl, rfl⟩
    exact emit_of_isStuck stuck

theorem flush_eq_error_iff : flush s = (.error e, s') ↔
    s.IsStuck [] ∧ e = .tooManyDigits ∧ s' = s := by
  have none : flush s = emit [] false s := rfl
  rw [none, emit_eq_error_iff]
  simp

/-- A subprogram is not closed where its line, or that of the end word, cannot be ended. -/
theorem closeSub_eq_error_iff (h : s.opened.isSome = true) : closeSub s = (.error e, s') ↔
    (s.IsStuck [] ∧ e = .tooManyDigits ∧ s' = s) ∨
      ∃ t, flush s = (.ok (), t) ∧ t.IsStuck [s.endWord] ∧ e = .tooManyDigits ∧
        s' = t.put s.endWord := by
  obtain ⟨f, hf⟩ := Option.isSome_iff_exists.mp h
  rw [closeSub_of_opened hf, ← flush_eq_error_iff]
  rcases flush s with ⟨e' | ⟨⟩, t⟩
  · constructor
    · exact .inl
    · rintro (same | ⟨_, h, -⟩)
      · exact same
      · cases h
  · constructor
    · intro h'
      rcases he : emit [s.endWord] false t with ⟨e' | ⟨⟩, t'⟩ <;> simp only [he] at h' <;> cases h'
      obtain ⟨-, stuck, rfl, rfl⟩ := emit_eq_error_iff.mp he
      exact .inr ⟨t, rfl, stuck, rfl, rfl⟩
    · rintro (h' | ⟨t', ht, stuck, rfl, rfl⟩)
      · cases h'
      · cases ht
        simp only [emit_of_isStuck stuck]
        rfl

end FileSet

/-! ### How a call fails -/

namespace Writer

/-- The failure of a call that is refused before it does anything. -/
def refusal (w : Writer) : Call → Except Failure Unit
  | .openSub name => (FileSet.openSub name w.files).1
  | .closeSub => if w.files.opened.isSome then .ok () else (FileSet.closeSub w.files).1
  | call => call.refusal

end Writer

/-- How a call fails, and the writer after that. -/
inductive Fails (w : Writer) : Call → Failure → Writer → Prop
  /-- The call is refused, and nothing changes. -/
  | refused {call : Call} {e : Failure} (refusal : w.refusal call = .error e) : Fails w call e w
  /-- A value of the verb cannot be written.  It is remembered, as are the values before it. -/
  | unwritten {v : Verb} {force noFlush : Bool} {e : Failure} {m : Machine}
      (accepted : v.refusal = .ok ()) (stops : Machine.Stops force w.machine v.assigned e m) :
      Fails w (.verb v force noFlush) e ⟨m, w.files⟩
  /-- The number of the line cannot be written.  The words of the call stay on the line, and the
  machine remembers their values. -/
  | unnumbered {call : Call} {words : List String}
      (emission : call.emission w.machine = .ok (words, false)) (stuck : w.files.IsStuck words) :
      Fails w call .tooManyDigits
        ⟨call.machineAfter w.machine, words.foldl FileSet.put w.files⟩
  /-- The number of the last line of a subprogram cannot be written, and nothing changes. -/
  | unfinished (opened : w.files.opened.isSome = true) (stuck : w.files.IsStuck []) :
      Fails w .closeSub .tooManyDigits w
  /-- The number of the line of the end word cannot be written.  The line before it is ended, and
  the end word stays on its line. -/
  | unended {s : FileSet} (opened : w.files.opened.isSome = true)
      (flushed : FileSet.flush w.files = (.ok (), s)) (stuck : s.IsStuck [w.files.endWord]) :
      Fails w .closeSub .tooManyDigits ⟨w.machine, s.put w.files.endWord⟩

variable {w w' : Writer} {call : Call} {e : Failure}

/-- A call that is refused hands nothing over, and does nothing to the machine. -/
theorem Call.emission_of_refusal (h : call.refusal = .error e) (m : Machine) :
    call.emission m = .error e ∧ call.machineAfter m = m := by
  have passed : ∀ {α : Type} {r : Except Failure α}, r.map (fun _ => ()) = .error e →
      r = .error e := by
    intro α r hr
    cases r with
    | error e' => exact congrArg Except.error (Except.error.inj hr)
    | ok a => cases hr
  cases call with
  | verb v force noFlush =>
      have hw := (words_refused h force m).1
      rw [emission, machineAfter, hw]
      exact ⟨rfl, rfl⟩
  | resetMachine => cases h
  | _ => exact ⟨passed h, rfl⟩

/-- What is not refused, and does not hand over its words, is a verb with a value that cannot be
written. -/
theorem fails_of_emission (h : call.emission w.machine = .error e)
    (hr : w.refusal call = call.refusal) :
    Fails w call e ⟨call.machineAfter w.machine, w.files⟩ := by
  cases call with
  | verb v force noFlush =>
      rcases hw : v.words force w.machine with ⟨e' | texts, m⟩ <;> rw [Call.emission, hw] at h <;>
        cases h
      rw [Call.machineAfter, hw]
      cases accepted : v.refusal with
      | ok u => exact .unwritten accepted ((Verb.words_eq_error_iff accepted).mp hw)
      | error e' =>
          rw [(words_refused accepted force w.machine).1] at hw
          cases hw
          exact .refused accepted
  | flush | flushAll | openSub | closeSub | resetMachine => cases h
  | _ =>
      refine .refused (hr.trans ?_)
      exact congrArg (Except.map fun _ => ()) h

/-- Only the opening and the closing of a subprogram can be refused for the files. -/
theorem Writer.refusal_cases (w : Writer) (call : Call) :
    (∃ name, call = .openSub name) ∨ call = .closeSub ∨ w.refusal call = call.refusal := by
  cases call <;> simp [refusal]

/-- A call whose step on the files fails. -/
theorem fails_of_fileStep {s : FileSet} (hf : call ≠ .flushAll)
    (h : call.fileStep w.machine w.files = (.error e, s)) :
    Fails w call e ⟨call.machineAfter w.machine, s⟩ := by
  rcases call.fileStep_cases w.machine with rfl | ⟨name, rfl⟩ | rfl | ⟨⟨-, hopen, hclose⟩, handed⟩
  · exact absurd rfl hf
  · have step : FileSet.openSub name w.files = (.error e, s) := h
    have refusal : w.refusal (.openSub name) = .error e := congrArg Prod.fst step
    rcases FileSet.openSub_eq name w.files with ⟨e', he⟩ | ⟨-, -, he⟩ <;> rw [he] at step <;>
      cases step
    exact .refused refusal
  · have step : FileSet.closeSub w.files = (.error e, s) := h
    by_cases ho : w.files.opened.isSome = true
    · rcases (FileSet.closeSub_eq_error_iff ho).mp step with
        ⟨stuck, rfl, rfl⟩ | ⟨t, flushed, stuck, rfl, rfl⟩
      · exact .unfinished ho stuck
      · exact .unended ho flushed stuck
    · have refusal : w.refusal .closeSub = .error e := by
        rw [Writer.refusal, if_neg ho, step]
      rw [FileSet.closeSub_of_not_opened (by simpa using ho)] at step
      cases step
      exact .refused refusal
  · have same : w.refusal call = call.refusal := by
      rcases w.refusal_cases call with ⟨name, rfl⟩ | rfl | same
      · exact absurd rfl (hopen name)
      · exact absurd rfl hclose
      · exact same
    rw [handed] at h
    rcases he : call.emission w.machine with e' | ⟨words, noFlush⟩ <;> rw [he] at h
    · cases h
      exact fails_of_emission he same
    · obtain ⟨rfl, stuck, rfl, rfl⟩ := FileSet.emit_eq_error_iff.mp h
      exact .unnumbered he stuck

/-- The step of a call that is refused. -/
theorem fileStep_of_refusal (h : w.refusal call = .error e) :
    call.fileStep w.machine w.files = (.error e, w.files) ∧
      call.machineAfter w.machine = w.machine := by
  rcases w.refusal_cases call with ⟨name, rfl⟩ | rfl | same
  · refine ⟨?_, rfl⟩
    rcases FileSet.openSub_eq name w.files with ⟨e', he⟩ | ⟨-, -, he⟩ <;>
      rw [Writer.refusal, he] at h <;> cases h
    exact he
  · refine ⟨?_, rfl⟩
    rw [Writer.refusal] at h
    split at h
    · cases h
    · next ho =>
      have closed := FileSet.closeSub_of_not_opened (s := w.files) (by simpa using ho)
      rw [closed] at h
      cases h
      exact closed
  · obtain ⟨emission, machine⟩ := Call.emission_of_refusal (same ▸ h) w.machine
    refine ⟨?_, machine⟩
    rcases call.fileStep_cases w.machine with rfl | ⟨name, rfl⟩ | rfl | ⟨-, handed⟩
    · cases emission
    · cases emission
    · cases emission
    · rw [handed, emission]
      rfl

/-- The step on the files of a call that fails. -/
theorem Fails.fileStep (h : Fails w call e w') :
    call.fileStep w.machine w.files = (.error e, w'.files) ∧
      call.machineAfter w.machine = w'.machine := by
  cases h with
  | refused refusal => exact fileStep_of_refusal refusal
  | unwritten accepted stops =>
      have hw := (Verb.words_eq_error_iff accepted).mpr stops
      refine ⟨?_, congrArg Prod.snd hw⟩
      simp only [Call.fileStep, Call.emission, hw]
      rfl
  | @unnumbered call words emission stuck =>
      refine ⟨?_, rfl⟩
      rcases call.fileStep_cases w.machine with rfl | ⟨name, rfl⟩ | rfl | ⟨-, handed⟩
      · cases emission
      · cases emission
      · cases emission
      · rw [handed, emission]
        exact FileSet.emit_of_isStuck stuck
  | unfinished opened stuck =>
      exact ⟨(FileSet.closeSub_eq_error_iff opened).mpr (.inl ⟨stuck, rfl, rfl⟩), rfl⟩
  | unended opened flushed stuck =>
      exact ⟨(FileSet.closeSub_eq_error_iff opened).mpr (.inr ⟨_, flushed, stuck, rfl, rfl⟩), rfl⟩

/-- A call that fails does so in one of these ways. -/
theorem fails_of_outcome (hf : call ≠ .flushAll) (h : w.outcome call = .error e) :
    Fails w call e (w.after call) := by
  have step : call.fileStep w.machine w.files = (.error e, (w.after call).files) :=
    Prod.ext ((w.outcome_eq call).symm.trans h) (w.files_after call).symm
  have fails := fails_of_fileStep hf step
  rwa [← w.machine_after call] at fails

theorem Fails.outcome (h : Fails w call e w') : w.outcome call = .error e := by
  rw [Writer.outcome_eq, h.fileStep.1]

theorem Fails.after (h : Fails w call e w') : w.after call = w' := by
  rw [Writer.after, Writer.run, Writer.perform_eq, h.fileStep.1, h.fileStep.2]

/-- The numbers of the line of the current file and of the one after it can be written. -/
structure FileSet.HasNumbers (s : FileSet) : Prop where
  line : s.current.CanEnd s.numbering
  next : ∀ t, FileSet.flush s = (.ok (), t) → t.current.CanEnd t.numbering

/-- **A call that fails changes nothing** if its values and the numbers of the lines can be
written. -/
theorem after_of_printable (hf : call ≠ .flushAll) (h : w.outcome call = .error e)
    (values : ∀ v force noFlush, call = .verb v force noFlush → ∀ a ∈ v.assigned, a.IsWritable)
    (numbers : w.files.HasNumbers) : w.after call = w := by
  have fails := fails_of_outcome hf h
  generalize w.after call = w' at fails ⊢
  cases fails with
  | refused | unfinished => rfl
  | @unwritten v force noFlush _ _ accepted stops =>
      obtain ⟨texts, m, hw⟩ :=
        Verb.words_of_isWritable accepted (values v force noFlush rfl) force w.machine
      rw [(Verb.words_eq_error_iff accepted).mpr stops] at hw
      cases hw
  | unnumbered emission stuck => exact absurd numbers.line stuck.number
  | unended opened flushed stuck => exact absurd (numbers.next _ flushed) stuck.number

/-! ### A value that cannot be written -/

/-- The setting of a feed. -/
def Call.feed (i : Int) : Call := .verb (.set (.feed (.int i))) false false

/-- A feed that cannot be written is remembered all the same. -/
theorem fails_feed {i : Int} (hi : ¬ IsPrintable i) (hw : w.machine.get .feed = .null) :
    Fails w (.feed i) .tooManyDigits ⟨w.machine.set .feed (.int i), w.files⟩ := by
  have needed : Assignment.IsNeeded false w.machine ⟨.feed, .int i⟩ := by
    refine ⟨nofun, ?_⟩
    simp [hw, Register.agrees, Value.same_int, Value.sameAtom, Value.int?, Value.text?]
  have text : Assignment.text ⟨.feed, .int i⟩ = .error .tooManyDigits :=
    intWritten_of_not_isPrintable hi
  exact .unwritten rfl (.value (Machine.writeAll_nil false w.machine) needed text [])

/-- A feed that is remembered is left out, so that nothing is written if no word is pending. -/
theorem outcome_feed {i : Int} (hw : w.machine.get .feed = .int i)
    (hp : w.files.current.pending = []) : w.outcome (.feed i) = .ok () := by
  have known : ¬ Assignment.IsNeeded false w.machine ⟨.feed, .int i⟩ := by
    rintro ⟨-, new⟩
    simp [hw, Register.agrees, Value.same_int, Value.sameAtom, Value.int?] at new
  have applied : Machine.apply false (.feed (.int i)) w.machine = (.ok "", w.machine) :=
    Machine.write_of_not_needed known
  have emission : (Call.feed i).emission w.machine = .ok ([""], false) := by
    rw [Call.feed, Call.emission, words_set applied]
    rfl
  have step : (Call.feed i).fileStep w.machine = FileSet.emit [""] false := by
    rw [Call.fileStep, emission]
    · rfl
    all_goals simp [Call.feed]
  rw [Writer.outcome_eq, step]
  rcases emitted : FileSet.emit [""] false w.files with ⟨e' | ⟨⟩, s⟩
  · obtain ⟨-, stuck, -, -⟩ := FileSet.emit_eq_error_iff.mp emitted
    exact absurd (by rw [hp]; rfl) stuck.words
  · rfl

end Postprocessor
