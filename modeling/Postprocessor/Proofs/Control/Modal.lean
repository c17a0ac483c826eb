import Postprocessor.Proofs.Control.Suppression
import Postprocessor.Proofs.Output.Emission
import Postprocessor.Proofs.Output.Ledger

/-!
# Proofs — the modal program

Calls that drive the machine through its settings, and that write no word of a modal group by
themselves, bring a control to a state that depends on the calls alone: not on what the machine
holds, not on the words it leaves out, and not on when it forgets.

* `Call.IsModal`: such a call; `Call.full`, `Call.refusal`: what it writes in full, and how it
  fails.
* `Follows`: a writer that has made some calls has written their words, shortened; `follows_step`
  and `follows_runAll` say that one more call, and a run, keep this up.
* `Counts`, `counts_step`: it has ended at most one line with every call that ends lines, so that a
  call fails only if it is refused or the numbers end.
* `suppression`: a run, and the same run with every verb forced.
* `suppression_at_lastNumber`: where the numbers end, the two may fail differently.
-/

namespace Postprocessor

namespace Call

/-- The settings of the call are modal, and no word that it writes by itself is one of a modal
group. -/
def IsModal : Call → Prop
  | .verb v _ _ => v.IsModal
  | .put word _ => ∀ text, Writer.wordOf word = .ok text → Control.group? text.trimmed = none
  | .flush | .comment .. | .resetMachine => True
  | _ => False

/-- The words of a call in full, as a control hears them; none if it is refused. -/
def full : Call → List String
  | .verb v _ _ => v.full
  | call =>
    match call.emission .fresh with
    | .ok (words, _) => Control.heard words
    | .error _ => []

/-- The failure of a call that is refused. -/
def refusal : Call → Except Failure Unit
  | .verb v _ _ => v.refusal
  | call => (call.emission .fresh).map fun _ => ()

/-- Whether the text of a comment is blank, so that none is written. -/
def isBlankComment (text : Value) : Bool :=
  ((Writer.wordOf text).toOption.getD "").trimmed.isEmpty

/-- Whether the call ends the line of the current file. -/
def endsLine : Call → Bool
  | .verb _ _ noFlush | .callSub _ noFlush | .callExternal _ noFlush => !noFlush
  | .comment text noFlush => !isBlankComment text && !noFlush
  | .put _ ends => ends
  | .flush | .flushAll | .closeSub => true
  | .openSub _ | .resetMachine => false

/-- The call with its verb forced. -/
def forced : Call → Call
  | .verb v _ noFlush => .verb v true noFlush
  | call => call

/-- Any verb of the call is forced. -/
def IsForced : Call → Prop
  | .verb _ force _ => force = true
  | _ => True

theorem isModal_forced {call : Call} (h : call.IsModal) : call.forced.IsModal := by
  cases call <;> exact h

theorem full_forced (call : Call) : call.forced.full = call.full := by
  cases call <;> rfl

theorem refusal_forced (call : Call) : call.forced.refusal = call.refusal := by
  cases call <;> rfl

theorem isForced_forced (call : Call) : call.forced.IsForced := by
  cases call <;> trivial

end Call

/-! ### One call -/

/-- A text without a group is read as it is, and changes nothing. -/
theorem Control.readAll_heard_of_group {text : String} (h : group? text.trimmed = none)
    (k : Control) : k.readAll (heard [text]) = k := by
  by_cases he : text.trimmed.isEmpty = true
  · have none : heard [text] = [] := by
      rw [heard, taken]
      simp [he]
    rw [none]
    rfl
  · have one : heard [text] = [text.trimmed] := by
      rw [heard, taken]
      simp [he, parts, h]
    rw [one, readAll_cons, readAll_nil, read, h]

/-- A comment is taken into a line as it is. -/
theorem isWord_comment {text : String} (h : text.trimmed.isEmpty = false) :
    IsWord ("; " ++ text.trimmed) := by
  have hne : text.trimmed ≠ "" := fun e => by simp [e] at h
  have body : IsWord text.trimmed := ⟨hne, trimmed_trimmed text⟩
  have mark : Text.IsTrim [';'] := by
    have solid : Text.IsSolid [';'] := by decide
    exact solid.isTrim
  refine isWord_of_isTrim (fun e => ?_) ?_
  · exact hne (String.append_eq_empty_iff.mp e).2
  · have joined := Text.isTrim_append (m := [' ']) mark body.isTrim (List.cons_ne_nil _ _)
      (fun e => hne (String.toList_eq_nil_iff.mp e))
    simpa using joined

theorem Control.group?_comment (text : String) : group? ("; " ++ text) = none := by
  simp [group?]

/-- The call only hands over words, from which a control reads nothing. -/
structure Call.IsSilent (call : Call) : Prop where
  step : ∀ m, call.fileStep m = FileSet.handOver (call.emission .fresh)
  full : call.full = match call.emission .fresh with
    | .ok (words, _) => Control.heard words
    | .error _ => []
  refusal : call.refusal = (call.emission .fresh).map fun _ => ()
  machine : ∀ m, call.machineAfter m = m ∨ call.machineAfter m = .fresh
  ends : ∀ words noFlush, call.emission .fresh = .ok (words, noFlush) → noFlush = !call.endsLine
  still : ∀ words noFlush, call.emission .fresh = .ok (words, noFlush) →
    ∀ k : Control, k.readAll (Control.heard words) = k

/-- A modal call is a verb, or it is silent. -/
theorem Call.IsModal.verb_or_silent {call : Call} (h : call.IsModal) :
    (∃ v force noFlush, call = .verb v force noFlush ∧ v.IsModal) ∨ call.IsSilent := by
  cases call with
  | verb v force noFlush => exact .inl ⟨v, force, noFlush, rfl, h⟩
  | put word ends =>
      refine .inr ⟨fun _ => rfl, rfl, rfl, fun _ => .inl rfl, fun words noFlush e => ?_,
        fun words noFlush e => ?_⟩ <;> obtain ⟨text, ht, e'⟩ := map_eq_ok e <;> cases e'
      · rfl
      · exact Control.readAll_heard_of_group (h text ht)
  | comment text keep =>
      refine .inr ⟨fun _ => rfl, rfl, rfl, fun _ => .inl rfl, fun words noFlush e => ?_,
        fun words noFlush e => ?_⟩ <;> obtain ⟨t, ht, e'⟩ := map_eq_ok e <;>
        cases he : t.trimmed.isEmpty <;> rw [he] at e' <;> cases e'
      · simp [endsLine, isBlankComment, ht, he, Except.toOption]
      · simp [endsLine, isBlankComment, ht, he, Except.toOption]
      · refine Control.readAll_heard_of_group ?_
        rw [(isWord_comment he).2]
        exact Control.group?_comment _
      · exact fun k => rfl
  | flush =>
      refine .inr ⟨fun _ => rfl, rfl, rfl, fun _ => .inl rfl, fun words noFlush e => ?_,
        fun words noFlush e => ?_⟩ <;> cases e
      · rfl
      · exact fun k => rfl
  | resetMachine =>
      refine .inr ⟨fun _ => rfl, rfl, rfl, fun _ => .inr rfl, fun words noFlush e => ?_,
        fun words noFlush e => ?_⟩ <;> cases e
      · rfl
      · exact fun k => rfl
  | _ => exact h.elim

theorem Call.IsSilent.readAll_full {call : Call} (h : call.IsSilent) (k : Control) :
    k.readAll call.full = k := by
  rw [h.full]
  rcases he : call.emission .fresh with e | ⟨words, noFlush⟩
  · rfl
  · exact h.still words noFlush he k

variable {k : Control} {m : Machine} {call : Call}

/-- A call either fails as it is refused and does nothing else, or emits words that shorten its
words in full, and ends the line if it says so. -/
def Call.Does (call : Call) (k : Control) (m : Machine) : Prop :=
  (∃ e, call.refusal = .error e ∧ call.full = [] ∧ ∀ s, call.fileStep m s = (.error e, s)) ∨
    call.refusal = .ok () ∧ ∃ words, call.fileStep m = FileSet.emit words (!call.endsLine) ∧
      Shortens call.IsForced k (Control.heard words) call.full

theorem silent_step (h : k.Tracks m) (hc : call.IsSilent) :
    call.Does k m ∧ (k.readAll call.full).Tracks (call.machineAfter m) := by
  have tracks : k.Tracks (call.machineAfter m) := by
    rcases hc.machine m with e | e <;> rw [e]
    · exact h
    · exact k.tracks_fresh
  rcases hr : call.emission .fresh with e | ⟨words, noFlush⟩
  · have full : call.full = [] := by rw [hc.full, hr]
    refine ⟨.inl ⟨e, by rw [hc.refusal, hr]; rfl, full, fun s => ?_⟩, full ▸ tracks⟩
    rw [hc.step, hr]
    rfl
  · have full : call.full = Control.heard words := by rw [hc.full, hr]
    obtain rfl := hc.ends words noFlush hr
    refine ⟨.inr ⟨by rw [hc.refusal, hr]; rfl, words, by rw [hc.step, hr]; rfl, ?_⟩, ?_⟩
    · rw [full]
      exact .refl _ k _
    · rw [full, hc.still words _ hr]
      exact tracks

theorem verb_step (h : k.Tracks m) {v : Verb} (hv : v.IsModal) (force noFlush : Bool) :
    (Call.verb v force noFlush).Does k m ∧
      (k.readAll v.full).Tracks ((Call.verb v force noFlush).machineAfter m) := by
  cases hr : v.refusal with
  | error e =>
      have hw := (words_refused hr force m).1
      have hfull := full_refused hr
      refine ⟨.inl ⟨e, hr, hfull, fun s => ?_⟩, ?_⟩
      · simp only [Call.fileStep, Call.emission, hw]
        rfl
      · rw [hfull, Call.machineAfter, hw]
        exact h
  | ok u =>
      obtain ⟨texts, m', hw, hshort, htracks⟩ := words_step hv hr force h
      refine ⟨.inr ⟨hr, texts, ?_, hshort⟩, ?_⟩
      · rw [Call.endsLine, Bool.not_not]
        simp only [Call.fileStep, Call.emission, hw]
        rfl
      · rw [Call.machineAfter, hw]
        exact htracks

/-- **A modal call** is refused, or it emits words that shorten its words in full.  Either way the
control that has read those in full tracks the machine after the call. -/
theorem modal_step (h : k.Tracks m) (hc : call.IsModal) :
    call.Does k m ∧ (k.readAll call.full).Tracks (call.machineAfter m) := by
  rcases hc.verb_or_silent with ⟨v, force, noFlush, rfl, hv⟩ | hs
  · exact verb_step h hv force noFlush
  · exact silent_step h hs

/-! ### Runs -/

namespace Writer

/-- The words that a control hears in the main file. -/
def heard (w : Writer) : List String := w.files.main.words.flatMap Control.parts

/-- The control that has read the main file. -/
def control (w : Writer) : Control := Control.blank.readAll w.heard

end Writer

/-- The writer has made the calls in the main file, and the words that it has written shorten their
words in full. -/
structure Follows (calls : List Call) (w : Writer) : Prop where
  opened : w.files.opened = none
  heard : Shortens (∀ call ∈ calls, call.IsForced) .blank w.heard (calls.flatMap Call.full)
  tracks : (Control.blank.readAll (calls.flatMap Call.full)).Tracks w.machine

theorem follows_start (c : Config) : Follows [] (.start c) :=
  ⟨rfl, .refl _ _ _, Control.tracks_fresh _⟩

theorem flatMap_full_append (calls : List Call) (call : Call) :
    (calls ++ [call]).flatMap Call.full = calls.flatMap Call.full ++ call.full := by
  rw [List.flatMap_append, List.flatMap_singleton]

/-- **One more call** is followed, whether it succeeds or not. -/
theorem follows_step {calls : List Call} {w : Writer} (h : Follows calls w) {call : Call}
    (hc : call.IsModal) : Follows (calls ++ [call]) (w.after call) := by
  obtain ⟨does, tracks⟩ := modal_step h.tracks hc
  have forced : (∀ d ∈ calls ++ [call], d.IsForced) → ∀ d ∈ calls, d.IsForced :=
    fun hall d hd => hall d (List.mem_append_left _ hd)
  have tracks' : (Control.blank.readAll ((calls ++ [call]).flatMap Call.full)).Tracks
      (w.after call).machine := by
    rw [flatMap_full_append, Control.readAll_append, Writer.machine_after]
    exact tracks
  rcases does with ⟨e, -, hnil, hstep⟩ | ⟨-, words, hstep, hshort⟩
  · have files : (w.after call).files = w.files := by rw [Writer.files_after, hstep]
    refine ⟨files ▸ h.opened, ?_, tracks'⟩
    rw [flatMap_full_append, hnil, List.append_nil, Writer.heard, files]
    exact h.heard.weaken forced
  · obtain ⟨opened, written⟩ := FileSet.main_emit h.opened words (!call.endsLine)
    rw [← hstep, ← Writer.files_after] at opened written
    refine ⟨opened, ?_, tracks'⟩
    have more : (w.after call).heard = w.heard ++ Control.heard words := by
      rw [Writer.heard, written, List.flatMap_append]
      rfl
    rw [more, flatMap_full_append]
    refine (h.heard.weaken forced).append (hshort.weaken fun hall => ?_)
    exact hall call (List.mem_append_right _ (List.mem_singleton_self call))

/-- **A run** of modal calls is followed. -/
theorem follows_runAll {made : List Call} {w : Writer} (h : Follows made w) {calls : List Call}
    (hc : ∀ call ∈ calls, call.IsModal) : Follows (made ++ calls) (w.runAll calls) := by
  induction calls generalizing made w with
  | nil => rwa [List.append_nil]
  | cons call calls ih =>
      have one := follows_step h (hc call (List.mem_cons_self ..))
      have rest := ih one fun d hd => hc d (List.mem_cons_of_mem _ hd)
      rwa [List.append_assoc] at rest

theorem Follows.control {calls : List Call} {w : Writer} (h : Follows calls w) :
    w.control = Control.blank.readAll (calls.flatMap Call.full) := h.heard.control

/-- The main file is tidy, and has at most `count` lines. -/
structure Counts (c : Config) (count : Nat) (w : Writer) : Prop where
  numbering : w.files.numbering = c.numbering
  tidy : w.files.main.IsTidy c.numbering
  lines : w.files.main.lines.size ≤ count

theorem counts_start (c : Config) : Counts c 0 (.start c) :=
  ⟨rfl, (ProgramFile.isTidy_invariant c.numbering).empty _, Nat.le_refl _⟩

theorem Counts.mono {c : Config} {i j : Nat} {w : Writer} (h : Counts c i w) (hij : i ≤ j) :
    Counts c j w := ⟨h.numbering, h.tidy, Nat.le_trans h.lines hij⟩

/-- The most lines that a call ends in the main file. -/
def Call.lineCount (call : Call) : Nat := if call.endsLine then 1 else 0

theorem Call.lineCount_le (call : Call) : call.lineCount ≤ 1 := by
  rw [lineCount]
  split <;> decide

/-- What emitting words does to the main file, as long as the number of its line can be written. -/
theorem emit_counts {c : Config} {count : Nat} {s : FileSet} (ho : s.opened = none)
    (hn : s.numbering = c.numbering) (ht : s.main.IsTidy c.numbering)
    (hl : s.main.lines.size ≤ count) (words : List String) {noFlush : Bool} {more : Nat}
    (hmore : noFlush = false → more = 1) (hp : c.numbering.Prints (count + more)) :
    FileSet.emit words noFlush s =
        (.ok (), { s with main := s.main.emitted c.numbering words noFlush }) ∧
      (s.main.emitted c.numbering words noFlush).IsTidy c.numbering ∧
      (s.main.emitted c.numbering words noFlush).lines.size ≤ count + more := by
  have prints : noFlush = false → c.numbering.Prints (s.main.lines.size + 1) := by
    intro hf
    refine hp.mono ?_
    rw [hmore hf]
    exact Nat.succ_le_succ hl
  refine ⟨FileSet.emit_main ho hn ht words prints, ProgramFile.isTidy_emitted ht prints, ?_⟩
  refine Nat.le_trans ProgramFile.size_emitted (Nat.add_le_add hl ?_)
  cases noFlush with
  | true => exact Nat.zero_le _
  | false => exact Nat.le_of_eq (hmore rfl).symm

/-- What a call that emits words does while no subprogram is open. -/
theorem emits_step {c : Config} {count : Nat} {w : Writer} {call : Call} (h : Counts c count w)
    (ho : w.files.opened = none) {words : List String} {noFlush : Bool}
    (hs : call.fileStep w.machine = FileSet.emit words noFlush) {more : Nat}
    (hm : noFlush = false → more = 1) (hp : c.numbering.Prints (count + more)) :
    w.outcome call = .ok () ∧ Counts c (count + more) (w.after call) ∧
      (w.after call).files =
        { w.files with main := w.files.main.emitted c.numbering words noFlush } := by
  obtain ⟨emitted, tidy, lines⟩ := emit_counts ho h.numbering h.tidy h.lines words hm hp
  rw [← hs] at emitted
  have files : (w.after call).files =
      { w.files with main := w.files.main.emitted c.numbering words noFlush } := by
    rw [Writer.files_after, emitted]
  exact ⟨by rw [Writer.outcome_eq, emitted], ⟨files ▸ h.numbering, files ▸ tidy, files ▸ lines⟩,
    files⟩

/-- **A modal call that is not refused** succeeds as long as the number of its line can be written,
and emits words that shorten its words in full. -/
theorem emission_step {c : Config} {count : Nat} {calls : List Call} {w : Writer}
    (h : Counts c count w) (hw : Follows calls w) {call : Call} (hc : call.IsModal)
    (hr : call.refusal = .ok ()) (hp : c.numbering.Prints (count + call.lineCount)) :
    w.outcome call = .ok () ∧ Counts c (count + call.lineCount) (w.after call) ∧
      ∃ words, (w.after call).files.main =
          w.files.main.emitted c.numbering words (!call.endsLine) ∧
        Shortens call.IsForced (Control.blank.readAll (calls.flatMap Call.full))
          (Control.heard words) call.full := by
  obtain ⟨⟨e, he, -⟩ | ⟨-, words, hstep, hshort⟩, -⟩ := modal_step hw.tracks hc
  · rw [hr] at he
    cases he
  · have more : (!call.endsLine) = false → call.lineCount = 1 := by
      intro ends
      rw [Call.lineCount, if_pos (by simpa using ends)]
    obtain ⟨outcome, counts, files⟩ := emits_step h hw.opened hstep more hp
    exact ⟨outcome, counts, words, congrArg FileSet.main files, hshort⟩

/-- A modal call fails as it is refused, as long as the number of its line can be written. -/
theorem counts_step {c : Config} {count : Nat} {calls : List Call} {w : Writer}
    (h : Counts c count w) (hw : Follows calls w) {call : Call} (hc : call.IsModal)
    (hp : c.numbering.Prints (count + call.lineCount)) :
    w.outcome call = call.refusal ∧ Counts c (count + call.lineCount) (w.after call) := by
  obtain ⟨⟨e, hr, -, hstep⟩ | ⟨hr, -⟩, -⟩ := modal_step hw.tracks hc
  · have files : (w.after call).files = w.files := by rw [Writer.files_after, hstep]
    refine ⟨by rw [Writer.outcome_eq, hstep, hr], ?_⟩
    exact Counts.mono ⟨files ▸ h.numbering, files ▸ h.tidy, files ▸ h.lines⟩ (Nat.le_add_right ..)
  · obtain ⟨outcome, counts, -⟩ := emission_step h hw hc hr hp
    exact ⟨outcome.trans hr.symm, counts⟩

/-- Two writers that have made calls with the same words in full, one of them forced throughout,
read the same. -/
theorem follows_agree {calls forced : List Call} {w f : Writer}
    (h : Follows calls w) (hf : Follows forced f)
    (hfull : forced.flatMap Call.full = calls.flatMap Call.full)
    (hforced : ∀ call ∈ forced, call.IsForced) :
    w.control = f.control ∧ w.heard.Sublist f.heard := by
  have all : f.heard = calls.flatMap Call.full := (hf.heard.full hforced).trans hfull
  refine ⟨?_, all ▸ h.heard.sublist⟩
  rw [h.control, hf.control, hfull]

/-- **Suppression preserves the modal program.**  A run of modal calls, with any of them forced, is
compared with the run in which all verbs are forced.  As long as the numbers of the lines can be
written, after every call the two have failed alike, a control that reads the one program is in the
state of a control that reads the other, and the words of the one are some of the words of the
other, in the same order. -/
theorem suppression (c : Config) (calls : List Call) (hc : ∀ call ∈ calls, call.IsModal)
    (hp : c.numbering.Prints calls.length) :
    List.Forall₂ (fun given forced => given.1 = forced.1 ∧ given.2.control = forced.2.control ∧
        given.2.heard.Sublist forced.2.heard)
      ((Writer.start c).trail calls) ((Writer.start c).trail (calls.map Call.forced)) := by
  -- by induction on the calls to come; `made` are those that both runs have made
  have run : ∀ (rest made : List Call) (w f : Writer), made ++ rest = calls →
      Follows made w → Counts c made.length w →
      Follows (made.map Call.forced) f → Counts c made.length f →
      List.Forall₂ (fun given forced => given.1 = forced.1 ∧
          given.2.control = forced.2.control ∧ given.2.heard.Sublist forced.2.heard)
        (w.trail rest) (f.trail (rest.map Call.forced)) := by
    intro rest
    induction rest with
    | nil => exact fun made w f _ _ _ _ _ => .nil
    | cons call rest ih =>
        intro made w f e hw cw hf cf
        have modal : call.IsModal := hc call (e ▸ List.mem_append_right _ (List.mem_cons_self ..))
        have count : (made ++ [call]).length = made.length + 1 := List.length_append
        have prints : c.numbering.Prints (made.length + 1) := by
          refine hp.mono ?_
          rw [← e, List.length_append]
          exact Nat.add_le_add_left (Nat.succ_le_of_lt (Nat.succ_pos _)) _
        have fits : ∀ d : Call, made.length + d.lineCount ≤ made.length + 1 :=
          fun d => Nat.add_le_add_left d.lineCount_le _
        obtain ⟨given, cw'⟩ := counts_step cw hw modal (prints.mono (fits call))
        obtain ⟨forced, cf'⟩ := counts_step cf hf (Call.isModal_forced modal)
          (prints.mono (fits call.forced))
        have hw' := follows_step hw modal
        have hf' := follows_step hf (Call.isModal_forced modal)
        have mapped : made.map Call.forced ++ [call.forced] = (made ++ [call]).map Call.forced := by
          rw [List.map_append]
          rfl
        rw [mapped] at hf'
        refine .cons ⟨?_, ?_⟩ (ih (made ++ [call]) _ _ (by simpa using e) hw'
          (count ▸ cw'.mono (fits call)) hf' (count ▸ cf'.mono (fits call.forced)))
        · rw [given, forced, Call.refusal_forced]
        · refine follows_agree hw' hf' ?_ fun d hd => ?_
          · rw [List.flatMap_map]
            exact congrArg (fun g => List.flatMap g _) (funext Call.full_forced)
          · obtain ⟨d', -, rfl⟩ := List.mem_map.mp hd
            exact Call.isForced_forced d'
  exact run calls [] _ _ rfl (follows_start c) (counts_start c) (follows_start c) (counts_start c)

/-! ### Where the numbers end -/

/-- Lines are numbered from `n` in steps of ten. -/
def Config.numberedFrom (n : Int) : Config := { numbering := { start := n } }

/-- The feed is set to 100. -/
def Call.feedHundred (force : Bool) : Call := .verb (.set (.feed (.int 100))) force false

theorem feed_admits_hundred : Channel.feed.Admits (.int 100) := (by decide : IsPrintable 100)

theorem Call.isModal_feedHundred (force : Bool) : (Call.feedHundred force).IsModal := by
  intro s hs
  obtain rfl := List.mem_singleton.mp hs
  exact .inr feed_admits_hundred

theorem write_feedHundred (force : Bool) (m : Machine) :
    Machine.write .feed (.int 100) force m =
      if !force && Register.agrees (m.get .feed) (.int 100) then (.ok "", m)
      else (.ok "F100", m.set .feed (.int 100)) := by
  have spelled : Channel.feed.word (.int 100) = "F100" := by decide
  rw [← spelled]
  exact Machine.write_admitted feed_admits_hundred force m

/-- Forced, or on a machine without a feed, the word is written. -/
theorem feedHundred_written (force : Bool) {m : Machine}
    (h : force = true ∨ m.get .feed = .null) :
    (Call.feedHundred force).fileStep m = FileSet.emit ["F100"] false ∧
      ((Call.feedHundred force).machineAfter m).get .feed = .int 100 := by
  have written : Machine.apply force (.feed (.int 100)) m =
      (.ok "F100", m.set .feed (.int 100)) := by
    refine (write_feedHundred force m).trans (if_neg ?_)
    rcases h with rfl | h
    · simp
    · rw [h]
      simp [Register.agrees, Value.same_int, Value.sameAtom, Value.int?, Value.text?]
  simp only [Call.feedHundred, Call.fileStep, Call.emission, Call.machineAfter, words_set written]
  exact ⟨rfl, by rw [Machine.get_set, if_pos rfl]⟩

theorem feedHundred_suppressed {m : Machine} (h : m.get .feed = .int 100) :
    (Call.feedHundred false).fileStep m = FileSet.emit [""] false := by
  have written : Machine.apply false (.feed (.int 100)) m = (.ok "", m) := by
    refine (write_feedHundred false m).trans (if_pos ?_)
    rw [h]
    simp [Register.agrees, Value.same_int, Value.sameAtom, Value.int?]
  simp only [Call.feedHundred, Call.fileStep, Call.emission, words_set written]
  rfl

/-- The files after one line with the word `F100`. -/
def FileSet.fedOnce (n : Int) : FileSet :=
  { FileSet.start (.numberedFrom n) with
    main := ⟨.text "main", #[⟨some n, ["F100"]⟩], [], n + 10⟩ }

theorem taken_feedHundred : taken ["F100"] = ["F100"] := by decide

theorem run_feedHundred {n : Int} (hn : IsPrintable n) (force : Bool) :
    (Writer.start (.numberedFrom n)).run (Writer.perform (.feedHundred force)) =
      (.ok (), ⟨(Call.feedHundred force).machineAfter .fresh, .fedOnce n⟩) := by
  have prints : (Config.numberedFrom n).numbering.Prints 1 := by
    intro _ k hk
    obtain rfl : k = 0 := by omega
    simpa [Config.numberedFrom] using hn
  have line : (FileSet.start (.numberedFrom n)).main.emitted (Config.numberedFrom n).numbering
      ["F100"] false = (FileSet.fedOnce n).main := by
    rw [ProgramFile.emitted, ProgramFile.putAll_eq, taken_feedHundred]
    rfl
  have emitted := FileSet.emit_main (s := FileSet.start (.numberedFrom n))
    (n := (Config.numberedFrom n).numbering) rfl rfl
    ((ProgramFile.isTidy_invariant _).empty _) ["F100"] (fun _ : false = false => prints)
  rw [line] at emitted
  have step := (feedHundred_written force (.inr (Machine.get_fresh .feed))).1
  rw [Writer.run, Writer.perform_eq, Writer.start, step, emitted]
  rfl

/-- Once the numbers can no longer be written, the forced run fails where the other one has no word
to write. -/
theorem outcomes_feedHundred {n : Int} (hn : IsPrintable n) (hn' : ¬ IsPrintable (n + 10)) :
    ((Writer.start (.numberedFrom n)).trail [.feedHundred false, .feedHundred false]).map Prod.fst
      = [.ok (), .ok ()] ∧
    ((Writer.start (.numberedFrom n)).trail [.feedHundred true, .feedHundred true]).map Prod.fst
      = [.ok (), .error .tooManyDigits] := by
  have second : ∀ force, ((Writer.start (.numberedFrom n)).trail
      [.feedHundred force, .feedHundred force]).map Prod.fst = [.ok (),
        ((Call.feedHundred force).fileStep ((Call.feedHundred force).machineAfter .fresh)
          (.fedOnce n)).1] := by
    intro force
    rw [Writer.trail, Writer.trail, Writer.trail, Writer.outcome, Writer.after,
      run_feedHundred hn, List.map_cons, List.map_cons, Writer.outcome_eq]
    rfl
  have holds := (feedHundred_written false (.inr (Machine.get_fresh .feed))).2
  refine ⟨?_, ?_⟩
  · rw [second, feedHundred_suppressed holds]
    rfl
  · have step := (feedHundred_written true
      (m := (Call.feedHundred true).machineAfter .fresh) (.inl rfl)).1
    have pending : (FileSet.fedOnce n).current.pending ++ taken ["F100"] ≠ [] := by
      rw [taken_feedHundred]
      exact List.cons_ne_nil _ _
    have fails := FileSet.emit_error (n := (Config.numberedFrom n).numbering) rfl pending
      fun can => hn' (can rfl)
    rw [second, step, fails]

/-- The last multiple of ten that can be written. -/
def lastNumber : Int := 10 ^ digitLimit - 10

theorem isPrintable_lastNumber : IsPrintable lastNumber ∧ ¬ IsPrintable (lastNumber + 10) := by
  have key : ∀ digits : Nat, 1 < digits →
      ((10 : Int) ^ digits - 10).natAbs < 10 ^ digits ∧
        ¬ ((10 : Int) ^ digits - 10 + 10).natAbs < 10 ^ digits := by
    intro digits h
    have cast : (10 : Int) ^ digits = ((10 ^ digits : Nat) : Int) := by simp
    have large : 10 ^ 2 ≤ 10 ^ digits := Nat.pow_le_pow_right (by decide) h
    rw [cast]
    generalize 10 ^ digits = limit at large
    omega
  rw [isPrintable_iff, isPrintable_iff, lastNumber]
  exact key digitLimit (by decide)

/-- A feed that is set, forgotten and set again. -/
theorem suppression_feedHundred :
    (∀ call ∈ [Call.feedHundred false, .resetMachine, .feedHundred false], call.IsModal) ∧
      Numbering.Prints {} 3 ∧
      List.Forall₂ (fun given forced => given.1 = forced.1 ∧
          given.2.control = forced.2.control ∧ given.2.heard.Sublist forced.2.heard)
        ((Writer.start {}).trail [.feedHundred false, .resetMachine, .feedHundred false])
        ((Writer.start {}).trail
          ([.feedHundred false, .resetMachine, .feedHundred false].map Call.forced)) := by
  have modal : ∀ call ∈ [Call.feedHundred false, .resetMachine, .feedHundred false],
      call.IsModal := by
    intro call hc
    simp only [List.mem_cons, List.not_mem_nil, or_false] at hc
    rcases hc with rfl | rfl | rfl
    · exact Call.isModal_feedHundred false
    · trivial
    · exact Call.isModal_feedHundred false
  have prints : Numbering.Prints {} 3 := by
    intro _ k hk
    have small : ∀ k < 3, IsPrintable (10 + (k : Nat) * 10) := by decide
    exact small k hk
  exact ⟨modal, prints, suppression {} _ modal prints⟩

/-- **The numbers must last**: where they end, the forced run fails and the other one does not. -/
theorem suppression_at_lastNumber :
    (∀ call ∈ [Call.feedHundred false, .feedHundred false], call.IsModal) ∧
      ((Writer.start (.numberedFrom lastNumber)).trail
          [.feedHundred false, .feedHundred false]).map Prod.fst ≠
        ((Writer.start (.numberedFrom lastNumber)).trail
          ([.feedHundred false, .feedHundred false].map Call.forced)).map Prod.fst := by
  obtain ⟨given, forced⟩ :=
    outcomes_feedHundred isPrintable_lastNumber.1 isPrintable_lastNumber.2
  refine ⟨fun call hc => ?_, fun e => ?_⟩
  · obtain rfl | rfl : call = .feedHundred false ∨ call = .feedHundred false := by simpa using hc
    all_goals exact Call.isModal_feedHundred false
  · rw [given] at e
    exact absurd (e.trans forced) (by decide)

end Postprocessor
