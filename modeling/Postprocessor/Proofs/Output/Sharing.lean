import Postprocessor.Proofs.Output.Grouping

/-!
# Proofs — one machine for all files

All files share one machine, which leaves a word out of one file where it has written it to another.
This is sound if every subprogram is called once, right after it was closed: a control that executes
the main file, and enters each subprogram where it is called, hears the words of all files in the
order in which they were emitted.

* `Call.emitted`, `Writer.chronicle`: the words that a call emits; those of a run, in the order in
  which they are emitted, without end words and without the calls of subprograms just closed.
* `Writer.CallsBack`: every subprogram that is closed is called by the next call.
* `Part`, `Writer.parts`: the words of the main file, where the call of a subprogram is told from a
  word that was written there; `Part.spelled` is the word and `Part.executed` what a control hears.
* `Writer.turn_cases`: a call leaves output where it is, opens a subprogram, or closes one.
* `FileSet.IsBlocked`: a subprogram whose line cannot be ended; it stays open.
* `Writer.unread`: the words that were emitted, but that the main file does not reach yet;
  `unread_after` says how a call changes them, and `unread_chronicle` what a run makes of them.
* `FileSet.entered`: what a control hears that knows the subprograms by their names.
* `tracks_chronicle`: a control that hears the chronicle tracks the machine.
* `IsShared`, `isShared_runAll`: what holds of the main file after such a run.
-/

namespace Postprocessor

/-! ### What is emitted -/

/-- The words that a call emits, without the blanks around them.  The end word of a subprogram is
not among them. -/
def Call.emitted (w : Writer) (call : Call) : List String :=
  match call.emission w.machine with
  | .ok (words, _) => taken words
  | .error _ => []

namespace FileSet

/-- The name of the file at a place. -/
def nameAt (s : FileSet) (k : Nat) : Option String := s.files[k]?.bind fun f => f.name.text?

/-- The word that calls the file at a place. -/
def callAt (s : FileSet) (k : Nat) : String := ((s.nameAt k).getD "").trimmed

/-- The words of the file at a place without its end word. -/
def bodyAt (s : FileSet) (k : Nat) : List String :=
  (s.wordsAt k).take ((s.wordsAt k).length - (taken [s.endWord]).length)

/-- The file at a place is a subprogram that is closed. -/
def IsClosedAt (s : FileSet) (k : Nat) : Prop := 0 < k ∧ k ≤ s.closed.length

end FileSet

namespace Writer

/-- The place of the subprogram that a call closes, if it closes one. -/
def closes (w : Writer) : Call → Option Nat
  | .closeSub =>
    match w.outcome .closeSub with
    | .ok _ => some w.files.place
    | .error _ => none
  | _ => none

/-- What a call adds to the chronicle: the words that it emits, but not the call of a subprogram
that was `closed` by the call before. -/
def tells (w : Writer) (call : Call) : (closed : Option Nat) → List String
  | some _ => []
  | none => call.emitted w

/-- The words that calls emit, in the order in which they are emitted. -/
def chronicle (w : Writer) (closed : Option Nat) : List Call → List String
  | [] => []
  | call :: calls => w.tells call closed ++ chronicle (w.after call) (w.closes call) calls

/-- The call is that of the file at a place, by its name, which is not blank. -/
def Enters (w : Writer) (k : Nat) : Call → Prop
  | .callSub name _ => ∃ t, name.text? = some t ∧ t.trimmed ≠ "" ∧ w.files.nameAt k = some t
  | _ => False

/-- Every subprogram that is closed is called by the next call; `closed` is the place of the one
that the call before has closed. -/
def CallsBack (w : Writer) (closed : Option Nat) : List Call → Prop
  | [] => closed = none
  | call :: calls =>
    (∀ k ∈ closed, w.Enters k call) ∧ CallsBack (w.after call) (w.closes call) calls

end Writer

/-! ### What is executed -/

/-- A word of the main file. -/
inductive Part where
  | word (text : String)
  /-- The call of the subprogram at a place. -/
  | call (place : Nat)
  deriving DecidableEq

namespace Part

/-- The word as it stands in the main file. -/
def spelled (s : FileSet) : Part → String
  | .word text => text
  | .call k => s.callAt k

/-- The words that a control hears there: those of the subprogram where it is called. -/
def executed (s : FileSet) : Part → List String
  | .word text => [text]
  | .call k => s.bodyAt k

end Part

namespace Writer

/-- The parts that a call adds to the main file.  Where a subprogram was `closed` by the call
before, the call is that of the subprogram. -/
def adds (w : Writer) (call : Call) : (closed : Option Nat) → List Part
  | some k => [.call k]
  | none => if w.files.place = 0 then (call.emitted w).map .word else []

/-- The parts that calls add to the main file. -/
def parts (w : Writer) (closed : Option Nat) : List Call → List Part
  | [] => []
  | call :: calls => w.adds call closed ++ parts (w.after call) (w.closes call) calls

end Writer

/-! ### Turns -/

namespace Writer

/-- **Where output goes** after a call: to the same file, to a subprogram that is opened, or back to
the main file when a subprogram is closed. -/
theorem turn_cases (w : Writer) (call : Call) :
    (w.closes call = none ∧ (w.after call).files.place = w.files.place) ∨
    (w.closes call = none ∧ (∃ name, call = .openSub name) ∧ w.files.place = 0 ∧
      (w.after call).files.place ≠ 0 ∧
      (w.after call).files.wordsAt (w.after call).files.place = []) ∨
    (call = .closeSub ∧ w.closes call = some w.files.place ∧
      ∃ f g, w.files.opened = some f ∧ f.finish w.files.numbering w.files.endWord = .ok g ∧
        (w.after call).files =
          { w.files with closed := w.files.closed ++ [g], opened := none }) := by
  have becomes := w.becomes_after call
  generalize outcome : w.outcome call = r at becomes
  generalize (w.after call).files = s at becomes
  cases becomes with
  | written f name other opens closes =>
      refine .inl ⟨?_, FileSet.place_setCurrent w.files f⟩
      cases call with
      | closeSub =>
          cases r with
          | ok _ => exact absurd rfl (closes rfl)
          | error e => rw [Writer.closes, outcome]
      | _ => rfl
  | ended lines => exact .inl ⟨rfl, lines.took.place⟩
  | @opened name main fresh =>
      refine .inr (.inl ⟨rfl, ⟨name, rfl⟩, FileSet.place_eq_zero.mpr main, Nat.succ_ne_zero _, ?_⟩)
      rw [FileSet.wordsAt_place]
      rfl
  | closed current finish =>
      refine .inr (.inr ⟨rfl, ?_, _, _, current, finish, rfl⟩)
      rw [Writer.closes, outcome]

end Writer

/-! ### Subprograms that stay open -/

namespace FileSet

/-- A subprogram whose line cannot be ended. -/
def IsBlocked (s : FileSet) : Prop := s.place ≠ 0 ∧ s.current.IsStuck s.numbering

theorem isBlocked_of_isStuck {s : FileSet} {words : List String} (h : s.IsStuck words)
    (hs : s.place ≠ 0) : (words.foldl put s).IsBlocked := by
  rw [putAll_eq]
  refine ⟨?_, ?_⟩
  · rwa [place_setCurrent]
  · rw [current_setCurrent, numbering_setCurrent, ProgramFile.putAll_eq]
    exact ⟨h.words, h.number⟩

/-- Closing a subprogram fails where none is open, or it leaves the subprogram blocked. -/
theorem isBlocked_of_closeSub {s : FileSet} {e : Failure} (h : (closeSub s).1 = .error e) :
    s.closing = [] ∨ (closeSub s).2.IsBlocked := by
  cases ho : s.opened with
  | none => exact .inl (by rw [closing, ho])
  | some f =>
      have sub : s.place ≠ 0 := by simp [place_eq_zero, ho]
      obtain ⟨s', closed⟩ : ∃ s', closeSub s = (.error e, s') := ⟨_, eq_mk_of_fst h⟩
      rw [closed]
      refine .inr ?_
      rcases (closeSub_eq_error_iff (by simp [ho])).mp closed with
        ⟨stuck, -, rfl⟩ | ⟨t, flushed, stuck, -, rfl⟩
      · exact isBlocked_of_isStuck stuck sub
      · refine isBlocked_of_isStuck stuck ?_
        have place := (took_flush s).place
        rw [flushed] at place
        rwa [place]

end FileSet

namespace Writer

/-- A subprogram that is blocked stays open. -/
theorem isBlocked_after {w : Writer} (h : w.files.IsBlocked) (call : Call) :
    (w.after call).files.IsBlocked := by
  obtain ⟨sub, stuck⟩ := h
  rcases w.turn_cases call with ⟨-, place⟩ | ⟨-, -, main, -⟩ | ⟨-, -, f, g, opened, finish, -⟩
  · -- the file has grown, and output still goes to it
    obtain ⟨g, hg, grows⟩ := (w.grows_after call).files _ _ w.files.files_place
    rw [← place, FileSet.files_place] at hg
    obtain rfl := Option.some.inj hg
    refine ⟨place ▸ sub, ?_⟩
    rw [(w.grows_after call).numbering]
    exact grows.isStuck stuck
  · exact absurd main sub
  · rw [FileSet.current_of_opened opened] at stuck
    obtain ⟨f', flushed, -⟩ := ProgramFile.finish_eq_ok finish
    rw [stuck.flush] at flushed
    cases flushed

theorem isBlocked_runAll {w : Writer} (h : w.files.IsBlocked) (calls : List Call) :
    (w.runAll calls).files.IsBlocked := by
  induction calls generalizing w with
  | nil => exact h
  | cons call calls ih => exact ih (isBlocked_after h call)

/-! ### What is not read yet -/

/-- The words that were emitted, but that stand in a subprogram that the main file does not call
yet. -/
def unread (w : Writer) : Option Nat → List String
  | some k => w.files.bodyAt k
  | none => if w.files.place = 0 then [] else w.files.wordsAt w.files.place

/-- A call hands over what it emits, and closing a subprogram the end word. -/
theorem handed_eq_emitted {w : Writer} {call : Call}
    (h : call = .closeSub → w.files.closing = []) : taken (call.handed w) = call.emitted w := by
  by_cases e : call = .closeSub
  · rw [e, Call.handed, h e]
    rfl
  · rw [Call.handed, Call.emitted]
    · cases call.emission w.machine <;> rfl
    · exact e

/-- Where closing a subprogram fails, no end word is handed over, or the subprogram is blocked. -/
theorem closing_of_closes {w : Writer} {call : Call} (hc : w.closes call = none)
    (hb : ¬ (w.after call).files.IsBlocked) : call = .closeSub → w.files.closing = [] := by
  rintro rfl
  cases h : w.outcome .closeSub with
  | ok _ =>
      rw [closes, h] at hc
      cases hc
  | error e =>
      rw [outcome_eq, Call.fileStep] at h
      rw [files_after, Call.fileStep] at hb
      exact (FileSet.isBlocked_of_closeSub h).resolve_right hb

/-- The main file takes what is emitted while it is written. -/
theorem words_main_after (w : Writer) (call : Call) :
    (w.after call).files.main.words =
      w.files.main.words ++ if w.files.place = 0 then call.emitted w else [] := by
  have words := w.wordsAt_after call 0
  by_cases main : w.files.place = 0
  · have closing : call = .closeSub → w.files.closing = [] := fun _ => by
      rw [FileSet.closing, FileSet.place_eq_zero.mp main]
    rw [if_pos main.symm, handed_eq_emitted closing] at words
    rw [if_pos main]
    exact words
  · rw [if_neg (Ne.symm main)] at words
    rw [if_neg main]
    exact words

/-- The file that a call closes holds the words that it held, and the end word. -/
theorem bodyAt_closed {s : FileSet} {f g : ProgramFile} (ho : s.opened = some f)
    (finish : f.finish s.numbering s.endWord = .ok g) :
    ({ s with closed := s.closed ++ [g], opened := none } : FileSet).bodyAt s.place =
      s.wordsAt s.place := by
  have there : ({ s with closed := s.closed ++ [g], opened := none } : FileSet).wordsAt s.place =
      f.words ++ taken [s.endWord] := by
    rw [← ProgramFile.words_finish finish, FileSet.wordsAt, FileSet.place, ho]
    simp [FileSet.files]
  rw [FileSet.bodyAt, there, FileSet.wordsAt_place, FileSet.current_of_opened ho]
  simp

/-! ### Runs -/

variable {e : String} {w : Writer} {closed : Option Nat} {k : Nat} {call : Call} {calls : List Call}

/-- The closed subprograms are finished, and while the call of one is due, output goes to the main
file. -/
structure IsDue (e : String) (w : Writer) (closed : Option Nat) : Prop where
  finished : w.files.AreFinished e
  main : ∀ k ∈ closed, w.files.place = 0 ∧ w.files.IsClosedAt k

theorem IsDue.after (h : w.IsDue e closed) (call : Call) :
    (w.after call).IsDue e (w.closes call) := by
  refine ⟨((w.becomes_after call).areFinished h.finished).1, fun k hk => ?_⟩
  rcases w.turn_cases call with ⟨hc, -⟩ | ⟨hc, -⟩ | ⟨-, hc, f, g, opened, -, after⟩ <;>
    rw [hc] at hk <;> cases hk
  rw [after]
  refine ⟨rfl, ?_⟩
  simp [FileSet.IsClosedAt, FileSet.place, opened]

/-- A closed subprogram is the same after any calls. -/
theorem IsDue.files (h : w.IsDue e closed) (hk : w.files.IsClosedAt k) (calls : List Call) :
    (w.runAll calls).files.files[k]? = w.files.files[k]? := by
  obtain ⟨later, e⟩ := (areFinished_runAll h.finished calls).2
  obtain ⟨positive, inside⟩ := hk
  obtain ⟨j, rfl⟩ := Nat.exists_eq_succ_of_ne_zero (Nat.ne_of_gt positive)
  rw [FileSet.files, FileSet.files, ← e]
  simp [List.getElem?_append_left inside]

theorem IsDue.bodyAt (h : w.IsDue e closed) (hk : w.files.IsClosedAt k) (calls : List Call) :
    (w.runAll calls).files.bodyAt k = w.files.bodyAt k := by
  have endWord := (areFinished_runAll h.finished calls).1.endWord.trans h.finished.endWord.symm
  rw [FileSet.bodyAt, FileSet.bodyAt, FileSet.wordsAt, FileSet.wordsAt, h.files hk, endWord]

theorem IsDue.callAt (h : w.IsDue e closed) (hk : w.files.IsClosedAt k) (calls : List Call) :
    (w.runAll calls).files.callAt k = w.files.callAt k := by
  rw [FileSet.callAt, FileSet.callAt, FileSet.nameAt, FileSet.nameAt, h.files hk]

/-- The call of a subprogram emits its name, and leaves output where it is. -/
theorem Enters.emitted (h : w.Enters k call) :
    call.emitted w = [w.files.callAt k] ∧ w.closes call = none ∧
      (w.after call).files.place = w.files.place := by
  cases call with
  | callSub name noFlush =>
      obtain ⟨t, ht, word, named⟩ := h
      refine ⟨?_, rfl, ?_⟩
      · simp [Call.emitted, Call.emission, wordOf_of_text? ht, Except.map, taken, word,
          FileSet.callAt, named]
      · rcases w.turn_cases (.callSub name noFlush) with ⟨-, place⟩ | ⟨-, ⟨_, e⟩, -⟩ | ⟨e, -⟩
        · exact place
        · cases e
        · cases e
  | _ => exact h.elim

/-- **What a call emits** is read at once if it goes to the main file, and else joins the words that
are not read yet.  These are read where the subprogram is called. -/
theorem unread_after (hw : w.IsDue e closed) (hc : ∀ k ∈ closed, w.Enters k call)
    (hb : ¬ (w.after call).files.IsBlocked) (calls : List Call) :
    w.unread closed ++ w.tells call closed =
      (w.adds call closed).flatMap (Part.executed (w.runAll (call :: calls)).files) ++
        (w.after call).unread (w.closes call) := by
  cases closed with
  | some k =>
      obtain ⟨main, closedAt⟩ := hw.main k rfl
      obtain ⟨-, none, place⟩ := (hc k rfl).emitted
      rw [none, unread, unread, place, if_pos main, tells, adds, List.flatMap_singleton,
        Part.executed, hw.bodyAt closedAt]
  | none =>
      have added : (w.adds call none).flatMap (Part.executed (w.runAll (call :: calls)).files) =
          if w.files.place = 0 then call.emitted w else [] := by
        rw [adds]
        split
        · simp [List.flatMap_map, Part.executed]
        · rfl
      rw [added, tells]
      rcases w.turn_cases call with ⟨none, place⟩ | ⟨none, ⟨name, rfl⟩, main, sub, new⟩ |
        ⟨rfl, back, f, g, opened, finish, after⟩
      · have handed := handed_eq_emitted (closing_of_closes none hb)
        rw [none, unread, unread, place, wordsAt_after, if_pos rfl, handed]
        split <;> simp
      · rw [none, unread, unread, if_pos main, if_pos main, if_neg sub, new, List.append_nil,
          List.nil_append]
      · have sub : w.files.place ≠ 0 := by simp [FileSet.place_eq_zero, opened]
        have silent : Call.closeSub.emitted w = [] := rfl
        rw [back, unread, unread, silent, if_neg sub, if_neg sub, after,
          bodyAt_closed opened finish, List.append_nil, List.nil_append]

/-- **The chronicle of a run** is what the parts of the main file execute, once the words that were
not read before it are. -/
theorem unread_chronicle (hw : w.IsDue e closed) (hc : w.CallsBack closed calls)
    (ho : (w.runAll calls).files.opened = none) :
    w.unread closed ++ w.chronicle closed calls =
      (w.parts closed calls).flatMap (Part.executed (w.runAll calls).files) := by
  have notBlocked : ¬ (w.runAll calls).files.IsBlocked := fun blocked =>
    blocked.1 (FileSet.place_eq_zero.mpr ho)
  induction calls generalizing w closed with
  | nil =>
      obtain rfl := hc
      have main : w.files.place = 0 := FileSet.place_eq_zero.mpr ho
      rw [unread, if_pos main]
      rfl
  | cons call calls ih =>
      obtain ⟨enters, back⟩ := hc
      have open' : ¬ (w.after call).files.IsBlocked := fun blocked =>
        notBlocked (isBlocked_runAll blocked calls)
      rw [chronicle, ← List.append_assoc, unread_after hw enters open' calls, List.append_assoc,
        ih (hw.after call) back ho notBlocked, parts, List.flatMap_append, runAll_cons]

/-- The word that a call adds to the main file, as a part. -/
theorem main_after (hw : w.IsDue e closed) (hc : ∀ k ∈ closed, w.Enters k call)
    (calls : List Call) :
    (w.after call).files.main.words = w.files.main.words ++
      (w.adds call closed).map (Part.spelled (w.runAll (call :: calls)).files) := by
  rw [words_main_after]
  congr 1
  cases closed with
  | some k =>
      obtain ⟨main, closedAt⟩ := hw.main k rfl
      rw [if_pos main, (hc k rfl).emitted.1, adds, List.map_singleton, Part.spelled,
        hw.callAt closedAt]
  | none =>
      rw [adds]
      split
      · simp [List.map_map, Function.comp_def, Part.spelled]
      · rfl

/-- **The words of the main file** are its parts as they are spelled. -/
theorem words_parts (hw : w.IsDue e closed) (hc : w.CallsBack closed calls) :
    (w.runAll calls).files.main.words = w.files.main.words ++
      (w.parts closed calls).map (Part.spelled (w.runAll calls).files) := by
  induction calls generalizing w closed with
  | nil => simp [runAll, parts]
  | cons call calls ih =>
      obtain ⟨enters, back⟩ := hc
      rw [runAll_cons, ih (hw.after call) back, main_after hw enters calls, parts, List.map_append,
        List.append_assoc, runAll_cons]

/-- What is called in the main file is a subprogram that is closed. -/
theorem isClosedAt_of_mem_parts (hw : w.IsDue e closed) (hk : .call k ∈ w.parts closed calls) :
    (w.runAll calls).files.IsClosedAt k := by
  induction calls generalizing w closed with
  | nil => cases hk
  | cons call calls ih =>
      rcases List.mem_append.mp hk with now | later
      · cases closed with
        | none =>
            rw [adds] at now
            split at now <;> simp at now
        | some j =>
            obtain rfl : k = j := by simpa [adds] using now
            obtain ⟨positive, inside⟩ := (hw.main k rfl).2
            have more := (areFinished_runAll hw.finished (call :: calls)).2
            exact ⟨positive, Nat.le_trans inside more.length_le⟩
      · exact ih (hw.after call) later

end Writer

/-! ### Names and end words -/

namespace FileSet

/-- What a control hears at a word of the main file, if it knows the subprograms by their names. -/
def entered (s : FileSet) (word : String) : List String :=
  match (List.range s.closed.length).find? fun j => s.callAt (j + 1) == word with
  | some j => s.bodyAt (j + 1)
  | none => [word]

/-- The calls can be told from the words of the main file, and the subprograms from each other. -/
structure AreTold (s : FileSet) (parts : List Part) : Prop where
  words : ∀ text, .word text ∈ parts → ∀ k, s.IsClosedAt k → s.callAt k ≠ text
  names : ∀ i j, s.IsClosedAt i → s.IsClosedAt j → s.callAt i = s.callAt j → i = j

theorem AreTold.entered {s : FileSet} {parts : List Part} (h : s.AreTold parts)
    (hc : ∀ k, .call k ∈ parts → s.IsClosedAt k) :
    (parts.map (Part.spelled s)).flatMap s.entered = parts.flatMap (Part.executed s) := by
  rw [List.flatMap_map]
  refine List.flatMap_congr fun part hp => ?_
  rw [FileSet.entered]
  cases found : (List.range s.closed.length).find? fun j => s.callAt (j + 1) == part.spelled s with
  | none =>
      cases part with
      | word text => rfl
      | call k =>
          obtain ⟨positive, inside⟩ := hc k hp
          obtain ⟨j, rfl⟩ := Nat.exists_eq_add_one_of_ne_zero (Nat.ne_of_gt positive)
          have unknown := List.find?_eq_none.mp found j (List.mem_range.mpr inside)
          have known : (s.callAt (j + 1) == Part.spelled s (.call (j + 1))) = true :=
            beq_iff_eq.mpr rfl
          exact absurd known unknown
  | some j =>
      have closed : s.IsClosedAt (j + 1) :=
        ⟨Nat.succ_pos j, List.mem_range.mp (List.mem_of_find?_eq_some found)⟩
      have same := List.find?_some found
      have spelled : s.callAt (j + 1) = part.spelled s := beq_iff_eq.mp same
      cases part with
      | word text => exact absurd spelled (h.words text hp _ closed)
      | call k => rw [← h.names _ _ closed (hc k hp) spelled, Part.executed]

/-- A closed subprogram ends with the end word. -/
theorem AreFinished.wordsAt {e : String} {s : FileSet} (h : s.AreFinished e) {k : Nat}
    (hk : s.IsClosedAt k) : s.wordsAt k = s.bodyAt k ++ taken [s.endWord] := by
  obtain ⟨positive, inside⟩ := hk
  obtain ⟨j, rfl⟩ := Nat.exists_eq_add_one_of_ne_zero (Nat.ne_of_gt positive)
  have finished := h.closed _ (List.getElem_mem inside)
  have words : s.wordsAt (j + 1) = (s.closed[j]).words := by
    have there : s.files[j + 1]? = some s.closed[j] := by
      rw [files, List.cons_append, List.getElem?_cons_succ, List.getElem?_append_left inside,
        List.getElem?_eq_getElem inside]
    rw [FileSet.wordsAt, there]
    rfl
  obtain ⟨body, e⟩ := finished.words
  rw [bodyAt, words, e, h.endWord]
  simp

end FileSet

/-! ### The machine -/

namespace Writer

variable {k : Control} {w : Writer} {closed : Option Nat}

/-- A verb is given values that can be written, and no other call tells a word of a modal group. -/
def IsModalCall (w : Writer) (closed : Option Nat) : Call → Prop
  | .verb v _ _ => v.IsModal
  | call => ∀ text ∈ w.tells call closed, Control.group? text = none

/-- All modal words of a run come from the machine. -/
def IsByMachine (w : Writer) (closed : Option Nat) : List Call → Prop
  | [] => True
  | call :: calls =>
    w.IsModalCall closed call ∧ IsByMachine (w.after call) (w.closes call) calls

/-- A control that hears the words of a verb goes on tracking the machine. -/
theorem tracks_verb (h : k.Tracks w.machine) {v : Verb} (hv : v.IsModal) (force noFlush : Bool) :
    (k.readAll (((Call.verb v force noFlush).emitted w).flatMap Control.parts)).Tracks
      (w.after (.verb v force noFlush)).machine := by
  rw [machine_after]
  simp only [Call.emitted, Call.emission, Call.machineAfter]
  cases hr : v.refusal with
  | error e =>
      rw [(words_refused hr force w.machine).1]
      exact h
  | ok _ =>
      obtain ⟨texts, m', hw, shortens, tracks⟩ := words_step hv hr force h
      rw [hw]
      rw [← shortens.control] at tracks
      exact tracks

/-- A control that hears what a call tells goes on tracking the machine. -/
theorem tracks_tells {call : Call} (h : k.Tracks w.machine) (hm : w.IsModalCall closed call)
    (hc : ∀ j ∈ closed, w.Enters j call) :
    (k.readAll ((w.tells call closed).flatMap Control.parts)).Tracks (w.after call).machine := by
  cases call with
  | verb v force noFlush =>
      cases closed with
      | none => exact tracks_verb h hm force noFlush
      | some j => exact (hc j rfl).elim
  | resetMachine =>
      rw [machine_after]
      exact Control.tracks_fresh _
  | _ =>
      rw [Control.readAll_parts_of_group hm, machine_after]
      exact h

/-- **A control that hears the chronicle** tracks the machine. -/
theorem tracks_chronicle {made more : List Call} (h : k.Tracks w.machine)
    (hm : w.IsByMachine closed (made ++ more)) (hc : w.CallsBack closed (made ++ more)) :
    (k.readAll ((w.chronicle closed made).flatMap Control.parts)).Tracks
      (w.runAll made).machine := by
  induction made generalizing k w closed with
  | nil => exact h
  | cons call made ih =>
      obtain ⟨modal, later⟩ := hm
      obtain ⟨enters, back⟩ := hc
      rw [chronicle, List.flatMap_append, Control.readAll_append, runAll_cons]
      exact ih (tracks_tells h modal enters) later back

/-- The chronicle goes on as calls are made. -/
theorem isPrefix_chronicle (w : Writer) (closed : Option Nat) (made more : List Call) :
    w.chronicle closed made <+: w.chronicle closed (made ++ more) := by
  induction made generalizing w closed with
  | nil => exact List.nil_prefix
  | cons call made ih => exact (List.prefix_append_right_inj _).mpr (ih _ _)

/-! ### The main file -/

/-- What holds of the files after a run, and of the parts that it has added to the main file. -/
structure IsShared (c : Config) (calls : List Call) (s : FileSet) (parts : List Part) : Prop where
  /-- The words of the main file are the parts, with the calls of subprograms as words. -/
  spelled : s.main.words = parts.map (Part.spelled s)
  /-- A subprogram that is called is closed, and it has its end word after the words that are heard
  in it. -/
  called : ∀ k, .call k ∈ parts →
    s.IsClosedAt k ∧ s.wordsAt k = s.bodyAt k ++ taken [s.endWord]
  /-- The parts, with the words of the subprograms in the place of their calls, are the
  chronicle. -/
  executed : parts.flatMap (Part.executed s) = (start c).chronicle none calls
  /-- So are the words of the main file, if the subprograms are entered by their names. -/
  entered : s.AreTold parts → s.main.words.flatMap s.entered = (start c).chronicle none calls
  /-- At every moment of the run the machine remembers what a control holds that has executed the
  main file up to some word. -/
  tracks : (start c).IsByMachine none calls → ∀ made, made <+: calls →
    (start c).chronicle none made <+: parts.flatMap (Part.executed s) ∧
      (Control.blank.readAll (((start c).chronicle none made).flatMap Control.parts)).Tracks
        ((start c).runAll made).machine
  /-- All words stand in lines that are ended, if this was done last. -/
  ended : ∀ before, calls = before ++ [.flushAll] →
    ((start c).runAll before).outcome .flushAll = .ok () → ∀ f ∈ s.files, f.pending = []

/-- A subprogram that is opened while a word is pending in the main file, and a word that the main
file leaves out since it stands in the subprogram. -/
def sharedMotion : List Call :=
  [.put (.text "O1") false, .openSub (.text "S"), .verb (.set (.mode .motion (.int 1))) false false,
    .closeSub, .callSub (.text "S") false, .verb (.set (.mode .motion (.int 1))) false false,
    .put (.text "M30") true, .flushAll]

end Writer

end Postprocessor
