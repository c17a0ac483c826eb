import Postprocessor.Proofs.Control.Modal

/-!
# Proofs — reading the lines of a file

A control is given a file line by line, as text.  Spaces part the words of a line and a semicolon
ends it, but neither does so between quotes, where the name of a tool may hold any character.

* `Text.lineWords`: the words in the text of a line; `lineWords_cons`: from its first character on.
* `Text.IsClosed`: a text that stands in a line as one word, whatever follows it.
* `Control.readLine`, `Control.readLines`: reads a line, or several.
* `Line.IsLegible`: the words of a line are closed, or the line is a comment.
* `readLine_text`: from the text of such a line a control reads the words that it was made of.
* `ProgramFile.IsLegible`, `readLines_eq`: the same for a file.
* `closed_step`, `comment_step`: a file stays legible when a call writes closed words, or a comment
  on a line of its own; `Written` keeps this up over a run.
-/

namespace Postprocessor

/-! ### Words in the text of a line -/

namespace Text

/-- The words of a line; `quoted` says whether it starts between quotes. -/
def lineWords (quoted : Bool) : List Char → List (List Char)
  | [] => [[]]
  | c :: rest =>
    if quoted = false ∧ c = ';' then [[]]
    else if quoted = false ∧ c = ' ' then [] :: lineWords false rest
    else (lineWords (quoted ^^ (c == '"')) rest).modifyHead (c :: ·)

theorem lineWords_nil (quoted : Bool) : lineWords quoted [] = [[]] := rfl

theorem lineWords_cons (quoted : Bool) (c : Char) (rest : List Char) :
    lineWords quoted (c :: rest) =
      if quoted = false ∧ c = ';' then [[]]
      else if quoted = false ∧ c = ' ' then [] :: lineWords false rest
      else (lineWords (quoted ^^ (c == '"')) rest).modifyHead (c :: ·) := rfl

/-- The text stands in a line as one word, or the start of one, whatever follows it. -/
def IsClosed (w : List Char) : Prop :=
  ∀ rest, lineWords false (w ++ rest) = (lineWords false rest).modifyHead (w ++ ·)

theorem isClosed_nil : IsClosed [] := by
  intro rest
  rw [List.nil_append]
  cases lineWords false rest <;> rfl

theorem IsClosed.append {u v : List Char} (hu : IsClosed u) (hv : IsClosed v) :
    IsClosed (u ++ v) := by
  intro rest
  rw [List.append_assoc, hu, hv, List.modifyHead_modifyHead]
  congr 1
  funext word
  exact (List.append_assoc u v word).symm

/-- All characters are taken as they are outside of quotes. -/
def IsOrdinary (cs : List Char) : Prop := ∀ c ∈ cs, c ≠ ';' ∧ c ≠ ' ' ∧ c ≠ '"'

instance (cs : List Char) : Decidable (IsOrdinary cs) := List.decidableBAll _ cs

theorem IsOrdinary.isClosed {w : List Char} (h : IsOrdinary w) : IsClosed w := by
  induction w with
  | nil => exact isClosed_nil
  | cons c w ih =>
      obtain ⟨semicolon, space, quote⟩ := h c (List.mem_cons_self ..)
      have head : IsClosed [c] := by
        intro rest
        have same : (c == '"') = false := by simpa using quote
        simp [lineWords_cons, semicolon, space, same]
      exact head.append (ih fun d hd => h d (List.mem_cons_of_mem _ hd))

/-- Between quotes all characters but the quote are taken as they are. -/
theorem lineWords_quoted {s : List Char} (h : '"' ∉ s) (rest : List Char) :
    lineWords true (s ++ '"' :: rest) = (lineWords false rest).modifyHead (s ++ '"' :: ·) := by
  induction s with
  | nil => rfl
  | cons c s ih =>
      obtain ⟨hc, hs⟩ : '"' ≠ c ∧ '"' ∉ s := by simpa using h
      have quote : (c == '"') = false := by simpa using Ne.symm hc
      simp [lineWords_cons, quote, ih hs]
      rfl

theorem isClosed_quoted {s : List Char} (h : '"' ∉ s) : IsClosed ('"' :: s ++ ['"']) := by
  intro rest
  have inside : lineWords false ('"' :: (s ++ '"' :: rest)) =
      (lineWords true (s ++ '"' :: rest)).modifyHead ('"' :: ·) := rfl
  rw [List.append_assoc, List.cons_append, List.singleton_append, inside, lineWords_quoted h,
    List.modifyHead_modifyHead]
  congr 1
  funext word
  simp

theorem IsClosed.lineWords_eq {w : List Char} (h : IsClosed w) : lineWords false w = [w] := by
  have key := h []
  simpa [lineWords_nil] using key

/-- Closed words that are joined by spaces are parted again. -/
theorem lineWords_intercalate {ws : List (List Char)} (hne : ws ≠ []) (h : ∀ w ∈ ws, IsClosed w) :
    lineWords false ([' '].intercalate ws) = ws := by
  induction ws with
  | nil => exact absurd rfl hne
  | cons w rest ih =>
      have closed : IsClosed w := h w (List.mem_cons_self ..)
      cases rest with
      | nil =>
          rw [List.intercalate_singleton]
          exact closed.lineWords_eq
      | cons w' rest =>
          have tail := ih (List.cons_ne_nil _ _) fun v hv => h v (List.mem_cons_of_mem _ hv)
          have after : lineWords false (' ' :: [' '].intercalate (w' :: rest)) =
              [] :: w' :: rest := by
            rw [lineWords_cons, tail]
            rfl
          rw [List.intercalate_cons_cons, List.append_assoc, closed, List.singleton_append, after,
            List.modifyHead_cons, List.append_nil]

end Text

theorem isOrdinary_of_isPlainDigit {cs : List Char} (h : ∀ c ∈ cs, IsPlainDigit c) :
    Text.IsOrdinary cs := by
  intro c hc
  have digit := h c hc
  refine ⟨?_, ?_, ?_⟩ <;> rintro rfl <;> revert digit <;> rw [IsPlainDigit] <;> decide

/-! ### Reading lines -/

namespace Control

/-- Reads the text of a line. -/
def readLine (k : Control) (line : String) : Control :=
  k.readAll ((Text.lineWords false line.toList).map String.ofList)

/-- Reads lines in order. -/
def readLines (k : Control) (lines : List String) : Control := lines.foldl readLine k

/-- The parts of a text make it up again. -/
theorem intercalate_parts (t : String) : " ".intercalate (parts t) = t := by
  rw [parts]
  split
  · rw [← String.toList_inj, String.toList_intercalate, List.map_map]
    have spelled : (String.toList ∘ String.ofList) = id := funext fun cs => String.toList_ofList
    rw [spelled, List.map_id]
    exact Text.intercalate_partsAt ' ' t.toList
  · exact String.intercalate_singleton

theorem parts_ne_nil (t : String) : parts t ≠ [] := by
  rw [parts]
  split
  · exact fun e => Text.partsAt_ne_nil _ _ (List.map_eq_nil_iff.mp e)
  · exact List.cons_ne_nil _ _

/-- So do the parts of several texts. -/
theorem intercalate_flatMap_parts (words : List String) :
    " ".intercalate (words.flatMap parts) = " ".intercalate words := by
  induction words with
  | nil => rfl
  | cons w rest ih =>
      rw [List.flatMap_cons]
      by_cases hrest : rest = []
      · rw [hrest, List.flatMap_nil, List.append_nil, intercalate_parts]
        exact String.intercalate_singleton.symm
      · have more : rest.flatMap parts ≠ [] := by
          intro e
          obtain ⟨v, tail, rfl⟩ := List.exists_cons_of_ne_nil hrest
          exact parts_ne_nil v (List.append_eq_nil_iff.mp e).1
        rw [String.intercalate_append_of_ne_nil (parts_ne_nil w) more, intercalate_parts, ih,
          String.intercalate_cons_of_ne_nil hrest]

/-- The number of a line is a word without a group. -/
theorem readLine_label (k : Control) (l : Line) (body : String) :
    k.readLine (l.label ++ body) = k.readLine body := by
  rw [Line.label]
  cases l.number with
  | none => rw [String.empty_append]
  | some n =>
      have closed : Text.IsClosed ('N' :: intText n) := by
        have label : Text.IsOrdinary ['N'] := by decide
        have digits : Text.IsOrdinary (intText n) :=
          isOrdinary_of_isPlainDigit fun _ => isPlainDigit_of_mem_intText
        exact label.isClosed.append digits.isClosed
      have spelled : ("N" ++ String.ofList (intText n) ++ " " ++ body).toList =
          ('N' :: intText n) ++ ' ' :: body.toList := by
        simp
      have words : Text.lineWords false (('N' :: intText n) ++ ' ' :: body.toList) =
          ('N' :: intText n) :: Text.lineWords false body.toList := by
        rw [closed]
        simp [Text.lineWords_cons]
      have silent : k.read (String.ofList ('N' :: intText n)) = k := by
        rw [read, group?, String.toList_ofList]
        rfl
      rw [readLine, spelled, words, List.map_cons, readAll_cons, silent, readLine]

end Control

/-- The words of the line can be told apart in its text, or the line is a comment. -/
def Line.IsLegible (l : Line) : Prop :=
  (∀ w ∈ l.words.flatMap Control.parts, Text.IsClosed w.toList) ∨ ∃ text, l.words = ["; " ++ text]

/-- **Reading a line.**  From its text a control reads the words that it was made of. -/
theorem Control.readLine_text {l : Line} (hne : l.words ≠ []) (hw : ∀ w ∈ l.words, IsWord w)
    (h : l.IsLegible) (k : Control) : k.readLine l.text = k.readAll (l.words.flatMap parts) := by
  rw [Line.text_eq hw, readLine_label]
  rcases h with closed | ⟨text, e⟩
  · have some : l.words.flatMap parts ≠ [] := by
      intro e
      obtain ⟨w, rest, e'⟩ := List.exists_cons_of_ne_nil hne
      rw [e', List.flatMap_cons] at e
      exact parts_ne_nil w (List.append_eq_nil_iff.mp e).1
    rw [readLine, ← intercalate_flatMap_parts, String.toList_intercalate]
    have cut : Text.lineWords false
        ([' '].intercalate ((l.words.flatMap parts).map String.toList)) =
          (l.words.flatMap parts).map String.toList := by
      refine Text.lineWords_intercalate (by simpa using some) fun cs hcs => ?_
      obtain ⟨w, hw, rfl⟩ := List.mem_map.mp hcs
      exact closed w hw
    refine congrArg k.readAll ((congrArg (List.map String.ofList) cut).trans ?_)
    rw [List.map_map]
    exact List.map_id'' (fun w => String.ofList_toList) _
  · -- nothing is read of a comment, neither in the line nor as a word
    have silent : ∀ w, group? w = none → k.readAll (parts w) = k := by
      intro w hg
      rw [parts, hg]
      show k.read w = k
      rw [read, hg]
    rw [e, List.flatMap_singleton, silent _ (group?_comment text), String.intercalate_singleton,
      readLine]
    simp [Text.lineWords_cons, readAll_cons, readAll_nil, read_empty]

/-! ### Reading files -/

/-- All lines of the file are legible, and so is the one that is being written. -/
structure ProgramFile.IsLegible (f : ProgramFile) : Prop where
  lines : ∀ l ∈ f.lines.toList, l.IsLegible
  pending : ∀ w ∈ f.pending.flatMap Control.parts, Text.IsClosed w.toList

namespace ProgramFile

variable {n : Numbering} {f : ProgramFile}

theorem isLegible_empty (name : Value) (start : Int) : (ProgramFile.empty name start).IsLegible :=
  ⟨by simp [ProgramFile.empty], by simp [ProgramFile.empty]⟩

/-- The file stays legible when closed words are emitted. -/
theorem IsLegible.emitted (h : f.IsLegible) {words : List String} {noFlush : Bool}
    (hw : ∀ w ∈ Control.heard words, Text.IsClosed w.toList) :
    (f.emitted n words noFlush).IsLegible := by
  have line : ∀ w ∈ (f.pending ++ taken words).flatMap Control.parts, Text.IsClosed w.toList := by
    intro w hmem
    rw [List.flatMap_append] at hmem
    rcases List.mem_append.mp hmem with hmem | hmem
    · exact h.pending w hmem
    · exact hw w hmem
  refine ⟨fun l hl => ?_, ?_⟩
  · rcases f.lines_emitted (n := n) words noFlush with e | ⟨-, e⟩
    · exact h.lines l (e ▸ hl)
    · rw [e, Array.toList_push] at hl
      rcases List.mem_append.mp hl with hl | hl
      · exact h.lines l hl
      · obtain rfl := List.mem_singleton.mp hl
        exact .inl line
  · cases noFlush with
    | true =>
        rw [pending_emitted_keep]
        exact line
    | false =>
        rw [pending_emitted]
        simp

/-- And when a comment is emitted on a line of its own. -/
theorem IsLegible.emitted_comment (h : f.IsLegible) (hp : f.pending = []) {text : String}
    (ht : text.trimmed.isEmpty = false) :
    (f.emitted n ["; " ++ text.trimmed] false).IsLegible := by
  have comment : taken ["; " ++ text.trimmed] = ["; " ++ text.trimmed] :=
    taken_of_isWord (by simpa using isWord_comment ht)
  refine ⟨fun l hl => ?_, ?_⟩
  · rcases f.lines_emitted (n := n) ["; " ++ text.trimmed] false with e | ⟨-, e⟩
    · exact h.lines l (e ▸ hl)
    · rw [e, Array.toList_push, hp, comment] at hl
      rcases List.mem_append.mp hl with hl | hl
      · exact h.lines l hl
      · obtain rfl := List.mem_singleton.mp hl
        exact .inr ⟨_, rfl⟩
  · rw [pending_emitted]
    simp

/-- **Reading a file** whose last line is ended. -/
theorem readLines_eq (ht : f.IsTidy n) (h : f.IsLegible) (hp : f.pending = []) (k : Control) :
    k.readLines (f.lines.toList.map Line.text) = k.readAll (f.words.flatMap Control.parts) := by
  have all : ∀ (ls : List Line) (k : Control), (∀ l ∈ ls, l ∈ f.lines.toList) →
      k.readLines (ls.map Line.text) =
        k.readAll ((ls.flatMap Line.words).flatMap Control.parts) := by
    intro ls
    induction ls with
    | nil => exact fun _ _ => rfl
    | cons l ls ih =>
        intro k hl
        have mem := hl l (List.mem_cons_self ..)
        have first : k.readLine l.text = k.readAll (l.words.flatMap Control.parts) :=
          Control.readLine_text (ht.nonempty l mem) (ht.words l mem) (h.lines l mem) k
        rw [List.flatMap_cons, List.flatMap_append, Control.readAll_append, ← first]
        exact ih _ fun d hd => hl d (List.mem_cons_of_mem _ hd)
  rw [ProgramFile.words, hp, List.append_nil]
  exact all _ k fun _ hl => hl

end ProgramFile

/-! ### The words of a machine -/

/-- A name that is assigned to the tool has no quotes. -/
def Assignment.IsLegible (a : Assignment) : Prop :=
  a.channel = .tool → ∀ s, a.value.text? = some s → '"' ∉ s.toList

theorem isOrdinary_address (c : Channel) : Text.IsOrdinary c.address.toList := by
  cases c with
  | axis of => cases of <;> decide
  | mode m => exact (by decide : Text.IsOrdinary "G".toList)
  | _ => decide

theorem isClosed_word {c : Channel} {v : Value} (h : c.Admits v)
    (hl : Assignment.IsLegible ⟨c, v⟩) : Text.IsClosed (c.word v).toList := by
  by_cases hc : c = .tool
  · subst hc
    obtain ⟨s, hs⟩ := h
    have spelled : (Channel.tool.word v).toList = ['T', '='] ++ ('"' :: s.toList ++ ['"']) := by
      simp [Channel.word, Channel.address, Channel.content, hs]
    have address : Text.IsOrdinary ['T', '='] := by decide
    rw [spelled]
    exact address.isClosed.append (Text.isClosed_quoted (hl rfl s hs))
  · rw [Control.toList_word hc]
    have digits : Text.IsOrdinary v.digits :=
      isOrdinary_of_isPlainDigit fun _ => Value.isPlainDigit_of_mem_digits (h.isNumber hc)
    exact (isOrdinary_address c).isClosed.append digits.isClosed

/-- The words of a verb are closed. -/
theorem Verb.isClosed_full {v : Verb} (hv : v.IsModal) (hl : ∀ a ∈ v.assigned, a.IsLegible) :
    ∀ w ∈ v.full, Text.IsClosed w.toList := by
  intro w hw
  rcases List.mem_append.mp hw with hw | hw
  · obtain ⟨hmem, hne⟩ := List.mem_filter.mp hw
    obtain ⟨a, ha, rfl⟩ := List.mem_map.mp hmem
    rcases Verb.isTaken_assigned hv a ha with hnull | hadmits
    · rw [Assignment.word, hnull] at hne
      exact absurd hne (by simp [Channel.wordOrNone])
    · rw [Assignment.word, Channel.wordOrNone_of_admits hadmits]
      exact isClosed_word hadmits (hl a ha)
  · cases v with
    | changeTool name =>
        obtain rfl := List.mem_singleton.mp hw
        exact (by decide : Text.IsOrdinary "M6".toList).isClosed
    | _ => cases hw

/-! ### Runs -/

/-- The writer has made the calls in the main file, which is legible and has at most `count`
lines. -/
structure Written (c : Config) (count : Nat) (calls : List Call) (w : Writer) : Prop where
  follows : Follows calls w
  counts : Counts c count w
  legible : w.files.main.IsLegible

theorem written_start (c : Config) : Written c 0 [] (.start c) :=
  ⟨follows_start c, counts_start c, ProgramFile.isLegible_empty _ _⟩

variable {c : Config} {count : Nat} {calls : List Call} {w : Writer}

/-- **Reading what was written**, when the last line is ended: the words of the calls in full. -/
theorem Written.readLines (h : Written c count calls w) (hp : w.files.main.pending = []) :
    Control.blank.readLines (w.files.main.lines.toList.map Line.text) =
      Control.blank.readAll (calls.flatMap Call.full) :=
  (ProgramFile.readLines_eq h.counts.tidy h.legible hp _).trans h.follows.control

/-- The calls succeed and are written, after the lines that are there. -/
structure Writes (c : Config) (count : Nat) (calls made : List Call) (w : Writer) : Prop where
  accepts : w.Accepts made
  written : Written c count (calls ++ made) (w.runAll made)
  lines : w.files.main.lines.toList <+: (w.runAll made).files.main.lines.toList

theorem Written.nil (h : Written c count calls w) : Writes c count calls [] w :=
  ⟨trivial, (List.append_nil calls).symm ▸ h, List.prefix_refl _⟩

theorem Writes.append {more : Nat} {us vs : List Call} (h : Writes c count calls us w)
    (h' : Writes c more (calls ++ us) vs (w.runAll us)) : Writes c more calls (us ++ vs) w := by
  refine ⟨Writer.accepts_append.mpr ⟨h.accepts, h'.accepts⟩, ?_, ?_⟩
  · rw [Writer.runAll_append, ← List.append_assoc]
    exact h'.written
  · rw [Writer.runAll_append]
    exact h.lines.trans h'.lines

theorem Writes.mono {more : Nat} {made : List Call} (h : Writes c count calls made w)
    (hm : count ≤ more) : Writes c more calls made w :=
  ⟨h.accepts, ⟨h.written.follows, h.written.counts.mono hm, h.written.legible⟩, h.lines⟩

/-- A call that is not refused and whose words are closed. -/
theorem closed_step (h : Written c count calls w) {call : Call} (hc : call.IsModal)
    (hr : call.refusal = .ok ()) (hl : ∀ t ∈ call.full, Text.IsClosed t.toList)
    (hp : c.numbering.Prints (count + call.lineCount)) :
    Writes c (count + call.lineCount) calls [call] w ∧
      (call.endsLine = true → (w.after call).files.main.pending = []) := by
  obtain ⟨outcome, counts, words, main, short⟩ := emission_step h.counts h.follows hc hr hp
  refine ⟨⟨⟨outcome, trivial⟩, ⟨follows_step h.follows hc, counts, ?_⟩, ?_⟩, fun ends => ?_⟩
  · show (w.after call).files.main.IsLegible
    rw [main]
    exact h.legible.emitted fun t ht => hl t (short.sublist.subset ht)
  · show _ <+: (w.after call).files.main.lines.toList
    rw [main]
    exact ProgramFile.prefix_emitted c.numbering w.files.main words _
  · rw [main, ends]
    exact ProgramFile.pending_emitted

theorem fileStep_comment {text : Value} {t : String} (ht : Writer.wordOf text = .ok t)
    (m : Machine) : (Call.comment text false).fileStep m =
      if t.trimmed.isEmpty then FileSet.emit [] true
      else FileSet.emit ["; " ++ t.trimmed] false := by
  have step : (Call.comment text false).fileStep m =
      FileSet.handOver ((Call.comment text false).emission m) := rfl
  rw [step, Call.emission, ht]
  cases h : t.trimmed.isEmpty <;> simp [Except.map, FileSet.handOver, h]

theorem refusal_comment {text : Value} {t : String} (ht : Writer.wordOf text = .ok t) :
    (Call.comment text false).refusal = .ok () := by
  have step : (Call.comment text false).refusal =
      ((Call.comment text false).emission .fresh).map fun _ => () := rfl
  rw [step, Call.emission, ht]
  rfl

/-- The main file after a comment: a blank comment leaves it as it is. -/
theorem main_comment (h : Written c count calls w) {text : Value} {t : String}
    (ht : Writer.wordOf text = .ok t)
    (hp : c.numbering.Prints (count + (Call.comment text false).lineCount)) :
    (w.after (.comment text false)).files.main =
      if t.trimmed.isEmpty then w.files.main
      else w.files.main.emitted c.numbering ["; " ++ t.trimmed] false := by
  rw [Writer.files_after, fileStep_comment ht]
  by_cases blank : t.trimmed.isEmpty = true
  · rw [if_pos blank, if_pos blank]
    rfl
  · have ends : (Call.comment text false).lineCount = 1 := by
      simp [Call.lineCount, Call.endsLine, Call.isBlankComment, ht, Except.toOption, blank]
    have prints : c.numbering.Prints (w.files.main.lines.size + 1) := by
      refine hp.mono ?_
      rw [ends]
      exact Nat.succ_le_succ h.counts.lines
    have emitted := FileSet.emit_main h.follows.opened h.counts.numbering h.counts.tidy
      ["; " ++ t.trimmed] (fun _ : false = false => prints)
    rw [if_neg blank, if_neg blank, emitted]

/-- A comment on a line of its own. -/
theorem comment_step (h : Written c count calls w) (hnil : w.files.main.pending = [])
    {text : Value} {t : String} (ht : Writer.wordOf text = .ok t)
    (hp : c.numbering.Prints (count + (Call.comment text false).lineCount)) :
    Writes c (count + (Call.comment text false).lineCount) calls [.comment text false] w ∧
      (w.after (.comment text false)).files.main.pending = [] := by
  have modal : (Call.comment text false).IsModal := trivial
  obtain ⟨outcome, counts⟩ := counts_step h.counts h.follows modal hp
  have state : (w.after (.comment text false)).files.main.IsLegible ∧
      w.files.main.lines.toList <+: (w.after (.comment text false)).files.main.lines.toList ∧
      (w.after (.comment text false)).files.main.pending = [] := by
    rw [main_comment h ht hp]
    by_cases blank : t.trimmed.isEmpty = true
    · rw [if_pos blank]
      exact ⟨h.legible, List.prefix_refl _, hnil⟩
    · rw [if_neg blank]
      exact ⟨h.legible.emitted_comment hnil (Bool.eq_false_iff.mpr blank),
        ProgramFile.prefix_emitted .., ProgramFile.pending_emitted⟩
  obtain ⟨legible, lines, pending⟩ := state
  have accepted := outcome.trans (refusal_comment ht)
  exact ⟨⟨⟨accepted, trivial⟩, ⟨follows_step h.follows modal, counts, legible⟩, lines⟩, pending⟩

end Postprocessor
