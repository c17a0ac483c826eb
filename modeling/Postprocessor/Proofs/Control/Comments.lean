import Postprocessor.Proofs.Control.Lines
import Postprocessor.Proofs.Machine.Letters
import Postprocessor.Proofs.Output.Growth

/-!
# Proofs — comments and the words before them

A control reads nothing of a line from a semicolon on.  Every comment opens with one, so what it
must not lose has to stand before the comments of its line.

* `IsComment`: a word that opens a comment; no word of a verb does (`not_isComment_words`), and the
  word of a comment does.
* `IsReadable`: words among which nothing but comments comes after a comment.
* `ProgramFile.IsReadable`: every line of a file is so; `isReadable_runAll` says when it is after
  verbs and comments.
* `EndsComments`: comments that all end their lines never stand before a word of a line.
* `takeWhile_text`: what stands before the first semicolon in the text of a line.
* `comments_last`: when no word of a verb stands after a comment, and what is read then.
-/

namespace Postprocessor

/-! ### Words that open a comment -/

/-- The word opens a comment: its first character that is no blank is a semicolon. -/
def IsComment (w : String) : Prop := Text.lead? w.toList = some ';'

instance (w : String) : Decidable (IsComment w) := inferInstanceAs (Decidable (_ = _))

theorem isComment_trimmed (w : String) : IsComment w.trimmed ↔ IsComment w := by
  rw [IsComment, String.trimmed, String.toList_ofList, Text.lead?_trim, IsComment]

/-- **No word of a verb** opens a comment. -/
theorem Verb.not_isComment_words {v : Verb} {force : Bool} {m : Machine} {words : List String}
    (hw : (v.words force m).1 = .ok words) : ∀ w ∈ words, ¬ IsComment w := by
  have address (c : Channel) : LeadsIn (· ≠ ';') c.address := by
    refine leadsIn_ne_iff.mpr ?_
    cases c with
    | axis axis => cases axis <;> decide
    | mode mode => exact (by decide : Text.lead? "G".toList ≠ some ';')
    | _ => decide
  have actions : ∀ w ∈ v.actions, LeadsIn (· ≠ ';') w := by
    cases v with
    | changeTool name => exact List.forall_mem_singleton.mpr (leadsIn_ne_iff.mpr (by decide))
    | rapid | line | set => exact List.forall_mem_nil _
  exact fun w mem => leadsIn_ne_iff.mp
    (leadsIn_words hw (fun c _ => address c) actions w mem)

theorem forall_mem_taken {P : String → Prop} (trimmed : ∀ w, P w.trimmed ↔ P w)
    {words : List String} (h : ∀ w ∈ words, P w) : ∀ w ∈ taken words, P w := by
  intro w hw
  obtain ⟨s, hs, rfl⟩ := List.mem_map.mp (List.mem_of_mem_filter hw)
  exact (trimmed s).mpr (h s hs)

/-- Nor does a word that a verb hands to a line. -/
theorem Call.not_isComment_verb (v : Verb) (force noFlush : Bool) (w : Writer) :
    ∀ word ∈ taken ((verb v force noFlush).handed w), ¬ IsComment word := by
  refine forall_mem_taken (fun w => not_congr (isComment_trimmed w)) ?_
  rw [handed_eq (nofun : verb v force noFlush ≠ .closeSub), emission]
  cases hw : (v.words force w.machine).1 with
  | error e => exact List.forall_mem_nil _
  | ok words => exact Verb.not_isComment_words hw

/-- The word of a comment opens one. -/
theorem Call.isComment_comment (text : Value) (noFlush : Bool) (w : Writer) :
    ∀ word ∈ taken ((comment text noFlush).handed w), IsComment word := by
  refine forall_mem_taken isComment_trimmed ?_
  rw [handed_eq (nofun : comment text noFlush ≠ .closeSub), emission]
  cases Writer.wordOf text with
  | error e => exact List.forall_mem_nil _
  | ok t =>
      cases blank : t.trimmed.isEmpty with
      | true => simp [Except.map, blank]
      | false =>
          have mark : Text.lead? "; ".toList = some ';' := by decide
          simp only [Except.map, blank]
          rw [if_neg (by simp)]
          refine List.forall_mem_singleton.mpr ?_
          rw [IsComment, String.toList_append, Text.lead?_append, mark, Option.some_or]

/-! ### Lines with their comments last -/

/-- After a comment come comments only. -/
def IsReadable (words : List String) : Prop := words.Pairwise fun u v => IsComment u → IsComment v

instance (words : List String) : Decidable (IsReadable words) :=
  inferInstanceAs (Decidable (List.Pairwise _ words))

theorem isReadable_append {us vs : List String} : IsReadable (us ++ vs) ↔
    IsReadable us ∧ IsReadable vs ∧ ∀ u ∈ us, ∀ v ∈ vs, IsComment u → IsComment v :=
  List.pairwise_append

theorem isReadable_of_not_isComment {words : List String} (h : ∀ w ∈ words, ¬ IsComment w) :
    IsReadable words :=
  List.pairwise_of_forall_mem_list fun u hu _ _ comment => absurd comment (h u hu)

theorem isReadable_of_isComment {words : List String} (h : ∀ w ∈ words, IsComment w) :
    IsReadable words :=
  List.pairwise_of_forall_mem_list fun _ _ v hv _ => h v hv

/-- The words of a readable line are its other words, and then its comments. -/
theorem IsReadable.eq_append {words : List String} (h : IsReadable words) :
    words = words.filter (¬ IsComment ·) ++ words.filter (IsComment ·) := by
  induction words with
  | nil => rfl
  | cons w words ih =>
      obtain ⟨first, others⟩ := List.pairwise_cons.mp h
      by_cases comment : IsComment w
      · have all : ∀ v ∈ w :: words, IsComment v :=
          List.forall_mem_cons.mpr ⟨comment, fun v hv => first v hv comment⟩
        have none : (w :: words).filter (¬ IsComment ·) = [] := by
          simpa [List.filter_eq_nil_iff] using all
        have rest : (w :: words).filter (IsComment ·) = w :: words := by
          simpa [List.filter_eq_self] using all
        rw [none, rest, List.nil_append]
      · rw [List.filter_cons_of_pos (by simpa using comment),
          List.filter_cons_of_neg (by simpa using comment), List.cons_append, ← ih others]

/-- Every line of the file is readable, and so is the one that is being written. -/
structure ProgramFile.IsReadable (f : ProgramFile) : Prop where
  lines : ∀ l ∈ f.lines.toList, Postprocessor.IsReadable l.words
  pending : Postprocessor.IsReadable f.pending

/-- Ending a line makes no difference to that. -/
theorem FileSet.Flushed.isReadable_iff {n : Numbering} {f g : ProgramFile} (h : Flushed n f g) :
    g.IsReadable ↔ f.IsReadable := by
  have ended : (f.ended n).IsReadable ↔ f.IsReadable := by
    refine ⟨fun readable => ?_, fun readable => ?_⟩
    · have lines := readable.lines
      rw [ProgramFile.ended, Array.toList_push] at lines
      exact ⟨fun l hl => lines l (List.mem_append_left _ hl),
        lines (f.nextLine n) (List.mem_append_right _ (List.mem_singleton_self _))⟩
    · refine ⟨?_, .nil⟩
      rw [ProgramFile.ended, Array.toList_push]
      exact List.forall_mem_append.mpr ⟨readable.lines,
        List.forall_mem_singleton.mpr readable.pending⟩
  rcases h with rfl | h
  · rfl
  · rcases f.flush_eq n with ⟨-, e⟩ | ⟨-, -, e⟩ | ⟨-, -, e⟩ <;> rw [e] at h <;> cases h
    · rfl
    · exact ended

/-! ### Verbs and comments -/

/-- A verb, a comment, or a call that ends lines. -/
def Call.IsSpoken : Call → Prop
  | .verb .. | .comment .. | .flush | .flushAll => True
  | _ => False

namespace Writer

variable {w : Writer} {call : Call} {calls : List Call}

/-- **A spoken call** puts words to the line of the main file, and may end it. -/
theorem spoken_step (ho : w.files.opened = none) (hc : call.IsSpoken) :
    (w.after call).files.opened = none ∧ FileSet.Flushed w.files.numbering
      ((call.handed w).foldl ProgramFile.put w.files.main) (w.after call).files.main := by
  have flush {s : FileSet} (h : s.opened = none) : (FileSet.flush s).2.opened = none ∧
      FileSet.Flushed s.numbering s.main (FileSet.flush s).2.main := by
    rw [FileSet.flush_main h]
    cases e : s.main.flush s.numbering with
    | error _ => exact ⟨h, .inl rfl⟩
    | ok f => exact ⟨h, .inr e⟩
  have emit (words : List String) (noFlush : Bool) :
      (FileSet.emit words noFlush w.files).2.opened = none ∧ FileSet.Flushed w.files.numbering
        (words.foldl ProgramFile.put w.files.main)
        (FileSet.emit words noFlush w.files).2.main := by
    cases noFlush with
    | true =>
        rw [FileSet.emit_keep, FileSet.putAll_main ho]
        exact ⟨ho, .inl rfl⟩
    | false =>
        rw [FileSet.emit_flush, FileSet.putAll_main ho]
        exact flush ho
  have handOver (h : call.fileStep w.machine = FileSet.handOver (call.emission w.machine))
      (hne : call ≠ .closeSub) :
      (w.after call).files.opened = none ∧ FileSet.Flushed w.files.numbering
        ((call.handed w).foldl ProgramFile.put w.files.main) (w.after call).files.main := by
    rw [files_after, h, Call.handed_eq hne]
    cases call.emission w.machine with
    | error e => exact ⟨ho, .inl rfl⟩
    | ok emitted => exact emit emitted.1 emitted.2
  cases call with
  | verb | comment | flush => exact handOver rfl nofun
  | flushAll =>
      have ended := FileSet.flushAll_linesEnded w.files
      have still : (FileSet.flushAll w.files).2.opened = none := by
        have opened := ended.opened
        rw [ho] at opened
        generalize (FileSet.flushAll w.files).2.opened = after at opened ⊢
        cases opened
        rfl
      rw [files_after]
      exact ⟨still, ended.main⟩
  | _ => exact hc.elim

/-- No word of the call would stand after a comment. -/
def Spares (w : Writer) (call : Call) : Prop :=
  ∀ u ∈ w.files.main.pending, ∀ v ∈ taken (call.handed w), IsComment u → IsComment v

/-- The words that a spoken call hands over are readable by themselves. -/
theorem isReadable_handed (hc : call.IsSpoken) (w : Writer) : IsReadable (taken (call.handed w)) := by
  cases call with
  | verb v force noFlush =>
      exact isReadable_of_not_isComment (Call.not_isComment_verb v force noFlush w)
  | comment text noFlush =>
      exact isReadable_of_isComment (Call.isComment_comment text noFlush w)
  | flush | flushAll => exact .nil
  | _ => exact hc.elim

/-- **A spoken call** keeps the file readable if and only if it spares its comments. -/
theorem isReadable_after (ho : w.files.opened = none) (hc : call.IsSpoken) :
    (w.after call).files.main.IsReadable ↔ w.files.main.IsReadable ∧ w.Spares call := by
  obtain ⟨-, flushed⟩ := spoken_step ho hc
  rw [flushed.isReadable_iff, ProgramFile.putAll_eq]
  constructor
  · intro readable
    obtain ⟨before, -, across⟩ := isReadable_append.mp readable.pending
    exact ⟨⟨readable.lines, before⟩, across⟩
  · rintro ⟨readable, across⟩
    exact ⟨readable.lines,
      isReadable_append.mpr ⟨readable.pending, isReadable_handed hc w, across⟩⟩

/-- What holds of every call and the writer that makes it: it holds of the first call, and of the
others after that. -/
theorem forall_call_cons {P : Writer → Call → Prop} :
    (∀ before x after, call :: calls = before ++ x :: after → P (w.runAll before) x) ↔
      P w call ∧
      ∀ before x after, calls = before ++ x :: after → P ((w.after call).runAll before) x := by
  constructor
  · intro all
    exact ⟨all [] call calls rfl, fun before x after e => all (call :: before) x after (by simp [e])⟩
  · rintro ⟨first, others⟩ before x after e
    rcases List.cons_eq_append_iff.mp e with ⟨rfl, e'⟩ | ⟨rest, rfl, e'⟩
    · cases e'
      exact first
    · exact others rest x after e'

/-- **After spoken calls** the file is readable if and only if every one of them has spared its
comments. -/
theorem isReadable_runAll (ho : w.files.opened = none) (hc : ∀ call ∈ calls, call.IsSpoken) :
    (w.runAll calls).files.main.IsReadable ↔ w.files.main.IsReadable ∧
      ∀ before call after, calls = before ++ call :: after → (w.runAll before).Spares call := by
  induction calls generalizing w with
  | nil =>
      refine ⟨fun readable => ⟨readable, fun before call after e => ?_⟩, And.left⟩
      simp at e
  | cons call calls ih =>
      obtain ⟨first, others⟩ := List.forall_mem_cons.mp hc
      rw [runAll_cons, ih (spoken_step ho first).1 others, isReadable_after ho first, and_assoc,
        forall_call_cons]

/-! ### Comments that end their lines -/

/-- The lines of the main file are readable, and no comment stands on the open line unless that can
not be ended. -/
structure EndsComments (w : Writer) : Prop where
  opened : w.files.opened = none
  lines : ∀ l ∈ w.files.main.lines.toList, IsReadable l.words
  pending : (∀ u ∈ w.files.main.pending, ¬ IsComment u) ∨ w.files.main.IsStuck w.files.numbering

theorem pending_flushed {n : Numbering} {f g : ProgramFile} (h : FileSet.Flushed n f g) :
    g.pending = f.pending ∨ g.pending = [] := by
  rcases h with rfl | h
  · exact .inl rfl
  · rcases f.flush_eq n with ⟨-, e⟩ | ⟨-, -, e⟩ | ⟨-, -, e⟩ <;> rw [e] at h <;> cases h
    · exact .inl rfl
    · exact .inr rfl

/-- Words are emitted and their line is ended, or it never will be. -/
theorem ended_or_isStuck {s : FileSet} (ho : s.opened = none) (words : List String) :
    (FileSet.emit words false s).2.main.pending = [] ∨
      (FileSet.emit words false s).2.main.IsStuck s.numbering := by
  have opened : ({ s with main := words.foldl ProgramFile.put s.main } : FileSet).opened = none := ho
  rw [FileSet.emit_flush, FileSet.putAll_main ho, FileSet.flush_main opened]
  rcases (words.foldl ProgramFile.put s.main).flush_eq s.numbering with
    ⟨ended, e⟩ | ⟨-, -, e⟩ | ⟨some, number, e⟩ <;> simp only [e]
  · exact .inl ended
  · exact .inl rfl
  · exact .inr ⟨some, number⟩

/-- A comment that ends its line hands over nothing, or emits its word. -/
theorem comment_cases (text : Value) (w : Writer) : (Call.comment text false).handed w = [] ∨
    ∃ words, (Call.comment text false).fileStep w.machine = FileSet.emit words false := by
  have handed := Call.handed_eq (nofun : Call.comment text false ≠ .closeSub) w
  cases ht : wordOf text with
  | error e =>
      refine .inl ?_
      rw [handed, Call.emission, ht]
      rfl
  | ok t =>
      rw [fileStep_comment ht]
      by_cases blank : t.trimmed.isEmpty = true
      · refine .inl ?_
        rw [handed, Call.emission, ht]
        simp [Except.map, blank]
      · rw [if_neg blank]
        exact .inr ⟨_, rfl⟩

/-- What is pending after a call that hands over no comment. -/
theorem not_isComment_after (ho : w.files.opened = none) (hc : call.IsSpoken)
    (hp : ∀ u ∈ w.files.main.pending, ¬ IsComment u)
    (hw : ∀ word ∈ taken (call.handed w), ¬ IsComment word) :
    ∀ u ∈ (w.after call).files.main.pending, ¬ IsComment u := by
  obtain ⟨-, flushed⟩ := spoken_step ho hc
  rw [ProgramFile.putAll_eq] at flushed
  rcases pending_flushed flushed with e | e <;> rw [e]
  · exact List.forall_mem_append.mpr ⟨hp, hw⟩
  · exact List.forall_mem_nil _

/-- **A spoken call** that is no comment on an open line keeps the lines readable. -/
theorem EndsComments.step (h : w.EndsComments) (hc : call.IsSpoken)
    (hk : ∀ text noFlush, call = .comment text noFlush → noFlush = false) :
    (w.after call).EndsComments := by
  obtain ⟨opened, -⟩ := spoken_step h.opened hc
  rcases h.pending with plain | stuck
  · have spares : w.Spares call := fun u hu _ _ comment => absurd comment (plain u hu)
    have readable := (isReadable_after h.opened hc).mpr
      ⟨⟨h.lines, isReadable_of_not_isComment plain⟩, spares⟩
    refine ⟨opened, readable.lines, ?_⟩
    cases call with
    | verb v force noFlush =>
        exact .inl (not_isComment_after h.opened hc plain
          (Call.not_isComment_verb v force noFlush w))
    | flush | flushAll =>
        exact .inl (not_isComment_after h.opened hc plain (List.forall_mem_nil _))
    | comment text noFlush =>
        obtain rfl := hk text noFlush rfl
        rcases comment_cases text w with none | ⟨words, e⟩
        · exact .inl (not_isComment_after h.opened hc plain (by simp [none, taken]))
        · rw [(w.grows_after _).numbering, files_after, e]
          exact (ended_or_isStuck h.opened words).imp_left fun ended => by simp [ended]
    | _ => exact hc.elim
  · have grows := w.grows_after call
    refine ⟨opened, ?_, .inr ?_⟩
    · rw [grows.main.lines_of_isStuck stuck]
      exact h.lines
    · rw [grows.numbering]
      exact grows.main.isStuck stuck

theorem endsComments_runAll (h : w.EndsComments) (hc : ∀ call ∈ calls, call.IsSpoken)
    (hk : ∀ text noFlush, .comment text noFlush ∈ calls → noFlush = false) :
    (w.runAll calls).EndsComments := by
  induction calls generalizing w with
  | nil => exact h
  | cons call calls ih =>
      obtain ⟨first, others⟩ := List.forall_mem_cons.mp hc
      have ended : ∀ text noFlush, call = .comment text noFlush → noFlush = false := by
        rintro text noFlush rfl
        exact hk text noFlush (List.mem_cons_self ..)
      exact ih (h.step first ended) others fun text noFlush hm =>
        hk text noFlush (List.mem_cons_of_mem _ hm)

end Writer

/-! ### The text before the first semicolon -/

theorem mem_intercalate {words : List String} {c : Char}
    (h : c ∈ (" ".intercalate words).toList) : c = ' ' ∨ ∃ w ∈ words, c ∈ w.toList := by
  induction words with
  | nil => simp at h
  | cons w words ih =>
      cases words with
      | nil =>
          rw [String.intercalate_singleton] at h
          exact .inr ⟨w, List.mem_cons_self .., h⟩
      | cons w' words =>
          rw [String.intercalate_cons_of_ne_nil (List.cons_ne_nil w' words), String.toList_append,
            String.toList_append, List.mem_append, List.mem_append] at h
          rcases h with (h | h) | h
          · exact .inr ⟨w, List.mem_cons_self .., h⟩
          · exact .inl (by simpa using h)
          · exact (ih h).imp_right fun ⟨v, hv, hc⟩ => ⟨v, List.mem_cons_of_mem _ hv, hc⟩

theorem Line.semicolon_not_mem_label (l : Line) : ';' ∉ l.label.toList := by
  rw [Line.label]
  cases l.number with
  | none => simp
  | some i =>
      have digits : ';' ∉ intText i := fun h =>
        absurd (isPlainDigit_of_mem_intText h) (by unfold IsPlainDigit; decide)
      simpa using digits

/-- Comments that are joined start with a semicolon. -/
theorem head?_intercalate {words : List String} (h : ∀ w ∈ words, IsWord w ∧ IsComment w) :
    ∀ c ∈ (" ".intercalate words).toList.head?, c = ';' := by
  intro c hc
  cases words with
  | nil => simp at hc
  | cons w words =>
      obtain ⟨word, comment⟩ := h w (List.mem_cons_self ..)
      have first : w.toList.head? = some ';' := by
        rw [← Text.lead?_of_isTrim word.isTrim]
        exact comment
      obtain ⟨rest, spelled⟩ : ∃ rest, " ".intercalate (w :: words) = w ++ rest := by
        cases words with
        | nil => exact ⟨"", by simp⟩
        | cons w' words =>
            exact ⟨_, (String.intercalate_cons_of_ne_nil (List.cons_ne_nil w' words)).trans
              (String.append_assoc ..)⟩
      rw [spelled, String.toList_append, List.head?_append, first] at hc
      exact (Option.some.inj hc).symm

/-- **The text of a readable line** up to its first semicolon is the number of the line and its
words without the comments, as long as none of these words has a semicolon.  A space may stand after
them. -/
theorem Line.takeWhile_text {l : Line} (hw : ∀ w ∈ l.words, IsWord w) (hr : IsReadable l.words)
    (hs : ∀ w ∈ l.words, ¬ IsComment w → ';' ∉ w.toList) :
    ∃ space ∈ ["", " "], String.ofList (l.text.toList.takeWhile (· != ';')) =
      l.label ++ " ".intercalate (l.words.filter (¬ IsComment ·)) ++ space := by
  have clean : ∀ c ∈ (l.label ++ " ".intercalate (l.words.filter (¬ IsComment ·))).toList,
      (c != ';') = true := by
    intro c hc
    rw [String.toList_append, List.mem_append] at hc
    rcases hc with hc | hc
    · exact bne_iff_ne.mpr fun e => l.semicolon_not_mem_label (e ▸ hc)
    · rcases mem_intercalate hc with rfl | ⟨w, hw, hc⟩
      · decide
      · obtain ⟨mem, plain⟩ := List.mem_filter.mp hw
        exact bne_iff_ne.mpr fun e => hs w mem (by simpa using plain) (e ▸ hc)
  -- what comes after them, if anything, is a space or nothing, and a semicolon
  have after : ∃ space ∈ ["", " "], ∃ rest, (∀ c ∈ rest.toList.head?, c = ';') ∧ l.text =
      l.label ++ " ".intercalate (l.words.filter (¬ IsComment ·)) ++ space ++ rest := by
    have joined := Line.text_eq hw
    rw [hr.eq_append] at joined
    have comments : ∀ w ∈ l.words.filter (IsComment ·), IsWord w ∧ IsComment w := by
      intro w mem
      obtain ⟨mem, comment⟩ := List.mem_filter.mp mem
      exact ⟨hw w mem, by simpa using comment⟩
    by_cases hv : l.words.filter (IsComment ·) = []
    · rw [hv, List.append_nil] at joined
      exact ⟨"", by simp, "", by simp, by simpa using joined⟩
    by_cases hu : l.words.filter (¬ IsComment ·) = []
    · rw [hu, List.nil_append] at joined
      exact ⟨"", by simp, _, head?_intercalate comments, by
        rw [joined, hu]
        simp⟩
    · rw [String.intercalate_append_of_ne_nil hu hv] at joined
      exact ⟨" ", by simp, _, head?_intercalate comments, by
        rw [joined]
        simp only [String.append_assoc]⟩
  obtain ⟨space, hspace, rest, semicolon, text⟩ := after
  refine ⟨space, hspace, ?_⟩
  have spaces : ∀ c ∈ space.toList, (c != ';') = true := by
    rcases List.mem_pair.mp hspace with rfl | rfl <;> simp
  have stop : rest.toList.takeWhile (· != ';') = [] := by
    cases e : rest.toList with
    | nil => rfl
    | cons c cs =>
        rw [e] at semicolon
        exact List.takeWhile_cons_of_neg (by simp [semicolon c rfl])
  rw [text, ← String.toList_inj, String.toList_ofList, String.toList_append,
    List.takeWhile_append_of_pos (fun c hc => ?_), stop, List.append_nil]
  rw [String.toList_append] at hc
  rcases List.mem_append.mp hc with hc | hc
  · exact clean c hc
  · exact spaces c hc

/-! ### What is read -/

/-- **Comments last.**  Verbs and comments are made and lines are ended, in any order.  The words of
the main file are those that were handed over, and of these the words of comments open a comment and
the words of verbs do not.  No word of a verb stands after a comment of its line, be that line ended
or open, if and only if no verb has handed over words while a comment stood on the open line.  If
every comment ends its line, no word stands after a comment in a line that is ended.  And what
stands in such a line before the first semicolon are its number and all its words but the comments,
as long as none of these has a semicolon of its own. -/
theorem comments_last (c : Config) {calls : List Call} (hc : ∀ call ∈ calls, call.IsSpoken) :
    let start := Writer.start c
    let main := (start.runAll calls).files.main
    main.words = taken (start.handedTo 0 calls) ∧
    (∀ v force noFlush w, ∀ word ∈ taken ((Call.verb v force noFlush).handed w),
      ¬ IsComment word) ∧
    (∀ text noFlush w, ∀ word ∈ taken ((Call.comment text noFlush).handed w), IsComment word) ∧
    (main.IsReadable ↔ ∀ before v force noFlush after,
      calls = before ++ .verb v force noFlush :: after →
      (∃ u ∈ (start.runAll before).files.main.pending, IsComment u) →
        taken ((Call.verb v force noFlush).handed (start.runAll before)) = []) ∧
    ((∀ text noFlush, .comment text noFlush ∈ calls → noFlush = false) →
      ∀ l ∈ main.lines.toList, IsReadable l.words) ∧
    ∀ l ∈ main.lines.toList, IsReadable l.words →
      (∀ word ∈ l.words, ¬ IsComment word → ';' ∉ word.toList) →
      ∃ space ∈ ["", " "], String.ofList (l.text.toList.takeWhile (· != ';')) =
        l.label ++ " ".intercalate (l.words.filter (¬ IsComment ·)) ++ space := by
  intro start main
  have opened : start.files.opened = none := rfl
  have fresh : start.files.main.IsReadable := ⟨List.forall_mem_nil _, .nil⟩
  refine ⟨?_, Call.not_isComment_verb, Call.isComment_comment, ?_, fun kept => ?_,
    fun l hl readable plain => ?_⟩
  · have words := start.wordsAt_runAll calls 0
    rwa [Writer.wordsAt_start, List.nil_append] at words
  · rw [Writer.isReadable_runAll opened hc, and_iff_right fresh]
    constructor
    · rintro spares before v force noFlush after split ⟨u, hu, comment⟩
      refine List.eq_nil_iff_forall_not_mem.mpr fun word hw => ?_
      exact Call.not_isComment_verb v force noFlush _ word hw
        (spares before _ after split u hu word hw comment)
    · intro spares before call after split u hu word hw comment
      have spoken := hc call (split ▸ List.mem_append_right _ (List.mem_cons_self ..))
      cases call with
      | verb v force noFlush =>
          rw [spares before v force noFlush after split ⟨u, hu, comment⟩] at hw
          cases hw
      | comment text noFlush => exact Call.isComment_comment text noFlush _ word hw
      | flush | flushAll => cases hw
      | _ => exact spoken.elim
  · have ends : start.EndsComments :=
      ⟨opened, List.forall_mem_nil _, .inl (List.forall_mem_nil _)⟩
    exact (Writer.endsComments_runAll ends hc kept).lines
  · have tidy := tidy_runAll c calls (List.mem_cons_self .. : main ∈ (start.runAll calls).files.files)
    exact Line.takeWhile_text (tidy.words l hl) readable plain

/-- A comment after a word on its line, and a word on the next line. -/
def remarks : List Call :=
  [.verb (.set (.feed (.int 60))) false true, .comment (.text "slow; down") false,
    .verb (.set (.speed (.int 900))) false false]

/-- The words are read, and the comment is not. -/
theorem comments_last_remarks : (∀ call ∈ remarks, call.IsSpoken) ∧
    (∀ text noFlush, .comment text noFlush ∈ remarks → noFlush = false) ∧
    let main := ((Writer.start {}).runAll remarks).files.main
    main.lines.toList.map Line.text = ["N10 F60 ; slow; down", "N20 S900"] ∧
      ∀ l ∈ main.lines.toList, IsReadable l.words := by
  have spoken : ∀ call ∈ remarks, call.IsSpoken := by
    simp [remarks, Call.IsSpoken]
  have kept : ∀ text noFlush, .comment text noFlush ∈ remarks → noFlush = false := by
    simp [remarks]
  obtain ⟨-, -, -, -, readable, -⟩ := comments_last {} spoken
  exact ⟨spoken, kept, by decide +kernel, readable kept⟩

/-- A comment on a line that stays open, and a move. -/
def keptRemark : List Call :=
  [.comment (.text "x") true, .verb (.rapid fun | .x => .int 1 | _ => .null) false false]

/-- **The move is lost** on a control that reads its line up to the semicolon. -/
theorem move_after_comment :
    let main := ((Writer.start {}).runAll keptRemark).files.main
    main.lines.toList.map Line.words = [["; x", "G0", "X1"]] ∧
      main.lines.toList.map Line.text = ["N10 ; x G0 X1"] ∧
      (∃ l ∈ main.lines.toList, ¬ IsReadable l.words) ∧
      main.lines.toList.map (fun l => String.ofList (l.text.toList.takeWhile (· != ';'))) =
        ["N10 "] := by
  decide +kernel

end Postprocessor
