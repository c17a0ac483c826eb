import Postprocessor.Proofs.Fields
import Postprocessor.Proofs.Trace.Scanning
import Postprocessor.Trace.Record

/-!
# Proofs — reading what is written out

A trace may be laid out in many ways: a parameter may follow on the same line or on a later one, and
a line that opens no block may stand before the first block.  Whatever the layout, the records are
those of the blocks.

* `OpensBlock`: a line that opens a block; `isSome_markerName?_iff` says that these are the marker
  lines.
* `Parameter`, `Block`, `Layout`: a trace with all its blanks and breaks, and `Layout.text`, the
  text that it is.
* `Reading.readText`: reading a text, cut at every break; a blank at its start does not matter.
* `readText_block`: reading a block closes the one before and opens one with its name and its
  parameters.
* `records_text`: the records of a laid out trace.
-/

namespace Postprocessor.Trace
open Text

/-! ### Lines that open a block -/

/-- The line opens a block: after any blanks it has a number between parentheses, an at sign and a
word character. -/
def OpensBlock (line : List Char) : Prop :=
  ∃ blanks number c rest, (∀ b ∈ blanks, isBlank b = true) ∧ number ≠ [] ∧
    (∀ d ∈ number, isDigit d = true) ∧ isWord c = true ∧
    line = blanks ++ '(' :: number ++ ')' :: '@' :: c :: rest

/-- A blank at the start of a line does not matter. -/
theorem markerName?_cons_of_isBlank {c : Char} (h : isBlank c = true) (line : List Char) :
    markerName? (c :: line) = markerName? line := by
  have trimmed : trimLeft (c :: line) = trimLeft line := List.dropWhile_cons_of_pos h
  rw [markerName?, markerName?, trimmed]

theorem markerName?_append {blanks : List Char} (h : ∀ b ∈ blanks, isBlank b = true)
    (line : List Char) : markerName? (blanks ++ line) = markerName? line := by
  have trimmed : trimLeft (blanks ++ line) = trimLeft line := List.dropWhile_append_of_pos h
  rw [markerName?, markerName?, trimmed]

/-- A line that starts with a word character opens no block. -/
theorem markerName?_of_isWord {c : Char} (h : isWord c = true) (line : List Char) :
    markerName? (c :: line) = none := by
  have trimmed : trimLeft (c :: line) = c :: line :=
    List.dropWhile_cons_of_neg (by simp [not_isBlank_of_isWord h])
  have other : c ≠ '(' := by
    rintro rfl
    exact absurd h (by decide)
  rw [markerName?, trimmed]
  split
  · next rest e => exact absurd (List.cons.inj e).1 other
  · rfl

/-- On a line that starts with a number between parentheses and an at sign the identifier is the run
of word characters after that. -/
theorem markerName?_of_number {number : List Char} (hne : number ≠ [])
    (hd : ∀ d ∈ number, isDigit d = true) (line : List Char) :
    markerName? ('(' :: number ++ ')' :: '@' :: line) =
      if (line.takeWhile isWord).isEmpty then none else some (line.takeWhile isWord) := by
  have opening : isBlank '(' = false := by decide
  have closing : ∀ c ∈ (')' :: '@' :: line).head?, isDigit c = false := by
    rintro c ⟨⟩
    decide
  have trimmed : trimLeft ('(' :: number ++ ')' :: '@' :: line) =
      '(' :: (number ++ ')' :: '@' :: line) := List.dropWhile_cons_of_neg (by simp [opening])
  obtain ⟨digits, after⟩ :=
    (takeWhile_eq_iff isDigit (number ++ ')' :: '@' :: line)).mpr ⟨rfl, hd, closing⟩
  obtain ⟨d, ds, rfl⟩ := List.exists_cons_of_ne_nil hne
  rw [markerName?, trimmed]
  simp only [digits, after]

/-- **The marker lines** are the lines that open a block. -/
theorem isSome_markerName?_iff {line : List Char} :
    (markerName? line).isSome = true ↔ OpensBlock line := by
  constructor
  · intro h
    have whole : line.takeWhile isBlank ++ trimLeft line = line := List.takeWhile_append_dropWhile
    rw [markerName?] at h
    split at h
    · next rest trimmed =>
      split at h
      · next d ds rest' digits after =>
        have number : rest.takeWhile isDigit ++ rest.dropWhile isDigit = rest :=
          List.takeWhile_append_dropWhile
        rw [digits, after] at number
        -- a run of word characters that is not empty starts with one
        cases rest' with
        | nil => simp at h
        | cons c tail =>
            have word : isWord c = true := by
              cases hc : isWord c with
              | true => rfl
              | false => simp [hc] at h
            refine ⟨line.takeWhile isBlank, d :: ds, c, tail,
              List.all_eq_true.mp List.all_takeWhile, List.cons_ne_nil _ _, ?_, word, ?_⟩
            · rw [← digits]
              exact List.all_eq_true.mp List.all_takeWhile
            · rw [List.append_assoc, List.cons_append, number, ← trimmed, whole]
      · cases h
    · cases h
  · rintro ⟨blanks, number, c, rest, hb, hne, hd, hc, rfl⟩
    rw [List.append_assoc, markerName?_append hb, markerName?_of_number hne hd,
      List.takeWhile_cons_of_pos hc]
    rfl

theorem markerName?_eq_none_iff {line : List Char} :
    markerName? line = none ↔ ¬ OpensBlock line := by
  rw [← isSome_markerName?_iff, Option.not_isSome_iff_eq_none]

instance (line : List Char) : Decidable (OpensBlock line) :=
  decidable_of_iff _ isSome_markerName?_iff

/-! ### Layouts -/

/-- A parameter as it stands in a trace: blanks and breaks, and after them an assignment. -/
structure Parameter where
  gap : List Char
  assignment : Assignment
  gap_ne_nil : gap ≠ []
  isBlank_gap : ∀ c ∈ gap, isBlank c = true
  proper : assignment.IsProper

namespace Parameter

/-- The text of a parameter. -/
def text (p : Parameter) : List Char := p.gap ++ p.assignment.text

/-- The parameter as a record has it. -/
def entry (p : Parameter) : String × Value := (String.ofList p.assignment.key, p.assignment.value)

end Parameter

/-- A block as it stands in a trace.  No two parameters have the same key. -/
structure Block where
  /-- The blanks and breaks before the marker. -/
  lead : List Char
  number : List Char
  identifier : List Char
  params : List Parameter
  isBlank_lead : ∀ c ∈ lead, isBlank c = true
  number_ne_nil : number ≠ []
  isDigit_number : ∀ c ∈ number, isDigit c = true
  identifier_ne_nil : identifier ≠ []
  isWord_identifier : ∀ c ∈ identifier, isWord c = true
  nodup_keys : (params.map fun p => p.assignment.key).Nodup

namespace Block

/-- The marker of the block. -/
def marker (b : Block) : List Char := '(' :: b.number ++ ')' :: '@' :: b.identifier

/-- The text of a block. -/
def text (b : Block) : List Char := b.lead ++ (b.marker ++ b.params.flatMap Parameter.text)

/-- The record of the block at a place. -/
def record (b : Block) (index : Nat) : Record :=
  ⟨String.ofList (eventName b.identifier), index, b.params.map Parameter.entry⟩

end Block

/-- A trace as it is laid out.  What stands before the first block are lines that open no block, and
every other block starts on a new line. -/
structure Layout where
  prelude : List Char
  blocks : List Block
  prelude_ended : prelude ≠ [] → ∃ c ∈ prelude.getLast?, isBreak c = true
  prelude_opens : ∀ line ∈ lines prelude, ¬ OpensBlock line
  separated : ∀ b ∈ blocks.tail, ∃ c ∈ b.lead.head?, isBreak c = true

/-- The text of a trace. -/
def Layout.text (t : Layout) : List Char := t.prelude ++ t.blocks.flatMap Block.text

/-! ### Reading a text -/

/-- An assignment as an entry of the parameters. -/
def Assignment.entry (a : Assignment) : String × Value := (String.ofList a.key, a.value)

/-- The parameters after assignments. -/
def giveAll (params : Params) (given : List Assignment) : Params :=
  given.foldl (fun ps a => Fields.put ps (String.ofList a.key) a.value) params

theorem giveAll_append (params : Params) (given more : List Assignment) :
    giveAll params (given ++ more) = giveAll (giveAll params given) more := List.foldl_append

theorem giveAll_eq (params : Params) (given : List Assignment) :
    giveAll params given = Fields.putAll params (given.map Assignment.entry) := by
  rw [Fields.putAll, List.foldl_map]
  rfl

theorem assign_eq (params : Params) (line : List Char) :
    assign params line = giveAll params (scan line) := rfl

theorem assign_cons_of_isBlank {c : Char} (h : isBlank c = true) (params : Params)
    (line : List Char) : assign params (c :: line) = assign params line := by
  have nothing : assignmentAt? (c :: line) = none := by
    rw [assignmentAt?, List.takeWhile_cons_of_neg (by simp [not_isWord_of_isBlank h])]
    rfl
  rw [assign_eq, assign_eq, scan_cons_of_none nothing]

namespace Reading

/-- Reads a text that is cut at every break. -/
def readText (r : Reading) (cs : List Char) : Reading := (partsAt isBreak cs).foldl step r

/-- An empty line changes nothing. -/
theorem step_nil (r : Reading) : r.step [] = r := by
  obtain ⟨done, _ | block⟩ := r <;> rfl

theorem readText_nil (r : Reading) : r.readText [] = r := r.step_nil

theorem step_cons_of_isBlank (r : Reading) {c : Char} (h : isBlank c = true) (line : List Char) :
    r.step (c :: line) = r.step line := by
  rw [step, step, markerName?_cons_of_isBlank h]
  simp only [assign_cons_of_isBlank h]

/-- **A blank at the start of a text** does not matter, and neither does a break. -/
theorem readText_cons_of_isBlank (r : Reading) {c : Char} (h : isBlank c = true) (cs : List Char) :
    r.readText (c :: cs) = r.readText cs := by
  by_cases hbreak : isBreak c = true
  · rw [readText, partsAt_cons_of_between hbreak, List.foldl_cons, step_nil]
    rfl
  · obtain ⟨part, parts, e⟩ := List.exists_cons_of_ne_nil (partsAt_ne_nil isBreak cs)
    rw [readText, readText, e, partsAt_cons_of_not (by simpa using hbreak) e, List.foldl_cons,
      List.foldl_cons, step_cons_of_isBlank r h]

theorem readText_append_of_isBlank (r : Reading) {blanks : List Char}
    (h : ∀ c ∈ blanks, isBlank c = true) (cs : List Char) :
    r.readText (blanks ++ cs) = r.readText cs := by
  induction blanks with
  | nil => rfl
  | cons c blanks ih =>
      rw [List.cons_append, readText_cons_of_isBlank r (h c (List.mem_cons_self ..))]
      exact ih fun d hd => h d (List.mem_cons_of_mem _ hd)

/-- **A text in two parts**, the second of which starts with a break, is read one after the
other. -/
theorem readText_append (r : Reading) (cs : List Char) {more : List Char}
    (h : more ≠ [] → ∃ c ∈ more.head?, isBreak c = true) :
    r.readText (cs ++ more) = (r.readText cs).readText more := by
  cases more with
  | nil => rw [List.append_nil, readText_nil]
  | cons c more =>
      obtain ⟨d, hd, hbreak⟩ := h (List.cons_ne_nil _ _)
      obtain rfl : c = d := Option.some.inj hd
      rw [readText_cons_of_isBlank _ (isBlank_of_isBreak hbreak), readText,
        partsAt_append_cons cs more hbreak, List.foldl_append]
      rfl

/-- The same where the first part ends with a break. -/
theorem readText_append_of_ended (r : Reading) {cs : List Char}
    (h : cs ≠ [] → ∃ c ∈ cs.getLast?, isBreak c = true) (more : List Char) :
    r.readText (cs ++ more) = (r.readText cs).readText more := by
  rcases List.eq_nil_or_concat cs with rfl | ⟨front, c, rfl⟩
  · rw [List.nil_append, readText_nil]
  · rw [List.concat_eq_append] at h ⊢
    obtain ⟨d, hd, hbreak⟩ := h (by simp)
    obtain rfl : c = d := by simpa using hd
    have blank := isBlank_of_isBreak hbreak
    have cut : ∀ rest, r.readText (front ++ c :: rest) = (r.readText front).readText rest := by
      intro rest
      rw [readText_append r front fun _ => ⟨c, rfl, hbreak⟩, readText_cons_of_isBlank _ blank]
    rw [List.append_assoc, List.singleton_append, cut, cut, readText_nil]

/-- Lines that open no block give the open block their parameters. -/
theorem foldl_step_of_markerName?_eq_none {ls : List (List Char)}
    (h : ∀ line ∈ ls, markerName? line = none) (r : Reading) :
    ls.foldl step r =
      ⟨r.done, r.opened.map fun block => (block.1, giveAll block.2 (ls.flatMap scan))⟩ := by
  induction ls generalizing r with
  | nil =>
      obtain ⟨done, _ | block⟩ := r <;> rfl
  | cons line ls ih =>
      have here := h line (List.mem_cons_self ..)
      rw [List.foldl_cons, ih (fun l hl => h l (List.mem_cons_of_mem _ hl)), step, here,
        List.flatMap_cons]
      obtain ⟨done, _ | block⟩ := r
      · rfl
      · simp only [Option.map_some, giveAll_append, assign_eq]

/-- Lines that open no block are passed over before the first block. -/
theorem foldl_step_start {ls : List (List Char)} (h : ∀ line ∈ ls, markerName? line = none) :
    ls.foldl step start = start := foldl_step_of_markerName?_eq_none h start

end Reading

/-- The records of a trace, read as a text that is cut at every break. -/
theorem records_eq (text : String) :
    records text = (Reading.start.readText text.toList).close.done := by
  rw [records, foldl_lines Reading.step_nil]
  rfl

/-! ### Reading a block -/

/-- No line of a text that starts with a blank opens a block if none does without it. -/
theorem markerName?_parts_cons {c : Char} (hc : isBlank c = true) {cs : List Char}
    (h : ∀ line ∈ partsAt isBreak cs, markerName? line = none) :
    ∀ line ∈ partsAt isBreak (c :: cs), markerName? line = none := by
  by_cases hbreak : isBreak c = true
  · rw [partsAt_cons_of_between hbreak]
    exact List.forall_mem_cons.mpr ⟨rfl, h⟩
  · obtain ⟨part, parts, e⟩ := List.exists_cons_of_ne_nil (partsAt_ne_nil isBreak cs)
    rw [e] at h
    rw [partsAt_cons_of_not (by simpa using hbreak) e]
    obtain ⟨first, rest⟩ := List.forall_mem_cons.mp h
    exact List.forall_mem_cons.mpr ⟨(markerName?_cons_of_isBlank hc part).trans first, rest⟩

/-- No line on which a parameter stands, or which follows, opens a block. -/
theorem markerName?_parts_params (ps : List Parameter) :
    ∀ line ∈ partsAt isBreak (ps.flatMap Parameter.text), markerName? line = none := by
  induction ps with
  | nil => exact List.forall_mem_singleton.mpr rfl
  | cons p ps ih =>
      -- the line of the assignment starts with its key
      have assignment : ∀ line ∈ partsAt isBreak (p.assignment.text ++ ps.flatMap Parameter.text),
          markerName? line = none := by
        obtain ⟨part, parts, e⟩ :=
          List.exists_cons_of_ne_nil (partsAt_ne_nil isBreak (ps.flatMap Parameter.text))
        obtain ⟨c, rest, htext, word⟩ := p.proper.head_text
        rw [e] at ih
        rw [partsAt_append p.proper.not_isBreak e, htext]
        exact List.forall_mem_cons.mpr
          ⟨markerName?_of_isWord word _, (List.forall_mem_cons.mp ih).2⟩
      rw [List.flatMap_cons, Parameter.text, List.append_assoc]
      have blanks := p.isBlank_gap
      generalize p.gap = gap at blanks
      induction gap with
      | nil => exact assignment
      | cons c gap ihgap =>
          exact markerName?_parts_cons (blanks c (List.mem_cons_self ..))
            (ihgap fun d hd => blanks d (List.mem_cons_of_mem _ hd))

/-- The parameters start with a blank. -/
theorem isBlank_head_params (ps : List Parameter) :
    ∀ c ∈ (ps.flatMap Parameter.text).head?, isBlank c = true := by
  intro c hc
  cases ps with
  | nil => cases hc
  | cons p ps =>
      obtain ⟨b, gap, e⟩ := List.exists_cons_of_ne_nil p.gap_ne_nil
      rw [List.flatMap_cons, Parameter.text, e] at hc
      obtain rfl : b = c := Option.some.inj hc
      exact p.isBlank_gap b (by simp [e])

/-- **The assignments of a block** are those of its parameters; nothing is found before them. -/
theorem assignmentsIn_params {pre : List Char} (hc : ':' ∉ pre) (ps : List Parameter) :
    assignmentsIn (pre ++ ps.flatMap Parameter.text) = ps.map Parameter.assignment := by
  induction ps generalizing pre with
  | nil => exact assignmentsIn_skip hc fun h => absurd rfl h
  | cons p ps ih =>
      have colon : ':' ∉ pre ++ p.gap := by
        intro h
        rcases List.mem_append.mp h with h | h
        · exact hc h
        · exact absurd (p.isBlank_gap ':' h) (by decide)
      have split : pre ++ (p :: ps).flatMap Parameter.text =
          (pre ++ p.gap) ++ (p.assignment.text ++ ps.flatMap Parameter.text) := by
        simp [Parameter.text]
      have skipped : assignmentsIn ((pre ++ p.gap) ++
          (p.assignment.text ++ ps.flatMap Parameter.text)) =
          assignmentsIn (p.assignment.text ++ ps.flatMap Parameter.text) := by
        refine assignmentsIn_skip colon fun _ _ => ⟨?_, fun head => ?_⟩
        · refine ⟨p.gap.getLast p.gap_ne_nil, ?_, p.isBlank_gap _ (List.getLast_mem _)⟩
          rw [List.getLast?_append, List.getLast?_eq_some_getLast p.gap_ne_nil]
          rfl
        · obtain ⟨c, rest, htext, word⟩ := p.proper.head_text
          rw [htext] at head
          obtain rfl : c = ':' := Option.some.inj head
          exact absurd word (by decide)
      rw [split, skipped, assignmentsIn_text p.proper (isBlank_head_params ps), List.map_cons]
      have rest : assignmentsIn (ps.flatMap Parameter.text) = ps.map Parameter.assignment :=
        ih List.not_mem_nil
      rw [rest]

theorem Block.not_isBlank_marker (b : Block) : ∀ c ∈ b.marker, isBlank c = false := by
  intro c hc
  simp only [Block.marker, List.cons_append, List.mem_cons, List.mem_append] at hc
  rcases hc with rfl | hc | rfl | rfl | hc
  · decide
  · exact not_isBlank_of_isDigit (b.isDigit_number c hc)
  · decide
  · decide
  · exact not_isBlank_of_isWord (b.isWord_identifier c hc)

theorem Block.colon_not_mem_marker (b : Block) : ':' ∉ b.marker := by
  intro h
  simp only [Block.marker, List.cons_append, List.mem_cons, List.mem_append] at h
  rcases h with h | h | h | h | h
  · exact absurd h (by decide)
  · exact absurd (b.isDigit_number ':' h) (by decide)
  · exact absurd h (by decide)
  · exact absurd h (by decide)
  · exact absurd (b.isWord_identifier ':' h) (by decide)

/-- Assignments to different keys are taken over as they stand. -/
theorem giveAll_of_nodup {params : Params} {given : List Assignment}
    (h : (params.map Prod.fst ++ given.map fun a => String.ofList a.key).Nodup) :
    giveAll params given = params ++ given.map Assignment.entry := by
  rw [giveAll_eq]
  refine Fields.putAll_of_nodup ?_
  rwa [List.map_append, List.map_map]

/-- The parameters of a block as a record has them. -/
theorem Block.giveAll_params (b : Block) :
    giveAll [] (b.params.map Parameter.assignment) = b.params.map Parameter.entry := by
  have distinct : (([] : Params).map Prod.fst ++
      (b.params.map Parameter.assignment).map fun a => String.ofList a.key).Nodup := by
    rw [List.map_nil, List.nil_append, List.map_map]
    have keys : ((b.params.map fun p => p.assignment.key).map String.ofList).Nodup :=
      List.Pairwise.map String.ofList (fun _ _ hne e => hne (String.ofList_injective e))
        b.nodup_keys
    rwa [List.map_map] at keys
  rw [giveAll_of_nodup distinct, List.nil_append, List.map_map]
  rfl

/-- **Reading a block** closes the block before it and opens one with its name and parameters. -/
theorem readText_block (r : Reading) (b : Block) : r.readText b.text =
    ⟨r.close.done,
      some (String.ofList (eventName b.identifier), b.params.map Parameter.entry)⟩ := by
  obtain ⟨part, parts, e⟩ :=
    List.exists_cons_of_ne_nil (partsAt_ne_nil isBreak (b.params.flatMap Parameter.text))
  have solid : ∀ c ∈ b.marker, isBreak c = false :=
    fun c hc => not_isBreak_of_not_isBlank (b.not_isBlank_marker c hc)
  -- the identifier ends where the first parameter starts
  have stop : ∀ c ∈ part.head?, isWord c = false := fun c hc =>
    not_isWord_of_isBlank (isBlank_head_params b.params c (mem_head?_of_partsAt e hc))
  have opens : markerName? (b.marker ++ part) = some b.identifier := by
    have name : (b.identifier ++ part).takeWhile isWord = b.identifier :=
      ((takeWhile_eq_iff _ _).mpr ⟨rfl, b.isWord_identifier, stop⟩).1
    have spelled : b.marker ++ part = '(' :: b.number ++ ')' :: '@' :: (b.identifier ++ part) := by
      simp [Block.marker]
    rw [spelled, markerName?_of_number b.number_ne_nil b.isDigit_number, name,
      if_neg (by simpa using b.identifier_ne_nil)]
  have rest : ∀ line ∈ parts, markerName? line = none := by
    intro line hl
    exact markerName?_parts_params b.params line (by simp [e, hl])
  have cut : partsAt isBreak (b.marker ++ b.params.flatMap Parameter.text) =
      (b.marker ++ part) :: parts := partsAt_append solid e
  have given :
      scan (b.marker ++ part) ++ parts.flatMap scan = b.params.map Parameter.assignment := by
    rw [← assignmentsIn_params b.colon_not_mem_marker b.params, assignmentsIn, cut,
      List.flatMap_cons]
  rw [Block.text, Reading.readText_append_of_isBlank r b.isBlank_lead, Reading.readText, cut,
    List.foldl_cons, Reading.step, opens, Reading.foldl_step_of_markerName?_eq_none rest]
  simp only [Option.map_some, assign_eq]
  rw [← giveAll_append, given, b.giveAll_params]

/-- The records after the blocks of a trace: those before them, and one for each. -/
theorem readText_blocks (r : Reading) {bs : List Block}
    (h : ∀ b ∈ bs.tail, ∃ c ∈ b.lead.head?, isBreak c = true) :
    (r.readText (bs.flatMap Block.text)).close.done.toList =
      r.close.done.toList ++ bs.mapIdx fun i b => b.record (r.close.done.size + i) := by
  induction bs generalizing r with
  | nil => simp [Reading.readText_nil]
  | cons b bs ih =>
      have newLine : bs.flatMap Block.text ≠ [] →
          ∃ c ∈ (bs.flatMap Block.text).head?, isBreak c = true := by
        intro hne
        cases bs with
        | nil => exact absurd rfl hne
        | cons b' bs =>
            obtain ⟨c, hc, hbreak⟩ := h b' (List.mem_cons_self ..)
            refine ⟨c, ?_, hbreak⟩
            rw [List.flatMap_cons, Block.text, List.append_assoc, List.head?_append,
              Option.mem_def.mp hc]
            rfl
      have rest := ih (r.readText b.text) fun b' hb' => h b' (List.mem_of_mem_tail hb')
      rw [List.flatMap_cons, Reading.readText_append r b.text newLine, rest, readText_block,
        List.mapIdx_cons]
      simp [Reading.close, Block.record, Nat.add_assoc, Nat.add_comm 1]

/-- **Reading undoes writing.**  However a trace is laid out, its records are those of its blocks in
order: each has the place of its block, the name that the identifier stands for, and the parameters
in the order in which they are written, quoted texts as they stand and bare tokens by their form. -/
theorem records_text (t : Layout) :
    (records (String.ofList t.text)).toList = t.blocks.mapIdx fun i b => b.record i := by
  have passed : Reading.start.readText t.prelude = Reading.start := by
    rw [Reading.readText, ← foldl_lines Reading.step_nil]
    exact Reading.foldl_step_start fun line hl =>
      markerName?_eq_none_iff.mpr (t.prelude_opens line hl)
  rw [records_eq, String.toList_ofList, Layout.text,
    Reading.readText_append_of_ended _ t.prelude_ended, passed, readText_blocks _ t.separated]
  simp [Reading.start, Reading.close]

/-- A line before the first block, a parameter on a line of its own, and a quoted text that looks
like a parameter and a marker. -/
example : ∃ t : Layout,
    String.ofList t.text = "%\r\n (12)@rapid_move\n xpos: 'y: 2 (3)@b'  feed: .5mm" := by
  have quoted : "y: 2 (3)@b".toList.all (fun c => c != '\'' && !isBreak c) = true := rfl
  have bare : ".5mm".toList.all (!isBlank ·) = true := rfl
  let xpos : Parameter := ⟨['\n', ' '], ⟨"xpos".toList, "y: 2 (3)@b".toList, true⟩, nofun,
    List.all_eq_true.mp rfl,
    ⟨nofun, List.all_eq_true.mp rfl, fun _ => by simpa using List.all_eq_true.mp quoted, nofun,
      nofun, nofun⟩⟩
  let feed : Parameter := ⟨[' ', ' '], ⟨"feed".toList, ".5mm".toList, false⟩, nofun,
    List.all_eq_true.mp rfl,
    ⟨nofun, List.all_eq_true.mp rfl, nofun, nofun, fun _ => by simpa using List.all_eq_true.mp bare,
      fun _ => by decide⟩⟩
  let block : Block := ⟨[' '], ['1', '2'], "rapid_move".toList, [xpos, feed],
    List.all_eq_true.mp rfl, nofun, List.all_eq_true.mp rfl, nofun, List.all_eq_true.mp rfl,
    (by decide : ["xpos".toList, "feed".toList].Nodup)⟩
  exact ⟨⟨['%', '\r', '\n'], [block], fun _ => ⟨'\n', rfl, rfl⟩, by decide, nofun⟩, rfl⟩

end Postprocessor.Trace
