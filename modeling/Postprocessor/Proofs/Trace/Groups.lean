import Mathlib.Data.List.Forall2
import Postprocessor.Proofs.Trace.Matches

/-!
# Proofs — records as groups of lines

The lines of a trace are cut at its marker lines: what stands before the first of them is dropped,
and every other line belongs to the marker line before it.  A record is what one such group says, by
itself.

* `MarkerLine`, `Group`, `Cut`: lines that are cut; `exists_cut` says that all lines can be.
* `Group.IsRecord`: the record of a group, told by its marker and the matches in its lines.
* `Reading.foldl_step_group`, `foldl_step_groups`: reading a group, and reading one after another.
* `records_groups`: the records of a trace are those of its groups.
-/

namespace Postprocessor.Trace
open Text Pattern

/-! ### Cutting lines -/

/-- A marker line: after any blanks a number between parentheses, an at sign, all the word
characters that follow, of which there is one at least, and the rest of the line. -/
structure MarkerLine where
  blanks : List Char
  number : List Char
  identifier : List Char
  rest : List Char
  isBlank_blanks : ∀ c ∈ blanks, isBlank c = true
  number_ne_nil : number ≠ []
  isDigit_number : ∀ c ∈ number, isDigit c = true
  identifier_ne_nil : identifier ≠ []
  isWord_identifier : ∀ c ∈ identifier, isWord c = true
  identifier_ends : ∀ c ∈ rest.head?, isWord c = false

namespace MarkerLine

/-- What stands before the identifier. -/
def front (m : MarkerLine) : List Char := m.blanks ++ '(' :: m.number ++ [')']

/-- The text of a marker line. -/
def text (m : MarkerLine) : List Char := m.front ++ '@' :: (m.identifier ++ m.rest)

end MarkerLine

/-- A marker line with the lines after it that open no block. -/
structure Group where
  marker : MarkerLine
  body : List (List Char)
  body_opens : ∀ line ∈ body, ¬ OpensBlock line

/-- The lines of a group. -/
def Group.lines (g : Group) : List (List Char) := g.marker.text :: g.body

/-- Lines that are cut at the marker lines. -/
structure Cut where
  prelude : List (List Char)
  groups : List Group
  prelude_opens : ∀ line ∈ prelude, ¬ OpensBlock line

/-- The lines that are cut. -/
def Cut.lines (c : Cut) : List (List Char) := c.prelude ++ c.groups.flatMap Group.lines

/-- **The marker lines** are the lines that open a block. -/
theorem opensBlock_iff {line : List Char} : OpensBlock line ↔ ∃ m : MarkerLine, m.text = line := by
  constructor
  · rintro ⟨blanks, number, c, rest, hb, hne, hd, hc, rfl⟩
    obtain ⟨whole, word, ends⟩ := (takeWhile_eq_iff isWord (c :: rest)).mp ⟨rfl, rfl⟩
    have identifier_ne_nil : (c :: rest).takeWhile isWord ≠ [] := by
      rw [List.takeWhile_cons_of_pos hc]
      exact List.cons_ne_nil _ _
    refine ⟨⟨blanks, number, _, _, hb, hne, hd, identifier_ne_nil, word, ends⟩, ?_⟩
    simp only [MarkerLine.text, MarkerLine.front, ← whole]
    simp
  · rintro ⟨m, rfl⟩
    obtain ⟨c, tail, e⟩ := List.exists_cons_of_ne_nil m.identifier_ne_nil
    have word := m.isWord_identifier c (by simp [e])
    refine ⟨m.blanks, m.number, c, tail ++ m.rest, m.isBlank_blanks, m.number_ne_nil,
      m.isDigit_number, word, ?_⟩
    simp [MarkerLine.text, MarkerLine.front, e]

/-- **All lines can be cut** at their marker lines. -/
theorem exists_cut (ls : List (List Char)) : ∃ cut : Cut, cut.lines = ls := by
  induction ls with
  | nil => exact ⟨⟨[], [], List.forall_mem_nil _⟩, rfl⟩
  | cons line ls ih =>
      obtain ⟨⟨prelude, groups, opens⟩, rfl⟩ := ih
      by_cases h : OpensBlock line
      · -- the lines before the next marker line belong to this one
        obtain ⟨m, rfl⟩ := opensBlock_iff.mp h
        exact ⟨⟨[], ⟨m, prelude, opens⟩ :: groups, List.forall_mem_nil _⟩, rfl⟩
      · exact ⟨⟨line :: prelude, groups, List.forall_mem_cons.mpr ⟨h, opens⟩⟩, rfl⟩

/-! ### The record of a group -/

/-- The parameters that assignments give: a key stands where it was first given, with the value that
it was given last. -/
structure IsTable (given : List Assignment) (params : Params) : Prop where
  keys : params.map Prod.fst = (given.map fun a => String.ofList a.key).eraseDups
  last : ∀ key, params.lookup key = (given.map Assignment.entry).reverse.lookup key

theorem isTable_giveAll (given : List Assignment) : IsTable given (giveAll [] given) := by
  rw [giveAll_eq]
  constructor
  · rw [Fields.keys_putAll, List.map_map]
    rfl
  · intro key
    rw [Fields.lookup_putAll_reverse, List.lookup_nil, Option.or_none]

namespace Group

/-- The record of a group that has `index` groups before it: the name that the identifier of its
marker stands for, and the parameters that the matches in its lines give. -/
structure IsRecord (g : Group) (index : Nat) (r : Record) : Prop where
  name : r.name = String.ofList (eventName g.marker.identifier)
  index : r.index = index
  params : ∃ given, List.Forall₂ IsGiven g.lines given ∧ IsTable given.flatten r.params

/-- The record of the group at a place. -/
def record (g : Group) (index : Nat) : Record :=
  ⟨String.ofList (eventName g.marker.identifier), index, giveAll [] (g.lines.flatMap scan)⟩

theorem isRecord_record (g : Group) (index : Nat) : g.IsRecord index (g.record index) := by
  refine ⟨rfl, rfl, g.lines.map scan, ?_, ?_⟩
  · exact List.forall₂_map_right_iff.mpr (List.forall₂_same.mpr fun _ _ => isGiven_iff.mpr rfl)
  · rw [← List.flatMap_def]
    exact isTable_giveAll _

/-- The two groups differ in the numbers of their markers, and in the blanks before them. -/
def IsRenumbered (g g' : Group) : Prop :=
  g'.marker.identifier = g.marker.identifier ∧ g'.marker.rest = g.marker.rest ∧ g'.body = g.body

end Group

/-! ### Reading groups -/

theorem MarkerLine.markerName?_text (m : MarkerLine) : markerName? m.text = some m.identifier := by
  have name : (m.identifier ++ m.rest).takeWhile isWord = m.identifier :=
    ((takeWhile_eq_iff _ _).mpr ⟨rfl, m.isWord_identifier, m.identifier_ends⟩).1
  have spelled : m.text =
      m.blanks ++ ('(' :: m.number ++ ')' :: '@' :: (m.identifier ++ m.rest)) := by
    simp [text, front]
  rw [spelled, markerName?_append m.isBlank_blanks,
    markerName?_of_number m.number_ne_nil m.isDigit_number, name,
    if_neg (by simpa using m.identifier_ne_nil)]

namespace Reading

/-- **Reading a group** closes the block before it and opens its own. -/
theorem foldl_step_group (r : Reading) (g : Group) : g.lines.foldl step r =
    ⟨r.close.done, some (String.ofList (eventName g.marker.identifier),
      giveAll [] (g.lines.flatMap scan))⟩ := by
  have body : ∀ line ∈ g.body, markerName? line = none :=
    fun line hl => markerName?_eq_none_iff.mpr (g.body_opens line hl)
  rw [Group.lines, List.foldl_cons, step, g.marker.markerName?_text,
    foldl_step_of_markerName?_eq_none body, List.flatMap_cons, giveAll_append]
  rfl

/-- The records after groups: those before them, and one for each. -/
theorem foldl_step_groups (r : Reading) (gs : List Group) :
    ((gs.flatMap Group.lines).foldl step r).close.done.toList =
      r.close.done.toList ++ gs.mapIdx fun i g => g.record (r.close.done.size + i) := by
  induction gs generalizing r with
  | nil => simp
  | cons g gs ih =>
      rw [List.flatMap_cons, List.foldl_append, ih, foldl_step_group, List.mapIdx_cons]
      simp [close, Group.record, Nat.add_assoc, Nat.add_comm 1]

end Reading

/-- The records of a text whose lines are cut: one for each group. -/
theorem records_of_cut {text : String} {cut : Cut} (h : cut.lines = lines text.toList) :
    (records text).toList = cut.groups.mapIdx fun i g => g.record i := by
  have prelude : cut.prelude.foldl Reading.step .start = .start :=
    Reading.foldl_step_start fun line hl =>
      markerName?_eq_none_iff.mpr (cut.prelude_opens line hl)
  rw [records, ← h, Cut.lines, List.foldl_append, prelude, Reading.foldl_step_groups]
  simp [Reading.start, Reading.close]

/-! ### The number of a marker -/

/-- No assignment is found before a character that belongs to none, unless its colon stands there
too. -/
theorem assignmentAt?_of_foreign {pre rest : List Char} {c : Char} (hp : ':' ∉ pre) (hc : c ≠ ':')
    (word : isWord c = false) (blank : isBlank c = false) :
    assignmentAt? (pre ++ c :: rest) = none := by
  rw [Option.eq_none_iff_forall_ne_some]
  rintro ⟨a, after⟩ h
  obtain ⟨key, gap, tail, e, hgap⟩ := assignmentAt?_eq_some h
  -- neither the key nor the blank after it has the character
  have foreign : c ∉ a.key ++ gap := by
    intro mem
    rcases List.mem_append.mp mem with mem | mem
    · rw [key c mem] at word
      cases word
    · rcases hgap with rfl | ⟨b, hb, rfl⟩
      · cases mem
      · obtain rfl := List.mem_singleton.mp mem
        rw [hb] at blank
        cases blank
  rcases List.append_eq_append_iff.mp e with ⟨z, hz, hrest⟩ | ⟨z, hz, hrest⟩
  · cases z with
    | nil => exact hc (List.cons.inj hrest).1
    | cons d z =>
        obtain rfl : c = d := (List.cons.inj hrest).1
        exact foreign (by simp [hz])
  · cases z with
    | nil => exact hc (List.cons.inj hrest).1.symm
    | cons d z =>
        obtain rfl : ':' = d := (List.cons.inj hrest).1
        exact hp (by simp [hz])

/-- A scan passes over a text without a colon in front of such a character. -/
theorem scan_append_foreign {pre rest : List Char} {c : Char} (hp : ':' ∉ pre) (hc : c ≠ ':')
    (word : isWord c = false) (blank : isBlank c = false) :
    scan (pre ++ c :: rest) = scan rest := by
  induction pre with
  | nil => exact scan_cons_of_none (assignmentAt?_of_foreign hp hc word blank)
  | cons d pre ih =>
      have hp' : ':' ∉ pre := fun mem => hp (List.mem_cons_of_mem _ mem)
      exact (scan_cons_of_none (assignmentAt?_of_foreign hp hc word blank)).trans (ih hp')

theorem MarkerLine.scan_text (m : MarkerLine) : scan m.text = scan (m.identifier ++ m.rest) := by
  refine scan_append_foreign ?_ (by decide) (by decide) (by decide)
  intro mem
  simp only [front, List.mem_append, List.mem_cons, List.append_assoc, List.cons_append] at mem
  rcases mem with mem | mem | mem | mem
  · exact absurd (m.isBlank_blanks ':' mem) (by decide)
  · exact absurd mem (by decide)
  · exact absurd (m.isDigit_number ':' mem) (by decide)
  · exact absurd mem (by decide)

/-- **The number of a marker has no influence** on the record of its group. -/
theorem Group.IsRenumbered.record_eq {g g' : Group} (h : g.IsRenumbered g') :
    g'.record = g.record := by
  obtain ⟨identifier, rest, body⟩ := h
  funext index
  simp only [record, lines, List.flatMap_cons, MarkerLine.scan_text, identifier, rest, body]

theorem mapIdx_record_eq {gs gs' : List Group} (h : List.Forall₂ Group.IsRenumbered gs gs') :
    (gs'.mapIdx fun i g => g.record i) = gs.mapIdx fun i g => g.record i := by
  have same : gs'.map Group.record = gs.map Group.record := by
    induction h with
    | nil => rfl
    | cons here _ ih => rw [List.map_cons, List.map_cons, here.record_eq, ih]
  have placed : ∀ gs : List Group, (gs.mapIdx fun i g => g.record i) =
      (gs.map Group.record).mapIdx fun i record => record i := by
    intro gs
    refine List.ext_getElem? fun i => ?_
    rw [List.getElem?_mapIdx, List.getElem?_mapIdx, List.getElem?_map, Option.map_map]
    rfl
  rw [placed, placed, same]

/-- **The records of a trace are those of its groups.**  The lines of a text can be cut into those
before the first marker line and one group for each marker line.  However they are cut so, there is
one record for each group, in order: its place is that of the group, its name is that of the
identifier of the marker, and its parameters are given by the matches in the lines of the group, so
that neither the lines before the first marker nor another group have any part in it.  Two texts
whose groups differ in the numbers of their markers only have the same records. -/
theorem records_groups (text : String) :
    (∃ cut : Cut, cut.lines = lines text.toList) ∧
    ∀ cut : Cut, cut.lines = lines text.toList →
      (records text).size = cut.groups.length ∧
      (∀ (i : Nat) (g : Group), cut.groups[i]? = some g →
        ∃ r, (records text)[i]? = some r ∧ g.IsRecord i r) ∧
      ∀ (other : String) (cut' : Cut), cut'.lines = lines other.toList →
        List.Forall₂ Group.IsRenumbered cut.groups cut'.groups → records other = records text := by
  refine ⟨exists_cut _, fun cut h => ?_⟩
  have found := records_of_cut h
  refine ⟨?_, ?_, ?_⟩
  · rw [← Array.length_toList, found, List.length_mapIdx]
  · intro i g hg
    refine ⟨g.record i, ?_, g.isRecord_record i⟩
    rw [← Array.getElem?_toList, found, List.getElem?_mapIdx, hg]
    rfl
  · intro other cut' h' renumbered
    exact Array.toList_inj.mp
      ((records_of_cut h').trans ((mapIdx_record_eq renumbered).trans found.symm))

/-- A line before the first marker, and the same event under another number. -/
theorem records_groups_renumbered : ∃ cut cut' : Cut,
    cut.lines = lines "x: 1\n(1)@move x: 2\ny: 3".toList ∧
      cut'.lines = lines "\t(07)@move x: 2\ny: 3".toList ∧
      List.Forall₂ Group.IsRenumbered cut.groups cut'.groups ∧
      (records "x: 1\n(1)@move x: 2\ny: 3").size = 1 ∧
      records "\t(07)@move x: 2\ny: 3" = records "x: 1\n(1)@move x: 2\ny: 3" := by
  have words : ∀ c ∈ "move".toList, isWord c = true := List.all_eq_true.mp (by decide)
  have body : ∀ line ∈ ["y: 3".toList], ¬ OpensBlock line := by decide
  have ends : ∀ c ∈ " x: 2".toList.head?, isWord c = false := by
    rintro c ⟨⟩
    decide
  let marker : MarkerLine := ⟨[], ['1'], "move".toList, " x: 2".toList, nofun, nofun,
    List.all_eq_true.mp rfl, nofun, words, ends⟩
  let renumbered : MarkerLine := ⟨['\t'], ['0', '7'], "move".toList, " x: 2".toList,
    List.all_eq_true.mp rfl, nofun, List.all_eq_true.mp rfl, nofun, words, ends⟩
  let cut : Cut := ⟨["x: 1".toList], [⟨marker, _, body⟩], by decide⟩
  let cut' : Cut := ⟨[], [⟨renumbered, _, body⟩], nofun⟩
  have first : cut.lines = lines "x: 1\n(1)@move x: 2\ny: 3".toList := rfl
  have second : cut'.lines = lines "\t(07)@move x: 2\ny: 3".toList := rfl
  have same : List.Forall₂ Group.IsRenumbered cut.groups cut'.groups :=
    .cons ⟨rfl, rfl, rfl⟩ .nil
  obtain ⟨-, told⟩ := records_groups "x: 1\n(1)@move x: 2\ny: 3"
  obtain ⟨size, -, number⟩ := told cut first
  exact ⟨cut, cut', first, second, same, size, number _ cut' second same⟩

end Postprocessor.Trace
