import Postprocessor.Text.Hangul
import Postprocessor.Text.Normal.Table

/-!
# The compatibility normal form

A text is decomposed into plain characters and marks, the marks are brought into the order of
their classes, and everything is composed again.

* `Normal.decompose`: a character in its parts.
* `Normal.order`: marks in the order of their classes.
* `Normal.compose`: parts composed again.
* `Normal.form`: the normal form of a text.
-/

namespace Postprocessor.Text.Normal

/-! ### Decomposition -/

/-- The text that a character of a run stands for. -/
def ImageRun.image? (r : ImageRun) (n : Nat) : Option (List Char) :=
  if n < r.first then none
  else match (r.images.splitOn " ")[n - r.first]? with
    | none | some "" => none
    | some image => some (image.toList.map fun c => if c == '␣' then ' ' else c)

/-- The text that a character stands for. -/
def image? (c : Char) : Option (List Char) := imageRuns.findSome? (·.image? c.toNat)

/-- Composed characters that the decompositions do not know yet. -/
def undecomposed : List Nat :=
  [0x1B06, 0x1B08, 0x1B0A, 0x1B0C, 0x1B0E, 0x1B12, 0x1B3B, 0x1B3D, 0x1B40, 0x1B41, 0x1B43, 0x1109A,
    0x1109C, 0x110AB, 0x1112E, 0x1112F, 0x1134B, 0x1134C, 0x114BB, 0x114BC, 0x114BE, 0x115BA,
    0x115BB, 0x11938]

/-- The character and the mark of which a character is composed. -/
def parts? (c : Char) : Option (Char × Char) :=
  if undecomposed.contains c.toNat then none
  else markRuns.findSome? fun r =>
    (r.composites.toList.idxOf? c).bind fun i =>
      (r.bases.toList[i]?).map fun base => (base, Char.ofNat r.mark)

/-- The most marks with which a character is composed. -/
abbrev mostMarks : Nat := 3

/-- A character in its parts, of which at most `marks` are marks to take off. -/
def decomposeMarks : Nat → Char → List Char
  | 0, c => [c]
  | marks + 1, c =>
    match image? c with
    | some cs => cs
    | none =>
      match parts? c with
      | some (base, mark) => decomposeMarks marks base ++ [mark]
      | none => [c]

/-- The letters of a syllable, in the forms in which they are joined. -/
def syllableParts (s : Syllable) : List Char :=
  [Char.ofNat (0x1100 + s.initial), Char.ofNat (0x1161 + s.vowel)]
    ++ if s.final.val = 0 then [] else [Char.ofNat (0x11A7 + s.final)]

/-- A character in its parts. -/
def decompose (c : Char) : List Char :=
  if c.toNat < 0xA0 then [c]
  else match Syllable.ofChar? c with
    | some s => syllableParts s
    | none => decomposeMarks mostMarks c

/-! ### Order -/

/-- The class of a mark; that of any other character is zero. -/
def markClass (c : Char) : Nat :=
  match markClasses.find? fun r => r.1 ≤ c.toNat && c.toNat ≤ r.2.1 with
  | some r => r.2.2
  | none => 0

/-- Puts a character before the first one that it must not pass: one that is no mark, or a mark
whose class is not lower. -/
def insertMark (c : Char) : List Char → List Char
  | [] => [c]
  | d :: rest =>
    if markClass d != 0 && markClass d < markClass c then d :: insertMark c rest else c :: d :: rest

/-- A text whose marks are in the order of their classes. -/
def order (cs : List Char) : List Char := cs.foldr insertMark []

theorem insertMark_perm (c : Char) (cs : List Char) : (insertMark c cs).Perm (c :: cs) := by
  induction cs with
  | nil => exact .refl _
  | cons d rest ih =>
    unfold insertMark
    split
    · exact (ih.cons d).trans (.swap c d rest)
    · exact .refl _

/-- Nothing is lost when marks are ordered. -/
theorem order_perm (cs : List Char) : (order cs).Perm cs := by
  induction cs with
  | nil => exact .refl _
  | cons c rest ih => exact (insertMark_perm c _).trans (ih.cons c)

/-! ### Composition -/

/-- The syllable of two letters, or of a syllable without a final consonant and such a
consonant. -/
def syllable? (base mark : Char) : Option Char :=
  let i := base.toNat - 0x1100
  let j := mark.toNat - 0x1161
  if 0x1100 ≤ base.toNat && i < 19 && 0x1161 ≤ mark.toNat && j < 21 then
    some (Char.ofNat (Syllable.first + (21 * i + j) * 28))
  else match Syllable.ofChar? base with
    | some s =>
      if s.final.val = 0 && 0x11A7 < mark.toNat && mark.toNat < 0x11A7 + 28 then
        some (Char.ofNat (base.toNat + (mark.toNat - 0x11A7)))
      else none
    | none => none

/-- The character that is composed of another one and a mark. -/
def composite? (base mark : Char) : Option Char :=
  (syllable? base mark).or <| markRuns.findSome? fun r =>
    if r.mark = mark.toNat then
      (r.bases.toList.idxOf? base).bind fun i => r.composites.toList[i]?
    else none

/-- A text composed from `start` on, with the marks after it that it was not composed with, the
last one first.  A mark is composed only if it is of a higher class than those. -/
def composeFrom (start : Char) (kept : List Char) : List Char → List Char
  | [] => start :: kept.reverse
  | c :: rest =>
    let reaches := match kept with
      | [] => true
      | m :: _ => markClass m < markClass c
    match if reaches then composite? start c else none with
    | some composed => composeFrom composed kept rest
    | none =>
      if markClass c = 0 then start :: kept.reverse ++ composeFrom c [] rest
      else composeFrom start (c :: kept) rest

/-- Parts composed again. -/
def compose : List Char → List Char
  | [] => []
  | c :: rest => composeFrom c [] rest

/-- The normal form of a text. -/
def form (cs : List Char) : List Char := compose (order (cs.flatMap decompose))

end Postprocessor.Text.Normal
