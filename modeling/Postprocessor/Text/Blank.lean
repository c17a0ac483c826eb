import Postprocessor.Text.CharSet

/-!
# Blanks and line breaks

* `isBlank`: white space of every script, the separators of the ASCII control block included.
* `isBreak`: the characters that end a line; each of them is a blank (`isBlank_of_isBreak`).
* `trim`: a text without the blanks at its two ends.
* `squeeze`: a text with every run of blanks replaced by one space.
-/

namespace Postprocessor.Text

/-- The white space characters. -/
def blankTable : CharSet := ⟨
  [(0x9, 0xD), (0x1C, 0x20), (0x85, 0x85), (0xA0, 0xA0), (0x1680, 0x1680), (0x2000, 0x200A),
   (0x2028, 0x2029), (0x202F, 0x202F), (0x205F, 0x205F), (0x3000, 0x3000)]⟩

/-- The characters that end a line. -/
def breakTable : CharSet := ⟨[(0xA, 0xD), (0x1C, 0x1E), (0x85, 0x85), (0x2028, 0x2029)]⟩

/-- White space. -/
def isBlank (c : Char) : Bool := blankTable.contains c

/-- A line break, or a part of one: a carriage return and the line feed after it are one break. -/
def isBreak (c : Char) : Bool := breakTable.contains c

theorem isBlank_of_isBreak {c : Char} (h : isBreak c = true) : isBlank c = true := by
  simp [isBreak, isBlank, CharSet.contains, breakTable, blankTable] at h ⊢
  omega

/-! ### Trimming -/

/-- `cs` without the blanks it starts with. -/
def trimLeft (cs : List Char) : List Char := cs.dropWhile isBlank

/-- `cs` without the blanks it ends with. -/
def trimRight (cs : List Char) : List Char := (cs.reverse.dropWhile isBlank).reverse

/-- `cs` without the blanks at its two ends. -/
def trim (cs : List Char) : List Char := trimRight (trimLeft cs)

/-- `cs` with every run of blanks replaced by one space; `inside` says that the character before
`cs` is a blank. -/
def squeezeFrom (inside : Bool) : List Char → List Char
  | [] => []
  | c :: rest =>
    if isBlank c then
      if inside then squeezeFrom true rest else ' ' :: squeezeFrom true rest
    else c :: squeezeFrom false rest

/-- `cs` with every run of blanks replaced by one space. -/
def squeeze (cs : List Char) : List Char := squeezeFrom false cs

end Postprocessor.Text

namespace String
open Postprocessor

/-- The text without the blanks at its two ends. -/
def trimmed (s : String) : String := ofList (Text.trim s.toList)

end String
