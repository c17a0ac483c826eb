/-!
# Texts in codes of several sets of characters

A text is written sign by sign, and where the next sign is of another set, a change of set is
written before it.

* `Sign`: a character, or a character with a mark after it where both have one code.
* `signs`: a text in signs.
* `encodeSigns`: the bytes of signs, or the first sign that has none.
-/

namespace Postprocessor.Text

/-- A character, with the mark after it where both have one code. -/
structure Sign where
  base : Char
  mark? : Option Char
  deriving DecidableEq, Repr

namespace Sign

/-- The characters of a sign. -/
def chars (s : Sign) : List Char := s.base :: s.mark?.toList

/-- Whether a sign is a character of ASCII. -/
def isAscii (s : Sign) : Bool := s.mark?.isNone && s.base.toNat < 128

/-- The byte of a character of ASCII, or the low byte of any other. -/
def byte (s : Sign) : UInt8 := s.base.toNat.toUInt8

end Sign

/-- A text in signs; `joins` says which characters have one code with a mark. -/
def signs (joins : Char → Char → Bool) : List Char → List Sign
  | [] => []
  | [c] => [⟨c, none⟩]
  | c :: d :: rest =>
    if joins c d then ⟨c, some d⟩ :: signs joins rest else ⟨c, none⟩ :: signs joins (d :: rest)

/-- Signs keep every character. -/
theorem flatMap_chars_signs (joins : Char → Char → Bool) (cs : List Char) :
    (signs joins cs).flatMap Sign.chars = cs := by
  fun_induction signs joins cs with
  | case1 => rfl
  | case2 => rfl
  | case3 c d rest _ ih => simp [Sign.chars, ih]
  | case4 c d rest _ ih => simpa [Sign.chars] using ih

/-- A text without marks in signs. -/
def plainSigns (cs : List Char) : List Sign := cs.map fun c => ⟨c, none⟩

/-- A code whose sets are of type `σ`, and what it remembers between signs is of type `μ`. -/
structure Switching (σ μ : Type) where
  /-- The set of a sign, and its bytes in that set. -/
  write? : Sign → Option (σ × List UInt8)
  /-- The bytes that change to a set. -/
  enter : μ → σ → μ × List UInt8
  /-- The bytes after the last sign. -/
  leave : μ → List UInt8

/-- The bytes of signs, or the first character that has none, with its position; `index` characters
are before the signs. -/
def encodeSigns {σ μ : Type} (code : Switching σ μ) (memory : μ) (index : Nat) :
    List Sign → Except (Nat × Char) (List UInt8)
  | [] => .ok (code.leave memory)
  | s :: rest =>
    match code.write? s with
    | none => .error (index, s.base)
    | some (set, bytes) =>
      let (memory, change) := code.enter memory set
      (encodeSigns code memory (index + s.chars.length) rest).map (change ++ bytes ++ ·)

/-- A code of one set. -/
def Switching.fixed (bytes? : Sign → Option (List UInt8)) : Switching Unit Unit where
  write? s := (bytes? s).map ((), ·)
  enter _ _ := ((), [])
  leave _ := []

/-- The bytes of a place in a code with rows of `width`: `lead` is the first byte of the first
row. -/
def rowBytes (width lead : Nat) (trail : Nat → Nat) (place : Nat) : List UInt8 :=
  [(lead + place / width).toUInt8, (trail (place % width)).toUInt8]

/-- The bytes of a place in rows of 94, counted from `first`. -/
def gridBytes (first place : Nat) : List UInt8 := rowBytes 94 first (first + ·) place

end Postprocessor.Text
