/-!
# Texts in letters, digits and hyphens

The characters of ASCII come first.  The others follow in ascending order: where each of them has
to be inserted is told by a number, counted on from the one before, and the numbers are written in
base 36 with digits of a varying range.

* `Punycode.steps`: the numbers for the characters beyond ASCII.
* `Punycode.digits`: a number in digits.
* `Punycode.encode`: a text in this form.
-/

namespace Postprocessor.Text.Punycode

/-- The digit of `d < 36`: the letters first. -/
def digit (d : Nat) : Char := if d < 26 then Char.ofNat (97 + d) else Char.ofNat (22 + d)

/-! ### Numbers -/

/-- The threshold of the digit after `place / 36` others: digits below it end a number. -/
def threshold (place bias : Nat) : Nat := min 26 (max 1 (place + 36 - bias))

theorem threshold_pos (place bias : Nat) : 0 < threshold place bias := by
  unfold threshold
  omega

theorem threshold_le (place bias : Nat) : threshold place bias ≤ 26 := by
  unfold threshold
  omega

/-- A number in digits from a place on. -/
def digits (bias place n : Nat) : List Char :=
  let t := threshold place bias
  if h : n < t then [digit n]
  else
    have : (n - t) / (36 - t) < n := by
      have := threshold_pos place bias
      have := threshold_le place bias
      calc (n - t) / (36 - t) ≤ n - t := Nat.div_le_self _ _
        _ < n := by omega
    digit (t + (n - t) % (36 - t)) :: digits bias (place + 36) ((n - t) / (36 - t))
termination_by n

/-- Divides a number by 35 until it is at most 455; `place` counts 36 for every division. -/
def shrink (place n : Nat) : Nat × Nat :=
  if 455 < n then shrink (place + 36) (n / 35) else (place, n)
termination_by n
decreasing_by omega

/-- The bias after a number, when `count` characters are inserted.  The first number is far greater
than the others. -/
def nextBias (n : Nat) (isFirst : Bool) (count : Nat) : Nat :=
  let n := if isFirst then n / 700 else n / 2
  let (place, n) := shrink 0 (n + n / count)
  place + 36 * n / (n + 38)

/-- Numbers in digits; `count` characters are there before the first of them. -/
def numbers (bias : Nat) (isFirst : Bool) (count : Nat) : List Nat → List Char
  | [] => []
  | n :: ns => digits bias 0 n ++ numbers (nextBias n isFirst (count + 1)) false (count + 1) ns

/-! ### Characters -/

/-- The numbers for the characters with the code `code` in a text, and what is counted after the
last of them; `counted` is what was counted before, and every character below `code` counts. -/
def stepsOf (code counted : Nat) : List Nat → List Nat × Nat
  | [] => ([], counted)
  | n :: ns =>
    if n = code then
      let (steps, counted') := stepsOf code 0 ns
      (counted :: steps, counted')
    else stepsOf code (if n < code then counted + 1 else counted) ns

/-- The numbers for the characters with the codes `codes`, in ascending order; `code` is the next
code after those that are done. -/
def stepsFrom (text : List Nat) (code counted : Nat) : List Nat → List Nat
  | [] => []
  | c :: codes =>
    let there := (text.filter (· < c)).length
    let (steps, counted) := stepsOf c (counted + (c - code) * (there + 1)) text
    steps ++ stepsFrom text (c + 1) (counted + 1) codes

/-- The numbers for the characters beyond ASCII. -/
def steps (text : List Nat) : List Nat :=
  stepsFrom text 128 0 ((text.filter (128 ≤ ·)).mergeSort).eraseDups

/-- A text in letters, digits and hyphens. -/
def encode (cs : List Char) : List Char :=
  let basic := cs.filter (·.toNat < 128)
  let rest := numbers 72 true basic.length (steps (cs.map Char.toNat))
  (if basic.isEmpty then [] else basic ++ ['-']) ++ rest

end Postprocessor.Text.Punycode
