import Postprocessor.Text.Case
import Postprocessor.Text.HostName.Table
import Postprocessor.Text.Normal
import Postprocessor.Text.Parts
import Postprocessor.Text.Punycode
import Postprocessor.Text.Quoted

/-!
# Host names

A host name consists of labels between dots.  A label of ASCII stands as it is.  Any other is
prepared, so that spellings that look alike become the same, and then written in letters, digits
and hyphens after a mark of its own.

* `HostName.Fault`: why a text is no host name.
* `HostName.prepare`: a label without differences of case and of form.
* `HostName.encodeLabel`, `HostName.encode`: a label and a whole name in ASCII.
-/

namespace Postprocessor.Text.HostName

/-- Why a text is no host name. -/
inductive Fault where
  /-- A label without characters, or one that is too long. -/
  | badLength
  /-- The last label of a name of ASCII is too long. -/
  | tooLong
  | refused (c : Char)
  /-- Characters of both directions in a label. -/
  | mixed
  /-- A label with characters from right to left that does not start and end with one. -/
  | openEnds
  /-- A label that starts with the mark of written ones. -/
  | marked
  deriving DecidableEq, Repr

/-- The text that is reported. -/
def Fault.message : Fault → String
  | .badLength => "label empty or too long"
  | .tooLong => "label too long"
  | .refused c => "Invalid character " ++ String.ofList (quote [c])
  | .mixed => "Violation of BIDI requirement 2"
  | .openEnds => "Violation of BIDI requirement 3"
  | .marked => "Label starts with ACE prefix"

/-! ### Preparation -/

/-- The letters without a counterpart in the version of Unicode to which host names are bound. -/
def isCaseless (c : Char) : Bool := c == 'ı' || (0x1C80 ≤ c.toNat && c.toNat ≤ 0x1C88)

/-- A character without its case.  A letter is made small, then capital and small again, which
joins the different small forms of a letter. -/
def foldCase (c : Char) : List Char :=
  if isCaseless c then [c]
  else if c == 'Ϲ' then ['σ']
  else (((Normal.form [c]).flatMap lowerChar).flatMap upperChar).flatMap lowerChar

/-- A label without differences of case and of form. -/
def folded (cs : List Char) : List Char :=
  Normal.form ((cs.filter (!dropped.contains ·)).flatMap foldCase)

/-- Whether a label keeps to one direction. -/
def checkDirection (cs : List Char) : Except Fault Unit :=
  let isRight := rightToLeft.contains
  if !cs.any isRight then .ok ()
  else if cs.any leftToRight.contains then .error .mixed
  else if cs.head?.any isRight && cs.getLast?.any isRight then .ok ()
  else .error .openEnds

/-- A label in the form in which it is compared and written. -/
def prepare (cs : List Char) : Except Fault (List Char) :=
  let cs := folded cs
  match cs.find? refused.contains with
  | some c => .error (.refused c)
  | none => (checkDirection cs).map fun () => cs

/-! ### Labels -/

/-- The most characters of a label in ASCII. -/
abbrev labelLimit : Nat := 63

/-- The mark before a label that is written in letters, digits and hyphens. -/
def mark : List Char := "xn--".toList

/-- A label of a length that is allowed. -/
def checkLength (cs : List Char) : Except Fault (List Char) :=
  if cs.isEmpty || labelLimit < cs.length then .error .badLength else .ok cs

/-- Whether a text is in ASCII. -/
def isAscii (cs : List Char) : Bool := cs.all (·.toNat < 128)

/-- A label in ASCII. -/
def encodeLabel (cs : List Char) : Except Fault (List Char) :=
  if isAscii cs then checkLength cs
  else do
    let cs ← prepare cs
    if isAscii cs then checkLength cs
    else if mark.isPrefixOf cs then .error .marked
    else checkLength (mark ++ Punycode.encode cs)

/-- A label that is encoded has one to sixty-three characters. -/
theorem length_le_of_encodeLabel {cs out : List Char} (h : encodeLabel cs = .ok out) :
    out ≠ [] ∧ out.length ≤ labelLimit := by
  have key : ∀ l, checkLength l = .ok out → out ≠ [] ∧ out.length ≤ labelLimit := by
    intro l hl
    unfold checkLength at hl
    split at hl
    · cases hl
    · next hc =>
      cases hl
      simp only [Bool.or_eq_true, List.isEmpty_iff, decide_eq_true_eq, not_or] at hc
      exact ⟨hc.1, Nat.le_of_not_lt hc.2⟩
  unfold encodeLabel at h
  split at h
  · exact key _ h
  · cases hp : prepare cs with
    | error e => simp [hp, bind, Except.bind] at h
    | ok l =>
      simp only [hp, bind, Except.bind] at h
      split at h
      · exact key _ h
      · split at h
        · cases h
        · exact key _ h

/-! ### Names -/

/-- The characters that separate labels. -/
def isDot (c : Char) : Bool := ['.', '。', '．', '｡'].contains c

/-- A name of ASCII stands as it is, if all its labels are short enough and only the last one is
empty. -/
def checkAscii (cs : List Char) : Except Fault (List Char) := do
  let labels := partsAt (· == '.') cs
  for label in labels.dropLast do
    let _ ← checkLength label
  if (labels.getLast?.getD []).length ≤ labelLimit then return cs else throw .tooLong

/-- A host name in ASCII.  A dot after the last label is kept. -/
def encode (cs : List Char) : Except Fault (List Char) := do
  if cs.isEmpty then return []
  if isAscii cs then checkAscii cs
  else
    let labels := partsAt isDot cs
    let ends := labels.getLast?.all (·.isEmpty)
    let labels ← (if ends then labels.dropLast else labels).mapM encodeLabel
    return ['.'].intercalate labels ++ if ends then ['.'] else []

end Postprocessor.Text.HostName
