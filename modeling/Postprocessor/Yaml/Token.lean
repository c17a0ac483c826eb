import Postprocessor.Text.Utf8
import Postprocessor.Yaml.Scalar

/-!
# Tokens of a Yaml text

* `Token`: the tokens.  The start and the end of an indented collection are tokens of their own.
* `anchorName`, `tagName`, `directive`: readers of the tokens that describe a node or a document.
-/

namespace Postprocessor.Yaml

/-- The name of a tag: a handle, if it has one, and what follows it. -/
structure TagName where
  handle : Option String
  suffix : String
  deriving DecidableEq, Repr, Inhabited

/-- A directive for the document after it. -/
inductive Directive where
  | version (major : Nat)
  /-- What a handle stands for. -/
  | handle (name stands : String)
  | other
  deriving DecidableEq, Repr, Inhabited

/-- A token. -/
inductive Token where
  | directive (d : Directive)
  | documentStart
  | documentEnd
  | blockSequenceStart
  | blockMappingStart
  | blockEnd
  | flowSequenceStart
  | flowSequenceEnd
  | flowMappingStart
  | flowMappingEnd
  /-- The hyphen before an item. -/
  | blockEntry
  /-- The comma between items. -/
  | flowEntry
  | key
  | value
  | alias (name : String)
  | anchor (name : String)
  | tag (name : TagName)
  /-- A scalar; `isPlain` says that it stands without quotes. -/
  | scalar (text : List CodePoint) (isPlain : Bool)
  deriving DecidableEq, Repr, Inhabited

/-! ### Anchors -/

/-- Reads the name of an anchor after its sign. -/
def anchorName : Reader String := do
  skip 1
  let name ← takeWhile isNameChar
  require !name.isEmpty
  let c ← ahead
  require (isSeparator c || ['?', ':', ',', ']', '\x7d', '%', '@', '\x60'].contains c)
  return String.ofList name

/-! ### Tags -/

/-- A character of a tag. -/
def isTagChar (c : Char) : Bool := c.isAlphanum || "-;/?:@&=+$,_.!~*'()[]".toList.contains c

/-- Reads the bytes that are written after percent signs. -/
def percentBytes : Nat → Reader (List UInt8)
  | 0 => return []
  | fuel + 1 => do
    if (← ahead) != '%' then return []
    skip 1
    match hexNumber? ((← get).rest.take 2) with
    | some n =>
      require ((← get).rest.length ≥ 2)
      skip 2
      return n.toUInt8 :: (← percentBytes fuel)
    | none => refuse

/-- Reads characters that are written by their bytes. -/
def percentChars (fuel : Nat) : Reader (List Char) := do
  match Text.Utf8.decode (← percentBytes fuel) with
  | .ok cs => return cs
  | .error _ => refuse

/-- Reads the characters of a tag; `done` is what was read before. -/
def tagCharsFrom (done : List Char) : Nat → Reader (List Char)
  | 0 => return done
  | fuel + 1 => do
    let run ← takeWhile isTagChar
    if (← ahead) == '%' then
      let cs ← percentChars fuel
      tagCharsFrom (done ++ run ++ cs) fuel
    else return done ++ run

/-- Reads the characters of a tag, of which there is at least one. -/
def tagChars : Reader String := do
  let fuel := (← get).rest.length + 1
  let cs ← tagCharsFrom [] fuel
  require !cs.isEmpty
  return String.ofList cs

/-- Reads the handle of a tag: one exclamation mark, or a name between two. -/
def tagHandle : Reader String := do
  require ((← ahead) == '!')
  skip 1
  if (← ahead) == ' ' then return "!"
  let name ← takeWhile isNameChar
  require ((← ahead) == '!')
  skip 1
  return String.ofList ('!' :: name ++ ['!'])

/-- Reads the tag after its exclamation mark. -/
def tagName : Reader TagName := do
  let c ← lookahead 1
  let name ←
    if c == '<' then do
      skip 2
      let suffix ← tagChars
      require ((← ahead) == '>')
      skip 1
      pure ⟨none, suffix⟩
    else if isSeparator c then do
      skip 1
      pure ⟨none, "!"⟩
    else do
      let word := ((← get).rest.drop 1).takeWhile (!isGap ·)
      let handle ← if word.contains '!' then tagHandle else do
        skip 1
        pure "!"
      pure ⟨some handle, ← tagChars⟩
  require (isGap (← ahead))
  return name

/-! ### Directives -/

/-- Reads a whole number. -/
def number : Reader Nat := do
  let digits ← takeWhile Char.isDigit
  require !digits.isEmpty
  return digits.foldl (fun n c => 10 * n + (c.toNat - 48)) 0

/-- Reads a directive after its percent sign. -/
def directive : Reader Directive := do
  skip 1
  let name ← takeWhile isNameChar
  require (!name.isEmpty && isGap (← ahead))
  let d ← match String.ofList name with
    | "YAML" => do
      skipSpaces
      let major ← number
      require ((← ahead) == '.')
      skip 1
      let _ ← number
      require (isGap (← ahead))
      pure (.version major)
    | "TAG" => do
      skipSpaces
      let handle ← tagHandle
      require ((← ahead) == ' ')
      skipSpaces
      let stands ← tagChars
      require (isGap (← ahead))
      pure (.handle handle stands)
    | _ => do
      let _ ← takeWhile (!isNewline ·)
      pure .other
  restOfLine
  return d

end Postprocessor.Yaml
