import Postprocessor.Yaml.Token

/-!
# The tokens of a text

Outside of brackets the indentation shows where collections start and end.  A key is known as such
only by the colon after it, so every token that may start a key is remembered until its line ends;
at the colon, the tokens for the key are put in front of it.

* `PossibleKey`: a place where a key may have started.
* `Layout`: the tokens read so far, the indentation and the possible keys.
* `TokenStream`: tokens, and what is wrong with the text after them.
* `TokenStream.ofText`: the tokens of a text.
-/

namespace Postprocessor.Yaml

/-- A place where a key may have started. -/
structure PossibleKey where
  /-- The number of tokens before it. -/
  place : Nat
  /-- Whether nothing but a key can stand there. -/
  required : Bool
  index : Nat
  line : Nat
  column : Nat
  deriving Repr, Inhabited

/-- The state of a text that is being read. -/
structure Layout where
  cursor : Cursor
  tokens : Array Token
  /-- The number of open brackets. -/
  flowLevel : Nat
  /-- The column of the innermost indented collection, `-1` outside of all. -/
  indent : Int
  /-- The columns of the collections around it. -/
  outer : List Int
  /-- Whether a key may start here. -/
  keyAllowed : Bool
  /-- The possible keys, by the number of open brackets. -/
  keys : List (Nat × PossibleKey)
  deriving Inhabited

/-- A step of the reading. -/
abbrev Scanner (α : Type) : Type := StateT Layout (Except Fault) α

namespace Layout

/-- A text before anything is read. -/
def start (text : List Char) : Layout := ⟨.start text, #[], 0, -1, [], true, []⟩

/-- Reads with a reader of the text. -/
def read {α : Type} (reader : Reader α) : Scanner α :=
  fun l => (reader l.cursor).map fun (a, c) => (a, { l with cursor := c })

/-- Refuses the text unless a condition holds. -/
def demand (condition : Bool) : Scanner Unit := read (require condition)

/-- Adds a token. -/
def push (t : Token) : Scanner Unit := modify fun l => { l with tokens := l.tokens.push t }

/-- Puts a token at an earlier place. -/
def insert (place : Nat) (t : Token) : Scanner Unit :=
  modify fun l =>
    { l with tokens := (l.tokens.toList.take place ++ t :: l.tokens.toList.drop place).toArray }

/-- Says whether a key may start next. -/
def allowKey (allowed : Bool) : Scanner Unit := modify fun l => { l with keyAllowed := allowed }

/-- Whether the text is outside of all brackets. -/
def inBlocks : Scanner Bool := return (← get).flowLevel == 0

/-! ### Indentation -/

/-- Ends the collections that are indented more than a column. -/
def closeTo (column : Int) : Nat → Scanner Unit
  | 0 => pure ()
  | fuel + 1 => do
    let l ← get
    if column < l.indent then
      push .blockEnd
      modify fun l => { l with indent := l.outer.headD (-1), outer := l.outer.tail }
      closeTo column fuel

/-- Ends the collections that are indented more than a column, outside of brackets. -/
def unwind (column : Int) : Scanner Unit := do
  if ← inBlocks then closeTo column ((← get).outer.length + 1)

/-- Opens an indentation, if the column is further in; says whether it is. -/
def indentTo (column : Nat) : Scanner Bool := do
  let l ← get
  if l.indent < column then
    set { l with indent := column, outer := l.indent :: l.outer }
    return true
  return false

/-! ### Possible keys -/

/-- Whether a colon here would come too late for a possible key. -/
def isStale (l : Layout) (key : PossibleKey) : Bool :=
  key.line != l.cursor.line || 1024 < l.cursor.index - key.index

/-- Drops the possible keys that a colon here would come too late for. -/
def dropStale : Scanner Unit := do
  let l ← get
  demand (l.keys.all fun k => !(l.isStale k.2 && k.2.required))
  set { l with keys := l.keys.filter (!l.isStale ·.2) }

/-- Drops the possible key at the present level. -/
def dropKey : Scanner Unit := do
  let l ← get
  demand (l.keys.all fun k => !(k.1 == l.flowLevel && k.2.required))
  set { l with keys := l.keys.filter (·.1 != l.flowLevel) }

/-- Remembers that a key may start here. -/
def noteKey : Scanner Unit := do
  if (← get).keyAllowed then
    dropKey
    let l ← get
    let c := l.cursor
    let required := l.flowLevel == 0 && l.indent == c.column
    let key : PossibleKey := ⟨l.tokens.size, required, c.index, c.line, c.column⟩
    set { l with keys := (l.flowLevel, key) :: l.keys }

/-! ### Tokens -/

/-- Passes over blanks, comments and line breaks. -/
def skipToToken : Nat → Scanner Unit
  | 0 => pure ()
  | fuel + 1 => do
    read skipSpaces
    read skipComment
    match ← read lineBreak? with
    | some _ =>
      if ← inBlocks then allowKey true
      skipToToken fuel
    | none => pure ()

/-- A token of some characters. -/
def mark (length : Nat) (t : Token) : Scanner Unit := do
  read (skip length)
  push t

/-- What stands at the start of a line outside of all collections. -/
def atMargin (token : Scanner Unit) : Scanner Unit := do
  unwind (-1)
  dropKey
  allowKey false
  token

/-- An opening bracket, which may start a key. -/
def opening (t : Token) : Scanner Unit := do
  noteKey
  modify fun l => { l with flowLevel := l.flowLevel + 1 }
  allowKey true
  mark 1 t

/-- A closing bracket. -/
def closing (t : Token) : Scanner Unit := do
  demand !(← inBlocks)
  dropKey
  modify fun l => { l with flowLevel := l.flowLevel - 1 }
  allowKey false
  mark 1 t

/-- A comma. -/
def comma : Scanner Unit := do
  allowKey true
  dropKey
  mark 1 .flowEntry

/-- Opens a collection in the present column, unless it is open or stands inside brackets. -/
def openHere (t : Token) : Scanner Unit := do
  if ← inBlocks then
    demand (← get).keyAllowed
    if ← indentTo (← get).cursor.column then push t

/-- The hyphen before an item. -/
def hyphen : Scanner Unit := do
  openHere .blockSequenceStart
  allowKey true
  dropKey
  mark 1 .blockEntry

/-- The question mark before a key. -/
def question : Scanner Unit := do
  openHere .blockMappingStart
  allowKey (← inBlocks)
  dropKey
  mark 1 .key

/-- The colon before a value. -/
def colon : Scanner Unit := do
  let l ← get
  match l.keys.lookup l.flowLevel with
  | some key =>
    set { l with keys := l.keys.filter (·.1 != l.flowLevel) }
    insert key.place .key
    if ← inBlocks then
      if ← indentTo key.column then insert key.place .blockMappingStart
    allowKey false
  | none =>
    openHere .blockMappingStart
    allowKey (← inBlocks)
    dropKey
  mark 1 .value

/-- A token that may start a key. -/
def keyStart (token : Scanner Token) : Scanner Unit := do
  noteKey
  allowKey false
  push (← token)

/-- A text that is indented below its header. -/
def blockText (folded : Bool) : Scanner Unit := do
  allowKey true
  dropKey
  let text ← read (block folded (← get).indent)
  push (.scalar (CodePoint.ofText text) false)

/-- A text without quotes. -/
def plainText : Scanner Unit :=
  keyStart do
    let l ← get
    let (text, breaks) ← read (plain (l.flowLevel != 0) l.indent)
    if breaks then allowKey true
    return .scalar (CodePoint.ofText text) true

/-- Whether a text without quotes may start with `c` before `after`. -/
def startsPlain (inBlocks : Bool) (c after : Char) : Bool :=
  !(isSeparator c || "-?:,[]\x7b\x7d#&*!|>'\"%@`".toList.contains c)
    || (!isSeparator after && (c == '-' || (inBlocks && (c == '?' || c == ':'))))

/-- Moves on to the next token. -/
def advance : Scanner Unit := do
  skipToToken (← get).cursor.rest.length.succ
  dropStale

/-- Reads the next token, or ends the reading and says so. -/
def step : Scanner Bool := do
  let l ← get
  unwind l.cursor.column
  let c ← read ahead
  let after ← read (lookahead 1)
  let blocks ← inBlocks
  let atMark := l.cursor.column == 0 && (← read atDocumentMark)
  if c == endMark then
    atMargin (pure ())
    return true
  if c == '%' && l.cursor.column == 0 then
    atMargin do push (.directive (← read directive))
  else if atMark then
    atMargin (mark 3 (if c == '-' then .documentStart else .documentEnd))
  else if c == '[' then opening .flowSequenceStart
  else if c == '\x7b' then opening .flowMappingStart
  else if c == ']' then closing .flowSequenceEnd
  else if c == '\x7d' then closing .flowMappingEnd
  else if c == ',' then comma
  else if c == '-' && isSeparator after then hyphen
  else if c == '?' && (!blocks || isSeparator after) then question
  else if c == ':' && (!blocks || isSeparator after) then colon
  else if c == '*' then keyStart do return .alias (← read anchorName)
  else if c == '&' then keyStart do return .anchor (← read anchorName)
  else if c == '!' then keyStart do return .tag (← read tagName)
  else if c == '|' && blocks then blockText false
  else if c == '>' && blocks then blockText true
  else if c == '\'' || c == '"' then keyStart do return .scalar (← read quoted) false
  else if startsPlain blocks c after then plainText
  else demand false
  return false

end Layout

/-- The tokens of a text, up to its end or up to what is wrong with it. -/
structure TokenStream where
  tokens : List Token
  fault : Option Fault

namespace Layout

/-- The tokens before a fault that is met on the way to the next token.  From the first possible
key on they are left out, since whether a key starts there is known only after the fault. -/
def upTo (l : Layout) (f : Fault) : TokenStream :=
  let places := (l.keys.filter (!l.isStale ·.2)).map (·.2.place)
  ⟨l.tokens.toList.take (places.foldl min l.tokens.size), some f⟩

/-- Reads tokens. -/
def run : Nat → Layout → TokenStream
  | 0, l => l.upTo .malformed
  | fuel + 1, l =>
    match (do advance; step) l with
    | .error f => l.upTo f
    | .ok (true, l) => ⟨l.tokens.toList, none⟩
    | .ok (false, l) => run fuel l

end Layout

/-- The tokens of a text. -/
def TokenStream.ofText (text : List Char) : TokenStream :=
  let text := match text with
    | '\uFEFF' :: rest => rest
    | cs => cs
  Layout.run (text.length + 2) (Layout.start text)

end Postprocessor.Yaml
