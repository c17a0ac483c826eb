import Postprocessor.Decimal.Shortest
import Postprocessor.Failure
import Postprocessor.Symbol
import Postprocessor.Value.Foreign

/-!
# Values

Parameters of events, arguments of machine settings and entries of a configuration are values of
one type, since a trace and a configuration file may put any of them anywhere.

* `Value.same`: equality by value.  Numbers of different types are compared exactly, a truth value
  counts as zero or one, and a symbol equals its spelling.
* `same_of_isAtom`: equality with a value that has no parts; `same_int`, `same_float`, `same_text`,
  `same_symbol`: the same for each kind of them.
* `Value.truthy`: what counts as true.
* `Value.shown`, `Value.written`: a value in a message, and a value as text.
-/

namespace Postprocessor

/-- A value. -/
inductive Value where
  | null
  | bool (b : Bool)
  | int (i : Int)
  | float (x : Binary64)
  | text (s : String)
  | symbol (s : Symbol)
  | list (items : List Value)
  | mapping (entries : List (Value × Value))
  | foreign (x : Foreign)
  | pair (first second : Value)
  /-- A set; the order of its members is that in which it is shown. -/
  | set (members : List Value)
  /-- A list or a mapping where it stands inside itself. -/
  | again (isMapping : Bool)
  deriving Repr, Inhabited

namespace Value

/-! ### Equality -/

/-- The text of a text or a symbol. -/
def text? : Value → Option String
  | .text s => some s
  | .symbol s => some s.word
  | _ => none

/-- The whole number that a truth value or a whole number stands for. -/
def int? : Value → Option Int
  | .bool b => some (if b then 1 else 0)
  | .int i => some i
  | _ => none

/-- Equality of values without parts. -/
def sameAtom (a b : Value) : Bool :=
  match a, b with
  | .null, .null => true
  | .float x, .float y => x.same y
  | .foreign x, .foreign y => x.same y
  | .float x, b => b.int?.any x.sameInt
  | a, .float y => a.int?.any y.sameInt
  | a, b =>
    match a.int?, b.int?, a.text?, b.text? with
    | some i, some j, _, _ => i == j
    | _, _, some s, some t => s == t
    | _, _, _, _ => false

/-- Whether two values are one and the same undefined number. -/
def isOne : Value → Value → Bool
  | .float x, .float y => x.isOne y
  | _, _ => false

mutual

/-- Equality by value.  In a list or a mapping an undefined number agrees with itself. -/
def same : Value → Value → Bool
  | .list xs, .list ys => sameItems xs ys
  | .mapping es, .mapping fs => es.length == fs.length && sameEntries es fs
  | .set xs, .set ys => xs.length == ys.length && within xs ys
  | .pair a b, .pair c d => (isOne a c || same a c) && (isOne b d || same b d)
  | .list _, _ | .mapping _, _ | .set _, _ | .pair _ _, _ => false
  | a, b => sameAtom a b

/-- Equality of lists, item by item. -/
def sameItems : List Value → List Value → Bool
  | [], [] => true
  | x :: xs, y :: ys => (isOne x y || same x y) && sameItems xs ys
  | _, _ => false

/-- Whether every entry of the first mapping is one of the second. -/
def sameEntries : List (Value × Value) → List (Value × Value) → Bool
  | [], _ => true
  | (k, v) :: es, fs =>
    fs.any (fun f => (isOne k f.1 || same k f.1) && (isOne v f.2 || same v f.2))
      && sameEntries es fs

/-- Whether every member of the first set is one of the second. -/
def within : List Value → List Value → Bool
  | [], _ => true
  | x :: xs, ys => ys.any (fun y => isOne x y || same x y) && within xs ys

end

/-- The value has no parts. -/
def IsAtom : Value → Prop
  | .list _ | .mapping _ | .set _ | .pair .. => False
  | _ => True

theorem same_of_isAtom {a b : Value} (h : b.IsAtom) : same a b = sameAtom a b := by
  cases b with
  | list | mapping | set | pair => exact h.elim
  | _ => cases a <;> simp [same, sameAtom, int?, text?]

section Atoms

variable {a : Value}

theorem same_int {i : Int} : same a (.int i) = sameAtom a (.int i) := same_of_isAtom trivial

theorem same_float {x : Binary64} : same a (.float x) = sameAtom a (.float x) :=
  same_of_isAtom trivial

theorem same_text {s : String} : same a (.text s) = sameAtom a (.text s) := same_of_isAtom trivial

theorem same_symbol {s : Symbol} : same a (.symbol s) = sameAtom a (.symbol s) :=
  same_of_isAtom trivial

end Atoms

/-- Whether a value is found where another one is looked up. -/
def finds (a b : Value) : Bool := isOne a b || same a b

/-- Whether the value can be a member of a set or a key of a table. -/
def isComparable : Value → Bool
  | .list _ | .mapping _ | .set _ | .again _ => false
  | .pair a b => a.isComparable && b.isComparable
  | _ => true

/-- Whether the value can be looked up in a set.  A set can, though it can be no member of one. -/
def isFindable : Value → Bool
  | .set _ => true
  | v => v.isComparable

/-- Whether the value counts as true: not zero and not empty. -/
def truthy : Value → Bool
  | .null => false
  | .bool b => b
  | .int i => i != 0
  | .float x => !x.isZero
  | .text s => s != ""
  | .symbol _ => true
  | .list items => !items.isEmpty
  | .mapping entries => !entries.isEmpty
  | .foreign x => x.truthy
  | .set members => !members.isEmpty
  | .pair .. | .again _ => true

/-- The type of a value, as messages name it. -/
def typeName : Value → String
  | .null => "NoneType"
  | .bool _ => "bool"
  | .int _ => "int"
  | .float _ => "float"
  | .text _ => "str"
  | .symbol s => s.family
  | .list _ => "list"
  | .mapping _ => "dict"
  | .foreign x => x.typeName
  | .pair .. => "tuple"
  | .set _ => "set"
  | .again isMapping => if isMapping then "dict" else "list"

/-- The type of a value with the module that it belongs to, as messages name it. -/
def fullTypeName : Value → String
  | .foreign (.date d) => "datetime." ++ (Foreign.date d).typeName
  | .foreign (.timestamp t) => "datetime." ++ (Foreign.timestamp t).typeName
  | v => v.typeName

/-! ### Texts -/

/-- A whole number as text, if it has not too many digits. -/
def intWritten (i : Int) : Except Failure String :=
  if digitLimit < (natText i.natAbs).length then .error .tooManyDigits
  else .ok (String.ofList (intText i))

/-- A value without parts in a message. -/
def shownAtom : Value → Except Failure String
  | .null => .ok "None"
  | .bool b => .ok (if b then "True" else "False")
  | .int i => intWritten i
  | .float x => .ok (String.ofList x.text)
  | .text s => .ok s.quotedForm
  | .symbol s => .ok s.shown
  | .foreign x => .ok x.shown
  | .again isMapping => .ok (if isMapping then "\x7b...\x7d" else "[...]")
  | .list _ | .mapping _ | .set _ | .pair .. => .ok ""

mutual

/-- A value in a message: texts between quotes, lists and mappings between brackets. -/
def shown : Value → Except Failure String
  | .list items => (shownItems items).map fun ws => "[" ++ ", ".intercalate ws ++ "]"
  | .mapping entries =>
    (shownEntries entries).map fun ws => "\x7b" ++ ", ".intercalate ws ++ "\x7d"
  | .set [] => .ok "set()"
  | .set members => (shownItems members).map fun ws => "\x7b" ++ ", ".intercalate ws ++ "\x7d"
  | .pair a b => do
    let w ← shown a
    let w' ← shown b
    .ok ("(" ++ w ++ ", " ++ w' ++ ")")
  | a => shownAtom a

/-- The items of a list in a message. -/
def shownItems : List Value → Except Failure (List String)
  | [] => .ok []
  | x :: xs => do
    let w ← shown x
    let ws ← shownItems xs
    .ok (w :: ws)

/-- The entries of a mapping in a message. -/
def shownEntries : List (Value × Value) → Except Failure (List String)
  | [] => .ok []
  | (k, v) :: es => do
    let w ← shown k
    let w' ← shown v
    let ws ← shownEntries es
    .ok ((w ++ ": " ++ w') :: ws)

end

/-- A value as text: a text as it is, a symbol by its spelling, anything else as in a message. -/
def written : Value → Except Failure String
  | .text s => .ok s
  | .symbol s => .ok s.word
  | .foreign x => .ok x.written
  | v => v.shown

/-- A value as a word of a program needs it: numbers in digits only. -/
def plain : Value → Except Failure String
  | .float x => .ok (String.ofList x.plainText)
  | v => v.written

end Value

end Postprocessor
