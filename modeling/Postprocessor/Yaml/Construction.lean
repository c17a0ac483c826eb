import Postprocessor.Fields
import Postprocessor.Text.Base64
import Postprocessor.Yaml.Merge
import Postprocessor.Yaml.Number

/-!
# What the nodes of a Yaml text stand for

A scalar stands for a value.  A collection is made first and filled later, when its turn comes, so
that it may stand inside itself.  Collections are filled in the order in which they were met.

* `Part`: what a node stands for; the values in a collection go by the places of their nodes.
* `Graph.scalarAt`: the value of a scalar.
* `Build.run`: what all nodes stand for that the root is made of.
-/

namespace Postprocessor.Yaml

/-! ### Scalars -/

/-- The truth value that a text stands for. -/
def switchOf (text : List CodePoint) : Except Fault Bool :=
  let word := CodePoint.lower text
  if (Tag.trueWords.map CodePoint.ofText).contains word then .ok true
  else if (Tag.falseWords.map CodePoint.ofText).contains word then .ok false
  else .error (.badSwitch (CodePoint.quotedForm word))

/-- The value of a text. -/
def textOf (text : List CodePoint) : Value :=
  match CodePoint.text? text with
  | some s => .text s
  | none => .foreign (.broken text)

/-- The bytes that a text stands for. -/
def bytesOf (text : List CodePoint) : Except Fault (List UInt8) :=
  match (CodePoint.chars? text).bind Text.Base64.decode? with
  | some bytes => .ok bytes
  | none => .error .malformed

/-- The date or the timestamp that a text stands for. -/
def timeOf (text : List CodePoint) : Except Fault Foreign :=
  let cs := (CodePoint.chars? text).getD []
  match TimeFields.read? (Tag.dropLineFeed cs) with
  | some fields => fields.value.mapError .badTime
  | none => .error .notTime

namespace Graph

/-- The text of a scalar.  A mapping may have one too, as the value of the key that stands for the
value of the mapping. -/
def textAt (g : Graph) (place : Nat) : Nat → Except Fault (List CodePoint)
  | 0 => .error .malformed
  | fuel + 1 =>
    match g[place]?.map Node.content with
    | some (.scalar text) => .ok text
    | some (.mapping entries) =>
      match entries.find? fun e => g[e.1]?.any (·.tag == .default) with
      | some (_, v) => textAt g v fuel
      | none => .error .malformed
    | _ => .error .malformed

/-- Whether a node is a mapping. -/
def isMapping (n : Node) : Bool :=
  match n.content with
  | .mapping _ => true
  | _ => false

/-- The value of a node that is tagged as a scalar; `none` if it is tagged as a collection. -/
def scalarAt (g : Graph) (place : Nat) (n : Node) : Option (Except Fault Value) :=
  let text := textAt g place (g.size + 1)
  match n.tag with
  | .null => some (text.map fun _ => .null)
  | .bool => some ((text.bind switchOf).map .bool)
  | .int => some ((text.bind intOf).map .int)
  | .float => some ((text.bind (floatOf place)).map .float)
  | .text => some (text.map textOf)
  | .bytes => some ((text.bind bytesOf).map fun bs => .foreign (.bytes bs))
  | .timestamp =>
    let time := fun text => if isMapping n then .error .mappingAsTime else timeOf text
    some ((text.bind time).map .foreign)
  | .merge | .default | .unknown => some (.error .malformed)
  | .sequence | .mapping | .set | .pairs => none

end Graph

/-! ### Collections -/

/-- What a node stands for. -/
inductive Part where
  | value (v : Value)
  | list (items : List Nat)
  | mapping (entries : List (Value × Nat))
  | set (members : List Value)
  | pairs (entries : List (Nat × Nat))
  deriving Inhabited

/-- The number of slots of a set with `size` members. -/
def slotsOf (size : Nat) : Nat := if size < 5 then 8 else 2 ^ ((2 * size).log2 + 1)

/-- The members of a set in their order: whole numbers below the number of slots come in ascending
order, and the order of others is that in which they were given. -/
def inOrder (members : List Value) : List Value :=
  let slots : Int := slotsOf members.length
  let isSmall := fun (v : Value) => v.int?.any fun i => 0 ≤ i && i < slots
  if members.all isSmall then
    members.mergeSort fun a b => (a.int?.getD 0) ≤ (b.int?.getD 0)
  else members

namespace Part

/-- A collection before it is filled. -/
def empty (tag : Tag) : Part :=
  match tag with
  | .mapping => .mapping []
  | .set => .set []
  | .pairs => .pairs []
  | _ => .list []

end Part

/-- A graph of which some nodes are known. -/
structure Build where
  graph : Graph
  /-- What the nodes stand for, by their places. -/
  parts : Array (Option Part)
  /-- The places of the collections that were met last and are not filled, in reverse order. -/
  met : List Nat

namespace Build

/-- A step of the construction. -/
abbrev Building (α : Type) : Type := StateT Build (Except Fault) α

/-- Works on the graph. -/
def edit {α : Type} (step : Graph.Editing α) : Building α := fun b =>
  (step b.graph).map fun (a, g) => (a, { b with graph := g })

/-- Takes note of what a node stands for. -/
def setPart (place : Nat) (p : Part) : Building Unit :=
  modify fun b => { b with parts := b.parts.setIfInBounds place (some p) }

/-- Meets a node: a scalar gets its value, and a collection is made. -/
def meet (place : Nat) : Building Part := do
  let b ← get
  match b.parts[place]?.join with
  | some p => return p
  | none =>
    let n ← edit (Graph.at? place)
    let p ← match Graph.scalarAt b.graph place n with
      | some v => pure (.value (← v))
      | none => do
        modify fun b => { b with met := place :: b.met }
        pure (.empty n.tag)
    setPart place p
    return p

/-- The key of an entry, which is no collection. -/
def key (place : Nat) : Building Value := do
  match ← meet place with
  | .value v => return v
  | _ => throw .malformed

/-- The entries of a mapping, the value of each after its key. -/
def entries (done : List (Value × Nat)) : List (Nat × Nat) → Building (List (Value × Nat))
  | [] => return done
  | (k, v) :: rest => do
    let k ← key k
    let _ ← meet v
    entries (Value.putEntry done k v) rest

/-- The entries of mappings with one entry each. -/
def pairs : List Nat → Building (List (Nat × Nat))
  | [] => return []
  | place :: rest => do
    match ← edit (Graph.entriesAt place) with
    | [(k, v)] =>
      let _ ← meet k
      let _ ← meet v
      return (k, v) :: (← pairs rest)
    | _ => throw .malformed

/-- The items of the sequence at a place. -/
def itemsAt (place : Nat) : Building (List Nat) := do
  match (← edit (Graph.at? place)).content with
  | .sequence items => return items
  | _ => throw .malformed

/-- The entries of the mapping at a place, after its merge keys are replaced. -/
def flatEntriesAt (place : Nat) : Building (List (Value × Nat)) := do
  let _ ← edit (Graph.entriesAt place)
  edit (Graph.flatten place)
  entries [] (← edit (Graph.entriesAt place))

/-- Fills the collection at a place. -/
def fill (place : Nat) : Building Unit := do
  match (← edit (Graph.at? place)).tag with
  | .mapping => setPart place (.mapping (← flatEntriesAt place))
  | .set => setPart place (.set (inOrder ((← flatEntriesAt place).map (·.1))))
  | .pairs => setPart place (.pairs (← pairs (← itemsAt place)))
  | _ =>
    let items ← itemsAt place
    items.forM fun item => do let _ ← meet item
    setPart place (.list items)

/-- Fills the collections that are met, and those that are met meanwhile. -/
def fillAll : Nat → Building Unit
  | 0 => throw .malformed
  | fuel + 1 => do
    let met := (← get).met.reverse
    if met.isEmpty then return
    modify fun b => { b with met := [] }
    met.forM fill
    fillAll fuel

/-- What the nodes of a graph stand for. -/
def run (g : Graph) (root : Nat) : Except Fault (Array (Option Part)) := do
  let build : Building Unit := do
    let _ ← meet root
    fillAll (g.size + 1)
  let (_, b) ← build ⟨g, Array.replicate g.size none, []⟩
  return b.parts

end Build

end Postprocessor.Yaml
