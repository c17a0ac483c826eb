import Postprocessor.Yaml.Construction

/-!
# The value of a Yaml text

The value of a collection holds the values of its parts.  Where it stands inside itself it is not
held once more: a mark says that it stands there.  The outermost collections may be opened, which
means that what they hold is written out as it is on its own, without regard to what it stands in.

* `valueAt`: the value of a node.
* `load`: the value of a text, null if it describes none.
-/

namespace Postprocessor.Yaml

/-- What the nodes of a text stand for, by their places. -/
abbrev Parts := Array (Option Part)

/-- The values that are known already, by the places of their nodes. -/
abbrev Known := Array (Option Value)

/-- A value, and whether something in it stands inside itself. -/
abbrev Held := Value × Bool

/-- Takes note of the value of the node at a place.  A value in which something stands inside itself
looks different from elsewhere, so it is not kept. -/
def note (place : Nat) (v : Value) (inItself : Bool) : StateM Known Held := do
  if !inItself then modify fun known => known.setIfInBounds place (some v)
  return (v, inItself)

/-- The value of the node at a place in the collections at the places `path`, of which `opened` more
are opened. -/
def valueAt (parts : Parts) (opened : Nat) (path : List Nat) (place : Nat) :
    Nat → StateM Known Held
  | 0 => return (.null, false)
  | fuel + 1 => do
    if let some v := (← get)[place]?.join then return (v, false)
    let inside := if opened = 0 then place :: path else []
    let held := fun p => valueAt parts (opened - 1) inside p fuel
    let isAgain := path.contains place
    match parts[place]?.join with
    | some (.value v) => return (v, false)
    | some (.set members) => return (.set members, false)
    | some (.mapping entries) =>
      if isAgain then return (.again true, true)
      let entries ← entries.mapM fun e => return (e.1, ← held e.2)
      note place (.mapping (entries.map fun e => (e.1, e.2.1))) (entries.any (·.2.2))
    | some (.list items) =>
      if isAgain then return (.again false, true)
      let items ← items.mapM held
      note place (.list (items.map (·.1))) (items.any (·.2))
    | some (.pairs entries) =>
      if isAgain then return (.again false, true)
      let pairs ← entries.mapM fun e => return (← held e.1, ← held e.2)
      note place (.list (pairs.map fun e => .pair e.1.1 e.2.1)) (pairs.any fun e => e.1.2 || e.2.2)
    | none => return (.null, false)

/-- The value of a text of which `opened` collections around a value are opened. -/
def load (opened : Nat) (text : List Char) : Except Fault Value := do
  if !text.all isAllowed then throw .malformed
  match ← Graph.ofTokens? (.ofText text) with
  | some (graph, root) =>
    let parts ← Build.run graph root
    let value := valueAt parts opened [] root (parts.size + opened + 1)
    return (value.run (Array.replicate parts.size none)).1.1
  | none => return .null

end Postprocessor.Yaml
