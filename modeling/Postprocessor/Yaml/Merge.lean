import Postprocessor.Yaml.Node

/-!
# Merge keys

A mapping may take over the entries of other mappings: they are named as the value of a merge key.
The entries that are taken over come before those of the mapping itself, so that its own ones win.

* `Graph.entriesAt`: the entries of a mapping of a graph.
* `Graph.flatten`: the graph with the merge keys of a mapping replaced by what they stand for.
-/

namespace Postprocessor.Yaml.Graph

/-- A step that changes a graph. -/
abbrev Editing (α : Type) : Type := StateT Graph (Except Fault) α

/-- The node at a place. -/
def at? (place : Nat) : Editing Node := do
  match (← get)[place]? with
  | some n => return n
  | none => throw .malformed

/-- The entries of the mapping at a place. -/
def entriesAt (place : Nat) : Editing (List (Nat × Nat)) := do
  match (← at? place).content with
  | .mapping entries => return entries
  | _ => throw .malformed

/-- Gives the mapping at a place other entries. -/
def setEntries (place : Nat) (entries : List (Nat × Nat)) : Editing Unit :=
  modify fun g => g.modify place fun n => { n with content := .mapping entries }

/-- Gives the node at a place another tag. -/
def setTag (place : Nat) (tag : Tag) : Editing Unit :=
  modify fun g => g.modify place fun n => { n with tag := tag }

mutual

/-- Replaces the merge keys of the mapping at a place, and those of the mappings that it takes
entries from.  A key that stands for the value of the mapping becomes a text.  The keys before
`index` are done, and `merged` holds the entries that are taken over so far. -/
def flattenFrom (place index : Nat) (merged : List (Nat × Nat)) : Nat → Editing Unit
  | 0 => throw .malformed
  | fuel + 1 => do
    let entries ← entriesAt place
    match entries[index]? with
    | none => if !merged.isEmpty then setEntries place (merged ++ entries)
    | some (k, v) =>
      match (← at? k).tag with
      | .merge =>
        setEntries place (entries.eraseIdx index)
        let more ← match (← at? v).content with
          | .mapping _ => do
            flattenFrom v 0 [] fuel
            entriesAt v
          | .sequence items => flattenAll items fuel
          | .scalar _ => throw .malformed
        flattenFrom place index (merged ++ more) fuel
      | .default =>
        setTag k .text
        flattenFrom place (index + 1) merged fuel
      | _ => flattenFrom place (index + 1) merged fuel

/-- The entries of several mappings, those of the last one first. -/
def flattenAll (places : List Nat) : Nat → Editing (List (Nat × Nat))
  | 0 => throw .malformed
  | fuel + 1 => do
    match places with
    | [] => return []
    | place :: rest =>
      let _ ← entriesAt place
      flattenFrom place 0 [] fuel
      let entries ← entriesAt place
      return (← flattenAll rest fuel) ++ entries

end

/-- Replaces the merge keys of the mapping at a place.  Taking over entries doubles their number at
most, and every merge key is met once, which bounds the steps. -/
def flatten (place : Nat) : Editing Unit := do
  let sizes := (← get).toList.map fun n =>
    match n.content with
    | .scalar _ => 1
    | .sequence items => items.length + 1
    | .mapping entries => entries.length + 1
  flattenFrom place 0 [] (2 ^ sizes.foldr (· + ·) 2)

end Postprocessor.Yaml.Graph
