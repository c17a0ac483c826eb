import Postprocessor.Fields
import Postprocessor.Text.Blank
import Postprocessor.Text.Word
import Postprocessor.Trace.Token

/-!
# Assignments

A line of a trace gives parameters their values: a key, a colon and a value, with at most one blank
on each side of the colon.  A value is a text between single quotes or a bare token.

* `Assignment`: a key with a value as it is written.
* `assignmentAt?`: the assignment a text starts with, and the text after it.
* `scan`: the assignments of a line, from left to right, none of them overlapping.
* `assign`: the parameters after a line.
-/

namespace Postprocessor.Trace
open Text

/-- A key and a value as written. -/
structure Assignment where
  key : List Char
  content : List Char
  quoted : Bool
  deriving DecidableEq, Repr

namespace Assignment

/-- The value: a quoted text as it stands, a bare token by its form. -/
def value (a : Assignment) : Value :=
  if a.quoted then .text (String.ofList a.content) else .ofToken a.content

end Assignment

/-- The text after one blank, if it starts with a blank. -/
def skipBlank : List Char → List Char
  | c :: rest => if isBlank c then rest else c :: rest
  | [] => []

/-- The quoted text at the start of `cs`, if its closing quote is there. -/
def quotedAt? : List Char → Option (List Char)
  | '\'' :: rest => if rest.contains '\'' then some (rest.takeWhile (· != '\'')) else none
  | _ => none

/-- The bare token at the start of `cs`. -/
def bareAt? (cs : List Char) : Option (List Char) :=
  let token := cs.takeWhile (!isBlank ·)
  if token.isEmpty then none else some token

/-- The assignment at the start of `cs`, and the text after it. -/
def assignmentAt? (cs : List Char) : Option (Assignment × List Char) :=
  let key := cs.takeWhile isWord
  if key.isEmpty then none
  else match skipBlank (cs.dropWhile isWord) with
    | ':' :: afterColon =>
      let value := skipBlank afterColon
      match quotedAt? value with
      | some content => some (⟨key, content, true⟩, value.drop (content.length + 2))
      | none =>
        match bareAt? value with
        | some content => some (⟨key, content, false⟩, value.drop content.length)
        | none => none
    | _ => none

/-- The assignments of a text whose first `skip` characters are part of an earlier one. -/
def scanFrom : Nat → List Char → List Assignment
  | _, [] => []
  | skip + 1, _ :: rest => scanFrom skip rest
  | 0, c :: rest =>
    match assignmentAt? (c :: rest) with
    | some (a, after) => a :: scanFrom (rest.length - after.length) rest
    | none => scanFrom 0 rest

/-- The assignments of a line. -/
def scan (line : List Char) : List Assignment := scanFrom 0 line

/-- The parameters after the assignments of a line. -/
def assign (params : Params) (line : List Char) : Params :=
  (scan line).foldl (fun ps a => Fields.put ps (String.ofList a.key) a.value) params

end Postprocessor.Trace
