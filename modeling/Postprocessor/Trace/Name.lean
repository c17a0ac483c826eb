import Postprocessor.Text.Case

/-!
# Event names

A trace spells the name of an event in small words joined by underscores; listeners know it by the
words run together, each with a capital.

* `splitUnderscores`: the words of an identifier.
* `eventName`: the name of an event.
-/

namespace Postprocessor.Trace
open Text

/-- The parts of `cs` between underscores, of which there is one more than there are underscores. -/
def splitUnderscores : List Char → List (List Char)
  | [] => [[]]
  | c :: rest =>
    if c == '_' then [] :: splitUnderscores rest
    else match splitUnderscores rest with
      | word :: words => (c :: word) :: words
      | [] => [[c]]

/-- A word with its first letter in capitals and the others small. -/
def capitalise (word : List Char) : List Char := upper (word.take 1) ++ lower (word.drop 1)

/-- The name of the event that an identifier stands for. -/
def eventName (identifier : List Char) : List Char :=
  (splitUnderscores identifier).flatMap capitalise

end Postprocessor.Trace
