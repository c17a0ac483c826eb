import Postprocessor.Decimal.Literal
import Postprocessor.Value

/-!
# Bare tokens

A value that stands in a trace without quotes is a truth value, a number with or without a unit, a
symbol, or else a text.

* `numeral?`: the number a token starts with, if only a unit follows.
* `Value.ofToken`: the value of a token.
-/

namespace Postprocessor.Trace
open Text

/-- A letter of a unit. -/
def isUnitLetter (c : Char) : Bool := c.isAlpha

/-- The token without a line feed at its end. -/
def dropLineFeed (cs : List Char) : List Char :=
  if cs.getLast? = some '\n' then cs.dropLast else cs

/-- The number at the start of a token, if nothing but the letters of a unit follows. -/
def numeral? (cs : List Char) : Option Decimal :=
  match scanDecimal (dropLineFeed cs) with
  | some (d, rest) => if rest.all isUnitLetter then some d else none
  | none => none

end Trace

namespace Value

/-- The value of a bare token. -/
def ofToken (token : List Char) : Value :=
  if token = "true".toList then .bool true
  else if token = "false".toList then .bool false
  else match Trace.numeral? token with
    | some d => .float d.toBinary64
    | none =>
      match Symbol.ofWord? (String.ofList token) with
      | some s => .symbol s
      | none => .text (String.ofList token)

end Value

end Postprocessor
