import Postprocessor.Fields
import Postprocessor.Program.Search

/-!
# Events and their context

* `Event`: a loaded event.
* `Context`: the sequence of events in which an event is dispatched, and its index in it.  An event
  that is triggered by hand has no index.
* `Query`: what a listener can look up in its context.
-/

namespace Postprocessor

/-- A loaded event. -/
structure Event where
  name : String
  params : Params
  deriving Repr, Inhabited

/-- Where the event being dispatched stands. -/
structure Context where
  events : Array Event := #[]
  index : Option Int := none
  deriving Repr, Inhabited

/-- What can be looked up in a context. -/
inductive Query where
  | here
  | next
  | previous
  | nearest (name : String)
  | last (name : String)
  | nthNext (name : String) (n : Int)
  | nthPrevious (name : String) (n : Int)
  deriving DecidableEq, Repr, Inhabited

namespace Context

/-- The names of the events. -/
def names (c : Context) : List String := c.events.toList.map Event.name

/-- The position of the event that a query asks for. -/
def find (c : Context) : Query → Except Failure (Option Nat)
  | .here => .ok (Search.here c.events.size c.index)
  | .next => Search.next c.events.size c.index
  | .previous => Search.previous c.events.size c.index
  | .nearest name => Search.nearest c.names c.index name
  | .last name => Search.last c.names c.index name
  | .nthNext name n => Search.nthNext c.names c.index name n
  | .nthPrevious name n => Search.nthPrevious c.names c.index name n

end Context

end Postprocessor
