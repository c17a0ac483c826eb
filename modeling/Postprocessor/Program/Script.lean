import Postprocessor.Program.Behaviour

/-!
# Scripted listeners

A listener can be given by a list of actions.  Whatever an action needs may depend on the parameters
that the listener has at that moment.

* `Argument`: what an action needs.
* `Action`: the actions.
* `Action.listener`: the listener that performs a list of actions.
-/

namespace Postprocessor

/-- Something that depends on the parameters of a listener. -/
abbrev Argument (α : Type) : Type := Params → Except Failure α

/-- The value of a parameter that has to be there. -/
def Params.require (params : Params) (key : String) : Except Failure Value :=
  match params.lookup key with
  | some v => .ok v
  | none => .error (.missingKey key)

/-- An action of a listener. -/
inductive Action (ι : Type) where
  | write (call : Argument Call)
  /-- Looks an event up. -/
  | look (query : Argument Query)
  /-- Runs the listeners of an event; `inContext` says whether in the context of this one. -/
  | trigger (event : String) (params : Argument Params) (inContext : Bool)
  | on (event : String) (listener : ι)
  | off (event : String) (listener : ι)
  /-- Gives a parameter a value, for the listeners after this one to see. -/
  | assign (key : String) (value : Argument Value)
  /-- Loads the events of a trace. -/
  | load (text : String)
  /-- Performs actions if a parameter has a value. -/
  | when (key : String) (value : Argument Value) (actions : List (Action ι))
  | fail (failure : Failure)

namespace Action

variable {ι : Type}

/-- Requests to load the events of a trace. -/
def loadText (text : String) : Behaviour ι Unit := do
  let records := (Trace.records text).toList
  .request (.notify (Trace.notice records))
  .request (.load records)

mutual

/-- Performs an action, and yields the parameters after it. -/
def perform (context : Context) : Action ι → Params → Behaviour ι Params
  | .write call, params => do
    .request (.write (← .lift (call params)))
    return params
  | .look query, params => do
    let query ← Behaviour.lift (query params)
    .request (.found (← .lift (context.find query)))
    return params
  | .trigger event arguments inContext, params => do
    let arguments ← Behaviour.lift (arguments params)
    .request (.trigger event arguments (if inContext then context else {}))
    return params
  | .on event listener, params => do
    .request (.on event listener)
    return params
  | .off event listener, params => do
    .request (.off event listener)
    return params
  | .assign key value, params => do
    return Fields.put params key (← .lift (value params))
  | .load text, params => do
    loadText text
    return params
  | .when key value actions, params => do
    let value ← Behaviour.lift (value params)
    if (params.get key).same value then performAll context actions params else return params
  | .fail failure, _ => .fail failure

/-- Performs actions in order. -/
def performAll (context : Context) : List (Action ι) → Params → Behaviour ι Params
  | [], params => .done params
  | a :: actions, params => (perform context a params).bind (performAll context actions)

end

/-- The listener that performs a list of actions.  It looks at the events around it first. -/
def listener (actions : List (Action ι)) : Listener ι := fun params context => do
  let _ ← Behaviour.lift (context.find .previous)
  let _ ← Behaviour.lift (context.find .next)
  performAll context actions params

end Action

end Postprocessor
