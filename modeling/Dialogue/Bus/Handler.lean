import Dialogue.Bus.Basic

/-!
# Handlers

A handler that is called with an event runs a script: one action after another, each of
which may depend on what the earlier ones answered. Actions work on the bus or on the
event. A script may end early, in failure, and then its handler counts as failed.
-/

namespace Dialogue

/-- What can be asked of a bus. -/
inductive Request where
  | subscribe (event : EventName) (handler : String) (priority : Rat) (oneShot : Bool)
  | unsubscribe (event : EventName) (handler : String)
  | hasSubscribers (event : EventName)
  | publish (event : EventName) (fields : List (String × Json))
  | clear (event : Option EventName)
  /-- Compile lines and publish the events of the compile. -/
  | compile (config : Config) (lines : List String)

/-- What a handler can do. -/
inductive Action where
  | request (request : Request)
  /-- Ask that no further handlers are called. -/
  | consume
  /-- Look up data, with a value in case there is none. -/
  | get (key : String) (default : Json)
  /-- Look up data that must be there. -/
  | item (key : String)
  /-- Look whether the event is consumed. -/
  | consumed
  /-- Assign a field of the settings that the event carries. -/
  | assign (field : String) (value : Json)

/-- What an action answers. -/
inductive Reply where
  | done
  | truth (value : Bool)
  | data (value : Json)
  | compiled (result : Except Fault Graph)
  | failed

/-- A course of actions. -/
inductive Script where
  | done
  | fail
  | act (action : Action) (resume : Reply → Script)

/-- Whether the action behind a reply has failed. -/
def Reply.isFailure : Reply → Bool
  | .failed => true
  | .compiled (.error _) => true
  | _ => false

/-- The actions of a list in order, up to the first that fails. -/
def Script.ofList : List Action → (last : Script) → Script
  | [], last => last
  | action :: rest, last =>
    .act action fun reply => if reply.isFailure then .fail else ofList rest last

/-- What happens on a bus, as an onlooker sees it. -/
inductive TraceEntry where
  /-- A handler is called for a subscription, with the event as it is then. -/
  | called (subscription : Subscription) (event : Event)
  /-- A handler has done all that it does. -/
  | returned (handler : String)
  /-- A handler has failed; the failure goes no further than the log. -/
  | failed (event : EventName)
  /-- A handler has looked up data that may be missing. -/
  | got (value : Json)
  /-- A handler has looked up data that must be there. -/
  | item (value : Json)
  /-- A handler has looked whether its event is consumed. -/
  | sawConsumed (consumed : Bool)

/-- What the handlers of all names do when they are called. A handler may remember all that
has happened on the bus. -/
abbrev Handlers := (name : String) → (past : List TraceEntry) → Event → Script

/-- The log line about a failed handler. -/
def failureLine (event : EventName) : LogLine :=
  ⟨.error, .events, "Error in event handler for CompilerEvent." ++ event.text⟩

end Dialogue
