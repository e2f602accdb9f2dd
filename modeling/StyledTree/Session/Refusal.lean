import StyledTree.Fault
import StyledTree.Session.Answer

set_option autoImplicit false

namespace StyledTree

inductive Refusal where
  /-- The library reports a fault. -/
  | fault (fault : Fault)
  /-- Nothing is bound to the name. -/
  | unbound (name : String)
  /-- The style of that name holds no child styles. -/
  | notChainable (name : String)
  | notOfView (kind : Kind) (view : View)
  | noText (kind : Kind)
  | noHandle
  | noDispatcher
  | unknownCommand (name : String)
deriving DecidableEq

namespace Refusal

def name : Refusal → String
  | .fault cause => cause.name
  | .unbound _ => "Unbound"
  | .notChainable _ => "NotChainable"
  | .notOfView .. | .noText _ => "NoCast"
  | .noHandle => "NoHandle"
  | .noDispatcher => "NoDispatcher"
  | .unknownCommand _ => "Usage"

def message : Refusal → String
  | .fault cause => cause.message
  | .unbound name => name
  | .notChainable name => name
  | .notOfView kind view => kind.name ++ " is not a " ++ view.name
  | .noText kind => kind.name ++ " has no text"
  | .noHandle | .noDispatcher => ""
  | .unknownCommand name => "unknown op `" ++ name ++ "`"

/-- What a refusal tells besides its name and message: a refused selector, with the reason. -/
def details : Refusal → List (String × Answer)
  | .fault (.malformedSelector error) =>
    [("selector", .text error.text), ("reason", .text error.reason.message)]
  | _ => []

end Refusal

namespace Answer

def ofRefusal (refusal : Refusal) : Answer :=
  .ofFields
    (("error", .text refusal.name) :: ("message", .text refusal.message) :: refusal.details)

/-- The answer of a call that has nothing to say unless it is refused. -/
def ofOutcome : Except Fault Unit → Answer
  | .ok _ => .nothing
  | .error fault => .ofRefusal (.fault fault)

end Answer

/-- One line of a session's answer: the result, and what was traced on the way. -/
structure Reply where
  result : Answer
  trace : List Answer

end StyledTree
