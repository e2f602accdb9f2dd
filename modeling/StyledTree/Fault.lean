import StyledTree.Selector.Reader
import StyledTree.Widget.Kind
import StyledTree.Widget.Placement

set_option autoImplicit false

namespace StyledTree

inductive Fault where
  /-- A selector text could not be read. -/
  | malformedSelector (error : Selector.Malformed)
  /-- A child was given to a widget that cannot hold children. -/
  | notAContainer (kind : Kind)
  /-- A widget was added to itself or below itself; both are described as they were. -/
  | wouldCreateCycle (parent child : String)
  /-- A widget was placed that was built in no container. -/
  | noPendingContainer (kind : Kind)
  /-- A child came without a constraint to a container whose layout needs one. -/
  | constraintRequired (kind : Kind) (layout : Layout)
  /-- A job was sent to a dispatcher that is gone. -/
  | dispatcherClosed
  /-- The log already has its one destination. -/
  | loggerAlreadySet
  /-- The log's destination cannot be opened. -/
  | logUnavailable
deriving DecidableEq

namespace Fault

def name : Fault → String
  | .malformedSelector _ => "MalformedSelector"
  | .notAContainer _ => "NotAContainer"
  | .wouldCreateCycle .. => "WouldCreateCycle"
  | .noPendingContainer _ => "NoPendingContainer"
  | .constraintRequired .. => "ConstraintRequired"
  | .dispatcherClosed => "DispatcherClosed"
  | .loggerAlreadySet => "LoggerAlreadySet"
  | .logUnavailable => "Io"

def message : Fault → String
  | .malformedSelector error => error.message
  | .notAContainer kind => kind.name ++ " cannot hold children"
  | .wouldCreateCycle parent child =>
    "adding " ++ child ++ " to " ++ parent ++ " would create a cycle"
  | .noPendingContainer kind => kind.name ++ " was not built inside a container"
  | .constraintRequired kind layout =>
    kind.name ++ " uses a " ++ layout.debugText ++ " layout; children need a placement constraint"
  | .dispatcherClosed => "UI dispatcher has shut down"
  | .loggerAlreadySet => "a logger is already installed"
  | .logUnavailable => "I/O error opening log file"

end Fault

end StyledTree
