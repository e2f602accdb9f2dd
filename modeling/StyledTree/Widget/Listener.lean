set_option autoImplicit false

namespace StyledTree

/-- A reference to a piece of client code. -/
structure HandlerId where
  index : Nat
deriving DecidableEq, Inhabited

namespace Mouse

inductive Kind where
  | entered
  | exited
  | pressed
  | released
  | clicked
deriving DecidableEq, Inhabited

namespace Kind

def text : Kind → String
  | .entered => "entered"
  | .exited => "exited"
  | .pressed => "pressed"
  | .released => "released"
  | .clicked => "clicked"

/-- The text that shows a kind to a developer. -/
def debugText : Kind → String
  | .entered => "Entered"
  | .exited => "Exited"
  | .pressed => "Pressed"
  | .released => "Released"
  | .clicked => "Clicked"

end Kind

structure Event where
  kind : Kind
  x : Int32
  y : Int32
  clickCount : UInt32
deriving DecidableEq, Inhabited

/-- One registered listener; without a key it can be neither replaced nor removed. -/
structure Listener where
  kind : Kind
  key : Option String
  handler : HandlerId
deriving DecidableEq, Inhabited

namespace Listener

def isKeyed (kind : Kind) (key : String) (listener : Listener) : Bool :=
  listener.kind == kind && listener.key == some key

end Listener

/-- The listeners without the one registered for a kind under a key. -/
def forget (listeners : List Listener) (kind : Kind) (key : String) : List Listener :=
  listeners.filter (fun listener => !listener.isKeyed kind key)

/-- A listener is registered for the kind under the key. -/
def isTaken (listeners : List Listener) (kind : Kind) (key : String) : Bool :=
  listeners.any (Listener.isKeyed kind key)

/-- The listeners after a registration. -/
def register (listeners : List Listener) (listener : Listener) : List Listener :=
  (match listener.key with
    | some key => forget listeners listener.kind key
    | none => listeners) ++ [listener]

/-- The handlers that an event of a kind reaches, in order of registration. -/
def handlers (listeners : List Listener) (kind : Kind) : List HandlerId :=
  (listeners.filter (fun listener => listener.kind == kind)).map Listener.handler

end Mouse

end StyledTree
