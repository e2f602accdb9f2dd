import StyledTree.Session.Answer
import StyledTree.Journal
import StyledTree.Widget.Look

set_option autoImplicit false

namespace StyledTree.Session

/-- A way from one widget to another. -/
inductive Route where
  | parent
  | child (index : Nat)
  | childAt (constraint : Constraint)
  | pending
  /-- A side of a split pane. -/
  | side (constraint : Constraint)
  /-- A region of a border pane. -/
  | region (constraint : Constraint)
  /-- The view of a scroll pane. -/
  | scrollView

/-- A question about one widget, answered without changing anything. -/
inductive Query where
  | info
  | name
  | ancestors
  | children
  | childCount
  | constraint
  | descendants
  | classes
  | hasClass (name : String)
  | foreground
  | background
  | font
  | border
  | describe
  | debug (view : Option View)
  | outline
  | state
  | layout
  | autoAdds
  | accepts (target : Target)
  | text
  | title
  | columns
  | combo
  | orientation
  | mouseCount (kind : Mouse.Kind)

/-- A change of one widget's properties. -/
inductive Change where
  | setName (name : String)
  | clearName
  | setClasses (text : String)
  | setForeground (color : Color)
  | setBackground (color : Color)
  | setFont (font : Font)
  | setFontSize (size : Float32)
  | scaleFont (factor : Float32)
  | setBorder (border : Border)
  | clearBorder
  | setVisible (value : Bool)
  | setEnabled (value : Bool)
  | setTooltip (text : String)
  | setLayout (layout : Layout)
  | setText (text : String)
  | setTitle (text : String)
  | setColumns (count : UInt16)
  | addItem (text : String)
  | removeAllItems
  | select (index : Nat)
  | setOrientation (axis : Axis)

/-- An edit of the class list that tells something. -/
inductive ClassEdit where
  | add
  | remove
  | toggle

mutual

inductive Command where
  | newWidget (kind : Kind) (name classes bound : Option String)
  | newView (view : View) (text : Option String) (layout : Option Layout)
      (name classes bound : Option String)
  | alias (widget : String) (bound : Option String)
  | drop (name : String)
  | weaken (widget : String) (bound : String)
  | peek (weak : String) (widget bound : Option String)
  | sameWidget (first second : String)
  /-- Runs a command and then one of two lists; `none` is an answer that no command gives. -/
  | choose (condition : Command) (expected : Option Answer) (met unmet : List Command)
  | find (widget : String) (route : Route) (bound : Option String)
  | ask (widget : String) (query : Query)
  | change (widget : String) (change : Change)
  | editClass (widget : String) (edit : ClassEdit) (name : String)
  | isBelow (widget other : String)
  | add (widget child : String)
  | addWith (widget child : String) (constraint : Constraint)
  | remove (widget child : String)
  | removeAll (widget : String)
  | detach (widget : String)
  | settle (widget : String) (constraint : Constraint)
  | setSide (widget : String) (side : Constraint) (child : Option String)
  | setRegion (widget : String) (region : Constraint) (child : Option String)
  | setScrollView (widget : String) (child : Option String)
  | contentPane (widget : String) (bound : Option String)
  | setFactory (widget : String) (view : View) (script : Script) (existing : Option String)
      (kind : Option Kind)
  | removeFactory (widget : String) (view : View)
  | hasFactory (widget : String) (view : View)
  | create (widget : String) (view : View) (bound : Option String)
  | build (parent : String) (view : View) (bound : Option String) (body : List Command)
  | onAction (widget : String) (script : Script)
  | click (widget : String)
  | onMouse (widget : String) (kind : Mouse.Kind) (key : Option String) (script : Script)
  | removeMouse (widget : String) (kind : Mouse.Kind) (key : String)
  | fire (widget : String) (event : Mouse.Event)
  | selects (selector : String) (widget : String)
  | newSheet (bound : Option String)
  | register (sheet : String) (target : Target) (selector : Option String) (script : Script)
      (bound : Option String)
  | newStyle (target : Target) (selector : String) (script : Script) (bound : Option String)
  | newScope (selector : String) (bound : Option String)
  | wrap (style : String) (bound : Option String)
  | asChain (style : String) (bound : Option String)
  | registerStyle (style sheet : String)
  | nest (parent child : String) (bound : Option String)
  | chain (parent child sheet : String) (bound : Option String)
  | wraps (chain style : String)
  | showStyle (style : String)
  | debugStyle (style : String)
  | applyStyle (style widget : String)
  | apply (sheet widget : String)
  | revalidate (sheet widget : String)
  | forget (sheet widget : String)
  | appliedRoots (sheet : String)
  | showStyles (sheet : String)
  | debugSheet (sheet : String)
  | requiresConstraints (layout : Layout)
  | sameTarget (first second : Target)
  | setLogLevel (threshold : Option Level)
  | takeLog
  | openLog (path : String)
  | unknown (name : String)

/-- Commands that stand for client code. With a limit they run only so many times. -/
inductive Script where
  | mk (tag : String) (body : List Command) (limit : Option Nat)

end

instance : Inhabited Command := ⟨.takeLog⟩

instance : Inhabited Script := ⟨.mk "" [] none⟩

namespace Script

def tag : Script → String
  | .mk tag _ _ => tag

def body : Script → List Command
  | .mk _ body _ => body

def limit : Script → Option Nat
  | .mk _ _ limit => limit

end Script

end StyledTree.Session
