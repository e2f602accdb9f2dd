import StyledTree.Text.Blank
import StyledTree.Widget.Choice
import StyledTree.Widget.Kind
import StyledTree.Widget.Listener
import StyledTree.Widget.Look
import StyledTree.Widget.Placement

set_option autoImplicit false

namespace StyledTree

/-- The identity of a widget; it is never used for a second widget. -/
structure WidgetId where
  index : Nat
deriving DecidableEq, Inhabited

structure Node where
  kind : Kind
  name : Option String
  classes : List String
  parent : Option WidgetId
  children : List WidgetId
  /-- The constraint with which the widget was placed in its parent. -/
  constraint : Option Constraint
  /-- The container that the widget was built in and has not been placed in yet. -/
  pending : Option WidgetId
  layout : Layout
  look : Look
  text : Option String
  columns : UInt16
  choice : Choice
  actions : List HandlerId
  listeners : List Mouse.Listener
  factories : List (View × HandlerId)
deriving Inhabited

namespace Node

/-- The layout of a widget whose layout was never set. -/
def defaultLayout : Kind → Layout
  | .frame | .borderPane => .border
  | _ => .flow

/-- A new widget, in no parent. -/
def fresh (kind : Kind) : Node where
  kind := kind
  name := none
  classes := []
  parent := none
  children := []
  constraint := none
  pending := none
  layout := defaultLayout kind
  look := .fresh
  text := none
  columns := 0
  choice := .empty
  actions := []
  listeners := []
  factories := []

def isContainer (node : Node) : Bool := node.kind.isContainer

/-- Only containers take a layout. -/
def setLayout (node : Node) (layout : Layout) : Node :=
  if node.isContainer then { node with layout := layout } else node

/-- Builders attach what they build in this widget. -/
def autoAdds (node : Node) : Bool :=
  node.isContainer && !node.kind.placesByHand && !node.layout.requiresConstraints

/-- The type, the name after `#` and each class after a dot. -/
def describe (node : Node) : String :=
  node.classes.foldl (fun written name => written ++ "." ++ name)
    (node.kind.name ++
      match node.name with
      | some name => "#" ++ name
      | none => "")

/-! The class list. -/

/-- The widget carries a class list, and the class is in it. -/
def hasClass (node : Node) (name : String) : Bool :=
  node.kind.hasClassList && node.classes.contains name

/-- A class as it is stored: without white space at its ends. -/
def className (text : String) : String := String.ofList (Text.trim text.toList)

/-- Adds a class, unless it is empty or already there or the widget has no class list. -/
def addClass (node : Node) (text : String) : Bool × Node :=
  let name := className text
  if name.isEmpty || !node.kind.hasClassList || node.hasClass name then (false, node)
  else (true, { node with classes := node.classes ++ [name] })

/-- Removes the class of exactly this name. -/
def removeClass (node : Node) (name : String) : Bool × Node :=
  (node.classes.contains name,
    { node with classes := node.classes.filter (fun other => other != name) })

/-- Removes the class if it is there and adds it otherwise; tells whether it is there now. -/
def toggleClass (node : Node) (text : String) : Bool × Node :=
  let removed := node.removeClass text
  if removed.1 then (false, removed.2) else node.addClass text

/-- Replaces the class list by the words of a text. -/
def setClasses (node : Node) (text : String) : Node :=
  (Text.words text.toList).foldl (fun made word => (made.addClass (String.ofList word)).2)
    { node with classes := [] }

/-! Text, title and orientation as the typed views show them. -/

def shownText (node : Node) : String := node.text.getD ""

def orientation (node : Node) : Axis :=
  match node.layout with
  | .box axis => axis
  | _ => .horizontal

/-! Factories. -/

def factory? (node : Node) (view : View) : Option HandlerId :=
  (node.factories.find? (fun entry => entry.1 == view)).map Prod.snd

def removeFactory (node : Node) (view : View) : Node :=
  { node with factories := node.factories.filter (fun entry => entry.1 != view) }

def setFactory (node : Node) (view : View) (handler : HandlerId) : Node :=
  { node with factories := (view, handler) :: (node.removeFactory view).factories }

theorem factory?_removeFactory (node : Node) (view sought : View) :
    (node.removeFactory view).factory? sought =
      if sought = view then none else node.factory? sought := by
  rw [factory?, removeFactory, List.find?_filter]
  split
  · next same =>
    subst same
    simp
  · next differ =>
    have other : ∀ entry : View × HandlerId,
        decide ((entry.1 != view) = true ∧ (entry.1 == sought) = true) = (entry.1 == sought) := by
      intro entry
      by_cases isSought : entry.1 = sought
      · simp [isSought, differ]
      · simp [isSought]
    simp only [other]
    rfl

theorem factory?_setFactory (node : Node) (view sought : View) (handler : HandlerId) :
    (node.setFactory view handler).factory? sought =
      if sought = view then some handler else node.factory? sought := by
  have removed := node.factory?_removeFactory view sought
  rw [factory?] at removed
  rw [factory?, setFactory, List.find?_cons]
  by_cases same : sought = view
  · simp [same]
  · rw [if_neg same] at removed ⊢
    rw [beq_false_of_ne (Ne.symm same)]
    exact removed

end Node

end StyledTree
