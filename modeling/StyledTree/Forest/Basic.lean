import StyledTree.Selector.Matching
import StyledTree.Widget.Node

set_option autoImplicit false

namespace StyledTree

/-- The nodes by identifier; the place of a widget that is gone stays empty. -/
structure Forest where
  nodes : Array (Option Node)
deriving Inhabited

namespace Forest

def empty : Forest := ⟨#[]⟩

def get? (forest : Forest) (widget : WidgetId) : Option Node :=
  (forest.nodes[widget.index]?).join

def contains (forest : Forest) (widget : WidgetId) : Bool := (forest.get? widget).isSome

/-- The forest with a new widget. -/
def create (forest : Forest) (kind : Kind) : WidgetId × Forest :=
  (⟨forest.nodes.size⟩, ⟨forest.nodes.push (some (.fresh kind))⟩)

/-- Changes the node of one widget. -/
def update (forest : Forest) (widget : WidgetId) (change : Node → Node) : Forest :=
  ⟨forest.nodes.modify widget.index (Option.map change)⟩

theorem get?_update (forest : Forest) (widget other : WidgetId) (change : Node → Node) :
    (forest.update widget change).get? other =
      if other = widget then (forest.get? other).map change else forest.get? other := by
  simp only [get?, update, Array.getElem?_modify]
  by_cases same : other = widget
  · subst same
    simp only [if_true]
    cases forest.nodes[other.index]? with
    | none => rfl
    | some place => cases place <;> rfl
  · have apart : widget.index ≠ other.index := by
      intro equal
      apply same
      cases other
      cases widget
      simp_all
    simp [same, apart]

/-! Views of a widget's node. -/

def kind? (forest : Forest) (widget : WidgetId) : Option Kind :=
  (forest.get? widget).map Node.kind

def parent? (forest : Forest) (widget : WidgetId) : Option WidgetId :=
  (forest.get? widget).bind Node.parent

def children (forest : Forest) (widget : WidgetId) : List WidgetId :=
  ((forest.get? widget).map Node.children).getD []

def constraint? (forest : Forest) (widget : WidgetId) : Option Constraint :=
  (forest.get? widget).bind Node.constraint

def pending? (forest : Forest) (widget : WidgetId) : Option WidgetId :=
  (forest.get? widget).bind Node.pending

def isContainer (forest : Forest) (widget : WidgetId) : Bool :=
  (forest.get? widget).any Node.isContainer

def autoAdds (forest : Forest) (widget : WidgetId) : Bool :=
  (forest.get? widget).any Node.autoAdds

def describe (forest : Forest) (widget : WidgetId) : String :=
  ((forest.get? widget).map Node.describe).getD ""

/-- The first child that was placed with a constraint. -/
def childAt? (forest : Forest) (widget : WidgetId) (constraint : Constraint) : Option WidgetId :=
  (forest.children widget).find?
    (fun child => forest.constraint? child == some constraint)

/-! Walks along the links. The number of places bounds every walk that visits no widget twice. -/

/-- The first strict ancestors of a widget, at most `count` of them. -/
def climb (forest : Forest) : Nat → WidgetId → List WidgetId
  | 0, _ => []
  | count + 1, widget =>
    match forest.parent? widget with
    | none => []
    | some parent => parent :: climb forest count parent

/-- The strict ancestors of a widget, nearest first. -/
def ancestors (forest : Forest) (widget : WidgetId) : List WidgetId :=
  forest.climb forest.nodes.size widget

/-- The widget sits somewhere below the other. -/
def isBelow (forest : Forest) (widget other : WidgetId) : Bool :=
  (forest.ancestors widget).contains other

/-- The widget or one of its ancestors is marked, looking at most `count` widgets far. -/
def isWithinSteps (forest : Forest) (marked : WidgetId → Bool) : Nat → WidgetId → Bool
  | 0, _ => false
  | count + 1, widget =>
    marked widget ||
      match forest.parent? widget with
      | none => false
      | some parent => isWithinSteps forest marked count parent

/-- The widget or one of its ancestors is marked. -/
def isWithin (forest : Forest) (marked : WidgetId → Bool) (widget : WidgetId) : Bool :=
  forest.isWithinSteps marked (forest.nodes.size + 1) widget

theorem isWithinSteps_eq_any (forest : Forest) (marked : WidgetId → Bool) (count : Nat)
    (widget : WidgetId) :
    forest.isWithinSteps marked (count + 1) widget =
      (widget :: forest.climb count widget).any marked := by
  induction count generalizing widget with
  | zero =>
    simp only [isWithinSteps, climb, List.any_cons, List.any_nil]
    cases forest.parent? widget <;> rfl
  | succ count step =>
    rw [isWithinSteps, climb, List.any_cons]
    cases forest.parent? widget with
    | none => rfl
    | some parent => simp only [step]

theorem isWithin_eq_any (forest : Forest) (marked : WidgetId → Bool) (widget : WidgetId) :
    forest.isWithin marked widget = (widget :: forest.ancestors widget).any marked :=
  forest.isWithinSteps_eq_any marked forest.nodes.size widget

/-- Takes widgets off a stack, and puts their children on it, at most `count` times. -/
def unstack (forest : Forest) : Nat → List WidgetId → List WidgetId
  | 0, _ => []
  | _, [] => []
  | count + 1, widget :: stack => widget :: unstack forest count (forest.children widget ++ stack)

/-- All widgets below a widget, parents before their children and siblings in order. -/
def descendants (forest : Forest) (widget : WidgetId) : List WidgetId :=
  forest.unstack forest.nodes.size (forest.children widget)

/-- The widgets of a forest as selectors see them. -/
def host (forest : Forest) : Host WidgetId where
  hasName widget name := ((forest.get? widget).bind Node.name) == some name
  hasClassList widget := (forest.get? widget).any (fun node => node.kind.hasClassList)
  hasClass widget name := (forest.get? widget).any (fun node => node.hasClass name)
  parent? := forest.parent?
  height _ := forest.nodes.size

end Forest

end StyledTree
