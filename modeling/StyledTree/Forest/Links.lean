import StyledTree.Fault
import StyledTree.Forest.Basic

set_option autoImplicit false

namespace StyledTree

/-- The outcome of an edit, and the forest after it. -/
abbrev Forest.Edit := Except Fault Unit × Forest

namespace Forest

/-- Makes a widget nobody's child, without a constraint. -/
def orphan (forest : Forest) (widget : WidgetId) : Forest :=
  forest.update widget (fun node => { node with parent := none, constraint := none })

/-- Takes a child out of its parent; nothing happens to a widget that is no child of it. -/
def remove (forest : Forest) (parent child : WidgetId) : Bool × Forest :=
  if (forest.children parent).contains child then
    (true,
      (forest.update parent (fun node =>
        { node with children := node.children.filter (fun other => other != child) })).orphan child)
  else (false, forest)

/-- Takes all children out of a widget. -/
def removeAll (forest : Forest) (parent : WidgetId) : Forest :=
  (forest.children parent).foldl orphan
    (forest.update parent (fun node => { node with children := [] }))

/-- Takes a widget out of its parent, if it has one. -/
def detach (forest : Forest) (widget : WidgetId) : Bool × Forest :=
  match forest.parent? widget with
  | some parent => forest.remove parent widget
  | none => (false, forest)

/-- Makes a widget without a parent the last child of another. -/
def link (forest : Forest) (parent child : WidgetId) (constraint : Option Constraint) : Forest :=
  (forest.update child (fun node =>
    { node with parent := some parent, constraint := constraint, pending := none })).update parent
      (fun node => { node with children := node.children ++ [child] })

/-- Moves a child, with all below it, to the end of a container. A scroll pane first gives up the
view that it shows. A widget that is gone holds no children and is nobody's child. -/
def insert (forest : Forest) (parent child : WidgetId) (constraint : Option Constraint) :
    Except Fault Forest :=
  match forest.get? parent with
  | none => .error (.notAContainer .component)
  | some node =>
    if !node.isContainer then .error (.notAContainer node.kind)
    else if child = parent || forest.isBelow parent child then
      .error (.wouldCreateCycle (forest.describe parent) (forest.describe child))
    else if !forest.contains child then .ok forest
    else
      let freed := (forest.detach child).2
      let room := if node.kind = .scrollPane then freed.removeAll parent else freed
      .ok (room.link parent child constraint)

/-- Appends a child without a constraint, which some layouts refuse. -/
def add (forest : Forest) (parent child : WidgetId) : Except Fault Forest :=
  match forest.get? parent with
  | none => .error (.notAContainer .component)
  | some node =>
    if node.isContainer && node.layout.requiresConstraints then
      .error (.constraintRequired node.kind node.layout)
    else forest.insert parent child none

/-- Appends a child with a placement constraint. -/
def addWith (forest : Forest) (parent child : WidgetId) (constraint : Constraint) :
    Except Fault Forest :=
  forest.insert parent child (some constraint)

/-- Takes out the first child at a constraint, unless it is the one to be spared. -/
def vacate (forest : Forest) (parent : WidgetId) (constraint : Constraint)
    (spared : Option WidgetId) : Forest :=
  match forest.childAt? parent constraint with
  | none => forest
  | some occupant =>
    if spared = some occupant then forest else (forest.remove parent occupant).2

/-- An insertion as an edit that keeps the forest when it is refused. -/
def Edit.ofInsertion (before : Forest) (inserted : Except Fault Forest) : Edit :=
  match inserted with
  | .ok after => (.ok (), after)
  | .error fault => (.error fault, before)

/-- Places a widget in the container it was built in, in the place of the child at the constraint. -/
def settle (forest : Forest) (widget : WidgetId) (constraint : Constraint) : Edit :=
  match forest.pending? widget with
  | none => (.error (.noPendingContainer ((forest.kind? widget).getD .component)), forest)
  | some container =>
    let room := forest.vacate container constraint (some widget)
    .ofInsertion room (room.addWith container widget constraint)

/-- Puts a widget, or nothing, in the place of the child at a constraint. -/
def setPlace (forest : Forest) (pane : WidgetId) (constraint : Constraint)
    (widget : Option WidgetId) : Edit :=
  let room := forest.vacate pane constraint none
  match widget with
  | none => (.ok (), room)
  | some widget => .ofInsertion room (room.addWith pane widget constraint)

/-- Makes a widget, or nothing, the view of a scroll pane. -/
def setView (forest : Forest) (pane : WidgetId) (widget : Option WidgetId) : Edit :=
  match widget with
  | none => (.ok (), forest.removeAll pane)
  | some widget => .ofInsertion forest (forest.add pane widget)

/-- The children that a container gave up in an edit. -/
def lost (before after : Forest) (container : WidgetId) : List WidgetId :=
  (before.children container).filter (fun child => !(after.children container).contains child)

/-- Drops widgets that are not to be kept, and every link to them. Constraints stay. -/
def retain (forest : Forest) (keep : WidgetId → Bool) : Forest :=
  ⟨forest.nodes.mapIdx fun index place =>
    if keep ⟨index⟩ then
      place.map fun node =>
        { node with
          parent := node.parent.filter keep
          pending := node.pending.filter keep
          children := node.children.filter keep }
    else none⟩

end Forest

end StyledTree
