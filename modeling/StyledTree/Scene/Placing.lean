import StyledTree.Scene.Basic

set_option autoImplicit false

namespace StyledTree.Scene

variable {ε : Type}

/-- Takes a child out of its parent; tells whether it was there. -/
def remove (scene : Scene ε) (parent child : WidgetId) : Bool × Scene ε :=
  let (told, forest) := scene.forest.remove parent child
  (told, scene.carryOut parent forest)

def removeAll (scene : Scene ε) (parent : WidgetId) : Scene ε :=
  scene.carryOut parent (scene.forest.removeAll parent)

/-- Takes a widget out of its parent; tells whether it had one. -/
def detach (scene : Scene ε) (widget : WidgetId) : Bool × Scene ε :=
  match scene.forest.parent? widget with
  | some parent => scene.remove parent widget
  | none => (false, scene)

/-- Carries out an edit that places a child in a parent, if it is not refused. -/
def commit (scene : Scene ε) (parent child : WidgetId) (edit : Forest.Edit) :
    Except Fault Unit × Scene ε :=
  let after := scene.carryOut parent edit.2
  (edit.1,
    match edit.1 with
    | .ok _ => after.note (.childAdded (after.describe child) (after.describe parent))
    | .error _ => after)

def add (scene : Scene ε) (parent child : WidgetId) : Except Fault Unit × Scene ε :=
  scene.commit parent child (.ofInsertion scene.forest (scene.forest.add parent child))

def addWith (scene : Scene ε) (parent child : WidgetId) (constraint : Constraint) :
    Except Fault Unit × Scene ε :=
  scene.commit parent child
    (.ofInsertion scene.forest (scene.forest.addWith parent child constraint))

/-- Places a widget in the container that it was built in. -/
def settle (scene : Scene ε) (widget : WidgetId) (constraint : Constraint) :
    Except Fault Unit × Scene ε :=
  scene.commit ((scene.forest.pending? widget).getD widget) widget
    (scene.forest.settle widget constraint)

/-- An edit whose refusal is only reported. -/
def place (scene : Scene ε) (pane : WidgetId) (widget : Option WidgetId) (edit : Forest.Edit)
    (refused : String → Fault → Event) : Scene ε :=
  match widget with
  | none => scene.carryOut pane edit.2
  | some widget =>
    match scene.commit pane widget edit with
    | (.ok _, after) => after
    | (.error fault, after) => after.note (refused (after.describe widget) fault)

/-- Replaces what sits in a region of a border pane. -/
def setRegion (scene : Scene ε) (pane : WidgetId) (region : Constraint)
    (widget : Option WidgetId) : Scene ε :=
  scene.place pane widget (scene.forest.setPlace pane region widget) .regionRefused

/-- Replaces what sits at a side of a split pane. -/
def setSide (scene : Scene ε) (pane : WidgetId) (side : Constraint)
    (widget : Option WidgetId) : Scene ε :=
  scene.place pane widget (scene.forest.setPlace pane side widget) .sideRefused

/-- Replaces the view of a scroll pane. -/
def setView (scene : Scene ε) (pane : WidgetId) (widget : Option WidgetId) : Scene ε :=
  scene.place pane widget (scene.forest.setView pane widget) .viewRefused

/-- Puts a new panel at the center of a frame; the caller gets a handle on it. -/
def attachContent (scene : Scene ε) (frame : WidgetId) : WidgetId × Scene ε :=
  let (panel, scene) := scene.spawn .panel
  match scene.addWith frame panel .center with
  | (.ok _, after) => (panel, after)
  | (.error fault, after) => (panel, after.note (.contentRefused (after.describe frame) fault))

/-- The panel at the center of a frame, which is made if there is none; the caller gets a handle on
it. -/
def contentPane (scene : Scene ε) (frame : WidgetId) : WidgetId × Scene ε :=
  match scene.forest.childAt? frame .center with
  | some child =>
    if scene.forest.kind? child = some .panel then (child, scene.hold child)
    else scene.attachContent frame
  | none => scene.attachContent frame

end StyledTree.Scene
