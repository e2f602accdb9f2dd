import StyledTree.Forest.Links
import StyledTree.Journal
import StyledTree.Style.Basic

set_option autoImplicit false

/-!
A scene: a forest with the styles and sheets made for it, and the handles by which client code keeps
widgets alive. A widget lives while a handle is on it or on one of its ancestors; the call that gives
up a widget that nothing else keeps drops it, and every link to it with it.
-/

namespace StyledTree

structure SheetId where
  index : Nat
deriving DecidableEq, Inhabited

/-- A scene; `client` is what the client code keeps for itself. -/
structure Scene (ε : Type) where
  forest : Forest
  /-- One entry for each handle on a widget. -/
  handles : List WidgetId
  styles : Styles
  sheets : Array Sheet
  journal : Journal
  client : ε

/-- What client code does when the library calls it: `none` stands for a call that does not end. -/
structure Handlers (ε : Type) where
  /-- A mutation or an action, on a widget. -/
  run : HandlerId → WidgetId → Scene ε → Option (Scene ε)
  /-- A mouse listener, on the widget it listens to. -/
  notify : HandlerId → WidgetId → Mouse.Event → Scene ε → Option (Scene ε)
  /-- A factory; it hands over one handle on the widget that it makes. -/
  produce : HandlerId → Scene ε → Option (WidgetId × Scene ε)

namespace Scene

variable {ε : Type}

def fresh (client : ε) : Scene ε := ⟨.empty, [], .empty, #[], .fresh, client⟩

def note (scene : Scene ε) (event : Event) : Scene ε :=
  { scene with journal := scene.journal.note event }

def describe (scene : Scene ε) (widget : WidgetId) : String := scene.forest.describe widget

/-- Changes the node of one widget. -/
def update (scene : Scene ε) (widget : WidgetId) (change : Node → Node) : Scene ε :=
  { scene with forest := scene.forest.update widget change }

/-- Changes what the client code keeps. -/
def withClient (scene : Scene ε) (change : ε → ε) : Scene ε :=
  { scene with client := change scene.client }

/-! Handles. -/

/-- A handle is on the widget or on one of its ancestors. -/
def isHeld (scene : Scene ε) (widget : WidgetId) : Bool :=
  scene.forest.isWithin scene.handles.contains widget

/-- For each place of the forest, whether a handle is on the widget there. -/
def handleMarks (scene : Scene ε) : Array Bool :=
  scene.handles.foldl (fun marks widget => marks.setIfInBounds widget.index true)
    (Array.replicate scene.forest.nodes.size false)

theorem getD_foldl_mark (handles : List WidgetId) (marks : Array Bool) (widget : WidgetId)
    (inside : widget.index < marks.size) :
    (handles.foldl (fun marks held => marks.setIfInBounds held.index true) marks).getD
        widget.index false =
      (marks.getD widget.index false || handles.contains widget) := by
  induction handles generalizing marks with
  | nil => simp
  | cons held rest step =>
    rw [List.foldl_cons, step _ (by simpa using inside), List.contains_cons]
    by_cases same : widget = held
    · subst same
      simp [Array.getD_eq_getD_getElem?, inside]
    · have apart : held.index ≠ widget.index := by
        intro equal
        apply same
        cases held
        cases widget
        simp_all
      have other : (widget == held) = false := by simpa using same
      simp [Array.getD_eq_getD_getElem?, apart, other, inside]

/-- The marks tell of every place of the forest whether a handle is on the widget there. -/
theorem getD_handleMarks (scene : Scene ε) {widget : WidgetId}
    (inside : widget.index < scene.forest.nodes.size) :
    scene.handleMarks.getD widget.index false = scene.handles.contains widget := by
  rw [handleMarks, getD_foldl_mark _ _ _ (by simpa using inside)]
  simp [Array.getD_eq_getD_getElem?, inside]

/-- Drops all widgets that nothing keeps. -/
def sweep (scene : Scene ε) : Scene ε :=
  let marks := scene.handleMarks
  { scene with
    forest := scene.forest.retain
      (scene.forest.isWithin (fun widget => marks.getD widget.index false)) }

def hold (scene : Scene ε) (widget : WidgetId) : Scene ε :=
  { scene with handles := widget :: scene.handles }

/-- Gives up one handle on a widget, and the widget with it if nothing else keeps it. -/
def release (scene : Scene ε) (widget : WidgetId) : Scene ε :=
  let after := { scene with handles := scene.handles.erase widget }
  if after.isHeld widget then after else after.sweep

/-- Puts the forest after an edit of a container in place of the old one. A child that the container gave
up is gone if nothing keeps it, with all below it that nothing keeps. -/
def carryOut (scene : Scene ε) (container : WidgetId) (forest : Forest) : Scene ε :=
  let after := { scene with forest := forest }
  if (scene.forest.lost forest container).all after.isHeld then after else after.sweep

/-- A new widget with one handle on it. -/
def spawn (scene : Scene ε) (kind : Kind) : WidgetId × Scene ε :=
  let (widget, forest) := scene.forest.create kind
  (widget, { scene with forest := forest, handles := widget :: scene.handles })

end Scene

end StyledTree
