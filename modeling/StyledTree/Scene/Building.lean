import StyledTree.Scene.Placing

set_option autoImplicit false

namespace StyledTree

/-- What the search for a factory comes to. -/
inductive FactorySearch where
  | found (handler : HandlerId)
  | absent
  /-- The containers lead back to this widget before a factory is met. -/
  | loop (widget : WidgetId)
deriving DecidableEq

namespace Forest

/-- The widget in which the search for a factory goes on: the parent, or else the container that the
widget is pending in. -/
def container? (forest : Forest) (widget : WidgetId) : Option WidgetId :=
  (forest.parent? widget).or (forest.pending? widget)

/-- Searches from a widget outward, at most `count` widgets far. -/
def searchFactory (forest : Forest) (view : View) :
    Nat → List WidgetId → WidgetId → FactorySearch
  | 0, _, _ => .absent
  | count + 1, seen, widget =>
    if seen.contains widget then .loop widget
    else
      match (forest.get? widget).bind (fun node => node.factory? view) with
      | some handler => .found handler
      | none =>
        match forest.container? widget with
        | none => .absent
        | some next => searchFactory forest view count (widget :: seen) next

/-- The nearest factory for a view; the search meets no widget twice without noticing. -/
def factoryFor (forest : Forest) (view : View) (widget : WidgetId) : FactorySearch :=
  forest.searchFactory view (forest.nodes.size + 1) [] widget

end Forest

namespace Scene

variable {ε : Type}

/-- A new widget of a view, with a text if the view is made with one. The caller gets a handle. -/
def make (scene : Scene ε) (view : View) (text : String) : WidgetId × Scene ε :=
  let (widget, scene) := scene.spawn view.kind
  match view with
  | .button | .label => (widget, scene.update widget (fun node => { node with text := some text }))
  | .frame =>
    let scene := scene.update widget (fun node => { node with text := some text })
    let (panel, scene) := scene.attachContent widget
    (widget, scene.release panel)
  | _ => (widget, scene)

/-- The search for a factory, with a loop reported. -/
def factoryFor (scene : Scene ε) (view : View) (widget : WidgetId) :
    Option HandlerId × Scene ε :=
  match scene.forest.factoryFor view widget with
  | .found handler => (some handler, scene)
  | .absent => (none, scene)
  | .loop met => (none, scene.note (.factoryLoop (scene.describe met)))

/-- Registers a factory for a view on a widget. -/
def setFactory (scene : Scene ε) (widget : WidgetId) (view : View) (handler : HandlerId) :
    Scene ε :=
  let scene := scene.update widget (fun node => node.setFactory view handler)
  scene.note (.factorySet (scene.describe widget) view)

/-- A widget of a view made by the nearest factory, or a fresh one if there is none or if it makes a
widget that the view does not accept. The caller gets a handle. -/
def create (handlers : Handlers ε) (view : View) (parent : WidgetId) (scene : Scene ε) :
    Option (WidgetId × Scene ε) :=
  match scene.factoryFor view parent with
  | (none, scene) => some (scene.make view "")
  | (some handler, scene) => do
    let (widget, scene) ← handlers.produce handler scene
    if (scene.forest.kind? widget).any view.accepts then some (widget, scene)
    else
      let scene := scene.note (.productRefused view (scene.describe widget))
      some ((scene.release widget).make view "")

/-- Builds a widget inside a parent: makes it, lets `init` work on it while it is pending in the
parent, and attaches it if the parent then attaches what is built in it. The caller gets a
handle. -/
def build (handlers : Handlers ε) (view : View) (parent : WidgetId)
    (init : WidgetId → Scene ε → Option (Scene ε)) (scene : Scene ε) :
    Option (WidgetId × Scene ε) := do
  let (widget, scene) ← scene.create handlers view parent
  let scene ← init widget (scene.update widget (fun node => { node with pending := some parent }))
  if scene.forest.autoAdds parent then
    match scene.add parent widget with
    | (.ok _, after) => some (widget, after)
    | (.error fault, after) =>
      some (widget,
        after.note (.buildRefused (after.describe parent) (after.describe widget) fault))
  else
    some (widget,
      scene.note (.placementPending (scene.describe widget) (scene.describe parent)))

end Scene

end StyledTree
