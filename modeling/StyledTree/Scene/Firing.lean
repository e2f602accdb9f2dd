import StyledTree.Scene.Basic

set_option autoImplicit false

namespace StyledTree.Scene

variable {ε : Type}

/-- Registers an action of a button. -/
def onAction (scene : Scene ε) (widget : WidgetId) (handler : HandlerId) : Scene ε :=
  scene.update widget (fun node => { node with actions := node.actions ++ [handler] })

/-- Runs the actions of a button, in order; a disabled one has none to run. -/
def click (handlers : Handlers ε) (widget : WidgetId) (scene : Scene ε) :
    Option (Nat × Scene ε) :=
  match scene.forest.get? widget with
  | none => some (0, scene)
  | some node =>
    if node.look.enabled then
      (node.actions.foldlM (fun scene handler => handlers.run handler widget scene) scene).map
        (fun after => (node.actions.length, after))
    else some (0, scene)

/-- The mouse listeners of a widget. -/
def listeners (scene : Scene ε) (widget : WidgetId) : List Mouse.Listener :=
  ((scene.forest.get? widget).map Node.listeners).getD []

/-- Registers a mouse listener; one under a key takes the place of the one before it. -/
def onMouse (scene : Scene ε) (widget : WidgetId) (listener : Mouse.Listener) : Scene ε :=
  let replaces :=
    match listener.key with
    | some key =>
      if Mouse.isTaken (scene.listeners widget) listener.kind key then some key else none
    | none => none
  let scene := scene.update widget
    (fun node => { node with listeners := Mouse.register node.listeners listener })
  match replaces with
  | some key => scene.note (.listenerReplaced listener.kind key)
  | none => scene

/-- Removes the listener registered for a kind under a key; tells whether there was one. -/
def removeMouse (scene : Scene ε) (widget : WidgetId) (kind : Mouse.Kind) (key : String) :
    Bool × Scene ε :=
  (Mouse.isTaken (scene.listeners widget) kind key,
    scene.update widget
      (fun node => { node with listeners := Mouse.forget node.listeners kind key }))

/-- Delivers an event to the listeners of a widget for its kind, in order of registration; tells how
many ran. -/
def fireMouse (handlers : Handlers ε) (widget : WidgetId) (event : Mouse.Event)
    (scene : Scene ε) : Option (Nat × Scene ε) :=
  let called := Mouse.handlers (scene.listeners widget) event.kind
  (called.foldlM (fun scene handler => handlers.notify handler widget event scene) scene).map
    (fun after => (called.length, after))

end StyledTree.Scene
