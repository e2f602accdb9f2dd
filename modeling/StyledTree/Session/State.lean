import StyledTree.Scene.Building
import StyledTree.Session.Command
import StyledTree.Session.Names
import StyledTree.Session.Refusal
import StyledTree.Session.Rendering

set_option autoImplicit false

/-!
What a session keeps beside its scene: the name tables, the scripts that stand for client code, the
widget that a script runs on and the trace of the command that is running. A name holds its widget;
so does a command each widget that it works on, until it ends.
-/

namespace StyledTree.Session

/-- The widget that a factory makes before its script runs. -/
structure Product where
  view : View
  existing : Option String
  kind : Option Kind

/-- A script as the library knows it, and how often it ran. -/
structure Routine where
  script : Script
  runs : Nat
  product : Option Product

structure Client where
  widgets : Names WidgetId
  /-- Names that hold nothing; what they stand for may be gone. -/
  weak : Names WidgetId
  styles : Names StyleId
  sheets : Names SheetId
  routines : Array Routine
  /-- The widget that the running script works on. -/
  current : Option WidgetId
  /-- The handles that the running command gives up when it ends. -/
  pins : List WidgetId
  /-- What the running top-level command traced, the latest first. -/
  trace : List Answer

namespace Client

def fresh : Client := ⟨.empty, .empty, .empty, .empty, #[], none, [], []⟩

end Client

abbrev State := Scene Client

/-- A step of a session: it may be refused, and it may fail to end. -/
abbrev Action := ExceptT Refusal (StateT State Option)

namespace State

def fresh : State := Scene.fresh Client.fresh

/-- Appends to the trace; nothing leaves no trace. -/
def traceAnswer (state : State) (answer : Answer) : State :=
  if answer.isNothing then state
  else state.withClient (fun client => { client with trace := answer :: client.trace })

/-- How a widget is written in answers: by its least name, or else by its description. -/
def widgetText (state : State) (widget : WidgetId) : String :=
  (state.client.widgets.nameOf? widget).getD ("?" ++ state.describe widget)

def widgetAnswer (state : State) (widget : WidgetId) : Answer := .text (state.widgetText widget)

def widgetAnswer? (state : State) (widget : Option WidgetId) : Answer :=
  (widget.map state.widgetAnswer).getD .nothing

def widgetsAnswer (state : State) (widgets : List WidgetId) : Answer :=
  .list (widgets.map state.widgetAnswer)

/-- How a style is written in answers: by its least name. -/
def styleName? (state : State) (style : StyleId) : Option String :=
  state.client.styles.nameOf? style

def styleAnswer (state : State) (style : StyleId) : Answer := .ofText? (state.styleName? style)

/-- A style with all that it wraps and holds. -/
def styleTree (state : State) (style : StyleId) : Answer :=
  .ofStyle state.styles state.styleName? (state.styles.items.size + 1) style

/-- Hands a handle over to the running command. -/
def pin (state : State) (widget : WidgetId) : State :=
  state.withClient (fun client => { client with pins := widget :: client.pins })

/-- Gives a name to a widget and holds it; what the name held before is given up. -/
def bindWidget (state : State) (name : String) (widget : WidgetId) : State :=
  let before := state.client.widgets.find? name
  let bound := (state.hold widget).withClient
    (fun client => { client with widgets := client.widgets.bind name widget })
  match before with
  | some old => bound.release old
  | none => bound

/-- Takes a name back and gives up what it held. -/
def unbindWidget (state : State) (name : String) : Bool × State :=
  match state.client.widgets.find? name with
  | none => (false, state)
  | some widget =>
    let unbound := state.withClient
      (fun client => { client with widgets := client.widgets.unbind name })
    (true, unbound.release widget)

/-- The widget that a name stands for; `self` is the widget that the running script works on. -/
def widget? (state : State) (name : String) : Option WidgetId :=
  if name = "self" then state.client.current else state.client.widgets.find? name

end State

/-! Steps that commands are made of. -/

def refuse {α : Type} (refusal : Refusal) : Action α := throw refusal

/-- Changes the state. -/
def change (step : State → State) : Action Unit := modify step

/-- Changes the state by a step that also yields a result. -/
def changing {α : Type} (step : State → α × State) : Action α := modifyGet step

/-- A step of the library that may fail to end. -/
def running {α : Type} (step : State → Option (α × State)) : Action α :=
  ExceptT.lift (fun state => step state)

def runningOnly (step : State → Option State) : Action Unit :=
  running (fun state => (step state).map (fun after => ((), after)))

/-- The widget of a name, held until the command ends. -/
def widget (name : String) : Action WidgetId := do
  match (← get).widget? name with
  | none => refuse (.unbound name)
  | some widget =>
    change (fun state => State.pin (state.hold widget) widget)
    return widget

/-- A widget that came with a handle, which is given up when the command ends. -/
def owning (step : State → WidgetId × State) : Action WidgetId :=
  changing (fun state =>
    let (widget, after) := step state
    (widget, State.pin after widget))

def node (widget : WidgetId) : Action Node := do
  return (((← get).forest.get? widget).getD default)

def style (name : String) : Action StyleId := do
  match (← get).client.styles.find? name with
  | none => refuse (.unbound name)
  | some style => return style

/-- A style that holds child styles. -/
def chainStyle (name : String) : Action StyleId := do
  let id ← style name
  if (← get).styles.isChain id then return id else refuse (.notChainable name)

def sheet (name : String) : Action SheetId := do
  match (← get).client.sheets.find? name with
  | none => refuse (.unbound name)
  | some sheet => return sheet

def bindWidget (bound : Option String) (widget : WidgetId) : Action Unit :=
  match bound with
  | none => pure ()
  | some name => change (fun state => state.bindWidget name widget)

def bindStyle (bound : Option String) (style : StyleId) : Action Unit :=
  match bound with
  | none => pure ()
  | some name => change (fun state => state.withClient
      (fun client => { client with styles := client.styles.bind name style }))

/-- A widget seen through a view; other widgets are refused. -/
def viewed (view : View) (name : String) : Action WidgetId := do
  let found ← widget name
  let kind := (← node found).kind
  if view.accepts kind then return found else refuse (.notOfView kind view)

/-- Reads a selector and reports its reading, unless there was no clause to read. -/
def readSelector (text : String) : Action Selector := do
  match Selector.parse text with
  | .error error => refuse (.fault (.malformedSelector error))
  | .ok selector =>
    change (fun state =>
      if Selector.isClauseless text then state
      else state.note (.selectorRead text selector.text))
    return selector

def newRoutine (script : Script) (product : Option Product) : Action HandlerId :=
  changing (fun state =>
    (⟨state.client.routines.size⟩,
      state.withClient (fun client =>
        { client with routines := client.routines.push ⟨script, 0, product⟩ })))

def widgetAnswer (widget : WidgetId) : Action Answer := do
  return (← get).widgetAnswer widget

def styleAnswer (style : StyleId) : Action Answer := do
  return (← get).styleAnswer style

/-- A library call that may be refused. -/
def attempt (step : State → Except Fault Unit × State) : Action Answer := do
  match ← changing step with
  | .ok _ => return .nothing
  | .error fault => refuse (.fault fault)

end StyledTree.Session
