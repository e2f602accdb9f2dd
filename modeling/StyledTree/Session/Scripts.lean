import StyledTree.Session.State

set_option autoImplicit false

namespace StyledTree.Session

/-- What executes the commands of client code. -/
abbrev Executor := Command → State → Option (Answer × State)

/-- Runs commands one after the other and traces their answers. -/
def runBody (execute : Executor) (body : List Command) (state : State) : Option State :=
  body.foldlM (fun state command =>
    (execute command state).map (fun (answer, after) => after.traceAnswer answer)) state

/-- Runs commands on a widget, which they call `self`. -/
def runOn (execute : Executor) (widget : WidgetId) (body : List Command) (state : State) :
    Option State :=
  let before := state.client.current
  let entered := state.withClient (fun client => { client with current := some widget })
  (runBody execute body entered).map
    (fun after => after.withClient (fun client => { client with current := before }))

/-- Runs a script on a widget, unless it has run often enough. -/
def runRoutine (execute : Executor) (handler : HandlerId) (remark : String) (widget : WidgetId)
    (state : State) : Option State :=
  match state.client.routines[handler.index]? with
  | none => some state
  | some routine =>
    if routine.script.limit.any (fun limit => limit ≤ routine.runs) then some state
    else
      let counted : State := state.withClient (fun client =>
        { client with
          routines := client.routines.modify handler.index
            (fun held => { held with runs := held.runs + 1 }) })
      let tag := routine.script.tag ++ "@" ++ counted.widgetText widget ++ remark
      runOn execute widget routine.script.body (counted.traceAnswer (.text tag))

/-- The widget that a factory starts from; the caller gets a handle on it. A factory belongs to no
script, so `self` is to it a name like any other. -/
def Product.start (product : Product) (state : State) : WidgetId × State :=
  let accepted := fun widget => (state.forest.kind? widget).any product.view.accepts
  match product.existing with
  | some name =>
    match (state.client.widgets.find? name).filter accepted with
    | some widget => (widget, state.hold widget)
    | none => state.make product.view ""
  | none =>
    match product.kind.filter product.view.accepts with
    | some kind => state.spawn kind
    | none => state.make product.view ""

/-- How a tag line shows a mouse event. -/
def eventRemark (event : Mouse.Event) : String :=
  " " ++ event.kind.text ++ " " ++ toString event.x.toInt ++ "," ++ toString event.y.toInt ++
    " x" ++ toString event.clickCount.toNat

/-- The client code of a session. -/
def handlers (execute : Executor) : Handlers Client where
  run handler widget state := runRoutine execute handler "" widget state
  notify handler widget event state :=
    runRoutine execute handler (eventRemark event) widget state
  produce handler state :=
    match (state.client.routines[handler.index]?).bind Routine.product with
    | none => none
    | some product =>
      let (widget, state) := product.start state
      (runRoutine execute handler "" widget state).map (fun after => (widget, after))

/-- The initialiser of a build: it names the new widget and then runs commands on it. -/
def initialise (execute : Executor) (bound : Option String) (body : List Command)
    (widget : WidgetId) (state : State) : Option State :=
  let named : State :=
    match bound with
    | some name => State.bindWidget state name widget
    | none => state
  runOn execute widget body named

end StyledTree.Session
