import StyledTree.Scene.Cascade
import StyledTree.Session.Inspect
import StyledTree.Session.Scripts

set_option autoImplicit false

namespace StyledTree.Session

/-- Names a new widget and gives it the name and classes that it starts with. -/
def introduce (widget : WidgetId) (name classes bound : Option String) : Action Answer := do
  match name with
  | some name => modify (fun state => state.update widget (Change.setName name).applyTo)
  | none => pure ()
  match classes with
  | some classes => modify (fun state => state.update widget (Change.setClasses classes).applyTo)
  | none => pure ()
  bindWidget bound widget
  widgetAnswer widget

/-- What a weak name still stands for. -/
def peek (weak : String) (other bound : Option String) : Action Answer := do
  let target := (← get).client.weak.find? weak
  let compared ← other.mapM widget
  let alive := target.filter (← get).forest.contains
  match alive with
  | some found => bindWidget bound found
  | none => pure ()
  let state ← get
  return .ofFields
    [("alive", .flag alive.isSome),
      ("debug", .text ("WeakWidget(" ++
        (match alive with
          | some found => "Widget(" ++ state.describe found ++ ")"
          | none => "<dropped>") ++ ")")),
      ("points_to", (compared.map (fun found => Answer.flag (target == some found))).getD .nothing),
      ("widget", state.widgetAnswer? alive)]

/-- A child by name, if there is one to look up. -/
def child? (name : Option String) : Action (Option WidgetId) := name.mapM widget

/-- Replaces the child of a pane at some place. -/
def setChild (view : View) (name : String) (child : Option String)
    (step : WidgetId → Option WidgetId → State → State) : Action Answer := do
  let pane ← viewed view name
  let found ← child? child
  modify (step pane found)
  return .nothing

/-- The selector that every widget meets, or the one that a text is read as. -/
def selectorOr (text : Option String) : Action Selector :=
  match text with
  | some text => readSelector text
  | none => pure .glob

/-- A new plain style with client code of its own. -/
def newStyle (selector : Selector) (target : Target) (script : Script) : Action StyleId := do
  let handler ← newRoutine script none
  changing (fun state => state.addStyle ⟨selector, target, .plain handler⟩)

/-- Executes one command; `execute` is for the commands inside it and `steps` bounds the cascades
that it starts. -/
def perform (execute : Executor) (steps : Nat) : Command → Action Answer
  | .newWidget kind name classes bound => do
    let made ← owning (fun state => state.spawn kind)
    introduce made name classes bound
  | .newView view text layout name classes bound => do
    let made ← owning (fun state => state.make view (text.getD ""))
    match view, layout with
    | .panel, some layout => modify (fun state => state.update made (fun node => node.setLayout layout))
    | _, _ => pure ()
    introduce made name classes bound
  | .alias name bound => do
    let found ← widget name
    bindWidget bound found
    widgetAnswer found
  | .drop name => do
    let told ← changing (fun state => State.unbindWidget state name)
    return .flag told
  | .weaken name bound => do
    let found ← widget name
    modify (fun state => state.withClient
      (fun client => { client with weak := client.weak.bind bound found }))
    return .nothing
  | .peek weak other bound => peek weak other bound
  | .sameWidget first second => do
    let first ← widget first
    let second ← widget second
    return .flag (first == second)
  | .choose condition expected met unmet => do
    let answer ← running (execute condition)
    let body := if expected.any answer.same then met else unmet
    runningOnly (runBody execute body)
    return .nothing
  | .find name route bound => find name route bound
  | .ask name query => ask name query
  | .change name change => changeWidget name change
  | .editClass name edit text => editClass name edit text
  | .isBelow name other => do
    let found ← widget name
    let above ← widget other
    return .flag ((← get).forest.isBelow found above)
  | .add parent child => do
    let parent ← widget parent
    let child ← widget child
    attempt (fun state => state.add parent child)
  | .addWith parent child constraint => do
    let parent ← widget parent
    let child ← widget child
    attempt (fun state => state.addWith parent child constraint)
  | .remove parent child => do
    let parent ← widget parent
    let child ← widget child
    return .flag (← changing (fun state => state.remove parent child))
  | .removeAll parent => do
    let parent ← widget parent
    modify (fun state => state.removeAll parent)
    return .nothing
  | .detach name => do
    let found ← widget name
    return .flag (← changing (fun state => state.detach found))
  | .settle name constraint => do
    let found ← widget name
    attempt (fun state => state.settle found constraint)
  | .setSide pane side child =>
    setChild .splitPane pane child (fun pane child state => state.setSide pane side child)
  | .setRegion pane region child =>
    setChild .borderPane pane child (fun pane child state => state.setRegion pane region child)
  | .setScrollView pane child =>
    setChild .scrollPane pane child (fun pane child state => state.setView pane child)
  | .contentPane name bound => do
    let frame ← viewed .frame name
    let pane ← owning (fun state => state.contentPane frame)
    bindWidget bound pane
    widgetAnswer pane
  | .setFactory name view script existing kind => do
    let found ← widget name
    let handler ← newRoutine script (some ⟨view, existing, kind⟩)
    modify (fun state => state.setFactory found view handler)
    return .nothing
  | .removeFactory name view => do
    let found ← widget name
    let told := ((← node found).factory? view).isSome
    modify (fun state => state.update found (fun node => node.removeFactory view))
    return .flag told
  | .hasFactory name view => do
    let found ← widget name
    let handler ← changing (fun state => state.factoryFor view found)
    return .flag handler.isSome
  | .create name view bound => do
    let parent ← widget name
    let made ← running (Scene.create (handlers execute) view parent)
    modify (fun state => State.pin state made)
    bindWidget bound made
    widgetAnswer made
  | .build name view bound body => do
    let parent ← widget name
    let built ← running
      (Scene.build (handlers execute) view parent (initialise execute bound body))
    modify (fun state => State.pin state built)
    widgetAnswer built
  | .onAction name script => do
    let button ← viewed .button name
    let handler ← newRoutine script none
    modify (fun state => state.onAction button handler)
    return .nothing
  | .click name => do
    let button ← viewed .button name
    return .ofNat (← running (Scene.click (handlers execute) button))
  | .onMouse name kind key script => do
    let found ← widget name
    let handler ← newRoutine script none
    modify (fun state => state.onMouse found ⟨kind, key, handler⟩)
    return .nothing
  | .removeMouse name kind key => do
    let found ← widget name
    return .flag (← changing (fun state => state.removeMouse found kind key))
  | .fire name event => do
    let found ← widget name
    return .ofNat (← running (Scene.fireMouse (handlers execute) found event))
  | .selects text name => do
    let selector ← readSelector text
    let found ← widget name
    return .flag (selector.selects (← get).forest.host found)
  | .newSheet bound => do
    let made ← changing (fun state => state.addSheet)
    match bound with
    | some name => modify (fun state => state.withClient
        (fun client => { client with sheets := client.sheets.bind name made }))
    | none => pure ()
    return .nothing
  | .register name target text script bound => do
    let found ← sheet name
    let selector ← selectorOr text
    let made ← newStyle selector target script
    modify (fun state => state.register found made)
    bindStyle bound made
    styleAnswer made
  | .newStyle target text script bound => do
    let selector ← readSelector text
    let made ← newStyle selector target script
    bindStyle bound made
    styleAnswer made
  | .newScope text bound => do
    let selector ← readSelector text
    let made ← changing (fun state => state.addStyle (.scope selector))
    bindStyle bound made
    styleAnswer made
  | .wrap name bound => do
    let found ← style name
    let made ← changing (fun state => state.wrap found)
    bindStyle bound made
    styleAnswer made
  | .asChain name bound => do
    let found ← style name
    let made ← changing (fun state => state.asChain found)
    bindStyle bound made
    styleAnswer made
  | .registerStyle name sheetName => do
    let found ← style name
    let held ← sheet sheetName
    modify (fun state => state.register held found)
    styleAnswer found
  | .nest parent child bound => do
    let parent ← chainStyle parent
    let child ← style child
    let made ← changing (fun state => state.nest parent child)
    bindStyle bound made
    styleAnswer made
  | .chain parent child sheetName bound => do
    let parent ← style parent
    let child ← style child
    let held ← sheet sheetName
    let made ← changing (fun state => state.chain held parent child)
    bindStyle bound made
    styleAnswer made
  | .wraps chain name => do
    let chain ← chainStyle chain
    let found ← style name
    return .flag ((← get).styles.wraps chain found)
  | .showStyle name => do
    let found ← style name
    return State.styleTree (← get) found
  | .debugStyle name => do
    let found ← chainStyle name
    return .text ((((← get).styles.get? found).map Style.debugText).getD "")
  | .applyStyle name widgetName => do
    let found ← style name
    let target ← widget widgetName
    runningOnly (Scene.applyStyle (handlers execute) steps steps found target)
    return .nothing
  | .apply name widgetName => do
    let found ← sheet name
    let root ← widget widgetName
    runningOnly (Scene.apply (handlers execute) steps found root)
    return .nothing
  | .revalidate name widgetName => do
    let found ← sheet name
    let changed ← widget widgetName
    return .flag (← running (Scene.revalidate (handlers execute) steps found changed))
  | .forget name widgetName => do
    let found ← sheet name
    let root ← widget widgetName
    return .flag (← changing (fun state => state.forget found root))
  | .appliedRoots name => do
    let found ← sheet name
    let state ← get
    return State.widgetsAnswer state (state.appliedRoots found)
  | .showStyles name => do
    let found ← sheet name
    let state ← get
    let styles := state.topStyles found
    return .ofFields
      [("len", .ofNat styles.length), ("empty", .flag styles.isEmpty),
        ("styles", .list (styles.map (State.styleTree state)))]
  | .debugSheet name => do
    let found ← sheet name
    return .text ((← get).sheetDebugText found)
  | .requiresConstraints layout => return .flag layout.requiresConstraints
  | .sameTarget first second => return .flag (first == second)
  | .setLogLevel threshold => do
    modify (fun state => { state with journal := state.journal.setThreshold threshold })
    return .nothing
  | .takeLog =>
    changing (fun state =>
      (.text state.journal.text, { state with journal := state.journal.cleared }))
  | .openLog path => refuse (.fault (Journal.secondDestination path))
  | .unknown name => refuse (.unknownCommand name)

/-- Executes one command, with everything that it holds given up at its end. -/
def executeWith (execute : Executor) (steps : Nat) (command : Command) (state : State) :
    Option (Answer × State) :=
  let outer := state.client.pins
  let entered := state.withClient (fun client => { client with pins := [] })
  ((perform execute steps command).run entered).map fun (outcome, after) =>
    let released := after.client.pins.foldl Scene.release after
    (match outcome with
      | .ok answer => answer
      | .error refusal => .ofRefusal refusal,
      released.withClient (fun client => { client with pins := outer }))

/-- Executes a command within a number of nested steps. -/
def execute : Nat → Command → State → Option (Answer × State)
  | 0, _, _ => none
  | steps + 1, command, state => executeWith (execute steps) steps command state

/-- The nested steps that a top-level command may take. -/
def stepLimit : Nat := 100000

/-- Executes a top-level command, with a trace of its own. -/
def reply (command : Command) (state : State) : Reply × State :=
  let entered := state.withClient (fun client => { client with trace := [] })
  match execute stepLimit command entered with
  | none => (⟨.nothing, []⟩, state)
  | some (answer, after) => (⟨answer, after.client.trace.reverse⟩, after)

/-- The replies to commands, one after the other. -/
def replies (state : State) : List Command → List Reply
  | [] => []
  | command :: rest =>
    let (told, after) := reply command state
    told :: replies after rest

end StyledTree.Session
