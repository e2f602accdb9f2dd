import StyledTree.Scene.Firing
import StyledTree.Session.State

set_option autoImplicit false

namespace StyledTree.Session

/-- The view that a way leads through. -/
def Route.view? : Route → Option View
  | .side _ => some .splitPane
  | .region _ => some .borderPane
  | .scrollView => some .scrollPane
  | _ => none

/-- The widget at the end of a way. -/
def Route.follow (forest : Forest) (start : WidgetId) : Route → Option WidgetId
  | .parent => forest.parent? start
  | .child index => (forest.children start)[index]?
  | .childAt constraint | .side constraint | .region constraint =>
    forest.childAt? start constraint
  | .pending => forest.pending? start
  | .scrollView => (forest.children start).head?

/-- The view that a question is asked through. -/
def Query.view? : Query → Option View
  | .debug view => view
  | .title => some .frame
  | .columns => some .textField
  | .combo => some .comboBox
  | .orientation => some .splitPane
  | _ => none

def Query.asksForText : Query → Bool
  | .text => true
  | _ => false

/-- The answer to a question about a widget that the question's view accepts. -/
def Query.answer (state : State) (widget : WidgetId) (node : Node) : Query → Answer
  | .info => .ofCapabilities node.kind
  | .name => .ofText? node.name
  | .ancestors => state.widgetsAnswer (state.forest.ancestors widget)
  | .children => state.widgetsAnswer node.children
  | .childCount => .ofNat node.children.length
  | .constraint => .ofText? (node.constraint.map Constraint.text)
  | .descendants => state.widgetsAnswer (state.forest.descendants widget)
  | .classes => .ofTexts node.classes
  | .hasClass wanted => .flag (node.hasClass wanted)
  | .foreground => .ofColor? node.look.foreground
  | .background => .ofColor? node.look.background
  | .font => .ofFont node.look.font
  | .border => .ofBorder node.look.border
  | .describe => .text node.describe
  | .debug view => .text ((view.map View.name).getD "Widget" ++ "(" ++ node.describe ++ ")")
  | .outline => .text (state.forest.outline widget)
  | .state => .ofState node state.widgetAnswer
  | .layout => .ofLayout node.layout
  | .autoAdds => .flag node.autoAdds
  | .accepts target => .ofTarget target node.kind
  | .text => .text node.shownText
  | .title => .text node.shownText
  | .columns => .ofNat node.columns.toNat
  | .combo => .ofChoice node.choice
  | .orientation => .text node.orientation.text
  | .mouseCount kind => .ofNat (Mouse.handlers node.listeners kind).length

/-- The view that a change is made through. -/
def Change.view? : Change → Option View
  | .setTitle _ => some .frame
  | .setColumns _ => some .textField
  | .addItem _ | .removeAllItems | .select _ => some .comboBox
  | .setOrientation _ => some .splitPane
  | _ => none

def Change.setsText : Change → Bool
  | .setText _ => true
  | _ => false

/-- A widget after a change of its look. -/
def withLook (node : Node) (change : Look → Look) : Node :=
  { node with look := change node.look }

/-- A widget after a change of its font size. -/
def withFontSize (node : Node) (size : Float32) : Node :=
  withLook node (fun look => { look with font := { look.font with size := size } })

/-- A widget after a change. -/
def Change.applyTo (node : Node) : Change → Node
  | .setName name => { node with name := some name }
  | .clearName => { node with name := none }
  | .setClasses text => node.setClasses text
  | .setForeground color => withLook node (fun look => { look with foreground := some color })
  | .setBackground color => withLook node (fun look => { look with background := some color })
  | .setFont font => withLook node (fun look => { look with font := font })
  | .setFontSize size => withFontSize node size
  | .scaleFont factor => withFontSize node (node.look.font.size * factor)
  | .setBorder border => withLook node (fun look => { look with border := some border })
  | .clearBorder => withLook node (fun look => { look with border := none })
  | .setVisible value => withLook node (fun look => { look with visible := value })
  | .setEnabled value => withLook node (fun look => { look with enabled := value })
  | .setTooltip text => withLook node (fun look => { look with tooltip := some text })
  | .setLayout layout => node.setLayout layout
  | .setText text | .setTitle text => { node with text := some text }
  | .setColumns count => { node with columns := count }
  | .addItem text => { node with choice := node.choice.addItem text }
  | .removeAllItems => { node with choice := node.choice.removeAll }
  | .select index => { node with choice := node.choice.select index }
  | .setOrientation axis => node.setLayout (.box axis)

/-- A widget after an edit of its class list, and what the edit tells. -/
def ClassEdit.applyTo (node : Node) (name : String) : ClassEdit → Bool × Node
  | .add => node.addClass name
  | .remove => node.removeClass name
  | .toggle => node.toggleClass name

/-- A widget by name, through a view if one is given. -/
def viewed? (view : Option View) (name : String) : Action WidgetId :=
  match view with
  | some view => viewed view name
  | none => widget name

/-- Only some kinds of widget have a text. -/
def checkText (widget : WidgetId) (needed : Bool) : Action Unit := do
  let kind := (← node widget).kind
  if needed && !kind.hasText then refuse (.noText kind)

/-- Follows a way from a widget and names the widget at its end. -/
def find (name : String) (route : Route) (bound : Option String) : Action Answer := do
  let start ← viewed? route.view? name
  match route.follow (← get).forest start with
  | none => return .nothing
  | some found =>
    bindWidget bound found
    widgetAnswer found

def ask (name : String) (query : Query) : Action Answer := do
  let asked ← viewed? query.view? name
  checkText asked query.asksForText
  return query.answer (← get) asked (← node asked)

def changeWidget (name : String) (change : Change) : Action Answer := do
  let changed ← viewed? change.view? name
  checkText changed change.setsText
  modify (fun state => state.update changed change.applyTo)
  return .nothing

def editClass (name : String) (edit : ClassEdit) (text : String) : Action Answer := do
  let edited ← widget name
  let (told, after) := edit.applyTo (← node edited) text
  modify (fun state => state.update edited (fun _ => after))
  return .flag told

end StyledTree.Session
