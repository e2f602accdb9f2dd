set_option autoImplicit false

namespace StyledTree

inductive Kind where
  | component
  | frame
  | panel
  | borderPane
  | scrollPane
  | splitPane
  | button
  | label
  | textField
  | comboBox
deriving DecidableEq, Inhabited

namespace Kind

def name : Kind → String
  | .component => "Component"
  | .frame => "Frame"
  | .panel => "Panel"
  | .borderPane => "BorderPane"
  | .scrollPane => "ScrollPane"
  | .splitPane => "SplitPane"
  | .button => "Button"
  | .label => "Label"
  | .textField => "TextField"
  | .comboBox => "ComboBox"

/-- Widgets of this kind may hold children. -/
def isContainer : Kind → Bool
  | .frame | .panel | .borderPane | .scrollPane | .splitPane => true
  | .component | .button | .label | .textField | .comboBox => false

/-- Widgets of this kind carry a class list. -/
def hasClassList : Kind → Bool
  | .component | .frame => false
  | .panel | .borderPane | .scrollPane | .splitPane => true
  | .button | .label | .textField | .comboBox => true

/-- The capabilities as bits: 1 for a class list, 2 for children. -/
def capabilityBits (kind : Kind) : Nat :=
  kind.hasClassList.toNat + 2 * kind.isContainer.toNat

/-- Builders never attach children to widgets of this kind, whatever their layout. -/
def placesByHand : Kind → Bool
  | .splitPane | .frame => true
  | _ => false

/-- The kinds that carry a text of their own. -/
def hasText : Kind → Bool
  | .button | .label | .textField => true
  | _ => false

end Kind

/-- The typed views, one for each kind but the bare component. -/
inductive View where
  | frame
  | panel
  | borderPane
  | scrollPane
  | splitPane
  | button
  | label
  | textField
  | comboBox
deriving DecidableEq, Inhabited

namespace View

/-- The kind that a fresh widget of the view is made with. -/
def kind : View → Kind
  | .frame => .frame
  | .panel => .panel
  | .borderPane => .borderPane
  | .scrollPane => .scrollPane
  | .splitPane => .splitPane
  | .button => .button
  | .label => .label
  | .textField => .textField
  | .comboBox => .comboBox

def name (view : View) : String := view.kind.name

/-- A border pane can stand for a panel; otherwise the kinds have to agree. -/
def accepts (view : View) (kind : Kind) : Bool :=
  kind == view.kind || (view == .panel && kind == .borderPane)

end View

/-- What a style applies to: any widget, or the widgets that a view accepts. -/
inductive Target where
  | any
  | only (view : View)
deriving DecidableEq, Inhabited

namespace Target

def name : Target → String
  | .any => Kind.component.name
  | .only view => view.name

def accepts : Target → Kind → Bool
  | .any, _ => true
  | .only view, kind => view.accepts kind

/-- The text that shows a target to a developer. -/
def debugText (target : Target) : String := "TargetType(" ++ target.name ++ ")"

end Target

end StyledTree
