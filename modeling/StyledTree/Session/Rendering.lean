import StyledTree.Forest.Outline
import StyledTree.Scene.Cascade
import StyledTree.Session.Answer

set_option autoImplicit false

namespace StyledTree.Answer

def ofColor (color : Color) : Answer := .text color.text

def ofColor? (color : Option Color) : Answer := .ofText? (color.map Color.text)

def ofWords (words : List UInt16) : Answer :=
  .list (words.map (fun word => .ofNat word.toNat))

def ofLayout : Layout → Answer
  | .flow => .text "flow"
  | .border => .text "border"
  | .card => .text "card"
  | .gridBag => .text "gridbag"
  | .box axis => .ofFields [("box", .text axis.text)]
  | .grid rows columns => .ofFields [("grid", .ofWords [rows, columns])]

def ofFont (font : Font) : Answer :=
  .ofFields
    [("family", .text font.family), ("size", .text (Number.singleText font.size)),
      ("bold", .flag font.bold), ("italic", .flag font.italic)]

def ofBorder : Option Border → Answer
  | none => .nothing
  | some (.line color thickness) =>
    .ofFields [("line", .ofColor color), ("thickness", .ofNat thickness.toNat)]
  | some (.space top left bottom right) =>
    .ofFields [("empty", .ofWords [top, left, bottom, right])]

def ofIndex? : Option Nat → Answer
  | some index => .ofNat index
  | none => .nothing

def ofChoice (choice : Choice) : Answer :=
  .ofFields
    [("items", .ofTexts choice.items), ("count", .ofNat choice.items.length),
      ("index", .ofIndex? choice.selected), ("item", .ofText? choice.selectedItem?)]

/-- What a kind of widget can do. -/
def ofCapabilities (kind : Kind) : Answer :=
  .ofFields
    [("type", .text kind.name), ("container", .flag kind.isContainer),
      ("class_list", .flag kind.hasClassList), ("caps", .ofNat kind.capabilityBits),
      ("element_class_list", .flag kind.hasClassList)]

/-- The fields of a widget's state that only some kinds have. -/
def kindFields (node : Node) : List (String × Answer) :=
  match node.kind with
  | .button | .label => [("text", .text node.shownText)]
  | .textField => [("text", .text node.shownText), ("columns", .ofNat node.columns.toNat)]
  | .frame => [("title", .text node.shownText)]
  | .comboBox =>
    [("items", .ofTexts node.choice.items), ("selected", .ofIndex? node.choice.selected)]
  | .splitPane => [("orientation", .text node.orientation.text)]
  | _ => []

/-- The whole state of a widget; `ofWidget` is the answer that stands for another widget. -/
def ofState (node : Node) (ofWidget : WidgetId → Answer) : Answer :=
  let ofWidget? := fun widget : Option WidgetId => (widget.map ofWidget).getD .nothing
  .ofFields
    ([("type", .text node.kind.name), ("name", .ofText? node.name),
      ("classes", .ofTexts node.classes), ("parent", ofWidget? node.parent),
      ("children", .list (node.children.map ofWidget)),
      ("constraint", .ofText? (node.constraint.map Constraint.text)),
      ("layout", .ofLayout node.layout), ("auto_add", .flag node.autoAdds),
      ("fg", .ofColor? node.look.foreground), ("bg", .ofColor? node.look.background),
      ("font", .ofFont node.look.font), ("border", .ofBorder node.look.border),
      ("visible", .flag node.look.visible), ("enabled", .flag node.look.enabled),
      ("tooltip", .ofText? node.look.tooltip), ("pending", ofWidget? node.pending)] ++
      kindFields node)

/-- What a target makes of a widget of some kind. -/
def ofTarget (target : Target) (kind : Kind) : Answer :=
  .ofFields
    [("accepts", .flag (target.accepts kind)), ("cast", .flag (target.accepts kind)),
      ("debug", .text target.debugText)]

/-- A style with all that it wraps and holds, `levels` levels deep; `name?` finds the name that is
shown for a style. -/
def ofStyle (styles : Styles) (name? : StyleId → Option String) : Nat → StyleId → Answer
  | 0, _ => .nothing
  | levels + 1, id =>
    match styles.get? id with
    | none => .nothing
    | some style =>
      .ofFields
        ([("name", .ofText? (name? id)), ("selector", .text style.selector.text),
          ("target", .text style.target.name)] ++
          match style.body with
          | .plain _ => []
          | .chain wrapped sheets =>
            [("wrapped", (wrapped.map (ofStyle styles name? levels)).getD .nothing),
              ("children", .list (sheets.map (fun child => ofStyle styles name? levels child.style)))])

end StyledTree.Answer

namespace StyledTree

namespace Style

/-- The text that shows a chain to a developer. -/
def debugText (style : Style) : String :=
  "ChainableStyle \x7b selector: " ++ Text.quoted style.selector.text ++ ", target: " ++
    style.target.debugText ++ ", wrapped: " ++ (if style.wrapped?.isSome then "true" else "false") ++
    ", children: " ++ toString style.children.length ++ " \x7d"

end Style

namespace Scene

variable {ε : Type}

/-- The text that shows a sheet to a developer; it counts all roots, also those that are gone. -/
def sheetDebugText (scene : Scene ε) (sheet : SheetId) : String :=
  let title := fun id => Text.quoted
    ((scene.styles.target id).name ++ " " ++ scene.styles.selectorText id)
  "Stylesheet \x7b styles: [" ++ ", ".intercalate ((scene.topStyles sheet).map title) ++
    "], applied_roots: " ++ toString (scene.roots sheet).length ++ " \x7d"

end Scene

end StyledTree
