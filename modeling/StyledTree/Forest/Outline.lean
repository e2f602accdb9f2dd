import StyledTree.Forest.Basic
import StyledTree.Number.Single
import StyledTree.Text.Quoted

set_option autoImplicit false

namespace StyledTree

namespace Node

/-- A part of a line that is only there for some widgets. -/
def optionalText {α : Type} (write : α → String) : Option α → String
  | some value => write value
  | none => ""

/-- What a line shows of a widget: its description, constraint, text, colours, a font size other
than the default and that it is hidden. -/
def outlineText (node : Node) : String :=
  node.describe ++
  optionalText (fun constraint : Constraint => " @" ++ constraint.text) node.constraint ++
  optionalText (fun text => " " ++ Text.quoted text) node.text ++
  optionalText (fun color : Color => " fg=" ++ color.text) node.look.foreground ++
  optionalText (fun color : Color => " bg=" ++ color.text) node.look.background ++
  (if node.look.font.size != Font.defaultSize then
    " size=" ++ Number.singleText node.look.font.size
  else "") ++
  (if node.look.visible then "" else " hidden")

end Node

namespace Forest

/-- The lines of a subtree, at most `levels` levels of it, the first one `depth` levels deep. -/
def outlineFrom (forest : Forest) : Nat → Nat → WidgetId → String
  | 0, _, _ => ""
  | levels + 1, depth, widget =>
    String.ofList (List.replicate (2 * depth) ' ') ++
    ((forest.get? widget).map Node.outlineText).getD "" ++ "\n" ++
    String.join ((forest.children widget).map (outlineFrom forest levels (depth + 1)))

/-- The outline of a widget and everything below it. -/
def outline (forest : Forest) (widget : WidgetId) : String :=
  forest.outlineFrom forest.nodes.size 0 widget

end Forest

end StyledTree
