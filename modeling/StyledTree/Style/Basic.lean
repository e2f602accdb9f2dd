import StyledTree.Selector.Basic
import StyledTree.Widget.Kind
import StyledTree.Widget.Listener
import StyledTree.Widget.Node

set_option autoImplicit false

namespace StyledTree

structure StyleId where
  index : Nat
deriving DecidableEq, Inhabited

/-- A sheet: its styles in order of registration, and the widgets it was applied to, some of which
may be gone. -/
structure Sheet where
  styles : List StyleId
  roots : List WidgetId
deriving DecidableEq, Inhabited

/-- A sheet below a chain, which holds one style. -/
structure ChildSheet where
  style : StyleId
  roots : List WidgetId
deriving DecidableEq, Inhabited

namespace ChildSheet

def fresh (style : StyleId) : ChildSheet := ⟨style, []⟩

def sheet (child : ChildSheet) : Sheet := ⟨[child.style], child.roots⟩

end ChildSheet

inductive Style.Body where
  /-- Client code that changes the widget. -/
  | plain (mutation : HandlerId)
  /-- A style to run first, if any, and the sheets below the chain, in order. -/
  | chain (wrapped : Option StyleId) (sheets : List ChildSheet)
deriving DecidableEq, Inhabited

structure Style where
  selector : Selector
  target : Target
  body : Style.Body
deriving DecidableEq, Inhabited

namespace Style

def isChain (style : Style) : Bool :=
  match style.body with
  | .plain _ => false
  | .chain .. => true

def wrapped? (style : Style) : Option StyleId :=
  match style.body with
  | .plain _ => none
  | .chain wrapped _ => wrapped

def childSheets (style : Style) : List ChildSheet :=
  match style.body with
  | .plain _ => []
  | .chain _ sheets => sheets

/-- The styles of the sheets below a chain, in order. -/
def children (style : Style) : List StyleId := style.childSheets.map ChildSheet.style

def mapSheets (style : Style) (change : List ChildSheet → List ChildSheet) : Style :=
  match style.body with
  | .plain _ => style
  | .chain wrapped sheets => { style with body := .chain wrapped (change sheets) }

/-- A chain without code of its own: it only scopes its children to what the selector matches. -/
def scope (selector : Selector) : Style := ⟨selector, .any, .chain none []⟩

end Style

/-- All styles ever made, by identifier. -/
structure Styles where
  items : Array Style
deriving Inhabited

namespace Styles

def empty : Styles := ⟨#[]⟩

def get? (styles : Styles) (id : StyleId) : Option Style := styles.items[id.index]?

def add (styles : Styles) (style : Style) : StyleId × Styles :=
  (⟨styles.items.size⟩, ⟨styles.items.push style⟩)

def update (styles : Styles) (id : StyleId) (change : Style → Style) : Styles :=
  ⟨styles.items.modify id.index change⟩

def isChain (styles : Styles) (id : StyleId) : Bool := (styles.get? id).any Style.isChain

def wrapped? (styles : Styles) (id : StyleId) : Option StyleId :=
  (styles.get? id).bind Style.wrapped?

def childSheets (styles : Styles) (id : StyleId) : List ChildSheet :=
  ((styles.get? id).map Style.childSheets).getD []

def children (styles : Styles) (id : StyleId) : List StyleId :=
  ((styles.get? id).map Style.children).getD []

theorem children_eq_map (styles : Styles) (id : StyleId) :
    styles.children id = (styles.childSheets id).map ChildSheet.style := by
  rw [children, childSheets]
  cases styles.get? id <;> rfl

def selectorText (styles : Styles) (id : StyleId) : String :=
  ((styles.get? id).map (fun style => style.selector.text)).getD ""

def target (styles : Styles) (id : StyleId) : Target :=
  ((styles.get? id).map Style.target).getD .any

/-- The chain wraps exactly this style. -/
def wraps (styles : Styles) (chain style : StyleId) : Bool :=
  styles.wrapped? chain == some style

/-- A new chain that wraps a style and takes over its selector and target. -/
def wrap (styles : Styles) (id : StyleId) : StyleId × Styles :=
  match styles.get? id with
  | none => (id, styles)
  | some style => styles.add { style with body := .chain (some id) [] }

/-- The style itself if it is a chain, and otherwise a new chain that wraps it. -/
def asChain (styles : Styles) (id : StyleId) : StyleId × Styles :=
  if styles.isChain id then (id, styles) else styles.wrap id

/-! Searches through the children of chains. No chain is among its own descendants, so the number of
styles bounds the depth of every search. -/

/-- The first chain below `chain`, in pre-order, that wraps the style. -/
def wrapperBelow? (styles : Styles) (style : StyleId) : Nat → StyleId → Option StyleId
  | 0, _ => none
  | levels + 1, chain =>
    (styles.children chain).findSome? fun child =>
      if styles.wraps child style then some child else wrapperBelow? styles style levels child

/-- The other style is somewhere below the chain. -/
def reachesWithin (styles : Styles) (other : StyleId) : Nat → StyleId → Bool
  | 0, _ => false
  | levels + 1, chain =>
    (styles.children chain).any fun child =>
      child == other || reachesWithin styles other levels child

def reaches (styles : Styles) (chain other : StyleId) : Bool :=
  styles.reachesWithin other styles.items.size chain

/-- The first chain at or below `chain`, in pre-order, that holds the child. -/
def holderWithin? (styles : Styles) (child : StyleId) : Nat → StyleId → Option StyleId
  | 0, _ => none
  | levels + 1, chain =>
    if (styles.children chain).contains child then some chain
    else (styles.children chain).findSome? (holderWithin? styles child levels)

/-- The first of some styles, or the first chain below one of them, that wraps the style. -/
def wrapperAmong? (styles : Styles) (tops : List StyleId) (style : StyleId) : Option StyleId :=
  tops.findSome? fun top =>
    if styles.wraps top style then some top
    else styles.wrapperBelow? style styles.items.size top

/-- The first chain that holds the child, among some styles and all that is below them. -/
def holderAmong? (styles : Styles) (tops : List StyleId) (child : StyleId) : Option StyleId :=
  tops.findSome? (styles.holderWithin? child styles.items.size)

/-- Takes the sheet of a child out of the first chain that holds it. -/
def detach (styles : Styles) (tops : List StyleId) (child : StyleId) : Styles :=
  match styles.holderAmong? tops child with
  | none => styles
  | some holder =>
    styles.update holder
      (fun style => style.mapSheets (fun held => held.eraseP (fun sheet => sheet.style == child)))

/-- Makes a chain the last child of another, in a sheet of its own. -/
def append (styles : Styles) (parent child : StyleId) : Styles :=
  styles.update parent (fun style => style.mapSheets (fun held => held ++ [.fresh child]))

end Styles

end StyledTree
