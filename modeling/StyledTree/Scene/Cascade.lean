import StyledTree.Scene.Chaining

set_option autoImplicit false

/-!
Applying sheets. A cascade evaluates every style on a widget, in order, and then goes to the children
that the widget has by then; each of them stays alive until its own turn is over. A chain runs what
it wraps and then cascades each child style from the widget. The depth of trees and of chains is
bounded by a number of steps, since client code may build both without end.
-/

namespace StyledTree.Scene

variable {ε : Type}

/-- The style's target and selector accept the widget as it is now. -/
def accepts (scene : Scene ε) (style : Style) (widget : WidgetId) : Bool :=
  (scene.forest.kind? widget).any style.target.accepts &&
    style.selector.selects scene.forest.host widget

/-- Visits widgets in order; each is held from the start and given up after its own visit. -/
def visitAll (visit : WidgetId → Scene ε → Option (Scene ε)) (widgets : List WidgetId)
    (scene : Scene ε) : Option (Scene ε) :=
  widgets.foldlM (fun scene widget => (visit widget scene).map (fun after => after.release widget))
    (widgets.foldl hold scene)

/-- Evaluates styles on a widget, in order, and then on the children that the widget has by then and
on everything below them, at most `levels` levels deep. -/
def walk (evaluate : StyleId → WidgetId → Scene ε → Option (Scene ε)) (styles : List StyleId) :
    Nat → WidgetId → Scene ε → Option (Scene ε)
  | 0, _, _ => none
  | levels + 1, widget, scene => do
    let scene ← styles.foldlM (fun scene style => evaluate style widget scene) scene
    visitAll (walk evaluate styles levels) (scene.forest.children widget) scene

/-- Applies a sheet to a widget and everything below it, at most `levels` levels deep, and leaves what the
sheet remembers alone. -/
def applyScoped (evaluate : StyleId → WidgetId → Scene ε → Option (Scene ε)) (sheet : Sheet)
    (levels : Nat) (widget : WidgetId) (scene : Scene ε) : Option (Scene ε) :=
  walk evaluate sheet.styles levels widget scene

/-- Runs a style by `apply` on a widget if it accepts the widget. -/
def evaluate (apply : StyleId → WidgetId → Scene ε → Option (Scene ε)) (id : StyleId)
    (widget : WidgetId) (scene : Scene ε) : Option (Scene ε) :=
  match scene.styles.get? id with
  | none => some scene
  | some style =>
    if scene.accepts style widget then
      apply id widget (scene.note (.styleMatched style.selector.text (scene.describe widget)))
    else some scene

/-- Runs a style on a widget that is known to meet its selector. A chain may be nested `nesting`
deep, and each of its cascades goes `levels` levels deep. -/
def applyStyle (handlers : Handlers ε) (levels : Nat) :
    Nat → StyleId → WidgetId → Scene ε → Option (Scene ε)
  | 0, _, _, _ => none
  | nesting + 1, id, widget, scene =>
    match scene.styles.get? id with
    | none => some scene
    | some style =>
      match style.body with
      | .plain mutation =>
        if (scene.forest.kind? widget).any style.target.accepts then
          handlers.run mutation widget scene
        else some (scene.note (.targetMissed (scene.describe widget) style.target))
      | .chain wrapped _ => do
        let scene ←
          match wrapped with
          | none => some scene
          | some inner => applyStyle handlers levels nesting inner widget scene
        (scene.styles.childSheets id).foldlM
          (fun scene child =>
            applyScoped (evaluate (applyStyle handlers levels nesting)) child.sheet levels widget scene)
          scene

/-- Applying the sheets below a chain takes their styles one after the other. -/
theorem foldlM_applyScoped (evaluate : StyleId → WidgetId → Scene ε → Option (Scene ε))
    (styles : Styles) (id : StyleId) (levels : Nat) (widget : WidgetId) (scene : Scene ε) :
    (styles.childSheets id).foldlM
        (fun scene child => applyScoped evaluate child.sheet levels widget scene) scene =
      (styles.children id).foldlM (fun scene child => walk evaluate [child] levels widget scene)
        scene := by
  rw [Styles.children_eq_map, List.foldlM_map]
  rfl

/-- Runs styles on a widget and then on everything below it. -/
def cascade (handlers : Handlers ε) (steps : Nat) (styles : List StyleId) (widget : WidgetId)
    (scene : Scene ε) : Option (Scene ε) :=
  walk (evaluate (applyStyle handlers steps steps)) styles steps widget scene

/-! Remembered roots. -/

/-- Forgets the roots of a sheet that are gone. -/
def pruneRoots (scene : Scene ε) (sheet : SheetId) : Scene ε :=
  scene.updateSheet sheet
    (fun held => { held with roots := held.roots.filter scene.forest.contains })

/-- The remembered roots of a sheet, some of which may be gone. -/
def roots (scene : Scene ε) (sheet : SheetId) : List WidgetId :=
  ((scene.sheet? sheet).map Sheet.roots).getD []

/-- The remembered roots of a sheet that are still there. -/
def appliedRoots (scene : Scene ε) (sheet : SheetId) : List WidgetId :=
  (scene.roots sheet).filter scene.forest.contains

def recordRoot (scene : Scene ε) (sheet : SheetId) (root : WidgetId) : Scene ε :=
  (scene.pruneRoots sheet).updateSheet sheet
    (fun held =>
      if held.roots.contains root then held else { held with roots := held.roots ++ [root] })

/-- Stops remembering a root. Tells whether the memory became shorter, be it by this root or by
others that are gone. -/
def forget (scene : Scene ε) (sheet : SheetId) (root : WidgetId) : Bool × Scene ε :=
  let before := scene.roots sheet
  let after := before.filter (fun other => scene.forest.contains other && other != root)
  (before.length != after.length,
    scene.updateSheet sheet (fun held => { held with roots := after }))

/-- Applies a sheet to a widget and everything below it, and remembers the widget. -/
def apply (handlers : Handlers ε) (steps : Nat) (sheet : SheetId) (root : WidgetId)
    (scene : Scene ε) : Option (Scene ε) :=
  let scene := scene.recordRoot sheet root
  let styles := scene.topStyles sheet
  cascade handlers steps styles root
    (scene.note (.sheetApplied styles.length (scene.describe root)))

/-- The nearest remembered root at or above a widget. -/
def rootAbove? (scene : Scene ε) (sheet : SheetId) (widget : WidgetId) : Option WidgetId :=
  (widget :: scene.forest.ancestors widget).find? (scene.roots sheet).contains

/-- Applies a sheet again at the nearest remembered root; tells whether there is one. -/
def revalidate (handlers : Handlers ε) (steps : Nat) (sheet : SheetId) (widget : WidgetId)
    (scene : Scene ε) : Option (Bool × Scene ε) :=
  let scene := scene.pruneRoots sheet
  match scene.rootAbove? sheet widget with
  | none => some (false, scene.note (.notUnderRoot (scene.describe widget)))
  | some root =>
    let noted := scene.note (.revalidated (scene.describe widget) (scene.describe root))
    (apply handlers steps sheet root (noted.hold root)).map
      (fun after => (true, after.release root))

end StyledTree.Scene
