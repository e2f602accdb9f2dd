import StyledTree.Scene.Basic

set_option autoImplicit false

namespace StyledTree.Scene

variable {ε : Type}

/-! Styles and sheets. -/

/-- A new style, registered nowhere. -/
def addStyle (scene : Scene ε) (style : Style) : StyleId × Scene ε :=
  let (id, styles) := scene.styles.add style
  (id, { scene with styles := styles })

def addSheet (scene : Scene ε) : SheetId × Scene ε :=
  (⟨scene.sheets.size⟩, { scene with sheets := scene.sheets.push ⟨[], []⟩ })

def sheet? (scene : Scene ε) (sheet : SheetId) : Option Sheet := scene.sheets[sheet.index]?

def updateSheet (scene : Scene ε) (sheet : SheetId) (change : Sheet → Sheet) : Scene ε :=
  { scene with sheets := scene.sheets.modify sheet.index change }

/-- The styles registered on a sheet, in order. -/
def topStyles (scene : Scene ε) (sheet : SheetId) : List StyleId :=
  ((scene.sheet? sheet).map Sheet.styles).getD []

def setTopStyles (scene : Scene ε) (sheet : SheetId) (styles : List StyleId) : Scene ε :=
  scene.updateSheet sheet (fun held => { held with styles := styles })

/-- Reports the registration of a style. -/
def noteRegistered (scene : Scene ε) (style : StyleId) : Scene ε :=
  scene.note (.styleRegistered (scene.styles.selectorText style) (scene.styles.target style))

/-- Appends a style to a sheet. -/
def register (scene : Scene ε) (sheet : SheetId) (style : StyleId) : Scene ε :=
  (scene.noteRegistered style).updateSheet sheet
    (fun held => { held with styles := held.styles ++ [style] })

/-- Makes a chain that wraps a style. -/
def wrap (scene : Scene ε) (style : StyleId) : StyleId × Scene ε :=
  let (id, styles) := scene.styles.wrap style
  (id, { scene with styles := styles })

/-- The chain that a style is, or a new one that wraps it. -/
def asChain (scene : Scene ε) (style : StyleId) : StyleId × Scene ε :=
  let (id, styles) := scene.styles.asChain style
  (id, { scene with styles := styles })

/-! Nesting. -/

/-- Makes a style the last child of a chain, unless the chain is already below it. The result is the
chain that the style is or gets wrapped by. -/
def nest (scene : Scene ε) (parent style : StyleId) : StyleId × Scene ε :=
  let (child, scene) := scene.asChain style
  if child = parent || scene.styles.reaches child parent then
    (child, scene.note
      (.nestingRefused (scene.styles.selectorText child) (scene.styles.selectorText parent)))
  else
    let scene := scene.noteRegistered child
    let scene := { scene with styles := scene.styles.append parent child }
    (child, scene.note
      (.nested (scene.styles.selectorText child) (scene.styles.selectorText parent)))

/-- The chain that a style is, or the chain of the sheet that wraps it. -/
def chainOf? (scene : Scene ε) (sheet : SheetId) (style : StyleId) : Option StyleId :=
  if scene.styles.isChain style then some style
  else scene.styles.wrapperAmong? (scene.topStyles sheet) style

/-- The style, or the chain that wraps it, among some styles. -/
def topFor? (styles : Styles) (tops : List StyleId) (style : StyleId) : Option StyleId :=
  tops.find? (fun top => top == style || styles.wraps top style)

/-- Takes a style, or the chain that wraps it, out of the top of a sheet. -/
def takeTop (scene : Scene ε) (sheet : SheetId) (style : StyleId) : Option (StyleId × Scene ε) :=
  (topFor? scene.styles (scene.topStyles sheet) style).map fun top =>
    (top, scene.setTopStyles sheet ((scene.topStyles sheet).erase top))

/-- Takes a style out of the sheet, from the top or from the chain that holds it: what is to be
placed again, and the scene without it. -/
def takeOut (scene : Scene ε) (sheet : SheetId) (style : StyleId) (chain : Option StyleId) :
    StyleId × Scene ε :=
  match scene.takeTop sheet style, chain with
  | some taken, _ => taken
  | none, some chain =>
    (chain, { scene with styles := scene.styles.detach (scene.topStyles sheet) chain })
  | none, none => (style, scene)

/-- The chain to hang the children of a style on. A plain style at the top of the sheet is wrapped in
its place; one that is not in the sheet is wrapped at the end. -/
def chainFor (scene : Scene ε) (sheet : SheetId) (style : StyleId) : StyleId × Scene ε :=
  match scene.chainOf? sheet style with
  | some chain => (chain, scene)
  | none =>
    let (chain, scene) := scene.wrap style
    let tops := scene.topStyles sheet
    if tops.contains style then
      (chain, scene.setTopStyles sheet (tops.replace style chain))
    else
      let scene := scene.note (.unregisteredParent (scene.styles.selectorText style))
      (chain, scene.setTopStyles sheet (tops ++ [chain]))

/-- Putting the child below the parent would put a style below itself. -/
def closesCycle (styles : Styles) (parentChain child : StyleId) (childChain : Option StyleId) :
    Bool :=
  styles.wraps parentChain child ||
    childChain.any (fun chain => chain == parentChain || styles.reaches chain parentChain)

/-- Moves a style of the sheet, or brings a new one, below another style: it becomes the last child
there. The result is the chain that stands for the child. -/
def chain (scene : Scene ε) (sheet : SheetId) (parent child : StyleId) : StyleId × Scene ε :=
  if parent = child then
    (child, scene.note (.chainedToItself (scene.styles.selectorText child)))
  else
    let childChain := scene.chainOf? sheet child
    let refused :=
      match scene.chainOf? sheet parent with
      | none => false
      | some parentChain => closesCycle scene.styles parentChain child childChain
    if refused then
      (childChain.getD child, scene.note
        (.chainRefused (scene.styles.selectorText child) (scene.styles.selectorText parent)))
    else
      let (moved, scene) := scene.takeOut sheet child childChain
      let (parentChain, scene) := scene.chainFor sheet parent
      scene.nest parentChain moved

end StyledTree.Scene
