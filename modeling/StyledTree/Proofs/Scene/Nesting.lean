import StyledTree.Proofs.Scene.Sheets
import StyledTree.Proofs.Style.Links
import StyledTree.Scene.Chaining

set_option autoImplicit false

namespace StyledTree.Scene

variable {ε : Type}

theorem topStyles_setTopStyles (scene : Scene ε) (sheet other : SheetId) (tops : List StyleId) :
    (scene.setTopStyles sheet tops).topStyles other =
      if other = sheet ∧ (scene.sheet? sheet).isSome = true then tops
      else scene.topStyles other := by
  rw [topStyles, setTopStyles, sheet?_updateSheet, topStyles]
  by_cases same : other = sheet
  · subst same
    cases scene.sheet? other <;> simp
  · simp [same]

theorem isSome_sheet?_updateSheet (scene : Scene ε) (sheet other : SheetId)
    (change : Sheet → Sheet) :
    ((scene.updateSheet sheet change).sheet? other).isSome = (scene.sheet? other).isSome := by
  rw [sheet?_updateSheet]
  split
  · exact Option.isSome_map
  · rfl

theorem topStyles_register {scene : Scene ε} {sheet : SheetId}
    (isSheet : (scene.sheet? sheet).isSome = true) (style : StyleId) :
    (scene.register sheet style).topStyles sheet = scene.topStyles sheet ++ [style] := by
  obtain ⟨held, found⟩ := Option.isSome_iff_exists.mp isSheet
  have noted : (scene.noteRegistered style).sheet? sheet = some held := found
  rw [topStyles, register, sheet?_updateSheet, if_pos rfl, noted, topStyles, found]
  rfl

theorem isSome_sheet?_register (scene : Scene ε) (sheet other : SheetId) (style : StyleId) :
    ((scene.register sheet style).sheet? other).isSome = (scene.sheet? other).isSome :=
  isSome_sheet?_updateSheet _ sheet other _

/-- Nesting is refused when the chain to be nested is the parent or has the parent below it. -/
theorem nest_eq (scene : Scene ε) (parent style : StyleId) :
    scene.nest parent style =
      let child := (scene.asChain style).1
      let chained := (scene.asChain style).2
      if child = parent ∨ chained.styles.reaches child parent = true then
        (child, chained.note
          (.nestingRefused (chained.styles.selectorText child)
            (chained.styles.selectorText parent)))
      else
        let noted := chained.noteRegistered child
        let nested : Scene ε := { noted with styles := chained.styles.append parent child }
        (child, nested.note
          (.nested (nested.styles.selectorText child) (nested.styles.selectorText parent))) := by
  simp only [nest, Bool.or_eq_true, decide_eq_true_eq]
  rfl

theorem nest_fst (scene : Scene ε) (parent style : StyleId) :
    (scene.nest parent style).1 = (scene.styles.asChain style).1 := by
  rw [nest_eq]
  dsimp only
  split <;> rfl

theorem styles_nest (scene : Scene ε) (parent style : StyleId) :
    (scene.nest parent style).2.styles =
      if (scene.styles.asChain style).1 = parent ∨
          (scene.styles.asChain style).2.reaches (scene.styles.asChain style).1 parent = true then
        (scene.styles.asChain style).2
      else (scene.styles.asChain style).2.append parent (scene.styles.asChain style).1 := by
  rw [nest_eq]
  dsimp only [asChain]
  split <;> rfl

theorem topStyles_nest (scene : Scene ε) (parent style : StyleId) (sheet : SheetId) :
    (scene.nest parent style).2.topStyles sheet = scene.topStyles sheet := by
  rw [nest_eq]
  dsimp only
  split <;> rfl

/-- The chain for a style is there already, or a new chain wraps the style, in its place or at the end
of the sheet. -/
theorem chainFor_cases (scene : Scene ε) (sheet : SheetId) (style : StyleId) :
    (∃ chain, scene.chainOf? sheet style = some chain ∧
      scene.chainFor sheet style = (chain, scene)) ∨
    (scene.chainOf? sheet style = none ∧
      (scene.chainFor sheet style).1 = (scene.styles.wrap style).1 ∧
      (scene.chainFor sheet style).2.styles = (scene.styles.wrap style).2 ∧
      ∀ other, (scene.chainFor sheet style).2.topStyles other =
        if other = sheet ∧ (scene.sheet? sheet).isSome = true then
          if (scene.topStyles sheet).contains style = true then
            (scene.topStyles sheet).replace style (scene.styles.wrap style).1
          else scene.topStyles sheet ++ [(scene.styles.wrap style).1]
        else scene.topStyles other) := by
  rw [chainFor]
  split
  · next chain found => exact Or.inl ⟨chain, found, rfl⟩
  · next missing =>
    refine Or.inr ⟨missing, ?_⟩
    have tops : (scene.wrap style).2.topStyles sheet = scene.topStyles sheet := rfl
    simp only [tops]
    by_cases top : (scene.topStyles sheet).contains style = true
    · simp only [if_pos top]
      exact ⟨rfl, rfl, fun other => topStyles_setTopStyles _ sheet other _⟩
    · simp only [if_neg top]
      exact ⟨rfl, rfl, fun other => topStyles_setTopStyles _ sheet other _⟩

/-- A style is taken from the top of the sheet, or else its chain from where it is held. -/
theorem takeOut_cases (scene : Scene ε) (sheet : SheetId) (style : StyleId)
    (chain : Option StyleId) :
    (∃ top, topFor? scene.styles (scene.topStyles sheet) style = some top ∧
      scene.takeOut sheet style chain =
        (top, scene.setTopStyles sheet ((scene.topStyles sheet).erase top))) ∨
    (topFor? scene.styles (scene.topStyles sheet) style = none ∧ ∃ held, chain = some held ∧
      scene.takeOut sheet style chain =
        (held, { scene with styles := scene.styles.detach (scene.topStyles sheet) held })) ∨
    (topFor? scene.styles (scene.topStyles sheet) style = none ∧ chain = none ∧
      scene.takeOut sheet style chain = (style, scene)) := by
  simp only [takeOut, takeTop]
  cases topFor? scene.styles (scene.topStyles sheet) style with
  | some top => exact Or.inl ⟨top, rfl, rfl⟩
  | none =>
      cases chain with
      | some held => exact Or.inr (Or.inl ⟨rfl, held, rfl, rfl⟩)
      | none => exact Or.inr (Or.inr ⟨rfl, rfl, rfl⟩)

def RefusesChain (scene : Scene ε) (sheet : SheetId) (parent child : StyleId) : Prop :=
  parent = child ∨ (scene.chainOf? sheet parent).any (fun parentChain =>
    closesCycle scene.styles parentChain child (scene.chainOf? sheet child)) = true

instance (scene : Scene ε) (sheet : SheetId) (parent child : StyleId) :
    Decidable (scene.RefusesChain sheet parent child) :=
  inferInstanceAs (Decidable (_ ∨ _))

def chainRefusal (scene : Scene ε) (parent child : StyleId) : Event :=
  if parent = child then .chainedToItself (scene.styles.selectorText child)
  else .chainRefused (scene.styles.selectorText child) (scene.styles.selectorText parent)

/-- A refused call only adds to the journal, and its result stands for the child. Otherwise the child
is taken out, a chain is found or made for the parent, and the child is nested there. -/
theorem chain_cases (scene : Scene ε) (sheet : SheetId) (parent child : StyleId) :
    (scene.RefusesChain sheet parent child ∧
      ∃ id, (id = child ∨ scene.chainOf? sheet child = some id) ∧
        scene.chain sheet parent child = (id, scene.note (scene.chainRefusal parent child))) ∨
    (¬ scene.RefusesChain sheet parent child ∧
      scene.chain sheet parent child =
        let taken := scene.takeOut sheet child (scene.chainOf? sheet child)
        (taken.2.chainFor sheet parent).2.nest (taken.2.chainFor sheet parent).1 taken.1) := by
  rw [chainRefusal]
  by_cases same : parent = child
  · refine Or.inl ⟨Or.inl same, child, Or.inl rfl, ?_⟩
    simp only [chain, if_pos same]
  · simp only [chain, if_neg same]
    cases found : scene.chainOf? sheet parent with
    | none =>
        refine Or.inr ⟨?_, rfl⟩
        rw [RefusesChain, found]
        rintro (equal | closes)
        · exact same equal
        · cases closes
    | some parentChain =>
        rw [RefusesChain, found, Option.any_some]
        by_cases closes : closesCycle scene.styles parentChain child
            (scene.chainOf? sheet child) = true
        · refine Or.inl ⟨Or.inr closes, (scene.chainOf? sheet child).getD child, ?_, ?_⟩
          · cases scene.chainOf? sheet child with
            | none => exact Or.inl rfl
            | some chain => exact Or.inr rfl
          · simp only [if_pos closes]
        · exact Or.inr ⟨fun refused => refused.elim same closes, by simp only [if_neg closes]⟩

theorem isSome_sheet?_takeOut (scene : Scene ε) (sheet other : SheetId) (style : StyleId)
    (chain : Option StyleId) :
    ((scene.takeOut sheet style chain).2.sheet? other).isSome =
      (scene.sheet? other).isSome := by
  obtain ⟨top, -, same⟩ | ⟨-, held, -, same⟩ | ⟨-, -, same⟩ :=
    takeOut_cases scene sheet style chain
  · rw [same]
    exact isSome_sheet?_updateSheet scene sheet other _
  · rw [same]
    rfl
  · rw [same]

theorem isSome_sheet?_chainFor (scene : Scene ε) (sheet other : SheetId) (style : StyleId) :
    ((scene.chainFor sheet style).2.sheet? other).isSome = (scene.sheet? other).isSome := by
  rw [chainFor]
  split
  · rfl
  · dsimp only
    split
    · exact isSome_sheet?_updateSheet _ sheet other _
    · exact isSome_sheet?_updateSheet _ sheet other _

theorem isSome_sheet?_chain (scene : Scene ε) (sheet other : SheetId) (parent child : StyleId) :
    ((scene.chain sheet parent child).2.sheet? other).isSome = (scene.sheet? other).isSome := by
  obtain ⟨-, id, -, same⟩ | ⟨-, same⟩ := chain_cases scene sheet parent child
  · rw [same]
    rfl
  · have nested : ∀ (held : Scene ε) (parent style : StyleId),
        (held.nest parent style).2.sheet? other = held.sheet? other := by
      intro held parent style
      rw [nest_eq]
      dsimp only
      split <;> rfl
    rw [same]
    dsimp only
    rw [nested, isSome_sheet?_chainFor, isSome_sheet?_takeOut]

end StyledTree.Scene
