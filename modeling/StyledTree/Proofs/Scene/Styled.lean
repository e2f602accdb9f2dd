import StyledTree.Proofs.Scene.Nesting

set_option autoImplicit false

namespace StyledTree.Scene

variable {ε : Type}

/-- The styles of the scene were made and linked by calls of the library. -/
inductive Styled : Scene ε → Prop where
  | none {scene : Scene ε} (empty : scene.styles = Styles.empty) : Styled scene
  /-- Registering a style on a sheet, and whatever else leaves the styles alone. -/
  | elsewhere {before after : Scene ε} (styled : Styled before)
    (same : after.styles = before.styles) : Styled after
  | plain {scene : Scene ε} (styled : Styled scene) (selector : Selector) (target : Target)
    (mutation : HandlerId) : Styled (scene.addStyle ⟨selector, target, .plain mutation⟩).2
  | scope {scene : Scene ε} (styled : Styled scene) (selector : Selector) :
    Styled (scene.addStyle (.scope selector)).2
  /-- The wrapped style may be a chain. -/
  | wrap {scene : Scene ε} (styled : Styled scene) (style : StyleId) : Styled (scene.wrap style).2
  | nest {scene : Scene ε} (styled : Styled scene) (parent : StyleId) {style : StyleId}
    (made : scene.styles.Made style) : Styled (scene.nest parent style).2
  | chain {scene : Scene ε} (styled : Styled scene) (sheet : SheetId) (parent : StyleId)
    {child : StyleId} (made : scene.styles.Made child) :
    Styled (scene.chain sheet parent child).2

/-- Nesting makes a chain of the style and appends it to the parent, if the parent is neither it nor
below it. -/
theorem sound_nest {scene : Scene ε} (sound : scene.styles.Sound) (parent : StyleId)
    {style : StyleId} (made : scene.styles.Made style) :
    (scene.nest parent style).2.styles.Sound := by
  have chained := sound.asChain style
  rw [styles_nest]
  split
  · exact chained
  · next allowed =>
    rw [not_or, chained.reaches_iff] at allowed
    exact chained.append (Styles.made_asChain made) allowed.1 allowed.2

theorem made_of_chainOf? {scene : Scene ε} {sheet : SheetId} {style chain : StyleId}
    (found : scene.chainOf? sheet style = some chain) : scene.styles.Made chain := by
  rw [chainOf?] at found
  split at found
  · next isChain =>
    cases found
    exact Styles.made_of_isChain isChain
  · rw [Styles.wrapperAmong?] at found
    obtain ⟨top, -, found⟩ := List.exists_of_findSome?_eq_some found
    split at found
    · next wraps =>
      cases found
      exact Styles.made_of_wraps wraps
    · exact Styles.made_of_wraps (Styles.wraps_of_wrapperBelow? found)

/-- Taking a style out of a sheet takes links away at most. -/
theorem sound_takeOut {scene : Scene ε} (sound : scene.styles.Sound) (sheet : SheetId)
    {style : StyleId} (made : scene.styles.Made style) {chain : Option StyleId}
    (chainMade : ∀ held, chain = some held → scene.styles.Made held) :
    (scene.takeOut sheet style chain).2.styles.Sound ∧
      (scene.takeOut sheet style chain).2.styles.Made (scene.takeOut sheet style chain).1 := by
  obtain ⟨top, found, same⟩ | ⟨-, held, holds, same⟩ | ⟨-, -, same⟩ :=
    takeOut_cases scene sheet style chain
  · rw [same]
    refine ⟨sound, ?_⟩
    have accepted := List.find?_some found
    rw [Bool.or_eq_true, beq_iff_eq] at accepted
    rcases accepted with equal | wraps
    · exact equal ▸ made
    · exact Styles.made_of_wraps wraps
  · rw [same]
    exact ⟨sound.detach _ held, (scene.styles.made_detach_iff _ held held).mpr
      (chainMade held holds)⟩
  · rw [same]
    exact ⟨sound, made⟩

theorem sound_chainFor {scene : Scene ε} (sound : scene.styles.Sound) (sheet : SheetId)
    (style : StyleId) : (scene.chainFor sheet style).2.styles.Sound := by
  obtain ⟨chain, -, same⟩ | ⟨-, -, styles, -⟩ := chainFor_cases scene sheet style
  · rw [same]
    exact sound
  · rw [styles]
    exact sound.wrap style

theorem made_chainFor {scene : Scene ε} (sheet : SheetId) (style : StyleId) {other : StyleId}
    (made : scene.styles.Made other) : (scene.chainFor sheet style).2.styles.Made other := by
  obtain ⟨chain, -, same⟩ | ⟨-, -, styles, -⟩ := chainFor_cases scene sheet style
  · rw [same]
    exact made
  · rw [styles]
    exact Styles.made_wrap made style

theorem sound_chain {scene : Scene ε} (sound : scene.styles.Sound) (sheet : SheetId)
    (parent : StyleId) {child : StyleId} (made : scene.styles.Made child) :
    (scene.chain sheet parent child).2.styles.Sound := by
  obtain ⟨-, id, -, same⟩ | ⟨-, same⟩ := chain_cases scene sheet parent child
  · rw [same]
    exact sound
  · rw [same]
    have chainMade : ∀ held, scene.chainOf? sheet child = some held → scene.styles.Made held :=
      fun _ found => made_of_chainOf? found
    have taken := sound_takeOut sound sheet made chainMade
    exact sound_nest (sound_chainFor taken.1 sheet parent) _ (made_chainFor sheet parent taken.2)

/-- Whatever is done, all links lead to styles that were made and child styles close no circle. -/
theorem Styled.sound {scene : Scene ε} (styled : Styled scene) : scene.styles.Sound := by
  induction styled with
  | none empty => exact empty ▸ Styles.sound_empty
  | elsewhere _ same ih => exact same ▸ ih
  | plain _ _ _ _ ih => exact ih.add rfl (fun _ wrapped => by cases wrapped)
  | scope _ _ ih => exact ih.add rfl (fun _ wrapped => by cases wrapped)
  | wrap _ style ih => exact ih.wrap style
  | nest _ parent made ih => exact sound_nest ih parent made
  | chain _ sheet parent made ih => exact sound_chain ih sheet parent made

end StyledTree.Scene
