import StyledTree.Proofs.Scene.Losing

set_option autoImplicit false

namespace StyledTree

namespace Styles

def isFormOf (styles : Styles) (style id : StyleId) : Bool :=
  id == style || styles.wraps id style

variable {styles before after : Styles}

theorem isFormOf_self (styles : Styles) (style : StyleId) : styles.isFormOf style style = true := by
  simp [isFormOf]

theorem isFormOf_iff (style id : StyleId) :
    styles.isFormOf style id = true ↔ id = style ∨ styles.wraps id style = true := by
  rw [isFormOf, Bool.or_eq_true, beq_iff_eq]

/-- A form that is no chain is the style itself. -/
theorem eq_of_isFormOf {style id : StyleId} (isForm : styles.isFormOf style id = true)
    (plain : styles.isChain id = false) : id = style := by
  rcases (styles.isFormOf_iff style id).mp isForm with same | wraps
  · exact same
  · rw [wraps_iff, wrapped?_of_not_isChain plain] at wraps
    cases wraps

theorem isFormOf_congr {style id : StyleId} (same : after.wrapped? id = before.wrapped? id) :
    after.isFormOf style id = before.isFormOf style id := by
  rw [isFormOf, isFormOf, wraps, wraps, same]

/-- Styles that are what they were are forms of the same styles. -/
theorem Keeps.countP_isFormOf (keeps : Keeps before after) (style : StyleId) {ids : List StyleId}
    (made : ∀ id ∈ ids, before.Made id) :
    ids.countP (after.isFormOf style) = ids.countP (before.isFormOf style) := by
  apply List.countP_congr
  intro id member
  rw [isFormOf_congr (keeps.wrapped? (made id member))]

theorem Sound.made_child (sound : styles.Sound) {holder child : StyleId}
    (member : child ∈ styles.children holder) : styles.Made child :=
  sound.made holder child ((styles.mem_links holder child).mpr (Or.inl member))

/-- A chain that is found to hold a child does hold it. -/
theorem mem_children_of_holderWithin? {levels : Nat} {child chain holder : StyleId}
    (found : styles.holderWithin? child levels chain = some holder) :
    child ∈ styles.children holder := by
  induction levels generalizing chain with
  | zero => cases found
  | succ levels ih =>
      rw [holderWithin?] at found
      split at found
      · next holds =>
        cases found
        exact List.contains_iff_mem.mp holds
      · obtain ⟨lower, -, search⟩ := List.exists_of_findSome?_eq_some found
        exact ih search

theorem mem_children_of_holderAmong? {tops : List StyleId} {child holder : StyleId}
    (found : styles.holderAmong? tops child = some holder) : child ∈ styles.children holder := by
  obtain ⟨top, -, search⟩ := List.exists_of_findSome?_eq_some found
  exact mem_children_of_holderWithin? search

/-- Detaching takes one occurrence out of the first holder. -/
theorem children_detach_of_holder {tops : List StyleId} {child holder : StyleId}
    (found : styles.holderAmong? tops child = some holder) (id : StyleId) :
    (styles.detach tops child).children id =
      if id = holder then (styles.children id).erase child else styles.children id := by
  have held := mem_children_of_holderAmong? found
  have isChain := isChain_of_mem_links ((styles.mem_links holder child).mpr (Or.inl held))
  rw [detach, found]
  dsimp only
  rw [children_eraseSheet]
  simp only [isChain, and_true]

end Styles

namespace Scene

open Styles

variable {ε : Type} {scene : Scene ε} {sheet : SheetId}

/-- How often a style stands at the top of a sheet, by itself or wrapped. -/
def copiesOnTop (scene : Scene ε) (sheet : SheetId) (style : StyleId) : Nat :=
  (scene.topStyles sheet).countP (scene.styles.isFormOf style)

def copiesIn (scene : Scene ε) (style holder : StyleId) : Nat :=
  (scene.styles.children holder).countP (scene.styles.isFormOf style)

/-- The chain that gives a style up when it is chained again: the first one that holds it, unless the
style stands at the top of the sheet. -/
def giver? (scene : Scene ε) (sheet : SheetId) (child : StyleId) : Option StyleId :=
  match topFor? scene.styles (scene.topStyles sheet) child with
  | some _ => none
  | none =>
    (scene.chainOf? sheet child).bind (scene.styles.holderAmong? (scene.topStyles sheet))

/-! Taking one copy out. -/

theorem copiesOnTop_eq_zero {style : StyleId}
    (absent : topFor? scene.styles (scene.topStyles sheet) style = none) :
    scene.copiesOnTop sheet style = 0 := by
  rw [topFor?, List.find?_eq_none] at absent
  exact List.countP_eq_zero.mpr absent

theorem isFormOf_of_topFor? {style top : StyleId}
    (found : topFor? scene.styles (scene.topStyles sheet) style = some top) :
    top ∈ scene.topStyles sheet ∧ scene.styles.isFormOf style top = true :=
  ⟨List.mem_of_find?_eq_some found, List.find?_some found⟩

theorem isFormOf_of_chainOf? {style chain : StyleId}
    (found : scene.chainOf? sheet style = some chain) :
    scene.styles.isFormOf style chain = true := by
  rw [chainOf?] at found
  split at found
  · cases found
    exact scene.styles.isFormOf_self style
  · exact (scene.styles.isFormOf_iff style chain).mpr (Or.inr (reached_of_wrapperAmong? found).2)

/-- Taking a style out changes nothing about what wraps what. -/
theorem isFormOf_takeOut (scene : Scene ε) (sheet : SheetId) (style child : StyleId)
    (chain : Option StyleId) :
    (scene.takeOut sheet style chain).2.styles.isFormOf child = scene.styles.isFormOf child := by
  funext id
  apply isFormOf_congr
  obtain ⟨top, -, same⟩ | ⟨-, held, -, same⟩ | ⟨-, -, same⟩ :=
    takeOut_cases scene sheet style chain
  · rw [same]
    rfl
  · rw [same]
    exact scene.styles.wrapped?_detach _ held id
  · rw [same]

/-- What is taken out stands for the child. -/
theorem isFormOf_taken (scene : Scene ε) (sheet : SheetId) (child : StyleId) :
    scene.styles.isFormOf child (scene.taken sheet child) = true := by
  rw [taken]
  obtain ⟨top, found, same⟩ | ⟨-, held, found, same⟩ | ⟨-, -, same⟩ :=
    takeOut_cases scene sheet child (scene.chainOf? sheet child)
  · rw [same]
    exact (isFormOf_of_topFor? found).2
  · rw [same]
    exact isFormOf_of_chainOf? found
  · rw [same]
    exact scene.styles.isFormOf_self child

section TakeOut

variable (scene sheet) (child : StyleId)

/-- One copy at the top is taken, if there is one. -/
theorem copiesOnTop_takeOut (isSheet : (scene.sheet? sheet).isSome = true) :
    (scene.takeOut sheet child (scene.chainOf? sheet child)).2.copiesOnTop sheet child =
      scene.copiesOnTop sheet child - 1 := by
  obtain ⟨top, found, same⟩ | ⟨absent, held, -, same⟩ | ⟨absent, -, same⟩ :=
    takeOut_cases scene sheet child (scene.chainOf? sheet child)
  · have erased := List.countP_erase (scene.styles.isFormOf child) (scene.topStyles sheet) top
    rw [if_pos (isFormOf_of_topFor? found)] at erased
    rw [copiesOnTop, isFormOf_takeOut, same, topStyles_setTopStyles, if_pos ⟨rfl, isSheet⟩]
    exact erased
  · have none := copiesOnTop_eq_zero absent
    rw [copiesOnTop, isFormOf_takeOut, same, none]
    exact none
  · rw [same, copiesOnTop_eq_zero absent]

/-- One copy leaves the chain that gives the child up, and none leaves another chain. -/
theorem copiesIn_takeOut (holder : StyleId) :
    (scene.takeOut sheet child (scene.chainOf? sheet child)).2.copiesIn child holder +
        (if scene.giver? sheet child = some holder then 1 else 0) =
      scene.copiesIn child holder := by
  obtain ⟨top, found, same⟩ | ⟨absent, held, found, same⟩ | ⟨absent, missing, same⟩ :=
    takeOut_cases scene sheet child (scene.chainOf? sheet child)
  · have none : scene.giver? sheet child = none := by rw [giver?, found]
    rw [none, same]
    rfl
  · have given : scene.giver? sheet child =
        scene.styles.holderAmong? (scene.topStyles sheet) held := by
      rw [giver?, absent, found]
      rfl
    rw [given, copiesIn, isFormOf_takeOut, same, copiesIn]
    cases search : scene.styles.holderAmong? (scene.topStyles sheet) held with
    | none =>
        rw [Styles.detach, search]
        rfl
    | some first =>
        rw [children_detach_of_holder search]
        by_cases isFirst : holder = first
        · have member := mem_children_of_holderAmong? search
          rw [← isFirst] at member
          have isForm := isFormOf_of_chainOf? found
          have one := List.countP_pos_iff.mpr ⟨held, member, isForm⟩
          rw [if_pos isFirst, if_pos (congrArg some isFirst.symm), List.countP_erase,
            if_pos ⟨member, isForm⟩]
          omega
        · rw [if_neg isFirst, if_neg (fun equal => isFirst (Option.some.inj equal).symm)]
          rfl
  · have none : scene.giver? sheet child = none := by
      rw [giver?, absent, missing]
      rfl
    rw [none, same]
    rfl

end TakeOut

/-! Making the place. -/

/-- The chain for another style is no copy of the child, be it there already or made for the call. -/
theorem copiesOnTop_chainFor (topsMade : scene.TopsMade sheet) {parent child : StyleId}
    (parentMade : scene.styles.Made parent) (childMade : scene.styles.Made child)
    (differ : parent ≠ child) :
    (scene.chainFor sheet parent).2.copiesOnTop sheet child = scene.copiesOnTop sheet child := by
  obtain ⟨chain, -, same⟩ | ⟨missing, -, styles, tops⟩ := chainFor_cases scene sheet parent
  · rw [same]
  · have wraps := wrapping parentMade
    have parentPlain : scene.styles.isChain parent = false := by
      rw [chainOf?] at missing
      split at missing
      · cases missing
      · next plain => simpa using plain
    have parentForm : scene.styles.isFormOf child parent = false := by
      rw [← Bool.not_eq_true]
      exact fun isForm => differ (eq_of_isFormOf isForm parentPlain)
    have newForm : (scene.styles.wrap parent).2.isFormOf child (scene.styles.wrap parent).1 = false := by
      rw [← Bool.not_eq_true, isFormOf_iff, wraps_iff, wraps.wrapped]
      rintro (same | same)
      · exact wraps.fresh (same ▸ childMade)
      · exact differ (Option.some.inj same)
    have kept := wraps.keeps.countP_isFormOf child topsMade
    rw [copiesOnTop, copiesOnTop, styles, tops]
    split
    · split
      · next atTop =>
        obtain ⟨front, back, split, replaced⟩ :=
          exists_replace (List.contains_iff_mem.mp atTop) (scene.styles.wrap parent).1
        have parentKept : (scene.styles.wrap parent).2.isFormOf child parent = false := by
          rw [isFormOf_congr (wraps.keeps.wrapped? parentMade), parentForm]
        rw [← kept, replaced, split]
        simp only [List.countP_append, List.countP_cons, newForm, parentKept]
      · rw [List.countP_append, List.countP_singleton, newForm, kept]
        rfl
    · exact kept

theorem keeps_chainFor (scene : Scene ε) (sheet : SheetId) (parent : StyleId) :
    Keeps scene.styles (scene.chainFor sheet parent).2.styles := by
  obtain ⟨chain, -, same⟩ | ⟨-, -, styles, -⟩ := chainFor_cases scene sheet parent
  · rw [same]
    exact Keeps.refl scene.styles
  · rw [styles]
    exact Keeps.wrap scene.styles parent

theorem copiesIn_chainFor (sound : scene.styles.Sound) {parent : StyleId}
    (parentMade : scene.styles.Made parent) (child holder : StyleId) :
    (scene.chainFor sheet parent).2.copiesIn child holder = scene.copiesIn child holder := by
  obtain ⟨chain, -, same⟩ | ⟨-, -, styles, -⟩ := chainFor_cases scene sheet parent
  · rw [same]
  · have wraps := wrapping parentMade
    rw [copiesIn, copiesIn, styles, wraps.children]
    exact wraps.keeps.countP_isFormOf child (fun _ member => sound.made_child member)

/-! Putting the copy in. -/

def TakesIn (scene : Scene ε) (parent style : StyleId) : Prop :=
  ¬ (style = parent ∨ scene.styles.IsBelow parent style)

/-- The chain that a form of a style is made is a form of it too. -/
theorem isFormOf_asChain {styles : Styles} {child id : StyleId} (made : styles.Made id)
    (isForm : styles.isFormOf child id = true) :
    (styles.asChain id).2.isFormOf child (styles.asChain id).1 = true := by
  obtain ⟨-, same⟩ | ⟨plain, same⟩ := styles.asChain_cases id
  · rw [same]
    exact isForm
  · rw [same, isFormOf_iff, wraps_iff, (wrapping made).wrapped, eq_of_isFormOf isForm plain]
    exact Or.inr rfl

theorem copiesOnTop_nest (topsMade : scene.TopsMade sheet) (parent child : StyleId)
    {moved : StyleId} (made : scene.styles.Made moved) :
    (scene.nest parent moved).2.copiesOnTop sheet child = scene.copiesOnTop sheet child := by
  have wrapped : ∀ id ∈ scene.topStyles sheet,
      (scene.nest parent moved).2.styles.wrapped? id = scene.styles.wrapped? id := by
    intro id member
    have kept : (scene.styles.asChain moved).2.wrapped? id = scene.styles.wrapped? id := by
      rw [Styles.wrapped?, get?_asChain_of_made (topsMade id member) made]
      rfl
    rw [styles_nest]
    split
    · exact kept
    · rw [Styles.append, wrapped?_updateSheets, kept]
  rw [copiesOnTop, topStyles_nest]
  apply List.countP_congr
  intro id member
  rw [isFormOf_congr (wrapped id member)]

open Classical in
/-- A parent that takes the style in holds one copy more, and no other chain does. -/
theorem copiesIn_nest (sound : scene.styles.Sound) {parent child moved : StyleId}
    (isChain : scene.styles.isChain parent = true) (made : scene.styles.Made moved)
    (isForm : scene.styles.isFormOf child moved = true) (holder : StyleId) :
    (scene.nest parent moved).2.copiesIn child holder = scene.copiesIn child holder +
      if holder = parent ∧ scene.TakesIn parent moved then 1 else 0 := by
  have sameChildren : (scene.styles.asChain moved).2.children holder =
      scene.styles.children holder := by
    obtain ⟨-, same⟩ | ⟨-, same⟩ := scene.styles.asChain_cases moved
    · rw [same]
    · rw [same, (wrapping made).children]
  have sameForms : (scene.styles.children holder).countP
        ((scene.styles.asChain moved).2.isFormOf child) =
      (scene.styles.children holder).countP (scene.styles.isFormOf child) := by
    apply List.countP_congr
    intro id member
    have same : (scene.styles.asChain moved).2.wrapped? id = scene.styles.wrapped? id := by
      rw [Styles.wrapped?, get?_asChain_of_made (sound.made_child member) made]
      rfl
    rw [isFormOf_congr same]
  have stillChain : (scene.styles.asChain moved).2.isChain parent = true := by
    rw [Styles.isChain, get?_asChain_of_made (made_of_isChain isChain) made]
    exact isChain
  have appended : ∀ id, ((scene.styles.asChain moved).2.append parent
      (scene.styles.asChain moved).1).isFormOf child id =
        (scene.styles.asChain moved).2.isFormOf child id :=
    fun id => isFormOf_congr (wrapped?_updateSheets _ parent id _)
  have refused := nest_refused_iff sound isChain made
  rw [copiesIn, copiesIn, styles_nest, ← sameForms]
  by_cases takes : scene.TakesIn parent moved
  · rw [if_neg (mt refused.mp takes), children_append, sameChildren, funext appended]
    by_cases here : holder = parent
    · rw [if_pos ⟨here, stillChain⟩, if_pos ⟨here, takes⟩, List.countP_append,
        List.countP_singleton, isFormOf_asChain made isForm]
      rfl
    · rw [if_neg (fun both => here both.1), if_neg (fun both => here both.1), Nat.add_zero]
  · rw [if_pos (refused.mpr (not_not.mp takes)), sameChildren, if_neg (fun both => takes both.2),
      Nat.add_zero]

/-! The whole call. -/

/-- No copy of the child is at the top of the sheet, and the parent is the one chain of the sheet that
holds any. -/
def LivesBelow (scene : Scene ε) (sheet : SheetId) (parent child : StyleId) : Prop :=
  scene.copiesOnTop sheet child = 0 ∧
    ∀ holder, scene.InSheet sheet holder ∧ 0 < scene.copiesIn child holder ↔ holder = parent

/-- The call leaves a copy of the child in the sheet: behind the first one at the top, or in a chain that
is not the parent's, besides the one that this chain gives up. -/
def LeavesCopy (scene : Scene ε) (sheet : SheetId) (parent child : StyleId) : Prop :=
  1 < scene.copiesOnTop sheet child ∨
    ∃ holder, holder ≠ (scene.opened sheet parent child).1 ∧
      (scene.chain sheet parent child).2.InSheet sheet holder ∧
      (if scene.giver? sheet child = some holder then 1 else 0) < scene.copiesIn child holder

open Classical in
/-- A call that is not refused takes the first copy of the child from the top of the sheet or, if there
is none, one from the first chain that holds it, and gives one to the chain of the parent, if that takes
it in. All other copies stay. So the child lives below the parent alone if the call has a place for it
and leaves no other copy, and it does not if a copy is left. -/
theorem chain_moves_one_copy {scene : Scene ε} (styled : Styled scene) {sheet : SheetId}
    (isSheet : (scene.sheet? sheet).isSome = true) (topsMade : scene.TopsMade sheet)
    {parent child : StyleId} (parentMade : scene.styles.Made parent)
    (childMade : scene.styles.Made child) (allowed : ¬ scene.RefusesChain sheet parent child) :
    let after := (scene.chain sheet parent child).2
    let parentChain := (scene.opened sheet parent child).1
    let opened := (scene.opened sheet parent child).2
    let taken := scene.taken sheet child
    after.copiesOnTop sheet child = scene.copiesOnTop sheet child - 1 ∧
    (∀ holder, after.copiesIn child holder +
        (if scene.giver? sheet child = some holder then 1 else 0) =
      scene.copiesIn child holder +
        if holder = parentChain ∧ opened.TakesIn parentChain taken then 1 else 0) ∧
    (scene.LeavesCopy sheet parent child → ¬ after.LivesBelow sheet parentChain child) ∧
    (¬ opened.LacksPlace sheet parentChain taken → ¬ scene.LeavesCopy sheet parent child →
      after.LivesBelow sheet parentChain child) := by
  intro after parentChain opened taken
  have keeps := keeps_takeOut scene sheet child (scene.chainOf? sheet child)
  have takenParent := keeps.made parentMade
  obtain ⟨takenSound, takenMade⟩ := sound_takeOut styled.sound sheet childMade
    (fun _ found => made_of_chainOf? found)
  have takenTops := topsMade_takeOut topsMade child (scene.chainOf? sheet child)
  have sound : opened.styles.Sound := sound_chainFor takenSound sheet parent
  have openedTops : opened.TopsMade sheet := topsMade_chainFor takenTops takenParent
  have isChain : opened.styles.isChain parentChain = true := isChain_chainFor takenParent
  have made : opened.styles.Made taken := made_chainFor sheet parent takenMade
  have differ : parent ≠ child := fun same => allowed (Or.inl same)
  have nested : after = (opened.nest parentChain taken).2 := by
    obtain ⟨refuses, -⟩ | ⟨-, same⟩ := chain_cases scene sheet parent child
    · exact absurd refuses allowed
    · exact congrArg Prod.snd same
  have isForm : opened.styles.isFormOf child taken = true := by
    have same := (keeps_chainFor _ sheet parent).wrapped? takenMade
    have before := isFormOf_taken scene sheet child
    rw [← isFormOf_takeOut scene sheet child child (scene.chainOf? sheet child)] at before
    exact (isFormOf_congr same).trans before
  -- Nesting and making the place keep the copies at the top; taking out and nesting change the chains.
  have onTop : after.copiesOnTop sheet child = scene.copiesOnTop sheet child - 1 := by
    rw [nested, copiesOnTop_nest openedTops parentChain child made]
    rw [← copiesOnTop_takeOut scene sheet child isSheet]
    exact copiesOnTop_chainFor takenTops takenParent (keeps.made childMade) differ
  have held : ∀ holder, after.copiesIn child holder +
        (if scene.giver? sheet child = some holder then 1 else 0) =
      scene.copiesIn child holder +
        if holder = parentChain ∧ opened.TakesIn parentChain taken then 1 else 0 := by
    intro holder
    have given := copiesIn_takeOut scene sheet child holder
    have ready : opened.copiesIn child holder =
        (scene.takeOut sheet child (scene.chainOf? sheet child)).2.copiesIn child holder :=
      copiesIn_chainFor takenSound takenParent child holder
    rw [nested, copiesIn_nest sound isChain made isForm, ready]
    omega
  refine ⟨onTop, held, ?_, ?_⟩
  · rintro (several | ⟨holder, other, inSheet, left⟩) ⟨none, only⟩
    · omega
    · have counts := held holder
      have notThere : ¬ (holder = parentChain ∧ opened.TakesIn parentChain taken) :=
        fun both => other both.1
      rw [if_neg notThere] at counts
      exact other ((only holder).mp ⟨inSheet, by omega⟩)
  · intro place noCopy
    rw [LeavesCopy, not_or, not_exists] at noCopy
    rw [LacksPlace, not_or, not_not] at place
    refine ⟨by omega, fun holder => ⟨?_, ?_⟩⟩
    · rintro ⟨inSheet, holds⟩
      by_contra other
      have counts := held holder
      have notThere : ¬ (holder = parentChain ∧ opened.TakesIn parentChain taken) :=
        fun both => other both.1
      rw [if_neg notThere] at counts
      exact noCopy.2 holder ⟨other, inSheet, by omega⟩
    · rintro rfl
      have counts := held parentChain
      have given := copiesIn_takeOut scene sheet child parentChain
      have takes : parentChain = parentChain ∧ opened.TakesIn parentChain taken := ⟨rfl, place.2⟩
      rw [if_pos takes] at counts
      refine ⟨?_, by omega⟩
      rw [nested]
      exact inSheet_of_before_nest place.1 parentChain made

def plainPair : Scene Unit :=
  let first := ((Scene.fresh ()).addSheet.2.addStyle ⟨.glob, .any, .plain ⟨0⟩⟩).2.register ⟨0⟩ ⟨0⟩
  (first.addStyle ⟨.glob, .any, .plain ⟨1⟩⟩).2.register ⟨0⟩ ⟨1⟩

theorem styled_plainPair : Styled plainPair := by
  have empty : Styled ((Scene.fresh ()).addSheet.2) := Styled.none rfl
  have first : Styled (((Scene.fresh ()).addSheet.2.addStyle
      ⟨.glob, .any, .plain ⟨0⟩⟩).2.register ⟨0⟩ ⟨0⟩) :=
    (empty.plain .glob .any ⟨0⟩).elsewhere rfl
  exact (first.plain .glob .any ⟨1⟩).elsewhere rfl

theorem children_plainPair (id : StyleId) : plainPair.styles.children id = [] := by
  have size : plainPair.styles.items.size = 2 := by decide +kernel
  rcases id with ⟨_ | _ | index⟩
  · rfl
  · rfl
  · apply children_of_not_made
    rw [Styles.Made, size]
    simp

/-- The second style is at the top once, and no chain holds it, so that it lives below the wrapper of the
first one alone. -/
theorem plainPair_moves_only_copy :
    ¬ plainPair.RefusesChain ⟨0⟩ ⟨0⟩ ⟨1⟩ ∧
      (plainPair.chain ⟨0⟩ ⟨0⟩ ⟨1⟩).2.LivesBelow ⟨0⟩ ⟨2⟩ ⟨1⟩ := by
  have allowed : ¬ plainPair.RefusesChain ⟨0⟩ ⟨0⟩ ⟨1⟩ := by decide +kernel
  have topsMade : plainPair.TopsMade ⟨0⟩ := by
    unfold TopsMade
    decide +kernel
  have moves := (chain_moves_one_copy styled_plainPair (by decide +kernel) topsMade
    (by decide +kernel) (by decide +kernel) allowed).2.2.2
  have top : ⟨2⟩ ∈ (plainPair.opened ⟨0⟩ ⟨0⟩ ⟨1⟩).2.topStyles ⟨0⟩ := by decide +kernel
  have leaf : (plainPair.opened ⟨0⟩ ⟨0⟩ ⟨1⟩).2.styles.children ⟨1⟩ = [] := by decide +kernel
  have place : ¬ (plainPair.opened ⟨0⟩ ⟨0⟩ ⟨1⟩).2.LacksPlace ⟨0⟩ ⟨2⟩ ⟨1⟩ := by
    rintro (outside | same | below)
    · exact outside (Reached.of_top top)
    · cases same
    · obtain ⟨child, held, -⟩ := (Styles.isBelow_iff_child _ _ _).mp below
      rw [leaf] at held
      cases held
  have noCopy : ¬ plainPair.LeavesCopy ⟨0⟩ ⟨0⟩ ⟨1⟩ := by
    rintro (several | ⟨holder, -, -, left⟩)
    · exact absurd several (by decide +kernel)
    · rw [copiesIn, children_plainPair] at left
      exact absurd left (Nat.not_lt_zero _)
  exact ⟨allowed, moves place noCopy⟩

def plainTwice : Scene Unit := plainPair.register ⟨0⟩ ⟨1⟩

/-- The second registration stays at the top, beside the wrapper that holds the style now. -/
theorem plainTwice_stays_on_top :
    Styled plainTwice ∧ ¬ plainTwice.RefusesChain ⟨0⟩ ⟨0⟩ ⟨1⟩ ∧
      (plainTwice.chain ⟨0⟩ ⟨0⟩ ⟨1⟩).2.topStyles ⟨0⟩ = [⟨2⟩, ⟨1⟩] ∧
      ∀ parent, ¬ (plainTwice.chain ⟨0⟩ ⟨0⟩ ⟨1⟩).2.LivesBelow ⟨0⟩ parent ⟨1⟩ := by
  refine ⟨styled_plainPair.elsewhere rfl, by decide +kernel, by decide +kernel, ?_⟩
  rintro parent ⟨none, -⟩
  exact absurd none (by decide +kernel)

end Scene

end StyledTree
