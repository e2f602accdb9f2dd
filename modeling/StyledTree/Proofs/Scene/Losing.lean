import StyledTree.Proofs.Scene.Styled
import StyledTree.Proofs.Style.Reaching

set_option autoImplicit false

namespace StyledTree.Scene

open Relation Styles

variable {ε : Type} {scene : Scene ε} {sheet : SheetId}

def InSheet (scene : Scene ε) (sheet : SheetId) (style : StyleId) : Prop :=
  scene.styles.Reached (scene.topStyles sheet) style

def TopsMade (scene : Scene ε) (sheet : SheetId) : Prop :=
  ∀ top ∈ scene.topStyles sheet, scene.styles.Made top

theorem InSheet.made {style : StyleId} (inSheet : scene.InSheet sheet style)
    (sound : scene.styles.Sound) (topsMade : scene.TopsMade sheet) : scene.styles.Made style :=
  Reached.made inSheet sound topsMade

/-! Taking a style out. -/

/-- Only what was taken out, and what it leads to, can be missing after it was taken out. -/
theorem inSheet_takeOut {style : StyleId} (inSheet : scene.InSheet sheet style) (child : StyleId)
    (chain : Option StyleId) :
    (scene.takeOut sheet child chain).2.InSheet sheet style ∨
      ReflTransGen
        (fun upper lower => lower ∈ (scene.takeOut sheet child chain).2.styles.links upper)
        (scene.takeOut sheet child chain).1 style := by
  obtain ⟨found, -, same⟩ | ⟨-, held, -, same⟩ | ⟨-, -, same⟩ :=
    takeOut_cases scene sheet child chain
  · rw [same]
    obtain ⟨top, isTop, path⟩ := inSheet
    by_cases taken : top = found
    · exact Or.inr (taken ▸ path)
    · refine Or.inl ⟨top, ?_, path⟩
      rw [topStyles_setTopStyles]
      split
      · exact (List.mem_erase_of_ne taken).mpr isTop
      · exact isTop
  · rw [same]
    obtain ⟨top, isTop, path⟩ := inSheet
    exact (reflTransGen_of_lost_links (fun _ _ member => mem_links_detach _ held member) path).imp_left
      (fun path => ⟨top, isTop, path⟩)
  · rw [same]
    exact Or.inl inSheet

theorem topsMade_takeOut (topsMade : scene.TopsMade sheet) (child : StyleId)
    (chain : Option StyleId) : (scene.takeOut sheet child chain).2.TopsMade sheet := by
  obtain ⟨found, -, same⟩ | ⟨-, held, -, same⟩ | ⟨-, -, same⟩ :=
    takeOut_cases scene sheet child chain
  · rw [same]
    intro top isTop
    rw [topStyles_setTopStyles] at isTop
    split at isTop
    · exact topsMade top (List.mem_of_mem_erase isTop)
    · exact topsMade top isTop
  · rw [same]
    exact fun top isTop => (scene.styles.made_detach_iff _ held top).mpr (topsMade top isTop)
  · rw [same]
    exact topsMade

theorem keeps_takeOut (scene : Scene ε) (sheet : SheetId) (child : StyleId)
    (chain : Option StyleId) :
    Keeps scene.styles (scene.takeOut sheet child chain).2.styles := by
  obtain ⟨found, -, same⟩ | ⟨-, held, -, same⟩ | ⟨-, -, same⟩ :=
    takeOut_cases scene sheet child chain
  · rw [same]
    exact Keeps.refl scene.styles
  · rw [same]
    exact Keeps.detach scene.styles _ held
  · rw [same]
    exact Keeps.refl scene.styles

/-! Finding or making a chain for the parent. -/

theorem exists_replace {α : Type} [DecidableEq α] {items : List α} {item : α}
    (member : item ∈ items) (other : α) :
    ∃ front back, items = front ++ item :: back ∧
      items.replace item other = front ++ other :: back := by
  obtain ⟨front, back, rfl, first⟩ := List.eq_append_cons_of_mem member
  refine ⟨front, back, rfl, ?_⟩
  rw [List.replace_append_right first, List.replace_cons_self]

theorem links_subset_chainFor {parent : StyleId} (parentMade : scene.styles.Made parent)
    (upper : StyleId) :
    scene.styles.links upper ⊆ (scene.chainFor sheet parent).2.styles.links upper := by
  obtain ⟨chain, -, same⟩ | ⟨-, -, styles, -⟩ := chainFor_cases scene sheet parent
  · rw [same]
    exact fun _ member => member
  · rw [styles]
    exact links_subset_wrap parentMade upper

/-- Whatever the sheet leads to is still there; a style at the top that gets wrapped is there below
its wrapper. -/
theorem inSheet_chainFor {style : StyleId} (inSheet : scene.InSheet sheet style) {parent : StyleId}
    (parentMade : scene.styles.Made parent) :
    (scene.chainFor sheet parent).2.InSheet sheet style := by
  obtain ⟨chain, -, same⟩ | ⟨-, -, styles, tops⟩ := chainFor_cases scene sheet parent
  · rw [same]
    exact inSheet
  · have grows := links_subset_wrap parentMade
    rw [InSheet, styles, tops]
    refine Reached.of_subset inSheet grows ?_
    intro top isTop
    split
    · split
      · next atTop =>
        obtain ⟨front, back, split, replaced⟩ :=
          exists_replace (List.contains_iff_mem.mp atTop) (scene.styles.wrap parent).1
        rw [split, List.mem_append, List.mem_cons] at isTop
        rw [replaced]
        rcases isTop with before | rfl | behind
        · exact Reached.of_top (by simp [before])
        · have wrapper : (scene.styles.wrap top).2.Reached
              (front ++ (scene.styles.wrap top).1 :: back) (scene.styles.wrap top).1 :=
            Reached.of_top (by simp)
          exact wrapper.follow (ReflTransGen.single (wrapping parentMade).mem_links)
        · exact Reached.of_top (by simp [behind])
      · exact Reached.of_top (List.mem_append_left _ isTop)
    · exact Reached.of_top isTop

theorem topsMade_chainFor (topsMade : scene.TopsMade sheet) {parent : StyleId}
    (parentMade : scene.styles.Made parent) : (scene.chainFor sheet parent).2.TopsMade sheet := by
  obtain ⟨chain, -, same⟩ | ⟨-, -, styles, tops⟩ := chainFor_cases scene sheet parent
  · rw [same]
    exact topsMade
  · have kept : ∀ top ∈ scene.topStyles sheet, (scene.styles.wrap parent).2.Made top :=
      fun top isTop => made_wrap (topsMade top isTop) parent
    have wrapper : (scene.styles.wrap parent).2.Made (scene.styles.wrap parent).1 :=
      made_of_isChain (wrapping parentMade).isChain
    rw [TopsMade, styles, tops]
    intro top isTop
    split at isTop
    · split at isTop
      · next atTop =>
        obtain ⟨front, back, split, replaced⟩ :=
          exists_replace (List.contains_iff_mem.mp atTop) (scene.styles.wrap parent).1
        rw [replaced, List.mem_append, List.mem_cons] at isTop
        rw [split] at kept
        rcases isTop with before | rfl | behind
        · exact kept top (by simp [before])
        · exact wrapper
        · exact kept top (by simp [behind])
      · rcases List.mem_append.mp isTop with before | new
        · exact kept top before
        · rw [List.mem_singleton.mp new]
          exact wrapper
    · exact kept top isTop

theorem isChain_of_chainOf? {style chain : StyleId}
    (found : scene.chainOf? sheet style = some chain) : scene.styles.isChain chain = true := by
  rw [chainOf?] at found
  split at found
  · next isChain =>
    cases found
    exact isChain
  · have wraps := (reached_of_wrapperAmong? found).2
    rw [wraps_iff] at wraps
    exact isChain_of_mem_links ((scene.styles.mem_links chain style).mpr (Or.inr wraps))

theorem isChain_chainFor {parent : StyleId} (parentMade : scene.styles.Made parent) :
    (scene.chainFor sheet parent).2.styles.isChain (scene.chainFor sheet parent).1 = true := by
  obtain ⟨chain, found, same⟩ | ⟨-, new, styles, -⟩ := chainFor_cases scene sheet parent
  · rw [same]
    exact isChain_of_chainOf? found
  · rw [new, styles]
    exact (wrapping parentMade).isChain

/-- The chain for a plain style is in the sheet: it was found there or has just been put there. -/
theorem inSheet_chainFor_of_plain (isSheet : (scene.sheet? sheet).isSome = true) {parent : StyleId}
    (plain : scene.styles.isChain parent = false) :
    (scene.chainFor sheet parent).2.InSheet sheet (scene.chainFor sheet parent).1 := by
  obtain ⟨chain, found, same⟩ | ⟨-, new, styles, tops⟩ := chainFor_cases scene sheet parent
  · rw [chainOf?, plain, if_neg Bool.false_ne_true] at found
    rw [same]
    exact (reached_of_wrapperAmong? found).1
  · rw [InSheet, tops, if_pos ⟨rfl, isSheet⟩, new]
    apply Reached.of_top
    split
    · next atTop =>
      obtain ⟨front, back, -, replaced⟩ :=
        exists_replace (List.contains_iff_mem.mp atTop) (scene.styles.wrap parent).1
      rw [replaced]
      simp
    · simp

/-! Nesting. -/

/-- Nesting is refused when what is to be nested is the parent or has the parent below it, be it a
chain already or not. -/
theorem nest_refused_iff (sound : scene.styles.Sound) {parent style : StyleId}
    (isChain : scene.styles.isChain parent = true) (made : scene.styles.Made style) :
    ((scene.styles.asChain style).1 = parent ∨
        (scene.styles.asChain style).2.reaches (scene.styles.asChain style).1 parent = true) ↔
      style = parent ∨ scene.styles.IsBelow parent style := by
  rw [(sound.asChain style).reaches_iff]
  obtain ⟨-, same⟩ | ⟨plain, same⟩ := scene.styles.asChain_cases style
  · rw [same]
  · -- A new wrapper holds nothing, as the plain style in it does.
    have notBelow : ∀ styles : Styles, ∀ upper, styles.children upper = [] →
        ¬ styles.IsBelow parent upper := by
      intro styles upper leaf below
      obtain ⟨child, held, -⟩ := (styles.isBelow_iff_child parent upper).mp below
      rw [leaf] at held
      cases held
    have fresh := (wrapping made).fresh
    rw [same]
    refine iff_of_false (not_or.mpr ⟨?_, ?_⟩) (not_or.mpr ⟨?_, ?_⟩)
    · rintro equal
      exact fresh (equal ▸ made_of_isChain isChain)
    · apply notBelow
      rw [(wrapping made).children, children_of_not_made fresh]
    · rintro rfl
      rw [isChain] at plain
      cases plain
    · exact notBelow scene.styles style (children_of_not_isChain plain)

/-- What a chain of the sheet takes in is in the sheet. -/
theorem inSheet_nest (sound : scene.styles.Sound) {parent style : StyleId}
    (isChain : scene.styles.isChain parent = true) (made : scene.styles.Made style)
    (parentInSheet : scene.InSheet sheet parent)
    (allowed : ¬ (style = parent ∨ scene.styles.IsBelow parent style)) :
    (scene.nest parent style).2.InSheet sheet style := by
  rw [InSheet, topStyles_nest, styles_nest, if_neg (mt (nest_refused_iff sound isChain made).mp allowed)]
  have parentReached : (scene.styles.asChain style).2.Reached (scene.topStyles sheet) parent :=
    Reached.of_subset parentInSheet (links_subset_asChain made)
      (fun _ isTop => Reached.of_top isTop)
  have stillChain : (scene.styles.asChain style).2.isChain parent = true := by
    rw [Styles.isChain, get?_asChain_of_made (made_of_isChain isChain) made]
    exact isChain
  refine (parentReached.of_append stillChain).follow (ReflTransGen.mono ?_ _ _ (asChain_leads made))
  exact fun upper _ member => links_subset_append _ parent _ upper member

theorem links_subset_nest {parent moved : StyleId} (made : scene.styles.Made moved)
    (upper : StyleId) :
    scene.styles.links upper ⊆ (scene.nest parent moved).2.styles.links upper := by
  have wrapped := links_subset_asChain made upper
  rw [styles_nest]
  split
  · exact wrapped
  · exact fun lower member => links_subset_append _ parent _ upper (wrapped member)

/-- Nesting takes nothing out. -/
theorem inSheet_of_before_nest {style : StyleId} (inSheet : scene.InSheet sheet style)
    (parent : StyleId) {moved : StyleId} (made : scene.styles.Made moved) :
    (scene.nest parent moved).2.InSheet sheet style := by
  rw [InSheet, topStyles_nest]
  exact Reached.of_subset inSheet (links_subset_nest made) (fun _ isTop => Reached.of_top isTop)

/-- The sheet does not lead to the parent, or the style to be nested there is or has the parent
below it. -/
def LacksPlace (scene : Scene ε) (sheet : SheetId) (parent style : StyleId) : Prop :=
  ¬ scene.InSheet sheet parent ∨ style = parent ∨ scene.styles.IsBelow parent style

/-- Without a place nothing comes into the sheet. -/
theorem inSheet_of_nest (sound : scene.styles.Sound) (topsMade : scene.TopsMade sheet)
    {parent moved : StyleId} (isChain : scene.styles.isChain parent = true)
    (made : scene.styles.Made moved) (lacks : scene.LacksPlace sheet parent moved) {style : StyleId}
    (inSheet : (scene.nest parent moved).2.InSheet sheet style) : scene.InSheet sheet style := by
  rw [InSheet, topStyles_nest, styles_nest] at inSheet
  refine Reached.of_same_links inSheet ?_
  intro upper reached
  have wrapped : (scene.styles.asChain moved).2.links upper = scene.styles.links upper :=
    links_eq_of_get? (get?_asChain_of_made (InSheet.made reached sound topsMade) made)
  split
  · exact wrapped
  · next allowed =>
    have noParent : ¬ scene.InSheet sheet parent :=
      lacks.resolve_right (mt (nest_refused_iff sound isChain made).mpr allowed)
    rw [links_append_of_ne, wrapped]
    rintro rfl
    exact noParent reached

/-- What the sheet leads to, or the nested style does, is out of the sheet after nesting exactly if it was
out of it before and there is no place for the nested style. -/
theorem not_inSheet_nest_iff (sound : scene.styles.Sound) (topsMade : scene.TopsMade sheet)
    {parent moved : StyleId} (isChain : scene.styles.isChain parent = true)
    (made : scene.styles.Made moved) {style : StyleId}
    (known : scene.InSheet sheet style ∨
      ReflTransGen (fun upper lower => lower ∈ scene.styles.links upper) moved style) :
    ¬ (scene.nest parent moved).2.InSheet sheet style ↔
      ¬ scene.InSheet sheet style ∧ scene.LacksPlace sheet parent moved := by
  constructor
  · intro lost
    have gone : ¬ scene.InSheet sheet style :=
      fun still => lost (inSheet_of_before_nest still parent made)
    refine ⟨gone, ?_⟩
    by_contra place
    rw [LacksPlace, not_or, not_not] at place
    have back := inSheet_nest sound isChain made place.1 place.2
    apply lost
    refine back.follow (ReflTransGen.mono ?_ _ _ (known.resolve_left gone))
    exact fun upper _ member => links_subset_nest made upper member
  · rintro ⟨gone, lacks⟩ inAfter
    exact gone (inSheet_of_nest sound topsMade isChain made lacks inAfter)

/-! The whole call. -/

def taken (scene : Scene ε) (sheet : SheetId) (child : StyleId) : StyleId :=
  (scene.takeOut sheet child (scene.chainOf? sheet child)).1

/-- The chain for the parent, and the scene in which it is to take in what was taken out. -/
def opened (scene : Scene ε) (sheet : SheetId) (parent child : StyleId) : StyleId × Scene ε :=
  (scene.takeOut sheet child (scene.chainOf? sheet child)).2.chainFor sheet parent

/-- Whatever the sheet does not lead to any more is what was taken out or what that leads to. -/
theorem inSheet_opened_or {parent child style : StyleId} (inSheet : scene.InSheet sheet style)
    (parentMade : scene.styles.Made parent) :
    (scene.opened sheet parent child).2.InSheet sheet style ∨
      ReflTransGen
        (fun upper lower => lower ∈ (scene.opened sheet parent child).2.styles.links upper)
        (scene.taken sheet child) style := by
  have made := (keeps_takeOut scene sheet child (scene.chainOf? sheet child)).made parentMade
  refine (inSheet_takeOut inSheet child (scene.chainOf? sheet child)).imp ?_ ?_
  · exact fun still => inSheet_chainFor still made
  · refine ReflTransGen.mono ?_ _ _
    exact fun upper _ member => links_subset_chainFor made upper member

/-- A refused call loses nothing. Any other call loses a style of the sheet exactly if the sheet led to
it through what was taken out alone and there is no place for that: the sheet no longer leads to the
chain for the parent, or that chain is below what was taken out. A plain parent has its chain in the
sheet. -/
theorem chain_loses_iff {scene : Scene ε} (styled : Styled scene) {sheet : SheetId}
    (topsMade : scene.TopsMade sheet) {parent child : StyleId}
    (parentMade : scene.styles.Made parent) (childMade : scene.styles.Made child) :
    let after := (scene.chain sheet parent child).2
    let parentChain := (scene.opened sheet parent child).1
    let opened := (scene.opened sheet parent child).2
    let taken := scene.taken sheet child
    (scene.RefusesChain sheet parent child →
      ∀ style, after.InSheet sheet style ↔ scene.InSheet sheet style) ∧
    (¬ scene.RefusesChain sheet parent child → ∀ style, scene.InSheet sheet style →
      (¬ after.InSheet sheet style ↔
        ¬ opened.InSheet sheet style ∧ opened.LacksPlace sheet parentChain taken)) ∧
    (∀ style, scene.InSheet sheet style → ¬ opened.InSheet sheet style →
      ReflTransGen (fun upper lower => lower ∈ opened.styles.links upper) taken style) ∧
    ((scene.sheet? sheet).isSome = true → scene.styles.isChain parent = false →
      opened.InSheet sheet parentChain) := by
  intro after parentChain opened taken
  have keeps := keeps_takeOut scene sheet child (scene.chainOf? sheet child)
  have takenParent := keeps.made parentMade
  obtain ⟨takenSound, takenMade⟩ := sound_takeOut styled.sound sheet childMade
    (fun _ found => made_of_chainOf? found)
  have sound : opened.styles.Sound := sound_chainFor takenSound sheet parent
  have openedTops : opened.TopsMade sheet :=
    topsMade_chainFor (topsMade_takeOut topsMade child _) takenParent
  have isChain : opened.styles.isChain parentChain = true := isChain_chainFor takenParent
  have made : opened.styles.Made taken := made_chainFor sheet parent takenMade
  refine ⟨?_, ?_, ?_, ?_⟩
  · intro refuses style
    obtain ⟨-, id, -, same⟩ | ⟨allowed, -⟩ := chain_cases scene sheet parent child
    · show (scene.chain sheet parent child).2.InSheet sheet style ↔ _
      rw [same]
      rfl
    · exact absurd refuses allowed
  · intro allowed style inSheet
    have nested : after = (opened.nest parentChain taken).2 := by
      obtain ⟨refuses, -⟩ | ⟨-, same⟩ := chain_cases scene sheet parent child
      · exact absurd refuses allowed
      · exact congrArg Prod.snd same
    rw [nested]
    exact not_inSheet_nest_iff sound openedTops isChain made (inSheet_opened_or inSheet parentMade)
  · exact fun style inSheet gone => (inSheet_opened_or inSheet parentMade).resolve_left gone
  · intro isSheet plain
    refine inSheet_chainFor_of_plain ?_ ?_
    · rw [isSome_sheet?_takeOut]
      exact isSheet
    · rw [keeps.isChain parentMade]
      exact plain

def scopeBeside : Scene Unit :=
  let registered := ((Scene.fresh ()).addSheet.2.addStyle (.scope .glob)).2.register ⟨0⟩ ⟨0⟩
  (registered.addStyle (.scope .glob)).2

/-- The scope of the sheet is taken out and goes below the other one, which the sheet does not lead
to. -/
theorem scopeBeside_loses :
    ¬ scopeBeside.RefusesChain ⟨0⟩ ⟨1⟩ ⟨0⟩ ∧ scopeBeside.InSheet ⟨0⟩ ⟨0⟩ ∧
      ¬ (scopeBeside.chain ⟨0⟩ ⟨1⟩ ⟨0⟩).2.InSheet ⟨0⟩ ⟨0⟩ := by
  have empty : Styled ((Scene.fresh ()).addSheet.2) := Styled.none rfl
  have registered : Styled (((Scene.fresh ()).addSheet.2.addStyle (.scope .glob)).2.register ⟨0⟩ ⟨0⟩) :=
    (empty.scope .glob).elsewhere rfl
  have allowed : ¬ scopeBeside.RefusesChain ⟨0⟩ ⟨1⟩ ⟨0⟩ := by decide +kernel
  have inSheet : scopeBeside.InSheet ⟨0⟩ ⟨0⟩ := Reached.of_top (by decide +kernel)
  have tops : (scopeBeside.opened ⟨0⟩ ⟨1⟩ ⟨0⟩).2.topStyles ⟨0⟩ = [] := by decide +kernel
  have nothing : ∀ style, ¬ (scopeBeside.opened ⟨0⟩ ⟨1⟩ ⟨0⟩).2.InSheet ⟨0⟩ style := by
    rintro style ⟨top, isTop, -⟩
    rw [tops] at isTop
    cases isTop
  have parentMade : scopeBeside.styles.Made ⟨1⟩ := by decide +kernel
  have childMade : scopeBeside.styles.Made ⟨0⟩ := by decide +kernel
  have topsMade : scopeBeside.TopsMade ⟨0⟩ := by
    unfold TopsMade
    decide +kernel
  have loses := (chain_loses_iff (registered.scope .glob) topsMade parentMade childMade).2.1
  exact ⟨allowed, inSheet, (loses allowed ⟨0⟩ inSheet).mpr ⟨nothing _, Or.inl (nothing _)⟩⟩

def wrappedPair : Scene Unit :=
  let scope := ((Scene.fresh ()).addSheet.2.addStyle (.scope ⟨⟨none, ["x"]⟩, []⟩)).2
  let wrapped := (scope.wrap ⟨0⟩).2.register ⟨0⟩ ⟨1⟩
  ((wrapped.addStyle (.scope ⟨⟨none, ["p"]⟩, []⟩)).2.chain ⟨0⟩ ⟨1⟩ ⟨2⟩).2

/-- The check looks below the wrapped scope, and the chain that wraps it is what is taken out. It holds
the new parent, so it is not nested there, and the sheet is empty. -/
theorem wrappedPair_loses_all :
    Styled wrappedPair ∧ (∀ style ∈ [⟨0⟩, ⟨1⟩, ⟨2⟩], wrappedPair.InSheet ⟨0⟩ style) ∧
      ∀ style, ¬ (wrappedPair.chain ⟨0⟩ ⟨2⟩ ⟨0⟩).2.InSheet ⟨0⟩ style := by
  have empty : Styled ((Scene.fresh ()).addSheet.2) := Styled.none rfl
  have wrapped : Styled ((((Scene.fresh ()).addSheet.2.addStyle
      (.scope ⟨⟨none, ["x"]⟩, []⟩)).2.wrap ⟨0⟩).2.register ⟨0⟩ ⟨1⟩) :=
    ((empty.scope ⟨⟨none, ["x"]⟩, []⟩).wrap ⟨0⟩).elsewhere rfl
  refine ⟨?_, ?_, ?_⟩
  · exact (wrapped.scope ⟨⟨none, ["p"]⟩, []⟩).chain ⟨0⟩ ⟨1⟩ (show 2 < 3 by decide)
  · have top : wrappedPair.InSheet ⟨0⟩ ⟨1⟩ := Reached.of_top (by decide +kernel)
    have leads : ∀ lower ∈ wrappedPair.styles.links ⟨1⟩, wrappedPair.InSheet ⟨0⟩ lower :=
      fun lower member => top.follow (ReflTransGen.single member)
    have links : wrappedPair.styles.links ⟨1⟩ = [⟨2⟩, ⟨0⟩] := by decide +kernel
    rw [links] at leads
    simp only [List.forall_mem_cons]
    exact ⟨leads _ (by simp), top, leads _ (by simp), by simp⟩
  · rintro style ⟨top, isTop, -⟩
    have tops : (wrappedPair.chain ⟨0⟩ ⟨2⟩ ⟨0⟩).2.topStyles ⟨0⟩ = [] := by decide +kernel
    rw [tops] at isTop
    cases isTop

end StyledTree.Scene
