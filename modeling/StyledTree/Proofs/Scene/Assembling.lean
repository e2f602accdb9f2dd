import StyledTree.Proofs.Scene.Moving

set_option autoImplicit false

namespace StyledTree.Scene

open Styles

variable {ε : Type} {styles : Styles} {tops order : List StyleId}

/-- The parent stands for the same plain style as the child, or its place is below the child's. -/
def LiesWithin (styles : Styles) (tops : List StyleId) (parent child : StyleId) : Prop :=
  styles.denoted parent = styles.denoted child ∨
    ∃ lower upper, styles.Placed tops lower ∧ styles.Placed tops upper ∧
      styles.denoted lower = styles.denoted parent ∧
        styles.denoted upper = styles.denoted child ∧ styles.IsBelow lower upper

/-- After a call the chain stands for a style: the chain that did so before, or else a new one. -/
structure StandsFor (before : Styles) (tops : List StyleId) (after : Styles)
    (chain style : StyleId) : Prop where
  isChain : after.isChain chain = true
  denotes : after.denoted chain = before.denoted style
  old : ∀ node, before.Placed tops node → before.isChain node = true →
    before.denoted node = before.denoted style → chain = node
  new : ¬ before.Placed tops chain → ¬ before.Made chain

/-- The child has become the last child of the parent, with all that was below it, and everything else
is where it was. The parent keeps its place, or gets one at the end if it had none. -/
structure Moves (before : Styles) (tops : List StyleId) (parent child : StyleId) (after : Styles)
    (others : List StyleId) (parentChain childChain : StyleId) : Prop where
  parentStands : StandsFor before tops after parentChain parent
  childStands : StandsFor before tops after childChain child
  children : ∀ id, before.Placed tops id ∨ ¬ before.Made id → after.children id =
    (before.children id).erase childChain ++ if id = parentChain then [childChain] else []
  subtree : ∀ id, id = childChain ∨ before.IsBelow id childChain →
    after.children id = before.children id
  keeps : Keeps before after
  elsewhere : ∀ id, before.Made id → ¬ before.Placed tops id → after.get? id = before.get? id
  inPlace : (∃ id, before.Placed tops id ∧ before.denoted id = before.denoted parent) →
    others = (tops.filter (fun top => before.denoted top != before.denoted child)).map
      (fun top => if before.denoted top = before.denoted parent then parentChain else top)
  atEnd : (¬ ∃ id, before.Placed tops id ∧ before.denoted id = before.denoted parent) →
    others = tops.filter (fun top => before.denoted top != before.denoted child) ++ [parentChain]

/-! Refusals. -/

section Refusing

variable {scene : Scene ε} {sheet : SheetId} {parent child : StyleId}
  (grove : Grove scene.styles (scene.topStyles sheet) order)
  (parentUsable : Usable scene.styles order parent) (childUsable : Usable scene.styles order child)
include grove parentUsable childUsable

theorem liesWithin_of_refusesChain (refused : scene.RefusesChain sheet parent child) :
    LiesWithin scene.styles (scene.topStyles sheet) parent child := by
  rw [RefusesChain, Option.any_eq_true] at refused
  rcases refused with rfl | ⟨parentChain, found, closes⟩
  · exact Or.inl rfl
  · obtain ⟨member, -, stands⟩ := (chainOf?_eq_some_iff grove parentUsable).mp found
    rw [closesCycle, Bool.or_eq_true, Option.any_eq_true] at closes
    rcases closes with wraps | ⟨childChain, childFound, closes⟩
    · -- The chain of the parent wraps the child, which is plain then.
      have inner := ((grove.wraps_iff member).mp wraps).2
      have plain := grove.isPlain_denoted member
      rw [inner] at plain
      refine Or.inl ?_
      rw [denoted_of_not_isChain plain.notChain, ← stands, inner]
    · obtain ⟨childMember, -, childStands⟩ :=
        (chainOf?_eq_some_iff grove childUsable).mp childFound
      rw [Bool.or_eq_true, beq_iff_eq, grove.reaches_iff childMember] at closes
      rcases closes with rfl | below
      · exact Or.inl (stands.symm.trans childStands)
      · exact Or.inr ⟨parentChain, childChain, (grove.mem_iff _).mp member,
          (grove.mem_iff _).mp childMember, stands, childStands, below⟩

/-- Styles that stand for the same plain style have the same chain, or are the same. -/
theorem refusesChain_of_same (same : scene.styles.denoted parent = scene.styles.denoted child) :
    scene.RefusesChain sheet parent child := by
  rw [RefusesChain, Option.any_eq_true]
  cases found : scene.chainOf? sheet parent with
  | some chain =>
      obtain ⟨member, isChain, stands⟩ := (chainOf?_eq_some_iff grove parentUsable).mp found
      have childFound := (chainOf?_eq_some_iff grove childUsable).mpr
        ⟨member, isChain, stands.trans same⟩
      refine Or.inr ⟨chain, rfl, ?_⟩
      rw [closesCycle, childFound, Option.any_some, beq_self_eq_true, Bool.true_or, Bool.or_true]
  | none =>
      obtain ⟨parentPlain, noChain⟩ := no_chain grove parentUsable found
      have childPlain : scene.styles.IsPlain child :=
        childUsable.resolve_right (fun chain => noChain child chain.2 chain.1 same.symm)
      rw [denoted_of_not_isChain parentPlain.notChain,
        denoted_of_not_isChain childPlain.notChain] at same
      exact Or.inl same

/-- The search below the chain of the child finds the chain of the parent. -/
theorem refusesChain_of_isBelow {lower upper : StyleId}
    (lowerPlaced : scene.styles.Placed (scene.topStyles sheet) lower)
    (upperPlaced : scene.styles.Placed (scene.topStyles sheet) upper)
    (lowerStands : scene.styles.denoted lower = scene.styles.denoted parent)
    (upperStands : scene.styles.denoted upper = scene.styles.denoted child)
    (below : scene.styles.IsBelow lower upper) : scene.RefusesChain sheet parent child := by
  have lowerMember := (grove.mem_iff lower).mpr lowerPlaced
  have upperMember := (grove.mem_iff upper).mpr upperPlaced
  obtain ⟨held, isHeld, -⟩ := (isBelow_iff_child _ _ _).mp below
  have upperChain := isChain_of_mem_links ((scene.styles.mem_links upper held).mpr (Or.inl isHeld))
  have parentFound := (chainOf?_eq_some_iff grove parentUsable).mpr
    ⟨lowerMember, grove.isChain_of_isBelow upperMember below, lowerStands⟩
  have childFound := (chainOf?_eq_some_iff grove childUsable).mpr
    ⟨upperMember, upperChain, upperStands⟩
  rw [RefusesChain, parentFound, Option.any_some, closesCycle, childFound, Option.any_some,
    (grove.reaches_iff upperMember).mpr below, Bool.or_true, Bool.or_true]
  exact Or.inr rfl

/-- A call is refused just when the parent lies within the child. -/
theorem refusesChain_iff :
    scene.RefusesChain sheet parent child ↔
      LiesWithin scene.styles (scene.topStyles sheet) parent child := by
  constructor
  · exact liesWithin_of_refusesChain grove parentUsable childUsable
  · rintro (same | ⟨lower, upper, lowerPlaced, upperPlaced, lowerStands, upperStands, below⟩)
    · exact refusesChain_of_same grove parentUsable childUsable same
    · exact refusesChain_of_isBelow grove parentUsable childUsable lowerPlaced upperPlaced
        lowerStands upperStands below

end Refusing

/-! Moves. -/

section Combining

variable {before between found after : Styles} {parent child moved parentChain childChain : StyleId}
  {kept others taken listed nested : List StyleId}

/-- What is moved does not stand for the parent, and neither does anything below it. -/
theorem TakesOut.apart (takes : TakesOut before tops order child between kept moved taken)
    (grove : Grove before tops order) (parentMade : before.Made parent)
    (apart : ¬ LiesWithin before tops parent child) (id : StyleId)
    (placed : between.Placed [moved] id) : between.denoted id ≠ between.denoted parent := by
  have isTaken : moved ∈ taken := takes.grove.mem_of_top (by simp)
  have movedMade := takes.made moved (takes.grove.made moved isTaken)
  intro same
  rw [takes.keeps.denoted parentMade] at same
  obtain ⟨top, isMoved, below⟩ := placed
  rw [List.mem_singleton] at isMoved
  subst isMoved
  rcases below with rfl | below
  · rw [takes.keeps.denoted movedMade, takes.stands] at same
    exact apart (Or.inl same.symm)
  · rcases takes.origin with isListed | ⟨rfl, plain, -⟩
    · have earlier : before.IsBelow id top := by
        apply grove.isBelow_of_fewer _ isListed below
        intro met isMet
        rw [takes.children met isMet]
        exact List.erase_subset
      have lowerListed := grove.mem_of_isBelow isListed earlier
      rw [takes.keeps.denoted (grove.made id lowerListed)] at same
      exact apart (Or.inr ⟨id, top, (grove.mem_iff id).mp lowerListed,
        (grove.mem_iff top).mp isListed, same, takes.stands, earlier⟩)
    · obtain ⟨held, isHeld, -⟩ := (isBelow_iff_child _ _ _).mp below
      rw [children_of_not_isChain ((takes.keeps.isChain plain.made).trans plain.notChain)] at isHeld
      cases isHeld

/-- The chain of the parent is not what is moved, nor below it. -/
theorem FindsChain.apart (takes : TakesOut before tops order child between kept moved taken)
    (finds : FindsChain between kept taken moved parent found others parentChain listed)
    (apart : ∀ id, between.Placed [moved] id → between.denoted id ≠ between.denoted parent) :
    ¬ found.Placed [moved] parentChain := by
  intro placed
  have earlier : between.Placed [moved] parentChain := by
    have same : found.children = between.children := funext finds.children
    obtain ⟨top, isMoved, below⟩ := placed
    refine ⟨top, isMoved, below.imp_right ?_⟩
    rw [IsBelow, IsBelow, same]
    exact id
  have isTaken : parentChain ∈ taken := by
    rw [takes.grove.mem_iff]
    obtain ⟨top, isMoved, below⟩ := earlier
    exact ⟨top, List.mem_append_right kept isMoved, below⟩
  apply apart parentChain earlier
  rw [← finds.keeps.denoted (takes.grove.made parentChain isTaken), finds.stands]

structure Parts (before : Styles) (tops order : List StyleId) (parent child : StyleId)
    (between : Styles) (kept : List StyleId) (moved : StyleId) (taken : List StyleId)
    (found : Styles) (others : List StyleId) (parentChain : StyleId) (listed : List StyleId)
    (after : Styles) (childChain : StyleId) (nested : List StyleId) : Prop where
  grove : Grove before tops order
  parentMade : before.Made parent
  notWithin : ¬ LiesWithin before tops parent child
  takes : TakesOut before tops order child between kept moved taken
  finds : FindsChain between kept taken moved parent found others parentChain listed
  nests : Nests found others listed parentChain moved after childChain nested

namespace Parts

variable (parts : Parts before tops order parent child between kept moved taken found others
  parentChain listed after childChain nested)
include parts

theorem moved_between : between.Made moved :=
  parts.takes.grove.made moved (parts.takes.grove.mem_of_top (by simp))

theorem moved_made : before.Made moved := parts.takes.made moved parts.moved_between

theorem denoted_parentChain : after.denoted parentChain = before.denoted parent := by
  rw [parts.nests.keeps.denoted (parts.finds.grove.made parentChain parts.finds.member),
    parts.finds.stands, parts.takes.keeps.denoted parts.parentMade]

theorem denoted_childChain : after.denoted childChain = before.denoted child := by
  rw [parts.nests.stands, parts.finds.keeps.denoted parts.moved_between,
    parts.takes.keeps.denoted parts.moved_made, parts.takes.stands]

theorem keeps : Keeps before after :=
  parts.takes.keeps.trans (parts.finds.keeps.trans parts.nests.keeps)

/-- What was taken out and is not what stands for the child was in the grove before. -/
theorem mem_of_taken {id : StyleId} (isTaken : id ∈ taken)
    (stands : between.denoted id = between.denoted parent) : id ∈ order := by
  refine (parts.takes.only id isTaken).resolve_right ?_
  rintro rfl
  rw [parts.takes.keeps.denoted parts.moved_made, parts.takes.stands,
    parts.takes.keeps.denoted parts.parentMade] at stands
  exact parts.notWithin (Or.inl stands.symm)

/-- Something in the grove stands for the parent once the child is out just when something did so
before. -/
theorem known_iff : between.denoted parent ∈ taken.map between.denoted ↔
    ∃ id, before.Placed tops id ∧ before.denoted id = before.denoted parent := by
  rw [List.mem_map]
  constructor
  · rintro ⟨id, isTaken, stands⟩
    have isListed := parts.mem_of_taken isTaken stands
    refine ⟨id, (parts.grove.mem_iff id).mp isListed, ?_⟩
    rwa [parts.takes.keeps.denoted (parts.grove.made id isListed),
      parts.takes.keeps.denoted parts.parentMade] at stands
  · rintro ⟨id, placed, stands⟩
    have isListed := (parts.grove.mem_iff id).mpr placed
    refine ⟨id, parts.takes.within id isListed, ?_⟩
    rw [parts.takes.keeps.denoted (parts.grove.made id isListed),
      parts.takes.keeps.denoted parts.parentMade, stands]

/-- The chain of the parent was in the grove or is new. -/
theorem parentChain_cases : parentChain ∈ order ∨ ¬ before.Made parentChain := by
  rcases parts.finds.origin with isTaken | ⟨fresh, -⟩
  · refine Or.inl (parts.mem_of_taken isTaken ?_)
    rw [← parts.finds.keeps.denoted (parts.takes.grove.made parentChain isTaken),
      parts.finds.stands]
  · exact Or.inr (fun made => fresh (parts.takes.keeps.made made))

/-- The chain of the child was moved, or it is new. -/
theorem childChain_cases :
    (childChain = moved ∧ moved ∈ order ∧ before.isChain moved = true) ∨
      (before.isChain moved = false ∧ ¬ before.Made childChain) := by
  have kind : found.isChain moved = before.isChain moved := by
    rw [parts.finds.keeps.isChain parts.moved_between, parts.takes.keeps.isChain parts.moved_made]
  rcases parts.nests.origin with ⟨isChain, same⟩ | ⟨isPlain, fresh⟩
  · rw [kind] at isChain
    refine Or.inl ⟨same, ?_, isChain⟩
    refine parts.takes.origin.resolve_right ?_
    rintro ⟨rfl, plain, -⟩
    rw [plain.notChain] at isChain
    cases isChain
  · rw [kind] at isPlain
    exact Or.inr ⟨isPlain, fun made =>
      fresh (parts.finds.keeps.made (parts.takes.keeps.made made))⟩

theorem parentStands : StandsFor before tops after parentChain parent where
  isChain := by
    rw [parts.nests.keeps.isChain (parts.finds.grove.made parentChain parts.finds.member)]
    exact parts.finds.isChain
  denotes := parts.denoted_parentChain
  old node placed isChain stands := by
    have isListed := (parts.grove.mem_iff node).mpr placed
    have made := parts.grove.made node isListed
    have isTaken := parts.takes.within node isListed
    have later : between.denoted node = between.denoted parent := by
      rw [parts.takes.keeps.denoted made, parts.takes.keeps.denoted parts.parentMade, stands]
    rcases parts.finds.origin with chainTaken | ⟨-, noChain⟩
    · apply parts.takes.grove.eq_of_denoted chainTaken isTaken
      rw [later, ← parts.finds.stands,
        parts.finds.keeps.denoted (parts.takes.grove.made parentChain chainTaken)]
    · exact absurd later (noChain node isTaken ((parts.takes.keeps.isChain made).trans isChain))
  new notPlaced := parts.parentChain_cases.resolve_left
    (fun isListed => notPlaced ((parts.grove.mem_iff parentChain).mp isListed))

theorem childStands : StandsFor before tops after childChain child where
  isChain := parts.nests.isChain
  denotes := parts.denoted_childChain
  old node placed isChain stands := by
    have isListed := (parts.grove.mem_iff node).mpr placed
    have same : moved = node := by
      rcases parts.takes.origin with movedListed | ⟨-, -, absent⟩
      · exact parts.grove.eq_of_denoted movedListed isListed (parts.takes.stands.trans stands.symm)
      · exact absurd (stands ▸ List.mem_map_of_mem isListed) absent
    rcases parts.childChain_cases with ⟨chainMoved, -, -⟩ | ⟨isPlain, -⟩
    · exact chainMoved.trans same
    · rw [same, isChain] at isPlain
      cases isPlain
  new notPlaced := by
    rcases parts.childChain_cases with ⟨rfl, isListed, -⟩ | ⟨-, fresh⟩
    · exact absurd ((parts.grove.mem_iff childChain).mp isListed) notPlaced
    · exact fresh

theorem children (id : StyleId) (known : before.Placed tops id ∨ ¬ before.Made id) :
    after.children id =
      (before.children id).erase childChain ++ if id = parentChain then [childChain] else [] := by
  rw [parts.nests.children, parts.finds.children]
  congr 1
  rcases known with placed | missing
  · have isListed := (parts.grove.mem_iff id).mpr placed
    rw [parts.takes.children id isListed]
    rcases parts.childChain_cases with ⟨rfl, -, -⟩ | ⟨isPlain, fresh⟩
    · rfl
    · -- Neither the plain style nor its new chain is among the children.
      rw [List.erase_of_not_mem, List.erase_of_not_mem]
      · intro held
        exact fresh (parts.grove.made _ (parts.grove.lists.mem_of_child isListed held))
      · intro held
        rw [parts.grove.nested id isListed moved held] at isPlain
        cases isPlain
  · have outside : id ∉ order := fun isListed => missing (parts.grove.made id isListed)
    have leaf := children_of_not_made missing
    rw [leaf, Styles.children, parts.takes.elsewhere id outside]
    exact leaf

theorem subtree (id : StyleId) (below : id = childChain ∨ before.IsBelow id childChain) :
    after.children id = before.children id := by
  have differ : before.denoted parent ≠ before.denoted child :=
    fun same => parts.notWithin (Or.inl same)
  have apart : childChain ≠ parentChain := by
    intro same
    exact differ (parts.denoted_parentChain.symm.trans (same ▸ parts.denoted_childChain))
  rcases parts.childChain_cases with ⟨rfl, isListed, -⟩ | ⟨-, fresh⟩
  · have idListed : id ∈ order := by
      rcases below with rfl | below
      · exact isListed
      · exact parts.grove.mem_of_isBelow isListed below
    have notParent : id ≠ parentChain := by
      rintro rfl
      rcases below with same | below
      · exact apart same.symm
      · refine parts.notWithin (Or.inr ⟨id, childChain, (parts.grove.mem_iff id).mp idListed,
          (parts.grove.mem_iff childChain).mp isListed, ?_, parts.takes.stands, below⟩)
        rw [← parts.keeps.denoted (parts.grove.made id idListed), parts.denoted_parentChain]
    rw [parts.children id (Or.inl ((parts.grove.mem_iff id).mp idListed)), if_neg notParent,
      List.append_nil, List.erase_of_not_mem]
    intro held
    apply parts.grove.acyclic isListed
    rcases below with rfl | below
    · exact Relation.TransGen.single held
    · exact Relation.TransGen.tail below held
  · rcases below with rfl | below
    · rw [parts.children id (Or.inr fresh), if_neg apart, List.append_nil, children_of_not_made fresh]
      rfl
    · obtain ⟨held, isHeld, -⟩ := (isBelow_iff_child _ _ _).mp below
      rw [children_of_not_made fresh] at isHeld
      cases isHeld

theorem elsewhere (id : StyleId) (made : before.Made id) (notPlaced : ¬ before.Placed tops id) :
    after.get? id = before.get? id := by
  have outside : id ∉ order := fun isListed => notPlaced ((parts.grove.mem_iff id).mp isListed)
  have notParent : id ≠ parentChain := by
    rintro rfl
    exact parts.parentChain_cases.elim outside (fun fresh => fresh made)
  have madeBetween := parts.takes.keeps.made made
  rw [parts.nests.elsewhere id (parts.finds.keeps.made madeBetween) notParent,
    parts.finds.elsewhere id madeBetween, parts.takes.elsewhere id outside]

theorem moves : Moves before tops parent child after others parentChain childChain where
  parentStands := parts.parentStands
  childStands := parts.childStands
  children := parts.children
  subtree := parts.subtree
  keeps := parts.keeps
  elsewhere := parts.elsewhere
  inPlace known := by
    rw [parts.finds.replaced (parts.known_iff.mpr known), parts.takes.kept]
    apply List.map_congr_left
    intro top isKept
    have made := parts.grove.made top (parts.grove.mem_of_top (List.mem_of_mem_filter isKept))
    rw [parts.takes.keeps.denoted made, parts.takes.keeps.denoted parts.parentMade]
  atEnd unknown := by
    rw [parts.finds.appended (fun known => unknown (parts.known_iff.mp known)), parts.takes.kept]

theorem denoted_perm : (nested.map after.denoted).Perm
    (((order.map before.denoted).insert (before.denoted child)).insert (before.denoted parent)) := by
  have grown := parts.takes.denoted.insert (before.denoted parent)
  rw [← parts.takes.keeps.denoted parts.parentMade] at grown ⊢
  exact parts.nests.denoted.trans (parts.finds.denoted.trans grown)

end Parts

end Combining

end StyledTree.Scene
