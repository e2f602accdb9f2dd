import StyledTree.Proofs.Enumerating
import StyledTree.Proofs.Forest.Keeping
import StyledTree.Proofs.Forest.Preorder

set_option autoImplicit false

namespace StyledTree.Forest

def SharesTree (forest : Forest) (first second : WidgetId) : Prop :=
  ∃ top, forest.Covers top first ∧ forest.Covers top second

structure IsBeside (forest : Forest) (widget other : WidgetId) : Prop where
  sharesTree : forest.SharesTree widget other
  notBelow : ¬ IsAbove forest.parent? widget other

/-- In the tree of the widget nothing but what is strictly below it is linked in another way. The
widget itself may have got other children. -/
structure ChangesBelow (widget : WidgetId) (before after : Forest) : Prop where
  parent : ∀ other, before.IsBeside widget other → after.parent? other = before.parent? other
  children : ∀ other, before.IsBeside widget other → other ≠ widget →
    after.children other = before.children other

theorem lists_iff_enumerates (forest : Forest) (widgets listed : List WidgetId) :
    forest.Lists widgets listed ↔ Enumerates forest.children widgets listed := by
  constructor
  · intro lists
    induction lists with
    | nil => exact Enumerates.nil
    | cons _ _ below others => exact Enumerates.cons below others
  · intro enumerates
    induction enumerates with
    | nil => exact Lists.nil
    | cons _ _ below others => exact Lists.cons below others

theorem Lists.append {forest : Forest} {first second firstListed secondListed : List WidgetId}
    (one : forest.Lists first firstListed) (other : forest.Lists second secondListed) :
    forest.Lists (first ++ second) (firstListed ++ secondListed) := by
  rw [lists_iff_enumerates] at one other ⊢
  exact one.append other

theorem Lists.unique {forest : Forest} {widgets first second : List WidgetId}
    (one : forest.Lists widgets first) (other : forest.Lists widgets second) : first = second := by
  rw [lists_iff_enumerates] at one other
  exact one.unique other

theorem covers_refl (forest : Forest) (widget : WidgetId) : forest.Covers widget widget :=
  Or.inl rfl

theorem Covers.trans {forest : Forest} {top middle bottom : WidgetId}
    (upper : forest.Covers top middle) (lower : forest.Covers middle bottom) :
    forest.Covers top bottom := by
  rcases upper with rfl | above
  · exact lower
  · rcases lower with rfl | below
    · exact Or.inr above
    · exact Or.inr (above.trans below)

/-- What covers the parent is strictly above the child. -/
theorem Covers.isAbove_child {forest : Forest} {top parent child : WidgetId}
    (covers : forest.Covers top parent) (linked : forest.parent? child = some parent) :
    IsAbove forest.parent? top child := by
  rcases covers with rfl | above
  · exact IsAbove.of_parent linked
  · exact IsAbove.of_above_parent linked above

theorem Covers.sharesTree {forest : Forest} {upper lower : WidgetId}
    (covers : forest.Covers upper lower) : forest.SharesTree upper lower :=
  ⟨upper, forest.covers_refl upper, covers⟩

/-- Of two widgets that cover a third, one covers the other. -/
theorem Covers.comparable {forest : Forest} {first second lower : WidgetId}
    (one : forest.Covers first lower) (other : forest.Covers second lower) :
    forest.Covers first second ∨ forest.Covers second first := by
  rcases one with rfl | firstAbove
  · exact Or.inr other
  · rcases other with rfl | secondAbove
    · exact Or.inl (Or.inr firstAbove)
    · rcases firstAbove.comparable secondAbove with rfl | above | above
      · exact Or.inl (Or.inl rfl)
      · exact Or.inl (Or.inr above)
      · exact Or.inr (Or.inr above)

theorem SharesTree.symm {forest : Forest} {first second : WidgetId}
    (shares : forest.SharesTree first second) : forest.SharesTree second first := by
  obtain ⟨top, one, other⟩ := shares
  exact ⟨top, other, one⟩

/-- What covers a widget of a tree is in the tree. -/
theorem SharesTree.of_covers {forest : Forest} {first second upper : WidgetId}
    (shares : forest.SharesTree first second) (covers : forest.Covers upper second) :
    forest.SharesTree first upper := by
  obtain ⟨top, one, other⟩ := shares
  rcases other.comparable covers with above | below
  · exact ⟨top, one, above⟩
  · exact ⟨upper, below.trans one, forest.covers_refl upper⟩

theorem SharesTree.of_covers_below {forest : Forest} {first second lower : WidgetId}
    (shares : forest.SharesTree first second) (covers : forest.Covers second lower) :
    forest.SharesTree first lower := by
  obtain ⟨top, one, other⟩ := shares
  exact ⟨top, one, other.trans covers⟩

theorem SharesTree.trans {forest : Forest} {first second third : WidgetId}
    (one : forest.SharesTree first second) (other : forest.SharesTree second third) :
    forest.SharesTree first third := by
  obtain ⟨top, atSecond, atThird⟩ := other
  exact (one.of_covers atSecond).of_covers_below atThird

theorem IsForest.isBeside_self {forest : Forest} (isForest : forest.IsForest) (widget : WidgetId) :
    forest.IsBeside widget widget :=
  ⟨⟨widget, forest.covers_refl widget, forest.covers_refl widget⟩, isForest.acyclic widget⟩

/-- What covers a widget that is not below another is not below it either. -/
theorem IsBeside.of_covers {forest : Forest} {widget other upper : WidgetId}
    (beside : forest.IsBeside widget other) (covers : forest.Covers upper other) :
    forest.IsBeside widget upper := by
  refine ⟨beside.sharesTree.of_covers covers, ?_⟩
  intro above
  rcases covers with rfl | upperAbove
  · exact beside.notBelow above
  · exact beside.notBelow (above.trans upperAbove)

namespace ChangesBelow

variable {widget : WidgetId} {before middle after : Forest}

theorem refl (widget : WidgetId) (forest : Forest) : ChangesBelow widget forest forest :=
  ⟨fun _ _ => rfl, fun _ _ _ => rfl⟩

/-- A widget that is not below the changed one keeps its whole way up. -/
theorem climbs (changes : ChangesBelow widget before after) {other : WidgetId}
    {above : List WidgetId} (climb : Climbs before.parent? other above)
    (beside : before.IsBeside widget other) : Climbs after.parent? other above :=
  climb.of_same_parents
    (fun _ _ lowerBeside linked => lowerBeside.of_covers (Or.inr (IsAbove.of_parent linked)))
    changes.parent beside

theorem covers_iff (changes : ChangesBelow widget before after) (isForest : before.IsForest)
    {other upper : WidgetId} (beside : before.IsBeside widget other) :
    after.Covers upper other ↔ before.Covers upper other := by
  have climb := isForest.climbs_ancestors other
  rw [Covers, Covers, ← climb.mem_iff, ← (changes.climbs climb beside).mem_iff]

theorem isAbove_iff (changes : ChangesBelow widget before after) (isForest : before.IsForest)
    {other upper : WidgetId} (beside : before.IsBeside widget other) :
    IsAbove after.parent? upper other ↔ IsAbove before.parent? upper other := by
  have climb := isForest.climbs_ancestors other
  rw [← climb.mem_iff, ← (changes.climbs climb beside).mem_iff]

theorem isBeside (changes : ChangesBelow widget before after) (isForest : before.IsForest)
    {other : WidgetId} (beside : before.IsBeside widget other) : after.IsBeside widget other := by
  obtain ⟨top, one, two⟩ := beside.sharesTree
  refine ⟨⟨top, ?_, ?_⟩, ?_⟩
  · exact (changes.covers_iff isForest (isForest.isBeside_self widget)).mpr one
  · exact (changes.covers_iff isForest beside).mpr two
  · exact fun above => beside.notBelow ((changes.isAbove_iff isForest beside).mp above)

theorem trans (first : ChangesBelow widget before middle) (isForest : before.IsForest)
    (second : ChangesBelow widget middle after) : ChangesBelow widget before after where
  parent other beside :=
    (second.parent other (first.isBeside isForest beside)).trans (first.parent other beside)
  children other beside differ :=
    (second.children other (first.isBeside isForest beside) differ).trans
      (first.children other beside differ)

/-- Changes below a widget are changes below whatever is above it. -/
theorem of_isAbove (changes : ChangesBelow widget before after)
    {upper : WidgetId} (above : IsAbove before.parent? upper widget) :
    ChangesBelow upper before after := by
  have lower : ∀ other, before.IsBeside upper other → before.IsBeside widget other := by
    intro other beside
    refine ⟨?_, fun below => beside.notBelow (above.trans below)⟩
    exact (beside.sharesTree.symm.of_covers_below (Or.inr above)).symm
  refine ⟨fun other beside => changes.parent other (lower other beside), ?_⟩
  intro other beside _
  refine changes.children other (lower other beside) ?_
  rintro rfl
  exact beside.notBelow above

/-- What is listed outside of the changed part is listed in the same way afterwards. -/
theorem lists (changes : ChangesBelow widget before after) {widgets listed : List WidgetId}
    (listing : before.Lists widgets listed)
    (outside : ∀ met ∈ listed, before.IsBeside widget met ∧ met ≠ widget) :
    after.Lists widgets listed := by
  rw [lists_iff_enumerates] at listing ⊢
  apply listing.congr
  intro met member
  exact changes.children met (outside met member).1 (outside met member).2

/-! Edits of this kind: new widgets, which hang nowhere yet, and taking out and placing children at or
below the widget. -/

theorem of_same_links {forest after : Forest}
    (parents : ∀ other, after.parent? other = forest.parent? other)
    (lists : ∀ other, after.children other = forest.children other) :
    ChangesBelow widget forest after :=
  ⟨fun other _ => parents other, fun other _ _ => lists other⟩

theorem create (widget : WidgetId) (forest : Forest) (kind : Kind) :
    ChangesBelow widget forest (forest.create kind).2 :=
  of_same_links (parent?_create forest kind) (children_create forest kind)

theorem removeAll {forest : Forest} (isForest : forest.IsForest) {parent : WidgetId}
    (within : forest.Covers widget parent) :
    ChangesBelow widget forest (forest.removeAll parent) := by
  constructor
  · intro other beside
    rw [parent?_removeAll, if_neg]
    intro isChild
    have linked := IsAbove.of_parent ((isForest.mem_children_iff parent other).mp isChild)
    rcases within with rfl | above
    · exact beside.notBelow linked
    · exact beside.notBelow (above.trans linked)
  · intro other beside differ
    rw [children_removeAll, if_neg]
    rintro rfl
    exact within.elim (fun same => differ same.symm) beside.notBelow

/-- A widget that is not beside the other is taken out without touching what is beside it. -/
theorem detach {forest : Forest} (isForest : forest.IsForest) {child : WidgetId}
    (lower : ¬ forest.IsBeside widget child) :
    ChangesBelow widget forest (forest.detach child).2 := by
  cases linked : forest.parent? child with
  | none =>
      simp only [Forest.detach, linked]
      exact refl widget forest
  | some parent =>
      have isChild := (isForest.mem_children_iff parent child).mpr linked
      have above := IsAbove.of_parent linked
      simp only [Forest.detach, linked]
      constructor
      · intro other beside
        rw [parent?_remove forest isChild, if_neg]
        rintro rfl
        exact lower beside
      · intro other beside differ
        rw [children_remove forest isChild, if_neg]
        rintro rfl
        -- The child hangs in the tree of the widget, and so it has to be below the widget.
        have below : IsAbove forest.parent? widget child := by
          by_contra notBelow
          exact lower ⟨beside.sharesTree.of_covers_below (Or.inr above), notBelow⟩
        rcases (IsAbove.iff_of_parent linked).mp below with same | higher
        · exact differ same.symm
        · exact beside.notBelow higher

/-- Placing a child at or below the widget, whether the child is new or was below the widget before. -/
theorem insert {forest changed : Forest} (isForest : forest.IsForest) {parent child : WidgetId}
    {constraint : Option Constraint} (within : forest.Covers widget parent)
    (lower : forest.IsBeside widget child → child = parent)
    (inserted : forest.insert parent child constraint = .ok changed) :
    ChangesBelow widget forest changed := by
  obtain ⟨container, apart, -, ⟨-, same⟩ | ⟨live, rfl⟩⟩ := insert_cases inserted
  · exact same ▸ refl widget forest
  · have notBeside : ¬ forest.IsBeside widget child := fun beside => apart (lower beside)
    have detached := detach isForest notBeside
    have parentBelow : ∀ other, forest.IsBeside widget other → other ≠ widget → other ≠ parent := by
      rintro other beside differ rfl
      exact within.elim (fun same => differ same.symm) beside.notBelow
    have cleared : ChangesBelow widget forest (forest.clearedFor parent child) := by
      rw [clearedFor]
      split
      · constructor
        · intro other beside
          rw [parent?_removeAll, if_neg, detached.parent other beside]
          intro isChild
          rw [(isForest.detach child).mem_children_iff, detached.parent other beside] at isChild
          have linked := IsAbove.of_parent isChild
          rcases within with rfl | above
          · exact beside.notBelow linked
          · exact beside.notBelow (above.trans linked)
        · intro other beside differ
          rw [children_removeAll, if_neg (parentBelow other beside differ),
            detached.children other beside differ]
      · exact detached
    have childLive : (forest.clearedFor parent child).contains child = true := by
      rwa [contains_clearedFor]
    have parentLive : (forest.clearedFor parent child).contains parent = true := by
      rw [contains_clearedFor]
      exact contains_of_isContainer container
    constructor
    · intro other beside
      rw [parent?_link _ _ _ childLive, if_neg, cleared.parent other beside]
      rintro rfl
      exact notBeside beside
    · intro other beside differ
      rw [children_link _ _ _ parentLive, if_neg (parentBelow other beside differ),
        cleared.children other beside differ]

theorem add {forest : Forest} (isForest : forest.IsForest) {parent child : WidgetId}
    (within : forest.Covers widget parent)
    (lower : forest.IsBeside widget child → child = parent) :
    ChangesBelow widget forest (Edit.ofInsertion forest (forest.add parent child)).2 := by
  cases added : forest.add parent child with
  | error fault => exact refl widget forest
  | ok changed => exact insert isForest within lower (insert_of_add added)

end ChangesBelow

/-! Edits elsewhere. -/

structure SameTree (widget : WidgetId) (before after : Forest) : Prop where
  parent : ∀ other, before.SharesTree widget other → after.parent? other = before.parent? other
  children : ∀ other, before.SharesTree widget other → after.children other = before.children other

namespace SameTree

variable {widget : WidgetId} {before middle after : Forest}

theorem refl (widget : WidgetId) (forest : Forest) : SameTree widget forest forest :=
  ⟨fun _ _ => rfl, fun _ _ => rfl⟩

theorem isAbove_iff (same : SameTree widget before after) (isForest : before.IsForest)
    {other upper : WidgetId} (shares : before.SharesTree widget other) :
    IsAbove after.parent? upper other ↔ IsAbove before.parent? upper other := by
  have climb := isForest.climbs_ancestors other
  have later := climb.of_same_parents
    (fun _ _ lower linked => lower.of_covers (Or.inr (IsAbove.of_parent linked))) same.parent shares
  rw [← climb.mem_iff, ← later.mem_iff]

theorem sharesTree (same : SameTree widget before after) (isForest : before.IsForest)
    {other : WidgetId} (shares : before.SharesTree widget other) :
    after.SharesTree widget other := by
  have self : before.SharesTree widget widget :=
    ⟨widget, before.covers_refl widget, before.covers_refl widget⟩
  obtain ⟨top, one, two⟩ := shares
  have both : before.SharesTree widget other := ⟨top, one, two⟩
  refine ⟨top, one.imp_right ?_, two.imp_right ?_⟩
  · exact (same.isAbove_iff isForest self).mpr
  · exact (same.isAbove_iff isForest both).mpr

theorem trans (first : SameTree widget before middle) (isForest : before.IsForest)
    (second : SameTree widget middle after) : SameTree widget before after where
  parent other shares :=
    (second.parent other (first.sharesTree isForest shares)).trans (first.parent other shares)
  children other shares :=
    (second.children other (first.sharesTree isForest shares)).trans (first.children other shares)

theorem of_sharesTree (same : SameTree widget before after) {other : WidgetId}
    (shares : before.SharesTree widget other) : SameTree other before after :=
  ⟨fun met inTree => same.parent met (shares.trans inTree),
    fun met inTree => same.children met (shares.trans inTree)⟩

end SameTree

/-- A new widget hangs in no tree but its own. -/
theorem IsForest.eq_of_isBeside_create {forest : Forest} (isForest : forest.IsForest) {kind : Kind}
    {widget : WidgetId}
    (beside : (forest.create kind).2.IsBeside widget (forest.create kind).1) :
    widget = (forest.create kind).1 := by
  obtain ⟨top, atWidget, atNew⟩ := beside.sharesTree
  have isRoot : (forest.create kind).2.parent? (forest.create kind).1 = none := by
    rw [parent?, get?_create, if_pos rfl]
    rfl
  rcases atNew with rfl | above
  · rcases atWidget with same | above
    · exact same.symm
    · have parents : ∀ lower upper, (forest.create kind).2.parent? lower = some upper →
          forest.parent? lower = some upper := by
        intro lower upper linked
        rwa [← parent?_create forest kind lower]
      have live := isForest.contains_above (above.mono parents)
      rw [contains, get?_create_fst] at live
      cases live
  · exact absurd above (IsAbove.not_of_root isRoot)

/-! A widget with all that is below it. -/

/-- What is below a listed widget is listed. -/
theorem Lists.mem_of_covers {forest : Forest} (isForest : forest.IsForest)
    {widgets listed : List WidgetId} (lists : forest.Lists widgets listed) {upper lower : WidgetId}
    (member : upper ∈ listed) (covers : forest.Covers upper lower) : lower ∈ listed := by
  rw [lists.mem_iff isForest] at member ⊢
  obtain ⟨widget, isWidget, above⟩ := member
  exact ⟨widget, isWidget, above.trans covers⟩

namespace IsForest

variable {forest : Forest} (isForest : forest.IsForest)
include isForest

theorem lists_subtree (scope : WidgetId) :
    forest.Lists [scope] (scope :: forest.descendants scope) := by
  have single := Lists.cons (isForest.lists_descendants scope) Lists.nil
  rwa [List.append_nil] at single

theorem mem_subtree_iff {scope widget : WidgetId} :
    widget ∈ scope :: forest.descendants scope ↔ forest.Covers scope widget := by
  rw [(isForest.lists_subtree scope).mem_iff isForest]
  simp only [List.mem_singleton, exists_eq_left]

theorem nodup_subtree (scope : WidgetId) : (scope :: forest.descendants scope).Nodup :=
  isForest.nodup_of_lists (isForest.lists_subtree scope) (List.pairwise_singleton _ scope)

/-- A widget comes after everything that covers it. -/
theorem pairwise_of_lists {widgets listed : List WidgetId} (lists : forest.Lists widgets listed)
    (unique : listed.Nodup) :
    listed.Pairwise (fun earlier later => ¬ forest.Covers later earlier) := by
  induction lists with
  | nil => exact List.Pairwise.nil
  | @cons widget below rest others lower right ihBelow ihOthers =>
      rw [List.cons_append, List.nodup_cons, List.nodup_append] at unique
      obtain ⟨fresh, belowUnique, othersUnique, apart⟩ := unique
      rw [List.cons_append, List.pairwise_cons, List.pairwise_append]
      refine ⟨?_, ihBelow belowUnique, ihOthers othersUnique, ?_⟩
      · intro later member covers
        rcases List.mem_append.mp member with inBelow | inOthers
        · exact fresh (List.mem_append_left _ (lower.mem_of_covers isForest inBelow covers))
        · exact fresh (List.mem_append_right _ (right.mem_of_covers isForest inOthers covers))
      · exact fun earlier inBelow later inOthers covers =>
          apart earlier inBelow earlier (right.mem_of_covers isForest inOthers covers) rfl

/-- What is at and below a widget of a subtree is a stretch of its pre-order, and nothing that comes
after it covers any of it. -/
theorem exists_around {root inner : WidgetId} (inTree : forest.Covers root inner) :
    ∃ front back, root :: forest.descendants root =
        front ++ (inner :: forest.descendants inner) ++ back ∧
      ∀ later ∈ back, ∀ widget, forest.Covers later widget → ¬ forest.Covers inner widget := by
  have lists := isForest.lists_subtree root
  have unique := isForest.nodup_subtree root
  have ordered := isForest.pairwise_of_lists lists unique
  rw [lists_iff_enumerates] at lists
  obtain ⟨front, below, back, parts, lower, -⟩ :=
    lists.graft unique (isForest.mem_subtree_iff.mpr inTree) (fun _ _ _ => rfl)
  rw [← lists_iff_enumerates] at lower
  obtain rfl := lower.unique (isForest.lists_descendants inner)
  refine ⟨front, back, parts, ?_⟩
  intro later isLater widget covers innerCovers
  rw [parts] at unique ordered
  rcases covers.comparable innerCovers with above | above
  · exact (List.pairwise_append.mp ordered).2.2 inner (by simp) later isLater above
  · have inside := isForest.mem_subtree_iff.mpr above
    exact (List.nodup_append.mp unique).2.2 later (List.mem_append_right _ inside) later isLater rfl

end IsForest

end StyledTree.Forest
