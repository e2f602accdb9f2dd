import StyledTree.Proofs.Scene.Ending
import StyledTree.Proofs.Selector.Trails

set_option autoImplicit false

namespace StyledTree

/-- Whether a selector selects a node depends on the node and its ancestors alone. -/
theorem Selector.selects_congr {α : Type} {host other : Host α} {kept : α → Prop}
    (upward : ∀ node, kept node → ∀ upper ∈ host.ancestors node, kept upper)
    (ancestors : ∀ node, kept node → other.ancestors node = host.ancestors node)
    (accepts : ∀ (clause : Clause) node, kept node →
      clause.accepts other node = clause.accepts host node)
    (selector : Selector) {node : α} (isKept : kept node) :
    selector.selects other node = selector.selects host node := by
  have context : ∀ (steps : List (Combinator × Clause)) node, kept node →
      contextHolds other steps node = contextHolds host steps node := by
    intro steps
    induction steps with
    | nil => exact fun _ _ => rfl
    | cons step rest ih =>
        rintro node isKept
        have sees : ∀ upper ∈ host.ancestors node, ∀ clause : Clause,
            (clause.accepts other upper && contextHolds other rest upper) =
              (clause.accepts host upper && contextHolds host rest upper) := by
          intro upper isUpper clause
          have upperKept := upward node isKept upper isUpper
          rw [accepts clause upper upperKept, ih upper upperKept]
        obtain ⟨combinator, clause⟩ := step
        cases combinator with
        | child =>
            rw [contextHolds, contextHolds, ← other.head?_ancestors, ← host.head?_ancestors,
              ancestors node isKept]
            cases found : (host.ancestors node).head? with
            | none => rfl
            | some parent => exact sees parent (List.mem_of_mem_head? found) clause
        | descendant =>
            rw [contextHolds_descendant, contextHolds_descendant, ancestors node isKept,
              Bool.eq_iff_iff, List.any_eq_true, List.any_eq_true]
            refine exists_congr (fun upper => and_congr_right (fun isUpper => ?_))
            rw [selects, selects, sees upper isUpper clause]
  rw [selects, selects, accepts selector.subject node isKept, context selector.context node isKept]

namespace Forest

structure SameMarks (widget : WidgetId) (before after : Forest) : Prop where
  kind : ∀ other, before.SharesTree widget other → after.kind? other = before.kind? other
  name : ∀ other, before.SharesTree widget other →
    (after.get? other).bind Node.name = (before.get? other).bind Node.name
  classes : ∀ other, before.SharesTree widget other →
    (after.get? other).map Node.classes = (before.get? other).map Node.classes

namespace SameMarks

variable {widget : WidgetId} {before middle after : Forest}

theorem refl (widget : WidgetId) (forest : Forest) : SameMarks widget forest forest :=
  ⟨fun _ _ => rfl, fun _ _ => rfl, fun _ _ => rfl⟩

theorem of_sharesTree (same : SameMarks widget before after) {other : WidgetId}
    (shares : before.SharesTree widget other) : SameMarks other before after :=
  ⟨fun met inTree => same.kind met (shares.trans inTree),
    fun met inTree => same.name met (shares.trans inTree),
    fun met inTree => same.classes met (shares.trans inTree)⟩

theorem trans (first : SameMarks widget before middle)
    (shares : ∀ other, before.SharesTree widget other → middle.SharesTree widget other)
    (second : SameMarks widget middle after) : SameMarks widget before after where
  kind other inTree := (second.kind other (shares other inTree)).trans (first.kind other inTree)
  name other inTree := (second.name other (shares other inTree)).trans (first.name other inTree)
  classes other inTree :=
    (second.classes other (shares other inTree)).trans (first.classes other inTree)

/-- A clause accepts the same widgets of the tree. -/
theorem accepts_eq (same : SameMarks widget before after) (clause : Clause) {other : WidgetId}
    (inTree : before.SharesTree widget other) :
    clause.accepts after.host other = clause.accepts before.host other := by
  have kind := same.kind other inTree
  have name := same.name other inTree
  have classes := same.classes other inTree
  have lists : ∀ forest : Forest, forest.host.hasClassList other =
      (forest.kind? other).any Kind.hasClassList := by
    intro forest
    simp only [host, kind?, Option.any_map]
  have holds : ∀ (forest : Forest) wanted, forest.host.hasClass other wanted =
      ((forest.kind? other).any Kind.hasClassList &&
        ((forest.get? other).map Node.classes).any (fun classes => classes.contains wanted)) := by
    intro forest wanted
    simp only [host, kind?]
    cases forest.get? other <;> rfl
  have named : ∀ (forest : Forest) wanted,
      forest.host.hasName other wanted = ((forest.get? other).bind Node.name == some wanted) :=
    fun _ _ => rfl
  have names : after.host.hasName other = before.host.hasName other := by
    funext wanted
    rw [named, named, name]
  have contained : after.host.hasClass other = before.host.hasClass other := by
    funext wanted
    rw [holds, holds, kind, classes]
  rw [Clause.accepts, Clause.accepts, names, contained, lists, lists, kind]

end SameMarks

/-- The ancestors in a tree whose links are as they were. -/
theorem SameTree.ancestors_eq {widget other : WidgetId} {before after : Forest}
    (same : SameTree widget before after) (isForest : before.IsForest) (later : after.IsForest)
    (inTree : before.SharesTree widget other) : after.ancestors other = before.ancestors other := by
  have climb := isForest.climbs_ancestors other
  have kept := climb.of_same_parents
    (fun _ _ lower linked => lower.of_covers (Or.inr (IsAbove.of_parent linked))) same.parent inTree
  exact (later.climbs_ancestors other).unique kept

end Forest

namespace Scene

variable {ε : Type} {root : WidgetId} {start scene after : Scene ε}

structure Freezes (widget : WidgetId) (before after : Scene ε) : Prop where
  leaves : Leaves widget before after
  marks : Forest.SameMarks widget before.forest after.forest

/-- The mutation ends on every widget and changes no links, kinds, names or classes in its tree. -/
def Steady (handlers : Handlers ε) (mutation : HandlerId) : Prop :=
  ∀ widget before, before.forest.IsForest → before.HoldsTree widget →
    ∃ after, handlers.run mutation widget before = some after ∧ Freezes widget before after

namespace Freezes

theorem refl (isForest : start.forest.IsForest) (holds : start.HoldsTree root) :
    Freezes root start start :=
  ⟨⟨Forest.SameTree.refl root start.forest, isForest, holds, fun _ _ found => found⟩,
    Forest.SameMarks.refl root start.forest⟩

/-- What freezes the tree of a widget below the root freezes the tree of the root. -/
theorem trans (freezes : Freezes root start scene) (isForest : start.forest.IsForest)
    {widget : WidgetId} (inTree : start.forest.Covers root widget)
    (further : Freezes widget scene after) : Freezes root start after := by
  have shares := freezes.leaves.sharesTree isForest inTree
  refine ⟨freezes.leaves.trans isForest inTree further.leaves, ?_⟩
  refine freezes.marks.trans ?_ (further.marks.of_sharesTree shares.symm)
  exact fun other => freezes.leaves.tree.sharesTree isForest

/-- The tree is kept, seen from any widget below the root. -/
theorem holdsTree (freezes : Freezes root start scene) (isForest : start.forest.IsForest)
    {widget : WidgetId} (inTree : start.forest.Covers root widget) : scene.HoldsTree widget :=
  freezes.leaves.holds.of_sharesTree freezes.leaves.isForest
    (freezes.leaves.sharesTree isForest inTree)

theorem kind? (freezes : Freezes root start scene) {widget : WidgetId}
    (inTree : start.forest.Covers root widget) :
    scene.forest.kind? widget = start.forest.kind? widget :=
  freezes.marks.kind widget inTree.sharesTree

theorem children (freezes : Freezes root start scene) {widget : WidgetId}
    (inTree : start.forest.Covers root widget) :
    scene.forest.children widget = start.forest.children widget :=
  freezes.leaves.tree.children widget inTree.sharesTree

/-- A style accepts the same widgets of the tree. -/
theorem accepts (freezes : Freezes root start scene) (isForest : start.forest.IsForest)
    (style : Style) {widget : WidgetId} (inTree : start.forest.Covers root widget) :
    scene.accepts style widget = start.accepts style widget := by
  have selects : style.selector.selects scene.forest.host widget =
      style.selector.selects start.forest.host widget := by
    refine Selector.selects_congr ?_ ?_ ?_ style.selector inTree.sharesTree
    · intro node shares upper isUpper
      rw [isForest.ancestors_host] at isUpper
      exact shares.of_covers (Or.inr (isForest.mem_ancestors_iff.mp isUpper))
    · intro node shares
      rw [isForest.ancestors_host, freezes.leaves.isForest.ancestors_host]
      exact freezes.leaves.tree.ancestors_eq isForest freezes.leaves.isForest shares
    · exact fun clause _ shares => freezes.marks.accepts_eq clause shares
  rw [Scene.accepts, Scene.accepts, freezes.kind? inTree, selects]

end Freezes

end Scene

end StyledTree
