import Mathlib.Data.List.Nodup
import StyledTree.Forest.Basic
import StyledTree.Proofs.Ancestry

set_option autoImplicit false

namespace StyledTree.Forest

/-- The two directions of the links agree, each widget is linked once and nobody is above itself. -/
structure IsForest (forest : Forest) : Prop where
  mem_children_iff : ∀ parent child,
    child ∈ forest.children parent ↔ forest.parent? child = some parent
  nodup_children : ∀ parent, (forest.children parent).Nodup
  acyclic : ∀ widget, ¬ IsAbove forest.parent? widget widget
  /-- Only containers have children. -/
  isContainer : ∀ parent child, child ∈ forest.children parent → forest.isContainer parent = true
  /-- A scroll pane shows one view at most. -/
  scrollPane : ∀ pane, forest.kind? pane = some .scrollPane → (forest.children pane).length ≤ 1

theorem contains_of_mem_children {forest : Forest} {parent child : WidgetId}
    (member : child ∈ forest.children parent) : forest.contains parent = true := by
  cases found : forest.get? parent with
  | none => simp [children, found] at member
  | some node => simp [contains, found]

theorem contains_of_parent? {forest : Forest} {child parent : WidgetId}
    (linked : forest.parent? child = some parent) : forest.contains child = true := by
  cases found : forest.get? child with
  | none => simp [parent?, found] at linked
  | some node => simp [contains, found]

theorem contains_of_isAbove {forest : Forest} {upper lower : WidgetId}
    (above : IsAbove forest.parent? upper lower) : forest.contains lower = true := by
  obtain ⟨_, linked, _⟩ := Relation.TransGen.head'_iff.mp above
  exact contains_of_parent? linked

theorem index_lt_of_contains {forest : Forest} {widget : WidgetId}
    (live : forest.contains widget = true) : widget.index < forest.nodes.size := by
  by_contra outside
  have missing : forest.nodes[widget.index]? = none := Array.getElem?_eq_none (by omega)
  simp [contains, get?, missing] at live

/-- Distinct live widgets are no more than the places of the store. -/
theorem length_le_of_nodup {forest : Forest} {widgets : List WidgetId} (unique : widgets.Nodup)
    (live : ∀ widget ∈ widgets, forest.contains widget = true) :
    widgets.length ≤ forest.nodes.size := by
  have injective : Function.Injective WidgetId.index := by
    intro first second same
    cases first
    cases second
    exact congrArg WidgetId.mk same
  have covered : widgets.map WidgetId.index ⊆ List.range forest.nodes.size := by
    intro index member
    obtain ⟨widget, listed, rfl⟩ := List.mem_map.mp member
    exact List.mem_range.mpr (index_lt_of_contains (live widget listed))
  have bound := (unique.map injective).length_le_of_subset covered
  simpa using bound

theorem length_climb_le (forest : Forest) (count : Nat) (widget : WidgetId) :
    (forest.climb count widget).length ≤ count := by
  induction count generalizing widget with
  | zero => exact Nat.le_refl 0
  | succ count ih =>
      rw [climb]
      cases forest.parent? widget with
      | none => exact Nat.zero_le _
      | some parent => exact Nat.succ_le_succ (ih parent)

theorem climb_of_root (forest : Forest) (count : Nat) {widget : WidgetId}
    (isRoot : forest.parent? widget = none) : forest.climb count widget = [] := by
  cases count with
  | zero => rfl
  | succ count => simp [climb, isRoot]

/-- A climb that is cut off has all the steps that it was given. -/
theorem climbs_of_length_lt {forest : Forest} {count : Nat} {widget : WidgetId}
    (short : (forest.climb count widget).length < count) :
    Climbs forest.parent? widget (forest.climb count widget) := by
  induction count generalizing widget with
  | zero => simp [climb] at short
  | succ count ih =>
      cases linked : forest.parent? widget with
      | none =>
          rw [climb_of_root forest _ linked]
          exact Climbs.root linked
      | some parent =>
          simp only [climb, linked, List.length_cons] at short ⊢
          exact Climbs.step linked (ih (by omega))

theorem isAbove_of_mem_climb {forest : Forest} {count : Nat} {widget upper : WidgetId}
    (member : upper ∈ forest.climb count widget) : IsAbove forest.parent? upper widget := by
  induction count generalizing widget with
  | zero => simp [climb] at member
  | succ count ih =>
      cases linked : forest.parent? widget with
      | none => simp [climb, linked] at member
      | some parent =>
          simp only [climb, linked, List.mem_cons] at member
          rw [IsAbove.iff_of_parent linked]
          exact member.imp_right ih

namespace IsForest

variable {forest : Forest}

/-- Every widget is in one list of children at most. -/
theorem parent_unique (isForest : forest.IsForest) {first second child : WidgetId}
    (one : child ∈ forest.children first) (other : child ∈ forest.children second) :
    first = second := by
  rw [isForest.mem_children_iff] at one other
  exact Option.some.inj (one.symm.trans other)

theorem contains_parent (isForest : forest.IsForest) {child parent : WidgetId}
    (linked : forest.parent? child = some parent) : forest.contains parent = true :=
  contains_of_mem_children ((isForest.mem_children_iff parent child).mpr linked)

theorem contains_child (isForest : forest.IsForest) {parent child : WidgetId}
    (member : child ∈ forest.children parent) : forest.contains child = true :=
  contains_of_parent? ((isForest.mem_children_iff parent child).mp member)

theorem contains_above (isForest : forest.IsForest) {upper lower : WidgetId}
    (above : IsAbove forest.parent? upper lower) : forest.contains upper = true := by
  induction above with
  | single linked => exact isForest.contains_parent linked
  | tail _ linked _ => exact isForest.contains_parent linked

theorem nodup_climb (isForest : forest.IsForest) (count : Nat) (widget : WidgetId) :
    (widget :: forest.climb count widget).Nodup := by
  induction count generalizing widget with
  | zero => simp [climb]
  | succ count ih =>
      rw [List.nodup_cons]
      constructor
      · intro member
        exact isForest.acyclic widget (isAbove_of_mem_climb member)
      · cases linked : forest.parent? widget with
        | none => simp [climb, linked]
        | some parent => simpa [climb, linked] using ih parent

/-- A widget has fewer ancestors than there are places. -/
theorem length_climb_lt (isForest : forest.IsForest) {widget : WidgetId}
    (live : forest.contains widget = true) (count : Nat) :
    (forest.climb count widget).length < forest.nodes.size := by
  have allLive : ∀ met ∈ widget :: forest.climb count widget, forest.contains met = true := by
    intro met member
    rcases List.mem_cons.mp member with rfl | above
    · exact live
    · exact isForest.contains_above (isAbove_of_mem_climb above)
  have bound := length_le_of_nodup (isForest.nodup_climb count widget) allLive
  simpa [Nat.succ_le_iff] using bound

/-- The walk through the ancestors ends at a root. -/
theorem climbs_ancestors (isForest : forest.IsForest) (widget : WidgetId) :
    Climbs forest.parent? widget (forest.ancestors widget) := by
  cases linked : forest.parent? widget with
  | none =>
      rw [ancestors, climb_of_root forest _ linked]
      exact Climbs.root linked
  | some parent =>
      exact climbs_of_length_lt (isForest.length_climb_lt (contains_of_parent? linked) _)

theorem length_ancestors_lt (isForest : forest.IsForest) {widget : WidgetId}
    (live : forest.contains widget = true) :
    (forest.ancestors widget).length < forest.nodes.size :=
  isForest.length_climb_lt live _

theorem ancestors_of_parent (isForest : forest.IsForest) {child parent : WidgetId}
    (linked : forest.parent? child = some parent) :
    forest.ancestors child = parent :: forest.ancestors parent :=
  (isForest.climbs_ancestors child).unique (Climbs.step linked (isForest.climbs_ancestors parent))

theorem mem_ancestors_iff (isForest : forest.IsForest) {widget upper : WidgetId} :
    upper ∈ forest.ancestors widget ↔ IsAbove forest.parent? upper widget :=
  (isForest.climbs_ancestors widget).mem_iff

/-- Asking whether a widget is below another is answered by the links. -/
theorem isBelow_iff (isForest : forest.IsForest) {widget other : WidgetId} :
    forest.isBelow widget other = true ↔ IsAbove forest.parent? other widget := by
  rw [isBelow, List.contains_iff_mem, isForest.mem_ancestors_iff]

end IsForest

end StyledTree.Forest
