import StyledTree.Proofs.Forest.Editing

set_option autoImplicit false

namespace StyledTree.Forest

/-- The widget hangs at or below one that was given up, and no handle is on it or above it. -/
def Abandoned (forest : Forest) (handles : List WidgetId) (givenUp : WidgetId → Prop)
    (widget : WidgetId) : Prop :=
  (∃ child, givenUp child ∧ forest.Covers child widget) ∧
    ∀ holder ∈ handles, ¬ forest.Covers holder widget

/-- Some widgets are gone, and with them all links to them. Nothing else changed: those that stay have
their children, their constraints and whatever else was recorded of them. -/
structure Drops (gone : WidgetId → Prop) (before after : Forest) : Prop where
  contains_iff : ∀ widget,
    after.contains widget = true ↔ before.contains widget = true ∧ ¬ gone widget
  node : ∀ {widget was now}, before.get? widget = some was → after.get? widget = some now →
    now = { was with parent := now.parent, pending := now.pending }
  parent_iff : ∀ {widget parent}, after.parent? widget = some parent ↔
    before.parent? widget = some parent ∧ ¬ gone widget ∧ ¬ gone parent
  pending_of : ∀ {widget container}, after.pending? widget = some container →
    before.pending? widget = some container ∧ ¬ gone container
  pending : ∀ {widget container}, before.pending? widget = some container →
    before.contains container = true → ¬ gone widget → ¬ gone container →
      after.pending? widget = some container

/-- Going up from a widget ends at one that hangs nowhere. -/
theorem IsForest.exists_root {forest : Forest} (isForest : forest.IsForest) (widget : WidgetId) :
    ∃ top, forest.Covers top widget ∧ forest.parent? top = none := by
  have climb := isForest.climbs_ancestors widget
  generalize forest.ancestors widget = above at climb
  induction climb with
  | @root widget isRoot => exact ⟨widget, forest.covers_refl widget, isRoot⟩
  | step linked _ ih =>
      obtain ⟨top, covers, isRoot⟩ := ih
      exact ⟨top, Or.inr (covers.isAbove_child linked), isRoot⟩

/-- Nothing but itself covers a widget that hangs nowhere. -/
theorem Covers.eq_of_root {forest : Forest} {upper lower : WidgetId}
    (covers : forest.Covers upper lower) (isRoot : forest.parent? lower = none) : upper = lower :=
  covers.resolve_right (IsAbove.not_of_root isRoot)

/-- Dropping what is not kept comes to this if what is kept keeps its children. -/
theorem IsForest.drops_retain {forest : Forest} (isForest : forest.IsForest)
    {keep : WidgetId → Bool} {gone : WidgetId → Prop}
    (keep_iff : ∀ {widget}, forest.contains widget = true → (keep widget = true ↔ ¬ gone widget))
    (live : ∀ {widget}, gone widget → forest.contains widget = true)
    (below : ∀ {child parent}, forest.parent? child = some parent → ¬ gone parent → ¬ gone child) :
    Drops gone forest (forest.retain keep) := by
  constructor
  case contains_iff =>
    intro widget
    rw [contains_eq_isSome_kind?, kind?_retain, contains_eq_isSome_kind?]
    constructor
    · intro there
      split at there
      · next kept =>
        rw [← contains_eq_isSome_kind?] at there ⊢
        exact ⟨there, (keep_iff there).mp kept⟩
      · cases there
    · rintro ⟨there, stays⟩
      rw [← contains_eq_isSome_kind?] at there
      rw [if_pos ((keep_iff there).mpr stays), ← contains_eq_isSome_kind?]
      exact there
  case node =>
    intro widget was now found there
    have isThere : forest.contains widget = true := Option.isSome_iff_exists.mpr ⟨was, found⟩
    rw [get?_retain, found] at there
    split at there
    · next kept =>
      have sameChildren : was.children.filter keep = was.children := by
        rw [List.filter_eq_self]
        intro child member
        have linked : forest.parent? child = some widget := by
          rw [← isForest.mem_children_iff, children, found]
          exact member
        have stays := below linked ((keep_iff isThere).mp kept)
        exact (keep_iff (contains_of_parent? linked)).mpr stays
      rw [Option.map_some, sameChildren, Option.some.injEq] at there
      rw [← there]
    · cases there
  case parent_iff =>
    intro widget parent
    rw [parent?_retain]
    constructor
    · intro linked
      split at linked
      · next kept =>
        obtain ⟨was, keptParent⟩ := Option.filter_eq_some_iff.mp linked
        exact ⟨was, (keep_iff (contains_of_parent? was)).mp kept,
          (keep_iff (isForest.contains_parent was)).mp keptParent⟩
      · cases linked
    · rintro ⟨was, stays, parentStays⟩
      rw [if_pos ((keep_iff (contains_of_parent? was)).mpr stays), Option.filter_eq_some_iff]
      exact ⟨was, (keep_iff (isForest.contains_parent was)).mpr parentStays⟩
  case pending_of =>
    intro widget container waits
    rw [pending?, get?_retain] at waits
    split at waits
    · rw [Option.bind_map] at waits
      obtain ⟨node, found, filtered⟩ := Option.bind_eq_some_iff.mp waits
      obtain ⟨was, kept⟩ := Option.filter_eq_some_iff.mp filtered
      refine ⟨?_, fun isGone => (keep_iff (live isGone)).mp kept isGone⟩
      rw [pending?, found]
      exact was
    · cases waits
  case pending =>
    intro widget container waits isThere stays containerStays
    obtain ⟨node, found, was⟩ := Option.bind_eq_some_iff.mp waits
    have widgetThere : forest.contains widget = true := Option.isSome_iff_exists.mpr ⟨node, found⟩
    rw [pending?, get?_retain, if_pos ((keep_iff widgetThere).mpr stays), found]
    exact Option.filter_eq_some_iff.mpr ⟨was, (keep_iff isThere).mpr containerStays⟩

namespace Drops

theorem refl {gone : WidgetId → Prop} (none : ∀ widget, ¬ gone widget) (forest : Forest) :
    Drops gone forest forest where
  contains_iff widget := ⟨fun live => ⟨live, none widget⟩, And.left⟩
  node found there := by
    obtain rfl := Option.some.inj (found.symm.trans there)
    rfl
  parent_iff := ⟨fun linked => ⟨linked, none _, none _⟩, And.left⟩
  pending_of waits := ⟨waits, none _⟩
  pending waits _ _ _ := waits

section Reading

variable {gone : WidgetId → Prop} {before after : Forest} (drops : Drops gone before after)
include drops

theorem exists_node {widget : WidgetId} (stays : ¬ gone widget) {was : Node}
    (found : before.get? widget = some was) :
    ∃ parent pending, after.get? widget = some { was with parent := parent, pending := pending } := by
  have live : before.contains widget = true := Option.isSome_iff_exists.mpr ⟨was, found⟩
  obtain ⟨now, there⟩ :=
    Option.isSome_iff_exists.mp ((drops.contains_iff widget).mpr ⟨live, stays⟩)
  exact ⟨now.parent, now.pending, there.trans (congrArg some (drops.node found there))⟩

/-- What is read neither from the parent nor from the pending container is as it was. -/
theorem map_eq {α : Type} (read : Node → α)
    (same : ∀ node parent pending, read { node with parent := parent, pending := pending } = read node)
    {widget : WidgetId} (stays : ¬ gone widget) :
    (after.get? widget).map read = (before.get? widget).map read := by
  cases found : before.get? widget with
  | none =>
      have absent : after.get? widget = none := by
        rw [← Option.not_isSome_iff_eq_none]
        intro live
        have was := ((drops.contains_iff widget).mp live).1
        rw [contains, found] at was
        cases was
      rw [absent]
  | some was =>
      obtain ⟨parent, pending, there⟩ := drops.exists_node stays found
      rw [there, Option.map_some, same, Option.map_some]

theorem children_eq {widget : WidgetId} (stays : ¬ gone widget) :
    after.children widget = before.children widget := by
  rw [children, drops.map_eq Node.children (fun _ _ _ => rfl) stays, children]

theorem constraint?_eq {widget : WidgetId} (stays : ¬ gone widget) :
    after.constraint? widget = before.constraint? widget := by
  have same := congrArg (Option.bind · id) (drops.map_eq Node.constraint (fun _ _ _ => rfl) stays)
  rwa [Option.bind_map, Option.bind_map] at same

theorem pending?_eq_none {widget : WidgetId} (settled : before.pending? widget = none) :
    after.pending? widget = none := by
  cases waits : after.pending? widget with
  | none => rfl
  | some container =>
      rw [(drops.pending_of waits).1] at settled
      cases settled

end Reading

end Drops

end StyledTree.Forest
