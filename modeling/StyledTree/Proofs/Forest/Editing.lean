import StyledTree.Proofs.Forest.Lasting
import StyledTree.Proofs.Forest.Surroundings

set_option autoImplicit false

namespace StyledTree.Forest

inductive EditsAt (container : WidgetId) (before : Forest) : Forest → Prop where
  | keep : EditsAt container before before
  | remove (child : WidgetId) : EditsAt container before (before.remove container child).2
  | removeAll : EditsAt container before (before.removeAll container)
  | insert {child : WidgetId} {constraint : Option Constraint} {after : Forest}
    (inserted : before.insert container child constraint = .ok after) :
    EditsAt container before after
  /-- An occupant had to make room for the child. -/
  | exchange (occupant : WidgetId) {child : WidgetId} {constraint : Option Constraint}
    {after : Forest}
    (inserted : (before.remove container occupant).2.insert container child constraint = .ok after) :
    EditsAt container before after

section Calls

variable (forest : Forest)

theorem editsAt_ofInsertion {container child : WidgetId} {constraint : Option Constraint}
    {inserted : Except Fault Forest}
    (isInsertion : ∀ after, inserted = .ok after →
      forest.insert container child constraint = .ok after) :
    EditsAt container forest (Edit.ofInsertion forest inserted).2 := by
  cases inserted with
  | error fault => exact EditsAt.keep
  | ok after => exact EditsAt.insert (isInsertion after rfl)

theorem editsAt_add (container child : WidgetId) :
    EditsAt container forest (Edit.ofInsertion forest (forest.add container child)).2 :=
  forest.editsAt_ofInsertion (fun _ => insert_of_add)

theorem editsAt_addWith (container child : WidgetId) (constraint : Constraint) :
    EditsAt container forest
      (Edit.ofInsertion forest (forest.addWith container child constraint)).2 :=
  forest.editsAt_ofInsertion (fun _ inserted => inserted)

theorem editsAt_vacate (container : WidgetId) (place : Constraint) (spared : Option WidgetId) :
    EditsAt container forest (forest.vacate container place spared) := by
  rw [vacate]
  split
  · exact EditsAt.keep
  · next occupant _ =>
    split
    · exact EditsAt.keep
    · exact EditsAt.remove occupant

theorem editsAt_vacate_addWith (container child : WidgetId) (place : Constraint)
    (spared : Option WidgetId) :
    EditsAt container forest
      (Edit.ofInsertion (forest.vacate container place spared)
        ((forest.vacate container place spared).addWith container child place)).2 := by
  cases inserted : (forest.vacate container place spared).addWith container child place with
  | error fault => exact forest.editsAt_vacate container place spared
  | ok after =>
      rw [addWith, vacate] at inserted
      split at inserted
      · exact EditsAt.insert inserted
      · next occupant _ =>
        split at inserted
        · exact EditsAt.insert inserted
        · exact EditsAt.exchange occupant inserted

theorem editsAt_settle (widget : WidgetId) (place : Constraint) :
    EditsAt ((forest.pending? widget).getD widget) forest (forest.settle widget place).2 := by
  rw [settle]
  cases forest.pending? widget with
  | none => exact EditsAt.keep
  | some container => exact forest.editsAt_vacate_addWith container widget place (some widget)

theorem editsAt_setPlace (pane : WidgetId) (place : Constraint) (widget : Option WidgetId) :
    EditsAt pane forest (forest.setPlace pane place widget).2 := by
  cases widget with
  | none => exact forest.editsAt_vacate pane place none
  | some widget => exact forest.editsAt_vacate_addWith pane widget place none

theorem editsAt_setView (pane : WidgetId) (widget : Option WidgetId) :
    EditsAt pane forest (forest.setView pane widget).2 := by
  cases widget with
  | none => exact EditsAt.removeAll
  | some widget => exact forest.editsAt_add pane widget

end Calls

namespace EditsAt

variable {container : WidgetId} {before after : Forest} (edits : EditsAt container before after)
include edits

theorem isForest (isForest : before.IsForest) : after.IsForest := by
  cases edits with
  | keep => exact isForest
  | remove child => exact isForest.remove container child
  | removeAll => exact isForest.removeAll container
  | insert inserted => exact isForest.insert inserted
  | exchange occupant inserted => exact (isForest.remove container occupant).insert inserted

theorem related {related : Forest → Forest → Prop} (closed : ClosedUnderEdits related) :
    related before after := by
  cases edits with
  | keep => exact closed.refl before
  | remove child => exact closed.remove before container child
  | removeAll => exact closed.removeAll before container
  | insert inserted => exact closed.insert inserted
  | exchange occupant inserted =>
      exact closed.trans (closed.remove before container occupant) (closed.insert inserted)

end EditsAt

/-- No widget was made or dropped, the way up from the container is as it was, and nobody but the
container has given up a child. -/
structure EditedAt (container : WidgetId) (before after : Forest) : Prop where
  contains_eq : ∀ widget, after.contains widget = before.contains widget
  above : ∀ upper, before.Covers upper container → after.parent? upper = before.parent? upper
  givesUp : ∀ {child parent}, before.parent? child = some parent → after.parent? child = none →
    parent = container

namespace IsForest

variable {forest : Forest} (isForest : forest.IsForest)
include isForest

/-- The container is not below its own children. -/
theorem not_covers_parent {child parent : WidgetId} (linked : forest.parent? child = some parent) :
    ¬ forest.Covers child parent :=
  fun covers => isForest.acyclic child (covers.isAbove_child linked)

theorem editedAt_remove (container child : WidgetId) :
    EditedAt container forest (forest.remove container child).2 := by
  by_cases member : child ∈ forest.children container
  · have linked := (isForest.mem_children_iff container child).mp member
    constructor
    · intro widget
      rw [contains_eq_isSome_kind?, kind?_remove, ← contains_eq_isSome_kind?]
    · intro upper covers
      rw [parent?_remove forest member, if_neg]
      rintro rfl
      exact isForest.not_covers_parent linked covers
    · intro other parent was now
      rw [parent?_remove forest member] at now
      split at now
      · next same => exact Option.some.inj (was.symm.trans (same ▸ linked))
      · rw [was] at now
        cases now
  · rw [remove_of_not_mem forest member]
    refine ⟨fun _ => rfl, fun _ _ => rfl, fun was now => ?_⟩
    rw [was] at now
    cases now

theorem editedAt_removeAll (container : WidgetId) :
    EditedAt container forest (forest.removeAll container) := by
  constructor
  · intro widget
    rw [contains_eq_isSome_kind?, kind?_removeAll, ← contains_eq_isSome_kind?]
  · intro upper covers
    rw [parent?_removeAll, if_neg]
    intro member
    exact isForest.not_covers_parent ((isForest.mem_children_iff container upper).mp member) covers
  · intro child parent was now
    rw [parent?_removeAll] at now
    split at now
    · next member =>
      exact Option.some.inj (was.symm.trans ((isForest.mem_children_iff container child).mp member))
    · rw [was] at now
      cases now

/-- Making room for a child leaves all others where they are, but for the view of a scroll pane. -/
theorem parent?_clearedFor_of_ne {parent child widget : WidgetId} (differ : widget ≠ child) :
    (forest.clearedFor parent child).parent? widget =
      if forest.kind? parent = some .scrollPane ∧ forest.parent? widget = some parent then none
      else forest.parent? widget := by
  have detached : (forest.detach child).2.parent? widget = forest.parent? widget := by
    rw [isForest.parent?_detach, if_neg differ]
  rw [Forest.clearedFor]
  by_cases scrolls : forest.kind? parent = some .scrollPane
  · simp only [scrolls, if_true, true_and]
    rw [parent?_removeAll]
    simp only [(isForest.detach child).mem_children_iff, detached]
  · simp only [scrolls, if_false, false_and]
    exact detached

theorem editedAt_insert {container child : WidgetId} {constraint : Option Constraint} {after : Forest}
    (inserted : forest.insert container child constraint = .ok after) :
    EditedAt container forest after := by
  obtain ⟨-, apart, outside, ⟨-, rfl⟩ | ⟨live, rfl⟩⟩ := insert_cases inserted
  · refine ⟨fun _ => rfl, fun _ _ => rfl, fun was now => ?_⟩
    rw [was] at now
    cases now
  · have cleared : (forest.clearedFor container child).contains child = true := by
      rwa [contains_clearedFor]
    have parents := parent?_link (forest.clearedFor container child) container constraint cleared
    constructor
    · intro widget
      rw [contains_eq_isSome_kind?, kind?_link, kind?_clearedFor, ← contains_eq_isSome_kind?]
    · intro upper covers
      have differ : upper ≠ child := by
        rintro rfl
        rcases covers with same | above
        · exact apart same
        · rw [isForest.isBelow_iff.mpr above] at outside
          cases outside
      rw [parents, if_neg differ, isForest.parent?_clearedFor_of_ne differ, if_neg]
      exact fun leaves => isForest.not_covers_parent leaves.2 covers
    · intro other parent was now
      rw [parents] at now
      split at now
      · cases now
      · next differ =>
        rw [isForest.parent?_clearedFor_of_ne differ] at now
        split at now
        · next leaves => exact Option.some.inj (was.symm.trans leaves.2)
        · rw [was] at now
          cases now

end IsForest

namespace EditedAt

variable {container : WidgetId} {before middle after : Forest}

theorem covers_iff (edited : EditedAt container before after) (isForest : before.IsForest)
    {upper : WidgetId} : after.Covers upper container ↔ before.Covers upper container := by
  have climb := isForest.climbs_ancestors container
  have upward : ∀ lower upper, before.Covers lower container → before.parent? lower = some upper →
      before.Covers upper container :=
    fun lower upper covers linked => Covers.trans (Or.inr (IsAbove.of_parent linked)) covers
  have climbAfter := climb.of_same_parents upward edited.above (before.covers_refl container)
  rw [Covers, Covers, ← climb.mem_iff, ← climbAfter.mem_iff]

/-- An edit may follow one that has only taken links away. -/
theorem andThen (first : EditedAt container before middle) (isForest : before.IsForest)
    (fewer : ∀ {child parent}, middle.parent? child = some parent →
      before.parent? child = some parent)
    (second : EditedAt container middle after) : EditedAt container before after where
  contains_eq widget := (second.contains_eq widget).trans (first.contains_eq widget)
  above upper covers :=
    (second.above upper ((first.covers_iff isForest).mpr covers)).trans (first.above upper covers)
  givesUp {child parent} was now := by
    cases between : middle.parent? child with
    | none => exact first.givesUp was between
    | some other =>
        obtain rfl := Option.some.inj (was.symm.trans (fewer between))
        exact second.givesUp between now

end EditedAt

theorem EditsAt.editedAt {container : WidgetId} {before after : Forest}
    (edits : EditsAt container before after) (isForest : before.IsForest) :
    EditedAt container before after := by
  cases edits with
  | keep =>
      refine ⟨fun _ => rfl, fun _ _ => rfl, fun was now => ?_⟩
      rw [was] at now
      cases now
  | remove child => exact isForest.editedAt_remove container child
  | removeAll => exact isForest.editedAt_removeAll container
  | insert inserted => exact isForest.editedAt_insert inserted
  | exchange occupant inserted =>
      have removed := isForest.editedAt_remove container occupant
      refine removed.andThen isForest ?_
        ((isForest.remove container occupant).editedAt_insert inserted)
      intro child parent linked
      by_cases member : occupant ∈ before.children container
      · rw [parent?_remove before member] at linked
        split at linked
        · cases linked
        · exact linked
      · rwa [remove_of_not_mem before member] at linked

theorem mem_lost_iff {before after : Forest} {container child : WidgetId} :
    child ∈ before.lost after container ↔
      child ∈ before.children container ∧ child ∉ after.children container := by
  rw [lost, List.mem_filter, Bool.not_eq_true', ← Bool.not_eq_true, List.contains_iff_mem]

namespace EditedAt

variable {container : WidgetId} {before after : Forest} (edited : EditedAt container before after)
  (isForest : before.IsForest)
include edited isForest

/-- Who hangs nowhere after an edit hung nowhere before, or was given up by the container. -/
theorem root_or_lost (afterForest : after.IsForest) {widget : WidgetId}
    (isRoot : after.parent? widget = none) :
    before.parent? widget = none ∨ widget ∈ before.lost after container := by
  cases was : before.parent? widget with
  | none => exact Or.inl rfl
  | some parent =>
      obtain rfl := edited.givesUp was isRoot
      refine Or.inr (mem_lost_iff.mpr ⟨(isForest.mem_children_iff parent widget).mpr was, ?_⟩)
      rw [afterForest.mem_children_iff, isRoot]
      exact (Option.some_ne_none parent).symm

theorem not_covers_of_lost {child : WidgetId} (lost : child ∈ before.lost after container) :
    ¬ after.Covers child container := by
  rw [edited.covers_iff isForest]
  exact isForest.not_covers_parent
    ((isForest.mem_children_iff container child).mp (mem_lost_iff.mp lost).1)

end EditedAt

end StyledTree.Forest
