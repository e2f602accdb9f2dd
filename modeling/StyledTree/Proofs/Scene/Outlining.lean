import StyledTree.Proofs.Forest.Surroundings
import StyledTree.Proofs.Scene.Shape

set_option autoImplicit false

namespace StyledTree

namespace Forest

def stepsUpTo (forest : Forest) (upper widget : WidgetId) : Nat :=
  (forest.ancestors widget).idxOf upper + 1

namespace IsForest

variable {forest : Forest}

/-- A child of the upper widget is one step below it. -/
theorem stepsUpTo_child (isForest : forest.IsForest) {upper child : WidgetId}
    (member : child ∈ forest.children upper) : forest.stepsUpTo upper child = 1 := by
  have linked := (isForest.mem_children_iff upper child).mp member
  rw [stepsUpTo, isForest.ancestors_of_parent linked, List.idxOf_cons_self]

/-- A child of a widget below the upper one is one step further down. -/
theorem stepsUpTo_of_child (isForest : forest.IsForest) {upper widget child : WidgetId}
    (above : IsAbove forest.parent? upper widget) (member : child ∈ forest.children widget) :
    forest.stepsUpTo upper child = forest.stepsUpTo upper widget + 1 := by
  have linked := (isForest.mem_children_iff widget child).mp member
  have differ : widget ≠ upper := by
    rintro rfl
    exact isForest.acyclic widget above
  rw [stepsUpTo, isForest.ancestors_of_parent linked, List.idxOf_cons_ne _ differ, stepsUpTo]

/-- Each child is listed in order, followed by what is below it. -/
theorem descendants_eq_flatMap (isForest : forest.IsForest) (widget : WidgetId) :
    forest.descendants widget =
      (forest.children widget).flatMap (fun child => child :: forest.descendants child) := by
  have lists : ∀ widgets : List WidgetId,
      forest.Lists widgets (widgets.flatMap (fun child => child :: forest.descendants child)) := by
    intro widgets
    induction widgets with
    | nil => exact Lists.nil
    | cons child rest ih => exact Lists.cons (isForest.lists_descendants child) ih
  exact (isForest.lists_descendants widget).unique (lists _)

theorem mem_descendants_iff (isForest : forest.IsForest) {upper widget : WidgetId} :
    widget ∈ forest.descendants upper ↔ IsAbove forest.parent? upper widget := by
  rw [(isForest.lists_descendants upper).mem_iff isForest, isForest.isAbove_iff_child_covers]

theorem nodup_descendants (isForest : forest.IsForest) (widget : WidgetId) :
    (forest.descendants widget).Nodup :=
  isForest.nodup_of_lists (isForest.lists_descendants widget) (isForest.apart_children widget)

/-- The widgets from which a climb meets the upper one are listed once, and no others. -/
theorem count_descendants (isForest : forest.IsForest) (upper widget : WidgetId) :
    (forest.descendants upper).count widget = if forest.isBelow widget upper then 1 else 0 := by
  split
  · next below =>
    rw [isForest.isBelow_iff] at below
    exact List.count_eq_one_of_mem (isForest.nodup_descendants upper)
      (isForest.mem_descendants_iff.mpr below)
  · next notBelow =>
    rw [isForest.isBelow_iff] at notBelow
    exact List.count_eq_zero_of_not_mem (mt isForest.mem_descendants_iff.mp notBelow)

/-- What is written for some widgets at one depth below the upper one has their lines and the lines of
all that is below them, in pre-order. -/
theorem outlines_eq_join (isForest : forest.IsForest) {upper : WidgetId} {depth : Nat}
    {widgets listed : List WidgetId} {text : String} (outlines : forest.Outlines depth widgets text)
    (lists : forest.Lists widgets listed)
    (placed : ∀ widget ∈ widgets,
      IsAbove forest.parent? upper widget ∧ forest.stepsUpTo upper widget = depth) :
    text = String.join
      (listed.map (fun widget => forest.outlineLine (forest.stepsUpTo upper widget) widget)) := by
  -- The induction is on the writing of the lines; `placed` takes the depth one level down with it.
  induction outlines generalizing listed with
  | done depth =>
      cases lists
      rfl
  | @line depth widget rest below others _ _ ihBelow ihOthers =>
      cases lists with
      | @cons _ belowListed _ othersListed belowLists othersLists =>
          rw [List.forall_mem_cons] at placed
          obtain ⟨⟨above, steps⟩, placed⟩ := placed
          have children : ∀ child ∈ forest.children widget,
              IsAbove forest.parent? upper child ∧ forest.stepsUpTo upper child = depth + 1 := by
            intro child member
            have linked := (isForest.mem_children_iff widget child).mp member
            rw [isForest.stepsUpTo_of_child above member, steps]
            exact ⟨IsAbove.of_above_parent linked above, rfl⟩
          rw [ihBelow belowLists children, ihOthers othersLists placed, List.map_append,
            List.map_cons, String.join_append, String.join_cons, steps]

/-- The outline is the line of the widget and the lines of its descendants. -/
theorem outline_eq_join (isForest : forest.IsForest) {upper : WidgetId}
    (live : forest.contains upper = true) :
    forest.outline upper = forest.outlineLine 0 upper ++ String.join
      ((forest.descendants upper).map
        (fun widget => forest.outlineLine (forest.stepsUpTo upper widget) widget)) := by
  have outlines := isForest.outlines_outline live
  generalize forest.outline upper = text at outlines ⊢
  cases outlines with
  | line below others =>
      cases others
      have children : ∀ child ∈ forest.children upper,
          IsAbove forest.parent? upper child ∧ forest.stepsUpTo upper child = 0 + 1 := by
        intro child member
        have linked := (isForest.mem_children_iff upper child).mp member
        exact ⟨IsAbove.of_parent linked, isForest.stepsUpTo_child member⟩
      rw [String.append_empty,
        isForest.outlines_eq_join below (isForest.lists_descendants upper) children]

end IsForest

end Forest

namespace Scene

variable {ε : Type}

/-- In every state of a run, the loop over a stack ends with the pre-order of what is below a widget. It
lists once each widget from which a climb meets this one, and no others. The outline of the widget has
their lines in that order, indented by two blanks for each step of the climb. -/
theorem descendants_in_preorder {client : ε} {scene : Scene ε}
    (reached : Reaches (Scene.fresh client) scene) {top : WidgetId}
    (live : scene.forest.contains top = true) :
    scene.forest.Unstacks (scene.forest.children top) (scene.forest.descendants top) ∧
      (∀ widget, scene.forest.descendants widget = (scene.forest.children widget).flatMap
        (fun child => child :: scene.forest.descendants child)) ∧
      (∀ widget, (scene.forest.descendants top).count widget =
        if scene.forest.isBelow widget top then 1 else 0) ∧
      scene.forest.outline top = scene.forest.outlineLine 0 top ++ String.join
        ((scene.forest.descendants top).map
          (fun widget => scene.forest.outlineLine (scene.forest.stepsUpTo top widget) widget)) := by
  have isForest := reached.isForest Forest.isForest_empty
  exact ⟨isForest.unstacks_descendants top, isForest.descendants_eq_flatMap,
    isForest.count_descendants top, isForest.outline_eq_join live⟩

def outlinedPanels : Scene Unit :=
  let made := ((((Scene.fresh ()).spawn .panel).2.spawn .panel).2.spawn .label).2
  let inner := ((made.add ⟨0⟩ ⟨1⟩).2.add ⟨1⟩ ⟨2⟩).2
  ((inner.spawn .label).2.add ⟨0⟩ ⟨3⟩).2

/-- The label inside comes before the one behind, two steps down. -/
theorem outlined_panels_in_preorder :
    Reaches (Scene.fresh ()) outlinedPanels ∧ outlinedPanels.forest.contains ⟨0⟩ = true ∧
      outlinedPanels.forest.descendants ⟨0⟩ = [⟨1⟩, ⟨2⟩, ⟨3⟩] ∧
      outlinedPanels.forest.stepsUpTo ⟨0⟩ ⟨2⟩ = 2 ∧
      outlinedPanels.forest.outline ⟨0⟩ = "Panel\n  Panel\n    Label\n  Label\n" ∧
      outlinedPanels.forest.outline ⟨0⟩ = outlinedPanels.forest.outlineLine 0 ⟨0⟩ ++ String.join
        ((outlinedPanels.forest.descendants ⟨0⟩).map (fun widget =>
          outlinedPanels.forest.outlineLine (outlinedPanels.forest.stepsUpTo ⟨0⟩ widget) widget)) := by
  have reached : Reaches (Scene.fresh ()) outlinedPanels := by
    refine Reaches.trans (Reaches.step (Step.spawn _ .panel)) ?_
    refine Reaches.trans (Reaches.step (Step.spawn _ .panel)) ?_
    refine Reaches.trans (Reaches.step (Step.spawn _ .label)) ?_
    refine Reaches.trans (Reaches.step (Step.add _ ⟨0⟩ ⟨1⟩)) ?_
    refine Reaches.trans (Reaches.step (Step.add _ ⟨1⟩ ⟨2⟩)) ?_
    refine Reaches.trans (Reaches.step (Step.spawn _ .label)) ?_
    exact Reaches.step (Step.add _ ⟨0⟩ ⟨3⟩)
  have live : outlinedPanels.forest.contains ⟨0⟩ = true := by decide +kernel
  have preorder := descendants_in_preorder reached live
  exact ⟨reached, live, by decide +kernel, by decide +kernel, by decide +kernel, preorder.2.2.2⟩

end Scene

end StyledTree
