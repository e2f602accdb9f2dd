import StyledTree.Proofs.Forest.Lasting
import StyledTree.Proofs.Forest.Preorder
import StyledTree.Proofs.Scene.Running

set_option autoImplicit false

namespace StyledTree

/-- The walks from a widget along its links end, with what the scene tells of them. -/
structure Forest.WalksEnd (forest : Forest) (widget : WidgetId) : Prop where
  ancestors : Climbs forest.parent? widget (forest.ancestors widget)
  below : ∀ other, forest.isBelow widget other = true ↔ IsAbove forest.parent? other widget
  descendants : forest.Unstacks (forest.children widget) (forest.descendants widget)
  outline : forest.Outlines 0 [widget] (forest.outline widget)

theorem Forest.IsForest.walksEnd {forest : Forest} (isForest : forest.IsForest)
    {widget : WidgetId} (live : forest.contains widget = true) : forest.WalksEnd widget where
  ancestors := isForest.climbs_ancestors widget
  below _ := isForest.isBelow_iff
  descendants := isForest.unstacks_descendants widget
  outline := isForest.outlines_outline live

namespace Scene

variable {ε : Type}

theorem isForest_carryOut (scene : Scene ε) (container : WidgetId) {forest : Forest}
    (isForest : forest.IsForest) : (scene.carryOut container forest).forest.IsForest := by
  rcases scene.carryOut_cases container forest with ⟨-, same⟩ | ⟨-, same⟩
  · rw [same]
    exact isForest
  · rw [same]
    exact isForest.retain _

/-- No step breaks the forest. -/
theorem Step.isForest {before after : Scene ε} (step : Step before after)
    (isForest : before.forest.IsForest) : after.forest.IsForest := by
  cases step.effect with
  | edits edited forest _ =>
      rw [forest]
      exact isForest_carryOut _ _ (edited.isForest isForest)
  | spawn kind => exact isForest.create kind
  | release widget =>
      rw [Scene.release]
      split
      · exact isForest
      · exact isForest.retain _
  | sweep => exact isForest.retain _
  | pend widget container => exact isForest.update widget {}
  | change widget keeps => exact isForest.update widget keeps.toKeepsLinks
  | same forest _ =>
      rw [forest]
      exact isForest

theorem Reaches.isForest {before after : Scene ε} (reaches : Reaches before after)
    (isForest : before.forest.IsForest) : after.forest.IsForest :=
  reaches.invariant Step.isForest isForest

/-- A step edits links and nothing else, or it changes other fields of one widget. -/
theorem Step.edits {related : Forest → Forest → Prop} (closed : Forest.ClosedUnderEdits related)
    {before after : Scene ε} (step : Step before after) :
    related before.forest after.forest ∨
      ∃ widget change, Forest.KeepsPlace change ∧ after = before.update widget change := by
  cases step.effect with
  | change widget keeps => exact Or.inr ⟨widget, _, keeps, rfl⟩
  | edits edited forest _ =>
      rw [forest]
      exact Or.inl (related_carryOut closed before _ (edited.related closed))
  | spawn kind => exact Or.inl (closed.create before.forest kind)
  | release widget => exact Or.inl ((PlainStep.release before widget).forest _ closed)
  | sweep => exact Or.inl (closed.retain before.forest _)
  | pend widget container => exact Or.inl (closed.update before.forest widget {})
  | same forest _ =>
      rw [forest]
      exact Or.inl (closed.refl before.forest)

/-- No step changes what a widget is or brings back one that is gone. -/
theorem Step.lasts {before after : Scene ε} (step : Step before after) :
    before.forest.Lasts after.forest := by
  rcases step.edits Forest.Lasts.closedUnderEdits with lasts | ⟨widget, _, keeps, rfl⟩
  · exact lasts
  · exact Forest.Lasts.update before.forest widget keeps.kind

theorem Reaches.lasts {before after : Scene ε} (reaches : Reaches before after) :
    before.forest.Lasts after.forest := by
  have closed : Closed (fun before after : Scene ε => before.forest.Lasts after.forest) :=
    ⟨fun scene => Forest.Lasts.refl scene.forest, fun first second => first.trans second, Step.lasts⟩
  exact reaches.within closed

/-- Whatever is done to a scene, its live widgets form a forest: the two directions of the links
agree, no widget is in two places or above itself, only containers have children, a scroll pane has
one at most, and all walks along the links end. -/
theorem live_widgets_form_forest {client : ε} {scene : Scene ε}
    (reached : Reaches (Scene.fresh client) scene) :
    scene.forest.IsForest ∧
      (∀ first second child, child ∈ scene.forest.children first →
        child ∈ scene.forest.children second → first = second) ∧
      (∀ parent child, child ∈ scene.forest.children parent →
        scene.forest.contains parent = true ∧ scene.forest.contains child = true) ∧
      ∀ widget, scene.forest.contains widget = true → scene.forest.WalksEnd widget := by
  have isForest := reached.isForest Forest.isForest_empty
  refine ⟨isForest, ?_, ?_, ?_⟩
  · intro first second child one other
    exact isForest.parent_unique one other
  · intro parent child member
    exact ⟨Forest.contains_of_mem_children member, isForest.contains_child member⟩
  · intro widget live
    exact isForest.walksEnd live

def labelMakers : Handlers Unit where
  run _ _ scene := some scene
  notify _ _ _ scene := some scene
  produce _ scene := some (scene.spawn .label)

/-- A scroll pane with a label built in it, whose initialiser makes a panel meanwhile. -/
def labelledPane : Option (WidgetId × Scene Unit) :=
  build labelMakers .label ⟨0⟩ (fun _ scene => some (scene.spawn .panel).2)
    ((Scene.fresh ()).spawn .scrollPane).2

/-- The panel takes the place of the label, which nobody holds any more. -/
theorem replaced_view_leaves_forest :
    ∃ scene : Scene Unit, Reaches (Scene.fresh ()) scene ∧
      scene.forest.children ⟨0⟩ = [⟨2⟩] ∧ scene.forest.contains ⟨1⟩ = false ∧
      scene.forest.IsForest ∧ scene.forest.WalksEnd ⟨2⟩ := by
  obtain ⟨⟨_, built⟩, ran⟩ := Option.isSome_iff_exists.mp
    (show labelledPane.isSome = true by decide +kernel)
  have building : Reaches ((Scene.fresh ()).spawn .scrollPane).2 built := by
    apply Reaches.build _ _ ran
    · intro handler before made between produced
      cases produced
      exact Reaches.step (Step.spawn before .label)
    · intro made before between initialised
      cases initialised
      exact Reaches.step (Step.spawn before .panel)
  have replacing : Reaches built ((built.addWith ⟨0⟩ ⟨2⟩ .center).2.release ⟨1⟩) :=
    Reaches.trans (Reaches.step (Step.addWith built ⟨0⟩ ⟨2⟩ .center))
      (Reaches.step (Step.release _ ⟨1⟩))
  have reached := Reaches.trans (Reaches.trans (Reaches.step (Step.spawn _ .scrollPane)) building)
    replacing
  have shown : labelledPane.map (fun made =>
      let scene := (made.2.addWith ⟨0⟩ ⟨2⟩ .center).2.release ⟨1⟩
      (scene.forest.children ⟨0⟩, scene.forest.contains ⟨1⟩, scene.forest.contains ⟨2⟩)) =
      some ([⟨2⟩], false, true) := by decide +kernel
  simp only [ran, Option.map_some, Option.some.injEq, Prod.mk.injEq] at shown
  have forest := live_widgets_form_forest reached
  exact ⟨_, reached, shown.1, shown.2.1, forest.1, forest.2.2.2 ⟨2⟩ shown.2.2⟩

end Scene

end StyledTree
