import StyledTree.Scene.Cascade
import StyledTree.Proofs.Forest.Surroundings

set_option autoImplicit false

namespace StyledTree.Scene

variable {ε : Type}

/-- Handles keep everything at and above the widget, and so the whole tree that it is in. -/
def HoldsTree (scene : Scene ε) (widget : WidgetId) : Prop :=
  ∀ upper, scene.forest.Covers upper widget → scene.isHeld upper = true

structure Agrees (before after : Scene ε) : Prop where
  forest : after.forest = before.forest
  styles : after.styles = before.styles
  sheets : after.sheets = before.sheets
  client : after.client = before.client

namespace Agrees

theorem refl (scene : Scene ε) : Agrees scene scene := ⟨rfl, rfl, rfl, rfl⟩

theorem trans {before middle after : Scene ε} (first : Agrees before middle)
    (second : Agrees middle after) : Agrees before after where
  forest := second.forest.trans first.forest
  styles := second.styles.trans first.styles
  sheets := second.sheets.trans first.sheets
  client := second.client.trans first.client

theorem note (scene : Scene ε) (event : Event) : Agrees scene (scene.note event) :=
  ⟨rfl, rfl, rfl, rfl⟩

theorem holdAll (scene : Scene ε) (widgets : List WidgetId) :
    Agrees scene (widgets.foldl hold scene) := by
  induction widgets generalizing scene with
  | nil => exact refl scene
  | cons widget rest ih =>
      have held : Agrees scene (scene.hold widget) := ⟨rfl, rfl, rfl, rfl⟩
      exact held.trans (ih (scene.hold widget))

end Agrees

theorem isHeld_iff {scene : Scene ε} (isForest : scene.forest.IsForest) {widget : WidgetId} :
    scene.isHeld widget = true ↔
      ∃ holder ∈ scene.handles, scene.forest.Covers holder widget := by
  rw [isHeld, Forest.isWithin_eq_any, List.any_eq_true]
  constructor
  · rintro ⟨holder, met, handled⟩
    refine ⟨holder, List.contains_iff_mem.mp handled, ?_⟩
    rcases List.mem_cons.mp met with rfl | above
    · exact scene.forest.covers_refl holder
    · exact Or.inr (isForest.mem_ancestors_iff.mp above)
  · rintro ⟨holder, handled, covers⟩
    refine ⟨holder, ?_, List.contains_iff_mem.mpr handled⟩
    rcases covers with rfl | above
    · exact List.mem_cons_self
    · exact List.mem_cons_of_mem _ (isForest.mem_ancestors_iff.mpr above)

/-- What keeps a widget keeps all that is below it. -/
theorem isHeld_of_covers {scene : Scene ε} {upper lower : WidgetId}
    (held : scene.isHeld upper = true) (isForest : scene.forest.IsForest)
    (covers : scene.forest.Covers upper lower) : scene.isHeld lower = true := by
  obtain ⟨holder, handled, above⟩ := (isHeld_iff isForest).mp held
  exact (isHeld_iff isForest).mpr ⟨holder, handled, above.trans covers⟩

namespace HoldsTree

variable {scene : Scene ε} {root widget : WidgetId}

theorem of_sharesTree (holds : scene.HoldsTree root) (isForest : scene.forest.IsForest)
    (shares : scene.forest.SharesTree root widget) : scene.HoldsTree widget := by
  intro upper covers
  obtain ⟨top, atRoot, atUpper⟩ := shares.of_covers covers
  exact isHeld_of_covers (holds top atRoot) isForest atUpper

/-- More handles keep no less. -/
theorem of_handles (holds : scene.HoldsTree root) (isForest : scene.forest.IsForest)
    {after : Scene ε} (forest : after.forest = scene.forest)
    (kept : ∀ holder ∈ scene.handles, scene.forest.Covers holder root → holder ∈ after.handles) :
    after.HoldsTree root := by
  intro upper covers
  rw [forest] at covers
  obtain ⟨holder, handled, above⟩ := (isHeld_iff isForest).mp (holds upper covers)
  rw [isHeld_iff (forest ▸ isForest), forest]
  exact ⟨holder, kept holder handled (above.trans covers), above⟩

theorem holdAll (holds : scene.HoldsTree root) (isForest : scene.forest.IsForest)
    (widgets : List WidgetId) : (widgets.foldl hold scene).HoldsTree root := by
  induction widgets generalizing scene with
  | nil => exact holds
  | cons widget rest ih =>
      have held : (scene.hold widget).HoldsTree root :=
        holds.of_handles isForest rfl (fun _ handled _ => List.mem_cons_of_mem widget handled)
      exact ih held isForest

/-- A handle on a widget below the root is given up without any widget being dropped. -/
theorem release (holds : scene.HoldsTree root) (isForest : scene.forest.IsForest)
    (below : IsAbove scene.forest.parent? root widget) :
    Agrees scene (scene.release widget) ∧ (scene.release widget).HoldsTree root := by
  have lighter : Scene.HoldsTree { scene with handles := scene.handles.erase widget } root := by
    refine holds.of_handles isForest rfl ?_
    intro holder handled covers
    refine (List.mem_erase_of_ne ?_).mpr handled
    rintro rfl
    rcases covers with rfl | above
    · exact isForest.acyclic _ below
    · exact isForest.acyclic _ (above.trans below)
  have kept : Scene.isHeld { scene with handles := scene.handles.erase widget } widget = true :=
    isHeld_of_covers (lighter root (scene.forest.covers_refl root)) isForest (Or.inr below)
  have same : scene.release widget = { scene with handles := scene.handles.erase widget } := by
    simp only [Scene.release]
    rw [if_pos kept]
  rw [same]
  exact ⟨⟨rfl, rfl, rfl, rfl⟩, lighter⟩

end HoldsTree

end StyledTree.Scene
