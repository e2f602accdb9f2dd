import StyledTree.Proofs.Scene.Ending
import StyledTree.Proofs.Scene.Shape

set_option autoImplicit false

namespace StyledTree.Scene

variable {ε : Type} {scene : Scene ε} {sheet : SheetId} {widget root : WidgetId}

/-- The nearest of the remembered roots that are still there, going up from a widget, which counts
itself. -/
structure IsNearestRoot (scene : Scene ε) (sheet : SheetId) (widget root : WidgetId) : Prop where
  remembered : root ∈ scene.appliedRoots sheet
  covers : scene.forest.Covers root widget
  nearest : ∀ other ∈ scene.appliedRoots sheet, scene.forest.Covers other widget →
    scene.forest.Covers other root

theorem roots_pruneRoots (scene : Scene ε) (sheet : SheetId) :
    (scene.pruneRoots sheet).roots sheet = scene.appliedRoots sheet := by
  rw [roots, pruneRoots, sheet?_updateSheet, if_pos rfl, appliedRoots, roots]
  cases scene.sheet? sheet <;> rfl

theorem roots_updateSheet_of_ne (scene : Scene ε) {sheet other : SheetId} (differ : other ≠ sheet)
    (change : Sheet → Sheet) : (scene.updateSheet sheet change).roots other = scene.roots other := by
  rw [roots, sheet?_updateSheet, if_neg differ]
  rfl

/-- What is forgotten are roots that are gone. -/
theorem appliedRoots_pruneRoots (scene : Scene ε) (sheet other : SheetId) :
    (scene.pruneRoots sheet).appliedRoots other = scene.appliedRoots other := by
  have forest : (scene.pruneRoots sheet).forest = scene.forest := rfl
  rw [appliedRoots, forest]
  by_cases same : other = sheet
  · subst same
    rw [roots_pruneRoots, appliedRoots, List.filter_filter]
    simp only [Bool.and_self]
  · rw [pruneRoots, roots_updateSheet_of_ne scene same, appliedRoots]

theorem pruneRoots_pruneRoots (scene : Scene ε) (sheet : SheetId) :
    (scene.pruneRoots sheet).pruneRoots sheet = scene.pruneRoots sheet := by
  have forest : (scene.pruneRoots sheet).forest = scene.forest := rfl
  rw [pruneRoots, forest, pruneRoots, updateSheet_updateSheet]
  simp only [List.filter_filter, Bool.and_self]

/-- A sheet that is applied to a root that it remembers has the roots that it had. -/
theorem appliedRoots_recordRoot (member : root ∈ scene.appliedRoots sheet) (other : SheetId) :
    (scene.recordRoot sheet root).appliedRoots other = scene.appliedRoots other := by
  have forest : (scene.recordRoot sheet root).forest = scene.forest := rfl
  rw [← scene.appliedRoots_pruneRoots sheet other, appliedRoots, forest, appliedRoots]
  by_cases same : other = sheet
  · subst same
    rw [← roots_pruneRoots] at member
    rw [recordRoot, roots, sheet?_updateSheet, if_pos rfl, roots]
    cases found : (scene.pruneRoots other).sheet? other with
    | none => rfl
    | some held =>
        have known : held.roots.contains root = true := by
          rw [roots, found] at member
          exact List.contains_iff_mem.mpr member
        simp only [Option.map_some, known, if_true]
        rfl
  · rw [recordRoot, roots_updateSheet_of_ne _ same]
    rfl

theorem rootAbove?_pruneRoots (scene : Scene ε) (sheet : SheetId) (widget : WidgetId) :
    (scene.pruneRoots sheet).rootAbove? sheet widget =
      (widget :: scene.forest.ancestors widget).find? (scene.appliedRoots sheet).contains := by
  rw [rootAbove?, roots_pruneRoots]
  rfl

theorem isNearestRoot_of_rootAbove? (isForest : scene.forest.IsForest)
    (found : (scene.pruneRoots sheet).rootAbove? sheet widget = some root) :
    scene.IsNearestRoot sheet widget root := by
  rw [rootAbove?_pruneRoots] at found
  have climb := isForest.climbs_ancestors widget
  constructor
  · exact List.contains_iff_mem.mp (List.find?_some found)
  · have member := List.mem_of_find?_eq_some found
    rwa [List.mem_cons, climb.mem_iff] at member
  · intro other remembered covers
    exact climb.nearest_of_find? found (List.contains_iff_mem.mpr remembered) covers

/-- There is one nearest root at most, since no two widgets are at or below each other. -/
theorem IsNearestRoot.unique (isForest : scene.forest.IsForest) {first second : WidgetId}
    (one : scene.IsNearestRoot sheet widget first)
    (other : scene.IsNearestRoot sheet widget second) : first = second := by
  rcases other.nearest first one.remembered one.covers with same | above
  · exact same
  · rcases one.nearest second other.remembered other.covers with same | back
    · exact same.symm
    · exact absurd (above.trans back) (isForest.acyclic first)

theorem rootAbove?_eq_none_iff (isForest : scene.forest.IsForest) :
    (scene.pruneRoots sheet).rootAbove? sheet widget = none ↔
      ∀ root ∈ scene.appliedRoots sheet, ¬ scene.forest.Covers root widget := by
  rw [rootAbove?_pruneRoots, List.find?_eq_none]
  simp only [List.contains_iff_mem, List.mem_cons, isForest.mem_ancestors_iff]
  exact ⟨fun apart root remembered covers => apart root covers remembered,
    fun apart root covers remembered => apart root remembered covers⟩

theorem rootAbove?_eq_some_iff (isForest : scene.forest.IsForest) :
    (scene.pruneRoots sheet).rootAbove? sheet widget = some root ↔
      scene.IsNearestRoot sheet widget root := by
  constructor
  · exact isNearestRoot_of_rootAbove? isForest
  · intro nearest
    cases search : (scene.pruneRoots sheet).rootAbove? sheet widget with
    | none =>
        have apart := (rootAbove?_eq_none_iff isForest).mp search
        exact absurd nearest.covers (apart root nearest.remembered)
    | some found => rw [(isNearestRoot_of_rootAbove? isForest search).unique isForest nearest]

/-- Applying a sheet forgets the roots that are gone first, so that it makes no difference whether
they have been forgotten before. -/
theorem apply_pruneRoots (handlers : Handlers ε) (steps : Nat) (sheet : SheetId) (root : WidgetId)
    (event : Event) (scene : Scene ε) :
    apply handlers steps sheet root (((scene.pruneRoots sheet).note event).hold root) =
      apply handlers steps sheet root ((scene.note event).hold root) := by
  have recorded : (((scene.pruneRoots sheet).note event).hold root).recordRoot sheet root =
      ((scene.note event).hold root).recordRoot sheet root := by
    have moved : (((scene.pruneRoots sheet).note event).hold root).recordRoot sheet root =
        (((scene.pruneRoots sheet).recordRoot sheet root).note event).hold root := rfl
    rw [moved, recordRoot, pruneRoots_pruneRoots]
    rfl
  rw [apply, recorded]
  rfl

/-- Where some remembered root is at or above the widget, there is one nearest to it, and the call
applies the sheet there, with a handle on it as long as it runs, as a caller of `apply` has one.
Otherwise the call ends without running anything, whatever the handlers are, and leaves all widgets as
they are. The roots that are still there are remembered through the search, and through the start of the
application. -/
theorem revalidate_applies_nearest {client : ε} {scene : Scene ε}
    (reached : Reaches (Scene.fresh client) scene) (sheet : SheetId) (widget : WidgetId) :
    ((∃ root ∈ scene.appliedRoots sheet, scene.forest.Covers root widget) →
      ∃! root, scene.IsNearestRoot sheet widget root) ∧
    (∀ root, scene.IsNearestRoot sheet widget root → ∀ handlers steps,
      scene.revalidate handlers steps sheet widget =
        (((scene.note (.revalidated (scene.describe widget) (scene.describe root))).hold
          root).apply handlers steps sheet root).map (fun after => (true, after.release root))) ∧
    ((∀ root ∈ scene.appliedRoots sheet, ¬ scene.forest.Covers root widget) →
      ∃ after, (∀ handlers steps,
          scene.revalidate handlers steps sheet widget = some (false, after)) ∧
        after.forest = scene.forest ∧ after.handles = scene.handles ∧
          after.styles = scene.styles ∧ after.client = scene.client ∧
            ∀ other, after.topStyles other = scene.topStyles other ∧
              after.appliedRoots other = scene.appliedRoots other) ∧
    (∀ other, (scene.pruneRoots sheet).appliedRoots other = scene.appliedRoots other) ∧
    (∀ root, scene.IsNearestRoot sheet widget root → ∀ other,
      (scene.recordRoot sheet root).appliedRoots other = scene.appliedRoots other) := by
  have isForest := reached.isForest Forest.isForest_empty
  refine ⟨?_, ?_, ?_, scene.appliedRoots_pruneRoots sheet,
    fun _ nearest => appliedRoots_recordRoot nearest.remembered⟩
  · rintro ⟨root, remembered, covers⟩
    cases search : (scene.pruneRoots sheet).rootAbove? sheet widget with
    | none =>
        exact absurd covers ((rootAbove?_eq_none_iff isForest).mp search root remembered)
    | some found =>
        have nearest := isNearestRoot_of_rootAbove? isForest search
        exact ⟨found, nearest, fun _ other => other.unique isForest nearest⟩
  · intro root nearest handlers steps
    rw [revalidate, (rootAbove?_eq_some_iff isForest).mpr nearest]
    dsimp only
    rw [apply_pruneRoots]
    rfl
  · intro apart
    refine ⟨(scene.pruneRoots sheet).note (.notUnderRoot (scene.describe widget)), ?_, rfl, rfl, rfl,
      rfl, fun other => ⟨?_, ?_⟩⟩
    · intro handlers steps
      rw [revalidate, (rootAbove?_eq_none_iff isForest).mpr apart]
      rfl
    · exact topStyles_updateSheet scene sheet other (fun _ => rfl)
    · exact scene.appliedRoots_pruneRoots sheet other

def panelsAndLabel : Scene Nat :=
  let panels := (((Scene.fresh 0).spawn .panel).2.spawn .panel).2
  let labels := ((panels.spawn .label).2.spawn .label).2
  let tree := ((labels.add ⟨0⟩ ⟨1⟩).2.add ⟨1⟩ ⟨2⟩).2
  (tree.addSheet.2.addStyle ⟨.glob, .any, .plain ⟨0⟩⟩).2.register ⟨0⟩ ⟨0⟩

/-- The sheet is applied to both panels and to the other label, which is given up after that. -/
def nestedRoots : Option (Scene Nat) := do
  let outer ← panelsAndLabel.apply counters 5 ⟨0⟩ ⟨0⟩
  let inner ← outer.apply counters 5 ⟨0⟩ ⟨1⟩
  let beside ← inner.apply counters 5 ⟨0⟩ ⟨3⟩
  some (beside.release ⟨3⟩)

theorem reaches_nestedRoots {scene : Scene Nat} (made : nestedRoots = some scene) :
    Reaches (Scene.fresh 0) scene := by
  have counting : ∀ handler on (before between : Scene Nat),
      counters.run handler on before = some between → Reaches before between := by
    intro handler on before between ran
    cases ran
    exact Reaches.step (Step.elsewhere before rfl rfl)
  have start : Reaches (Scene.fresh 0) panelsAndLabel := by
    refine Reaches.trans (Reaches.step (Step.spawn _ .panel)) ?_
    refine Reaches.trans (Reaches.step (Step.spawn _ .panel)) ?_
    refine Reaches.trans (Reaches.step (Step.spawn _ .label)) ?_
    refine Reaches.trans (Reaches.step (Step.spawn _ .label)) ?_
    refine Reaches.trans (Reaches.step (Step.add _ ⟨0⟩ ⟨1⟩)) ?_
    refine Reaches.trans (Reaches.step (Step.add _ ⟨1⟩ ⟨2⟩)) ?_
    exact Reaches.step (Step.elsewhere _ rfl rfl)
  simp only [nestedRoots, Option.bind_eq_bind, Option.bind_eq_some_iff, Option.some.injEq] at made
  obtain ⟨outer, first, inner, second, beside, third, rfl⟩ := made
  have applied := (start.trans (Reaches.apply counting first)).trans (Reaches.apply counting second)
  exact (applied.trans (Reaches.apply counting third)).trans (Reaches.step (Step.release beside ⟨3⟩))

/-- The label in the panels is under the inner one, where the style runs on two widgets; the label that
is gone is under nothing. -/
theorem nestedRoots_revalidated :
    ∃ scene, nestedRoots = some scene ∧ Reaches (Scene.fresh 0) scene ∧
      scene.roots ⟨0⟩ = [⟨0⟩, ⟨1⟩, ⟨3⟩] ∧ scene.IsNearestRoot ⟨0⟩ ⟨2⟩ ⟨1⟩ ∧
      (scene.revalidate counters 5 ⟨0⟩ ⟨2⟩).map (fun told => (told.1, told.2.client)) =
        some (true, scene.client + 2) ∧
      (scene.revalidate counters 5 ⟨0⟩ ⟨3⟩).map (fun told => (told.1, told.2.client)) =
        some (false, scene.client) := by
  obtain ⟨scene, made⟩ := Option.isSome_iff_exists.mp
    (show nestedRoots.isSome = true by decide +kernel)
  have reached := reaches_nestedRoots made
  have facts : nestedRoots.map (fun scene => (scene.roots ⟨0⟩, scene.appliedRoots ⟨0⟩,
      scene.forest.parent? ⟨2⟩, scene.forest.parent? ⟨1⟩, scene.forest.parent? ⟨3⟩)) =
      some ([⟨0⟩, ⟨1⟩, ⟨3⟩], [⟨0⟩, ⟨1⟩], some ⟨1⟩, some ⟨0⟩, none) := by
    decide +kernel
  have counted : nestedRoots.map (fun scene =>
      ((((scene.note (.revalidated (scene.describe ⟨2⟩) (scene.describe ⟨1⟩))).hold ⟨1⟩).apply
        counters 5 ⟨0⟩ ⟨1⟩).map (fun after => (true, after.release ⟨1⟩))).map
          (fun told => (told.1, told.2.client)) == some (true, scene.client + 2)) =
      some true := by
    decide +kernel
  simp only [made, Option.map_some, Option.some.injEq, Prod.mk.injEq] at facts
  rw [made, Option.map_some, Option.some.injEq, beq_iff_eq] at counted
  obtain ⟨roots, live, labelParent, innerParent, goneParent⟩ := facts
  have innerAbove : IsAbove scene.forest.parent? ⟨1⟩ ⟨2⟩ := IsAbove.of_parent labelParent
  have nearest : scene.IsNearestRoot ⟨0⟩ ⟨2⟩ ⟨1⟩ := by
    refine ⟨by rw [live]; decide, Or.inr innerAbove, ?_⟩
    intro other remembered _
    rw [live, List.mem_cons, List.mem_singleton] at remembered
    rcases remembered with rfl | rfl
    · exact Or.inr (IsAbove.of_parent innerParent)
    · exact Or.inl rfl
  have apart : ∀ root ∈ scene.appliedRoots ⟨0⟩, ¬ scene.forest.Covers root ⟨3⟩ := by
    rw [live]
    intro root remembered covers
    rcases covers with rfl | above
    · exact absurd remembered (by decide)
    · exact absurd above (IsAbove.not_of_root goneParent)
  refine ⟨scene, made, reached, roots, nearest, ?_, ?_⟩
  · rw [(revalidate_applies_nearest reached ⟨0⟩ ⟨2⟩).2.1 ⟨1⟩ nearest]
    exact counted
  · obtain ⟨after, told, -, -, -, client, -⟩ :=
      (revalidate_applies_nearest reached ⟨0⟩ ⟨3⟩).2.2.1 apart
    rw [told, Option.map_some, client]

end StyledTree.Scene
