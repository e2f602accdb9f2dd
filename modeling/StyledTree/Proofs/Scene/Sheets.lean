import StyledTree.Scene.Cascade

set_option autoImplicit false

namespace StyledTree.Scene

variable {ε : Type}

theorem sheet?_updateSheet (scene : Scene ε) (sheet other : SheetId) (change : Sheet → Sheet) :
    (scene.updateSheet sheet change).sheet? other =
      if other = sheet then (scene.sheet? other).map change else scene.sheet? other := by
  simp only [sheet?, updateSheet, Array.getElem?_modify]
  by_cases same : other = sheet
  · subst same
    simp
  · have apart : sheet.index ≠ other.index := by
      intro equal
      apply same
      cases other
      cases sheet
      simp_all
    simp [same, apart]

theorem updateSheet_updateSheet (scene : Scene ε) (sheet : SheetId) (first second : Sheet → Sheet) :
    (scene.updateSheet sheet first).updateSheet sheet second =
      scene.updateSheet sheet (fun held => second (first held)) := by
  have same : (scene.sheets.modify sheet.index first).modify sheet.index second =
      scene.sheets.modify sheet.index (fun held => second (first held)) := by
    apply Array.ext_getElem?
    intro index
    simp only [Array.getElem?_modify]
    split
    · rw [Option.map_map]
      rfl
    · rfl
  exact congrArg (fun sheets : Array Sheet => { scene with sheets := sheets }) same

/-- A change of something else in a sheet leaves the styles of all sheets. -/
theorem topStyles_updateSheet (scene : Scene ε) (sheet other : SheetId) {change : Sheet → Sheet}
    (kept : ∀ held, (change held).styles = held.styles) :
    (scene.updateSheet sheet change).topStyles other = scene.topStyles other := by
  rw [topStyles, topStyles, sheet?_updateSheet]
  split
  · cases scene.sheet? other with
    | none => rfl
    | some held => exact kept held
  · rfl

theorem topStyles_recordRoot (scene : Scene ε) (sheet other : SheetId) (root : WidgetId) :
    (scene.recordRoot sheet root).topStyles other = scene.topStyles other := by
  rw [recordRoot, topStyles_updateSheet, pruneRoots, topStyles_updateSheet]
  · exact fun _ => rfl
  · intro held
    split <;> rfl

end StyledTree.Scene
