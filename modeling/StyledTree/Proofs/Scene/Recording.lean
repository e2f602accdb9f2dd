import StyledTree.Proofs.Scene.Planning

set_option autoImplicit false

namespace StyledTree

variable {ε δ : Type}

/-- The scene for client code that keeps something else for itself. -/
def Scene.mapClient (scene : Scene ε) (change : ε → δ) : Scene δ :=
  ⟨scene.forest, scene.handles, scene.styles, scene.sheets, scene.journal, change scene.client⟩

/-- The same client code, with a record of the mutations that have come to their end. -/
def Handlers.recording (handlers : Handlers ε) : Handlers (ε × List Scene.Run) where
  run mutation widget scene :=
    (handlers.run mutation widget (scene.mapClient Prod.fst)).map fun after =>
      after.mapClient (fun client => (client, scene.client.2 ++ [(mutation, widget)]))
  notify handler widget event scene :=
    (handlers.notify handler widget event (scene.mapClient Prod.fst)).map fun after =>
      after.mapClient (fun client => (client, scene.client.2))
  produce handler scene :=
    (handlers.produce handler (scene.mapClient Prod.fst)).map fun (widget, after) =>
      (widget, after.mapClient (fun client => (client, scene.client.2)))

namespace Scene

def unrecorded (scene : Scene ε) : Scene (ε × List Run) :=
  scene.mapClient (fun client => (client, []))

section Mapping

variable (change : ε → δ)

theorem mapClient_release (scene : Scene ε) (widget : WidgetId) :
    (scene.release widget).mapClient change = (scene.mapClient change).release widget := by
  simp only [release]
  exact apply_ite (fun scene : Scene ε => scene.mapClient change) _ _ _

theorem mapClient_holdAll (scene : Scene ε) (widgets : List WidgetId) :
    (widgets.foldl hold scene).mapClient change = widgets.foldl hold (scene.mapClient change) := by
  induction widgets generalizing scene with
  | nil => rfl
  | cons widget rest ih => exact ih (scene.hold widget)

theorem map_foldlM {α β γ : Type} {act : α → β → Option α} {other : γ → β → Option γ} {view : α → γ}
    (each : ∀ state item, (act state item).map view = other (view state) item) (items : List β)
    (state : α) : (items.foldlM act state).map view = items.foldlM other (view state) := by
  induction items generalizing state with
  | nil => rfl
  | cons item rest ih =>
      rw [List.foldlM_cons, List.foldlM_cons, ← each]
      cases act state item with
      | none => rfl
      | some next => exact ih next

theorem map_evaluate {apply : StyleId → WidgetId → Scene ε → Option (Scene ε)}
    {other : StyleId → WidgetId → Scene δ → Option (Scene δ)} {id : StyleId} {widget : WidgetId}
    (applied : ∀ scene : Scene ε, (apply id widget scene).map (fun after => after.mapClient change) =
      other id widget (scene.mapClient change)) (scene : Scene ε) :
    (scene.evaluate apply id widget).map (fun after => after.mapClient change) =
      (scene.mapClient change).evaluate other id widget := by
  have styles : (scene.mapClient change).styles = scene.styles := rfl
  rw [evaluate, evaluate, styles]
  cases scene.styles.get? id with
  | none => rfl
  | some style =>
      have accepts : (scene.mapClient change).accepts style widget = scene.accepts style widget := rfl
      dsimp only
      rw [accepts]
      split
      · exact applied _
      · rfl

theorem map_walk {evaluate : StyleId → WidgetId → Scene ε → Option (Scene ε)}
    {other : StyleId → WidgetId → Scene δ → Option (Scene δ)}
    (evaluated : ∀ id widget (scene : Scene ε),
      (evaluate id widget scene).map (fun after => after.mapClient change) =
        other id widget (scene.mapClient change))
    (styles : List StyleId) (levels : Nat) (widget : WidgetId) (scene : Scene ε) :
    (scene.walk evaluate styles levels widget).map (fun after => after.mapClient change) =
      (scene.mapClient change).walk other styles levels widget := by
  induction levels generalizing widget scene with
  | zero => rfl
  | succ levels ih =>
      have here : (styles.foldlM (fun scene id => evaluate id widget scene) scene).map
            (fun after => after.mapClient change) =
          styles.foldlM (fun scene id => other id widget scene) (scene.mapClient change) :=
        map_foldlM (fun scene id => evaluated id widget scene) styles scene
      rw [walk, walk, ← here]
      cases styles.foldlM (fun scene id => evaluate id widget scene) scene with
      | none => rfl
      | some middle =>
          have children : (middle.mapClient change).forest.children widget =
              middle.forest.children widget := rfl
          simp only [Option.bind_eq_bind, Option.bind_some, Option.map_some, visitAll]
          rw [children, ← mapClient_holdAll]
          refine map_foldlM (fun scene child => ?_) _ _
          rw [← ih child scene, Option.map_map, Option.map_map]
          refine congrArg (fun view => Option.map view _) (funext fun after => ?_)
          exact mapClient_release change after child

def SameRuns (handlers : Handlers ε) (other : Handlers δ) : Prop :=
  ∀ mutation widget (scene : Scene ε),
    (handlers.run mutation widget scene).map (fun after => after.mapClient change) =
      other.run mutation widget (scene.mapClient change)

theorem map_applyStyle {handlers : Handlers ε} {other : Handlers δ}
    (same : SameRuns change handlers other) (levels nesting : Nat) (id : StyleId)
    (widget : WidgetId) (scene : Scene ε) :
    (scene.applyStyle handlers levels nesting id widget).map (fun after => after.mapClient change) =
      (scene.mapClient change).applyStyle other levels nesting id widget := by
  induction nesting generalizing id widget scene with
  | zero => rfl
  | succ nesting ih =>
      have styles : (scene.mapClient change).styles = scene.styles := rfl
      rw [applyStyle, applyStyle, styles]
      cases scene.styles.get? id with
      | none => rfl
      | some style =>
          dsimp only
          cases style.body with
          | plain mutation =>
              have forest : (scene.mapClient change).forest = scene.forest := rfl
              dsimp only
              rw [forest]
              split
              · exact same mutation widget scene
              · rfl
          | chain wrapped sheets =>
              have below : ∀ middle : Scene ε,
                  ((middle.styles.childSheets id).foldlM (fun (scene : Scene ε) child =>
                    scene.applyScoped (evaluate (applyStyle handlers levels nesting)) child.sheet levels
                      widget) middle).map (fun after => after.mapClient change) =
                  (middle.styles.childSheets id).foldlM (fun (scene : Scene δ) child =>
                    scene.applyScoped (evaluate (applyStyle other levels nesting)) child.sheet levels
                      widget) (middle.mapClient change) := by
                intro middle
                refine map_foldlM (fun scene child => ?_) _ _
                exact map_walk change
                  (fun id widget => map_evaluate change (ih id widget)) child.sheet.styles levels widget
                  scene
              dsimp only
              cases wrapped with
              | none => exact below scene
              | some inner =>
                  dsimp only
                  rw [← ih inner widget scene]
                  cases scene.applyStyle handlers levels nesting inner widget with
                  | none => rfl
                  | some middle => exact below middle

theorem map_apply {handlers : Handlers ε} {other : Handlers δ}
    (same : SameRuns change handlers other) (steps : Nat) (sheet : SheetId) (root : WidgetId)
    (scene : Scene ε) :
    (scene.apply handlers steps sheet root).map (fun after => after.mapClient change) =
      (scene.mapClient change).apply other steps sheet root :=
  map_walk change
    (fun id widget => map_evaluate change (map_applyStyle change same steps steps id widget)) _ steps
    root _

end Mapping

theorem recording_sameRuns (handlers : Handlers ε) :
    SameRuns Prod.fst handlers.recording handlers := by
  intro mutation widget scene
  simp only [Handlers.recording, Option.map_map]
  exact Option.map_id'

/-- Forgetting the record of a sheet that was applied gives the scene that the sheet leads to without
a record. -/
theorem apply_recording (handlers : Handlers ε) (steps : Nat) (sheet : SheetId) (root : WidgetId)
    (scene : Scene ε) :
    (scene.unrecorded.apply handlers.recording steps sheet root).map
        (fun after => after.mapClient Prod.fst) = scene.apply handlers steps sheet root :=
  map_apply Prod.fst (recording_sameRuns handlers) steps sheet root scene.unrecorded

/-- What the client code keeps for itself makes no difference to what is planned. -/
theorem stylePlan_mapClient (scene : Scene ε) (change : ε → δ) (nesting : Nat) :
    (scene.mapClient change).stylePlan nesting = scene.stylePlan nesting := by
  induction nesting with
  | zero => rfl
  | succ nesting ih =>
      funext id widget
      simp only [stylePlan, ih]
      rfl

theorem sheetPlan_mapClient (scene : Scene ε) (change : ε → δ) (steps : Nat) (sheet : SheetId)
    (root : WidgetId) :
    (scene.mapClient change).sheetPlan steps sheet root = scene.sheetPlan steps sheet root := by
  rw [sheetPlan, stylePlan_mapClient]
  rfl

/-- Writing down that it ran leaves a mutation as steady as it is. -/
theorem Steady.recording {handlers : Handlers ε} {mutation : HandlerId}
    (steady : Steady handlers mutation) {widget : WidgetId} {before : Scene (ε × List Run)}
    (isForest : before.forest.IsForest) (holds : before.HoldsTree widget) :
    ∃ after, handlers.recording.run mutation widget before = some after ∧
      Freezes widget before after ∧ after.client.2 = before.client.2 ++ [(mutation, widget)] := by
  obtain ⟨after, ran, freezes⟩ := steady widget (before.mapClient Prod.fst) isForest holds
  refine ⟨_, congrArg (Option.map _) ran, ⟨⟨?_, ?_, ?_, ?_⟩, ?_⟩, rfl⟩
  · exact freezes.leaves.tree
  · exact freezes.leaves.isForest
  · exact freezes.leaves.holds
  · exact freezes.leaves.styles
  · exact freezes.marks

/-- The record of a sheet whose mutations are steady is its plan. -/
theorem record_of_sheetPlan {handlers : Handlers ε} {scene : Scene ε} {sheet : SheetId}
    {root : WidgetId} {steps : Nat} (isForest : scene.forest.IsForest)
    (holds : scene.HoldsTree root) (sound : scene.styles.Sound)
    (topsMade : ∀ top ∈ scene.topStyles sheet, scene.styles.Made top)
    (steady : ∀ id style mutation, scene.styles.Reached (scene.topStyles sheet) id →
      scene.styles.get? id = some style → style.body = .plain mutation → Steady handlers mutation)
    (room : scene.forest.nodes.size < steps) {runs : List Run}
    (isPlan : scene.sheetPlan steps sheet root = some runs) :
    ∃ after, scene.unrecorded.apply handlers.recording steps sheet root = some after ∧
      after.client.2 = runs := by
  have tracks : Tracks handlers.recording (scene.styles.Reached (scene.topStyles sheet)) root
      scene.unrecorded
      (fun done after => Freezes root scene.unrecorded after ∧ after.client.2 = done) := by
    refine ⟨isForest, ?_, ?_, fun led => led.1, ?_, ?_⟩
    · exact fun id reached => reached.made sound topsMade
    · exact fun upper lower reached link => reached.follow (Relation.ReflTransGen.single link)
    · rintro done before after ⟨freezes, record⟩ same holds
      exact ⟨freezes.of_sameStage same holds, by rw [same.client, record]⟩
    · rintro done before id style mutation widget reached found body inTree ⟨freezes, record⟩
      obtain ⟨after, ran, further, written⟩ := (steady id style mutation reached found body).recording
        freezes.leaves.isForest (freezes.holdsTree isForest inTree)
      exact ⟨after, ran, freezes.trans isForest inTree further, by rw [written, record]⟩
  have start : Freezes root scene.unrecorded scene.unrecorded := Freezes.refl isForest holds
  have follows := tracks.apply_follows (fun _ isTop => Styles.Reached.of_top isTop) room
    (scene.forest.covers_refl root) ⟨start, rfl⟩ rfl
  rw [unrecorded, sheetPlan_mapClient, isPlan] at follows
  obtain ⟨after, ran, -, record⟩ := follows
  exact ⟨after, ran, record⟩

end Scene

end StyledTree
