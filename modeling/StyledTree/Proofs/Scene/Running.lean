import StyledTree.Scene.Cascade
import StyledTree.Scene.Building
import StyledTree.Scene.Firing
import StyledTree.Proofs.Forest.Editing

set_option autoImplicit false

namespace StyledTree.Scene

variable {ε : Type}

/-- What a single call does to a scene, or a part of a call, while no client code runs. -/
inductive Step : Scene ε → Scene ε → Prop where
  | spawn (scene : Scene ε) (kind : Kind) : Step scene (scene.spawn kind).2
  | hold (scene : Scene ε) (widget : WidgetId) : Step scene (scene.hold widget)
  | release (scene : Scene ε) (widget : WidgetId) : Step scene (scene.release widget)
  | sweep (scene : Scene ε) : Step scene scene.sweep
  | add (scene : Scene ε) (parent child : WidgetId) : Step scene (scene.add parent child).2
  | addWith (scene : Scene ε) (parent child : WidgetId) (constraint : Constraint) :
    Step scene (scene.addWith parent child constraint).2
  | remove (scene : Scene ε) (parent child : WidgetId) : Step scene (scene.remove parent child).2
  | removeAll (scene : Scene ε) (parent : WidgetId) : Step scene (scene.removeAll parent)
  | detach (scene : Scene ε) (widget : WidgetId) : Step scene (scene.detach widget).2
  | settle (scene : Scene ε) (widget : WidgetId) (constraint : Constraint) :
    Step scene (scene.settle widget constraint).2
  | setRegion (scene : Scene ε) (pane : WidgetId) (region : Constraint)
    (widget : Option WidgetId) : Step scene (scene.setRegion pane region widget)
  | setSide (scene : Scene ε) (pane : WidgetId) (side : Constraint) (widget : Option WidgetId) :
    Step scene (scene.setSide pane side widget)
  | setView (scene : Scene ε) (pane : WidgetId) (widget : Option WidgetId) :
    Step scene (scene.setView pane widget)
  /-- A builder leaves a new widget pending before its initialiser runs. -/
  | pend (scene : Scene ε) (widget container : WidgetId) :
    Step scene (scene.update widget (fun node => { node with pending := some container }))
  /-- Names, classes, layouts, looks, texts, items, listeners and factories. -/
  | change (scene : Scene ε) (widget : WidgetId) {change : Node → Node}
    (keeps : Forest.KeepsPlace change) : Step scene (scene.update widget change)
  /-- Styles, sheets, the journal and what the client keeps for itself. -/
  | elsewhere (scene : Scene ε) {after : Scene ε} (forest : after.forest = scene.forest)
    (handles : after.handles = scene.handles) : Step scene after

/-- What calls of the library come to. Client code that a call runs is arbitrary, except that each
piece of it works through such calls as well. -/
inductive Reaches : Scene ε → Scene ε → Prop where
  | refl (scene : Scene ε) : Reaches scene scene
  | trans {before middle after : Scene ε} :
    Reaches before middle → Reaches middle after → Reaches before after
  | step {before after : Scene ε} : Step before after → Reaches before after
  | make (scene : Scene ε) (view : View) (text : String) : Reaches scene (scene.make view text).2
  | contentPane (scene : Scene ε) (frame : WidgetId) : Reaches scene (scene.contentPane frame).2
  | create {handlers : Handlers ε} {view : View} {parent widget : WidgetId} {scene after : Scene ε}
    (produces : ∀ handler before made between,
      handlers.produce handler before = some (made, between) → Reaches before between)
    (created : scene.create handlers view parent = some (widget, after)) : Reaches scene after
  | build {handlers : Handlers ε} {view : View} {parent widget : WidgetId}
    {init : WidgetId → Scene ε → Option (Scene ε)} {scene after : Scene ε}
    (produces : ∀ handler before made between,
      handlers.produce handler before = some (made, between) → Reaches before between)
    (initialises : ∀ made before between, init made before = some between → Reaches before between)
    (built : scene.build handlers view parent init = some (widget, after)) : Reaches scene after
  | click {handlers : Handlers ε} {widget : WidgetId} {count : Nat} {scene after : Scene ε}
    (runs : ∀ handler on before between,
      handlers.run handler on before = some between → Reaches before between)
    (clicked : scene.click handlers widget = some (count, after)) : Reaches scene after
  | fireMouse {handlers : Handlers ε} {widget : WidgetId} {event : Mouse.Event} {count : Nat}
    {scene after : Scene ε}
    (notifies : ∀ handler on told before between,
      handlers.notify handler on told before = some between → Reaches before between)
    (fired : scene.fireMouse handlers widget event = some (count, after)) : Reaches scene after
  | applyStyle {handlers : Handlers ε} {levels nesting : Nat} {style : StyleId}
    {widget : WidgetId} {scene after : Scene ε}
    (runs : ∀ handler on before between,
      handlers.run handler on before = some between → Reaches before between)
    (applied : scene.applyStyle handlers levels nesting style widget = some after) :
    Reaches scene after
  | apply {handlers : Handlers ε} {steps : Nat} {sheet : SheetId} {root : WidgetId}
    {scene after : Scene ε}
    (runs : ∀ handler on before between,
      handlers.run handler on before = some between → Reaches before between)
    (applied : scene.apply handlers steps sheet root = some after) : Reaches scene after
  | revalidate {handlers : Handlers ε} {steps : Nat} {sheet : SheetId} {widget : WidgetId}
    {told : Bool} {scene after : Scene ε}
    (runs : ∀ handler on before between,
      handlers.run handler on before = some between → Reaches before between)
    (revalidated : scene.revalidate handlers steps sheet widget = some (told, after)) :
    Reaches scene after

/-- A step that touches neither a style, a sheet nor a list of classes, listeners or items. The library
makes no others while it builds widgets and runs what was registered, apart from the notes that a sheet takes
of the roots. -/
structure PlainStep (before after : Scene ε) : Prop where
  step : Step before after
  sheets : after.sheets = before.sheets
  styles : after.styles = before.styles
  forest : ∀ related, Forest.ClosedUnderEdits related → related before.forest after.forest

structure Composes (related : Scene ε → Scene ε → Prop) : Prop where
  refl : ∀ scene, related scene scene
  trans : ∀ {before middle after}, related before middle → related middle after →
    related before after
  step : ∀ {before after}, PlainStep before after → related before after

/-- Either handles keep all that the container gave up, or what nothing keeps is dropped. -/
theorem carryOut_cases (scene : Scene ε) (container : WidgetId) (forest : Forest) :
    (∀ child ∈ scene.forest.lost forest container,
        isHeld { scene with forest := forest } child = true) ∧
      scene.carryOut container forest = { scene with forest := forest } ∨
    (∃ child ∈ scene.forest.lost forest container,
        ¬ isHeld { scene with forest := forest } child = true) ∧
      scene.carryOut container forest = sweep { scene with forest := forest } := by
  rw [carryOut]
  split
  · next kept => exact Or.inl ⟨List.all_eq_true.mp kept, rfl⟩
  · next dropped =>
    rw [List.all_eq_true] at dropped
    simp only [not_forall] at dropped
    obtain ⟨child, lost, notHeld⟩ := dropped
    exact Or.inr ⟨⟨child, lost, notHeld⟩, rfl⟩

theorem carryOut_of_lost_eq_nil {scene : Scene ε} {container : WidgetId} {forest : Forest}
    (nothing : scene.forest.lost forest container = []) :
    scene.carryOut container forest = { scene with forest := forest } := by
  rw [carryOut, nothing]
  rfl

/-- Nothing is done when the edit changes nothing. -/
theorem carryOut_self (scene : Scene ε) (container : WidgetId) :
    scene.carryOut container scene.forest = scene := by
  apply carryOut_of_lost_eq_nil
  rw [List.eq_nil_iff_forall_not_mem]
  intro child lost
  obtain ⟨member, left⟩ := Forest.mem_lost_iff.mp lost
  exact left member

theorem carryOut_eq (scene : Scene ε) (container : WidgetId) (forest : Forest) :
    scene.carryOut container forest =
      { scene with forest := (scene.carryOut container forest).forest } := by
  rcases scene.carryOut_cases container forest with ⟨-, same⟩ | ⟨-, same⟩
  · rw [same]
  · rw [same]
    rfl

theorem sheets_carryOut (scene : Scene ε) (container : WidgetId) (forest : Forest) :
    (scene.carryOut container forest).sheets = scene.sheets := by
  rw [carryOut_eq]

theorem styles_carryOut (scene : Scene ε) (container : WidgetId) (forest : Forest) :
    (scene.carryOut container forest).styles = scene.styles := by
  rw [carryOut_eq]

theorem handles_carryOut (scene : Scene ε) (container : WidgetId) (forest : Forest) :
    (scene.carryOut container forest).handles = scene.handles := by
  rw [carryOut_eq]

theorem related_carryOut {related : Forest → Forest → Prop} (closed : Forest.ClosedUnderEdits related)
    (scene : Scene ε) (container : WidgetId) {forest : Forest} (edited : related scene.forest forest) :
    related scene.forest (scene.carryOut container forest).forest := by
  rcases scene.carryOut_cases container forest with ⟨-, same⟩ | ⟨-, same⟩
  · rw [same]
    exact edited
  · rw [same]
    exact closed.trans edited (closed.retain forest _)

/-- A call that places a child carries its edit out, and besides that only writes to the journal. -/
theorem exists_commit_eq (scene : Scene ε) (parent child : WidgetId) (edit : Forest.Edit) :
    ∃ journal, (scene.commit parent child edit).2 =
      { scene.carryOut parent edit.2 with journal := journal } := by
  rw [commit]
  split
  · exact ⟨_, rfl⟩
  · exact ⟨_, rfl⟩

theorem exists_place_eq (scene : Scene ε) (pane : WidgetId) (widget : Option WidgetId)
    (edit : Forest.Edit) (refused : String → Fault → Event) :
    ∃ journal, scene.place pane widget edit refused =
      { scene.carryOut pane edit.2 with journal := journal } := by
  cases widget with
  | none => exact ⟨_, rfl⟩
  | some widget =>
      obtain ⟨journal, committed⟩ := exists_commit_eq scene pane widget edit
      simp only [place]
      split
      · next after same =>
        rw [same] at committed
        exact ⟨journal, committed⟩
      · next fault after same =>
        rw [same] at committed
        obtain rfl : after = _ := committed
        exact ⟨_, rfl⟩

theorem forest_commit (scene : Scene ε) (parent child : WidgetId) (edit : Forest.Edit) :
    (scene.commit parent child edit).2.forest = (scene.carryOut parent edit.2).forest := by
  obtain ⟨journal, same⟩ := exists_commit_eq scene parent child edit
  rw [same]

theorem handles_commit (scene : Scene ε) (parent child : WidgetId) (edit : Forest.Edit) :
    (scene.commit parent child edit).2.handles = scene.handles := by
  obtain ⟨journal, same⟩ := exists_commit_eq scene parent child edit
  rw [same]
  exact handles_carryOut scene parent edit.2

theorem sheets_commit (scene : Scene ε) (parent child : WidgetId) (edit : Forest.Edit) :
    (scene.commit parent child edit).2.sheets = scene.sheets := by
  obtain ⟨journal, same⟩ := exists_commit_eq scene parent child edit
  rw [same]
  exact sheets_carryOut scene parent edit.2

theorem styles_commit (scene : Scene ε) (parent child : WidgetId) (edit : Forest.Edit) :
    (scene.commit parent child edit).2.styles = scene.styles := by
  obtain ⟨journal, same⟩ := exists_commit_eq scene parent child edit
  rw [same]
  exact styles_carryOut scene parent edit.2

theorem forest_place (scene : Scene ε) (pane : WidgetId) (widget : Option WidgetId)
    (edit : Forest.Edit) (refused : String → Fault → Event) :
    (scene.place pane widget edit refused).forest = (scene.carryOut pane edit.2).forest := by
  obtain ⟨journal, same⟩ := exists_place_eq scene pane widget edit refused
  rw [same]

theorem handles_place (scene : Scene ε) (pane : WidgetId) (widget : Option WidgetId)
    (edit : Forest.Edit) (refused : String → Fault → Event) :
    (scene.place pane widget edit refused).handles = scene.handles := by
  obtain ⟨journal, same⟩ := exists_place_eq scene pane widget edit refused
  rw [same]
  exact handles_carryOut scene pane edit.2

/-- What a step does to the forest and the handles: all calls that edit links do it in one way. -/
inductive Effect (before : Scene ε) : Scene ε → Prop where
  | edits {after : Scene ε} {container : WidgetId} {edited : Forest}
    (edits : before.forest.EditsAt container edited)
    (forest : after.forest = (before.carryOut container edited).forest)
    (handles : after.handles = before.handles) : Effect before after
  | spawn (kind : Kind) : Effect before (before.spawn kind).2
  | release (widget : WidgetId) : Effect before (before.release widget)
  | sweep : Effect before before.sweep
  | pend (widget container : WidgetId) :
    Effect before (before.update widget (fun node => { node with pending := some container }))
  | change (widget : WidgetId) {change : Node → Node} (keeps : Forest.KeepsPlace change) :
    Effect before (before.update widget change)
  | same {after : Scene ε} (forest : after.forest = before.forest)
    (handles : before.handles ⊆ after.handles) : Effect before after

theorem Step.effect {before after : Scene ε} (step : Step before after) : Effect before after := by
  cases step with
  | spawn kind => exact .spawn kind
  | hold widget => exact .same rfl (List.subset_cons_self widget before.handles)
  | release widget => exact .release widget
  | sweep => exact .sweep
  | add parent child =>
      exact .edits (before.forest.editsAt_add parent child) (forest_commit _ _ _ _)
        (handles_commit _ _ _ _)
  | addWith parent child constraint =>
      exact .edits (before.forest.editsAt_addWith parent child constraint) (forest_commit _ _ _ _)
        (handles_commit _ _ _ _)
  | remove parent child => exact .edits (.remove child) rfl (handles_carryOut _ parent _)
  | removeAll parent => exact .edits .removeAll rfl (handles_carryOut _ parent _)
  | detach widget =>
      rw [Scene.detach]
      split
      · next parent _ => exact .edits (.remove widget) rfl (handles_carryOut _ parent _)
      · exact .same rfl (List.Subset.refl _)
  | settle widget constraint =>
      exact .edits (before.forest.editsAt_settle widget constraint) (forest_commit _ _ _ _)
        (handles_commit _ _ _ _)
  | setRegion pane region widget =>
      exact .edits (before.forest.editsAt_setPlace pane region widget) (forest_place _ _ _ _ _)
        (handles_place _ _ _ _ _)
  | setSide pane side widget =>
      exact .edits (before.forest.editsAt_setPlace pane side widget) (forest_place _ _ _ _ _)
        (handles_place _ _ _ _ _)
  | setView pane widget =>
      exact .edits (before.forest.editsAt_setView pane widget) (forest_place _ _ _ _ _)
        (handles_place _ _ _ _ _)
  | pend widget container => exact .pend widget container
  | change widget keeps => exact .change widget keeps
  | elsewhere forest handles => exact .same forest (handles ▸ List.Subset.refl _)

theorem sheets_release (scene : Scene ε) (widget : WidgetId) :
    (scene.release widget).sheets = scene.sheets := by
  rw [release]
  split <;> rfl

theorem styles_release (scene : Scene ε) (widget : WidgetId) :
    (scene.release widget).styles = scene.styles := by
  rw [release]
  split <;> rfl

namespace PlainStep

theorem of_same_forest {before after : Scene ε} (step : Step before after)
    (sheets : after.sheets = before.sheets) (styles : after.styles = before.styles)
    (forest : after.forest = before.forest) : PlainStep before after :=
  ⟨step, sheets, styles, fun _ closed => forest ▸ closed.refl before.forest⟩

theorem note (scene : Scene ε) (event : Event) : PlainStep scene (scene.note event) :=
  of_same_forest (Step.elsewhere scene rfl rfl) rfl rfl rfl

theorem hold (scene : Scene ε) (widget : WidgetId) : PlainStep scene (scene.hold widget) :=
  of_same_forest (Step.hold scene widget) rfl rfl rfl

theorem release (scene : Scene ε) (widget : WidgetId) :
    PlainStep scene (scene.release widget) := by
  refine ⟨Step.release scene widget, sheets_release scene widget, styles_release scene widget,
    fun _ closed => ?_⟩
  rw [Scene.release]
  split
  · exact closed.refl scene.forest
  · exact closed.retain scene.forest _

theorem spawn (scene : Scene ε) (kind : Kind) : PlainStep scene (scene.spawn kind).2 :=
  ⟨Step.spawn scene kind, rfl, rfl, fun _ closed => closed.create scene.forest kind⟩

theorem add (scene : Scene ε) (parent child : WidgetId) :
    PlainStep scene (scene.add parent child).2 := by
  refine ⟨Step.add scene parent child, sheets_commit _ _ _ _, styles_commit _ _ _ _,
    fun _ closed => ?_⟩
  rw [Scene.add, forest_commit]
  exact related_carryOut closed scene parent ((scene.forest.editsAt_add parent child).related closed)

theorem addWith (scene : Scene ε) (parent child : WidgetId) (constraint : Constraint) :
    PlainStep scene (scene.addWith parent child constraint).2 := by
  refine ⟨Step.addWith scene parent child constraint, sheets_commit _ _ _ _, styles_commit _ _ _ _,
    fun _ closed => ?_⟩
  rw [Scene.addWith, forest_commit]
  exact related_carryOut closed scene parent
    ((scene.forest.editsAt_addWith parent child constraint).related closed)

theorem pend (scene : Scene ε) (widget container : WidgetId) :
    PlainStep scene (scene.update widget (fun node => { node with pending := some container })) :=
  ⟨Step.pend scene widget container, rfl, rfl, fun _ closed => closed.update scene.forest widget {}⟩

/-- Other fields of a widget are changed. -/
theorem change (scene : Scene ε) (widget : WidgetId) {change : Node → Node}
    (keeps : Forest.KeepsPlace change) (traits : Forest.KeepsTraits change) :
    PlainStep scene (scene.update widget change) :=
  ⟨Step.change scene widget keeps, rfl, rfl, fun _ closed => closed.update scene.forest widget traits⟩

end PlainStep

namespace Composes

variable {related : Scene ε → Scene ε → Prop} {handlers : Handlers ε}

theorem note (composes : Composes related) (scene : Scene ε) (event : Event) :
    related scene (scene.note event) :=
  composes.step (PlainStep.note scene event)

theorem release (composes : Composes related) (scene : Scene ε) (widget : WidgetId) :
    related scene (scene.release widget) :=
  composes.step (PlainStep.release scene widget)

/-! Making widgets. -/

theorem attachContent (composes : Composes related) (scene : Scene ε) (frame : WidgetId) :
    related scene (scene.attachContent frame).2 := by
  have spawned := composes.step (PlainStep.spawn scene .panel)
  have placed := composes.trans spawned (composes.step
    (PlainStep.addWith (scene.spawn .panel).2 frame (scene.spawn .panel).1 .center))
  simp only [Scene.attachContent]
  split
  · next after same =>
    rw [same] at placed
    exact placed
  · next fault after same =>
    rw [same] at placed
    exact composes.trans placed (composes.note after _)

theorem contentPane (composes : Composes related) (scene : Scene ε) (frame : WidgetId) :
    related scene (scene.contentPane frame).2 := by
  simp only [Scene.contentPane]
  split
  · next child _ =>
    split
    · exact composes.step (PlainStep.hold scene child)
    · exact composes.attachContent scene frame
  · exact composes.attachContent scene frame

theorem make (composes : Composes related) (scene : Scene ε) (view : View) (text : String) :
    related scene (scene.make view text).2 := by
  have spawned := composes.step (PlainStep.spawn scene view.kind)
  have keeps : Forest.KeepsPlace (fun node => { node with text := some text }) := {}
  have written := composes.trans spawned (composes.step
    (PlainStep.change (scene.spawn view.kind).2 (scene.spawn view.kind).1 keeps {}))
  cases view
  case button => exact written
  case label => exact written
  case frame =>
    exact composes.trans (composes.trans written (composes.attachContent _ _))
      (composes.release _ _)
  all_goals exact spawned

theorem factoryFor (composes : Composes related) (scene : Scene ε) (view : View) (widget : WidgetId) :
    related scene (scene.factoryFor view widget).2 := by
  simp only [Scene.factoryFor]
  split
  · exact composes.refl scene
  · exact composes.refl scene
  · exact composes.note scene _

theorem create (composes : Composes related) {view : View} {parent widget : WidgetId}
    {scene after : Scene ε}
    (produces : ∀ handler before made between,
      handlers.produce handler before = some (made, between) → related before between)
    (created : scene.create handlers view parent = some (widget, after)) :
    related scene after := by
  have searched := composes.factoryFor scene view parent
  simp only [Scene.create] at created
  split at created
  · next between same =>
    rw [same] at searched
    simp only [Option.some.injEq] at created
    have made := composes.make between view ""
    rw [created] at made
    exact composes.trans searched made
  · next handler between same =>
    rw [same] at searched
    obtain ⟨⟨product, produced⟩, ran, rest⟩ := Option.bind_eq_some_iff.mp created
    have reached := composes.trans searched (produces handler between product produced ran)
    dsimp only at rest
    split at rest
    · simp only [Option.some.injEq, Prod.mk.injEq] at rest
      rw [← rest.2]
      exact reached
    · simp only [Option.some.injEq] at rest
      have noted := composes.note produced (.productRefused view (produced.describe product))
      have released := composes.trans noted (composes.release _ product)
      have made := composes.trans released (composes.make _ view "")
      rw [rest] at made
      exact composes.trans reached made

theorem build (composes : Composes related) {view : View} {parent widget : WidgetId}
    {init : WidgetId → Scene ε → Option (Scene ε)} {scene after : Scene ε}
    (produces : ∀ handler before made between,
      handlers.produce handler before = some (made, between) → related before between)
    (initialises : ∀ made before between,
      init made before = some between → related before between)
    (built : scene.build handlers view parent init = some (widget, after)) :
    related scene after := by
  simp only [Scene.build] at built
  obtain ⟨⟨made, created⟩, creation, rest⟩ := Option.bind_eq_some_iff.mp built
  obtain ⟨ready, initialised, rest⟩ := Option.bind_eq_some_iff.mp rest
  have start := composes.create produces creation
  have pending := composes.trans start (composes.step (PlainStep.pend created made parent))
  have reached := composes.trans pending (initialises made _ ready initialised)
  split at rest
  · have placed := composes.trans reached
      (composes.step (PlainStep.add ready parent made))
    split at rest
    · next same =>
      rw [same] at placed
      simp only [Option.some.injEq, Prod.mk.injEq] at rest
      rw [← rest.2]
      exact placed
    · next fault between same =>
      rw [same] at placed
      simp only [Option.some.injEq, Prod.mk.injEq] at rest
      rw [← rest.2]
      exact composes.trans placed (composes.note between _)
  · simp only [Option.some.injEq, Prod.mk.injEq] at rest
    rw [← rest.2]
    exact composes.trans reached (composes.note ready _)

/-! Running what was registered. -/

/-- Doing one thing after the other is a run if each thing is. -/
theorem foldlM (composes : Composes related) {β : Type} {act : Scene ε → β → Option (Scene ε)}
    (each : ∀ before item after, act before item = some after → related before after)
    {items : List β} {scene after : Scene ε} (done : items.foldlM act scene = some after) :
    related scene after := by
  induction items generalizing scene with
  | nil =>
      simp only [List.foldlM_nil, Option.pure_def, Option.some.injEq] at done
      rw [← done]
      exact composes.refl scene
  | cons item rest ih =>
      rw [List.foldlM_cons] at done
      obtain ⟨middle, first, others⟩ := Option.bind_eq_some_iff.mp done
      exact composes.trans (each scene item middle first) (ih others)

theorem foldl (composes : Composes related) {β : Type} {act : Scene ε → β → Scene ε}
    (each : ∀ scene item, related scene (act scene item)) (items : List β) (scene : Scene ε) :
    related scene (items.foldl act scene) := by
  induction items generalizing scene with
  | nil => exact composes.refl scene
  | cons item rest ih => exact composes.trans (each scene item) (ih _)

theorem click (composes : Composes related) {widget : WidgetId} {count : Nat} {scene after : Scene ε}
    (runs : ∀ handler on before between,
      handlers.run handler on before = some between → related before between)
    (clicked : scene.click handlers widget = some (count, after)) : related scene after := by
  simp only [Scene.click] at clicked
  split at clicked
  · simp only [Option.some.injEq, Prod.mk.injEq] at clicked
    rw [← clicked.2]
    exact composes.refl scene
  · split at clicked
    · obtain ⟨reached, ran, same⟩ := Option.map_eq_some_iff.mp clicked
      simp only [Prod.mk.injEq] at same
      rw [← same.2]
      exact composes.foldlM (fun before handler between => runs handler widget before between) ran
    · simp only [Option.some.injEq, Prod.mk.injEq] at clicked
      rw [← clicked.2]
      exact composes.refl scene

theorem fireMouse (composes : Composes related) {widget : WidgetId} {event : Mouse.Event}
    {count : Nat} {scene after : Scene ε}
    (notifies : ∀ handler on told before between,
      handlers.notify handler on told before = some between → related before between)
    (fired : scene.fireMouse handlers widget event = some (count, after)) :
    related scene after := by
  simp only [Scene.fireMouse] at fired
  obtain ⟨reached, ran, same⟩ := Option.map_eq_some_iff.mp fired
  simp only [Prod.mk.injEq] at same
  rw [← same.2]
  exact composes.foldlM
    (fun before handler between => notifies handler widget event before between) ran

/-! Applying styles. -/

theorem visitAll (composes : Composes related) {visit : WidgetId → Scene ε → Option (Scene ε)}
    (visits : ∀ widget before after, visit widget before = some after → related before after)
    {widgets : List WidgetId} {scene after : Scene ε}
    (visited : scene.visitAll visit widgets = some after) : related scene after := by
  have held := composes.foldl
    (fun before widget => composes.step (PlainStep.hold before widget)) widgets scene
  refine composes.trans held (composes.foldlM ?_ visited)
  intro before widget between one
  obtain ⟨reached, ran, same⟩ := Option.map_eq_some_iff.mp one
  rw [← same]
  exact composes.trans (visits widget before reached ran) (composes.release reached widget)

theorem walk (composes : Composes related)
    {evaluate : StyleId → WidgetId → Scene ε → Option (Scene ε)}
    (evaluates : ∀ style widget before after,
      evaluate style widget before = some after → related before after)
    {styles : List StyleId} {levels : Nat} {widget : WidgetId} {scene after : Scene ε}
    (walked : scene.walk evaluate styles levels widget = some after) : related scene after := by
  induction levels generalizing widget scene after with
  | zero => cases walked
  | succ levels ih =>
      simp only [Scene.walk] at walked
      obtain ⟨middle, here, below⟩ := Option.bind_eq_some_iff.mp walked
      refine composes.trans (composes.foldlM ?_ here) (composes.visitAll ?_ below)
      · exact fun before style between => evaluates style widget before between
      · exact fun child before between => ih

theorem evaluate (composes : Composes related)
    {apply : StyleId → WidgetId → Scene ε → Option (Scene ε)}
    (applies : ∀ style widget before after,
      apply style widget before = some after → related before after)
    {style : StyleId} {widget : WidgetId} {scene after : Scene ε}
    (evaluated : scene.evaluate apply style widget = some after) : related scene after := by
  simp only [Scene.evaluate] at evaluated
  split at evaluated
  · cases evaluated
    exact composes.refl scene
  · split at evaluated
    · exact composes.trans (composes.note scene _) (applies style widget _ after evaluated)
    · cases evaluated
      exact composes.refl scene

theorem applyStyle (composes : Composes related) {levels nesting : Nat} {style : StyleId}
    {widget : WidgetId} {scene after : Scene ε}
    (runs : ∀ handler on before between,
      handlers.run handler on before = some between → related before between)
    (applied : scene.applyStyle handlers levels nesting style widget = some after) :
    related scene after := by
  induction nesting generalizing style widget scene after with
  | zero => cases applied
  | succ nesting ih =>
      simp only [Scene.applyStyle] at applied
      split at applied
      · cases applied
        exact composes.refl scene
      · split at applied
        · next mutation _ =>
          split at applied
          · exact runs mutation widget scene after applied
          · cases applied
            exact composes.note scene _
        · next wrapped _ _ =>
          have afterSheets : ∀ (middle : Scene ε) (sheets : List ChildSheet),
              sheets.foldlM (fun scene child =>
                Scene.applyScoped (Scene.evaluate (Scene.applyStyle handlers levels nesting))
                  child.sheet levels widget scene) middle = some after → related middle after := by
            intro middle sheets done
            refine composes.foldlM ?_ done
            intro before child between walked
            exact composes.walk
              (fun _ _ _ _ evaluated => composes.evaluate (fun _ _ _ _ => ih) evaluated) walked
          cases wrapped with
          | none => exact afterSheets scene _ applied
          | some inner =>
              obtain ⟨middle, ran, sheets⟩ := Option.bind_eq_some_iff.mp applied
              exact composes.trans (ih ran) (afterSheets middle _ sheets)

theorem cascade (composes : Composes related) {steps : Nat} {styles : List StyleId}
    {widget : WidgetId} {scene after : Scene ε}
    (runs : ∀ handler on before between,
      handlers.run handler on before = some between → related before between)
    (cascaded : scene.cascade handlers steps styles widget = some after) : related scene after :=
  composes.walk (fun _ _ _ _ evaluated =>
    composes.evaluate (fun _ _ _ _ => composes.applyStyle runs) evaluated) cascaded

theorem apply (composes : Composes related) {steps : Nat} {sheet : SheetId} {root : WidgetId}
    {scene after : Scene ε}
    (updates : ∀ scene change, related scene (scene.updateSheet sheet change))
    (runs : ∀ handler on before between,
      handlers.run handler on before = some between → related before between)
    (applied : scene.apply handlers steps sheet root = some after) : related scene after := by
  have pruned := updates scene
    (fun held => { held with roots := held.roots.filter scene.forest.contains })
  have recorded : related scene (scene.recordRoot sheet root) :=
    composes.trans pruned (updates _ _)
  exact composes.trans (composes.trans recorded (composes.note _ _)) (composes.cascade runs applied)

theorem revalidate (composes : Composes related) {steps : Nat} {sheet : SheetId} {widget : WidgetId}
    {told : Bool} {scene after : Scene ε}
    (updates : ∀ scene change, related scene (scene.updateSheet sheet change))
    (runs : ∀ handler on before between,
      handlers.run handler on before = some between → related before between)
    (revalidated : scene.revalidate handlers steps sheet widget = some (told, after)) :
    related scene after := by
  have pruned : related scene (scene.pruneRoots sheet) := updates scene _
  simp only [Scene.revalidate] at revalidated
  split at revalidated
  · simp only [Option.some.injEq, Prod.mk.injEq] at revalidated
    rw [← revalidated.2]
    exact composes.trans pruned (composes.note _ _)
  · next root _ =>
    obtain ⟨reached, applied, same⟩ := Option.map_eq_some_iff.mp revalidated
    simp only [Prod.mk.injEq] at same
    rw [← same.2]
    have again := composes.trans (composes.step (PlainStep.hold _ root))
      (composes.apply updates runs applied)
    exact composes.trans (composes.trans (composes.trans pruned (composes.note _ _)) again)
      (composes.release reached root)

end Composes

structure Closed (related : Scene ε → Scene ε → Prop) : Prop where
  refl : ∀ scene, related scene scene
  trans : ∀ {before middle after}, related before middle → related middle after →
    related before after
  step : ∀ {before after}, Step before after → related before after

namespace Closed

variable {related : Scene ε → Scene ε → Prop} {handlers : Handlers ε}

theorem composes (closed : Closed related) : Composes related :=
  ⟨closed.refl, closed.trans, fun plain => closed.step plain.step⟩

theorem updateSheet (closed : Closed related) (scene : Scene ε) (sheet : SheetId)
    (change : Sheet → Sheet) : related scene (scene.updateSheet sheet change) :=
  closed.step (Step.elsewhere scene rfl rfl)

end Closed

namespace Reaches

/-- A run is within every relation that holds along steps. -/
theorem within {related : Scene ε → Scene ε → Prop} (closed : Closed related)
    {before after : Scene ε} (reaches : Reaches before after) : related before after := by
  induction reaches with
  | refl scene => exact closed.refl scene
  | trans _ _ first second => exact closed.trans first second
  | step one => exact closed.step one
  | make scene view text => exact closed.composes.make scene view text
  | contentPane scene frame => exact closed.composes.contentPane scene frame
  | create _ created produces => exact closed.composes.create produces created
  | build _ _ built produces initialises => exact closed.composes.build produces initialises built
  | click _ clicked runs => exact closed.composes.click runs clicked
  | fireMouse _ fired notifies => exact closed.composes.fireMouse notifies fired
  | applyStyle _ applied runs => exact closed.composes.applyStyle runs applied
  | @apply _ _ sheet _ _ _ _ applied runs =>
      exact closed.composes.apply (fun scene => closed.updateSheet scene sheet) runs applied
  | @revalidate _ _ sheet _ _ _ _ _ revalidated runs =>
      exact closed.composes.revalidate (fun scene => closed.updateSheet scene sheet) runs revalidated

/-- What every step keeps is kept by every run, whatever client code takes part in it. -/
theorem invariant {holds : Scene ε → Prop}
    (kept : ∀ {before after}, Step before after → holds before → holds after)
    {before after : Scene ε} (reaches : Reaches before after) (start : holds before) :
    holds after := by
  have closed : Closed (fun before after : Scene ε => holds before → holds after) :=
    ⟨fun _ held => held, fun first second held => second (first held), kept⟩
  exact reaches.within closed start

end Reaches

end StyledTree.Scene
