import StyledTree.Session.Inspect
import StyledTree.Proofs.Scene.Running

set_option autoImplicit false

namespace StyledTree.Session

open Scene (Reaches Step)

/-- Wherever an action ends, even when it is refused, calls of the library lead there. -/
def Runs {α : Type} (action : Action α) : Prop :=
  ∀ before outcome after, action.run before = some (outcome, after) → Reaches before after

variable {α β : Type}

/-! Actions that are put together from others. -/

theorem Runs.pure (value : α) : Runs (Pure.pure value) := by
  intro before outcome after ended
  cases ended
  exact Reaches.refl before

theorem Runs.refuse (refusal : Refusal) : Runs (Session.refuse (α := α) refusal) := by
  intro before outcome after ended
  cases ended
  exact Reaches.refl before

theorem Runs.bind {action : Action α} {next : α → Action β} (first : Runs action)
    (others : ∀ value, Runs (next value)) : Runs (action >>= next) := by
  intro before outcome after ended
  obtain ⟨⟨told, middle⟩, ran, rest⟩ := Option.bind_eq_some_iff.mp ended
  have reached := first before told middle ran
  cases told with
  | error refusal =>
      cases rest
      exact reached
  | ok value => exact Reaches.trans reached (others value middle outcome after rest)

theorem Runs.get : Runs (MonadState.get : Action State) := by
  intro before outcome after ended
  cases ended
  exact Reaches.refl before

theorem Runs.changing {step : State → α × State} (reaches : ∀ state, Reaches state (step state).2) :
    Runs (Session.changing step) := by
  intro before outcome after ended
  cases ended
  exact reaches before

theorem Runs.modify {step : State → State} (reaches : ∀ state, Reaches state (step state)) :
    Runs (Session.change step) := by
  intro before outcome after ended
  cases ended
  exact reaches before

theorem Runs.running {step : State → Option (α × State)}
    (reaches : ∀ state value after, step state = some (value, after) → Reaches state after) :
    Runs (Session.running step) := by
  intro before outcome after ended
  obtain ⟨⟨value, reached⟩, ran, rest⟩ := Option.bind_eq_some_iff.mp ended
  cases rest
  exact reaches before value _ ran

theorem Runs.runningOnly {step : State → Option State}
    (reaches : ∀ state after, step state = some after → Reaches state after) :
    Runs (Session.runningOnly step) := by
  apply Runs.running
  intro state value after ended
  obtain ⟨reached, ran, same⟩ := Option.map_eq_some_iff.mp ended
  cases same
  exact reaches state _ ran

/-! Endings of commands. -/

theorem Runs.get_pure (answer : State → α) :
    Runs (do return answer (← MonadState.get)) :=
  Runs.bind Runs.get (fun state => Runs.pure (answer state))

theorem Runs.modify_pure {step : State → State} (reaches : ∀ state, Reaches state (step state))
    (answer : α) : Runs (do Session.change step; return answer) :=
  Runs.bind (Runs.modify reaches) (fun _ => Runs.pure answer)

theorem Runs.changing_pure {step : State → α × State}
    (reaches : ∀ state, Reaches state (step state).2) (answer : α → β) :
    Runs (do return answer (← Session.changing step)) :=
  Runs.bind (Runs.changing reaches) (fun told => Runs.pure (answer told))

theorem Runs.running_pure {step : State → Option (α × State)}
    (reaches : ∀ state value after, step state = some (value, after) → Reaches state after)
    (answer : α → β) : Runs (do return answer (← Session.running step)) :=
  Runs.bind (Runs.running reaches) (fun told => Runs.pure (answer told))

theorem Runs.runningOnly_pure {step : State → Option State}
    (reaches : ∀ state after, step state = some after → Reaches state after) (answer : α) :
    Runs (do Session.runningOnly step; return answer) :=
  Runs.bind (Runs.runningOnly reaches) (fun _ => Runs.pure answer)

/-! What the session does to its state by itself. -/

theorem reaches_withClient (state : State) (change : Client → Client) :
    Reaches state (state.withClient change) :=
  Reaches.step (Step.elsewhere state rfl rfl)

theorem reaches_pin (state : State) (widget : WidgetId) : Reaches state (state.pin widget) :=
  reaches_withClient state _

theorem reaches_note (state : State) (event : Event) : Reaches state (state.note event) :=
  Reaches.step (Step.elsewhere state rfl rfl)

theorem reaches_traceAnswer (state : State) (answer : Answer) :
    Reaches state (state.traceAnswer answer) := by
  rw [State.traceAnswer]
  split
  · exact Reaches.refl state
  · exact reaches_withClient state _

theorem reaches_bindWidget (state : State) (name : String) (widget : WidgetId) :
    Reaches state (state.bindWidget name widget) := by
  have held := Reaches.step (Step.hold state widget)
  have bound := Reaches.trans held (reaches_withClient (state.hold widget)
    (fun client => { client with widgets := client.widgets.bind name widget }))
  simp only [State.bindWidget]
  split
  · exact Reaches.trans bound (Reaches.step (Step.release _ _))
  · exact bound

theorem reaches_unbindWidget (state : State) (name : String) :
    Reaches state (state.unbindWidget name).2 := by
  rw [State.unbindWidget]
  split
  · exact Reaches.refl state
  · exact Reaches.trans (reaches_withClient state _) (Reaches.step (Step.release _ _))

/-! Small actions. -/

theorem runs_widget (name : String) : Runs (widget name) := by
  apply Runs.bind Runs.get
  intro state
  split
  · exact Runs.refuse _
  · next found _ =>
    refine Runs.bind (Runs.modify ?_) (fun _ => Runs.pure found)
    intro state
    exact Reaches.trans (Reaches.step (Step.hold state found)) (reaches_pin _ found)

theorem runs_owning {step : State → WidgetId × State}
    (reaches : ∀ state, Reaches state (step state).2) : Runs (owning step) := by
  apply Runs.changing
  intro state
  exact Reaches.trans (reaches state) (reaches_pin (step state).2 (step state).1)

theorem runs_node (widget : WidgetId) : Runs (node widget) :=
  Runs.bind Runs.get (fun _ => Runs.pure _)

theorem runs_style (name : String) : Runs (style name) := by
  apply Runs.bind Runs.get
  intro state
  split
  · exact Runs.refuse _
  · exact Runs.pure _

theorem runs_chainStyle (name : String) : Runs (chainStyle name) := by
  apply Runs.bind (runs_style name)
  intro id
  apply Runs.bind Runs.get
  intro state
  split
  · exact Runs.pure _
  · exact Runs.refuse _

theorem runs_sheet (name : String) : Runs (sheet name) := by
  apply Runs.bind Runs.get
  intro state
  split
  · exact Runs.refuse _
  · exact Runs.pure _

theorem runs_bindWidget (bound : Option String) (widget : WidgetId) :
    Runs (bindWidget bound widget) := by
  cases bound with
  | none => exact Runs.pure _
  | some name => exact Runs.modify (fun state => reaches_bindWidget state name widget)

theorem runs_bindStyle (bound : Option String) (style : StyleId) :
    Runs (bindStyle bound style) := by
  cases bound with
  | none => exact Runs.pure _
  | some name => exact Runs.modify (fun state => reaches_withClient state _)

theorem runs_viewed (view : View) (name : String) : Runs (viewed view name) := by
  apply Runs.bind (runs_widget name)
  intro found
  apply Runs.bind (runs_node found)
  intro held
  dsimp only
  split
  · exact Runs.pure _
  · exact Runs.refuse _

theorem runs_readSelector (text : String) : Runs (readSelector text) := by
  rw [readSelector]
  split
  · exact Runs.refuse _
  · refine Runs.bind (Runs.modify ?_) (fun _ => Runs.pure _)
    intro state
    split
    · exact Reaches.refl state
    · exact reaches_note state _

theorem runs_newRoutine (script : Script) (product : Option Product) :
    Runs (newRoutine script product) := by
  apply Runs.changing
  intro state
  dsimp only
  exact reaches_withClient state _

theorem runs_widgetAnswer (widget : WidgetId) : Runs (widgetAnswer widget) :=
  Runs.bind Runs.get (fun _ => Runs.pure _)

theorem runs_styleAnswer (style : StyleId) : Runs (styleAnswer style) :=
  Runs.bind Runs.get (fun _ => Runs.pure _)

theorem runs_attempt {step : State → Except Fault Unit × State}
    (reaches : ∀ state, Reaches state (step state).2) : Runs (attempt step) := by
  apply Runs.bind (Runs.changing reaches)
  intro told
  cases told with
  | ok _ => exact Runs.pure _
  | error fault => exact Runs.refuse _

/-! Changes of one widget. -/

theorem keepsPlace_addClass (text : String) :
    Forest.KeepsPlace (fun node => (node.addClass text).2) := by
  refine ⟨⟨?_, ?_, ?_⟩, ?_, ?_⟩ <;> (intro node; simp only [Node.addClass]; split <;> rfl)

theorem keepsPlace_removeClass (name : String) :
    Forest.KeepsPlace (fun node => (node.removeClass name).2) := {}

theorem keepsPlace_comp {first second : Node → Node} (one : Forest.KeepsPlace first)
    (other : Forest.KeepsPlace second) : Forest.KeepsPlace (fun node => second (first node)) :=
  ⟨⟨fun node => (other.kind _).trans (one.kind node),
    fun node => (other.parent _).trans (one.parent node),
    fun node => (other.children _).trans (one.children node)⟩,
    fun node => (other.constraint _).trans (one.constraint node),
    fun node => (other.pending _).trans (one.pending node)⟩

theorem keepsPlace_ite {test : Node → Bool} {first second : Node → Node}
    (one : Forest.KeepsPlace first) (other : Forest.KeepsPlace second) :
    Forest.KeepsPlace (fun node => if test node then first node else second node) := by
  refine ⟨⟨?_, ?_, ?_⟩, ?_, ?_⟩ <;> intro node <;> split
  · exact one.kind node
  · exact other.kind node
  · exact one.parent node
  · exact other.parent node
  · exact one.children node
  · exact other.children node
  · exact one.constraint node
  · exact other.constraint node
  · exact one.pending node
  · exact other.pending node

theorem keepsPlace_foldl {change : Node → α → Node}
    (each : ∀ item, Forest.KeepsPlace (fun node => change node item)) (items : List α) :
    Forest.KeepsPlace (fun node => items.foldl change node) := by
  induction items with
  | nil => exact {}
  | cons item rest ih => exact keepsPlace_comp (each item) ih

theorem keepsPlace_setClasses (text : String) :
    Forest.KeepsPlace (fun node => node.setClasses text) := by
  have cleared : Forest.KeepsPlace (fun node => { node with classes := [] }) := {}
  exact keepsPlace_comp cleared
    (keepsPlace_foldl (fun word => keepsPlace_addClass (String.ofList word)) _)

theorem keepsPlace_applyTo (change : Change) : Forest.KeepsPlace change.applyTo := by
  cases change
  case setClasses text => exact keepsPlace_setClasses text
  case setLayout layout => exact Forest.KeepsPlace.setLayout layout
  case setOrientation axis => exact Forest.KeepsPlace.setLayout (.box axis)
  all_goals exact {}

theorem keepsPlace_editClass (edit : ClassEdit) (text : String) :
    Forest.KeepsPlace (fun node => (edit.applyTo node text).2) := by
  cases edit with
  | add => exact keepsPlace_addClass text
  | remove => exact keepsPlace_removeClass text
  | toggle =>
      have branches : (fun node : Node => (ClassEdit.toggle.applyTo node text).2) = fun node =>
          if (node.removeClass text).1 then (node.removeClass text).2
          else (node.addClass text).2 := by
        funext node
        simp only [ClassEdit.applyTo, Node.toggleClass]
        split <;> rfl
      rw [branches]
      exact keepsPlace_ite (keepsPlace_removeClass text) (keepsPlace_addClass text)

theorem reaches_update (state : State) (widget : WidgetId) {change : Node → Node}
    (keeps : Forest.KeepsPlace change) : Reaches state (state.update widget change) :=
  Reaches.step (Step.change state widget keeps)

theorem runs_viewed? (view : Option View) (name : String) : Runs (viewed? view name) := by
  cases view with
  | none => exact runs_widget name
  | some view => exact runs_viewed view name

theorem runs_checkText (widget : WidgetId) (needed : Bool) : Runs (checkText widget needed) := by
  apply Runs.bind (runs_node widget)
  intro held
  dsimp only
  split
  · exact Runs.refuse _
  · exact Runs.pure _

theorem runs_find (name : String) (route : Route) (bound : Option String) :
    Runs (find name route bound) := by
  apply Runs.bind (runs_viewed? route.view? name)
  intro start
  apply Runs.bind Runs.get
  intro state
  split
  · exact Runs.pure _
  · exact Runs.bind (runs_bindWidget bound _) (fun _ => runs_widgetAnswer _)

theorem runs_ask (name : String) (query : Query) : Runs (ask name query) := by
  apply Runs.bind (runs_viewed? query.view? name)
  intro asked
  apply Runs.bind (runs_checkText asked _)
  intro _
  apply Runs.bind Runs.get
  intro state
  exact Runs.bind (runs_node asked) (fun _ => Runs.pure _)

theorem runs_changeWidget (name : String) (change : Change) : Runs (changeWidget name change) := by
  apply Runs.bind (runs_viewed? change.view? name)
  intro changed
  apply Runs.bind (runs_checkText changed _)
  intro _
  apply Runs.modify_pure
  exact fun state => reaches_update state changed (keepsPlace_applyTo change)

/-- The node that is written back is an edit of the node that was read. -/
theorem runs_editClass (name : String) (edit : ClassEdit) (text : String) :
    Runs (editClass name edit text) := by
  apply Runs.bind (runs_widget name)
  intro edited before outcome after ended
  cases ended
  have same : before.forest.update edited
        (fun _ => (edit.applyTo ((before.forest.get? edited).getD default) text).2) =
      before.forest.update edited (fun node => (edit.applyTo node text).2) := by
    apply Forest.update_congr
    intro node there
    rw [there, Option.getD_some]
  have reached := reaches_update before edited (keepsPlace_editClass edit text)
  rw [Scene.update, ← same] at reached
  exact reached

end StyledTree.Session
