import StyledTree.Session.Execute
import StyledTree.Proofs.Scene.Shape
import StyledTree.Proofs.Session.Actions

set_option autoImplicit false

namespace StyledTree.Session

open Scene (Reaches Step)

/-- What an executor does is a run. -/
def Lawful (execute : Executor) : Prop :=
  ∀ command before answer after, execute command before = some (answer, after) →
    Reaches before after

theorem closed_reaches : Scene.Closed (Reaches (ε := Client)) :=
  ⟨Reaches.refl, Reaches.trans, Reaches.step⟩

/-! Styles and sheets, which no widget depends on. -/

theorem reaches_nest (state : State) (parent style : StyleId) :
    Reaches state (state.nest parent style).2 := by
  simp only [Scene.nest]
  split <;> exact Reaches.step (Step.elsewhere state rfl rfl)

theorem reaches_takeOut (state : State) (sheet : SheetId) (style : StyleId)
    (chain : Option StyleId) : Reaches state (state.takeOut sheet style chain).2 := by
  rw [Scene.takeOut.eq_def]
  split
  · next taken found =>
    obtain ⟨top, -, same⟩ := Option.map_eq_some_iff.mp found
    rw [← same]
    exact Reaches.step (Step.elsewhere state rfl rfl)
  · exact Reaches.step (Step.elsewhere state rfl rfl)
  · exact Reaches.refl state

theorem reaches_chainFor (state : State) (sheet : SheetId) (style : StyleId) :
    Reaches state (state.chainFor sheet style).2 := by
  rw [Scene.chainFor]
  split
  · exact Reaches.refl state
  · dsimp only
    split <;> exact Reaches.step (Step.elsewhere state rfl rfl)

theorem reaches_chain (state : State) (sheet : SheetId) (parent child : StyleId) :
    Reaches state (state.chain sheet parent child).2 := by
  rw [Scene.chain]
  split
  · exact reaches_note state _
  · have taken := reaches_takeOut state sheet child (state.chainOf? sheet child)
    have readied := Reaches.trans taken (reaches_chainFor _ sheet parent)
    have moved := Reaches.trans readied (reaches_nest _
      ((state.takeOut sheet child (state.chainOf? sheet child)).2.chainFor sheet parent).1
      (state.takeOut sheet child (state.chainOf? sheet child)).1)
    dsimp only
    -- the first split is on the chain of the parent, the second on whether the move is refused
    split <;> split
    · exact reaches_note state _
    · exact moved
    · exact reaches_note state _
    · exact moved

/-! Scripts. -/

variable {execute : Executor}

theorem reaches_runBody (lawful : Lawful execute) {body : List Command} {state after : State}
    (ran : runBody execute body state = some after) : Reaches state after := by
  refine closed_reaches.composes.foldlM ?_ ran
  intro before command between one
  obtain ⟨⟨answer, reached⟩, executed, same⟩ := Option.map_eq_some_iff.mp one
  rw [← same]
  exact Reaches.trans (lawful command before answer reached executed)
    (reaches_traceAnswer reached answer)

theorem reaches_runOn (lawful : Lawful execute) {widget : WidgetId} {body : List Command}
    {state after : State} (ran : runOn execute widget body state = some after) :
    Reaches state after := by
  obtain ⟨reached, inside, same⟩ := Option.map_eq_some_iff.mp ran
  rw [← same]
  exact Reaches.trans (Reaches.trans (reaches_withClient state _) (reaches_runBody lawful inside))
    (reaches_withClient reached _)

theorem reaches_runRoutine (lawful : Lawful execute) {handler : HandlerId} {remark : String}
    {widget : WidgetId} {state after : State}
    (ran : runRoutine execute handler remark widget state = some after) : Reaches state after := by
  rw [runRoutine] at ran
  split at ran
  · cases ran
    exact Reaches.refl state
  · split at ran
    · cases ran
      exact Reaches.refl state
    · exact Reaches.trans (Reaches.trans (reaches_withClient state _) (reaches_traceAnswer _ _))
        (reaches_runOn lawful ran)

theorem reaches_start (product : Product) (state : State) :
    Reaches state (product.start state).2 := by
  rw [Product.start]
  split
  · split
    · exact Reaches.step (Step.hold state _)
    · exact Reaches.make state _ _
  · split
    · exact Reaches.step (Step.spawn state _)
    · exact Reaches.make state _ _

theorem reaches_run (lawful : Lawful execute) (handler : HandlerId) (widget : WidgetId)
    (before after : State) (ran : (handlers execute).run handler widget before = some after) :
    Reaches before after :=
  reaches_runRoutine lawful ran

theorem reaches_notify (lawful : Lawful execute) (handler : HandlerId) (widget : WidgetId)
    (event : Mouse.Event) (before after : State)
    (ran : (handlers execute).notify handler widget event before = some after) :
    Reaches before after :=
  reaches_runRoutine lawful ran

theorem reaches_produce (lawful : Lawful execute) (handler : HandlerId) (before : State)
    (made : WidgetId) (after : State)
    (ran : (handlers execute).produce handler before = some (made, after)) :
    Reaches before after := by
  simp only [handlers] at ran
  split at ran
  · cases ran
  · next product _ =>
    obtain ⟨reached, inside, same⟩ := Option.map_eq_some_iff.mp ran
    cases same
    exact Reaches.trans (reaches_start product before) (reaches_runRoutine lawful inside)

theorem reaches_initialise (lawful : Lawful execute) (bound : Option String) (body : List Command)
    (made : WidgetId) (before after : State)
    (ran : initialise execute bound body made before = some after) : Reaches before after := by
  cases bound with
  | none => exact reaches_runOn lawful ran
  | some name =>
      exact Reaches.trans (reaches_bindWidget before name made) (reaches_runOn lawful ran)

/-! Commands. -/

theorem runs_child? (name : Option String) : Runs (child? name) := by
  cases name with
  | none => exact Runs.pure _
  | some name => exact Runs.bind (runs_widget name) (fun _ => Runs.pure _)

theorem runs_introduce (widget : WidgetId) (name classes bound : Option String) :
    Runs (introduce widget name classes bound) := by
  have changed : ∀ change : Change,
      Runs (Session.change (fun state => state.update widget change.applyTo)) :=
    fun change => Runs.modify (fun state => reaches_update state widget (keepsPlace_applyTo change))
  have ended : Runs (do bindWidget bound widget; widgetAnswer widget) :=
    Runs.bind (runs_bindWidget bound widget) (fun _ => runs_widgetAnswer widget)
  cases name with
  | none =>
      cases classes with
      | none => exact ended
      | some classes => exact Runs.bind (changed (.setClasses classes)) (fun _ => ended)
  | some name =>
      apply Runs.bind (changed (.setName name))
      intro _
      cases classes with
      | none => exact ended
      | some classes => exact Runs.bind (changed (.setClasses classes)) (fun _ => ended)

theorem runs_peek (weak : String) (other bound : Option String) :
    Runs (peek weak other bound) := by
  apply Runs.bind Runs.get
  intro state
  apply Runs.bind (runs_child? other)
  intro compared
  apply Runs.bind Runs.get
  intro state
  dsimp only
  split
  · exact Runs.bind (runs_bindWidget bound _) (fun _ => Runs.get_pure _)
  · exact Runs.get_pure _

theorem runs_setChild (view : View) (name : String) (child : Option String)
    {step : WidgetId → Option WidgetId → State → State}
    (reaches : ∀ pane found state, Reaches state (step pane found state)) :
    Runs (setChild view name child step) := by
  apply Runs.bind (runs_viewed view name)
  intro pane
  apply Runs.bind (runs_child? child)
  intro found
  exact Runs.bind (Runs.modify (fun state => reaches pane found state)) (fun _ => Runs.pure _)

theorem runs_selectorOr (text : Option String) : Runs (selectorOr text) := by
  cases text with
  | none => exact Runs.pure _
  | some text => exact runs_readSelector text

theorem runs_newStyle (selector : Selector) (target : Target) (script : Script) :
    Runs (newStyle selector target script) := by
  refine Runs.bind (runs_newRoutine script none) (fun handler => Runs.changing ?_)
  exact fun state => Reaches.step (Step.elsewhere state rfl rfl)

theorem reaches_setFactory (state : State) (widget : WidgetId) (view : View)
    (handler : HandlerId) : Reaches state (state.setFactory widget view handler) := by
  refine Reaches.trans (reaches_update state widget ?_) (reaches_note _ _)
  exact {}

theorem reaches_onMouse (state : State) (widget : WidgetId) (listener : Mouse.Listener) :
    Reaches state (state.onMouse widget listener) := by
  have keeps : Forest.KeepsPlace
      (fun node => { node with listeners := Mouse.register node.listeners listener }) := {}
  have registered := reaches_update state widget keeps
  rw [Scene.onMouse]
  cases listener.key with
  | none => exact registered
  | some key =>
      by_cases taken : Mouse.isTaken (state.listeners widget) listener.kind key = true
      · simp only [taken, if_true]
        exact Reaches.trans registered (reaches_note _ _)
      · simp only [taken, if_false, Bool.false_eq_true]
        exact registered

/-- A command that brings a style ends by naming it. -/
theorem runs_bringStyle (bound : Option String) {step : State → StyleId × State}
    (reaches : ∀ state, Reaches state (step state).2) :
    Runs (do
      let made ← changing step
      bindStyle bound made
      styleAnswer made) := by
  apply Runs.bind (Runs.changing reaches)
  intro made
  exact Runs.bind (runs_bindStyle bound made) (fun _ => runs_styleAnswer made)

/-- Every command is a run if the commands inside it are. -/
theorem runs_perform (lawful : Lawful execute) (steps : Nat) (command : Command) :
    Runs (perform execute steps command) := by
  cases command with
  | newWidget kind name classes bound =>
      refine Runs.bind (runs_owning ?_) (fun made => runs_introduce made name classes bound)
      exact fun state => Reaches.step (Step.spawn state kind)
  | newView view text layout name classes bound =>
      apply Runs.bind (runs_owning (fun state => Reaches.make state view _))
      intro made
      have introduced := runs_introduce made name classes bound
      dsimp only
      split
      · next layout =>
        refine Runs.bind (Runs.modify ?_) (fun _ => introduced)
        exact fun state => reaches_update state made (Forest.KeepsPlace.setLayout layout)
      · exact introduced
  | «alias» name bound =>
      apply Runs.bind (runs_widget name)
      intro found
      exact Runs.bind (runs_bindWidget _ found) (fun _ => runs_widgetAnswer found)
  | drop name =>
      apply Runs.changing_pure
      exact fun state => reaches_unbindWidget state name
  | weaken name bound =>
      apply Runs.bind (runs_widget name)
      intro found
      apply Runs.modify_pure
      exact fun state => reaches_withClient state _
  | peek weak other bound => exact runs_peek weak other bound
  | sameWidget first second =>
      apply Runs.bind (runs_widget first)
      intro _
      exact Runs.bind (runs_widget second) (fun _ => Runs.pure _)
  | choose condition expected met unmet =>
      apply Runs.bind (Runs.running (lawful condition))
      intro answer
      apply Runs.runningOnly_pure
      exact fun state after ran => reaches_runBody lawful ran
  | find name route bound => exact runs_find name route bound
  | ask name query => exact runs_ask name query
  | change name change => exact runs_changeWidget name change
  | editClass name edit text => exact runs_editClass name edit text
  | isBelow name other =>
      apply Runs.bind (runs_widget name)
      intro found
      apply Runs.bind (runs_widget other)
      intro above
      exact Runs.get_pure _
  | add parent child =>
      apply Runs.bind (runs_widget parent)
      intro parent
      apply Runs.bind (runs_widget child)
      intro child
      exact runs_attempt (fun state => Reaches.step (Step.add state parent child))
  | addWith parent child constraint =>
      apply Runs.bind (runs_widget parent)
      intro parent
      apply Runs.bind (runs_widget child)
      intro child
      exact runs_attempt (fun state => Reaches.step (Step.addWith state parent child constraint))
  | remove parent child =>
      apply Runs.bind (runs_widget parent)
      intro parent
      apply Runs.bind (runs_widget child)
      intro child
      apply Runs.changing_pure
      exact fun state => Reaches.step (Step.remove state parent child)
  | removeAll parent =>
      apply Runs.bind (runs_widget parent)
      intro parent
      apply Runs.modify_pure
      exact fun state => Reaches.step (Step.removeAll state parent)
  | detach name =>
      apply Runs.bind (runs_widget name)
      intro found
      apply Runs.changing_pure
      exact fun state => Reaches.step (Step.detach state found)
  | settle name constraint =>
      apply Runs.bind (runs_widget name)
      intro found
      exact runs_attempt (fun state => Reaches.step (Step.settle state found constraint))
  | setSide pane side child =>
      apply runs_setChild
      exact fun pane found state => Reaches.step (Step.setSide state pane side found)
  | setRegion pane region child =>
      apply runs_setChild
      exact fun pane found state => Reaches.step (Step.setRegion state pane region found)
  | setScrollView pane child =>
      apply runs_setChild
      exact fun pane found state => Reaches.step (Step.setView state pane found)
  | contentPane name bound =>
      apply Runs.bind (runs_viewed .frame name)
      intro frame
      apply Runs.bind (runs_owning (fun state => Reaches.contentPane state frame))
      intro pane
      exact Runs.bind (runs_bindWidget bound pane) (fun _ => runs_widgetAnswer pane)
  | setFactory name view script existing kind =>
      apply Runs.bind (runs_widget name)
      intro found
      apply Runs.bind (runs_newRoutine script _)
      intro handler
      apply Runs.modify_pure
      exact fun state => reaches_setFactory state found view handler
  | removeFactory name view =>
      apply Runs.bind (runs_widget name)
      intro found
      apply Runs.bind (runs_node found)
      intro _
      apply Runs.modify_pure
      exact fun state => reaches_update state found {}
  | hasFactory name view =>
      apply Runs.bind (runs_widget name)
      intro found
      apply Runs.changing_pure
      exact fun state => closed_reaches.composes.factoryFor state view found
  | create name view bound =>
      apply Runs.bind (runs_widget name)
      intro parent
      refine Runs.bind (Runs.running ?_) (fun made => ?_)
      · exact fun state made after created => Reaches.create (reaches_produce lawful) created
      · apply Runs.bind (Runs.modify (fun state => reaches_pin state made))
        intro _
        exact Runs.bind (runs_bindWidget _ made) (fun _ => runs_widgetAnswer made)
  | build name view bound body =>
      apply Runs.bind (runs_widget name)
      intro parent
      refine Runs.bind (Runs.running ?_) (fun built => ?_)
      · exact fun state built after done =>
          Reaches.build (reaches_produce lawful) (reaches_initialise lawful bound body) done
      · exact Runs.bind (Runs.modify (fun state => reaches_pin state built))
          (fun _ => runs_widgetAnswer built)
  | onAction name script =>
      apply Runs.bind (runs_viewed .button name)
      intro button
      apply Runs.bind (runs_newRoutine script none)
      intro handler
      apply Runs.modify_pure
      exact fun state => reaches_update state button {}
  | click name =>
      apply Runs.bind (runs_viewed .button name)
      intro button
      apply Runs.running_pure
      exact fun state count after clicked => Reaches.click (reaches_run lawful) clicked
  | onMouse name kind key script =>
      apply Runs.bind (runs_widget name)
      intro found
      apply Runs.bind (runs_newRoutine script none)
      intro handler
      apply Runs.modify_pure
      exact fun state => reaches_onMouse state found ⟨kind, key, handler⟩
  | removeMouse name kind key =>
      apply Runs.bind (runs_widget name)
      intro found
      apply Runs.changing_pure
      exact fun state => reaches_update state found {}
  | fire name event =>
      apply Runs.bind (runs_widget name)
      intro found
      apply Runs.running_pure
      exact fun state count after fired => Reaches.fireMouse (reaches_notify lawful) fired
  | selects text name =>
      apply Runs.bind (runs_readSelector text)
      intro selector
      apply Runs.bind (runs_widget name)
      intro found
      exact Runs.get_pure _
  | newSheet bound =>
      refine Runs.bind (Runs.changing ?_) (fun made => ?_)
      · exact fun state => Reaches.step (Step.elsewhere state rfl rfl)
      · dsimp only
        split
        · apply Runs.modify_pure
          exact fun state => reaches_withClient state _
        · exact Runs.pure _
  | register name target text script bound =>
      apply Runs.bind (runs_sheet name)
      intro found
      apply Runs.bind (runs_selectorOr text)
      intro selector
      apply Runs.bind (runs_newStyle selector target script)
      intro made
      refine Runs.bind (Runs.modify ?_) (fun _ => ?_)
      · exact fun state => Reaches.step (Step.elsewhere state rfl rfl)
      · exact Runs.bind (runs_bindStyle bound made) (fun _ => runs_styleAnswer made)
  | newStyle target text script bound =>
      apply Runs.bind (runs_readSelector text)
      intro selector
      apply Runs.bind (runs_newStyle selector target script)
      intro made
      exact Runs.bind (runs_bindStyle _ made) (fun _ => runs_styleAnswer made)
  | newScope text bound =>
      apply Runs.bind (runs_readSelector text)
      intro selector
      exact runs_bringStyle bound (fun state => Reaches.step (Step.elsewhere state rfl rfl))
  | wrap name bound =>
      apply Runs.bind (runs_style name)
      intro found
      exact runs_bringStyle bound (fun state => Reaches.step (Step.elsewhere state rfl rfl))
  | asChain name bound =>
      apply Runs.bind (runs_style name)
      intro found
      exact runs_bringStyle bound (fun state => Reaches.step (Step.elsewhere state rfl rfl))
  | registerStyle name sheetName =>
      apply Runs.bind (runs_style name)
      intro found
      apply Runs.bind (runs_sheet sheetName)
      intro held
      refine Runs.bind (Runs.modify ?_) (fun _ => runs_styleAnswer found)
      exact fun state => Reaches.step (Step.elsewhere state rfl rfl)
  | nest parent child bound =>
      apply Runs.bind (runs_chainStyle parent)
      intro parent
      apply Runs.bind (runs_style child)
      intro child
      exact runs_bringStyle bound (fun state => reaches_nest state parent child)
  | chain parent child sheetName bound =>
      apply Runs.bind (runs_style parent)
      intro parent
      apply Runs.bind (runs_style child)
      intro child
      apply Runs.bind (runs_sheet sheetName)
      intro held
      exact runs_bringStyle bound (fun state => reaches_chain state held parent child)
  | wraps chain name =>
      apply Runs.bind (runs_chainStyle chain)
      intro chain
      apply Runs.bind (runs_style name)
      intro found
      exact Runs.get_pure _
  | showStyle name =>
      apply Runs.bind (runs_style name)
      intro found
      exact Runs.get_pure _
  | debugStyle name =>
      apply Runs.bind (runs_chainStyle name)
      intro found
      exact Runs.get_pure _
  | applyStyle name widgetName =>
      apply Runs.bind (runs_style name)
      intro found
      apply Runs.bind (runs_widget widgetName)
      intro target
      apply Runs.runningOnly_pure
      exact fun state after applied => Reaches.applyStyle (reaches_run lawful) applied
  | apply name widgetName =>
      apply Runs.bind (runs_sheet name)
      intro found
      apply Runs.bind (runs_widget widgetName)
      intro root
      apply Runs.runningOnly_pure
      exact fun state after applied => Reaches.apply (reaches_run lawful) applied
  | revalidate name widgetName =>
      apply Runs.bind (runs_sheet name)
      intro found
      apply Runs.bind (runs_widget widgetName)
      intro changed
      apply Runs.running_pure
      exact fun state told after done => Reaches.revalidate (reaches_run lawful) done
  | forget name widgetName =>
      apply Runs.bind (runs_sheet name)
      intro found
      apply Runs.bind (runs_widget widgetName)
      intro root
      apply Runs.changing_pure
      exact fun state => Reaches.step (Step.elsewhere state rfl rfl)
  | appliedRoots name =>
      apply Runs.bind (runs_sheet name)
      intro found
      exact Runs.get_pure _
  | showStyles name =>
      apply Runs.bind (runs_sheet name)
      intro found
      exact Runs.get_pure _
  | debugSheet name =>
      apply Runs.bind (runs_sheet name)
      intro found
      exact Runs.get_pure _
  | requiresConstraints layout => exact Runs.pure _
  | sameTarget first second => exact Runs.pure _
  | setLogLevel threshold =>
      apply Runs.modify_pure
      exact fun state => Reaches.step (Step.elsewhere state rfl rfl)
  | takeLog =>
      exact Runs.changing (fun state => Reaches.step (Step.elsewhere state rfl rfl))
  | openLog path => exact Runs.refuse _
  | unknown name => exact Runs.refuse _

/-- A command that is executed gives its handles up at its end, which is a run as well. -/
theorem lawful_executeWith (lawful : Lawful execute) (steps : Nat) :
    Lawful (executeWith execute steps) := by
  intro command before answer after executed
  obtain ⟨⟨outcome, ended⟩, performed, same⟩ := Option.map_eq_some_iff.mp executed
  cases same
  have entered := Reaches.trans (reaches_withClient before _)
    (runs_perform lawful steps command _ outcome ended performed)
  have released := closed_reaches.composes.foldl
    (fun state widget => Reaches.step (Step.release state widget)) ended.client.pins ended
  exact Reaches.trans (Reaches.trans entered released) (reaches_withClient _ _)

theorem lawful_execute (steps : Nat) : Lawful (Session.execute steps) := by
  induction steps with
  | zero =>
      intro command before answer after executed
      cases executed
  | succ steps ih => exact lawful_executeWith ih steps

/-- Executing a top-level command is a run. -/
theorem reaches_reply (command : Command) (state : State) :
    Reaches state (reply command state).2 := by
  rw [reply]
  split
  · exact Reaches.refl state
  · next answer after executed =>
    have entered := reaches_withClient state (fun client => { client with trace := [] })
    exact Reaches.trans entered (lawful_execute stepLimit command _ answer after executed)

/-- Executing top-level commands one after the other is a run. -/
theorem reaches_replies (commands : List Command) (state : State) :
    Reaches state (commands.foldl (fun state command => (reply command state).2) state) :=
  closed_reaches.composes.foldl (fun state command => reaches_reply command state) commands state

/-- In every state that commands lead to, the live widgets form a forest. -/
theorem isForest_replies (commands : List Command) :
    (commands.foldl (fun state command => (reply command state).2) State.fresh).forest.IsForest :=
  (reaches_replies commands State.fresh).isForest Forest.isForest_empty

end StyledTree.Session
