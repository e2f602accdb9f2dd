import StyledTree.Proofs.ListenerHistory
import StyledTree.Proofs.Scene.Running

set_option autoImplicit false

namespace StyledTree.Scene

variable {ε : Type}

def listen (scene : Scene ε) (widget : WidgetId) : Mouse.Call → Scene ε
  | .register listener => scene.onMouse widget listener
  | .remove kind key => (scene.removeMouse widget kind key).2

def callsOn (widget : WidgetId) (calls : List (WidgetId × Mouse.Call)) : List Mouse.Call :=
  (calls.filter (fun call => call.1 == widget)).map Prod.snd

/-- A run with the calls on mouse listeners that are made in it, in order. Other steps leave the listeners
of all widgets alone. -/
inductive Hears : Scene ε → List (WidgetId × Mouse.Call) → Scene ε → Prop where
  | refl {scene : Scene ε} : Hears scene [] scene
  | step {before between after : Scene ε} {calls : List (WidgetId × Mouse.Call)}
    (earlier : Hears before calls between) (step : Step between after)
    (keeps : between.forest.Keeps Node.listeners after.forest) : Hears before calls after
  | call {before between : Scene ε} {calls : List (WidgetId × Mouse.Call)}
    (earlier : Hears before calls between) {widget : WidgetId}
    (live : between.forest.contains widget = true) (call : Mouse.Call) :
    Hears before (calls ++ [(widget, call)]) (between.listen widget call)

inductive Notified (handlers : Handlers ε) (widget : WidgetId) (event : Mouse.Event) :
    List HandlerId → Scene ε → Scene ε → Prop where
  | nil {scene : Scene ε} : Notified handlers widget event [] scene scene
  | cons {handler : HandlerId} {rest : List HandlerId} {before between after : Scene ε}
    (ran : handlers.notify handler widget event before = some between)
    (further : Notified handlers widget event rest between after) :
    Notified handlers widget event (handler :: rest) before after

/-- The listeners of each widget are those that stand in its history. -/
structure Heard (scene : Scene ε) (calls : List (WidgetId × Mouse.Call)) : Prop where
  listeners : ∀ widget node, scene.forest.get? widget = some node →
    node.listeners = Mouse.standing (callsOn widget calls)
  /-- Only widgets that are or were there have a history. -/
  placed : ∀ call ∈ calls, call.1.index < scene.forest.nodes.size

theorem forest_listen (scene : Scene ε) (widget : WidgetId) (call : Mouse.Call) :
    (scene.listen widget call).forest = scene.forest.update widget
      (fun node => { node with listeners := call.applyTo node.listeners }) := by
  cases call with
  | register listener =>
      simp only [listen, onMouse]
      split <;> rfl
  | remove kind key => rfl

theorem contains_listen (scene : Scene ε) (widget other : WidgetId) (call : Mouse.Call) :
    (scene.listen widget call).forest.contains other = scene.forest.contains other := by
  rw [forest_listen, Forest.contains, Forest.get?_update]
  split
  · rw [Option.isSome_map]
    rfl
  · rfl

theorem callsOn_concat_self (widget : WidgetId) (calls : List (WidgetId × Mouse.Call))
    (call : Mouse.Call) :
    callsOn widget (calls ++ [(widget, call)]) = callsOn widget calls ++ [call] := by
  simp [callsOn]

theorem callsOn_concat_of_ne {widget other : WidgetId} (apart : other ≠ widget)
    (calls : List (WidgetId × Mouse.Call)) (call : Mouse.Call) :
    callsOn other (calls ++ [(widget, call)]) = callsOn other calls := by
  simp [callsOn, Ne.symm apart]

namespace Hears

variable {before middle after : Scene ε}

theorem trans {first second : List (WidgetId × Mouse.Call)} (one : Hears before first middle)
    (other : Hears middle second after) : Hears before (first ++ second) after := by
  induction other with
  | refl => rwa [List.append_nil]
  | step _ step keeps ih => exact ih.step step keeps
  | call _ live call ih =>
      rw [← List.append_assoc]
      exact ih.call live call

/-- Calls on a live widget, one after the other. -/
theorem calls {history : List (WidgetId × Mouse.Call)} (hears : Hears before history after)
    {widget : WidgetId} (live : after.forest.contains widget = true) (calls : List Mouse.Call) :
    Hears before (history ++ calls.map (fun call => (widget, call)))
      (calls.foldl (fun scene call => scene.listen widget call) after) := by
  induction calls generalizing history after with
  | nil => rwa [List.map_nil, List.append_nil]
  | cons first rest ih =>
      have still : (after.listen widget first).forest.contains widget = true := by
        rwa [contains_listen]
      rw [List.map_cons, List.append_cons]
      exact ih (hears.call live first) still

end Hears

namespace Heard

variable {scene after : Scene ε} {calls : List (WidgetId × Mouse.Call)}

theorem fresh (client : ε) : Heard (Scene.fresh client) [] where
  listeners widget node found := by simp [Scene.fresh, Forest.get?, Forest.empty] at found
  placed _ member := absurd member List.not_mem_nil

/-- A new widget has no listeners, and nothing was called for it yet. -/
theorem step (heard : Heard scene calls) (keeps : scene.forest.Keeps Node.listeners after.forest) :
    Heard after calls where
  listeners widget node found := by
    rcases keeps.nodes found with ⟨new, kind, none⟩ | ⟨was, there, same⟩
    · have unknown : callsOn widget calls = [] := by
        rw [callsOn, List.map_eq_nil_iff, List.filter_eq_nil_iff]
        intro call member isOn
        have inside := heard.placed call member
        rw [beq_iff_eq.mp isOn] at inside
        exact Nat.not_lt_of_le new inside
      rw [none, unknown]
      rfl
    · rw [same]
      exact heard.listeners widget was there
  placed call member := Nat.lt_of_lt_of_le (heard.placed call member) keeps.places

/-- A call changes the listeners of its widget as it changes what stands in the history. -/
theorem call (heard : Heard scene calls) {widget : WidgetId}
    (live : scene.forest.contains widget = true) (call : Mouse.Call) :
    Heard (scene.listen widget call) (calls ++ [(widget, call)]) where
  listeners other node found := by
    rw [forest_listen, Forest.get?_update] at found
    by_cases same : other = widget
    · subst same
      rw [if_pos rfl] at found
      obtain ⟨was, there, rfl⟩ := Option.map_eq_some_iff.mp found
      rw [callsOn_concat_self, Mouse.standing_concat, ← heard.listeners other was there]
    · rw [if_neg same] at found
      rw [callsOn_concat_of_ne same]
      exact heard.listeners other node found
  placed := by
    have places : (scene.listen widget call).forest.nodes.size = scene.forest.nodes.size := by
      rw [forest_listen]
      simp [Forest.update]
    rw [places, List.forall_mem_append, List.forall_mem_singleton]
    exact ⟨heard.placed, Forest.index_lt_of_contains live⟩

theorem run {earlier : List (WidgetId × Mouse.Call)} (heard : Heard scene earlier)
    (hears : Hears scene calls after) : Heard after (earlier ++ calls) := by
  induction hears with
  | refl => rwa [List.append_nil]
  | step _ _ keeps ih => exact ih.step keeps
  | call _ live call ih =>
      rw [← List.append_assoc]
      exact ih.call live call

/-- What is read of a live widget is what stands in its history. -/
theorem listeners_eq (heard : Heard scene calls) {widget : WidgetId}
    (live : scene.forest.contains widget = true) :
    scene.listeners widget = Mouse.standing (callsOn widget calls) := by
  obtain ⟨node, found⟩ := Option.isSome_iff_exists.mp live
  rw [Scene.listeners, found, Option.map_some, Option.getD_some]
  exact heard.listeners widget node found

end Heard

variable {handlers : Handlers ε} {widget : WidgetId} {event : Mouse.Event}

theorem foldlM_notify_eq_some_iff {called : List HandlerId} {scene after : Scene ε} :
    called.foldlM (fun scene handler => handlers.notify handler widget event scene) scene =
        some after ↔
      Notified handlers widget event called scene after := by
  induction called generalizing scene with
  | nil =>
      constructor
      · rintro ⟨⟩
        exact Notified.nil
      · rintro ⟨⟩
        rfl
  | cons handler rest ih =>
      rw [List.foldlM_cons]
      constructor
      · intro runs
        obtain ⟨between, ran, further⟩ := Option.bind_eq_some_iff.mp runs
        exact Notified.cons ran (ih.mp further)
      · rintro (_ | ⟨ran, further⟩)
        exact Option.bind_eq_some_iff.mpr ⟨_, ran, ih.mpr further⟩

theorem fireMouse_eq_some_iff {scene after : Scene ε} {count : Nat} :
    scene.fireMouse handlers widget event = some (count, after) ↔
      count = (Mouse.handlers (scene.listeners widget) event.kind).length ∧
        Notified handlers widget event (Mouse.handlers (scene.listeners widget) event.kind) scene
          after := by
  rw [fireMouse, ← foldlM_notify_eq_some_iff, Option.map_eq_some_iff]
  constructor
  · rintro ⟨_, runs, ⟨⟩⟩
    exact ⟨rfl, runs⟩
  · rintro ⟨rfl, runs⟩
    exact ⟨after, runs, rfl⟩

/-- What the handlers call on listeners comes behind what was called before. -/
theorem Notified.hears {called : List HandlerId} {scene after : Scene ε}
    (notified : Notified handlers widget event called scene after)
    (notifies : ∀ handler on told before between,
      handlers.notify handler on told before = some between → ∃ own, Hears before own between) :
    ∃ own, Hears scene own after := by
  induction notified with
  | nil => exact ⟨[], Hears.refl⟩
  | cons ran _ ih =>
      obtain ⟨own, hears⟩ := notifies _ _ _ _ _ ran
      obtain ⟨others, further⟩ := ih
      exact ⟨own ++ others, hears.trans further⟩

/-- After every history the listeners of a live widget are those that were registered on it and that no
later call under their kind and key replaced or removed, in order of registration, whatever was called for
other widgets. For each kind of event the calls for that kind alone tell them, there is one at most under
a kind and key, and no anonymous one is ever lost. An event runs just the listeners for its kind that
stand when it is fired, once each and in that order, and tells how many they are; what they call
themselves counts for later events only. -/
theorem listeners_follow_history {client : ε} {scene : Scene ε}
    {calls : List (WidgetId × Mouse.Call)} (hears : Hears (Scene.fresh client) calls scene)
    {widget : WidgetId} (live : scene.forest.contains widget = true) :
    (∀ kind, (scene.listeners widget).filter (fun listener => listener.kind == kind) =
      Mouse.standing ((callsOn widget calls).filter (fun call => call.kind == kind))) ∧
    (∀ listener, listener ∈ scene.listeners widget ↔ ∃ earlier later,
      callsOn widget calls = earlier ++ .register listener :: later ∧
        ∀ call ∈ later, call.ends listener = false) ∧
    (∀ kind key,
      ((scene.listeners widget).filter (Mouse.Listener.isKeyed kind key)).length ≤ 1) ∧
    ((scene.listeners widget).filter (fun listener => listener.key.isNone) =
      ((callsOn widget calls).flatMap Mouse.Call.registered).filter
        (fun listener => listener.key.isNone)) ∧
    ∀ (handlers : Handlers ε) (event : Mouse.Event), ∃ called,
      called = (Mouse.standing ((callsOn widget calls).filter
        (fun call => call.kind == event.kind))).map Mouse.Listener.handler ∧
      (∀ count after, scene.fireMouse handlers widget event = some (count, after) ↔
        count = called.length ∧ Notified handlers widget event called scene after) ∧
      ((∀ handler on told before between,
          handlers.notify handler on told before = some between → ∃ own, Hears before own between) →
        ∀ count after, scene.fireMouse handlers widget event = some (count, after) →
          ∃ own, Hears (Scene.fresh client) (calls ++ own) after) := by
  have heard := (Heard.fresh client).run hears
  have same := heard.listeners_eq live
  rw [List.nil_append] at same
  rw [same]
  refine ⟨Mouse.filter_kind_standing _, fun listener => ?_, Mouse.length_filter_isKeyed_le _,
    Mouse.filter_anonymous_standing _, fun handlers event => ?_⟩
  · simp only [Mouse.mem_standing_iff, Mouse.isEnded, List.any_eq_false, Bool.not_eq_true]
  · refine ⟨_, rfl, fun count after => ?_, fun notifies count after fired => ?_⟩
    · rw [fireMouse_eq_some_iff, same, Mouse.handlers, Mouse.filter_kind_standing]
    · obtain ⟨own, further⟩ := (fireMouse_eq_some_iff.mp fired).2.hears notifies
      exact ⟨own, hears.trans further⟩

/-- Client code whose first listener, when it runs, takes itself out and registers the third one. -/
def steppingAside : Handlers Unit where
  run _ _ scene := some scene
  notify handler on _ scene :=
    if handler = ⟨0⟩ ∧ scene.forest.contains on = true then
      some ([Mouse.Call.remove .pressed "turn", .register ⟨.pressed, none, ⟨2⟩⟩].foldl
        (fun scene call => scene.listen on call) scene)
    else some scene
  produce _ _ := none

theorem steppingAside_hears (handler : HandlerId) (on : WidgetId) (told : Mouse.Event)
    (before between : Scene Unit)
    (notified : steppingAside.notify handler on told before = some between) :
    ∃ own, Hears before own between := by
  simp only [steppingAside] at notified
  split at notified
  · next runs =>
    cases notified
    exact ⟨_, Hears.refl.calls runs.2 _⟩
  · cases notified
    exact ⟨[], Hears.refl⟩

/-- The first listener is registered under a key, and once more behind the second one; another kind of
event has the same key. -/
def turnCalls : List Mouse.Call :=
  [.register ⟨.pressed, some "turn", ⟨0⟩⟩, .register ⟨.pressed, none, ⟨1⟩⟩,
    .register ⟨.released, some "turn", ⟨3⟩⟩, .register ⟨.pressed, some "turn", ⟨0⟩⟩]

def pressedLabel : Scene Unit :=
  turnCalls.foldl (fun scene call => scene.listen ⟨0⟩ call) ((Scene.fresh ()).spawn .label).2

theorem hears_pressedLabel :
    Hears (Scene.fresh ()) (turnCalls.map (fun call => (⟨0⟩, call))) pressedLabel := by
  have made : Hears (Scene.fresh ()) [] ((Scene.fresh ()).spawn .label).2 :=
    Hears.refl.step (Step.spawn _ .label) (Forest.Keeps.create _ .label)
  exact made.calls (by decide +kernel) turnCalls

/-- The second listener runs and then the first one, which is out of the list afterwards, while the third
one is in it but did not run. -/
theorem pressedLabel_steps_aside :
    pressedLabel.forest.contains ⟨0⟩ = true ∧
      ∃ after, pressedLabel.fireMouse steppingAside ⟨0⟩ ⟨.pressed, 0, 0, 1⟩ = some (2, after) ∧
        Notified steppingAside ⟨0⟩ ⟨.pressed, 0, 0, 1⟩ [⟨1⟩, ⟨0⟩] pressedLabel after ∧
        Mouse.handlers (after.listeners ⟨0⟩) .pressed = [⟨1⟩, ⟨2⟩] ∧
        ∃ own, Hears (Scene.fresh ()) (turnCalls.map (fun call => (⟨0⟩, call)) ++ own) after := by
  have live : pressedLabel.forest.contains ⟨0⟩ = true := by decide +kernel
  obtain ⟨-, -, -, -, firing⟩ := listeners_follow_history hears_pressedLabel live
  obtain ⟨called, stand, fires, grows⟩ := firing steppingAside ⟨.pressed, 0, 0, 1⟩
  have shown : (pressedLabel.fireMouse steppingAside ⟨0⟩ ⟨.pressed, 0, 0, 1⟩).map (fun fired =>
      (fired.1, Mouse.handlers (fired.2.listeners ⟨0⟩) .pressed)) = some (2, [⟨1⟩, ⟨2⟩]) := by
    decide +kernel
  obtain ⟨⟨count, after⟩, fired, same⟩ := Option.map_eq_some_iff.mp shown
  rw [Prod.mk.injEq] at same
  obtain ⟨rfl, left⟩ := same
  have both : called = [⟨1⟩, ⟨0⟩] := by
    rw [stand]
    decide +kernel
  have notified := ((fires 2 after).mp fired).2
  rw [both] at notified
  exact ⟨live, after, fired, notified, left, grows steppingAside_hears 2 after fired⟩

end StyledTree.Scene
