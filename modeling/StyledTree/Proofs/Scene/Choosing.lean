import StyledTree.Proofs.ChoiceHistory
import StyledTree.Proofs.Scene.Shape
import StyledTree.Proofs.Session.Actions

set_option autoImplicit false

namespace StyledTree

def Choice.Call.change : Choice.Call → Session.Change
  | .add item => .addItem item
  | .removeAll => .removeAllItems
  | .select index => .select index

theorem Choice.Call.choice_change (call : Choice.Call) (node : Node) :
    (call.change.applyTo node).choice = call.applyTo node.choice := by
  cases call <;> rfl

def Forest.choice (forest : Forest) (widget : WidgetId) : Choice :=
  ((forest.get? widget).map Node.choice).getD .empty

namespace Scene

variable {ε : Type}

def choose (scene : Scene ε) (box : WidgetId) (call : Choice.Call) : Scene ε :=
  scene.update box call.change.applyTo

/-- What is done to a scene, with the calls among it that are made on the items of one widget. -/
inductive Chooses (box : WidgetId) (before : Scene ε) : List Choice.Call → Scene ε → Prop where
  | refl : Chooses box before [] before
  /-- Anything else, as long as it leaves the items of the widget and its selection alone. -/
  | step {calls : List Choice.Call} {middle after : Scene ε}
    (earlier : Chooses box before calls middle) (one : Step middle after)
    (kept : ∀ node, after.forest.get? box = some node → node.choice = middle.forest.choice box) :
    Chooses box before calls after
  | call {calls : List Choice.Call} {middle : Scene ε} (earlier : Chooses box before calls middle)
    (live : middle.forest.contains box = true) (call : Choice.Call) :
    Chooses box before (calls ++ [call]) (middle.choose box call)

structure Chosen (scene : Scene ε) (box : WidgetId) (calls : List Choice.Call) : Prop where
  choice : ∀ node, scene.forest.get? box = some node → node.choice = Choice.ofCalls calls
  /-- Only a widget that is or was there has a history. -/
  placed : calls ≠ [] → box.index < scene.forest.nodes.size

theorem get?_choose (scene : Scene ε) (box : WidgetId) (call : Choice.Call) :
    (scene.choose box call).forest.get? box = (scene.forest.get? box).map call.change.applyTo := by
  rw [choose, Scene.update, Forest.get?_update, if_pos rfl]

theorem contains_choose (scene : Scene ε) (box : WidgetId) (call : Choice.Call) :
    (scene.choose box call).forest.contains box = scene.forest.contains box := by
  rw [Forest.contains, get?_choose, Option.isSome_map]
  rfl

/-- A step that leaves all items alone leaves those of each widget alone, also of a new one. -/
theorem choice_eq_of_keeps {before after : Forest} (keeps : before.Keeps Node.choice after)
    {box : WidgetId} {node : Node} (found : after.get? box = some node) :
    node.choice = before.choice box := by
  rcases keeps.nodes found with ⟨new, kind, fresh⟩ | ⟨was, there, same⟩
  · have absent : before.get? box = none := by
      rw [Forest.get?, Array.getElem?_eq_none new]
      rfl
    rw [fresh, Forest.choice, absent]
    rfl
  · rw [same, Forest.choice, there]
    rfl

namespace Chooses

variable {box : WidgetId} {before middle after : Scene ε} {calls : List Choice.Call}

theorem plain (earlier : Chooses box before calls middle) (plain : PlainStep middle after) :
    Chooses box before calls after := by
  have keeps := plain.forest _ (Forest.Keeps.closedUnderEdits Forest.KeepsTraits.choice)
  exact earlier.step plain.step (fun _ => choice_eq_of_keeps keeps)

/-- Calls one after the other, on a widget that is there. -/
theorem callAll (chooses : Chooses box before calls after)
    (live : after.forest.contains box = true) (further : List Choice.Call) :
    Chooses box before (calls ++ further)
      (further.foldl (fun scene call => scene.choose box call) after) := by
  induction further generalizing calls after with
  | nil => rwa [List.append_nil]
  | cons first rest ih =>
      have still : (after.choose box first).forest.contains box = true := by rwa [contains_choose]
      rw [List.append_cons]
      exact ih (chooses.call live first) still

end Chooses

namespace Chosen

variable {box : WidgetId} {scene after : Scene ε} {calls : List Choice.Call}

theorem fresh (client : ε) (box : WidgetId) : Chosen (Scene.fresh client) box [] where
  choice node found := by simp [Scene.fresh, Forest.get?, Forest.empty] at found
  placed called := absurd rfl called

/-- A widget that is gone never comes back to its history. -/
theorem step (chosen : Chosen scene box calls) (one : Step scene after)
    (kept : ∀ node, after.forest.get? box = some node → node.choice = scene.forest.choice box) :
    Chosen after box calls where
  choice node found := by
    rw [kept node found, Forest.choice]
    cases there : scene.forest.get? box with
    | some was => exact chosen.choice was there
    | none =>
        have uncalled : calls = [] := by
          by_contra called
          have live : after.forest.contains box = true := Option.isSome_iff_exists.mpr ⟨node, found⟩
          have before := one.lasts.contains (chosen.placed called) live
          rw [Forest.contains, there] at before
          cases before
        rw [uncalled]
        rfl
  placed called := Nat.lt_of_lt_of_le (chosen.placed called) one.lasts.places

/-- A call does to the items what it does to what the history tells. -/
theorem call (chosen : Chosen scene box calls) (live : scene.forest.contains box = true)
    (call : Choice.Call) : Chosen (scene.choose box call) box (calls ++ [call]) where
  choice node found := by
    rw [get?_choose] at found
    obtain ⟨was, there, rfl⟩ := Option.map_eq_some_iff.mp found
    rw [Choice.ofCalls_concat, call.choice_change, chosen.choice was there]
  placed _ := Forest.index_lt_of_contains (by rwa [contains_choose])

theorem run {client : ε} (chooses : Chooses box (Scene.fresh client) calls scene) :
    Chosen scene box calls := by
  induction chooses with
  | refl => exact fresh client box
  | step _ one kept ih => exact ih.step one kept
  | call _ live call ih => exact ih.call live call

end Chosen

/-- After every history of calls on a list of items the selection is none or one of the items, and it is the
one of the last call that made a selection if items were only added since. Nothing is selected in an empty
list, and also in a longer one when the last call asked for an index out of range. Adding an item leaves the
selection alone exactly if there is one: otherwise the first item is selected, be it the new one or not. -/
theorem addition_selects_iff_none_selected {client : ε} {scene : Scene ε} {box : WidgetId}
    {calls : List Choice.Call} (chooses : Chooses box (Scene.fresh client) calls scene) {node : Node}
    (found : scene.forest.get? box = some node) :
    (∀ index, node.choice.selected = some index → index < node.choice.items.length ∧
      node.choice.selectedItem? = node.choice.items[index]?) ∧
    node.choice.selectedItem?.isSome = node.choice.selected.isSome ∧
    (∀ index, node.choice.selected = some index ↔ Choice.SelectedSince calls index) ∧
    (node.choice.selected = none ↔ node.choice.items = [] ∨ ∃ earlier index,
      calls = earlier ++ [.select index] ∧ (Choice.ofCalls earlier).items.length ≤ index) ∧
    ∀ item, ∃ after, (scene.choose box (.add item)).forest.get? box = some after ∧
      after.choice.items = node.choice.items ++ [item] ∧
      (after.choice.selected ≠ node.choice.selected ↔ node.choice.selected = none) ∧
      (node.choice.selected = none → after.choice.selected = some 0) := by
  have told := (Chosen.run chooses).choice node found
  have sound : node.choice.IsSound := told ▸ Choice.isSound_ofCalls calls
  refine ⟨fun index selected => ?_, sound.isSome_selectedItem?, fun index => ?_, ?_, fun item => ?_⟩
  · exact ⟨sound.inside index selected, Choice.selectedItem?_of_selected selected⟩
  · rw [told, Choice.selected_ofCalls_eq_some_iff]
  · rw [told, Choice.selected_ofCalls_eq_none_iff]
  · refine ⟨_, (get?_choose scene box _).trans (congrArg _ found), rfl, ?_, ?_⟩
    · exact Choice.selected_addItem_ne_iff node.choice item
    · intro unselected
      show node.choice.selected.or (some 0) = some 0
      rw [unselected, Option.none_or]

/-- Items are added to a new list before and after all were removed, and the last one is selected. -/
def markedCalls : List Choice.Call := [.add "a", .removeAll, .add "b", .add "c", .select 1]

def markedBox : Scene Unit :=
  let filled := markedCalls.foldl (fun scene call => scene.choose ⟨0⟩ call)
    ((Scene.fresh ()).spawn .comboBox).2
  ((filled.spawn .panel).2.add ⟨1⟩ ⟨0⟩).2

theorem chooses_spawn : Chooses ⟨0⟩ (Scene.fresh ()) [] ((Scene.fresh ()).spawn .comboBox).2 :=
  Chooses.refl.plain (PlainStep.spawn _ .comboBox)

theorem chooses_markedBox : Chooses ⟨0⟩ (Scene.fresh ()) markedCalls markedBox :=
  ((chooses_spawn.callAll (by decide +kernel) markedCalls).plain (PlainStep.spawn _ .panel)).plain
    (PlainStep.add _ ⟨1⟩ ⟨0⟩)

theorem markedBox_keeps_selection :
    ∃ node, markedBox.forest.get? ⟨0⟩ = some node ∧ node.choice.selected = some 1 ∧
      node.choice.selectedItem? = some "c" ∧ Choice.SelectedSince markedCalls 1 ∧
      ∃ after, (markedBox.choose ⟨0⟩ (.add "d")).forest.get? ⟨0⟩ = some after ∧
        after.choice.items = ["b", "c", "d"] ∧ after.choice.selected = some 1 := by
  have shown : (markedBox.forest.get? ⟨0⟩).map Node.choice = some ⟨["b", "c"], some 1⟩ := by
    decide +kernel
  obtain ⟨node, found, same⟩ := Option.map_eq_some_iff.mp shown
  obtain ⟨items, -, since, -, adding⟩ := addition_selects_iff_none_selected chooses_markedBox found
  have selected : node.choice.selected = some 1 := by rw [same]
  obtain ⟨after, added, longer, changed_iff, -⟩ := adding "d"
  have kept : after.choice.selected = node.choice.selected := by
    by_contra changed
    have unselected := changed_iff.mp changed
    rw [selected] at unselected
    cases unselected
  refine ⟨node, found, selected, ?_, (since 1).mp selected, after, added, ?_, kept.trans selected⟩
  · rw [(items 1 selected).2, same]
    rfl
  · rw [longer, same]
    rfl

def clearedCalls : List Choice.Call := [.add "a", .add "b", .select 7]

def clearedBox : Scene Unit :=
  clearedCalls.foldl (fun scene call => scene.choose ⟨0⟩ call) ((Scene.fresh ()).spawn .comboBox).2

/-- One more item brings a selection back that had been cleared, and it is not the new item. -/
theorem clearedBox_selects_first :
    Chooses ⟨0⟩ (Scene.fresh ()) clearedCalls clearedBox ∧
      clearedBox.forest.choice ⟨0⟩ = ⟨["a", "b"], none⟩ ∧
      (clearedBox.choose ⟨0⟩ (.add "d")).forest.choice ⟨0⟩ = ⟨["a", "b", "d"], some 0⟩ :=
  ⟨chooses_spawn.callAll (by decide +kernel) clearedCalls, by decide +kernel, by decide +kernel⟩

end Scene

end StyledTree
