import StyledTree.Proofs.Forest.Relinking
import StyledTree.Proofs.Scene.Building

set_option autoImplicit false

namespace StyledTree

namespace Forest

/-- The widget has a constraint, and no container lists it. -/
def IsAdrift (forest : Forest) (widget : WidgetId) : Prop :=
  forest.constraint? widget ≠ none ∧ ∀ parent, widget ∉ forest.children parent

/-- The widget is pending in a container that lists it already. -/
def IsPendingInside (forest : Forest) (widget container : WidgetId) : Prop :=
  forest.pending? widget = some container ∧ widget ∈ forest.children container

theorem IsForest.not_mem_children_iff {forest : Forest} (isForest : forest.IsForest)
    {widget : WidgetId} :
    (∀ parent, widget ∉ forest.children parent) ↔ forest.parent? widget = none := by
  constructor
  · intro unlisted
    by_contra linked
    obtain ⟨parent, linked⟩ := Option.ne_none_iff_exists'.mp linked
    exact unlisted parent ((isForest.mem_children_iff parent widget).mpr linked)
  · intro free parent member
    rw [isForest.mem_children_iff, free] at member
    cases member

end Forest

namespace Scene

variable {ε : Type} {before middle after : Scene ε} {widget container : WidgetId}

theorem Step.rearranges (step : Step before after) (isForest : before.forest.IsForest)
    (roots : before.RootsHeld) : before.forest.Rearranges after.forest := by
  cases step.effect with
  | edits edits forest _ =>
      have carries := carriesOut_carryOut isForest roots edits
      rw [forest]
      exact .relinks (edits.relinks isForest) carries.drops carries.container_stays
  | spawn kind => exact .create kind rfl
  | release widget =>
      rw [Scene.release]
      split
      · exact .refl before.forest
      · exact .drops (Scene.drops_sweep { before with handles := before.handles.erase widget } isForest
          (fun _ => Iff.rfl))
  | sweep => exact .drops (before.drops_sweep isForest (fun _ => Iff.rfl))
  | pend widget container => exact .pend widget container rfl
  | change widget keeps =>
      exact .relinks (Forest.relinks_update _ widget widget keeps)
        (Forest.Drops.refl (fun _ => not_false) _) not_false
  | same forest _ =>
      rw [forest]
      exact .refl before.forest

/-- A widget is adrift after a step if no container lists it then and it was adrift before, or had a
constraint in a parent that the step dropped. -/
theorem Step.isAdrift_iff (step : Step before after) (isForest : before.forest.IsForest)
    (roots : before.RootsHeld) (live : after.forest.contains widget = true) :
    after.forest.IsAdrift widget ↔ (∀ upper, widget ∉ after.forest.children upper) ∧
      (before.forest.IsAdrift widget ∨ before.forest.constraint? widget ≠ none ∧
        ∃ parent, widget ∈ before.forest.children parent ∧ after.forest.contains parent = false) := by
  have rearranges := step.rearranges isForest roots
  have free_iff : (∀ upper, widget ∉ after.forest.children upper) ↔ after.forest.parent? widget = none :=
    (step.isForest isForest).not_mem_children_iff
  constructor
  · rintro ⟨constrained, unlisted⟩
    have free := free_iff.mp unlisted
    refine ⟨unlisted, ?_⟩
    cases linked : before.forest.parent? widget with
    | none =>
        have same := rearranges.constraint?_eq isForest live free (by simp [linked])
        exact Or.inl ⟨same ▸ constrained, isForest.not_mem_children_iff.mpr linked⟩
    | some parent =>
        -- a parent that is still there takes the constraint away
        have gone : after.forest.contains parent = false := by
          by_contra stays
          rw [Bool.not_eq_false] at stays
          exact constrained (rearranges.constraint?_eq_none linked stays free)
        have same := rearranges.constraint?_eq isForest live free (by simp [linked, gone])
        exact Or.inr ⟨same ▸ constrained, parent,
          (isForest.mem_children_iff parent widget).mpr linked, gone⟩
  · rintro ⟨unlisted, adrift | ⟨constrained, parent, member, gone⟩⟩
    · have free := isForest.not_mem_children_iff.mp adrift.2
      have same := rearranges.constraint?_eq isForest live (free_iff.mp unlisted) (by simp [free])
      exact ⟨same ▸ adrift.1, unlisted⟩
    · have linked := (isForest.mem_children_iff parent widget).mp member
      have same := rearranges.constraint?_eq isForest live (free_iff.mp unlisted)
        (by simp [linked, gone])
      exact ⟨same ▸ constrained, unlisted⟩

/-- A widget that is pending inside a container after a step was so before, or the step left it pending in the
container that it was in. -/
theorem Step.isPendingInside (step : Step before after) (isForest : before.forest.IsForest)
    (roots : before.RootsHeld) (inside : after.forest.IsPendingInside widget container) :
    before.forest.IsPendingInside widget container ∨ widget ∈ before.forest.children container ∧
      after.forest = before.forest.pend widget container := by
  have hangs := ((step.isForest isForest).mem_children_iff container widget).mp inside.2
  obtain ⟨linked, pends⟩ := (step.rearranges isForest roots).hangs_pending hangs inside.1
  have member := (isForest.mem_children_iff container widget).mpr linked
  exact pends.imp (fun pends => ⟨pends, member⟩) (fun left => ⟨member, left⟩)

def Since (happened holds : Nat → Prop) (place : Nat) : Prop :=
  ∃ earlier < place, happened earlier ∧ ∀ later, earlier < later → later ≤ place → holds later

theorem not_since_zero (happened holds : Nat → Prop) : ¬ Since happened holds 0 := by
  rintro ⟨earlier, early, -⟩
  exact Nat.not_lt_zero earlier early

theorem since_succ_iff {happened holds : Nat → Prop} {place : Nat} :
    Since happened holds (place + 1) ↔
      holds (place + 1) ∧ (Since happened holds place ∨ happened place) := by
  constructor
  · rintro ⟨earlier, early, event, since⟩
    refine ⟨since (place + 1) early (Nat.le_refl _), ?_⟩
    rcases Nat.lt_succ_iff_lt_or_eq.mp early with sooner | rfl
    · exact Or.inl ⟨earlier, sooner, event,
        fun later after within => since later after (Nat.le_succ_of_le within)⟩
    · exact Or.inr event
  · rintro ⟨last, ⟨earlier, early, event, since⟩ | event⟩
    · refine ⟨earlier, Nat.lt_succ_of_lt early, event, fun later after within => ?_⟩
      rcases Nat.le_succ_iff.mp within with sooner | rfl
      · exact since later after sooner
      · exact last
    · refine ⟨place, Nat.lt_succ_self place, event, fun later after within => ?_⟩
      obtain rfl := Nat.le_antisymm within after
      exact last

structure Trace (before after : Scene ε) where
  length : Nat
  states : Nat → Scene ε
  start : states 0 = before
  finish : states length = after
  step : ∀ place < length, Step (states place) (states (place + 1))

namespace Trace

theorem nonempty_refl (scene : Scene ε) : Nonempty (Trace scene scene) :=
  ⟨⟨0, fun _ => scene, rfl, rfl, nofun⟩⟩

theorem nonempty_of_step (one : Step before after) : Nonempty (Trace before after) := by
  refine ⟨⟨1, fun place => if place = 0 then before else after, rfl, rfl, ?_⟩⟩
  intro place inside
  obtain rfl := Nat.lt_one_iff.mp inside
  exact one

def append (first : Trace before middle) (second : Trace middle after) : Trace before after where
  length := first.length + second.length
  states place :=
    if place ≤ first.length then first.states place else second.states (place - first.length)
  start := by rw [if_pos (Nat.zero_le _), first.start]
  finish := by
    split
    · next within =>
      have ended : second.length = 0 := by omega
      rw [ended, Nat.add_zero, first.finish, ← second.finish, ended, second.start]
    · rw [Nat.add_sub_cancel_left, second.finish]
  step := by
    intro place inside
    by_cases early : place + 1 ≤ first.length
    · rw [if_pos (by omega), if_pos early]
      exact first.step place early
    · have one := second.step (place - first.length) (by omega)
      rw [if_neg early, Nat.sub_add_comm (by omega)]
      split
      · next within =>
        obtain rfl : place = first.length := by omega
        rw [Nat.sub_self, second.start] at one
        rwa [first.finish, Nat.sub_self]
      · exact one

theorem closed_nonempty : Closed (fun before after : Scene ε => Nonempty (Trace before after)) where
  refl := nonempty_refl
  trans := fun ⟨first⟩ ⟨second⟩ => ⟨first.append second⟩
  step := nonempty_of_step

variable (trace : Trace before after)

theorem reaches {place : Nat} (inside : place ≤ trace.length) : Reaches before (trace.states place) := by
  induction place with
  | zero =>
      rw [trace.start]
      exact Reaches.refl before
  | succ place ih => exact (ih (by omega)).trans (Reaches.step (trace.step place inside))

/-- A widget that is there was there since it was made. -/
theorem lasts {earlier later : Nat} (order : earlier ≤ later) (inside : later ≤ trace.length) :
    (trace.states earlier).forest.Lasts (trace.states later).forest := by
  induction later, order using Nat.le_induction with
  | base => exact Forest.Lasts.refl _
  | succ later _ ih => exact (ih (by omega)).trans (trace.step later inside).lasts

def LosesParent (widget : WidgetId) (place : Nat) : Prop :=
  (trace.states place).forest.constraint? widget ≠ none ∧
    ∃ parent, widget ∈ (trace.states place).forest.children parent ∧
      (trace.states (place + 1)).forest.contains parent = false

/-- Before a place of the trace the widget lost the parent in which it had a constraint, and no container has
listed it since. -/
def OutlivesParent (widget : WidgetId) (place : Nat) : Prop :=
  Since (trace.LosesParent widget)
    (fun later => ∀ upper, widget ∉ (trace.states later).forest.children upper) place

def PendsInParent (widget container : WidgetId) (place : Nat) : Prop :=
  widget ∈ (trace.states place).forest.children container ∧
    (trace.states (place + 1)).forest = (trace.states place).forest.pend widget container

/-- Before a place of the trace the widget was left pending in a container that listed it already, and so it
has been since. -/
def StaysPendingInside (widget container : WidgetId) (place : Nat) : Prop :=
  Since (trace.PendsInParent widget container)
    (fun later => (trace.states later).forest.IsPendingInside widget container) place

/-- A widget that had gone before a step is not back after it. -/
theorem contains_of_outlivesParent {place : Nat} (inside : place < trace.length)
    (outlives : trace.OutlivesParent widget place)
    (live : (trace.states (place + 1)).forest.contains widget = true) :
    (trace.states place).forest.contains widget = true := by
  obtain ⟨earlier, early, ⟨constrained, -⟩, -⟩ := outlives
  have placed := Forest.index_lt_of_contains (Forest.contains_of_constraint? constrained)
  have still := Nat.lt_of_lt_of_le placed (trace.lasts (Nat.le_of_lt early) (Nat.le_of_lt inside)).places
  exact (trace.step place inside).lasts.contains still live

theorem isAdrift_iff_outlivesParent (isForest : before.forest.IsForest) (roots : before.RootsHeld)
    (sound : ¬ before.forest.IsAdrift widget) {place : Nat} (inside : place ≤ trace.length)
    (live : (trace.states place).forest.contains widget = true) :
    (trace.states place).forest.IsAdrift widget ↔ trace.OutlivesParent widget place := by
  induction place with
  | zero =>
      rw [trace.start]
      exact iff_of_false sound (not_since_zero _ _)
  | succ place ih =>
      have one := trace.step place inside
      have reaches := trace.reaches (Nat.le_of_lt inside)
      have roots := reaches.keepsRootsHeld isForest roots
      have isForest := reaches.isForest isForest
      rw [one.isAdrift_iff isForest roots live, OutlivesParent, since_succ_iff]
      refine and_congr_right fun _ => or_congr_left ?_
      by_cases was : (trace.states place).forest.contains widget = true
      · exact ih (Nat.le_of_lt inside) was
      · refine iff_of_false (fun adrift => was ?_) (fun outlives => was ?_)
        · exact Forest.contains_of_constraint? adrift.1
        · exact trace.contains_of_outlivesParent inside outlives live

theorem isPendingInside_iff (isForest : before.forest.IsForest) (roots : before.RootsHeld)
    (sound : ¬ before.forest.IsPendingInside widget container) {place : Nat}
    (inside : place ≤ trace.length) :
    (trace.states place).forest.IsPendingInside widget container ↔
      trace.StaysPendingInside widget container place := by
  induction place with
  | zero =>
      rw [trace.start]
      exact iff_of_false sound (not_since_zero _ _)
  | succ place ih =>
      have one := trace.step place inside
      have reaches := trace.reaches (Nat.le_of_lt inside)
      have roots := reaches.keepsRootsHeld isForest roots
      have isForest := reaches.isForest isForest
      rw [StaysPendingInside, since_succ_iff]
      constructor
      · intro pends
        exact ⟨pends, (one.isPendingInside isForest roots pends).imp_left (ih (Nat.le_of_lt inside)).mp⟩
      · exact And.left

end Trace

section Building

variable {handlers : Handlers ε} {view : View} {parent : WidgetId} {scene created : Scene ε}

theorem parent?_of_make (isForest : scene.forest.IsForest)
    (made : scene.make view "" = (widget, created)) : created.forest.parent? widget = none := by
  obtain ⟨panes, fresh⟩ := madeAfresh_make isForest view
  rw [made] at fresh
  rw [Forest.parent?, fresh.node]
  rfl

/-- The nearest factory hands out the widget, or it is a fresh one that hangs nowhere. -/
theorem handed_out_or_free (isForest : scene.forest.IsForest)
    (produces : ∀ handler before made between,
      handlers.produce handler before = some (made, between) → Reaches before between)
    (creates : scene.create handlers view parent = some (widget, created)) :
    (∃ handler, scene.forest.IsNearestFactory view parent handler ∧
      handlers.produce handler scene = some (widget, created)) ∨
      created.forest.parent? widget = none := by
  have finds := findsNearest_factoryFor scene view parent
  obtain ⟨journal, searched⟩ := exists_factoryFor_eq scene view parent
  rw [create] at creates
  generalize scene.factoryFor view parent = result at finds searched creates
  obtain ⟨_ | handler, between⟩ := result
  · obtain rfl : between = { scene with journal } := searched
    have noted : Forest.IsForest (Scene.forest { scene with journal }) := isForest
    exact Or.inr (parent?_of_make noted (Option.some.inj creates))
  · have nearest := (finds.some_iff handler).mp rfl
    obtain rfl : between = scene := finds.quiet (fun _ _ back => nearest.not_comesBack back)
    obtain ⟨⟨product, made⟩, produced, rest⟩ := Option.bind_eq_some_iff.mp creates
    dsimp only at rest
    split at rest
    · cases rest
      exact Or.inl ⟨handler, nearest, produced⟩
    · have refused := (produces handler between product made produced).trans
        (Reaches.step (PlainStep.note made (.productRefused view (made.describe product))).step)
      have released := refused.trans (Reaches.step (Step.release _ product))
      exact Or.inr (parent?_of_make (released.isForest isForest) (Option.some.inj rest))

/-- A build leaves its widget pending in a parent that lists it already if the factory put it there. -/
theorem isPendingInside_pend_iff (isForest : scene.forest.IsForest)
    (produces : ∀ handler before made between,
      handlers.produce handler before = some (made, between) → Reaches before between)
    (creates : scene.create handlers view parent = some (widget, created)) :
    (created.forest.pend widget parent).IsPendingInside widget container ↔
      container = parent ∧ widget ∈ created.forest.children parent ∧
        ∃ handler, scene.forest.IsNearestFactory view parent handler ∧
          handlers.produce handler scene = some (widget, created) := by
  have createdForest := (Reaches.create produces creates).isForest isForest
  rw [Forest.IsPendingInside, Forest.children_pend]
  constructor
  · rintro ⟨pends, member⟩
    have linked := (createdForest.mem_children_iff container widget).mp member
    rw [Forest.pending?_pend_self _ (Forest.contains_of_parent? linked), Option.some.injEq] at pends
    refine ⟨pends.symm, pends ▸ member, (handed_out_or_free isForest produces creates).resolve_right ?_⟩
    rw [linked]
    exact nofun
  · rintro ⟨rfl, member, -⟩
    have linked := (createdForest.mem_children_iff container widget).mp member
    exact ⟨Forest.pending?_pend_self _ (Forest.contains_of_parent? linked) container, member⟩

end Building

/-- In every state that a run comes to, the placement record of a live widget is consistent but for two
things. The widget has a constraint without being anybody's child exactly if, on every way to this state, it
outlived a parent in which it had a constraint and was not placed since. It is pending in a container that
lists it exactly if it was left pending there while it was a child of the container already and neither moved
nor was taken out since. A build starts its initialiser on such a widget if, and only if, the nearest factory
hands out one that hangs in the parent. -/
theorem placement_strays_iff {client : ε} {scene : Scene ε}
    (reached : Reaches (Scene.fresh client) scene) :
    Nonempty (Trace (Scene.fresh client) scene) ∧
    (∀ (trace : Trace (Scene.fresh client) scene) {widget : WidgetId},
      scene.forest.contains widget = true →
      (scene.forest.IsAdrift widget ↔ trace.OutlivesParent widget trace.length) ∧
      ∀ container, scene.forest.IsPendingInside widget container ↔
        trace.StaysPendingInside widget container trace.length) ∧
    ∀ {handlers : Handlers ε} {view : View} {parent widget : WidgetId}
      {init : WidgetId → Scene ε → Option (Scene ε)} {after : Scene ε},
      (∀ handler before made between,
        handlers.produce handler before = some (made, between) → Reaches before between) →
      scene.build handlers view parent init = some (widget, after) →
      ∃ created ready, BuildsBy handlers view parent init scene widget created ready after ∧
        ∀ container, (created.update widget
            (fun node => { node with pending := some parent })).forest.IsPendingInside widget container ↔
          container = parent ∧ widget ∈ created.forest.children parent ∧
            ∃ handler, scene.forest.IsNearestFactory view parent handler ∧
              handlers.produce handler scene = some (widget, created) := by
  refine ⟨reached.within Trace.closed_nonempty, ?_, ?_⟩
  · intro trace widget live
    have constrained : ¬ (Scene.fresh client).forest.IsAdrift widget := fun adrift => adrift.1 rfl
    have pends : ∀ container, ¬ (Scene.fresh client).forest.IsPendingInside widget container :=
      fun container inside => nomatch inside.1
    have roots := rootsHeld_fresh client
    have adrift_iff :=
      trace.isAdrift_iff_outlivesParent Forest.isForest_empty roots constrained (Nat.le_refl _)
    have inside_iff := fun container =>
      trace.isPendingInside_iff Forest.isForest_empty roots (pends container) (Nat.le_refl _)
    rw [trace.finish] at adrift_iff inside_iff
    exact ⟨adrift_iff live, inside_iff⟩
  · intro handlers view parent widget init after produces built
    obtain ⟨created, ready, builds⟩ := exists_buildsBy built
    refine ⟨created, ready, builds, fun container => ?_⟩
    exact isPendingInside_pend_iff (reached.isForest Forest.isForest_empty) produces builds.creates

/-- Client code whose factories put a new label at the top of the pane themselves. -/
def placingMakers : Handlers Unit where
  run _ _ scene := some scene
  notify _ _ _ scene := some scene
  produce _ scene :=
    let made := scene.spawn .label
    some (made.1, (made.2.addWith ⟨0⟩ made.1 .north).2)

theorem placingMakers_produce (handler : HandlerId) (before : Scene Unit) (made : WidgetId)
    (between : Scene Unit) (produced : placingMakers.produce handler before = some (made, between)) :
    Reaches before between := by
  cases produced
  exact (Reaches.step (Step.spawn before .label)).trans (Reaches.step (Step.addWith _ _ _ _))

def placingPane : Scene Unit := borderPane.setFactory ⟨0⟩ .label ⟨0⟩

/-- A label is built in the pane, and then the pane is dropped and the label is not. -/
theorem exists_builtLabel :
    ∃ built : Scene Unit,
      placingPane.build placingMakers .label ⟨0⟩ (fun _ scene => some scene) = some (⟨1⟩, built) ∧
      Reaches (Scene.fresh ()) built ∧ built.forest.IsPendingInside ⟨1⟩ ⟨0⟩ ∧
      (built.release ⟨0⟩).forest.IsAdrift ⟨1⟩ := by
  have shown : (placingPane.build placingMakers .label ⟨0⟩ (fun _ scene => some scene)).map
      (fun made => (made.1, made.2.forest.pending? ⟨1⟩, made.2.forest.children ⟨0⟩,
        (made.2.release ⟨0⟩).forest.constraint? ⟨1⟩, (made.2.release ⟨0⟩).forest.parent? ⟨1⟩)) =
      some (⟨1⟩, some ⟨0⟩, [⟨1⟩], some .north, none) := by
    decide +kernel
  obtain ⟨⟨label, built⟩, building, same⟩ := Option.map_eq_some_iff.mp shown
  simp only [Prod.mk.injEq] at same
  obtain ⟨rfl, pends, lists, constrained, free⟩ := same
  have keeps : Forest.KeepsPlace (fun node => node.setFactory .label ⟨0⟩) := {}
  have registered : Reaches (Scene.fresh ()) placingPane :=
    (Reaches.step (Step.spawn _ .borderPane)).trans
      ((Reaches.step (Step.change borderPane ⟨0⟩ keeps)).trans (Reaches.step (PlainStep.note _ _).step))
  have initialises : ∀ (made : WidgetId) (before between : Scene Unit),
      some before = some between → Reaches before between := by
    rintro made before between ⟨⟩
    exact Reaches.refl before
  have reached := registered.trans (Reaches.build placingMakers_produce initialises building)
  have dropped := reached.trans (Reaches.step (Step.release built ⟨0⟩))
  have unlisted := (dropped.isForest Forest.isForest_empty).not_mem_children_iff.mpr free
  refine ⟨built, building, reached, ⟨pends, ?_⟩, ?_, unlisted⟩
  · rw [lists]
    exact List.mem_singleton_self _
  · rw [constrained]
    exact Option.some_ne_none _

theorem builtLabel_strays :
    ∃ built : Scene Unit,
      placingPane.build placingMakers .label ⟨0⟩ (fun _ scene => some scene) = some (⟨1⟩, built) ∧
      (∃ trace : Trace (Scene.fresh ()) built, trace.StaysPendingInside ⟨1⟩ ⟨0⟩ trace.length) ∧
      ∃ trace : Trace (Scene.fresh ()) (built.release ⟨0⟩), trace.OutlivesParent ⟨1⟩ trace.length := by
  obtain ⟨built, building, reached, inside, adrift⟩ := exists_builtLabel
  have dropped := reached.trans (Reaches.step (Step.release built ⟨0⟩))
  have live := (reached.isForest Forest.isForest_empty).contains_child inside.2
  have still := Forest.contains_of_constraint? adrift.1
  obtain ⟨⟨trace⟩, strays, -⟩ := placement_strays_iff reached
  obtain ⟨⟨longer⟩, straysLonger, -⟩ := placement_strays_iff dropped
  exact ⟨built, building, ⟨trace, ((strays trace live).2 ⟨0⟩).mp inside⟩,
    ⟨longer, (straysLonger longer still).1.mp adrift⟩⟩

/-- Neither does a widget have a constraint only as a child, nor is a child never pending in its parent. -/
theorem builtLabel_breaks_record :
    ∃ built : Scene Unit,
      placingPane.build placingMakers .label ⟨0⟩ (fun _ scene => some scene) = some (⟨1⟩, built) ∧
      Reaches (Scene.fresh ()) built ∧ built.forest.contains ⟨1⟩ = true ∧
      built.forest.IsPendingInside ⟨1⟩ ⟨0⟩ ∧
      Reaches (Scene.fresh ()) (built.release ⟨0⟩) ∧
      (built.release ⟨0⟩).forest.contains ⟨1⟩ = true ∧ (built.release ⟨0⟩).forest.IsAdrift ⟨1⟩ := by
  obtain ⟨built, building, reached, inside, adrift⟩ := exists_builtLabel
  have dropped := reached.trans (Reaches.step (Step.release built ⟨0⟩))
  have live := (reached.isForest Forest.isForest_empty).contains_child inside.2
  exact ⟨built, building, reached, live, inside, dropped, Forest.contains_of_constraint? adrift.1, adrift⟩

end Scene

end StyledTree
