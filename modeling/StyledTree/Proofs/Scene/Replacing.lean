import StyledTree.Proofs.Forest.Occupants
import StyledTree.Proofs.Scene.Placing

set_option autoImplicit false

namespace StyledTree.Scene

variable {ε : Type} {scene : Scene ε}

/-- What comes of replacing the child of a pane at a place by a widget, or by nothing. -/
structure ReplacesFirst (pane : WidgetId) (place : Constraint) (scene : Scene ε)
    (replaced : Option WidgetId → Scene ε) : Prop where
  clears : Forest.ClearsPlace pane place scene.forest (replaced none).forest
  fills : ∀ widget, scene.forest.contains widget = true →
    (∀ fault, ¬ scene.forest.Refuses pane widget (some place) fault) →
      Forest.TakesPlace pane widget place scene.forest (replaced (some widget)).forest

/-- Whoever is dropped after an edit of a container, its places are as the edit left them. -/
theorem CarriesOut.occupants_eq {container : WidgetId} {givenUp : WidgetId → Prop}
    {handles : List WidgetId} {edited after : Forest}
    (carries : CarriesOut container givenUp handles edited after) (isForest : edited.IsForest)
    (place : Constraint) : after.occupants container place = edited.occupants container place := by
  rw [Forest.occupants, carries.children_eq, Forest.occupants]
  apply List.filter_congr
  intro child member
  rw [carries.constraint?_child ((isForest.mem_children_iff container child).mp member)]

section Replacing

variable (isForest : scene.forest.IsForest) (roots : scene.RootsHeld)
include isForest roots

theorem replacesFirst_place (pane : WidgetId) (place : Constraint) (refused : String → Fault → Event) :
    ReplacesFirst pane place scene
      (fun widget => scene.place pane widget (scene.forest.setPlace pane place widget) refused) where
  clears := by
    have room := isForest.vacate pane place none
    have carries := carriesOut_vacate isForest roots pane place none
    apply Forest.ClearsPlace.of_occupants
    show (scene.carryOut pane (scene.forest.vacate pane place none)).forest.occupants pane place = _
    rw [carries.occupants_eq room, (isForest.clearsPlace_vacate pane place).occupants]
  fills widget live accepted := by
    have spares : ∀ other, none = some other → other = widget := nofun
    obtain ⟨after, placed, takes⟩ := isForest.exists_takesPlace spares live accepted
    have set : (scene.forest.setPlace pane place (some widget)).2 = after := by
      simp only [Forest.setPlace, Forest.addWith, placed]
      rfl
    have edits := scene.forest.editsAt_setPlace pane place (some widget)
    rw [set] at edits
    have carries := carriesOut_carryOut isForest roots edits
    apply Forest.TakesPlace.of_occupants
    show (scene.place _ _ _ _).forest.occupants pane place = _
    rw [forest_place, set, carries.occupants_eq (edits.isForest isForest), takes.occupants]

theorem settle_takesPlace {widget container : WidgetId} {place : Constraint}
    (isPending : scene.forest.pending? widget = some container)
    (accepted : ∀ fault, ¬ scene.forest.Refuses container widget (some place) fault) :
    (scene.settle widget place).1 = .ok () ∧
      Forest.TakesPlace container widget place scene.forest (scene.settle widget place).2.forest := by
  have live : scene.forest.contains widget = true := by
    obtain ⟨node, found, -⟩ := Option.bind_eq_some_iff.mp isPending
    exact Option.isSome_iff_exists.mpr ⟨node, found⟩
  have spares : ∀ other, some widget = some other → other = widget :=
    fun other same => (Option.some.inj same).symm
  obtain ⟨after, placed, takes⟩ := isForest.exists_takesPlace spares live accepted
  have edits := scene.forest.editsAt_vacate_addWith container widget place (some widget)
  rw [Forest.addWith, placed] at edits
  have carries := carriesOut_carryOut isForest roots edits
  rw [settle_of_pending place isPending, Forest.addWith, placed]
  refine ⟨rfl, Forest.TakesPlace.of_occupants ?_⟩
  rw [forest_commit]
  exact (carries.occupants_eq (edits.isForest isForest) place).trans takes.occupants

end Replacing

/-- Replacing the child at a place takes out one child: the first that was placed there. Calling for an
empty place leaves all others where they are, and a widget that is not refused comes in behind them. So
the place is empty afterwards, or the widget is alone there and is the one that is found, exactly if no
second child was there before. -/
theorem replacing_takes_out_first_only {client : ε} {scene : Scene ε}
    (reached : Reaches (Scene.fresh client) scene) (place : Constraint) :
    (∀ pane, ReplacesFirst pane place scene (scene.setRegion pane place)) ∧
      (∀ pane, ReplacesFirst pane place scene (scene.setSide pane place)) ∧
      ∀ widget container, scene.forest.pending? widget = some container →
        (∀ fault, ¬ scene.forest.Refuses container widget (some place) fault) →
          (scene.settle widget place).1 = .ok () ∧
            Forest.TakesPlace container widget place scene.forest
              (scene.settle widget place).2.forest := by
  have isForest := reached.isForest Forest.isForest_empty
  refine ⟨fun pane => ?_, fun pane => ?_, fun widget container isPending accepted => ?_⟩
  · exact replacesFirst_place isForest reached.rootsHeld pane place .regionRefused
  · exact replacesFirst_place isForest reached.rootsHeld pane place .sideRefused
  · exact settle_takesPlace isForest reached.rootsHeld isPending accepted

def crowdedPane : Scene Unit :=
  let labelled := ((labelledAt .borderPane .north).spawn .label).2
  let crowded := ((labelled.addWith ⟨0⟩ ⟨2⟩ .north).2.spawn .label).2
  crowded.update ⟨3⟩ (fun node => { node with pending := some ⟨0⟩ })

theorem reaches_crowdedPane : Reaches (Scene.fresh ()) crowdedPane := by
  have labelled := (reaches_labelledAt .borderPane .north).trans
    (Reaches.step (Step.spawn _ .label))
  have crowded := (labelled.trans (Reaches.step (Step.addWith _ ⟨0⟩ ⟨2⟩ .north))).trans
    (Reaches.step (Step.spawn _ .label))
  exact crowded.trans (Reaches.step (Step.pend _ ⟨3⟩ ⟨0⟩))

/-- The second label takes the place that the first has to leave, and is alone there; the third, which
was built in the pane, settles behind the second, so that not it is found but the second. -/
theorem crowdedPane_replaced :
    ∃ scene : Scene Unit, Reaches (Scene.fresh ()) scene ∧
      scene.forest.occupants ⟨0⟩ .north = [⟨1⟩, ⟨2⟩] ∧
      ReplacesFirst ⟨0⟩ .north scene (scene.setRegion ⟨0⟩ .north) ∧
      (scene.setRegion ⟨0⟩ .north (some ⟨2⟩)).forest.occupants ⟨0⟩ .north = [⟨2⟩] ∧
      scene.forest.pending? ⟨3⟩ = some ⟨0⟩ ∧ (scene.settle ⟨3⟩ .north).1 = .ok () ∧
      Forest.TakesPlace ⟨0⟩ ⟨3⟩ .north scene.forest (scene.settle ⟨3⟩ .north).2.forest ∧
      (scene.settle ⟨3⟩ .north).2.forest.childAt? ⟨0⟩ .north ≠ some ⟨3⟩ := by
  have isForest := reaches_crowdedPane.isForest Forest.isForest_empty
  have container : crowdedPane.forest.isContainer ⟨0⟩ = true := by decide +kernel
  have crowd : crowdedPane.forest.occupants ⟨0⟩ .north = [⟨1⟩, ⟨2⟩] := by decide +kernel
  have isPending : crowdedPane.forest.pending? ⟨3⟩ = some ⟨0⟩ := by decide +kernel
  have accepts : ∀ label : WidgetId, label ≠ ⟨0⟩ → crowdedPane.forest.children label = [] →
      ∀ fault, ¬ crowdedPane.forest.Refuses ⟨0⟩ label (some .north) fault :=
    fun label apart childless => isForest.not_refuses_childless apart childless container .north
  obtain ⟨region, -, settling⟩ := replacing_takes_out_first_only reaches_crowdedPane .north
  have second := (region ⟨0⟩).fills ⟨2⟩ (by decide +kernel)
    (accepts ⟨2⟩ (by decide) (by decide +kernel))
  obtain ⟨settled, third⟩ := settling ⟨3⟩ ⟨0⟩ isPending
    (accepts ⟨3⟩ (by decide) (by decide +kernel))
  refine ⟨crowdedPane, reaches_crowdedPane, crowd, region ⟨0⟩, ?_, isPending, settled, third, ?_⟩
  · rw [second.alone_iff, crowd]
    decide
  · rw [Ne, third.found_iff, crowd]
    decide

/-- A place that is cleared need not be empty, and the widget that a region is set to need not be the one
that is found in it. -/
theorem crowdedPane_stays_taken :
    ∃ scene : Scene Unit, Reaches (Scene.fresh ()) scene ∧
      scene.forest.kind? ⟨0⟩ = some .borderPane ∧ scene.forest.children ⟨0⟩ = [⟨1⟩, ⟨2⟩] ∧
      (scene.setRegion ⟨0⟩ .north none).forest.childAt? ⟨0⟩ .north = some ⟨2⟩ ∧
      (scene.setRegion ⟨0⟩ .north (some ⟨3⟩)).forest.parent? ⟨3⟩ = some ⟨0⟩ ∧
      (scene.setRegion ⟨0⟩ .north (some ⟨3⟩)).forest.childAt? ⟨0⟩ .north = some ⟨2⟩ := by
  refine ⟨crowdedPane, reaches_crowdedPane, ?_⟩
  decide +kernel

end StyledTree.Scene
