import StyledTree.Proofs.Forest.Dropping
import StyledTree.Proofs.Forest.Occupants
import StyledTree.Proofs.Scene.Holding
import StyledTree.Proofs.Scene.Shape

set_option autoImplicit false

namespace StyledTree

namespace Scene

variable {ε : Type} {scene : Scene ε}

/-- Whatever hangs nowhere has a handle. -/
def RootsHeld (scene : Scene ε) : Prop :=
  ∀ widget, scene.forest.contains widget = true → scene.forest.parent? widget = none →
    widget ∈ scene.handles

/-- The marks tell what is held. -/
theorem isWithin_handleMarks (isForest : scene.forest.IsForest) {widget : WidgetId}
    (live : scene.forest.contains widget = true) :
    scene.forest.isWithin (fun other => scene.handleMarks.getD other.index false) widget =
      scene.isHeld widget := by
  have inside : ∀ met ∈ widget :: scene.forest.ancestors widget,
      met.index < scene.forest.nodes.size := by
    intro met member
    rcases List.mem_cons.mp member with rfl | above
    · exact Forest.index_lt_of_contains live
    · exact Forest.index_lt_of_contains (isForest.contains_above (isForest.mem_ancestors_iff.mp above))
  rw [isHeld, Forest.isWithin_eq_any, Forest.isWithin_eq_any, Bool.eq_iff_iff, List.any_eq_true,
    List.any_eq_true]
  refine exists_congr fun met => and_congr_right fun member => ?_
  rw [scene.getD_handleMarks (inside met member)]

/-- A sweep drops what no handle keeps. -/
theorem drops_sweep (scene : Scene ε) (isForest : scene.forest.IsForest) {gone : WidgetId → Prop}
    (gone_iff : ∀ widget, gone widget ↔
      scene.forest.contains widget = true ∧ ∀ holder ∈ scene.handles,
        ¬ scene.forest.Covers holder widget) :
    Forest.Drops gone scene.forest scene.sweep.forest := by
  apply isForest.drops_retain
  · intro widget live
    rw [isWithin_handleMarks isForest live, isHeld_iff isForest, gone_iff]
    simp only [live, true_and, not_forall, not_not, exists_prop]
  · exact fun isGone => ((gone_iff _).mp isGone).1
  · intro child parent linked stays isGone
    refine stays ((gone_iff parent).mpr ⟨isForest.contains_parent linked, fun holder handled covers => ?_⟩)
    exact ((gone_iff child).mp isGone).2 holder handled (Or.inr (covers.isAbove_child linked))

theorem rootsHeld_sweep (scene : Scene ε) (isForest : scene.forest.IsForest) : scene.sweep.RootsHeld := by
  have drops := scene.drops_sweep isForest (fun _ => Iff.rfl)
  intro widget live isRoot
  obtain ⟨was, stays⟩ := (drops.contains_iff widget).mp live
  have isKept := stays
  simp only [was, true_and, not_forall, not_not] at isKept
  obtain ⟨holder, handled, rfl | above⟩ := isKept
  · exact handled
  · cases linked : scene.forest.parent? widget with
    | none => exact absurd above (IsAbove.not_of_root linked)
    | some parent =>
        -- what keeps the widget keeps its parent, and the link between them
        have covers : scene.forest.Covers holder parent := (IsAbove.iff_of_parent linked).mp above
        have still := drops.parent_iff.mpr ⟨linked, stays, fun isGone => isGone.2 holder handled covers⟩
        rw [isRoot] at still
        cases still

theorem RootsHeld.of_same_links (roots : scene.RootsHeld) {after : Scene ε}
    (lives : ∀ widget, after.forest.contains widget = true → scene.forest.contains widget = true)
    (parents : ∀ widget, after.forest.parent? widget = scene.forest.parent? widget)
    (handles : scene.handles ⊆ after.handles) : after.RootsHeld := by
  intro widget live isRoot
  rw [parents] at isRoot
  exact handles (roots widget (lives widget live) isRoot)

/-- What comes of an edit of a container, once it is made, when the container may have given up
children. -/
structure CarriesOut (container : WidgetId) (givenUp : WidgetId → Prop) (handles : List WidgetId)
    (edited after : Forest) : Prop where
  drops : Forest.Drops (edited.Abandoned handles givenUp) edited after
  /-- Nothing goes from the tree that the container is in. -/
  stays : ∀ widget, edited.SharesTree container widget →
    ¬ edited.Abandoned handles givenUp widget
  /-- While handles keep what was given up, nothing goes at all. -/
  unchanged : (∀ child, givenUp child → ∃ holder ∈ handles, edited.Covers holder child) →
    after = edited

namespace CarriesOut

variable {container child : WidgetId} {givenUp : WidgetId → Prop} {handles : List WidgetId}
  {edited after : Forest} (carries : CarriesOut container givenUp handles edited after)
include carries

theorem congr {other : WidgetId → Prop} (same : ∀ child, givenUp child ↔ other child) :
    CarriesOut container other handles edited after := by
  have equal : givenUp = other := funext fun child => propext (same child)
  rwa [← equal]

theorem container_stays : ¬ edited.Abandoned handles givenUp container :=
  carries.stays container ⟨container, edited.covers_refl container, edited.covers_refl container⟩

theorem children_eq : after.children container = edited.children container :=
  carries.drops.children_eq carries.container_stays

theorem child_stays (linked : edited.parent? child = some container) :
    ¬ edited.Abandoned handles givenUp child :=
  carries.stays child
    ⟨container, edited.covers_refl container, Or.inr (IsAbove.of_parent linked)⟩

theorem parent?_child (linked : edited.parent? child = some container) :
    after.parent? child = some container :=
  carries.drops.parent_iff.mpr ⟨linked, carries.child_stays linked, carries.container_stays⟩

theorem constraint?_child (linked : edited.parent? child = some container) :
    after.constraint? child = edited.constraint? child :=
  carries.drops.constraint?_eq (carries.child_stays linked)

end CarriesOut

section CarryOut

variable {container : WidgetId} {edited : Forest}

/-- What hangs nowhere after an edit has a handle, or was just given up. -/
theorem RootsHeld.handled_or_lost (roots : scene.RootsHeld) (isForest : scene.forest.IsForest)
    (edits : scene.forest.EditsAt container edited) {widget : WidgetId}
    (live : edited.contains widget = true) (isRoot : edited.parent? widget = none) :
    widget ∈ scene.handles ∨ widget ∈ scene.forest.lost edited container := by
  have editedAt := edits.editedAt isForest
  refine (editedAt.root_or_lost isForest (edits.isForest isForest) isRoot).imp_left ?_
  rw [editedAt.contains_eq] at live
  exact roots widget live

theorem carriesOut_carryOut (isForest : scene.forest.IsForest) (roots : scene.RootsHeld)
    (edits : scene.forest.EditsAt container edited) :
    CarriesOut container (· ∈ scene.forest.lost edited container) scene.handles edited
      (scene.carryOut container edited).forest := by
  have editedForest := edits.isForest isForest
  have editedAt := edits.editedAt isForest
  have isHeld_iff : ∀ widget, isHeld { scene with forest := edited } widget = true ↔
      ∃ holder ∈ scene.handles, edited.Covers holder widget :=
    fun _ => isHeld_iff editedForest
  have live_of_covers : ∀ {upper lower}, edited.Covers upper lower →
      edited.contains lower = true → edited.contains upper = true :=
    fun covers live => covers.elim (fun same => same ▸ live) editedForest.contains_above
  constructor
  case stays =>
    rintro widget ⟨top, atContainer, atWidget⟩ ⟨⟨child, lost, -⟩, notHeld⟩
    have live : edited.contains container = true := by
      rw [editedAt.contains_eq]
      exact Forest.contains_of_mem_children (Forest.mem_lost_iff.mp lost).1
    obtain ⟨root, covers, isRoot⟩ := editedForest.exists_root container
    rcases roots.handled_or_lost isForest edits (live_of_covers covers live) isRoot with handled | rootLost
    · apply notHeld root handled
      rcases covers.comparable atContainer with above | above
      · exact above.trans atWidget
      · rwa [← above.eq_of_root isRoot]
    · exact editedAt.not_covers_of_lost isForest rootLost covers
  all_goals rcases scene.carryOut_cases container edited with ⟨kept, same⟩ | ⟨dropped, same⟩
  case unchanged.inl => exact fun _ => congrArg Scene.forest same
  case unchanged.inr =>
    intro kept
    obtain ⟨child, lost, notHeld⟩ := dropped
    exact absurd ((isHeld_iff child).mpr (kept child lost)) notHeld
  case drops.inl =>
    rw [same]
    apply Forest.Drops.refl
    rintro widget ⟨⟨child, lost, covers⟩, notHeld⟩
    obtain ⟨holder, handled, above⟩ := (isHeld_iff child).mp (kept child lost)
    exact notHeld holder handled (above.trans covers)
  case drops.inr =>
    rw [same]
    refine drops_sweep { scene with forest := edited } editedForest fun widget => ?_
    constructor
    · rintro ⟨⟨child, lost, covers⟩, notHeld⟩
      refine ⟨covers.elim (fun equal => ?_) Forest.contains_of_isAbove, notHeld⟩
      rw [← equal, editedAt.contains_eq]
      exact isForest.contains_child (Forest.mem_lost_iff.mp lost).1
    · rintro ⟨live, notHeld⟩
      obtain ⟨root, covers, isRoot⟩ := editedForest.exists_root widget
      rcases roots.handled_or_lost isForest edits (live_of_covers covers live) isRoot with handled | lost
      · exact absurd covers (notHeld root handled)
      · exact ⟨⟨root, lost, covers⟩, notHeld⟩

theorem carriesOut_insert (isForest : scene.forest.IsForest) (roots : scene.RootsHeld)
    {parent child : WidgetId} {constraint : Option Constraint} {moved : Forest}
    (live : scene.forest.contains child = true)
    (done : scene.forest.insert parent child constraint = .ok moved) :
    CarriesOut parent (scene.forest.Evicts parent child) scene.handles moved
      (scene.carryOut parent moved).forest :=
  (carriesOut_carryOut isForest roots (.insert done)).congr
    (fun _ => (isForest.inserted live done).mem_lost_iff)

theorem carriesOut_vacate (isForest : scene.forest.IsForest) (roots : scene.RootsHeld)
    (container : WidgetId) (place : Constraint) (spared : Option WidgetId) :
    CarriesOut container (scene.forest.IsDisplaced container place spared) scene.handles
      (scene.forest.vacate container place spared)
      (scene.carryOut container (scene.forest.vacate container place spared)).forest :=
  (carriesOut_carryOut isForest roots (scene.forest.editsAt_vacate container place spared)).congr
    (fun _ => (isForest.vacated_vacate container place spared).mem_lost_iff)

theorem rootsHeld_carryOut (isForest : scene.forest.IsForest) (roots : scene.RootsHeld)
    (edits : scene.forest.EditsAt container edited) : (scene.carryOut container edited).RootsHeld := by
  have editedForest := edits.isForest isForest
  rcases scene.carryOut_cases container edited with ⟨kept, same⟩ | ⟨-, same⟩
  · rw [same]
    intro widget live isRoot
    rcases roots.handled_or_lost isForest edits live isRoot with handled | lost
    · exact handled
    · obtain ⟨holder, handled, covers⟩ := (isHeld_iff editedForest).mp (kept widget lost)
      rwa [← covers.eq_of_root isRoot]
  · rw [same]
    exact rootsHeld_sweep { scene with forest := edited } editedForest

end CarryOut

theorem rootsHeld_release (isForest : scene.forest.IsForest) (roots : scene.RootsHeld)
    (widget : WidgetId) : (scene.release widget).RootsHeld := by
  have heldForest : Forest.IsForest (Scene.forest { scene with handles := scene.handles.erase widget }) :=
    isForest
  rw [release]
  split
  · next held =>
    obtain ⟨holder, handled, covers⟩ := (isHeld_iff heldForest).mp held
    intro root live isRoot
    by_cases same : root = widget
    · subst same
      exact covers.eq_of_root isRoot ▸ handled
    · exact (List.mem_erase_of_ne same).mpr (roots root live isRoot)
  · exact rootsHeld_sweep { scene with handles := scene.handles.erase widget } heldForest

/-- No step leaves a widget that hangs nowhere and has no handle. -/
theorem Step.rootsHeld {before after : Scene ε} (step : Step before after)
    (isForest : before.forest.IsForest) (roots : before.RootsHeld) : after.RootsHeld := by
  have updated : ∀ {widget : WidgetId} {change : Node → Node}, Forest.KeepsLinks change →
      (before.update widget change).RootsHeld := by
    intro widget change keeps
    refine roots.of_same_links (fun other live => ?_) (fun other => ?_) (List.Subset.refl _)
    · rwa [update, Forest.contains_eq_isSome_kind?, Forest.kind?_update _ _ _ keeps.kind,
        ← Forest.contains_eq_isSome_kind?] at live
    · rw [update, Forest.parent?_update]
      simp only [keeps.parent, Forest.parent?, ite_self]
  cases step.effect with
  | edits edits forest handles =>
      have carried := rootsHeld_carryOut isForest roots edits
      intro widget live isRoot
      rw [forest] at live isRoot
      rw [handles, ← handles_carryOut]
      exact carried widget live isRoot
  | spawn kind =>
      intro widget live isRoot
      by_cases isNew : widget = (before.forest.create kind).1
      · rw [isNew]
        exact List.mem_cons_self
      · rw [Scene.spawn, Forest.contains, Forest.get?_create, if_neg isNew, ← Forest.contains] at live
        rw [Scene.spawn, Forest.parent?_create] at isRoot
        exact List.mem_cons_of_mem _ (roots widget live isRoot)
  | release widget => exact rootsHeld_release isForest roots widget
  | sweep => exact before.rootsHeld_sweep isForest
  | pend widget container => exact updated {}
  | change widget keeps => exact updated keeps.toKeepsLinks
  | same forest handles =>
      exact roots.of_same_links (fun _ live => forest ▸ live) (fun _ => by rw [forest]) handles

theorem Reaches.keepsRootsHeld {before after : Scene ε} (reaches : Reaches before after)
    (isForest : before.forest.IsForest) (roots : before.RootsHeld) : after.RootsHeld := by
  have kept : ∀ {before after : Scene ε}, Step before after →
      before.forest.IsForest ∧ before.RootsHeld → after.forest.IsForest ∧ after.RootsHeld :=
    fun step both => ⟨step.isForest both.1, step.rootsHeld both.1 both.2⟩
  exact (reaches.invariant kept ⟨isForest, roots⟩).2

theorem rootsHeld_fresh (client : ε) : (Scene.fresh client).RootsHeld :=
  fun _ live _ => nomatch live

theorem Reaches.rootsHeld {client : ε} (reached : Reaches (Scene.fresh client) scene) :
    scene.RootsHeld :=
  reached.keepsRootsHeld Forest.isForest_empty (rootsHeld_fresh client)

end Scene

end StyledTree
