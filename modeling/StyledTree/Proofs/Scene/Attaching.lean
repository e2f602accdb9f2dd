import StyledTree.Proofs.Forest.Occupants
import StyledTree.Proofs.Scene.Shape

set_option autoImplicit false

namespace StyledTree

namespace Forest

def HasOpenLayout (forest : Forest) (widget : WidgetId) : Prop :=
  ∃ node, forest.get? widget = some node ∧ node.layout.requiresConstraints = false

theorem HasOpenLayout.contains {forest : Forest} {widget : WidgetId}
    (isOpen : forest.HasOpenLayout widget) : forest.contains widget = true := by
  obtain ⟨node, found, -⟩ := isOpen
  rw [Forest.contains, found]
  rfl

structure Appended (parent child : WidgetId) (before after : Forest) : Prop where
  children : after.children parent =
    (before.children parent).filter (fun other => other != child) ++ [child]
  parent : after.parent? child = some parent
  constraint : after.constraint? child = none
  pending : after.pending? child = none

/-- A widget's builders attach to it by its kind and its layout. -/
theorem autoAdds_iff {forest : Forest} {widget : WidgetId} {kind : Kind}
    (isKind : forest.kind? widget = some kind) :
    forest.autoAdds widget = true ↔
      kind.isContainer = true ∧ kind.placesByHand = false ∧ forest.HasOpenLayout widget := by
  obtain ⟨node, found, rfl⟩ := Option.map_eq_some_iff.mp isKind
  simp [autoAdds, HasOpenLayout, Node.autoAdds, Node.isContainer, found, and_assoc]

/-- An addition that the layout allows is an insertion. -/
theorem add_of_autoAdds {forest : Forest} {parent child : WidgetId}
    (adds : forest.autoAdds parent = true) :
    forest.add parent child = forest.insert parent child none := by
  obtain ⟨node, found, allowed⟩ := (Option.any_eq_true _ _).mp adds
  simp only [Node.autoAdds, Bool.and_eq_true, Bool.not_eq_true'] at allowed
  simp [add, found, allowed.2]

/-- Inserting a child in a container that is not at or below it appends the child. -/
theorem appended_of_insert {forest after : Forest} (isForest : forest.IsForest)
    {parent child : WidgetId} {kind : Kind} (isKind : forest.kind? parent = some kind)
    (noScroll : kind ≠ .scrollPane) (live : forest.contains child = true)
    (inserted : forest.insert parent child none = .ok after) :
    forest.Appended parent child after := by
  obtain ⟨node, found, rfl⟩ := Option.map_eq_some_iff.mp isKind
  have done := isForest.inserted live inserted
  obtain ⟨hangs, unconstrained, settled⟩ := done.hangs live
  have lists := done.lists
  rw [found, Option.map_some, Node.holding, if_neg noScroll] at lists
  refine ⟨?_, hangs, unconstrained, settled⟩
  rw [children, lists, children, found]
  rfl

/-- A container that is neither the child nor below it takes the child in. -/
theorem exists_insert {forest : Forest} (isForest : forest.IsForest) {parent child : WidgetId}
    (container : forest.isContainer parent = true) (outside : ¬ forest.Covers child parent)
    (constraint : Option Constraint) :
    ∃ after, forest.insert parent child constraint = .ok after := by
  cases inserted : forest.insert parent child constraint with
  | ok after => exact ⟨after, rfl⟩
  | error fault =>
      rcases isForest.insert_eq_error_iff.mp inserted with ⟨leaf, -⟩ | ⟨-, covers, -⟩
      · rw [container] at leaf
        cases leaf
      · exact absurd covers outside

/-- An insertion that is refused, or of a widget that is gone, leaves the forest. -/
theorem insertion_eq_self {forest : Forest} (isForest : forest.IsForest) {parent child : WidgetId}
    {constraint : Option Constraint}
    (missed : forest.contains child = false ∨ forest.Covers child parent) :
    (Edit.ofInsertion forest (forest.insert parent child constraint)).2 = forest := by
  cases inserted : forest.insert parent child constraint with
  | error fault => rfl
  | ok after =>
      obtain ⟨-, apart, outside, ⟨-, rfl⟩ | ⟨live, -⟩⟩ := insert_cases inserted
      · rfl
      · rcases missed with gone | rfl | above
        · rw [live] at gone
          cases gone
        · exact absurd rfl apart
        · rw [isForest.isBelow_iff.mpr above] at outside
          cases outside

end Forest

namespace Scene

variable {ε : Type} {handlers : Handlers ε} {view : View} {parent widget : WidgetId}
  {init : WidgetId → Scene ε → Option (Scene ε)} {scene after : Scene ε}

/-- The parts of a build: the widget is made, the initialiser works on it while it is pending in the
parent, and then it is added to the parent or left pending. -/
structure BuildsBy (handlers : Handlers ε) (view : View) (parent : WidgetId)
    (init : WidgetId → Scene ε → Option (Scene ε)) (scene : Scene ε) (widget : WidgetId)
    (created ready after : Scene ε) : Prop where
  creates : scene.create handlers view parent = some (widget, created)
  initialises :
    init widget (created.update widget (fun node => { node with pending := some parent })) =
      some ready
  attaches : after.forest =
    if ready.forest.autoAdds parent then (ready.add parent widget).2.forest else ready.forest

theorem exists_buildsBy (built : scene.build handlers view parent init = some (widget, after)) :
    ∃ created ready, BuildsBy handlers view parent init scene widget created ready after := by
  simp only [build] at built
  obtain ⟨⟨made, created⟩, creates, rest⟩ := Option.bind_eq_some_iff.mp built
  obtain ⟨ready, initialises, rest⟩ := Option.bind_eq_some_iff.mp rest
  have attaches : widget = made ∧ after.forest =
      if ready.forest.autoAdds parent then (ready.add parent made).2.forest else ready.forest := by
    split at rest
    · next adds =>
      rw [if_pos adds]
      split at rest
      · next same =>
        cases rest
        exact ⟨rfl, by rw [same]⟩
      · next same =>
        cases rest
        exact ⟨rfl, by rw [same]; rfl⟩
    · next adds =>
      rw [if_neg adds]
      cases rest
      exact ⟨rfl, rfl⟩
  obtain ⟨rfl, attaches⟩ := attaches
  exact ⟨created, ready, creates, initialises, attaches⟩

/-- A widget that is gone, and one that is the parent or above it, is not attached. -/
theorem BuildsBy.forest_eq_of_missed {created ready : Scene ε}
    (builds : BuildsBy handlers view parent init scene widget created ready after)
    (isForest : ready.forest.IsForest)
    (missed : ready.forest.autoAdds parent = true →
      ready.forest.contains widget = false ∨ ready.forest.Covers widget parent) :
    after.forest = ready.forest := by
  rw [builds.attaches]
  split
  · next adds =>
    rw [Scene.add, forest_commit, Forest.add_of_autoAdds adds,
      Forest.insertion_eq_self isForest (missed adds), carryOut_self]
  · rfl

/-- The client code of a build works through calls of the library. -/
theorem BuildsBy.reaches {created ready : Scene ε}
    (builds : BuildsBy handlers view parent init scene widget created ready after)
    (produces : ∀ handler before made between,
      handlers.produce handler before = some (made, between) → Reaches before between)
    (initialises : ∀ made before between, init made before = some between → Reaches before between) :
    Reaches scene ready :=
  ((Reaches.create produces builds.creates).trans (Reaches.step (Step.pend created widget parent))).trans
    (initialises widget _ ready builds.initialises)

/-- Builders attach nothing by themselves to a split pane, a frame or a widget that is no container, be
its layout what it may. A border pane, too, keeps only what is placed in it by hand, except while its
layout lets children in without a constraint: then builders attach to it, and what a build does is
decided by the layout at the end of the initialiser. The widget is appended if the border pane has such a
layout then and the widget is still there and is not the pane itself or above it, and in all other cases
the build leaves the forest as the initialiser left it. -/
theorem builders_attach_to_open_borderPane_only {client : ε} {scene : Scene ε}
    (reached : Reaches (Scene.fresh client) scene) {parent : WidgetId} {kind : Kind}
    (isKind : scene.forest.kind? parent = some kind)
    (byHand : kind = .borderPane ∨ kind = .splitPane ∨ kind = .frame ∨ kind.isContainer = false) :
    (scene.forest.autoAdds parent = true ↔
      kind = .borderPane ∧ scene.forest.HasOpenLayout parent) ∧
    ∀ {handlers : Handlers ε} {view : View} {init : WidgetId → Scene ε → Option (Scene ε)}
      {widget : WidgetId} {after : Scene ε},
      (∀ handler before made between,
        handlers.produce handler before = some (made, between) → Reaches before between) →
      (∀ made before between, init made before = some between → Reaches before between) →
      scene.build handlers view parent init = some (widget, after) →
      ∃ created ready, BuildsBy handlers view parent init scene widget created ready after ∧
        (kind = .borderPane ∧ ready.forest.HasOpenLayout parent ∧
            ready.forest.contains widget = true ∧ ¬ ready.forest.Covers widget parent →
          ready.forest.Appended parent widget after.forest) ∧
        (¬ (kind = .borderPane ∧ ready.forest.HasOpenLayout parent ∧
            ready.forest.contains widget = true ∧ ¬ ready.forest.Covers widget parent) →
          after.forest = ready.forest) := by
  have adds_iff : ∀ {forest : Forest}, forest.kind? parent = some kind →
      (forest.autoAdds parent = true ↔ kind = .borderPane ∧ forest.HasOpenLayout parent) := by
    intro forest isKind
    rw [Forest.autoAdds_iff isKind, ← and_assoc]
    refine and_congr_left fun _ => ?_
    rcases byHand with rfl | rfl | rfl | leaf
    · decide
    · decide
    · decide
    · rw [leaf]
      exact ⟨fun both => absurd both.1 (by decide), fun same => absurd leaf (by rw [same]; decide)⟩
  refine ⟨adds_iff isKind, ?_⟩
  intro handlers view init widget after produces initialises built
  obtain ⟨created, ready, builds⟩ := exists_buildsBy built
  have reaches := builds.reaches produces initialises
  have isForest := (reached.trans reaches).isForest Forest.isForest_empty
  refine ⟨created, ready, builds, ?_, ?_⟩
  · rintro ⟨rfl, isOpen, live, outside⟩
    have readyKind := reaches.lasts.kind?_eq isKind isOpen.contains
    have container : ready.forest.isContainer parent = true := by
      rw [Forest.isContainer_eq_any_kind?, readyKind]
      rfl
    obtain ⟨grown, inserted⟩ := Forest.exists_insert isForest container outside none
    have adds := (adds_iff readyKind).mpr ⟨rfl, isOpen⟩
    have nothing := isForest.lost_eq_nil_of_insert inserted (by rw [readyKind]; decide)
    rw [builds.attaches, if_pos adds, Scene.add, forest_commit, Forest.add_of_autoAdds adds, inserted]
    have grows : ready.carryOut parent grown = { ready with forest := grown } :=
      carryOut_of_lost_eq_nil nothing
    show ready.forest.Appended parent widget (ready.carryOut parent grown).forest
    rw [grows]
    exact Forest.appended_of_insert isForest readyKind (by decide) live inserted
  · intro missed
    apply builds.forest_eq_of_missed isForest
    intro adds
    have live : ready.forest.contains parent = true := by
      obtain ⟨node, found, -⟩ := (Option.any_eq_true _ _).mp adds
      rw [Forest.contains, found]
      rfl
    obtain ⟨isPane, isOpen⟩ := (adds_iff (reaches.lasts.kind?_eq isKind live)).mp adds
    by_contra neither
    rw [not_or, Bool.not_eq_false] at neither
    exact missed ⟨isPane, isOpen, neither.1, neither.2⟩

def borderPane : Scene Unit := ((Scene.fresh ()).spawn .borderPane).2

def loosen (pane : WidgetId) (scene : Scene Unit) : Scene Unit :=
  scene.update pane (fun node => node.setLayout .flow)

theorem reaches_loosen (pane : WidgetId) (scene : Scene Unit) : Reaches scene (loosen pane scene) :=
  Reaches.step (Step.change scene pane (Forest.KeepsPlace.setLayout .flow))

theorem labelMakers_produce (handler : HandlerId) (before : Scene Unit) (made : WidgetId)
    (between : Scene Unit) (produced : labelMakers.produce handler before = some (made, between)) :
    Reaches before between := by
  cases produced
  exact Reaches.step (Step.spawn before .label)

/-- The pane has the layout that it was made with when the build begins, and attaches the label because
the initialiser loosens it meanwhile. -/
theorem loosenedPane_takes_label :
    borderPane.forest.kind? ⟨0⟩ = some .borderPane ∧ borderPane.forest.autoAdds ⟨0⟩ = false ∧
      ∃ ready after : Scene Unit, borderPane.build labelMakers .label ⟨0⟩
          (fun _ scene => some (loosen ⟨0⟩ scene)) = some (⟨1⟩, after) ∧
        ready.forest.HasOpenLayout ⟨0⟩ ∧ ready.forest.Appended ⟨0⟩ ⟨1⟩ after.forest ∧
          after.forest.children ⟨0⟩ = [⟨1⟩] := by
  have isKind : borderPane.forest.kind? ⟨0⟩ = some .borderPane := by decide +kernel
  have shown : (borderPane.build labelMakers .label ⟨0⟩ (fun _ scene => some (loosen ⟨0⟩ scene))).map
      (fun built => (built.1, built.2.forest.children ⟨0⟩)) = some (⟨1⟩, [⟨1⟩]) := by
    decide +kernel
  obtain ⟨⟨label, after⟩, built, same⟩ := Option.map_eq_some_iff.mp shown
  obtain ⟨rfl, children⟩ := Prod.mk.inj same
  have reached : Reaches (Scene.fresh ()) borderPane := Reaches.step (Step.spawn _ .borderPane)
  have initialises : ∀ (made : WidgetId) (before between : Scene Unit),
      some (loosen ⟨0⟩ before) = some between → Reaches before between := by
    rintro made before between ⟨⟩
    exact reaches_loosen ⟨0⟩ before
  obtain ⟨keeps, builds⟩ := builders_attach_to_open_borderPane_only reached isKind (Or.inl rfl)
  obtain ⟨created, ready, parts, appends, -⟩ := builds labelMakers_produce initialises built
  have creates : borderPane.create labelMakers .label ⟨0⟩ = some (borderPane.make .label "") := rfl
  obtain rfl := congrArg Prod.snd (Option.some.inj (creates.symm.trans parts.creates))
  obtain rfl := Option.some.inj parts.initialises
  have isOpen : (loosen ⟨0⟩ ((borderPane.make .label "").2.update ⟨1⟩
      (fun node => { node with pending := some ⟨0⟩ }))).forest.HasOpenLayout ⟨0⟩ :=
    ⟨_, rfl, rfl⟩
  refine ⟨isKind, by decide +kernel, _, after, built, isOpen, ?_, children⟩
  refine appends ⟨rfl, isOpen, by decide +kernel, ?_⟩
  rintro (same | above)
  · cases same
  · exact absurd above (IsAbove.not_of_root (by decide +kernel))

def loosePane : Scene Unit := loosen ⟨0⟩ borderPane

/-- That a border pane never attaches what is built in it is wrong while its layout is loose. -/
theorem loosePane_attaches :
    Reaches (Scene.fresh ()) loosePane ∧ loosePane.forest.kind? ⟨0⟩ = some .borderPane ∧
      loosePane.forest.children ⟨0⟩ = [] ∧ loosePane.forest.autoAdds ⟨0⟩ = true ∧
        ∃ after, loosePane.build labelMakers .label ⟨0⟩ (fun _ scene => some scene) =
            some (⟨1⟩, after) ∧ after.forest.children ⟨0⟩ = [⟨1⟩] := by
  have shown : (loosePane.build labelMakers .label ⟨0⟩ (fun _ scene => some scene)).map
      (fun built => (built.1, built.2.forest.children ⟨0⟩)) = some (⟨1⟩, [⟨1⟩]) := by
    decide +kernel
  obtain ⟨⟨label, after⟩, built, same⟩ := Option.map_eq_some_iff.mp shown
  obtain ⟨rfl, children⟩ := Prod.mk.inj same
  have reached : Reaches (Scene.fresh ()) loosePane :=
    (Reaches.step (Step.spawn _ .borderPane)).trans (reaches_loosen ⟨0⟩ borderPane)
  exact ⟨reached, by decide +kernel, by decide +kernel, by decide +kernel, after, built, children⟩

end Scene

end StyledTree
