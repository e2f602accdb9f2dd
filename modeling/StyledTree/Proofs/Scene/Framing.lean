import StyledTree.Proofs.Forest.Occupants
import StyledTree.Proofs.Scene.Placing

set_option autoImplicit false

namespace StyledTree

namespace Forest

structure IsContentPane (forest : Forest) (frame pane : WidgetId) : Prop where
  isPanel : forest.kind? pane = some .panel
  isChild : pane ∈ forest.children frame
  isCentral : forest.constraint? pane = some .center

/-- Nothing is at the center of a frame, or a panel is found there. -/
def FitsPane (forest : Forest) (frame : WidgetId) : Prop :=
  ∀ child, forest.childAt? frame .center = some child → forest.kind? child = some .panel

structure PaneAttached (frame pane : WidgetId) (before after : Forest) : Prop where
  isNew : before.contains pane = false
  places : after.get? pane =
    some { Node.fresh .panel with parent := some frame, constraint := some .center }
  lists : after.get? frame =
    (before.get? frame).map (fun node => { node with children := node.children ++ [pane] })
  elsewhere : ∀ widget, widget ≠ pane → widget ≠ frame → after.get? widget = before.get? widget

namespace PaneAttached

variable {frame pane widget : WidgetId} {before after : Forest}

theorem ne_of_contains (attached : PaneAttached frame pane before after)
    (live : before.contains widget = true) : widget ≠ pane := by
  rintro rfl
  rw [attached.isNew] at live
  cases live

theorem kind?_eq (attached : PaneAttached frame pane before after) (differ : widget ≠ pane) :
    after.kind? widget = before.kind? widget := by
  rw [kind?, kind?]
  by_cases isFrame : widget = frame
  · rw [isFrame, attached.lists]
    cases before.get? frame <;> rfl
  · rw [attached.elsewhere widget differ isFrame]

theorem constraint?_eq (attached : PaneAttached frame pane before after) (differ : widget ≠ pane) :
    after.constraint? widget = before.constraint? widget := by
  rw [constraint?, constraint?]
  by_cases isFrame : widget = frame
  · rw [isFrame, attached.lists]
    cases before.get? frame <;> rfl
  · rw [attached.elsewhere widget differ isFrame]

theorem children_eq (attached : PaneAttached frame pane before after)
    (live : before.contains frame = true) :
    after.children frame = before.children frame ++ [pane] := by
  obtain ⟨node, found⟩ := Option.isSome_iff_exists.mp live
  rw [children, attached.lists, children, found]
  rfl

theorem isContentPane (attached : PaneAttached frame pane before after)
    (live : before.contains frame = true) : after.IsContentPane frame pane where
  isPanel := by
    rw [kind?, attached.places]
    rfl
  isChild := by
    rw [attached.children_eq live]
    exact List.mem_append_right _ List.mem_cons_self
  isCentral := by
    rw [constraint?, attached.places]
    rfl

theorem occupants_center (attached : PaneAttached frame pane before after) (isForest : before.IsForest)
    (live : before.contains frame = true) :
    after.occupants frame .center = before.occupants frame .center ++ [pane] := by
  have central := (attached.isContentPane live).isCentral
  rw [occupants, attached.children_eq live, List.filter_append,
    List.filter_cons_of_pos (by simpa using central), List.filter_nil, occupants]
  congr 1
  apply List.filter_congr
  intro child member
  rw [attached.constraint?_eq (attached.ne_of_contains (isForest.contains_child member))]

/-- What was found at the center before is found there afterwards; else the new panel is. -/
theorem childAt?_center (attached : PaneAttached frame pane before after) (isForest : before.IsForest)
    (live : before.contains frame = true) :
    after.childAt? frame .center = (before.childAt? frame .center).or (some pane) := by
  rw [childAt?_eq_head?, attached.occupants_center isForest live, List.head?_append, childAt?_eq_head?,
    List.head?_cons]

end PaneAttached

/-- A frame takes in a panel that was just made. -/
theorem IsForest.exists_paneAttached {forest : Forest} (isForest : forest.IsForest) {frame : WidgetId}
    (isFrame : forest.kind? frame = some .frame) :
    ∃ after, (forest.create .panel).2.insert frame (forest.create .panel).1 (some .center) =
        .ok after ∧
      PaneAttached frame (forest.create .panel).1 forest after := by
  have created := get?_create forest .panel
  have isNew : forest.get? (forest.create .panel).1 = none := get?_create_fst forest .panel
  have grown := isForest.create .panel
  generalize (forest.create .panel).1 = pane at created isNew ⊢
  generalize (forest.create .panel).2 = made at created grown ⊢
  obtain ⟨node, found, isKind⟩ := Option.map_eq_some_iff.mp isFrame
  have apart : pane ≠ frame := by
    rintro rfl
    rw [isNew] at found
    cases found
  have fresh : made.get? pane = some (.fresh .panel) := by rw [created, if_pos rfl]
  have there : made.get? frame = some node := by rw [created, if_neg (Ne.symm apart), found]
  have childless : made.children pane = [] := by
    rw [children, fresh]
    rfl
  have container : made.isContainer frame = true := by
    rw [Forest.isContainer, there, Option.any_some, Node.isContainer, isKind]
    rfl
  obtain ⟨after, done⟩ := exists_insert grown container
    (grown.not_covers_of_childless apart childless) (some .center)
  have live : made.contains pane = true := Option.isSome_iff_exists.mpr ⟨_, fresh⟩
  have inserted := grown.inserted live done
  have still : ∀ widget, ¬ made.Evicts frame pane widget := by
    rintro widget ⟨scrolls, -⟩
    rw [kind?, there, Option.map_some, isKind] at scrolls
    cases scrolls
  refine ⟨after, done, ?_⟩
  constructor
  case isNew =>
    rw [contains, isNew]
    rfl
  case places =>
    rw [inserted.places, fresh]
    rfl
  case lists =>
    have unlisted : pane ∉ node.children := by
      intro member
      have above : pane ∈ made.children frame := by
        rw [children, there]
        exact member
      have linked := (grown.mem_children_iff frame pane).mp above
      rw [parent?, fresh] at linked
      cases linked
    rw [inserted.lists, there, found, Option.map_some, Option.map_some, Node.holding, isKind,
      if_neg (by decide), Node.without_eq_self unlisted]
  case elsewhere =>
    intro widget notPane notFrame
    have hangs : made.parent? pane ≠ some widget := by
      rw [parent?, fresh]
      intro linked
      cases linked
    rw [inserted.elsewhere widget notPane notFrame hangs (still widget), created, if_neg notPane]

end Forest

namespace Scene

variable {ε : Type} {scene : Scene ε} {frame : WidgetId}

/-- A new panel is refused by no frame, and its handle goes to the caller. -/
theorem exists_attachContent_eq (isForest : scene.forest.IsForest)
    (isFrame : scene.forest.kind? frame = some .frame) :
    ∃ after journal, scene.attachContent frame = ((scene.forest.create .panel).1,
        { scene with
          forest := after
          handles := (scene.forest.create .panel).1 :: scene.handles
          journal }) ∧
      Forest.PaneAttached frame (scene.forest.create .panel).1 scene.forest after ∧
        after.IsForest := by
  obtain ⟨after, done, attached⟩ := isForest.exists_paneAttached isFrame
  refine ⟨after, (scene.note (.childAdded (after.describe (scene.forest.create .panel).1)
    (after.describe frame))).journal, ?_, attached, (isForest.create .panel).insert done⟩
  have live : scene.forest.contains frame = true := by
    rw [Forest.contains_eq_isSome_kind?, isFrame]
    rfl
  have stillFrame : (scene.forest.create .panel).2.kind? frame = some .frame := by
    rw [Forest.kind?, Forest.get?_create, if_neg (attached.ne_of_contains live), ← Forest.kind?,
      isFrame]
  -- a frame gives up nothing for the panel
  have nothing := (isForest.create .panel).lost_eq_nil_of_insert done (by rw [stillFrame]; decide)
  have carried : (scene.spawn .panel).2.carryOut frame after =
      { (scene.spawn .panel).2 with forest := after } := carryOut_of_lost_eq_nil nothing
  have committed : (scene.spawn .panel).2.addWith frame (scene.spawn .panel).1 .center =
      (.ok (), { (scene.spawn .panel).2 with forest := after }.note
        (.childAdded (after.describe (scene.forest.create .panel).1) (after.describe frame))) := by
    show (scene.spawn .panel).2.commit frame _ (.ofInsertion _
      ((scene.forest.create .panel).2.insert frame (scene.forest.create .panel).1 (some .center))) = _
    rw [done, Forest.Edit.ofInsertion, commit, carried]
    rfl
  simp only [attachContent, committed]
  rfl

/-- The panel that a frame gets is put behind all children of the frame. -/
theorem paneAttached_attachContent (isForest : scene.forest.IsForest)
    (isFrame : scene.forest.kind? frame = some .frame) :
    Forest.PaneAttached frame (scene.attachContent frame).1 scene.forest
      (scene.attachContent frame).2.forest := by
  obtain ⟨after, journal, made, attached, -⟩ := exists_attachContent_eq isForest isFrame
  rw [made]
  exact attached

/-- Calls for the content pane of a frame a number of times, and keeps a handle from each call. -/
def contentPanes (frame : WidgetId) : Nat → Scene ε → List WidgetId × Scene ε
  | 0, scene => ([], scene)
  | count + 1, scene =>
    let (pane, after) := scene.contentPane frame
    let (panes, last) := contentPanes frame count after
    (pane :: panes, last)

/-- Each of a number of calls for the content pane of a frame made a panel of its own. -/
structure MultipliesPanes (frame : WidgetId) (count : Nat) (scene : Scene ε)
    (result : List WidgetId × Scene ε) : Prop where
  length : result.1.length = count
  distinct : result.1.Nodup
  new : ∀ pane ∈ result.1, scene.forest.contains pane = false
  panes : ∀ pane ∈ result.1, result.2.forest.IsContentPane frame pane
  lists : result.2.forest.get? frame =
    (scene.forest.get? frame).map (fun node => { node with children := node.children ++ result.1 })
  elsewhere : ∀ widget, widget ∉ result.1 → widget ≠ frame →
    result.2.forest.get? widget = scene.forest.get? widget

theorem contentPane_of_panel {child : WidgetId}
    (found : scene.forest.childAt? frame .center = some child)
    (isPanel : scene.forest.kind? child = some .panel) :
    scene.contentPane frame = (child, scene.hold child) := by
  simp only [contentPane, found, isPanel, if_true]

theorem contentPane_of_free (free : scene.forest.childAt? frame .center = none) :
    scene.contentPane frame = scene.attachContent frame := by
  simp only [contentPane, free]

theorem contentPane_of_not_fits (unfit : ¬ scene.forest.FitsPane frame) :
    scene.contentPane frame = scene.attachContent frame := by
  simp only [Forest.FitsPane, not_forall] at unfit
  obtain ⟨child, found, notPanel⟩ := unfit
  simp only [contentPane, found, if_neg notPanel]

/-- While a panel is found at the center, all calls come to it and change nothing. -/
theorem contentPanes_of_panel {child : WidgetId}
    (found : scene.forest.childAt? frame .center = some child)
    (isPanel : scene.forest.kind? child = some .panel) (count : Nat) :
    scene.contentPanes frame count =
      (List.replicate count child,
        { scene with handles := List.replicate count child ++ scene.handles }) := by
  induction count generalizing scene with
  | zero => rfl
  | succ count ih =>
      have again : (scene.hold child).contentPanes frame count =
          (List.replicate count child,
            { scene with handles := List.replicate count child ++ child :: scene.handles }) :=
        ih found isPanel
      rw [contentPanes, contentPane_of_panel found isPanel]
      dsimp only
      rw [again, List.replicate_succ, List.append_cons, ← List.replicate_succ',
        List.replicate_succ, List.cons_append]

/-- A panel that came first and those that came after it. -/
theorem MultipliesPanes.cons {pane : WidgetId} {count : Nat} {middle : Scene ε}
    {rest : List WidgetId × Scene ε} (live : scene.forest.contains frame = true)
    (attached : Forest.PaneAttached frame pane scene.forest middle.forest)
    (multiplies : MultipliesPanes frame count middle rest) :
    MultipliesPanes frame (count + 1) scene (pane :: rest.1, rest.2) := by
  have there : middle.forest.contains pane = true :=
    Option.isSome_iff_exists.mpr ⟨_, attached.places⟩
  have apart : pane ∉ rest.1 := by
    intro member
    have absent := multiplies.new pane member
    rw [there] at absent
    cases absent
  have notFrame : pane ≠ frame := Ne.symm (attached.ne_of_contains live)
  have lists : rest.2.forest.get? frame = (scene.forest.get? frame).map
      (fun node => { node with children := node.children ++ pane :: rest.1 }) := by
    rw [multiplies.lists, attached.lists, Option.map_map]
    congr 1
    funext node
    simp only [Function.comp_apply, List.append_assoc, List.singleton_append]
  constructor
  case length => rw [List.length_cons, multiplies.length]
  case distinct => exact List.nodup_cons.mpr ⟨apart, multiplies.distinct⟩
  case new =>
    intro other member
    rcases List.mem_cons.mp member with rfl | later
    · exact attached.isNew
    · have absent := multiplies.new other later
      by_contra present
      rw [Bool.not_eq_false] at present
      rw [Forest.contains_eq_isSome_kind?, attached.kind?_eq (attached.ne_of_contains present),
        ← Forest.contains_eq_isSome_kind?, present] at absent
      cases absent
  case panes =>
    intro other member
    rcases List.mem_cons.mp member with rfl | later
    · have kept := multiplies.elsewhere other apart notFrame
      have first := attached.isContentPane live
      refine ⟨?_, ?_, ?_⟩
      · rw [Forest.kind?, kept]
        exact first.isPanel
      · obtain ⟨node, found⟩ := Option.isSome_iff_exists.mp live
        rw [Forest.children, lists, found]
        exact List.mem_append_right _ List.mem_cons_self
      · rw [Forest.constraint?, kept]
        exact first.isCentral
    · exact multiplies.panes other later
  case lists => exact lists
  case elsewhere =>
    intro widget absent differ
    rw [List.mem_cons, not_or] at absent
    rw [multiplies.elsewhere widget absent.2 differ, attached.elsewhere widget absent.1 differ]

/-- While another child is found at the center, each call makes a panel, and none of them is found. -/
theorem multipliesPanes_of_not_fits (isForest : scene.forest.IsForest)
    (isFrame : scene.forest.kind? frame = some .frame) (unfit : ¬ scene.forest.FitsPane frame)
    (count : Nat) : MultipliesPanes frame count scene (scene.contentPanes frame count) := by
  induction count generalizing scene with
  | zero =>
      refine ⟨rfl, List.nodup_nil, nofun, nofun, ?_, fun _ _ _ => rfl⟩
      simp only [contentPanes, List.append_nil]
      exact Option.map_id'.symm
  | succ count ih =>
      have live : scene.forest.contains frame = true := by
        rw [Forest.contains_eq_isSome_kind?, isFrame]
        rfl
      have attached := paneAttached_attachContent isForest isFrame
      have first := contentPane_of_not_fits unfit
      have isForestAfter := (Reaches.contentPane scene frame).isForest isForest
      have stillFrame := attached.kind?_eq (attached.ne_of_contains live)
      have stillUnfit : ¬ (scene.attachContent frame).2.forest.FitsPane frame := by
        simp only [Forest.FitsPane, not_forall] at unfit ⊢
        obtain ⟨child, found, notPanel⟩ := unfit
        have member := Forest.mem_children_of_childAt? found
        have differ := attached.ne_of_contains (isForest.contains_child member)
        refine ⟨child, ?_, ?_⟩
        · rw [attached.childAt?_center isForest live, found, Option.some_or]
        · rwa [attached.kind?_eq differ]
      rw [first] at isForestAfter
      rw [contentPanes, first]
      exact (ih isForestAfter (stillFrame.trans isFrame) stillUnfit).cons live attached

/-- A call for the content pane of a frame always comes to a panel at the center of the frame. Whether the
next call comes to the same panel is decided by what was at the center before. If nothing was there, or a
panel was found, then all further calls come to that panel and change nothing: they only hand out handles
on it. If another child was found, then each call makes a panel of its own and puts it behind the others,
which is all that changes. -/
theorem contentPane_stays_or_multiplies {client : ε} {scene : Scene ε}
    (reached : Reaches (Scene.fresh client) scene) {frame : WidgetId}
    (isFrame : scene.forest.kind? frame = some .frame) :
    (scene.contentPane frame).2.forest.IsContentPane frame (scene.contentPane frame).1 ∧
      (scene.forest.FitsPane frame → ∀ count,
        (scene.contentPane frame).2.contentPanes frame count =
          (List.replicate count (scene.contentPane frame).1,
            { (scene.contentPane frame).2 with
              handles := List.replicate count (scene.contentPane frame).1 ++
                (scene.contentPane frame).2.handles })) ∧
      (¬ scene.forest.FitsPane frame → ∀ count,
        MultipliesPanes frame count scene (scene.contentPanes frame count)) := by
  have isForest := reached.isForest Forest.isForest_empty
  have live : scene.forest.contains frame = true := by
    rw [Forest.contains_eq_isSome_kind?, isFrame]
    rfl
  have attached := paneAttached_attachContent isForest isFrame
  refine ⟨?_, fun fits count => ?_, fun unfit count => ?_⟩
  · by_cases fits : scene.forest.FitsPane frame
    · cases found : scene.forest.childAt? frame .center with
      | none =>
          rw [contentPane_of_free found]
          exact attached.isContentPane live
      | some child =>
          rw [contentPane_of_panel found (fits child found)]
          have member := Forest.mem_occupants_iff.mp
            (List.mem_of_head? ((Forest.childAt?_eq_head? _ _ _).symm.trans found))
          exact ⟨fits child found, member.1, member.2⟩
    · rw [contentPane_of_not_fits fits]
      exact attached.isContentPane live
  · cases found : scene.forest.childAt? frame .center with
    | none =>
        rw [contentPane_of_free found]
        apply contentPanes_of_panel
        · rw [attached.childAt?_center isForest live, found, Option.none_or]
        · exact (attached.isContentPane live).isPanel
    | some child =>
        rw [contentPane_of_panel found (fits child found)]
        have held : (scene.hold child).forest.childAt? frame .center = some child := found
        exact contentPanes_of_panel held (fits child found) count
  · exact multipliesPanes_of_not_fits isForest isFrame unfit count

def bareFrame : Scene Unit := ((Scene.fresh ()).spawn .frame).2

/-- A frame without children gets one panel, however often it is asked; a frame with a label at its center
gets one each time. -/
theorem frames_asked_for_panes :
    ((bareFrame.contentPane ⟨0⟩).2.contentPanes ⟨0⟩ 3).1 = [⟨1⟩, ⟨1⟩, ⟨1⟩] ∧
      (bareFrame.contentPane ⟨0⟩).2.forest.IsContentPane ⟨0⟩ ⟨1⟩ ∧
      MultipliesPanes ⟨0⟩ 3 (labelledAt .frame .center)
        ((labelledAt .frame .center).contentPanes ⟨0⟩ 3) := by
  have made : Reaches (Scene.fresh ()) bareFrame := Reaches.step (Step.spawn _ .frame)
  have labelled := reaches_labelledAt .frame .center
  have isBare : bareFrame.forest.kind? ⟨0⟩ = some .frame := by decide +kernel
  have isLabelled : (labelledAt .frame .center).forest.kind? ⟨0⟩ = some .frame := by decide +kernel
  have fits : bareFrame.forest.FitsPane ⟨0⟩ := by
    intro child found
    have free : bareFrame.forest.childAt? ⟨0⟩ .center = none := by decide +kernel
    rw [free] at found
    cases found
  have unfit : ¬ (labelledAt .frame .center).forest.FitsPane ⟨0⟩ := by
    intro fits
    have found : (labelledAt .frame .center).forest.childAt? ⟨0⟩ .center = some ⟨1⟩ := by
      decide +kernel
    exact absurd (fits ⟨1⟩ found) (by decide +kernel)
  have first : (bareFrame.contentPane ⟨0⟩).1 = ⟨1⟩ := by decide +kernel
  obtain ⟨isPane, stays, -⟩ := contentPane_stays_or_multiplies made isBare
  obtain ⟨-, -, multiplies⟩ := contentPane_stays_or_multiplies labelled isLabelled
  rw [first] at isPane
  refine ⟨?_, isPane, multiplies unfit 3⟩
  rw [stays fits 3, first]
  rfl

/-- With a label at the center of the frame two calls in a row come to different panels, and the second
one adds a child to the frame. -/
theorem labelledFrame_answers_differently :
    ∃ scene : Scene Unit, Reaches (Scene.fresh ()) scene ∧
      scene.forest.kind? ⟨0⟩ = some .frame ∧ (scene.contentPane ⟨0⟩).1 = ⟨2⟩ ∧
      (scene.contentPane ⟨0⟩).2.forest.children ⟨0⟩ = [⟨1⟩, ⟨2⟩] ∧
      ((scene.contentPane ⟨0⟩).2.contentPane ⟨0⟩).1 = ⟨3⟩ ∧
      ((scene.contentPane ⟨0⟩).2.contentPane ⟨0⟩).2.forest.children ⟨0⟩ = [⟨1⟩, ⟨2⟩, ⟨3⟩] := by
  refine ⟨labelledAt .frame .center, reaches_labelledAt .frame .center, ?_⟩
  decide +kernel

end Scene

end StyledTree
