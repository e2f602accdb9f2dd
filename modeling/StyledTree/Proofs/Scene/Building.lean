import StyledTree.Proofs.Scene.Attaching
import StyledTree.Proofs.Scene.Dropping
import StyledTree.Proofs.Scene.Framing
import StyledTree.Proofs.Scene.Searching

set_option autoImplicit false

namespace StyledTree

def View.freshText : View → Option String
  | .frame | .button | .label => some ""
  | _ => none

/-- The node of a new widget of a view, in no parent, with the panes that are made along with it. -/
def View.freshNode (view : View) (panes : List WidgetId) : Node :=
  { Node.fresh view.kind with text := view.freshText, children := panes }

namespace Scene

variable {ε : Type} {handlers : Handlers ε} {view : View} {parent widget : WidgetId}
  {init : WidgetId → Scene ε → Option (Scene ε)} {scene : Scene ε}

/-- The widget is new and has nothing but what its view gives it: a frame has a new panel at its center,
and the others have no children. The caller has one more handle, on the widget, and nothing else of the
scene changed but the journal. -/
structure MadeAfresh (view : View) (widget : WidgetId) (panes : List WidgetId)
    (before after : Scene ε) : Prop where
  isNew : before.forest.contains widget = false
  node : after.forest.get? widget = some (view.freshNode panes)
  length : panes.length = if view = .frame then 1 else 0
  content : ∀ pane ∈ panes, before.forest.contains pane = false ∧ after.forest.get? pane =
    some { Node.fresh .panel with parent := some widget, constraint := some .center }
  elsewhere : ∀ other, other ≠ widget → other ∉ panes →
    after.forest.get? other = before.forest.get? other
  handles : after.handles = widget :: before.handles
  styles : after.styles = before.styles
  sheets : after.sheets = before.sheets
  client : after.client = before.client

/-- Where the widget comes from that is built inside a parent, and the scene when it has been made. -/
inductive MadeFor (handlers : Handlers ε) (view : View) (parent : WidgetId) (before : Scene ε) :
    WidgetId → Scene ε → Prop where
  | byFactory {handler : HandlerId} {widget : WidgetId} {created : Scene ε}
    (nearest : before.forest.IsNearestFactory view parent handler)
    (produced : handlers.produce handler before = some (widget, created))
    (accepted : (created.forest.kind? widget).any view.accepts = true) :
    MadeFor handlers view parent before widget created
  | byDefault {widget : WidgetId} {panes : List WidgetId} {created : Scene ε}
    (absent : ∀ handler, ¬ before.forest.IsNearestFactory view parent handler)
    (fresh : MadeAfresh view widget panes before created) :
    MadeFor handlers view parent before widget created

structure Spawned (widget : WidgetId) (node : Node) (before after : Scene ε) : Prop where
  isNew : before.forest.contains widget = false
  nodes : ∀ other, after.forest.get? other =
    if other = widget then some node else before.forest.get? other
  handles : after.handles = widget :: before.handles
  styles : after.styles = before.styles
  sheets : after.sheets = before.sheets
  client : after.client = before.client

theorem spawned_spawn (scene : Scene ε) (kind : Kind) :
    Spawned (scene.spawn kind).1 (.fresh kind) scene (scene.spawn kind).2 where
  isNew := by
    rw [spawn, Forest.contains, Forest.get?_create_fst]
    rfl
  nodes := scene.forest.get?_create kind
  handles := rfl
  styles := rfl
  sheets := rfl
  client := rfl

namespace Spawned

variable {node : Node} {before after : Scene ε}

theorem update (spawned : Spawned widget node before after) (change : Node → Node) :
    Spawned widget (change node) before (after.update widget change) where
  isNew := spawned.isNew
  nodes other := by
    rw [Scene.update, Forest.get?_update, spawned.nodes]
    by_cases same : other = widget
    · rw [if_pos same, if_pos same, if_pos same, Option.map_some]
    · rw [if_neg same, if_neg same, if_neg same]
  handles := spawned.handles
  styles := spawned.styles
  sheets := spawned.sheets
  client := spawned.client

theorem madeAfresh (spawned : Spawned widget (view.freshNode []) before after)
    (noFrame : view ≠ .frame) : MadeAfresh view widget [] before after where
  isNew := spawned.isNew
  node := (spawned.nodes widget).trans (if_pos rfl)
  length := (if_neg noFrame).symm
  content := nofun
  elsewhere other differ _ := (spawned.nodes other).trans (if_neg differ)
  handles := spawned.handles
  styles := spawned.styles
  sheets := spawned.sheets
  client := spawned.client

/-- A new frame gets its content pane, and keeps it when the caller gives up the handle on it. -/
theorem madeAfresh_of_attachContent (spawned : Spawned widget (View.frame.freshNode []) before after)
    (isForest : after.forest.IsForest) :
    MadeAfresh .frame widget [(after.attachContent widget).1] before
      ((after.attachContent widget).2.release (after.attachContent widget).1) := by
  have there : after.forest.get? widget = some (View.frame.freshNode []) :=
    (spawned.nodes widget).trans (if_pos rfl)
  have isFrame : after.forest.kind? widget = some .frame := by
    rw [Forest.kind?, there]
    rfl
  obtain ⟨grown, journal, attached, isAttached, isGrown⟩ := exists_attachContent_eq isForest isFrame
  rw [attached]
  generalize (after.forest.create .panel).1 = pane at isAttached ⊢
  have differ : widget ≠ pane := isAttached.ne_of_contains (Option.isSome_iff_exists.mpr ⟨_, there⟩)
  have released : Scene.release
      { after with forest := grown, handles := pane :: after.handles, journal } pane =
      { after with forest := grown, journal } := by
    -- the handle on the frame keeps the pane below it
    have held : Scene.isHeld { after with forest := grown, journal } pane = true := by
      refine (isHeld_iff isGrown).mpr ⟨widget, ?_, Or.inr (IsAbove.of_parent ?_)⟩
      · rw [spawned.handles]
        exact List.mem_cons_self
      · rw [Forest.parent?, isAttached.places]
        rfl
    simp only [release, List.erase_cons_head]
    rw [if_pos held]
  rw [released]
  constructor
  case isNew => exact spawned.isNew
  case node =>
    rw [isAttached.lists, there]
    rfl
  case length => rfl
  case content =>
    intro other member
    rw [List.mem_singleton.mp member]
    refine ⟨?_, isAttached.places⟩
    have absent := isAttached.isNew
    rwa [Forest.contains, spawned.nodes, if_neg (Ne.symm differ), ← Forest.contains] at absent
  case elsewhere =>
    intro other notWidget notPane
    rw [List.mem_singleton] at notPane
    rw [isAttached.elsewhere other notPane notWidget, spawned.nodes, if_neg notWidget]
  case handles => exact spawned.handles
  case styles => exact spawned.styles
  case sheets => exact spawned.sheets
  case client => exact spawned.client

end Spawned

/-- Each view makes its own kind of widget. -/
theorem madeAfresh_make (isForest : scene.forest.IsForest) (view : View) :
    ∃ panes, MadeAfresh view (scene.make view "").1 panes scene (scene.make view "").2 := by
  have spawned := spawned_spawn scene view.kind
  have written := spawned.update (fun node => { node with text := some "" })
  cases view
  case frame =>
    have keeps : Forest.KeepsPlace (fun node => { node with text := some "" }) := {}
    exact ⟨_, written.madeAfresh_of_attachContent
      ((isForest.create .frame).update _ keeps.toKeepsLinks)⟩
  case button => exact ⟨[], written.madeAfresh nofun⟩
  case label => exact ⟨[], written.madeAfresh nofun⟩
  all_goals exact ⟨[], spawned.madeAfresh nofun⟩

/-- The search for a factory changes nothing but the journal. -/
theorem exists_factoryFor_eq (scene : Scene ε) (view : View) (widget : WidgetId) :
    ∃ journal, (scene.factoryFor view widget).2 = { scene with journal } := by
  rw [factoryFor]
  split
  · exact ⟨scene.journal, rfl⟩
  · exact ⟨scene.journal, rfl⟩
  · exact ⟨_, rfl⟩

/-- A widget is made whenever the nearest factory, if there is one, makes something that the view
accepts. -/
theorem exists_create (isForest : scene.forest.IsForest)
    (productEnds : ∀ handler, scene.forest.IsNearestFactory view parent handler →
      ∃ product made, handlers.produce handler scene = some (product, made) ∧
        (made.forest.kind? product).any view.accepts = true) :
    ∃ widget created, scene.create handlers view parent = some (widget, created) ∧
      MadeFor handlers view parent scene widget created := by
  have finds := findsNearest_factoryFor scene view parent
  obtain ⟨journal, searched⟩ := exists_factoryFor_eq scene view parent
  rw [create]
  generalize scene.factoryFor view parent = result at finds searched
  obtain ⟨_ | handler, between⟩ := result
  · have absent : ∀ handler, ¬ scene.forest.IsNearestFactory view parent handler := by
      intro handler nearest
      cases (finds.some_iff handler).mpr nearest
    obtain rfl : between = { scene with journal } := searched
    have noted : Forest.IsForest (Scene.forest { scene with journal }) := isForest
    obtain ⟨panes, fresh⟩ := madeAfresh_make noted view
    exact ⟨_, _, rfl, .byDefault absent { fresh with }⟩
  · have nearest := (finds.some_iff handler).mp rfl
    obtain rfl : between = scene := finds.quiet (fun _ _ back => nearest.not_comesBack back)
    obtain ⟨product, made, produced, accepted⟩ := productEnds handler nearest
    refine ⟨product, made, ?_, .byFactory nearest produced accepted⟩
    simp only [produced, Option.bind_eq_bind, Option.bind_some, accepted, if_true]

/-- A widget that was made is there. -/
theorem MadeFor.contains {created : Scene ε}
    (made : MadeFor handlers view parent scene widget created) :
    created.forest.contains widget = true := by
  cases made with
  | byFactory _ _ accepted =>
      rw [Forest.contains_eq_isSome_kind?]
      exact Option.isSome_of_any accepted
  | byDefault _ fresh => exact Option.isSome_iff_exists.mpr ⟨_, fresh.node⟩

theorem pending?_pend {created : Scene ε} (live : created.forest.contains widget = true) :
    (created.update widget (fun node => { node with pending := some parent })).forest.pending?
      widget = some parent := by
  obtain ⟨node, found⟩ := Option.isSome_iff_exists.mp live
  rw [Scene.update, Forest.pending?, Forest.get?_update, if_pos rfl, found]
  rfl

/-- A build ends when the making of the widget and the initialiser do. -/
theorem exists_build {created ready : Scene ε}
    (creates : scene.create handlers view parent = some (widget, created))
    (initialises :
      init widget (created.update widget (fun node => { node with pending := some parent })) =
        some ready) :
    ∃ after, scene.build handlers view parent init = some (widget, after) := by
  simp only [build, creates, initialises, Option.bind_eq_bind, Option.bind_some]
  split
  · split
    · exact ⟨_, rfl⟩
    · exact ⟨_, rfl⟩
  · exact ⟨_, rfl⟩

/-- The child was put at the end of the parent's children, without a constraint and no longer pending.
What the parent gave up for it is the view of a scroll pane; nothing else was touched. -/
structure AttachedLast (parent child : WidgetId) (before : Scene ε) (after : Forest) : Prop where
  inserted : ∃ moved, Forest.Inserted parent child none before.forest moved ∧
    CarriesOut parent (before.forest.Evicts parent child) before.handles moved after
  isLast : (after.children parent).getLast? = some child
  hangs : after.parent? child = some parent
  unconstrained : after.constraint? child = none
  settled : after.pending? child = none

structure AttachedIfOpen (parent widget : WidgetId) (ready : Scene ε) (after : Forest) : Prop where
  attaches : ready.forest.autoAdds parent = true → ready.forest.contains widget = true →
    ¬ ready.forest.Covers widget parent → AttachedLast parent widget ready after
  leaves : ¬ (ready.forest.autoAdds parent = true ∧ ready.forest.contains widget = true ∧
    ¬ ready.forest.Covers widget parent) → after = ready.forest

theorem attachedLast_carryOut {ready : Scene ε} (isForest : ready.forest.IsForest)
    (roots : ready.RootsHeld) (parentLive : ready.forest.contains parent = true)
    (live : ready.forest.contains widget = true) {moved : Forest}
    (done : ready.forest.insert parent widget none = .ok moved) :
    AttachedLast parent widget ready (ready.carryOut parent moved).forest := by
  have inserted := isForest.inserted live done
  have carries := carriesOut_insert isForest roots live done
  obtain ⟨hangs, unconstrained, settled⟩ := inserted.hangs live
  refine ⟨⟨moved, inserted, carries⟩, ?_, carries.parent?_child hangs, ?_, ?_⟩
  · rw [carries.children_eq, inserted.children_of_contains parentLive]
    exact List.getLast?_concat
  · exact (carries.constraint?_child hangs).trans unconstrained
  · exact carries.drops.pending?_eq_none settled

theorem BuildsBy.attachedIfOpen {created ready after : Scene ε}
    (builds : BuildsBy handlers view parent init scene widget created ready after)
    (isForest : ready.forest.IsForest) (roots : ready.RootsHeld) :
    AttachedIfOpen parent widget ready after.forest := by
  constructor
  case attaches =>
    intro adds live outside
    obtain ⟨node, found, allowed⟩ := (Option.any_eq_true _ _).mp adds
    simp only [Node.autoAdds, Bool.and_eq_true] at allowed
    have container : ready.forest.isContainer parent = true := by
      rw [Forest.isContainer, found, Option.any_some, allowed.1.1]
    obtain ⟨grown, done⟩ := Forest.exists_insert isForest container outside none
    rw [builds.attaches, if_pos adds, Scene.add, forest_commit, Forest.add_of_autoAdds adds, done]
    exact attachedLast_carryOut isForest roots (Forest.contains_of_isContainer container) live done
  case leaves =>
    intro missed
    apply builds.forest_eq_of_missed isForest
    intro adds
    by_contra neither
    rw [not_or, Bool.not_eq_false] at neither
    exact missed ⟨adds, neither⟩

/-- A build whose factory and whose initialiser come to an end does so as well, whatever the two do to the
scene. The widget was made by the nearest factory, or afresh if there is none, and was pending in the
parent when the initialiser started. If the parent then attaches what is built in it, and the widget is
still there and is neither the parent nor above it, the widget is put at the end of the parent, without a
constraint and pending nowhere. Otherwise no widget changes any more. -/
theorem build_attaches_or_leaves {client : ε} {scene : Scene ε}
    (reached : Reaches (Scene.fresh client) scene) {handlers : Handlers ε} {view : View}
    {parent : WidgetId} {init : WidgetId → Scene ε → Option (Scene ε)}
    (produces : ∀ handler before made between,
      handlers.produce handler before = some (made, between) → Reaches before between)
    (initialises : ∀ made before between, init made before = some between → Reaches before between)
    (productEnds : ∀ handler, scene.forest.IsNearestFactory view parent handler →
      ∃ product made, handlers.produce handler scene = some (product, made) ∧
        (made.forest.kind? product).any view.accepts = true)
    (initEnds : ∀ widget created, MadeFor handlers view parent scene widget created → ∃ ready,
      init widget (created.update widget (fun node => { node with pending := some parent })) =
        some ready) :
    ∃ widget created ready after,
      scene.build handlers view parent init = some (widget, after) ∧
        BuildsBy handlers view parent init scene widget created ready after ∧
          MadeFor handlers view parent scene widget created ∧
            (created.update widget (fun node => { node with pending := some parent })).forest.pending?
                widget = some parent ∧
              AttachedIfOpen parent widget ready after.forest := by
  have isForest := reached.isForest Forest.isForest_empty
  obtain ⟨widget, created, creates, made⟩ := exists_create isForest productEnds
  obtain ⟨ready, initialised⟩ := initEnds widget created made
  obtain ⟨after, built⟩ := exists_build creates initialised
  obtain ⟨created', ready', builds⟩ := exists_buildsBy built
  obtain ⟨-, rfl⟩ := Prod.mk.inj (Option.some.inj (creates.symm.trans builds.creates))
  have readyReached := reached.trans (builds.reaches produces initialises)
  exact ⟨widget, created, ready', after, built, builds, made, pending?_pend made.contains,
    builds.attachedIfOpen (readyReached.isForest Forest.isForest_empty) readyReached.rootsHeld⟩

def labelPanel : Scene Unit := ((Scene.fresh ()).spawn .panel).2.setFactory ⟨0⟩ .label ⟨0⟩

/-- Puts the widget that is built in the panel by hand, and one more label after it. -/
def addsPair (made : WidgetId) (scene : Scene Unit) : Scene Unit :=
  (((scene.add ⟨0⟩ made).2.spawn .label).2.add ⟨0⟩ ⟨2⟩).2

theorem reaches_labelPanel : Reaches (Scene.fresh ()) labelPanel := by
  have keeps : Forest.KeepsPlace (fun node => node.setFactory .label ⟨0⟩) := {}
  have registered := Reaches.step (Step.change ((Scene.fresh ()).spawn .panel).2 ⟨0⟩ keeps)
  exact ((Reaches.step (Step.spawn _ .panel)).trans registered).trans
    (Reaches.step (Step.elsewhere _ rfl rfl))

theorem reaches_addsPair (made : WidgetId) (scene : Scene Unit) :
    Reaches scene (addsPair made scene) :=
  ((Reaches.step (Step.add scene ⟨0⟩ made)).trans (Reaches.step (Step.spawn _ .label))).trans
    (Reaches.step (Step.add _ ⟨0⟩ ⟨2⟩))

/-- The factory makes the label, the initialiser places it by hand before another one, and the build then
moves it to the end. -/
theorem labelPanel_moves_label_to_end :
    ∃ created ready after : Scene Unit,
      labelPanel.build labelMakers .label ⟨0⟩ (fun made scene => some (addsPair made scene)) =
          some (⟨1⟩, after) ∧
        MadeFor labelMakers .label ⟨0⟩ labelPanel ⟨1⟩ created ∧
          ready.forest.children ⟨0⟩ = [⟨1⟩, ⟨2⟩] ∧
            AttachedLast ⟨0⟩ ⟨1⟩ ready after.forest ∧
              after.forest.children ⟨0⟩ = [⟨2⟩, ⟨1⟩] := by
  have initialises : ∀ (made : WidgetId) (before between : Scene Unit),
      some (addsPair made before) = some between → Reaches before between := by
    rintro made before between ⟨⟩
    exact reaches_addsPair made before
  have productEnds : ∀ handler, labelPanel.forest.IsNearestFactory .label ⟨0⟩ handler →
      ∃ product made, labelMakers.produce handler labelPanel = some (product, made) ∧
        (made.forest.kind? product).any View.label.accepts = true :=
    fun _ _ => ⟨_, _, rfl, by decide +kernel⟩
  obtain ⟨widget, created, ready, after, built, builds, made, -, settles⟩ :=
    build_attaches_or_leaves reaches_labelPanel labelMakers_produce initialises productEnds
      (fun _ _ _ => ⟨_, rfl⟩)
  have shown : (labelPanel.build labelMakers .label ⟨0⟩
      (fun made scene => some (addsPair made scene))).map
        (fun built => (built.1, built.2.forest.children ⟨0⟩)) = some (⟨1⟩, [⟨2⟩, ⟨1⟩]) := by
    decide +kernel
  rw [built] at shown
  obtain ⟨rfl, children⟩ := Prod.mk.inj (Option.some.inj shown)
  have creates : labelPanel.create labelMakers .label ⟨0⟩ = some (labelPanel.spawn .label) := rfl
  obtain rfl := congrArg Prod.snd (Option.some.inj (creates.symm.trans builds.creates))
  obtain rfl := Option.some.inj builds.initialises
  have attached := settles.attaches (by decide +kernel) (by decide +kernel) (by
    rintro (same | above)
    · cases same
    · exact absurd above (IsAbove.not_of_root (by decide +kernel)))
  exact ⟨_, _, after, built, made, by decide +kernel, attached, children⟩

end Scene

end StyledTree
