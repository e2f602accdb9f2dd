import StyledTree.Proofs.Scene.Scoping
import StyledTree.Proofs.Widget.Decorating

set_option autoImplicit false

namespace StyledTree.Scene

variable {ε : Type}

/-- The widget wears a decoration, as far as handlers are read, and nothing else changed that the library
sees; the client code may have got more handles. -/
structure Adorns (reads : HandlerId → HandlerId) (decoration : Decoration) (widget : WidgetId)
    (before after : Scene ε) : Prop where
  worn : (after.forest.get? widget).map (Node.reading reads) =
    (before.forest.get? widget).map (fun node => decoration.applyTo (node.reading reads))
  elsewhere : ∀ other, other ≠ widget → after.forest.get? other = before.forest.get? other
  handles : before.handles ⊆ after.handles
  styles : after.styles = before.styles
  sheets : after.sheets = before.sheets

/-- As long as styles see the tree of the root as it was at the start, the mutation ends on each widget
of it and puts a decoration on the widget, the same one each time. -/
def Decorates (handlers : Handlers ε) (reads : HandlerId → HandlerId) (root : WidgetId)
    (start : Scene ε) (mutation : HandlerId) (decorations : WidgetId → Decoration) : Prop :=
  ∀ widget, start.forest.Covers root widget → ∀ before, Freezes root start before →
    ∃ after, handlers.run mutation widget before = some after ∧
      Adorns reads (decorations widget) widget before after

namespace Adorns

variable {reads : HandlerId → HandlerId} {decoration : Decoration} {widget : WidgetId}
  {before middle after : Scene ε}

theorem trans {first second : Decoration} (one : Adorns reads first widget before middle)
    (other : Adorns reads second widget middle after) :
    Adorns reads (first.andThen second) widget before after where
  worn := by
    rw [other.worn]
    have middleWorn := congrArg (Option.map second.applyTo) one.worn
    rw [Option.map_map, Option.map_map] at middleWorn
    simp only [Decoration.applyTo_andThen]
    exact middleWorn
  elsewhere met differ := (other.elsewhere met differ).trans (one.elsewhere met differ)
  handles := List.Subset.trans one.handles other.handles
  styles := other.styles.trans one.styles
  sheets := other.sheets.trans one.sheets

/-- A change of the widget's node that comes to the decoration. -/
theorem update {change : Node → Node}
    (same : ∀ node, (change node).reading reads = decoration.applyTo (node.reading reads)) :
    Adorns reads decoration widget before (before.update widget change) where
  worn := by
    rw [Scene.update, Forest.get?_update, if_pos rfl, Option.map_map]
    exact congrArg (fun view => (before.forest.get? widget).map view) (funext same)
  elsewhere other differ := by rw [Scene.update, Forest.get?_update, if_neg differ]
  handles := List.Subset.refl _
  styles := rfl
  sheets := rfl

theorem of_agrees (adorns : Adorns reads decoration widget before middle)
    (agrees : Agrees middle after) (handles : after.handles = middle.handles) :
    Adorns reads decoration widget before after where
  worn := by rw [agrees.forest, adorns.worn]
  elsewhere other differ := by rw [agrees.forest, adorns.elsewhere other differ]
  handles := handles ▸ adorns.handles
  styles := agrees.styles.trans adorns.styles
  sheets := agrees.sheets.trans adorns.sheets

/-- Setting a display or text property to a constant. -/
theorem change {change : Session.Change} (decorates : change.decoration? = some decoration) :
    Adorns reads decoration widget before (before.update widget change.applyTo) := by
  apply update
  intro node
  rw [change.applyTo_of_decoration? decorates]
  cases change <;> cases decorates <;> rfl

/-- Registering a mouse listener under a key. -/
theorem onMouse (kind : Mouse.Kind) (key : String) (handler : HandlerId) :
    Adorns reads { listeners := [⟨kind, key, reads handler⟩] } widget before
      (before.onMouse widget ⟨kind, some key, handler⟩) := by
  have registered : Adorns reads { listeners := [⟨kind, key, reads handler⟩] } widget before
      (before.update widget
        (fun node => { node with
          listeners := Mouse.register node.listeners ⟨kind, some key, handler⟩ })) := by
    apply update
    intro node
    simp only [Node.reading, Mouse.map_reading_register]
    rfl
  rw [Scene.onMouse]
  dsimp only
  split
  · exact registered.of_agrees (Agrees.note _ _) rfl
  · exact registered

/-- What neither depends on handlers nor is decorated stays the same on all widgets. -/
theorem map_eq (adorns : Adorns reads decoration widget before after) {α : Type} {property : Node → α}
    (unread : ∀ node, property (node.reading reads) = property node)
    (bare : ∀ node, property (decoration.applyTo node) = property node) (other : WidgetId) :
    (after.forest.get? other).map property = (before.forest.get? other).map property := by
  by_cases same : other = widget
  · have worn := congrArg (Option.map property) adorns.worn
    rw [Option.map_map, Option.map_map] at worn
    simp only [Function.comp_def, bare, unread] at worn
    rw [same]
    exact worn
  · rw [adorns.elsewhere other same]

theorem bind_eq (adorns : Adorns reads decoration widget before after) {α : Type}
    {property : Node → Option α} (unread : ∀ node, property (node.reading reads) = property node)
    (bare : ∀ node, property (decoration.applyTo node) = property node) (other : WidgetId) :
    (after.forest.get? other).bind property = (before.forest.get? other).bind property := by
  have same := congrArg (fun found => found.bind id) (adorns.map_eq unread bare other)
  rw [Option.bind_map, Option.bind_map] at same
  exact same

theorem parent?_eq (adorns : Adorns reads decoration widget before after) :
    after.forest.parent? = before.forest.parent? :=
  funext (adorns.bind_eq (fun _ => rfl) (fun _ => rfl))

theorem children_eq (adorns : Adorns reads decoration widget before after) (other : WidgetId) :
    after.forest.children other = before.forest.children other :=
  congrArg (fun children : Option (List WidgetId) => children.getD [])
    (adorns.map_eq (fun _ => rfl) (fun _ => rfl) other)

theorem kind?_eq (adorns : Adorns reads decoration widget before after) (other : WidgetId) :
    after.forest.kind? other = before.forest.kind? other :=
  adorns.map_eq (fun _ => rfl) (fun _ => rfl) other

/-- Styles see no difference. -/
theorem freezes (adorns : Adorns reads decoration widget before after)
    (isForest : before.forest.IsForest) (holds : before.HoldsTree widget) :
    Freezes widget before after := by
  have later : after.forest.IsForest :=
    isForest.of_same_links (fun other => congrFun adorns.parent?_eq other) adorns.children_eq
      (fun other => Or.inl (adorns.kind?_eq other))
  refine ⟨⟨⟨?_, ?_⟩, later, ?_, ?_⟩, ⟨?_, ?_, ?_⟩⟩
  · exact fun other _ => congrFun adorns.parent?_eq other
  · exact fun other _ => adorns.children_eq other
  · intro upper covers
    rw [Forest.Covers, adorns.parent?_eq] at covers
    obtain ⟨holder, handled, above⟩ := (isHeld_iff isForest).mp (holds upper covers)
    rw [isHeld_iff later]
    refine ⟨holder, adorns.handles handled, ?_⟩
    rw [Forest.Covers, adorns.parent?_eq]
    exact above
  · exact fun id style found => by rw [adorns.styles, found]
  · exact fun other _ => adorns.kind?_eq other
  · exact fun other _ => adorns.bind_eq (fun _ => rfl) (fun _ => rfl) other
  · exact fun other _ => adorns.map_eq (fun _ => rfl) (fun _ => rfl) other

end Adorns

/-! What runs come to on one widget. -/

section Painting

variable (decorations : HandlerId → WidgetId → Decoration) (widget : WidgetId)

def worn (runs : List Run) : List Decoration :=
  (runs.filter (fun run => run.2 = widget)).map (fun run => decorations run.1 run.2)

theorem worn_append (first second : List Run) :
    worn decorations widget (first ++ second) =
      worn decorations widget first ++ worn decorations widget second := by
  rw [worn, List.filter_append, List.map_append, worn, worn]

theorem worn_of_apart {runs : List Run} (apart : ∀ run ∈ runs, run.2 ≠ widget) :
    worn decorations widget runs = [] := by
  rw [worn, List.map_eq_nil_iff, List.filter_eq_nil_iff]
  exact fun run member => by simpa using apart run member

end Painting

/-- Some runs led from one scene to the other: styles see the same tree, sheets hold the same styles, and
each widget wears what the runs put on it. -/
structure Painted (reads : HandlerId → HandlerId) (decorations : HandlerId → WidgetId → Decoration)
    (root : WidgetId) (start : Scene ε) (done : List Run) (scene : Scene ε) : Prop where
  freezes : Freezes root start scene
  topStyles : ∀ sheet, scene.topStyles sheet = start.topStyles sheet
  wears : ∀ widget, (scene.forest.get? widget).map (Node.reading reads) =
    (start.forest.get? widget).map
      (fun node => (Decoration.all (worn decorations widget done)).applyTo (node.reading reads))

section Replaying

variable {handlers : Handlers ε} {reads : HandlerId → HandlerId}
  {decorations : HandlerId → WidgetId → Decoration} {root inner : WidgetId} {start : Scene ε}
  {sheet : SheetId}

/-- One more run. -/
theorem Painted.adorn {done : List Run} {before after : Scene ε} {mutation : HandlerId}
    {widget : WidgetId} (painted : Painted reads decorations root start done before)
    (adorns : Adorns reads (decorations mutation widget) widget before after)
    (freezes : Freezes root start after) :
    Painted reads decorations root start (done ++ [(mutation, widget)]) after where
  freezes := freezes
  topStyles sheet := by
    rw [← painted.topStyles sheet, Scene.topStyles, Scene.topStyles, sheet?, sheet?, adorns.sheets]
  wears other := by
    rw [worn_append]
    by_cases same : other = widget
    · subst same
      have earlier := congrArg (Option.map (decorations mutation other).applyTo) (painted.wears other)
      rw [Option.map_map, Option.map_map] at earlier
      have here : worn decorations other [(mutation, other)] = [decorations mutation other] := by
        simp [worn]
      rw [here, adorns.worn]
      simp only [Decoration.applyTo_all_append, Decoration.applyTo_all_cons]
      exact earlier
    · have apart : worn decorations other [(mutation, widget)] = [] :=
        worn_of_apart decorations other (List.forall_mem_singleton.mpr (Ne.symm same))
      rw [apart, List.append_nil, adorns.elsewhere other same, painted.wears]

/-- Each run of the sheet puts its decoration on top of what the runs before it put on the widget. -/
theorem painted_tracks (isForest : start.forest.IsForest) (sound : start.styles.Sound)
    (topsMade : ∀ top ∈ start.topStyles sheet, start.styles.Made top)
    (decorating : ∀ id style mutation, start.styles.Reached (start.topStyles sheet) id →
      start.styles.get? id = some style → style.body = .plain mutation →
        Decorates handlers reads root start mutation (decorations mutation)) :
    Tracks handlers (start.styles.Reached (start.topStyles sheet)) root start
      (Painted reads decorations root start) where
  isForest := isForest
  made _ reached := reached.made sound topsMade
  links _ _ reached link := reached.follow (Relation.ReflTransGen.single link)
  freezes painted := painted.freezes
  elsewhere painted same holds :=
    ⟨painted.freezes.of_sameStage same holds,
      fun sheet => (same.topStyles sheet).trans (painted.topStyles sheet),
      same.forest ▸ painted.wears⟩
  run {done scene id style mutation widget} reached found body inTree painted := by
    have frozen := painted.freezes
    obtain ⟨after, ran, adorns⟩ := decorating id style mutation reached found body widget inTree scene
      frozen
    have further := adorns.freezes frozen.leaves.isForest (frozen.holdsTree isForest inTree)
    exact ⟨after, ran, painted.adorn adorns (frozen.trans isForest inTree further)⟩

/-- The plan for a widget below the root is a stretch of the plan for the root, and what comes after it
runs on no widget at or below that one. -/
theorem sheetPlan_split (isForest : start.forest.IsForest) (inTree : start.forest.Covers root inner)
    {steps : Nat} {runs : List Run} (isPlan : start.sheetPlan steps sheet root = some runs) :
    ∃ earlier again later, start.sheetPlan steps sheet inner = some again ∧
      runs = earlier ++ again ++ later ∧
      (∀ run ∈ again, start.forest.Covers inner run.2) ∧
      ∀ run ∈ later, ¬ start.forest.Covers inner run.2 := by
  obtain ⟨front, back, parts, beyond⟩ := isForest.exists_around inTree
  rw [sheetPlan, cascadePlan, parts, gather_append, gather_append] at isPlan
  obtain ⟨both, later, isBoth, isLater, rfl⟩ := andThen_eq_some_iff.mp isPlan
  obtain ⟨earlier, again, -, isAgain, rfl⟩ := andThen_eq_some_iff.mp isBoth
  refine ⟨earlier, again, later, isAgain, rfl, ?_, ?_⟩
  · rintro ⟨mutation, met⟩ member
    obtain ⟨_, _, widget, covers, -, part, isPart, inPart⟩ :=
      exists_of_mem_cascadePlan isForest isAgain member
    exact covers.trans (of_mem_stylePlan isForest isPart inPart).2
  · rintro ⟨mutation, met⟩ member
    obtain ⟨widget, isBack, here, isHere, inHere⟩ := exists_of_mem_gather isLater member
    obtain ⟨_, _, -, part, isPart, inPart⟩ := exists_of_mem_turn isHere inHere
    exact beyond widget isBack met (of_mem_stylePlan isForest isPart inPart).2

/-- What the plan for the inner widget puts on a widget once more was put on it last. -/
theorem applyTo_worn_again (isForest : start.forest.IsForest)
    (inTree : start.forest.Covers root inner) {steps : Nat} {runs again : List Run}
    (isPlan : start.sheetPlan steps sheet root = some runs)
    (isAgain : start.sheetPlan steps sheet inner = some again) (widget : WidgetId) (node : Node) :
    (Decoration.all (worn decorations widget (runs ++ again))).applyTo node =
      (Decoration.all (worn decorations widget runs)).applyTo node := by
  obtain ⟨earlier, stretch, later, isStretch, rfl, inside, outside⟩ :=
    sheetPlan_split isForest inTree isPlan
  obtain rfl := Option.some.inj (isStretch.symm.trans isAgain)
  by_cases covers : start.forest.Covers inner widget
  · have nothing : worn decorations widget later = [] :=
      worn_of_apart decorations widget (fun run member same => outside run member (same ▸ covers))
    simp only [worn_append, nothing, List.append_nil, Decoration.applyTo_all_again]
  · have nothing : worn decorations widget stretch = [] :=
      worn_of_apart decorations widget (fun run member same => covers (same ▸ inside run member))
    rw [worn_append, nothing, List.append_nil]

/-- Where the sheet was applied to the root, applying it to a widget in the tree of the root ends and
leaves each widget as it is. -/
theorem reapply_of_painted
    (tracks : Tracks handlers (start.styles.Reached (start.topStyles sheet)) root start
      (Painted reads decorations root start))
    (inTree : start.forest.Covers root inner) {steps more : Nat} {runs : List Run}
    (isPlan : start.sheetPlan steps sheet root = some runs) (enough : steps ≤ more)
    (room : start.forest.nodes.size < more) {middle : Scene ε}
    (painted : Painted reads decorations root start runs middle) :
    ∃ final, middle.apply handlers more sheet inner = some final ∧
      ∀ widget, (final.forest.get? widget).map (Node.reading reads) =
        (middle.forest.get? widget).map (Node.reading reads) := by
  obtain ⟨-, again, -, isAgain, -⟩ := sheetPlan_split tracks.isForest inTree isPlan
  have follows := tracks.apply_follows (fun _ isTop => Styles.Reached.of_top isTop) room inTree painted
    (painted.topStyles sheet)
  rw [sheetPlan_mono enough isAgain] at follows
  obtain ⟨final, applied, repainted⟩ := follows
  refine ⟨final, applied, fun widget => ?_⟩
  rw [repainted.wears, painted.wears]
  simp only [applyTo_worn_again tracks.isForest inTree isPlan isAgain]

end Replaying

/-- A sheet whose mutations decorate the widgets that they run on. If no style that the sheet leads to
leads back to itself, applying the sheet to the root ends. Wherever it ends, applying the sheet next to a
widget at or below the root ends as well and changes no widget: each property of each widget and its
list of listeners, as far as their handlers are read, are as they were. -/
theorem apply_below_changes_nothing {scene : Scene ε} (styled : Styled scene)
    (isForest : scene.forest.IsForest) {root inner : WidgetId} (holds : scene.HoldsTree root)
    (inTree : scene.forest.Covers root inner) {sheet : SheetId}
    (topsMade : ∀ top ∈ scene.topStyles sheet, scene.styles.Made top) {handlers : Handlers ε}
    {reads : HandlerId → HandlerId} {decorations : HandlerId → WidgetId → Decoration}
    (decorating : ∀ id style mutation, scene.styles.Reached (scene.topStyles sheet) id →
      scene.styles.get? id = some style → style.body = .plain mutation →
        Decorates handlers reads root scene mutation (decorations mutation)) :
    ((∀ id, scene.styles.Reached (scene.topStyles sheet) id → ¬ scene.styles.LeadsTo id id) →
      ∃ bound, ∀ steps, bound < steps →
        ∃ middle, scene.apply handlers steps sheet root = some middle) ∧
    ∀ steps middle, scene.forest.nodes.size < steps →
      scene.apply handlers steps sheet root = some middle → ∀ more, steps ≤ more →
        ∃ final, middle.apply handlers more sheet inner = some final ∧
          ∀ widget, (final.forest.get? widget).map (Node.reading reads) =
            (middle.forest.get? widget).map (Node.reading reads) := by
  have tracks : Tracks handlers _ root scene (Painted reads decorations root scene) :=
    painted_tracks isForest styled.sound topsMade decorating
  have start : Painted reads decorations root scene [] scene :=
    ⟨Freezes.refl isForest holds, fun _ => rfl, fun _ => rfl⟩
  have isUsed : ∀ top ∈ scene.topStyles sheet, scene.styles.Reached (scene.topStyles sheet) top :=
    fun _ isTop => Styles.Reached.of_top isTop
  have follows : ∀ steps, scene.forest.nodes.size < steps →
      Follows (Painted reads decorations root scene) [] (scene.sheetPlan steps sheet root)
        (scene.apply handlers steps sheet root) :=
    fun steps room => tracks.apply_follows isUsed room (scene.forest.covers_refl root) start rfl
  constructor
  · intro acyclic
    refine ⟨max scene.styles.items.size scene.forest.nodes.size, fun steps enough => ?_⟩
    have nests : ∀ top ∈ scene.topStyles sheet, scene.styles.NestsWithin steps top :=
      fun top isTop => styled.sound.nestsWithin acyclic (by omega) (isUsed top isTop)
    obtain ⟨runs, isPlan⟩ := exists_sheetPlan nests root
    have followed := follows steps (by omega)
    rw [isPlan] at followed
    obtain ⟨middle, applied, -⟩ := followed
    exact ⟨middle, applied⟩
  · intro steps middle room applied more enough
    have followed := follows steps room
    rw [applied] at followed
    cases isPlan : scene.sheetPlan steps sheet root with
    | none =>
        rw [isPlan] at followed
        cases followed
    | some runs =>
        rw [isPlan] at followed
        obtain ⟨_, ⟨⟩, painted⟩ := followed
        exact reapply_of_painted tracks inTree isPlan enough (by omega) painted

def paintColor (mutation : HandlerId) : Color :=
  if mutation.index = 0 then .pureRed else .pureBlue

def painters : Handlers Nat where
  run mutation widget scene :=
    let colored := scene.update widget (Session.Change.setForeground (paintColor mutation)).applyTo
    let heard := colored.onMouse widget ⟨.entered, some "hover", ⟨scene.client⟩⟩
    some (heard.withClient (fun count => count + 1))
  notify _ _ _ scene := some scene
  produce _ _ := none

theorem painters_decorate (root : WidgetId) (start : Scene Nat) (mutation : HandlerId) :
    Decorates painters (fun _ => ⟨0⟩) root start mutation (fun _ =>
      { foreground := some (some (paintColor mutation)),
        listeners := [⟨.entered, "hover", ⟨0⟩⟩] }) := by
  intro widget _ before _
  have colored : Adorns (fun _ => ⟨0⟩) { foreground := some (some (paintColor mutation)) } widget
      before (before.update widget (Session.Change.setForeground (paintColor mutation)).applyTo) :=
    Adorns.change rfl
  have heard := colored.trans (Adorns.onMouse .entered "hover" ⟨before.client⟩)
  exact ⟨_, rfl, heard.worn, heard.elsewhere, heard.handles, heard.styles, heard.sheets⟩

def paintedPanels : Scene Nat :=
  (scopedPanels.addStyle ⟨.glob, .any, .plain ⟨1⟩⟩).2.register ⟨0⟩ ⟨3⟩

/-- The label was painted six times, red and blue in turns. -/
theorem paintedPanels_reapplied :
    (∃ bound, ∀ steps, bound < steps → ∃ middle final,
      paintedPanels.apply painters steps ⟨0⟩ ⟨0⟩ = some middle ∧
        middle.apply painters steps ⟨0⟩ ⟨1⟩ = some final ∧
          ∀ widget, (final.forest.get? widget).map (Node.reading fun _ => ⟨0⟩) =
            (middle.forest.get? widget).map (Node.reading fun _ => ⟨0⟩)) ∧
    (paintedPanels.apply painters 5 ⟨0⟩ ⟨0⟩).map (fun middle =>
        ((middle.forest.get? ⟨2⟩).bind (fun node => node.look.foreground), middle.listeners ⟨2⟩)) =
      some (some Color.pureBlue, [⟨.entered, some "hover", ⟨8⟩⟩]) := by
  have isForest : paintedPanels.forest.IsForest := isForest_scopedPanels
  have holds : paintedPanels.HoldsTree ⟨0⟩ :=
    holdsTree_scopedPanels.of_handles isForest_scopedPanels rfl (fun _ handled _ => handled)
  have styled : Styled paintedPanels :=
    (styled_scopedPanels.plain .glob .any ⟨1⟩).elsewhere rfl
  have inTree : paintedPanels.forest.Covers ⟨0⟩ ⟨1⟩ :=
    Or.inr (IsAbove.of_parent (by decide +kernel))
  have topsMade : ∀ top ∈ paintedPanels.topStyles ⟨0⟩, paintedPanels.styles.Made top := by
    decide +kernel
  have falls : ∀ upper ∈ paintedPanels.styles.ids, ∀ lower ∈ paintedPanels.styles.links upper,
      [2, 0, 1, 0].getD lower.index 0 < [2, 0, 1, 0].getD upper.index 0 := by
    decide +kernel
  have acyclic : ∀ id, ¬ paintedPanels.styles.LeadsTo id id := by
    apply acyclic_of_falls (fun id : StyleId => [2, 0, 1, 0].getD id.index 0)
    intro upper lower member
    have upperMade := Styles.made_of_isChain (Styles.isChain_of_mem_links member)
    exact falls upper ((paintedPanels.styles.mem_ids upper).mpr upperMade) lower member
  refine ⟨?_, by decide +kernel⟩
  obtain ⟨ends, repeats⟩ := apply_below_changes_nothing styled isForest holds inTree topsMade
    (fun _ _ mutation _ _ _ => painters_decorate ⟨0⟩ paintedPanels mutation)
  obtain ⟨bound, applied⟩ := ends (fun id _ => acyclic id)
  refine ⟨max bound paintedPanels.forest.nodes.size, fun steps enough => ?_⟩
  obtain ⟨middle, isMiddle⟩ := applied steps (by omega)
  obtain ⟨final, isFinal, same⟩ := repeats steps middle (by omega) isMiddle steps (Nat.le_refl steps)
  exact ⟨middle, final, isMiddle, isFinal, same⟩

end StyledTree.Scene
