import StyledTree.Proofs.Scene.Dropping
import StyledTree.Proofs.Scene.Sheets

set_option autoImplicit false

namespace StyledTree.Scene

variable {ε : Type}

/-- Client code changed the tree of a widget only strictly below that widget, and kept what keeps the
rest of the tree. -/
structure ChangesBelow (widget : WidgetId) (before after : Scene ε) : Prop where
  forest : Forest.ChangesBelow widget before.forest after.forest
  held : ∀ other, before.forest.IsBeside widget other → before.isHeld other = true →
    after.isHeld other = true

namespace ChangesBelow

variable {widget : WidgetId} {before middle after : Scene ε}

theorem trans (first : ChangesBelow widget before middle) (isForest : before.forest.IsForest)
    (second : ChangesBelow widget middle after) : ChangesBelow widget before after where
  forest := first.forest.trans isForest second.forest
  held other beside kept :=
    second.held other (first.forest.isBeside isForest beside) (first.held other beside kept)

/-- A tree that was held is held afterwards. -/
theorem holdsTree (changes : ChangesBelow widget before after) (isForest : before.forest.IsForest)
    {root : WidgetId} (atRoot : before.forest.IsBeside widget root) (holds : before.HoldsTree root) :
    after.HoldsTree root := by
  intro upper covers
  rw [changes.forest.covers_iff isForest atRoot] at covers
  exact changes.held upper (atRoot.of_covers covers) (holds upper covers)

theorem of_same_forest (changes : ChangesBelow widget before middle)
    (forest : after.forest = middle.forest) (handles : after.handles = middle.handles) :
    ChangesBelow widget before after where
  forest := forest ▸ changes.forest
  held other beside held := by
    rw [isHeld, forest, handles]
    exact changes.held other beside held

/-- What kept the rest of the tree keeps it if no handle was given up. -/
theorem of_handles (isForest : before.forest.IsForest) (afterForest : after.forest.IsForest)
    (changes : Forest.ChangesBelow widget before.forest after.forest)
    (handles : before.handles ⊆ after.handles) : ChangesBelow widget before after := by
  refine ⟨changes, fun other beside held => ?_⟩
  obtain ⟨holder, handled, covers⟩ := (isHeld_iff isForest).mp held
  exact (isHeld_iff afterForest).mpr
    ⟨holder, handles handled, (changes.covers_iff isForest beside).mpr covers⟩

/-- While the tree of the widget is held, an edit drops nothing of it but what is below the widget. -/
theorem carryOut {scene : Scene ε} (isForest : scene.forest.IsForest) (holds : scene.HoldsTree widget)
    (container : WidgetId) {edited : Forest} (editedForest : edited.IsForest)
    (changes : Forest.ChangesBelow widget scene.forest edited) :
    ChangesBelow widget scene (scene.carryOut container edited) := by
  apply of_handles isForest (isForest_carryOut scene container editedForest)
  case handles => rw [handles_carryOut]; exact List.Subset.refl _
  rcases scene.carryOut_cases container edited with ⟨-, same⟩ | ⟨-, same⟩
  · rw [same]
    exact changes
  · have drops := drops_sweep { scene with forest := edited } editedForest (fun _ => Iff.rfl)
    have stays : ∀ other, scene.forest.IsBeside widget other →
        ¬ (edited.contains other = true ∧
          ∀ holder ∈ scene.handles, ¬ edited.Covers holder other) := by
      rintro other beside ⟨-, nobody⟩
      have held := holds.of_sharesTree isForest beside.sharesTree other
        (scene.forest.covers_refl other)
      obtain ⟨holder, handled, covers⟩ := (isHeld_iff isForest).mp held
      exact nobody holder handled ((changes.covers_iff isForest beside).mpr covers)
    rw [same]
    constructor
    · intro other beside
      rw [← changes.parent other beside]
      ext upper
      refine drops.parent_iff.trans ⟨And.left, fun linked => ⟨linked, stays other beside, ?_⟩⟩
      rw [changes.parent other beside] at linked
      exact stays upper (beside.of_covers (Or.inr (IsAbove.of_parent linked)))
    · intro other beside differ
      rw [← changes.children other beside differ]
      exact drops.children_eq (stays other beside)

end ChangesBelow

/-- A mutation that works through calls of the library and, on whatever widget it runs, changes links
only strictly below that widget. Plain styles stay what they are. -/
structure StaysBelow (handlers : Handlers ε) (mutation : HandlerId) : Prop where
  reaches : ∀ {widget before after}, handlers.run mutation widget before = some after →
    Reaches before after
  below : ∀ {widget before after}, before.forest.IsForest → before.HoldsTree widget →
    handlers.run mutation widget before = some after → ChangesBelow widget before after
  styles : ∀ {widget before after}, handlers.run mutation widget before = some after →
    ∀ id style, before.styles.get? id = some style → style.isChain = false →
      after.styles.get? id = some style

/-- The turn of a plain style on a widget: its mutation runs just when its target and its selector
accept the widget as it is then. -/
inductive Turn (handlers : Handlers ε) (id : StyleId) (widget : WidgetId) :
    Scene ε → Scene ε → Prop where
  | run {style : Style} {mutation : HandlerId} {before after : Scene ε}
      (found : before.styles.get? id = some style) (plain : style.body = .plain mutation)
      (accepted : before.accepts style widget = true)
      (ran : handlers.run mutation widget
        (before.note (.styleMatched style.selector.text (before.describe widget))) = some after) :
      Turn handlers id widget before after
  | pass {style : Style} {scene : Scene ε} (found : scene.styles.get? id = some style)
      (missed : scene.accepts style widget = false) : Turn handlers id widget scene scene

/-- Turns that follow each other. Between them only handles are taken and given up. -/
inductive Turns (handlers : Handlers ε) :
    List (StyleId × WidgetId) → Scene ε → Scene ε → Prop where
  | done {before after : Scene ε} (agrees : Agrees before after) : Turns handlers [] before after
  | next {id : StyleId} {widget : WidgetId} {others : List (StyleId × WidgetId)}
      {before entered left after : Scene ε} (agrees : Agrees before entered)
      (turn : Turn handlers id widget entered left) (rest : Turns handlers others left after) :
      Turns handlers ((id, widget) :: others) before after

def turnsOn (styles : List StyleId) (widgets : List WidgetId) : List (StyleId × WidgetId) :=
  widgets.flatMap (fun widget => styles.map (fun id => (id, widget)))

/-! Sequences of turns. -/

namespace Turns

variable {handlers : Handlers ε}

theorem of_agrees {turns : List (StyleId × WidgetId)} {before middle after : Scene ε}
    (agrees : Agrees before middle) (rest : Turns handlers turns middle after) :
    Turns handlers turns before after := by
  cases rest with
  | done last => exact done (agrees.trans last)
  | next entering turn others => exact next (agrees.trans entering) turn others

theorem append {first second : List (StyleId × WidgetId)} {before middle after : Scene ε}
    (one : Turns handlers first before middle) (other : Turns handlers second middle after) :
    Turns handlers (first ++ second) before after := by
  induction one with
  | done agrees => exact of_agrees agrees other
  | next agrees turn _ ih => exact next agrees turn (ih other)

end Turns

/-- The state that is kept while a sheet is applied: the root's tree is held and is a forest, and the
styles are plain styles whose mutations stay below their widgets. -/
structure Ready (handlers : Handlers ε) (styles : List StyleId) (root : WidgetId)
    (scene : Scene ε) : Prop where
  isForest : scene.forest.IsForest
  holds : scene.HoldsTree root
  plain : ∀ id ∈ styles, ∃ style mutation, scene.styles.get? id = some style ∧
    style.body = .plain mutation ∧ StaysBelow handlers mutation

structure Plays (handlers : Handlers ε) (styles : List StyleId) (root widget : WidgetId)
    (turns : List (StyleId × WidgetId)) (before after : Scene ε) : Prop where
  turns : Turns handlers turns before after
  changes : Forest.ChangesBelow widget before.forest after.forest
  ready : Ready handlers styles root after

variable {handlers : Handlers ε} {styles : List StyleId} {root widget : WidgetId}

theorem Ready.of_agrees {before after : Scene ε} (ready : Ready handlers styles root before)
    (agrees : Agrees before after) (holds : after.HoldsTree root) :
    Ready handlers styles root after where
  isForest := agrees.forest ▸ ready.isForest
  holds := holds
  plain := agrees.styles ▸ ready.plain

theorem Plays.trans {first second : List (StyleId × WidgetId)} {before middle after : Scene ε}
    (isForest : before.forest.IsForest)
    (one : Plays handlers styles root widget first before middle)
    (other : Plays handlers styles root widget second middle after) :
    Plays handlers styles root widget (first ++ second) before after where
  turns := one.turns.append other.turns
  changes := one.changes.trans isForest other.changes
  ready := other.ready

/-! One turn. -/

/-- Evaluating a plain style is a turn of it. -/
theorem turn_of_evaluate {levels nesting : Nat} {id : StyleId} {style : Style}
    {mutation : HandlerId} {before after : Scene ε} (found : before.styles.get? id = some style)
    (plain : style.body = .plain mutation)
    (evaluated : before.evaluate (applyStyle handlers levels nesting) id widget = some after) :
    Turn handlers id widget before after := by
  simp only [evaluate, found] at evaluated
  split at evaluated
  · next accepted =>
    refine Turn.run found plain accepted ?_
    cases nesting with
    | zero => cases evaluated
    | succ nesting =>
        have foundLater : (before.note (.styleMatched style.selector.text
            (before.describe widget))).styles.get? id = some style := found
        have ofTarget : ((before.note (.styleMatched style.selector.text
            (before.describe widget))).forest.kind? widget).any style.target.accepts = true := by
          rw [accepts, Bool.and_eq_true] at accepted
          exact accepted.1
        simp only [applyStyle, foundLater, plain] at evaluated
        rw [if_pos ofTarget] at evaluated
        exact evaluated
  · next missed =>
    cases evaluated
    exact Turn.pass found (by simpa using missed)

/-- A turn keeps the state that the cascade needs. -/
theorem Turn.plays {id : StyleId} {before after : Scene ε}
    (turn : Turn handlers id widget before after) (member : id ∈ styles)
    (ready : Ready handlers styles root before) (inTree : before.forest.Covers root widget) :
    Plays handlers styles root widget [(id, widget)] before after := by
  have turns : Turns handlers [(id, widget)] before after :=
    Turns.next (Agrees.refl before) turn (Turns.done (Agrees.refl after))
  cases turn with
  | pass => exact ⟨turns, Forest.ChangesBelow.refl widget before.forest, ready⟩
  | @run style mutation _ _ found plain accepted ran =>
      obtain ⟨held, own, same, ownPlain, stays⟩ := ready.plain id member
      rw [found] at same
      cases same
      rw [plain] at ownPlain
      cases ownPlain
      have noted : ChangesBelow widget (before.note _) after := stays.below ready.isForest
        (ready.holds.of_sharesTree ready.isForest inTree.sharesTree) ran
      have changes : ChangesBelow widget before after := ⟨noted.forest, noted.held⟩
      have atRoot : before.forest.IsBeside widget root :=
        (ready.isForest.isBeside_self widget).of_covers inTree
      refine ⟨turns, changes.forest, (stays.reaches ran).isForest ready.isForest,
        changes.holdsTree ready.isForest atRoot ready.holds, ?_⟩
      · intro other otherMember
        obtain ⟨otherStyle, otherMutation, otherFound, otherPlain, otherStays⟩ :=
          ready.plain other otherMember
        have notChain : otherStyle.isChain = false := by rw [Style.isChain, otherPlain]
        exact ⟨otherStyle, otherMutation, stays.styles ran other otherStyle otherFound notChain,
          otherPlain, otherStays⟩

/-- Evaluating styles on one widget gives each of them a turn, in their order. -/
theorem plays_of_evaluateAll {levels nesting : Nat} {row : List StyleId}
    (members : ∀ id ∈ row, id ∈ styles) {before after : Scene ε}
    (ready : Ready handlers styles root before) (inTree : before.forest.Covers root widget)
    (evaluated : row.foldlM (fun scene id =>
      Scene.evaluate (applyStyle handlers levels nesting) id widget scene) before = some after) :
    Plays handlers styles root widget (row.map (fun id => (id, widget))) before after := by
  induction row generalizing before with
  | nil =>
      cases evaluated
      exact ⟨Turns.done (Agrees.refl _), Forest.ChangesBelow.refl widget _, ready⟩
  | cons id rest ih =>
      rw [List.forall_mem_cons] at members
      rw [List.foldlM_cons] at evaluated
      obtain ⟨middle, first, others⟩ := Option.bind_eq_some_iff.mp evaluated
      obtain ⟨style, mutation, found, plain, -⟩ := ready.plain id members.1
      have turn := (turn_of_evaluate found plain first).plays members.1 ready inTree
      have stillInTree : middle.forest.Covers root widget :=
        (turn.changes.covers_iff ready.isForest (ready.isForest.isBeside_self widget)).mpr inTree
      exact turn.trans ready.isForest (ih members.2 turn.ready stillInTree others)

/-! The children, one after the other. -/

/-- A sibling's part of the tree is beside a child and all that is below it. -/
theorem isBeside_of_sibling {forest : Forest} (isForest : forest.IsForest)
    {parent child sibling met : WidgetId} (isChild : child ∈ forest.children parent)
    (isSibling : sibling ∈ forest.children parent) (differ : sibling ≠ child)
    (covers : forest.Covers sibling met) : forest.IsBeside child met ∧ met ≠ child := by
  have apart := isForest.apart_of_siblings isSibling isChild differ met covers
  have childBelow := IsAbove.of_parent ((isForest.mem_children_iff parent child).mp isChild)
  have siblingBelow := IsAbove.of_parent ((isForest.mem_children_iff parent sibling).mp isSibling)
  refine ⟨⟨⟨parent, Or.inr childBelow, Forest.Covers.trans (Or.inr siblingBelow) covers⟩, ?_⟩, ?_⟩
  · exact fun above => apart (Or.inr above)
  · rintro rfl
    exact apart (forest.covers_refl met)

/-- A child's visit leaves its parent where it is, with the same children. -/
theorem isBeside_of_child {forest : Forest} (isForest : forest.IsForest) {parent child : WidgetId}
    (isChild : child ∈ forest.children parent) :
    forest.IsBeside child parent ∧ parent ≠ child := by
  have below := IsAbove.of_parent ((isForest.mem_children_iff parent child).mp isChild)
  refine ⟨(isForest.isBeside_self child).of_covers (Or.inr below), ?_⟩
  rintro rfl
  exact isForest.acyclic parent below

/-- What visiting some widgets comes to: they are listed with what is below them in the end, and the
styles had their turns on what is listed. -/
structure Visits (handlers : Handlers ε) (styles : List StyleId) (root widget : WidgetId)
    (visited listed : List WidgetId) (before after : Scene ε) : Prop where
  lists : after.forest.Lists visited listed
  plays : Plays handlers styles root widget (turnsOn styles listed) before after

/-- The visit to a child leaves the parent in its place with the same children, and what is listed of
the children visited before. Giving up the handle on the child drops nothing. -/
theorem Visits.of_child {child : WidgetId} {done others doneListed listed : List WidgetId}
    {before left : Scene ε}
    (visits : Visits handlers styles root child [child] listed before left)
    (ready : Ready handlers styles root before) (inTree : before.forest.Covers root widget)
    (children : before.forest.children widget = done ++ child :: others)
    (doneLists : before.forest.Lists done doneListed) :
    left.forest.children widget = done ++ child :: others ∧ left.forest.Covers root widget ∧
      left.forest.Lists done doneListed ∧ Agrees left (left.release child) ∧
        (left.release child).HoldsTree root := by
  have changes := visits.plays.changes
  have isChild : child ∈ before.forest.children widget := by rw [children]; simp
  have linked := (ready.isForest.mem_children_iff widget child).mp isChild
  obtain ⟨parentBeside, parentDiffers⟩ := isBeside_of_child ready.isForest isChild
  have leftInTree := (changes.covers_iff ready.isForest parentBeside).mpr inTree
  have leftLinked : left.forest.parent? child = some widget :=
    (changes.parent child (ready.isForest.isBeside_self child)).trans linked
  obtain ⟨agrees, holds⟩ := visits.plays.ready.holds.release visits.plays.ready.isForest
    (leftInTree.isAbove_child leftLinked)
  refine ⟨(changes.children widget parentBeside parentDiffers).trans children, leftInTree, ?_, agrees,
    holds⟩
  apply changes.lists doneLists
  intro met member
  obtain ⟨sibling, isDone, covers⟩ := (doneLists.mem_iff ready.isForest).mp member
  have unique := ready.isForest.nodup_children widget
  rw [children, List.nodup_append] at unique
  exact isBeside_of_sibling ready.isForest isChild (by rw [children]; simp [isDone])
    (unique.2.2 sibling isDone child List.mem_cons_self) covers

/-- Visiting the children of a widget in order. Some were visited before and are listed already; the
visits to the others change nothing of that. -/
theorem visits_of_visitChildren
    {visit : WidgetId → Scene ε → Option (Scene ε)}
    (visits : ∀ {child : WidgetId} {before after : Scene ε}, Ready handlers styles root before →
      before.forest.Covers root child → visit child before = some after →
      ∃ listed, Visits handlers styles root child [child] listed before after)
    {done rest doneListed : List WidgetId} {before after : Scene ε}
    (ready : Ready handlers styles root before) (inTree : before.forest.Covers root widget)
    (children : before.forest.children widget = done ++ rest)
    (doneLists : before.forest.Lists done doneListed)
    (visited : rest.foldlM (fun scene child =>
      (visit child scene).map (fun left => left.release child)) before = some after) :
    ∃ listed, after.forest.children widget = done ++ rest ∧
      after.forest.Lists (done ++ rest) (doneListed ++ listed) ∧
        Plays handlers styles root widget (turnsOn styles listed) before after := by
  induction rest generalizing done doneListed before with
  | nil =>
      cases visited
      refine ⟨[], children, by simpa using doneLists, ?_⟩
      exact ⟨Turns.done (Agrees.refl _), Forest.ChangesBelow.refl widget _, ready⟩
  | cons child others ih =>
      rw [List.foldlM_cons] at visited
      obtain ⟨middle, first, remaining⟩ := Option.bind_eq_some_iff.mp visited
      obtain ⟨left, ran, rfl⟩ := Option.map_eq_some_iff.mp first
      have isChild : child ∈ before.forest.children widget := by rw [children]; simp
      have below := IsAbove.of_parent ((ready.isForest.mem_children_iff widget child).mp isChild)
      obtain ⟨listed, visit⟩ := visits ready (inTree.trans (Or.inr below)) ran
      obtain ⟨leftChildren, leftInTree, leftDoneLists, agrees, holds⟩ :=
        visit.of_child ready inTree children doneLists
      have moved : done ++ child :: others = (done ++ [child]) ++ others := by
        rw [List.append_assoc, List.singleton_append]
      have releasedChildren :
          (left.release child).forest.children widget = (done ++ [child]) ++ others := by
        rw [agrees.forest, leftChildren, moved]
      have releasedLists :
          (left.release child).forest.Lists (done ++ [child]) (doneListed ++ listed) := by
        rw [agrees.forest]
        exact leftDoneLists.append visit.lists
      obtain ⟨later, laterChildren, laterLists, laterPlays⟩ :=
        ih (visit.plays.ready.of_agrees agrees holds) (agrees.forest ▸ leftInTree) releasedChildren
          releasedLists remaining
      have lower := visit.plays.changes.of_isAbove below
      rw [← moved] at laterChildren laterLists
      rw [List.append_assoc] at laterLists
      refine ⟨listed ++ later, laterChildren, laterLists, ?_, ?_, laterPlays.ready⟩
      · rw [turnsOn, List.flatMap_append]
        exact visit.plays.turns.append (Turns.of_agrees agrees laterPlays.turns)
      · exact lower.trans ready.isForest (agrees.forest ▸ laterPlays.changes)

/-- Walking down from a widget visits what is at and below it in the end. -/
theorem visits_of_walk {levels nesting depth : Nat} {before after : Scene ε}
    (ready : Ready handlers styles root before) (inTree : before.forest.Covers root widget)
    (walked : before.walk (evaluate (applyStyle handlers levels nesting)) styles depth widget =
      some after) :
    ∃ listed, Visits handlers styles root widget [widget] listed before after := by
  induction depth generalizing widget before after with
  | zero => cases walked
  | succ depth ih =>
      simp only [walk] at walked
      obtain ⟨middle, here, below⟩ := Option.bind_eq_some_iff.mp walked
      have first := plays_of_evaluateAll (fun _ member => member) ready inTree here
      have middleInTree : middle.forest.Covers root widget :=
        (first.changes.covers_iff ready.isForest (ready.isForest.isBeside_self widget)).mpr inTree
      have agrees := Agrees.holdAll middle (middle.forest.children widget)
      have held := first.ready.of_agrees agrees
        (first.ready.holds.holdAll first.ready.isForest (middle.forest.children widget))
      have start : ((middle.forest.children widget).foldl hold middle).forest.children widget =
          [] ++ middle.forest.children widget := by rw [agrees.forest, List.nil_append]
      have heldInTree :
          ((middle.forest.children widget).foldl hold middle).forest.Covers root widget := by
        rw [agrees.forest]
        exact middleInTree
      obtain ⟨listed, children, lists, plays⟩ :=
        visits_of_visitChildren ih held heldInTree start Forest.Lists.nil below
      rw [List.nil_append] at children lists
      rw [List.nil_append, ← children] at lists
      refine ⟨widget :: listed ++ [], Forest.Lists.cons lists Forest.Lists.nil, ?_, ?_,
        plays.ready⟩
      · rw [List.append_nil, turnsOn, List.flatMap_cons]
        exact first.turns.append (Turns.of_agrees agrees plays.turns)
      · exact first.changes.trans ready.isForest (agrees.forest ▸ plays.changes)

/-- Applying a sheet of plain styles whose mutations stay below their widgets gives every style one turn
on each widget that the root's tree has in the end: in the pre-order of that tree and, on each widget,
in the order of registration. -/
theorem apply_takes_turns_in_preorder {steps : Nat} {sheet : SheetId} {scene after : Scene ε}
    (isForest : scene.forest.IsForest) (holds : scene.HoldsTree root)
    (plain : ∀ id ∈ scene.topStyles sheet, ∃ style mutation, scene.styles.get? id = some style ∧
      style.body = .plain mutation ∧ StaysBelow handlers mutation)
    (applied : scene.apply handlers steps sheet root = some after) :
    ∃ listed, after.forest.Lists [root] listed ∧ listed.Nodup ∧
      (∀ widget, widget ∈ listed ↔ after.forest.Covers root widget) ∧
        Turns handlers (turnsOn (scene.topStyles sheet) listed) (scene.recordRoot sheet root)
          after := by
  simp only [apply, cascade, topStyles_recordRoot] at applied
  have agrees : Agrees (scene.recordRoot sheet root) ((scene.recordRoot sheet root).note
    (.sheetApplied (scene.topStyles sheet).length
      ((scene.recordRoot sheet root).describe root))) := Agrees.note _ _
  have ready : Ready handlers (scene.topStyles sheet) root ((scene.recordRoot sheet root).note
      (.sheetApplied (scene.topStyles sheet).length
        ((scene.recordRoot sheet root).describe root))) := ⟨isForest, holds, plain⟩
  obtain ⟨listed, lists, plays⟩ := visits_of_walk ready (Forest.covers_refl _ root) applied
  refine ⟨listed, lists, ?_, ?_, Turns.of_agrees agrees plays.turns⟩
  · exact plays.ready.isForest.nodup_of_lists lists (List.pairwise_singleton _ root)
  · intro widget
    rw [lists.mem_iff plays.ready.isForest]
    simp

def refill (widget : WidgetId) (scene : Scene Unit) : Scene Unit :=
  let (label, made) := (scene.removeAll widget).spawn .label
  (made.add widget label).2

def refillers : Handlers Unit where
  run _ widget scene := some (refill widget scene)
  notify _ _ _ scene := some scene
  produce _ _ := none

theorem refill_changesBelow {widget : WidgetId} {scene : Scene Unit}
    (isForest : scene.forest.IsForest) (holds : scene.HoldsTree widget) :
    ChangesBelow widget scene (refill widget scene) := by
  have removed := isForest.removeAll widget
  have emptied : (scene.removeAll widget).forest.IsForest := isForest_carryOut scene widget removed
  have taken : ChangesBelow widget scene (scene.removeAll widget) :=
    ChangesBelow.carryOut isForest holds widget removed
      (Forest.ChangesBelow.removeAll isForest (scene.forest.covers_refl widget))
  have grown := emptied.create .label
  have made : ChangesBelow widget (scene.removeAll widget) ((scene.removeAll widget).spawn .label).2 :=
    ChangesBelow.of_handles emptied grown (Forest.ChangesBelow.create widget _ .label)
      (List.subset_cons_self _ _)
  have filled := made.holdsTree emptied (emptied.isBeside_self widget)
    (taken.holdsTree isForest (isForest.isBeside_self widget) holds)
  have placed := Forest.ChangesBelow.add grown (Forest.covers_refl _ widget)
    (fun beside => (emptied.eq_of_isBeside_create beside).symm)
  have edited := ((scene.removeAll widget).forest.create .label).2.editsAt_add widget
    ((scene.removeAll widget).forest.create .label).1
  have last : ChangesBelow widget ((scene.removeAll widget).spawn .label).2 (refill widget scene) :=
    (ChangesBelow.carryOut grown filled widget (edited.isForest grown) placed).of_same_forest
      (forest_commit _ _ _ _) ((handles_commit _ _ _ _).trans (handles_carryOut _ _ _).symm)
  exact taken.trans isForest (made.trans emptied last)

theorem refill_staysBelow (mutation : HandlerId) : StaysBelow refillers mutation where
  reaches {widget before after} ran := by
    cases ran
    have emptied := Reaches.step (Step.removeAll before widget)
    have made := Reaches.step (Step.spawn (before.removeAll widget) .label)
    exact (emptied.trans made).trans (Reaches.step (Step.add _ widget _))
  below {widget before after} isForest holds ran := by
    cases ran
    exact refill_changesBelow isForest holds
  styles {widget before after} ran id style found _ := by
    cases ran
    have same : (refill widget before).styles = before.styles :=
      (styles_commit _ _ _ _).trans (styles_carryOut before widget _)
    rwa [same]

def nestedPanels : Scene Unit :=
  let panels := ((((Scene.fresh ()).spawn .panel).2.spawn .panel).2.add ⟨0⟩ ⟨1⟩).2
  let (style, styled) := panels.addSheet.2.addStyle ⟨.glob, .only .panel, .plain ⟨0⟩⟩
  styled.register ⟨0⟩ style

theorem isForest_nestedPanels : nestedPanels.forest.IsForest := by
  have one := Reaches.step (Step.spawn (Scene.fresh ()) .panel)
  have two := one.trans (Reaches.step (Step.spawn _ .panel))
  have nested := two.trans (Reaches.step (Step.add _ ⟨0⟩ ⟨1⟩))
  exact (nested.trans (Reaches.step (Step.elsewhere _ rfl rfl))).isForest Forest.isForest_empty

/-- The inner panel is gone before its turn comes. The label that replaces it has its turn, in which
the style passes it by. -/
theorem refilled_panel_takes_turns :
    ∃ after, nestedPanels.apply refillers 3 ⟨0⟩ ⟨0⟩ = some after ∧
      after.forest.Lists [⟨0⟩] [⟨0⟩, ⟨2⟩] ∧
        Turns refillers [(⟨0⟩, ⟨0⟩), (⟨0⟩, ⟨2⟩)] (nestedPanels.recordRoot ⟨0⟩ ⟨0⟩) after := by
  obtain ⟨after, applied⟩ := Option.isSome_iff_exists.mp
    (show (nestedPanels.apply refillers 3 ⟨0⟩ ⟨0⟩).isSome = true by decide +kernel)
  have holds : nestedPanels.HoldsTree ⟨0⟩ := by
    rintro upper (rfl | above)
    · decide +kernel
    · exact absurd above (IsAbove.not_of_root (by decide +kernel))
  have plain : ∀ id ∈ nestedPanels.topStyles ⟨0⟩, ∃ style mutation,
      nestedPanels.styles.get? id = some style ∧ style.body = .plain mutation ∧
        StaysBelow refillers mutation := by
    intro id member
    have tops : nestedPanels.topStyles ⟨0⟩ = [⟨0⟩] := by decide +kernel
    rw [tops, List.mem_singleton] at member
    subst member
    exact ⟨⟨.glob, .only .panel, .plain ⟨0⟩⟩, ⟨0⟩, by decide +kernel, rfl, refill_staysBelow ⟨0⟩⟩
  obtain ⟨listed, lists, -, -, turns⟩ :=
    apply_takes_turns_in_preorder isForest_nestedPanels holds plain applied
  have shown : (nestedPanels.apply refillers 3 ⟨0⟩ ⟨0⟩).map (fun scene =>
      (scene.forest.children ⟨0⟩, scene.forest.children ⟨2⟩)) = some ([⟨2⟩], []) := by
    decide +kernel
  rw [applied, Option.map_some, Option.some.injEq, Prod.mk.injEq] at shown
  have order : after.forest.Lists [⟨0⟩] [⟨0⟩, ⟨2⟩] := by
    have none : after.forest.Lists (after.forest.children ⟨2⟩) [] :=
      shown.2.symm ▸ Forest.Lists.nil
    have label : after.forest.Lists (after.forest.children ⟨0⟩) [⟨2⟩] :=
      shown.1.symm ▸ Forest.Lists.cons none Forest.Lists.nil
    exact Forest.Lists.cons label Forest.Lists.nil
  have same : listed = [⟨0⟩, ⟨2⟩] := lists.unique order
  subst same
  exact ⟨after, applied, order, turns⟩

end StyledTree.Scene
