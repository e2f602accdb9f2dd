import Mathlib.Algebra.GroupWithZero.Nat
import StyledTree.Proofs.Scene.Recording
import StyledTree.Proofs.Scene.Shape
import StyledTree.Proofs.Style.Carrying

set_option autoImplicit false

namespace StyledTree.Scene

open Styles

variable {ε : Type} {scene : Scene ε} {root scope last : WidgetId}

/-- However styles were made and linked, each chain has the selector and the target of what it
wraps. -/
theorem Styled.wrapsAlike (styled : Styled scene) : scene.styles.WrapsAlike := by
  have nest : ∀ (scene : Scene ε) (parent style : StyleId), scene.styles.WrapsAlike →
      (scene.nest parent style).2.styles.WrapsAlike := by
    intro scene parent style alike
    rw [styles_nest]
    split
    · exact alike.asChain style
    · exact (alike.asChain style).append parent _
  induction styled with
  | none empty =>
      intro chain upper inner found
      rw [empty] at found
      simp [get?, Styles.empty] at found
  | elsewhere _ same ih => exact same ▸ ih
  | plain _ _ _ _ ih => exact ih.add (fun _ wrapped => by cases wrapped)
  | scope _ _ ih => exact ih.add (fun _ wrapped => by cases wrapped)
  | wrap _ style ih => exact ih.wrap style
  | @nest scene _ parent style _ ih => exact nest scene parent style ih
  | @chain scene _ sheet parent child _ ih =>
      obtain ⟨-, id, -, same⟩ | ⟨-, same⟩ := chain_cases scene sheet parent child
      · rw [same]
        exact ih
      · rw [same]
        have taken : (scene.takeOut sheet child (scene.chainOf? sheet child)).2.styles.WrapsAlike := by
          obtain ⟨top, -, out⟩ | ⟨-, held, -, out⟩ | ⟨-, -, out⟩ :=
            takeOut_cases scene sheet child (scene.chainOf? sheet child)
          · rw [out]
            exact ih
          · rw [out]
            exact ih.detach _ held
          · rw [out]
            exact ih
        apply nest
        obtain ⟨chain, -, made⟩ | ⟨-, -, made, -⟩ := chainFor_cases
          (scene.takeOut sheet child (scene.chainOf? sheet child)).2 sheet parent
        · rw [made]
          exact taken
        · rw [made]
          exact taken.wrap parent

/-! Ways down. -/

/-- Widgets that meet the styles one by one, each of them at or below the one before it and the first of
them at or below the scope. -/
inductive Descends (scene : Scene ε) : WidgetId → List StyleId → List WidgetId → Prop where
  | nil (scope : WidgetId) : Descends scene scope [] []
  | cons {scope widget : WidgetId} {id : StyleId} {ids : List StyleId} {widgets : List WidgetId} :
    scene.forest.Covers scope widget → scene.meets id widget = true →
      Descends scene widget ids widgets → Descends scene scope (id :: ids) (widget :: widgets)

def ways (scene : Scene ε) (last : WidgetId) : List StyleId → WidgetId → List (List WidgetId)
  | [], scope => if scope = last then [[]] else []
  | id :: rest, scope =>
    ((scope :: scene.forest.descendants scope).filter (scene.meets id)).flatMap
      (fun widget => (scene.ways last rest widget).map (fun way => widget :: way))

theorem mem_ways_iff (isForest : scene.forest.IsForest) {ids : List StyleId}
    {way : List WidgetId} :
    way ∈ scene.ways last ids scope ↔
      scene.Descends scope ids way ∧ (scope :: way).getLast? = some last := by
  induction ids generalizing scope way with
  | nil =>
      rw [ways]
      constructor
      · split
        · next same =>
          intro member
          rw [List.mem_singleton.mp member, same]
          exact ⟨Descends.nil last, rfl⟩
        · exact fun member => nomatch member
      · rintro ⟨descends, ends⟩
        cases descends
        have same : scope = last := by simpa using ends
        rw [if_pos same]
        exact List.mem_singleton.mpr rfl
  | cons id rest ih =>
      rw [ways, List.mem_flatMap]
      constructor
      · rintro ⟨widget, isMet, member⟩
        rw [List.mem_filter, isForest.mem_subtree_iff] at isMet
        obtain ⟨below, isBelow, rfl⟩ := List.mem_map.mp member
        obtain ⟨descends, ends⟩ := ih.mp isBelow
        refine ⟨Descends.cons isMet.1 isMet.2 descends, ?_⟩
        rwa [List.getLast?_cons_cons]
      · rintro ⟨descends, ends⟩
        cases descends with
        | @cons _ widget _ _ below covers meets descends =>
            rw [List.getLast?_cons_cons] at ends
            refine ⟨widget, ?_, List.mem_map_of_mem (ih.mpr ⟨descends, ends⟩)⟩
            rw [List.mem_filter, isForest.mem_subtree_iff]
            exact ⟨covers, meets⟩

theorem nodup_ways (isForest : scene.forest.IsForest) (last : WidgetId) (ids : List StyleId)
    (scope : WidgetId) : (scene.ways last ids scope).Nodup := by
  induction ids generalizing scope with
  | nil =>
      rw [ways]
      split
      · exact List.nodup_singleton []
      · exact List.nodup_nil
  | cons id rest ih =>
      rw [ways, List.nodup_flatMap]
      constructor
      · intro widget _
        exact (ih widget).map (fun _ _ same => (List.cons.inj same).2)
      · refine ((isForest.nodup_subtree scope).filter _).imp ?_
        intro one other differ way inOne inOther
        obtain ⟨first, -, rfl⟩ := List.mem_map.mp inOne
        obtain ⟨second, -, same⟩ := List.mem_map.mp inOther
        exact differ (List.cons.inj same).1.symm

theorem length_ways (scene : Scene ε) (last : WidgetId) (id : StyleId) (rest : List StyleId)
    (scope : WidgetId) :
    (scene.ways last (id :: rest) scope).length =
      (((scope :: scene.forest.descendants scope).filter (scene.meets id)).map
        (fun widget => (scene.ways last rest widget).length)).sum := by
  simp only [ways, List.length_flatMap, List.length_map]

/-- The last style of a way down is met at or below the widget that the style before it met, or at or
below the scope. -/
theorem descends_concat_iff {ids : List StyleId} {id : StyleId} {way : List WidgetId} :
    scene.Descends scope (ids ++ [id]) way ↔
      ∃ front widget, way = front ++ [widget] ∧ scene.Descends scope ids front ∧
        scene.forest.Covers (front.getLastD scope) widget ∧ scene.meets id widget = true := by
  induction ids generalizing scope way with
  | nil =>
      constructor
      · intro descends
        cases descends with
        | cons covers meets rest =>
            cases rest
            exact ⟨[], _, rfl, Descends.nil scope, covers, meets⟩
      · rintro ⟨front, widget, rfl, descends, covers, meets⟩
        cases descends
        exact Descends.cons covers meets (Descends.nil widget)
  | cons other rest ih =>
      constructor
      · intro descends
        cases descends with
        | @cons _ first _ _ below covers meets descends =>
            obtain ⟨front, widget, rfl, upper, further, accepted⟩ := ih.mp descends
            refine ⟨first :: front, widget, rfl, Descends.cons covers meets upper, ?_, accepted⟩
            rwa [List.getLastD_cons]
      · rintro ⟨front, widget, rfl, descends, further, accepted⟩
        cases descends with
        | @cons _ first _ _ below covers meets descends =>
            rw [List.getLastD_cons] at further
            exact Descends.cons covers meets (ih.mpr ⟨below, widget, rfl, descends, further, accepted⟩)

/-! Counting what is planned. -/

section Counting

variable {α β : Type} [BEq β] [LawfulBEq β]

/-- What is planned for one of the items only is planned as often as for that item. -/
theorem count_gather_of_only {plan : α → Option (List β)} {items : List α} {whole : List β}
    (gathered : gather plan items = some whole) (unique : items.Nodup) {item : α}
    (member : item ∈ items) {met : β}
    (only : ∀ other ∈ items, ∀ part, plan other = some part → met ∈ part → other = item) :
    ∃ part, plan item = some part ∧ whole.count met = part.count met := by
  obtain ⟨front, back, rfl⟩ := List.append_of_mem member
  rw [gather_append, andThen_eq_some_iff] at gathered
  obtain ⟨before, others, isBefore, isOthers, rfl⟩ := gathered
  obtain ⟨part, later, isPart, isLater, rfl⟩ := andThen_eq_some_iff.mp isOthers
  rw [List.nodup_append, List.nodup_cons] at unique
  have notBefore : met ∉ before := by
    intro inBefore
    obtain ⟨other, isFront, found, isFound, inFound⟩ := exists_of_mem_gather isBefore inBefore
    have same := only other (List.mem_append_left _ isFront) found isFound inFound
    exact unique.2.2 other isFront item List.mem_cons_self same
  have notLater : met ∉ later := by
    intro inLater
    obtain ⟨other, isBack, found, isFound, inFound⟩ := exists_of_mem_gather isLater inLater
    have same := only other (List.mem_append_right _ (List.mem_cons_of_mem _ isBack)) found isFound
      inFound
    exact unique.2.1.1 (same ▸ isBack)
  refine ⟨part, isPart, ?_⟩
  rw [List.count_append, List.count_append, List.count_eq_zero_of_not_mem notBefore,
    List.count_eq_zero_of_not_mem notLater]
  omega

end Counting

/-- A run that only one of the styles bears is planned once for each run on a widget that this style
accepts. -/
theorem count_cascade {plan : StyleId → WidgetId → Option (List Run)} {styles : List StyleId}
    (unique : styles.Nodup) {id : StyleId} (member : id ∈ styles) {run : Run}
    (only : ∀ other ∈ styles, ∀ widget part, plan other widget = some part → run ∈ part →
      other = id)
    {amount : WidgetId → Nat} {widgets : List WidgetId}
    (each : ∀ widget ∈ widgets, scene.meets id widget = true → ∀ part,
      plan id widget = some part → part.count run = amount widget)
    {runs : List Run}
    (isPlan : gather (fun widget => gather (fun id => scene.planned plan id widget) styles) widgets =
      some runs) :
    runs.count run = ((widgets.filter (scene.meets id)).map amount).sum := by
  induction widgets generalizing runs with
  | nil =>
      cases isPlan
      rfl
  | cons widget rest ih =>
      obtain ⟨here, later, isHere, isLater, rfl⟩ := andThen_eq_some_iff.mp isPlan
      rw [List.forall_mem_cons] at each
      have onlyHere : ∀ other ∈ styles, ∀ part, scene.planned plan other widget = some part →
          run ∈ part → other = id := by
        intro other isOther part isPart inPart
        rw [planned] at isPart
        split at isPart
        · exact only other isOther widget part isPart inPart
        · cases isPart
          cases inPart
      obtain ⟨part, isPart, same⟩ := count_gather_of_only isHere unique member onlyHere
      rw [List.count_append, same, ih each.2 isLater]
      rw [planned] at isPart
      split at isPart
      · next meets =>
        rw [List.filter_cons_of_pos meets, List.map_cons, List.sum_cons,
          each.1 meets part isPart]
      · next misses =>
        rw [List.filter_cons_of_neg misses, ← Option.some.inj isPart, List.count_nil, Nat.zero_add]

section OnePlace

variable {tops order : List StyleId} {mutation : HandlerId}
  (isForest : scene.forest.IsForest) (place : scene.styles.OnePlace tops order)
  (alone : ∀ one ∈ order, ∀ other ∈ order, scene.styles.Owns mutation one →
    scene.styles.Owns mutation other → one = other)
include isForest place alone

section Chain

variable {nesting : Nat} {id : StyleId} {widget : WidgetId} (member : id ∈ order)
  {wrapped : Option StyleId} {children : List StyleId}
  (linksAre : scene.styles.links id = children ++ wrapped.toList) {first others : List Run}
  (isOthers : gather (fun child => scene.cascadePlan (scene.stylePlan nesting) [child] widget)
    children = some others)
include member linksAre isOthers

/-- What a chain wraps bears the mutation, and so no child style of the chain runs it. -/
theorem count_chain_of_wrapped {inner : StyleId} (isWrapped : wrapped = some inner)
    (bears : scene.styles.Bears mutation inner) :
    (first ++ others).count (mutation, last) = first.count (mutation, last) := by
  have unique := place.nodup_links member
  have inLinks : inner ∈ scene.styles.links id := by
    rw [linksAre, isWrapped]
    exact List.mem_append_right _ List.mem_cons_self
  rw [linksAre, isWrapped, List.nodup_append] at unique
  have notOthers : (mutation, last) ∉ others := by
    intro inOthers
    obtain ⟨child, isChild, part, isPart, inPart⟩ := exists_of_mem_gather isOthers inOthers
    have childLinked : child ∈ scene.styles.links id := by
      rw [linksAre]
      exact List.mem_append_left _ isChild
    have same := place.link_unique alone member childLinked inLinks
      (bears_of_mem_cascadePlan isForest isPart inPart) bears
    exact unique.2.2 child isChild inner List.mem_cons_self same
  rw [List.count_append, List.count_eq_zero_of_not_mem notOthers, Nat.add_zero]

/-- A child style bears the mutation, and so neither another child style of the chain nor what the chain
wraps runs it. -/
theorem count_chain_of_child
    (isFirst : gather (fun inner => scene.stylePlan nesting inner widget) wrapped.toList =
      some first) {lower : StyleId} (held : lower ∈ children)
    (bears : scene.styles.Bears mutation lower) :
    ∃ part, scene.cascadePlan (scene.stylePlan nesting) [lower] widget = some part ∧
      (first ++ others).count (mutation, last) = part.count (mutation, last) := by
  have unique := place.nodup_links member
  have inLinks : lower ∈ scene.styles.links id := by
    rw [linksAre]
    exact List.mem_append_left _ held
  rw [linksAre, List.nodup_append] at unique
  have notFirst : (mutation, last) ∉ first := by
    intro inFirst
    obtain ⟨inner, isInner, part, isPart, inPart⟩ := exists_of_mem_gather isFirst inFirst
    have innerLinked : inner ∈ scene.styles.links id := by
      rw [linksAre]
      exact List.mem_append_right _ isInner
    have same := place.link_unique alone member innerLinked inLinks
      (of_mem_stylePlan isForest isPart inPart).1 bears
    exact unique.2.2 lower held inner isInner same.symm
  obtain ⟨part, isPart, same⟩ := count_gather_of_only isOthers unique.1 held
    (fun child isChild _ isPart inPart => place.link_unique alone member
      (linksAre ▸ List.mem_append_left _ isChild) inLinks
      (bears_of_mem_cascadePlan isForest isPart inPart) bears)
  refine ⟨part, isPart, ?_⟩
  rw [List.count_append, List.count_eq_zero_of_not_mem notFirst, Nat.zero_add, same]

end Chain

/-- A style that is run on a widget runs a mutation that is nested under it once for each way down from
there. -/
theorem count_stylePlan (alike : scene.styles.WrapsAlike) {nesting : Nat} {id : StyleId}
    (member : id ∈ order) {style : Style} (found : scene.styles.get? id = some style)
    {rest : List StyleId} (nested : scene.styles.NestedTo mutation id rest) {widget : WidgetId}
    (fits : (scene.forest.kind? widget).any style.target.accepts = true) {runs : List Run}
    (isPlan : scene.stylePlan nesting id widget = some runs) :
    runs.count (mutation, last) = (scene.ways last rest widget).length := by
  induction nesting generalizing id style rest widget runs with
  | zero => cases isPlan
  | succ nesting ih =>
      cases body : style.body with
      | plain other =>
          obtain ⟨rfl, rfl⟩ := nested.of_plain found body
          rw [stylePlan_plain found body, if_pos fits, Option.some.injEq] at isPlan
          rw [← isPlan, ways]
          by_cases same : widget = last
          · rw [if_pos same, same, List.count_cons_self, List.count_nil]
            rfl
          · rw [if_neg same, List.count_eq_zero_of_not_mem]
            · rfl
            · simp [Ne.symm same]
      | chain wrapped sheets =>
          have linksAre := links_of_chain found body
          rw [stylePlan_chain found body] at isPlan
          obtain ⟨first, others, isFirst, isOthers, rfl⟩ := andThen_eq_some_iff.mp isPlan
          obtain ⟨inner, isWrapped, inside⟩ | ⟨lower, below, rfl, held, inside⟩ :=
            nested.of_chain (isChain_of_chain found body)
          · have innerMember := place.lists.mem_of_child member
              ((mem_links _ _ _).mpr (Or.inr isWrapped))
            rw [wrapped?_of_chain found body] at isWrapped
            obtain ⟨innerStyle, innerFound, -, target⟩ := alike id style inner found (by
              rw [Style.wrapped?, body, isWrapped])
            rw [count_chain_of_wrapped isForest place alone member linksAre isOthers isWrapped
              inside.bears]
            rw [isWrapped, Option.toList_some, gather_singleton] at isFirst
            exact ih innerMember innerFound inside (target ▸ fits) isFirst
          · have lowerMember := place.lists.mem_of_child member
              ((mem_links _ _ _).mpr (Or.inl held))
            obtain ⟨part, isPart, same⟩ := count_chain_of_child isForest place alone member linksAre
              isOthers isFirst (children_of_chain found body ▸ held) inside.bears
            rw [same, length_ways]
            refine count_cascade (List.nodup_singleton lower) List.mem_cons_self
              (fun other isOther _ _ _ _ => List.mem_singleton.mp isOther) ?_ isPart
            intro met _ meets lowerRuns isLower
            obtain ⟨lowerStyle, lowerFound, lowerFits⟩ := exists_of_meets meets
            exact ih lowerMember lowerFound inside lowerFits isLower

/-- A sheet runs a mutation that is nested under one of its top styles once for each way down from the
root. -/
theorem count_sheetPlan (alike : scene.styles.WrapsAlike) {sheet : SheetId}
    (isTops : scene.topStyles sheet = tops) {id : StyleId} (isTop : id ∈ tops) {rest : List StyleId}
    (nested : scene.styles.NestedTo mutation id rest) {steps : Nat} {runs : List Run}
    (isPlan : scene.sheetPlan steps sheet root = some runs) :
    runs.count (mutation, last) = (scene.ways last (id :: rest) root).length := by
  rw [sheetPlan, isTops] at isPlan
  rw [length_ways]
  refine count_cascade place.nodup_tops isTop ?_ ?_ isPlan
  · intro other isOther widget part isPart inPart
    exact place.top_unique alone isOther isTop (of_mem_stylePlan isForest isPart inPart).1
      nested.bears
  · intro widget _ meets part isPart
    obtain ⟨style, found, fits⟩ := exists_of_meets meets
    exact count_stylePlan isForest place alone alike (place.lists.mem_of_node isTop) found nested fits
      isPart

end OnePlace

/-! Records. -/

/-- As often as there are ways down from the root that end at the widget. -/
def CountsWays (scene : Scene ε) (root : WidgetId) (ids : List StyleId) (mutation : HandlerId)
    (runs : List Run) : Prop :=
  ∀ widget, ∃ ways : List (List WidgetId), ways.Nodup ∧
    (∀ way, way ∈ ways ↔ scene.Descends root ids way ∧ way.getLast? = some widget) ∧
    runs.count (mutation, widget) = ways.length

theorem CountsWays.mem_iff {ids : List StyleId} {mutation : HandlerId} {runs : List Run}
    (counts : scene.CountsWays root ids mutation runs) {widget : WidgetId} :
    (mutation, widget) ∈ runs ↔
      ∃ way, scene.Descends root ids way ∧ way.getLast? = some widget := by
  obtain ⟨ways, -, members, count⟩ := counts widget
  rw [← List.count_pos_iff, count, List.length_pos_iff_exists_mem]
  exact exists_congr members

/-- A nested style runs on what the style before it met or on what is below that, and on what that style
met as well, if it accepts it. -/
theorem CountsWays.nested {ids : List StyleId} {parent last : StyleId} {mutation : HandlerId}
    {runs : List Run} (counts : scene.CountsWays root (ids ++ [parent, last]) mutation runs) :
    (∀ widget, (mutation, widget) ∈ runs → ∃ way matched,
      scene.Descends root (ids ++ [parent]) (way ++ [matched]) ∧
        scene.forest.Covers matched widget) ∧
    ∀ way matched, scene.Descends root (ids ++ [parent]) (way ++ [matched]) →
      scene.meets last matched = true → (mutation, matched) ∈ runs := by
  have parts : ids ++ [parent, last] = ids ++ [parent] ++ [last] := by simp
  rw [parts] at counts
  constructor
  · intro widget member
    obtain ⟨way, descends, ends⟩ := counts.mem_iff.mp member
    obtain ⟨front, met, rfl, upper, covers, -⟩ := descends_concat_iff.mp descends
    obtain ⟨way, matched, rfl, -⟩ := descends_concat_iff.mp upper
    rw [List.getLast?_concat, Option.some.injEq] at ends
    rw [List.getLastD_concat] at covers
    exact ⟨way, matched, upper, ends ▸ covers⟩
  · intro way matched descends meets
    refine counts.mem_iff.mpr ⟨way ++ [matched] ++ [matched], ?_, List.getLast?_concat⟩
    refine descends_concat_iff.mpr ⟨_, matched, rfl, descends, ?_, meets⟩
    rw [List.getLastD_concat]
    exact scene.forest.covers_refl matched

/-- Where each style has one place and no mutation changes links, kinds, names or classes, applying a
sheet ends, with or without a record. The mutation of a style that is nested below others runs on a
widget once for each way down that ends there: from what the style at the top accepts in the tree of
the root, to what the next style accepts at or below that, and so on. -/
theorem mutation_runs_once_per_way {scene : Scene ε} (styled : Styled scene)
    (isForest : scene.forest.IsForest) {root : WidgetId} (holds : scene.HoldsTree root)
    {sheet : SheetId} {order : List StyleId}
    (place : scene.styles.OnePlace (scene.topStyles sheet) order)
    (topsMade : ∀ top ∈ scene.topStyles sheet, scene.styles.Made top) {handlers : Handlers ε}
    (steady : ∀ id ∈ order, ∀ style mutation, scene.styles.get? id = some style →
      style.body = .plain mutation → Steady handlers mutation) :
    ∃ bound, ∀ steps, bound < steps → ∃ after,
      scene.unrecorded.apply handlers.recording steps sheet root = some after ∧
      scene.apply handlers steps sheet root = some (after.mapClient Prod.fst) ∧
      ∀ first ∈ scene.topStyles sheet, ∀ rest mutation,
        scene.styles.NestedTo mutation first rest →
        (∀ one ∈ order, ∀ other ∈ order, scene.styles.Owns mutation one →
          scene.styles.Owns mutation other → one = other) →
        scene.CountsWays root (first :: rest) mutation after.client.2 ∧
        ∀ ids parent last, first :: rest = ids ++ [parent, last] →
          (∀ widget, (mutation, widget) ∈ after.client.2 → ∃ way matched,
            scene.Descends root (ids ++ [parent]) (way ++ [matched]) ∧
              scene.forest.Covers matched widget) ∧
          ∀ way matched, scene.Descends root (ids ++ [parent]) (way ++ [matched]) →
            scene.meets last matched = true → (mutation, matched) ∈ after.client.2 := by
  refine ⟨max order.length scene.forest.nodes.size, fun steps enough => ?_⟩
  have nests := nestsWithin_of_enumerates place.lists (show order.length ≤ steps by omega)
  obtain ⟨runs, isPlan⟩ := exists_sheetPlan nests root
  have steadyReached : ∀ id style mutation, scene.styles.Reached (scene.topStyles sheet) id →
      scene.styles.get? id = some style → style.body = .plain mutation →
        Steady handlers mutation := by
    rintro id style mutation ⟨top, isTop, path⟩
    exact steady id (place.mem_of_path (place.lists.mem_of_node isTop) path) style mutation
  obtain ⟨after, applied, record⟩ :=
    record_of_sheetPlan isForest holds styled.sound topsMade steadyReached (by omega) isPlan
  refine ⟨after, applied, ?_, ?_⟩
  · rw [← apply_recording, applied]
    rfl
  · intro first isTop rest mutation nested alone
    have counts : scene.CountsWays root (first :: rest) mutation after.client.2 := by
      intro widget
      refine ⟨scene.ways widget (first :: rest) root, nodup_ways isForest widget _ root, ?_, ?_⟩
      · intro way
        rw [mem_ways_iff isForest]
        refine and_congr_right (fun descends => ?_)
        cases descends
        rw [List.getLast?_cons_cons]
      · rw [record]
        exact count_sheetPlan isForest place alone styled.wrapsAlike rfl isTop nested isPlan
    refine ⟨counts, ?_⟩
    intro ids parent last path
    rw [path] at counts
    exact counts.nested

theorem counters_steady (mutation : HandlerId) : Steady counters mutation :=
  fun widget before isForest holds => ⟨_, rfl,
    ⟨Forest.SameTree.refl widget before.forest, isForest, holds, fun _ _ found => found⟩,
    Forest.SameMarks.refl widget before.forest⟩

def scopedPanels : Scene Nat :=
  let panels := (((Scene.fresh 0).spawn .panel).2.spawn .panel).2
  let tree := (((panels.spawn .label).2.add ⟨0⟩ ⟨1⟩).2.add ⟨1⟩ ⟨2⟩).2
  let counted := ((tree.addSheet.2.addStyle (.scope .glob)).2.addStyle ⟨.glob, .any, .plain ⟨0⟩⟩).2
  (counted.nest ⟨0⟩ ⟨1⟩).2.register ⟨0⟩ ⟨0⟩

theorem isForest_scopedPanels : scopedPanels.forest.IsForest := by
  have reached : Reaches (Scene.fresh 0) scopedPanels := by
    refine Reaches.trans (Reaches.step (Step.spawn _ .panel)) ?_
    refine Reaches.trans (Reaches.step (Step.spawn _ .panel)) ?_
    refine Reaches.trans (Reaches.step (Step.spawn _ .label)) ?_
    refine Reaches.trans (Reaches.step (Step.add _ ⟨0⟩ ⟨1⟩)) ?_
    refine Reaches.trans (Reaches.step (Step.add _ ⟨1⟩ ⟨2⟩)) ?_
    exact Reaches.step (Step.elsewhere _ rfl rfl)
  exact reached.isForest Forest.isForest_empty

theorem holdsTree_scopedPanels : scopedPanels.HoldsTree ⟨0⟩ := by
  rintro upper (rfl | above)
  · decide +kernel
  · exact absurd above (IsAbove.not_of_root (by decide +kernel))

theorem styled_scopedPanels : Styled scopedPanels := by
  refine Styled.elsewhere (Styled.nest (Styled.plain (Styled.scope (Styled.none ?_) .glob) .glob .any
    ⟨0⟩) ⟨0⟩ ?_) rfl
  · rfl
  · exact show 1 < 2 by decide

theorem onePlace_scopedPanels :
    scopedPanels.styles.OnePlace (scopedPanels.topStyles ⟨0⟩) [⟨0⟩, ⟨2⟩, ⟨1⟩] := by
  have tops : scopedPanels.topStyles ⟨0⟩ = [⟨0⟩] := by decide +kernel
  have links : [⟨0⟩, ⟨2⟩, ⟨1⟩].map scopedPanels.styles.links = [[⟨2⟩], [⟨1⟩], []] := by
    decide +kernel
  simp only [List.map_cons, List.map_nil, List.cons.injEq, and_true] at links
  obtain ⟨scope, chain, plain⟩ := links
  have owner : Enumerates scopedPanels.styles.links [⟨1⟩] [⟨1⟩] :=
    (Enumerates.leaf_iff plain).mpr ⟨[], rfl, Enumerates.nil⟩
  have wrapped : Enumerates scopedPanels.styles.links [⟨2⟩] [⟨2⟩, ⟨1⟩] :=
    Enumerates.cons (chain ▸ owner) Enumerates.nil
  refine ⟨?_, by decide⟩
  rw [tops]
  exact Enumerates.cons (scope ▸ wrapped) Enumerates.nil

/-- The panels and the label are scopes themselves, so the style runs once on the outer panel, twice on
the inner one and three times on the label. -/
theorem scopedPanels_count :
    (∃ bound, ∀ steps, bound < steps → ∃ after,
      scopedPanels.unrecorded.apply counters.recording steps ⟨0⟩ ⟨0⟩ = some after ∧
        scopedPanels.CountsWays ⟨0⟩ [⟨0⟩, ⟨2⟩] ⟨0⟩ after.client.2) ∧
    (scopedPanels.unrecorded.apply counters.recording 4 ⟨0⟩ ⟨0⟩).map
        (fun after => [⟨0⟩, ⟨1⟩, ⟨2⟩].map (fun widget => after.client.2.count (⟨0⟩, widget))) =
      some [1, 2, 3] := by
  have topsMade : ∀ top ∈ scopedPanels.topStyles ⟨0⟩, scopedPanels.styles.Made top := by
    decide +kernel
  have isTop : ⟨0⟩ ∈ scopedPanels.topStyles ⟨0⟩ := by decide +kernel
  have bodies : [⟨0⟩, ⟨2⟩, ⟨1⟩].map scopedPanels.styles.get? =
      [some ⟨.glob, .any, .chain none [.fresh ⟨2⟩]⟩, some ⟨.glob, .any, .chain (some ⟨1⟩) []⟩,
        some ⟨.glob, .any, .plain ⟨0⟩⟩] := by
    decide +kernel
  simp only [List.map_cons, List.map_nil, List.cons.injEq, and_true] at bodies
  obtain ⟨scope, chain, plain⟩ := bodies
  have owner : ∀ id ∈ [⟨0⟩, ⟨2⟩, ⟨1⟩], scopedPanels.styles.Owns ⟨0⟩ id → id = ⟨1⟩ := by
    simp only [List.forall_mem_cons, Owns, scope, chain, plain, Option.some.injEq]
    refine ⟨?_, ?_, fun _ => trivial, by simp⟩
    all_goals
      rintro ⟨style, rfl, body⟩
      cases body
  have nested : scopedPanels.styles.NestedTo ⟨0⟩ ⟨0⟩ [⟨2⟩] := by
    refine NestedTo.step (Nests.child (by decide +kernel)) (NestedTo.last ?_)
    exact Carries.wraps (show _ = some ⟨1⟩ by decide +kernel) (Carries.plain ⟨_, plain, rfl⟩)
  refine ⟨?_, by decide +kernel⟩
  obtain ⟨bound, counted⟩ := mutation_runs_once_per_way styled_scopedPanels isForest_scopedPanels
    holdsTree_scopedPanels onePlace_scopedPanels topsMade
    (fun _ _ _ mutation _ _ => counters_steady mutation)
  refine ⟨bound, fun steps enough => ?_⟩
  obtain ⟨after, applied, -, counts⟩ := counted steps enough
  refine ⟨after, applied, (counts ⟨0⟩ isTop [⟨2⟩] ⟨0⟩ nested ?_).1⟩
  intro one isOne other isOther oneOwns otherOwns
  rw [owner one isOne oneOwns, owner other isOther otherOwns]

end StyledTree.Scene
