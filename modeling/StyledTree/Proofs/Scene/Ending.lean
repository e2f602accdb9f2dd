import StyledTree.Proofs.Scene.Holding
import StyledTree.Proofs.Scene.Styled

set_option autoImplicit false

namespace StyledTree.Scene

variable {ε : Type}

/-- The tree of the widget is as it was and is kept, and all styles are what they were. -/
structure Leaves (widget : WidgetId) (before after : Scene ε) : Prop where
  tree : Forest.SameTree widget before.forest after.forest
  isForest : after.forest.IsForest
  holds : after.HoldsTree widget
  styles : ∀ id style, before.styles.get? id = some style → after.styles.get? id = some style

def Quiet (handlers : Handlers ε) (mutation : HandlerId) : Prop :=
  ∀ widget before, before.forest.IsForest → before.HoldsTree widget →
    ∃ after, handlers.run mutation widget before = some after ∧ Leaves widget before after

namespace Leaves

variable {root : WidgetId} {start scene after : Scene ε}

theorem of_agrees (leaves : Leaves root start scene) (agrees : Agrees scene after)
    (holds : after.HoldsTree root) : Leaves root start after where
  tree := agrees.forest ▸ leaves.tree
  isForest := agrees.forest ▸ leaves.isForest
  holds := holds
  styles := agrees.styles ▸ leaves.styles

theorem note (leaves : Leaves root start scene) (event : Event) :
    Leaves root start (scene.note event) :=
  leaves.of_agrees (Agrees.note scene event) leaves.holds

theorem sharesTree (leaves : Leaves root start scene) (isForest : start.forest.IsForest)
    {widget : WidgetId} (inTree : start.forest.Covers root widget) :
    scene.forest.SharesTree root widget :=
  leaves.tree.sharesTree isForest inTree.sharesTree

/-- What leaves the tree of a widget below the root leaves the tree of the root. -/
theorem trans (leaves : Leaves root start scene) (isForest : start.forest.IsForest)
    {widget : WidgetId} (inTree : start.forest.Covers root widget)
    (further : Leaves widget scene after) : Leaves root start after := by
  have shares := leaves.sharesTree isForest inTree
  have same : Forest.SameTree root scene.forest after.forest :=
    further.tree.of_sharesTree shares.symm
  refine ⟨leaves.tree.trans isForest same, further.isForest, ?_, ?_⟩
  · exact further.holds.of_sharesTree further.isForest
      (same.sharesTree leaves.isForest shares).symm
  · exact fun id style found => further.styles id style (leaves.styles id style found)

end Leaves

/-- Acting on one item after the other ends if each act ends and keeps what the next one needs. -/
theorem exists_foldlM {α β : Type} {keeps : α → Prop} {act : α → β → Option α} {items : List β}
    (each : ∀ item ∈ items, ∀ state, keeps state → ∃ next, act state item = some next ∧ keeps next)
    {state : α} (kept : keeps state) :
    ∃ last, items.foldlM act state = some last ∧ keeps last := by
  induction items generalizing state with
  | nil => exact ⟨state, rfl, kept⟩
  | cons item rest ih =>
      rw [List.forall_mem_cons] at each
      obtain ⟨next, acted, nextKept⟩ := each.1 state kept
      obtain ⟨last, others, lastKept⟩ := ih each.2 nextKept
      exact ⟨last, by rw [List.foldlM_cons, acted]; exact others, lastKept⟩

variable {handlers : Handlers ε} {root : WidgetId} {start : Scene ε}

/-- Walking down from a widget ends if the styles end on each widget: every level lies deeper below
the root, and the places of the forest bound its depth. -/
theorem walk_ends {evaluate : StyleId → WidgetId → Scene ε → Option (Scene ε)}
    {styles : List StyleId} (isForest : start.forest.IsForest)
    (each : ∀ widget, start.forest.Covers root widget → ∀ id ∈ styles, ∀ scene,
      Leaves root start scene → ∃ after, evaluate id widget scene = some after ∧
        Leaves root start after)
    {levels : Nat} {widget : WidgetId} (inTree : start.forest.Covers root widget)
    (enough : start.forest.nodes.size < levels + (start.forest.ancestors widget).length)
    {scene : Scene ε} (leaves : Leaves root start scene) :
    ∃ after, scene.walk evaluate styles levels widget = some after ∧ Leaves root start after := by
  induction levels generalizing widget scene with
  | zero =>
      have short : (start.forest.ancestors widget).length ≤ start.forest.nodes.size :=
        start.forest.length_climb_le _ widget
      omega
  | succ levels ih =>
      obtain ⟨middle, here, middleLeaves⟩ := exists_foldlM (each widget inTree) leaves
      have children : middle.forest.children widget = start.forest.children widget :=
        middleLeaves.tree.children widget inTree.sharesTree
      have heldLeaves : Leaves root start ((start.forest.children widget).foldl hold middle) :=
        middleLeaves.of_agrees (Agrees.holdAll middle _)
          (middleLeaves.holds.holdAll middleLeaves.isForest _)
      have visits : ∀ child ∈ start.forest.children widget, ∀ scene, Leaves root start scene →
          ∃ next, (scene.walk evaluate styles levels child).map
            (fun after => after.release child) = some next ∧ Leaves root start next := by
        intro child isChild scene leaves
        have linked := (isForest.mem_children_iff widget child).mp isChild
        have childInTree : start.forest.Covers root child :=
          inTree.trans (Or.inr (IsAbove.of_parent linked))
        have deeper : start.forest.nodes.size <
            levels + (start.forest.ancestors child).length := by
          rw [isForest.ancestors_of_parent linked, List.length_cons]
          omega
        obtain ⟨after, walked, afterLeaves⟩ := ih childInTree deeper leaves
        have below : IsAbove after.forest.parent? root child := by
          rw [afterLeaves.tree.isAbove_iff isForest childInTree.sharesTree]
          exact inTree.isAbove_child linked
        obtain ⟨agrees, holds⟩ := afterLeaves.holds.release afterLeaves.isForest below
        exact ⟨after.release child, by rw [walked]; rfl, afterLeaves.of_agrees agrees holds⟩
      obtain ⟨after, below, afterLeaves⟩ := exists_foldlM visits heldLeaves
      refine ⟨after, ?_, afterLeaves⟩
      simp only [walk, visitAll]
      rw [here, Option.bind_eq_bind, Option.bind_some, children]
      exact below

/-- Evaluating a style ends if running it ends. -/
theorem evaluate_ends {apply : StyleId → WidgetId → Scene ε → Option (Scene ε)} {id : StyleId}
    {widget : WidgetId}
    (ends : ∀ scene, Leaves root start scene →
      ∃ after, apply id widget scene = some after ∧ Leaves root start after)
    {scene : Scene ε} (leaves : Leaves root start scene) :
    ∃ after, scene.evaluate apply id widget = some after ∧ Leaves root start after := by
  rw [evaluate]
  split
  · exact ⟨scene, rfl, leaves⟩
  · split
    · exact ends _ (leaves.note _)
    · exact ⟨scene, rfl, leaves⟩

/-- Walking down once for each style ends if running each of them ends. -/
theorem walkEach_ends {apply : StyleId → WidgetId → Scene ε → Option (Scene ε)}
    {styles : List StyleId} (isForest : start.forest.IsForest)
    (ends : ∀ id ∈ styles, ∀ widget, start.forest.Covers root widget → ∀ scene,
      Leaves root start scene → ∃ after, apply id widget scene = some after ∧
        Leaves root start after)
    {levels : Nat} (room : start.forest.nodes.size < levels) {widget : WidgetId}
    (inTree : start.forest.Covers root widget) {scene : Scene ε}
    (leaves : Leaves root start scene) :
    ∃ after, styles.foldlM (fun scene id => scene.walk (evaluate apply) [id] levels widget) scene =
      some after ∧ Leaves root start after := by
  refine exists_foldlM (fun id member scene leaves => ?_) leaves
  apply walk_ends isForest _ inTree (by omega) leaves
  intro met metInTree other isOther scene leaves
  rw [List.mem_singleton] at isOther
  subst isOther
  exact evaluate_ends (ends other member met metInTree) leaves

/-- Running a style ends if chains may be nested deeper than its rank: whatever it links to has a
lower one. -/
theorem applyStyle_ends (isForest : start.forest.IsForest) (sound : start.styles.Sound)
    (quiet : ∀ id style mutation, start.styles.get? id = some style →
      style.body = .plain mutation → Quiet handlers mutation)
    {rank : StyleId → Nat}
    (falls : ∀ upper lower, lower ∈ start.styles.links upper → rank lower < rank upper)
    {levels nesting : Nat} (room : start.forest.nodes.size < levels) {id : StyleId}
    (made : start.styles.Made id) (deep : rank id < nesting) {widget : WidgetId}
    (inTree : start.forest.Covers root widget) {scene : Scene ε}
    (leaves : Leaves root start scene) :
    ∃ after, scene.applyStyle handlers levels nesting id widget = some after ∧
      Leaves root start after := by
  induction nesting generalizing id widget scene with
  | zero => omega
  | succ nesting ih =>
      obtain ⟨style, found⟩ := (start.styles.made_iff id).mp made
      have now := leaves.styles id style found
      have linked : ∀ lower, lower ∈ start.styles.links id →
          start.styles.Made lower ∧ rank lower < nesting := by
        intro lower member
        have fall := falls id lower member
        exact ⟨sound.made id lower member, by omega⟩
      simp only [applyStyle, now, foldlM_applyScoped]
      cases body : style.body with
      | plain mutation =>
          dsimp only
          split
          · have holds := leaves.holds.of_sharesTree leaves.isForest
              (leaves.sharesTree isForest inTree)
            obtain ⟨after, ran, further⟩ :=
              quiet id style mutation found body widget scene leaves.isForest holds
            exact ⟨after, ran, leaves.trans isForest inTree further⟩
          · exact ⟨_, rfl, leaves.note _⟩
      | chain wrapped sheets =>
          have ends : ∀ child ∈ start.styles.children id, ∀ met, start.forest.Covers root met →
              ∀ scene, Leaves root start scene →
                ∃ after, scene.applyStyle handlers levels nesting child met = some after ∧
                  Leaves root start after := by
            intro child isChild met metInTree scene leaves
            obtain ⟨childMade, childDeep⟩ :=
              linked child ((start.styles.mem_links id child).mpr (Or.inl isChild))
            exact ih childMade childDeep metInTree leaves
          have rest : ∀ middle, Leaves root start middle →
              ∃ after, (middle.styles.children id).foldlM (fun scene child =>
                scene.walk (evaluate (applyStyle handlers levels nesting)) [child] levels widget)
                  middle = some after ∧ Leaves root start after := by
            intro middle middleLeaves
            have held : middle.styles.children id = start.styles.children id := by
              rw [Styles.children, Styles.children, found, middleLeaves.styles id style found]
            rw [held]
            exact walkEach_ends isForest ends room inTree middleLeaves
          cases wrapped with
          | none => exact rest scene leaves
          | some inner =>
              have member : inner ∈ start.styles.links id := by
                rw [Styles.mem_links, Styles.wrapped?, found, Option.bind_some, Style.wrapped?, body]
                exact Or.inr rfl
              obtain ⟨middle, ran, middleLeaves⟩ :=
                ih (linked inner member).1 (linked inner member).2 inTree leaves
              dsimp only
              rw [ran]
              exact rest middle middleLeaves

/-- With more steps than there are styles and widgets, applying a sheet ends. -/
theorem apply_ends (isForest : start.forest.IsForest) (holds : start.HoldsTree root)
    (sound : start.styles.Sound) (acyclic : ∀ id, ¬ start.styles.LeadsTo id id)
    (quiet : ∀ id style mutation, start.styles.get? id = some style →
      style.body = .plain mutation → Quiet handlers mutation)
    {sheet : SheetId} (made : ∀ id ∈ start.topStyles sheet, start.styles.Made id) {steps : Nat}
    (deep : start.styles.items.size < steps) (room : start.forest.nodes.size < steps) :
    ∃ after, start.apply handlers steps sheet root = some after := by
  obtain ⟨rank, falls, bound⟩ := exists_rank start.styles.ids
    (fun upper lower member => (start.styles.mem_ids lower).mpr (sound.made upper lower member))
    acyclic
  simp only [apply, cascade, topStyles_recordRoot]
  have leaves : Leaves root start ((start.recordRoot sheet root).note
      (.sheetApplied (start.topStyles sheet).length
        ((start.recordRoot sheet root).describe root))) :=
    ⟨Forest.SameTree.refl root start.forest, isForest, holds, fun _ _ found => found⟩
  have each : ∀ widget, start.forest.Covers root widget → ∀ id ∈ start.topStyles sheet, ∀ scene,
      Leaves root start scene →
        ∃ after, scene.evaluate (applyStyle handlers steps steps) id widget = some after ∧
          Leaves root start after := by
    intro widget inTree id isTop scene leaves
    have low := (bound id).trans start.styles.card_ids_le
    exact evaluate_ends (fun _ later => applyStyle_ends isForest sound quiet falls room
      (made id isTop) (by omega) inTree later) leaves
  have enough : start.forest.nodes.size < steps + (start.forest.ancestors root).length := by omega
  obtain ⟨after, walked, -⟩ :=
    walk_ends isForest each (start.forest.covers_refl root) enough leaves
  exact ⟨after, walked⟩

/-- However styles were made and linked, child styles alone close no circle, and no style is reached from
itself at all just when no chain is reached from a chain that it wraps. Applying any sheet ends then. -/
theorem styled_circles_and_end {scene : Scene ε} (styled : Styled scene) :
    (∀ id, ¬ scene.styles.IsBelow id id) ∧
      ((∀ id, ¬ scene.styles.LeadsTo id id) ↔
        ∀ chain inner, scene.styles.wrapped? chain = some inner →
          scene.styles.isChain inner = true → ¬ scene.styles.LeadsTo inner chain) ∧
      ((∀ id, ¬ scene.styles.LeadsTo id id) →
        ∀ (handlers : Handlers ε) (sheet : SheetId) (root : WidgetId),
          scene.forest.IsForest → scene.HoldsTree root →
          (∀ id ∈ scene.topStyles sheet, scene.styles.Made id) →
          (∀ id style mutation, scene.styles.get? id = some style →
            style.body = .plain mutation → Quiet handlers mutation) →
          ∃ bound, ∀ steps, bound < steps →
            ∃ after, scene.apply handlers steps sheet root = some after) := by
  have sound := styled.sound
  refine ⟨sound.acyclic, Styles.acyclic_iff_of_isBelow sound.acyclic, ?_⟩
  intro acyclic handlers sheet root isForest holds made quiet
  refine ⟨max scene.styles.items.size scene.forest.nodes.size, ?_⟩
  intro steps enough
  exact apply_ends isForest holds sound acyclic quiet made (by omega) (by omega)

def counters : Handlers Nat where
  run _ _ scene := some (scene.withClient (fun count => count + 1))
  notify _ _ _ scene := some scene
  produce _ _ := none

theorem counters_quiet (mutation : HandlerId) : Quiet counters mutation :=
  fun widget before isForest holds => ⟨_, rfl,
    ⟨Forest.SameTree.refl widget before.forest, isForest, holds, fun _ _ found => found⟩⟩

def wrappedScope : Scene Nat :=
  let panel := ((Scene.fresh 0).spawn .panel).2.addSheet.2
  let scope := (panel.addStyle (.scope .glob)).2
  let counted := (scope.addStyle ⟨.glob, .any, .plain ⟨0⟩⟩).2
  ((counted.nest ⟨0⟩ ⟨1⟩).2.wrap ⟨0⟩).2.register ⟨0⟩ ⟨3⟩

theorem styled_wrappedScope : Styled wrappedScope := by
  have panel : Styled (((Scene.fresh 0).spawn .panel).2.addSheet.2) := Styled.none rfl
  have counted := (panel.scope .glob).plain .glob .any ⟨0⟩
  have made : (((((Scene.fresh 0).spawn .panel).2.addSheet.2).addStyle
      (.scope .glob)).2.addStyle ⟨.glob, .any, .plain ⟨0⟩⟩).2.styles.Made ⟨1⟩ := by
    show 1 < 2
    decide
  exact ((counted.nest ⟨0⟩ made).wrap ⟨0⟩).elsewhere rfl

/-- The chain that wraps the scope leads to it, to the chain in it and to the style in that. -/
theorem wrappedScope_ends :
    ∃ bound, ∀ steps, bound < steps →
      ∃ after, wrappedScope.apply counters steps ⟨0⟩ ⟨0⟩ = some after := by
  have made : ∀ id ∈ wrappedScope.topStyles ⟨0⟩, id ∈ wrappedScope.styles.ids := by
    decide +kernel
  have falls : ∀ upper ∈ wrappedScope.styles.ids, ∀ lower ∈ wrappedScope.styles.links upper,
      [2, 0, 1, 3].getD lower.index 0 < [2, 0, 1, 3].getD upper.index 0 := by
    decide +kernel
  have acyclic : ∀ id, ¬ wrappedScope.styles.LeadsTo id id := by
    apply acyclic_of_falls (fun id : StyleId => [2, 0, 1, 3].getD id.index 0)
    intro upper lower member
    have upperMade := Styles.made_of_isChain (Styles.isChain_of_mem_links member)
    exact falls upper ((wrappedScope.styles.mem_ids upper).mpr upperMade) lower member
  have isForest : wrappedScope.forest.IsForest := Forest.isForest_empty.create .panel
  have holds : wrappedScope.HoldsTree ⟨0⟩ := by
    rintro upper (rfl | above)
    · decide +kernel
    · exact absurd above (IsAbove.not_of_root (by decide +kernel))
  exact (styled_circles_and_end styled_wrappedScope).2.2 acyclic counters ⟨0⟩ ⟨0⟩ isForest holds
    (fun id isTop => (wrappedScope.styles.mem_ids id).mp (made id isTop))
    (fun _ _ mutation _ _ => counters_quiet mutation)

/-- A panel, and a sheet with a scope that holds a chain that wraps the scope. -/
def selfWrapped : Scene Unit :=
  let panel := ((Scene.fresh ()).spawn .panel).2.addSheet.2
  let wrapped := ((panel.addStyle (.scope .glob)).2.wrap ⟨0⟩).2
  (wrapped.nest ⟨0⟩ ⟨1⟩).2.register ⟨0⟩ ⟨0⟩

/-- A style that is accepted and does not end on a widget keeps a walk from there from ending. -/
theorem walk_eq_none {apply : StyleId → WidgetId → Scene ε → Option (Scene ε)} {id : StyleId}
    (style : Style) {widget : WidgetId} {scene : Scene ε} (found : scene.styles.get? id = some style)
    (accepted : scene.accepts style widget = true)
    (stuck : apply id widget
      (scene.note (.styleMatched style.selector.text (scene.describe widget))) = none)
    (levels : Nat) : scene.walk (evaluate apply) [id] levels widget = none := by
  cases levels with
  | zero => rfl
  | succ levels =>
      have here : scene.evaluate apply id widget = none := by
        simp only [evaluate, found, accepted, if_true, stuck]
      simp only [walk, List.foldlM_cons, here]
      rfl

/-- Neither of the two styles ever ends, however many steps there are. -/
theorem applyStyle_selfWrapped (handlers : Handlers Unit) (levels nesting : Nat) :
    ∀ scene : Scene Unit, scene.forest = selfWrapped.forest → scene.styles = selfWrapped.styles →
      scene.applyStyle handlers levels nesting ⟨0⟩ ⟨0⟩ = none ∧
        scene.applyStyle handlers levels nesting ⟨1⟩ ⟨0⟩ = none := by
  induction nesting with
  | zero => exact fun _ _ _ => ⟨rfl, rfl⟩
  | succ nesting ih =>
      intro scene forest styles
      have scope : scene.styles.get? ⟨0⟩ = some ⟨.glob, .any, .chain none [.fresh ⟨1⟩]⟩ := by
        rw [styles]
        decide +kernel
      have wrapper : scene.styles.get? ⟨1⟩ = some ⟨.glob, .any, .chain (some ⟨0⟩) []⟩ := by
        rw [styles]
        decide +kernel
      have children : scene.styles.children ⟨0⟩ = [⟨1⟩] := by
        rw [styles]
        decide +kernel
      have accepted : scene.accepts ⟨.glob, .any, .chain (some ⟨0⟩) []⟩ ⟨0⟩ = true := by
        rw [accepts, forest]
        decide +kernel
      have later := ih (scene.note (.styleMatched Selector.glob.text (scene.describe ⟨0⟩)))
        forest styles
      constructor
      · simp only [applyStyle, foldlM_applyScoped, scope, Option.bind_eq_bind, Option.bind_some, children,
          List.foldlM_cons, walk_eq_none _ wrapper accepted later.2, Option.bind_none]
      · simp only [applyStyle, wrapper, (ih scene forest styles).1]
        rfl

/-- The check before nesting does not look at what chains wrap: a scope takes the chain that wraps it,
leads to itself then, and applying it never ends. -/
theorem selfWrapped_never_ends :
    Styled selfWrapped ∧ selfWrapped.styles.LeadsTo ⟨0⟩ ⟨0⟩ ∧
      selfWrapped.forest.IsForest ∧ selfWrapped.HoldsTree ⟨0⟩ ∧
        ∀ handlers steps, selfWrapped.apply handlers steps ⟨0⟩ ⟨0⟩ = none := by
  refine ⟨?_, ?_, Forest.isForest_empty.create .panel, ?_, ?_⟩
  · have panel : Styled (((Scene.fresh ()).spawn .panel).2.addSheet.2) := Styled.none rfl
    have wrapped := (panel.scope .glob).wrap ⟨0⟩
    have made : (((((Scene.fresh ()).spawn .panel).2.addSheet.2).addStyle
        (.scope .glob)).2.wrap ⟨0⟩).2.styles.Made ⟨1⟩ := by
      show 1 < 2
      decide
    exact (wrapped.nest ⟨0⟩ made).elsewhere rfl
  · have down : ⟨1⟩ ∈ selfWrapped.styles.links ⟨0⟩ := by decide +kernel
    have up : ⟨0⟩ ∈ selfWrapped.styles.links ⟨1⟩ := by decide +kernel
    exact Relation.TransGen.tail (Relation.TransGen.single down) up
  · rintro upper (rfl | above)
    · decide +kernel
    · exact absurd above (IsAbove.not_of_root (by decide +kernel))
  · intro handlers steps
    have tops : selfWrapped.topStyles ⟨0⟩ = [⟨0⟩] := by decide +kernel
    have scope : selfWrapped.styles.get? ⟨0⟩ = some ⟨.glob, .any, .chain none [.fresh ⟨1⟩]⟩ := by
      decide +kernel
    have accepted : selfWrapped.accepts ⟨.glob, .any, .chain none [.fresh ⟨1⟩]⟩ ⟨0⟩ = true := by
      decide +kernel
    have stuck := applyStyle_selfWrapped handlers steps steps
    simp only [apply, cascade, topStyles_recordRoot, tops]
    refine walk_eq_none ⟨.glob, .any, .chain none [.fresh ⟨1⟩]⟩ ?_ ?_ ?_ steps
    · exact scope
    · exact accepted
    · refine (stuck _ ?_ ?_).1 <;> rfl

end StyledTree.Scene
