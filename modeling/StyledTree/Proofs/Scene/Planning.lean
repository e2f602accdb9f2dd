import StyledTree.Proofs.Scene.Freezing
import StyledTree.Proofs.Style.Carrying

set_option autoImplicit false

namespace StyledTree.Scene

variable {ε : Type}

abbrev Run := HandlerId × WidgetId

/-! Plans. -/

def andThen {β : Type} (first second : Option (List β)) : Option (List β) :=
  first.bind fun one => second.map fun other => one ++ other

def gather {α β : Type} (plan : α → Option (List β)) : List α → Option (List β)
  | [] => some []
  | item :: rest => andThen (plan item) (gather plan rest)

def meets (scene : Scene ε) (id : StyleId) (widget : WidgetId) : Bool :=
  (scene.styles.get? id).any (fun style => scene.accepts style widget)

/-- The plan for a style on a widget: nothing unless the style accepts the widget. -/
def planned (scene : Scene ε) (plan : StyleId → WidgetId → Option (List Run)) (id : StyleId)
    (widget : WidgetId) : Option (List Run) :=
  if scene.meets id widget then plan id widget else some []

def cascadePlan (scene : Scene ε) (plan : StyleId → WidgetId → Option (List Run))
    (styles : List StyleId) (widget : WidgetId) : Option (List Run) :=
  gather (fun met => gather (fun id => scene.planned plan id met) styles)
    (widget :: scene.forest.descendants widget)

/-- The plan for a style that is known to accept the widget, with chains nested up to `nesting`
deep. -/
def stylePlan (scene : Scene ε) : Nat → StyleId → WidgetId → Option (List Run)
  | 0, _, _ => none
  | nesting + 1, id, widget =>
    match scene.styles.get? id with
    | none => some []
    | some style =>
      match style.body with
      | .plain mutation =>
        some (if (scene.forest.kind? widget).any style.target.accepts then [(mutation, widget)]
          else [])
      | .chain wrapped sheets =>
        andThen (gather (fun inner => stylePlan scene nesting inner widget) wrapped.toList)
          (gather (fun child => scene.cascadePlan (stylePlan scene nesting) [child] widget)
            (sheets.map ChildSheet.style))

def sheetPlan (scene : Scene ε) (steps : Nat) (sheet : SheetId) (root : WidgetId) :
    Option (List Run) :=
  scene.cascadePlan (scene.stylePlan steps) (scene.topStyles sheet) root

section Gathering

variable {α β : Type}

theorem andThen_eq_some_iff {first second : Option (List β)} {whole : List β} :
    andThen first second = some whole ↔
      ∃ one other, first = some one ∧ second = some other ∧ whole = one ++ other := by
  rw [andThen, Option.bind_eq_some_iff]
  simp only [Option.map_eq_some_iff]
  constructor
  · rintro ⟨one, isOne, other, isOther, rfl⟩
    exact ⟨one, other, isOne, isOther, rfl⟩
  · rintro ⟨one, other, isOne, isOther, rfl⟩
    exact ⟨one, isOne, other, isOther, rfl⟩

theorem andThen_assoc (first second third : Option (List β)) :
    andThen (andThen first second) third = andThen first (andThen second third) := by
  cases first with
  | none => rfl
  | some one =>
      cases second with
      | none => rfl
      | some other =>
          cases third with
          | none => rfl
          | some last => exact congrArg some (List.append_assoc one other last)

theorem andThen_nil (plan : Option (List β)) : andThen plan (some []) = plan := by
  cases plan with
  | none => rfl
  | some items => exact congrArg some (List.append_nil items)

theorem nil_andThen (plan : Option (List β)) : andThen (some []) plan = plan := by
  cases plan <;> rfl

theorem gather_singleton (plan : α → Option (List β)) (item : α) :
    gather plan [item] = plan item :=
  andThen_nil (plan item)

theorem gather_append (plan : α → Option (List β)) (first second : List α) :
    gather plan (first ++ second) = andThen (gather plan first) (gather plan second) := by
  induction first with
  | nil => exact (nil_andThen _).symm
  | cons item rest ih => rw [List.cons_append, gather, ih, gather, andThen_assoc]

/-- Everything that is gathered was planned for one of the items. -/
theorem exists_of_mem_gather {plan : α → Option (List β)} {items : List α} {whole : List β}
    (gathered : gather plan items = some whole) {met : β} (member : met ∈ whole) :
    ∃ item ∈ items, ∃ part, plan item = some part ∧ met ∈ part := by
  induction items generalizing whole with
  | nil =>
      cases gathered
      cases member
  | cons item rest ih =>
      obtain ⟨one, other, isOne, isOther, rfl⟩ := andThen_eq_some_iff.mp gathered
      rcases List.mem_append.mp member with inOne | inOther
      · exact ⟨item, List.mem_cons_self, one, isOne, inOne⟩
      · obtain ⟨later, isLater, found⟩ := ih isOther inOther
        exact ⟨later, List.mem_cons_of_mem item isLater, found⟩

end Gathering

/-! What is planned. -/

section Members

variable {scene : Scene ε}

/-- A run that is planned for some styles on a widget is planned for one that accepts it. -/
theorem exists_of_mem_turn {plan : StyleId → WidgetId → Option (List Run)} {styles : List StyleId}
    {widget : WidgetId} {runs : List Run}
    (isPlan : gather (fun id => scene.planned plan id widget) styles = some runs) {run : Run}
    (member : run ∈ runs) :
    ∃ id ∈ styles, scene.meets id widget = true ∧ ∃ part, plan id widget = some part ∧ run ∈ part := by
  obtain ⟨id, isStyle, part, isPart, inPart⟩ := exists_of_mem_gather isPlan member
  rw [planned] at isPart
  split at isPart
  · next meets => exact ⟨id, isStyle, meets, part, isPart, inPart⟩
  · cases isPart
    cases inPart

/-- A planned run is planned for one of the styles on a widget in the scope that this style accepts. -/
theorem exists_of_mem_cascadePlan (isForest : scene.forest.IsForest)
    {plan : StyleId → WidgetId → Option (List Run)} {styles : List StyleId} {scope : WidgetId}
    {runs : List Run} (isPlan : scene.cascadePlan plan styles scope = some runs) {run : Run}
    (member : run ∈ runs) :
    ∃ id ∈ styles, ∃ widget, scene.forest.Covers scope widget ∧ scene.meets id widget = true ∧
      ∃ part, plan id widget = some part ∧ run ∈ part := by
  obtain ⟨widget, inScope, here, isHere, inHere⟩ := exists_of_mem_gather isPlan member
  obtain ⟨id, isStyle, meets, planned⟩ := exists_of_mem_turn isHere inHere
  exact ⟨id, isStyle, widget, isForest.mem_subtree_iff.mp inScope, meets, planned⟩

theorem exists_of_meets {id : StyleId} {widget : WidgetId} (meets : scene.meets id widget = true) :
    ∃ style, scene.styles.get? id = some style ∧
      (scene.forest.kind? widget).any style.target.accepts = true := by
  rw [Scene.meets, Option.any_eq_true] at meets
  obtain ⟨style, found, accepted⟩ := meets
  rw [accepts, Bool.and_eq_true] at accepted
  exact ⟨style, found, accepted.1⟩

/-- The plan for a plain style is its mutation, if its target accepts the widget. -/
theorem stylePlan_plain {nesting : Nat} {id : StyleId} {widget : WidgetId} {style : Style}
    {mutation : HandlerId} (found : scene.styles.get? id = some style)
    (body : style.body = .plain mutation) :
    scene.stylePlan (nesting + 1) id widget =
      some (if (scene.forest.kind? widget).any style.target.accepts then [(mutation, widget)]
        else []) := by
  rw [stylePlan, found]
  dsimp only
  rw [body]

/-- The plan for a chain is that for what it wraps and then that for each of its child styles. -/
theorem stylePlan_chain {nesting : Nat} {id : StyleId} {widget : WidgetId} {style : Style}
    {wrapped : Option StyleId} {sheets : List ChildSheet} (found : scene.styles.get? id = some style)
    (body : style.body = .chain wrapped sheets) :
    scene.stylePlan (nesting + 1) id widget =
      andThen (gather (fun inner => scene.stylePlan nesting inner widget) wrapped.toList)
        (gather (fun child => scene.cascadePlan (scene.stylePlan nesting) [child] widget)
          (sheets.map ChildSheet.style)) := by
  rw [stylePlan, found]
  dsimp only
  rw [body]

/-- The mutations that a style runs are those that it bears, and it runs them at and below the widget
that it is run on. -/
theorem of_mem_stylePlan (isForest : scene.forest.IsForest) {nesting : Nat} {id : StyleId}
    {widget met : WidgetId} {mutation : HandlerId} {runs : List Run}
    (isPlan : scene.stylePlan nesting id widget = some runs) (member : (mutation, met) ∈ runs) :
    scene.styles.Bears mutation id ∧ scene.forest.Covers widget met := by
  induction nesting generalizing id widget runs with
  | zero => cases isPlan
  | succ nesting ih =>
      cases found : scene.styles.get? id with
      | none =>
          rw [stylePlan, found] at isPlan
          cases isPlan
          cases member
      | some style =>
          cases body : style.body with
          | plain other =>
              rw [stylePlan_plain found body] at isPlan
              rw [← Option.some.inj isPlan] at member
              split at member
              · rw [List.mem_singleton, Prod.mk.injEq] at member
                obtain ⟨rfl, rfl⟩ := member
                exact ⟨⟨id, Relation.ReflTransGen.refl, style, found, body⟩,
                  scene.forest.covers_refl met⟩
              · cases member
          | chain wrapped sheets =>
              rw [stylePlan_chain found body] at isPlan
              obtain ⟨first, others, isFirst, isOthers, rfl⟩ := andThen_eq_some_iff.mp isPlan
              rcases List.mem_append.mp member with inFirst | inOthers
              · obtain ⟨inner, isInner, part, isPart, inPart⟩ :=
                  exists_of_mem_gather isFirst inFirst
                obtain ⟨bears, covers⟩ := ih isPart inPart
                have link := (Styles.mem_links_of_chain found body).mpr
                  (Or.inr (Option.mem_toList.mp isInner))
                exact ⟨bears.of_link link, covers⟩
              · obtain ⟨child, isChild, part, isPart, inPart⟩ :=
                  exists_of_mem_gather isOthers inOthers
                obtain ⟨lower, isLower, below, covers, -, belowPart, isBelow, inBelow⟩ :=
                  exists_of_mem_cascadePlan isForest isPart inPart
                obtain rfl := List.mem_singleton.mp isLower
                obtain ⟨bears, further⟩ := ih isBelow inBelow
                have link := (Styles.mem_links_of_chain found body).mpr (Or.inl isChild)
                exact ⟨bears.of_link link, covers.trans further⟩

/-- The mutations that a child style runs in a scope are those that it bears. -/
theorem bears_of_mem_cascadePlan (isForest : scene.forest.IsForest) {nesting : Nat}
    {child : StyleId} {scope met : WidgetId} {mutation : HandlerId} {runs : List Run}
    (isPlan : scene.cascadePlan (scene.stylePlan nesting) [child] scope = some runs)
    (member : (mutation, met) ∈ runs) : scene.styles.Bears mutation child := by
  obtain ⟨lower, isLower, widget, -, -, part, isPart, inPart⟩ :=
    exists_of_mem_cascadePlan isForest isPlan member
  obtain rfl := List.mem_singleton.mp isLower
  exact (of_mem_stylePlan isForest isPart inPart).1

end Members

/-! There is a plan, and it stays the plan when chains may be nested deeper. -/

section Depth

variable {scene : Scene ε}

theorem exists_gather {α β : Type} {plan : α → Option (List β)} {items : List α}
    (each : ∀ item ∈ items, ∃ part, plan item = some part) :
    ∃ whole, gather plan items = some whole := by
  induction items with
  | nil => exact ⟨[], rfl⟩
  | cons item rest ih =>
      rw [List.forall_mem_cons] at each
      obtain ⟨part, isPart⟩ := each.1
      obtain ⟨whole, isWhole⟩ := ih each.2
      exact ⟨part ++ whole, andThen_eq_some_iff.mpr ⟨part, whole, isPart, isWhole, rfl⟩⟩

theorem gather_mono {α β : Type} {plan other : α → Option (List β)} {items : List α}
    (each : ∀ item ∈ items, ∀ part, plan item = some part → other item = some part)
    {whole : List β} (gathered : gather plan items = some whole) :
    gather other items = some whole := by
  induction items generalizing whole with
  | nil => exact gathered
  | cons item rest ih =>
      rw [List.forall_mem_cons] at each
      obtain ⟨part, later, isPart, isLater, rfl⟩ := andThen_eq_some_iff.mp gathered
      exact andThen_eq_some_iff.mpr ⟨part, later, each.1 part isPart, ih each.2 isLater, rfl⟩

theorem exists_cascadePlan {plan : StyleId → WidgetId → Option (List Run)} {styles : List StyleId}
    (each : ∀ id ∈ styles, ∀ widget, ∃ part, plan id widget = some part) (scope : WidgetId) :
    ∃ runs, scene.cascadePlan plan styles scope = some runs := by
  refine exists_gather (fun widget _ => exists_gather (fun id member => ?_))
  rw [planned]
  split
  · exact each id member widget
  · exact ⟨[], rfl⟩

theorem cascadePlan_mono {plan other : StyleId → WidgetId → Option (List Run)}
    (each : ∀ id widget part, plan id widget = some part → other id widget = some part)
    {styles : List StyleId} {scope : WidgetId} {runs : List Run}
    (isPlan : scene.cascadePlan plan styles scope = some runs) :
    scene.cascadePlan other styles scope = some runs := by
  refine gather_mono (fun widget _ part isPart => gather_mono (fun id _ one isOne => ?_) isPart) isPlan
  rw [planned] at isOne ⊢
  split
  · next meets => exact each id widget one (by rwa [if_pos meets] at isOne)
  · next misses => rwa [if_neg misses] at isOne

/-- There is a plan for a style if chains may be nested as deep as they are. -/
theorem exists_stylePlan {nesting : Nat} {id : StyleId}
    (nests : scene.styles.NestsWithin nesting id) (widget : WidgetId) :
    ∃ runs, scene.stylePlan nesting id widget = some runs := by
  induction nesting generalizing id widget with
  | zero => cases nests
  | succ nesting ih =>
      cases found : scene.styles.get? id with
      | none =>
          rw [stylePlan, found]
          exact ⟨[], rfl⟩
      | some style =>
          cases body : style.body with
          | plain mutation => exact ⟨_, stylePlan_plain found body⟩
          | chain wrapped sheets =>
              have linked : ∀ lower, lower ∈ sheets.map ChildSheet.style ∨ wrapped = some lower →
                  scene.styles.NestsWithin nesting lower :=
                fun lower member => nests lower ((Styles.mem_links_of_chain found body).mpr member)
              obtain ⟨first, isFirst⟩ := exists_gather (fun inner isInner =>
                ih (linked inner (Or.inr (Option.mem_toList.mp isInner))) widget)
              obtain ⟨others, isOthers⟩ := exists_gather (fun child isChild => exists_cascadePlan
                (List.forall_mem_singleton.mpr (ih (linked child (Or.inl isChild)))) widget)
              rw [stylePlan_chain found body]
              exact ⟨first ++ others,
                andThen_eq_some_iff.mpr ⟨first, others, isFirst, isOthers, rfl⟩⟩

theorem stylePlan_mono {nesting deeper : Nat} (deep : nesting ≤ deeper) {id : StyleId}
    {widget : WidgetId} {runs : List Run}
    (isPlan : scene.stylePlan nesting id widget = some runs) :
    scene.stylePlan deeper id widget = some runs := by
  induction nesting generalizing deeper id widget runs with
  | zero => cases isPlan
  | succ nesting ih =>
      cases deeper with
      | zero => omega
      | succ deeper =>
          have more : nesting ≤ deeper := by omega
          cases found : scene.styles.get? id with
          | none =>
              rw [stylePlan, found] at isPlan ⊢
              exact isPlan
          | some style =>
              cases body : style.body with
              | plain mutation =>
                  rw [stylePlan_plain found body] at isPlan ⊢
                  exact isPlan
              | chain wrapped sheets =>
                  rw [stylePlan_chain found body] at isPlan ⊢
                  obtain ⟨first, others, isFirst, isOthers, rfl⟩ := andThen_eq_some_iff.mp isPlan
                  refine andThen_eq_some_iff.mpr ⟨first, others, ?_, ?_, rfl⟩
                  · exact gather_mono (fun inner _ _ isPart => ih more isPart) isFirst
                  · exact gather_mono (fun child _ _ isPart =>
                      cascadePlan_mono (fun _ _ _ isOne => ih more isOne) isPart) isOthers

theorem exists_sheetPlan {sheet : SheetId} {steps : Nat}
    (nests : ∀ top ∈ scene.topStyles sheet, scene.styles.NestsWithin steps top) (root : WidgetId) :
    ∃ runs, scene.sheetPlan steps sheet root = some runs :=
  exists_cascadePlan (fun top isTop => exists_stylePlan (nests top isTop)) root

theorem sheetPlan_mono {sheet : SheetId} {steps more : Nat} (enough : steps ≤ more)
    {root : WidgetId} {runs : List Run} (isPlan : scene.sheetPlan steps sheet root = some runs) :
    scene.sheetPlan more sheet root = some runs :=
  cascadePlan_mono (fun _ _ _ isPart => stylePlan_mono enough isPart) isPlan

end Depth

/-! What following a plan needs. -/

structure SameStage (before after : Scene ε) : Prop where
  forest : after.forest = before.forest
  styles : after.styles = before.styles
  client : after.client = before.client
  topStyles : ∀ sheet, after.topStyles sheet = before.topStyles sheet

theorem Agrees.sameStage {before after : Scene ε} (agrees : Agrees before after) :
    SameStage before after where
  forest := agrees.forest
  styles := agrees.styles
  client := agrees.client
  topStyles sheet := by rw [Scene.topStyles, Scene.topStyles, sheet?, sheet?, agrees.sheets]

theorem Freezes.of_sameStage {root : WidgetId} {start before after : Scene ε}
    (freezes : Freezes root start before) (same : SameStage before after)
    (holds : after.HoldsTree root) : Freezes root start after where
  leaves :=
    ⟨same.forest ▸ freezes.leaves.tree, same.forest ▸ freezes.leaves.isForest, holds,
      same.styles ▸ freezes.leaves.styles⟩
  marks := same.forest ▸ freezes.marks

/-- The styles that a sheet may run were made, and each of their mutations ends and takes a scene that
some runs led to to one that these runs and the run of the mutation lead to. All of these scenes have
the tree of the root as styles saw it at the start. -/
structure Tracks (handlers : Handlers ε) (used : StyleId → Prop) (root : WidgetId) (start : Scene ε)
    (led : List Run → Scene ε → Prop) : Prop where
  isForest : start.forest.IsForest
  made : ∀ id, used id → start.styles.Made id
  links : ∀ upper lower, used upper → lower ∈ start.styles.links upper → used lower
  freezes : ∀ {done scene}, led done scene → Freezes root start scene
  elsewhere : ∀ {done scene after}, led done scene → SameStage scene after →
    after.HoldsTree root → led done after
  run : ∀ {done scene id style mutation widget}, used id → start.styles.get? id = some style →
    style.body = .plain mutation → start.forest.Covers root widget → led done scene →
      ∃ after, handlers.run mutation widget scene = some after ∧ led (done ++ [(mutation, widget)]) after

/-- The result is what a plan leads to after some runs, and there is none without a plan. -/
def Follows (led : List Run → Scene ε → Prop) (done : List Run) :
    Option (List Run) → Option (Scene ε) → Prop
  | none, result => result = none
  | some runs, result => ∃ after, result = some after ∧ led (done ++ runs) after

namespace Follows

variable {led : List Run → Scene ε → Prop} {done : List Run} {scene : Scene ε}

theorem nothing (start : led done scene) : Follows led done (some []) (some scene) :=
  ⟨scene, rfl, by rwa [List.append_nil]⟩

theorem bind {first second : Option (List Run)} {result : Option (Scene ε)}
    {next : Scene ε → Option (Scene ε)} (one : Follows led done first result)
    (other : ∀ runs after, led (done ++ runs) after →
      Follows led (done ++ runs) second (next after)) :
    Follows led done (andThen first second) (result.bind next) := by
  cases first with
  | none =>
      have failed : result = none := one
      rw [failed]
      exact rfl
  | some runs =>
      obtain ⟨after, rfl, leads⟩ := one
      have later := other runs after leads
      cases second with
      | none => exact later
      | some rest =>
          obtain ⟨last, ran, lastLed⟩ := later
          exact ⟨last, ran, by rwa [← List.append_assoc]⟩

theorem map {plan : Option (List Run)} {result : Option (Scene ε)} {change : Scene ε → Scene ε}
    (follows : Follows led done plan result)
    (kept : ∀ runs after, led runs after → led runs (change after)) :
    Follows led done plan (result.map change) := by
  cases plan with
  | none =>
      have failed : result = none := follows
      rw [failed]
      exact rfl
  | some runs =>
      obtain ⟨after, rfl, leads⟩ := follows
      exact ⟨change after, rfl, kept _ _ leads⟩

/-- Acting on one item after the other follows what is gathered for them. -/
theorem foldlM {α : Type} {plan : α → Option (List Run)} {act : Scene ε → α → Option (Scene ε)}
    {items : List α}
    (each : ∀ item ∈ items, ∀ done scene, led done scene →
      Follows led done (plan item) (act scene item)) (start : led done scene) :
    Follows led done (gather plan items) (items.foldlM act scene) := by
  induction items generalizing done scene with
  | nil => exact nothing start
  | cons item rest ih =>
      rw [List.forall_mem_cons] at each
      rw [List.foldlM_cons]
      exact (each.1 done scene start).bind (fun _ _ leads => ih each.2 leads)

end Follows

namespace Tracks

variable {handlers : Handlers ε} {used : StyleId → Prop} {root widget : WidgetId} {start : Scene ε}
  {led : List Run → Scene ε → Prop} {done : List Run} {scene : Scene ε}

theorem note (tracks : Tracks handlers used root start led) (leads : led done scene)
    (event : Event) : led done (scene.note event) :=
  tracks.elsewhere leads (Agrees.note scene event).sameStage (tracks.freezes leads).leaves.holds

theorem get?_eq (tracks : Tracks handlers used root start led) (leads : led done scene)
    {id : StyleId} (isUsed : used id) : scene.styles.get? id = start.styles.get? id := by
  obtain ⟨style, found⟩ := (start.styles.made_iff id).mp (tracks.made id isUsed)
  rw [found, (tracks.freezes leads).leaves.styles id style found]

/-! One widget. -/

theorem evaluate_follows (tracks : Tracks handlers used root start led)
    {apply : StyleId → WidgetId → Scene ε → Option (Scene ε)}
    {plan : StyleId → WidgetId → Option (List Run)} {id : StyleId} (isUsed : used id)
    (inTree : start.forest.Covers root widget)
    (applied : ∀ done scene, led done scene →
      Follows led done (plan id widget) (apply id widget scene)) (leads : led done scene) :
    Follows led done (start.planned plan id widget) (scene.evaluate apply id widget) := by
  rw [evaluate, planned, meets, tracks.get?_eq leads isUsed]
  cases start.styles.get? id with
  | none => exact Follows.nothing leads
  | some style =>
      have same := (tracks.freezes leads).accepts tracks.isForest style inTree
      rw [Option.any_some]
      dsimp only
      rw [same]
      split
      · exact applied done _ (tracks.note leads _)
      · exact Follows.nothing leads

/-! Everything below a widget. -/

section Walking

variable {evaluate : StyleId → WidgetId → Scene ε → Option (Scene ε)}
  {plan : StyleId → WidgetId → Option (List Run)} {styles : List StyleId}

/-- A walk follows what is planned for the widget and for all that is below it, if the visits of the
children follow what is planned for that. -/
theorem walk_follows_of_visits (tracks : Tracks handlers used root start led)
    (each : ∀ id ∈ styles, ∀ done scene, led done scene →
      Follows led done (plan id widget) (evaluate id widget scene))
    (inTree : start.forest.Covers root widget) {levels : Nat} {below : Option (List Run)}
    (visits : ∀ done scene, led done scene → Follows led done below
      ((start.forest.children widget).foldlM
        (fun scene child => (scene.walk evaluate styles levels child).map
          (fun after => after.release child)) scene))
    (leads : led done scene) :
    Follows led done (andThen (gather (fun id => plan id widget) styles) below)
      (scene.walk evaluate styles (levels + 1) widget) := by
  rw [walk]
  refine (Follows.foldlM each leads).bind (fun runs after later => ?_)
  have frozen := tracks.freezes later
  rw [visitAll, frozen.children inTree]
  refine visits _ _ (tracks.elsewhere later (Agrees.holdAll after _).sameStage ?_)
  exact frozen.leaves.holds.holdAll frozen.leaves.isForest _

/-- Visiting some widgets below the root, and all that is below them, follows what is planned for
each of them. -/
theorem visits_follow (tracks : Tracks handlers used root start led)
    (each : ∀ widget, start.forest.Covers root widget → ∀ id ∈ styles, ∀ done scene,
      led done scene → Follows led done (plan id widget) (evaluate id widget scene))
    {widgets listed : List WidgetId} (lists : Enumerates start.forest.children widgets listed)
    {levels : Nat}
    (room : ∀ widget ∈ widgets, IsAbove start.forest.parent? root widget ∧
      start.forest.nodes.size < levels + (start.forest.ancestors widget).length)
    (leads : led done scene) :
    Follows led done (gather (fun widget => gather (fun id => plan id widget) styles) listed)
      (widgets.foldlM (fun scene widget => (scene.walk evaluate styles levels widget).map
        (fun after => after.release widget)) scene) := by
  induction lists generalizing levels done scene with
  | nil => exact Follows.nothing leads
  | @cons widget rest below others _ _ ihBelow ihOthers =>
      rw [List.forall_mem_cons] at room
      obtain ⟨⟨isBelow, deep⟩, others⟩ := room
      have inTree : start.forest.Covers root widget := Or.inr isBelow
      cases levels with
      | zero =>
          have short : (start.forest.ancestors widget).length ≤ start.forest.nodes.size :=
            start.forest.length_climb_le _ widget
          omega
      | succ levels =>
          have deeper : ∀ child ∈ start.forest.children widget,
              IsAbove start.forest.parent? root child ∧
                start.forest.nodes.size < levels + (start.forest.ancestors child).length := by
            intro child isChild
            have linked := (tracks.isForest.mem_children_iff widget child).mp isChild
            refine ⟨IsAbove.of_above_parent linked isBelow, ?_⟩
            rw [tracks.isForest.ancestors_of_parent linked, List.length_cons]
            omega
          have walked := tracks.walk_follows_of_visits (each widget inTree) inTree
            (fun _ _ later => ihBelow deeper later) leads
          rw [gather, gather_append, ← andThen_assoc, List.foldlM_cons]
          refine (walked.map ?_).bind (fun _ _ later => ihOthers others later)
          intro runs after later
          have frozen := tracks.freezes later
          have below : IsAbove after.forest.parent? root widget := by
            rw [frozen.leaves.tree.isAbove_iff tracks.isForest inTree.sharesTree]
            exact isBelow
          obtain ⟨agrees, holds⟩ := frozen.leaves.holds.release frozen.leaves.isForest below
          exact tracks.elsewhere later agrees.sameStage holds

end Walking

/-- A walk with enough levels follows the plan for its styles. -/
theorem walk_follows (tracks : Tracks handlers used root start led)
    {apply : StyleId → WidgetId → Scene ε → Option (Scene ε)}
    {plan : StyleId → WidgetId → Option (List Run)} {styles : List StyleId}
    (isUsed : ∀ id ∈ styles, used id)
    (applied : ∀ id ∈ styles, ∀ widget, start.forest.Covers root widget → ∀ done scene,
      led done scene → Follows led done (plan id widget) (apply id widget scene))
    {levels : Nat} (room : start.forest.nodes.size < levels)
    (inTree : start.forest.Covers root widget) (leads : led done scene) :
    Follows led done (start.cascadePlan plan styles widget)
      (scene.walk (evaluate apply) styles levels widget) := by
  have each : ∀ met, start.forest.Covers root met → ∀ id ∈ styles, ∀ done scene,
      led done scene →
        Follows led done (start.planned plan id met) (scene.evaluate apply id met) :=
    fun met metInTree id member _ _ later =>
      tracks.evaluate_follows (isUsed id member) metInTree (applied id member met metInTree) later
  have lists := tracks.isForest.lists_descendants widget
  rw [Forest.lists_iff_enumerates] at lists
  cases levels with
  | zero => omega
  | succ levels =>
      have deep : ∀ child ∈ start.forest.children widget,
          IsAbove start.forest.parent? root child ∧
            start.forest.nodes.size < levels + (start.forest.ancestors child).length := by
        intro child isChild
        have linked := (tracks.isForest.mem_children_iff widget child).mp isChild
        refine ⟨inTree.isAbove_child linked, ?_⟩
        rw [tracks.isForest.ancestors_of_parent linked, List.length_cons]
        omega
      exact tracks.walk_follows_of_visits (each widget inTree) inTree
        (fun _ _ later => tracks.visits_follow each lists deep later) leads

/-! Chains and sheets. -/

/-- Running a style follows the plan for it. -/
theorem applyStyle_follows (tracks : Tracks handlers used root start led) {levels : Nat}
    (room : start.forest.nodes.size < levels) {nesting : Nat} {id : StyleId} (isUsed : used id)
    (inTree : start.forest.Covers root widget) (leads : led done scene) :
    Follows led done (start.stylePlan nesting id widget)
      (scene.applyStyle handlers levels nesting id widget) := by
  induction nesting generalizing id widget done scene with
  | zero => exact rfl
  | succ nesting ih =>
      rw [applyStyle, stylePlan, tracks.get?_eq leads isUsed]
      cases found : start.styles.get? id with
      | none => exact Follows.nothing leads
      | some style =>
          dsimp only
          cases body : style.body with
          | plain mutation =>
              dsimp only
              rw [(tracks.freezes leads).kind? inTree]
              split
              · exact tracks.run isUsed found body inTree leads
              · exact Follows.nothing (tracks.note leads _)
          | chain wrapped sheets =>
              have linked : ∀ lower, lower ∈ sheets.map ChildSheet.style ∨ wrapped = some lower →
                  used lower :=
                fun lower member => tracks.links id lower isUsed
                  ((Styles.mem_links_of_chain found body).mpr member)
              have below : ∀ done scene, led done scene →
                  Follows led done
                    (gather (fun child => start.cascadePlan (start.stylePlan nesting) [child] widget)
                      (sheets.map ChildSheet.style))
                    ((scene.styles.childSheets id).foldlM (fun scene child =>
                      scene.applyScoped (evaluate (applyStyle handlers levels nesting)) child.sheet
                        levels widget) scene) := by
                intro done scene leads
                rw [foldlM_applyScoped, Styles.children_of_chain ((tracks.get?_eq leads isUsed).trans found) body]
                refine Follows.foldlM (fun child isChild done scene leads => ?_) leads
                have childUsed := linked child (Or.inl isChild)
                refine tracks.walk_follows ?_ ?_ room inTree leads
                · exact List.forall_mem_singleton.mpr childUsed
                · rw [List.forall_mem_singleton]
                  exact fun met metInTree done scene later => ih childUsed metInTree later
              dsimp only
              cases wrapped with
              | none => exact (Follows.nothing leads).bind (fun _ _ later => below _ _ later)
              | some inner =>
                  rw [Option.toList_some, gather_singleton]
                  exact (ih (linked inner (Or.inr rfl)) inTree leads).bind
                    (fun _ _ later => below _ _ later)

/-- Applying a sheet to a widget of the tree follows the plan for the sheet. -/
theorem apply_follows (tracks : Tracks handlers used root start led) {sheet : SheetId}
    (isUsed : ∀ id ∈ start.topStyles sheet, used id) {steps : Nat}
    (room : start.forest.nodes.size < steps) (inTree : start.forest.Covers root widget)
    (leads : led done scene) (tops : scene.topStyles sheet = start.topStyles sheet) :
    Follows led done (start.sheetPlan steps sheet widget)
      (scene.apply handlers steps sheet widget) := by
  have frozen := tracks.freezes leads
  have recorded : led done (scene.recordRoot sheet widget) :=
    tracks.elsewhere leads ⟨rfl, rfl, rfl, fun other => topStyles_recordRoot scene sheet other widget⟩
      frozen.leaves.holds
  rw [apply, cascade, topStyles_recordRoot, tops]
  refine tracks.walk_follows isUsed ?_ room inTree (tracks.note recorded _)
  exact fun id isTop met metInTree done scene later =>
    tracks.applyStyle_follows room (isUsed id isTop) metInTree later

end Tracks

end StyledTree.Scene
