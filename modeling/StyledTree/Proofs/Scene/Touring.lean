import StyledTree.Proofs.Forest.Moving
import StyledTree.Proofs.Scene.Turns

set_option autoImplicit false

namespace StyledTree.Scene

variable {ε : Type}

inductive ShiftsHandles (before : Scene ε) : Scene ε → Prop where
  | refl : ShiftsHandles before before
  | hold {middle : Scene ε} (earlier : ShiftsHandles before middle) (widget : WidgetId) :
    ShiftsHandles before (middle.hold widget)
  | release {middle : Scene ε} (earlier : ShiftsHandles before middle) (widget : WidgetId) :
    ShiftsHandles before (middle.release widget)

structure Stop where
  widget : WidgetId
  seen : List WidgetId

/-- The tour of a cascade that has some widgets to visit: the next of them gets a turn of every style,
and the children that it has then are visited before the others are. In between only handles change. -/
inductive Tour (handlers : Handlers ε) (styles : List StyleId) :
    List WidgetId → List Stop → Scene ε → Scene ε → Prop where
  | done {before after : Scene ε} (handles : ShiftsHandles before after) :
    Tour handlers styles [] [] before after
  | visit {widget : WidgetId} {pending : List WidgetId} {stops : List Stop}
    {before entered left after : Scene ε} (handles : ShiftsHandles before entered)
    (turns : Turns handlers (turnsOn styles [widget]) entered left)
    (further : Tour handlers styles (left.forest.children widget ++ pending) stops left after) :
    Tour handlers styles (widget :: pending) (⟨widget, left.forest.children widget⟩ :: stops)
      before after

def evaluations (styles : List StyleId) (stops : List Stop) : List (StyleId × WidgetId) :=
  turnsOn styles (stops.map Stop.widget)

structure Works (handlers : Handlers ε) (mutation : HandlerId) : Prop where
  reaches : ∀ {widget before after}, handlers.run mutation widget before = some after →
    Reaches before after
  styles : ∀ {widget before after}, handlers.run mutation widget before = some after →
    ∀ id style, before.styles.get? id = some style → style.isChain = false →
      after.styles.get? id = some style

/-- Whatever widget the mutation runs on, only widgets strictly below that one, and new ones, get a
parent that they did not have. -/
def MovesBelow (handlers : Handlers ε) (mutation : HandlerId) : Prop :=
  ∀ {widget before after}, before.forest.IsForest →
    handlers.run mutation widget before = some after →
      before.forest.MovesBelow widget after.forest

def HasPlain (scene : Scene ε) (styles : List StyleId) (isKind : HandlerId → Prop) : Prop :=
  ∀ id ∈ styles, ∃ style mutation, scene.styles.get? id = some style ∧
    style.body = .plain mutation ∧ isKind mutation

theorem HasPlain.of_styles {before after : Scene ε} {styles : List StyleId}
    {isKind : HandlerId → Prop} (plain : before.HasPlain styles isKind)
    (same : after.styles = before.styles) : after.HasPlain styles isKind := by
  rwa [HasPlain, same]

/-! Handles. -/

namespace ShiftsHandles

variable {before middle after : Scene ε}

theorem trans (first : ShiftsHandles before middle) (second : ShiftsHandles middle after) :
    ShiftsHandles before after := by
  induction second with
  | refl => exact first
  | hold _ widget ih => exact ih.hold widget
  | release _ widget ih => exact ih.release widget

theorem holdAll (scene : Scene ε) (widgets : List WidgetId) :
    ShiftsHandles scene (widgets.foldl Scene.hold scene) := by
  induction widgets generalizing scene with
  | nil => exact refl
  | cons widget rest ih => exact (refl.hold widget).trans (ih (scene.hold widget))

theorem styles (handles : ShiftsHandles before after) : after.styles = before.styles := by
  induction handles with
  | refl => rfl
  | hold _ _ ih => exact ih
  | release _ widget ih =>
      rw [← ih, Scene.release]
      split <;> rfl

theorem reaches (handles : ShiftsHandles before after) : Reaches before after := by
  induction handles with
  | refl => exact Reaches.refl before
  | hold _ widget ih => exact ih.trans (Reaches.step (Step.hold _ widget))
  | release _ widget ih => exact ih.trans (Reaches.step (Step.release _ widget))

theorem parent? (handles : ShiftsHandles before after) {lower upper : WidgetId}
    (linked : after.forest.parent? lower = some upper) :
    before.forest.parent? lower = some upper := by
  induction handles with
  | refl => exact linked
  | hold _ _ ih => exact ih linked
  | release _ widget ih =>
      rw [Scene.release] at linked
      split at linked
      · exact ih linked
      · exact ih (Forest.parent?_of_retain linked)

/-- Losing widgets moves none. -/
theorem movesBelow (handles : ShiftsHandles before after) (widget : WidgetId) :
    before.forest.MovesBelow widget after.forest :=
  Forest.MovesBelow.of_fewer_links widget handles.reaches.lasts.places
    (fun _ _ => handles.parent?)

end ShiftsHandles

/-! What a cascade does is a tour. -/

namespace Tour

variable {handlers : Handlers ε} {styles : List StyleId} {before middle after : Scene ε}

theorem of_handles {pending : List WidgetId} {stops : List Stop} (handles : ShiftsHandles before middle)
    (tour : Tour handlers styles pending stops middle after) :
    Tour handlers styles pending stops before after := by
  cases tour with
  | done further => exact done (handles.trans further)
  | visit entering turns further => exact visit (handles.trans entering) turns further

theorem append {first second : List WidgetId} {firstStops secondStops : List Stop}
    (one : Tour handlers styles first firstStops before middle)
    (other : Tour handlers styles second secondStops middle after) :
    Tour handlers styles (first ++ second) (firstStops ++ secondStops) before after := by
  induction one with
  | done handles => exact of_handles handles other
  | visit handles turns _ ih =>
      have further := ih other
      rw [List.append_assoc] at further
      exact visit handles turns further

end Tour

section Cascade

variable {handlers : Handlers ε} {styles : List StyleId} {isKind : HandlerId → Prop}
  {widget : WidgetId} {before after : Scene ε}

/-- In its turn a style runs a mutation of its kind on the widget, or nothing happens. -/
theorem Turn.runs {id : StyleId} (turn : Turn handlers id widget before after)
    (plain : before.HasPlain styles isKind) (member : id ∈ styles) :
    after = before ∨ ∃ mutation event, isKind mutation ∧
      handlers.run mutation widget (before.note event) = some after := by
  cases turn with
  | pass => exact Or.inl rfl
  | @run style mutation _ _ found isPlain _ ran =>
      obtain ⟨held, own, same, ownPlain, ofKind⟩ := plain id member
      rw [found] at same
      cases same
      rw [isPlain] at ownPlain
      cases ownPlain
      exact Or.inr ⟨mutation, _, ofKind, ran⟩

theorem Turn.hasPlain {id : StyleId} (turn : Turn handlers id widget before after)
    (works : ∀ mutation, isKind mutation → Works handlers mutation)
    (plain : before.HasPlain styles isKind) (member : id ∈ styles) :
    after.HasPlain styles isKind := by
  rcases turn.runs plain member with rfl | ⟨mutation, event, ofKind, ran⟩
  · exact plain
  · intro other listed
    obtain ⟨style, own, found, isPlain, ownKind⟩ := plain other listed
    have notChain : style.isChain = false := by rw [Style.isChain, isPlain]
    exact ⟨style, own, (works mutation ofKind).styles ran other style found notChain, isPlain, ownKind⟩

/-- Evaluating styles on a widget gives each of them a turn. -/
theorem turns_of_row {levels nesting : Nat} {row : List StyleId}
    (works : ∀ mutation, isKind mutation → Works handlers mutation)
    (plain : before.HasPlain styles isKind) (members : ∀ id ∈ row, id ∈ styles)
    (evaluated : row.foldlM (fun scene id =>
      Scene.evaluate (applyStyle handlers levels nesting) id widget scene) before = some after) :
    Turns handlers (turnsOn row [widget]) before after ∧ after.HasPlain styles isKind := by
  induction row generalizing before with
  | nil =>
      cases evaluated
      exact ⟨Turns.done (Agrees.refl _), plain⟩
  | cons id rest ih =>
      rw [List.forall_mem_cons] at members
      rw [List.foldlM_cons] at evaluated
      obtain ⟨middle, first, others⟩ := Option.bind_eq_some_iff.mp evaluated
      obtain ⟨style, mutation, found, isPlain, -⟩ := plain id members.1
      have turn := turn_of_evaluate found isPlain first
      obtain ⟨turns, kept⟩ := ih (turn.hasPlain works plain members.1) members.2 others
      exact ⟨Turns.next (Agrees.refl _) turn turns, kept⟩

/-- Visiting widgets one after the other is a tour of them if each visit is a tour. -/
theorem tour_of_visits {visit : WidgetId → Scene ε → Option (Scene ε)}
    (visits : ∀ {child : WidgetId} {before after : Scene ε}, before.HasPlain styles isKind →
      visit child before = some after →
        (∃ stops, Tour handlers styles [child] stops before after) ∧ after.HasPlain styles isKind)
    {widgets : List WidgetId} (plain : before.HasPlain styles isKind)
    (visited : widgets.foldlM (fun scene child =>
      (visit child scene).map (fun left => left.release child)) before = some after) :
    (∃ stops, Tour handlers styles widgets stops before after) ∧ after.HasPlain styles isKind := by
  induction widgets generalizing before with
  | nil =>
      cases visited
      exact ⟨⟨[], Tour.done ShiftsHandles.refl⟩, plain⟩
  | cons child rest ih =>
      rw [List.foldlM_cons] at visited
      obtain ⟨middle, first, others⟩ := Option.bind_eq_some_iff.mp visited
      obtain ⟨left, ran, rfl⟩ := Option.map_eq_some_iff.mp first
      obtain ⟨⟨stops, tour⟩, leftPlain⟩ := visits plain ran
      have released : ShiftsHandles left (left.release child) := ShiftsHandles.refl.release child
      obtain ⟨⟨restStops, restTour⟩, kept⟩ := ih (leftPlain.of_styles released.styles) others
      exact ⟨⟨stops ++ restStops, tour.append (restTour.of_handles released)⟩, kept⟩

theorem tour_of_walk {levels nesting depth : Nat}
    (works : ∀ mutation, isKind mutation → Works handlers mutation)
    (plain : before.HasPlain styles isKind)
    (walked : before.walk (evaluate (applyStyle handlers levels nesting)) styles depth widget =
      some after) :
    (∃ stops, Tour handlers styles [widget] stops before after) ∧ after.HasPlain styles isKind := by
  induction depth generalizing widget before after with
  | zero => cases walked
  | succ depth ih =>
      simp only [walk] at walked
      obtain ⟨middle, here, below⟩ := Option.bind_eq_some_iff.mp walked
      obtain ⟨turns, middlePlain⟩ := turns_of_row works plain (fun _ member => member) here
      have held := ShiftsHandles.holdAll middle (middle.forest.children widget)
      obtain ⟨⟨stops, tour⟩, kept⟩ := tour_of_visits ih (middlePlain.of_styles held.styles) below
      refine ⟨⟨⟨widget, middle.forest.children widget⟩ :: stops, ?_⟩, kept⟩
      refine Tour.visit ShiftsHandles.refl turns ?_
      rw [List.append_nil]
      exact tour.of_handles held

/-! What is kept along a tour. -/

/-- What the handles and each of some turns keep is kept by all of them. -/
theorem Turns.invariant (holds : Scene ε → Prop) {turns : List (StyleId × WidgetId)}
    (agrees : ∀ {before after}, Agrees before after → holds before → holds after)
    (turn : ∀ {id widget before after}, (id, widget) ∈ turns →
      Turn handlers id widget before after → holds before → holds after)
    (taken : Turns handlers turns before after) (start : holds before) : holds after := by
  induction taken with
  | done same => exact agrees same start
  | next same first _ ih =>
      exact ih (fun member => turn (List.mem_cons_of_mem _ member))
        (turn List.mem_cons_self first (agrees same start))

structure Staged (styles : List StyleId) (isKind : HandlerId → Prop) (scene : Scene ε) : Prop where
  isForest : scene.forest.IsForest
  plain : scene.HasPlain styles isKind

theorem Staged.of_handles (staged : Staged styles isKind before) (handles : ShiftsHandles before after) :
    Staged styles isKind after :=
  ⟨handles.reaches.isForest staged.isForest, staged.plain.of_styles handles.styles⟩

theorem Staged.of_agrees (staged : Staged styles isKind before) (agrees : Agrees before after) :
    Staged styles isKind after :=
  ⟨agrees.forest ▸ staged.isForest, staged.plain.of_styles agrees.styles⟩

theorem Staged.of_turn {id : StyleId} (staged : Staged styles isKind before)
    (works : ∀ mutation, isKind mutation → Works handlers mutation) (member : id ∈ styles)
    (turn : Turn handlers id widget before after) : Staged styles isKind after := by
  refine ⟨?_, turn.hasPlain works staged.plain member⟩
  rcases turn.runs staged.plain member with rfl | ⟨mutation, event, ofKind, ran⟩
  · exact staged.isForest
  · exact ((works mutation ofKind).reaches ran).isForest staged.isForest

theorem mem_turnsOn_singleton {id : StyleId} {met : WidgetId}
    (member : (id, met) ∈ turnsOn styles [widget]) : id ∈ styles ∧ met = widget := by
  simp only [turnsOn, List.flatMap_cons, List.flatMap_nil, List.append_nil, List.mem_map,
    Prod.mk.injEq] at member
  obtain ⟨_, listed, rfl, rfl⟩ := member
  exact ⟨listed, rfl⟩

theorem Staged.of_turns (staged : Staged styles isKind before)
    (works : ∀ mutation, isKind mutation → Works handlers mutation)
    (turns : Turns handlers (turnsOn styles [widget]) before after) :
    Staged styles isKind after :=
  turns.invariant (Staged styles isKind) (fun agrees kept => kept.of_agrees agrees)
    (fun member turn kept => kept.of_turn works (mem_turnsOn_singleton member).1 turn) staged

/-- A widget is visited for being pending at the start and for each stop that saw it. -/
theorem Tour.count_visits {pending : List WidgetId} {stops : List Stop}
    (tour : Tour handlers styles pending stops before after)
    (works : ∀ mutation, isKind mutation → Works handlers mutation)
    (staged : Staged styles isKind before) (met : WidgetId) :
    (stops.map Stop.widget).count met =
      pending.count met + stops.countP (fun stop => decide (met ∈ stop.seen)) := by
  induction tour with
  | done _ => rfl
  | @visit widget pending stops _ _ left _ handles turns _ ih =>
      have leftStaged := (staged.of_handles handles).of_turns works turns
      have seen := (leftStaged.isForest.nodup_children widget).count (a := met)
      have rest := ih leftStaged
      rw [List.count_append, seen] at rest
      rw [List.map_cons, List.count_cons, rest, List.count_cons, List.countP_cons]
      simp only [decide_eq_true_eq]
      omega

/-- A turn moves only what is below its widget, and so brings back nothing. -/
theorem Turn.unmet {id : StyleId} {visited pending : List WidgetId}
    (turn : Turn handlers id widget before after) (staged : Staged styles isKind before)
    (moves : ∀ mutation, isKind mutation → MovesBelow handlers mutation) (listed : id ∈ styles)
    (member : widget ∈ pending) (unmet : Forest.Unmet before.forest visited pending) :
    Forest.Unmet after.forest visited pending := by
  rcases turn.runs staged.plain listed with rfl | ⟨mutation, event, ofKind, ran⟩
  · exact unmet
  · have moved : (before.note event).forest.MovesBelow widget after.forest :=
      moves mutation ofKind staged.isForest ran
    exact unmet.moves staged.isForest member moved

theorem Turns.unmet {visited pending : List WidgetId}
    (turns : Turns handlers (turnsOn styles [widget]) before after)
    (staged : Staged styles isKind before)
    (works : ∀ mutation, isKind mutation → Works handlers mutation)
    (moves : ∀ mutation, isKind mutation → MovesBelow handlers mutation)
    (member : widget ∈ pending) (unmet : Forest.Unmet before.forest visited pending) :
    Forest.Unmet after.forest visited pending := by
  refine (turns.invariant (fun scene =>
    Staged styles isKind scene ∧ Forest.Unmet scene.forest visited pending) ?_ ?_
      ⟨staged, unmet⟩).2
  · rintro before after agrees ⟨kept, stillUnmet⟩
    exact ⟨kept.of_agrees agrees, agrees.forest ▸ stillUnmet⟩
  · rintro id met before after listed turn ⟨kept, stillUnmet⟩
    obtain ⟨isStyle, rfl⟩ := mem_turnsOn_singleton listed
    exact ⟨kept.of_turn works isStyle turn, turn.unmet kept moves isStyle member stillUnmet⟩

/-- No widget is visited twice, or after it was visited before the tour. -/
theorem Tour.nodup {visited pending : List WidgetId} {stops : List Stop}
    (tour : Tour handlers styles pending stops before after)
    (works : ∀ mutation, isKind mutation → Works handlers mutation)
    (moves : ∀ mutation, isKind mutation → MovesBelow handlers mutation)
    (staged : Staged styles isKind before)
    (unmet : Forest.Unmet before.forest visited pending) :
    (visited ++ stops.map Stop.widget).Nodup := by
  induction tour generalizing visited with
  | done _ => exact unmet.apart
  | @visit widget pending _ _ _ _ _ handles turns _ ih =>
      have head : widget ∈ widget :: pending := List.mem_cons_self
      have entered := unmet.moves staged.isForest head (handles.movesBelow widget)
      have enteredStaged := staged.of_handles handles
      have leftStaged := enteredStaged.of_turns works turns
      have left := turns.unmet enteredStaged works moves head entered
      have rest := ih leftStaged (left.visit leftStaged.isForest)
      rwa [List.append_assoc, List.singleton_append] at rest

end Cascade

/-! How often a style is evaluated. -/

/-- A style is evaluated on a widget at each visit, once for each time that it is registered. -/
theorem count_turnsOn (styles : List StyleId) (widgets : List WidgetId) (id : StyleId)
    (widget : WidgetId) : (turnsOn styles widgets).count (id, widget) =
      styles.count id * widgets.count widget := by
  have onOne : ∀ met, (styles.map (fun other => (other, met))).count (id, widget) =
      if met = widget then styles.count id else 0 := by
    intro met
    split
    · next same =>
      subst same
      exact List.count_map_of_injective styles (fun other => (other, met))
        (fun _ _ equal => congrArg Prod.fst equal) id
    · next differ =>
      refine List.count_eq_zero.mpr (fun member => differ ?_)
      obtain ⟨_, -, equal⟩ := List.mem_map.mp member
      exact congrArg Prod.snd equal
  induction widgets with
  | nil => simp [turnsOn]
  | cons met rest ih =>
      rw [turnsOn, List.flatMap_cons, List.count_append, onOne, ← turnsOn, ih, List.count_cons,
        Nat.mul_add, Nat.add_comm]
      by_cases same : met = widget <;> simp [same]

theorem HasPlain.and {scene : Scene ε} {styles : List StyleId} {isKind isOther : HandlerId → Prop}
    (first : scene.HasPlain styles isKind) (second : scene.HasPlain styles isOther) :
    scene.HasPlain styles (fun mutation => isKind mutation ∧ isOther mutation) := by
  intro id member
  obtain ⟨style, mutation, found, isPlain, ofKind⟩ := first id member
  obtain ⟨_, _, same, samePlain, ofOther⟩ := second id member
  rw [found] at same
  cases same
  rw [isPlain] at samePlain
  cases samePlain
  exact ⟨style, mutation, found, isPlain, ofKind, ofOther⟩

/-- Applying a sheet of plain styles is a tour from the root, whatever the mutations do to the tree: each
style is evaluated on a widget once for each visited widget that had it among its children when its own
turns were over, and on the root once more. If the mutations move only what is strictly below their
widgets, no style is evaluated twice on any widget. -/
theorem apply_visits_what_it_saw {handlers : Handlers ε} {steps : Nat} {sheet : SheetId}
    {root : WidgetId} {scene after : Scene ε} (isForest : scene.forest.IsForest)
    (live : scene.forest.contains root = true)
    (plain : scene.HasPlain (scene.topStyles sheet) (Works handlers))
    (applied : scene.apply handlers steps sheet root = some after) :
    ∃ stops, Tour handlers (scene.topStyles sheet) [root] stops
        ((scene.recordRoot sheet root).note
          (.sheetApplied (scene.topStyles sheet).length (scene.describe root))) after ∧
      (∀ id widget, (evaluations (scene.topStyles sheet) stops).count (id, widget) =
        (scene.topStyles sheet).count id * ((if widget = root then 1 else 0) +
          stops.countP (fun stop => decide (widget ∈ stop.seen)))) ∧
      (scene.HasPlain (scene.topStyles sheet) (MovesBelow handlers) →
        (stops.map Stop.widget).Nodup ∧ ((scene.topStyles sheet).Nodup →
          (evaluations (scene.topStyles sheet) stops).Nodup)) := by
  simp only [apply, cascade, topStyles_recordRoot] at applied
  have staged {isKind : HandlerId → Prop} (kept : scene.HasPlain (scene.topStyles sheet) isKind)
      (event : Event) : Staged (scene.topStyles sheet) isKind
        ((scene.recordRoot sheet root).note event) := ⟨isForest, kept⟩
  obtain ⟨⟨stops, tour⟩, -⟩ := tour_of_walk (fun _ works => works) (staged plain _).plain applied
  refine ⟨stops, tour, ?_, ?_⟩
  · intro id widget
    rw [evaluations, count_turnsOn, tour.count_visits (fun _ works => works) (staged plain _),
      List.count_singleton]
    simp only [beq_iff_eq, @eq_comm _ root]
  · intro moves
    have unmet : scene.forest.Unmet [] [root] := by
      refine ⟨?_, List.pairwise_singleton _ root, ?_⟩
      · intro widget member
        rw [List.mem_singleton.mp member]
        exact Forest.index_lt_of_contains live
      · intro upper isRoot lower same
        rw [List.mem_singleton.mp isRoot, List.mem_singleton.mp same]
        exact isForest.acyclic root
    have visits := tour.nodup (fun _ both => both.1) (fun _ both => both.2)
      (staged (plain.and moves) _) unmet
    rw [List.nil_append] at visits
    refine ⟨visits, fun unique => List.nodup_iff_count_le_one.mpr ?_⟩
    rintro ⟨id, widget⟩
    rw [evaluations, count_turnsOn]
    exact Nat.mul_le_mul (List.nodup_iff_count_le_one.mp unique id)
      (List.nodup_iff_count_le_one.mp visits widget)

/-- Client code that notes each widget that it runs on, and puts into it a widget that it picks. -/
def movers (pick : Forest → WidgetId → Option WidgetId) : Handlers (List WidgetId) where
  run _ widget scene :=
    let noted := scene.withClient (fun visited => visited ++ [widget])
    some (match pick scene.forest widget with
      | some picked => (noted.add widget picked).2
      | none => noted)
  notify _ _ _ scene := some scene
  produce _ _ := none

theorem movesBelow_carryOut {ε : Type} {widget : WidgetId} (scene : Scene ε) (container : WidgetId)
    {edited : Forest} (moves : scene.forest.MovesBelow widget edited) :
    scene.forest.MovesBelow widget (scene.carryOut container edited).forest := by
  rcases scene.carryOut_cases container edited with ⟨-, same⟩ | ⟨-, same⟩
  · rw [same]
    exact moves
  · rw [same]
    exact moves.andRetain _

theorem movers_works (pick : Forest → WidgetId → Option WidgetId) (mutation : HandlerId) :
    Works (movers pick) mutation where
  reaches {widget before after} ran := by
    cases ran
    have noted : Reaches before (before.withClient (fun visited => visited ++ [widget])) :=
      Reaches.step (Step.elsewhere before rfl rfl)
    split
    · next picked _ => exact noted.trans (Reaches.step (Step.add _ widget picked))
    · exact noted
  styles {widget before after} ran id style found _ := by
    cases ran
    split
    · rwa [add, styles_commit]
    · exact found

/-- Picking only what is below the widget moves only that. -/
theorem movers_movesBelow {pick : Forest → WidgetId → Option WidgetId}
    (below : ∀ {forest : Forest} {widget picked}, forest.IsForest →
      pick forest widget = some picked → IsAbove forest.parent? widget picked)
    (mutation : HandlerId) : MovesBelow (movers pick) mutation := by
  intro widget before after isForest ran
  cases ran
  split
  · next picked isPicked =>
    have moves : before.forest.MovesBelow widget
        (Forest.Edit.ofInsertion before.forest (before.forest.add widget picked)).2 := by
      cases added : before.forest.add widget picked with
      | error fault => exact Forest.MovesBelow.refl widget before.forest
      | ok after => exact Forest.MovesBelow.add isForest (below isForest isPicked) added
    rw [Scene.add, forest_commit]
    exact movesBelow_carryOut (before.withClient (fun visited => visited ++ [widget])) widget moves
  · exact Forest.MovesBelow.refl widget before.forest

def nestedLabel : Scene (List WidgetId) :=
  let panels := (((Scene.fresh []).spawn .panel).2.spawn .panel).2
  let tree := (((panels.spawn .label).2.add ⟨0⟩ ⟨1⟩).2.add ⟨1⟩ ⟨2⟩).2
  (tree.addSheet.2.addStyle ⟨.glob, .any, .plain ⟨0⟩⟩).2.register ⟨0⟩ ⟨0⟩

theorem isForest_nestedLabel : nestedLabel.forest.IsForest := by
  have outer := Reaches.step (Step.spawn (Scene.fresh ([] : List WidgetId)) .panel)
  have panels := outer.trans (Reaches.step (Step.spawn _ .panel))
  have label := panels.trans (Reaches.step (Step.spawn _ .label))
  have inside := label.trans (Reaches.step (Step.add _ ⟨0⟩ ⟨1⟩))
  have tree := inside.trans (Reaches.step (Step.add _ ⟨1⟩ ⟨2⟩))
  exact (tree.trans (Reaches.step (Step.elsewhere _ rfl rfl))).isForest Forest.isForest_empty

theorem nestedLabel_hasPlain {isKind : HandlerId → Prop} (ofKind : isKind ⟨0⟩) :
    nestedLabel.HasPlain (nestedLabel.topStyles ⟨0⟩) isKind := by
  intro id member
  have tops : nestedLabel.topStyles ⟨0⟩ = [⟨0⟩] := by decide +kernel
  rw [tops, List.mem_singleton] at member
  subst member
  exact ⟨⟨.glob, .any, .plain ⟨0⟩⟩, ⟨0⟩, by decide +kernel, rfl, ofKind⟩

def firstGrandchild (forest : Forest) (widget : WidgetId) : Option WidgetId :=
  (forest.children widget).head?.bind (fun child => (forest.children child).head?)

theorem isAbove_firstGrandchild {forest : Forest} {widget picked : WidgetId}
    (isForest : forest.IsForest) (isPicked : firstGrandchild forest widget = some picked) :
    IsAbove forest.parent? widget picked := by
  obtain ⟨child, isChild, isInner⟩ := Option.bind_eq_some_iff.mp isPicked
  have upper := (isForest.mem_children_iff widget child).mp (List.mem_of_head? isChild)
  have lower := (isForest.mem_children_iff child picked).mp (List.mem_of_head? isInner)
  exact (IsAbove.of_parent upper).trans (IsAbove.of_parent lower)

/-- The label is lifted out of the inner panel before that panel's turn and is visited once, as a child
of the outer one. -/
theorem nestedLabel_lifted_visited_once :
    ∃ after stops, nestedLabel.apply (movers firstGrandchild) 4 ⟨0⟩ ⟨0⟩ = some after ∧
      after.client = [⟨0⟩, ⟨1⟩, ⟨2⟩] ∧ after.forest.children ⟨0⟩ = [⟨1⟩, ⟨2⟩] ∧
      (evaluations (nestedLabel.topStyles ⟨0⟩) stops).Nodup ∧
      Tour (movers firstGrandchild) (nestedLabel.topStyles ⟨0⟩) [⟨0⟩] stops
        ((nestedLabel.recordRoot ⟨0⟩ ⟨0⟩).note (.sheetApplied
          (nestedLabel.topStyles ⟨0⟩).length (nestedLabel.describe ⟨0⟩))) after := by
  obtain ⟨after, applied⟩ := Option.isSome_iff_exists.mp (show
    (nestedLabel.apply (movers firstGrandchild) 4 ⟨0⟩ ⟨0⟩).isSome = true by decide +kernel)
  have shown : (nestedLabel.apply (movers firstGrandchild) 4 ⟨0⟩ ⟨0⟩).map (fun scene =>
      (scene.client, scene.forest.children ⟨0⟩)) = some ([⟨0⟩, ⟨1⟩, ⟨2⟩], [⟨1⟩, ⟨2⟩]) := by
    decide +kernel
  rw [applied, Option.map_some, Option.some.injEq, Prod.mk.injEq] at shown
  obtain ⟨stops, tour, -, visits⟩ := apply_visits_what_it_saw isForest_nestedLabel
    (by decide +kernel) (nestedLabel_hasPlain (movers_works firstGrandchild ⟨0⟩)) applied
  have once := visits (nestedLabel_hasPlain (movers_movesBelow isAbove_firstGrandchild ⟨0⟩))
  exact ⟨after, stops, applied, shown.1, shown.2, once.2 (by decide +kernel), tour⟩

/-- A label that every panel takes to itself is first lifted out of the inner panel and then taken back
into it: it is visited in the inner panel, and again as a child that the outer one had. -/
theorem nestedLabel_taken_visited_twice :
    nestedLabel.forest.IsForest ∧ nestedLabel.topStyles ⟨0⟩ = [⟨0⟩] ∧
      nestedLabel.HasPlain [⟨0⟩]
        (Works (movers (fun _ widget => if widget = ⟨2⟩ then none else some ⟨2⟩))) ∧
      (nestedLabel.apply (movers (fun _ widget => if widget = ⟨2⟩ then none else some ⟨2⟩)) 4
        ⟨0⟩ ⟨0⟩).map (fun after => after.client) = some [⟨0⟩, ⟨1⟩, ⟨2⟩, ⟨2⟩] := by
  have tops : nestedLabel.topStyles ⟨0⟩ = [⟨0⟩] := by decide +kernel
  exact ⟨isForest_nestedLabel, tops, tops ▸ nestedLabel_hasPlain (movers_works _ ⟨0⟩),
    by decide +kernel⟩

end StyledTree.Scene
