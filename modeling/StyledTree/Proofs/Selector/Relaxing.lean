import StyledTree.Proofs.Scene.Dropping
import StyledTree.Proofs.Selector.Trails
import StyledTree.Proofs.Session.Actions
import StyledTree.Proofs.Widget.ClassList

set_option autoImplicit false

namespace StyledTree

variable {α β : Type}

/-! Asking for less. -/

structure Clause.Relaxes (strict relaxed : Clause) : Prop where
  id : relaxed.id = none ∨ relaxed.id = strict.id
  classes : relaxed.classes ⊆ strict.classes

inductive Combinator.Relaxes : Combinator → Combinator → Prop where
  | same (combinator : Combinator) : Relaxes combinator combinator
  | loosened : Relaxes .child .descendant

/-- The clauses on the left, the nearest first, are relaxed one by one, and the last ones may be dropped. -/
inductive Selector.ContextRelaxes :
    List (Combinator × Clause) → List (Combinator × Clause) → Prop where
  | cut (context : List (Combinator × Clause)) : ContextRelaxes context []
  | step {combinator loosened : Combinator} {clause relaxed : Clause}
    {rest others : List (Combinator × Clause)} (combinators : combinator.Relaxes loosened)
    (clauses : clause.Relaxes relaxed) (further : ContextRelaxes rest others) :
    ContextRelaxes ((combinator, clause) :: rest) ((loosened, relaxed) :: others)

structure Selector.Relaxes (strict relaxed : Selector) : Prop where
  subject : strict.subject.Relaxes relaxed.subject
  context : Selector.ContextRelaxes strict.context relaxed.context

theorem Clause.Relaxes.refl (clause : Clause) : clause.Relaxes clause :=
  ⟨Or.inr rfl, fun _ member => member⟩

theorem Selector.ContextRelaxes.refl (context : List (Combinator × Clause)) :
    Selector.ContextRelaxes context context := by
  induction context with
  | nil => exact ContextRelaxes.cut []
  | cons step rest ih =>
      exact ContextRelaxes.step (Combinator.Relaxes.same step.1) (Clause.Relaxes.refl step.2) ih

theorem Selector.Relaxes.refl (selector : Selector) : selector.Relaxes selector :=
  ⟨Clause.Relaxes.refl selector.subject, ContextRelaxes.refl selector.context⟩

/-! More to find a node by. -/

/-- Each node of a part of the host, which holds the ancestors of its nodes, has a place in the other
one, where it has at least the names and the classes that it had, and above it at least the nodes that
were above it, directly and in their order. -/
structure Host.GrowsInto (before : Host α) (after : Host β) (place : α → β) (part : α → Prop) :
    Prop where
  upward : ∀ node, part node → ∀ upper ∈ before.ancestors node, part upper
  hasName : ∀ node name, part node → before.hasName node name = true →
    after.hasName (place node) name = true
  hasClassList : ∀ node, part node → before.hasClassList node = true →
    after.hasClassList (place node) = true
  hasClass : ∀ node name, part node → before.hasClass node name = true →
    after.hasClass (place node) name = true
  ancestors : ∀ node, part node → (before.ancestors node).map place <+: after.ancestors (place node)

theorem Host.GrowsInto.refl (host : Host α) : host.GrowsInto host id (fun _ => True) where
  upward _ _ _ _ := trivial
  hasName _ _ _ named := named
  hasClassList _ _ carries := carries
  hasClass _ _ _ classed := classed
  ancestors node _ := by
    rw [List.map_id]
    exact List.prefix_refl _

def Combinator.candidates (host : Host α) (node : α) : Combinator → List α
  | .child => (host.parent? node).toList
  | .descendant => host.ancestors node

theorem Combinator.candidates_subset_ancestors (host : Host α) (node : α) (combinator : Combinator) :
    combinator.candidates host node ⊆ host.ancestors node := by
  cases combinator with
  | child =>
      intro upper member
      rw [candidates, Option.mem_toList, ← host.head?_ancestors] at member
      exact List.mem_of_head? member
  | descendant => exact List.Subset.refl _

namespace Host.GrowsInto

variable {before : Host α} {after : Host β} {place : α → β} {part : α → Prop}

/-- What a node met there, a relaxed clause meets here. -/
theorem accepts (grows : before.GrowsInto after place part) {strict relaxed : Clause}
    (relaxes : strict.Relaxes relaxed) {node : α} (inPart : part node)
    (accepted : strict.accepts before node = true) : relaxed.accepts after (place node) = true := by
  rw [Clause.accepts_iff] at accepted ⊢
  constructor
  · intro id named
    rcases relaxes.id with none | same
    · rw [none] at named
      cases named
    · exact grows.hasName node id inPart (accepted.name id (same.symm.trans named))
  · intro some
    have listed : strict.classes ≠ [] := by
      intro none
      have inNone := relaxes.classes
      rw [none] at inNone
      exact some (List.subset_nil.mp inNone)
    obtain ⟨carries, has⟩ := accepted.classes listed
    refine ⟨grows.hasClassList node inPart carries, fun name listed => ?_⟩
    exact grows.hasClass node name inPart (has name (relaxes.classes listed))

/-- A candidate stays one where a combinator asks for less. -/
theorem mem_candidates (grows : before.GrowsInto after place part) {strict relaxed : Combinator}
    (relaxes : strict.Relaxes relaxed) {node upper : α} (inPart : part node)
    (member : upper ∈ strict.candidates before node) :
    place upper ∈ relaxed.candidates after (place node) := by
  obtain ⟨higher, longer⟩ := grows.ancestors node inPart
  have kept : place upper ∈ strict.candidates after (place node) := by
    cases strict with
    | child =>
        rw [Combinator.candidates, Option.mem_toList, ← Host.head?_ancestors] at member ⊢
        rw [← longer, List.head?_append, List.head?_map, member]
        rfl
    | descendant =>
        rw [Combinator.candidates] at member ⊢
        rw [← longer]
        exact List.mem_append_left _ (List.mem_map_of_mem member)
  cases relaxes with
  | same => exact kept
  | loosened => exact Combinator.candidates_subset_ancestors after _ .child kept

end Host.GrowsInto

namespace Selector

theorem contextHolds_cons (host : Host α) (combinator : Combinator) (clause : Clause)
    (rest : List (Combinator × Clause)) (node : α) :
    contextHolds host ((combinator, clause) :: rest) node =
      (combinator.candidates host node).any (selects ⟨clause, rest⟩ host) := by
  cases combinator with
  | child =>
      rw [contextHolds, Combinator.candidates]
      cases host.parent? node with
      | none => rfl
      | some parent =>
          rw [Option.toList_some, List.any_cons, List.any_nil, Bool.or_false]
          rfl
  | descendant => exact contextHolds_descendant host clause rest node

variable {before : Host α} {after : Host β} {place : α → β} {part : α → Prop}

/-- A relaxed selector selects in a grown host whatever the strict one selected before. -/
theorem Relaxes.selects (grows : before.GrowsInto after place part) {strict relaxed : Selector}
    (relaxes : strict.Relaxes relaxed) {node : α} (inPart : part node)
    (selected : strict.selects before node = true) :
    relaxed.selects after (place node) = true := by
  obtain ⟨subject, context⟩ := strict
  obtain ⟨relaxedSubject, relaxedContext⟩ := relaxed
  obtain ⟨subjects, contexts⟩ := relaxes
  dsimp only at subjects contexts
  -- Along the clauses that stay: whatever node met the next one before still does, and it may do so.
  induction contexts generalizing subject relaxedSubject node with
  | cut context =>
      rw [Selector.selects, Bool.and_eq_true] at selected
      rw [Selector.selects, contextHolds, Bool.and_true]
      exact grows.accepts subjects inPart selected.1
  | step combinators clauses _ ih =>
      rw [Selector.selects, contextHolds_cons, Bool.and_eq_true, List.any_eq_true] at selected ⊢
      obtain ⟨accepted, upper, candidate, met⟩ := selected
      have above := Combinator.candidates_subset_ancestors before node _ candidate
      refine ⟨grows.accepts subjects inPart accepted, place upper, ?_, ?_⟩
      · exact grows.mem_candidates combinators inPart candidate
      · exact ih (grows.upward node inPart upper above) _ met _ clauses

end Selector

/-! Widgets that get more. -/

structure Node.GainsClasses (before after : Node) : Prop where
  kind : after.kind = before.kind
  name : after.name = before.name
  classes : before.classes ⊆ after.classes

theorem Node.GainsClasses.refl (node : Node) : node.GainsClasses node :=
  ⟨rfl, rfl, List.Subset.refl _⟩

theorem Node.gainsClasses_addClass (node : Node) (text : String) :
    node.GainsClasses (node.addClass text).2 := by
  by_cases takesIn : node.TakesIn text
  · rw [addClass_of_takesIn takesIn]
    exact ⟨rfl, rfl, List.subset_append_left _ _⟩
  · rw [addClass_of_not_takesIn takesIn]
    exact GainsClasses.refl node

namespace Forest

variable {before after forest : Forest}

/-- A part of a forest grows where its widgets keep their parents, their kinds and their names and lose
no classes. -/
theorem IsForest.growsInto (isForest : before.IsForest) (later : after.IsForest)
    {part : WidgetId → Prop}
    (upward : ∀ lower upper, part lower → before.parent? lower = some upper → part upper)
    (parent : ∀ lower upper, part lower → before.parent? lower = some upper →
      after.parent? lower = some upper)
    (nodes : ∀ widget node, part widget → before.get? widget = some node →
      ∃ grown, after.get? widget = some grown ∧ node.GainsClasses grown) :
    before.host.GrowsInto after.host id part where
  upward widget inPart upper member := by
    rw [isForest.ancestors_host] at member
    have above := isForest.mem_ancestors_iff.mp member
    induction above with
    | single linked => exact upward _ _ inPart linked
    | tail below linked ih =>
        exact upward _ _ (ih (isForest.mem_ancestors_iff.mpr below)) linked
  hasName widget name inPart named := by
    rw [host, beq_iff_eq, Option.bind_eq_some_iff] at named
    obtain ⟨node, found, same⟩ := named
    obtain ⟨grown, there, gains⟩ := nodes widget node inPart found
    rw [host, beq_iff_eq, id_eq, there, Option.bind_some, gains.name, same]
  hasClassList widget inPart carries := by
    rw [host, Option.any_eq_true] at carries ⊢
    obtain ⟨node, found, capable⟩ := carries
    obtain ⟨grown, there, gains⟩ := nodes widget node inPart found
    exact ⟨grown, there, by rwa [gains.kind]⟩
  hasClass widget name inPart classed := by
    rw [host, Option.any_eq_true] at classed ⊢
    obtain ⟨node, found, has⟩ := classed
    obtain ⟨grown, there, gains⟩ := nodes widget node inPart found
    rw [Node.hasClass_eq_true_iff] at has
    refine ⟨grown, there, ?_⟩
    rw [Node.hasClass_eq_true_iff, gains.kind]
    exact ⟨has.1, gains.classes has.2⟩
  ancestors widget inPart := by
    rw [List.map_id, isForest.ancestors_host, later.ancestors_host]
    exact (isForest.climbs_ancestors widget).isPrefix upward parent (later.climbs_ancestors widget)
      inPart

/-- A class is added to some widget. -/
theorem IsForest.growsInto_addClass (isForest : forest.IsForest) (widget : WidgetId) (text : String) :
    forest.host.GrowsInto (forest.update widget (fun node => (node.addClass text).2)).host id
      (fun _ => True) := by
  have keeps := Session.keepsPlace_addClass text
  refine isForest.growsInto (isForest.update widget keeps.toKeepsLinks) (fun _ _ _ _ => trivial) ?_ ?_
  · intro lower upper _ linked
    rw [parent?_update]
    simp only [keeps.parent]
    rwa [← parent?, ite_self]
  · intro other node _ found
    rw [get?_update, found]
    split
    · exact ⟨_, rfl, node.gainsClasses_addClass text⟩
    · exact ⟨node, rfl, Node.GainsClasses.refl node⟩

/-- A root is placed in a widget of another tree, wherever that widget hangs. -/
theorem IsForest.growsInto_insert (isForest : forest.IsForest) {parent root : WidgetId}
    {constraint : Option Constraint} (isRoot : forest.parent? root = none)
    (inserted : forest.insert parent root constraint = .ok after) :
    forest.host.GrowsInto after.host id (forest.Covers root) := by
  have upward : ∀ lower upper, forest.Covers root lower → forest.parent? lower = some upper →
      forest.Covers root upper := by
    rintro lower upper (rfl | above) linked
    · rw [isRoot] at linked
      cases linked
    · exact (IsAbove.iff_of_parent linked).mp above
  have same : ∀ lower, IsAbove forest.parent? root lower → after.get? lower = forest.get? lower := by
    intro lower above
    have live := isForest.contains_above above
    exact (isForest.inserted live inserted).below lower above
  refine isForest.growsInto (isForest.insert inserted) upward ?_ ?_
  · rintro lower upper (rfl | above) linked
    · rw [isRoot] at linked
      cases linked
    · rwa [parent?, same lower above, ← parent?]
  · rintro widget node (rfl | above) found
    · have live : forest.contains root = true := by rw [contains, found, Option.isSome_some]
      have placed := (isForest.inserted live inserted).places
      rw [found, Option.map_some] at placed
      exact ⟨_, placed, ⟨rfl, rfl, List.Subset.refl _⟩⟩
    · exact ⟨node, by rwa [same widget above], Node.GainsClasses.refl node⟩

/-- Dropping other widgets takes nothing from a part that stays. -/
theorem Drops.growsInto {gone part : WidgetId → Prop} (drops : Drops gone before after)
    (isForest : before.IsForest) (later : after.IsForest)
    (upward : ∀ lower upper, part lower → before.parent? lower = some upper → part upper)
    (stays : ∀ widget, part widget → ¬ gone widget) : before.host.GrowsInto after.host id part := by
  refine isForest.growsInto later upward ?_ ?_
  · intro lower upper inPart linked
    have upperStays := stays upper (upward lower upper inPart linked)
    exact drops.parent_iff.mpr ⟨linked, stays lower inPart, upperStays⟩
  · intro widget node inPart found
    obtain ⟨parent, pending, there⟩ := drops.exists_node (stays widget inPart) found
    exact ⟨_, there, ⟨rfl, rfl, List.Subset.refl _⟩⟩

end Forest

namespace Scene

variable {ε : Type} {scene : Scene ε} {selector : Selector} {parent root widget : WidgetId}

/-- What was selected below a root is selected below the parent that the root was placed in, whatever the
parent gave up for it. -/
theorem selects_carryOut_insert (isForest : scene.forest.IsForest) (roots : scene.RootsHeld)
    (live : scene.forest.contains root = true) (isRoot : scene.forest.parent? root = none)
    (covers : scene.forest.Covers root widget)
    (selected : selector.selects scene.forest.host widget = true)
    {constraint : Option Constraint} {moved : Forest}
    (inserted : scene.forest.insert parent root constraint = .ok moved) :
    selector.selects (scene.carryOut parent moved).forest.host widget = true := by
  have kept := Selector.Relaxes.refl selector
  have movedForest := isForest.insert inserted
  have grows := isForest.growsInto_insert isRoot inserted
  have hangs := ((isForest.inserted live inserted).hangs live).1
  have carries := carriesOut_insert isForest roots live inserted
  have stillCovers : moved.Covers root widget := by
    refine covers.imp_right fun above => ?_
    have longer := grows.ancestors widget covers
    rw [List.map_id, isForest.ancestors_host, movedForest.ancestors_host] at longer
    exact movedForest.mem_ancestors_iff.mp (longer.subset (isForest.mem_ancestors_iff.mpr above))
  have shares : moved.SharesTree parent widget :=
    (Forest.Covers.sharesTree (Or.inr (IsAbove.of_parent hangs))).of_covers_below stillCovers
  have upward : ∀ lower upper, moved.SharesTree parent lower → moved.parent? lower = some upper →
      moved.SharesTree parent upper :=
    fun _ _ inTree linked => inTree.of_covers (Or.inr (IsAbove.of_parent linked))
  have dropping := carries.drops.growsInto movedForest (isForest_carryOut scene parent movedForest)
    upward carries.stays
  exact kept.selects dropping shares (kept.selects grows covers selected)

theorem selects_commit (isForest : scene.forest.IsForest) (roots : scene.RootsHeld)
    (live : scene.forest.contains root = true) (isRoot : scene.forest.parent? root = none)
    (covers : scene.forest.Covers root widget)
    (selected : selector.selects scene.forest.host widget = true)
    {constraint : Option Constraint} {inserted : Except Fault Forest}
    (isInsertion : ∀ moved, inserted = .ok moved →
      scene.forest.insert parent root constraint = .ok moved) :
    selector.selects (scene.commit parent root (.ofInsertion scene.forest inserted)).2.forest.host
      widget = true := by
  rw [forest_commit]
  cases inserted with
  | error fault =>
      change selector.selects (scene.carryOut parent scene.forest).forest.host widget = true
      rwa [carryOut_self]
  | ok moved =>
      exact selects_carryOut_insert isForest roots live isRoot covers selected (isInsertion moved rfl)

end Scene

/-- Whatever a selector selects, it selects when it is relaxed and when its host has grown. Of the widgets
of a forest it still selects one when a class was added to any of them, and when the root above the widget
was placed in another one; the calls that place it there, in whatever state, may drop other widgets. -/
theorem selection_survives_relaxing_and_growing {ε : Type} (selector : Selector) :
    (∀ (host : Host α) node, selector.selects host node = true →
      ∀ relaxed, selector.Relaxes relaxed → relaxed.selects host node = true) ∧
    (∀ (before : Host α) (after : Host β) place part, before.GrowsInto after place part →
      ∀ node, part node → selector.selects before node = true →
        selector.selects after (place node) = true) ∧
    (∀ (forest : Forest) widget, forest.IsForest → selector.selects forest.host widget = true →
      (∀ other text, selector.selects
        (forest.update other (fun node => (node.addClass text).2)).host widget = true) ∧
      ∀ parent root constraint after, forest.parent? root = none → forest.Covers root widget →
        forest.insert parent root constraint = .ok after →
          selector.selects after.host widget = true) ∧
    ∀ (client : ε) (scene : Scene ε) widget, Scene.Reaches (Scene.fresh client) scene →
      selector.selects scene.forest.host widget = true →
      ∀ parent root, scene.forest.contains root = true → scene.forest.parent? root = none →
        scene.forest.Covers root widget →
          selector.selects (scene.add parent root).2.forest.host widget = true ∧
          ∀ constraint,
            selector.selects (scene.addWith parent root constraint).2.forest.host widget = true := by
  have kept := Selector.Relaxes.refl selector
  refine ⟨?_, ?_, ?_, ?_⟩
  · intro host node selected relaxed relaxes
    exact relaxes.selects (Host.GrowsInto.refl host) trivial selected
  · intro before after place part grows node inPart selected
    exact kept.selects grows inPart selected
  · intro forest widget isForest selected
    refine ⟨fun other text => ?_, fun parent root constraint after isRoot covers inserted => ?_⟩
    · exact kept.selects (isForest.growsInto_addClass other text) trivial selected
    · exact kept.selects (isForest.growsInto_insert isRoot inserted) covers selected
  · intro client scene widget reached selected parent root live isRoot covers
    have isForest := reached.isForest Forest.isForest_empty
    have roots := reached.rootsHeld
    refine ⟨?_, fun constraint => ?_⟩
    · exact Scene.selects_commit isForest roots live isRoot covers selected
        (fun _ => Forest.insert_of_add)
    · exact Scene.selects_commit isForest roots live isRoot covers selected
        (fun _ inserted => inserted)

/-- A field in a row of a form, which hangs nowhere, and a scroll pane that shows a label. -/
def looseForm : Scene Unit :=
  let form := (((Scene.fresh ()).spawn .panel).2.spawn .panel).2
  let made := (((form.spawn .label).2.spawn .scrollPane).2.spawn .label).2
  let hung := (((made.add ⟨0⟩ ⟨1⟩).2.add ⟨1⟩ ⟨2⟩).2.add ⟨3⟩ ⟨4⟩).2
  let formed := hung.update ⟨0⟩ (fun node => node.setClasses "form")
  let rowed := formed.update ⟨1⟩ (fun node => node.setClasses "row")
  rowed.update ⟨2⟩ (fun node => node.setClasses "field")

theorem reaches_looseForm : Scene.Reaches (Scene.fresh ()) looseForm := by
  have spawns : ∀ {scene : Scene Unit}, Scene.Reaches (Scene.fresh ()) scene → ∀ kind,
      Scene.Reaches (Scene.fresh ()) (scene.spawn kind).2 :=
    fun reached kind => reached.trans (Scene.Reaches.step (Scene.Step.spawn _ kind))
  have adds : ∀ {scene : Scene Unit}, Scene.Reaches (Scene.fresh ()) scene → ∀ parent child,
      Scene.Reaches (Scene.fresh ()) (scene.add parent child).2 :=
    fun reached parent child => reached.trans (Scene.Reaches.step (Scene.Step.add _ parent child))
  have classes : ∀ {scene : Scene Unit}, Scene.Reaches (Scene.fresh ()) scene → ∀ widget text,
      Scene.Reaches (Scene.fresh ()) (scene.update widget (fun node => node.setClasses text)) :=
    fun reached widget text =>
      reached.trans (Scene.Reaches.step (Scene.Step.change _ widget (Session.keepsPlace_setClasses text)))
  apply classes (classes (classes (adds (adds (adds ?_ _ _) _ _) _ _) _ _) _ _) _ _
  exact spawns (spawns (spawns (spawns (spawns (Scene.Reaches.refl _) _) _) _) _) _

/-- Reads `* .row *`. -/
def insideRow : Selector := ⟨Clause.glob, [(.descendant, ⟨none, ["row"]⟩), (.descendant, Clause.glob)]⟩

theorem fieldOfForm_relaxes_insideRow : fieldOfForm.Relaxes insideRow := by
  have dropped : ∀ name, Clause.Relaxes ⟨none, [name]⟩ Clause.glob :=
    fun _ => ⟨Or.inl rfl, List.nil_subset _⟩
  have anywhere : Selector.ContextRelaxes [(.child, ⟨none, ["form"]⟩)] [(.descendant, Clause.glob)] :=
    .step .loosened (dropped "form") (.cut [])
  exact ⟨dropped "field", .step (.same .descendant) (Clause.Relaxes.refl _) anywhere⟩

/-- The field is found with less asked for, with a class added to the row, and in the pane, which gives
up its label for the form. -/
theorem looseForm_stays_selected :
    fieldOfForm.selects looseForm.forest.host ⟨2⟩ = true ∧
      insideRow.selects looseForm.forest.host ⟨2⟩ = true ∧
      fieldOfForm.selects (looseForm.forest.update ⟨1⟩ (fun node => (node.addClass "wide").2)).host
        ⟨2⟩ = true ∧
      (∃ after, looseForm.forest.insert ⟨3⟩ ⟨0⟩ none = .ok after ∧
        fieldOfForm.selects after.host ⟨2⟩ = true) ∧
      fieldOfForm.selects (looseForm.add ⟨3⟩ ⟨0⟩).2.forest.host ⟨2⟩ = true := by
  have isForest := reaches_looseForm.isForest Forest.isForest_empty
  have selected : fieldOfForm.selects looseForm.forest.host ⟨2⟩ = true := by decide +kernel
  have isRoot : looseForm.forest.parent? ⟨0⟩ = none := by decide +kernel
  have live : looseForm.forest.contains ⟨0⟩ = true := by decide +kernel
  have below : (⟨0⟩ : WidgetId) ∈ looseForm.forest.ancestors ⟨2⟩ := by decide +kernel
  have covers : looseForm.forest.Covers ⟨0⟩ ⟨2⟩ := Or.inr (isForest.mem_ancestors_iff.mp below)
  have taken : (looseForm.forest.insert ⟨3⟩ ⟨0⟩ none).toOption.isSome = true := by decide +kernel
  obtain ⟨relaxing, growing, hanging, placing⟩ :=
    @selection_survives_relaxing_and_growing WidgetId WidgetId Unit fieldOfForm
  have relaxed := relaxing _ ⟨2⟩ selected insideRow fieldOfForm_relaxes_insideRow
  have classed := growing _ _ id _ (isForest.growsInto_addClass ⟨1⟩ "wide") ⟨2⟩ trivial selected
  have placed := placing () looseForm ⟨2⟩ reaches_looseForm selected ⟨3⟩ ⟨0⟩ live isRoot covers
  refine ⟨selected, relaxed, classed, ?_, placed.1⟩
  cases inserted : looseForm.forest.insert ⟨3⟩ ⟨0⟩ none with
  | error fault =>
      rw [inserted] at taken
      cases taken
  | ok after =>
      have hung := (hanging looseForm.forest ⟨2⟩ isForest selected).2
      exact ⟨after, rfl, hung ⟨3⟩ ⟨0⟩ none after isRoot covers inserted⟩

end StyledTree
