import StyledTree.Forest.Links
import StyledTree.Proofs.Forest.Shape

set_option autoImplicit false

namespace StyledTree.Forest

/-- A change of a node comes to what it does to the node that is there. -/
theorem update_congr {forest : Forest} {widget : WidgetId} {first second : Node → Node}
    (same : ∀ node, forest.get? widget = some node → first node = second node) :
    forest.update widget first = forest.update widget second := by
  rw [update, update]
  congr 1
  apply Array.ext_getElem?
  intro index
  rw [Array.getElem?_modify, Array.getElem?_modify]
  split
  · next atWidget =>
    subst atWidget
    cases place : forest.nodes[widget.index]? with
    | none => rfl
    | some held =>
        cases held with
        | none => rfl
        | some node =>
            have there : forest.get? widget = some node := by
              rw [get?, place]
              rfl
            simp only [Option.map_some, same node there]
  · rfl

theorem parent?_update (forest : Forest) (widget other : WidgetId) (change : Node → Node) :
    (forest.update widget change).parent? other =
      if other = widget then (forest.get? other).bind (fun node => (change node).parent)
      else forest.parent? other := by
  rw [parent?, get?_update]
  split
  · cases forest.get? other <;> rfl
  · rfl

theorem children_update (forest : Forest) (widget other : WidgetId) (change : Node → Node) :
    (forest.update widget change).children other =
      if other = widget then ((forest.get? other).map (fun node => (change node).children)).getD []
      else forest.children other := by
  rw [children, get?_update]
  split
  · cases forest.get? other <;> rfl
  · rfl

theorem kind?_update (forest : Forest) (widget other : WidgetId) {change : Node → Node}
    (kept : ∀ node, (change node).kind = node.kind) :
    (forest.update widget change).kind? other = forest.kind? other := by
  rw [kind?, get?_update]
  split
  · cases found : forest.get? other with
    | none => simp [kind?, found]
    | some node => simp [kind?, found, kept]
  · rfl

theorem isContainer_eq_any_kind? (forest : Forest) (widget : WidgetId) :
    forest.isContainer widget = (forest.kind? widget).any Kind.isContainer := by
  cases found : forest.get? widget <;> simp [isContainer, kind?, found, Node.isContainer]

theorem contains_eq_isSome_kind? (forest : Forest) (widget : WidgetId) :
    forest.contains widget = (forest.kind? widget).isSome := by
  cases found : forest.get? widget <;> simp [contains, kind?, found]

/-! Orphans. -/

@[simp] theorem kind?_orphan (forest : Forest) (widget other : WidgetId) :
    (forest.orphan widget).kind? other = forest.kind? other :=
  kind?_update forest widget other (fun _ => rfl)

@[simp] theorem parent?_orphan (forest : Forest) (widget other : WidgetId) :
    (forest.orphan widget).parent? other =
      if other = widget then none else forest.parent? other := by
  rw [orphan, parent?_update]
  cases forest.get? other <;> rfl

@[simp] theorem children_orphan (forest : Forest) (widget other : WidgetId) :
    (forest.orphan widget).children other = forest.children other := by
  rw [orphan, children_update, children, ite_self]

@[simp] theorem kind?_orphans (forest : Forest) (orphans : List WidgetId) (widget : WidgetId) :
    (orphans.foldl orphan forest).kind? widget = forest.kind? widget := by
  induction orphans generalizing forest with
  | nil => rfl
  | cons first rest ih => rw [List.foldl_cons, ih, kind?_orphan]

theorem parent?_orphans (forest : Forest) (orphans : List WidgetId) (widget : WidgetId) :
    (orphans.foldl orphan forest).parent? widget =
      if widget ∈ orphans then none else forest.parent? widget := by
  induction orphans generalizing forest with
  | nil => simp
  | cons first rest ih =>
      rw [List.foldl_cons, ih, parent?_orphan]
      by_cases same : widget = first <;> simp [same]

@[simp] theorem children_orphans (forest : Forest) (orphans : List WidgetId) (widget : WidgetId) :
    (orphans.foldl orphan forest).children widget = forest.children widget := by
  induction orphans generalizing forest with
  | nil => rfl
  | cons first rest ih => rw [List.foldl_cons, ih, children_orphan]

/-! A changed list of children. -/

abbrev updateChildren (forest : Forest) (widget : WidgetId)
    (change : List WidgetId → List WidgetId) : Forest :=
  forest.update widget (fun node => { node with children := change node.children })

theorem kind?_updateChildren (forest : Forest) (widget other : WidgetId)
    (change : List WidgetId → List WidgetId) :
    (forest.updateChildren widget change).kind? other = forest.kind? other :=
  kind?_update forest widget other (fun _ => rfl)

theorem parent?_updateChildren (forest : Forest) (widget other : WidgetId)
    (change : List WidgetId → List WidgetId) :
    (forest.updateChildren widget change).parent? other = forest.parent? other := by
  rw [parent?_update, parent?, ite_self]

theorem children_updateChildren (forest : Forest) (widget other : WidgetId)
    (change : List WidgetId → List WidgetId) (live : forest.contains widget = true) :
    (forest.updateChildren widget change).children other =
      if other = widget then change (forest.children other) else forest.children other := by
  rw [children_update]
  split
  · next same =>
    subst same
    cases found : forest.get? other with
    | none => simp [contains, found] at live
    | some node => simp [children, found]
  · rfl

/-! Taking children out. -/

theorem remove_of_not_mem (forest : Forest) {parent child : WidgetId}
    (absent : child ∉ forest.children parent) : forest.remove parent child = (false, forest) := by
  simp [remove, absent]

theorem remove_of_mem (forest : Forest) {parent child : WidgetId}
    (member : child ∈ forest.children parent) :
    forest.remove parent child =
      (true, (forest.updateChildren parent
        (fun listed => listed.filter (fun other => other != child))).orphan child) := by
  simp [remove, member]

theorem kind?_remove (forest : Forest) (parent child widget : WidgetId) :
    (forest.remove parent child).2.kind? widget = forest.kind? widget := by
  by_cases member : child ∈ forest.children parent
  · rw [remove_of_mem forest member, kind?_orphan, kind?_updateChildren]
  · rw [remove_of_not_mem forest member]

theorem parent?_remove (forest : Forest) {parent child : WidgetId}
    (member : child ∈ forest.children parent) (widget : WidgetId) :
    (forest.remove parent child).2.parent? widget =
      if widget = child then none else forest.parent? widget := by
  rw [remove_of_mem forest member, parent?_orphan, parent?_updateChildren]

theorem children_remove (forest : Forest) {parent child : WidgetId}
    (member : child ∈ forest.children parent) (widget : WidgetId) :
    (forest.remove parent child).2.children widget =
      if widget = parent then (forest.children widget).filter (fun other => other != child)
      else forest.children widget := by
  rw [remove_of_mem forest member, children_orphan,
    children_updateChildren _ _ _ _ (contains_of_mem_children member)]

theorem kind?_removeAll (forest : Forest) (parent widget : WidgetId) :
    (forest.removeAll parent).kind? widget = forest.kind? widget := by
  rw [removeAll, kind?_orphans]
  exact kind?_updateChildren forest parent widget (fun _ => [])

theorem parent?_removeAll (forest : Forest) (parent widget : WidgetId) :
    (forest.removeAll parent).parent? widget =
      if widget ∈ forest.children parent then none else forest.parent? widget := by
  rw [removeAll, parent?_orphans]
  split
  · rfl
  · exact parent?_updateChildren forest parent widget (fun _ => [])

theorem children_removeAll (forest : Forest) (parent widget : WidgetId) :
    (forest.removeAll parent).children widget =
      if widget = parent then [] else forest.children widget := by
  rw [removeAll, children_orphans, children_update]
  cases forest.get? widget <;> rfl

/-! Linking a child. -/

abbrev placed (forest : Forest) (parent child : WidgetId) (constraint : Option Constraint) :
    Forest :=
  forest.update child (fun node =>
    { node with parent := some parent, constraint := constraint, pending := none })

theorem link_eq (forest : Forest) (parent child : WidgetId) (constraint : Option Constraint) :
    forest.link parent child constraint =
      (forest.placed parent child constraint).updateChildren parent
        (fun listed => listed ++ [child]) := rfl

theorem kind?_placed (forest : Forest) (parent child widget : WidgetId)
    (constraint : Option Constraint) :
    (forest.placed parent child constraint).kind? widget = forest.kind? widget :=
  kind?_update forest child widget (fun _ => rfl)

theorem kind?_link (forest : Forest) (parent child widget : WidgetId)
    (constraint : Option Constraint) :
    (forest.link parent child constraint).kind? widget = forest.kind? widget := by
  rw [link_eq, kind?_updateChildren, kind?_placed]

theorem parent?_link (forest : Forest) (parent : WidgetId) {child : WidgetId}
    (constraint : Option Constraint) (live : forest.contains child = true) (widget : WidgetId) :
    (forest.link parent child constraint).parent? widget =
      if widget = child then some parent else forest.parent? widget := by
  rw [link_eq, parent?_updateChildren, parent?_update]
  split
  · next same =>
    subst same
    cases found : forest.get? widget with
    | none => simp [contains, found] at live
    | some node => rfl
  · rfl

theorem children_link (forest : Forest) {parent : WidgetId} (child : WidgetId)
    (constraint : Option Constraint) (live : forest.contains parent = true) (widget : WidgetId) :
    (forest.link parent child constraint).children widget =
      if widget = parent then forest.children widget ++ [child] else forest.children widget := by
  have unmoved : (forest.placed parent child constraint).children widget =
      forest.children widget := by
    rw [children_update, children, ite_self]
  have stillLive : (forest.placed parent child constraint).contains parent = true := by
    rw [contains_eq_isSome_kind?, kind?_placed, ← contains_eq_isSome_kind?]
    exact live
  rw [link_eq, children_updateChildren _ _ _ _ stillLive, unmoved]

/-- The forest in which a child is linked: it was taken out, and so was the view of a scroll pane. -/
def clearedFor (forest : Forest) (parent child : WidgetId) : Forest :=
  if forest.kind? parent = some .scrollPane then (forest.detach child).2.removeAll parent
  else (forest.detach child).2

theorem kind?_detach (forest : Forest) (widget other : WidgetId) :
    (forest.detach widget).2.kind? other = forest.kind? other := by
  rw [detach]
  split
  · exact kind?_remove forest _ widget other
  · rfl

theorem kind?_clearedFor (forest : Forest) (parent child widget : WidgetId) :
    (forest.clearedFor parent child).kind? widget = forest.kind? widget := by
  rw [clearedFor]
  split
  · rw [kind?_removeAll, kind?_detach]
  · rw [kind?_detach]

theorem contains_clearedFor (forest : Forest) (parent child widget : WidgetId) :
    (forest.clearedFor parent child).contains widget = forest.contains widget := by
  rw [contains_eq_isSome_kind?, kind?_clearedFor, ← contains_eq_isSome_kind?]

theorem contains_of_isContainer {forest : Forest} {widget : WidgetId}
    (container : forest.isContainer widget = true) : forest.contains widget = true :=
  Option.isSome_of_any container

/-- An insertion that is not refused links the child, unless it is gone. -/
theorem insert_cases {forest after : Forest} {parent child : WidgetId}
    {constraint : Option Constraint} (inserted : forest.insert parent child constraint = .ok after) :
    forest.isContainer parent = true ∧ child ≠ parent ∧ forest.isBelow parent child = false ∧
      (forest.contains child = false ∧ after = forest ∨
        forest.contains child = true ∧
          after = (forest.clearedFor parent child).link parent child constraint) := by
  rw [insert] at inserted
  split at inserted
  · cases inserted
  · next node found =>
    split at inserted
    · cases inserted
    · next container =>
      split at inserted
      · cases inserted
      · next outside =>
        have kind : forest.kind? parent = some node.kind := by rw [kind?, found]; rfl
        rw [Bool.or_eq_true, not_or, decide_eq_true_eq, Bool.not_eq_true] at outside
        refine ⟨?_, outside.1, outside.2, ?_⟩
        · simpa [isContainer, found] using container
        · split at inserted
          · next gone =>
            cases inserted
            exact Or.inl ⟨by simpa using gone, rfl⟩
          · next live =>
            cases inserted
            refine Or.inr ⟨by simpa using live, ?_⟩
            simp only [clearedFor, kind, Option.some.injEq]

/-- An addition that is not refused is an insertion. -/
theorem insert_of_add {forest after : Forest} {parent child : WidgetId}
    (added : forest.add parent child = .ok after) : forest.insert parent child none = .ok after := by
  rw [add] at added
  split at added
  · cases added
  · split at added
    · cases added
    · exact added

/-! Sweeping and creating. -/

/-- The node of each widget after a sweep: who is dropped, and every link to it, is gone. -/
theorem get?_retain (forest : Forest) (keep : WidgetId → Bool) (widget : WidgetId) :
    (forest.retain keep).get? widget =
      if keep widget then
        (forest.get? widget).map (fun node =>
          { node with
            parent := node.parent.filter keep
            pending := node.pending.filter keep
            children := node.children.filter keep })
      else none := by
  simp only [get?, retain, Array.getElem?_mapIdx]
  cases forest.nodes[widget.index]? with
  | none => simp
  | some place => cases place <;> by_cases kept : keep widget = true <;> simp [kept]

theorem kind?_retain (forest : Forest) (keep : WidgetId → Bool) (widget : WidgetId) :
    (forest.retain keep).kind? widget = if keep widget then forest.kind? widget else none := by
  rw [kind?, get?_retain]
  split
  · cases found : forest.get? widget <;> simp [kind?, found]
  · rfl

theorem parent?_retain (forest : Forest) (keep : WidgetId → Bool) (widget : WidgetId) :
    (forest.retain keep).parent? widget =
      if keep widget then (forest.parent? widget).filter keep else none := by
  rw [parent?, get?_retain]
  split
  · cases found : forest.get? widget <;> simp [parent?, found]
  · rfl

theorem children_retain (forest : Forest) (keep : WidgetId → Bool) (widget : WidgetId) :
    (forest.retain keep).children widget =
      if keep widget then (forest.children widget).filter keep else [] := by
  rw [children, get?_retain]
  split
  · cases found : forest.get? widget <;> simp [children, found]
  · rfl

/-- The new widget is the only one whose node is new. -/
theorem get?_create (forest : Forest) (kind : Kind) (widget : WidgetId) :
    (forest.create kind).2.get? widget =
      if widget = (forest.create kind).1 then some (.fresh kind) else forest.get? widget := by
  simp only [create, get?, Array.getElem?_push]
  by_cases same : widget.index = forest.nodes.size
  · have equal : widget = ⟨forest.nodes.size⟩ := by rw [← same]
    simp [equal]
  · have differ : widget ≠ ⟨forest.nodes.size⟩ := by
      intro equal
      exact same (congrArg WidgetId.index equal)
    simp [same, differ]

theorem get?_create_fst (forest : Forest) (kind : Kind) :
    forest.get? (forest.create kind).1 = none := by
  simp [get?, create]

theorem parent?_create (forest : Forest) (kind : Kind) (widget : WidgetId) :
    (forest.create kind).2.parent? widget = forest.parent? widget := by
  rw [parent?, get?_create]
  split
  · next same => rw [same, parent?, get?_create_fst]; rfl
  · rfl

theorem children_create (forest : Forest) (kind : Kind) (widget : WidgetId) :
    (forest.create kind).2.children widget = forest.children widget := by
  rw [children, get?_create]
  split
  · next same => rw [same, children, get?_create_fst]; rfl
  · rfl

end StyledTree.Forest
