import StyledTree.Proofs.Forest.Edits

set_option autoImplicit false

namespace StyledTree.Forest

/-- A change of a node that leaves it what it is and where it hangs. A change of other fields does so
as it stands. -/
structure KeepsLinks (change : Node → Node) : Prop where
  kind : ∀ node, (change node).kind = node.kind := by exact fun _ => rfl
  parent : ∀ node, (change node).parent = node.parent := by exact fun _ => rfl
  children : ∀ node, (change node).children = node.children := by exact fun _ => rfl

structure KeepsPlace (change : Node → Node) : Prop extends KeepsLinks change where
  constraint : ∀ node, (change node).constraint = node.constraint := by exact fun _ => rfl
  pending : ∀ node, (change node).pending = node.pending := by exact fun _ => rfl

theorem KeepsPlace.setLayout (layout : Layout) : KeepsPlace (fun node => node.setLayout layout) := by
  refine ⟨⟨?_, ?_, ?_⟩, ?_, ?_⟩ <;> (intro node; rw [Node.setLayout]; split <;> rfl)

theorem isForest_empty : empty.IsForest where
  mem_children_iff _ _ := by simp [children, parent?, get?, empty]
  nodup_children _ := by simp [children, get?, empty]
  acyclic widget above := by
    have live := contains_of_isAbove above
    simp [contains, get?, empty] at live
  isContainer _ _ member := by simp [children, get?, empty] at member
  scrollPane _ found := by simp [kind?, get?, empty] at found

namespace IsForest

variable {forest : Forest}

/-- Taking links away leaves a forest; a widget that changes its kind is left without children. -/
theorem of_fewer_links (isForest : forest.IsForest) {after : Forest} (kept : WidgetId → Prop)
    (parents : ∀ child parent,
      after.parent? child = some parent ↔ forest.parent? child = some parent ∧ kept child)
    (members : ∀ parent child,
      child ∈ after.children parent ↔ child ∈ forest.children parent ∧ kept child)
    (lists : ∀ parent, (after.children parent).Sublist (forest.children parent))
    (kinds : ∀ widget,
      after.kind? widget = forest.kind? widget ∨ after.children widget = []) :
    after.IsForest where
  mem_children_iff parent child := by
    rw [members, parents, isForest.mem_children_iff]
  nodup_children parent := (isForest.nodup_children parent).sublist (lists parent)
  acyclic widget above :=
    isForest.acyclic widget (above.mono (fun lower upper linked =>
      ((parents lower upper).mp linked).1))
  isContainer parent child member := by
    rcases kinds parent with same | childless
    · rw [isContainer_eq_any_kind?, same, ← isContainer_eq_any_kind?]
      exact isForest.isContainer parent child ((members parent child).mp member).1
    · rw [childless] at member
      cases member
  scrollPane pane found := by
    rcases kinds pane with same | childless
    · exact Nat.le_trans (lists pane).length_le (isForest.scrollPane pane (same.symm.trans found))
    · simp [childless]

/-- The same links make a forest again. -/
theorem of_same_links (isForest : forest.IsForest) {after : Forest}
    (parents : ∀ widget, after.parent? widget = forest.parent? widget)
    (lists : ∀ widget, after.children widget = forest.children widget)
    (kinds : ∀ widget,
      after.kind? widget = forest.kind? widget ∨ forest.children widget = []) :
    after.IsForest := by
  apply isForest.of_fewer_links (fun _ => True)
  · intro child parent
    rw [parents, and_true]
  · intro parent child
    rw [lists, and_true]
  · intro parent
    rw [lists]
  · intro widget
    rw [lists]
    exact kinds widget

theorem update (isForest : forest.IsForest) (widget : WidgetId) {change : Node → Node}
    (keeps : KeepsLinks change) : (forest.update widget change).IsForest := by
  apply isForest.of_same_links
  · intro other
    rw [parent?_update]
    simp only [keeps.parent, parent?, ite_self]
  · intro other
    rw [children_update]
    simp only [keeps.children, children, ite_self]
  · exact fun other => Or.inl (kind?_update forest widget other keeps.kind)

theorem create (isForest : forest.IsForest) (kind : Kind) : (forest.create kind).2.IsForest := by
  apply isForest.of_same_links (parent?_create forest kind) (children_create forest kind)
  intro widget
  rw [kind?, get?_create]
  split
  · next same =>
    refine Or.inr ?_
    rw [same, children, get?_create_fst]
    rfl
  · exact Or.inl rfl

theorem retain (isForest : forest.IsForest) (keep : WidgetId → Bool) :
    (forest.retain keep).IsForest := by
  apply isForest.of_fewer_links (fun child =>
    keep child = true ∧ ∀ parent, forest.parent? child = some parent → keep parent = true)
  · intro child parent
    rw [parent?_retain]
    split
    · next kept =>
      rw [Option.filter_eq_some_iff]
      simp only [kept, true_and]
      constructor
      · rintro ⟨linked, keptParent⟩
        refine ⟨linked, ?_⟩
        intro other otherLinked
        rwa [← Option.some.inj (linked.symm.trans otherLinked)]
      · rintro ⟨linked, keptParents⟩
        exact ⟨linked, keptParents parent linked⟩
    · next dropped => simp [dropped]
  · intro parent child
    rw [children_retain]
    split
    · next kept =>
      rw [List.mem_filter]
      constructor
      · rintro ⟨member, keptChild⟩
        refine ⟨member, keptChild, ?_⟩
        intro other linked
        have listed := (isForest.mem_children_iff other child).mpr linked
        have same := isForest.parent_unique listed member
        rwa [same]
      · rintro ⟨member, keptChild, _⟩
        exact ⟨member, keptChild⟩
    · next dropped =>
      constructor
      · intro member
        cases member
      · rintro ⟨member, _, keptParents⟩
        have linked := (isForest.mem_children_iff parent child).mp member
        exact absurd (keptParents parent linked) dropped
  · intro parent
    rw [children_retain]
    split
    · exact List.filter_sublist
    · exact List.nil_sublist _
  · intro widget
    rw [kind?_retain, children_retain]
    split
    · exact Or.inl rfl
    · exact Or.inr rfl

theorem remove (isForest : forest.IsForest) (parent child : WidgetId) :
    (forest.remove parent child).2.IsForest := by
  by_cases member : child ∈ forest.children parent
  · apply isForest.of_fewer_links (fun widget => widget ≠ child)
    · intro lower upper
      rw [parent?_remove forest member]
      by_cases same : lower = child <;> simp [same]
    · intro upper lower
      rw [children_remove forest member]
      split
      · rw [List.mem_filter, bne_iff_ne]
      · next other =>
        constructor
        · intro listed
          refine ⟨listed, ?_⟩
          rintro rfl
          exact other (isForest.parent_unique listed member)
        · exact And.left
    · intro upper
      rw [children_remove forest member]
      split
      · exact List.filter_sublist
      · exact List.Sublist.refl _
    · exact fun widget => Or.inl (kind?_remove forest parent child widget)
  · rw [remove_of_not_mem forest member]
    exact isForest

theorem removeAll (isForest : forest.IsForest) (parent : WidgetId) :
    (forest.removeAll parent).IsForest := by
  apply isForest.of_fewer_links (fun widget => widget ∉ forest.children parent)
  · intro lower upper
    rw [parent?_removeAll]
    by_cases member : lower ∈ forest.children parent <;> simp [member]
  · intro upper lower
    rw [children_removeAll]
    split
    · next same => simp [same]
    · next other =>
      constructor
      · intro listed
        exact ⟨listed, fun member => other (isForest.parent_unique listed member)⟩
      · exact And.left
  · intro upper
    rw [children_removeAll]
    split
    · exact List.nil_sublist _
    · exact List.Sublist.refl _
  · exact fun widget => Or.inl (kind?_removeAll forest parent widget)

theorem detach (isForest : forest.IsForest) (widget : WidgetId) :
    (forest.detach widget).2.IsForest := by
  rw [Forest.detach]
  split
  · exact isForest.remove _ widget
  · exact isForest

theorem parent?_detach (isForest : forest.IsForest) (widget other : WidgetId) :
    (forest.detach widget).2.parent? other =
      if other = widget then none else forest.parent? other := by
  rw [Forest.detach]
  split
  · next parent linked =>
    exact parent?_remove forest ((isForest.mem_children_iff parent widget).mpr linked) other
  · next isRoot =>
    split
    · next same => rw [same, isRoot]
    · rfl

/-- A container takes any child that hangs nowhere and is not at or above it; a scroll pane has to be
empty. -/
theorem link (isForest : forest.IsForest) {parent child : WidgetId}
    (constraint : Option Constraint) (container : forest.isContainer parent = true)
    (live : forest.contains child = true) (free : forest.parent? child = none)
    (apart : child ≠ parent) (notAbove : ¬ IsAbove forest.parent? child parent)
    (room : forest.kind? parent = some .scrollPane → forest.children parent = []) :
    (forest.link parent child constraint).IsForest := by
  have parentLive : forest.contains parent = true := by
    rw [isContainer_eq_any_kind?] at container
    rw [contains_eq_isSome_kind?]
    cases found : forest.kind? parent with
    | none => simp [found] at container
    | some kind => rfl
  have parents := parent?_link forest parent constraint live
  have lists := children_link forest child constraint parentLive
  have unlisted : ∀ other, child ∉ forest.children other := by
    intro other member
    rw [isForest.mem_children_iff, free] at member
    cases member
  constructor
  · intro upper lower
    rw [lists, parents]
    by_cases isChild : lower = child
    · subst isChild
      by_cases isParent : upper = parent
      · simp [isParent]
      · simp [isParent, unlisted, Ne.symm isParent]
    · by_cases isParent : upper = parent
      · simp [isParent, isChild, isForest.mem_children_iff]
      · simp [isParent, isChild, isForest.mem_children_iff]
  · intro upper
    rw [lists]
    split
    · rw [← List.concat_eq_append]
      exact (isForest.nodup_children upper).concat (unlisted upper)
    · exact isForest.nodup_children upper
  · have new : (forest.link parent child constraint).parent? child = some parent := by
      rw [parents, if_pos rfl]
    apply IsAbove.irrefl_of_new_link isForest.acyclic new
    · intro node differ
      rw [parents, if_neg differ]
    · exact apart
    · exact notAbove
  · intro upper lower member
    rw [isContainer_eq_any_kind?, kind?_link, ← isContainer_eq_any_kind?]
    rw [lists] at member
    split at member
    · next same => rwa [same]
    · exact isForest.isContainer upper lower member
  · intro pane found
    rw [kind?_link] at found
    rw [lists]
    split
    · next same => simp [same, room (same ▸ found)]
    · exact isForest.scrollPane pane found

theorem clearedFor (isForest : forest.IsForest) (parent child : WidgetId) :
    (forest.clearedFor parent child).IsForest := by
  rw [Forest.clearedFor]
  split
  · exact (isForest.detach child).removeAll parent
  · exact isForest.detach child

/-- Making room for a child only takes links away, the one to the child's parent among them. -/
theorem parent?_clearedFor (isForest : forest.IsForest) {parent child lower upper : WidgetId}
    (linked : (forest.clearedFor parent child).parent? lower = some upper) :
    lower ≠ child ∧ forest.parent? lower = some upper := by
  have detached : (forest.detach child).2.parent? lower = some upper := by
    rw [Forest.clearedFor] at linked
    split at linked
    · rw [parent?_removeAll] at linked
      split at linked
      · cases linked
      · exact linked
    · exact linked
  rw [isForest.parent?_detach] at detached
  split at detached
  · cases detached
  · next differ => exact ⟨differ, detached⟩

/-- A child that is not refused leaves a forest: it is moved with all below it, and its new parent is
neither itself nor below it. -/
theorem insert (isForest : forest.IsForest) {parent child : WidgetId}
    {constraint : Option Constraint} {after : Forest}
    (inserted : forest.insert parent child constraint = .ok after) : after.IsForest := by
  obtain ⟨container, apart, outside, ⟨_, rfl⟩ | ⟨live, rfl⟩⟩ := insert_cases inserted
  · exact isForest
  · have kinds : ∀ widget, (forest.clearedFor parent child).kind? widget = forest.kind? widget :=
      kind?_clearedFor forest parent child
    apply (isForest.clearedFor parent child).link
    · rwa [isContainer_eq_any_kind?, kinds, ← isContainer_eq_any_kind?]
    · rwa [contains_clearedFor]
    · by_contra linked
      obtain ⟨upper, found⟩ := Option.ne_none_iff_exists'.mp linked
      exact (isForest.parent?_clearedFor found).1 rfl
    · exact apart
    · intro above
      have before := above.mono (fun _ _ linked => (isForest.parent?_clearedFor linked).2)
      rw [← isForest.isBelow_iff, outside] at before
      cases before
    · intro scrollPane
      rw [kinds] at scrollPane
      rw [Forest.clearedFor, if_pos scrollPane, children_removeAll, if_pos rfl]

theorem vacate (isForest : forest.IsForest) (parent : WidgetId) (constraint : Constraint)
    (spared : Option WidgetId) : (forest.vacate parent constraint spared).IsForest := by
  rw [Forest.vacate]
  split
  · exact isForest
  · next occupant _ =>
    split
    · exact isForest
    · exact isForest.remove parent occupant

end IsForest

end StyledTree.Forest
