import StyledTree.Proofs.Forest.Lasting

set_option autoImplicit false

namespace StyledTree.Forest

theorem parent?_of_retain {forest : Forest} {keep : WidgetId → Bool} {lower upper : WidgetId}
    (linked : (forest.retain keep).parent? lower = some upper) :
    forest.parent? lower = some upper := by
  rw [parent?_retain] at linked
  split at linked
  · exact (Option.filter_eq_some_iff.mp linked).1
  · cases linked

/-- Only widgets that were strictly below a widget, and new ones, have a parent that they did not have.
Any widget may have lost its parent. -/
structure MovesBelow (widget : WidgetId) (before after : Forest) : Prop where
  places : before.nodes.size ≤ after.nodes.size
  parent : ∀ {lower upper}, lower.index < before.nodes.size →
    after.parent? lower = some upper →
      before.parent? lower = some upper ∨ IsAbove before.parent? widget lower

namespace MovesBelow

variable {forest before after : Forest} {widget : WidgetId}

/-- Where links were only lost, nothing has moved. -/
theorem of_fewer_links (widget : WidgetId) (places : before.nodes.size ≤ after.nodes.size)
    (fewer : ∀ lower upper, after.parent? lower = some upper → before.parent? lower = some upper) :
    MovesBelow widget before after :=
  ⟨places, fun _ linked => Or.inl (fewer _ _ linked)⟩

theorem refl (widget : WidgetId) (forest : Forest) : MovesBelow widget forest forest :=
  of_fewer_links widget (Nat.le_refl _) (fun _ _ linked => linked)

/-- What is dropped does not move. -/
theorem andRetain (moves : MovesBelow widget before after) (keep : WidgetId → Bool) :
    MovesBelow widget before (after.retain keep) where
  places := Nat.le_trans moves.places (Lasts.retain after keep).places
  parent old linked := moves.parent old (parent?_of_retain linked)

/-- Inserting moves the child alone; what else the container held may have to leave. -/
theorem insert (isForest : forest.IsForest) {parent child : WidgetId}
    {constraint : Option Constraint} (below : IsAbove forest.parent? widget child)
    (inserted : forest.insert parent child constraint = .ok after) :
    MovesBelow widget forest after := by
  refine ⟨(Lasts.closedUnderEdits.insert inserted).places, ?_⟩
  intro lower upper _ linked
  obtain ⟨-, -, -, ⟨-, rfl⟩ | ⟨live, rfl⟩⟩ := insert_cases inserted
  · exact Or.inl linked
  · have cleared : (forest.clearedFor parent child).contains child = true := by
      rwa [contains_clearedFor]
    rw [parent?_link _ parent constraint cleared] at linked
    split at linked
    · next same => exact Or.inr (same ▸ below)
    · exact Or.inl (isForest.parent?_clearedFor linked).2

theorem add (isForest : forest.IsForest) {parent child : WidgetId}
    (below : IsAbove forest.parent? widget child) (added : forest.add parent child = .ok after) :
    MovesBelow widget forest after :=
  insert isForest below (insert_of_add added)

/-- What is below a widget in the end was below it, or was below the widget whose tree changed. -/
theorem isAbove (moves : MovesBelow widget before after) (isForest : before.IsForest)
    {upper lower : WidgetId} (above : IsAbove after.parent? upper lower)
    (old : lower.index < before.nodes.size) :
    IsAbove before.parent? upper lower ∨ IsAbove before.parent? widget lower := by
  induction above using Relation.TransGen.head_induction_on with
  | single linked =>
      exact (moves.parent old linked).imp_left IsAbove.of_parent
  | head linked _ ih =>
      rcases moves.parent old linked with same | moved
      · have parentOld := index_lt_of_contains (isForest.contains_parent same)
        exact (ih parentOld).imp (IsAbove.of_above_parent same) (IsAbove.of_above_parent same)
      · exact Or.inr moved

end MovesBelow

structure Unmet (forest : Forest) (visited pending : List WidgetId) : Prop where
  old : ∀ widget ∈ visited ++ pending, widget.index < forest.nodes.size
  apart : (visited ++ pending).Nodup
  below : ∀ upper ∈ pending, ∀ lower ∈ visited ++ pending, ¬ IsAbove forest.parent? upper lower

namespace Unmet

variable {before after : Forest} {visited pending : List WidgetId} {widget : WidgetId}

/-- Moving what is below a widget that is to be visited brings back nothing. -/
theorem moves (unmet : Unmet before visited pending) (isForest : before.IsForest)
    (member : widget ∈ pending) (moves : MovesBelow widget before after) :
    Unmet after visited pending where
  old met listed := Nat.lt_of_lt_of_le (unmet.old met listed) moves.places
  apart := unmet.apart
  below upper isPending lower listed above :=
    (moves.isAbove isForest above (unmet.old lower listed)).elim
      (unmet.below upper isPending lower listed) (unmet.below widget member lower listed)

/-- A visited widget is replaced by its children. -/
theorem visit {forest : Forest} (unmet : Unmet forest visited (widget :: pending))
    (isForest : forest.IsForest) :
    Unmet forest (visited ++ [widget]) (forest.children widget ++ pending) := by
  have listed_iff : ∀ met, met ∈ (visited ++ [widget]) ++ (forest.children widget ++ pending) ↔
      met ∈ visited ++ widget :: pending ∨ met ∈ forest.children widget := by
    intro met
    simp only [List.mem_append, List.mem_cons, List.not_mem_nil]
    tauto
  have head : widget ∈ widget :: pending := List.mem_cons_self
  have linked : ∀ child ∈ forest.children widget, forest.parent? child = some widget :=
    fun child => (isForest.mem_children_iff widget child).mp
  have fresh : ∀ child ∈ forest.children widget, child ∉ visited ++ widget :: pending :=
    fun child isChild listed =>
      unmet.below widget head child listed (IsAbove.of_parent (linked child isChild))
  constructor
  case old =>
    intro met listed
    rcases (listed_iff met).mp listed with earlier | isChild
    · exact unmet.old met earlier
    · exact index_lt_of_contains (isForest.contains_child isChild)
  case apart =>
    have moved : List.Perm ((visited ++ [widget]) ++ (forest.children widget ++ pending))
        (forest.children widget ++ (visited ++ widget :: pending)) := by
      refine List.perm_append_comm_assoc _ _ _ |>.trans ?_
      rw [List.append_assoc, List.singleton_append]
    exact moved.nodup_iff.mpr
      ((isForest.nodup_children widget).append unmet.apart (fun _ => fresh _))
  case below =>
    intro upper isPending lower listed above
    have sibling : lower ∈ forest.children widget →
        upper = widget ∨ IsAbove forest.parent? upper widget :=
      fun isChild => (IsAbove.iff_of_parent (linked lower isChild)).mp above
    rcases List.mem_append.mp isPending with isChild | held
    · have under := IsAbove.of_parent (linked upper isChild)
      rcases (listed_iff lower).mp listed with earlier | lowerChild
      · exact unmet.below widget head lower earlier (under.trans above)
      · rcases sibling lowerChild with rfl | further
        · exact isForest.acyclic upper under
        · exact isForest.acyclic widget (under.trans further)
    · have member := List.mem_cons_of_mem widget held
      rcases (listed_iff lower).mp listed with earlier | lowerChild
      · exact unmet.below upper member lower earlier above
      · rcases sibling lowerChild with rfl | further
        · exact (List.nodup_cons.mp (List.nodup_append.mp unmet.apart).2.1).1 held
        · exact unmet.below upper member widget (List.mem_append_right visited head) further

end Unmet

end StyledTree.Forest
