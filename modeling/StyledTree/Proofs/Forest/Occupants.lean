import StyledTree.Proofs.Forest.Editing
import StyledTree.Proofs.Forest.Placing

set_option autoImplicit false

namespace StyledTree.Forest

def occupants (forest : Forest) (container : WidgetId) (place : Constraint) : List WidgetId :=
  (forest.children container).filter (fun child => forest.constraint? child == some place)

/-- The first occupant left the place, and nobody came. It is empty exactly if there was no second one. -/
structure ClearsPlace (container : WidgetId) (place : Constraint) (before after : Forest) : Prop where
  occupants : after.occupants container place = (before.occupants container place).tail
  empty_iff : after.childAt? container place = none ↔
    (before.occupants container place).length ≤ 1

/-- The first occupant left the place, and a widget came in behind the others. It is the only one there,
and the one that is found there, exactly if nobody else was there behind the first. -/
structure TakesPlace (container widget : WidgetId) (place : Constraint) (before after : Forest) :
    Prop where
  occupants : after.occupants container place =
    (before.occupants container place).tail.filter (fun other => other != widget) ++ [widget]
  alone_iff : after.occupants container place = [widget] ↔
    ∀ other ∈ (before.occupants container place).tail, other = widget
  found_iff : after.childAt? container place = some widget ↔
    ∀ other ∈ (before.occupants container place).tail, other = widget

theorem childAt?_eq_head? (forest : Forest) (container : WidgetId) (place : Constraint) :
    forest.childAt? container place = (forest.occupants container place).head? :=
  List.head?_filter.symm

theorem mem_occupants_iff {forest : Forest} {container child : WidgetId} {place : Constraint} :
    child ∈ forest.occupants container place ↔
      child ∈ forest.children container ∧ forest.constraint? child = some place := by
  rw [occupants, List.mem_filter, beq_iff_eq]

section Outcomes

variable {before after : Forest} {container widget : WidgetId} {place : Constraint}

theorem ClearsPlace.of_occupants
    (left : after.occupants container place = (before.occupants container place).tail) :
    ClearsPlace container place before after := by
  refine ⟨left, ?_⟩
  rw [childAt?_eq_head?, left, List.head?_eq_none_iff, ← List.length_eq_zero_iff, List.length_tail]
  omega

theorem TakesPlace.of_occupants
    (left : after.occupants container place =
      (before.occupants container place).tail.filter (fun other => other != widget) ++ [widget]) :
    TakesPlace container widget place before after := by
  have others : (before.occupants container place).tail.filter (fun other => other != widget) = [] ↔
      ∀ other ∈ (before.occupants container place).tail, other = widget := by
    simp only [List.filter_eq_nil_iff, bne_iff_ne, ne_eq, Decidable.not_not]
  refine ⟨left, ?_, ?_⟩
  · rw [left, List.append_left_eq_self, others]
  · rw [childAt?_eq_head?, left, ← others, List.head?_append]
    cases stay : (before.occupants container place).tail.filter (fun other => other != widget) with
    | nil => exact iff_of_true rfl rfl
    | cons other rest =>
        have differs : other ≠ widget := by
          have member := stay ▸ List.mem_cons_self
          exact bne_iff_ne.mp (List.mem_filter.mp member).2
        refine iff_of_false ?_ (List.cons_ne_nil other rest)
        rw [List.head?_cons, Option.some_or, Option.some.injEq]
        exact differs

end Outcomes

theorem TakenOut.children {before after : Forest} {parent child : WidgetId}
    (takenOut : TakenOut parent child before after) :
    after.children parent = (before.children parent).filter (fun other => other != child) := by
  rw [Forest.children, takenOut.strikes, Forest.children]
  cases before.get? parent <;> rfl

theorem TakenOut.constraint?_eq {before after : Forest} {parent child widget : WidgetId}
    (takenOut : TakenOut parent child before after) (differ : widget ≠ child) :
    after.constraint? widget = before.constraint? widget := by
  rw [constraint?, constraint?]
  by_cases isParent : widget = parent
  · rw [isParent, takenOut.strikes]
    cases before.get? parent <;> rfl
  · rw [takenOut.elsewhere widget isParent differ]

theorem TakenOut.occupants {before after : Forest} {parent child : WidgetId}
    (takenOut : TakenOut parent child before after) (place : Constraint) :
    after.occupants parent place =
      (before.occupants parent place).filter (fun other => other != child) := by
  rw [Forest.occupants, takenOut.children, Forest.occupants, List.filter_filter, List.filter_filter]
  apply List.filter_congr
  intro other _
  by_cases same : other = child
  · simp [same]
  · rw [takenOut.constraint?_eq same, Bool.and_comm]

theorem Inserted.children {before after : Forest} {parent child : WidgetId}
    {constraint : Option Constraint} (inserted : Inserted parent child constraint before after) :
    after.children parent =
      ((before.get? parent).map (fun node => (node.holding child).children)).getD [] := by
  rw [Forest.children, inserted.lists, Option.map_map]
  rfl

/-- The container lists the child last, and a scroll pane lists nothing else. -/
theorem Inserted.children_of_contains {before after : Forest} {parent child : WidgetId}
    {constraint : Option Constraint} (inserted : Inserted parent child constraint before after)
    (parentLive : before.contains parent = true) :
    after.children parent =
      (if before.kind? parent = some .scrollPane then []
        else (before.children parent).filter (fun other => other != child)) ++ [child] := by
  obtain ⟨node, found⟩ := Option.isSome_iff_exists.mp parentLive
  rw [inserted.children, kind?, Forest.children, found, Option.map_some, Option.map_some,
    Option.map_some, Option.getD_some, Option.getD_some, Node.holding]
  by_cases scrolls : node.kind = .scrollPane
  · rw [if_pos scrolls, if_pos (congrArg some scrolls)]
  · rw [if_neg scrolls, if_neg (fun same => scrolls (Option.some.inj same)), Node.without]

/-- A container gives up for a child what it has to, and nothing else. -/
theorem Inserted.mem_lost_iff {before after : Forest} {parent child widget : WidgetId}
    {constraint : Option Constraint} (inserted : Inserted parent child constraint before after) :
    widget ∈ before.lost after parent ↔ before.Evicts parent child widget := by
  rw [Forest.mem_lost_iff, inserted.children, Evicts, kind?, Forest.children]
  cases before.get? parent with
  | none => simp
  | some node =>
      simp only [Option.map_some, Option.getD_some, Node.holding, Option.some.injEq]
      by_cases scrolls : node.kind = .scrollPane
      · simp [scrolls]
      · simp only [scrolls, if_false, false_and, iff_false, Node.without, List.mem_append,
          List.mem_filter, bne_iff_ne, List.mem_singleton]
        tauto

/-- Only a scroll pane gives up something for a child. -/
theorem IsForest.lost_eq_nil_of_insert {forest after : Forest} (isForest : forest.IsForest)
    {parent child : WidgetId} {constraint : Option Constraint}
    (done : forest.insert parent child constraint = .ok after)
    (noScroll : forest.kind? parent ≠ some .scrollPane) : forest.lost after parent = [] := by
  rw [List.eq_nil_iff_forall_not_mem]
  intro widget lost
  obtain ⟨-, -, -, ⟨-, rfl⟩ | ⟨live, -⟩⟩ := insert_cases done
  · obtain ⟨member, left⟩ := Forest.mem_lost_iff.mp lost
    exact left member
  · exact noScroll ((isForest.inserted live done).mem_lost_iff.mp lost).1

theorem Vacated.mem_lost_iff {before after : Forest} {container widget : WidgetId}
    {place : Constraint} {spared : Option WidgetId}
    (vacated : Vacated container place spared before after) :
    widget ∈ before.lost after container ↔ before.IsDisplaced container place spared widget := by
  rw [Forest.mem_lost_iff, IsDisplaced]
  by_cases leaves : ∃ occupant, before.childAt? container place = some occupant ∧
      spared ≠ some occupant
  · obtain ⟨occupant, found, differ⟩ := leaves
    have takenOut := vacated.loses occupant found differ
    rw [takenOut.children, List.mem_filter, bne_iff_ne, found, Option.some.injEq]
    constructor
    · rintro ⟨member, struck⟩
      have same : widget = occupant := by
        by_contra other
        exact struck ⟨member, other⟩
      rw [same]
      exact ⟨rfl, differ⟩
    · rintro ⟨rfl, -⟩
      exact ⟨mem_children_of_childAt? found, fun stays => stays.2 rfl⟩
  · have unchanged : after = before := by
      rw [vacated.unchanged_iff]
      intro occupant found
      by_contra differ
      exact leaves ⟨occupant, found, differ⟩
    rw [unchanged]
    exact iff_of_false (fun lost => lost.2 lost.1) (fun found => leaves ⟨widget, found⟩)

theorem Inserted.constraint?_eq {before after : Forest} {parent child widget : WidgetId}
    {constraint : Option Constraint} (inserted : Inserted parent child constraint before after)
    (differ : widget ≠ child) (stays : ¬ before.Evicts parent child widget) :
    after.constraint? widget = before.constraint? widget := by
  rw [constraint?, constraint?]
  by_cases isParent : widget = parent
  · rw [isParent, inserted.lists]
    cases before.get? parent <;> rfl
  · by_cases linked : before.parent? child = some widget
    · rw [inserted.strikes widget linked isParent stays]
      cases before.get? widget <;> rfl
    · rw [inserted.elsewhere widget differ isParent linked stays]

/-- The child comes in behind the other occupants, and a scroll pane keeps none of them. -/
theorem Inserted.occupants {before after : Forest} {parent child : WidgetId} {place : Constraint}
    (inserted : Inserted parent child (some place) before after)
    (live : before.contains child = true) (parentLive : before.contains parent = true) :
    after.occupants parent place =
      (if before.kind? parent = some .scrollPane then []
        else (before.occupants parent place).filter (fun other => other != child)) ++ [child] := by
  have comes := (inserted.hangs live).2.1
  rw [Forest.occupants, inserted.children_of_contains parentLive, List.filter_append,
    List.filter_cons_of_pos (by simpa using comes), List.filter_nil]
  congr 1
  split
  · rfl
  · next noScroll =>
    rw [Forest.occupants, List.filter_filter, List.filter_filter]
    apply List.filter_congr
    intro other _
    by_cases same : other = child
    · simp [same]
    · have stays : ¬ before.Evicts parent child other := fun leaves => noScroll leaves.1
      rw [inserted.constraint?_eq same stays, Bool.and_comm]

section Edits

variable {forest : Forest} (isForest : forest.IsForest)
include isForest

theorem IsForest.nodup_occupants (container : WidgetId) (place : Constraint) :
    (forest.occupants container place).Nodup :=
  (isForest.nodup_children container).filter _

/-- The first occupant leaves the place, and no other, unless it is spared. -/
theorem IsForest.occupants_vacate {container : WidgetId} {place : Constraint} {spared : Option WidgetId}
    (leaves : ∀ occupant, forest.childAt? container place = some occupant → spared ≠ some occupant) :
    (forest.vacate container place spared).occupants container place =
      (forest.occupants container place).tail := by
  have vacated := isForest.vacated_vacate container place spared
  have unique := isForest.nodup_occupants container place
  cases found : forest.childAt? container place with
  | none =>
      have same := vacated.unchanged_iff.mpr (fun occupant other => by rw [found] at other; cases other)
      rw [childAt?_eq_head?, List.head?_eq_none_iff] at found
      rw [same, found, List.tail_nil]
  | some first =>
      have takenOut := vacated.loses first found (leaves first found)
      obtain ⟨rest, present⟩ := List.head?_eq_some_iff.mp ((childAt?_eq_head? ..).symm.trans found)
      rw [present] at unique
      rw [takenOut.occupants, present, ← unique.erase_eq_filter, List.erase_cons_head, List.tail_cons]

theorem IsForest.clearsPlace_vacate (container : WidgetId) (place : Constraint) :
    ClearsPlace container place forest (forest.vacate container place none) :=
  ClearsPlace.of_occupants (isForest.occupants_vacate (fun _ _ => nofun))

/-- For a widget that comes in itself it makes no difference whether it was spared. -/
theorem IsForest.filter_occupants_vacate {container widget : WidgetId} {place : Constraint}
    {spared : Option WidgetId} (spares : ∀ other, spared = some other → other = widget) :
    ((forest.vacate container place spared).occupants container place).filter
        (fun other => other != widget) =
      (forest.occupants container place).tail.filter (fun other => other != widget) := by
  by_cases leaves : ∀ occupant, forest.childAt? container place = some occupant →
      spared ≠ some occupant
  · rw [isForest.occupants_vacate leaves]
  · simp only [not_forall, Decidable.not_not] at leaves
    obtain ⟨first, found, isSpared⟩ := leaves
    obtain rfl := spares first isSpared
    have same := (isForest.vacated_vacate container place spared).unchanged_iff.mpr
      (fun occupant other => by rw [isSpared, ← found, other])
    obtain ⟨rest, present⟩ := List.head?_eq_some_iff.mp ((childAt?_eq_head? ..).symm.trans found)
    rw [same, present, List.tail_cons, List.filter_cons_of_neg (by simp)]

/-- A widget that is not refused comes in behind the occupants that stayed. -/
theorem IsForest.exists_takesPlace {container widget : WidgetId} {place : Constraint}
    {spared : Option WidgetId} (spares : ∀ other, spared = some other → other = widget)
    (live : forest.contains widget = true)
    (accepted : ∀ fault, ¬ forest.Refuses container widget (some place) fault) :
    ∃ after, (forest.vacate container place spared).insert container widget (some place) =
        .ok after ∧
      TakesPlace container widget place forest after := by
  have room := isForest.vacate container place spared
  have vacated := isForest.vacated_vacate container place spared
  have kinds : ∀ other, (forest.vacate container place spared).kind? other = forest.kind? other :=
    vacated.map_eq Node.kind (fun _ _ => rfl) (fun _ => rfl)
  cases placed : (forest.vacate container place spared).insert container widget (some place) with
  | error fault =>
      have refused : forest.insert container widget (some place) = .error fault :=
        isForest.insert_vacate_eq_error_iff.mp placed
      refine absurd ((isForest.insert_eq_error_iff_refuses ?_).mp refused) (accepted fault)
      exact nofun
  | ok after =>
      have widgetLive : (forest.vacate container place spared).contains widget = true := by
        rwa [contains_eq_isSome_kind?, kinds, ← contains_eq_isSome_kind?]
      have containerLive := contains_of_isContainer (insert_cases placed).1
      have comes := (room.inserted widgetLive placed).occupants widgetLive containerLive
      refine ⟨after, rfl, TakesPlace.of_occupants ?_⟩
      rw [comes, isForest.filter_occupants_vacate spares, kinds]
      by_cases scrolls : forest.kind? container = some .scrollPane
      · -- a scroll pane shows one child at most, and so nobody stands behind the first one
        have few : (forest.occupants container place).length ≤ 1 :=
          Nat.le_trans (List.length_filter_le _ _) (isForest.scrollPane container scrolls)
        have nobody : (forest.occupants container place).tail = [] := by
          rw [← List.length_eq_zero_iff, List.length_tail]
          omega
        rw [if_pos scrolls, nobody, List.filter_nil]
      · rw [if_neg scrolls]

end Edits

end StyledTree.Forest
