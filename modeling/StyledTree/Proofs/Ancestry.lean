import Mathlib.Data.List.Nodup
import StyledTree.Proofs.Linking

set_option autoImplicit false

namespace StyledTree

variable {α : Type}

def IsAbove (parent? : α → Option α) (upper lower : α) : Prop :=
  Relation.TransGen (fun lower upper => parent? lower = some upper) lower upper

/-- Climbing from a node, parent by parent, ends after it met these nodes. -/
inductive Climbs (parent? : α → Option α) : α → List α → Prop where
  | root {node : α} : parent? node = none → Climbs parent? node []
  | step {node parent : α} {above : List α} :
    parent? node = some parent → Climbs parent? parent above →
      Climbs parent? node (parent :: above)

namespace IsAbove

variable {parent? : α → Option α}

theorem of_parent {upper lower : α} (linked : parent? lower = some upper) :
    IsAbove parent? upper lower :=
  Relation.TransGen.single linked

/-- Whatever is above a parent is above its children. -/
theorem of_above_parent {upper parent lower : α} (linked : parent? lower = some parent)
    (above : IsAbove parent? upper parent) : IsAbove parent? upper lower :=
  Relation.TransGen.head linked above

theorem trans {top middle bottom : α} (upper : IsAbove parent? top middle)
    (lower : IsAbove parent? middle bottom) : IsAbove parent? top bottom :=
  Relation.TransGen.trans lower upper

/-- A strict ancestor is the parent or above the parent. -/
theorem iff_of_parent {upper parent lower : α} (linked : parent? lower = some parent) :
    IsAbove parent? upper lower ↔ upper = parent ∨ IsAbove parent? upper parent := by
  constructor
  · intro above
    obtain ⟨next, first, rest⟩ := Relation.TransGen.head'_iff.mp above
    have same : next = parent := Option.some.inj (first.symm.trans linked)
    subst same
    rcases Relation.reflTransGen_iff_eq_or_transGen.mp rest with equal | further
    · exact Or.inl equal
    · exact Or.inr further
  · rintro (rfl | further)
    · exact of_parent linked
    · exact of_above_parent linked further

theorem not_of_root {upper lower : α} (isRoot : parent? lower = none) :
    ¬ IsAbove parent? upper lower := by
  intro above
  obtain ⟨next, first, -⟩ := Relation.TransGen.head'_iff.mp above
  rw [isRoot] at first
  cases first

/-- Two ancestors of one node are on one line. -/
theorem comparable {first second lower : α} (one : IsAbove parent? first lower)
    (other : IsAbove parent? second lower) :
    first = second ∨ IsAbove parent? first second ∨ IsAbove parent? second first := by
  induction one using Relation.TransGen.head_induction_on with
  | single linked =>
      rcases (iff_of_parent linked).mp other with rfl | further
      · exact Or.inl rfl
      · exact Or.inr (Or.inr further)
  | head linked above ih =>
      rcases (iff_of_parent linked).mp other with rfl | further
      · exact Or.inr (Or.inl above)
      · exact ih further

/-- Fewer links give fewer ancestors. -/
theorem mono {fewer : α → Option α}
    (kept : ∀ lower upper, fewer lower = some upper → parent? lower = some upper)
    {upper lower : α} (above : IsAbove fewer upper lower) : IsAbove parent? upper lower :=
  Relation.TransGen.mono kept _ _ above

/-- A link from a child to a parent that is not below it closes no circle. -/
theorem irrefl_of_new_link {linked : α → Option α} {parent child : α}
    (acyclic : ∀ node, ¬ IsAbove parent? node node)
    (new : linked child = some parent) (old : ∀ node, node ≠ child → linked node = parent? node)
    (apart : child ≠ parent) (below : ¬ IsAbove parent? child parent) (node : α) :
    ¬ IsAbove linked node node := by
  have steps : ∀ lower upper, linked lower = some upper →
      parent? lower = some upper ∨ lower = child ∧ upper = parent := by
    intro lower upper step
    by_cases same : lower = child
    · subst same
      exact Or.inr ⟨rfl, Option.some.inj (step.symm.trans new)⟩
    · rw [old lower same] at step
      exact Or.inl step
  refine acyclic_of_new_link acyclic steps ?_ node
  intro back
  rcases Relation.reflTransGen_iff_eq_or_transGen.mp back with same | above
  · exact apart same
  · exact below above

end IsAbove

namespace Climbs

variable {parent? : α → Option α}

theorem unique {node : α} {first second : List α} (one : Climbs parent? node first)
    (other : Climbs parent? node second) : first = second := by
  induction one generalizing second with
  | root isRoot =>
      cases other with
      | root _ => rfl
      | step linked _ => rw [isRoot] at linked; cases linked
  | step linked _ ih =>
      cases other with
      | root isRoot => rw [isRoot] at linked; cases linked
      | step otherLinked rest =>
          have same := Option.some.inj (linked.symm.trans otherLinked)
          subst same
          rw [ih rest]

/-- A climb meets the strict ancestors and nothing else. -/
theorem mem_iff {node upper : α} {above : List α} (climb : Climbs parent? node above) :
    upper ∈ above ↔ IsAbove parent? upper node := by
  induction climb with
  | root isRoot =>
      constructor
      · intro member
        cases member
      · intro higher
        exact absurd higher (IsAbove.not_of_root isRoot)
  | step linked _ ih => rw [List.mem_cons, ih, IsAbove.iff_of_parent linked]

/-- The first node that meets a test, going up from a node, is below all other ancestors that do. -/
theorem nearest_of_find? {test : α → Bool} {node found : α} {above : List α}
    (climb : Climbs parent? node above) (search : (node :: above).find? test = some found)
    {other : α} (accepted : test other = true) (isUpper : other = node ∨ IsAbove parent? other node) :
    other = found ∨ IsAbove parent? other found := by
  induction climb with
  | root isRoot =>
      obtain rfl | above := isUpper
      · rw [List.find?_cons_of_pos accepted] at search
        exact Or.inl (Option.some.inj search)
      · exact absurd above (IsAbove.not_of_root isRoot)
  | @step node parent above linked _ ih =>
      by_cases here : test node = true
      · rw [List.find?_cons_of_pos here] at search
        rwa [← Option.some.inj search]
      · rw [List.find?_cons_of_neg here] at search
        refine ih search ?_
        obtain rfl | above := isUpper
        · exact absurd accepted here
        · exact (IsAbove.iff_of_parent linked).mp above

/-- A climb depends on the parents of the nodes that it meets alone. -/
theorem of_same_parents {other : α → Option α} {kept : α → Prop}
    (upward : ∀ lower upper, kept lower → parent? lower = some upper → kept upper)
    (same : ∀ node, kept node → other node = parent? node) {node : α} {above : List α}
    (climb : Climbs parent? node above) (start : kept node) : Climbs other node above := by
  induction climb with
  | root isRoot => exact Climbs.root ((same _ start).trans isRoot)
  | step linked _ ih =>
      exact Climbs.step ((same _ start).trans linked) (ih (upward _ _ start linked))

/-- Where more nodes have parents, a climb meets the same nodes first. -/
theorem isPrefix {other : α → Option α} {kept : α → Prop}
    (upward : ∀ lower upper, kept lower → parent? lower = some upper → kept upper)
    (more : ∀ lower upper, kept lower → parent? lower = some upper → other lower = some upper)
    {node : α} {above higher : List α} (climb : Climbs parent? node above)
    (longer : Climbs other node higher) (start : kept node) : above <+: higher := by
  induction climb generalizing higher with
  | root _ => exact List.nil_prefix
  | step linked _ ih =>
      have still := more _ _ start linked
      cases longer with
      | root isRoot =>
          rw [still] at isRoot
          cases isRoot
      | step otherLinked rest =>
          obtain rfl := Option.some.inj (still.symm.trans otherLinked)
          exact (List.prefix_cons_inj _).mpr (ih rest (upward _ _ start linked))

end Climbs

end StyledTree
