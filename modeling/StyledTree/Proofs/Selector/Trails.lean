import StyledTree.Selector.PlainTree
import StyledTree.Proofs.Forest.Shape

set_option autoImplicit false

namespace StyledTree

variable {α : Type}

def Host.upward (host : Host α) : Nat → Option α → List α
  | _, none => []
  | 0, some ancestor => [ancestor]
  | levels + 1, some ancestor => ancestor :: upward host levels (host.parent? ancestor)

/-- The strict ancestors of a node that a climb comes to, the parent first. -/
def Host.ancestors (host : Host α) (node : α) : List α :=
  host.upward (host.height node) (host.parent? node)

/-- The nodes of the host form trees: every climb ends, within the height of the node. -/
def Host.IsTree (host : Host α) : Prop :=
  ∀ node, Climbs host.parent? node (host.ancestors node)

structure Clause.Meets (clause : Clause) (host : Host α) (node : α) : Prop where
  name : ∀ id, clause.id = some id → host.hasName node id = true
  classes : clause.classes ≠ [] →
    host.hasClassList node = true ∧ ∀ name ∈ clause.classes, host.hasClass node name = true

/-- How the node that meets a clause is tied to the one that meets the clause on its left. -/
def Combinator.Ties (host : Host α) : Combinator → α → α → Prop
  | .child, lower, upper => host.parent? lower = some upper
  | .descendant, lower, upper => IsAbove host.parent? upper lower

/-- Nodes from the subject upward, one for each clause. -/
structure Selector.Trail (selector : Selector) (host : Host α) (node : α) (trail : List α) :
    Prop where
  length : trail.length = selector.depth
  head : trail.head? = some node
  meets : ∀ (index : Nat) clause combinator met,
    selector.clauses[index]? = some (clause, combinator) → trail[index]? = some met →
      clause.Meets host met
  ties : ∀ (index : Nat) clause combinator lower upper,
    selector.clauses[index]? = some (clause, some combinator) → trail[index]? = some lower →
      trail[index + 1]? = some upper → combinator.Ties host lower upper

namespace Host

theorem upward_none (host : Host α) (levels : Nat) : host.upward levels none = [] := by
  cases levels <;> rfl

theorem anyUpward_eq_any (host : Host α) (test : α → Bool) (levels : Nat) (current : Option α) :
    host.anyUpward test levels current = (host.upward levels current).any test := by
  induction levels generalizing current with
  | zero =>
      cases current with
      | none => rfl
      | some ancestor => rw [anyUpward, upward, List.any_cons, List.any_nil, Bool.or_false]
  | succ levels ih =>
      cases current with
      | none => rfl
      | some ancestor => rw [anyUpward, upward, List.any_cons, ih]

theorem head?_ancestors (host : Host α) (node : α) :
    (host.ancestors node).head? = host.parent? node := by
  rw [ancestors]
  cases host.parent? node <;> cases host.height node <;> rfl

/-- A climb that the height allows is what the host has above the node. -/
theorem ancestors_eq_of_climbs {host : Host α} {node : α} {above : List α}
    (climb : Climbs host.parent? node above) (short : above.length ≤ host.height node + 1) :
    host.ancestors node = above := by
  rw [ancestors]
  generalize host.height node = levels at short
  induction climb generalizing levels with
  | root isRoot => rw [isRoot, upward_none]
  | @step node parent above linked further ih =>
      rw [linked]
      cases levels with
      | zero =>
          have last : above = [] := by simpa using short
          rw [upward, last]
      | succ levels =>
          rw [List.length_cons] at short
          rw [upward, ih levels (Nat.le_of_succ_le_succ short)]

end Host

theorem Clause.accepts_iff (clause : Clause) (host : Host α) (node : α) :
    clause.accepts host node = true ↔ clause.Meets host node := by
  rw [accepts, Bool.and_eq_true, Option.all_eq_true, Bool.or_eq_true, List.isEmpty_iff,
    Bool.and_eq_true, List.all_eq_true]
  constructor
  · rintro ⟨name, classes⟩
    exact ⟨name, fun some => classes.resolve_left some⟩
  · rintro ⟨name, classes⟩
    exact ⟨name, Classical.or_iff_not_imp_left.mpr classes⟩

namespace Selector

theorem clauses_nil (subject : Clause) : clauses ⟨subject, []⟩ = [(subject, none)] := rfl

/-- The trail of a lone clause is the node itself. -/
theorem trail_nil_iff {host : Host α} {subject : Clause} {node : α} {trail : List α} :
    Trail ⟨subject, []⟩ host node trail ↔ trail = [node] ∧ subject.Meets host node := by
  constructor
  · intro walked
    obtain ⟨only, rfl⟩ := List.length_eq_one_iff.mp walked.length
    have same : only = node := Option.some.inj walked.head
    subst same
    exact ⟨rfl, walked.meets 0 subject none only rfl rfl⟩
  · rintro ⟨rfl, meets⟩
    refine ⟨rfl, rfl, ?_, ?_⟩
    · intro index clause combinator met atIndex inTrail
      rw [clauses_nil, List.getElem?_singleton] at atIndex
      rw [List.getElem?_singleton] at inTrail
      split at atIndex
      · cases atIndex
        simp_all
      · cases atIndex
    · intro index clause combinator lower upper atIndex
      rw [clauses_nil, List.getElem?_singleton] at atIndex
      split at atIndex <;> cases atIndex

/-- A longer trail is a trail for the clauses on the left, below which the node is tied. -/
theorem trail_cons_iff {host : Host α} {subject clause : Clause} {combinator : Combinator}
    {rest : List (Combinator × Clause)} {node : α} {trail : List α} :
    Trail ⟨subject, (combinator, clause) :: rest⟩ host node trail ↔
      subject.Meets host node ∧ ∃ upper above, trail = node :: above ∧
        combinator.Ties host node upper ∧ Trail ⟨clause, rest⟩ host upper above := by
  constructor
  · intro walked
    match trail, walked with
    | [], walked => exact absurd walked.length (by simp [depth])
    | [_], walked => exact absurd walked.length (by simp [depth])
    | first :: upper :: above, walked =>
      have same : first = node := Option.some.inj walked.head
      subst same
      refine ⟨walked.meets 0 subject _ first rfl rfl, upper, upper :: above, rfl,
        walked.ties 0 subject combinator first upper rfl rfl rfl, ?_, rfl, ?_, ?_⟩
      · simpa [depth] using walked.length
      · intro index other tie met atIndex inTrail
        exact walked.meets (index + 1) other tie met atIndex inTrail
      · intro index other tie lower higher atIndex inTrail next
        exact walked.ties (index + 1) other tie lower higher atIndex inTrail next
  · rintro ⟨meets, upper, above, rfl, tied, walked⟩
    refine ⟨?_, rfl, ?_, ?_⟩
    · simpa [depth] using walked.length
    · intro index other tie met atIndex inTrail
      cases index with
      | zero =>
          cases atIndex
          cases inTrail
          exact meets
      | succ index => exact walked.meets index other tie met atIndex inTrail
    · intro index other tie lower higher atIndex inTrail next
      cases index with
      | zero =>
          cases atIndex
          cases inTrail
          have first : above[0]? = some upper := by rw [← List.head?_eq_getElem?, walked.head]
          have same : upper = higher := Option.some.inj (first.symm.trans next)
          rwa [← same]
      | succ index => exact walked.ties index other tie lower higher atIndex inTrail next

theorem contextHolds_descendant (host : Host α) (clause : Clause)
    (rest : List (Combinator × Clause)) (node : α) :
    contextHolds host ((.descendant, clause) :: rest) node =
      (host.ancestors node).any (selects ⟨clause, rest⟩ host) := by
  rw [contextHolds, Host.anyUpward_eq_any]
  rfl

/-- The matcher tries every node that the combinator allows. -/
theorem contextHolds_cons_iff {host : Host α} (isTree : host.IsTree) (combinator : Combinator)
    (clause : Clause) (rest : List (Combinator × Clause)) (node : α) :
    contextHolds host ((combinator, clause) :: rest) node = true ↔
      ∃ upper, combinator.Ties host node upper ∧ selects ⟨clause, rest⟩ host upper = true := by
  cases combinator with
  | child =>
      rw [contextHolds]
      cases linked : host.parent? node with
      | none => simp [Combinator.Ties, linked]
      | some parent => simp [Combinator.Ties, linked, selects]
  | descendant =>
      rw [contextHolds_descendant, List.any_eq_true]
      simp only [Combinator.Ties, (isTree node).mem_iff]

/-- A selector selects exactly the nodes that a trail starts from. -/
theorem selects_iff_exists_trail (host : Host α) (isTree : host.IsTree) (selector : Selector)
    (node : α) :
    selector.selects host node = true ↔ ∃ trail, selector.Trail host node trail := by
  obtain ⟨subject, context⟩ := selector
  induction context generalizing subject node with
  | nil =>
      rw [selects, contextHolds, Bool.and_true, Clause.accepts_iff]
      simp only [trail_nil_iff, exists_eq_left]
  | cons step rest ih =>
      obtain ⟨combinator, clause⟩ := step
      rw [selects, Bool.and_eq_true, Clause.accepts_iff, contextHolds_cons_iff isTree]
      constructor
      · rintro ⟨meets, upper, tied, selected⟩
        obtain ⟨above, walked⟩ := (ih upper clause).mp selected
        exact ⟨node :: above, trail_cons_iff.mpr ⟨meets, upper, above, rfl, tied, walked⟩⟩
      · rintro ⟨trail, walked⟩
        obtain ⟨meets, upper, above, -, tied, left⟩ := trail_cons_iff.mp walked
        exact ⟨meets, upper, tied, (ih upper clause).mpr ⟨above, left⟩⟩

end Selector

theorem PlainTree.exists_climb (tree : PlainTree) (index : Nat) :
    ∃ above, Climbs tree.parent? index above ∧ above.length ≤ index := by
  induction index using Nat.strongRecOn with
  | ind index ih =>
      cases linked : tree.parent? index with
      | none => exact ⟨[], Climbs.root linked, Nat.zero_le index⟩
      | some parent =>
          have named := (Option.filter_eq_some_iff.mp linked).2
          have earlier : parent < index := of_decide_eq_true named
          obtain ⟨above, climb, short⟩ := ih parent earlier
          exact ⟨parent :: above, Climbs.step linked climb, Nat.lt_of_le_of_lt short earlier⟩

/-- Every plain tree is a tree to the matcher, since parents come before their children. -/
theorem PlainTree.isTree_host (tree : PlainTree) : tree.host.IsTree := by
  intro index
  obtain ⟨above, climb, short⟩ := tree.exists_climb index
  have same : tree.host.ancestors index = above :=
    Host.ancestors_eq_of_climbs climb (Nat.le_succ_of_le short)
  rw [same]
  exact climb

/-- A field in a row that lies in another row, which lies in a form. -/
def nestedRows : PlainTree :=
  ⟨#[⟨none, some ["form"], none⟩, ⟨none, some ["row"], some 0⟩, ⟨some "cell", none, some 1⟩,
    ⟨none, some ["row"], some 2⟩, ⟨none, some ["field"], some 3⟩]⟩

/-- Reads `.form > .row .field`: the nearer row is no child of a form, the farther one is. -/
def fieldOfForm : Selector :=
  ⟨⟨none, ["field"]⟩, [(.descendant, ⟨none, ["row"]⟩), (.child, ⟨none, ["form"]⟩)]⟩

theorem farther_row_is_found :
    nestedRows.host.IsTree ∧ fieldOfForm.selects nestedRows.host 4 = true ∧
      ∃ trail, fieldOfForm.Trail nestedRows.host 4 trail := by
  have isTree := nestedRows.isTree_host
  have selected : fieldOfForm.selects nestedRows.host 4 = true := by decide +kernel
  exact ⟨isTree, selected,
    (Selector.selects_iff_exists_trail nestedRows.host isTree fieldOfForm 4).mp selected⟩

theorem Forest.IsForest.ancestors_host {forest : Forest} (isForest : forest.IsForest)
    (widget : WidgetId) : forest.host.ancestors widget = forest.ancestors widget :=
  Host.ancestors_eq_of_climbs (isForest.climbs_ancestors widget)
    (Nat.le_succ_of_le (forest.length_climb_le _ widget))

/-- The widgets of a forest are a tree to the matcher. -/
theorem Forest.IsForest.isTree_host {forest : Forest} (isForest : forest.IsForest) :
    forest.host.IsTree := by
  intro widget
  rw [isForest.ancestors_host]
  exact isForest.climbs_ancestors widget

end StyledTree
