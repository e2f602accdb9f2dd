import Mathlib.Data.List.Basic
import Mathlib.Data.List.Nodup
import Mathlib.Data.List.Pairwise
import Mathlib.Data.List.Perm.Basic
import Mathlib.Logic.Relation

set_option autoImplicit false

namespace StyledTree

variable {α : Type}

/-- The pre-order of some nodes and of all that is below them. -/
inductive Enumerates (children : α → List α) : List α → List α → Prop where
  | nil : Enumerates children [] []
  | cons {node : α} {rest below others : List α} :
    Enumerates children (children node) below → Enumerates children rest others →
      Enumerates children (node :: rest) (node :: (below ++ others))

namespace Enumerates

variable {children : α → List α}

theorem append {first second firstListed secondListed : List α}
    (one : Enumerates children first firstListed)
    (other : Enumerates children second secondListed) :
    Enumerates children (first ++ second) (firstListed ++ secondListed) := by
  induction one with
  | nil => exact other
  | cons below _ _ ih =>
      rw [List.cons_append, List.cons_append, List.append_assoc]
      exact cons below ih

/-- A node without children. -/
theorem leaf_iff {node : α} {rest listed : List α} (leaf : children node = []) :
    Enumerates children (node :: rest) listed ↔
      ∃ others, listed = node :: others ∧ Enumerates children rest others := by
  constructor
  · intro lists
    cases lists with
    | @cons _ _ below others lower right =>
        rw [leaf] at lower
        cases lower
        exact ⟨others, rfl, right⟩
  · rintro ⟨others, rfl, right⟩
    have lower : Enumerates children (children node) [] := by
      rw [leaf]
      exact nil
    exact cons lower right

theorem unique {nodes first second : List α} (one : Enumerates children nodes first)
    (other : Enumerates children nodes second) : first = second := by
  induction one generalizing second with
  | nil =>
      cases other
      rfl
  | cons _ _ ihBelow ihOthers =>
      cases other with
      | cons below others => rw [ihBelow below, ihOthers others]

/-- The pre-order of two lists of nodes falls into the pre-orders of the two. -/
theorem split {first second listed : List α} (lists : Enumerates children (first ++ second) listed) :
    ∃ firstListed secondListed, listed = firstListed ++ secondListed ∧
      Enumerates children first firstListed ∧ Enumerates children second secondListed := by
  induction first generalizing listed with
  | nil => exact ⟨[], listed, rfl, nil, lists⟩
  | cons node rest ih =>
      cases lists with
      | cons below others =>
          obtain ⟨front, back, rfl, one, other⟩ := ih others
          exact ⟨_, back, by rw [List.cons_append, List.append_assoc], cons below one, other⟩

/-- A pre-order depends on the children of the listed nodes alone. -/
theorem congr {other : α → List α} {nodes listed : List α}
    (lists : Enumerates children nodes listed)
    (same : ∀ node ∈ listed, other node = children node) : Enumerates other nodes listed := by
  induction lists with
  | nil => exact nil
  | cons _ _ ihBelow ihOthers =>
      rw [List.forall_mem_cons, List.forall_mem_append] at same
      obtain ⟨atNode, inBelow, inOthers⟩ := same
      refine cons ?_ (ihOthers inOthers)
      rw [atNode]
      exact ihBelow inBelow

/-- Each listed node is one of the given nodes or a child of a listed node, and each of these is
listed. -/
theorem perm_children {nodes listed : List α} (lists : Enumerates children nodes listed) :
    listed.Perm (nodes ++ listed.flatMap children) := by
  classical
  induction lists with
  | nil => exact List.Perm.refl []
  | @cons node rest below others _ _ ihBelow ihOthers =>
      rw [List.perm_iff_count] at ihBelow ihOthers ⊢
      intro met
      have one := ihBelow met
      have two := ihOthers met
      simp only [List.count_cons, List.count_append, List.flatMap_cons, List.flatMap_append] at *
      omega

theorem mem_of_child {nodes listed : List α} (lists : Enumerates children nodes listed)
    {holder child : α} (member : holder ∈ listed) (held : child ∈ children holder) :
    child ∈ listed := by
  rw [lists.perm_children.mem_iff, List.mem_append, List.mem_flatMap]
  exact Or.inr ⟨holder, member, held⟩

theorem mem_of_node {nodes listed : List α} (lists : Enumerates children nodes listed)
    {node : α} (member : node ∈ nodes) : node ∈ listed := by
  rw [lists.perm_children.mem_iff, List.mem_append]
  exact Or.inl member

theorem node_or_held {nodes listed : List α} (lists : Enumerates children nodes listed)
    {met : α} (member : met ∈ listed) :
    met ∈ nodes ∨ ∃ holder ∈ listed, met ∈ children holder := by
  rwa [lists.perm_children.mem_iff, List.mem_append, List.mem_flatMap] at member

/-! Nodes that are listed once. -/

section Unique

variable {nodes listed : List α} (lists : Enumerates children nodes listed) (unique : listed.Nodup)
include lists unique

theorem nodup_nodes : nodes.Nodup :=
  (List.nodup_append.mp (lists.perm_children.nodup_iff.mp unique)).1

theorem nodup_children {holder : α} (member : holder ∈ listed) : (children holder).Nodup :=
  (List.nodup_flatMap.mp
    (List.nodup_append.mp (lists.perm_children.nodup_iff.mp unique)).2.1).1 holder member

theorem not_mem_nodes_of_held {holder child : α} (member : holder ∈ listed)
    (held : child ∈ children holder) : child ∉ nodes := by
  intro isNode
  exact (List.nodup_append.mp (lists.perm_children.nodup_iff.mp unique)).2.2 child isNode child
    (List.mem_flatMap.mpr ⟨holder, member, held⟩) rfl

theorem holder_unique {one other child : α} (oneMember : one ∈ listed) (otherMember : other ∈ listed)
    (oneHolds : child ∈ children one) (otherHolds : child ∈ children other) : one = other := by
  by_contra differ
  have disjoint := (List.nodup_flatMap.mp
    (List.nodup_append.mp (lists.perm_children.nodup_iff.mp unique)).2.1).2
  have symmetric : Std.Symm (Function.onFun List.Disjoint children) :=
    ⟨fun _ _ apart _ one other => apart other one⟩
  exact disjoint.forall oneMember otherMember differ oneHolds otherHolds

end Unique

/-- The listed nodes are the given ones and what is reached from them through children. -/
theorem mem_iff {nodes listed : List α} (lists : Enumerates children nodes listed) {met : α} :
    met ∈ listed ↔ ∃ node ∈ nodes,
      met = node ∨ Relation.TransGen (fun upper lower => lower ∈ children upper) node met := by
  induction lists with
  | nil => simp
  | @cons node rest below others _ _ ihBelow ihOthers =>
      have step : met ∈ below ↔
          Relation.TransGen (fun upper lower => lower ∈ children upper) node met := by
        rw [ihBelow, Relation.TransGen.head'_iff]
        simp only [Relation.reflTransGen_iff_eq_or_transGen]
      rw [List.mem_cons, List.mem_append, step, ihOthers]
      simp only [List.mem_cons, exists_eq_or_imp, or_assoc]

/-- What is reached from two of the nodes is listed twice. -/
theorem node_unique {nodes listed : List α} (lists : Enumerates children nodes listed)
    (unique : listed.Nodup) {one other met : α} (isOne : one ∈ nodes) (isOther : other ∈ nodes)
    (oneReaches : Relation.ReflTransGen (fun upper lower => lower ∈ children upper) one met)
    (otherReaches : Relation.ReflTransGen (fun upper lower => lower ∈ children upper) other met) :
    one = other := by
  rw [Relation.reflTransGen_iff_eq_or_transGen] at oneReaches otherReaches
  induction lists with
  | nil => cases isOne
  | @cons node rest below others lower right _ ihOthers =>
      have single : Enumerates children [node] (node :: below) := by
        have alone := cons lower nil
        rwa [List.append_nil] at alone
      rw [← List.cons_append, List.nodup_append] at unique
      have apart : met ∈ node :: below → met ∉ others :=
        fun inBelow inOthers => unique.2.2 met inBelow met inOthers rfl
      rw [single.mem_iff, right.mem_iff] at apart
      simp only [List.mem_singleton, exists_eq_left] at apart
      rw [List.mem_cons] at isOne isOther
      rcases isOne with rfl | oneRight
      · rcases isOther with rfl | otherRight
        · rfl
        · exact absurd ⟨other, otherRight, otherReaches⟩ (apart oneReaches)
      · rcases isOther with rfl | otherRight
        · exact absurd ⟨one, oneRight, oneReaches⟩ (apart otherReaches)
        · exact ihOthers unique.2.1 oneRight otherRight

/-! Changes of the children of one node. -/

/-- What is below a listed node is listed right after it, and other children of it make a difference
there only. -/
theorem graft [DecidableEq α] {changed : α → List α} {nodes listed : List α} {holder : α}
    (lists : Enumerates children nodes listed) (unique : listed.Nodup) (member : holder ∈ listed)
    (same : ∀ node ∈ listed, node ≠ holder → changed node = children node) :
    ∃ front below back, listed = front ++ holder :: below ++ back ∧
      Enumerates children (children holder) below ∧
        ∀ grown, Enumerates changed (changed holder) grown →
          Enumerates changed nodes (front ++ holder :: grown ++ back) := by
  induction lists with
  | nil => cases member
  | @cons node rest below others lower right ihBelow ihOthers =>
      rw [List.nodup_cons, List.nodup_append] at unique
      obtain ⟨fresh, belowUnique, othersUnique, apart⟩ := unique
      rw [List.forall_mem_cons, List.forall_mem_append] at same
      obtain ⟨sameNode, sameBelow, sameOthers⟩ := same
      by_cases atNode : holder = node
      · -- The node itself has other children; what was listed below it goes.
        subst atNode
        have kept : Enumerates changed rest others := by
          apply right.congr
          intro met isOther
          apply sameOthers met isOther
          rintro rfl
          exact fresh (List.mem_append_right below isOther)
        refine ⟨[], below, others, rfl, lower, ?_⟩
        intro grown grows
        exact cons grows kept
      · have nodeSame := sameNode (Ne.symm atNode)
        rw [List.mem_cons, List.mem_append] at member
        rcases member with equal | inBelow | inOthers
        · exact absurd equal atNode
        · obtain ⟨front, under, back, rfl, holds, grows⟩ := ihBelow belowUnique inBelow sameBelow
          have kept : Enumerates changed rest others := by
            apply right.congr
            intro met isOther
            apply sameOthers met isOther
            rintro rfl
            exact apart met inBelow met isOther rfl
          refine ⟨node :: front, under, back ++ others, by simp, holds, ?_⟩
          intro grown isGrown
          have whole := cons (nodeSame.symm ▸ grows grown isGrown) kept
          simpa using whole
        · obtain ⟨front, under, back, rfl, holds, grows⟩ :=
            ihOthers othersUnique inOthers sameOthers
          have kept : Enumerates changed (children node) below := by
            apply lower.congr
            intro met isBelow
            apply sameBelow met isBelow
            rintro rfl
            exact apart met isBelow met inOthers rfl
          refine ⟨node :: (below ++ front), under, back, by simp, holds, ?_⟩
          intro grown isGrown
          have whole := cons (nodeSame.symm ▸ kept) (grows grown isGrown)
          simpa using whole

/-- What is below a listed node is a part of the list. -/
theorem exists_below [DecidableEq α] {nodes listed : List α} {holder : α}
    (lists : Enumerates children nodes listed) (unique : listed.Nodup) (member : holder ∈ listed) :
    ∃ below, Enumerates children (children holder) below ∧ below.Sublist listed ∧
      holder ∉ below := by
  obtain ⟨front, below, back, rfl, lower, -⟩ := lists.graft unique member (fun _ _ _ => rfl)
  rw [List.append_assoc, List.cons_append] at unique ⊢
  refine ⟨below, lower, ?_, ?_⟩
  · exact ((List.sublist_append_left below back).cons holder).trans
      (List.sublist_append_right front _)
  · rw [List.nodup_append, List.nodup_cons, List.mem_append, not_or] at unique
    exact unique.2.1.1.1

/-- A child that is taken out of its holder is listed after all others, with what is below it. -/
theorem lift [DecidableEq α] {changed : α → List α} {nodes listed : List α} {holder child : α}
    (lists : Enumerates children nodes listed) (unique : listed.Nodup) (member : holder ∈ listed)
    (held : child ∈ children holder)
    (erased : ∀ node ∈ listed, changed node = (children node).erase child) :
    ∃ lifted, Enumerates changed (nodes ++ [child]) lifted ∧ lifted.Perm listed := by
  have same : ∀ node ∈ listed, node ≠ holder → changed node = children node := by
    intro node isListed differ
    rw [erased node isListed, List.erase_of_not_mem]
    exact fun holds => differ (lists.holder_unique unique isListed member holds held)
  obtain ⟨front, below, back, parts, holds, grows⟩ := lists.graft unique member same
  have kept : ∀ node ∈ below, changed node = children node := by
    intro node isBelow
    have isListed : node ∈ listed := by rw [parts]; simp [isBelow]
    apply same node isListed
    rintro rfl
    rw [parts, List.append_assoc, List.nodup_append, List.cons_append, List.nodup_cons] at unique
    exact unique.2.1.1 (List.mem_append_left back isBelow)
  obtain ⟨before, later, around⟩ := List.append_of_mem held
  have removed : changed holder = before ++ later := by
    have once := lists.nodup_children unique member
    rw [around, List.nodup_append] at once
    rw [erased holder member, around, List.erase_append_right, List.erase_cons_head]
    exact fun isBefore => once.2.2 child isBefore child List.mem_cons_self rfl
  rw [around] at holds
  obtain ⟨beforeListed, rest, rfl, one, others⟩ := holds.split
  cases others with
  | @cons _ _ under laterListed lower right =>
      have oneKept := one.congr (fun node isOne => kept node (List.mem_append_left _ isOne))
      have rightKept := right.congr (fun node isRight => kept node (by simp [isRight]))
      have childKept : changed child = children child := kept child (by simp)
      have lowerKept := lower.congr (fun node isLower => kept node (by simp [isLower]))
      have whole := grows (beforeListed ++ laterListed) (removed ▸ oneKept.append rightKept)
      have lifted := whole.append (cons (childKept.symm ▸ lowerKept) nil)
      refine ⟨_, lifted, ?_⟩
      rw [parts, List.perm_iff_count]
      intro met
      simp only [List.count_append, List.count_cons, List.count_nil]
      omega

/-- The last of the nodes becomes the last child of a node that is listed before it. -/
theorem link [DecidableEq α] {changed : α → List α} {nodes front back : List α} {holder child : α}
    (lists : Enumerates children nodes front) (last : Enumerates children [child] back)
    (unique : (front ++ back).Nodup) (member : holder ∈ front)
    (linked : changed holder = children holder ++ [child])
    (same : ∀ node ∈ front ++ back, node ≠ holder → changed node = children node) :
    ∃ listed, Enumerates changed nodes listed ∧ listed.Perm (front ++ back) := by
  have parts := List.nodup_append.mp unique
  obtain ⟨before, below, after, rfl, holds, grows⟩ := lists.graft parts.1 member
    (fun node isFront differ => same node (List.mem_append_left back isFront) differ)
  have belowKept : Enumerates changed (children holder) below := by
    apply holds.congr
    intro node isBelow
    refine same node (by simp [isBelow]) ?_
    rintro rfl
    have once := parts.1
    rw [List.append_assoc, List.nodup_append, List.cons_append, List.nodup_cons] at once
    exact once.2.1.1 (List.mem_append_left after isBelow)
  have lastKept : Enumerates changed [child] back := by
    apply last.congr
    intro node isBack
    refine same node (List.mem_append_right _ isBack) ?_
    rintro rfl
    exact parts.2.2 node member node isBack rfl
  refine ⟨_, grows (below ++ back) (linked ▸ belowKept.append lastKept), ?_⟩
  rw [List.perm_iff_count]
  intro met
  simp only [List.count_append, List.count_cons]
  omega

theorem perm {nodes others listed : List α} (permuted : nodes.Perm others)
    (lists : Enumerates children nodes listed) :
    ∃ relisted, Enumerates children others relisted ∧ relisted.Perm listed := by
  induction permuted generalizing listed with
  | nil => exact ⟨listed, lists, List.Perm.refl listed⟩
  | cons node _ ih =>
      cases lists with
      | cons below others =>
          obtain ⟨relisted, again, same⟩ := ih others
          exact ⟨_, cons below again, (same.append_left _).cons node⟩
  | swap first second rest =>
      cases lists with
      | cons one others =>
          cases others with
          | cons two others =>
              refine ⟨_, cons two (cons one others), ?_⟩
              classical
              rw [List.perm_iff_count]
              intro met
              simp only [List.count_append, List.count_cons]
              omega
  | trans _ _ ihOne ihTwo =>
      obtain ⟨middle, middleLists, one⟩ := ihOne lists
      obtain ⟨relisted, again, two⟩ := ihTwo middleLists
      exact ⟨relisted, again, two.trans one⟩

end Enumerates

/-! Searches. -/

/-- The first node at or below a node, in pre-order and at most `levels` levels deep, that meets a
test. -/
def firstWithin? (children : α → List α) (test : α → Bool) : Nat → α → Option α
  | 0, _ => none
  | levels + 1, node =>
    if test node then some node
    else (children node).findSome? (firstWithin? children test levels)

/-- A search that goes deep enough finds the first of the listed nodes. -/
theorem Enumerates.findSome?_firstWithin? {children : α → List α} {test : α → Bool}
    {nodes listed : List α} (lists : Enumerates children nodes listed) {levels : Nat}
    (enough : listed.length ≤ levels) :
    nodes.findSome? (firstWithin? children test levels) = listed.find? test := by
  induction lists generalizing levels with
  | nil => rfl
  | @cons node rest below others _ _ ihBelow ihOthers =>
      rw [List.length_cons, List.length_append] at enough
      cases levels with
      | zero => omega
      | succ levels =>
          have inBelow := ihBelow (show below.length ≤ levels by omega)
          have inOthers := ihOthers (show others.length ≤ levels + 1 by omega)
          rw [List.findSome?_cons, firstWithin?, inBelow, inOthers]
          by_cases accepted : test node = true
          · rw [if_pos accepted, List.find?_cons_of_pos accepted]
          · rw [if_neg accepted, List.find?_cons_of_neg accepted, List.find?_append]
            cases below.find? test <;> rfl

end StyledTree
