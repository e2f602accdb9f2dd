import Mathlib.Data.Finset.Card
import Mathlib.Logic.Relation

set_option autoImplicit false

namespace StyledTree

open Relation

variable {α : Type} {related linked : α → α → Prop}

/-- A new link only joins what leads to its start with what its end leads to. -/
theorem transGen_of_new_link {source target : α}
    (new : ∀ node next, linked node next → related node next ∨ node = source ∧ next = target)
    {first last : α} (path : TransGen linked first last) :
    TransGen related first last ∨
      ReflTransGen related first source ∧ ReflTransGen related target last := by
  induction path with
  | single link =>
      rcases new _ _ link with old | ⟨rfl, rfl⟩
      · exact Or.inl (TransGen.single old)
      · exact Or.inr ⟨ReflTransGen.refl, ReflTransGen.refl⟩
  | tail _ link ih =>
      rcases new _ _ link with old | ⟨rfl, rfl⟩
      · exact ih.imp (fun path => path.tail old) (fun parts => ⟨parts.1, parts.2.tail old⟩)
      · rcases ih with path | ⟨start, -⟩
        · exact Or.inr ⟨path.to_reflTransGen, ReflTransGen.refl⟩
        · exact Or.inr ⟨start, ReflTransGen.refl⟩

/-- A link whose end does not lead back to its start closes no circle. -/
theorem acyclic_of_new_link {source target : α}
    (acyclic : ∀ node, ¬ TransGen related node node)
    (new : ∀ node next, linked node next → related node next ∨ node = source ∧ next = target)
    (apart : ¬ ReflTransGen related target source) (node : α) : ¬ TransGen linked node node := by
  intro circle
  rcases transGen_of_new_link new circle with old | ⟨start, back⟩
  · exact acyclic node old
  · exact apart (back.trans start)

/-- Where only links to one node are gone, what a node led to is still what it leads to or what that
node leads to: the rest of the path after its last visit there is still a path. -/
theorem reflTransGen_of_lost_links {target : α}
    (kept : ∀ node next, related node next → linked node next ∨ next = target)
    {first last : α} (path : ReflTransGen related first last) :
    ReflTransGen linked first last ∨ ReflTransGen linked target last := by
  induction path with
  | refl => exact Or.inl ReflTransGen.refl
  | tail _ link ih =>
      rcases kept _ _ link with still | rfl
      · exact ih.imp (fun path => path.tail still) (fun path => path.tail still)
      · exact Or.inr ReflTransGen.refl

/-- A path along links of two kinds stays with the first kind or has a link of the second kind. -/
theorem transGen_or {other : α → α → Prop} {first last : α}
    (path : TransGen (fun node next => related node next ∨ other node next) first last) :
    TransGen related first last ∨
      ∃ node next, other node next ∧
        ReflTransGen (fun node next => related node next ∨ other node next) first node ∧
        ReflTransGen (fun node next => related node next ∨ other node next) next last := by
  induction path with
  | single link =>
      rcases link with one | two
      · exact Or.inl (TransGen.single one)
      · exact Or.inr ⟨_, _, two, ReflTransGen.refl, ReflTransGen.refl⟩
  | tail path link ih =>
      rcases link with one | two
      · rcases ih with before | ⟨node, next, second, start, rest⟩
        · exact Or.inl (before.tail one)
        · exact Or.inr ⟨node, next, second, start, rest.tail (Or.inl one)⟩
      · exact Or.inr ⟨_, _, two, path.to_reflTransGen, ReflTransGen.refl⟩

/-- Links along which a rank falls close no circle. -/
theorem acyclic_of_falls (rank : α → Nat)
    (falls : ∀ node next, related node next → rank next < rank node) (node : α) :
    ¬ TransGen related node node := by
  have lower : ∀ first last, TransGen related first last → rank last < rank first := by
    intro first last path
    induction path with
    | single link => exact falls _ _ link
    | tail _ link ih => exact (falls _ _ link).trans ih
  exact fun circle => Nat.lt_irrefl _ (lower node node circle)

/-- The rank of a node counts what it leads to. -/
theorem exists_rank (nodes : Finset α) (inside : ∀ node next, related node next → next ∈ nodes)
    (acyclic : ∀ node, ¬ TransGen related node node) :
    ∃ rank : α → Nat, (∀ node next, related node next → rank next < rank node) ∧
      ∀ node, rank node ≤ nodes.card := by
  classical
  refine ⟨fun node => (nodes.filter (TransGen related node)).card, ?_, ?_⟩
  · intro node next link
    apply Finset.card_lt_card
    rw [Finset.ssubset_iff_of_subset]
    · refine ⟨next, ?_, ?_⟩
      · rw [Finset.mem_filter]
        exact ⟨inside node next link, TransGen.single link⟩
      · rw [Finset.mem_filter]
        exact fun member => acyclic next member.2
    · intro last member
      rw [Finset.mem_filter] at member ⊢
      exact ⟨member.1, TransGen.head link member.2⟩
  · exact fun node => Finset.card_filter_le nodes _

end StyledTree
