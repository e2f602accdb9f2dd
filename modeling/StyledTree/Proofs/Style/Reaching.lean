import StyledTree.Proofs.Style.Groves

set_option autoImplicit false

namespace StyledTree.Styles

open Relation

def Reached (styles : Styles) (tops : List StyleId) (style : StyleId) : Prop :=
  ∃ top ∈ tops, ReflTransGen (fun upper lower => lower ∈ styles.links upper) top style

variable {styles before after : Styles} {tops others : List StyleId} {style : StyleId}

theorem Reached.of_top (isTop : style ∈ tops) : styles.Reached tops style :=
  ⟨style, isTop, ReflTransGen.refl⟩

theorem Reached.follow {lower : StyleId} (reached : styles.Reached tops style)
    (path : ReflTransGen (fun upper lower => lower ∈ styles.links upper) style lower) :
    styles.Reached tops lower := by
  obtain ⟨top, isTop, start⟩ := reached
  exact ⟨top, isTop, start.trans path⟩

/-- Longer lists of links, and other tops that still lead to the old ones, lose nothing. -/
theorem Reached.of_subset (reached : before.Reached tops style)
    (links : ∀ upper, before.links upper ⊆ after.links upper)
    (kept : ∀ top ∈ tops, after.Reached others top) : after.Reached others style := by
  obtain ⟨top, isTop, path⟩ := reached
  refine (kept top isTop).follow (ReflTransGen.mono ?_ _ _ path)
  exact fun upper _ member => links upper member

/-- Where the reached styles got no new links, nothing new is reached. -/
theorem Reached.of_same_links (reached : after.Reached tops style)
    (same : ∀ upper, before.Reached tops upper → after.links upper = before.links upper) :
    before.Reached tops style := by
  obtain ⟨top, isTop, path⟩ := reached
  induction path with
  | refl => exact Reached.of_top isTop
  | tail _ link ih =>
      rw [same _ ih] at link
      exact ih.follow (ReflTransGen.single link)

theorem Reached.made (reached : styles.Reached tops style) (sound : styles.Sound)
    (topsMade : ∀ top ∈ tops, styles.Made top) : styles.Made style := by
  obtain ⟨top, isTop, path⟩ := reached
  cases path with
  | refl => exact topsMade _ isTop
  | tail _ link => exact sound.made _ _ link

theorem get?_asChain_of_made {other : StyleId} (otherMade : styles.Made other) {id : StyleId}
    (made : styles.Made id) : (styles.asChain id).2.get? other = styles.get? other := by
  rcases styles.asChain_cases id with ⟨-, same⟩ | ⟨-, same⟩
  · rw [same]
  · rw [same, (wrapping made).elsewhere other otherMade]

theorem links_eq_of_get? {id : StyleId} (same : after.get? id = before.get? id) :
    after.links id = before.links id := by
  rw [links, links, children, children, wrapped?, wrapped?, same]

theorem links_subset_wrap {id : StyleId} (made : styles.Made id) (upper : StyleId) :
    styles.links upper ⊆ (styles.wrap id).2.links upper := by
  intro lower member
  have upperMade := made_of_isChain (isChain_of_mem_links member)
  rwa [links_eq_of_get? ((wrapping made).elsewhere upper upperMade)]

theorem links_subset_asChain {id : StyleId} (made : styles.Made id) (upper : StyleId) :
    styles.links upper ⊆ (styles.asChain id).2.links upper := by
  intro lower member
  have upperMade := made_of_isChain (isChain_of_mem_links member)
  rwa [links_eq_of_get? (get?_asChain_of_made upperMade made)]

theorem Wrapping.mem_links {id : StyleId} (wrapping : Wrapping styles id) :
    id ∈ (styles.wrap id).2.links (styles.wrap id).1 :=
  (Styles.mem_links _ _ id).mpr (Or.inr wrapping.wrapped)

/-- The chain that stands for a style is the style or leads to it. -/
theorem asChain_leads {id : StyleId} (made : styles.Made id) :
    ReflTransGen (fun upper lower => lower ∈ (styles.asChain id).2.links upper)
      (styles.asChain id).1 id := by
  rcases styles.asChain_cases id with ⟨-, same⟩ | ⟨-, same⟩
  · rw [same]
  · rw [same]
    exact ReflTransGen.single (wrapping made).mem_links

theorem mem_links_detach {upper lower : StyleId} (tops : List StyleId) (child : StyleId)
    (member : lower ∈ styles.links upper) :
    lower ∈ (styles.detach tops child).links upper ∨ lower = child := by
  by_cases same : lower = child
  · exact Or.inr same
  · refine Or.inl ?_
    rw [mem_links, wrapped?_detach]
    rw [mem_links] at member
    refine member.imp_left ?_
    intro held
    rw [detach]
    split
    · exact held
    · next holder _ =>
      rw [children_eraseSheet]
      split
      · exact (List.mem_erase_of_ne same).mpr held
      · exact held

theorem links_append_of_ne (styles : Styles) {upper parent : StyleId} (differ : upper ≠ parent)
    (child : StyleId) : (styles.append parent child).links upper = styles.links upper := by
  rw [links, children_append, if_neg (fun both => differ both.1), append, wrapped?_updateSheets]
  rfl

theorem links_subset_append (styles : Styles) (parent child upper : StyleId) :
    styles.links upper ⊆ (styles.append parent child).links upper := by
  intro lower member
  rw [mem_links] at member ⊢
  rw [children_append, append, wrapped?_updateSheets]
  refine member.imp_left ?_
  intro held
  split
  · exact List.mem_append_left [child] held
  · exact held

theorem mem_links_append {parent : StyleId} (chain : styles.isChain parent = true)
    (child : StyleId) : child ∈ (styles.append parent child).links parent := by
  rw [mem_links, children_append, if_pos ⟨rfl, chain⟩]
  exact Or.inl (List.mem_append_right _ (List.mem_singleton.mpr rfl))

/-- A chain that holds a child is reached with it, and then so is everything below the child. -/
theorem Reached.of_append {parent child : StyleId} (reached : styles.Reached tops parent)
    (chain : styles.isChain parent = true) : (styles.append parent child).Reached tops child := by
  have still : (styles.append parent child).Reached tops parent :=
    reached.of_subset (styles.links_subset_append parent child) (fun _ isTop => Reached.of_top isTop)
  exact still.follow (ReflTransGen.single (mem_links_append chain child))

theorem isBelow_of_wrapperBelow? {levels : Nat} {chain found : StyleId}
    (search : styles.wrapperBelow? style levels chain = some found) :
    styles.IsBelow found chain := by
  induction levels generalizing chain with
  | zero => cases search
  | succ levels ih =>
      rw [wrapperBelow?] at search
      obtain ⟨child, member, search⟩ := List.exists_of_findSome?_eq_some search
      rw [isBelow_iff_child]
      split at search
      · exact ⟨child, member, Or.inl (Option.some.inj search)⟩
      · exact ⟨child, member, Or.inr (ih search)⟩

/-- The wrapper that is found is among the styles or below one of them. -/
theorem reached_of_wrapperAmong? {found : StyleId}
    (search : styles.wrapperAmong? tops style = some found) :
    styles.Reached tops found ∧ styles.wraps found style = true := by
  rw [wrapperAmong?] at search
  obtain ⟨top, isTop, search⟩ := List.exists_of_findSome?_eq_some search
  split at search
  · next wraps =>
    cases search
    exact ⟨Reached.of_top isTop, wraps⟩
  · refine ⟨⟨top, isTop, ?_⟩, wraps_of_wrapperBelow? search⟩
    refine ReflTransGen.mono ?_ _ _ (isBelow_of_wrapperBelow? search).to_reflTransGen
    exact fun upper lower held => (styles.mem_links upper lower).mpr (Or.inl held)

/-- What the style leads to is nested at most so deep, the style itself counted in. -/
def NestsWithin (styles : Styles) : Nat → StyleId → Prop
  | 0, _ => False
  | depth + 1, id => ∀ lower ∈ styles.links id, NestsWithin styles depth lower

/-- Where everything is listed in pre-order, it is nested no deeper than the list is long. -/
theorem nestsWithin_of_enumerates {nodes listed : List StyleId}
    (lists : Enumerates styles.links nodes listed) {depth : Nat} (deep : listed.length ≤ depth) :
    ∀ id ∈ nodes, styles.NestsWithin depth id := by
  induction lists generalizing depth with
  | nil => exact fun _ member => nomatch member
  | @cons id rest below others _ _ ihBelow ihOthers =>
      rw [List.length_cons, List.length_append] at deep
      rw [List.forall_mem_cons]
      refine ⟨?_, ihOthers (show others.length ≤ depth by omega)⟩
      cases depth with
      | zero => omega
      | succ depth => exact ihBelow (show below.length ≤ depth by omega)

/-- Reached styles are nested no deeper than a rank tells that falls along their links. -/
theorem Reached.nestsWithin {rank : StyleId → Nat}
    (falls : ∀ upper lower, styles.Reached tops upper → lower ∈ styles.links upper →
      rank lower < rank upper) {depth : Nat} (reached : styles.Reached tops style)
    (deep : rank style < depth) : styles.NestsWithin depth style := by
  induction depth generalizing style with
  | zero => omega
  | succ depth ih =>
      intro lower link
      have fall := falls style lower reached link
      exact ih (reached.follow (ReflTransGen.single link)) (by omega)

/-- Reached styles of which none leads back to itself are nested no deeper than there are styles. -/
theorem Sound.nestsWithin (sound : styles.Sound)
    (acyclic : ∀ id, styles.Reached tops id → ¬ styles.LeadsTo id id) {depth : Nat}
    (deep : styles.items.size < depth) (reached : styles.Reached tops style) :
    styles.NestsWithin depth style := by
  have ranked : ∃ rank : StyleId → Nat,
      (∀ upper lower, styles.Reached tops upper ∧ lower ∈ styles.links upper →
        rank lower < rank upper) ∧ ∀ id, rank id ≤ styles.ids.card := by
    apply exists_rank
    · exact fun upper lower link => (styles.mem_ids lower).mpr (sound.made upper lower link.2)
    · intro id circle
      obtain ⟨_, link, -⟩ := TransGen.head'_iff.mp circle
      exact acyclic id link.1 (TransGen.mono (fun _ _ link => link.2) _ _ circle)
  obtain ⟨rank, falls, bound⟩ := ranked
  have low := (bound style).trans styles.card_ids_le
  exact reached.nestsWithin (fun upper lower isReached link => falls upper lower ⟨isReached, link⟩)
    (by omega)

end StyledTree.Styles
