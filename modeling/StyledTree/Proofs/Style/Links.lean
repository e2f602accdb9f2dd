import Mathlib.Data.Finset.Image
import StyledTree.Proofs.Linking
import StyledTree.Style.Basic

set_option autoImplicit false

namespace StyledTree

namespace Style

@[simp] theorem isChain_mapSheets (style : Style) (change : List ChildSheet → List ChildSheet) :
    (style.mapSheets change).isChain = style.isChain := by
  rcases style with ⟨selector, target, body⟩
  cases body <;> rfl

@[simp] theorem wrapped?_mapSheets (style : Style) (change : List ChildSheet → List ChildSheet) :
    (style.mapSheets change).wrapped? = style.wrapped? := by
  rcases style with ⟨selector, target, body⟩
  cases body <;> rfl

theorem mapSheets_childSheets (style : Style) :
    style.mapSheets (fun _ => style.childSheets) = style := by
  rcases style with ⟨selector, target, body⟩
  cases body <;> rfl

theorem mapSheets_eq_const (style : Style) (change : List ChildSheet → List ChildSheet) :
    style.mapSheets change = style.mapSheets (fun _ => change style.childSheets) := by
  rcases style with ⟨selector, target, body⟩
  cases body <;> rfl

theorem mapSheets_mapSheets (style : Style) (first second : List ChildSheet) :
    (style.mapSheets (fun _ => first)).mapSheets (fun _ => second) =
      style.mapSheets (fun _ => second) := by
  rcases style with ⟨selector, target, body⟩
  cases body <;> rfl

theorem childSheets_mapSheets (style : Style) (change : List ChildSheet → List ChildSheet) :
    (style.mapSheets change).childSheets =
      if style.isChain then change style.childSheets else style.childSheets := by
  rcases style with ⟨selector, target, body⟩
  cases body <;> rfl

end Style

namespace Styles

def Made (styles : Styles) (id : StyleId) : Prop := id.index < styles.items.size

instance (styles : Styles) (id : StyleId) : Decidable (styles.Made id) :=
  inferInstanceAs (Decidable (_ < _))

/-- What a style links to: its child styles and the style that it wraps. -/
def links (styles : Styles) (id : StyleId) : List StyleId :=
  styles.children id ++ (styles.wrapped? id).toList

/-- The lower style is reached from the upper one through child styles. -/
def IsBelow (styles : Styles) (lower upper : StyleId) : Prop :=
  Relation.TransGen (fun holder child => child ∈ styles.children holder) upper lower

/-- The last style is reached from the first one through child styles and wrapped styles. -/
def LeadsTo (styles : Styles) (first last : StyleId) : Prop :=
  Relation.TransGen (fun upper lower => lower ∈ styles.links upper) first last

theorem mem_links (styles : Styles) (upper lower : StyleId) :
    lower ∈ styles.links upper ↔
      lower ∈ styles.children upper ∨ styles.wrapped? upper = some lower := by
  rw [links, List.mem_append, Option.mem_toList]

/-! A chain that is given by its body. -/

section Chains

variable {styles : Styles} {id : StyleId} {style : Style} {wrapped : Option StyleId}
  {held : List ChildSheet} (found : styles.get? id = some style)
  (body : style.body = .chain wrapped held)
include found body

theorem children_of_chain : styles.children id = held.map ChildSheet.style := by
  rw [children, found, Option.map_some, Option.getD_some, Style.children, Style.childSheets, body]

theorem wrapped?_of_chain : styles.wrapped? id = wrapped := by
  rw [wrapped?, found, Option.bind_some, Style.wrapped?, body]

theorem links_of_chain : styles.links id = held.map ChildSheet.style ++ wrapped.toList := by
  rw [links, children_of_chain found body, wrapped?_of_chain found body]

theorem mem_links_of_chain {lower : StyleId} :
    lower ∈ styles.links id ↔ lower ∈ held.map ChildSheet.style ∨ wrapped = some lower := by
  rw [mem_links, children_of_chain found body, wrapped?_of_chain found body]

theorem isChain_of_chain : styles.isChain id = true := by
  rw [isChain, found, Option.any_some, Style.isChain, body]

end Chains

theorem made_iff (styles : Styles) (id : StyleId) :
    styles.Made id ↔ ∃ style, styles.get? id = some style := by
  rw [← Option.isSome_iff_exists, get?, Made, isSome_getElem?]

theorem made_of_get? {styles : Styles} {id : StyleId} {style : Style}
    (found : styles.get? id = some style) : styles.Made id :=
  (styles.made_iff id).mpr ⟨style, found⟩

theorem wraps_iff (styles : Styles) (chain style : StyleId) :
    styles.wraps chain style = true ↔ styles.wrapped? chain = some style := by
  rw [wraps, beq_iff_eq]

theorem made_of_wraps {styles : Styles} {chain style : StyleId}
    (wraps : styles.wraps chain style = true) : styles.Made chain := by
  rw [wraps_iff, wrapped?] at wraps
  obtain ⟨held, found, -⟩ := Option.bind_eq_some_iff.mp wraps
  exact made_of_get? found

theorem made_of_isChain {styles : Styles} {id : StyleId} (chain : styles.isChain id = true) :
    styles.Made id := by
  rw [isChain, Option.any_eq_true] at chain
  obtain ⟨style, found, -⟩ := chain
  exact made_of_get? found

/-- Only chains link to anything. -/
theorem isChain_of_mem_links {styles : Styles} {upper lower : StyleId}
    (member : lower ∈ styles.links upper) : styles.isChain upper = true := by
  rw [links, children, wrapped?] at member
  cases found : styles.get? upper with
  | none => simp [found] at member
  | some style =>
      rcases style with ⟨selector, target, body⟩
      cases body with
      | plain mutation => simp [found, Style.children, Style.childSheets, Style.wrapped?] at member
      | chain wrapped children => simp [isChain, found, Style.isChain]

/-! Adding a style. -/

variable {styles : Styles}

theorem get?_add (styles : Styles) (style : Style) (id : StyleId) :
    (styles.add style).2.get? id =
      if id = (styles.add style).1 then some style else styles.get? id := by
  simp only [add, get?, Array.getElem?_push]
  by_cases same : id.index = styles.items.size
  · have equal : id = ⟨styles.items.size⟩ := by rw [← same]
    simp [equal]
  · have differ : id ≠ ⟨styles.items.size⟩ := by
      rintro rfl
      exact same rfl
    simp [same, differ]

theorem get?_add_fst (styles : Styles) (style : Style) :
    styles.get? (styles.add style).1 = none := by
  simp [add, get?]

theorem get?_add_of_made {id : StyleId} (made : styles.Made id) (style : Style) :
    (styles.add style).2.get? id = styles.get? id := by
  rw [get?_add, if_neg]
  rintro rfl
  obtain ⟨held, found⟩ := (styles.made_iff _).mp made
  rw [get?_add_fst] at found
  cases found

theorem made_add_iff (styles : Styles) (style : Style) (id : StyleId) :
    (styles.add style).2.Made id ↔ id = (styles.add style).1 ∨ styles.Made id := by
  rw [made_iff, made_iff, get?_add]
  split
  · next same => simp [same]
  · next differ => simp [differ]

theorem children_add (styles : Styles) (style : Style) (id : StyleId) :
    (styles.add style).2.children id =
      if id = (styles.add style).1 then style.children else styles.children id := by
  rw [children, get?_add]
  split
  · rfl
  · rfl

theorem wrapped?_add (styles : Styles) (style : Style) (id : StyleId) :
    (styles.add style).2.wrapped? id =
      if id = (styles.add style).1 then style.wrapped? else styles.wrapped? id := by
  rw [wrapped?, get?_add]
  split
  · rfl
  · rfl

/-- A new style without children holds no more than was held before. -/
theorem children_add_of_leaf (styles : Styles) {style : Style} (leaf : style.children = [])
    (id : StyleId) : (styles.add style).2.children id = styles.children id := by
  rw [children_add]
  split
  · next same => rw [leaf, same, children, get?_add_fst]; rfl
  · rfl

/-! Wrapping a style. -/

/-- Wrapping adds a chain, unless there is no such style. -/
theorem wrap_cases (styles : Styles) (id : StyleId) :
    (styles.get? id = none ∧ styles.wrap id = (id, styles)) ∨
      ∃ style, styles.get? id = some style ∧
        styles.wrap id = styles.add { style with body := .chain (some id) [] } := by
  rw [wrap]
  cases found : styles.get? id with
  | none => exact Or.inl ⟨rfl, rfl⟩
  | some style => exact Or.inr ⟨style, rfl, rfl⟩

theorem asChain_cases (styles : Styles) (id : StyleId) :
    (styles.isChain id = true ∧ styles.asChain id = (id, styles)) ∨
      (styles.isChain id = false ∧ styles.asChain id = styles.wrap id) := by
  rw [asChain]
  cases styles.isChain id with
  | true => exact Or.inl ⟨rfl, rfl⟩
  | false => exact Or.inr ⟨rfl, rfl⟩

theorem made_wrap {other : StyleId} (made : styles.Made other) (id : StyleId) :
    (styles.wrap id).2.Made other := by
  rcases styles.wrap_cases id with ⟨-, same⟩ | ⟨style, -, same⟩
  · rw [same]
    exact made
  · rw [same, made_add_iff]
    exact Or.inr made

theorem made_asChain {id : StyleId} (made : styles.Made id) :
    (styles.asChain id).2.Made (styles.asChain id).1 := by
  rcases styles.asChain_cases id with ⟨-, same⟩ | ⟨-, same⟩
  · rw [same]
    exact made
  · rw [same]
    rcases styles.wrap_cases id with ⟨-, same⟩ | ⟨style, -, same⟩
    · rw [same]
      exact made
    · rw [same, made_add_iff]
      exact Or.inl rfl

/-! Changing the children of a chain. -/

theorem get?_update (styles : Styles) (id other : StyleId) (change : Style → Style) :
    (styles.update id change).get? other =
      if other = id then (styles.get? other).map change else styles.get? other := by
  simp only [get?, update, Array.getElem?_modify]
  by_cases same : other = id
  · subst same
    simp
  · have apart : id.index ≠ other.index := by
      intro equal
      apply same
      cases id
      cases other
      exact congrArg StyleId.mk equal.symm
    simp [same, apart]

theorem made_update_iff (styles : Styles) (id other : StyleId) (change : Style → Style) :
    (styles.update id change).Made other ↔ styles.Made other := by
  rw [Made, update, Array.size_modify]
  rfl

theorem wrapped?_updateSheets (styles : Styles) (id other : StyleId)
    (change : List ChildSheet → List ChildSheet) :
    (styles.update id (fun style => style.mapSheets change)).wrapped? other =
      styles.wrapped? other := by
  rw [wrapped?, wrapped?, get?_update]
  split
  · cases styles.get? other <;> simp
  · rfl

theorem childSheets_updateSheets (styles : Styles) (id other : StyleId)
    (change : List ChildSheet → List ChildSheet) :
    (styles.update id (fun style => style.mapSheets change)).childSheets other =
      if other = id ∧ styles.isChain id = true then change (styles.childSheets other)
      else styles.childSheets other := by
  rw [childSheets, childSheets, get?_update, isChain]
  by_cases same : other = id
  · subst same
    cases found : styles.get? other with
    | none => simp
    | some style => simp [Style.childSheets_mapSheets]
  · simp [same]

theorem children_updateSheets (styles : Styles) (id other : StyleId)
    (change : List ChildSheet → List ChildSheet) (names : List StyleId → List StyleId)
    (same : ∀ held, (change held).map ChildSheet.style = names (held.map ChildSheet.style)) :
    (styles.update id (fun style => style.mapSheets change)).children other =
      if other = id ∧ styles.isChain id = true then names (styles.children other)
      else styles.children other := by
  rw [children_eq_map, children_eq_map, childSheets_updateSheets]
  split
  · exact same _
  · rfl

theorem children_append (styles : Styles) (parent child id : StyleId) :
    (styles.append parent child).children id =
      if id = parent ∧ styles.isChain parent = true then styles.children id ++ [child]
      else styles.children id := by
  rw [append]
  refine styles.children_updateSheets parent id _ (fun held => held ++ [child]) (fun held => ?_)
  rw [List.map_append]
  rfl

theorem children_eraseSheet (styles : Styles) (holder child id : StyleId) :
    (styles.update holder (fun style =>
        style.mapSheets (fun held => held.eraseP (fun sheet => sheet.style == child)))).children id =
      if id = holder ∧ styles.isChain holder = true then (styles.children id).erase child
      else styles.children id := by
  refine styles.children_updateSheets holder id _ (fun held => held.erase child) (fun held => ?_)
  rw [List.erase_eq_eraseP', List.eraseP_map]
  rfl

/-- Detaching a child only takes it out of its holder. -/
theorem children_detach_subset (styles : Styles) (tops : List StyleId) (child id : StyleId) :
    (styles.detach tops child).children id ⊆ styles.children id := by
  rw [detach]
  split
  · exact fun _ member => member
  · next holder _ =>
    rw [children_eraseSheet]
    split
    · exact List.erase_subset
    · exact fun _ member => member

theorem wrapped?_detach (styles : Styles) (tops : List StyleId) (child id : StyleId) :
    (styles.detach tops child).wrapped? id = styles.wrapped? id := by
  rw [detach]
  split
  · rfl
  · exact styles.wrapped?_updateSheets _ id _

theorem made_detach_iff (styles : Styles) (tops : List StyleId) (child id : StyleId) :
    (styles.detach tops child).Made id ↔ styles.Made id := by
  rw [detach]
  split
  · rfl
  · exact styles.made_update_iff _ id _

/-! Circles. -/

/-- All links lead to styles that were made, and no style is among what is below it. Links to wrapped
styles may still close circles. -/
structure Sound (styles : Styles) : Prop where
  made : ∀ upper lower, lower ∈ styles.links upper → styles.Made lower
  acyclic : ∀ id, ¬ styles.IsBelow id id

theorem sound_empty : Styles.empty.Sound where
  made _ _ member := by simp [links, children, wrapped?, get?, empty] at member
  acyclic id below := by
    obtain ⟨child, member, -⟩ := Relation.TransGen.head'_iff.mp below
    simp [children, get?, empty] at member

namespace Sound

/-- A new style without children closes no circle. -/
theorem add (sound : styles.Sound) {style : Style} (leaf : style.children = [])
    (made : ∀ inner, style.wrapped? = some inner → styles.Made inner) :
    (styles.add style).2.Sound where
  made upper lower member := by
    rw [made_add_iff]
    rw [mem_links, children_add_of_leaf styles leaf, wrapped?_add] at member
    refine Or.inr ?_
    rcases member with child | wrapped
    · exact sound.made upper lower ((styles.mem_links upper lower).mpr (Or.inl child))
    · split at wrapped
      · exact made lower wrapped
      · exact sound.made upper lower ((styles.mem_links upper lower).mpr (Or.inr wrapped))
  acyclic id below := by
    rw [IsBelow] at below
    simp only [children_add_of_leaf styles leaf] at below
    exact sound.acyclic id below

theorem wrap (sound : styles.Sound) (id : StyleId) : (styles.wrap id).2.Sound := by
  rcases styles.wrap_cases id with ⟨-, same⟩ | ⟨style, found, same⟩
  · rw [same]
    exact sound
  · rw [same]
    refine sound.add rfl ?_
    rintro inner ⟨⟩
    exact made_of_get? found

theorem asChain (sound : styles.Sound) (id : StyleId) : (styles.asChain id).2.Sound := by
  rcases styles.asChain_cases id with ⟨-, same⟩ | ⟨-, same⟩
  · rw [same]
    exact sound
  · rw [same]
    exact sound.wrap id

theorem detach (sound : styles.Sound) (tops : List StyleId) (child : StyleId) :
    (styles.detach tops child).Sound where
  made upper lower member := by
    rw [made_detach_iff]
    rw [mem_links, wrapped?_detach] at member
    apply sound.made upper lower
    rw [mem_links]
    exact member.imp_left (fun held => styles.children_detach_subset tops child upper held)
  acyclic id below :=
    sound.acyclic id (Relation.TransGen.mono
      (fun holder _ held => styles.children_detach_subset tops child holder held) _ _ below)

/-- Nesting a chain below another one that is not below it. -/
theorem append (sound : styles.Sound) {parent child : StyleId} (made : styles.Made child)
    (apart : child ≠ parent) (notBelow : ¬ styles.IsBelow parent child) :
    (styles.append parent child).Sound where
  made upper lower member := by
    rw [Styles.append, made_update_iff]
    rw [mem_links, children_append, Styles.append, wrapped?_updateSheets] at member
    have known := sound.made upper lower
    rw [mem_links] at known
    rcases member with held | wrapped
    · split at held
      · rcases List.mem_append.mp held with before | new
        · exact known (Or.inl before)
        · rw [List.mem_singleton] at new
          exact new ▸ made
      · exact known (Or.inl held)
    · exact known (Or.inr wrapped)
  acyclic := by
    have steps : ∀ holder held, held ∈ (styles.append parent child).children holder →
        held ∈ styles.children holder ∨ holder = parent ∧ held = child := by
      intro holder held member
      rw [children_append] at member
      split at member
      · next atParent =>
        rcases List.mem_append.mp member with before | new
        · exact Or.inl before
        · exact Or.inr ⟨atParent.1, List.mem_singleton.mp new⟩
      · exact Or.inl member
    apply acyclic_of_new_link sound.acyclic steps
    intro back
    rcases Relation.reflTransGen_iff_eq_or_transGen.mp back with same | below
    · exact apart same.symm
    · exact notBelow below

end Sound

/-- While child styles close no circle, every circle goes through a chain that wraps another one. -/
theorem acyclic_iff_of_isBelow (acyclic : ∀ id, ¬ styles.IsBelow id id) :
    (∀ id, ¬ styles.LeadsTo id id) ↔
      ∀ chain inner, styles.wrapped? chain = some inner → styles.isChain inner = true →
        ¬ styles.LeadsTo inner chain := by
  have linkOfWrapped : ∀ chain inner, styles.wrapped? chain = some inner →
      inner ∈ styles.links chain :=
    fun chain inner wrapped => (styles.mem_links chain inner).mpr (Or.inr wrapped)
  constructor
  · intro noCircle chain inner wrapped _ back
    exact noCircle chain (Relation.TransGen.head (linkOfWrapped chain inner wrapped) back)
  · intro apart id circle
    rw [LeadsTo] at circle
    simp only [mem_links] at circle
    rcases transGen_or circle with below | ⟨chain, inner, wrapped, start, rest⟩
    · exact acyclic id below
    · have back := rest.trans start
      simp only [← mem_links] at back
      have leads : styles.LeadsTo inner chain := by
        rcases Relation.reflTransGen_iff_eq_or_transGen.mp back with rfl | further
        · exact Relation.TransGen.single (linkOfWrapped _ _ wrapped)
        · exact further
      obtain ⟨next, first, -⟩ := Relation.TransGen.head'_iff.mp leads
      exact apart chain inner wrapped (isChain_of_mem_links first) leads

def ids (styles : Styles) : Finset StyleId :=
  (Finset.range styles.items.size).image StyleId.mk

theorem mem_ids (styles : Styles) (id : StyleId) : id ∈ styles.ids ↔ styles.Made id := by
  rw [ids, Finset.mem_image, Made]
  constructor
  · rintro ⟨index, inside, rfl⟩
    exact Finset.mem_range.mp inside
  · intro inside
    exact ⟨id.index, Finset.mem_range.mpr inside, rfl⟩

theorem card_ids_le (styles : Styles) : styles.ids.card ≤ styles.items.size := by
  have image := Finset.card_image_le (s := Finset.range styles.items.size) (f := StyleId.mk)
  rwa [Finset.card_range] at image

/-! Looking for a style below a chain. -/

theorem isBelow_iff_child (styles : Styles) (lower upper : StyleId) :
    styles.IsBelow lower upper ↔
      ∃ child ∈ styles.children upper, child = lower ∨ styles.IsBelow lower child := by
  rw [IsBelow, Relation.TransGen.head'_iff]
  simp only [Relation.reflTransGen_iff_eq_or_transGen, eq_comm (a := lower)]
  rfl

/-- What the search for a wrapper finds does wrap the style. -/
theorem wraps_of_wrapperBelow? {levels : Nat} {style chain found : StyleId}
    (search : styles.wrapperBelow? style levels chain = some found) :
    styles.wraps found style = true := by
  induction levels generalizing chain with
  | zero => cases search
  | succ levels ih =>
      rw [wrapperBelow?] at search
      obtain ⟨child, -, search⟩ := List.exists_of_findSome?_eq_some search
      split at search
      · next wraps =>
        cases search
        exact wraps
      · exact ih search

theorem isBelow_of_reachesWithin {levels : Nat} {other chain : StyleId}
    (found : styles.reachesWithin other levels chain = true) : styles.IsBelow other chain := by
  induction levels generalizing chain with
  | zero => cases found
  | succ levels ih =>
      rw [reachesWithin, List.any_eq_true] at found
      obtain ⟨child, member, found⟩ := found
      rw [Bool.or_eq_true, beq_iff_eq] at found
      rw [isBelow_iff_child]
      exact ⟨child, member, found.imp_right ih⟩

/-- The search goes deep enough, since no path through children is longer than there are styles. -/
theorem Sound.reaches_iff (sound : styles.Sound) (chain other : StyleId) :
    styles.reaches chain other = true ↔ styles.IsBelow other chain := by
  constructor
  · exact isBelow_of_reachesWithin
  · obtain ⟨rank, falls, bound⟩ := exists_rank styles.ids
      (fun holder held member => (styles.mem_ids held).mpr
        (sound.made holder held ((styles.mem_links holder held).mpr (Or.inl member))))
      sound.acyclic
    have search : ∀ levels chain, rank chain ≤ levels → styles.IsBelow other chain →
        styles.reachesWithin other levels chain = true := by
      intro levels
      induction levels with
      | zero =>
          intro chain low below
          obtain ⟨child, member, -⟩ := (styles.isBelow_iff_child other chain).mp below
          have fall := falls chain child member
          omega
      | succ levels ih =>
          intro chain low below
          obtain ⟨child, member, found⟩ := (styles.isBelow_iff_child other chain).mp below
          have fall := falls chain child member
          rw [reachesWithin, List.any_eq_true]
          refine ⟨child, member, ?_⟩
          rw [Bool.or_eq_true, beq_iff_eq]
          exact found.imp_right (ih child (by omega))
    exact search styles.items.size chain ((bound chain).trans styles.card_ids_le)

end Styles

end StyledTree
