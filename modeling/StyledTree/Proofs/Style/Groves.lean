import StyledTree.Proofs.Enumerating
import StyledTree.Proofs.Style.Links

set_option autoImplicit false

namespace StyledTree.Styles

/-- The plain style that a chain stands for; a plain style stands for itself. -/
def denoted (styles : Styles) (id : StyleId) : StyleId := (styles.wrapped? id).getD id

structure IsPlain (styles : Styles) (id : StyleId) : Prop where
  made : styles.Made id
  notChain : styles.isChain id = false

instance (styles : Styles) (id : StyleId) : Decidable (styles.IsPlain id) :=
  decidable_of_iff (styles.Made id ∧ styles.isChain id = false)
    ⟨fun plain => ⟨plain.1, plain.2⟩, fun plain => ⟨plain.made, plain.notChain⟩⟩

def Placed (styles : Styles) (tops : List StyleId) (id : StyleId) : Prop :=
  ∃ top ∈ tops, id = top ∨ styles.IsBelow id top

/-- What is at and below the top of a sheet, listed in pre-order. -/
structure Grove (styles : Styles) (tops order : List StyleId) : Prop where
  lists : Enumerates styles.children tops order
  made : ∀ id ∈ order, styles.Made id
  nested : ∀ id ∈ order, ∀ child ∈ styles.children id, styles.isChain child = true
  wraps : ∀ id ∈ order, styles.isChain id = true →
    ∃ inner, styles.wrapped? id = some inner ∧ styles.IsPlain inner
  unique : (order.map styles.denoted).Nodup

def Keeps (before after : Styles) : Prop :=
  ∀ id style, before.get? id = some style →
    ∃ sheets, after.get? id = some (style.mapSheets (fun _ => sheets))

/-! Styles that keep what they are. -/

namespace Keeps

variable {before middle after : Styles}

theorem refl (styles : Styles) : Keeps styles styles :=
  fun _ style found => ⟨style.childSheets, by rw [style.mapSheets_childSheets]; exact found⟩

theorem trans (first : Keeps before middle) (second : Keeps middle after) :
    Keeps before after := by
  intro id style found
  obtain ⟨between, middleFound⟩ := first id style found
  obtain ⟨sheets, afterFound⟩ := second id _ middleFound
  exact ⟨sheets, by rw [afterFound, Style.mapSheets_mapSheets]⟩

theorem updateSheets (styles : Styles) (id : StyleId)
    (change : List ChildSheet → List ChildSheet) :
    Keeps styles (styles.update id (fun style => style.mapSheets change)) := by
  intro other style found
  rw [get?_update, found]
  split
  · exact ⟨change style.childSheets, by rw [← Style.mapSheets_eq_const]; rfl⟩
  · exact ⟨style.childSheets, by rw [style.mapSheets_childSheets]⟩

theorem detach (styles : Styles) (tops : List StyleId) (child : StyleId) :
    Keeps styles (styles.detach tops child) := by
  rw [Styles.detach]
  split
  · exact refl styles
  · exact updateSheets styles _ _

theorem wrap (styles : Styles) (id : StyleId) : Keeps styles (styles.wrap id).2 := by
  rcases styles.wrap_cases id with ⟨-, same⟩ | ⟨style, -, same⟩
  · rw [same]
    exact refl styles
  · rw [same]
    intro other held found
    rw [get?_add_of_made (made_of_get? found)]
    exact refl styles other held found

theorem made (keeps : Keeps before after) {id : StyleId} (made : before.Made id) :
    after.Made id := by
  obtain ⟨style, found⟩ := (before.made_iff id).mp made
  obtain ⟨sheets, later⟩ := keeps id style found
  exact made_of_get? later

theorem wrapped? (keeps : Keeps before after) {id : StyleId} (made : before.Made id) :
    after.wrapped? id = before.wrapped? id := by
  obtain ⟨style, found⟩ := (before.made_iff id).mp made
  obtain ⟨sheets, later⟩ := keeps id style found
  rw [Styles.wrapped?, Styles.wrapped?, found, later, Option.bind_some, Option.bind_some,
    Style.wrapped?_mapSheets]

theorem isChain (keeps : Keeps before after) {id : StyleId} (made : before.Made id) :
    after.isChain id = before.isChain id := by
  obtain ⟨style, found⟩ := (before.made_iff id).mp made
  obtain ⟨sheets, later⟩ := keeps id style found
  rw [Styles.isChain, Styles.isChain, found, later, Option.any_some, Option.any_some,
    Style.isChain_mapSheets]

theorem denoted (keeps : Keeps before after) {id : StyleId} (made : before.Made id) :
    after.denoted id = before.denoted id := by
  rw [Styles.denoted, Styles.denoted, keeps.wrapped? made]

theorem isPlain (keeps : Keeps before after) {id : StyleId} (plain : before.IsPlain id) :
    after.IsPlain id :=
  ⟨keeps.made plain.made, (keeps.isChain plain.made).trans plain.notChain⟩

theorem map_denoted (keeps : Keeps before after) {ids : List StyleId}
    (made : ∀ id ∈ ids, before.Made id) : ids.map after.denoted = ids.map before.denoted :=
  List.map_congr_left (fun id member => keeps.denoted (made id member))

end Keeps

/-! Plain styles and their wrappers. -/

variable {styles : Styles}

theorem wrapped?_of_not_isChain {id : StyleId} (plain : styles.isChain id = false) :
    styles.wrapped? id = none := by
  rw [wrapped?]
  rw [isChain] at plain
  cases found : styles.get? id with
  | none => rfl
  | some style =>
      rcases style with ⟨selector, target, body⟩
      cases body with
      | plain mutation => rfl
      | chain wrapped children => simp [found, Style.isChain] at plain

theorem children_of_not_isChain {id : StyleId} (plain : styles.isChain id = false) :
    styles.children id = [] := by
  by_contra some
  obtain ⟨child, member⟩ := List.exists_mem_of_ne_nil _ some
  have chain := isChain_of_mem_links ((styles.mem_links id child).mpr (Or.inl member))
  rw [plain] at chain
  cases chain

theorem denoted_of_not_isChain {id : StyleId} (plain : styles.isChain id = false) :
    styles.denoted id = id := by
  rw [denoted, wrapped?_of_not_isChain plain]
  rfl

theorem children_of_not_made {id : StyleId} (missing : ¬ styles.Made id) :
    styles.children id = [] := by
  apply children_of_not_isChain
  rw [← Bool.not_eq_true]
  exact fun chain => missing (made_of_isChain chain)

/-- What a new wrapper changes: it is a chain without children that wraps the style. -/
structure Wrapping (styles : Styles) (id : StyleId) : Prop where
  fresh : ¬ styles.Made (styles.wrap id).1
  keeps : Keeps styles (styles.wrap id).2
  isChain : (styles.wrap id).2.isChain (styles.wrap id).1 = true
  wrapped : (styles.wrap id).2.wrapped? (styles.wrap id).1 = some id
  children : ∀ other, (styles.wrap id).2.children other = styles.children other
  made : ∀ other, (styles.wrap id).2.Made other ↔ other = (styles.wrap id).1 ∨ styles.Made other
  elsewhere : ∀ other, styles.Made other → (styles.wrap id).2.get? other = styles.get? other

theorem wrapping {id : StyleId} (made : styles.Made id) : Wrapping styles id := by
  obtain ⟨style, found⟩ := (styles.made_iff id).mp made
  have same : styles.wrap id = styles.add { style with body := .chain (some id) [] } := by
    rw [wrap, found]
  have keeps := Keeps.wrap styles id
  rw [same] at keeps
  constructor
  all_goals rw [same]
  · intro before
    obtain ⟨held, there⟩ := (styles.made_iff _).mp before
    rw [get?_add_fst] at there
    cases there
  · exact keeps
  · rw [Styles.isChain, get?_add, if_pos rfl]
    rfl
  · rw [wrapped?_add, if_pos rfl]
    rfl
  · exact fun other => children_add_of_leaf styles rfl other
  · exact fun other => styles.made_add_iff _ other
  · exact fun other known => get?_add_of_made known _

theorem Wrapping.denoted {id : StyleId} (wrapping : Wrapping styles id) :
    (styles.wrap id).2.denoted (styles.wrap id).1 = id := by
  rw [Styles.denoted, wrapping.wrapped]
  rfl

/-- Nothing that was there before is at or below a new wrapper. -/
theorem Wrapping.apart {id other : StyleId} (wrapping : Wrapping styles id)
    (made : styles.Made other) : ¬ (styles.wrap id).2.Placed [(styles.wrap id).1] other := by
  rintro ⟨top, isNew, below⟩
  rw [List.mem_singleton] at isNew
  subst isNew
  rcases below with rfl | below
  · exact wrapping.fresh made
  · obtain ⟨child, isChild, -⟩ := Relation.TransGen.head'_iff.mp below
    rw [wrapping.children, children_of_not_made wrapping.fresh] at isChild
    cases isChild

/-! What a grove gives. -/

namespace Grove

variable {tops order : List StyleId}

theorem nodup (grove : Grove styles tops order) : order.Nodup := List.Nodup.of_map _ grove.unique

/-- No two styles of a grove stand for one plain style. -/
theorem eq_of_denoted (grove : Grove styles tops order) {one other : StyleId} (oneMember : one ∈ order)
    (otherMember : other ∈ order) (same : styles.denoted one = styles.denoted other) :
    one = other :=
  List.inj_on_of_nodup_map grove.unique oneMember otherMember same

theorem mem_iff (grove : Grove styles tops order) (id : StyleId) :
    id ∈ order ↔ styles.Placed tops id :=
  grove.lists.mem_iff

theorem mem_of_top (grove : Grove styles tops order) {top : StyleId} (member : top ∈ tops) :
    top ∈ order :=
  grove.lists.mem_of_node member

/-- Below a style of a grove are styles of the grove. -/
theorem mem_of_isBelow (grove : Grove styles tops order) {lower upper : StyleId}
    (member : upper ∈ order) (below : styles.IsBelow lower upper) : lower ∈ order := by
  induction below with
  | single held => exact grove.lists.mem_of_child member held
  | tail _ held ih => exact grove.lists.mem_of_child ih held

/-- Whatever is below a style of a grove is a chain. -/
theorem isChain_of_isBelow (grove : Grove styles tops order) {lower upper : StyleId}
    (member : upper ∈ order) (below : styles.IsBelow lower upper) :
    styles.isChain lower = true := by
  cases below with
  | single held => exact grove.nested upper member lower held
  | tail path held => exact grove.nested _ (grove.mem_of_isBelow member path) lower held

theorem top_of_not_isChain (grove : Grove styles tops order) {id : StyleId} (member : id ∈ order)
    (plain : styles.isChain id = false) : id ∈ tops := by
  rcases grove.lists.node_or_held member with isTop | ⟨holder, isHolder, held⟩
  · exact isTop
  · rw [grove.nested holder isHolder id held] at plain
    cases plain

theorem isPlain_denoted (grove : Grove styles tops order) {id : StyleId} (member : id ∈ order) :
    styles.IsPlain (styles.denoted id) := by
  cases kind : styles.isChain id with
  | true =>
      obtain ⟨inner, wrapped, plain⟩ := grove.wraps id member kind
      rw [denoted, wrapped]
      exact plain
  | false =>
      rw [denoted_of_not_isChain kind]
      exact ⟨grove.made id member, kind⟩

theorem wraps_iff (grove : Grove styles tops order) {id style : StyleId} (member : id ∈ order) :
    styles.wraps id style = true ↔ styles.isChain id = true ∧ styles.denoted id = style := by
  rw [Styles.wraps_iff, denoted]
  constructor
  · intro wrapped
    have link := (styles.mem_links id style).mpr (Or.inr wrapped)
    exact ⟨isChain_of_mem_links link, by rw [wrapped]; rfl⟩
  · rintro ⟨chain, same⟩
    obtain ⟨inner, wrapped, -⟩ := grove.wraps id member chain
    rw [wrapped, Option.getD_some] at same
    rw [wrapped, same]

/-- There are enough styles for searches to come to the end of a grove. -/
theorem length_le (grove : Grove styles tops order) : order.length ≤ styles.items.size := by
  have inside : ∀ id ∈ order.toFinset, id ∈ styles.ids := by
    intro id member
    exact (styles.mem_ids id).mpr (grove.made id (List.mem_toFinset.mp member))
  have counted := (Finset.card_le_card inside).trans styles.card_ids_le
  rwa [List.toFinset_card_of_nodup grove.nodup] at counted

/-- A part of the top of a grove is the top of a grove. -/
theorem part (grove : Grove styles tops order) {part listed : List StyleId}
    (lists : Enumerates styles.children part listed) (within : listed.Sublist order) :
    Grove styles part listed where
  lists := lists
  made id member := grove.made id (within.subset member)
  nested id member := grove.nested id (within.subset member)
  wraps id member := grove.wraps id (within.subset member)
  unique := grove.unique.sublist (within.map _)

/-- The last style at the top and what is below it are listed after the rest of a grove. -/
theorem split_last {last : StyleId} (grove : Grove styles (tops ++ [last]) order) :
    ∃ front back, order = front ++ back ∧ Grove styles tops front ∧ Grove styles [last] back := by
  obtain ⟨front, back, rfl, one, other⟩ := grove.lists.split
  exact ⟨front, back, rfl, grove.part one (List.sublist_append_left front back),
    grove.part other (List.sublist_append_right front back)⟩

end Grove

/-! Styles whose records stay. -/

theorem isChain_of_same {after : Styles} {id : StyleId} (same : after.get? id = styles.get? id) :
    after.isChain id = styles.isChain id := by
  rw [Styles.isChain, Styles.isChain, same]

theorem denoted_of_same {after : Styles} {id : StyleId} (same : after.get? id = styles.get? id) :
    after.denoted id = styles.denoted id := by
  rw [Styles.denoted, Styles.denoted, Styles.wrapped?, Styles.wrapped?, same]

theorem IsPlain.of_same {after : Styles} {id : StyleId} (plain : styles.IsPlain id)
    (same : after.get? id = styles.get? id) : after.IsPlain id := by
  refine ⟨?_, (isChain_of_same same).trans plain.notChain⟩
  rw [made_iff, same, ← made_iff]
  exact plain.made

namespace Grove

variable {tops order : List StyleId}

theorem empty (styles : Styles) : Grove styles [] [] where
  lists := Enumerates.nil
  made _ member := absurd member List.not_mem_nil
  nested _ member := absurd member List.not_mem_nil
  wraps _ member := absurd member List.not_mem_nil
  unique := List.nodup_nil

/-- A grove depends on the records of its styles, and on which styles are plain. -/
theorem of_same (grove : Grove styles tops order) {after : Styles}
    (same : ∀ id ∈ order, after.get? id = styles.get? id)
    (plain : ∀ id, styles.IsPlain id → after.IsPlain id) : Grove after tops order where
  lists := grove.lists.congr (fun id member => by rw [children, children, same id member])
  made id member := by
    rw [made_iff, same id member, ← made_iff]
    exact grove.made id member
  nested id member child held := by
    rw [children, same id member, ← children] at held
    rw [isChain_of_same (same child (grove.lists.mem_of_child member held))]
    exact grove.nested id member child held
  wraps id member chain := by
    rw [isChain_of_same (same id member)] at chain
    obtain ⟨inner, wrapped, innerPlain⟩ := grove.wraps id member chain
    exact ⟨inner, by rw [Styles.wrapped?, same id member]; exact wrapped, plain inner innerPlain⟩
  unique := by
    rw [List.map_congr_left (fun id member => denoted_of_same (same id member))]
    exact grove.unique

/-- A plain style that something in the grove stands for has one place, at the top or wrapped by one
chain. -/
theorem existsUnique_place (grove : Grove styles tops order) {style : StyleId}
    (member : style ∈ order.map styles.denoted) :
    ∃! place, styles.Placed tops place ∧
      (place = style ∧ place ∈ tops ∨ styles.wrapped? place = some style) := by
  obtain ⟨place, isListed, stands⟩ := List.mem_map.mp member
  have plain := grove.isPlain_denoted isListed
  rw [stands] at plain
  refine ⟨place, ⟨(grove.mem_iff place).mp isListed, ?_⟩, ?_⟩
  · cases kind : styles.isChain place with
    | true => exact Or.inr ((styles.wraps_iff place style).mp
        ((grove.wraps_iff isListed).mpr ⟨kind, stands⟩))
    | false =>
        rw [denoted_of_not_isChain kind] at stands
        exact Or.inl ⟨stands, grove.top_of_not_isChain isListed kind⟩
  · rintro other ⟨otherPlaced, atPlace⟩
    apply grove.eq_of_denoted ((grove.mem_iff other).mpr otherPlaced) isListed
    rcases atPlace with ⟨rfl, -⟩ | wrapped
    · rw [denoted_of_not_isChain plain.notChain, stands]
    · rw [stands, denoted, wrapped, Option.getD_some]

end Grove

/-! Searches in a grove. -/

theorem firstWithin?_wraps (styles : Styles) (style : StyleId) (levels : Nat) (chain : StyleId) :
    firstWithin? styles.children (fun id => styles.wraps id style) (levels + 1) chain =
      if styles.wraps chain style then some chain
      else styles.wrapperBelow? style levels chain := by
  induction levels generalizing chain with
  | zero =>
      rw [firstWithin?, wrapperBelow?]
      congr 1
      exact List.findSome?_eq_none_iff.mpr (fun _ _ => rfl)
  | succ levels ih =>
      rw [firstWithin?, wrapperBelow?]
      congr 2
      exact funext ih

theorem firstWithin?_holds (styles : Styles) (child : StyleId) (levels : Nat) (chain : StyleId) :
    firstWithin? styles.children (fun id => (styles.children id).contains child) levels chain =
      styles.holderWithin? child levels chain := by
  induction levels generalizing chain with
  | zero => rfl
  | succ levels ih =>
      rw [firstWithin?, holderWithin?]
      congr 2
      exact funext ih

theorem isSome_firstWithin? (styles : Styles) (other : StyleId) (levels : Nat) (chain : StyleId) :
    ((styles.children chain).findSome?
        (firstWithin? styles.children (fun id => id == other) levels)).isSome =
      styles.reachesWithin other levels chain := by
  induction levels generalizing chain with
  | zero =>
      rw [reachesWithin, ← Bool.not_eq_true, List.findSome?_isSome_iff]
      rintro ⟨child, -, found⟩
      cases found
  | succ levels ih =>
      rw [Bool.eq_iff_iff, List.findSome?_isSome_iff, reachesWithin, List.any_eq_true]
      have step : ∀ child, (firstWithin? styles.children (fun id => id == other) (levels + 1)
          child).isSome = (child == other || styles.reachesWithin other levels child) := by
        intro child
        rw [firstWithin?, ← ih child]
        cases child == other <;> rfl
      simp only [step]

namespace Grove

variable {tops order : List StyleId}

theorem wrapperAmong?_eq (grove : Grove styles tops order) (style : StyleId) :
    styles.wrapperAmong? tops style = order.find? (fun id => styles.wraps id style) := by
  rw [← grove.lists.findSome?_firstWithin? (Nat.le_succ_of_le grove.length_le), wrapperAmong?]
  congr 1
  exact (funext (firstWithin?_wraps styles style styles.items.size)).symm

theorem holderAmong?_eq (grove : Grove styles tops order) (child : StyleId) :
    styles.holderAmong? tops child =
      order.find? (fun id => (styles.children id).contains child) := by
  rw [← grove.lists.findSome?_firstWithin? grove.length_le, holderAmong?]
  congr 1
  exact (funext (firstWithin?_holds styles child styles.items.size)).symm

/-- What is listed below a style of a grove is listed apart from it. -/
theorem exists_below (grove : Grove styles tops order) {id : StyleId} (member : id ∈ order) :
    ∃ below, Enumerates styles.children (styles.children id) below ∧ below.Sublist order ∧
      id ∉ below :=
  grove.lists.exists_below grove.nodup member

theorem mem_below_iff {id lower : StyleId} {below : List StyleId}
    (lists : Enumerates styles.children (styles.children id) below) :
    lower ∈ below ↔ styles.IsBelow lower id := by
  rw [lists.mem_iff, isBelow_iff_child]
  simp only [eq_comm (a := lower)]
  rfl

theorem acyclic (grove : Grove styles tops order) {id : StyleId} (member : id ∈ order) :
    ¬ styles.IsBelow id id := by
  obtain ⟨below, lists, -, apart⟩ := grove.exists_below member
  rwa [← mem_below_iff lists]

theorem reaches_iff (grove : Grove styles tops order) {id other : StyleId} (member : id ∈ order) :
    styles.reaches id other = true ↔ styles.IsBelow other id := by
  obtain ⟨below, lists, within, -⟩ := grove.exists_below member
  rw [reaches, ← isSome_firstWithin?, lists.findSome?_firstWithin?
    (within.length_le.trans grove.length_le), List.find?_isSome, ← mem_below_iff lists]
  simp only [beq_iff_eq, exists_eq_right]

/-- With fewer child styles no more is below a style of the grove. -/
theorem isBelow_of_fewer (grove : Grove styles tops order) {after : Styles}
    (fewer : ∀ id ∈ order, after.children id ⊆ styles.children id) {lower upper : StyleId}
    (member : upper ∈ order) (below : after.IsBelow lower upper) :
    styles.IsBelow lower upper := by
  induction below with
  | single held => exact Relation.TransGen.single (fewer upper member held)
  | tail _ held ih =>
      exact Relation.TransGen.tail ih (fewer _ (grove.mem_of_isBelow member ih) held)

end Grove

end StyledTree.Styles
