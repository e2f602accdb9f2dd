import StyledTree.Proofs.Style.Reaching

set_option autoImplicit false

namespace StyledTree.Styles

open Relation

def Owns (styles : Styles) (mutation : HandlerId) (id : StyleId) : Prop :=
  ∃ style, styles.get? id = some style ∧ style.body = .plain mutation

/-- The style runs the mutation on the widgets that it is run on: it is the plain style of the mutation,
or a chain that wraps such a style. -/
inductive Carries (styles : Styles) (mutation : HandlerId) : StyleId → Prop where
  | plain {id : StyleId} : styles.Owns mutation id → Carries styles mutation id
  | wraps {chain inner : StyleId} :
    styles.wrapped? chain = some inner → Carries styles mutation inner →
      Carries styles mutation chain

/-- The lower style is a child style of the upper one, or of a chain that the upper one wraps. -/
inductive Nests (styles : Styles) : StyleId → StyleId → Prop where
  | child {upper lower : StyleId} : lower ∈ styles.children upper → Nests styles upper lower
  | wraps {upper inner lower : StyleId} :
    styles.wrapped? upper = some inner → Nests styles inner lower → Nests styles upper lower

inductive NestedTo (styles : Styles) (mutation : HandlerId) : StyleId → List StyleId → Prop where
  | last {id : StyleId} : styles.Carries mutation id → NestedTo styles mutation id []
  | step {upper lower : StyleId} {rest : List StyleId} :
    styles.Nests upper lower → NestedTo styles mutation lower rest →
      NestedTo styles mutation upper (lower :: rest)

def Bears (styles : Styles) (mutation : HandlerId) (id : StyleId) : Prop :=
  ∃ owner, ReflTransGen (fun upper lower => lower ∈ styles.links upper) id owner ∧
    styles.Owns mutation owner

/-- All that some styles lead to, listed in pre-order: each style has one place. -/
structure OnePlace (styles : Styles) (tops order : List StyleId) : Prop where
  lists : Enumerates styles.links tops order
  unique : order.Nodup

variable {styles : Styles} {mutation : HandlerId}

theorem Bears.of_link {upper lower : StyleId} (link : lower ∈ styles.links upper)
    (bears : styles.Bears mutation lower) : styles.Bears mutation upper := by
  obtain ⟨owner, path, owns⟩ := bears
  exact ⟨owner, ReflTransGen.head link path, owns⟩

/-- A plain style has nothing below it. -/
theorem NestedTo.of_plain {id : StyleId} {rest : List StyleId} {style : Style} {other : HandlerId}
    (nested : styles.NestedTo mutation id rest) (found : styles.get? id = some style)
    (body : style.body = .plain other) : rest = [] ∧ other = mutation := by
  have noWrapped : styles.wrapped? id = none := by
    rw [wrapped?, found, Option.bind_some, Style.wrapped?, body]
  have noChildren : styles.children id = [] := by
    rw [children, found, Option.map_some, Option.getD_some, Style.children, Style.childSheets, body]
    rfl
  cases nested with
  | last carries =>
      cases carries with
      | plain owns =>
          obtain ⟨held, heldFound, heldBody⟩ := owns
          rw [found, Option.some.injEq] at heldFound
          rw [← heldFound, body, Style.Body.plain.injEq] at heldBody
          exact ⟨rfl, heldBody⟩
      | wraps wrapped _ =>
          rw [noWrapped] at wrapped
          cases wrapped
  | step nests _ =>
      cases nests with
      | child held =>
          rw [noChildren] at held
          cases held
      | wraps wrapped _ =>
          rw [noWrapped] at wrapped
          cases wrapped

/-- What is nested under a chain is nested under what it wraps or under one of its child styles. -/
theorem NestedTo.of_chain {id : StyleId} {rest : List StyleId}
    (nested : styles.NestedTo mutation id rest) (isChain : styles.isChain id = true) :
    (∃ inner, styles.wrapped? id = some inner ∧ styles.NestedTo mutation inner rest) ∨
      ∃ lower below, rest = lower :: below ∧ lower ∈ styles.children id ∧
        styles.NestedTo mutation lower below := by
  cases nested with
  | last carries =>
      cases carries with
      | plain owns =>
          obtain ⟨style, found, body⟩ := owns
          rw [Styles.isChain, found, Option.any_some, Style.isChain, body] at isChain
          cases isChain
      | wraps wrapped inner => exact Or.inl ⟨_, wrapped, NestedTo.last inner⟩
  | step nests lower =>
      cases nests with
      | child held => exact Or.inr ⟨_, _, rfl, held, lower⟩
      | wraps wrapped inner => exact Or.inl ⟨_, wrapped, NestedTo.step inner lower⟩

theorem Carries.bears {id : StyleId} (carries : styles.Carries mutation id) :
    styles.Bears mutation id := by
  induction carries with
  | plain owns => exact ⟨_, ReflTransGen.refl, owns⟩
  | wraps wrapped _ ih => exact ih.of_link ((mem_links _ _ _).mpr (Or.inr wrapped))

theorem Nests.bears {upper lower : StyleId} (nests : styles.Nests upper lower)
    (bears : styles.Bears mutation lower) : styles.Bears mutation upper := by
  induction nests with
  | child held => exact bears.of_link ((mem_links _ _ _).mpr (Or.inl held))
  | wraps wrapped _ ih => exact (ih bears).of_link ((mem_links _ _ _).mpr (Or.inr wrapped))

theorem NestedTo.bears {id : StyleId} {rest : List StyleId}
    (nested : styles.NestedTo mutation id rest) : styles.Bears mutation id := by
  induction nested with
  | last carries => exact carries.bears
  | step nests _ ih => exact nests.bears ih

namespace OnePlace

variable {tops order : List StyleId}

theorem mem_of_path (place : styles.OnePlace tops order) {upper lower : StyleId}
    (member : upper ∈ order)
    (path : ReflTransGen (fun upper lower => lower ∈ styles.links upper) upper lower) :
    lower ∈ order := by
  induction path with
  | refl => exact member
  | tail _ link ih => exact place.lists.mem_of_child ih link

/-- Only one of the styles at the top bears a mutation that only one style owns. -/
theorem top_unique (place : styles.OnePlace tops order)
    (alone : ∀ one ∈ order, ∀ other ∈ order, styles.Owns mutation one →
      styles.Owns mutation other → one = other)
    {one other : StyleId} (isOne : one ∈ tops) (isOther : other ∈ tops)
    (oneBears : styles.Bears mutation one) (otherBears : styles.Bears mutation other) :
    one = other := by
  obtain ⟨first, toFirst, firstOwns⟩ := oneBears
  obtain ⟨second, toSecond, secondOwns⟩ := otherBears
  have firstMember := place.mem_of_path (place.lists.mem_of_node isOne) toFirst
  have secondMember := place.mem_of_path (place.lists.mem_of_node isOther) toSecond
  have same := alone first firstMember second secondMember firstOwns secondOwns
  subst same
  exact place.lists.node_unique place.unique isOne isOther toFirst toSecond

/-- What is below a style of one place each has one place each. -/
theorem below (place : styles.OnePlace tops order) {holder : StyleId} (member : holder ∈ order) :
    ∃ listed, styles.OnePlace (styles.links holder) listed ∧ listed ⊆ order := by
  obtain ⟨listed, lists, within, -⟩ := place.lists.exists_below place.unique member
  exact ⟨listed, ⟨lists, place.unique.sublist within⟩, within.subset⟩

/-- Only one of the styles that a style links to bears a mutation that only one style owns. -/
theorem link_unique (place : styles.OnePlace tops order)
    (alone : ∀ one ∈ order, ∀ other ∈ order, styles.Owns mutation one →
      styles.Owns mutation other → one = other)
    {holder one other : StyleId} (member : holder ∈ order) (isOne : one ∈ styles.links holder)
    (isOther : other ∈ styles.links holder) (oneBears : styles.Bears mutation one)
    (otherBears : styles.Bears mutation other) : one = other := by
  obtain ⟨listed, lower, within⟩ := place.below member
  refine lower.top_unique ?_ isOne isOther oneBears otherBears
  exact fun first isFirst second isSecond => alone first (within isFirst) second (within isSecond)

theorem nodup_tops (place : styles.OnePlace tops order) : tops.Nodup :=
  place.lists.nodup_nodes place.unique

/-- A chain does not hold a child twice, and does not hold what it wraps. -/
theorem nodup_links (place : styles.OnePlace tops order) {holder : StyleId}
    (member : holder ∈ order) : (styles.links holder).Nodup :=
  place.lists.nodup_children place.unique member

end OnePlace

def WrapsAlike (styles : Styles) : Prop :=
  ∀ chain upper inner, styles.get? chain = some upper → upper.wrapped? = some inner →
    ∃ lower, styles.get? inner = some lower ∧ lower.selector = upper.selector ∧
      lower.target = upper.target

theorem mapSheets_alike (style : Style) (change : List ChildSheet → List ChildSheet) :
    (style.mapSheets change).selector = style.selector ∧
      (style.mapSheets change).target = style.target := by
  rcases style with ⟨selector, target, body⟩
  cases body <;> exact ⟨rfl, rfl⟩

namespace WrapsAlike

variable {before after : Styles}

/-- Other sheets below a chain make no difference. -/
theorem of_keeps (alike : before.WrapsAlike) (keeps : Keeps before after)
    (old : ∀ id, after.Made id → before.Made id) : after.WrapsAlike := by
  intro chain upper inner found wrapped
  obtain ⟨held, heldFound⟩ := (before.made_iff chain).mp (old chain (made_of_get? found))
  obtain ⟨sheets, later⟩ := keeps chain held heldFound
  rw [found, Option.some.injEq] at later
  rw [later, Style.wrapped?_mapSheets] at wrapped
  obtain ⟨lower, lowerFound, selector, target⟩ := alike chain held inner heldFound wrapped
  obtain ⟨lowerSheets, lowerLater⟩ := keeps inner lower lowerFound
  have upperSame := mapSheets_alike held (fun _ => sheets)
  have lowerSame := mapSheets_alike lower (fun _ => lowerSheets)
  refine ⟨_, lowerLater, ?_, ?_⟩
  · rw [later, lowerSame.1, upperSame.1, selector]
  · rw [later, lowerSame.2, upperSame.2, target]

/-- A new style is like what it wraps, if it wraps anything. -/
theorem add (alike : styles.WrapsAlike) {style : Style}
    (new : ∀ inner, style.wrapped? = some inner →
      ∃ lower, styles.get? inner = some lower ∧ lower.selector = style.selector ∧
        lower.target = style.target) : (styles.add style).2.WrapsAlike := by
  intro chain upper inner found wrapped
  have known : ∃ lower, styles.get? inner = some lower ∧ lower.selector = upper.selector ∧
      lower.target = upper.target := by
    rw [get?_add] at found
    split at found
    · rw [Option.some.injEq] at found
      subst found
      exact new inner wrapped
    · exact alike chain upper inner found wrapped
  obtain ⟨lower, lowerFound, same⟩ := known
  exact ⟨lower, (get?_add_of_made (made_of_get? lowerFound) style).trans lowerFound, same⟩

theorem wrap (alike : styles.WrapsAlike) (id : StyleId) : (styles.wrap id).2.WrapsAlike := by
  rcases styles.wrap_cases id with ⟨-, same⟩ | ⟨style, found, same⟩
  · rw [same]
    exact alike
  · rw [same]
    refine alike.add ?_
    rintro inner ⟨⟩
    exact ⟨style, found, rfl, rfl⟩

theorem asChain (alike : styles.WrapsAlike) (id : StyleId) :
    (styles.asChain id).2.WrapsAlike := by
  rcases styles.asChain_cases id with ⟨-, same⟩ | ⟨-, same⟩
  · rw [same]
    exact alike
  · rw [same]
    exact alike.wrap id

theorem append (alike : styles.WrapsAlike) (parent child : StyleId) :
    (styles.append parent child).WrapsAlike :=
  alike.of_keeps (Keeps.updateSheets styles parent _)
    (fun id made => (styles.made_update_iff parent id _).mp made)

theorem detach (alike : styles.WrapsAlike) (tops : List StyleId) (child : StyleId) :
    (styles.detach tops child).WrapsAlike :=
  alike.of_keeps (Keeps.detach styles tops child)
    (fun id made => (styles.made_detach_iff tops child id).mp made)

end WrapsAlike

end StyledTree.Styles
