import StyledTree.Proofs.Forest.Dropping
import StyledTree.Proofs.Forest.Placing

set_option autoImplicit false

namespace StyledTree

/-- The widget was taken out of the container, or its placement record was left alone. -/
inductive Node.Loosened (container : WidgetId) (before after : Node) : Prop where
  | stays (parent : after.parent = before.parent) (constraint : after.constraint = before.constraint)
    (pending : after.pending = before.pending)
  | leaves (hung : before.parent = some container) (parent : after.parent = none)
    (constraint : after.constraint = none) (pending : after.pending = before.pending)

inductive Node.Relinked (container : WidgetId) (before after : Node) : Prop where
  | loosened (loosened : before.Loosened container after)
  | placed (parent : after.parent = some container) (pending : after.pending = none)

/-- A widget that was taken out does not hang anywhere, so that it is not taken out twice. -/
theorem Node.Loosened.andThen {container : WidgetId} {before middle after : Node}
    (first : before.Loosened container middle) (second : middle.Relinked container after) :
    before.Relinked container after := by
  cases second with
  | placed parent pending => exact .placed parent pending
  | loosened second =>
      cases second with
      | stays parent constraint pending =>
          apply Relinked.loosened
          cases first with
          | stays first second third =>
              exact .stays (parent.trans first) (constraint.trans second) (pending.trans third)
          | leaves hung first second third =>
              exact .leaves hung (parent.trans first) (constraint.trans second) (pending.trans third)
      | leaves hung parent constraint pending =>
          cases first with
          | stays first _ third =>
              exact .loosened (.leaves (first.symm.trans hung) parent constraint (pending.trans third))
          | leaves _ first _ _ =>
              rw [first] at hung
              cases hung

namespace Forest

def Loosens (container : WidgetId) (before after : Forest) : Prop :=
  ∀ widget, Option.Rel (Node.Loosened container) (before.get? widget) (after.get? widget)

def Relinks (container : WidgetId) (before after : Forest) : Prop :=
  ∀ widget, Option.Rel (Node.Relinked container) (before.get? widget) (after.get? widget)

theorem rel_map {related : Node → Node → Prop} {place : Option Node} {change : Node → Node}
    (each : ∀ node, place = some node → related node (change node)) :
    Option.Rel related place (place.map change) := by
  cases place with
  | none => exact .none
  | some node => exact .some (each node rfl)

namespace Loosens

variable {container : WidgetId} {before middle after : Forest}

theorem refl (container : WidgetId) (forest : Forest) : Loosens container forest forest := by
  intro widget
  cases forest.get? widget with
  | none => exact .none
  | some node => exact .some (.stays rfl rfl rfl)

theorem andThen (first : Loosens container before middle) (second : Relinks container middle after) :
    Relinks container before after := by
  intro widget
  have one := first widget
  have other := second widget
  generalize before.get? widget = was at one ⊢
  generalize middle.get? widget = between at one other
  generalize after.get? widget = now at other ⊢
  cases one with
  | none =>
      cases other
      exact .none
  | some one =>
      cases other with
      | some other => exact .some (one.andThen other)

theorem relinks (loosens : Loosens container before after) : Relinks container before after := by
  intro widget
  have one := loosens widget
  generalize before.get? widget = was at one ⊢
  generalize after.get? widget = now at one ⊢
  cases one with
  | none => exact .none
  | some one => exact .some (.loosened one)

end Loosens

theorem Relinks.refl (container : WidgetId) (forest : Forest) : Relinks container forest forest :=
  (Loosens.refl container forest).relinks

theorem hung_of_parent? {forest : Forest} {widget parent : WidgetId} {node : Node}
    (linked : forest.parent? widget = some parent) (found : forest.get? widget = some node) :
    node.parent = some parent := by
  rwa [parent?, found, Option.bind_some] at linked

/-! The edits. -/

theorem loosens_of_takenOut {before after : Forest} {parent child : WidgetId}
    (takenOut : TakenOut parent child before after) (linked : before.parent? child = some parent) :
    Loosens parent before after := by
  intro widget
  by_cases isParent : widget = parent
  · rw [isParent, takenOut.strikes]
    exact rel_map (fun _ _ => .stays rfl rfl rfl)
  · by_cases isChild : widget = child
    · rw [isChild, takenOut.loosens]
      exact rel_map (fun _ found => .leaves (hung_of_parent? linked found) rfl rfl rfl)
    · rw [takenOut.elsewhere widget isParent isChild]
      exact Loosens.refl parent before widget

theorem Inserted.relinks {before after : Forest} (isForest : before.IsForest) {parent child : WidgetId}
    {constraint : Option Constraint} (inserted : Inserted parent child constraint before after) :
    Relinks parent before after := by
  intro widget
  by_cases isChild : widget = child
  · rw [isChild, inserted.places]
    exact rel_map (fun _ _ => .placed rfl rfl)
  · by_cases isParent : widget = parent
    · rw [isParent, inserted.lists]
      exact rel_map (fun _ _ => .loosened (.stays rfl rfl rfl))
    · by_cases leaves : before.Evicts parent child widget
      · have linked := (isForest.mem_children_iff parent widget).mp leaves.2.1
        rw [inserted.evicts widget leaves]
        exact rel_map (fun _ found => .loosened (.leaves (hung_of_parent? linked found) rfl rfl rfl))
      · by_cases isPrevious : before.parent? child = some widget
        · rw [inserted.strikes widget isPrevious isParent leaves]
          exact rel_map (fun _ _ => .loosened (.stays rfl rfl rfl))
        · rw [inserted.elsewhere widget isChild isParent isPrevious leaves]
          exact Relinks.refl parent before widget

theorem relinks_update (forest : Forest) (container widget : WidgetId) {change : Node → Node}
    (keeps : KeepsPlace change) : Relinks container forest (forest.update widget change) := by
  intro other
  rw [get?_update]
  split
  · exact rel_map (fun node _ =>
      .loosened (.stays (keeps.parent node) (keeps.constraint node) (keeps.pending node)))
  · exact Relinks.refl container forest other

namespace IsForest

variable {forest : Forest} (isForest : forest.IsForest)
include isForest

theorem loosens_remove (parent child : WidgetId) :
    Loosens parent forest (forest.remove parent child).2 := by
  by_cases member : child ∈ forest.children parent
  · have linked := (isForest.mem_children_iff parent child).mp member
    exact loosens_of_takenOut (isForest.takenOut_remove member) linked
  · rw [remove_of_not_mem forest member]
    exact Loosens.refl parent forest

theorem loosens_removeAll (parent : WidgetId) : Loosens parent forest (forest.removeAll parent) := by
  intro widget
  rw [isForest.get?_removeAll]
  split
  · exact rel_map (fun _ _ => .stays rfl rfl rfl)
  · split
    · next member =>
      have linked := (isForest.mem_children_iff parent widget).mp member
      exact rel_map (fun _ found => .leaves (hung_of_parent? linked found) rfl rfl rfl)
    · exact Loosens.refl parent forest widget

/-- A child that is gone is not placed anywhere. -/
theorem relinks_insert {parent child : WidgetId} {constraint : Option Constraint} {after : Forest}
    (done : forest.insert parent child constraint = .ok after) : Relinks parent forest after := by
  obtain ⟨-, -, -, ⟨-, rfl⟩ | ⟨live, -⟩⟩ := insert_cases done
  · exact Relinks.refl parent after
  · exact (isForest.inserted live done).relinks isForest

end IsForest

theorem EditsAt.relinks {container : WidgetId} {before after : Forest}
    (edits : EditsAt container before after) (isForest : before.IsForest) :
    Relinks container before after := by
  cases edits with
  | keep => exact Relinks.refl container before
  | remove child => exact (isForest.loosens_remove container child).relinks
  | removeAll => exact (isForest.loosens_removeAll container).relinks
  | insert inserted => exact isForest.relinks_insert inserted
  | exchange occupant inserted =>
      exact (isForest.loosens_remove container occupant).andThen
        ((isForest.remove container occupant).relinks_insert inserted)

theorem contains_of_constraint? {forest : Forest} {widget : WidgetId}
    (constrained : forest.constraint? widget ≠ none) : forest.contains widget = true := by
  cases found : forest.get? widget with
  | none =>
      rw [constraint?, found] at constrained
      exact absurd rfl constrained
  | some node =>
      rw [contains, found]
      rfl

def pend (forest : Forest) (widget container : WidgetId) : Forest :=
  forest.update widget (fun node => { node with pending := some container })

theorem parent?_pend (forest : Forest) (widget container other : WidgetId) :
    (forest.pend widget container).parent? other = forest.parent? other := by
  rw [pend, parent?_update, parent?, ite_self]

theorem children_pend (forest : Forest) (widget container other : WidgetId) :
    (forest.pend widget container).children other = forest.children other := by
  rw [pend, children_update, children, ite_self]

theorem constraint?_pend (forest : Forest) (widget container other : WidgetId) :
    (forest.pend widget container).constraint? other = forest.constraint? other := by
  rw [pend, constraint?, get?_update, constraint?]
  split
  · rw [Option.bind_map]
    rfl
  · rfl

theorem pending?_pend_of_ne (forest : Forest) {widget other : WidgetId} (differ : other ≠ widget)
    (container : WidgetId) : (forest.pend widget container).pending? other = forest.pending? other := by
  rw [pend, pending?, get?_update, if_neg differ, pending?]

theorem pending?_pend_self (forest : Forest) {widget : WidgetId} (live : forest.contains widget = true)
    (container : WidgetId) : (forest.pend widget container).pending? widget = some container := by
  obtain ⟨node, found⟩ := Option.isSome_iff_exists.mp live
  rw [pend, pending?, get?_update, if_pos rfl, found]
  rfl

inductive Rearranges (before after : Forest) : Prop where
  /-- Links were edited at a container, and widgets dropped thereafter, but not the container. -/
  | relinks {container : WidgetId} {edited : Forest} {gone : WidgetId → Prop}
    (relinks : Relinks container before edited) (drops : Drops gone edited after)
    (stays : ¬ gone container)
  | create (kind : Kind) (same : after = (before.create kind).2)
  | drops {gone : WidgetId → Prop} (drops : Drops gone before after)
  | pend (widget container : WidgetId) (same : after = before.pend widget container)

theorem Rearranges.refl (forest : Forest) : Rearranges forest forest :=
  .drops (Drops.refl (fun _ => not_false) forest)

namespace Relinks

variable {container : WidgetId} {before after : Forest} (relinks : Relinks container before after)
  {widget : WidgetId}
include relinks

theorem contains_eq (widget : WidgetId) : after.contains widget = before.contains widget := by
  have one := relinks widget
  rw [contains, contains]
  generalize before.get? widget = was at one ⊢
  generalize after.get? widget = now at one ⊢
  cases one <;> rfl

/-- What the edit made of the placement record of a widget. -/
theorem record_cases (live : after.contains widget = true) :
    (after.parent? widget = before.parent? widget ∧
        after.constraint? widget = before.constraint? widget ∧
        after.pending? widget = before.pending? widget) ∨
      (before.parent? widget = some container ∧ after.parent? widget = none ∧
        after.constraint? widget = none) ∨
      (after.parent? widget = some container ∧ after.pending? widget = none) := by
  have one := relinks widget
  obtain ⟨now, found⟩ := Option.isSome_iff_exists.mp live
  simp only [parent?, constraint?, pending?, found, Option.bind_some]
  rw [found] at one
  generalize before.get? widget = place at one ⊢
  cases one with
  | some one =>
      rw [Option.bind_some, Option.bind_some, Option.bind_some]
      rcases one with (⟨parent, constraint, pending⟩ | ⟨hung, parent, constraint, -⟩) | ⟨parent, pending⟩
      · exact Or.inl ⟨parent, constraint, pending⟩
      · exact Or.inr (Or.inl ⟨hung, parent, constraint⟩)
      · exact Or.inr (Or.inr ⟨parent, pending⟩)

end Relinks

namespace Rearranges

variable {before after : Forest} (rearranges : Rearranges before after) {widget : WidgetId}
include rearranges

/-- The constraint of a widget that hangs nowhere is the one that it had if no parent was left to take it
out of. -/
theorem constraint?_eq (isForest : before.IsForest) (live : after.contains widget = true)
    (free : after.parent? widget = none)
    (gone : ∀ parent, before.parent? widget = some parent → after.contains parent = false) :
    after.constraint? widget = before.constraint? widget := by
  cases rearranges with
  | @relinks container edited isGone relinks drops containerStays =>
      obtain ⟨there, stays⟩ := (drops.contains_iff widget).mp live
      rw [drops.constraint?_eq stays]
      rcases relinks.record_cases there with ⟨-, constraint, -⟩ | ⟨hung, -, -⟩ | ⟨placed, -⟩
      · exact constraint
      · have still : after.contains container = true := by
          rw [drops.contains_iff, relinks.contains_eq]
          exact ⟨isForest.contains_parent hung, containerStays⟩
        rw [gone container hung] at still
        cases still
      · rw [drops.parent_iff.mpr ⟨placed, stays, containerStays⟩] at free
        cases free
  | create kind same =>
      rw [same, constraint?, constraint?, get?_create]
      split
      · next isNew =>
        rw [isNew, get?_create_fst]
        rfl
      · rfl
  | drops drops => exact drops.constraint?_eq ((drops.contains_iff widget).mp live).2
  | pend other container same =>
      rw [same]
      exact constraint?_pend before other container widget

/-- A widget that is no child of its parent any more, which is still there, has no constraint. -/
theorem constraint?_eq_none {parent : WidgetId} (linked : before.parent? widget = some parent)
    (parentStays : after.contains parent = true) (free : after.parent? widget = none) :
    after.constraint? widget = none := by
  by_contra constrained
  have live : after.contains widget = true := contains_of_constraint? constrained
  cases rearranges with
  | @relinks container edited isGone relinks drops containerStays =>
      obtain ⟨there, stays⟩ := (drops.contains_iff widget).mp live
      rw [drops.constraint?_eq stays] at constrained
      rcases relinks.record_cases there with ⟨same, -, -⟩ | ⟨-, -, none⟩ | ⟨placed, -⟩
      · have kept := ((drops.contains_iff parent).mp parentStays).2
        rw [drops.parent_iff.mpr ⟨same.trans linked, stays, kept⟩] at free
        cases free
      · exact constrained none
      · rw [drops.parent_iff.mpr ⟨placed, stays, containerStays⟩] at free
        cases free
  | create kind same =>
      rw [same, parent?_create, linked] at free
      cases free
  | drops drops =>
      have stays := ((drops.contains_iff widget).mp live).2
      have kept := ((drops.contains_iff parent).mp parentStays).2
      rw [drops.parent_iff.mpr ⟨linked, stays, kept⟩] at free
      cases free
  | pend other container same =>
      rw [same, parent?_pend, linked] at free
      cases free

/-- A widget that hangs in the container that it is pending in hung there before. If it was not pending
there yet, then all that happened is that it was recorded to be. -/
theorem hangs_pending {container : WidgetId} (hangs : after.parent? widget = some container)
    (pends : after.pending? widget = some container) :
    before.parent? widget = some container ∧
      (before.pending? widget = some container ∨ after = before.pend widget container) := by
  cases rearranges with
  | relinks relinks drops _ =>
      obtain ⟨linked, -, -⟩ := drops.parent_iff.mp hangs
      have waits := (drops.pending_of pends).1
      rcases relinks.record_cases (contains_of_parent? linked) with ⟨parent, -, pending⟩ |
        ⟨-, parent, -⟩ | ⟨-, pending⟩
      · exact ⟨parent.symm.trans linked, Or.inl (pending.symm.trans waits)⟩
      · rw [parent] at linked
        cases linked
      · rw [pending] at waits
        cases waits
  | create kind same =>
      rw [same, parent?_create] at hangs
      rw [same, pending?, get?_create] at pends
      split at pends
      · cases pends
      · exact ⟨hangs, Or.inl pends⟩
  | drops drops => exact ⟨(drops.parent_iff.mp hangs).1, Or.inl (drops.pending_of pends).1⟩
  | pend other elsewhere same =>
      rw [same, parent?_pend] at hangs
      refine ⟨hangs, ?_⟩
      by_cases isOther : widget = other
      · subst isOther
        rw [same, pending?_pend_self before (contains_of_parent? hangs), Option.some.injEq] at pends
        exact Or.inr (pends ▸ same)
      · rw [same, pending?_pend_of_ne before isOther] at pends
        exact Or.inl pends

end Rearranges

end Forest

end StyledTree
