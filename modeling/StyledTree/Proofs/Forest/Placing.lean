import StyledTree.Proofs.Forest.Surroundings

set_option autoImplicit false

namespace StyledTree

namespace Node

def without (child : WidgetId) (node : Node) : Node :=
  { node with children := node.children.filter (fun other => other != child) }

def loose (node : Node) : Node := { node with parent := none, constraint := none }

def placedIn (parent : WidgetId) (constraint : Option Constraint) (node : Node) : Node :=
  { node with parent := some parent, constraint := constraint, pending := none }

/-- The node of a container with a child at the end of its list; a scroll pane lists nothing else. -/
def holding (child : WidgetId) (node : Node) : Node :=
  { node with
    children := (if node.kind = .scrollPane then [] else (node.without child).children) ++ [child] }

theorem without_eq_self {child : WidgetId} {node : Node} (absent : child ∉ node.children) :
    node.without child = node := by
  have kept : node.children.filter (fun other => other != child) = node.children := by
    rw [List.filter_eq_self]
    intro other member
    rw [bne_iff_ne]
    rintro rfl
    exact absent member
  unfold without
  rw [kept]

end Node

namespace Forest

structure TakenOut (parent child : WidgetId) (before after : Forest) : Prop where
  strikes : after.get? parent = (before.get? parent).map (Node.without child)
  loosens : after.get? child = (before.get? child).map Node.loose
  elsewhere : ∀ widget, widget ≠ parent → widget ≠ child → after.get? widget = before.get? widget

/-- A container would have to give up the widget, as the view that it shows, for a child. -/
def Evicts (forest : Forest) (container child widget : WidgetId) : Prop :=
  forest.kind? container = some .scrollPane ∧ widget ∈ forest.children container ∧ widget ≠ child

instance (forest : Forest) (container child widget : WidgetId) :
    Decidable (forest.Evicts container child widget) :=
  inferInstanceAs (Decidable (_ ∧ _ ∧ _))

/-- A child was moved to the end of a container, with a constraint or without one. -/
structure Inserted (parent child : WidgetId) (constraint : Option Constraint)
    (before after : Forest) : Prop where
  places : after.get? child = (before.get? child).map (Node.placedIn parent constraint)
  lists : after.get? parent = (before.get? parent).map (Node.holding child)
  /-- The view that has to leave, which may be the one that the child was taken from. -/
  evicts : ∀ view, before.Evicts parent child view →
    after.get? view = (before.get? view).map (fun node => (node.without child).loose)
  strikes : ∀ previous, before.parent? child = some previous → previous ≠ parent →
    ¬ before.Evicts parent child previous →
      after.get? previous = (before.get? previous).map (Node.without child)
  elsewhere : ∀ widget, widget ≠ child → widget ≠ parent → before.parent? child ≠ some widget →
    ¬ before.Evicts parent child widget → after.get? widget = before.get? widget
  /-- What is below the child goes with it as it is. -/
  below : ∀ lower, IsAbove before.parent? child lower → after.get? lower = before.get? lower

/-- Why a container does not take a child in. Only a child that comes without a constraint meets the
first reason, and it meets that one first. A widget that is gone holds no more than a bare component. -/
inductive Refuses (forest : Forest) (parent child : WidgetId) : Option Constraint → Fault → Prop where
  | constraintRequired {node : Node} (isParent : forest.get? parent = some node)
    (container : node.isContainer = true) (closed : node.layout.requiresConstraints = true) :
    Refuses forest parent child none (.constraintRequired node.kind node.layout)
  | notAContainer {constraint : Option Constraint} (leaf : forest.isContainer parent = false) :
    Refuses forest parent child constraint (.notAContainer ((forest.kind? parent).getD .component))
  | wouldCreateCycle {node : Node} {constraint : Option Constraint}
    (isParent : forest.get? parent = some node) (container : node.isContainer = true)
    (isOpen : constraint = none → node.layout.requiresConstraints = false)
    (covers : forest.Covers child parent) :
    Refuses forest parent child constraint
      (.wouldCreateCycle (forest.describe parent) (forest.describe child))

/-- The first child at a place was taken out. Nothing changed exactly if there was no child to take out
but the one to be spared. -/
structure Vacated (container : WidgetId) (place : Constraint) (spared : Option WidgetId)
    (before after : Forest) : Prop where
  loses : ∀ occupant, before.childAt? container place = some occupant → spared ≠ some occupant →
    TakenOut container occupant before after
  unchanged_iff : after = before ↔
    ∀ occupant, before.childAt? container place = some occupant → spared = some occupant

def IsDisplaced (forest : Forest) (container : WidgetId) (place : Constraint)
    (spared : Option WidgetId) (occupant : WidgetId) : Prop :=
  forest.childAt? container place = some occupant ∧ spared ≠ some occupant

/-! The nodes after each edit. -/

theorem get?_orphan (forest : Forest) (widget other : WidgetId) :
    (forest.orphan widget).get? other =
      if other = widget then (forest.get? other).map Node.loose else forest.get? other :=
  get?_update forest widget other _

theorem get?_orphans (forest : Forest) (orphans : List WidgetId) (widget : WidgetId) :
    (orphans.foldl orphan forest).get? widget =
      if widget ∈ orphans then (forest.get? widget).map Node.loose else forest.get? widget := by
  induction orphans generalizing forest with
  | nil => simp
  | cons first rest ih =>
      rw [List.foldl_cons, ih, get?_orphan]
      by_cases same : widget = first
      · subst same
        by_cases again : widget ∈ rest
        · simp only [again, if_true, List.mem_cons_self, Option.map_map]
          rfl
        · simp only [again, if_true, if_false, List.mem_cons_self]
      · simp only [same, if_false, List.mem_cons, false_or]

theorem get?_link (forest : Forest) {parent child : WidgetId} (constraint : Option Constraint)
    (apart : child ≠ parent) (widget : WidgetId) :
    (forest.link parent child constraint).get? widget =
      if widget = child then (forest.get? widget).map (Node.placedIn parent constraint)
      else if widget = parent then
        (forest.get? widget).map (fun node => { node with children := node.children ++ [child] })
      else forest.get? widget := by
  rw [link, get?_update, get?_update]
  by_cases isChild : widget = child
  · subst isChild
    rw [if_neg apart, if_pos rfl, if_pos rfl]
    rfl
  · rw [if_neg isChild, if_neg isChild]

/-- What is read off a node neither from its list of children nor from where it hangs is the same when a
child was taken out. -/
theorem TakenOut.map_eq {before after : Forest} {parent child : WidgetId}
    (takenOut : TakenOut parent child before after) {α : Type} (read : Node → α)
    (strikes : ∀ node, read (node.without child) = read node)
    (loosens : ∀ node, read node.loose = read node) (widget : WidgetId) :
    (after.get? widget).map read = (before.get? widget).map read := by
  have same : ∀ {change : Node → Node}, (∀ node, read (change node) = read node) →
      after.get? widget = (before.get? widget).map change →
        (after.get? widget).map read = (before.get? widget).map read := by
    intro change kept changed
    rw [changed, Option.map_map]
    congr 1
    exact funext kept
  by_cases isParent : widget = parent
  · exact same strikes (isParent ▸ takenOut.strikes)
  · by_cases isChild : widget = child
    · exact same loosens (isChild ▸ takenOut.loosens)
    · rw [takenOut.elsewhere widget isParent isChild]

/-- Where a child hangs that was moved to the end of a container. -/
theorem Inserted.hangs {before after : Forest} {parent child : WidgetId} {constraint : Option Constraint}
    (inserted : Inserted parent child constraint before after) (live : before.contains child = true) :
    after.parent? child = some parent ∧ after.constraint? child = constraint ∧
      after.pending? child = none := by
  obtain ⟨node, found⟩ := Option.isSome_iff_exists.mp live
  have places := inserted.places
  rw [found, Option.map_some] at places
  rw [parent?, constraint?, pending?, places]
  exact ⟨rfl, rfl, rfl⟩

section Vacated

variable {before after : Forest} {container : WidgetId} {place : Constraint} {spared : Option WidgetId}
  (vacated : Vacated container place spared before after)
include vacated

theorem Vacated.map_eq {α : Type} (read : Node → α)
    (strikes : ∀ child node, read (node.without child) = read node)
    (loosens : ∀ node, read node.loose = read node) (widget : WidgetId) :
    (after.get? widget).map read = (before.get? widget).map read := by
  by_cases same : after = before
  · rw [same]
  · obtain ⟨occupant, leaves⟩ := not_forall.mp (vacated.unchanged_iff.not.mp same)
    obtain ⟨found, differ⟩ := Classical.not_imp.mp leaves
    exact (vacated.loses occupant found differ).map_eq read (strikes occupant) loosens widget

theorem Vacated.describe_eq (widget : WidgetId) : after.describe widget = before.describe widget := by
  rw [describe, vacated.map_eq Node.describe (fun _ _ => rfl) (fun _ => rfl), describe]

end Vacated

theorem mem_children_of_childAt? {forest : Forest} {container occupant : WidgetId} {place : Constraint}
    (found : forest.childAt? container place = some occupant) :
    occupant ∈ forest.children container :=
  List.mem_of_find?_eq_some found

section Edits

variable {forest : Forest} (isForest : forest.IsForest)
include isForest

theorem IsForest.not_mem_children_self (widget : WidgetId) : widget ∉ forest.children widget :=
  fun member => isForest.acyclic widget
    (IsAbove.of_parent ((isForest.mem_children_iff widget widget).mp member))

/-- Only the parent lists a child, so that striking the child changes no other node. -/
theorem IsForest.map_without {child widget : WidgetId} (apart : forest.parent? child ≠ some widget) :
    (forest.get? widget).map (Node.without child) = forest.get? widget := by
  cases found : forest.get? widget with
  | none => rfl
  | some node =>
      have absent : child ∉ node.children := by
        intro member
        apply apart
        rw [← isForest.mem_children_iff]
        rw [children, found]
        exact member
      simp only [Option.map_some, Node.without_eq_self absent]

theorem IsForest.takenOut_remove {parent child : WidgetId} (member : child ∈ forest.children parent) :
    TakenOut parent child forest (forest.remove parent child).2 := by
  have differ : parent ≠ child := by
    rintro rfl
    exact isForest.not_mem_children_self parent member
  have nodes : ∀ widget, (forest.remove parent child).2.get? widget =
      if widget = child then (forest.get? widget).map Node.loose
      else if widget = parent then (forest.get? widget).map (Node.without child)
      else forest.get? widget := by
    intro widget
    rw [remove_of_mem forest member, get?_orphan, get?_update]
    by_cases isChild : widget = child
    · subst isChild
      simp only [if_true, if_neg (Ne.symm differ)]
    · simp only [isChild, if_false]
      rfl
  constructor
  · rw [nodes, if_neg differ, if_pos rfl]
  · rw [nodes, if_pos rfl]
  · intro widget notParent notChild
    rw [nodes, if_neg notChild, if_neg notParent]

/-- Taking a widget out of its parent strikes it from the lists of all others. -/
theorem IsForest.get?_detach_of_ne {child widget : WidgetId} (differ : widget ≠ child) :
    (forest.detach child).2.get? widget = (forest.get? widget).map (Node.without child) := by
  cases linked : forest.parent? child with
  | none =>
      have apart : forest.parent? child ≠ some widget := by
        rw [linked]
        exact nofun
      simp only [Forest.detach, linked, isForest.map_without apart]
  | some parent =>
      have takenOut := isForest.takenOut_remove ((isForest.mem_children_iff parent child).mpr linked)
      simp only [Forest.detach, linked]
      by_cases isParent : widget = parent
      · rw [isParent, takenOut.strikes]
      · have apart : forest.parent? child ≠ some widget := by
          rw [linked]
          exact fun same => isParent (Option.some.inj same).symm
        rw [takenOut.elsewhere widget isParent differ, isForest.map_without apart]

/-- What a widget was placed with before is of no account when it is placed again. -/
theorem IsForest.map_placedIn_detach (child parent : WidgetId) (constraint : Option Constraint) :
    ((forest.detach child).2.get? child).map (Node.placedIn parent constraint) =
      (forest.get? child).map (Node.placedIn parent constraint) := by
  cases linked : forest.parent? child with
  | none => simp only [Forest.detach, linked]
  | some upper =>
      have takenOut := isForest.takenOut_remove ((isForest.mem_children_iff upper child).mpr linked)
      simp only [Forest.detach, linked, takenOut.loosens, Option.map_map]
      rfl

theorem IsForest.get?_removeAll (parent widget : WidgetId) :
    (forest.removeAll parent).get? widget =
      if widget = parent then (forest.get? widget).map (fun node => { node with children := [] })
      else if widget ∈ forest.children parent then (forest.get? widget).map Node.loose
      else forest.get? widget := by
  rw [Forest.removeAll, get?_orphans, get?_update]
  by_cases isParent : widget = parent
  · subst isParent
    rw [if_neg (isForest.not_mem_children_self widget), if_pos rfl, if_pos rfl]
  · rw [if_neg isParent, if_neg isParent]

/-! The forest in which a child is linked. -/

theorem IsForest.mem_children_detach {child parent widget : WidgetId} :
    widget ∈ (forest.detach child).2.children parent ↔
      widget ∈ forest.children parent ∧ widget ≠ child := by
  rw [(isForest.detach child).mem_children_iff, isForest.parent?_detach,
    isForest.mem_children_iff]
  by_cases same : widget = child <;> simp [same]

theorem IsForest.map_placedIn_clearedFor {parent child : WidgetId} (apart : child ≠ parent)
    (constraint : Option Constraint) :
    ((forest.clearedFor parent child).get? child).map (Node.placedIn parent constraint) =
      (forest.get? child).map (Node.placedIn parent constraint) := by
  rw [Forest.clearedFor]
  split
  · have free : child ∉ (forest.detach child).2.children parent :=
      fun member => (isForest.mem_children_detach.mp member).2 rfl
    rw [(isForest.detach child).get?_removeAll, if_neg apart, if_neg free]
    exact isForest.map_placedIn_detach child parent constraint
  · exact isForest.map_placedIn_detach child parent constraint

theorem IsForest.get?_clearedFor_self {parent child : WidgetId} (apart : child ≠ parent) :
    (forest.clearedFor parent child).get? parent = (forest.get? parent).map (fun node =>
      { node with
        children := if node.kind = .scrollPane then [] else (node.without child).children }) := by
  have detached := isForest.get?_detach_of_ne (Ne.symm apart)
  rw [Forest.clearedFor, kind?]
  cases found : forest.get? parent with
  | none =>
      rw [found] at detached
      exact detached
  | some node =>
      rw [found] at detached
      by_cases scrolls : node.kind = .scrollPane
      · simp only [Option.map_some, Option.some.injEq, if_pos scrolls,
          (isForest.detach child).get?_removeAll, if_true, detached]
        rfl
      · simp only [Option.map_some, Option.some.injEq, if_neg scrolls, detached]
        rfl

theorem IsForest.get?_clearedFor_of_ne {parent child widget : WidgetId} (notChild : widget ≠ child)
    (notParent : widget ≠ parent) :
    (forest.clearedFor parent child).get? widget =
      if forest.Evicts parent child widget then
        (forest.get? widget).map (fun node => (node.without child).loose)
      else (forest.get? widget).map (Node.without child) := by
  have detached := isForest.get?_detach_of_ne notChild
  by_cases scrolls : forest.kind? parent = some .scrollPane
  · have evicts_iff : forest.Evicts parent child widget ↔
        widget ∈ (forest.detach child).2.children parent := by
      rw [isForest.mem_children_detach]
      exact and_iff_right scrolls
    rw [Forest.clearedFor, if_pos scrolls, (isForest.detach child).get?_removeAll, if_neg notParent,
      detached]
    by_cases leaves : forest.Evicts parent child widget
    · rw [if_pos leaves, if_pos (evicts_iff.mp leaves), Option.map_map]
      rfl
    · rw [if_neg leaves, if_neg (fun member => leaves (evicts_iff.mpr member))]
  · rw [Forest.clearedFor, if_neg scrolls, if_neg (fun leaves => scrolls leaves.1), detached]

/-- An insertion that is not refused moves the child and touches nothing else but what has to leave. -/
theorem IsForest.inserted {after : Forest} {parent child : WidgetId} {constraint : Option Constraint}
    (live : forest.contains child = true)
    (done : forest.insert parent child constraint = .ok after) :
    Inserted parent child constraint forest after := by
  obtain ⟨-, apart, outside, ⟨gone, -⟩ | ⟨-, rfl⟩⟩ := insert_cases done
  · rw [live] at gone
    cases gone
  · have notAbove : ¬ IsAbove forest.parent? child parent := by
      intro above
      rw [isForest.isBelow_iff.mpr above] at outside
      cases outside
    have nodes := get?_link (forest.clearedFor parent child) constraint apart
    have others : ∀ widget, widget ≠ child → widget ≠ parent →
        ((forest.clearedFor parent child).link parent child constraint).get? widget =
          if forest.Evicts parent child widget then
            (forest.get? widget).map (fun node => (node.without child).loose)
          else (forest.get? widget).map (Node.without child) := by
      intro widget notChild notParent
      rw [nodes, if_neg notChild, if_neg notParent, isForest.get?_clearedFor_of_ne notChild notParent]
    have elsewhere : ∀ widget, widget ≠ child → widget ≠ parent →
        forest.parent? child ≠ some widget → ¬ forest.Evicts parent child widget →
          ((forest.clearedFor parent child).link parent child constraint).get? widget =
            forest.get? widget := by
      intro widget notChild notParent notPrevious stays
      rw [others widget notChild notParent, if_neg stays, isForest.map_without notPrevious]
    constructor
    case places => rw [nodes, if_pos rfl, isForest.map_placedIn_clearedFor apart]
    case lists =>
      rw [nodes, if_neg (Ne.symm apart), if_pos rfl, isForest.get?_clearedFor_self apart,
        Option.map_map]
      rfl
    case evicts =>
      intro view leaves
      have notParent : view ≠ parent := by
        rintro rfl
        exact isForest.not_mem_children_self view leaves.2.1
      rw [others view leaves.2.2 notParent, if_pos leaves]
    case strikes =>
      intro previous linked notParent stays
      have notChild : previous ≠ child := by
        rintro rfl
        exact isForest.acyclic previous (IsAbove.of_parent linked)
      rw [others previous notChild notParent, if_neg stays]
    case elsewhere => exact elsewhere
    case below =>
      intro lower above
      apply elsewhere
      · rintro rfl
        exact isForest.acyclic lower above
      · rintro rfl
        exact notAbove above
      · intro linked
        exact isForest.acyclic child (above.trans (IsAbove.of_parent linked))
      · intro leaves
        have linked := (isForest.mem_children_iff parent lower).mp leaves.2.1
        exact ((IsAbove.iff_of_parent linked).mp above).elim apart notAbove

/-! Refusals. -/

/-- An insertion is refused by a widget that is no container, and for a child at or above it. -/
theorem IsForest.insert_eq_error_iff {parent child : WidgetId} {constraint : Option Constraint}
    {fault : Fault} :
    forest.insert parent child constraint = .error fault ↔
      forest.isContainer parent = false ∧
          fault = .notAContainer ((forest.kind? parent).getD .component) ∨
        forest.isContainer parent = true ∧ forest.Covers child parent ∧
          fault = .wouldCreateCycle (forest.describe parent) (forest.describe child) := by
  have refused_iff : (decide (child = parent) || forest.isBelow parent child) = true ↔
      forest.Covers child parent := by
    rw [Bool.or_eq_true, decide_eq_true_eq, isForest.isBelow_iff]
    rfl
  rw [Forest.insert, Forest.isContainer, Forest.kind?]
  cases found : forest.get? parent with
  | none => simp [eq_comm]
  | some node =>
      dsimp only [Option.map_some, Option.getD_some]
      rw [Option.any_some]
      cases container : node.isContainer with
      | false => simp [eq_comm]
      | true =>
          by_cases covers : forest.Covers child parent
          · rw [Bool.not_true, if_neg Bool.false_ne_true, if_pos (refused_iff.mpr covers)]
            constructor
            · rintro ⟨⟩
              exact Or.inr ⟨rfl, covers, rfl⟩
            · rintro (⟨⟨⟩, -⟩ | ⟨-, -, rfl⟩)
              rfl
          · simp only [refused_iff.not.mpr covers, covers, Bool.not_true, Bool.false_eq_true, if_false]
            split <;> simp

/-- Told by the links: an insertion is refused for these reasons, if it is known that the layout does
not ask for a constraint that is missing. -/
theorem IsForest.insert_eq_error_iff_refuses {parent child : WidgetId}
    {constraint : Option Constraint} {fault : Fault}
    (isOpen : constraint = none → ∀ node, forest.get? parent = some node →
      node.isContainer = true → node.layout.requiresConstraints = false) :
    forest.insert parent child constraint = .error fault ↔
      forest.Refuses parent child constraint fault := by
  rw [isForest.insert_eq_error_iff]
  constructor
  · rintro (⟨leaf, rfl⟩ | ⟨container, covers, rfl⟩)
    · exact Refuses.notAContainer leaf
    · obtain ⟨node, found, holds⟩ := (Option.any_eq_true _ _).mp container
      exact Refuses.wouldCreateCycle found holds (fun missing => isOpen missing node found holds) covers
  · intro refuses
    cases refuses with
    | constraintRequired found container closed =>
        rw [isOpen rfl _ found container] at closed
        cases closed
    | notAContainer leaf => exact Or.inl ⟨leaf, rfl⟩
    | wouldCreateCycle found container _ covers =>
        refine Or.inr ⟨?_, covers, rfl⟩
        rw [Forest.isContainer, found, Option.any_some, container]

/-- A widget without children is above nobody. -/
theorem IsForest.not_covers_of_childless {upper lower : WidgetId} (apart : upper ≠ lower)
    (childless : forest.children upper = []) : ¬ forest.Covers upper lower := by
  rintro (same | above)
  · exact apart same
  · obtain ⟨child, -, linked⟩ := Relation.TransGen.tail'_iff.mp above
    have member := (isForest.mem_children_iff upper child).mpr linked
    rw [childless] at member
    cases member

/-- No other container refuses a widget without children that comes with a constraint. -/
theorem IsForest.not_refuses_childless {parent child : WidgetId} (apart : child ≠ parent)
    (childless : forest.children child = []) (container : forest.isContainer parent = true)
    (place : Constraint) (fault : Fault) : ¬ forest.Refuses parent child (some place) fault := by
  intro refuses
  cases refuses with
  | notAContainer leaf =>
      rw [container] at leaf
      cases leaf
  | wouldCreateCycle _ _ _ covers =>
      exact isForest.not_covers_of_childless apart childless covers

/-- Taking out a child changes nothing on the way up from its parent. -/
theorem IsForest.covers_remove_iff {parent child upper : WidgetId}
    (member : child ∈ forest.children parent) :
    (forest.remove parent child).2.Covers upper parent ↔ forest.Covers upper parent := by
  have linked := (isForest.mem_children_iff parent child).mp member
  have lower : ¬ forest.IsBeside parent child :=
    fun beside => beside.notBelow (IsAbove.of_parent linked)
  have changes : ChangesBelow parent forest (forest.remove parent child).2 := by
    have detached := ChangesBelow.detach isForest lower
    rwa [Forest.detach, linked] at detached
  exact changes.covers_iff isForest (isForest.isBeside_self parent)

theorem IsForest.vacated_vacate (container : WidgetId) (place : Constraint)
    (spared : Option WidgetId) :
    Vacated container place spared forest (forest.vacate container place spared) := by
  rw [Forest.vacate]
  cases found : forest.childAt? container place with
  | none =>
      refine ⟨fun _ same => ?_, iff_of_true rfl (fun _ same => ?_)⟩ <;>
        (rw [found] at same; cases same)
  | some occupant =>
      have only : ∀ other, forest.childAt? container place = some other → other = occupant :=
        fun other same => Option.some.inj (same.symm.trans found)
      dsimp only
      by_cases isSpared : spared = some occupant
      · rw [if_pos isSpared]
        refine ⟨fun other same leaves => ?_, iff_of_true rfl (fun other same => ?_)⟩
        · exact absurd (only other same ▸ isSpared) leaves
        · exact only other same ▸ isSpared
      · rw [if_neg isSpared]
        have member := mem_children_of_childAt? found
        have takenOut := isForest.takenOut_remove member
        refine ⟨fun other same _ => ?_, iff_of_false (fun same => ?_) (fun all => ?_)⟩
        · rw [only other same]
          exact takenOut
        · have linked := (isForest.mem_children_iff container occupant).mp member
          rw [← same, parent?_remove forest member, if_pos rfl] at linked
          cases linked
        · exact isSpared (all occupant found)

/-- Whether a placement is refused, and why, does not depend on the occupant of the place. -/
theorem IsForest.insert_vacate_eq_error_iff {container child : WidgetId} {place : Constraint}
    {spared : Option WidgetId} {constraint : Option Constraint} {fault : Fault} :
    (forest.vacate container place spared).insert container child constraint = .error fault ↔
      forest.insert container child constraint = .error fault := by
  have vacated := isForest.vacated_vacate container place spared
  have kinds : ∀ widget, (forest.vacate container place spared).kind? widget =
      forest.kind? widget := vacated.map_eq Node.kind (fun _ _ => rfl) (fun _ => rfl)
  have covers_iff : (forest.vacate container place spared).Covers child container ↔
      forest.Covers child container := by
    rw [Forest.vacate]
    split
    · exact Iff.rfl
    · next occupant found =>
      split
      · exact Iff.rfl
      · exact isForest.covers_remove_iff (mem_children_of_childAt? found)
  rw [(isForest.vacate container place spared).insert_eq_error_iff, isForest.insert_eq_error_iff,
    isContainer_eq_any_kind?, kinds, ← isContainer_eq_any_kind?, vacated.describe_eq,
    vacated.describe_eq, covers_iff]

end Edits

end Forest

end StyledTree
