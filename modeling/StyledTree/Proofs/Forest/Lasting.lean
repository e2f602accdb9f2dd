import StyledTree.Proofs.Forest.Keeping

set_option autoImplicit false

namespace StyledTree.Forest

structure KeepsTraits (change : Node → Node) : Prop where
  kind : ∀ node, (change node).kind = node.kind := by exact fun _ => rfl
  classes : ∀ node, (change node).classes = node.classes := by exact fun _ => rfl
  listeners : ∀ node, (change node).listeners = node.listeners := by exact fun _ => rfl
  choice : ∀ node, (change node).choice = node.choice := by exact fun _ => rfl

/-- A relation that holds along every edit of links and from one edit to the next. -/
structure ClosedUnderEdits (related : Forest → Forest → Prop) : Prop where
  refl : ∀ forest, related forest forest
  trans : ∀ {before middle after}, related before middle → related middle after →
    related before after
  create : ∀ forest kind, related forest (forest.create kind).2
  update : ∀ forest widget {change : Node → Node}, KeepsTraits change →
    related forest (forest.update widget change)
  retain : ∀ forest keep, related forest (forest.retain keep)

namespace ClosedUnderEdits

variable {related : Forest → Forest → Prop}

theorem updateChildren (closed : ClosedUnderEdits related) (forest : Forest) (widget : WidgetId)
    (change : List WidgetId → List WidgetId) :
    related forest (forest.updateChildren widget change) :=
  closed.update forest widget {}

theorem orphan (closed : ClosedUnderEdits related) (forest : Forest) (widget : WidgetId) :
    related forest (forest.orphan widget) :=
  closed.update forest widget {}

theorem orphans (closed : ClosedUnderEdits related) (forest : Forest) (orphans : List WidgetId) :
    related forest (orphans.foldl Forest.orphan forest) := by
  induction orphans generalizing forest with
  | nil => exact closed.refl forest
  | cons first rest ih => exact closed.trans (closed.orphan forest first) (ih (forest.orphan first))

theorem remove (closed : ClosedUnderEdits related) (forest : Forest) (parent child : WidgetId) :
    related forest (forest.remove parent child).2 := by
  rw [Forest.remove]
  split
  · exact closed.trans (closed.updateChildren forest parent _) (closed.orphan _ child)
  · exact closed.refl forest

theorem removeAll (closed : ClosedUnderEdits related) (forest : Forest) (parent : WidgetId) :
    related forest (forest.removeAll parent) :=
  closed.trans (closed.updateChildren forest parent (fun _ => []))
    (closed.orphans _ (forest.children parent))

theorem detach (closed : ClosedUnderEdits related) (forest : Forest) (widget : WidgetId) :
    related forest (forest.detach widget).2 := by
  rw [Forest.detach]
  split
  · exact closed.remove forest _ widget
  · exact closed.refl forest

theorem link (closed : ClosedUnderEdits related) (forest : Forest) (parent child : WidgetId)
    (constraint : Option Constraint) : related forest (forest.link parent child constraint) := by
  have placed : related forest (forest.placed parent child constraint) :=
    closed.update forest child {}
  rw [link_eq]
  exact closed.trans placed (closed.updateChildren _ parent _)

theorem insert (closed : ClosedUnderEdits related) {forest after : Forest} {parent child : WidgetId}
    {constraint : Option Constraint}
    (inserted : forest.insert parent child constraint = .ok after) : related forest after := by
  obtain ⟨-, -, -, ⟨-, rfl⟩ | ⟨-, rfl⟩⟩ := insert_cases inserted
  · exact closed.refl after
  · have cleared : related forest (forest.clearedFor parent child) := by
      rw [clearedFor]
      split
      · exact closed.trans (closed.detach forest child) (closed.removeAll _ parent)
      · exact closed.detach forest child
    exact closed.trans cleared (closed.link _ parent child constraint)

end ClosedUnderEdits

/-- Each widget that the earlier forest had a place for is what it was, or gone. -/
structure Lasts (before after : Forest) : Prop where
  places : before.nodes.size ≤ after.nodes.size
  kind : ∀ {widget kind}, widget.index < before.nodes.size → after.kind? widget = some kind →
    before.kind? widget = some kind

namespace Lasts

theorem refl (forest : Forest) : Lasts forest forest := ⟨Nat.le_refl _, fun _ found => found⟩

theorem trans {before middle after : Forest} (first : Lasts before middle)
    (second : Lasts middle after) : Lasts before after where
  places := Nat.le_trans first.places second.places
  kind inside found := first.kind inside (second.kind (Nat.lt_of_lt_of_le inside first.places) found)

/-- A widget that is there now was there before, if there was a place for it. -/
theorem contains {before after : Forest} (lasts : Lasts before after) {widget : WidgetId}
    (inside : widget.index < before.nodes.size) (live : after.contains widget = true) :
    before.contains widget = true := by
  rw [contains_eq_isSome_kind?, Option.isSome_iff_exists] at live ⊢
  obtain ⟨kind, found⟩ := live
  exact ⟨kind, lasts.kind inside found⟩

/-- A widget that is still there is of the kind that it was. -/
theorem kind?_eq {before after : Forest} (lasts : Lasts before after) {widget : WidgetId}
    {kind : Kind} (isKind : before.kind? widget = some kind) (live : after.contains widget = true) :
    after.kind? widget = some kind := by
  rw [contains_eq_isSome_kind?, Option.isSome_iff_exists] at live
  obtain ⟨later, found⟩ := live
  have inside : widget.index < before.nodes.size := by
    apply index_lt_of_contains
    rw [contains_eq_isSome_kind?, isKind]
    rfl
  rw [found, ← isKind, lasts.kind inside found]

theorem update (forest : Forest) (widget : WidgetId) {change : Node → Node}
    (kept : ∀ node, (change node).kind = node.kind) : Lasts forest (forest.update widget change) where
  places := by simp [Forest.update]
  kind _ found := by rwa [kind?_update forest widget _ kept] at found

theorem create (forest : Forest) (kind : Kind) : Lasts forest (forest.create kind).2 where
  places := by simp [Forest.create]
  kind {widget _} inside found := by
    have old : widget ≠ (forest.create kind).1 := by
      rintro rfl
      exact absurd inside (Nat.lt_irrefl _)
    rwa [kind?, get?_create, if_neg old, ← kind?] at found

theorem retain (forest : Forest) (keep : WidgetId → Bool) : Lasts forest (forest.retain keep) where
  places := by simp [Forest.retain]
  kind _ found := by
    rw [kind?_retain] at found
    split at found
    · exact found
    · cases found

theorem closedUnderEdits : ClosedUnderEdits Lasts where
  refl := refl
  trans := trans
  create := create
  update forest widget _ keeps := update forest widget keeps.kind
  retain := retain

end Lasts

/-- What is read of a widget is what it was if the earlier forest had a place for the widget, and what a
new widget has otherwise. -/
structure Keeps {α : Type} (read : Node → α) (before after : Forest) : Prop where
  places : before.nodes.size ≤ after.nodes.size
  nodes : ∀ {widget node}, after.get? widget = some node →
    (before.nodes.size ≤ widget.index ∧ ∃ kind, read node = read (Node.fresh kind)) ∨
      ∃ was, before.get? widget = some was ∧ read node = read was

namespace Keeps

variable {α : Type} {read : Node → α}

theorem refl (forest : Forest) : Keeps read forest forest :=
  ⟨Nat.le_refl _, fun found => Or.inr ⟨_, found, rfl⟩⟩

theorem trans {before middle after : Forest} (first : Keeps read before middle)
    (second : Keeps read middle after) : Keeps read before after where
  places := Nat.le_trans first.places second.places
  nodes found := by
    rcases second.nodes found with ⟨new, fresh⟩ | ⟨between, there, same⟩
    · exact Or.inl ⟨Nat.le_trans first.places new, fresh⟩
    · rw [same]
      exact first.nodes there

theorem update (forest : Forest) (widget : WidgetId) {change : Node → Node}
    (kept : ∀ node, read (change node) = read node) :
    Keeps read forest (forest.update widget change) where
  places := by simp [Forest.update]
  nodes found := by
    rw [get?_update] at found
    split at found
    · obtain ⟨was, there, rfl⟩ := Option.map_eq_some_iff.mp found
      exact Or.inr ⟨was, there, kept was⟩
    · exact Or.inr ⟨_, found, rfl⟩

theorem create (forest : Forest) (kind : Kind) : Keeps read forest (forest.create kind).2 where
  places := by simp [Forest.create]
  nodes found := by
    rw [get?_create] at found
    split at found
    · next new =>
      cases found
      exact Or.inl ⟨Nat.le_of_eq (congrArg WidgetId.index new).symm, kind, rfl⟩
    · exact Or.inr ⟨_, found, rfl⟩

theorem retain
    (kept : ∀ {change : Node → Node}, KeepsTraits change → ∀ node, read (change node) = read node)
    (forest : Forest) (keep : WidgetId → Bool) : Keeps read forest (forest.retain keep) where
  places := by simp [Forest.retain]
  nodes found := by
    rw [get?_retain] at found
    split at found
    · obtain ⟨was, there, rfl⟩ := Option.map_eq_some_iff.mp found
      have traits : KeepsTraits (fun node : Node => { node with
          parent := node.parent.filter keep
          children := node.children.filter keep
          pending := node.pending.filter keep }) := {}
      exact Or.inr ⟨was, there, kept traits was⟩
    · cases found

theorem closedUnderEdits
    (kept : ∀ {change : Node → Node}, KeepsTraits change → ∀ node, read (change node) = read node) :
    ClosedUnderEdits (Keeps read) where
  refl := refl
  trans := trans
  create := create
  update forest widget _ traits := update forest widget (kept traits)
  retain := retain kept

end Keeps

def KeepsClasses (before after : Forest) : Prop :=
  ∀ widget node, after.get? widget = some node →
    node.classes = [] ∨ ∃ was, before.get? widget = some was ∧ node.kind = was.kind ∧
      node.classes = was.classes

namespace KeepsClasses

theorem refl (forest : Forest) : KeepsClasses forest forest :=
  fun _ node found => Or.inr ⟨node, found, rfl, rfl⟩

theorem trans {before middle after : Forest} (first : KeepsClasses before middle)
    (second : KeepsClasses middle after) : KeepsClasses before after := by
  intro widget node found
  rcases second widget node found with none | ⟨between, there, kind, classes⟩
  · exact Or.inl none
  · rw [kind, classes]
    exact first widget between there

/-- An edit that keeps kinds and classes is of this sort, since a new widget has no classes. -/
theorem of_keeps {before after : Forest}
    (keeps : Keeps (fun node => (node.kind, node.classes)) before after) :
    KeepsClasses before after := by
  intro widget node found
  rcases keeps.nodes found with ⟨-, kind, fresh⟩ | ⟨was, there, same⟩
  · exact Or.inl (Prod.mk.inj fresh).2
  · exact Or.inr ⟨was, there, Prod.mk.inj same⟩

theorem closedUnderEdits : ClosedUnderEdits KeepsClasses := by
  have closed : ClosedUnderEdits (Keeps (fun node => (node.kind, node.classes))) :=
    Keeps.closedUnderEdits (fun traits node => Prod.ext (traits.kind node) (traits.classes node))
  exact {
    refl := refl
    trans := trans
    create := fun forest kind => of_keeps (closed.create forest kind)
    update := fun forest widget _ traits => of_keeps (closed.update forest widget traits)
    retain := fun forest keep => of_keeps (closed.retain forest keep) }

end KeepsClasses

end StyledTree.Forest
