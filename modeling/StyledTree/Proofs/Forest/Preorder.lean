import StyledTree.Forest.Outline
import StyledTree.Proofs.Forest.Shape

set_option autoImplicit false

namespace StyledTree.Forest

inductive Lists (forest : Forest) : List WidgetId → List WidgetId → Prop where
  | nil : Lists forest [] []
  | cons {widget : WidgetId} {below rest others : List WidgetId} :
    Lists forest (forest.children widget) below → Lists forest rest others →
      Lists forest (widget :: rest) (widget :: below ++ others)

/-- Taking the top off a stack and putting its children there ends with the stack empty, after these
widgets were taken. -/
inductive Unstacks (forest : Forest) : List WidgetId → List WidgetId → Prop where
  | done : Unstacks forest [] []
  | pop {widget : WidgetId} {stack taken : List WidgetId} :
    Unstacks forest (forest.children widget ++ stack) taken →
      Unstacks forest (widget :: stack) (widget :: taken)

def outlineLine (forest : Forest) (depth : Nat) (widget : WidgetId) : String :=
  String.ofList (List.replicate (2 * depth) ' ') ++
    ((forest.get? widget).map Node.outlineText).getD "" ++ "\n"

/-- Writing the lines of some widgets, each before the lines of its children, ends with this text. -/
inductive Outlines (forest : Forest) : Nat → List WidgetId → String → Prop where
  | done (depth : Nat) : Outlines forest depth [] ""
  | line {depth : Nat} {widget : WidgetId} {rest : List WidgetId} {below others : String} :
    Outlines forest (depth + 1) (forest.children widget) below →
      Outlines forest depth rest others →
        Outlines forest depth (widget :: rest) (forest.outlineLine depth widget ++ below ++ others)

def Covers (forest : Forest) (upper lower : WidgetId) : Prop :=
  upper = lower ∨ IsAbove forest.parent? upper lower

/-- What is below a widget is one of its children or below one of them. -/
theorem IsForest.isAbove_iff_child_covers {forest : Forest} (isForest : forest.IsForest)
    {widget lower : WidgetId} :
    IsAbove forest.parent? widget lower ↔
      ∃ child ∈ forest.children widget, forest.Covers child lower := by
  constructor
  · intro above
    obtain ⟨child, reached, linked⟩ := Relation.TransGen.tail'_iff.mp above
    refine ⟨child, (isForest.mem_children_iff widget child).mpr linked, ?_⟩
    rcases Relation.reflTransGen_iff_eq_or_transGen.mp reached with equal | further
    · exact Or.inl equal
    · exact Or.inr further
  · rintro ⟨child, member, covers⟩
    have linked := (isForest.mem_children_iff widget child).mp member
    rcases covers with rfl | above
    · exact IsAbove.of_parent linked
    · exact (IsAbove.of_parent linked).trans above

namespace Lists

variable {forest : Forest}

/-- Popping a stack lists what stands on it in pre-order. -/
theorem unstacks {widgets listed : List WidgetId} (lists : forest.Lists widgets listed)
    {stack taken : List WidgetId} (after : forest.Unstacks stack taken) :
    forest.Unstacks (widgets ++ stack) (listed ++ taken) := by
  induction lists generalizing stack taken with
  | nil => exact after
  | cons _ _ below others =>
      rw [List.cons_append, List.cons_append, List.cons_append, List.append_assoc]
      exact Unstacks.pop (below (others after))

/-- The listed widgets are the given ones and what is below them. -/
theorem mem_iff (isForest : forest.IsForest) {widgets listed : List WidgetId}
    (lists : forest.Lists widgets listed) {lower : WidgetId} :
    lower ∈ listed ↔ ∃ upper ∈ widgets, forest.Covers upper lower := by
  induction lists with
  | nil => simp
  | @cons widget below rest others _ _ ihBelow ihOthers =>
      have step : lower ∈ below ↔ IsAbove forest.parent? widget lower := by
        rw [ihBelow, isForest.isAbove_iff_child_covers]
      rw [List.cons_append, List.mem_cons, List.mem_append, step, ihOthers]
      simp only [List.mem_cons, exists_eq_or_imp, Covers, eq_comm (a := lower), or_assoc]

end Lists

def Apart (forest : Forest) (first second : WidgetId) : Prop :=
  ∀ lower, forest.Covers first lower → ¬ forest.Covers second lower

theorem unstack_of_unstacks {forest : Forest} {stack taken : List WidgetId}
    (ends : forest.Unstacks stack taken) {count : Nat} (enough : taken.length ≤ count) :
    forest.unstack count stack = taken := by
  induction ends generalizing count with
  | done => cases count <;> rfl
  | pop _ ih =>
      cases count with
      | zero => simp at enough
      | succ count =>
          rw [unstack, ih (by simpa using enough)]

namespace IsForest

variable {forest : Forest}

/-- What is below two children of one widget is below one of them only. -/
theorem apart_of_siblings (isForest : forest.IsForest) {parent first second : WidgetId}
    (one : first ∈ forest.children parent) (other : second ∈ forest.children parent)
    (differ : first ≠ second) : forest.Apart first second := by
  have unrelated : ∀ upper lower, upper ∈ forest.children parent →
      lower ∈ forest.children parent → ¬ IsAbove forest.parent? upper lower := by
    intro upper lower upperChild lowerChild above
    rw [isForest.mem_children_iff] at upperChild lowerChild
    rcases (IsAbove.iff_of_parent lowerChild).mp above with rfl | higher
    · exact isForest.acyclic upper (IsAbove.of_parent upperChild)
    · exact isForest.acyclic upper (IsAbove.of_above_parent upperChild higher)
  intro lower firstCovers secondCovers
  rcases firstCovers with rfl | firstAbove
  · rcases secondCovers with rfl | secondAbove
    · exact differ rfl
    · exact unrelated _ _ other one secondAbove
  · rcases secondCovers with rfl | secondAbove
    · exact unrelated _ _ one other firstAbove
    · rcases firstAbove.comparable secondAbove with same | above | above
      · exact differ same
      · exact unrelated _ _ one other above
      · exact unrelated _ _ other one above

theorem apart_children (isForest : forest.IsForest) (widget : WidgetId) :
    (forest.children widget).Pairwise forest.Apart :=
  (isForest.nodup_children widget).imp_of_mem
    (fun one other differ => isForest.apart_of_siblings one other differ)

/-- A pre-order from widgets that are apart lists no widget twice. -/
theorem nodup_of_lists (isForest : forest.IsForest) {widgets listed : List WidgetId}
    (lists : forest.Lists widgets listed) (apart : widgets.Pairwise forest.Apart) :
    listed.Nodup := by
  induction lists with
  | nil => exact List.nodup_nil
  | @cons widget below rest others lower right ihBelow ihOthers =>
      rw [List.pairwise_cons] at apart
      have inside : ∀ met ∈ below, IsAbove forest.parent? widget met := by
        intro met member
        rw [isForest.isAbove_iff_child_covers]
        exact (lower.mem_iff isForest).mp member
      have outside : ∀ met ∈ others, ¬ forest.Covers widget met := by
        intro met member covers
        obtain ⟨other, isOther, otherCovers⟩ := (right.mem_iff isForest).mp member
        exact apart.1 other isOther met covers otherCovers
      rw [List.cons_append, List.nodup_cons, List.nodup_append]
      refine ⟨?_, ihBelow (isForest.apart_children widget), ihOthers apart.2, ?_⟩
      · intro member
        rcases List.mem_append.mp member with inBelow | inOthers
        · exact isForest.acyclic widget (inside widget inBelow)
        · exact outside widget inOthers (Or.inl rfl)
      · intro met inBelow other inOthers same
        subst same
        exact outside met inOthers (Or.inr (inside met inBelow))

/-- Below a widget there are few enough levels for its ancestors to be counted against. -/
theorem exists_lists_of_levels (isForest : forest.IsForest) (levels : Nat)
    (widgets : List WidgetId)
    (live : ∀ widget ∈ widgets, forest.contains widget = true)
    (enough : ∀ widget ∈ widgets, forest.nodes.size ≤ levels + (forest.ancestors widget).length) :
    ∃ listed, forest.Lists widgets listed := by
  induction levels generalizing widgets with
  | zero =>
      cases widgets with
      | nil => exact ⟨[], Lists.nil⟩
      | cons widget rest =>
          have short := isForest.length_ancestors_lt (live widget (by simp))
          have long := enough widget (by simp)
          omega
  | succ levels deeper =>
      induction widgets with
      | nil => exact ⟨[], Lists.nil⟩
      | cons widget rest further =>
          have room := enough widget (by simp)
          obtain ⟨below, belowLists⟩ := deeper (forest.children widget)
            (fun child member => isForest.contains_child member)
            (by
              intro child member
              have linked := (isForest.mem_children_iff widget child).mp member
              rw [isForest.ancestors_of_parent linked, List.length_cons]
              omega)
          obtain ⟨others, othersList⟩ := further
            (fun other member => live other (by simp [member]))
            (fun other member => enough other (by simp [member]))
          exact ⟨_, Lists.cons belowLists othersList⟩

/-- The loop over a stack visits what is below a widget in pre-order. -/
theorem lists_descendants (isForest : forest.IsForest) (widget : WidgetId) :
    forest.Lists (forest.children widget) (forest.descendants widget) := by
  obtain ⟨listed, lists⟩ := isForest.exists_lists_of_levels forest.nodes.size
    (forest.children widget) (fun child member => isForest.contains_child member)
    (fun _ _ => Nat.le_add_right _ _)
  have unique := isForest.nodup_of_lists lists (isForest.apart_children widget)
  have live : ∀ met ∈ listed, forest.contains met = true := by
    intro met member
    rw [lists.mem_iff isForest, ← isForest.isAbove_iff_child_covers] at member
    exact contains_of_isAbove member
  have ends := lists.unstacks Unstacks.done
  rw [List.append_nil, List.append_nil] at ends
  rw [descendants, unstack_of_unstacks ends (length_le_of_nodup unique live)]
  exact lists

theorem unstacks_descendants (isForest : forest.IsForest) (widget : WidgetId) :
    forest.Unstacks (forest.children widget) (forest.descendants widget) := by
  have ends := (isForest.lists_descendants widget).unstacks Unstacks.done
  rwa [List.append_nil, List.append_nil] at ends

end IsForest

theorem outlineFrom_succ (forest : Forest) (levels depth : Nat) (widget : WidgetId) :
    forest.outlineFrom (levels + 1) depth widget =
      forest.outlineLine depth widget ++
        String.join ((forest.children widget).map (forest.outlineFrom levels (depth + 1))) := rfl

/-- Writing each of some widgets in turn writes them all. -/
theorem outlines_join {forest : Forest} {depth levels : Nat} (widgets : List WidgetId)
    (each : ∀ widget ∈ widgets,
      ∃ below, forest.Outlines (depth + 1) (forest.children widget) below ∧
        forest.outlineFrom levels depth widget = forest.outlineLine depth widget ++ below) :
    forest.Outlines depth widgets (String.join (widgets.map (forest.outlineFrom levels depth))) := by
  induction widgets with
  | nil => exact Outlines.done depth
  | cons widget rest ih =>
      obtain ⟨below, ends, written⟩ := each widget (by simp)
      rw [List.map_cons, String.join_cons, written]
      exact Outlines.line ends (ih (fun other member => each other (by simp [member])))

namespace IsForest

variable {forest : Forest}

/-- With as many levels as a widget has room below it, its outline is complete. -/
theorem exists_outlines_of_levels (isForest : forest.IsForest) (levels depth : Nat)
    {widget : WidgetId} (live : forest.contains widget = true)
    (enough : forest.nodes.size ≤ levels + (forest.ancestors widget).length) :
    ∃ below, forest.Outlines (depth + 1) (forest.children widget) below ∧
      forest.outlineFrom levels depth widget = forest.outlineLine depth widget ++ below := by
  induction levels generalizing depth widget with
  | zero =>
      have short := isForest.length_ancestors_lt live
      omega
  | succ levels deeper =>
      refine ⟨_, outlines_join (forest.children widget) ?_, outlineFrom_succ ..⟩
      intro child member
      have linked := (isForest.mem_children_iff widget child).mp member
      apply deeper (depth + 1) (isForest.contains_child member)
      rw [isForest.ancestors_of_parent linked, List.length_cons]
      omega

/-- The outline of a widget is written to its end. -/
theorem outlines_outline (isForest : forest.IsForest) {widget : WidgetId}
    (live : forest.contains widget = true) :
    forest.Outlines 0 [widget] (forest.outline widget) := by
  obtain ⟨below, ends, written⟩ :=
    isForest.exists_outlines_of_levels forest.nodes.size 0 live (Nat.le_add_right _ _)
  have whole := Outlines.line ends (Outlines.done 0)
  rwa [String.append_empty, ← written] at whole

end IsForest

end StyledTree.Forest
