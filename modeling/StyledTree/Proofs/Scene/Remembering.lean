import StyledTree.Proofs.RootHistory
import StyledTree.Proofs.Scene.Revalidating

set_option autoImplicit false

namespace StyledTree

/-! The memory of the sheets below chains. -/

namespace Styles

/-- The sheets below chains remember nothing that they did not remember before. -/
def AddsNoRoots (before after : Styles) : Prop :=
  ∀ id, ∀ child ∈ after.childSheets id, child.roots = [] ∨ child ∈ before.childSheets id

namespace AddsNoRoots

variable {before middle after : Styles}

theorem refl (styles : Styles) : styles.AddsNoRoots styles := fun _ _ member => Or.inr member

theorem trans (first : before.AddsNoRoots middle) (second : middle.AddsNoRoots after) :
    before.AddsNoRoots after := by
  intro id child member
  rcases second id child member with none | earlier
  · exact Or.inl none
  · exact first id child earlier

theorem add (styles : Styles) {style : Style} (rootless : ∀ child ∈ style.childSheets, child.roots = []) :
    styles.AddsNoRoots (styles.add style).2 := by
  intro id child member
  rw [childSheets, get?_add] at member
  split at member
  · exact Or.inl (rootless child member)
  · exact Or.inr member

theorem wrap (styles : Styles) (id : StyleId) : styles.AddsNoRoots (styles.wrap id).2 := by
  rcases styles.wrap_cases id with ⟨-, same⟩ | ⟨style, -, same⟩
  · rw [same]
    exact refl styles
  · rw [same]
    exact add styles (fun _ member => absurd member List.not_mem_nil)

theorem asChain (styles : Styles) (id : StyleId) : styles.AddsNoRoots (styles.asChain id).2 := by
  rw [Styles.asChain]
  split
  · exact refl styles
  · exact wrap styles id

theorem updateSheets (styles : Styles) (id : StyleId) {change : List ChildSheet → List ChildSheet}
    (rootless : ∀ held, ∀ child ∈ change held, child.roots = [] ∨ child ∈ held) :
    styles.AddsNoRoots (styles.update id (fun style => style.mapSheets change)) := by
  intro other child member
  rw [childSheets_updateSheets] at member
  split at member
  · exact rootless _ child member
  · exact Or.inr member

theorem detach (styles : Styles) (tops : List StyleId) (child : StyleId) :
    styles.AddsNoRoots (styles.detach tops child) := by
  rw [Styles.detach]
  split
  · exact refl styles
  · exact updateSheets styles _ (fun _ _ member => Or.inr (List.mem_of_mem_eraseP member))

/-- A chain that is nested below another gets a new sheet there. -/
theorem append (styles : Styles) (parent child : StyleId) :
    styles.AddsNoRoots (styles.append parent child) := by
  refine updateSheets styles parent (fun held sheet member => ?_)
  rcases List.mem_append.mp member with old | new
  · exact Or.inr old
  · rw [List.mem_singleton.mp new]
    exact Or.inl rfl

end AddsNoRoots

end Styles

namespace Scene

variable {ε : Type} {sheet : SheetId} {calls : List RootCall}

/-- What is done to a scene, with the calls among it that a sheet remembers or forgets a root by. -/
inductive Recalls (sheet : SheetId) (before : Scene ε) : List RootCall → Scene ε → Prop where
  | refl : Recalls sheet before [] before
  /-- Anything else, as long as it leaves the memory of the sheet and of the sheets below chains alone. -/
  | step {calls : List RootCall} {middle after : Scene ε}
    (earlier : Recalls sheet before calls middle) (one : Step middle after)
    (kept : after.roots sheet = middle.roots sheet)
    (below : middle.styles.AddsNoRoots after.styles) : Recalls sheet before calls after
  /-- Roots that are gone are dropped from memory, at whatever time. -/
  | prune {calls : List RootCall} {middle : Scene ε}
    (earlier : Recalls sheet before calls middle) :
    Recalls sheet before calls (middle.pruneRoots sheet)
  | record {calls : List RootCall} {middle : Scene ε} {root : WidgetId}
    (earlier : Recalls sheet before calls middle) (live : middle.forest.contains root = true)
    (known : (middle.sheet? sheet).isSome = true) :
    Recalls sheet before (calls ++ [.applied root]) (middle.recordRoot sheet root)
  | forget {calls : List RootCall} {middle : Scene ε} (root : WidgetId)
    (earlier : Recalls sheet before calls middle) :
    Recalls sheet before (calls ++ [.forgot root]) (middle.forget sheet root).2

namespace Recalls

theorem keep {before middle after : Scene ε} (earlier : Recalls sheet before calls middle)
    (one : Step middle after) (kept : after.roots sheet = middle.roots sheet)
    (styles : after.styles = middle.styles) : Recalls sheet before calls after :=
  earlier.step one kept (styles ▸ Styles.AddsNoRoots.refl middle.styles)

theorem trans {first second : List RootCall} {before middle after : Scene ε}
    (earlier : Recalls sheet before first middle) (later : Recalls sheet middle second after) :
    Recalls sheet before (first ++ second) after := by
  induction later with
  | refl => rwa [List.append_nil]
  | step _ one kept below ih => exact ih.step one kept below
  | prune _ ih => exact ih.prune
  | record _ live known ih =>
      rw [← List.append_assoc]
      exact ih.record live known
  | forget root _ ih =>
      rw [← List.append_assoc]
      exact ih.forget root

theorem reaches {before after : Scene ε} (recalls : Recalls sheet before calls after) :
    Reaches before after := by
  induction recalls with
  | refl => exact Reaches.refl before
  | step _ one _ _ ih => exact ih.trans (Reaches.step one)
  | prune _ ih => exact ih.trans (Reaches.step (Step.elsewhere _ rfl rfl))
  | record _ _ _ ih => exact ih.trans (Reaches.step (Step.elsewhere _ rfl rfl))
  | forget _ _ ih => exact ih.trans (Reaches.step (Step.elsewhere _ rfl rfl))

/-- No call on a sheet adds anything to the memory of a sheet below a chain. -/
theorem addsNoRoots {before after : Scene ε} (recalls : Recalls sheet before calls after) :
    before.styles.AddsNoRoots after.styles := by
  induction recalls with
  | refl => exact Styles.AddsNoRoots.refl _
  | step _ _ _ below ih => exact ih.trans below
  | prune _ ih => exact ih
  | record _ _ _ ih => exact ih
  | forget _ _ ih => exact ih

end Recalls

/-! What the memory is after a history. -/

theorem mem_appliedRoots_iff {scene : Scene ε} {root : WidgetId} :
    root ∈ scene.appliedRoots sheet ↔
      root ∈ scene.roots sheet ∧ scene.forest.contains root = true := by
  rw [appliedRoots, List.mem_filter]

theorem roots_eq_of_sheets {before after : Scene ε} (same : after.sheets = before.sheets) :
    after.roots sheet = before.roots sheet := by
  rw [roots, sheet?, same, roots, sheet?]

theorem isSome_sheet?_of_mem_roots {scene : Scene ε} {root : WidgetId}
    (member : root ∈ scene.roots sheet) : (scene.sheet? sheet).isSome = true := by
  cases found : scene.sheet? sheet with
  | none =>
      rw [roots, found] at member
      exact absurd member List.not_mem_nil
  | some held => rfl

theorem roots_updateSheet (scene : Scene ε) (sheet : SheetId) (change : Sheet → Sheet) :
    (scene.updateSheet sheet change).roots sheet =
      ((scene.sheet? sheet).map (fun held => (change held).roots)).getD [] := by
  rw [roots, sheet?_updateSheet, if_pos rfl, Option.map_map]
  rfl

/-- Applying drops the roots that are gone and then remembers the new one. -/
theorem roots_recordRoot {scene : Scene ε} (known : (scene.sheet? sheet).isSome = true)
    (root : WidgetId) : (scene.recordRoot sheet root).roots sheet =
      RootCall.remember (scene.appliedRoots sheet) (.applied root) := by
  have pruned : (scene.pruneRoots sheet).sheet? sheet = (scene.sheet? sheet).map (fun held =>
      { held with roots := held.roots.filter scene.forest.contains }) := by
    rw [pruneRoots, sheet?_updateSheet, if_pos rfl]
  obtain ⟨held, found⟩ := Option.isSome_iff_exists.mp known
  rw [recordRoot, roots_updateSheet, pruned, found, appliedRoots, roots, found, RootCall.remember]
  simp only [Option.map_some, Option.getD_some, List.contains_iff_mem]
  split <;> rfl

/-- Forgetting drops the roots that are gone as well. -/
theorem roots_forget (scene : Scene ε) (root : WidgetId) : (scene.forget sheet root).2.roots sheet =
    RootCall.remember (scene.appliedRoots sheet) (.forgot root) := by
  rw [forget, roots_updateSheet, RootCall.remember, appliedRoots, List.filter_filter]
  simp only [Bool.and_comm]
  cases found : scene.sheet? sheet with
  | none =>
      rw [roots, found]
      rfl
  | some held => rfl

/-- The memory of a sheet agrees with its history, as far as the widgets of both are there. -/
structure Remembers (scene : Scene ε) (sheet : SheetId) (calls : List RootCall) : Prop where
  same : scene.appliedRoots sheet =
    (RootCall.remembered calls).filter scene.forest.contains
  /-- Only widgets that are or were there are in memory. -/
  placed : ∀ root ∈ scene.roots sheet, root.index < scene.forest.nodes.size
  rememberedPlaced : ∀ root ∈ RootCall.remembered calls,
    root.index < scene.forest.nodes.size

namespace Remembers

theorem fresh (client : ε) (sheet : SheetId) : Remembers (Scene.fresh client) sheet [] := by
  have none : (Scene.fresh client).roots sheet = [] := rfl
  refine ⟨rfl, fun root member => ?_, fun root member => absurd member List.not_mem_nil⟩
  rw [none] at member
  exact absurd member List.not_mem_nil

variable {scene after : Scene ε}

/-- A widget that is gone never comes back into the memory. -/
theorem step (remembers : Remembers scene sheet calls) (one : Step scene after)
    (kept : after.roots sheet = scene.roots sheet) : Remembers after sheet calls := by
  have lasts := one.lasts
  have narrower : ∀ {widgets : List WidgetId},
      (∀ widget ∈ widgets, widget.index < scene.forest.nodes.size) →
        widgets.filter after.forest.contains =
          (widgets.filter scene.forest.contains).filter after.forest.contains := by
    intro widgets placed
    rw [List.filter_filter]
    refine List.filter_congr (fun widget member => ?_)
    cases live : after.forest.contains widget with
    | false => rfl
    | true => rw [lasts.contains (placed widget member) live, Bool.and_self]
  refine ⟨?_, fun root member => ?_, fun root member => ?_⟩
  · rw [appliedRoots, kept, narrower remembers.placed, narrower remembers.rememberedPlaced,
      ← remembers.same, appliedRoots]
  · exact Nat.lt_of_lt_of_le (remembers.placed root (kept ▸ member)) lasts.places
  · exact Nat.lt_of_lt_of_le (remembers.rememberedPlaced root member) lasts.places

theorem prune (remembers : Remembers scene sheet calls) :
    Remembers (scene.pruneRoots sheet) sheet calls := by
  refine ⟨?_, fun root member => ?_, remembers.rememberedPlaced⟩
  · rw [appliedRoots_pruneRoots]
    exact remembers.same
  · rw [roots_pruneRoots, mem_appliedRoots_iff] at member
    exact remembers.placed root member.1

/-- A call changes the memory and the history in the same way, for a live root. -/
theorem call (remembers : Remembers scene sheet calls) {call : RootCall}
    (live : ∀ root, call = .applied root → scene.forest.contains root = true)
    (forest : after.forest = scene.forest)
    (roots : after.roots sheet = RootCall.remember (scene.appliedRoots sheet) call) :
    Remembers after sheet (calls ++ [call]) := by
  refine ⟨?_, fun root member => ?_, fun root member => ?_⟩
  · rw [RootCall.remembered_concat, forest, RootCall.filter_remember _ live, ← remembers.same,
      appliedRoots, forest, roots, RootCall.filter_remember _ live, appliedRoots, List.filter_filter]
    simp only [Bool.and_self]
  · rw [forest]
    rw [roots] at member
    rcases RootCall.mem_of_mem_remember member with earlier | isCall
    · exact remembers.placed root (mem_appliedRoots_iff.mp earlier).1
    · exact Forest.index_lt_of_contains (live root isCall)
  · rw [forest]
    rw [RootCall.remembered_concat] at member
    rcases RootCall.mem_of_mem_remember member with earlier | isCall
    · exact remembers.rememberedPlaced root earlier
    · exact Forest.index_lt_of_contains (live root isCall)

theorem run {earlier : List RootCall} (remembers : Remembers scene sheet earlier)
    (recalls : Recalls sheet scene calls after) : Remembers after sheet (earlier ++ calls) := by
  induction recalls with
  | refl => rwa [List.append_nil]
  | step _ one kept _ ih => exact ih.step one kept
  | prune _ ih => exact ih.prune
  | record _ live known ih =>
      rw [← List.append_assoc]
      refine ih.call ?_ rfl (roots_recordRoot known _)
      rintro _ ⟨rfl⟩
      exact live
  | forget root _ ih =>
      rw [← List.append_assoc]
      exact ih.call nofun rfl (roots_forget _ root)

/-- Between the calls of its history a sheet only loses the roots that are gone. -/
theorem appliedRoots_eq (remembers : Remembers scene sheet calls)
    (recalls : Recalls sheet scene [] after) :
    after.appliedRoots sheet = (scene.appliedRoots sheet).filter after.forest.contains := by
  have later := remembers.run recalls
  rw [List.append_nil] at later
  rw [later.same, remembers.same, List.filter_filter]
  refine List.filter_congr (fun root member => ?_)
  cases live : after.forest.contains root with
  | false => rfl
  | true =>
      rw [recalls.reaches.lasts.contains (remembers.rememberedPlaced root member) live,
        Bool.and_self]

end Remembers

/-! The calls that a history is made of. -/

def RecallsOnly (sheet : SheetId) (allowed : RootCall → Prop) (before after : Scene ε) : Prop :=
  ∃ calls, Recalls sheet before calls after ∧ ∀ call ∈ calls, allowed call

/-- Where there is no call, all calls are of any kind. -/
theorem Recalls.recallsOnly {before after : Scene ε} (recalls : Recalls sheet before [] after)
    (allowed : RootCall → Prop) : RecallsOnly sheet allowed before after :=
  ⟨[], recalls, fun _ member => absurd member List.not_mem_nil⟩

theorem composes_recallsOnly (sheet : SheetId) (allowed : RootCall → Prop) :
    Composes (RecallsOnly (ε := ε) sheet allowed) where
  refl scene := Recalls.refl.recallsOnly allowed
  trans := by
    rintro before middle after ⟨first, one, firstAllowed⟩ ⟨second, other, secondAllowed⟩
    refine ⟨first ++ second, one.trans other, fun call member => ?_⟩
    exact (List.mem_append.mp member).elim (firstAllowed call) (secondAllowed call)
  step plain :=
    (Recalls.refl.keep plain.step (roots_eq_of_sheets plain.sheets) plain.styles).recallsOnly allowed

section Calls

variable {handlers : Handlers ε} {allowed : RootCall → Prop} {steps : Nat} {root : WidgetId}
  {scene after : Scene ε}

/-- Applying a sheet to a live widget is one call of its history, before those that the mutations
make. -/
theorem recalls_apply
    (runs : ∀ handler on before between, handlers.run handler on before = some between →
      RecallsOnly sheet allowed before between)
    (live : scene.forest.contains root = true) (known : (scene.sheet? sheet).isSome = true)
    (applied : scene.apply handlers steps sheet root = some after) :
    ∃ own, Recalls sheet scene (.applied root :: own) after ∧ ∀ call ∈ own, allowed call := by
  have composes := composes_recallsOnly (ε := ε) sheet allowed
  obtain ⟨own, recalls, all⟩ :=
    composes.trans (composes.note _ _) (composes.cascade runs applied)
  exact ⟨own, (Recalls.refl.record live known).trans recalls, all⟩

/-- Changes of another sheet are no calls on this one. -/
theorem recalls_updateSheet {other : SheetId} (differ : other ≠ sheet) (scene : Scene ε)
    (change : Sheet → Sheet) : Recalls sheet scene [] (scene.updateSheet other change) :=
  Recalls.refl.keep (Step.elsewhere scene rfl rfl) (roots_updateSheet_of_ne scene differ.symm change)
    rfl

/-- Applying another sheet adds nothing of its own to the history. -/
theorem recallsOnly_apply {other : SheetId} (differ : other ≠ sheet)
    (runs : ∀ handler on before between, handlers.run handler on before = some between →
      RecallsOnly sheet allowed before between)
    (applied : scene.apply handlers steps other root = some after) :
    RecallsOnly sheet allowed scene after :=
  (composes_recallsOnly sheet allowed).apply
    (fun scene change => (recalls_updateSheet differ scene change).recallsOnly allowed) runs applied

theorem recallsOnly_revalidate {other : SheetId} {widget : WidgetId} {told : Bool}
    (differ : other ≠ sheet)
    (runs : ∀ handler on before between, handlers.run handler on before = some between →
      RecallsOnly sheet allowed before between)
    (revalidated : scene.revalidate handlers steps other widget = some (told, after)) :
    RecallsOnly sheet allowed scene after :=
  (composes_recallsOnly sheet allowed).revalidate
    (fun scene change => (recalls_updateSheet differ scene change).recallsOnly allowed) runs
    revalidated

/-- Applying a sheet again is a call for the nearest root, or none. -/
theorem recalls_revalidate {widget : WidgetId} {told : Bool} (isForest : scene.forest.IsForest)
    (runs : ∀ handler on before between, handlers.run handler on before = some between →
      RecallsOnly sheet allowed before between)
    (revalidated : scene.revalidate handlers steps sheet widget = some (told, after)) :
    (told = false ∧ Recalls sheet scene [] after) ∨
      (told = true ∧ ∃ root own, scene.IsNearestRoot sheet widget root ∧
        Recalls sheet scene (.applied root :: own) after ∧ ∀ call ∈ own, allowed call) := by
  have noted (event : Event) : Recalls sheet scene [] ((scene.pruneRoots sheet).note event) :=
    Recalls.refl.prune.keep (Step.elsewhere _ rfl rfl) rfl rfl
  simp only [revalidate] at revalidated
  split at revalidated
  · simp only [Option.some.injEq, Prod.mk.injEq] at revalidated
    obtain ⟨rfl, rfl⟩ := revalidated
    exact Or.inl ⟨rfl, noted _⟩
  · next root found =>
    obtain ⟨reached, applied, same⟩ := Option.map_eq_some_iff.mp revalidated
    simp only [Prod.mk.injEq] at same
    obtain ⟨rfl, rfl⟩ := same
    have nearest := isNearestRoot_of_rootAbove? isForest found
    have live (event : Event) :
        (((scene.pruneRoots sheet).note event).hold root).forest.contains root = true :=
      (mem_appliedRoots_iff.mp nearest.remembered).2
    have known : ((scene.pruneRoots sheet).sheet? sheet).isSome = true :=
      isSome_sheet?_of_mem_roots (roots_pruneRoots scene sheet ▸ nearest.remembered)
    obtain ⟨own, recalls, all⟩ := recalls_apply runs (live _) known applied
    refine Or.inr ⟨rfl, root, own, nearest, ?_, all⟩
    exact ((noted _).keep (Step.hold _ root) rfl rfl).trans (recalls.keep (Step.release reached root)
      (roots_eq_of_sheets (sheets_release reached root)) (styles_release reached root))

end Calls

/-! Registering and nesting styles is nothing that a history lists. -/

section Registering

variable (scene : Scene ε) (sheet other : SheetId)

/-- Changing the styles of a sheet leaves what all sheets remember. -/
theorem recalls_restyle (styles : Sheet → List StyleId) : Recalls sheet scene []
    (scene.updateSheet other (fun held => { held with styles := styles held })) := by
  refine Recalls.refl.keep (Step.elsewhere scene rfl rfl) ?_ rfl
  rw [roots, sheet?_updateSheet, roots]
  split
  · cases scene.sheet? sheet <;> rfl
  · rfl

theorem recalls_addSheet : Recalls sheet scene [] scene.addSheet.2 := by
  refine Recalls.refl.keep (Step.elsewhere scene rfl rfl) ?_ rfl
  simp only [roots, sheet?, addSheet, Array.getElem?_push]
  split
  · next last =>
    rw [last, Array.getElem?_eq_none (Nat.le_refl _)]
    rfl
  · rfl

/-- A new style, be it plain or a chain whose sheets remember nothing. -/
theorem recalls_addStyle {style : Style} (rootless : ∀ child ∈ style.childSheets, child.roots = []) :
    Recalls sheet scene [] (scene.addStyle style).2 :=
  Recalls.refl.step (Step.elsewhere scene rfl rfl) rfl
    (Styles.AddsNoRoots.add scene.styles rootless)

theorem recalls_register (style : StyleId) :
    Recalls sheet scene [] (scene.register other style) := by
  have noted : Recalls sheet scene [] (scene.noteRegistered style) :=
    Recalls.refl.keep (Step.elsewhere scene rfl rfl) rfl rfl
  exact noted.trans (recalls_restyle _ sheet other _)

theorem recalls_takeOut (style : StyleId) (chain : Option StyleId) :
    Recalls sheet scene [] (scene.takeOut other style chain).2 := by
  rw [takeOut.eq_def]
  split
  · next taken found =>
    obtain ⟨top, -, rfl⟩ := Option.map_eq_some_iff.mp found
    exact recalls_restyle scene sheet other _
  · exact Recalls.refl.step (Step.elsewhere scene rfl rfl) rfl
      (Styles.AddsNoRoots.detach scene.styles _ _)
  · exact Recalls.refl

theorem recalls_chainFor (style : StyleId) :
    Recalls sheet scene [] (scene.chainFor other style).2 := by
  have wrapped : Recalls sheet scene [] (scene.wrap style).2 :=
    Recalls.refl.step (Step.elsewhere scene rfl rfl) rfl (Styles.AddsNoRoots.wrap scene.styles style)
  have noted (event : Event) : Recalls sheet scene [] ((scene.wrap style).2.note event) :=
    wrapped.keep (Step.elsewhere _ rfl rfl) rfl rfl
  rw [chainFor]
  split
  · exact Recalls.refl
  · dsimp only
    split
    · exact wrapped.trans (recalls_restyle _ sheet other _)
    · exact (noted _).trans (recalls_restyle _ sheet other _)

theorem recalls_nest (parent child : StyleId) : Recalls sheet scene [] (scene.nest parent child).2 := by
  have wrapped := Styles.AddsNoRoots.asChain scene.styles child
  simp only [nest]
  split
  · exact Recalls.refl.step (Step.elsewhere scene rfl rfl) rfl wrapped
  · exact Recalls.refl.step (Step.elsewhere scene rfl rfl) rfl
      (wrapped.trans (Styles.AddsNoRoots.append _ _ _))

theorem recalls_chain (parent child : StyleId) :
    Recalls sheet scene [] (scene.chain other parent child).2 := by
  have noted (event : Event) : Recalls sheet scene [] (scene.note event) :=
    Recalls.refl.keep (Step.elsewhere scene rfl rfl) rfl rfl
  have moved (found : Option StyleId) := ((recalls_takeOut scene sheet other child found).trans
    (recalls_chainFor _ sheet other parent)).trans (recalls_nest _ sheet
      ((scene.takeOut other child found).2.chainFor other parent).1
        (scene.takeOut other child found).1)
  rw [chain]
  split
  · exact noted _
  · dsimp only
    -- the first split is on the chain of the parent, the second on whether the move is refused
    split <;> split
    · exact noted _
    · exact moved _
    · exact noted _
    · exact moved _

end Registering

/-- What is added to the history of a sheet from a scene on, while the mutations make calls of an
allowed kind only. -/
structure AddsCalls (handlers : Handlers ε) (allowed : RootCall → Prop) (sheet : SheetId)
    (scene : Scene ε) : Prop where
  apply : ∀ steps root after, scene.forest.contains root = true →
    (scene.sheet? sheet).isSome = true → scene.apply handlers steps sheet root = some after →
      ∃ own, Recalls sheet scene (.applied root :: own) after ∧ ∀ call ∈ own, allowed call
  revalidate : ∀ steps widget told after,
    scene.revalidate handlers steps sheet widget = some (told, after) →
      (told = false ∧ Recalls sheet scene [] after) ∨
        (told = true ∧ ∃ root own, scene.IsNearestRoot sheet widget root ∧
          Recalls sheet scene (.applied root :: own) after ∧ ∀ call ∈ own, allowed call)
  forget : ∀ root, Recalls sheet scene [.forgot root] (scene.forget sheet root).2
  /-- A plain style or a chain, with all that the chain applies. -/
  style : ∀ levels nesting style widget after,
    scene.applyStyle handlers levels nesting style widget = some after →
      RecallsOnly sheet allowed scene after
  /-- A sheet below a chain that is applied to a widget. -/
  childSheet : ∀ levels nesting reach (child : ChildSheet) widget after,
    scene.applyScoped (evaluate (applyStyle handlers levels nesting)) child.sheet reach widget =
        some after → RecallsOnly sheet allowed scene after
  /-- Styles that are applied to a tree, be they those of a sheet or one below a chain. -/
  walk : ∀ levels nesting reach styles widget after,
    scene.walk (evaluate (applyStyle handlers levels nesting)) styles reach widget = some after →
      RecallsOnly sheet allowed scene after
  applyOther : ∀ steps other root after, other ≠ sheet →
    scene.apply handlers steps other root = some after → RecallsOnly sheet allowed scene after
  revalidateOther : ∀ steps other widget told after, other ≠ sheet →
    scene.revalidate handlers steps other widget = some (told, after) →
      RecallsOnly sheet allowed scene after
  forgetOther : ∀ other root, other ≠ sheet → Recalls sheet scene [] (scene.forget other root).2
  /-- Nothing that makes sheets, or registers, nests or moves styles is a call. -/
  addSheet : Recalls sheet scene [] scene.addSheet.2
  addStyle : ∀ style : Style, (∀ child ∈ style.childSheets, child.roots = []) →
    Recalls sheet scene [] (scene.addStyle style).2
  register : ∀ other style, Recalls sheet scene [] (scene.register other style)
  nest : ∀ parent child, Recalls sheet scene [] (scene.nest parent child).2
  chain : ∀ other parent child, Recalls sheet scene [] (scene.chain other parent child).2

theorem addsCalls {handlers : Handlers ε} {allowed : RootCall → Prop} {scene : Scene ε}
    (isForest : scene.forest.IsForest)
    (runs : ∀ handler on before between, handlers.run handler on before = some between →
      RecallsOnly sheet allowed before between) : AddsCalls handlers allowed sheet scene := by
  have composes := composes_recallsOnly (ε := ε) sheet allowed
  have walks : ∀ levels nesting reach styles widget after,
      scene.walk (evaluate (applyStyle handlers levels nesting)) styles reach widget = some after →
        RecallsOnly sheet allowed scene after :=
    fun _ _ _ _ _ _ walked => composes.walk (fun _ _ _ _ evaluated =>
      composes.evaluate (fun _ _ _ _ => composes.applyStyle runs) evaluated) walked
  constructor
  case apply => exact fun _ _ _ live known applied => recalls_apply runs live known applied
  case revalidate => exact fun _ _ _ _ told => recalls_revalidate isForest runs told
  case forget => exact fun root => Recalls.refl.forget root
  case style => exact fun _ _ _ _ _ applied => composes.applyStyle runs applied
  case childSheet => exact fun _ _ _ child _ _ applied => walks _ _ _ child.sheet.styles _ _ applied
  case walk => exact walks
  case applyOther => exact fun _ _ _ _ differ applied => recallsOnly_apply differ runs applied
  case revalidateOther => exact fun _ _ _ _ _ differ told => recallsOnly_revalidate differ runs told
  case forgetOther => exact fun _ _ differ => recalls_updateSheet differ scene _
  case addSheet => exact recalls_addSheet scene sheet
  case addStyle => exact fun _ rootless => recalls_addStyle scene sheet rootless
  case register => exact recalls_register scene sheet
  case nest => exact recalls_nest scene sheet
  case chain => exact recalls_chain scene sheet

/-- After every history of a sheet the sheet remembers the live widgets that it was applied to since
they were last forgotten, each once, in the order of their first such applications. The history is
what `apply`, `revalidate` and `forget` are called for, by whomever; styles, chains and the sheets below
them add nothing but what their mutations call, to no sheet, and the sheets below chains never remember
anything. -/
theorem applied_roots_follow_history {client : ε} {scene : Scene ε} {sheet : SheetId}
    {calls : List RootCall} (recalls : Recalls sheet (Scene.fresh client) calls scene) :
    (scene.appliedRoots sheet).Nodup ∧
      (∀ root, root ∈ scene.appliedRoots sheet ↔
        scene.forest.contains root = true ∧ ∃ place, RootCall.Stands calls root place) ∧
      (scene.appliedRoots sheet).Pairwise (RootCall.Precedes calls) ∧
      (∀ (handlers : Handlers ε) (allowed : RootCall → Prop),
        (∀ handler on before between, handlers.run handler on before = some between →
          RecallsOnly sheet allowed before between) → AddsCalls handlers allowed sheet scene) ∧
      (∀ after, Recalls sheet scene [] after →
        after.appliedRoots sheet = (scene.appliedRoots sheet).filter after.forest.contains) ∧
      ∀ later after, Recalls sheet scene later after →
        ∀ id, ∀ child ∈ after.styles.childSheets id, child.roots = [] := by
  have remembers := (Remembers.fresh client sheet).run recalls
  rw [List.nil_append] at remembers
  have isForest := recalls.reaches.isForest Forest.isForest_empty
  have rootless : ∀ later after, Recalls sheet scene later after →
      ∀ id, ∀ child ∈ after.styles.childSheets id, child.roots = [] := by
    intro later after further id child member
    exact ((recalls.trans further).addsNoRoots id child member).resolve_right List.not_mem_nil
  refine ⟨?_, fun root => ?_, ?_, fun _ _ runs => addsCalls isForest runs,
    fun after later => remembers.appliedRoots_eq later, rootless⟩
  · rw [remembers.same]
    exact (RootCall.nodup_remembered calls).filter _
  · rw [remembers.same, List.mem_filter, RootCall.mem_remembered_iff, and_comm]
  · rw [remembers.same]
    exact (RootCall.pairwise_remembered calls).filter _

/-- Counting widgets is no call on a sheet. -/
theorem counters_recallsOnly (sheet : SheetId) (handler : HandlerId) (on : WidgetId)
    (before between : Scene Nat) (ran : counters.run handler on before = some between) :
    RecallsOnly sheet (fun _ => False) before between := by
  cases ran
  exact (composes_recallsOnly sheet _).step
    (PlainStep.of_same_forest (Step.elsewhere before rfl rfl) rfl rfl rfl)

theorem recalls_panelsAndLabel : Recalls ⟨0⟩ (Scene.fresh 0) [] panelsAndLabel := by
  have start : Recalls ⟨0⟩ (Scene.fresh 0) [] (Scene.fresh 0) := Recalls.refl
  have plain {before middle after : Scene Nat} (earlier : Recalls ⟨0⟩ before [] middle)
      (one : PlainStep middle after) : Recalls ⟨0⟩ before [] after :=
    earlier.keep one.step (roots_eq_of_sheets one.sheets) one.styles
  have panels := plain (plain start (PlainStep.spawn _ .panel)) (PlainStep.spawn _ .panel)
  have labels := plain (plain panels (PlainStep.spawn _ .label)) (PlainStep.spawn _ .label)
  have tree := plain (plain labels (PlainStep.add _ ⟨0⟩ ⟨1⟩)) (PlainStep.add _ ⟨1⟩ ⟨2⟩)
  exact ((tree.trans (recalls_addSheet _ _)).trans (recalls_addStyle _ _
    (fun _ member => absurd member List.not_mem_nil))).trans (recalls_register _ _ _ _)

/-- An application that counts widgets is one call. -/
theorem recalls_counted {before after : Scene Nat} {steps : Nat} {root : WidgetId}
    (known : before.forest.contains root = true ∧ (before.sheet? sheet).isSome = true)
    (applied : before.apply counters steps sheet root = some after) :
    Recalls sheet before [.applied root] after := by
  obtain ⟨own, recalls, none⟩ :=
    recalls_apply (counters_recallsOnly sheet) known.1 known.2 applied
  rwa [List.eq_nil_iff_forall_not_mem.mpr none] at recalls

/-- The sheet is applied to the outer panel, to the inner one, and after it has forgotten the outer one
to that one again and to the other label, which is given up in the end. -/
def forgottenPanel : Option (Scene Nat × Scene Nat × Scene Nat × Scene Nat) := do
  let outer ← panelsAndLabel.apply counters 5 ⟨0⟩ ⟨0⟩
  let inner ← outer.apply counters 5 ⟨0⟩ ⟨1⟩
  let again ← (inner.forget ⟨0⟩ ⟨0⟩).2.apply counters 5 ⟨0⟩ ⟨0⟩
  let beside ← again.apply counters 5 ⟨0⟩ ⟨3⟩
  some (outer, inner, again, beside)

/-- The outer panel comes after the inner one in memory, and the label that is gone is not there. -/
theorem forgottenPanel_remembers :
    ∃ scene : Scene Nat, Recalls ⟨0⟩ (Scene.fresh 0)
        [.applied ⟨0⟩, .applied ⟨1⟩, .forgot ⟨0⟩, .applied ⟨0⟩, .applied ⟨3⟩] scene ∧
      scene.roots ⟨0⟩ = [⟨1⟩, ⟨0⟩, ⟨3⟩] ∧ scene.appliedRoots ⟨0⟩ = [⟨1⟩, ⟨0⟩] ∧
      (scene.appliedRoots ⟨0⟩).Pairwise (RootCall.Precedes
        [.applied ⟨0⟩, .applied ⟨1⟩, .forgot ⟨0⟩, .applied ⟨0⟩, .applied ⟨3⟩]) ∧
      AddsCalls counters (fun _ => False) ⟨0⟩ scene := by
  obtain ⟨⟨outer, inner, again, beside⟩, made⟩ := Option.isSome_iff_exists.mp
    (show forgottenPanel.isSome = true by decide +kernel)
  have facts : forgottenPanel.map (fun scenes =>
      ((scenes.1.forest.contains ⟨1⟩, (scenes.1.sheet? ⟨0⟩).isSome),
        (scenes.2.1.forest.contains ⟨0⟩, ((scenes.2.1.forget ⟨0⟩ ⟨0⟩).2.sheet? ⟨0⟩).isSome),
        (scenes.2.2.1.forest.contains ⟨3⟩, (scenes.2.2.1.sheet? ⟨0⟩).isSome),
        ((scenes.2.2.2.release ⟨3⟩).roots ⟨0⟩, (scenes.2.2.2.release ⟨3⟩).appliedRoots ⟨0⟩))) =
      some ((true, true), (true, true), (true, true), ([⟨1⟩, ⟨0⟩, ⟨3⟩], [⟨1⟩, ⟨0⟩])) := by
    decide +kernel
  simp only [made, Option.map_some, Option.some.injEq, Prod.mk.injEq] at facts
  obtain ⟨innerKnown, outerKnown, labelKnown, memory⟩ := facts
  simp only [forgottenPanel, Option.bind_eq_bind, Option.bind_eq_some_iff, Option.some.injEq,
    Prod.mk.injEq] at made
  obtain ⟨_, first, _, second, _, third, _, fourth, rfl, rfl, rfl, rfl⟩ := made
  have twice := (recalls_panelsAndLabel.trans (recalls_counted (by decide +kernel) first)).trans
    (recalls_counted innerKnown second)
  have recalls := (((twice.forget ⟨0⟩).trans (recalls_counted outerKnown third)).trans
    (recalls_counted labelKnown fourth)).keep (Step.release _ ⟨3⟩)
      (roots_eq_of_sheets (sheets_release _ _)) (styles_release _ _)
  obtain ⟨-, -, ordered, adds, -, -⟩ := applied_roots_follow_history recalls
  exact ⟨_, recalls, memory.1, memory.2, ordered,
    adds counters _ (counters_recallsOnly ⟨0⟩)⟩

end Scene

end StyledTree
