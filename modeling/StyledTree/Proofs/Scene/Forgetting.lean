import StyledTree.Proofs.Scene.Remembering

set_option autoImplicit false

namespace StyledTree.Scene

variable {ε : Type} {client : ε} {sheet : SheetId} {calls : List RootCall}

/-- The scene in which the memory of a sheet was last written or pruned, at the end of its history. All
roots were there then, and some may have gone since. -/
structure LastPruned (client : ε) (sheet : SheetId) (calls : List RootCall)
    (pruned scene : Scene ε) : Prop where
  earlier : Recalls sheet (Scene.fresh client) calls pruned
  later : Recalls sheet pruned [] scene
  kept : scene.roots sheet = pruned.roots sheet
  whole : pruned.appliedRoots sheet = pruned.roots sheet

structure Forgets (sheet : SheetId) (root : WidgetId) (pruned scene : Scene ε)
    (result : Bool × Scene ε) : Prop where
  tells_iff : result.1 = true ↔ root ∈ scene.appliedRoots sheet ∨
    ∃ gone ∈ pruned.appliedRoots sheet, scene.forest.contains gone = false
  forgets : result.2.appliedRoots sheet =
    (scene.appliedRoots sheet).filter (fun other => other != root)
  /-- The next answer is about the root alone. -/
  again : ∀ other, (result.2.forget sheet other).1 = true ↔ other ∈ result.2.appliedRoots sheet
  others : ∀ other, other ≠ sheet → result.2.roots other = scene.roots other
  elsewhere : result.2 = { scene with sheets := result.2.sheets }

theorem appliedRoots_eq_roots_iff {scene : Scene ε} :
    scene.appliedRoots sheet = scene.roots sheet ↔
      ∀ root ∈ scene.roots sheet, scene.forest.contains root = true := by
  rw [appliedRoots, List.filter_eq_self]

/-- A call leaves only roots that are there in memory. -/
theorem appliedRoots_eq_of_remember {scene after : Scene ε} {call : RootCall}
    (roots : after.roots sheet = RootCall.remember (scene.appliedRoots sheet) call)
    (forest : after.forest = scene.forest)
    (live : ∀ root, call = .applied root → scene.forest.contains root = true) :
    after.appliedRoots sheet = after.roots sheet := by
  rw [appliedRoots_eq_roots_iff]
  intro root member
  rw [forest]
  rw [roots] at member
  rcases RootCall.mem_of_mem_remember member with earlier | isCall
  · exact (mem_appliedRoots_iff.mp earlier).2
  · exact live root isCall

theorem exists_lastPruned {scene : Scene ε} (recalls : Recalls sheet (Scene.fresh client) calls scene) :
    ∃ pruned, LastPruned client sheet calls pruned scene := by
  -- every call but a plain step prunes, so that its own scene is the last one
  have atCall : ∀ {calls : List RootCall} {after : Scene ε},
      Recalls sheet (Scene.fresh client) calls after →
        after.appliedRoots sheet = after.roots sheet → LastPruned client sheet calls after after :=
    fun recalls whole => ⟨recalls, Recalls.refl, rfl, whole⟩
  induction recalls with
  | refl => exact ⟨_, atCall Recalls.refl rfl⟩
  | step _ one kept below ih =>
      obtain ⟨pruned, last⟩ := ih
      exact ⟨pruned, last.earlier, last.later.step one kept below, kept.trans last.kept, last.whole⟩
  | prune earlier _ =>
      refine ⟨_, atCall earlier.prune ?_⟩
      rw [appliedRoots_pruneRoots, roots_pruneRoots]
  | record earlier live known _ =>
      refine ⟨_, atCall (earlier.record live known)
        (appliedRoots_eq_of_remember (roots_recordRoot known _) rfl ?_)⟩
      rintro _ ⟨rfl⟩
      exact live
  | forget root earlier _ =>
      exact ⟨_, atCall (earlier.forget root)
        (appliedRoots_eq_of_remember (roots_forget _ root) rfl nofun)⟩

/-- The memory becomes shorter by the root, and by those that are gone. -/
theorem forget_tells_iff {scene : Scene ε} {root : WidgetId} :
    (scene.forget sheet root).1 = true ↔ root ∈ scene.appliedRoots sheet ∨
      ∃ gone ∈ scene.roots sheet, scene.forest.contains gone = false := by
  rw [forget, bne_iff_ne, ne_comm, Ne, List.length_filter_eq_length_iff, mem_appliedRoots_iff]
  simp only [Bool.and_eq_true, bne_iff_ne, not_forall, not_and_or, exists_prop, Bool.not_eq_true,
    not_not]
  constructor
  · rintro ⟨other, member, gone | rfl⟩
    · exact Or.inr ⟨other, member, gone⟩
    · by_cases live : scene.forest.contains other = true
      · exact Or.inl ⟨member, live⟩
      · exact Or.inr ⟨other, member, Bool.eq_false_iff.mpr live⟩
  · rintro (⟨member, -⟩ | ⟨gone, member, isGone⟩)
    · exact ⟨root, member, Or.inr rfl⟩
    · exact ⟨gone, member, Or.inl isGone⟩

/-- Where all that is in memory is there, the answer is whether the root is. -/
theorem forget_tells_iff_of_whole {scene : Scene ε} {root : WidgetId}
    (whole : scene.appliedRoots sheet = scene.roots sheet) :
    (scene.forget sheet root).1 = true ↔ root ∈ scene.appliedRoots sheet := by
  rw [forget_tells_iff]
  refine or_iff_left ?_
  rintro ⟨gone, member, isGone⟩
  rw [appliedRoots_eq_roots_iff.mp whole gone member] at isGone
  cases isGone

/-- Forgetting a root, after whatever history, drops just that root from those that are remembered, and
keeps the others in their order. It answers whether the root was among them only if no remembered root
has gone since the memory was last written or pruned; if one has, the answer is yes for every root. -/
theorem forget_tells_of_roots_gone {scene : Scene ε}
    (recalls : Recalls sheet (Scene.fresh client) calls scene) (root : WidgetId) :
    ∃ pruned, LastPruned client sheet calls pruned scene ∧
      Forgets sheet root pruned scene (scene.forget sheet root) := by
  obtain ⟨pruned, last⟩ := exists_lastPruned recalls
  have whole : (scene.forget sheet root).2.appliedRoots sheet =
      (scene.forget sheet root).2.roots sheet :=
    appliedRoots_eq_of_remember (roots_forget scene root) rfl nofun
  refine ⟨pruned, last, ?_⟩
  constructor
  case tells_iff => rw [forget_tells_iff, last.kept, last.whole]
  case forgets => rw [whole, roots_forget, RootCall.remember]
  case again => exact fun other => forget_tells_iff_of_whole whole
  case others => exact fun other differ => roots_updateSheet_of_ne scene differ _
  case elsewhere => rfl

/-- A sheet that is applied to the inner panel and then to the label beside the panels. -/
def labelledLast : Option (Scene Nat × Scene Nat) := do
  let inner ← panelsAndLabel.apply counters 5 ⟨0⟩ ⟨1⟩
  let beside ← inner.apply counters 5 ⟨0⟩ ⟨3⟩
  some (inner, beside)

/-- The label is given up, and the sheet has not noticed it yet. -/
theorem exists_labelLost : ∃ scene : Scene Nat,
    Recalls ⟨0⟩ (Scene.fresh 0) [.applied ⟨1⟩, .applied ⟨3⟩] scene ∧
      scene.forest.contains ⟨0⟩ = true ∧ scene.roots ⟨0⟩ = [⟨1⟩, ⟨3⟩] ∧
      scene.appliedRoots ⟨0⟩ = [⟨1⟩] ∧ (scene.forget ⟨0⟩ ⟨0⟩).1 = true := by
  obtain ⟨⟨inner, beside⟩, made⟩ := Option.isSome_iff_exists.mp
    (show labelledLast.isSome = true by decide +kernel)
  have facts : labelledLast.map (fun scenes =>
      let lost := scenes.2.release ⟨3⟩
      ((scenes.1.forest.contains ⟨3⟩, (scenes.1.sheet? ⟨0⟩).isSome),
        lost.forest.contains ⟨0⟩, lost.roots ⟨0⟩, lost.appliedRoots ⟨0⟩, (lost.forget ⟨0⟩ ⟨0⟩).1)) =
      some ((true, true), true, [⟨1⟩, ⟨3⟩], [⟨1⟩], true) := by
    decide +kernel
  simp only [made, Option.map_some, Option.some.injEq, Prod.mk.injEq] at facts
  obtain ⟨labelKnown, lostFacts⟩ := facts
  simp only [labelledLast, Option.bind_eq_bind, Option.bind_eq_some_iff, Option.some.injEq,
    Prod.mk.injEq] at made
  obtain ⟨_, first, _, second, rfl, rfl⟩ := made
  have applied := (recalls_panelsAndLabel.trans (recalls_counted (by decide +kernel) first)).trans
    (recalls_counted labelKnown second)
  have lost := applied.keep (Step.release _ ⟨3⟩) (roots_eq_of_sheets (sheets_release _ _))
    (styles_release _ _)
  exact ⟨_, lost, lostFacts⟩

/-- The first call for the outer panel, which was never applied, says yes because of the label that is
gone, and the second says no. -/
theorem labelLost_answers_once : ∃ pruned scene : Scene Nat,
    Recalls ⟨0⟩ (Scene.fresh 0) [.applied ⟨1⟩, .applied ⟨3⟩] scene ∧
      LastPruned 0 ⟨0⟩ [.applied ⟨1⟩, .applied ⟨3⟩] pruned scene ∧
      pruned.appliedRoots ⟨0⟩ = [⟨1⟩, ⟨3⟩] ∧
      Forgets ⟨0⟩ ⟨0⟩ pruned scene (scene.forget ⟨0⟩ ⟨0⟩) ∧
      (scene.forget ⟨0⟩ ⟨0⟩).1 = true ∧
      (scene.forget ⟨0⟩ ⟨0⟩).2.appliedRoots ⟨0⟩ = [⟨1⟩] ∧
      ((scene.forget ⟨0⟩ ⟨0⟩).2.forget ⟨0⟩ ⟨0⟩).1 = false := by
  obtain ⟨scene, recalls, -, inMemory, remembered, told⟩ := exists_labelLost
  obtain ⟨pruned, last, forgets⟩ := forget_tells_of_roots_gone recalls ⟨0⟩
  have whole : pruned.appliedRoots ⟨0⟩ = [⟨1⟩, ⟨3⟩] := by
    rw [last.whole, ← last.kept, inMemory]
  have rest : (scene.forget ⟨0⟩ ⟨0⟩).2.appliedRoots ⟨0⟩ = [⟨1⟩] := by
    rw [forgets.forgets, remembered]
    decide
  refine ⟨pruned, scene, recalls, last, whole, forgets, told, rest, ?_⟩
  rw [Bool.eq_false_iff, Ne, forgets.again, rest]
  decide

/-- That forgetting says yes only for a root that is remembered is wrong when another one has gone. -/
theorem labelLost_told_for_panel : ∃ scene : Scene Nat,
    Recalls ⟨0⟩ (Scene.fresh 0) [.applied ⟨1⟩, .applied ⟨3⟩] scene ∧
      scene.forest.contains ⟨0⟩ = true ∧ ⟨0⟩ ∉ scene.appliedRoots ⟨0⟩ ∧
      (scene.forget ⟨0⟩ ⟨0⟩).1 = true := by
  obtain ⟨scene, recalls, panelLive, -, remembered, told⟩ := exists_labelLost
  refine ⟨scene, recalls, panelLive, ?_, told⟩
  rw [remembered]
  decide

end StyledTree.Scene
