import Mathlib.Data.List.Induction
import StyledTree.Widget.Choice

set_option autoImplicit false

namespace StyledTree.Choice

inductive Call where
  | add (item : String)
  | removeAll
  | select (index : Nat)
deriving DecidableEq

namespace Call

def isAddition : Call → Bool
  | .add _ => true
  | .removeAll | .select _ => false

def applyTo (choice : Choice) : Call → Choice
  | .add item => choice.addItem item
  | .removeAll => choice.removeAll
  | .select index => choice.select index

/-- The call makes an index the selection: it asks for an item that is there, or it adds one while nothing
is selected. -/
inductive Selects (choice : Choice) : Call → Nat → Prop where
  | asked {index : Nat} (there : index < choice.items.length) : Selects choice (.select index) index
  | added {item : String} (unselected : choice.selected = none) : Selects choice (.add item) 0

end Call

def ofCalls (calls : List Call) : Choice := calls.foldl Call.applyTo empty

theorem ofCalls_concat (calls : List Call) (call : Call) :
    ofCalls (calls ++ [call]) = call.applyTo (ofCalls calls) := by
  rw [ofCalls, List.foldl_append]
  rfl

structure IsSound (choice : Choice) : Prop where
  inside : ∀ index, choice.selected = some index → index < choice.items.length

variable {choice : Choice}

theorem IsSound.applyTo (sound : choice.IsSound) (call : Call) : (call.applyTo choice).IsSound := by
  refine ⟨fun index selected => ?_⟩
  cases call with
  | add item =>
      simp only [Call.applyTo, addItem, List.length_append, List.length_singleton] at selected ⊢
      cases before : choice.selected with
      | none =>
          rw [before, Option.none_or, Option.some.injEq] at selected
          omega
      | some old =>
          rw [before, Option.some_or] at selected
          have inside := sound.inside index (before.trans selected)
          omega
  | removeAll => cases selected
  | select asked =>
      simp only [Call.applyTo, select] at selected ⊢
      split at selected
      · next there =>
        cases selected
        exact there
      · cases selected

theorem isSound_ofCalls (calls : List Call) : (ofCalls calls).IsSound := by
  induction calls using List.reverseRecOn with
  | nil => exact ⟨nofun⟩
  | append_singleton calls call ih =>
      rw [ofCalls_concat]
      exact ih.applyTo call

theorem selectedItem?_of_selected {index : Nat} (selected : choice.selected = some index) :
    choice.selectedItem? = choice.items[index]? := by
  rw [selectedItem?, selected, Option.bind_some]

theorem IsSound.isSome_selectedItem? (sound : choice.IsSound) :
    choice.selectedItem?.isSome = choice.selected.isSome := by
  cases selected : choice.selected with
  | none => rw [selectedItem?, selected]; rfl
  | some index =>
      rw [selectedItem?_of_selected selected, List.getElem?_eq_getElem (sound.inside index selected)]
      rfl

/-- An addition leaves the selection alone, if there is one. -/
theorem selected_addItem_ne_iff (choice : Choice) (item : String) :
    (choice.addItem item).selected ≠ choice.selected ↔ choice.selected = none := by
  rw [addItem]
  cases choice.selected <;> simp

/-- A call of the history made the index the selection, and only items were added since. -/
def SelectedSince (calls : List Call) (index : Nat) : Prop :=
  ∃ earlier call later, calls = earlier ++ call :: later ∧ call.Selects (ofCalls earlier) index ∧
    ∀ other ∈ later, other.isAddition = true

theorem selectedSince_concat_iff {calls : List Call} {call : Call} {index : Nat} :
    SelectedSince (calls ++ [call]) index ↔
      call.Selects (ofCalls calls) index ∨ SelectedSince calls index ∧ call.isAddition = true := by
  constructor
  · rintro ⟨earlier, made, later, split, selects, added⟩
    rcases List.eq_nil_or_concat later with rfl | ⟨others, last, rfl⟩
    · obtain ⟨rfl, same⟩ := List.append_inj' split rfl
      cases same
      exact Or.inl selects
    · rw [List.concat_eq_append, ← List.cons_append, ← List.append_assoc] at split
      rw [List.concat_eq_append, List.forall_mem_append, List.forall_mem_singleton] at added
      obtain ⟨rfl, same⟩ := List.append_inj' split rfl
      cases same
      exact Or.inr ⟨⟨earlier, made, others, rfl, selects, added.1⟩, added.2⟩
  · rintro (selects | ⟨⟨earlier, made, later, rfl, selects, added⟩, isAddition⟩)
    · exact ⟨calls, call, [], rfl, selects, nofun⟩
    · refine ⟨earlier, made, later ++ [call], ?_, selects, ?_⟩
      · rw [List.append_assoc, List.cons_append]
      · rw [List.forall_mem_append, List.forall_mem_singleton]
        exact ⟨added, isAddition⟩

theorem selected_ofCalls_eq_some_iff {calls : List Call} {index : Nat} :
    (ofCalls calls).selected = some index ↔ SelectedSince calls index := by
  induction calls using List.reverseRecOn with
  | nil =>
      refine ⟨nofun, ?_⟩
      rintro ⟨earlier, call, later, split, -⟩
      cases earlier <;> cases split
  | append_singleton calls call ih =>
      rw [ofCalls_concat, selectedSince_concat_iff, ← ih]
      cases call with
      | add item =>
          simp only [Call.applyTo, addItem, Call.isAddition, and_true]
          constructor
          · intro selected
            cases before : (ofCalls calls).selected with
            | none =>
                rw [before, Option.none_or, Option.some.injEq] at selected
                exact Or.inl (selected ▸ Call.Selects.added before)
            | some old =>
                rw [before, Option.some_or] at selected
                exact Or.inr selected
          · rintro (selects | selected)
            · cases selects with
              | added unselected => rw [unselected, Option.none_or]
            · rw [selected, Option.some_or]
      | removeAll =>
          refine iff_of_false nofun ?_
          rintro (selects | ⟨-, isAddition⟩)
          · cases selects
          · cases isAddition
      | select asked =>
          simp only [Call.applyTo, select, Call.isAddition, Bool.false_eq_true, and_false, or_false]
          constructor
          · intro selected
            split at selected
            · next there =>
              cases selected
              exact Call.Selects.asked there
            · cases selected
          · rintro ⟨there⟩
            rw [if_pos there]

/-- Nothing is selected in an empty list, and after an index out of range. -/
theorem selected_ofCalls_eq_none_iff {calls : List Call} :
    (ofCalls calls).selected = none ↔ (ofCalls calls).items = [] ∨
      ∃ earlier index, calls = earlier ++ [.select index] ∧
        (ofCalls earlier).items.length ≤ index := by
  rcases List.eq_nil_or_concat calls with rfl | ⟨earlier, call, rfl⟩
  · exact iff_of_true rfl (Or.inl rfl)
  · rw [List.concat_eq_append, ofCalls_concat]
    cases call with
    | add item =>
        refine iff_of_false ?_ ?_
        · rw [Call.applyTo, addItem]
          cases (ofCalls earlier).selected <;> exact nofun
        · rintro (empty | ⟨others, index, split, -⟩)
          · exact List.append_ne_nil_of_right_ne_nil _ (List.cons_ne_nil item []) empty
          · cases (List.append_inj' split rfl).2
    | removeAll => exact iff_of_true rfl (Or.inl rfl)
    | select asked =>
        by_cases there : asked < (ofCalls earlier).items.length
        · refine iff_of_false ?_ ?_
          · rw [Call.applyTo, select, if_pos there]
            exact nofun
          · rintro (empty | ⟨others, index, split, beyond⟩)
            · rw [Call.applyTo, select] at empty
              rw [empty] at there
              exact absurd there (Nat.not_lt_zero asked)
            · obtain ⟨rfl, same⟩ := List.append_inj' split rfl
              cases same
              omega
        · refine iff_of_true ?_ (Or.inr ⟨earlier, asked, rfl, Nat.le_of_not_lt there⟩)
          rw [Call.applyTo, select, if_neg there]

end StyledTree.Choice
