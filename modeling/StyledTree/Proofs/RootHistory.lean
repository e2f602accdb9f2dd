import Mathlib.Data.List.Induction
import Mathlib.Data.List.Nodup
import Mathlib.Data.Nat.Find
import StyledTree.Widget.Node

set_option autoImplicit false

namespace StyledTree

/-- A call that a sheet remembers a root by, or forgets one by. -/
inductive RootCall where
  | applied (root : WidgetId)
  | forgot (root : WidgetId)
deriving DecidableEq

namespace RootCall

/-- The root was applied at this place of the history and has not been forgotten since. -/
structure Stands (calls : List RootCall) (root : WidgetId) (place : Nat) : Prop where
  applied : calls[place]? = some (.applied root)
  kept : ∀ later, place < later → calls[later]? ≠ some (.forgot root)

/-- The place of the first application since the root was last forgotten. -/
structure IsFirst (calls : List RootCall) (root : WidgetId) (place : Nat) : Prop where
  stands : Stands calls root place
  first : ∀ other, Stands calls root other → place ≤ other

/-- The first root was applied before the second one, since they were last forgotten. -/
def Precedes (calls : List RootCall) (first second : WidgetId) : Prop :=
  ∃ one other, IsFirst calls first one ∧ IsFirst calls second other ∧ one < other

def remember (roots : List WidgetId) : RootCall → List WidgetId
  | .applied root => if root ∈ roots then roots else roots ++ [root]
  | .forgot root => roots.filter (fun other => other != root)

/-- What a history leaves in memory as long as nothing is gone. -/
def remembered (calls : List RootCall) : List WidgetId := calls.foldl remember []

theorem remembered_concat (calls : List RootCall) (call : RootCall) :
    remembered (calls ++ [call]) = remember (remembered calls) call := by
  rw [remembered, List.foldl_append]
  rfl

/-- Dropping roots before a call leaves what dropping them after it does, unless the call is for one
of them. -/
theorem filter_remember (roots : List WidgetId) {call : RootCall} {keep : WidgetId → Bool}
    (kept : ∀ root, call = .applied root → keep root = true) :
    (remember roots call).filter keep = remember (roots.filter keep) call := by
  cases call with
  | applied root =>
      have here : keep root = true := kept root rfl
      simp only [remember, List.mem_filter, here, and_true]
      split
      · rfl
      · rw [List.filter_append, List.filter_singleton, here]
        rfl
  | forgot root => exact List.filter_comm _ _ roots

theorem mem_of_mem_remember {roots : List WidgetId} {call : RootCall} {root : WidgetId}
    (member : root ∈ remember roots call) : root ∈ roots ∨ call = .applied root := by
  cases call with
  | applied other =>
      rw [remember] at member
      split at member
      · exact Or.inl member
      · rw [List.mem_append, List.mem_singleton] at member
        exact member.imp_right (fun same => by rw [same])
  | forgot other => exact Or.inl (List.mem_of_mem_filter member)

variable {calls : List RootCall} {root other : WidgetId} {place : Nat}

theorem Stands.lt_length (stands : Stands calls root place) : place < calls.length :=
  (List.getElem?_eq_some_iff.mp stands.applied).1

/-- What is at a place of a longer history was there before, or is the last call. -/
theorem getElem?_concat_eq_some_iff {call found : RootCall} :
    (calls ++ [call])[place]? = some found ↔
      calls[place]? = some found ∨ place = calls.length ∧ found = call := by
  rcases Nat.lt_trichotomy place calls.length with inside | rfl | outside
  · rw [List.getElem?_append_left inside]
    exact ⟨Or.inl, fun either => either.resolve_right (fun last => Nat.ne_of_lt inside last.1)⟩
  · rw [List.getElem?_concat_length, List.getElem?_eq_none (Nat.le_refl _)]
    simp [eq_comm]
  · have longer : (calls ++ [call]).length ≤ place := by
      rw [List.length_append]
      exact outside
    rw [List.getElem?_eq_none longer, List.getElem?_eq_none (Nat.le_of_lt outside)]
    simp [Nat.ne_of_gt outside]

theorem stands_applied_iff :
    Stands (calls ++ [.applied other]) root place ↔
      Stands calls root place ∨ root = other ∧ place = calls.length := by
  constructor
  · rintro ⟨applied, kept⟩
    rcases getElem?_concat_eq_some_iff.mp applied with earlier | ⟨rfl, same⟩
    · refine Or.inl ⟨earlier, fun later after forgot => kept later after ?_⟩
      exact getElem?_concat_eq_some_iff.mpr (Or.inl forgot)
    · cases same
      exact Or.inr ⟨rfl, rfl⟩
  · rintro (stands | ⟨rfl, rfl⟩)
    · refine ⟨getElem?_concat_eq_some_iff.mpr (Or.inl stands.applied), fun later after forgot => ?_⟩
      rcases getElem?_concat_eq_some_iff.mp forgot with earlier | ⟨-, same⟩
      · exact stands.kept later after earlier
      · cases same
    · refine ⟨List.getElem?_concat_length, fun later after => ?_⟩
      have longer : (calls ++ [RootCall.applied root]).length ≤ later := by
        rw [List.length_append]
        exact after
      rw [List.getElem?_eq_none longer]
      exact nofun

theorem stands_forgot_iff :
    Stands (calls ++ [.forgot other]) root place ↔ Stands calls root place ∧ root ≠ other := by
  constructor
  · rintro ⟨applied, kept⟩
    rcases getElem?_concat_eq_some_iff.mp applied with earlier | ⟨-, same⟩
    · refine ⟨⟨earlier, fun later after forgot => kept later after ?_⟩, ?_⟩
      · exact getElem?_concat_eq_some_iff.mpr (Or.inl forgot)
      · rintro rfl
        have inside := (List.getElem?_eq_some_iff.mp earlier).1
        exact kept calls.length inside (List.getElem?_concat_length)
    · cases same
  · rintro ⟨stands, differ⟩
    refine ⟨getElem?_concat_eq_some_iff.mpr (Or.inl stands.applied), fun later after forgot => ?_⟩
    rcases getElem?_concat_eq_some_iff.mp forgot with earlier | ⟨-, same⟩
    · exact stands.kept later after earlier
    · cases same
      exact differ rfl

theorem exists_isFirst (stands : Stands calls root place) : ∃ first, IsFirst calls root first := by
  classical
  have found : ∃ place, Stands calls root place := ⟨place, stands⟩
  exact ⟨Nat.find found, Nat.find_spec found, fun _ => Nat.find_min' found⟩

/-- A further application leaves the first one where it is. -/
theorem IsFirst.applied (isFirst : IsFirst calls root place) (other : WidgetId) :
    IsFirst (calls ++ [.applied other]) root place := by
  refine ⟨stands_applied_iff.mpr (Or.inl isFirst.stands), fun met stands => ?_⟩
  rcases stands_applied_iff.mp stands with earlier | ⟨-, rfl⟩
  · exact isFirst.first met earlier
  · exact Nat.le_of_lt isFirst.stands.lt_length

theorem IsFirst.forgot (isFirst : IsFirst calls root place) (differ : root ≠ other) :
    IsFirst (calls ++ [.forgot other]) root place :=
  ⟨stands_forgot_iff.mpr ⟨isFirst.stands, differ⟩,
    fun met stands => isFirst.first met (stands_forgot_iff.mp stands).1⟩

/-- What is in memory are the roots that were applied since they were last forgotten. -/
theorem mem_remembered_iff : root ∈ remembered calls ↔ ∃ place, Stands calls root place := by
  induction calls using List.reverseRecOn with
  | nil =>
      refine ⟨fun member => absurd member List.not_mem_nil, fun found => ?_⟩
      obtain ⟨place, stands⟩ := found
      exact absurd stands.lt_length (Nat.not_lt_zero place)
  | append_singleton calls call ih =>
      rw [remembered_concat]
      cases call with
      | applied other =>
          simp only [stands_applied_iff, exists_or, ← ih, exists_and_left, exists_eq, and_true]
          rw [remember]
          split
          · next known => exact ⟨Or.inl, fun either => either.elim id (fun same => same ▸ known)⟩
          · rw [List.mem_append, List.mem_singleton]
      | forgot other =>
          simp only [stands_forgot_iff, exists_and_right, ← ih]
          rw [remember, List.mem_filter, bne_iff_ne]

theorem nodup_remembered (calls : List RootCall) : (remembered calls).Nodup := by
  induction calls using List.reverseRecOn with
  | nil => exact List.nodup_nil
  | append_singleton calls call ih =>
      rw [remembered_concat]
      cases call with
      | applied root =>
          rw [remember]
          split
          · exact ih
          · next absent =>
            rw [← List.concat_eq_append]
            exact ih.concat absent
      | forgot root => exact ih.filter _

/-- The roots are in memory in the order of their first applications. -/
theorem pairwise_remembered (calls : List RootCall) :
    (remembered calls).Pairwise (Precedes calls) := by
  induction calls using List.reverseRecOn with
  | nil => exact List.Pairwise.nil
  | append_singleton calls call ih =>
      rw [remembered_concat]
      cases call with
      | applied root =>
          have kept : (remembered calls).Pairwise (Precedes (calls ++ [.applied root])) := by
            refine ih.imp ?_
            rintro first second ⟨one, other, isOne, isOther, before⟩
            exact ⟨one, other, isOne.applied root, isOther.applied root, before⟩
          rw [remember]
          split
          · exact kept
          · next absent =>
            refine List.pairwise_append.mpr ⟨kept, List.pairwise_singleton _ root, ?_⟩
            intro first member second isLast
            rw [List.mem_singleton.mp isLast]
            obtain ⟨place, stands⟩ := mem_remembered_iff.mp member
            obtain ⟨one, isOne⟩ := exists_isFirst stands
            refine ⟨one, calls.length, isOne.applied root, ⟨?_, fun met stands => ?_⟩,
              isOne.stands.lt_length⟩
            · exact stands_applied_iff.mpr (Or.inr ⟨rfl, rfl⟩)
            · rcases stands_applied_iff.mp stands with earlier | ⟨-, rfl⟩
              · exact absurd (mem_remembered_iff.mpr ⟨met, earlier⟩) absent
              · exact Nat.le_refl _
      | forgot root =>
          rw [remember]
          refine List.Pairwise.imp_of_mem ?_ (ih.filter _)
          rintro first second firstKept secondKept ⟨one, other, isOne, isOther, before⟩
          simp only [List.mem_filter, bne_iff_ne] at firstKept secondKept
          exact ⟨one, other, isOne.forgot firstKept.2, isOther.forgot secondKept.2, before⟩

end RootCall

end StyledTree
