import Mathlib.Data.List.Induction
import StyledTree.Widget.Node

set_option autoImplicit false

namespace StyledTree.Mouse

inductive Call where
  | register (listener : Listener)
  | remove (kind : Kind) (key : String)
deriving DecidableEq

namespace Call

def kind : Call → Kind
  | .register listener => listener.kind
  | .remove kind _ => kind

/-- The key that the call is made under; an anonymous registration has none. -/
def key? : Call → Option String
  | .register listener => listener.key
  | .remove _ key => some key

/-- The call takes the listener away: it is made for the kind and under the key of the listener. -/
def ends (call : Call) (listener : Listener) : Bool :=
  call.key?.any (fun key => listener.isKeyed call.kind key)

def registered : Call → List Listener
  | .register listener => [listener]
  | .remove _ _ => []

def applyTo (listeners : List Listener) : Call → List Listener
  | .register listener => Mouse.register listeners listener
  | .remove kind key => forget listeners kind key

theorem applyTo_eq (listeners : List Listener) (call : Call) :
    call.applyTo listeners =
      listeners.filter (fun listener => !call.ends listener) ++ call.registered := by
  cases call with
  | register listener =>
      rw [applyTo, Mouse.register, registered]
      cases keyed : listener.key with
      | none =>
          have kept : listeners.filter
              (fun other => !(Call.register listener).ends other) = listeners := by
            rw [List.filter_eq_self]
            intro other _
            simp [ends, key?, keyed]
          rw [kept]
      | some key => simp [ends, key?, kind, keyed, forget]
  | remove kind key => simp [applyTo, forget, ends, key?, Call.kind, registered]

theorem ends_eq_true_iff (call : Call) (listener : Listener) :
    call.ends listener = true ↔
      listener.kind = call.kind ∧ ∃ key, call.key? = some key ∧ listener.key = some key := by
  rw [ends, Option.any_eq_true]
  simp only [Listener.isKeyed, Bool.and_eq_true, beq_iff_eq]
  constructor
  · rintro ⟨key, under, kind, keyed⟩
    exact ⟨kind, key, under, keyed⟩
  · rintro ⟨kind, key, under, keyed⟩
    exact ⟨key, under, kind, keyed⟩

theorem kind_of_mem_registered {call : Call} {listener : Listener}
    (member : listener ∈ call.registered) : listener.kind = call.kind := by
  cases call with
  | register new => rw [List.mem_singleton.mp member]; rfl
  | remove kind key => cases member

end Call

def isEnded (calls : List Call) (listener : Listener) : Bool :=
  calls.any (fun call => call.ends listener)

/-- The listeners that stand at the end of a history, in order of registration. -/
def standing : List Call → List Listener
  | [] => []
  | call :: later =>
    call.registered.filter (fun listener => !isEnded later listener) ++ standing later

theorem standing_append (first second : List Call) :
    standing (first ++ second) =
      (standing first).filter (fun listener => !isEnded second listener) ++ standing second := by
  induction first with
  | nil => rfl
  | cons call later ih =>
      rw [List.cons_append, standing, standing, ih, List.filter_append, List.filter_filter,
        List.append_assoc]
      simp only [isEnded, List.any_append, Bool.not_or, Bool.and_comm]

/-- One more call does to what stands what it does to the listeners of a widget. -/
theorem standing_concat (calls : List Call) (call : Call) :
    standing (calls ++ [call]) = call.applyTo (standing calls) := by
  rw [standing_append, Call.applyTo_eq]
  simp [standing, isEnded]

/-- A listener stands if it was registered and no later call ended it. -/
theorem mem_standing_iff {calls : List Call} {listener : Listener} :
    listener ∈ standing calls ↔ ∃ earlier later,
      calls = earlier ++ .register listener :: later ∧ isEnded later listener = false := by
  induction calls with
  | nil => simp [standing]
  | cons call rest ih =>
      rw [standing, List.mem_append, List.mem_filter, ih]
      constructor
      · rintro (⟨new, kept⟩ | ⟨earlier, later, rfl, kept⟩)
        · cases call with
          | register registered =>
              rw [List.mem_singleton.mp new] at kept ⊢
              exact ⟨[], rest, rfl, by simpa using kept⟩
          | remove kind key => cases new
        · exact ⟨call :: earlier, later, rfl, kept⟩
      · rintro ⟨earlier, later, split, kept⟩
        rcases List.cons_eq_append_iff.mp split with ⟨rfl, same⟩ | ⟨others, rfl, rfl⟩
        · cases same
          exact Or.inl ⟨List.mem_singleton_self listener, by simpa using kept⟩
        · exact Or.inr ⟨others, later, rfl, kept⟩

/-- One listener at most stands under a kind and key. -/
theorem length_filter_isKeyed_le (calls : List Call) (kind : Kind) (key : String) :
    ((standing calls).filter (Listener.isKeyed kind key)).length ≤ 1 := by
  -- By the last call: under its own kind and key it leaves what it registers, and it adds nothing under
  -- any other.
  induction calls using List.reverseRecOn with
  | nil => exact Nat.zero_le 1
  | append_singleton calls call ih =>
      rw [standing_concat, Call.applyTo_eq, List.filter_append, List.filter_filter,
        List.length_append]
      by_cases under : call.kind = kind ∧ call.key? = some key
      · obtain ⟨rfl, keyed⟩ := under
        have replaced : (standing calls).filter (fun listener =>
            listener.isKeyed call.kind key && !call.ends listener) = [] := by
          rw [List.filter_eq_nil_iff]
          intro listener _
          simp [Call.ends, keyed]
        have single : call.registered.length ≤ 1 := by cases call <;> simp [Call.registered]
        rw [replaced, List.length_nil, Nat.zero_add]
        exact Nat.le_trans (List.length_filter_le _ _) single
      · have other : call.registered.filter (Listener.isKeyed kind key) = [] := by
          rw [List.filter_eq_nil_iff]
          intro listener member isKeyed
          rw [Listener.isKeyed, Bool.and_eq_true, beq_iff_eq, beq_iff_eq] at isKeyed
          apply under
          cases call with
          | register new =>
              rw [List.mem_singleton.mp member] at isKeyed
              exact isKeyed
          | remove kind key => cases member
        rw [other, List.length_nil, Nat.add_zero]
        refine Nat.le_trans ?_ ih
        rw [← List.filter_filter]
        exact (List.filter_sublist.filter _).length_le

/-- Anonymous listeners stand for ever. -/
theorem filter_anonymous_standing (calls : List Call) :
    (standing calls).filter (fun listener => listener.key.isNone) =
      (calls.flatMap Call.registered).filter (fun listener => listener.key.isNone) := by
  have kept : ∀ later (listener : Listener), listener.key.isNone = true →
      isEnded later listener = false := by
    intro later listener anonymous
    rw [isEnded, List.any_eq_false]
    intro call _ ended
    obtain ⟨-, key, -, keyed⟩ := (call.ends_eq_true_iff listener).mp ended
    rw [keyed] at anonymous
    cases anonymous
  induction calls with
  | nil => rfl
  | cons call later ih =>
      rw [standing, List.filter_append, ih, List.filter_filter, List.flatMap_cons, List.filter_append]
      congr 1
      refine List.filter_congr (fun listener _ => ?_)
      cases anonymous : listener.key.isNone with
      | false => rfl
      | true => rw [kept later listener anonymous]; rfl

/-- The listeners for a kind of event are told by the calls for that kind. -/
theorem filter_kind_standing (calls : List Call) (kind : Kind) :
    (standing calls).filter (fun listener => listener.kind == kind) =
      standing (calls.filter (fun call => call.kind == kind)) := by
  have same : ∀ later (listener : Listener), listener.kind = kind →
      isEnded (later.filter (fun call => call.kind == kind)) listener = isEnded later listener := by
    intro later listener isKind
    rw [isEnded, List.any_filter, isEnded]
    refine List.any_congr rfl (fun call => ?_)
    cases ended : call.ends listener with
    | false => exact Bool.and_false _
    | true =>
        have kinds := ((call.ends_eq_true_iff listener).mp ended).1
        rw [← kinds, isKind, beq_self_eq_true]
        rfl
  induction calls with
  | nil => rfl
  | cons call later ih =>
      rw [standing, List.filter_append, ih, List.filter_filter]
      by_cases isKind : call.kind = kind
      · rw [List.filter_cons_of_pos (by simpa using isKind), standing]
        congr 1
        refine List.filter_congr (fun listener member => ?_)
        have kinds := (Call.kind_of_mem_registered member).trans isKind
        rw [same later listener kinds, kinds, beq_self_eq_true, Bool.true_and]
      · rw [List.filter_cons_of_neg (by simpa using isKind)]
        have none : call.registered.filter (fun listener =>
            listener.kind == kind && !isEnded later listener) = [] := by
          rw [List.filter_eq_nil_iff]
          intro listener member
          rw [Call.kind_of_mem_registered member]
          simp [isKind]
        rw [none, List.nil_append]

end StyledTree.Mouse
