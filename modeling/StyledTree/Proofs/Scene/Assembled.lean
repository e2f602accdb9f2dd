import StyledTree.Proofs.Scene.Assembling

set_option autoImplicit false

namespace StyledTree.Scene

open Styles

variable {ε : Type}

/-- A call that is not refused leaves a grove in which the child was moved. Its result and all chains
of before are there. -/
theorem chain_moves {scene : Scene ε} {sheet : SheetId} {order : List StyleId}
    (grove : Grove scene.styles (scene.topStyles sheet) order)
    (isSheet : (scene.sheet? sheet).isSome = true) {parent child : StyleId}
    (parentUsable : Usable scene.styles order parent)
    (childUsable : Usable scene.styles order child)
    (apart : ¬ LiesWithin scene.styles (scene.topStyles sheet) parent child) :
    ∃ nested parentChain,
      Grove (scene.chain sheet parent child).2.styles
        ((scene.chain sheet parent child).2.topStyles sheet) nested ∧
      Moves scene.styles (scene.topStyles sheet) parent child
        (scene.chain sheet parent child).2.styles
        ((scene.chain sheet parent child).2.topStyles sheet) parentChain
        (scene.chain sheet parent child).1 ∧
      (nested.map (scene.chain sheet parent child).2.styles.denoted).Perm
        (((order.map scene.styles.denoted).insert (scene.styles.denoted child)).insert
          (scene.styles.denoted parent)) ∧
      (scene.chain sheet parent child).1 ∈ nested ∧
      ∀ id ∈ order, scene.styles.isChain id = true → id ∈ nested := by
  obtain ⟨refused, -⟩ | ⟨-, same⟩ := chain_cases scene sheet parent child
  · exact absurd ((refusesChain_iff grove parentUsable childUsable).mp refused) apart
  · obtain ⟨taken, takes⟩ := takesOut grove isSheet childUsable
    have takenSheet := isSome_sheet?_takeOut scene sheet sheet child (scene.chainOf? sheet child)
    rw [isSheet] at takenSheet
    rw [same]
    dsimp only
    generalize scene.takeOut sheet child (scene.chainOf? sheet child) = out at takes takenSheet ⊢
    have movedApart := takes.apart grove parentUsable.made apart
    obtain ⟨found, finds⟩ := findsChain takes.grove takenSheet
      (parentUsable.keeps takes.keeps takes.within) movedApart
    generalize out.2.chainFor sheet parent = made at finds ⊢
    obtain ⟨nested, nests⟩ := nests finds.grove finds.member finds.isChain
      (finds.apart takes movedApart)
    have parts : Parts _ _ _ _ _ _ _ _ _ _ _ _ _ _ _ _ :=
      ⟨grove, parentUsable.made, apart, takes, finds, nests⟩
    rw [topStyles_nest]
    refine ⟨nested, made.1, nests.grove, parts.moves, parts.denoted_perm, ?_, ?_⟩
    · apply nests.grove.lists.mem_of_child (nests.within made.1 finds.member finds.isChain)
      rw [nests.children, if_pos rfl]
      exact List.mem_append_right _ (List.mem_singleton_self _)
    · intro id isListed isChain
      have chainTaken := (takes.keeps.isChain (made_of_isChain isChain)).trans isChain
      have chainFound := (finds.keeps.isChain (made_of_isChain chainTaken)).trans chainTaken
      exact nests.within id (finds.within id (takes.within id isListed) chainTaken) chainFound

/-- What a call of the sheet may be given: a plain style, or the result of an earlier call. -/
def Given (scene : Scene ε) (handles : List StyleId) (id : StyleId) : Prop :=
  scene.styles.IsPlain id ∨ id ∈ handles

/-- The sheet was empty once, and since then plain styles were registered and chained. `handles` are
the results of all calls, and `used` are the plain styles that were registered or chained without being
refused. -/
inductive Assembled (sheet : SheetId) : Scene ε → List StyleId → List StyleId → Prop where
  | empty {scene : Scene ε} (isSheet : (scene.sheet? sheet).isSome = true)
    (noStyles : scene.topStyles sheet = []) : Assembled sheet scene [] []
  /-- Making new styles, and whatever else leaves the sheet, its styles and plain styles alone. -/
  | elsewhere {before after : Scene ε} {handles used : List StyleId}
    (assembled : Assembled sheet before handles used)
    (isSheet : (after.sheet? sheet).isSome = true)
    (sameTops : after.topStyles sheet = before.topStyles sheet)
    (same : ∀ id, before.styles.Placed (before.topStyles sheet) id ∨ before.styles.IsPlain id →
      after.styles.get? id = before.styles.get? id) : Assembled sheet after handles used
  | register {scene : Scene ε} {handles used : List StyleId}
    (assembled : Assembled sheet scene handles used) {style : StyleId}
    (plain : scene.styles.IsPlain style) (unused : style ∉ used) :
    Assembled sheet (scene.register sheet style) handles (style :: used)
  | refused {scene : Scene ε} {handles used : List StyleId}
    (assembled : Assembled sheet scene handles used) {parent child : StyleId}
    (parentGiven : scene.Given handles parent) (childGiven : scene.Given handles child)
    (within : LiesWithin scene.styles (scene.topStyles sheet) parent child) :
    Assembled sheet (scene.chain sheet parent child).2
      ((scene.chain sheet parent child).1 :: handles) used
  | moved {scene : Scene ε} {handles used : List StyleId}
    (assembled : Assembled sheet scene handles used) {parent child : StyleId}
    (parentGiven : scene.Given handles parent) (childGiven : scene.Given handles child)
    (apart : ¬ LiesWithin scene.styles (scene.topStyles sheet) parent child) :
    Assembled sheet (scene.chain sheet parent child).2
      ((scene.chain sheet parent child).1 :: handles)
      ((used.insert (scene.styles.denoted child)).insert (scene.styles.denoted parent))

/-- What holds of a sheet throughout: its styles are a grove in which each used style has one place, and
the results of all calls can be given to further calls. -/
structure InOrder (scene : Scene ε) (sheet : SheetId) (handles used order : List StyleId) : Prop where
  isSheet : (scene.sheet? sheet).isSome = true
  grove : Grove scene.styles (scene.topStyles sheet) order
  denoted : (order.map scene.styles.denoted).Perm used
  usable : ∀ handle ∈ handles, Usable scene.styles order handle

namespace InOrder

variable {scene : Scene ε} {sheet : SheetId} {handles used order : List StyleId}
  {parent child : StyleId}

theorem usable_of_given (sheetInOrder : InOrder scene sheet handles used order) {id : StyleId}
    (given : scene.Given handles id) : Usable scene.styles order id :=
  given.elim Or.inl (sheetInOrder.usable id)

theorem elsewhere {after : Scene ε} (sheetInOrder : InOrder scene sheet handles used order)
    (isSheet : (after.sheet? sheet).isSome = true)
    (sameTops : after.topStyles sheet = scene.topStyles sheet)
    (same : ∀ id, scene.styles.Placed (scene.topStyles sheet) id ∨ scene.styles.IsPlain id →
      after.styles.get? id = scene.styles.get? id) : InOrder after sheet handles used order := by
  have listed : ∀ id ∈ order, after.styles.get? id = scene.styles.get? id :=
    fun id member => same id (Or.inl ((sheetInOrder.grove.mem_iff id).mp member))
  have plain : ∀ id, scene.styles.IsPlain id → after.styles.IsPlain id :=
    fun id isPlain => isPlain.of_same (same id (Or.inr isPlain))
  refine ⟨isSheet, ?_, ?_, ?_⟩
  · rw [sameTops]
    exact sheetInOrder.grove.of_same listed plain
  · rw [List.map_congr_left (fun id member => denoted_of_same (listed id member))]
    exact sheetInOrder.denoted
  · intro handle member
    refine (sheetInOrder.usable handle member).imp (plain handle) ?_
    rintro ⟨isChain, isListed⟩
    exact ⟨(isChain_of_same (listed handle isListed)).trans isChain, isListed⟩

theorem register (sheetInOrder : InOrder scene sheet handles used order) {style : StyleId}
    (plain : scene.styles.IsPlain style) (unused : style ∉ used) :
    ∃ grown, InOrder (scene.register sheet style) sheet handles (style :: used) grown := by
  have start : Grove scene.styles (scene.topStyles sheet ++ []) order := by
    rw [List.append_nil]
    exact sheetInOrder.grove
  obtain ⟨grown, grove, perm⟩ :=
    start.bring plain (fun member => unused (sheetInOrder.denoted.subset member))
  have self := denoted_of_not_isChain plain.notChain
  refine ⟨grown, ?_, ?_, ?_, ?_⟩
  · rw [isSome_sheet?_register]
    exact sheetInOrder.isSheet
  · rw [topStyles_register sheetInOrder.isSheet]
    exact grove
  · have mapped := perm.map scene.styles.denoted
    rw [List.map_cons, self] at mapped
    exact mapped.trans (sheetInOrder.denoted.cons style)
  · intro handle member
    exact (sheetInOrder.usable handle member).keeps (Keeps.refl scene.styles)
      (fun id isListed => perm.mem_iff.mpr (List.mem_cons_of_mem style isListed))

/-- The check of a call tells whether the parent lies within the child. -/
theorem liesWithin_iff (sheetInOrder : InOrder scene sheet handles used order)
    (parentGiven : scene.Given handles parent) (childGiven : scene.Given handles child) :
    LiesWithin scene.styles (scene.topStyles sheet) parent child ↔
      scene.RefusesChain sheet parent child :=
  (refusesChain_iff sheetInOrder.grove (sheetInOrder.usable_of_given parentGiven)
    (sheetInOrder.usable_of_given childGiven)).symm

/-- A call is refused if the parent lies within the child. The sheet stays as it was. -/
theorem refused (sheetInOrder : InOrder scene sheet handles used order)
    (parentGiven : scene.Given handles parent) (childGiven : scene.Given handles child)
    (within : LiesWithin scene.styles (scene.topStyles sheet) parent child) :
    (scene.chain sheet parent child).2 = scene.note (scene.chainRefusal parent child) ∧
      Usable scene.styles order (scene.chain sheet parent child).1 := by
  have childUsable := sheetInOrder.usable_of_given childGiven
  have refuses := (sheetInOrder.liesWithin_iff parentGiven childGiven).mp within
  obtain ⟨-, id, origin, same⟩ | ⟨allowed, -⟩ := chain_cases scene sheet parent child
  · rw [same]
    refine ⟨rfl, ?_⟩
    rcases origin with rfl | found
    · exact childUsable
    · obtain ⟨isListed, isChain, -⟩ := (chainOf?_eq_some_iff sheetInOrder.grove childUsable).mp found
      exact Or.inr ⟨isChain, isListed⟩
  · exact absurd refuses allowed

end InOrder

theorem Assembled.inOrder {sheet : SheetId} {scene : Scene ε} {handles used : List StyleId}
    (assembled : Assembled sheet scene handles used) :
    ∃ order, InOrder scene sheet handles used order := by
  induction assembled with
  | empty isSheet noStyles =>
      refine ⟨[], isSheet, ?_, List.Perm.refl [], fun _ member => absurd member List.not_mem_nil⟩
      rw [noStyles]
      exact Grove.empty _
  | elsewhere _ isSheet sameTops same ih =>
      obtain ⟨order, sheetInOrder⟩ := ih
      exact ⟨order, sheetInOrder.elsewhere isSheet sameTops same⟩
  | register _ plain unused ih =>
      obtain ⟨order, sheetInOrder⟩ := ih
      exact sheetInOrder.register plain unused
  | refused _ parentGiven childGiven within ih =>
      obtain ⟨order, sheetInOrder⟩ := ih
      obtain ⟨same, usable⟩ := sheetInOrder.refused parentGiven childGiven within
      refine ⟨order, ?_⟩
      rw [same]
      exact ⟨sheetInOrder.isSheet, sheetInOrder.grove, sheetInOrder.denoted,
        List.forall_mem_cons.mpr ⟨usable, sheetInOrder.usable⟩⟩
  | moved _ parentGiven childGiven apart ih =>
      obtain ⟨order, sheetInOrder⟩ := ih
      obtain ⟨nested, _, grove, moves, perm, member, within⟩ := chain_moves sheetInOrder.grove
        sheetInOrder.isSheet (sheetInOrder.usable_of_given parentGiven)
        (sheetInOrder.usable_of_given childGiven) apart
      refine ⟨nested, ?_, grove, ?_, ?_⟩
      · rw [isSome_sheet?_chain]
        exact sheetInOrder.isSheet
      · exact perm.trans ((sheetInOrder.denoted.insert _).insert _)
      · rw [List.forall_mem_cons]
        refine ⟨Or.inr ⟨moves.childStands.isChain, member⟩, ?_⟩
        intro handle isHandle
        rcases sheetInOrder.usable handle isHandle with plain | ⟨isChain, isListed⟩
        · exact Or.inl (moves.keeps.isPlain plain)
        · exact Or.inr ⟨(moves.keeps.isChain (made_of_isChain isChain)).trans isChain,
            within handle isListed isChain⟩

/-- Each used style has one place, at the top or wrapped by one chain. A call whose parent lies within
its child is refused; any other call moves the child below the parent and moves nothing else. -/
theorem assembled_chain_moves_or_refuses {sheet : SheetId} {scene : Scene ε}
    {handles used : List StyleId} (assembled : Assembled sheet scene handles used) :
    (∃ order, Grove scene.styles (scene.topStyles sheet) order ∧
      (order.map scene.styles.denoted).Perm used) ∧
    (∀ style ∈ used, ∃! place, scene.styles.Placed (scene.topStyles sheet) place ∧
      (place = style ∧ place ∈ scene.topStyles sheet ∨
        scene.styles.wrapped? place = some style)) ∧
    ∀ parent child, scene.Given handles parent → scene.Given handles child →
      (LiesWithin scene.styles (scene.topStyles sheet) parent child →
        (scene.chain sheet parent child).2 = scene.note (scene.chainRefusal parent child)) ∧
      (¬ LiesWithin scene.styles (scene.topStyles sheet) parent child →
        ∃ parentChain, Moves scene.styles (scene.topStyles sheet) parent child
          (scene.chain sheet parent child).2.styles
          ((scene.chain sheet parent child).2.topStyles sheet) parentChain
          (scene.chain sheet parent child).1) := by
  obtain ⟨order, sheetInOrder⟩ := assembled.inOrder
  have grove := sheetInOrder.grove
  refine ⟨⟨order, grove, sheetInOrder.denoted⟩, ?_, ?_⟩
  · intro style isUsed
    exact grove.existsUnique_place (sheetInOrder.denoted.mem_iff.mpr isUsed)
  · intro parent child parentGiven childGiven
    constructor
    · exact fun within => (sheetInOrder.refused parentGiven childGiven within).1
    · intro apart
      obtain ⟨-, parentChain, -, moves, -⟩ := chain_moves grove sheetInOrder.isSheet
        (sheetInOrder.usable_of_given parentGiven) (sheetInOrder.usable_of_given childGiven) apart
      exact ⟨parentChain, moves⟩

theorem Assembled.liesWithin_iff {sheet : SheetId} {scene : Scene ε} {handles used : List StyleId}
    (assembled : Assembled sheet scene handles used) {parent child : StyleId}
    (parentGiven : scene.Given handles parent) (childGiven : scene.Given handles child) :
    LiesWithin scene.styles (scene.topStyles sheet) parent child ↔
      scene.RefusesChain sheet parent child := by
  obtain ⟨order, sheetInOrder⟩ := assembled.inOrder
  exact sheetInOrder.liesWithin_iff parentGiven childGiven

def plainTrio : Scene Unit :=
  let plain (mutation : Nat) : Style := ⟨.glob, .any, .plain ⟨mutation⟩⟩
  let sheet := (Scene.fresh ()).addSheet.2
  let made := (((sheet.addStyle (plain 0)).2.addStyle (plain 1)).2.addStyle (plain 2)).2
  (made.register ⟨0⟩ ⟨0⟩).register ⟨0⟩ ⟨1⟩

def chainedPair : Scene Unit := (plainTrio.chain ⟨0⟩ ⟨0⟩ ⟨1⟩).2

def chainedTrio : Scene Unit := (chainedPair.chain ⟨0⟩ ⟨4⟩ ⟨2⟩).2

/-- A fresh style goes below the result of an earlier call. After that the first style is refused below
the third one, whose place is below its own. -/
theorem chainedTrio_moves_and_refuses :
    Assembled ⟨0⟩ chainedPair [⟨4⟩] [⟨1⟩, ⟨0⟩] ∧
    (∃ parentChain, Moves chainedPair.styles (chainedPair.topStyles ⟨0⟩) ⟨4⟩ ⟨2⟩ chainedTrio.styles
      (chainedTrio.topStyles ⟨0⟩) parentChain ⟨5⟩) ∧
    Assembled ⟨0⟩ chainedTrio [⟨5⟩, ⟨4⟩] [⟨2⟩, ⟨1⟩, ⟨0⟩] ∧
    LiesWithin chainedTrio.styles (chainedTrio.topStyles ⟨0⟩) ⟨2⟩ ⟨0⟩ ∧
    (chainedTrio.chain ⟨0⟩ ⟨2⟩ ⟨0⟩).2 =
      chainedTrio.note (chainedTrio.chainRefusal ⟨2⟩ ⟨0⟩) := by
  have start : Assembled ⟨0⟩ plainTrio [] [⟨1⟩, ⟨0⟩] := by
    refine Assembled.register (Assembled.register (Assembled.empty ?_ ?_) ?_ ?_) ?_ ?_
    all_goals decide +kernel
  have first : plainTrio.Given [] ⟨0⟩ := Or.inl (by decide +kernel)
  have second : plainTrio.Given [] ⟨1⟩ := Or.inl (by decide +kernel)
  have pairApart : ¬ LiesWithin plainTrio.styles (plainTrio.topStyles ⟨0⟩) ⟨0⟩ ⟨1⟩ := by
    rw [start.liesWithin_iff first second]
    decide +kernel
  have pair : Assembled ⟨0⟩ chainedPair [⟨4⟩] [⟨1⟩, ⟨0⟩] := start.moved first second pairApart
  have result : chainedPair.Given [⟨4⟩] ⟨4⟩ := Or.inr (by decide)
  have third : chainedPair.Given [⟨4⟩] ⟨2⟩ := Or.inl (by decide +kernel)
  have trioApart : ¬ LiesWithin chainedPair.styles (chainedPair.topStyles ⟨0⟩) ⟨4⟩ ⟨2⟩ := by
    rw [pair.liesWithin_iff result third]
    decide +kernel
  have trio : Assembled ⟨0⟩ chainedTrio [⟨5⟩, ⟨4⟩] [⟨2⟩, ⟨1⟩, ⟨0⟩] :=
    pair.moved result third trioApart
  have lower : chainedTrio.Given [⟨5⟩, ⟨4⟩] ⟨2⟩ := Or.inl (by decide +kernel)
  have upper : chainedTrio.Given [⟨5⟩, ⟨4⟩] ⟨0⟩ := Or.inl (by decide +kernel)
  have within : LiesWithin chainedTrio.styles (chainedTrio.topStyles ⟨0⟩) ⟨2⟩ ⟨0⟩ := by
    rw [trio.liesWithin_iff lower upper]
    decide +kernel
  exact ⟨pair, ((assembled_chain_moves_or_refuses pair).2.2 _ _ result third).2 trioApart, trio,
    within, ((assembled_chain_moves_or_refuses trio).2.2 _ _ lower upper).1 within⟩

end StyledTree.Scene
