import StyledTree.Proofs.Scene.Nesting
import StyledTree.Proofs.Style.Grafting

set_option autoImplicit false

namespace StyledTree.Scene

open Styles

variable {ε : Type} {styles : Styles} {tops order : List StyleId}

def Usable (styles : Styles) (order : List StyleId) (id : StyleId) : Prop :=
  styles.IsPlain id ∨ styles.isChain id = true ∧ id ∈ order

namespace Usable

variable {id : StyleId}

theorem made (usable : Usable styles order id) : styles.Made id :=
  usable.elim IsPlain.made (fun chain => made_of_isChain chain.1)

theorem keeps (usable : Usable styles order id) {after : Styles} (keeps : Keeps styles after)
    {others : List StyleId} (within : ∀ met ∈ order, met ∈ others) : Usable after others id :=
  usable.imp keeps.isPlain
    (fun chain => ⟨(keeps.isChain (made_of_isChain chain.1)).trans chain.1, within id chain.2⟩)

end Usable

/-! Looking a style up. -/

/-- A style at the top is looked up by what it stands for. -/
theorem stands_iff (grove : Grove styles tops order) {style top : StyleId}
    (usable : Usable styles order style) (member : top ∈ order) :
    (top == style || styles.wraps top style) = true ↔
      styles.denoted top = styles.denoted style := by
  rw [Bool.or_eq_true, beq_iff_eq]
  rcases usable with plain | ⟨chain, isListed⟩
  · rw [grove.wraps_iff member, denoted_of_not_isChain plain.notChain]
    constructor
    · rintro (rfl | ⟨-, same⟩)
      · exact denoted_of_not_isChain plain.notChain
      · exact same
    · intro same
      cases kind : styles.isChain top with
      | true => exact Or.inr ⟨rfl, same⟩
      | false => exact Or.inl ((denoted_of_not_isChain kind).symm.trans same)
  · constructor
    · rintro (rfl | wraps)
      · rfl
      · -- What a chain of the grove wraps is plain, and this style is not.
        have inner := (grove.isPlain_denoted member).notChain
        rw [((grove.wraps_iff member).mp wraps).2, chain] at inner
        cases inner
    · intro same
      exact Or.inl (grove.eq_of_denoted member isListed same)

theorem find?_eq_some_iff_of_unique {α : Type} {items : List α} {test : α → Bool}
    (unique : ∀ one ∈ items, ∀ other ∈ items, test one = true → test other = true → one = other)
    {item : α} : items.find? test = some item ↔ item ∈ items ∧ test item = true := by
  constructor
  · exact fun found => ⟨List.mem_of_find?_eq_some found, List.find?_some found⟩
  · rintro ⟨member, accepted⟩
    obtain ⟨first, found⟩ :=
      Option.isSome_iff_exists.mp (List.find?_isSome.mpr ⟨item, member, accepted⟩)
    rw [found, unique first (List.mem_of_find?_eq_some found) item member (List.find?_some found)
      accepted]

theorem topFor?_eq_some_iff (grove : Grove styles tops order) {style top : StyleId}
    (usable : Usable styles order style) :
    topFor? styles tops style = some top ↔
      top ∈ tops ∧ styles.denoted top = styles.denoted style := by
  have stands : ∀ met ∈ tops, (met == style || styles.wraps met style) = true ↔
      styles.denoted met = styles.denoted style :=
    fun met member => stands_iff grove usable (grove.mem_of_top member)
  rw [topFor?, find?_eq_some_iff_of_unique]
  · exact and_congr_right (stands top)
  · intro one oneMember other otherMember oneStands otherStands
    exact grove.eq_of_denoted (grove.mem_of_top oneMember) (grove.mem_of_top otherMember)
      (((stands one oneMember).mp oneStands).trans ((stands other otherMember).mp otherStands).symm)

/-- The chain of a style is the chain of the grove that stands for the same plain style. -/
theorem chainOf?_eq_some_iff {scene : Scene ε} {sheet : SheetId}
    (grove : Grove scene.styles (scene.topStyles sheet) order) {style chain : StyleId}
    (usable : Usable scene.styles order style) :
    scene.chainOf? sheet style = some chain ↔
      chain ∈ order ∧ scene.styles.isChain chain = true ∧
        scene.styles.denoted chain = scene.styles.denoted style := by
  rw [chainOf?]
  rcases usable with plain | ⟨isChain, isListed⟩
  · have wraps : ∀ id ∈ order, scene.styles.wraps id style = true ↔
        scene.styles.isChain id = true ∧ scene.styles.denoted id = style :=
      fun id member => grove.wraps_iff member
    rw [plain.notChain, if_neg Bool.false_ne_true, grove.wrapperAmong?_eq,
      denoted_of_not_isChain plain.notChain, find?_eq_some_iff_of_unique]
    · exact and_congr_right (wraps chain)
    · intro one oneMember other otherMember oneWraps otherWraps
      exact grove.eq_of_denoted oneMember otherMember
        (((wraps one oneMember).mp oneWraps).2.trans ((wraps other otherMember).mp otherWraps).2.symm)
  · rw [if_pos isChain, Option.some.injEq]
    constructor
    · rintro rfl
      exact ⟨isListed, isChain, rfl⟩
    · rintro ⟨member, -, same⟩
      exact (grove.eq_of_denoted member isListed same).symm

/-- Only a plain style has no chain, and no chain of the grove stands for it then. -/
theorem no_chain {scene : Scene ε} {sheet : SheetId}
    (grove : Grove scene.styles (scene.topStyles sheet) order) {style : StyleId}
    (usable : Usable scene.styles order style) (noChain : scene.chainOf? sheet style = none) :
    scene.styles.IsPlain style ∧ ∀ id ∈ order, scene.styles.isChain id = true →
      scene.styles.denoted id ≠ scene.styles.denoted style := by
  have none : ∀ id ∈ order, scene.styles.isChain id = true →
      scene.styles.denoted id ≠ scene.styles.denoted style := by
    intro id isListed isChain same
    have found := (chainOf?_eq_some_iff grove usable).mpr ⟨isListed, isChain, same⟩
    rw [noChain] at found
    cases found
  exact ⟨usable.resolve_right (fun chain => none style chain.2 chain.1 rfl), none⟩

/-- Nothing at the top and no chain stands for the style: the style is plain, and nothing in the grove
stands for it. -/
theorem absent_of_lookups {scene : Scene ε} {sheet : SheetId}
    (grove : Grove scene.styles (scene.topStyles sheet) order) {style : StyleId}
    (usable : Usable scene.styles order style)
    (noTop : ∀ top ∈ scene.topStyles sheet,
      scene.styles.denoted top ≠ scene.styles.denoted style)
    (noChain : scene.chainOf? sheet style = none) :
    scene.styles.IsPlain style ∧
      scene.styles.denoted style ∉ order.map scene.styles.denoted := by
  obtain ⟨plain, none⟩ := no_chain grove usable noChain
  refine ⟨plain, fun member => ?_⟩
  obtain ⟨id, isListed, same⟩ := List.mem_map.mp member
  cases kind : scene.styles.isChain id with
  | true => exact none id isListed kind same
  | false => exact noTop id (grove.top_of_not_isChain isListed kind) same

/-! Taking the child out. -/

/-- The child is last at the top, with all that is below it, and nothing else has moved. -/
structure TakesOut (before : Styles) (tops order : List StyleId) (child : StyleId) (after : Styles)
    (kept : List StyleId) (moved : StyleId) (taken : List StyleId) : Prop where
  grove : Grove after (kept ++ [moved]) taken
  denoted : (taken.map after.denoted).Perm
    ((order.map before.denoted).insert (before.denoted child))
  keeps : Keeps before after
  made : ∀ id, after.Made id → before.Made id
  stands : before.denoted moved = before.denoted child
  kept : kept = tops.filter (fun top => before.denoted top != before.denoted child)
  children : ∀ id ∈ order, after.children id = (before.children id).erase moved
  elsewhere : ∀ id, id ∉ order → after.get? id = before.get? id
  within : ∀ id ∈ order, id ∈ taken
  only : ∀ id ∈ taken, id ∈ order ∨ id = moved
  origin : moved ∈ order ∨
    moved = child ∧ before.IsPlain child ∧ before.denoted child ∉ order.map before.denoted

theorem insert_denoted (styles : Styles) {id style : StyleId} (member : id ∈ order)
    (same : styles.denoted id = styles.denoted style) :
    (order.map styles.denoted).insert (styles.denoted style) = order.map styles.denoted :=
  List.insert_of_mem (same ▸ List.mem_map_of_mem member)

theorem filter_denoted {child : StyleId}
    (noTop : ∀ top ∈ tops, styles.denoted top ≠ styles.denoted child) :
    tops = tops.filter (fun top => styles.denoted top != styles.denoted child) := by
  symm
  rw [List.filter_eq_self]
  exact fun top member => bne_iff_ne.mpr (noTop top member)

/-- A style at the top is put last there. -/
theorem takesOut_top (grove : Grove styles tops order) {child top : StyleId} (member : top ∈ tops)
    (stands : styles.denoted top = styles.denoted child) :
    ∃ taken, TakesOut styles tops order child styles (tops.erase top) top taken := by
  have isListed := grove.mem_of_top member
  obtain ⟨taken, takenGrove, perm⟩ := grove.takeTop member
  refine ⟨taken, takenGrove, ?_, Keeps.refl _, fun _ made => made, stands, ?_, ?_, fun _ _ => rfl,
    fun id isMember => perm.mem_iff.mpr isMember, fun id isMember => Or.inl (perm.subset isMember),
    Or.inl isListed⟩
  · rw [insert_denoted styles isListed stands]
    exact perm.map _
  · rw [(grove.lists.nodup_nodes grove.nodup).erase_eq_filter]
    apply List.filter_congr
    intro other isTop
    rw [Bool.eq_iff_iff, bne_iff_ne, bne_iff_ne, ← stands]
    exact not_congr ⟨fun equal => congrArg _ equal,
      grove.eq_of_denoted (grove.mem_of_top isTop) isListed⟩
  · intro id isMember
    refine (List.erase_of_not_mem ?_).symm
    exact fun holds => grove.lists.not_mem_nodes_of_held grove.nodup isMember holds member

/-- A chain that is not at the top is lifted there. -/
theorem takesOut_below (grove : Grove styles tops order) {child held : StyleId}
    (isListed : held ∈ order) (stands : styles.denoted held = styles.denoted child)
    (noTop : ∀ top ∈ tops, styles.denoted top ≠ styles.denoted child) :
    ∃ taken, TakesOut styles tops order child (styles.detach tops held) tops held taken := by
  have notTop : held ∉ tops := fun isTop => noTop held isTop stands
  obtain ⟨taken, takenGrove, perm⟩ := grove.lift isListed notTop
  obtain ⟨-, -, -, children, others⟩ := grove.children_detach isListed notTop
  have keeps := Keeps.detach styles tops held
  refine ⟨taken, takenGrove, ?_, keeps, fun id made => (styles.made_detach_iff _ held id).mp made,
    stands, filter_denoted noTop, children, others, fun id isMember => perm.mem_iff.mpr isMember,
    fun id isMember => Or.inl (perm.subset isMember), Or.inl isListed⟩
  rw [insert_denoted styles isListed stands,
    keeps.map_denoted (fun id member => grove.made id (perm.subset member))]
  exact perm.map _

/-- A plain style that is nowhere in the sheet is brought to its top. -/
theorem takesOut_absent (grove : Grove styles tops order) {child : StyleId}
    (plain : styles.IsPlain child) (absent : styles.denoted child ∉ order.map styles.denoted) :
    ∃ taken, TakesOut styles tops order child styles tops child taken := by
  have grown : Grove styles (tops ++ []) order := by
    rw [List.append_nil]
    exact grove
  have self := denoted_of_not_isChain plain.notChain
  obtain ⟨taken, takenGrove, perm⟩ := grown.bring plain (self ▸ absent)
  have noTop : ∀ top ∈ tops, styles.denoted top ≠ styles.denoted child := by
    intro top member same
    exact absent (same ▸ List.mem_map_of_mem (grove.mem_of_top member))
  refine ⟨taken, takenGrove, ?_, Keeps.refl _, fun _ made => made, rfl, filter_denoted noTop, ?_,
    fun _ _ => rfl, fun id isMember => perm.mem_iff.mpr (List.mem_cons_of_mem _ isMember),
    fun id isMember => (List.mem_cons.mp (perm.subset isMember)).symm, Or.inr ⟨rfl, plain, absent⟩⟩
  · rw [List.insert_of_not_mem absent]
    have mapped := perm.map styles.denoted
    rwa [List.map_cons] at mapped
  · intro id isMember
    refine (List.erase_of_not_mem ?_).symm
    intro holds
    have chain := grove.nested id isMember child holds
    rw [plain.notChain] at chain
    cases chain

theorem takesOut {scene : Scene ε} {sheet : SheetId}
    (grove : Grove scene.styles (scene.topStyles sheet) order)
    (isSheet : (scene.sheet? sheet).isSome = true) {child : StyleId}
    (usable : Usable scene.styles order child) :
    ∃ taken, TakesOut scene.styles (scene.topStyles sheet) order child
      (scene.takeOut sheet child (scene.chainOf? sheet child)).2.styles
      ((scene.takeOut sheet child (scene.chainOf? sheet child)).2.topStyles sheet)
      (scene.takeOut sheet child (scene.chainOf? sheet child)).1 taken := by
  have noTop : topFor? scene.styles (scene.topStyles sheet) child = none →
      ∀ top ∈ scene.topStyles sheet,
        scene.styles.denoted top ≠ scene.styles.denoted child := by
    intro missing top member same
    have found := (topFor?_eq_some_iff grove usable).mpr ⟨member, same⟩
    rw [missing] at found
    cases found
  obtain ⟨top, found, same⟩ | ⟨missing, held, holds, same⟩ | ⟨missing, none, same⟩ :=
    takeOut_cases scene sheet child (scene.chainOf? sheet child)
  · obtain ⟨member, stands⟩ := (topFor?_eq_some_iff grove usable).mp found
    rw [same, topStyles_setTopStyles, if_pos ⟨rfl, isSheet⟩]
    exact takesOut_top grove member stands
  · obtain ⟨isListed, -, stands⟩ := (chainOf?_eq_some_iff grove usable).mp holds
    rw [same]
    exact takesOut_below grove isListed stands (noTop missing)
  · obtain ⟨plain, absent⟩ := absent_of_lookups grove usable (noTop missing) none
    rw [same]
    exact takesOut_absent grove plain absent

/-! Finding or making the chain of the parent. -/

/-- While one style waits last at the top, the style has got a chain: the one that it had, a new one in
its place, or a new one before the waiting style. -/
structure FindsChain (before : Styles) (tops order : List StyleId) (moved style : StyleId)
    (after : Styles) (others : List StyleId) (chain : StyleId) (found : List StyleId) : Prop where
  grove : Grove after (others ++ [moved]) found
  denoted : (found.map after.denoted).Perm
    ((order.map before.denoted).insert (before.denoted style))
  keeps : Keeps before after
  within : ∀ id ∈ order, before.isChain id = true → id ∈ found
  member : chain ∈ found
  isChain : after.isChain chain = true
  stands : after.denoted chain = before.denoted style
  origin : chain ∈ order ∨ ¬ before.Made chain ∧
    ∀ id ∈ order, before.isChain id = true → before.denoted id ≠ before.denoted style
  children : ∀ id, after.children id = before.children id
  elsewhere : ∀ id, before.Made id → after.get? id = before.get? id
  replaced : before.denoted style ∈ order.map before.denoted →
    others = tops.map (fun top =>
      if before.denoted top = before.denoted style then chain else top)
  appended : before.denoted style ∉ order.map before.denoted → others = tops ++ [chain]

section Finding

variable {moved style : StyleId}

/-- The style has a chain. -/
theorem findsChain_known (grove : Grove styles (tops ++ [moved]) order) {chain : StyleId}
    (member : chain ∈ order) (isChain : styles.isChain chain = true)
    (stands : styles.denoted chain = styles.denoted style) :
    FindsChain styles tops order moved style styles tops chain order := by
  have known : styles.denoted style ∈ order.map styles.denoted :=
    stands ▸ List.mem_map_of_mem member
  refine ⟨grove, ?_, Keeps.refl _, fun _ isMember _ => isMember, member, isChain, stands,
    Or.inl member, fun _ => rfl, fun _ _ => rfl, fun _ => ?_, fun absent => absurd known absent⟩
  · rw [insert_denoted styles member stands]
  · conv_lhs => rw [← List.map_id tops]
    apply List.map_congr_left
    intro top isTop
    split
    · next stood =>
      exact grove.eq_of_denoted (grove.mem_of_top (List.mem_append_left _ isTop)) member
        (stood.trans stands.symm)
    · rfl

/-- What holds once a new chain is in the place of a plain style that was at the top. -/
theorem findsChain_new {front back brought : List StyleId}
    (grove : Grove styles (front ++ style :: (back ++ [moved])) brought)
    (plain : styles.IsPlain style)
    (within : ∀ id ∈ order, styles.isChain id = true → id ∈ brought)
    (noChain : ∀ id ∈ order, styles.isChain id = true → styles.denoted id ≠ styles.denoted style)
    (perm : (brought.map styles.denoted).Perm
      ((order.map styles.denoted).insert (styles.denoted style)))
    (replaced : styles.denoted style ∈ order.map styles.denoted →
      front ++ (styles.wrap style).1 :: back = tops.map (fun top =>
        if styles.denoted top = styles.denoted style then (styles.wrap style).1 else top))
    (appended : styles.denoted style ∉ order.map styles.denoted →
      front ++ (styles.wrap style).1 :: back = tops ++ [(styles.wrap style).1]) :
    ∃ found, FindsChain styles tops order moved style (styles.wrap style).2
      (front ++ (styles.wrap style).1 :: back) (styles.wrap style).1 found := by
  have wrapping := wrapping plain.made
  have self := denoted_of_not_isChain plain.notChain
  obtain ⟨found, foundGrove, same, kept⟩ := grove.wrapTop plain.notChain
  refine ⟨found, ?_, ?_, wrapping.keeps, ?_, foundGrove.mem_of_top (by simp), wrapping.isChain,
    wrapping.denoted.trans self.symm, Or.inr ⟨wrapping.fresh, noChain⟩, wrapping.children,
    wrapping.elsewhere, replaced, appended⟩
  · rw [List.append_assoc, List.cons_append]
    exact foundGrove
  · rw [same]
    exact perm
  · intro id isMember isChain
    apply kept id (within id isMember isChain)
    rintro rfl
    rw [plain.notChain] at isChain
    cases isChain

/-- The style is at the top itself, and its new chain is in its place. -/
theorem findsChain_inPlace (grove : Grove styles (tops ++ [moved]) order)
    (plain : styles.IsPlain style) (isTop : style ∈ tops) :
    ∃ found, FindsChain styles tops order moved style (styles.wrap style).2
      (tops.replace style (styles.wrap style).1) (styles.wrap style).1 found := by
  have member := grove.mem_of_top (List.mem_append_left [moved] isTop)
  have onlyOne : ∀ id ∈ order, id ≠ style → styles.denoted id ≠ styles.denoted style :=
    fun id isListed differ stands => differ (grove.eq_of_denoted isListed member stands)
  have once := (List.nodup_append.mp (grove.lists.nodup_nodes grove.nodup)).1
  obtain ⟨front, back, rfl⟩ := List.append_of_mem isTop
  rw [List.nodup_middle, List.nodup_cons, List.mem_append, not_or] at once
  rw [List.replace_append_right once.1.1, List.replace_cons_self]
  refine findsChain_new ?_ plain (fun _ isListed _ => isListed) ?_ ?_ ?_ ?_
  · simpa using grove
  · intro id isListed isChain
    apply onlyOne id isListed
    rintro rfl
    rw [plain.notChain] at isChain
    cases isChain
  · rw [insert_denoted styles member rfl]
  · intro _
    have unchanged : ∀ part : List StyleId, (∀ top ∈ part, top ∈ order ∧ top ≠ style) →
        part.map (fun top => if styles.denoted top = styles.denoted style then
          (styles.wrap style).1 else top) = part := by
      intro part within
      conv_rhs => rw [← List.map_id part]
      apply List.map_congr_left
      intro top isPart
      exact if_neg (onlyOne top (within top isPart).1 (within top isPart).2)
    have listed : ∀ top ∈ front ++ back, top ∈ order ∧ top ≠ style := by
      intro top isOther
      constructor
      · apply grove.mem_of_top
        rw [List.mem_append, List.mem_append, List.mem_cons]
        rw [List.mem_append] at isOther
        tauto
      · rintro rfl
        exact (List.mem_append.mp isOther).elim once.1.1 once.1.2
    rw [List.forall_mem_append] at listed
    rw [List.map_append, List.map_cons, if_pos rfl, unchanged front listed.1,
      unchanged back listed.2]
  · exact fun absent => absurd (List.mem_map_of_mem member) absent

/-- Nothing stands for the style; its new chain is at the end of the sheet. -/
theorem findsChain_atEnd (grove : Grove styles (tops ++ [moved]) order)
    (plain : styles.IsPlain style) (absent : styles.denoted style ∉ order.map styles.denoted) :
    ∃ found, FindsChain styles tops order moved style (styles.wrap style).2
      (tops ++ [(styles.wrap style).1]) (styles.wrap style).1 found := by
  have self := denoted_of_not_isChain plain.notChain
  obtain ⟨brought, broughtGrove, perm⟩ := grove.bring plain (self ▸ absent)
  refine findsChain_new broughtGrove plain ?_ ?_ ?_ (fun known => absurd known absent) (fun _ => rfl)
  · exact fun id isListed _ => perm.mem_iff.mpr (List.mem_cons_of_mem style isListed)
  · exact fun id isListed _ stands => absent (stands ▸ List.mem_map_of_mem isListed)
  · rw [List.insert_of_not_mem absent]
    have mapped := perm.map styles.denoted
    rwa [List.map_cons] at mapped

end Finding

theorem findsChain {scene : Scene ε} {sheet : SheetId} {moved style : StyleId}
    (grove : Grove scene.styles (scene.topStyles sheet ++ [moved]) order)
    (isSheet : (scene.sheet? sheet).isSome = true) (usable : Usable scene.styles order style)
    (apart : ∀ id, scene.styles.Placed [moved] id →
      scene.styles.denoted id ≠ scene.styles.denoted style) :
    ∃ found, FindsChain scene.styles (scene.topStyles sheet) order moved style
      (scene.chainFor sheet style).2.styles ((scene.chainFor sheet style).2.topStyles sheet)
      (scene.chainFor sheet style).1 found := by
  obtain ⟨front, back, rfl, frontGrove, backGrove⟩ := grove.split_last
  have inFront : ∀ id ∈ front ++ back,
      scene.styles.denoted id = scene.styles.denoted style → id ∈ front := by
    intro id member same
    refine (List.mem_append.mp member).resolve_right ?_
    exact fun isBack => apart id ((backGrove.mem_iff id).mp isBack) same
  have usableFront : Usable scene.styles front style :=
    usable.imp_right (fun chain => ⟨chain.1, inFront style chain.2 rfl⟩)
  obtain ⟨chain, holds, same⟩ | ⟨none, chainIs, stylesAre, topsAre⟩ :=
    chainFor_cases scene sheet style
  · obtain ⟨member, isChain, stands⟩ := (chainOf?_eq_some_iff frontGrove usableFront).mp holds
    rw [same]
    exact ⟨_, findsChain_known grove (List.mem_append_left back member) isChain stands⟩
  · obtain ⟨plain, noChain⟩ := no_chain frontGrove usableFront none
    rw [chainIs, stylesAre, topsAre sheet, if_pos ⟨rfl, isSheet⟩]
    by_cases isTop : style ∈ scene.topStyles sheet
    · rw [if_pos (List.contains_iff_mem.mpr isTop)]
      exact findsChain_inPlace grove plain isTop
    · have noTop : ∀ top ∈ scene.topStyles sheet,
          scene.styles.denoted top ≠ scene.styles.denoted style := by
        intro top member stands
        cases kind : scene.styles.isChain top with
        | true => exact noChain top (frontGrove.mem_of_top member) kind stands
        | false =>
            rw [denoted_of_not_isChain kind, denoted_of_not_isChain plain.notChain] at stands
            exact isTop (stands ▸ member)
      have absent := (absent_of_lookups frontGrove usableFront noTop none).2
      rw [if_neg (fun held => isTop (List.contains_iff_mem.mp held))]
      apply findsChain_atEnd grove plain
      intro known
      obtain ⟨id, member, stands⟩ := List.mem_map.mp known
      exact absent (stands ▸ List.mem_map_of_mem (inFront id member stands))

/-! Nesting the child. -/

/-- The style that was last at the top, or a new chain for it, is the last child of the parent. -/
structure Nests (before : Styles) (tops order : List StyleId) (parent moved : StyleId)
    (after : Styles) (child : StyleId) (nested : List StyleId) : Prop where
  grove : Grove after tops nested
  denoted : (nested.map after.denoted).Perm (order.map before.denoted)
  keeps : Keeps before after
  within : ∀ id ∈ order, before.isChain id = true → id ∈ nested
  isChain : after.isChain child = true
  stands : after.denoted child = before.denoted moved
  origin : before.isChain moved = true ∧ child = moved ∨
    before.isChain moved = false ∧ ¬ before.Made child
  children : ∀ id, after.children id =
    before.children id ++ if id = parent then [child] else []
  elsewhere : ∀ id, before.Made id → id ≠ parent → after.get? id = before.get? id

theorem get?_append_of_ne (styles : Styles) {parent child id : StyleId} (differ : id ≠ parent) :
    (styles.append parent child).get? id = styles.get? id := by
  rw [Styles.append, get?_update, if_neg differ]

/-- Linking a chain that waits last at the top. -/
theorem nests_chain {child parent : StyleId} (grove : Grove styles (tops ++ [child]) order)
    (member : parent ∈ order) (parentChain : styles.isChain parent = true)
    (childChain : styles.isChain child = true) (apart : ¬ styles.Placed [child] parent) :
    ∃ nested, Nests styles tops order parent child (styles.append parent child) child nested := by
  obtain ⟨nested, nestedGrove, perm⟩ := grove.link member parentChain childChain apart
  have keeps : Keeps styles (styles.append parent child) := Keeps.updateSheets styles parent _
  have childMade := made_of_isChain childChain
  refine ⟨nested, nestedGrove, ?_, keeps, fun id isMember _ => perm.mem_iff.mpr isMember,
    (keeps.isChain childMade).trans childChain,
    keeps.denoted childMade, Or.inl ⟨childChain, rfl⟩, ?_, fun id _ differ =>
      get?_append_of_ne styles differ⟩
  · rw [keeps.map_denoted (fun id isNested => grove.made id (perm.subset isNested))]
    exact perm.map _
  · intro id
    rw [children_append]
    by_cases atParent : id = parent
    · rw [if_pos ⟨atParent, parentChain⟩, if_pos atParent]
    · rw [if_neg (fun both => atParent both.1), if_neg atParent, List.append_nil]

/-- A plain style that waits last at the top gets a chain, and that is linked. -/
theorem nests_plain {moved parent : StyleId} (grove : Grove styles (tops ++ [moved]) order)
    (member : parent ∈ order) (parentChain : styles.isChain parent = true)
    (kind : styles.isChain moved = false) :
    ∃ wrapped nested, Grove (styles.wrap moved).2 (tops ++ [(styles.wrap moved).1]) wrapped ∧
      Nests styles tops order parent moved ((styles.wrap moved).2.append parent (styles.wrap moved).1)
        (styles.wrap moved).1 nested := by
  have wrapping := wrapping (grove.made moved (grove.mem_of_top (by simp)))
  have parentMade := grove.made parent member
  have differ : ∀ id, styles.isChain id = true → id ≠ moved := by
    rintro id isChain rfl
    rw [kind] at isChain
    cases isChain
  obtain ⟨wrapped, wrappedGrove, same, kept⟩ := grove.wrapTop kind
  obtain ⟨nested, nests⟩ := nests_chain wrappedGrove
    (kept parent member (differ parent parentChain))
    ((wrapping.keeps.isChain parentMade).trans parentChain) wrapping.isChain
    (wrapping.apart parentMade)
  refine ⟨wrapped, nested, wrappedGrove, nests.grove, ?_, wrapping.keeps.trans nests.keeps, ?_,
    nests.isChain, ?_, Or.inr ⟨kind, wrapping.fresh⟩, ?_, ?_⟩
  · rw [← same]
    exact nests.denoted
  · intro id isMember isChain
    apply nests.within id (kept id isMember (differ id isChain))
    rw [wrapping.keeps.isChain (grove.made id isMember)]
    exact isChain
  · rw [nests.stands, wrapping.denoted, denoted_of_not_isChain kind]
  · exact fun id => wrapping.children id ▸ nests.children id
  · intro id made notParent
    rw [nests.elsewhere id (wrapping.keeps.made made) notParent]
    exact wrapping.elsewhere id made

theorem nests {scene : Scene ε} {sheet : SheetId} {moved parent : StyleId}
    (grove : Grove scene.styles (scene.topStyles sheet ++ [moved]) order)
    (member : parent ∈ order) (parentChain : scene.styles.isChain parent = true)
    (apart : ¬ scene.styles.Placed [moved] parent) :
    ∃ nested, Nests scene.styles (scene.topStyles sheet) order parent moved
      (scene.nest parent moved).2.styles (scene.nest parent moved).1 nested := by
  have notRefused : ∀ {styles : Styles} {child : StyleId} {order : List StyleId},
      Grove styles (scene.topStyles sheet ++ [child]) order → ¬ styles.Placed [child] parent →
        ¬ (child = parent ∨ styles.reaches child parent = true) := by
    intro styles child order grove apart refused
    apply apart
    rw [grove.reaches_iff (grove.mem_of_top (by simp))] at refused
    exact ⟨child, List.mem_singleton_self child, refused.imp_left Eq.symm⟩
  rw [nest_fst, styles_nest]
  rcases scene.styles.asChain_cases moved with ⟨kind, same⟩ | ⟨kind, same⟩
  · rw [same, if_neg (notRefused grove apart)]
    exact nests_chain grove member parentChain kind apart
  · obtain ⟨wrapped, nested, wrappedGrove, nests⟩ := nests_plain grove member parentChain kind
    have made := grove.made moved (grove.mem_of_top (by simp))
    rw [same, if_neg (notRefused wrappedGrove ((wrapping made).apart (grove.made parent member)))]
    exact ⟨nested, nests⟩

end StyledTree.Scene
