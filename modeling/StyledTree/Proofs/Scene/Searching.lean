import StyledTree.Scene.Building
import StyledTree.Proofs.Forest.Shape

set_option autoImplicit false

namespace StyledTree

namespace Forest

/-- The widgets on the way outward from a widget, which comes first; nobody comes after the last one. -/
def outward (forest : Forest) (widget : WidgetId) : Nat → Option WidgetId
  | 0 => some widget
  | count + 1 => (forest.outward widget count).bind forest.container?

def factoryAt? (forest : Forest) (view : View) (widget : WidgetId) : Option HandlerId :=
  (forest.get? widget).bind (fun node => node.factory? view)

def Bare (forest : Forest) (view : View) (widget : WidgetId) (count : Nat) : Prop :=
  ∀ earlier < count, ∀ met, forest.outward widget earlier = some met →
    forest.factoryAt? view met = none

/-- The first widget on the way outward that has a factory has this one, and so many come before it. -/
structure MeetsFactory (forest : Forest) (view : View) (widget : WidgetId) (count : Nat)
    (handler : HandlerId) : Prop where
  bare : forest.Bare view widget count
  meets : ∃ met, forest.outward widget count = some met ∧
    forest.factoryAt? view met = some handler

structure RunsOut (forest : Forest) (view : View) (widget : WidgetId) (count : Nat) : Prop where
  bare : forest.Bare view widget count
  ended : forest.outward widget count = none

/-- After so many widgets, all different, the way outward comes back to one of them, before a factory is
met. -/
structure ComesBack (forest : Forest) (view : View) (widget : WidgetId) (count : Nat)
    (met : WidgetId) : Prop where
  bare : forest.Bare view widget count
  apart : ∀ later < count, ∀ earlier < later,
    forest.outward widget earlier ≠ forest.outward widget later
  again : forest.outward widget count = some met
  before : ∃ earlier < count, forest.outward widget earlier = some met

def IsNearestFactory (forest : Forest) (view : View) (widget : WidgetId) (handler : HandlerId) :
    Prop :=
  ∃ count, forest.MeetsFactory view widget count handler

section Outward

variable {forest : Forest} {view : View} {widget : WidgetId}

theorem outward_add_eq_none {count : Nat} (ended : forest.outward widget count = none) (more : Nat) :
    forest.outward widget (count + more) = none := by
  induction more with
  | zero => exact ended
  | succ more ih =>
      show (forest.outward widget (count + more)).bind forest.container? = none
      rw [ih]
      rfl

/-- The way goes on alike from equal widgets. -/
theorem outward_add_congr {first second : Nat}
    (same : forest.outward widget first = forest.outward widget second) (more : Nat) :
    forest.outward widget (first + more) = forest.outward widget (second + more) := by
  induction more with
  | zero => exact same
  | succ more ih =>
      show (forest.outward widget (first + more)).bind forest.container? =
        (forest.outward widget (second + more)).bind forest.container?
      rw [ih]

/-- Whoever is met after the way came back was met before. -/
theorem ComesBack.exists_earlier {count : Nat} {met : WidgetId}
    (back : forest.ComesBack view widget count met) (step : Nat) :
    ∃ earlier < count, forest.outward widget step = forest.outward widget earlier := by
  induction step using Nat.strongRecOn with
  | ind step ih =>
      by_cases inside : step < count
      · exact ⟨step, inside, rfl⟩
      · -- once round the loop fewer, the way is at the same widget
        obtain ⟨earlier, first, same⟩ := back.before
        have round := outward_add_congr (back.again.trans same.symm) (step - count)
        rw [Nat.add_sub_cancel' (by omega)] at round
        obtain ⟨other, before, equal⟩ := ih (earlier + (step - count)) (by omega)
        exact ⟨other, before, round.trans equal⟩

/-- If the way ends or comes back without a factory, then nobody on the whole way has one. -/
theorem RunsOut.bare_all {count : Nat} (out : forest.RunsOut view widget count) (step : Nat) :
    forest.Bare view widget step := by
  intro earlier _ met here
  apply out.bare earlier _ met here
  by_contra beyond
  have ended := outward_add_eq_none out.ended (earlier - count)
  rw [Nat.add_sub_cancel' (by omega), here] at ended
  cases ended

theorem ComesBack.bare_all {count : Nat} {met : WidgetId}
    (back : forest.ComesBack view widget count met) (step : Nat) :
    forest.Bare view widget step := by
  intro later _ other here
  obtain ⟨earlier, before, same⟩ := back.exists_earlier later
  exact back.bare earlier before other (same.symm.trans here)

theorem MeetsFactory.not_bare {count : Nat} {handler : HandlerId}
    (meets : forest.MeetsFactory view widget count handler)
    (bare : ∀ step, forest.Bare view widget step) : False := by
  obtain ⟨met, here, has⟩ := meets.meets
  rw [bare (count + 1) count (Nat.lt_succ_self count) met here] at has
  cases has

theorem MeetsFactory.unique {first second : Nat} {handler other : HandlerId}
    (one : forest.MeetsFactory view widget first handler)
    (two : forest.MeetsFactory view widget second other) : handler = other := by
  obtain ⟨met, here, has⟩ := one.meets
  obtain ⟨met', here', has'⟩ := two.meets
  rcases Nat.lt_trichotomy first second with earlier | rfl | later
  · rw [two.bare first earlier met here] at has
    cases has
  · obtain rfl := Option.some.inj (here.symm.trans here')
    exact Option.some.inj (has.symm.trans has')
  · rw [one.bare second later met' here'] at has'
    cases has'

/-- The nearest factory is the same wherever the way outward and the factories on it are. -/
theorem IsNearestFactory.congr {other : Forest} {handler : HandlerId}
    (containers : ∀ widget, other.container? widget = forest.container? widget)
    (factories : ∀ widget, other.factoryAt? view widget = forest.factoryAt? view widget)
    (nearest : forest.IsNearestFactory view widget handler) :
    other.IsNearestFactory view widget handler := by
  have sameWay : ∀ count, other.outward widget count = forest.outward widget count := by
    intro count
    induction count with
    | zero => rfl
    | succ count ih =>
        rw [outward, outward, ih]
        exact congrArg _ (funext containers)
  obtain ⟨count, bare, met, here, has⟩ := nearest
  refine ⟨count, fun earlier before between there => ?_, met, (sameWay count).trans here,
    (factories met).trans has⟩
  rw [factories]
  exact bare earlier before between ((sameWay earlier).symm.trans there)

theorem IsNearestFactory.not_comesBack {handler : HandlerId} {count : Nat} {met : WidgetId}
    (nearest : forest.IsNearestFactory view widget handler)
    (back : forest.ComesBack view widget count met) : False := by
  obtain ⟨_, meets⟩ := nearest
  exact meets.not_bare back.bare_all

theorem ComesBack.unique {first second : Nat} {met other : WidgetId}
    (one : forest.ComesBack view widget first met) (two : forest.ComesBack view widget second other) :
    met = other := by
  have ordered : ∀ {first second : Nat} {met other : WidgetId},
      forest.ComesBack view widget first met → forest.ComesBack view widget second other →
        ¬ first < second := by
    intro first second met other one two shorter
    obtain ⟨earlier, before, same⟩ := one.before
    exact two.apart first shorter earlier before (same.trans one.again.symm)
  have same : first = second := by
    have := ordered one two
    have := ordered two one
    omega
  subst same
  exact Option.some.inj (one.again.symm.trans two.again)

/-- A way that ends does not come back. -/
theorem RunsOut.not_comesBack {count round : Nat} {met : WidgetId}
    (out : forest.RunsOut view widget count) (back : forest.ComesBack view widget round met) :
    False := by
  obtain ⟨earlier, before, same⟩ := back.exists_earlier count
  have ended := outward_add_eq_none (same.symm.trans out.ended) (round - earlier)
  rw [Nat.add_sub_cancel' (by omega), back.again] at ended
  cases ended

end Outward

/-- What a search from a widget may come to, after as many steps as there are places at most. -/
inductive SearchTells (forest : Forest) (view : View) (widget : WidgetId) : FactorySearch → Prop where
  | found {count : Nat} {handler : HandlerId} (bounded : count ≤ forest.nodes.size + 1)
    (meets : forest.MeetsFactory view widget count handler) :
    SearchTells forest view widget (.found handler)
  | absent {count : Nat} (bounded : count ≤ forest.nodes.size + 1)
    (out : forest.RunsOut view widget count) : SearchTells forest view widget .absent
  | loop {count : Nat} {met : WidgetId} (bounded : count ≤ forest.nodes.size + 1)
    (back : forest.ComesBack view widget count met) : SearchTells forest view widget (.loop met)

/-- A search that set out from a widget and is about to look at another. The widgets that it has seen are
those that come before on the way, all different, and none of them has a factory. -/
structure Searching (forest : Forest) (view : View) (start : WidgetId) (seen : List WidgetId)
    (widget : WidgetId) : Prop where
  here : forest.outward start seen.length = some widget
  seen_iff : ∀ met, met ∈ seen ↔ ∃ earlier < seen.length, forest.outward start earlier = some met
  distinct : seen.Nodup
  live : ∀ met ∈ seen, forest.contains met = true
  bare : forest.Bare view start seen.length
  apart : ∀ later < seen.length, ∀ earlier < later,
    forest.outward start earlier ≠ forest.outward start later

theorem contains_of_container? {forest : Forest} {widget next : WidgetId}
    (leads : forest.container? widget = some next) : forest.contains widget = true := by
  cases found : forest.get? widget with
  | none =>
      rw [container?, parent?, pending?, found] at leads
      cases leads
  | some node =>
      rw [contains, found]
      rfl

namespace Searching

variable {forest : Forest} {view : View} {start widget : WidgetId} {seen : List WidgetId}

theorem initial (forest : Forest) (view : View) (start : WidgetId) :
    forest.Searching view start [] start where
  here := rfl
  seen_iff met := by simp
  distinct := List.nodup_nil
  live := nofun
  bare := nofun
  apart := nofun

theorem length_le (searching : forest.Searching view start seen widget) :
    seen.length ≤ forest.nodes.size :=
  length_le_of_nodup searching.distinct searching.live

theorem next (searching : forest.Searching view start seen widget) :
    forest.outward start (seen.length + 1) = forest.container? widget := by
  rw [outward, searching.here]
  rfl

/-- A widget without a factory of its own is one more of those that have none. -/
theorem bare_succ (searching : forest.Searching view start seen widget)
    (lacks : forest.factoryAt? view widget = none) : forest.Bare view start (seen.length + 1) := by
  intro earlier before met there
  rcases Nat.lt_succ_iff_lt_or_eq.mp before with inside | rfl
  · exact searching.bare earlier inside met there
  · rwa [← Option.some.inj (searching.here.symm.trans there)]

/-- The search goes on in the container of a widget that it has not seen and that has no factory. -/
theorem pass (searching : forest.Searching view start seen widget) (unseen : widget ∉ seen)
    (lacks : forest.factoryAt? view widget = none) {container : WidgetId}
    (leads : forest.container? widget = some container) :
    forest.Searching view start (widget :: seen) container where
  here := searching.next.trans leads
  seen_iff met := by
    rw [List.mem_cons, List.length_cons, searching.seen_iff]
    constructor
    · rintro (rfl | ⟨earlier, before, there⟩)
      · exact ⟨seen.length, Nat.lt_succ_self _, searching.here⟩
      · exact ⟨earlier, Nat.lt_succ_of_lt before, there⟩
    · rintro ⟨earlier, before, there⟩
      rcases Nat.lt_succ_iff_lt_or_eq.mp before with inside | rfl
      · exact Or.inr ⟨earlier, inside, there⟩
      · exact Or.inl (Option.some.inj (there.symm.trans searching.here))
  distinct := List.nodup_cons.mpr ⟨unseen, searching.distinct⟩
  live met member := by
    rcases List.mem_cons.mp member with rfl | before
    · exact contains_of_container? leads
    · exact searching.live met before
  bare := searching.bare_succ lacks
  apart := by
    intro later before earlier first same
    rcases Nat.lt_succ_iff_lt_or_eq.mp before with inside | rfl
    · exact searching.apart later inside earlier first same
    · exact unseen ((searching.seen_iff widget).mpr ⟨earlier, first, same.trans searching.here⟩)

/-- The rest of a search, as long as it may take more steps than there are places left to be seen. -/
theorem tells {count : Nat} (searching : forest.Searching view start seen widget)
    (enough : forest.nodes.size < count + seen.length) :
    forest.SearchTells view start (forest.searchFactory view count seen widget) := by
  induction count generalizing seen widget with
  | zero =>
      -- all places would be seen already, and one more
      have := searching.length_le
      omega
  | succ count ih =>
      have bounded := searching.length_le
      rw [searchFactory]
      split
      · next again =>
        have member := List.contains_iff_mem.mp again
        exact .loop (by omega)
          ⟨searching.bare, searching.apart, searching.here, (searching.seen_iff widget).mp member⟩
      · next unseen =>
        rw [List.contains_iff_mem] at unseen
        split
        · next handler has =>
          exact .found (by omega) ⟨searching.bare, widget, searching.here, has⟩
        · next lacks =>
          split
          · next ended =>
            exact .absent (by omega) ⟨searching.bare_succ lacks, searching.next.trans ended⟩
          · next container leads =>
            apply ih (searching.pass unseen lacks leads)
            rw [List.length_cons]
            omega

end Searching

/-- The way outward decides what a search comes to. -/
theorem SearchTells.unique {forest : Forest} {view : View} {widget : WidgetId}
    {first second : FactorySearch} (one : forest.SearchTells view widget first)
    (two : forest.SearchTells view widget second) : first = second := by
  cases one with
  | found _ meets =>
      cases two with
      | found _ meets' => rw [meets.unique meets']
      | absent _ out => exact (meets.not_bare out.bare_all).elim
      | loop _ back => exact (meets.not_bare back.bare_all).elim
  | absent _ out =>
      cases two with
      | found _ meets => exact (meets.not_bare out.bare_all).elim
      | absent _ _ => rfl
      | loop _ back => exact (out.not_comesBack back).elim
  | loop _ back =>
      cases two with
      | found _ meets => exact (meets.not_bare back.bare_all).elim
      | absent _ out => exact (out.not_comesBack back).elim
      | loop _ back' => rw [back.unique back']

/-- The search tells what is on the way, and more steps would not tell anything else. -/
theorem searchTells_searchFactory (forest : Forest) (view : View) (widget : WidgetId) (more : Nat) :
    forest.SearchTells view widget
      (forest.searchFactory view (forest.nodes.size + 1 + more) [] widget) :=
  (Searching.initial forest view widget).tells (by rw [List.length_nil]; omega)

theorem searchTells_factoryFor (forest : Forest) (view : View) (widget : WidgetId) :
    forest.SearchTells view widget (forest.factoryFor view widget) :=
  forest.searchTells_searchFactory view widget 0

end Forest

namespace Scene

variable {ε : Type}

/-- The factory for a view that a widget is told of is the nearest one on the way outward, and there is
none exactly if the way ends or comes back without a factory. Only in the latter case the journal hears of
it, by the widget that was met for the second time. -/
structure FindsNearest (view : View) (widget : WidgetId) (scene : Scene ε)
    (result : Option HandlerId × Scene ε) : Prop where
  some_iff : ∀ handler, result.1 = some handler ↔
    scene.forest.IsNearestFactory view widget handler
  none_iff : result.1 = none ↔ ∃ count, scene.forest.RunsOut view widget count ∨
    ∃ met, scene.forest.ComesBack view widget count met
  /-- The outcome is certain after as many steps as there are places at most. -/
  bounded : ∃ count ≤ scene.forest.nodes.size + 1,
    (∃ handler, scene.forest.MeetsFactory view widget count handler) ∨
      scene.forest.RunsOut view widget count ∨ ∃ met, scene.forest.ComesBack view widget count met
  quiet : (∀ count met, ¬ scene.forest.ComesBack view widget count met) → result.2 = scene
  warns : ∀ count met, scene.forest.ComesBack view widget count met →
    result.2 = scene.note (.factoryLoop (scene.describe met))

theorem findsNearest_factoryFor (scene : Scene ε) (view : View) (widget : WidgetId) :
    FindsNearest view widget scene (scene.factoryFor view widget) := by
  have tells := scene.forest.searchTells_factoryFor view widget
  rw [Scene.factoryFor]
  generalize scene.forest.factoryFor view widget = outcome at tells
  cases tells with
  | found bounded meets =>
      constructor
      case some_iff =>
        intro handler
        constructor
        · rintro ⟨⟩
          exact ⟨_, meets⟩
        · rintro ⟨_, meets'⟩
          rw [meets.unique meets']
      case none_iff =>
        refine iff_of_false nofun ?_
        rintro ⟨_, out | ⟨_, back⟩⟩
        · exact meets.not_bare out.bare_all
        · exact meets.not_bare back.bare_all
      case bounded => exact ⟨_, bounded, Or.inl ⟨_, meets⟩⟩
      case quiet => exact fun _ => rfl
      case warns => exact fun count met back => (meets.not_bare back.bare_all).elim
  | absent bounded out =>
      constructor
      case some_iff =>
        refine fun handler => iff_of_false nofun ?_
        rintro ⟨_, meets⟩
        exact meets.not_bare out.bare_all
      case none_iff => exact iff_of_true rfl ⟨_, Or.inl out⟩
      case bounded => exact ⟨_, bounded, Or.inr (Or.inl out)⟩
      case quiet => exact fun _ => rfl
      case warns => exact fun count met back => (out.not_comesBack back).elim
  | loop bounded back =>
      constructor
      case some_iff =>
        refine fun handler => iff_of_false nofun ?_
        rintro ⟨_, meets⟩
        exact meets.not_bare back.bare_all
      case none_iff => exact iff_of_true rfl ⟨_, Or.inr ⟨_, back⟩⟩
      case bounded => exact ⟨_, bounded, Or.inr (Or.inr ⟨_, back⟩)⟩
      case quiet => exact fun quiet => (quiet _ _ back).elim
      case warns =>
        intro count met back'
        rw [back'.unique back]

/-- Calling for a factory always ends. It tells of the factory of the first widget that has one on the way
that leads from a widget to its parent, or else to the container that it is pending in. There is none
exactly if this way ends, or comes back to a widget that was met, before a factory is met; a way that
does neither meets a factory. -/
theorem factoryFor_finds_nearest (scene : Scene ε) (view : View) (widget : WidgetId) :
    FindsNearest view widget scene (scene.factoryFor view widget) ∧
      ∀ more, scene.forest.searchFactory view (scene.forest.nodes.size + 1 + more) [] widget =
        scene.forest.factoryFor view widget := by
  refine ⟨findsNearest_factoryFor scene view widget, fun more => ?_⟩
  exact (scene.forest.searchTells_searchFactory view widget more).unique
    (scene.forest.searchTells_factoryFor view widget)

/-! Registering. -/

/-- A factory stands on the widget that it was registered on, for its view, in the place of what stood
there before. -/
theorem factoryAt?_setFactory (scene : Scene ε) (widget other : WidgetId) (view sought : View)
    (handler : HandlerId) (live : scene.forest.contains widget = true) :
    (scene.setFactory widget view handler).forest.factoryAt? sought other =
      if other = widget ∧ sought = view then some handler else scene.forest.factoryAt? sought other := by
  change (scene.forest.update widget (fun node => node.setFactory view handler)).factoryAt? sought other = _
  obtain ⟨node, found⟩ := Option.isSome_iff_exists.mp live
  rw [Forest.factoryAt?, Forest.get?_update, Forest.factoryAt?]
  by_cases here : other = widget
  · subst here
    simp only [if_true, found, Option.map_some, Option.bind_some, true_and]
    exact node.factory?_setFactory view sought handler
  · rw [if_neg here, if_neg (fun both => here both.1)]

/-- Who asks the widget itself is told of the factory from then on. -/
theorem factoryFor_setFactory_self (scene : Scene ε) {widget : WidgetId} (view : View)
    (handler : HandlerId) (live : scene.forest.contains widget = true) :
    ((scene.setFactory widget view handler).factoryFor view widget).1 = some handler := by
  refine ((findsNearest_factoryFor _ view widget).some_iff handler).mpr ⟨0, nofun, widget, rfl, ?_⟩
  rw [factoryAt?_setFactory scene widget widget view view handler live, if_pos ⟨rfl, rfl⟩]

theorem container?_setFactory (scene : Scene ε) (widget other : WidgetId) (view : View)
    (handler : HandlerId) :
    (scene.setFactory widget view handler).forest.container? other = scene.forest.container? other := by
  change (scene.forest.update widget (fun node => node.setFactory view handler)).container? other = _
  rw [Forest.container?, Forest.parent?, Forest.pending?, Forest.get?_update]
  split
  · rw [Option.bind_map, Option.bind_map]
    rfl
  · rfl

/-- Factories are kept view by view: a search for another one comes to what it came to before. -/
theorem factoryFor_setFactory_of_ne (scene : Scene ε) {widget : WidgetId} (start : WidgetId)
    {view sought : View} (handler : HandlerId) (differ : sought ≠ view)
    (live : scene.forest.contains widget = true) :
    ((scene.setFactory widget view handler).factoryFor sought start).1 =
      (scene.factoryFor sought start).1 := by
  have containers := fun other => scene.container?_setFactory widget other view handler
  have factories : ∀ other,
      (scene.setFactory widget view handler).forest.factoryAt? sought other =
        scene.forest.factoryAt? sought other := by
    intro other
    rw [scene.factoryAt?_setFactory widget other view sought handler live, if_neg]
    exact fun both => differ both.2
  refine Option.ext fun found => ?_
  rw [(findsNearest_factoryFor _ sought start).some_iff, (findsNearest_factoryFor _ sought start).some_iff]
  constructor
  · exact .congr (fun other => (containers other).symm) (fun other => (factories other).symm)
  · exact .congr containers factories

def pendingPair : Scene Unit :=
  let pair := (((Scene.fresh ()).spawn .panel).2.spawn .panel).2
  let first := pair.update ⟨0⟩ (fun node => { node with pending := some ⟨1⟩ })
  first.update ⟨1⟩ (fun node => { node with pending := some ⟨0⟩ })

example : pendingPair.forest.outward ⟨0⟩ 2 = some ⟨0⟩ ∧
    (pendingPair.factoryFor .label ⟨0⟩).1 = none ∧
      ((pendingPair.setFactory ⟨1⟩ .label ⟨5⟩).factoryFor .label ⟨0⟩).1 = some ⟨5⟩ := by
  decide +kernel

end Scene

end StyledTree
