import Skirmish.Proofs.Vitals

/-!
# What damage takes away

Damage is first taken from the shields of its target that absorb it, in their order, and what is
left of it from the target's hp. `drain_spec` says how much the shields lose: as much as there is
damage, or all that they have. `wound_of_sound` says what is left of the target, and
`strike_of_rolled` ties a strike that lands to the amount of damage that it rolls.

Where no hook answers, that is all that a strike does, so damage is conserved: what it takes from
the shields and what it takes from the hp make up its amount, as far as there is enough to take
(`damage_conserved`).
-/

namespace Skirmish

/-! ## Shields -/

namespace Shield

/-- The hp of some shields together. -/
def total (ss : List Shield) : Int := (ss.map (·.hp)).foldr (· + ·) 0

@[simp] theorem total_nil : total [] = 0 := rfl

@[simp] theorem total_cons (s : Shield) (ss : List Shield) :
    total (s :: ss) = s.hp + total ss := rfl

theorem total_nonneg {ss : List Shield} (h : ∀ s ∈ ss, 0 ≤ s.hp) : 0 ≤ total ss := by
  induction ss with
  | nil => exact Int.le_refl 0
  | cons s ss ih =>
    have hs := h s List.mem_cons_self
    have hss := ih fun s hs => h s (List.mem_cons_of_mem _ hs)
    rw [total_cons]
    omega

/-- Shields that are used up add nothing. -/
theorem total_filter_pos {ss : List Shield} (h : ∀ s ∈ ss, 0 ≤ s.hp) :
    total (ss.filter fun s => 0 < s.hp) = total ss := by
  induction ss with
  | nil => rfl
  | cons s ss ih =>
    have hs := h s List.mem_cons_self
    have hss := ih fun s hs => h s (List.mem_cons_of_mem _ hs)
    rw [List.filter_cons]
    split
    · rw [total_cons, total_cons, hss]
    · next hzero =>
      rw [decide_eq_true_eq] at hzero
      rw [total_cons, hss]
      omega

/-- A shield absorbs the damage of its element, or all damage where it has none. -/
theorem absorbs_iff {s : Shield} {element : Option String} :
    s.absorbs element = true ↔ s.element = none ∨ s.element = element := by
  unfold absorbs
  cases s.element with
  | none => simp
  | some k =>
    rw [Option.all_some, beq_iff_eq]
    exact ⟨fun h => .inr h.symm, fun h => (h.resolve_left nofun).symm⟩

/-- The hp of the shields that absorb damage of an element. -/
def capacity (element : Option String) (ss : List Shield) : Int :=
  total (ss.filter fun s => s.absorbs element)

theorem capacity_nonneg (element : Option String) {ss : List Shield} (h : ∀ s ∈ ss, 0 ≤ s.hp) :
    0 ≤ capacity element ss :=
  total_nonneg fun s hs => h s (List.mem_of_mem_filter hs)

/-- Draining takes as much as there is to absorb, or all that those shields have which absorb it. It
leaves no shield below zero. -/
theorem drain_spec (element : Option String) {left : Int} (hleft : 0 ≤ left) {ss : List Shield}
    (h : ∀ s ∈ ss, 0 ≤ s.hp) :
    (drain element left ss).2 = left - min left (capacity element ss) ∧
      total (drain element left ss).1 = total ss - min left (capacity element ss) ∧
      ∀ s ∈ (drain element left ss).1, 0 ≤ s.hp := by
  induction ss generalizing left with
  | nil =>
    have hnone : capacity element [] = 0 := rfl
    rw [drain, hnone, total_nil]
    exact ⟨by omega, by omega, List.forall_mem_nil _⟩
  | cons s ss ih =>
    have hs := h s List.mem_cons_self
    have hss : ∀ s ∈ ss, 0 ≤ s.hp := fun s hs => h s (List.mem_cons_of_mem _ hs)
    have hcap := capacity_nonneg element hss
    rw [drain]
    split
    · next hzero =>
      have hcap' := capacity_nonneg element h
      dsimp only
      exact ⟨by omega, by omega, h⟩
    · cases habsorbs : s.absorbs element with
      | true =>
        have hcons : capacity element (s :: ss) = s.hp + capacity element ss := by
          rw [capacity, List.filter_cons, if_pos habsorbs, total_cons, capacity]
        have hrest : 0 ≤ left - min s.hp left := by omega
        obtain ⟨hleft', htotal, hkept⟩ := ih hrest hss
        simp only [if_true, total_cons, hcons, hleft', htotal]
        refine ⟨by omega, by omega, List.forall_mem_cons.2 ⟨?_, hkept⟩⟩
        change 0 ≤ s.hp - min s.hp left
        omega
      | false =>
        have hcons : capacity element (s :: ss) = capacity element ss := by
          rw [capacity, List.filter_cons, habsorbs, if_neg Bool.false_ne_true, capacity]
        obtain ⟨hleft', htotal, hkept⟩ := ih hleft hss
        simp only [Bool.false_eq_true, if_false, total_cons, hcons, hleft', htotal]
        exact ⟨trivial, by omega, List.forall_mem_cons.2 ⟨hs, hkept⟩⟩

end Shield

namespace Battle

variable {b : Battle} {id : ActorId} {element : Option String} {amount : Int}

theorem shields_withShields_of_ne {q : ActorId} (hq : q ≠ id) (ss : List Shield) :
    (b.withShields id ss).shields.get? q = b.shields.get? q := by
  unfold withShields
  dsimp only
  split
  · rw [Table.get?_erase, if_neg hq]
  · exact Table.get?_insert_of_ne hq _

/-- An actor whose last shield is taken away has no entry. -/
theorem get?_shields_withShields (b : Battle) (id : ActorId) (ss : List Shield) :
    (b.withShields id ss).shields.get? id = if ss = [] then none else some ss := by
  unfold withShields
  cases ss with
  | nil => simp [Table.get?_erase]
  | cons => simp

/-- The shields of an actor after damage. -/
def shieldsAfter (b : Battle) (id : ActorId) (element : Option String) (amount : Int) :
    List Shield :=
  (Shield.drain element (max 0 amount) (b.shieldsOf id)).1.filter fun s => 0 < s.hp

/-- Shields absorb damage as far as they have hp against it, and lose what they absorb. -/
theorem absorb_spec (h : ∀ s ∈ b.shieldsOf id, 0 ≤ s.hp) (element : Option String)
    (amount : Int) :
    b.absorb id element amount =
        (min (max 0 amount) (Shield.capacity element (b.shieldsOf id)),
          b.withShields id (b.shieldsAfter id element amount)) ∧
      Shield.total (b.shieldsAfter id element amount) = Shield.total (b.shieldsOf id) -
        min (max 0 amount) (Shield.capacity element (b.shieldsOf id)) := by
  obtain ⟨hleft, htotal, hkept⟩ :=
    Shield.drain_spec element (Int.le_max_left 0 amount) h
  refine ⟨Prod.ext ?_ rfl, ?_⟩
  · change max 0 amount - (Shield.drain element (max 0 amount) (b.shieldsOf id)).2 = _
    rw [hleft]
    dsimp only
    omega
  · rw [shieldsAfter, Shield.total_filter_pos hkept, htotal]

end Battle

/-! ## Wounds -/

/-- What damage leaves of an actor that is alive: as much hp as is left, and life as long as there
is some. -/
def Actor.wounded (a : Actor) (damage : Int) : Actor :=
  let hp := max 0 (a.stats.hp - damage)
  { a with stats := { a.stats with hp := hp }, alive := decide (0 < hp) }

namespace Actor

variable {a : Actor}

theorem wounded_of_none (hsound : a.Sound) (ha : a.alive = true) : a.wounded 0 = a := by
  have hhp := hsound.alive_iff.1 ha
  have hsame : max 0 (a.stats.hp - 0) = a.stats.hp := by omega
  simp only [wounded, hsame, hhp, decide_true, ← ha]

theorem collapse_add_hp (hsound : a.Sound) (ha : a.alive = true) {damage : Int}
    (hdamage : 0 ≤ damage) :
    ({ a with stats := a.stats.add .hp (-damage) } : Actor).collapse = a.wounded damage := by
  have hmax : a.stats.hp ≤ a.stats.maxHp := (hsound.bounded .hp).2
  have hbetween : Stats.between a.stats.maxHp (a.stats.hp + -damage) =
      max 0 (a.stats.hp - damage) := by
    unfold Stats.between
    omega
  have hadd : a.stats.add .hp (-damage) =
      { a.stats with hp := max 0 (a.stats.hp - damage) } := by
    rw [← hbetween]
    rfl
  rw [hadd]
  unfold collapse wounded
  dsimp only
  rw [ha, Bool.true_and]
  split
  · next hdown =>
    rw [decide_eq_true_eq] at hdown
    have hzero : max 0 (a.stats.hp - damage) = 0 := by omega
    simp only [faint, hzero, Int.lt_irrefl, decide_false]
  · next hup =>
    rw [decide_eq_true_eq] at hup
    have hpos : 0 < max 0 (a.stats.hp - damage) := by omega
    simp only [hpos, decide_true]

end Actor

namespace Battle

variable {b : Battle} {id : ActorId} {element : Option String} {amount : Int} {a : Actor}

theorem faintIfDown_of_sound (ha : b.actor? id = some a) (hsound : a.Sound) :
    b.faintIfDown id = b := by
  have hup : ¬(a.alive && decide (a.stats.hp ≤ 0)) = true := by
    rw [Bool.and_eq_true, decide_eq_true_eq, hsound.alive_iff]
    omega
  simp only [faintIfDown, ha, if_neg hup]

/-- The battle once an actor has become another one and some lines tell of it. -/
def recorded (b : Battle) (id : ActorId) (a : Actor) (lines : List String) : Battle :=
  { b with actors := b.actors.insert id a, log := b.log ++ lines }

theorem recorded_announce (b : Battle) (line : String) (id : ActorId) (a : Actor)
    (lines : List String) :
    (b.announce line).recorded id a lines = b.recorded id a ([line] ++ lines) := by
  simp only [recorded, announce, List.append_assoc]

theorem faintIfDown_of_hurt (ha : b.actor? id = some a) (hsound : a.Sound) (halive : a.alive = true)
    {damage : Int} (hdamage : 0 ≤ damage) (line : String) :
    ∃ lines, ((b.addResource id .hp (-damage)).announce line).faintIfDown id =
      b.recorded id (a.wounded damage) lines := by
  obtain ⟨lines, heq⟩ := ((b.addResource id .hp (-damage)).announce line).faintIfDown_eq id
  have hactors : (b.actors.modify id fun a => { a with stats := a.stats.add .hp (-damage) }).modify
      id Actor.collapse = b.actors.insert id (a.wounded damage) := by
    rw [Table.modify_modify, Table.modify_of_get? ha, Actor.collapse_add_hp hsound halive hdamage]
  refine ⟨[line] ++ lines, ?_⟩
  rw [heq]
  simp only [addResource, announce, modifyActor, recorded, hactors, List.append_assoc]

/-- A wound takes from a sound actor that is alive what its shields do not absorb. -/
theorem wound_of_sound (ha : b.actor? id = some a) (hsound : a.Sound) (halive : a.alive = true)
    (h : ∀ s ∈ b.shieldsOf id, 0 ≤ s.hp) (hamount : 0 ≤ amount) (element : Option String)
    (critical : Bool) : ∃ lines, b.wound id element critical amount =
      (b.withShields id (b.shieldsAfter id element amount)).recorded id
        (a.wounded (amount - min amount (Shield.capacity element (b.shieldsOf id)))) lines := by
  obtain ⟨habsorb, -⟩ := absorb_spec h element amount
  have hcap := Shield.capacity_nonneg element h
  rw [Int.max_eq_right hamount] at habsorb
  generalize hmin : min amount (Shield.capacity element (b.shieldsOf id)) = absorbed at *
  have hdealt : 0 ≤ amount - absorbed := by omega
  unfold wound
  simp only [habsorb]
  generalize hshielded : b.withShields id (b.shieldsAfter id element amount) = shielded
  have hactor : shielded.actor? id = some a := by
    subst hshielded
    exact ha
  split <;> split
  · obtain ⟨lines, heq⟩ := faintIfDown_of_hurt
      (b := shielded.announce _) hactor hsound halive hdealt _
    exact ⟨_, heq.trans (recorded_announce ..)⟩
  · exact faintIfDown_of_hurt hactor hsound halive hdealt _
  · next hnone _ =>
    have hzero : amount - absorbed = 0 := by omega
    have hsame : shielded.actors.insert id a = shielded.actors := Table.insert_of_get? hactor
    rw [faintIfDown_of_sound (b := shielded.announce _) hactor hsound, hzero,
      Actor.wounded_of_none hsound halive]
    exact ⟨_, by rw [recorded, hsame]; rfl⟩
  · omega

end Battle

/-! ## Strikes -/

/-- How a strike of an attacker at a defender rolls: whether it lands and whether it is critical,
with the rolls and the seed after it. A strike that misses does not roll to be critical. -/
def rollStrike (rules : Rules) (e : Effect) (attacker defender : Actor) (rolls : Rolls)
    (seed : Seed) : Bool × Bool × Rolls × Seed :=
  let u := rules.codex.effective attacker
  let t := rules.codex.effective defender
  let (hit, rolls, seed) :=
    if e.canMiss then rolls.rollHit (rules.balance.hitChance u t) seed else (true, rolls, seed)
  if hit then
    let (critical, rolls, seed) :=
      if e.canCrit then rolls.rollCrit (rules.balance.critChance u t) seed
      else (false, rolls, seed)
    (true, critical, rolls, seed)
  else (false, false, rolls, seed)

/-- The damage of a strike that lands, before the target's shields. -/
def strikeDamage (rules : Rules) (e : Effect) (o : Origin) (attacker defender : Actor)
    (critical : Bool) : Int :=
  Battle.damageAmount <|
    e.value.resolve (rules.codex.effective attacker) (rules.codex.effective defender) e.basis *
      rules.balance.elementFactor (e.element.or o.element) defender *
      rules.balance.resistFactor defender * (if critical then rules.balance.critFactor else 1) *
      o.scale

namespace Battle

theorem damageAmount_nonneg (raw : Float) : 0 ≤ damageAmount raw := by
  unfold damageAmount
  split
  · exact nearestAbove_nonneg raw
  · exact Int.le_refl 0

variable {rules : Rules} {b : Battle} {e : Effect} {user id : ActorId} {u t : Actor}

/-- A strike that lands wounds its target by the damage that it rolls. -/
theorem strike_of_rolled (hu : b.actor? user = some u) (ht : b.actor? id = some t)
    {rolls after : Rolls} {critical : Bool} {seed : Seed}
    (hroll : rollStrike rules e u t rolls b.seed = (true, critical, after, seed)) (o : Origin) :
    b.strike rules e o user id rolls =
      ({ b with seed := seed }.wound id (e.element.or o.element) critical
        (strikeDamage rules e o u t critical), after, true) := by
  unfold rollStrike at hroll
  unfold strike
  simp only [hu, ht]
  dsimp only at hroll
  generalize (if e.canMiss = true then _ else _ : Bool × Rolls × Seed) = first at hroll ⊢
  obtain ⟨hit, rolls', seed'⟩ := first
  cases hit with
  | false => cases hroll
  | true =>
    dsimp only [if_true] at hroll ⊢
    generalize (if e.canCrit = true then _ else _ : Bool × Rolls × Seed) = second at hroll ⊢
    cases hroll
    rfl

end Battle

/-! ## Where no hook answers -/

theorem Step.andThen_of_proceed {first : Step} {s s' : Scene} (h : first s = some (s', .proceed))
    (second : Step) : (first.andThen second) s = second s' := by
  rw [Step.andThen, h]

/-- No status that an actor holds has effects for a hook. -/
def Battle.Unanswering (b : Battle) (codex : Codex) (id : ActorId) (hook : Hook) : Prop :=
  ∀ i ∈ b.afflictionsOf id, ∀ st, codex.status? i.status = some st → st.hooked hook = []

section

variable {rules : Rules} {s : Scene}

theorem runHook_of_hooked_eq_nil {c : HookCall}
    (h : ∀ st, rules.codex.status? c.status = some st → st.hooked c.hook = []) (depth : Nat)
    (s : Scene) : runHook rules depth c s = some (s, .proceed) := by
  refine runHook_of_isEmpty (List.isEmpty_iff.2 ?_) depth
  by_contra hne
  obtain ⟨st, hst, hsome, -⟩ := effects_ne_nil_iff.1 hne
  exact hsome (h st hst)

theorem answerDamage_of_unanswering {holder : ActorId} {hook : Hook}
    (h : s.battle.Unanswering rules.codex holder hook) (other : ActorId) (depth : Nat) :
    answerDamage (runHook rules depth) holder hook other s = some (s, .proceed) := by
  unfold answerDamage
  unfold Battle.Unanswering at h
  generalize s.battle.afflictionsOf holder = is at h ⊢
  induction is with
  | nil => rfl
  | cons i is ih =>
    obtain ⟨hi, his⟩ := List.forall_mem_cons.1 h
    rw [Step.each, Step.andThen, runHook_of_hooked_eq_nil hi]
    exact ih his

theorem onDamage_of_unanswering {attacker victim : ActorId}
    (hattacker : s.battle.Unanswering rules.codex attacker .onDealDamage)
    (hvictim : s.battle.Unanswering rules.codex victim .onTakeDamage) (depth : Nat) :
    onDamage (runHook rules depth) attacker victim s = some (s, .proceed) := by
  rw [onDamage, Step.andThen, answerDamage_of_unanswering hattacker]
  exact answerDamage_of_unanswering hvictim ..

end

namespace Battle

/-- What damage leaves of an actor holds the same statuses. -/
theorem afflictionsOf_recorded_wounded {b c : Battle} {id : ActorId} {a : Actor}
    (hc : c.actors = b.actors) (ha : b.actor? id = some a) (damage : Int) (lines : List String)
    (q : ActorId) :
    (c.recorded id (a.wounded damage) lines).afflictionsOf q = b.afflictionsOf q := by
  unfold afflictionsOf recorded actor?
  rw [hc, Table.get?_insert]
  split
  · next hq =>
    rw [hq, show b.actors.get? id = some a from ha]
    rfl
  · rfl

/-- A strike that no hook answers leaves its battle to the targets after it. -/
theorem applyToEach_of_unanswering {rules : Rules} {e : Effect} {o : Origin} {user id : ActorId}
    {rolls after : Rolls} {landed : Bool} {b c : Battle} (hk : e.kind = .damage)
    (hreached : b.isReached e id = true) (hchance : rules.balance.hasHitChance = true)
    (hstrike : b.strike rules e o user id rolls = (c, after, landed))
    (hattacker : c.Unanswering rules.codex user .onDealDamage)
    (hvictim : c.Unanswering rules.codex id .onTakeDamage) (ids : List ActorId)
    (running : List Frame) (depth : Nat) :
    applyToEach rules (runHook rules depth) e o user (id :: ids) rolls ⟨b, running⟩ =
      applyToEach rules (runHook rules depth) e o user ids after ⟨c, running⟩ := by
  have hquiet : (if landed then onDamage (runHook rules depth) user id else Step.done)
      ⟨c, running⟩ = some (⟨c, running⟩, .proceed) := by
    cases landed with
    | true => exact onDamage_of_unanswering hattacker hvictim depth
    | false => rfl
  simp only [applyToEach, if_pos hreached, hk, struck?_of_hasHitChance hchance, hstrike]
  exact Step.andThen_of_proceed hquiet _

/-! ## Conservation -/

/-- A damage effect lands on a living actor, given the rolls so far: both take part, the target is
reached, there is a chance to hit, and the roll is a hit. -/
structure Lands (b : Battle) (rules : Rules) (e : Effect) (user id : ActorId) (rolls : Rolls)
    (u t : Actor) (critical : Bool) (after : Rolls) (seed : Seed) : Prop where
  damages : e.kind = .damage
  striker : b.actor? user = some u
  target : b.actor? id = some t
  reached : b.isReached e id = true
  chance : rules.balance.hasHitChance = true
  rolled : rollStrike rules e u t rolls b.seed = (true, critical, after, seed)

variable {rules : Rules} {b : Battle} {e : Effect} {user id : ActorId} {u t : Actor}
  {rolls after : Rolls} {critical : Bool} {seed : Seed}

theorem Lands.alive (h : b.Lands rules e user id rolls u t critical after seed) :
    t.alive = true :=
  alive_of_isAlive (isAlive_of_isReached h.reached (by rw [h.damages]; decide)) h.target

/-- **Damage is conserved between shields and hp.** A damage effect lands on a sound actor whose
shields are not below zero, and no status of the attacker or of the target answers damage. Of the
amount that is rolled, the shields that are open to the element of the damage lose as much as they
have, and the hp lose the rest as far as there are some; the target is alive as long as it has hp
left. Beside its hp, its life and its shields, only the log and the seed change, and the effect goes
on with its next target. -/
theorem damage_conserved (o : Origin) (h : b.Lands rules e user id rolls u t critical after seed)
    (hsound : t.Sound) (hshields : ∀ s ∈ b.shieldsOf id, 0 ≤ s.hp)
    (hattacker : b.Unanswering rules.codex user .onDealDamage)
    (hvictim : b.Unanswering rules.codex id .onTakeDamage) :
    ∃ (amount capacity hp : Int) (b' : Battle),
      amount = strikeDamage rules e o u t critical ∧ 0 ≤ amount ∧
      capacity = Shield.total ((b.shieldsOf id).filter fun s =>
        s.element = none ∨ s.element = e.element.or o.element) ∧
      hp = max 0 (t.stats.hp - (amount - min amount capacity)) ∧
      b'.shieldTotal id = b.shieldTotal id - min amount capacity ∧
      b'.actor? id =
        some { t with stats := { t.stats with hp := hp }, alive := decide (0 < hp) } ∧
      (∀ q, q ≠ id → b'.actor? q = b.actor? q ∧ b'.shields.get? q = b.shields.get? q) ∧
      (∃ actors shields lines, b' =
        { b with actors := actors, shields := shields, seed := seed, log := b.log ++ lines }) ∧
      ∀ ids running depth,
        applyToEach rules (runHook rules depth) e o user (id :: ids) rolls ⟨b, running⟩ =
            applyToEach rules (runHook rules depth) e o user ids after ⟨b', running⟩ ∧
          (b.isOver = false → rolls = ⟨e.sharedRoll, none, none⟩ →
            applyEffect rules (runHook rules depth) e o user (id :: ids) ⟨b, running⟩ =
              applyToEach rules (runHook rules depth) e o user ids after ⟨b', running⟩) := by
  have hamount : 0 ≤ strikeDamage rules e o u t critical := damageAmount_nonneg _
  have hopen : (fun s : Shield => decide (s.element = none ∨ s.element = e.element.or o.element)) =
      fun s => s.absorbs (e.element.or o.element) := by
    funext s
    rw [Bool.eq_iff_iff, decide_eq_true_iff, Shield.absorbs_iff]
  have hstrike := strike_of_rolled h.striker h.target h.rolled o
  generalize strikeDamage rules e o u t critical = amount at hamount hstrike ⊢
  generalize e.element.or o.element = element at hopen hstrike ⊢
  obtain ⟨lines, hwound⟩ := wound_of_sound (b := { b with seed := seed }) h.target hsound h.alive
    hshields hamount element critical
  have htotal := (absorb_spec hshields element amount).2
  rw [Int.max_eq_right hamount] at htotal
  rw [hwound] at hstrike
  let ss := b.shieldsAfter id element amount
  let left := t.wounded (amount - min amount (Shield.capacity element (b.shieldsOf id)))
  let b' := (({ b with seed := seed }).withShields id ss).recorded id left lines
  have hheld : ∀ q, b'.afflictionsOf q = b.afflictionsOf q :=
    afflictionsOf_recorded_wounded rfl h.target _ lines
  have hstep : ∀ ids running depth,
      applyToEach rules (runHook rules depth) e o user (id :: ids) rolls ⟨b, running⟩ =
        applyToEach rules (runHook rules depth) e o user ids after ⟨b', running⟩ := by
    refine applyToEach_of_unanswering h.damages h.reached h.chance hstrike ?_ ?_
    · unfold Unanswering
      rwa [hheld]
    · unfold Unanswering
      rwa [hheld]
  refine ⟨amount, Shield.capacity element (b.shieldsOf id), _, b', rfl, hamount, ?_, rfl, ?_, ?_, ?_,
    ?_, ?_⟩
  · rw [hopen, Shield.capacity]
  · change Shield.total (({ b with seed := seed }.withShields id ss).shieldsOf id) = _
    rw [shieldsOf_withShields, if_pos rfl]
    exact htotal
  · exact Table.get?_insert_self ..
  · intro q hq
    exact ⟨Table.get?_insert_of_ne hq _, shields_withShields_of_ne hq ss⟩
  · exact ⟨_, _, lines, rfl⟩
  · intro ids running depth
    refine ⟨hstep ids running depth, fun hgoing hfresh => ?_⟩
    have haimed : e.kind.isTargetless = false := by
      rw [h.damages]
      rfl
    simp only [applyEffect, hgoing, haimed, Bool.false_eq_true, if_false, ← hfresh]
    exact hstep ids running depth

/-! ## Under a ward -/

/-- A flame that deals nine damage and may miss or be critical. -/
def flame : Effect := { kind := .damage, value := .flat 9, element := some "fire" }

/-- The duel, in which the slime has a ward, a shield of ice and one of fire. -/
def wardedDuel : Battle :=
  duel.withShields "slime" [⟨"ward", 3, none⟩, ⟨"frost", 4, some "ice"⟩, ⟨"ember", 2, some "fire"⟩]

/-- The flame hits and is not critical. Ward and ember absorb five of it, the frost none, and the
slime loses four of its eight hp. -/
theorem flame_passes_frost :
    ∃ after seed b', wardedDuel.Lands {} flame "hero" "slime" ⟨false, none, none⟩ hero slime false
        after seed ∧
      applyEffect {} (runHook {} 0) flame {} "hero" ["slime"] ⟨wardedDuel, []⟩ =
        some (⟨b', []⟩, .proceed) ∧
      b'.shieldTotal "slime" = 4 ∧
      b'.actor? "slime" = some { slime with stats := { slime.stats with hp := 4 }, alive := true } ∧
      b'.actor? "hero" = some hero := by
  have hhit : (rollStrike {} flame hero slime ⟨false, none, none⟩ wardedDuel.seed).1 = true ∧
      (rollStrike {} flame hero slime ⟨false, none, none⟩ wardedDuel.seed).2.1 = false := by
    decide +kernel
  obtain ⟨after, seed, hroll⟩ : ∃ after seed, rollStrike {} flame hero slime ⟨false, none, none⟩
      wardedDuel.seed = (true, false, after, seed) := by
    generalize rollStrike {} flame hero slime ⟨false, none, none⟩ wardedDuel.seed = roll at hhit
    obtain ⟨hit, critical, after, seed⟩ := roll
    obtain ⟨rfl, rfl⟩ := hhit
    exact ⟨after, seed, rfl⟩
  have hlands : wardedDuel.Lands {} flame "hero" "slime" ⟨false, none, none⟩ hero slime false after
      seed :=
    ⟨rfl, by decide +kernel, by decide +kernel, by decide +kernel, by decide +kernel, hroll⟩
  obtain ⟨amount, capacity, hp, b', hamount, -, hcapacity, hhp, htotal, hslime, hothers, -, happly⟩ :=
    damage_conserved {} hlands (by decide +kernel) (by decide +kernel)
      (fun _ _ _ h => nomatch h) (fun _ _ _ h => nomatch h)
  have hnine : amount = 9 := hamount.trans (by decide +kernel)
  have hfive : capacity = 5 := hcapacity.trans (by decide +kernel)
  have hleft : hp = 4 := by
    rw [hhp, hnine, hfive]
    decide +kernel
  subst hleft
  have hgoing : wardedDuel.isOver = false := by decide +kernel
  have hplayed := (happly [] [] 0).2 hgoing rfl
  rw [applyToEach, Step.done] at hplayed
  refine ⟨_, _, b', hlands, hplayed, ?_, hslime, ?_⟩
  · rw [htotal, hnine, hfive]
    decide +kernel
  · rw [(hothers "hero" (by decide)).1]
    decide +kernel

end Battle

end Skirmish
