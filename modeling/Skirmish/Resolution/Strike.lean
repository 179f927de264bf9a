import Skirmish.Resolution.Immediate

/-!
# Damage

A strike rolls to hit and to be critical, takes the damage first from the target's shields and the
rest from its hp. Whether it landed decides whether hooks answer it.
-/

namespace Skirmish

namespace Battle

/-- What is left of damage after the shields, taken from the hp of a target. The first line that
tells of the damage says whether it was critical. -/
def wound (b : Battle) (id : ActorId) (element : Option String) (critical : Bool) (amount : Int) :
    Battle :=
  let name := b.nameOf id
  let lead := if critical then "Critical hit! " else ""
  let (absorbed, b) := b.absorb id element amount
  let dealt := amount - absorbed
  let b :=
    if 0 < absorbed then b.announce s!"{lead}{name}'s shield absorbed {absorbed} damage." else b
  let lead := if 0 < absorbed then "" else lead
  let b :=
    if 0 < dealt ∨ absorbed = 0 then
      (b.addResource id .hp (-dealt)).announce s!"{lead}{name} takes {dealt} damage."
    else b
  b.faintIfDown id

/-- The whole amount of damage; none where the product is not finite. -/
def damageAmount (raw : Float) : Int := if raw.isFinite then nearestAbove raw else 0

/-- Strike a target. The battle and the rolls after it come with whether it landed. -/
def strike (b : Battle) (rules : Rules) (e : Effect) (o : Origin) (user id : ActorId)
    (rolls : Rolls) : Battle × Rolls × Bool :=
  match b.actor? user, b.actor? id with
  | some u, some t =>
    let attacker := rules.codex.effective u
    let defender := rules.codex.effective t
    let element := e.element.or o.element
    let (hit, rolls, seed) :=
      if e.canMiss then rolls.rollHit (rules.balance.hitChance attacker defender) b.seed
      else (true, rolls, b.seed)
    if hit then
      let (critical, rolls, seed) :=
        if e.canCrit then rolls.rollCrit (rules.balance.critChance attacker defender) seed
        else (false, rolls, seed)
      let raw :=
        e.value.resolve attacker defender e.basis * rules.balance.elementFactor element t *
          rules.balance.resistFactor t * (if critical then rules.balance.critFactor else 1) *
          o.scale
      ({ b with seed := seed }.wound id element critical (damageAmount raw), rolls, true)
    else
      ({ b with seed := seed }.announce s!"{u.name}'s attack missed {t.name}.", rolls, false)
  | _, _ => (b, rolls, false)

/-- Strike a target that is in the battle. The chance to hit has to be there for every strike of an
actor, also for one that cannot miss. -/
def struck? (b : Battle) (rules : Rules) (e : Effect) (o : Origin) (user id : ActorId)
    (rolls : Rolls) : Option (Battle × Rolls × Bool) :=
  if rules.balance.hasHitChance || !b.actors.contains user then
    some (b.strike rules e o user id rolls)
  else none

theorem struck?_of_hasHitChance {rules : Rules} (h : rules.balance.hasHitChance = true) (b : Battle)
    (e : Effect) (o : Origin) (user id : ActorId) (rolls : Rolls) :
    b.struck? rules e o user id rolls = some (b.strike rules e o user id rolls) := by
  rw [struck?, h, Bool.true_or, if_pos rfl]

theorem struck?_eq_none {rules : Rules} (h : rules.balance.hasHitChance = false) {b : Battle}
    {user : ActorId} (huser : b.actors.contains user = true) (e : Effect) (o : Origin)
    (id : ActorId) (rolls : Rolls) : b.struck? rules e o user id rolls = none := by
  rw [struck?, h, huser]
  rfl

theorem struck?_cases (b : Battle) (rules : Rules) (e : Effect) (o : Origin) (user id : ActorId)
    (rolls : Rolls) :
    b.struck? rules e o user id rolls = some (b.strike rules e o user id rolls) ∨
      (rules.balance.hasHitChance = false ∧ b.struck? rules e o user id rolls = none) := by
  unfold struck?
  cases rules.balance.hasHitChance with
  | true => exact .inl rfl
  | false =>
    split
    · exact .inl rfl
    · exact .inr ⟨rfl, rfl⟩

end Battle

end Skirmish
