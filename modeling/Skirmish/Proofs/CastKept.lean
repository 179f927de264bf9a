import Skirmish.Proofs.Cast
import Skirmish.Turn.Passing
import Skirmish.Turn.Play

/-!
# What keeps the cast

Paying for an action, judging the outcome and counting a boundary keep the cast of a battle in the
sense of `Battle.SameCast`: they change the actors one by one or stand beside them. A reward goes to
one actor after the other, so what each gain keeps, all of it keeps (`rewardAll_induction`).
-/

namespace Skirmish

namespace Battle

/-! ## Paying -/

theorem beginCooldown_eq (b : Battle) (id : ActorId) (act : Action) :
    ∃ cooldowns, b.beginCooldown id act = { b with cooldowns := cooldowns } := by
  unfold beginCooldown
  split
  · exact ⟨b.cooldowns, rfl⟩
  · exact ⟨_, rfl⟩

theorem spendCharge_eq (b : Battle) (id : ActorId) (act : Action) :
    ∃ charges, b.spendCharge id act = { b with charges := charges } := by
  unfold spendCharge
  split
  · exact ⟨b.charges, rfl⟩
  · exact ⟨_, rfl⟩

theorem spendItem_eq (b : Battle) (act : Action) :
    ∃ inventory, b.spendItem act = { b with inventory := inventory } := by
  unfold spendItem
  split
  · exact ⟨_, rfl⟩
  · exact ⟨b.inventory, rfl⟩

/-- Beside the actor that pays, paying changes cooldowns, charges and the inventory. -/
theorem pay_eq (b : Battle) (id : ActorId) (act : Action) :
    ∃ cooldowns charges inventory, b.pay id act =
      { b.payCosts id act.costs with
        cooldowns := cooldowns, charges := charges, inventory := inventory } := by
  unfold pay
  obtain ⟨cooldowns, hcooldowns⟩ := (b.payCosts id act.costs).beginCooldown_eq id act
  rw [hcooldowns]
  obtain ⟨charges, hcharges⟩ :=
    spendCharge_eq { b.payCosts id act.costs with cooldowns := cooldowns } id act
  rw [hcharges]
  obtain ⟨inventory, hinventory⟩ := spendItem_eq
    { b.payCosts id act.costs with cooldowns := cooldowns, charges := charges } act
  exact ⟨cooldowns, charges, inventory, hinventory⟩

theorem sameCast_pay (b : Battle) (id : ActorId) (act : Action) : b.SameCast (b.pay id act) := by
  obtain ⟨cooldowns, charges, inventory, heq⟩ := b.pay_eq id act
  rw [heq]
  exact (sameCast_modifyActor fun _ _ => .single (.paid act.costs)).trans
    (.aside rfl rfl rfl rfl rfl rfl)

/-! ## Judging and passing -/

/-- What each gain of xp and the gain of gold keep, the whole reward keeps. -/
theorem rewardAll_induction {P : Battle → Prop} {b : Battle} {xp gold : Int} {ids : List ActorId}
    (hb : P b) (hxp : ∀ c, ∀ id ∈ ids, P c → P (c.gainXp xp id))
    (hgold : ∀ c, ∀ id ∈ ids, P c → P (c.gainGold gold id)) : P (b.rewardAll xp gold ids) := by
  have hgained : P (ids.foldl (fun c id => c.gainXp xp id) b) :=
    List.foldlRecOn (motive := P) ids _ hb fun c hc id hid => hxp c id hid hc
  unfold rewardAll
  cases hhead : ids.head? with
  | none => exact hgained
  | some id => exact hgold _ id (List.mem_of_mem_head? hhead) hgained

theorem sameCast_rewardAll (b : Battle) (xp gold : Int) (ids : List ActorId) :
    b.SameCast (b.rewardAll xp gold ids) :=
  rewardAll_induction (.refl b)
    (fun _ _ _ h => h.trans (sameCast_modifyActor fun _ _ => .single (.gainedXp _)))
    fun _ _ _ h => h.trans (sameCast_modifyActor fun _ _ => .single (.gainedGold _))

theorem sameCast_judge (b : Battle) : b.SameCast b.judge.2 := by
  unfold judge
  split
  · exact .refl b
  · split
    · exact .refl b
    · exact ((b.sameCast_finish _).trans (sameCast_rewardAll ..)).trans (sameCast_announce ..)
    · exact (b.sameCast_finish _).trans (sameCast_announce ..)
    · exact b.sameCast_finish _

/-- Counting a boundary leaves all but the skips, the cooldowns and the taunts as they are. -/
theorem countBoundary_eq (b : Battle) (id : ActorId) :
    ∃ prevented taunts, b.countBoundary id =
      { b with
        boundaries := b.boundaries + 1, cooldowns := b.shortenCooldowns.cooldowns,
        prevented := prevented, taunts := taunts } := by
  unfold countBoundary serveSkip shortenTaunt
  dsimp only
  split <;> split <;> exact ⟨_, _, rfl⟩

theorem sameCast_countBoundary (b : Battle) (id : ActorId) :
    b.SameCast (b.countBoundary id) := by
  obtain ⟨prevented, taunts, heq⟩ := b.countBoundary_eq id
  rw [heq]
  exact .aside rfl rfl rfl rfl rfl rfl

end Battle

end Skirmish
