import Skirmish.Proofs.Spending

/-!
# Stock

Two kinds of effects move units of an item, once for their user: they add to the party's inventory
or take from it, as many units as their magnitude rounds to. `EffectKind.restock` is the number that
there is then, between none and `greatestCount`. A magnitude that is a count of 32 bits is followed
exactly, and moves no fewer units the larger it is (`restocks_as_told`); one that is larger than any
count moves a single unit, as one below one does.
-/

namespace Skirmish

/-- How many units there are once a kind of effects has moved some. -/
def EffectKind.restock (k : EffectKind) (old n : Nat) : Nat :=
  if k = .giveItem then min (old + n) greatestCount else old - n

namespace EffectKind

theorem restock_giveItem (old n : Nat) :
    giveItem.restock old n = min (old + n) greatestCount := rfl

theorem restock_removeItem (old n : Nat) : removeItem.restock old n = old - n := rfl

/-- The more units are moved, the more there are when they are given, and the fewer when they are
taken. -/
theorem restock_mono (k : EffectKind) (old : Nat) {m n : Nat} (h : m ≤ n) :
    (k = .giveItem → k.restock old m ≤ k.restock old n) ∧
      (k = .removeItem → k.restock old n ≤ k.restock old m) := by
  constructor
  · rintro rfl
    rw [restock_giveItem, restock_giveItem]
    omega
  · rintro rfl
    rw [restock_removeItem, restock_removeItem]
    omega

end EffectKind

namespace Battle

/-! ## Units -/

/-- Of the positive numbers, those that are counts move as many units and all others one. -/
theorem unitsOf_of_pos {n : Int} (hpos : 1 ≤ n) :
    unitsOf n = if n ≤ greatestCount then n.toNat else 1 := by
  simp only [unitsOf, hpos, true_and]

/-- No units are kept as no entry. -/
theorem get?_inventory_withItem (b : Battle) (item q : String) (n : Nat) :
    (b.withItem item n).inventory.get? q =
      if q = item then (if n = 0 then none else some n) else b.inventory.get? q := by
  unfold withItem
  split
  · exact Table.get?_erase ..
  · exact Table.get?_insert ..

/-! ## Effects -/

/-- An effect that moves units of an item does that, says so and nothing else. -/
theorem supply_of_stocks (b : Battle) (rules : Rules) {e : Effect} {item : String}
    (hk : e.Stocks) (hi : e.itemId = some item) (o : Origin) (user : ActorId) :
    ∃ line, b.supply rules e o user =
      ((b.withItem item (e.kind.restock (b.itemCount item)
        (unitsOf (nearest (b.magnitude rules e o user user))))).announce line, .proceed) := by
  unfold supply
  rcases hk with hk | hk
  · simp only [hk, hi, Option.elim_some, EffectKind.restock_giveItem]
    exact ⟨_, rfl⟩
  · simp only [hk, hi, Option.elim_some, EffectKind.restock_removeItem]
    exact ⟨_, rfl⟩

/-- **Effects that move units of an item do as they are told.** In a battle that goes on, whatever
runs the hooks and whoever the targets are, such an effect changes nothing but the entry of its item
and the log, to which it adds a line. If its magnitude rounds to a number from `1` to
`greatestCount`, just so many units come, up to `greatestCount`, or go, as far as there are some;
any larger number moves one unit. No entry is kept for no units. Of the numbers that are followed a
larger one leaves no fewer units when it is given, and no more when it is taken. -/
theorem restocks_as_told (rules : Rules) (run : HookRunner) (o : Origin) (user : ActorId)
    (targets : List ActorId) {e : Effect} {item : String} {s : Scene}
    (hgoing : s.battle.ended = none) (hk : e.Stocks) (hi : e.itemId = some item) :
    ∃ b' line, applyEffect rules run e o user targets s =
        some ({ s with battle := b' }, .proceed) ∧
      b' = { s.battle with inventory := b'.inventory, log := s.battle.log ++ [line] } ∧
      (∀ q, q ≠ item → b'.inventory.get? q = s.battle.inventory.get? q) ∧
      (b'.itemCount item = 0 → b'.inventory.get? item = none) ∧
      (∀ n, nearest (s.battle.magnitude rules e o user user) = n → 1 ≤ n →
        b'.itemCount item = e.kind.restock (s.battle.itemCount item)
          (if n ≤ greatestCount then n.toNat else 1)) ∧
      ∀ old m n, m ≤ n →
        (e.kind = .giveItem → e.kind.restock old m ≤ e.kind.restock old n) ∧
          (e.kind = .removeItem → e.kind.restock old n ≤ e.kind.restock old m) := by
  obtain ⟨line, hsupply⟩ := s.battle.supply_of_stocks rules hk hi o user
  have hover : s.battle.isOver = false := isOver_eq_false_iff.2 hgoing
  have htargetless : e.kind.isTargetless = true := by
    rcases hk with hk | hk <;> rw [hk] <;> rfl
  generalize hunits : unitsOf (nearest (s.battle.magnitude rules e o user user)) = units at hsupply
  refine ⟨(s.battle.withItem item (e.kind.restock (s.battle.itemCount item) units)).announce line,
    line, ?_, rfl, fun q hq => ?_, fun hnone => ?_, fun n hn hpos => ?_,
    fun old m n => EffectKind.restock_mono e.kind old⟩
  · unfold applyEffect
    have hnumbers : s.battle.HasNumbers rules e o user :=
      hasNumbers_of_spawned_eq (by rw [hsupply]; rfl)
    rw [hover, htargetless]
    simp only [Bool.false_eq_true, if_false, if_true, supplied?_of_hasNumbers hnumbers, hsupply,
      Option.map_some]
  · show (s.battle.withItem item _).inventory.get? q = _
    rw [get?_inventory_withItem, if_neg hq]
  · have hleft : (s.battle.withItem item _).itemCount item = 0 := hnone
    rw [itemCount_withItem, if_pos rfl] at hleft
    show (s.battle.withItem item _).inventory.get? item = none
    rw [get?_inventory_withItem, if_pos rfl, if_pos hleft]
  · show (s.battle.withItem item _).itemCount item = _
    rw [itemCount_withItem, if_pos rfl, ← hunits, hn, unitsOf_of_pos hpos]

/-- Two more potions make five. -/
theorem two_potions_more :
    ∃ b', applyEffect {} (runHook {} 0) (.giveItem "potion" 2) {} "hero" [] ⟨potionDuel, []⟩ =
      some (⟨b', []⟩, .proceed) ∧ b'.itemCount "potion" = 5 := by
  have hgoing : potionDuel.ended = none := rfl
  have htwo : nearest (potionDuel.magnitude {} (.giveItem "potion" 2) {} "hero" "hero") = 2 := by
    decide +kernel
  obtain ⟨b', -, h, -, -, -, hcount, -⟩ := restocks_as_told {} (runHook {} 0) {} "hero" []
    (s := ⟨potionDuel, []⟩) hgoing (.inl rfl : (Effect.giveItem "potion" 2).Stocks) rfl
  exact ⟨b', h, hcount 2 htwo (by decide)⟩

/-- A gift of more potions than can be counted is a gift of one. -/
theorem five_billion_potions_are_one :
    nearest (potionDuel.magnitude {} (.giveItem "potion" 5000000000) {} "hero" "hero") =
        5000000000 ∧
      ((applyEffect {} (runHook {} 0) (.giveItem "potion" 5000000000) {} "hero" []
        ⟨potionDuel, []⟩).map fun r => r.1.battle.itemCount "potion") = some 4 ∧
      EffectKind.giveItem.restock (potionDuel.itemCount "potion") 5000000000 = greatestCount := by
  decide +kernel

end Battle

end Skirmish
