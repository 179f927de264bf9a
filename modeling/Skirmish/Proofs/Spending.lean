import Skirmish.Proofs.Ending
import Skirmish.Proofs.Frames

/-!
# Spending charges and items

Playing an action spends what it costs: a charge of the actor, if its uses are limited, and a unit
of the party's inventory, if it is used up. `Battle.played?` names the action that a call plays, and
`Battle.plays` those of a run. Nothing but the play of an action changes the charges
(`charges_after?`). The inventory is also changed by effects, which take units away as `Deed.taken`
counts them along the trace of a call; apart from these and from what is added, the number of units
of an item falls by one with each of its uses (`itemCount_unfolds`).

From both follow the counts of whole runs (`spent_exactly`): no one uses an action more often than
it has charges, and no item is used or lost more often than there were units of it.
-/

namespace Skirmish

/-- Whether an effect adds units of an item. -/
def Effect.Gives (e : Effect) (item : String) : Prop :=
  e.kind = .giveItem ∧ e.itemId = some item

/-- Whether an effect adds or takes away units of an item. -/
def Effect.Stocks (e : Effect) : Prop := e.kind = .giveItem ∨ e.kind = .removeItem

instance (e : Effect) (item : String) : Decidable (e.Gives item) :=
  inferInstanceAs (Decidable (_ ∧ _))

namespace Battle

/-! ## What is played -/

/-- The action that a call plays, and who plays it, unless the action is refused. -/
def played? (b : Battle) (q : Request) : Option (ActorId × Action) :=
  match q.call with
  | .play act id named =>
    match b.perform? q.rules act id named with
    | some (_, .ok _) => some (id, act)
    | _ => none
  | _ => none

/-- The actions that are played in a run, in order and with who plays them. -/
def plays (b : Battle) : List Request → List (ActorId × Action)
  | [] => []
  | q :: qs => (b.played? q).toList ++ (b.after? q).elim [] fun b => b.plays qs

theorem plays_cons {b b₁ : Battle} {q : Request} (hq : b.after? q = some b₁)
    (qs : List Request) : b.plays (q :: qs) = (b.played? q).toList ++ b₁.plays qs := by
  rw [plays, hq, Option.elim_some]

variable {rules : Rules} {content : Effect → Prop} {b b' : Battle}

/-! ## Charges -/

theorem charges_judge (b : Battle) : b.judge.2.charges = b.charges := by
  obtain ⟨ended, actors, lines, heq⟩ := b.judge_eq
  rw [heq]

theorem charges_pay (b : Battle) (id : ActorId) (act : Action) :
    (b.pay id act).charges = (b.spendCharge id act).charges := by
  unfold pay
  obtain ⟨inventory, hitem⟩ :=
    (((b.payCosts id act.costs).beginCooldown id act).spendCharge id act).spendItem_eq act
  obtain ⟨cooldowns, hcooldown⟩ := (b.payCosts id act.costs).beginCooldown_eq id act
  rw [hitem, hcooldown]
  unfold spendCharge
  split <;> rfl

/-- Only the play of an action changes charges, and only its own one. -/
theorem charges_after? {q : Request} (h : b.after? q = some b') :
    b'.charges = (b.played? q).elim b.charges fun p => (b.spendCharge p.1 p.2).charges := by
  obtain ⟨rules, call⟩ := q
  cases answers_of_after? (Request.within_true _) h with
  | refused hrefused =>
    simp only [played?, hrefused]
    rfl
  | @played act id _ _ _ b₁ b₂ _ haimed hresolved hplayed =>
    have hsearched : Changes rules (fun _ => True) b b₁ := changes_of_resolveTargets haimed
    simp only [played?, hplayed, Option.elim_some]
    rw [charges_judge, hresolved.sameTurn.charges, charges_pay]
    unfold spendCharge
    rw [hsearched.sameTurn.charges]
    split
    · exact hsearched.sameTurn.charges
    · rfl
  | @passed id b₁ _ hticked =>
    obtain ⟨round, current, ended, actors, log, hpassed⟩ := (b₁.countBoundary id).passOn_eq
    obtain ⟨prevented, taunts, hcounted⟩ := b₁.countBoundary_eq id
    rw [hpassed]
    change (b₁.countBoundary id).charges = b.charges
    rw [hcounted]
    exact hticked.sameTurn.charges
  | idle => rfl
  | judged => exact b.charges_judge
  | resolved hc h =>
    have hnone : b.played? ⟨rules, call⟩ = none := by
      cases call <;> first | rfl | cases hc
    rw [hnone]
    exact h.sameTurn.charges

/-- An actor without a row of charges has an empty one. -/
theorem get?_getD_row (b : Battle) (x : ActorId) (a : String) :
    ((b.charges.get? x).getD ∅).get? a = b.chargesOf? x a := by
  rw [chargesOf?]
  cases b.charges.get? x <;> rfl

theorem chargesOf?_spendCharge_self (b : Battle) (id : ActorId) {act : Action} {m : Nat}
    (hm : act.charges = some m) : (b.spendCharge id act).chargesOf? id act.id =
      some ⟨((b.chargesOf? id act.id).getD ⟨m, m⟩).remaining - 1,
        ((b.chargesOf? id act.id).getD ⟨m, m⟩).max⟩ := by
  have hrow := b.get?_getD_row id act.id
  rw [spendCharge, hm]
  dsimp only
  rw [chargesOf?, Table.get?_insert_self, Option.bind_some, Table.get?_insert_self, hrow]

theorem chargesOf?_spendCharge_of_ne (b : Battle) {id x : ActorId} {act : Action} {a : String}
    (hne : ¬(id = x ∧ act.id = a)) :
    (b.spendCharge id act).chargesOf? x a = b.chargesOf? x a := by
  unfold spendCharge
  split
  · rfl
  · rw [chargesOf?]
    dsimp only
    by_cases hx : x = id
    · subst hx
      have ha : a ≠ act.id := fun ha => hne ⟨rfl, ha.symm⟩
      rw [Table.get?_insert_self, Option.bind_some, Table.get?_insert_of_ne ha, get?_getD_row]
    · rw [Table.get?_insert_of_ne hx]
      rfl

/-- An actor has used an action a number of times, and has charges for as many as are left. -/
structure Used (b : Battle) (x : ActorId) (a : String) (m n : Nat) : Prop where
  le : n ≤ m
  charges : b.chargesOf? x a = if n = 0 then none else some ⟨m - n, m⟩

/-- Whether someone plays an action of an id. -/
def isUse (x : ActorId) (a : String) (p : ActorId × Action) : Bool := p.1 == x && p.2.id == a

/-- Who plays an action has passed the checks. -/
theorem validate_of_played {q : Request} {p : ActorId × Action} (h : b.played? q = some p) :
    b.validate p.2 p.1 = .ok () := by
  unfold played? at h
  split at h
  · split at h
    · next hplayed =>
      cases h
      obtain ⟨_, hr, -⟩ | ⟨_, _, _, -, hvalid, -⟩ := perform?_cases hplayed
      · cases hr
      · exact hvalid
    · cases h
  · cases h

/-- Who passes the checks has a charge left and a unit of the item. -/
theorem stores_of_validate {act : Action} {id : ActorId} (h : b.validate act id = .ok ()) :
    b.usesLeft? id act ≠ some 0 ∧
      (act.consumesItem = true → b.itemCount act.id ≠ 0) := by
  obtain ⟨a, -, h⟩ := bind_eq_ok_iff.1 h
  obtain ⟨-, h⟩ := check_eq_ok_iff.1 h
  obtain ⟨-, -, h⟩ := bind_eq_ok_iff.1 h
  obtain ⟨-, h⟩ := check_eq_ok_iff.1 h
  obtain ⟨huses, h⟩ := check_eq_ok_iff.1 h
  refine ⟨by simpa using huses, fun hconsumes hnone => ?_⟩
  have hkind : act.kind = .item true := eq_of_beq hconsumes
  rw [Action.inventoryItem?, hkind, Option.any_some, hnone] at h
  cases h

/-- A call uses up one of the charges, as long as there is one, if it plays the action, and else
none. -/
theorem Used.after? {q : Request} {x : ActorId} {a : String} {m n : Nat} (hb : b.Used x a m n)
    (h : b.after? q = some b')
    (hm : ∀ p, b.played? q = some p → p.2.id = a → p.2.charges = some m) :
    b'.Used x a m (n + (b.played? q).toList.countP (isUse x a)) := by
  have hcharges : b'.chargesOf? x a =
      (b.played? q).elim (b.chargesOf? x a) fun p => (b.spendCharge p.1 p.2).chargesOf? x a := by
    unfold chargesOf?
    rw [charges_after? h]
    cases b.played? q <;> rfl
  cases hp : b.played? q with
  | none =>
    rw [hp] at hcharges
    exact ⟨hb.le, hcharges.trans hb.charges⟩
  | some p =>
    obtain ⟨id, act⟩ := p
    rw [hp, Option.elim_some] at hcharges
    by_cases huse : id = x ∧ act.id = a
    · obtain ⟨rfl, rfl⟩ := huse
      have hact := hm _ hp rfl
      have hleft := (stores_of_validate (validate_of_played hp)).1
      rw [b.chargesOf?_spendCharge_self id hact, hb.charges] at hcharges
      rw [usesLeft?, hact, hb.charges] at hleft
      have hone : [(id, act)].countP (isUse id act.id) = 1 := by simp [isUse]
      rw [Option.toList_some, hone]
      have hle := hb.le
      by_cases hn : n = 0
      · subst hn
        simp only [if_true, Option.map_some, Option.map_none, Option.getD_none, ne_eq,
          Option.some.injEq] at hleft hcharges
        exact ⟨by omega, hcharges⟩
      · simp only [hn, if_false, Option.map_some, Option.getD_some, ne_eq,
          Option.some.injEq] at hleft hcharges
        refine ⟨by omega, hcharges.trans ?_⟩
        rw [if_neg (Nat.succ_ne_zero n), Nat.sub_sub]
    · have hnone : [(id, act)].countP (isUse x a) = 0 := by
        simpa [isUse] using huse
      rw [Option.toList_some, hnone]
      exact ⟨hb.le, (hcharges.trans (b.chargesOf?_spendCharge_of_ne huse)).trans hb.charges⟩

theorem Used.run {qs : List Request} {x : ActorId} {a : String} {m n : Nat} (hb : b.Used x a m n)
    (h : b.run? qs = some b') (hm : ∀ p ∈ b.plays qs, p.2.id = a → p.2.charges = some m) :
    b'.Used x a m (n + (b.plays qs).countP (isUse x a)) := by
  induction qs generalizing b n with
  | nil =>
    cases h
    exact hb
  | cons q qs ih =>
    obtain ⟨b₁, hq, hqs⟩ := Option.bind_eq_some_iff.1 h
    rw [plays_cons hq] at hm ⊢
    obtain ⟨hfirst, hrest⟩ := List.forall_mem_append.1 hm
    rw [List.countP_append, ← Nat.add_assoc]
    exact ih (hb.after? hq fun p hp => hfirst p (Option.mem_toList.2 hp)) hqs hrest

theorem itemCount_congr (h : b'.inventory = b.inventory) (item : String) :
    b'.itemCount item = b.itemCount item := by
  rw [itemCount, itemCount, h]

end Battle

/-! ## Units of an item -/

section

variable {rules : Rules} {content : Effect → Prop} {b b' : Battle}

/-- Only effects of two kinds change the inventory. -/
theorem Changes.inventory (h : Changes rules content b b')
    (hc : ∀ e, content e → ¬e.Stocks) :
    b'.inventory = b.inventory := by
  refine h.induction (P := fun c => c.inventory = b.inventory) (fun c c' hc' hchange => ?_) rfl
  cases hchange with
  | stocked e he hk => exact absurd hk (hc e he)
  | _ => exact hc'

/-- They do so without a target. -/
theorem Deed.inventory_eq {d : Deed} (hd : d.May rules content b)
    (hsupply : ∀ e o user, d ≠ .supply e o user) : (d.perform rules b).inventory = b.inventory := by
  by_cases hchange : ∃ e o user id, d = .change e o user id ∧ e.Stocks
  · obtain ⟨e, o, user, id, rfl, hk⟩ := hchange
    rcases hk with hk | hk <;> simp only [perform, Battle.applyImmediate, hk]
  · have hmay : d.May rules (fun e => ¬e.Stocks) b := by
      cases d with
      | supply e o user => exact absurd rfl (hsupply e o user)
      | strike e => exact ⟨by simp [Effect.Stocks, hd.2.2], hd.2⟩
      | change e o user id => exact ⟨fun hk => hchange ⟨e, o, user, id, rfl, hk⟩, hd.2⟩
      | afflict =>
        obtain ⟨hst, e, -, hk, hstatus⟩ := hd
        exact ⟨hst, e, by simp [Effect.Stocks, hk], hk, hstatus⟩
      | aim | countDown | dropExpired | wearOff => trivial
    exact (d.changes hmay).inventory fun _ h => h

/-- The units of an item that a deed takes away, as many as its effect says if there are so many. -/
def Deed.taken (rules : Rules) (item : String) (b : Battle) : Deed → Nat
  | supply e o user =>
    if e.kind = .removeItem ∧ e.itemId = some item then
      min (Battle.unitsOf (nearest (b.magnitude rules e o user user))) (b.itemCount item)
    else 0
  | _ => 0

/-- The units that the deeds of a trace take away. -/
def Trace.taken (rules : Rules) (item : String) (tr : Trace) : Nat :=
  tr.foldr (fun p n => p.2.taken rules item p.1 + n) 0

variable {item : String}

/-- An effect without a target takes away what it says and adds nothing to other items. -/
theorem Battle.itemCount_supply {e : Effect} (hgives : ¬e.Gives item) (o : Origin)
    (user : ActorId) :
    b.itemCount item = (b.supply rules e o user).1.itemCount item +
      (Deed.supply e o user).taken rules item b := by
  unfold supply Deed.taken
  dsimp only
  split
  case h_1 hk => simp [hk, itemCount, finish, announce]
  case h_2 hk =>
    rw [if_neg (by simp [hk])]
    cases e.summonId with
    | none => rfl
    | some template =>
      obtain ⟨_, _, _, _, _, _, heq⟩ := summonMany_eq rules.codex template user _ b
      exact (itemCount_congr (congrArg Battle.inventory heq) item).symm
  case h_3 hk =>
    rw [if_neg (by simp [hk])]
    cases hi : e.itemId with
    | none => rfl
    | some other =>
      have hother : item ≠ other := fun heq => hgives ⟨hk, by rw [hi, heq]⟩
      have hkept := b.itemCount_withItem other item
      simp only [if_neg hother] at hkept
      exact (hkept _).symm
  case h_4 hk =>
    cases hi : e.itemId with
    | none => simp
    | some other =>
      have htaken := b.itemCount_withItem other item
        (b.itemCount other - unitsOf (nearest (b.magnitude rules e o user user)))
      change _ = (b.withItem other _).itemCount item + _
      rw [htaken]
      by_cases hother : item = other
      · subst hother
        simp only [hk, true_and, if_true]
        omega
      · have hother' : ¬some other = some item := fun heq => hother (Option.some.inj heq).symm
        simp only [if_neg hother, hother', and_false, if_false]
        rfl
  case h_5 hk =>
    rw [if_neg fun h => hk h.1]
    rfl

/-- Where no effect adds units, a deed leaves those that it does not take away. -/
theorem Deed.itemCount {d : Deed} (hd : d.May rules content b)
    (hgives : ∀ e, content e → ¬e.Gives item) :
    b.itemCount item = (d.perform rules b).itemCount item + d.taken rules item b := by
  by_cases hsupply : ∃ e o user, d = .supply e o user
  · obtain ⟨e, o, user, rfl⟩ := hsupply
    exact Battle.itemCount_supply (hgives e hd.1) o user
  · have hkept : (d.perform rules b).inventory = b.inventory :=
      d.inventory_eq hd fun e o user h => hsupply ⟨e, o, user, h⟩
    have hnothing : d.taken rules item b = 0 := by
      cases d <;> first | rfl | exact absurd ⟨_, _, _, rfl⟩ hsupply
    rw [hnothing, Battle.itemCount_congr hkept]
    rfl

theorem Traced.itemCount {tr : Trace} (h : Traced rules content b tr b')
    (hgives : ∀ e, content e → ¬e.Gives item) :
    b.itemCount item = b'.itemCount item + tr.taken rules item := by
  induction h with
  | nil => rfl
  | @cons b _ d tr hd _ ih =>
    have hfirst := d.itemCount hd hgives
    rw [ih] at hfirst
    change _ = _ + (d.taken rules item b + tr.taken rules item)
    omega

/-! ## Uses of an item -/

namespace Battle

/-- Whether a play uses up a unit of an item. -/
def usesUp (item : String) (p : ActorId × Action) : Bool := p.2.consumesItem && p.2.id == item

theorem inventory_judge (b : Battle) : b.judge.2.inventory = b.inventory := by
  obtain ⟨ended, actors, lines, heq⟩ := b.judge_eq
  rw [heq]

/-- Paying for an action takes the unit that its use takes up. -/
theorem itemCount_pay {act : Action} (id : ActorId)
    (hstock : act.consumesItem = true → b.itemCount act.id ≠ 0) :
    b.itemCount item = (b.pay id act).itemCount item + [(id, act)].countP (usesUp item) := by
  have hkept : ((b.payCosts id act.costs).beginCooldown id act |>.spendCharge id act).inventory =
      b.inventory := by
    obtain ⟨cooldowns, hcooldown⟩ := (b.payCosts id act.costs).beginCooldown_eq id act
    rw [hcooldown]
    unfold spendCharge
    split <;> rfl
  generalize hpaid :
    ((b.payCosts id act.costs).beginCooldown id act).spendCharge id act = b₁ at hkept
  have hcount := fun i => itemCount_congr hkept i
  unfold pay spendItem
  rw [hpaid]
  cases hconsumes : act.consumesItem with
  | false =>
    have hnone : [(id, act)].countP (usesUp item) = 0 := by simp [usesUp, hconsumes]
    rw [hnone]
    exact (hcount item).symm
  | true =>
    have hunit := hstock hconsumes
    rw [if_pos rfl, itemCount_withItem, hcount, hcount]
    by_cases hitem : act.id = item
    · subst hitem
      have hone : [(id, act)].countP (usesUp act.id) = 1 := by simp [usesUp, hconsumes]
      rw [hone, if_pos rfl]
      omega
    · have hnone : [(id, act)].countP (usesUp item) = 0 := by simp [usesUp, hitem]
      rw [hnone, if_neg fun h => hitem h.symm]
      rfl

/-- **Of the units of an item that no effect adds to, a call uses up one if it plays an action that
does so, and its effects take away those of its trace.** -/
theorem itemCount_unfolds {c : Call} {tr : Trace} (h : b.Unfolds rules content c tr b')
    (hgives : ∀ e, content e → ¬e.Gives item) :
    b.itemCount item = b'.itemCount item +
      ((b.played? ⟨rules, c⟩).toList.countP (usesUp item) + tr.taken rules item) := by
  have hsilent : ∀ {b b'}, Changes rules (fun _ => False) b b' →
      ∀ i, b.itemCount i = b'.itemCount i := fun h i =>
    (itemCount_congr (h.inventory fun _ hno => hno.elim) i).symm
  have hpassed : ∀ (b : Battle) id, ((b.countBoundary id).passOn).itemCount item =
      b.itemCount item := by
    intro b id
    obtain ⟨round, current, ended, actors, log, hon⟩ := (b.countBoundary id).passOn_eq
    obtain ⟨prevented, taunts, hcounted⟩ := b.countBoundary_eq id
    refine itemCount_congr ?_ item
    rw [hon]
    change (b.countBoundary id).inventory = b.inventory
    rw [hcounted]
  cases h with
  | refused h =>
    simp only [played?, h]
    rfl
  | @played act id named targets _ b₁ b₂ tr _ hvalid haimed hworks h =>
    have hsearched : Changes rules (fun _ => False) b b₁ := changes_of_resolveTargets haimed
    have hworked := hworks.traced.itemCount hgives
    have hjudged : (b₂.announce s!"{b₂.nameOf id} used {act.name}.").judge.2.itemCount item =
        b₂.itemCount item := itemCount_congr (inventory_judge _) item
    have hpaid : b₁.itemCount item = _ := itemCount_pay id fun hconsumes hnone =>
      (stores_of_validate hvalid).2 hconsumes (((hsilent hsearched) act.id).trans hnone)
    simp only [played?, h, Option.toList_some]
    rw [hsilent hsearched item, hpaid, hworked, hjudged]
    omega
  | passed hid _ _ hticks =>
    rw [hticks.traced.itemCount hgives, hpassed]
    exact congrArg _ (Nat.zero_add _).symm
  | lapsed hid => exact (hpassed ..).symm
  | idle => rfl
  | judged => exact (itemCount_congr b.inventory_judge item).symm
  | chose => rfl
  | aimed => exact hsilent (b.changes_resolveTargets ..) item
  | resolved _ hworks =>
    rw [hworks.traced.itemCount hgives]
    exact congrArg _ (Nat.zero_add _).symm
  | bounded _ hticks =>
    rw [hticks.traced.itemCount hgives]
    exact congrArg _ (Nat.zero_add _).symm
  | cleansed => exact hsilent (b.changes_cleanse ..) item
  | dispelled => exact hsilent (b.changes_dispel ..) item

/-! ## Runs -/

/-- The units of an item that effects take away in a run, as the traces of its calls tell. -/
inductive Loses (content : Effect → Prop) (item : String) :
    Battle → List Request → Nat → Battle → Prop
  | nil (b : Battle) : Loses content item b [] 0 b
  | cons {b b₁ b' : Battle} {q : Request} {qs : List Request} {tr : Trace} {n : Nat}
      (hq : b.after? q = some b₁) (hunfolds : b.Unfolds q.rules content q.call tr b₁)
      (h : Loses content item b₁ qs n b') :
      Loses content item b (q :: qs) (tr.taken q.rules item + n) b'

theorem exists_loses {qs : List Request} (hqs : ∀ q ∈ qs, q.Within content)
    (h : b.run? qs = some b') : ∃ n, b.Loses content item qs n b' := by
  induction qs generalizing b with
  | nil =>
    cases h
    exact ⟨0, .nil _⟩
  | cons q qs ih =>
    obtain ⟨b₁, hq, hrest⟩ := Option.bind_eq_some_iff.1 h
    obtain ⟨hwithin, hqs⟩ := List.forall_mem_cons.1 hqs
    obtain ⟨tr, hunfolds⟩ := unfolds_of_after? hwithin hq
    obtain ⟨n, hloses⟩ := ih hqs hrest
    exact ⟨_, .cons hq hunfolds hloses⟩

/-- **The units of an item that are gone after a run were used up or taken away.** -/
theorem Loses.itemCount {qs : List Request} {n : Nat} (h : b.Loses content item qs n b')
    (hgives : ∀ e, content e → ¬e.Gives item) :
    b.itemCount item = b'.itemCount item + ((b.plays qs).countP (usesUp item) + n) := by
  induction h with
  | nil => rfl
  | @cons b b₁ b' q qs tr n hq hunfolds _ ih =>
    have hfirst := itemCount_unfolds hunfolds hgives
    rw [plays_cons hq, List.countP_append]
    change b.itemCount item = b₁.itemCount item + ((b.played? q).toList.countP _ + _) at hfirst
    omega

/-- **Charges and units are spent exactly.** In a run from the beginning of a battle an actor uses
an action that always declares the same number of charges no more often than that, and it has those
charges left that its own uses did not spend; before the first one no count is kept. In a run
without effects that add units of an item, each unit that is gone was used up in one play or was
taken away by an effect, so there are no more of both than there were units. An action that is
refused spends nothing. -/
theorem spent_exactly {qs : List Request} (h : b.run? qs = some b') :
    (b.Fresh → ∀ x a m, (∀ p ∈ b.plays qs, p.2.id = a → p.2.charges = some m) →
      let n := (b.plays qs).countP (isUse x a)
      n ≤ m ∧ b'.chargesOf? x a = if n = 0 then none else some ⟨m - n, m⟩) ∧
    (∀ item, (∀ q ∈ qs, q.Within fun e => ¬e.Gives item) →
      let uses := (b.plays qs).countP (usesUp item)
      (∃ n, b.Loses (fun e => ¬e.Gives item) item qs n b') ∧
        ∀ n, b.Loses (fun e => ¬e.Gives item) item qs n b' →
          uses + n ≤ b.itemCount item ∧ b'.itemCount item = b.itemCount item - (uses + n)) ∧
    ∀ (c : Battle) (rules : Rules) act id named c' r,
      c.perform? rules act id named = some (c', .error r) →
        c'.charges = c.charges ∧ c'.inventory = c.inventory := by
  refine ⟨fun hfresh x a m hm => ?_, fun item hqs => ⟨exists_loses hqs h, fun n hloses => ?_⟩,
    fun c rules act id named c' r hrefused => ?_⟩
  · have hunused : b.Used x a m 0 := by
      refine ⟨Nat.zero_le m, ?_⟩
      rw [chargesOf?, hfresh.untouched.2]
      rfl
    have hused := hunused.run h hm
    rw [Nat.zero_add] at hused
    exact ⟨hused.le, hused.charges⟩
  · have hcount := hloses.itemCount fun _ hno => hno
    constructor <;> omega
  · obtain ⟨_, -, rfl⟩ | ⟨_, _, _, hr, -⟩ := perform?_cases hrefused
    · exact ⟨rfl, rfl⟩
    · cases hr

/-- A potion that loses another one of its kind when it is used. -/
def leakyPotion : Action :=
  { Action.skill "potion" "Potion" with
    kind := .item true, charges := some 3, effects := [.removeItem "potion" 1] }

/-- The duel with three potions. -/
def potionDuel : Battle := { duel with inventory := Table.empty.insert "potion" 3 }

/-- The hero drinks three times, but the potions only last for two. -/
def drinks : List Request :=
  [⟨{}, .play leakyPotion "hero" []⟩, ⟨{}, .play leakyPotion "hero" []⟩,
    ⟨{}, .play leakyPotion "hero" []⟩]

/-- Two potions are drunk and one is lost, which leaves a charge and no potion. -/
theorem potions_run_out :
    ∃ b' n, potionDuel.run? drinks = some b' ∧ b'.chargesOf? "hero" "potion" = some ⟨1, 3⟩ ∧
      potionDuel.Loses (fun e => ¬e.Gives "potion") "potion" drinks n b' ∧ n = 1 := by
  have hfresh : potionDuel.Fresh := ⟨⟨7⟩, [hero], [slime], duel, _, rfl, rfl⟩
  have huses : (potionDuel.plays drinks).countP (isUse "hero" "potion") = 2 := by decide +kernel
  have hitems : (potionDuel.plays drinks).countP (usesUp "potion") = 2 := by decide +kernel
  have hdeclared : ∀ p ∈ potionDuel.plays drinks, p.2.id = "potion" → p.2.charges = some 3 := by
    decide +kernel
  have hwithin : ∀ q ∈ drinks, q.Within fun e => ¬e.Gives "potion" := by
    have hquiet : (⟨{}, .play leakyPotion "hero" []⟩ : Request).Within
        fun e => ¬e.Gives "potion" := ⟨fun id st hst => (by cases hst), by decide⟩
    simp [drinks, hquiet]
  have hrun : (potionDuel.run? drinks).map (·.itemCount "potion") = some 0 := by decide +kernel
  obtain ⟨b', h, hleft⟩ := Option.map_eq_some_iff.1 hrun
  obtain ⟨hcharges, hunits, -⟩ := spent_exactly h
  obtain ⟨n, hloses⟩ := (hunits "potion" hwithin).1
  obtain ⟨hle, hspent⟩ := (hunits "potion" hwithin).2 n hloses
  have hstock : potionDuel.itemCount "potion" = 3 := rfl
  rw [hitems] at hle hspent
  have hheld := (hcharges hfresh "hero" "potion" 3 hdeclared).2
  rw [huses] at hheld
  exact ⟨b', n, h, hheld, hloses, by omega⟩

end Battle

end

end Skirmish
