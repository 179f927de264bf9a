import Skirmish.Proofs.History
import Skirmish.Proofs.Taunts

/-!
# The stores of a battle

What actions and effects leave behind on actors stands in five tables of a battle, and the stock of
the party in a sixth. Each table has a rule of its own for when an entry goes: a row of cooldowns
when the last of them is over, the shields of an actor when the last one is drained or taken away,
an item when no unit of it is left. Look-ups rely on these rules, which no operation checks.
`StoresFor` spells them out, together with whom the entries belong to, and a battle is `Canonical`
if they belong to its own actors.

Entries are made for whoever is reached, has a shield set or plays an action, and these are in the
battle. Only the source of a taunt need not be: it is whoever applies the effect. That is the actor
of an action, which has passed the checks, or the holder of a hook, which is alive when the hook
runs (`upholds_runHook`); so only a caller that applies an effect on its own could name someone
else.
-/

namespace Skirmish

/-! ## Shields -/

namespace Shield

/-- Shields of distinct ids, none of them with hp below zero. -/
structure Canonical (ss : List Shield) : Prop where
  nodup : (ss.map (·.id)).Nodup
  nonneg : ∀ s ∈ ss, 0 ≤ s.hp

instance (ss : List Shield) : Decidable (Canonical ss) :=
  decidable_of_iff ((ss.map (·.id)).Nodup ∧ ∀ s ∈ ss, 0 ≤ s.hp)
    ⟨fun ⟨hn, h⟩ => ⟨hn, h⟩, fun h => ⟨h.nodup, h.nonneg⟩⟩

namespace Canonical

variable {ss : List Shield}

theorem filter (h : Canonical ss) (p : Shield → Bool) : Canonical (ss.filter p) :=
  ⟨h.nodup.sublist (List.filter_sublist.map _), fun s hs => h.nonneg s (List.mem_filter.1 hs).1⟩

theorem grant (h : Canonical ss) (id : String) (element : Option String) {amount : Int}
    (hamount : 0 ≤ amount) : Canonical (Shield.grant id element amount ss) := by
  induction ss with
  | nil => exact ⟨List.nodup_singleton _, by simpa [Shield.grant] using hamount⟩
  | cons s ss ih =>
    obtain ⟨hnew, hnodup⟩ := List.nodup_cons.1 h.nodup
    obtain ⟨hs, hss⟩ := List.forall_mem_cons.1 h.nonneg
    unfold Shield.grant
    split
    · exact ⟨h.nodup, List.forall_mem_cons.2 ⟨saturate_nonneg (by omega), hss⟩⟩
    · next hid =>
      obtain ⟨hnodup', hss'⟩ := ih ⟨hnodup, hss⟩
      refine ⟨List.nodup_cons.2 ⟨fun hmem => ?_, hnodup'⟩, List.forall_mem_cons.2 ⟨hs, hss'⟩⟩
      exact (Battle.mem_grant.1 hmem).elim hid hnew

/-- No shield is drained of more than it has. -/
theorem drain (h : Canonical ss) (element : Option String) (left : Int) :
    Canonical (Shield.drain element left ss).1 := by
  refine ⟨by rw [Battle.map_id_drain]; exact h.nodup, ?_⟩
  have hnonneg := h.nonneg
  clear h
  induction ss generalizing left with
  | nil => exact List.forall_mem_nil _
  | cons s ss ih =>
    obtain ⟨hs, hss⟩ := List.forall_mem_cons.1 hnonneg
    unfold Shield.drain
    split
    · exact hnonneg
    · split
      · refine List.forall_mem_cons.2 ⟨?_, ih _ hss⟩
        dsimp only
        omega
      · exact List.forall_mem_cons.2 ⟨hs, ih _ hss⟩

end Canonical

end Shield

namespace Battle

/-! ## Stores -/

/-- The shields of a battle belong to some actors, and no actor is listed without one. -/
def ShieldsFor (P : ActorId → Prop) (b : Battle) : Prop :=
  b.shields.Each fun x ss => P x ∧ ss ≠ [] ∧ Shield.Canonical ss

/-- The stores of a battle belong to some actors, and what is over is not listed: no actor without a
cooldown or a shield, no cooldown without a turn and no item without a unit. No one has more uses
left of an action than it allows, nor was told to skip a turn at a boundary that is still to
come. -/
structure StoresFor (P : ActorId → Prop) (b : Battle) : Prop where
  cooldowns : b.cooldowns.Each fun x row => P x ∧ row.isEmpty = false ∧ row.Each fun _ n => 1 ≤ n
  charges : b.charges.Each fun x row => P x ∧ row.Each fun _ c => c.remaining ≤ c.max
  shields : b.ShieldsFor P
  taunts : b.taunts.Each fun x t => P x ∧ P t.source
  prevented : b.prevented.Each fun x n => P x ∧ n ≤ b.boundaries
  inventory : b.inventory.Each fun _ n => n ≠ 0

instance (P : ActorId → Prop) [DecidablePred P] (b : Battle) : Decidable (b.ShieldsFor P) :=
  inferInstanceAs (Decidable (Table.Each ..))

instance (P : ActorId → Prop) [DecidablePred P] (b : Battle) : Decidable (b.StoresFor P) :=
  decidable_of_iff
    ((b.cooldowns.Each fun x row => P x ∧ row.isEmpty = false ∧ row.Each fun _ n => 1 ≤ n) ∧
      (b.charges.Each fun x row => P x ∧ row.Each fun _ c => c.remaining ≤ c.max) ∧
      b.ShieldsFor P ∧ (b.taunts.Each fun x t => P x ∧ P t.source) ∧
      (b.prevented.Each fun x n => P x ∧ n ≤ b.boundaries) ∧ b.inventory.Each fun _ n => n ≠ 0)
    ⟨fun ⟨hcd, hch, hs, ht, hp, hi⟩ => ⟨hcd, hch, hs, ht, hp, hi⟩,
      fun h => ⟨h.cooldowns, h.charges, h.shields, h.taunts, h.prevented, h.inventory⟩⟩

/-- The stores of a battle belong to its own actors. -/
abbrev Canonical (b : Battle) : Prop := b.StoresFor (b.actors.contains · = true)

variable {P : ActorId → Prop} {b b' : Battle}

theorem StoresFor.mono {Q : ActorId → Prop} (h : b.StoresFor P) (hPQ : ∀ x, P x → Q x) :
    b.StoresFor Q where
  cooldowns := h.cooldowns.mono fun _ _ h => ⟨hPQ _ h.1, h.2⟩
  charges := h.charges.mono fun _ _ h => ⟨hPQ _ h.1, h.2⟩
  shields := h.shields.mono fun _ _ h => ⟨hPQ _ h.1, h.2⟩
  taunts := h.taunts.mono fun _ _ h => ⟨hPQ _ h.1, hPQ _ h.2⟩
  prevented := h.prevented.mono fun _ _ h => ⟨hPQ _ h.1, h.2⟩
  inventory := h.inventory

/-- A battle at its beginning has empty stores, apart from the stock that it is given. -/
theorem Fresh.canonical (h : b.Fresh) (hstock : b.inventory.Each fun _ n => n ≠ 0) :
    b.Canonical := by
  obtain ⟨_, _, _, _, _, _, _, rfl⟩ := h.eq_bare
  exact ⟨Table.each_empty _, Table.each_empty _, Table.each_empty _, Table.each_empty _,
    Table.each_empty _, hstock⟩

/-! ## What happens to shields -/

namespace ShieldsFor

theorem congr (h : b.ShieldsFor P) (heq : b'.shields = b.shields) : b'.ShieldsFor P := by
  rw [ShieldsFor, heq]
  exact h

/-- The shields of an actor without an entry are none. -/
theorem shieldsOf (h : b.ShieldsFor P) (x : ActorId) :
    (b.shieldsOf x ≠ [] → P x) ∧ Shield.Canonical (b.shieldsOf x) := by
  unfold Battle.shieldsOf
  cases hx : b.shields.get? x with
  | none => exact ⟨fun hne => absurd rfl hne, List.nodup_nil, List.forall_mem_nil _⟩
  | some ss =>
    obtain ⟨hP, -, hss⟩ := h x ss hx
    exact ⟨fun _ => hP, hss⟩

theorem withShields (h : b.ShieldsFor P) {id : ActorId} {ss : List Shield} (hid : ss ≠ [] → P id)
    (hss : Shield.Canonical ss) : (b.withShields id ss).ShieldsFor P := by
  cases ss with
  | nil => exact h.erase id
  | cons s ss => exact h.insert ⟨hid (List.cons_ne_nil _ _), List.cons_ne_nil _ _, hss⟩

theorem removeShield (h : b.ShieldsFor P) (id : ActorId) (shield : String) :
    (b.removeShield id shield).ShieldsFor P := by
  obtain ⟨hid, hss⟩ := h.shieldsOf id
  refine h.withShields (fun hne => hid fun hnil => ?_) (hss.filter _)
  rw [hnil] at hne
  exact hne rfl

theorem addShield (h : b.ShieldsFor P) {id : ActorId} (hid : P id) (shield : String)
    (element : Option String) {amount : Int} (hamount : 0 ≤ amount) :
    (b.addShield id shield element amount).ShieldsFor P :=
  h.withShields (fun _ => hid) ((h.shieldsOf id).2.grant shield element hamount)

theorem setShield (h : b.ShieldsFor P) {id : ActorId} (hid : P id) (shield : String)
    (element : Option String) (amount : Int) :
    (b.setShield id shield element amount).ShieldsFor P := by
  unfold Battle.setShield
  dsimp only
  split
  · next hpos => exact (h.removeShield id shield).addShield hid shield element (Int.le_of_lt hpos)
  · exact h.removeShield id shield

theorem absorb (h : b.ShieldsFor P) (id : ActorId) (element : Option String) (amount : Int) :
    (b.absorb id element amount).2.ShieldsFor P := by
  obtain ⟨hid, hss⟩ := h.shieldsOf id
  refine h.withShields (fun hne => hid fun hnil => ?_) ((hss.drain element _).filter _)
  rw [hnil] at hne
  exact hne rfl

theorem removeGranted (h : b.ShieldsFor P) (codex : Codex) (id : ActorId) (status : String) :
    (b.removeGranted codex id status).ShieldsFor P := by
  unfold Battle.removeGranted
  cases (codex.status? status).bind Status.shieldId? with
  | none => exact h
  | some shield => exact h.removeShield id shield

theorem removal (h : b.ShieldsFor P) (r : Removal) (codex : Codex) :
    (r.perform codex b).ShieldsFor P := by
  rcases r.perform_cases codex b with ⟨heq, -⟩ | heq
  · rw [heq]
    exact h
  · rw [heq]
    exact List.foldlRecOn (motive := ShieldsFor P) _ _ (h.congr rfl) fun _ hc st _ =>
      hc.removeGranted codex r.id st

theorem grantShield (h : b.ShieldsFor P) {id : ActorId} (hid : P id) (codex : Codex) (s : Status) :
    (b.grantShield codex id s).ShieldsFor P := by
  unfold Battle.grantShield
  split
  · exact h.setShield hid _ _ _
  · exact h

end ShieldsFor

end Battle

/-! ## Deeds -/

section

variable {rules : Rules} {content : Effect → Prop} {P : ActorId → Prop} {b b' : Battle}

/-- Only an actor of the battle passes a test. -/
theorem Battle.contains_of_any {p : Actor → Bool} {id : ActorId}
    (h : (b.actor? id).any p = true) : b.actors.contains id = true := by
  cases ha : b.actor? id with
  | none => simp [ha] at h
  | some a => exact Table.contains_iff.2 ⟨a, ha⟩

/-- Deeds give shields to no one but whom they reach or find. -/
theorem Battle.ShieldsFor.deed {d : Deed} (h : b.ShieldsFor P) (hd : d.May rules content b)
    (hP : ∀ x, b.actors.contains x = true → P x) : (d.perform rules b).ShieldsFor P := by
  cases d with
  | aim s id =>
    obtain ⟨m, taunts, heq, -⟩ := b.resolveTargets_battle s id []
    exact h.congr (by rw [Deed.perform, heq])
  | supply e o user =>
    obtain ⟨_, _, _, _, _, _, _, _, heq⟩ := b.supply_eq rules e o user
    exact h.congr (by rw [Deed.perform, heq])
  | strike e o user id rolls =>
    obtain ⟨_, _, _, _, heq, hsame | ⟨element, amount, habsorbed⟩⟩ :=
      b.strike_eq rules e o user id rolls
    · exact h.congr (by rw [Deed.perform, heq, hsame])
    · exact (h.absorb id element amount).congr (by rw [Deed.perform, heq, habsorbed])
  | change e o user id =>
    have hid : P id := hP id (Battle.contains_of_any hd.2)
    rcases b.applyImmediate_cases rules e o user id with ⟨_, _, heq⟩ | ⟨r, _, heq⟩ |
      ⟨shield, element, amount, _, hamount, heq⟩ | ⟨-, _, heq⟩ | ⟨-, _, heq⟩
    · exact h.congr (by rw [Deed.perform, heq])
    · exact (h.removal r rules.codex).congr (by rw [Deed.perform, heq])
    · exact (h.addShield hid shield element hamount.1).congr (by rw [Deed.perform, heq])
    · exact h.congr (by rw [Deed.perform, heq])
    · exact h.congr (by rw [Deed.perform, heq])
  | afflict id st turns =>
    rw [Deed.perform]
    rcases b.afflict_eq rules.codex id st turns with heq | ⟨hid, actors, log, n, -, heq⟩
    · rw [heq]
      exact h
    · rw [heq]
      have hbefore : ({ b with actors := actors, log := log } : Battle).ShieldsFor P := h.congr rfl
      exact hbefore.grantShield (hP id hid) rules.codex st
  | countDown | dropExpired => exact h.congr rfl
  | wearOff id status => exact (h.removeGranted rules.codex id status).congr rfl

/-- Whoever is taunted is reached, and the source of the taunt is who does the deed. -/
theorem Deed.of_taunt? {d : Deed} {x : ActorId} {t : Taunt} (h : d.taunt? = some (x, t))
    (hd : d.May rules content b) : b.actors.contains x = true ∧ d.user? = some t.source := by
  cases d with
  | change e o user id =>
    dsimp only [taunt?] at h
    split at h
    · obtain ⟨rfl, rfl⟩ := Prod.mk.inj (Option.some.inj h)
      exact ⟨Battle.contains_of_any hd.2, rfl⟩
    · cases h
  | _ => cases h

/-- Only whoever is reached is told to skip a turn, and the mark is that of the boundaries so
far. -/
theorem Change.prevented_each (h : Change rules content b b')
    (hb : b.prevented.Each fun x n => b.actors.contains x = true ∧ n ≤ b.boundaries) :
    b'.prevented.Each fun x n => b'.actors.contains x = true ∧ n ≤ b'.boundaries := by
  have hkept : b.prevented.Each fun x n => b'.actors.contains x = true ∧ n ≤ b'.boundaries := by
    refine hb.mono fun x n ⟨hx, hn⟩ => ⟨h.precedes.present x hx, ?_⟩
    rw [h.sameTurn.boundaries]
    exact hn
  cases h with
  | prevented e hc hk id hr =>
    exact hkept.insert ⟨Battle.contains_of_any hr, Nat.le_refl _⟩
  | _ => exact hkept

theorem Battle.withItem_each (h : b.inventory.Each fun _ n => n ≠ 0) (item : String) (n : Nat) :
    (b.withItem item n).inventory.Each fun _ n => n ≠ 0 := by
  unfold Battle.withItem
  dsimp only
  split
  · exact h.erase item
  · next hn => exact h.insert hn

theorem Change.inventory_each (h : Change rules content b b')
    (hb : b.inventory.Each fun _ n => n ≠ 0) : b'.inventory.Each fun _ n => n ≠ 0 := by
  cases h with
  | stocked e hc hk item hi n => exact Battle.withItem_each hb item n
  | _ => exact hb

/-- **A deed of one of the actors keeps the stores canonical.** -/
theorem Deed.canonical {d : Deed} (hd : d.May rules content b)
    (huser : ∀ u ∈ d.user?, b.actors.contains u = true) (hb : b.Canonical) :
    (d.perform rules b).Canonical := by
  have hchanges := d.changes hd
  have hsame := hchanges.sameTurn
  have hpresent := hchanges.precedes.present
  have hkept := hb.mono hpresent
  refine ⟨?_, ?_, hkept.shields.deed hd hpresent, fun x t ht => ?_, ?_, ?_⟩
  · rw [hsame.cooldowns]
    exact hkept.cooldowns
  · rw [hsame.charges]
    exact hkept.charges
  · rcases d.taunt_cases rules b x with hold | ⟨-, hnone⟩ | ⟨t', hlaid, ht'⟩
    · exact hkept.taunts x t (hold ▸ ht)
    · cases hnone.symm.trans ht
    · obtain rfl := Option.some.inj (ht'.symm.trans ht)
      obtain ⟨hx, hsource⟩ := Deed.of_taunt? hlaid hd
      exact ⟨hpresent x hx, hpresent _ (huser _ hsource)⟩
  · exact hchanges.induction (fun _ _ hc h => h.prevented_each hc) hb.prevented
  · exact hchanges.induction (fun _ _ hc h => h.inventory_each hc) hb.inventory

/-! ## Resolution -/

/-- Everyone stays in the battle, and its stores stay canonical if whoever acts, if someone does, is
in it. -/
structure Battle.Upholds (who : Option ActorId) (b b' : Battle) : Prop where
  present : ∀ x, b.actors.contains x = true → b'.actors.contains x = true
  canonical : (∀ u ∈ who, b.actors.contains u = true) → b.Canonical → b'.Canonical

namespace Battle.Upholds

variable {who : Option ActorId}

theorem refl (b : Battle) : b.Upholds who b := ⟨fun _ h => h, fun _ h => h⟩

theorem trans {b'' : Battle} (h : b.Upholds who b') (h' : b'.Upholds who b'') :
    b.Upholds who b'' where
  present x hx := h'.present x (h.present x hx)
  canonical hwho hb := h'.canonical (fun u hu => h.present u (hwho u hu)) (h.canonical hwho hb)

theorem of_none (h : b.Upholds none b') : b.Upholds who b' :=
  ⟨h.present, fun _ hb => h.canonical nofun hb⟩

theorem of_course (h : Relation.ReflTransGen (Battle.Upholds who) b b') : b.Upholds who b' := by
  induction h with
  | refl => exact .refl _
  | tail _ h ih => exact ih.trans h

end Battle.Upholds

theorem ActBy.upholds {who : Option ActorId} (h : ActBy rules content who b b') :
    b.Upholds who b' := by
  obtain ⟨d, -, huser, hd, rfl⟩ := h
  exact ⟨(d.changes hd).precedes.present,
    fun hwho hb => d.canonical hd (fun u hu => hwho u (huser u hu)) hb⟩

/-- No one does the deeds of a boundary. -/
theorem Wears.upholds (h : Wears rules b b') : b.Upholds none b' := by
  obtain ⟨d, hboundary, rfl⟩ := h
  have hd : d.May rules (fun _ => True) b := by cases d <;> trivial
  have hnone : d.user? = none := by cases d <;> first | rfl | cases hboundary
  exact ⟨(d.changes hd).precedes.present, fun _ hb => d.canonical hd (by simp [hnone]) hb⟩

/-- The effects of one who plays them keep the stores canonical, as far as hooks do. -/
theorem upholds_playEffects (rules : Rules) (es : List Effect) (o : Origin) (user : ActorId)
    (targets : List ActorId) (s : Scene) :
    ResolvesBy rules (fun _ => True) (Battle.Upholds (some user)) s fun run =>
      playEffects rules run o user targets es s := by
  have hresolves : ResolvesBy rules (fun _ => True) (ActBy rules (fun _ => True) (some user)) s
      fun run => playEffects rules run o user targets es s :=
    resolves_playEffects_by (fun _ _ => trivial) o user targets s
  exact hresolves.mono fun _ _ => ActBy.upholds

theorem contains_of_effects {c : HookCall} {codex : Codex} {s : Scene}
    (h : (c.effects codex s).isEmpty = false) : s.battle.actors.contains c.holder = true := by
  obtain ⟨-, -, -, halive, -⟩ := effects_ne_nil_iff.1 (List.isEmpty_eq_false_iff.1 h)
  exact Battle.contains_of_any halive

/-- **Hooks keep the stores canonical at every depth**: the effects of a hook are those of its
holder, which is in the battle when there are any to run. -/
theorem upholds_runHook (rules : Rules) (depth : Nat) (c : HookCall) :
    (runHook rules depth c).FollowsBy (Battle.Upholds none) := by
  induction depth generalizing c with
  | zero =>
    intro s s' flow h
    obtain ⟨-, rfl, -⟩ | ⟨d, -, hd, -⟩ := runHook_eq_some h
    · exact .refl _
    · cases hd
  | succ depth ih =>
    intro s s' flow h
    cases hc : (c.effects rules.codex s).isEmpty with
    | true =>
      rw [runHook_of_isEmpty hc] at h
      cases h
      exact .refl _
    | false =>
      have hholder := contains_of_effects hc
      obtain ⟨hempty, -⟩ | ⟨d, s₁, hd, rfl, hplay⟩ := runHook_eq_some h
      · cases hc.symm.trans hempty
      · cases hd
        obtain ⟨hrunning, hcourse⟩ := (upholds_playEffects rules ..).leads
          (fun c' s s' flow h => (ih c' s s' flow h).mono fun _ _ => .of_none) _ _ hplay
        obtain ⟨hpresent, hcanonical⟩ := Battle.Upholds.of_course hcourse
        refine ⟨by rw [hrunning, List.tail_cons], .single ⟨hpresent, fun _ => hcanonical ?_⟩⟩
        rintro u ⟨rfl⟩
        exact hholder

namespace Battle

variable {who : Option ActorId}

/-- What is played from a battle in which no hook runs upholds what its events uphold. -/
theorem upholds_play? {step : HookRunner → Step} {flow : Flow}
    (hstep : ResolvesBy rules (fun _ => True) (Upholds who) ⟨b, []⟩ fun run => step run ⟨b, []⟩)
    (h : b.play? rules step = some (b', flow)) : b.Upholds who b' := by
  obtain ⟨⟨s, flow'⟩, hs, heq⟩ := Option.map_eq_some_iff.1 h
  cases heq
  have hleads := hstep.leads (fun c s s' flow h =>
    (upholds_runHook rules _ c s s' flow h).mono fun _ _ => .of_none) _ _ hs
  exact .of_course hleads.course

end Battle

end

/-- Whoever a resolution applies an effect for, if it does so. -/
def Resolution.user? : Resolution → Option ActorId
  | .effect _ _ user _ => some user
  | _ => none

/-- Whoever a call applies an effect for aside from an action, if it does so. -/
def Call.user? : Call → Option ActorId
  | .resolve r => r.user?
  | _ => none

theorem Resolution.upholds (r : Resolution) (rules : Rules) (s : Scene) :
    ResolvesBy rules (fun _ => True) (Battle.Upholds r.user?) s fun run => r.step rules run s := by
  cases r with
  | effect e o user targets =>
    have hresolves : ResolvesBy rules (fun _ => True) (ActBy rules (fun _ => True) (some user)) s
        fun run => applyEffect rules run e o user targets s :=
      resolves_applyEffect_by trivial o user targets s
    exact hresolves.mono fun _ _ => ActBy.upholds
  | status id st turns =>
    have hresolves : ResolvesBy rules (fun _ => True) (ActBy rules (fun _ => True) none) s
        fun run => applyStatus rules run id st turns s :=
      resolves_applyStatus_by (e := .applyStatus st turns) trivial rfl rfl none id s
    exact hresolves.mono fun _ _ => ActBy.upholds
  | boundary id => exact (wears_tick id s).mono fun _ _ => Wears.upholds
  | hook c => exact .hook s c
  | damage attacker victim => exact resolves_onDamage attacker victim s

namespace Battle

/-! ## Paying -/

variable {P : ActorId → Prop} {b b' : Battle} {rules : Rules}

theorem StoresFor.beginCooldown (h : b.StoresFor P) {id : ActorId} (hid : P id) (act : Action) :
    (b.beginCooldown id act).StoresFor P := by
  have hrow : ((b.cooldowns.get? id).getD ∅).Each fun _ n => 1 ≤ n :=
    Table.Each.getD (h.cooldowns.mono fun _ _ h => h.2.2) id
  unfold Battle.beginCooldown
  split
  · exact h
  · next hpos =>
    exact { h with
      cooldowns := h.cooldowns.insert
        ⟨hid, Table.isEmpty_insert .., hrow.insert (Nat.pos_of_ne_zero hpos)⟩ }

theorem StoresFor.spendCharge (h : b.StoresFor P) {id : ActorId} (hid : P id) (act : Action) :
    (b.spendCharge id act).StoresFor P := by
  have hrow : ((b.charges.get? id).getD ∅).Each fun _ c => c.remaining ≤ c.max :=
    Table.Each.getD (h.charges.mono fun _ _ h => h.2) id
  unfold Battle.spendCharge
  split
  · exact h
  · next max _ =>
    have hleft : ((((b.charges.get? id).getD ∅).get? act.id).getD ⟨max, max⟩).remaining ≤
        ((((b.charges.get? id).getD ∅).get? act.id).getD ⟨max, max⟩).max := by
      cases hc : ((b.charges.get? id).getD ∅).get? act.id with
      | none => exact Nat.le_refl max
      | some c => exact hrow act.id c hc
    exact { h with
      charges := h.charges.insert ⟨hid, hrow.insert (Nat.le_trans (Nat.sub_le _ 1) hleft)⟩ }

theorem StoresFor.spendItem (h : b.StoresFor P) (act : Action) : (b.spendItem act).StoresFor P := by
  unfold Battle.spendItem
  split
  · exact { h with inventory := withItem_each h.inventory _ _ }
  · exact h

theorem StoresFor.pay (h : b.StoresFor P) {id : ActorId} (hid : P id) (act : Action) :
    (b.pay id act).StoresFor P := by
  have hcosts : (b.payCosts id act.costs).StoresFor P := { h with }
  exact ((hcosts.beginCooldown hid act).spendCharge hid act).spendItem act

/-! ## Counting a boundary -/

theorem shortenRow_each (row : Table Nat) : (shortenRow row).Each fun _ n => 1 ≤ n := by
  have hany : (row.mapValues (· - 1)).Each fun _ _ => True := fun _ _ _ => trivial
  exact (hany.filter _).mono fun _ _ h => of_decide_eq_true h.2

theorem StoresFor.serveSkip (h : b.StoresFor P) (id : ActorId) : (b.serveSkip id).StoresFor P := by
  unfold Battle.serveSkip
  split
  · exact { h with prevented := h.prevented.erase id }
  · exact h

/-- Rows that are left empty are dropped, and so are entries without a turn. -/
theorem StoresFor.shortenCooldowns (h : b.StoresFor P) : b.shortenCooldowns.StoresFor P := by
  have hrows : (b.cooldowns.mapValues shortenRow).Each fun x row =>
      P x ∧ row.Each fun _ n => 1 ≤ n :=
    h.cooldowns.mapValues shortenRow fun _ row h => ⟨h.1, shortenRow_each row⟩
  refine { h with cooldowns := (hrows.filter _).mono fun x row hrow => ?_ }
  obtain ⟨⟨hx, hpos⟩, hne⟩ := hrow
  exact ⟨hx, by simpa using hne, hpos⟩

theorem StoresFor.shortenTaunt (h : b.StoresFor P) (id : ActorId) :
    (b.shortenTaunt id).StoresFor P := by
  unfold Battle.shortenTaunt
  split
  · exact h
  · next t ht =>
    refine { h with taunts := ?_ }
    dsimp only
    split
    · exact h.taunts.erase id
    · exact h.taunts.insert (h.taunts id t ht)

theorem StoresFor.countBoundary (h : b.StoresFor P) (id : ActorId) :
    (b.countBoundary id).StoresFor P := by
  have hserved := h.serveSkip id
  have hcounted : ({ b.serveSkip id with boundaries := (b.serveSkip id).boundaries + 1 } :
      Battle).StoresFor P :=
    { hserved with prevented := hserved.prevented.mono fun _ _ h => ⟨h.1, Nat.le_succ_of_le h.2⟩ }
  exact hcounted.shortenCooldowns.shortenTaunt id

/-! ## Calls -/

theorem StoresFor.search (h : b.StoresFor P) (s : Selector) (id : ActorId) (named : List ActorId) :
    (b.resolveTargets s id named).2.StoresFor P := by
  obtain ⟨m, taunts, heq, rfl | ⟨-, rfl⟩⟩ := b.resolveTargets_battle s id named
  · rw [heq]
    exact { h with }
  · rw [heq]
    exact { h with taunts := h.taunts.erase id }

theorem StoresFor.judge (h : b.StoresFor P) : b.judge.2.StoresFor P := by
  obtain ⟨ended, actors, lines, heq⟩ := b.judge_eq
  rw [heq]
  exact { h with }

theorem StoresFor.passOn (h : b.StoresFor P) : b.passOn.StoresFor P := by
  obtain ⟨round, current, ended, actors, log, heq⟩ := b.passOn_eq
  rw [heq]
  exact { h with }

theorem StoresFor.removal (h : b.StoresFor P) (r : Removal) (codex : Codex) :
    (r.perform codex b).StoresFor P := by
  have hshields := h.shields.removal r codex
  obtain ⟨actors, shields, heq⟩ := r.perform_eq codex b
  rw [heq] at hshields ⊢
  exact { h with shields := hshields }

/-- An actor that plays an action has passed the checks, so it is in the battle. -/
theorem Canonical.perform? (hb : b.Canonical) {act : Action} {id : ActorId} {named : List ActorId}
    {out : Except Refusal Report} (h : b.perform? rules act id named = some (b', out)) :
    b'.Canonical := by
  rcases perform?_cases h with ⟨r, -, rfl⟩ | ⟨report, targets, b₁, -, hvalid, haimed, -, hout⟩
  · exact { hb with }
  · obtain ⟨a, hchecked⟩ := checkActor_of_validate hvalid
    obtain ⟨-, ha, -⟩ := checkActor_eq_ok_iff.1 hchecked
    have hid : b.actors.contains id = true := Table.contains_iff.2 ⟨a, ha⟩
    have hsearched := hb.search act.targeting id named
    rw [haimed] at hsearched
    have hfound : Changes rules (fun _ => True) b b₁ := changes_of_resolveTargets haimed
    have hpresent := (hfound.precedes.trans (b₁.precedes_pay id act)).present
    have hpaid : (b₁.pay id act).Canonical := (hsearched.pay hid act).mono hpresent
    obtain ⟨⟨b₂, flow⟩, hplay, heq⟩ := Option.bind_eq_some_iff.1 hout
    cases heq
    have huser : ∀ u ∈ some id, (b₁.pay id act).actors.contains u = true := by
      rintro u ⟨rfl⟩
      exact hpresent id hid
    have hplayed : b₂.Canonical :=
      (upholds_play? (upholds_playEffects rules ..) hplay).canonical huser hpaid
    have hsaid : (b₂.announce s!"{b₂.nameOf id} used {act.name}.").Canonical := { hplayed with }
    exact hsaid.judge.mono (precedes_judge _).present

theorem Canonical.endTurn? (hb : b.Canonical) (h : b.endTurn? rules = some b') : b'.Canonical := by
  cases hid : b.actingActor? with
  | none =>
    simp only [Battle.endTurn?, hid] at h
    cases h
    exact hb
  | some id =>
    obtain ⟨b₁, hticked, rfl, -⟩ := endTurn?_eq_some hid h
    have hboundary : b₁.Canonical := by
      obtain ⟨-, flow, hplay, -⟩ | ⟨-, rfl⟩ := ticked?_cases (fun _ _ _ _ _ _ => trivial) hticked
      · have hpassed := upholds_play? ((Resolution.boundary id).upholds rules ⟨b, []⟩) hplay
        exact hpassed.canonical (fun _ hu => absurd hu (Option.not_mem_none _)) hb
      · exact hb
    exact ((hboundary.countBoundary id).passOn).mono
      ((b₁.precedes_countBoundary id).trans (precedes_passOn _)).present

/-- **Every call keeps the stores canonical, where whoever it applies an effect for is in the
battle.**
-/
theorem Canonical.after? (hb : b.Canonical) {q : Request}
    (huser : ∀ u ∈ q.call.user?, b.actors.contains u = true) (h : b.after? q = some b') :
    b'.Canonical := by
  have hpresent := (answers_of_after? q.within_true h).precedes.present
  obtain ⟨rules, call⟩ := q
  cases call with
  | play act id named =>
    obtain ⟨⟨b₁, out⟩, hplayed, rfl⟩ := Option.map_eq_some_iff.1 h
    exact hb.perform? hplayed
  | pass => exact hb.endTurn? h
  | choose id acts =>
    cases h
    obtain ⟨m, heq⟩ := b.chooseAction_seed id acts
    rw [heq]
    exact { hb with }
  | judge =>
    cases h
    exact hb.judge.mono hpresent
  | aim s id named =>
    cases h
    exact (hb.search s id named).mono hpresent
  | resolve r =>
    obtain ⟨⟨b₁, flow⟩, hplay, rfl⟩ := Option.map_eq_some_iff.1 h
    exact (upholds_play? (r.upholds rules ⟨b, []⟩) hplay).canonical huser hb
  | cleanse id tags =>
    cases h
    exact (hb.removal (.cleansing rules.codex id tags) rules.codex).mono hpresent
  | dispel id status =>
    cases h
    exact (hb.removal (.dispelling id status) rules.codex).mono hpresent

/-! ## Runs -/

/-- Whoever a call applies an effect for stands in a roster. -/
def ByMember (b : Battle) (q : Request) (_ : Battle) : Prop :=
  ∀ u ∈ q.call.user?, u ∈ b.players ∨ u ∈ b.enemies

theorem Rostered.contains (h : b.Rostered) {x : ActorId} (hx : x ∈ b.players ∨ x ∈ b.enemies) :
    b.actors.contains x = true :=
  Table.mem_keys_iff.1 ((h.keys x).2 (h.perm.mem_iff.2 (List.mem_append.2 hx)))

/-- **From the beginning of a battle with a stock that lists no item without a unit, whatever is
called in whatever order, the stores stay canonical, as long as whoever a caller applies effects for
stands in a roster**, and each further such call keeps them so; it returns unless something in it
cannot be computed. -/
theorem stores_stay_canonical (hb : b.Fresh) (hstock : b.inventory.Each fun _ n => n ≠ 0)
    (hrun : b.Stretch ByMember b') :
    b'.Canonical ∧
      ∀ q : Request, (∀ u ∈ q.call.user?, u ∈ b'.players ∨ u ∈ b'.enemies) →
        (∃ c, b'.after? q = some c ∧ c.Canonical) ∨ b'.BreaksOff q := by
  obtain ⟨hrostered, hcanonical⟩ : b'.Rostered ∧ b'.Canonical :=
    hrun.induction (I := fun c => c.Rostered ∧ c.Canonical)
      (fun c q c' ⟨hrostered, hc⟩ hq hmember =>
        ⟨hrostered.after_call hq, hc.after? (fun u hu => hrostered.contains (hmember u hu)) hq⟩)
      ⟨hb.rostered, hb.canonical hstock⟩
  refine ⟨hcanonical, fun q hmember => (b'.after?_returns q).imp_left fun ⟨c, hc⟩ => ?_⟩
  exact ⟨c, hc, hcanonical.after? (fun u hu => hrostered.contains (hmember u hu)) hc⟩

/-- The duel with one smoke bomb. -/
def smokyDuel : Battle := { duel with inventory := Table.empty.insert "smoke" 1 }

/-- A smoke bomb, which makes its target turn to the thrower and lose a turn. -/
def smokeBomb : Action :=
  { Action.skill "smoke" "Smoke bomb" with
    kind := .item true, cooldown := 2, charges := some 1, effects := [.taunt 2, .preventAction] }

/-- The hero, under a shield, throws the only smoke bomb and ends its turn: every store has an
entry, but the inventory has none left. -/
theorem canonical_after_smoke :
    ∃ b', smokyDuel.run? [⟨{}, .resolve (.effect (.shield "aura" 4) {} "hero" ["hero"])⟩,
        ⟨{}, .play smokeBomb "hero" []⟩, ⟨{}, .pass⟩] = some b' ∧
      b'.cooldown "hero" "smoke" = 1 ∧ b'.chargesOf? "hero" "smoke" = some ⟨0, 1⟩ ∧
      b'.shieldTotal "hero" = 4 ∧ b'.taunts.get? "slime" = some ⟨"hero", 2⟩ ∧
      b'.isPrevented "slime" = true ∧ b'.inventory.isEmpty = true ∧ b'.Canonical := by
  have hleft : (smokyDuel.run? [⟨{}, .resolve (.effect (.shield "aura" 4) {} "hero" ["hero"])⟩,
      ⟨{}, .play smokeBomb "hero" []⟩, ⟨{}, .pass⟩]).any fun b => b.cooldown "hero" "smoke" = 1 ∧
        b.chargesOf? "hero" "smoke" = some ⟨0, 1⟩ ∧ b.shieldTotal "hero" = 4 ∧
        b.taunts.get? "slime" = some ⟨"hero", 2⟩ ∧ b.isPrevented "slime" = true ∧
        b.inventory.isEmpty = true := by
    decide +kernel
  obtain ⟨b', hrun, hstores⟩ := (Option.any_eq_true ..).1 hleft
  obtain ⟨hcooldown, hcharges, hshield, htaunt, hprevented, hinventory⟩ := of_decide_eq_true hstores
  obtain ⟨b₁, hshielded, hrest⟩ := Option.bind_eq_some_iff.1 hrun
  have hmember : ByMember smokyDuel
      ⟨{}, .resolve (.effect (.shield "aura" 4) {} "hero" ["hero"])⟩ b₁ := by
    rintro u ⟨rfl⟩
    exact .inl (by decide)
  have hothers : ∀ q ∈ [(⟨{}, .play smokeBomb "hero" []⟩ : Request), ⟨{}, .pass⟩],
      ∀ c c', ByMember c q c' :=
    List.forall_mem_cons.2 ⟨fun _ _ => nofun, List.forall_mem_singleton.2 fun _ _ => nofun⟩
  have hfresh : smokyDuel.Fresh := ⟨⟨7⟩, [hero], [slime], duel, _, rfl, rfl⟩
  exact ⟨b', hrun, hcooldown, hcharges, hshield, htaunt, hprevented, hinventory,
    (stores_stay_canonical hfresh (by decide)
      (.head (.called _ hshielded hmember) (stretch_of_run? hothers hrest))).1⟩

-- in the name of a stranger, a caller leaves a taunt behind whose source is no actor
example : (duel.after? ⟨{}, .resolve (.effect (.taunt 1) {} "ghost" ["hero"])⟩).any
    (fun b => b.Canonical) = false := by
  decide +kernel

end Battle

end Skirmish
