import Skirmish.Proofs.Progress
import Skirmish.Proofs.Stretches

/-!
# Rewards

The xp and the gold of an actor, its `Purse`, are touched by nothing that resolution does: by none
of the changes, and neither by payment nor by the passing of the turn. Only the judgement that ends
a battle in victory fills purses (`rewarded_grantRewards`). As a battle ends once and stays ended,
it is rewarded for once (`rewarded_exactly_once`).
-/

namespace Skirmish

/-! ## Purses -/

/-- What an actor has gained. -/
structure Purse where
  xp : Int
  gold : Int
deriving DecidableEq, Inhabited

namespace Stats

/-- What is in the purse of these stats. -/
def purse (s : Stats) : Purse := ⟨s.xp, s.gold⟩

@[simp] theorem purse_withCurrent (s : Stats) (r : Resource) (n : Int) :
    (s.withCurrent r n).purse = s.purse := by
  cases r <;> rfl

@[simp] theorem purse_set (s : Stats) (r : Resource) (n : Int) : (s.set r n).purse = s.purse :=
  purse_withCurrent ..

@[simp] theorem purse_add (s : Stats) (r : Resource) (n : Int) : (s.add r n).purse = s.purse :=
  purse_set ..

@[simp] theorem purse_withStat (s : Stats) (k : StatKind) (n : Int) :
    (s.withStat k n).purse = s.purse := by
  cases k <;> rfl

@[simp] theorem purse_adjust (s : Stats) (k : StatKind) (n : Int) :
    (s.adjust k n).purse = s.purse := by
  simp [adjust, settle]

end Stats

namespace Actor

/-- The purse of an actor. -/
def purse (a : Actor) : Purse := a.stats.purse

@[simp] theorem purse_collapse (a : Actor) : a.collapse.purse = a.purse := by
  unfold collapse
  split <;> rfl

theorem Undergoes.purse_eq {a a' : Actor} (h : a.Undergoes a') : a'.purse = a.purse := by
  cases h with
  | afflictions is => rfl
  | healed _ r n _ => exact a.stats.purse_add r n
  | swayed _ r n => exact (purse_collapse _).trans (a.stats.purse_add r n)
  | adjusted _ k n => exact (purse_collapse _).trans (a.stats.purse_adjust k n)
  | collapsed => exact a.purse_collapse

end Actor

namespace Battle

/-- The purse of an actor of the battle. -/
def purse? (b : Battle) (id : ActorId) : Option Purse := (b.actor? id).map Actor.purse

/-- The actors of the first battle have the same purses in the second one. -/
def KeepsPurses (b b' : Battle) : Prop := ∀ id p, b.purse? id = some p → b'.purse? id = some p

/-- The living players have gained the xp of all enemies, and the first of them their gold; a sum
beyond the greatest whole number stops at it. Other purses are the same. -/
def Rewarded (b b' : Battle) : Prop :=
  ∀ id p, b.purse? id = some p → b'.purse? id = some
    { xp := if id ∈ b'.living .player then saturate (p.xp + b'.spoils (·.xp)) else p.xp
      gold :=
        if (b'.living .player).head? = some id then saturate (p.gold + b'.spoils (·.gold))
        else p.gold }

/-- Whoever gains no more than can be held has gained exactly that: living players the xp of all
enemies, and the first of them their gold. -/
def GainsExactly (b b' : Battle) : Prop :=
  ∀ id p, b.purse? id = some p → IsWhole (p.xp + b'.spoils (·.xp)) →
    IsWhole (p.gold + b'.spoils (·.gold)) → b'.purse? id = some
      { xp := if id ∈ b'.living .player then p.xp + b'.spoils (·.xp) else p.xp
        gold :=
          if (b'.living .player).head? = some id then p.gold + b'.spoils (·.gold) else p.gold }

/-- The second battle is won, the first one still goes on. -/
def Wins (b b' : Battle) : Prop := b.ended = none ∧ b'.ended = some .victory

/-- What wins the battle is rewarded, all else keeps purses. -/
structure Settles (b b' : Battle) : Prop where
  won : b.Wins b' → b.Rewarded b'
  other : ¬b.Wins b' → b.KeepsPurses b'

namespace KeepsPurses

variable {b b' b'' : Battle}

theorem of_actors (h : b'.actors = b.actors) : b.KeepsPurses b' := by
  intro id p hp
  rw [purse?, actor?, h]
  exact hp

theorem refl (b : Battle) : b.KeepsPurses b := fun _ _ h => h

theorem trans (h : b.KeepsPurses b') (h' : b'.KeepsPurses b'') : b.KeepsPurses b'' :=
  fun id p hp => h' id p (h id p hp)

theorem rewarded (h : b.KeepsPurses b') (h' : b'.Rewarded b'') : b.Rewarded b'' :=
  fun id p hp => h' id p (h id p hp)

/-- Keeping purses settles where nothing is won. -/
theorem settles (h : b.KeepsPurses b') (hnot : ¬b.Wins b') : b.Settles b' :=
  ⟨fun hwins => absurd hwins hnot, fun _ => h⟩

/-- Purses are kept up to a battle that is won with the first one. -/
theorem trans_settles (h : b.KeepsPurses b') (hwins : b.Wins b'' ↔ b'.Wins b'')
    (h' : b'.Settles b'') : b.Settles b'' :=
  ⟨fun hw => h.rewarded (h'.won (hwins.1 hw)), fun hw => h.trans (h'.other (mt hwins.2 hw))⟩

end KeepsPurses

theorem purse?_modifyActor (b : Battle) (id q : ActorId) (f : Actor → Actor) :
    (b.modifyActor id f).purse? q =
      if q = id then (b.actor? id).map fun a => (f a).purse else b.purse? q := by
  rw [purse?, actor?_modifyActor]
  split
  · exact Option.map_map ..
  · rfl

/-! ## What keeps purses -/

theorem keepsPurses_modifyActor {b : Battle} {id : ActorId} {f : Actor → Actor}
    (hf : ∀ a, b.actor? id = some a → (f a).purse = a.purse) :
    b.KeepsPurses (b.modifyActor id f) := by
  intro q p hp
  rw [purse?_modifyActor]
  split
  · next hq =>
    subst hq
    obtain ⟨a, ha, rfl⟩ := Option.map_eq_some_iff.1 hp
    rw [ha, Option.map_some, hf a ha]
  · exact hp

theorem keepsPurses_pay (b : Battle) (id : ActorId) (act : Action) :
    b.KeepsPurses (b.pay id act) := by
  obtain ⟨cooldowns, charges, inventory, heq⟩ := b.pay_eq id act
  rw [heq]
  have hpaid : b.KeepsPurses (b.payCosts id act.costs) :=
    keepsPurses_modifyActor fun a _ =>
      ((a.stats.add .sta _).purse_add .mp _).trans (a.stats.purse_add .sta _)
  exact hpaid.trans (.of_actors rfl)

theorem keepsPurses_countBoundary (b : Battle) (id : ActorId) :
    b.KeepsPurses (b.countBoundary id) := by
  obtain ⟨prevented, taunts, heq⟩ := b.countBoundary_eq id
  rw [heq]
  exact .of_actors rfl

theorem keepsPurses_advance (b : Battle) (n : Nat) : b.KeepsPurses (b.advance n) := by
  obtain ⟨round, current, log, heq, -⟩ := b.advance_spec n
  rw [heq]
  exact .of_actors rfl

end Battle

variable {rules : Rules} {content : Effect → Prop} {b b' : Battle}

theorem Change.keepsPurses (h : Change rules content b b') : b.KeepsPurses b' := by
  cases h with
  | undergone id f hf =>
    exact Battle.keepsPurses_modifyActor fun a ha => (hf a ha).purse_eq
  | revived _ _ _ id n _ _ _ =>
    exact Battle.keepsPurses_modifyActor fun a _ => a.stats.purse_set .hp n
  | joined side template level n a _ _ _ _ hfree =>
    -- who joins takes no one's place
    intro id p hp
    obtain ⟨a', ha', -⟩ := Option.map_eq_some_iff.1 hp
    have hother : id ≠ Battle.summonId template n := by
      rintro rfl
      rw [Table.contains_iff.2 ⟨a', ha'⟩] at hfree
      cases hfree
    refine Eq.trans (congrArg (Option.map Actor.purse) ?_) hp
    exact Table.get?_insert_of_ne hother _
  | _ => exact .of_actors rfl

theorem Changes.keepsPurses (h : Changes rules content b b') : b.KeepsPurses b' :=
  h.induction (fun _ _ hb hchange => hb.trans hchange.keepsPurses) (.refl b)

/-! ## The reward -/

namespace Battle

/-- What changes the purse of an actor by its stats changes no other one. -/
theorem purse?_withStats (b : Battle) (id q : ActorId) (f : Stats → Stats) {g : Purse → Purse}
    (hf : ∀ s, (f s).purse = g s.purse) :
    (b.modifyActor id fun a => { a with stats := f a.stats }).purse? q =
      (b.purse? q).map fun p => if q = id then g p else p := by
  rw [purse?_modifyActor, purse?]
  by_cases hq : q = id
  · subst hq
    cases b.actor? q <;> simp [Actor.purse, hf]
  · cases b.actor? q <;> simp [hq]

/-- Each of some distinct actors gains xp once. -/
theorem purse?_foldl_gainXp {ids : List ActorId} (hids : ids.Nodup) (b : Battle) (n : Int)
    (q : ActorId) :
    (ids.foldl (fun b id => b.gainXp n id) b).purse? q =
      (b.purse? q).map fun p => if q ∈ ids then { p with xp := saturate (p.xp + n) } else p := by
  induction ids generalizing b with
  | nil => simp
  | cons id ids ih =>
    obtain ⟨hnew, hids⟩ := List.nodup_cons.1 hids
    have hfirst : (b.gainXp n id).purse? q = (b.purse? q).map fun p =>
        if q = id then { p with xp := saturate (p.xp + n) } else p :=
      b.purse?_withStats id q (fun s => { s with xp := saturate (s.xp + n) }) fun _ => rfl
    rw [List.foldl_cons, ih hids, hfirst, Option.map_map]
    congr 1
    funext p
    by_cases hq : q = id
    · subst hq
      simp [hnew]
    · simp [hq]

theorem purse?_rewardAll {ids : List ActorId} (hids : ids.Nodup) (b : Battle) (xp gold : Int)
    (q : ActorId) :
    (b.rewardAll xp gold ids).purse? q = (b.purse? q).map fun p =>
      { xp := if q ∈ ids then saturate (p.xp + xp) else p.xp
        gold := if ids.head? = some q then saturate (p.gold + gold) else p.gold } := by
  have hxp := purse?_foldl_gainXp hids b xp q
  unfold rewardAll
  cases hhead : ids.head? with
  | none =>
    rw [Option.elim_none, hxp]
    congr 1
    funext p
    split <;> simp
  | some id =>
    have hgold : ∀ c : Battle, (c.gainGold gold id).purse? q = (c.purse? q).map fun p =>
        if q = id then { p with gold := saturate (p.gold + gold) } else p := fun c =>
      c.purse?_withStats id q (fun s => { s with gold := saturate (s.gold + gold) }) fun _ => rfl
    rw [Option.elim_some, hgold, hxp, Option.map_map]
    congr 1
    funext p
    by_cases hq : q = id
    · subst hq
      by_cases hmem : q ∈ ids <;> simp [hmem]
    · by_cases hmem : q ∈ ids <;> simp [hmem, hq, Ne.symm hq]

/-- The spoils are in the purses of the enemies. -/
theorem spoils_congr {b b' : Battle} (he : b'.enemies = b.enemies)
    (h : ∀ id ∈ b.enemies, b'.purse? id = b.purse? id) :
    b'.spoils (·.xp) = b.spoils (·.xp) ∧ b'.spoils (·.gold) = b.spoils (·.gold) := by
  have hpurses : ∀ (c : Battle) (f : Purse → Int), c.spoils (fun s => f s.purse) =
      ((c.enemies.filterMap c.purse?).map f).foldr (· + ·) 0 := by
    intro c f
    have hfun : c.purse? = fun id => (c.actor? id).map Actor.purse := rfl
    rw [spoils, hfun, ← List.map_filterMap, List.map_map]
    rfl
  have hsame : b'.enemies.filterMap b'.purse? = b.enemies.filterMap b.purse? := by
    rw [he]
    exact List.filterMap_congr h
  have hspoils : ∀ f : Purse → Int,
      b'.spoils (fun s => f s.purse) = b.spoils fun s => f s.purse := by
    intro f
    rw [hpurses, hpurses, hsame]
  exact ⟨hspoils (·.xp), hspoils (·.gold)⟩

theorem SameSides.living {b b' : Battle} (h : b.SameSides b') (side : Side) :
    b'.living side = b.living side := by
  have hroster : b'.roster side = b.roster side := by
    cases side with
    | player => exact h.players
    | enemy => exact h.enemies
  rw [Battle.living, Battle.living, hroster, funext h.alive]

theorem purse?_grantRewards {b : Battle} (hplayers : b.players.Nodup) (id : ActorId) :
    b.grantRewards.purse? id = (b.purse? id).map fun p =>
      { xp := if id ∈ b.living .player then saturate (p.xp + b.spoils (·.xp)) else p.xp
        gold := if (b.living .player).head? = some id then saturate (p.gold + b.spoils (·.gold))
          else p.gold } :=
  purse?_rewardAll (hplayers.filter _) b _ _ id

/-- Once no enemy is alive, granting the spoils does not change them: an enemy, being down, gains
nothing. -/
theorem spoils_grantRewards {b : Battle} (hplayers : b.players.Nodup)
    (hdown : b.isDown .enemy = true) :
    b.grantRewards.spoils (·.xp) = b.spoils (·.xp) ∧
      b.grantRewards.spoils (·.gold) = b.spoils (·.gold) := by
  refine spoils_congr b.sameSides_grantRewards.enemies fun id hid => ?_
  have hout : id ∉ b.living .player := by
    intro hmem
    have hup := (List.mem_filter.1 hmem).2
    rw [isDown_iff.1 hdown id hid] at hup
    cases hup
  have hnot : (b.living .player).head? ≠ some id :=
    fun hhead => hout (List.mem_of_head? hhead)
  rw [purse?_grantRewards hplayers]
  simp [hout, hnot]

/-- Once no enemy is alive, the rewards are what the purses of the battle itself tell. -/
theorem rewarded_grantRewards {b : Battle} (hplayers : b.players.Nodup)
    (hdown : b.isDown .enemy = true) : b.Rewarded b.grantRewards := by
  have hliving := b.sameSides_grantRewards.living .player
  have hspoils := spoils_grantRewards hplayers hdown
  intro id p hp
  rw [purse?_grantRewards hplayers, hp, Option.map_some, hliving, hspoils.1, hspoils.2]

theorem not_wins_of_eq {b b' : Battle} (h : b'.ended = b.ended) : ¬b.Wins b' := by
  rintro ⟨hnone, hwon⟩
  rw [h, hnone] at hwon
  cases hwon

/-- What is judged a victory has no enemy alive and is rewarded. -/
theorem judge_of_wins {b : Battle} (h : b.Wins b.judge.2) :
    b.isDown .enemy = true ∧ b.judge.2 = (b.finish .victory).grantRewards := by
  obtain ⟨hgoing, hwon⟩ := h
  have hverdict : b.verdict? = some .victory := by
    rw [← hwon, ← (judge_of_going hgoing).1, judge, hgoing]
    cases b.verdict? with
    | none => rfl
    | some r => cases r <;> rfl
  have hdown : b.isDown .enemy = true := by
    unfold verdict? at hverdict
    split at hverdict
    · assumption
    · split at hverdict <;> cases hverdict
  refine ⟨hdown, ?_⟩
  rw [judge, hgoing, hverdict]

/-- What is judged, but no victory, has the same actors. -/
theorem actors_judge_of_not_wins {b : Battle} (h : ¬b.Wins b.judge.2) :
    b.judge.2.actors = b.actors := by
  unfold judge at h ⊢
  cases hended : b.ended with
  | some r => rfl
  | none =>
    rw [hended] at h
    dsimp only at h ⊢
    cases hv : b.verdict? with
    | none => rfl
    | some r =>
      rw [hv] at h
      cases r with
      | victory =>
        refine absurd ⟨hended, ?_⟩ h
        rw [(sameSides_grantRewards _).ended, finish, hended]
        rfl
      | defeat | fled => rfl

theorem settles_judge {b : Battle} (hplayers : b.players.Nodup) : b.Settles b.judge.2 where
  won hwins := by
    obtain ⟨hdown, heq⟩ := judge_of_wins hwins
    rw [heq]
    exact rewarded_grantRewards (b := b.finish .victory) hplayers hdown
  other hnot := .of_actors (actors_judge_of_not_wins hnot)

/-! ## Calls -/

/-- Nothing that leads to a judgement wins a battle, and after a flight the judgement does not. -/
theorem wins_iff {b b₁ b' : Battle} (hgoing : b.ended = none)
    (hended : b₁.ended = none ∨ b₁.ended = some .fled)
    (hstays : b₁.ended = some .fled → b'.ended = some .fled) : b.Wins b' ↔ b₁.Wins b' := by
  rcases hended with hnone | hfled
  · rw [Wins, Wins, hgoing, hnone]
  · refine iff_of_false (fun hwins => ?_) fun hwins => ?_
    · cases (hstays hfled).symm.trans hwins.2
    · cases hfled.symm.trans hwins.1

theorem passOn_of_ended {b : Battle} {r : EndReason} (h : b.ended = some r) : b.passOn = b := by
  rw [passOn, judge_of_ended h]

theorem settles_passOn {b : Battle} (hplayers : b.players.Nodup) : b.Settles b.passOn := by
  have hjudged := settles_judge hplayers
  unfold passOn
  split
  · next b₁ hj =>
    rw [hj] at hjudged
    exact hjudged
  · next b₁ hj =>
    -- without a verdict nothing is rewarded, and the turn is passed on
    obtain ⟨rfl, -⟩ := judge_eq_none hj
    exact (b₁.keepsPurses_advance _).settles (not_wins_of_eq (b₁.sameSides_advance _).ended)

section

variable {b b' : Battle} {rules : Rules} {content : Effect → Prop} {c : Call}

theorem Answers.settles (h : b.Answers rules content c b') (hb : b.Rostered) : b.Settles b' := by
  have hplayers : ∀ {b₁ : Battle}, b.Evolves rules.codex b₁ → b₁.players.Nodup := fun hevolves =>
    (hevolves.induction (fun _ _ h hshift => hshift.enrolled h)
      ⟨hb.enrolled, hb.current⟩).1.nodup.of_append_left
  cases h with
  | @refused _ _ _ r =>
    have hkeeps : b.KeepsPurses (b.announce r.message) := .of_actors rfl
    exact hkeeps.settles (not_wins_of_eq rfl)
  | @played act id _ _ _ b₁ b₂ hgoing haimed hresolved =>
    have hsearched : Changes rules content b b₁ := changes_of_resolveTargets haimed
    have hkeeps : b.KeepsPurses b₂ :=
      (hsearched.keepsPurses.trans (b₁.keepsPurses_pay id act)).trans hresolved.keepsPurses
    have hevolves : b.Evolves rules.codex b₂ :=
      (hsearched.evolves.trans (b₁.sameCast_pay id act).evolves).trans hresolved.evolves
    have hended : b₂.ended = none ∨ b₂.ended = some .fled := by
      refine hresolved.sameTurn.none_or_fled ?_
      rw [ended_pay]
      exact hsearched.sameTurn.none_or_fled (.inl hgoing)
    refine hkeeps.trans_settles (wins_iff hgoing hended fun hfled => ?_)
      (settles_judge (hplayers hevolves))
    rw [judge_of_ended hfled]
    exact hfled
  | @passed id b₁ hid hticked =>
    have hgoing : b.ended = none := (actingActor?_eq_some_iff.1 hid).1
    have hkeeps : b.KeepsPurses (b₁.countBoundary id) :=
      hticked.keepsPurses.trans (b₁.keepsPurses_countBoundary id)
    have hevolves : b.Evolves rules.codex (b₁.countBoundary id) :=
      hticked.evolves.trans (b₁.sameCast_countBoundary id).evolves
    have hended : (b₁.countBoundary id).ended = none ∨
        (b₁.countBoundary id).ended = some .fled := by
      rw [ended_countBoundary]
      exact hticked.sameTurn.none_or_fled (.inl hgoing)
    refine hkeeps.trans_settles (wins_iff hgoing hended fun hfled => ?_)
      (settles_passOn (hplayers hevolves))
    rw [passOn_of_ended hfled]
    exact hfled
  | idle => exact (KeepsPurses.refl b).settles (not_wins_of_eq rfl)
  | judged => exact settles_judge (hplayers .refl)
  | resolved _ h =>
    refine h.keepsPurses.settles fun ⟨hgoing, hwon⟩ => ?_
    rcases h.sameTurn.none_or_fled (.inl hgoing) with heq | heq <;> cases heq.symm.trans hwon

end

theorem settles_after? {b b' : Battle} (hb : b.Rostered) {q : Request}
    (h : b.after? q = some b') : b.Settles b' :=
  (answers_of_after? q.within_true h).settles hb

/-! ## Runs -/

/-- One call of a run wins the battle and is rewarded; what comes before it and after it keeps
purses. -/
def RewardedIn (b : Battle) (qs : List Request) (b' : Battle) : Prop :=
  ∃ qs₁ q qs₂ b₁ b₂, qs = qs₁ ++ q :: qs₂ ∧ b.run? qs₁ = some b₁ ∧ b₁.after? q = some b₂ ∧
    b₂.run? qs₂ = some b' ∧ b₁.Wins b₂ ∧ b.KeepsPurses b₁ ∧ b₁.Rewarded b₂ ∧ b₂.KeepsPurses b'

/-- A battle that is over stays over and keeps its purses. -/
theorem over_run {b b' : Battle} {qs : List Request} (hb : b.Rostered) (h : b.run? qs = some b')
    {r : EndReason} (hr : b.ended = some r) : b'.ended = some r ∧ b.KeepsPurses b' := by
  induction qs generalizing b with
  | nil =>
    cases h
    exact ⟨hr, .refl _⟩
  | cons q qs ih =>
    obtain ⟨b₁, hq, hqs⟩ := Option.bind_eq_some_iff.1 h
    have hr₁ := (answers_of_after? q.within_true hq).ended hr
    have hkeeps := (settles_after? hb hq).other (not_wins_of_eq (hr₁.trans hr.symm))
    obtain ⟨hr', hkeeps'⟩ := ih (hb.after_call hq) hqs hr₁
    exact ⟨hr', hkeeps.trans hkeeps'⟩

/-- A run that wins a battle is rewarded at one of its calls, every other one keeps purses. -/
theorem rewarded_run {b b' : Battle} {qs : List Request} (hb : b.Rostered)
    (h : b.run? qs = some b') :
    (b.Wins b' → b.RewardedIn qs b') ∧ (¬b.Wins b' → b.KeepsPurses b') := by
  induction qs generalizing b with
  | nil =>
    cases h
    exact ⟨fun hwins => absurd hwins (not_wins_of_eq rfl), fun _ => .refl _⟩
  | cons q qs ih =>
    obtain ⟨b₁, hq, hqs⟩ := Option.bind_eq_some_iff.1 h
    have hb₁ := hb.after_call hq
    have hfirst := settles_after? hb hq
    cases hended : b.ended with
    | some r =>
      obtain ⟨hended', hkeeps⟩ := over_run hb h hended
      exact ⟨fun hwins => absurd hwins (not_wins_of_eq (hended'.trans hended.symm)),
        fun _ => hkeeps⟩
    | none =>
      cases hended₁ : b₁.ended with
      | none =>
        -- the battle goes on, and is won later if at all
        have hkeeps := hfirst.other (not_wins_of_eq (hended₁.trans hended.symm))
        obtain ⟨hwon, hother⟩ := ih hb₁ hqs
        refine ⟨fun hwins => ?_, fun hnot => hkeeps.trans (hother fun h => hnot ⟨hended, h.2⟩)⟩
        obtain ⟨qs₁, q', qs₂, c₁, c₂, rfl, h₁, h₂, h₃, hw, hk, hr, hk'⟩ := hwon ⟨hended₁, hwins.2⟩
        have hrun : b.run? (q :: qs₁) = some c₁ := by rw [run?, hq, Option.bind_some, h₁]
        exact ⟨q :: qs₁, q', qs₂, c₁, c₂, rfl, hrun, h₂, h₃, hw, hkeeps.trans hk, hr, hk'⟩
      | some r =>
        -- the battle ends here
        obtain ⟨hended', hkeeps'⟩ := over_run hb₁ hqs hended₁
        have hwins_iff : b.Wins b' ↔ b.Wins b₁ := by rw [Wins, Wins, hended', hended₁]
        refine ⟨fun hwins => ?_, fun hnot => ?_⟩
        · have hwins₁ := hwins_iff.1 hwins
          exact ⟨[], q, qs, b, b₁, rfl, rfl, hq, hqs, hwins₁, .refl b, hfirst.won hwins₁, hkeeps'⟩
        · exact (hfirst.other (mt hwins_iff.2 hnot)).trans hkeeps'

theorem Rewarded.exactly {b b' : Battle} (h : b.Rewarded b') : b.GainsExactly b' := by
  intro id p hp hxp hgold
  rw [h id p hp, saturate_of_isWhole hxp, saturate_of_isWhole hgold]

/-- **A call that wins the battle rewards its living players with the purses of all enemies, exactly
where the sums can be held, and no other call touches a purse. A run wins at one of its calls at
most, so it rewards at most once. A call or a run has no end only if something cannot be
computed.** -/
theorem rewarded_exactly_once (b : Battle) (hb : b.Rostered) :
    (∀ q, (∃ b', b.after? q = some b' ∧ b.Settles b' ∧ (b.Wins b' → b.GainsExactly b')) ∨
        b.BreaksOff q) ∧
      ∀ qs, (∃ b', b.run? qs = some b' ∧ (b.Wins b' → b.RewardedIn qs b') ∧
        (¬b.Wins b' → b.KeepsPurses b')) ∨ b.BreaksOffIn qs := by
  refine ⟨fun q => (b.after?_returns q).imp_left fun ⟨b', h⟩ => ?_,
    fun qs => (b.run?_returns qs).imp_left fun ⟨b', h⟩ => ⟨b', h, rewarded_run hb h⟩⟩
  have hsettles := settles_after? hb h
  exact ⟨b', h, hsettles, fun hwins => (hsettles.won hwins).exactly⟩

/-- The hero and a page face a slime that is worth something. -/
def raid : Battle :=
  let page : Actor := { hero with id := "page", name := "Page" }
  let prey : Actor := { slime with stats := { slime.stats with xp := 5, gold := 3 } }
  (((bare ⟨7⟩).enter .player hero).enter .player page).enter .enemy prey |>.announce "Turn 1"

theorem rostered_raid : raid.Rostered := by
  have hcreate : create ⟨7⟩ [hero, { hero with id := "page", name := "Page" }]
      [{ slime with stats := { slime.stats with xp := 5, gold := 3 } }] = .ok raid := by rfl
  obtain ⟨henrolled, hcur⟩ := enrolled_create hcreate
  exact henrolled.rostered hcur

/-- The raid is won by a cut, which both players are rewarded for exactly; judged again it is not
rewarded again. -/
theorem raid_rewarded_exactly_once :
    (∃ won, raid.after? ⟨{}, .play finisher "hero" []⟩ = some won ∧ raid.Rewarded won ∧
        raid.GainsExactly won) ∧
      ∃ b', raid.run? [⟨{}, .play finisher "hero" []⟩, ⟨{}, .judge⟩] = some b' ∧
        raid.RewardedIn [⟨{}, .play finisher "hero" []⟩, ⟨{}, .judge⟩] b' ∧
        b'.purse? "hero" = some ⟨5, 3⟩ ∧ b'.purse? "page" = some ⟨5, 0⟩ := by
  obtain ⟨hcall, hrun⟩ := rewarded_exactly_once raid rostered_raid
  refine ⟨?_, ?_⟩
  · obtain ⟨won, hwon, hsettles, hexactly⟩ := (hcall ⟨{}, .play finisher "hero" []⟩).resolve_right
      (not_breaksOff (by decide +kernel))
    have hended : (raid.after? ⟨{}, .play finisher "hero" []⟩).map (·.ended) =
        some (some .victory) := by
      decide +kernel
    rw [hwon] at hended
    have hwins : raid.Wins won := ⟨rfl, Option.some.inj hended⟩
    exact ⟨won, hwon, hsettles.won hwins, hexactly hwins⟩
  · obtain ⟨b', hb', hwon, -⟩ := (hrun [⟨{}, .play finisher "hero" []⟩, ⟨{}, .judge⟩]).resolve_right
      (not_breaksOffIn (by decide +kernel))
    have hend : (raid.run? [⟨{}, .play finisher "hero" []⟩, ⟨{}, .judge⟩]).map
        (fun b => (b.ended, b.purse? "hero", b.purse? "page")) =
          some (some .victory, some ⟨5, 3⟩, some ⟨5, 0⟩) := by
      decide +kernel
    rw [hb'] at hend
    obtain ⟨hended, hpurses⟩ := Prod.mk.inj (Option.some.inj hend)
    obtain ⟨hhero, hpage⟩ := Prod.mk.inj hpurses
    exact ⟨b', hb', hwon ⟨rfl, hended⟩, hhero, hpage⟩

end Battle

end Skirmish
