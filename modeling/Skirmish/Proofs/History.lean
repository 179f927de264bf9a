import Skirmish.Proofs.Answers
import Skirmish.Proofs.Choice
import Skirmish.Proofs.Ending

/-!
# The history of a battle

Whatever is called, a battle only adds to its history: lines to the end of the log, actors to the
ends of the rosters and of the turn order, and to the counts of rounds, boundaries and summons; its
seed is stepped on. `Precedes` says so of two battles. Each piece of an answer keeps it
(`Answers.precedes`), so every run does.

Once a battle is over it is `Frozen`: what conducts the turns and what applies effects leaves it as
it is, apart from the line of the log that an action refused for that reason leaves behind.
-/

namespace Skirmish

namespace Battle

/-- The first battle comes before the second one in a history to which things are only added. -/
structure Precedes (b b' : Battle) : Prop where
  log : b.log <+: b'.log
  players : b.players <+: b'.players
  enemies : b.enemies <+: b'.enemies
  order : b.order <+: b'.order
  present : ∀ id, b.actors.contains id = true → b'.actors.contains id = true
  round : b.round ≤ b'.round
  boundaries : b.boundaries ≤ b'.boundaries
  spawned : b.spawned ≤ b'.spawned
  seed : ∃ n, b'.seed = b.seed.advance n

namespace Precedes

variable {b b' : Battle}

/-- Where the places and the counts are the same, lines may be added and draws made. -/
theorem of_same (hlog : b.log <+: b'.log) (hp : b'.players = b.players)
    (he : b'.enemies = b.enemies) (ho : b'.order = b.order)
    (hpresent : ∀ id, b.actors.contains id = true → b'.actors.contains id = true)
    (hr : b.round ≤ b'.round) (hb : b.boundaries ≤ b'.boundaries) (hs : b'.spawned = b.spawned)
    (hseed : ∃ n, b'.seed = b.seed.advance n) : b.Precedes b' where
  log := hlog
  players := hp ▸ List.prefix_rfl
  enemies := he ▸ List.prefix_rfl
  order := ho ▸ List.prefix_rfl
  present := hpresent
  round := hr
  boundaries := hb
  spawned := Nat.le_of_eq hs.symm
  seed := hseed

theorem refl (b : Battle) : b.Precedes b :=
  of_same List.prefix_rfl rfl rfl rfl (fun _ h => h) (Nat.le_refl _) (Nat.le_refl _) rfl ⟨0, rfl⟩

theorem trans {b'' : Battle} (h : b.Precedes b') (h' : b'.Precedes b'') : b.Precedes b'' where
  log := h.log.trans h'.log
  players := h.players.trans h'.players
  enemies := h.enemies.trans h'.enemies
  order := h.order.trans h'.order
  present id hid := h'.present id (h.present id hid)
  round := Nat.le_trans h.round h'.round
  boundaries := Nat.le_trans h.boundaries h'.boundaries
  spawned := Nat.le_trans h.spawned h'.spawned
  seed := by
    obtain ⟨m, hm⟩ := h.seed
    obtain ⟨n, hn⟩ := h'.seed
    exact ⟨m + n, by rw [hn, hm, Seed.advance_advance]⟩

/-- Where rosters only grow and agree with the actors, no one changes sides. -/
theorem sideOf? (h : b.Precedes b') (hb' : b'.Enrolled) {id : ActorId} {side : Side}
    (hid : b.sideOf? id = some side) : b'.sideOf? id = some side := by
  obtain ⟨-, -, hdisj⟩ := List.nodup_append'.1 hb'.nodup
  unfold Battle.sideOf? at hid ⊢
  simp only [List.contains_iff_mem] at hid ⊢
  split at hid
  · next hplayer => rw [if_pos (h.players.subset hplayer), hid]
  · split at hid
    · next henemy =>
      have henemy' := h.enemies.subset henemy
      rw [if_neg fun hplayer => hdisj hplayer henemy', if_pos henemy', hid]
    · cases hid

end Precedes

end Battle

/-! ## Growing -/

variable {rules : Rules} {content : Effect → Prop} {b b' : Battle}

theorem Change.precedes (h : Change rules content b b') : b.Precedes b' := by
  have hpresent := h.shifts.grows.contains
  cases h with
  | said lines =>
    exact .of_same (List.prefix_append ..) rfl rfl rfl hpresent (Nat.le_refl _) (Nat.le_refl _) rfl
      ⟨0, rfl⟩
  | drew =>
    exact .of_same List.prefix_rfl rfl rfl rfl hpresent (Nat.le_refl _) (Nat.le_refl _) rfl ⟨1, rfl⟩
  | joined side template level n a _ _ hn =>
    have hroster : ∀ (xs : List ActorId) (s : Side) (id : ActorId),
        xs <+: if side = s then xs ++ [id] else xs := by
      intro xs s id
      split
      · exact List.prefix_append ..
      · exact List.prefix_rfl
    exact ⟨List.prefix_rfl, hroster .., hroster .., List.prefix_append .., hpresent, Nat.le_refl _,
      Nat.le_refl _, Nat.le_of_lt hn, ⟨0, rfl⟩⟩
  | _ =>
    exact .of_same List.prefix_rfl rfl rfl rfl hpresent (Nat.le_refl _) (Nat.le_refl _) rfl ⟨0, rfl⟩

theorem Changes.precedes (h : Changes rules content b b') : b.Precedes b' :=
  h.induction (fun _ _ hb hchange => hb.trans hchange.precedes) (.refl b)

namespace Battle

theorem precedes_pay (b : Battle) (id : ActorId) (act : Action) : b.Precedes (b.pay id act) := by
  have hpresent := (b.sameCast_pay id act).contains
  obtain ⟨cooldowns, charges, inventory, heq⟩ := b.pay_eq id act
  rw [heq] at hpresent ⊢
  exact .of_same List.prefix_rfl rfl rfl rfl (fun q hq => (hpresent q).trans hq) (Nat.le_refl _)
    (Nat.le_refl _) rfl ⟨0, rfl⟩

theorem precedes_judge (b : Battle) : b.Precedes b.judge.2 := by
  have hpresent := b.sameCast_judge.contains
  obtain ⟨ended, actors, lines, heq⟩ := b.judge_eq
  rw [heq] at hpresent ⊢
  exact .of_same (List.prefix_append ..) rfl rfl rfl (fun q hq => (hpresent q).trans hq)
    (Nat.le_refl _) (Nat.le_refl _) rfl ⟨0, rfl⟩

theorem precedes_countBoundary (b : Battle) (id : ActorId) : b.Precedes (b.countBoundary id) := by
  obtain ⟨prevented, taunts, heq⟩ := b.countBoundary_eq id
  rw [heq]
  exact .of_same List.prefix_rfl rfl rfl rfl (fun _ hq => hq) (Nat.le_refl _) (Nat.le_succ _) rfl
    ⟨0, rfl⟩

theorem precedes_nextPlace (b : Battle) : b.Precedes b.nextPlace := by
  unfold nextPlace
  split
  · exact .of_same List.prefix_rfl rfl rfl rfl (fun _ hq => hq) (Nat.le_refl _) (Nat.le_refl _) rfl
      ⟨0, rfl⟩
  · exact .of_same (List.prefix_append ..) rfl rfl rfl (fun _ hq => hq) (Nat.le_succ _)
      (Nat.le_refl _) rfl ⟨0, rfl⟩

theorem precedes_advance (b : Battle) (n : Nat) : b.Precedes (b.advance n) := by
  induction n generalizing b with
  | zero => exact .refl b
  | succ n ih =>
    unfold advance
    dsimp only
    split
    · exact b.precedes_nextPlace
    · exact b.precedes_nextPlace.trans (ih _)

theorem precedes_passOn (b : Battle) : b.Precedes b.passOn := by
  have hjudged := b.precedes_judge
  unfold passOn
  split
  · next heq => rwa [heq] at hjudged
  · next b₁ heq =>
    rw [heq] at hjudged
    exact hjudged.trans (b₁.precedes_advance _)

theorem Answers.precedes {c : Call} (h : b.Answers rules content c b') : b.Precedes b' := by
  cases h with
  | refused =>
    exact .of_same (List.prefix_append ..) rfl rfl rfl (fun _ hq => hq) (Nat.le_refl _)
      (Nat.le_refl _) rfl ⟨0, rfl⟩
  | @played act id _ _ _ b₁ b₂ _ haimed hresolved _ =>
    have hsearched : Changes rules content b b₁ := changes_of_resolveTargets haimed
    exact ((hsearched.precedes.trans (b₁.precedes_pay id act)).trans hresolved.precedes).trans
      b₂.precedes_judge
  | @passed id b₁ _ hticked =>
    exact (hticked.precedes.trans (b₁.precedes_countBoundary id)).trans (precedes_passOn _)
  | idle => exact .refl b
  | judged => exact b.precedes_judge
  | resolved _ h => exact h.precedes

/-- Every run of calls only adds to the history. -/
theorem precedes_run {qs : List Request} (h : b.run? qs = some b') : b.Precedes b' := by
  induction qs generalizing b with
  | nil =>
    cases h
    exact .refl _
  | cons q qs ih =>
    obtain ⟨b₁, hq, hqs⟩ := Option.bind_eq_some_iff.1 h
    exact (answers_of_after? q.within_true hq).precedes.trans (ih hqs)

end Battle

/-! ## Once it is over -/

/-- Whether a call plays an action. -/
def Call.isPlay : Call → Bool
  | .play .. => true
  | _ => false

/-- Whether a call heeds the end of a battle: it conducts the turns or applies an effect. -/
def Call.heedsEnd : Call → Bool
  | .resolve (.effect ..) => true
  | c => c.conductsTurn

namespace Battle

/-- Actions are refused because the battle is over, no one acts or chooses, no draw is made, and
effects do nothing. -/
structure Frozen (b : Battle) : Prop where
  play : ∀ rules act id named, b.perform? rules act id named =
    some (b.announce Refusal.battleOver.message, .error .battleOver)
  pass : ∀ rules, b.endTurn? rules = some b
  choose : ∀ id acts, b.chooseAction id acts = (none, b)
  judge : b.judge = (b.ended, b)
  effect : ∀ rules e o user targets,
    b.play? rules (fun run => applyEffect rules run e o user targets) = some (b, .halt)

theorem validate_of_isOver {b : Battle} (h : b.isOver = true) (act : Action) (id : ActorId) :
    b.validate act id = .error .battleOver := by
  simp only [validate, checkActor, h, if_true]
  rfl

theorem frozen_of_isOver {b : Battle} (h : b.isOver = true) : b.Frozen where
  play rules act id named := by
    simp only [perform?, validate_of_isOver h]
    rfl
  pass rules := by simp only [endTurn?, actingActor?, h, if_true]
  choose id acts := by
    have hnone : acts.filter (b.isPlayable id) = [] := by
      refine List.filter_eq_nil_iff.2 fun act _ => ?_
      simp [isPlayable, validate_of_isOver h, Except.isOk, Except.toBool]
    simp only [chooseAction, hnone, List.map_nil]
    rw [Seed.weighted_of_not_pos (List.forall_mem_nil _)]
    rfl
  judge := by
    obtain ⟨r, hr⟩ := Option.isSome_iff_exists.1 h
    rw [Battle.judge, hr]
  effect rules e o user targets := by simp only [play?, applyEffect, h, if_true, Option.map_some]

/-- What heeds the end leaves a battle that is over as it is, but for the line of a refusal. -/
theorem Frozen.after? {b : Battle} (h : b.Frozen) {q : Request}
    (hq : q.call.heedsEnd = true) :
    b.after? q =
      some (if q.call.isPlay then b.announce Refusal.battleOver.message else b) := by
  obtain ⟨rules, call⟩ := q
  cases call with
  | play act id named => exact congrArg (Option.map Prod.fst) (h.play rules act id named)
  | pass => exact h.pass rules
  | choose id acts => exact congrArg (fun r => some r.2) (h.choose id acts)
  | judge => exact congrArg (fun r => some r.2) h.judge
  | resolve r =>
    cases r with
    | effect e o user targets =>
      exact congrArg (Option.map Prod.fst) (h.effect rules e o user targets)
    | _ => cases hq
  | _ => cases hq

/-- A run of what heeds the end adds one line for each action that is refused. -/
theorem run_of_isOver {b : Battle} (h : b.isOver = true) {qs : List Request}
    (hqs : ∀ q ∈ qs, q.call.heedsEnd = true) :
    b.run? qs = some { b with
      log := b.log ++ List.replicate (qs.countP (·.call.isPlay)) Refusal.battleOver.message } := by
  induction qs generalizing b with
  | nil => simp [run?]
  | cons q qs ih =>
    obtain ⟨hq, hqs⟩ := List.forall_mem_cons.1 hqs
    rw [run?, (frozen_of_isOver h).after? hq, Option.bind_some]
    cases hplay : q.call.isPlay with
    | false =>
      have hcount : (q :: qs).countP (·.call.isPlay) = qs.countP (·.call.isPlay) :=
        List.countP_cons_of_neg (by simp [hplay])
      rw [hcount]
      exact ih h hqs
    | true =>
      have hcount : (q :: qs).countP (·.call.isPlay) = qs.countP (·.call.isPlay) + 1 :=
        List.countP_cons_of_pos hplay
      have hsaid : (b.announce Refusal.battleOver.message).isOver = true := h
      rw [hcount, if_pos rfl, ih hsaid hqs, announce, List.replicate_succ, List.append_assoc]
      rfl

/-- **A run of calls only adds to the history of a battle, and no one changes sides. What heeds the
end of a battle leaves one that is over as it is, but for a line for every action that it refuses. A
run has no end only if something cannot be computed, which is not so where a battle is over and its
end is heeded.** -/
theorem history_only_grows (b : Battle) (hb : b.Rostered) (qs : List Request) :
    ((∃ b', b.run? qs = some b') ∨ b.BreaksOffIn qs) ∧
      (∀ b', b.run? qs = some b' → b.Precedes b' ∧
        ∀ id side, b.sideOf? id = some side → b'.sideOf? id = some side) ∧
      (b.isOver = true → b.Frozen ∧
        ((∀ q ∈ qs, q.call.heedsEnd = true) → b.run? qs = some { b with
          log := b.log ++
            List.replicate (qs.countP (·.call.isPlay)) Refusal.battleOver.message })) := by
  refine ⟨b.run?_returns qs, fun b' hrun => ?_,
    fun hover => ⟨frozen_of_isOver hover, run_of_isOver hover⟩⟩
  have hprecedes := precedes_run hrun
  exact ⟨hprecedes, fun id side => hprecedes.sideOf? (hb.after_run hrun).enrolled⟩

/-- The duel is won by a cut; passing the turn and a second cut only add that it is over. -/
theorem won_duel_is_frozen :
    ∃ won, duel.run? [⟨{}, .play finisher "hero" []⟩] = some won ∧ duel.Precedes won ∧
      won.isOver = true ∧
      won.run? [⟨{}, .pass⟩, ⟨{}, .play finisher "hero" []⟩] =
        some { won with log := won.log ++ ["The battle is already over"] } := by
  have hover : (duel.run? [⟨{}, .play finisher "hero" []⟩]).map (·.isOver) = some true := by
    decide +kernel
  obtain ⟨won, hwon, hover⟩ := Option.map_eq_some_iff.1 hover
  obtain ⟨-, hgrows, -⟩ := history_only_grows duel rostered_duel [⟨{}, .play finisher "hero" []⟩]
  obtain ⟨hprecedes, -⟩ := hgrows won hwon
  obtain ⟨-, -, hfrozen⟩ := history_only_grows won (rostered_duel.after_run hwon)
    [⟨{}, .pass⟩, ⟨{}, .play finisher "hero" []⟩]
  have hsame := (hfrozen hover).2 (by simp [Call.heedsEnd, Call.conductsTurn])
  exact ⟨won, hwon, hprecedes, hover, hsame⟩

end Battle

end Skirmish
