import Skirmish.Proofs.Ending
import Skirmish.Proofs.Frames
import Skirmish.Proofs.Stretches

/-!
# Losing a turn

An effect that prevents an actor from acting leaves a mark on it: the number of boundaries that were
counted so far (`Battle.toldAt?`). The actor has to skip once more boundaries are counted than that,
so never in a turn that was going on when it was hit, and the end of the turn that it skips takes
the mark away.

Call by call there are three things that can become of the mark (`Answers.toldAt?`): an effect that
hits the actor sets it anew, the turn that the actor skips takes it away, and all else leaves it as
it is. So an actor that is hit once loses exactly its next turn (`loses_exactly_next_turn`).
-/

namespace Skirmish

namespace Battle

/-! ## Marks -/

/-- The number of boundaries at which an actor was told to skip a turn, until it has. -/
def toldAt? (b : Battle) (x : ActorId) : Option Nat := b.prevented.get? x

/-- Tell an actor to skip a turn. -/
def tell (b : Battle) (x : ActorId) : Battle :=
  { b with prevented := b.prevented.insert x b.boundaries }

theorem isPrevented_eq (b : Battle) (x : ActorId) :
    b.isPrevented x = (b.toldAt? x).any (· < b.boundaries) := rfl

@[simp] theorem boundaries_tell (b : Battle) (x : ActorId) : (b.tell x).boundaries = b.boundaries :=
  rfl

@[simp] theorem toldAt?_tell_self (b : Battle) (x : ActorId) :
    (b.tell x).toldAt? x = some b.boundaries :=
  Table.get?_insert_self ..

theorem toldAt?_tell_of_ne (b : Battle) {x y : ActorId} (h : x ≠ y) :
    (b.tell y).toldAt? x = b.toldAt? x :=
  Table.get?_insert_of_ne h _

theorem toldAt?_congr {b b' : Battle} (h : b'.prevented = b.prevented) (x : ActorId) :
    b'.toldAt? x = b.toldAt? x := by
  rw [toldAt?, toldAt?, h]

theorem toldAt?_reseed (b : Battle) (seed : Seed) (x : ActorId) :
    ({ b with seed := seed } : Battle).toldAt? x = b.toldAt? x := rfl

theorem isPrevented_congr {b b' : Battle} {x : ActorId} (ht : b'.toldAt? x = b.toldAt? x)
    (hb : b'.boundaries = b.boundaries) : b'.isPrevented x = b.isPrevented x := by
  rw [isPrevented_eq, isPrevented_eq, ht, hb]

/-- Who is told to skip may still act before the next boundary. -/
theorem isPrevented_of_told_now {b : Battle} {x : ActorId} (h : b.toldAt? x = some b.boundaries) :
    b.isPrevented x = false := by
  simp [isPrevented_eq, h]

/-! ## Hits -/

/-- On the way from a battle to another one, an effect reaches an actor and tells it to skip. -/
def Hits (rules : Rules) (content : Effect → Prop) (x : ActorId) (b b' : Battle) : Prop :=
  ∃ e c, content e ∧ e.kind = .preventAction ∧ Changes rules content b c ∧
    c.isReached e x = true ∧ Changes rules content (c.tell x) b'

section

variable {rules : Rules} {content : Effect → Prop} {b b' b'' : Battle} {x : ActorId}

theorem Hits.before (h : b'.Hits rules content x b'') (hto : Changes rules content b b') :
    b.Hits rules content x b'' := by
  obtain ⟨e, c, hc, hk, hc', hr, hfrom⟩ := h
  exact ⟨e, c, hc, hk, hto.trans hc', hr, hfrom⟩

theorem Hits.after (h : b.Hits rules content x b') (hfrom : Changes rules content b' b'') :
    b.Hits rules content x b'' := by
  obtain ⟨e, c, hc, hk, hto, hr, hc'⟩ := h
  exact ⟨e, c, hc, hk, hto, hr, hc'.trans hfrom⟩

theorem Hits.boundaries (h : b.Hits rules content x b') : b'.boundaries = b.boundaries := by
  obtain ⟨e, c, -, -, hto, -, hfrom⟩ := h
  rw [hfrom.sameTurn.boundaries, boundaries_tell, hto.sameTurn.boundaries]

end

section

variable {e : Effect} (hk : e.kind = .preventAction) (rules : Rules) (o : Origin) (user : ActorId)

include hk

theorem applyImmediate_of_preventAction (b : Battle) (x : ActorId) :
    b.applyImmediate rules e o user x =
      (b.tell x).announce s!"{b.nameOf x} will lose their next turn." := by
  unfold applyImmediate
  rw [hk]
  rfl

theorem hits_applyImmediate {b : Battle} {x : ActorId} (hr : b.isReached e x = true) :
    b.Hits rules (· = e) x (b.applyImmediate rules e o user x) := by
  rw [applyImmediate_of_preventAction hk]
  exact ⟨e, b, rfl, hk, .refl, hr, changes_announce ..⟩

/-- An effect of this kind is applied to its targets one after the other, and nothing answers it. -/
theorem applyToEach_of_preventAction (run : HookRunner) (targets : List ActorId) (rolls : Rolls)
    (s : Scene) : applyToEach rules run e o user targets rolls s = some
      ({ s with battle := targets.foldl (fun b id =>
          if b.isReached e id then b.applyImmediate rules e o user id else b) s.battle },
        .proceed) := by
  have himmediate : e.kind.isImmediate = true := by rw [hk]; rfl
  exact applyToEach_of_immediate himmediate rules run o user targets rolls s

/-- Whoever is among the targets of such an effect, and is reached by it, is hit. -/
theorem hits_foldl {targets : List ActorId} {x : ActorId} (hx : x ∈ targets) {b : Battle}
    (hr : b.isReached e x = true) :
    b.Hits rules (· = e) x (targets.foldl (fun b id =>
      if b.isReached e id then b.applyImmediate rules e o user id else b) b) := by
  have hone : ∀ (b : Battle) (id : ActorId), Changes rules (· = e) b
      (if b.isReached e id then b.applyImmediate rules e o user id else b) := by
    intro b id
    split
    · next hid =>
      refine changes_applyImmediate ?_ o user hid
      rfl
    · exact .refl
  induction targets generalizing b with
  | nil => cases hx
  | cons id ids ih =>
    rw [List.foldl_cons]
    by_cases hid : x = id
    · subst hid
      rw [if_pos hr]
      exact (hits_applyImmediate hk rules o user hr).after (changes_foldl hone ids _)
    · -- telling another actor to skip leaves it as reachable as before
      have hr' : (if b.isReached e id then b.applyImmediate rules e o user id else b).isReached e
          x = true := by
        split
        · rw [applyImmediate_of_preventAction hk]
          exact hr
        · exact hr
      exact (ih ((List.mem_cons.1 hx).resolve_left hid) hr').before (hone b id)

end

end Battle

section

variable {rules : Rules} {content : Effect → Prop} {b b' : Battle} {x : ActorId}

/-- A change leaves a mark as it is, unless it tells the actor to skip. -/
theorem Change.toldAt? (h : Change rules content b b') (x : ActorId) :
    b'.toldAt? x = b.toldAt? x ∨
      ∃ e, content e ∧ e.kind = .preventAction ∧ b.isReached e x = true ∧ b' = b.tell x := by
  cases h with
  | prevented e hc hk id hr =>
    by_cases hx : x = id
    · subst hx
      exact .inr ⟨e, hc, hk, hr, rfl⟩
    · exact .inl (b.toldAt?_tell_of_ne hx)
  | drew => exact .inl (b.toldAt?_reseed ..)
  | _ => exact .inl (Battle.toldAt?_congr rfl x)

/-- What changes in a row do to a mark is due to a hit. -/
theorem Changes.toldAt? (h : Changes rules content b b') (x : ActorId) :
    b'.toldAt? x = b.toldAt? x ∨ b.Hits rules content x b' := by
  induction h with
  | refl => exact .inl rfl
  | @tail c d hbefore hchange ih =>
    rcases ih with hsame | hhit
    · rcases hchange.toldAt? x with hkept | ⟨e, hc, hk, hr, rfl⟩
      · exact .inl (hkept.trans hsame)
      · exact .inr ⟨e, c, hc, hk, hbefore, hr, .refl⟩
    · exact .inr (hhit.after (.single hchange))

/-- Who was told to skip since the last boundary stays so, whatever else is resolved. -/
theorem Changes.told_now (h : Changes rules content b b') (hx : b.toldAt? x = some b.boundaries) :
    b'.toldAt? x = some b'.boundaries := by
  refine h.induction (P := fun c => c.toldAt? x = some c.boundaries) ?_ hx
  intro c d hc hchange
  rcases hchange.toldAt? x with hsame | ⟨e, -, -, -, rfl⟩
  · rw [hchange.sameTurn.boundaries, hsame, hc]
  · simp

namespace Battle

/-- A hit leaves the mark of the boundaries counted so far. -/
theorem Hits.toldAt? (h : b.Hits rules content x b') : b'.toldAt? x = some b.boundaries := by
  rw [← h.boundaries]
  obtain ⟨e, c, -, -, -, -, hfrom⟩ := h
  exact hfrom.told_now (c.toldAt?_tell_self x)

/-! ## Boundaries -/

theorem toldAt?_judge (b : Battle) (x : ActorId) : b.judge.2.toldAt? x = b.toldAt? x := by
  obtain ⟨ended, actors, lines, heq⟩ := b.judge_eq
  rw [heq]
  exact toldAt?_congr rfl x

theorem toldAt?_passOn (b : Battle) (x : ActorId) : b.passOn.toldAt? x = b.toldAt? x := by
  obtain ⟨round, current, ended, actors, log, heq⟩ := b.passOn_eq
  rw [heq]
  exact toldAt?_congr rfl x

theorem toldAt?_pay (b : Battle) (id : ActorId) (act : Action) (x : ActorId) :
    (b.pay id act).toldAt? x = b.toldAt? x := by
  obtain ⟨cooldowns, charges, inventory, heq⟩ := b.pay_eq id act
  rw [heq]
  exact toldAt?_congr rfl x

theorem prevented_countBoundary (b : Battle) (id : ActorId) :
    (b.countBoundary id).prevented = (b.serveSkip id).prevented := by
  unfold countBoundary shortenTaunt
  dsimp only
  split <;> rfl

/-- The end of a turn takes the mark of its actor away if the actor had to skip that turn. -/
theorem toldAt?_countBoundary (b : Battle) (id x : ActorId) :
    (b.countBoundary id).toldAt? x =
      if x = id ∧ b.isPrevented id = true then none else b.toldAt? x := by
  rw [toldAt?_congr (b.prevented_countBoundary id), serveSkip]
  by_cases hprevented : b.isPrevented id = true
  · rw [if_pos hprevented]
    have herase : ({ b with prevented := b.prevented.erase id } : Battle).toldAt? x =
        if x = id then none else b.toldAt? x := Table.get?_erase ..
    simp [herase, hprevented]
  · rw [if_neg hprevented]
    simp [hprevented]

/-! ## Calls -/

/-- A call in which an effect hits an actor: in an action, at the end of a turn or elsewhere. -/
inductive Tells (rules : Rules) (content : Effect → Prop) (x : ActorId) (b : Battle) :
    Call → Battle → Prop
  | played {act : Action} {id : ActorId} {named targets : List ActorId} {b₁ b₂ : Battle}
      (haimed : b.resolveTargets act.targeting id named = (targets, b₁))
      (hhit : (b₁.pay id act).Hits rules content x b₂) :
      Tells rules content x b (.play act id named) b₂.judge.2
  | passed {id : ActorId} {b₁ : Battle} (hid : b.actingActor? = some id)
      (hhit : b.Hits rules content x b₁) :
      Tells rules content x b .pass (b₁.countBoundary id).passOn
  | resolved {c : Call} {b' : Battle} (hc : c.isAside = true)
      (hhit : b.Hits rules content x b') : Tells rules content x b c b'

/-- Applying such an effect hits everyone among its targets whom it reaches. -/
theorem tells_of_effect {e : Effect} {o : Origin} {user : ActorId} {targets : List ActorId}
    (hk : e.kind = .preventAction) (hgoing : b.ended = none) (hx : x ∈ targets)
    (hr : b.isReached e x = true) :
    ∃ b', b.after? ⟨rules, .resolve (.effect e o user targets)⟩ = some b' ∧
      b.Tells rules (· = e) x (.resolve (.effect e o user targets)) b' := by
  refine ⟨_, ?_, .resolved rfl (hits_foldl hk rules o user hx hr)⟩
  have hover : b.isOver = false := isOver_eq_false_iff.2 hgoing
  have htarget : e.kind.isTargetless = false := by rw [hk]; rfl
  simp only [after?, play?, Resolution.step, applyEffect, hover, htarget,
    applyToEach_of_preventAction hk, Bool.false_eq_true, if_false, Option.map_some]

/-- A call that ends a turn which an actor had to skip. -/
def Serves (b : Battle) (c : Call) (x : ActorId) : Prop :=
  c = .pass ∧ b.actingActor? = some x ∧ b.isPrevented x = true

variable {c : Call}

theorem toldAt?_of_resolveTargets {s : Selector} {id : ActorId} {named targets : List ActorId}
    (h : b.resolveTargets s id named = (targets, b')) :
    b'.toldAt? x = b.toldAt? x ∧ b'.boundaries = b.boundaries := by
  obtain ⟨m, taunts, heq, -⟩ := b.resolveTargets_battle s id named
  rw [h] at heq
  obtain rfl : b' = _ := heq
  exact ⟨toldAt?_congr rfl x, rfl⟩

/-- However a call hits an actor, it leaves the mark of the boundaries counted before it. -/
theorem Tells.toldAt? (h : b.Tells rules content x c b') : b'.toldAt? x = some b.boundaries := by
  cases h with
  | @played act id _ _ b₁ b₂ haimed hhit =>
    rw [toldAt?_judge, hhit.toldAt?, boundaries_pay, (toldAt?_of_resolveTargets haimed (x := x)).2]
  | @passed id b₁ hid hhit =>
    have hnow : b₁.toldAt? x = some b.boundaries := hhit.toldAt?
    -- hit at the boundary itself, the actor does not skip the turn that ends there
    have hfree : ¬(x = id ∧ b₁.isPrevented id = true) := by
      rintro ⟨rfl, hprevented⟩
      rw [isPrevented_of_told_now (by rw [hnow, hhit.boundaries])] at hprevented
      cases hprevented
    rw [toldAt?_passOn, toldAt?_countBoundary, if_neg hfree, hnow]
  | resolved _ hhit => exact hhit.toldAt?

/-- **What becomes of the mark of an actor in a call: a hit sets it, the end of the turn that the
actor has to skip takes it away, and else it is the same.** -/
theorem Answers.toldAt? (h : b.Answers rules content c b') (x : ActorId) :
    b.Tells rules content x c b' ∨ (b.Serves c x ∧ b'.toldAt? x = none) ∨
      (¬b.Serves c x ∧ b'.toldAt? x = b.toldAt? x) := by
  have hnot : ∀ {c : Call}, c ≠ .pass → ¬b.Serves c x := fun hc hserves => hc hserves.1
  cases h with
  | refused => exact .inr (.inr ⟨hnot nofun, toldAt?_congr rfl x⟩)
  | @played act id _ _ _ b₁ b₂ _ haimed hresolved =>
    rcases hresolved.toldAt? x with hsame | hhit
    · refine .inr (.inr ⟨hnot nofun, ?_⟩)
      rw [toldAt?_judge, hsame, toldAt?_pay, (toldAt?_of_resolveTargets haimed).1]
    · exact .inl (.played haimed hhit)
  | @passed id b₁ hid hticked =>
    rcases hticked.toldAt? x with hsame | hhit
    · have hprevented : b₁.isPrevented x = b.isPrevented x :=
        isPrevented_congr hsame hticked.sameTurn.boundaries
      rw [toldAt?_passOn, toldAt?_countBoundary]
      by_cases hserves : b.Serves .pass x
      · obtain ⟨-, hx, hskips⟩ := hserves
        obtain rfl : id = x := Option.some.inj (hid.symm.trans hx)
        exact .inr (.inl ⟨⟨rfl, hid, hskips⟩, if_pos ⟨rfl, hprevented.trans hskips⟩⟩)
      · refine .inr (.inr ⟨hserves, ?_⟩)
        rw [if_neg, hsame]
        rintro ⟨rfl, hskips⟩
        exact hserves ⟨rfl, hid, hprevented.symm.trans hskips⟩
    · exact .inl (.passed hid hhit)
  | idle hid =>
    refine .inr (.inr ⟨fun hserves => ?_, rfl⟩)
    cases hid.symm.trans hserves.2.1
  | judged => exact .inr (.inr ⟨hnot nofun, b.toldAt?_judge x⟩)
  | resolved hc h =>
    rcases h.toldAt? x with hsame | hhit
    · refine .inr (.inr ⟨hnot ?_, hsame⟩)
      rintro rfl
      cases hc
    · exact .inl (.resolved hc hhit)

/-! ## Stretches -/

/-- No effect hits an actor in a call, unless it was hit before since the last boundary. -/
def Spares (x : ActorId) (b : Battle) (q : Request) (b' : Battle) : Prop :=
  b.Tells q.rules (fun _ => True) x q.call b' → b.toldAt? x = some b.boundaries

/-- A call that spares an actor and is not the end of the turn that it has to skip. -/
def Awaits (x : ActorId) (b : Battle) (q : Request) (b' : Battle) : Prop :=
  Spares x b q b' ∧ ¬b.Serves q.call x

/-- Until the actor has skipped a turn, its mark stays. -/
theorem Awaits.toldAt? {q : Request} {b b' : Battle} {x : ActorId} (hawaits : Awaits x b q b')
    (h : b.after? q = some b') : b'.toldAt? x = b.toldAt? x := by
  obtain ⟨hspares, hnot⟩ := hawaits
  rcases (answers_of_after? q.within_true h).toldAt? x with htells | ⟨hserves, -⟩ | ⟨-, hsame⟩
  · exact htells.toldAt?.trans (hspares htells).symm
  · exact absurd hserves hnot
  · exact hsame

theorem toldAt?_of_awaits {b b' : Battle} {x : ActorId} (h : b.Stretch (Awaits x) b') :
    b'.toldAt? x = b.toldAt? x := by
  refine h.induction (I := fun c => c.toldAt? x = b.toldAt? x) ?_ rfl
  intro c q c' hc hq hawaits
  exact (hawaits.toldAt? hq).trans hc

/-- Who was not told to skip is not, as long as no effect hits it. -/
theorem Spares.toldAt? {q : Request} {b b' : Battle} {x : ActorId} (hspares : Spares x b q b')
    (h : b.after? q = some b') (hfree : b.toldAt? x = none) : b'.toldAt? x = none := by
  rcases (answers_of_after? q.within_true h).toldAt? x with htells | ⟨-, hnone⟩ | ⟨-, hsame⟩
  · cases hfree.symm.trans (hspares htells)
  · exact hnone
  · exact hsame.trans hfree

theorem toldAt?_of_spares {b b' : Battle} {x : ActorId} (h : b.Stretch (Spares x) b')
    (hfree : b.toldAt? x = none) : b'.toldAt? x = none := by
  refine h.induction (I := fun c => c.toldAt? x = none) ?_ hfree
  intro c q c' hc hq hspares
  exact hspares.toldAt? hq hc

/-- The end of the turn that an actor has to skip takes its mark away, unless it is hit anew. -/
theorem toldAt?_endTurn? {b b' : Battle} {x : ActorId} {rules : Rules} {n : Nat}
    (htold : b.toldAt? x = some n) (hn : n < b.boundaries) (hid : b.actingActor? = some x)
    (h : b.endTurn? rules = some b') (hspares : Spares x b ⟨rules, .pass⟩ b') :
    b'.toldAt? x = none := by
  have hserves : b.Serves .pass x := by
    refine ⟨rfl, hid, ?_⟩
    simp [isPrevented_eq, htold, hn]
  have hq : b.after? ⟨rules, .pass⟩ = some b' := h
  rcases (answers_of_after? (Request.within_true _) hq).toldAt? x with
    htells | ⟨-, hnone⟩ | ⟨hnot, -⟩
  · have hnow := Option.some.inj (htold.symm.trans (hspares htells))
    omega
  · exact hnone
  · exact absurd hserves hnot

/-! ## Refusals -/

/-- Whatever an actor plays in its turn is refused, as it has to skip it. -/
def Skips (b : Battle) (x : ActorId) : Prop :=
  ∀ a, b.ended = none → b.actor? x = some a → a.alive = true → b.currentActor? = some x →
    ∀ rules act named, b.perform? rules act x named = some (b.refuse (.prevented a.name))

/-- Nothing that an actor plays is refused for having to skip. -/
def MayAct (b : Battle) (x : ActorId) : Prop :=
  ∀ rules act named b' r, b.perform? rules act x named = some (b', .error r) →
    ∀ name, r ≠ .prevented name

theorem skips_of_isPrevented {b : Battle} {x : ActorId} (h : b.isPrevented x = true) :
    b.Skips x := by
  intro a hgoing ha halive hturn rules act named
  have hover : b.isOver = false := isOver_eq_false_iff.2 hgoing
  have hrefused : b.validate act x = .error (.prevented a.name) := by
    simp only [validate, checkActor, hover, ha, halive, hturn, h, bne_self_eq_false, Bool.not_true,
      Bool.false_eq_true, if_false, if_true]
    rfl
  rw [perform?, hrefused]

theorem mayAct_of_not_isPrevented {b : Battle} {x : ActorId} (h : b.isPrevented x = false) :
    b.MayAct x := by
  rintro rules act named b' r hrefused name rfl
  cases grounds_of_refused hrefused with
  | prevented a _ hprevented => cases h.symm.trans hprevented

/-- **Whoever is hit by an effect that prevents it from acting loses exactly its next turn: it may
act as long as no further boundary is counted, then it has to skip whatever happens until it has
ended a turn, and if it is not hit again it never has to skip after that.** It can end that turn
unless something cannot be computed. -/
theorem loses_exactly_next_turn {x : ActorId} {b b₁ b₂ : Battle} {q : Request}
    {content : Effect → Prop} (hhit : b.Tells q.rules content x q.call b₁)
    (hrun : b₁.Stretch (Awaits x) b₂) :
    b₂.toldAt? x = some b.boundaries ∧
      (b₂.boundaries ≤ b.boundaries → b₂.isPrevented x = false ∧ b₂.MayAct x) ∧
      (b.boundaries < b₂.boundaries → b₂.isPrevented x = true ∧ b₂.Skips x ∧
        (b₂.actingActor? = some x → ∀ rules, (∃ b₃, b₂.endTurn? rules = some b₃ ∧
          (Spares x b₂ ⟨rules, .pass⟩ b₃ → b₃.toldAt? x = none ∧
            ∀ b₄, b₃.Stretch (Spares x) b₄ → b₄.isPrevented x = false ∧ b₄.MayAct x)) ∨
          b₂.BreaksOff ⟨rules, .pass⟩)) := by
  have htold : b₂.toldAt? x = some b.boundaries :=
    (toldAt?_of_awaits hrun).trans hhit.toldAt?
  refine ⟨htold, ?_, ?_⟩
  · intro hbefore
    have hfree : b₂.isPrevented x = false := by simp [isPrevented_eq, htold, hbefore]
    exact ⟨hfree, mayAct_of_not_isPrevented hfree⟩
  · intro hafter
    have hprevented : b₂.isPrevented x = true := by simp [isPrevented_eq, htold, hafter]
    refine ⟨hprevented, skips_of_isPrevented hprevented, fun hid rules => ?_⟩
    refine (b₂.endTurn?_returns rules).imp_left fun ⟨b₃, h⟩ => ⟨b₃, h, fun hspares => ?_⟩
    have hserved := toldAt?_endTurn? htold hafter hid h hspares
    refine ⟨hserved, fun b₄ hlater => ?_⟩
    have hfree : b₄.isPrevented x = false := by
      rw [isPrevented_eq, toldAt?_of_spares hlater hserved]
      rfl
    exact ⟨hfree, mayAct_of_not_isPrevented hfree⟩

/-- Told to skip in the turn of the hero, the slime is refused in its next turn and may act in the
one after that. -/
theorem slime_loses_one_turn :
    ∃ b₁ b₂ b₃ b₄, duel.after? ⟨{}, .resolve (.effect .preventAction {} "hero" ["slime"])⟩ =
        some b₁ ∧ b₁.after? ⟨{}, .pass⟩ = some b₂ ∧
      b₂.perform? {} finisher "slime" [] = some (b₂.refuse (.prevented "Slime")) ∧
      b₂.endTurn? {} = some b₃ ∧ b₃.after? ⟨{}, .pass⟩ = some b₄ ∧
      b₄.currentActor? = some "slime" ∧ b₄.MayAct "slime" := by
  let blow : Request := ⟨{}, .resolve (.effect .preventAction {} "hero" ["slime"])⟩
  let pass : Request := ⟨{}, .pass⟩
  obtain ⟨b₁, h₁, hhit⟩ : ∃ b₁, duel.after? blow = some b₁ ∧
      duel.Tells blow.rules (· = .preventAction) "slime" blow.call b₁ :=
    tells_of_effect rfl rfl List.mem_cons_self (by decide)
  have hreturns : (duel.run? [blow, pass, pass, pass]).isSome = true := by decide +kernel
  obtain ⟨b₄, hrun⟩ := Option.isSome_iff_exists.1 hreturns
  rw [run?, h₁, Option.bind_some] at hrun
  obtain ⟨b₂, h₂, hrun⟩ := Option.bind_eq_some_iff.1 hrun
  obtain ⟨b₃, h₃, hrun⟩ := Option.bind_eq_some_iff.1 hrun
  obtain ⟨_, h₄, ⟨⟩⟩ := Option.bind_eq_some_iff.1 hrun
  -- the marks, the boundaries and the turns along the run
  have hfirst : ((duel.run? [blow]).map (·.boundaries)) = some 0 := by decide +kernel
  have hsecond : ((duel.run? [blow, pass]).map fun b =>
      (b.boundaries, b.actingActor?, (b.actor? "slime").map fun a => (a.name, a.alive))) =
      some (1, some "slime", some ("Slime", true)) := by decide +kernel
  have hthird : ((duel.run? [blow, pass, pass]).map fun b => b.toldAt? "slime") = some none := by
    decide +kernel
  have hfourth : ((duel.run? [blow, pass, pass, pass]).map fun b =>
      (b.toldAt? "slime", b.currentActor?)) = some (none, some "slime") := by decide +kernel
  simp only [run?, h₁, h₂, h₃, h₄, Option.bind_some, Option.map_some, Option.some.injEq,
    Prod.mk.injEq] at hfirst hsecond hthird hfourth
  obtain ⟨hcount₂, hacting, hslime⟩ := hsecond
  have hnow : b₁.toldAt? "slime" = some b₁.boundaries := by
    rw [hhit.toldAt?, hfirst]
    rfl
  have hawaits : Awaits "slime" b₁ pass b₂ := by
    refine ⟨fun _ => hnow, fun hserves => ?_⟩
    cases (isPrevented_of_told_now hnow).symm.trans hserves.2.2
  obtain ⟨-, -, hafter⟩ := loses_exactly_next_turn hhit (.single (.called pass h₂ hawaits))
  obtain ⟨-, hskips, hend⟩ := hafter (by rw [hcount₂]; decide)
  obtain ⟨b₃', h₃', hserved⟩ :=
    (hend hacting {}).resolve_right (not_breaksOff (Option.isSome_of_eq_some h₃))
  obtain rfl : b₃ = b₃' := Option.some.inj (h₃.symm.trans h₃')
  obtain ⟨-, hlater⟩ := hserved fun htells => by cases hthird.symm.trans htells.toldAt?
  have hspares : Spares "slime" b₃ pass b₄ :=
    fun htells => by cases hfourth.1.symm.trans htells.toldAt?
  obtain ⟨-, hmay⟩ := hlater b₄ (.single (.called pass h₄ hspares))
  obtain ⟨a, ha, heq⟩ := Option.map_eq_some_iff.1 hslime
  obtain ⟨hname, halive⟩ := Prod.mk.inj heq
  obtain ⟨hgoing, hcurrent⟩ := actingActor?_eq_some_iff.1 hacting
  have hrefused := hskips a hgoing ha halive hcurrent {} finisher []
  rw [hname] at hrefused
  exact ⟨b₁, b₂, b₃, b₄, h₁, h₂, hrefused, h₃, h₄, hfourth.2, hmay⟩

end Battle

end

end Skirmish
