import Skirmish.Proofs.Ending

/-!
# How turns progress

At the end of a turn the statuses of the acting actor pass the boundary, which can summon actors to
the end of the order and can leave anyone down. If the battle goes on after that, the turn passes to
the first place after the present one, cyclically in the order as it is then, whose actor is alive;
a new round begins and says so exactly if the order starts again (`turn_progresses`).

`Battle.goOn` is the battle with the turn some places further, of which fewer than two rounds are
asked for. Passing the turn on is one such battle (`advance_eq_goOn`), by induction on the places
that are tried.
-/

namespace Skirmish

namespace Battle

/-! ## Going on -/

/-- The battle with the turn `k` places further, where a new round may have begun. -/
def goOn (b : Battle) (k : Nat) : Battle :=
  if b.current + k < b.order.length then { b with current := b.current + k }
  else
    { b with current := b.current + k - b.order.length, round := b.round + 1 }.announce
      s!"Turn {b.round + 1}"

/-- Whether the actor `k` places further in the order is alive. -/
def aliveAfter (b : Battle) (k : Nat) : Bool :=
  (b.order[(b.current + k) % b.order.length]?).any b.isAlive

theorem nextPlace_eq_goOn {b : Battle} (hcur : b.current < b.order.length) :
    b.nextPlace = b.goOn 1 := by
  unfold nextPlace goOn
  split
  · rfl
  · have hstart : b.current + 1 - b.order.length = 0 := by omega
    rw [hstart]

theorem nextPlace_current {b : Battle} (hcur : b.current < b.order.length) :
    b.nextPlace.current = (b.current + 1) % b.order.length := by
  unfold nextPlace
  split
  · next hlt => exact (Nat.mod_eq_of_lt hlt).symm
  · have hstart : b.current + 1 = b.order.length := by omega
    rw [hstart, Nat.mod_self]
    rfl

/-- What is read along the order does not depend on whose turn it is. -/
theorem nextPlace_keeps (b : Battle) :
    b.nextPlace.order = b.order ∧ b.nextPlace.isAlive = b.isAlive := by
  obtain ⟨round, current, log, heq, -⟩ := b.nextPlace_spec
  rw [heq]
  exact ⟨rfl, rfl⟩

theorem aliveAfter_nextPlace {b : Battle} (hcur : b.current < b.order.length) (k : Nat) :
    b.nextPlace.aliveAfter k = b.aliveAfter (k + 1) := by
  obtain ⟨horder, halive⟩ := b.nextPlace_keeps
  rw [aliveAfter, aliveAfter, horder, halive, nextPlace_current hcur, Nat.mod_add_mod,
    Nat.add_assoc, Nat.add_comm 1 k]

theorem goOn_nextPlace {b : Battle} (hcur : b.current < b.order.length) {k : Nat}
    (hk : b.current + (k + 1) < 2 * b.order.length) : b.nextPlace.goOn k = b.goOn (k + 1) := by
  unfold nextPlace
  split
  · next hlt =>
    have hadd : b.current + 1 + k = b.current + (k + 1) := by omega
    simp only [goOn, hadd]
  · -- the order starts again, and does not start again once more
    have hagain : ¬ b.current + (k + 1) < b.order.length := by omega
    have hwithin : 0 + k < b.order.length := by omega
    have hplace : b.current + (k + 1) - b.order.length = 0 + k := by omega
    simp only [goOn, announce, if_neg hagain, hplace]
    exact if_pos hwithin

/-- **Passing the turn on goes to the first place of someone alive.** -/
theorem advance_eq_goOn (n : Nat) (b : Battle) (hcur : b.current < b.order.length)
    (hn : b.current + n < 2 * b.order.length)
    (hsome : ∃ j, 0 < j ∧ j ≤ n ∧ b.aliveAfter j = true) :
    ∃ k, 0 < k ∧ k ≤ n ∧ b.advance n = b.goOn k ∧ b.aliveAfter k = true ∧
      ∀ j, 0 < j → j < k → b.aliveAfter j = false := by
  induction n generalizing b with
  | zero =>
    obtain ⟨j, hpos, hle, -⟩ := hsome
    omega
  | succ n ih =>
    obtain ⟨horder, halive⟩ := b.nextPlace_keeps
    have hlt : b.nextPlace.current < b.order.length := by
      rw [nextPlace_current hcur]
      exact Nat.mod_lt _ (by omega)
    have hfirst : b.nextPlace.currentActor?.any b.nextPlace.isAlive = b.aliveAfter 1 := by
      rw [currentActor?, aliveAfter, horder, halive, nextPlace_current hcur]
    unfold advance
    dsimp only
    rw [hfirst]
    cases h1 : b.aliveAfter 1 with
    | true =>
      exact ⟨1, by omega, by omega, nextPlace_eq_goOn hcur, h1, fun j _ _ => by omega⟩
    | false =>
      have hle : b.nextPlace.current ≤ b.current + 1 := by
        rw [nextPlace_current hcur]
        exact Nat.mod_le ..
      have hsome' : ∃ j, 0 < j ∧ j ≤ n ∧ b.nextPlace.aliveAfter j = true := by
        obtain ⟨j, hpos, hjn, hj⟩ := hsome
        have hne : j ≠ 1 := fun h => by simp [h, h1] at hj
        refine ⟨j - 1, by omega, by omega, ?_⟩
        rw [aliveAfter_nextPlace hcur, Nat.sub_add_cancel hpos]
        exact hj
      obtain ⟨k, hpos, hkn, hadvance, hk, hbefore⟩ :=
        ih b.nextPlace (by rwa [horder]) (by rw [horder]; omega) hsome'
      rw [aliveAfter_nextPlace hcur] at hk
      refine ⟨k + 1, by omega, by omega, ?_, hk, fun j hj hjk => ?_⟩
      · rw [← goOn_nextPlace hcur (by omega)]
        exact hadvance
      · cases j with
        | zero => omega
        | succ j =>
          rcases Nat.eq_zero_or_pos j with rfl | hj
          · exact h1
          · rw [← aliveAfter_nextPlace hcur]
            exact hbefore j hj (by omega)

/-! ## Who comes next -/

/-- The turn comes to everyone in the order within one round. -/
theorem exists_aliveAfter {b : Battle} (hcur : b.current < b.order.length) {id : ActorId}
    (hmem : id ∈ b.order) (halive : b.isAlive id = true) :
    ∃ j, 0 < j ∧ j ≤ b.order.length ∧ b.aliveAfter j = true := by
  obtain ⟨i, hi, rfl⟩ := List.getElem_of_mem hmem
  have hread : ∀ j, (b.current + j) % b.order.length = i → b.aliveAfter j = true := by
    intro j hj
    rw [aliveAfter, hj, List.getElem?_eq_getElem hi]
    exact halive
  rcases Nat.lt_or_ge b.current i with hlt | hge
  · refine ⟨i - b.current, by omega, by omega, hread _ ?_⟩
    rw [Nat.add_sub_cancel' (Nat.le_of_lt hlt), Nat.mod_eq_of_lt hi]
  · refine ⟨b.order.length + i - b.current, by omega, by omega, hread _ ?_⟩
    have hround : b.current + (b.order.length + i - b.current) = b.order.length + i := by omega
    rw [hround, Nat.add_mod_left, Nat.mod_eq_of_lt hi]

/-- From a battle whose acting actor's statuses left the battle `ticked`, the turn has passed to the
first place of someone alive. A new round has begun, and says so, exactly if the order has started
again. -/
structure Progresses (b ticked c : Battle) : Prop where
  next : ∃ k, 0 < k ∧ k ≤ c.order.length ∧
    c.current = (b.current + k) % c.order.length ∧
    ∀ j, 0 < j → j < k →
      (c.order[(b.current + j) % c.order.length]?).any c.isAlive = false
  alive : c.currentActor?.any c.isAlive = true
  order : c.order = ticked.order
  round : c.round = if c.current ≤ b.current then b.round + 1 else b.round
  log : c.log = ticked.log ++ if c.current ≤ b.current then [s!"Turn {c.round}"] else []
  announced : c.round = b.round + 1 ∧ c.log.getLast? = some s!"Turn {c.round}" ↔
    c.current ≤ b.current
  increases : Prod.Lex (· < ·) (· < ·) (b.round, b.current) (c.round, c.current)

theorem goOn_keeps (b : Battle) (k : Nat) :
    (b.goOn k).order = b.order ∧ (b.goOn k).isAlive = b.isAlive := by
  unfold goOn
  split <;> exact ⟨rfl, rfl⟩

theorem goOn_current {b : Battle} {k : Nat} (h : b.current + k < 2 * b.order.length) :
    (b.goOn k).current = (b.current + k) % b.order.length := by
  unfold goOn
  split
  · next hlt => exact (Nat.mod_eq_of_lt hlt).symm
  · next hge =>
    have hrest : b.current + k - b.order.length < b.order.length := by omega
    rw [Nat.mod_eq_sub_mod (by omega), Nat.mod_eq_of_lt hrest]
    rfl

/-- A new round begins exactly if the order starts again. -/
theorem goOn_round {b : Battle} {k : Nat} (hpos : 0 < k) (hk : k ≤ b.order.length) :
    ((b.goOn k).current ≤ b.current ∧ (b.goOn k).round = b.round + 1 ∧
        (b.goOn k).log = b.log ++ [s!"Turn {b.round + 1}"]) ∨
      (b.current < (b.goOn k).current ∧ (b.goOn k).round = b.round ∧
        (b.goOn k).log = b.log) := by
  unfold goOn
  split
  · refine .inr ⟨?_, rfl, rfl⟩
    change b.current < b.current + k
    omega
  · refine .inl ⟨?_, rfl, rfl⟩
    change b.current + k - b.order.length ≤ b.current
    omega

/-- Once the boundary is counted, the turn progresses by going on to the first place of someone
alive. -/
theorem progresses_goOn {b ticked c : Battle} (horder : c.order = ticked.order)
    (hplace : c.current = b.current) (hround : c.round = b.round) (hlog : c.log = ticked.log)
    (hcur : c.current < c.order.length) {k : Nat} (hpos : 0 < k) (hk : k ≤ c.order.length)
    (halive : c.aliveAfter k = true) (hbefore : ∀ j, 0 < j → j < k → c.aliveAfter j = false) :
    b.Progresses ticked (c.goOn k) := by
  obtain ⟨hgoOrder, hgoAlive⟩ := c.goOn_keeps k
  have hgoCurrent : (c.goOn k).current = (c.current + k) % c.order.length :=
    goOn_current (by omega)
  have hnext : ∃ k', 0 < k' ∧ k' ≤ (c.goOn k).order.length ∧
      (c.goOn k).current = (b.current + k') % (c.goOn k).order.length ∧
      ∀ j, 0 < j → j < k' →
        ((c.goOn k).order[(b.current + j) % (c.goOn k).order.length]?).any (c.goOn k).isAlive =
          false := by
    rw [hgoOrder, hgoAlive, hgoCurrent, ← hplace]
    exact ⟨k, hpos, hk, rfl, hbefore⟩
  have hcurrent : (c.goOn k).currentActor?.any (c.goOn k).isAlive = true := by
    rw [currentActor?, hgoOrder, hgoAlive, hgoCurrent]
    exact halive
  rcases goOn_round hpos hk with ⟨hagain, hrnd, hlg⟩ | ⟨hon, hrnd, hlg⟩
  · rw [hplace] at hagain
    rw [hround] at hrnd hlg
    rw [hlog] at hlg
    refine ⟨hnext, hcurrent, hgoOrder.trans horder, ?_, ?_, ?_, ?_⟩
    · rw [if_pos hagain, hrnd]
    · rw [if_pos hagain, hrnd, hlg]
    · rw [hrnd, hlg]
      exact iff_of_true ⟨rfl, List.getLast?_concat⟩ hagain
    · exact .left _ _ (by omega)
  · rw [hplace] at hon
    rw [hround] at hrnd
    rw [hlog] at hlg
    have hnot : ¬ (c.goOn k).current ≤ b.current := Nat.not_le.2 hon
    refine ⟨hnext, hcurrent, hgoOrder.trans horder, ?_, ?_, ?_, ?_⟩
    · rw [if_neg hnot, hrnd]
    · rw [if_neg hnot, hlg, List.append_nil]
    · exact iff_of_false (fun h => by omega) hnot
    · rw [hrnd]
      exact .right _ hon

/-! ## Passing the turn -/

/-- A battle that goes on after it was judged is what it was before, with both sides contested. -/
theorem judge_eq_none {b b' : Battle} (h : b.judge = (none, b')) :
    b' = b ∧ ∃ id ∈ b.players, b.isAlive id = true := by
  unfold judge at h
  split at h
  · cases (Prod.mk.inj h).1
  · split at h
    · next hv =>
      obtain ⟨-, rfl⟩ := Prod.mk.inj h
      refine ⟨rfl, ?_⟩
      have hplayers : b.isDown .player = false := by
        unfold verdict? at hv
        cases hp : b.isDown .player with
        | false => rfl
        | true =>
          rw [hp] at hv
          split at hv <;> cases hv
      exact isDown_eq_false_iff.1 hplayers
    all_goals cases (Prod.mk.inj h).1

/-- A turn that is passed on while the battle goes on. -/
theorem passOn_of_going {b : Battle} (hend : b.ended = none ∨ b.ended = some .fled)
    (hgoing : b.passOn.ended = none) :
    b.passOn = b.advance b.order.length ∧ ∃ id ∈ b.players, b.isAlive id = true := by
  have hjudged := (judge_exact hend).1
  unfold passOn at hgoing ⊢
  split at hgoing
  · next r b₁ hj =>
    rw [hj] at hjudged
    cases hjudged.trans hgoing
  · next b₁ hj =>
    obtain ⟨rfl, halive⟩ := judge_eq_none hj
    exact ⟨rfl, halive⟩

/-- **The end of a turn in a battle that goes on passes the turn to the first place of someone
alive, and the round is one of those that can be counted; or something in it cannot be
computed.** -/
theorem turn_progresses {b : Battle} (hb : b.Reachable) (hgoing : b.ended = none)
    (rules : Rules) :
    ∃ id, b.currentActor? = some id ∧
      ((∃ ticked b', b.ticked? rules id = some ticked ∧ b.endTurn? rules = some b' ∧
          b'.round ≤ greatestCount ∧ (b'.ended = none → b.Progresses ticked b')) ∨
        b.BreaksOff ⟨rules, .pass⟩) := by
  obtain ⟨henrolled, hcur⟩ := hb.enrolled
  obtain ⟨id, hid⟩ := exists_currentActor? hcur
  refine ⟨id, hid, (b.endTurn?_returns rules).imp_left fun ⟨b', hpassed⟩ => ?_⟩
  obtain ⟨ticked, hticked, rfl, hcounts⟩ :=
    endTurn?_eq_some (actingActor?_eq_some_iff.2 ⟨hgoing, hid⟩) hpassed
  obtain ⟨hround, -⟩ := Bool.and_eq_true_iff.1 hcounts
  refine ⟨ticked, _, hticked, hpassed, of_decide_eq_true hround, fun hended => ?_⟩
  have hchanges := changes_ticked? hticked
  have hsame := hchanges.sameTurn
  obtain ⟨htickedEnrolled, htickedCur⟩ : ticked.Enrolled ∧ ticked.current < ticked.order.length :=
    hchanges.evolves.induction (fun _ _ h hshift => hshift.enrolled h) ⟨henrolled, hcur⟩
  obtain ⟨prevented, taunts, hcounted⟩ := ticked.countBoundary_eq id
  have hend : (ticked.countBoundary id).ended = none ∨
      (ticked.countBoundary id).ended = some .fled := by
    rw [hcounted]
    exact hsame.none_or_fled (.inl hgoing)
  obtain ⟨hadvance, p, hp, halive⟩ := passOn_of_going hend hended
  rw [hadvance]
  have hkept : (ticked.countBoundary id).order = ticked.order ∧
      (ticked.countBoundary id).current = ticked.current ∧
      (ticked.countBoundary id).round = ticked.round ∧
      (ticked.countBoundary id).log = ticked.log ∧
      (ticked.countBoundary id).players = ticked.players := by
    rw [hcounted]
    exact ⟨rfl, rfl, rfl, rfl, rfl⟩
  obtain ⟨horder, hplace, hround, hlog, hplayers⟩ := hkept
  generalize ticked.countBoundary id = c at *
  rw [hplayers] at hp
  rw [← horder, ← hplace] at htickedCur
  have hmem : p ∈ c.order := by
    rw [horder]
    exact htickedEnrolled.perm.mem_iff.2 (List.mem_append_left _ hp)
  obtain ⟨k, hpos, hk, heq, hkalive, hbefore⟩ :=
    advance_eq_goOn c.order.length c htickedCur (by omega)
      (exists_aliveAfter htickedCur hmem halive)
  rw [heq]
  exact progresses_goOn horder (hplace.trans hsame.current) (hround.trans hsame.round) hlog
    htickedCur hpos hk hkalive hbefore

/-- After the hero has passed, the slime's turn passes back to the hero, and round two begins. -/
theorem turn_comes_back :
    ∃ b ticked b', duel.run? [⟨{}, .pass⟩] = some b ∧ b.current = 1 ∧
      b.endTurn? {} = some b' ∧ b'.current = 0 ∧ b'.round = 2 ∧ b.Progresses ticked b' := by
  have hfirst : (duel.run? [⟨{}, .pass⟩]).map (fun b => (b.current, b.ended)) =
      some (1, none) := by
    decide +kernel
  have hsecond : ((duel.run? [⟨{}, .pass⟩]).bind (·.endTurn? {})).map
      (fun b => (b.current, b.round, b.ended)) = some (0, 2, none) := by
    decide +kernel
  obtain ⟨b, hrun, hb⟩ := Option.map_eq_some_iff.1 hfirst
  obtain ⟨hplace, hgoing⟩ := Prod.mk.inj hb
  have hreachable : b.Reachable := ⟨⟨7⟩, [hero], [slime], duel, _, rfl, hrun⟩
  rw [hrun, Option.bind_some] at hsecond
  obtain ⟨_, hreturns, -⟩ := Option.map_eq_some_iff.1 hsecond
  obtain ⟨id, -, hturn⟩ := turn_progresses hreachable hgoing {}
  obtain ⟨ticked, b', -, hpassed, -, hprogress⟩ :=
    hturn.resolve_right (not_breaksOff (Option.isSome_of_eq_some hreturns))
  rw [hpassed] at hsecond
  obtain ⟨hplace', hrest⟩ := Prod.mk.inj (Option.some.inj hsecond)
  obtain ⟨hround, hended⟩ := Prod.mk.inj hrest
  exact ⟨b, ticked, b', hrun, hplace, hpassed, hplace', hround, hprogress hended⟩

end Battle

end Skirmish
