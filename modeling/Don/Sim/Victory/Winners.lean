import Don.Sim.Victory.Outcomes

/-!
# Winners — who can win a sweep

Everybody newly marked as a winner was in the game, and a score, time or economic award goes to a
leader with the best value of those in the game.  The running maximum behind the awards starts at zero
and at slot 0, so this fails exactly when an award is due, nobody in the game has a positive value, and
slot 0 has no outcome and is out of the game or has less than somebody else.
-/

namespace Don.Sim

open Foundation Game List Scores

variable {ρ : Type}

/-- The beginning of a sweep, up to the blocks that award the match. -/
def Scoring.opening (S : Scoring ρ) : Play ρ Unit := do
  Proc.modify fun g => { g with events := [] }
  S.armageddonBlock

/-! ## The property -/

/-- The winner a sweep names first; all others win through it. -/
def directWinner (es : List MatchEvent) : Option Seat :=
  es.findSome? fun
    | .victory w _ => some w
    | _ => none

/-- The value that an award of the current setting goes by. -/
def contested (g : Game ρ) : Option (Seat → Int32) :=
  if isSetting g.match .score || isSetting g.match .timeLimit then some g.getTeamScore
  else if isSetting g.match .economic then some g.getTeamEconomic
  else none

/-- Every new winner was active when the sweep started, and a direct award goes to a best leader of
those active at the time of the award. -/
structure PlayersWin (g t g' : Game ρ) : Prop where
  winners : ∀ i, g'.won i → ¬ g.won i → g.active i
  best : ∀ value, contested t = some value → ∀ w, directWinner g'.events = some w →
    t.active w ∧ ∀ j, t.active j → value j ≤ value w

/-! ## The condition -/

/-- An award of the current setting is made even to a value of zero. -/
def awardDue (m : Match) : Prop :=
  (isSetting m .score = true ∧
    ∃ goal, m.victoryOptions.scores[m.options.scoreGoal.toNat]? = some goal ∧ goal ≤ 0) ∨
  (isSetting m .timeLimit = true ∧ timeIsUp m = true) ∨
  (isSetting m .economic = true ∧
    ∃ goal, m.victoryOptions.econwins[m.options.econwin.toNat]? = some goal ∧ goal ≤ 0)

/-- Armageddon takes everybody out of the game who was not defeated before. -/
def staysIn (g : Game ρ) (i : Seat) : Prop :=
  g.active i ∧ (g.match.armageddonReached = true → g.defeated i)

/-- The value an award goes by, after armageddon has cleared the scores. -/
def standing (g : Game ρ) (i : Seat) : Int32 :=
  if isSetting g.match .economic then g.getTeamEconomic i
  else if g.match.armageddonReached then 0
  else g.getTeamScore i

/-- When an award is due and nobody in the game has a positive value, slot 0 is a rightful winner, or
has its outcome already. -/
def Fair (g : Game ρ) : Prop :=
  awardDue g.match → ¬ g.flagged 0 → (g.match.armageddonReached = true → ¬ g.active 0) →
    (∀ i, staysIn g i → standing g i ≤ 0) →
      staysIn g 0 ∧ ∀ i, staysIn g i → standing g i ≤ standing g 0

/-! ## Events -/

lemma directWinner_eq_none {es : List MatchEvent} (h : ∀ i, victoriesOf es i = 0) :
    directWinner es = none := by
  refine findSome?_eq_none_iff.2 fun e he => ?_
  cases e with
  | victory w =>
    have hw := countP_eq_zero.1 (h w) _ he
    simp at hw
  | defeat | armageddonAll | gameOver => rfl

variable {vt : VictoryType}

lemma directWinner_of_first {es es' : List MatchEvent} {w : Seat}
    (hnone : directWinner es = none) (h : es ++ [.victory w vt] <+: es') : directWinner es' = some w := by
  obtain ⟨more, rfl⟩ := h
  unfold directWinner at *
  simp [hnone]

/-! ## Awards -/

variable {value : Game ρ → Seat → Int32} {t g' : Game ρ} {goal : Option Int32}

lemma AwardSpec.best_iff (h : AwardSpec value goal vt t g')
    (hnone : directWinner t.events = none) :
    (∀ w, directWinner g'.events = some w → t.active w ∧ ∀ j, t.active j → value t j ≤ value t w) ↔
      (goal.all (· ≤ 0) = true → ¬ t.flagged 0 → (∀ i, t.active i → value t i ≤ 0) →
        t.active 0 ∧ ∀ i, t.active i → value t i ≤ value t 0) := by
  unfold AwardSpec at h
  rcases leading_spec t value with ⟨hlead, hle⟩ | ⟨hact, hval, hpos, hmax⟩
  · -- nobody is ahead of zero: the award, if any, goes to slot 0
    rw [hlead] at h
    split at h
    · rename_i hgoal
      by_cases hfl : t.flagged 0
      · rw [h.idle hfl, hnone]
        simp [hfl]
      have hfirst := directWinner_of_first hnone (h.first hfl)
      rw [hfirst]
      constructor
      · exact fun hbest _ _ _ => hbest 0 rfl
      · rintro hfair w ⟨⟩
        exact hfair hgoal hfl hle
    · rename_i hgoal
      rw [h, hnone]
      simp [hgoal]
  · -- somebody is, and has the maximum
    have hbest : ∀ w, directWinner g'.events = some w → t.active w ∧
        ∀ j, t.active j → value t j ≤ value t w := by
      intro w hw
      split at h
      · by_cases hfl : t.flagged (leading t value).2
        · rw [h.idle hfl, hnone] at hw
          simp at hw
        · rw [directWinner_of_first hnone (h.first hfl)] at hw
          obtain rfl := Option.some.inj hw
          refine ⟨hact, fun j hj => ?_⟩
          rw [hval]
          exact hmax j hj
      · rw [h, hnone] at hw
        simp at hw
    refine ⟨fun _ _ _ hle => ?_, fun _ => hbest⟩
    have hcontra := hle _ hact
    rw [hval] at hcontra
    exact (Int32.not_lt.2 hcontra hpos).elim

/-- Only the slot in front can win from outside the game. -/
lemma AwardSpec.winners (h : AwardSpec value goal vt t g') (hnone : directWinner t.events = none)
    (hbest : ∀ w, directWinner g'.events = some w → t.active w) {i : Seat} (hi : g'.won i) :
    t.won i ∨ t.active i := by
  unfold AwardSpec at h
  split at h
  · by_cases hfl : t.flagged (leading t value).2
    · rw [h.idle hfl] at hi
      exact Or.inl hi
    · rcases h.winners i hi with hw | ha | rfl
      · exact Or.inl hw
      · exact Or.inr ha
      · exact Or.inr (hbest _ (directWinner_of_first hnone (h.first hfl)))
  · rw [h] at hi
    exact Or.inl hi

/-! ## Before the awards -/

variable {g : Game ρ}

lemma Evolves.teamMates (h : Evolves g g') (i : Seat) : g'.teamMates i = g.teamMates i := by
  unfold Game.teamMates
  refine filter_congr fun j _ => ?_
  have hally : g'.isAlly i j = g.isAlly i j := Bool.eq_iff_iff.2 (h.allied_iff i j)
  rw [(h.terms j).valid, hally]

lemma Evolves.getTeamEconomic (h : Evolves g g') (i : Seat) :
    g'.getTeamEconomic i = g.getTeamEconomic i := by
  unfold Game.getTeamEconomic Game.teamAverage Game.teamSum
  rw [h.teamMates i]
  simp only [(h.terms _).economic]

lemma getTeamScore_of_zero (h : ∀ i, (t.leader i).scores = zero) (i : Seat) :
    t.getTeamScore i = 0 := by
  have hsum : ∀ js : List Seat, js.foldl (fun sum j => sum + (t.leader j).scores.score) 0 = 0 := by
    intro js
    induction js with
    | nil => rfl
    | cons j js ih => simpa [h j, zero] using ih
  unfold getTeamScore teamAverage teamSum
  split
  · rw [hsum, Int32.zero_div]
  · simp [h i, zero]

/-- The game that the awards start from. -/
structure Opened (g t : Game ρ) : Prop where
  evolves : Evolves { g with events := [] } t
  won_iff : ∀ i, t.won i ↔ g.won i
  active_iff : ∀ i, t.active i ↔ staysIn g i
  flagged_iff : ∀ i, t.flagged i ↔ g.flagged i ∨ (g.match.armageddonReached = true ∧ g.active i)
  score : ∀ i, t.getTeamScore i = if g.match.armageddonReached then 0 else g.getTeamScore i

lemma opened_of_armageddonBlock {S : Scoring ρ} {n : Nat}
    (h : S.armageddonBlock.run n { g with events := [] } = .ok () t) : Opened g t := by
  obtain ⟨hended, hsame⟩ := (S.armageddonBlock_total _).of_run h
  cases hclock : g.match.armageddonReached with
  | false =>
    rw [hsame hclock]
    refine ⟨Evolves.refl _, fun _ => Iff.rfl, fun i => ?_, fun i => ?_, fun i => ?_⟩
    · simp [staysIn, hclock, active]
    · simp [hclock, flagged, won, defeated]
    · simp only [hclock, Bool.false_eq_true, if_false]
      rfl
  | true =>
    have he := hended hclock
    refine ⟨he.evolves, fun i => ⟨he.winners i, he.evolves.won i⟩, fun i => ?_, fun i => ?_, fun i => ?_⟩
    · rw [he.active_iff i]
      exact and_congr Iff.rfl ⟨fun hd _ => hd, fun hd => hd hclock⟩
    · have hwon : t.won i ↔ g.won i := ⟨he.winners i, he.evolves.won i⟩
      rw [flagged, flagged, hwon, he.defeated_iff i]
      simp only [hclock, true_and]
      exact or_assoc.symm
    · rw [getTeamScore_of_zero he.zero i]
      simp [hclock]

section

variable (h : Opened g t)
include h

lemma Opened.no_winner : directWinner t.events = none := by
  refine directWinner_eq_none fun i => ?_
  have hcount := h.evolves.victories i
  have hwon : (t.leader i).flag .won = (g.leader i).flag .won := Bool.eq_iff_iff.2 (h.won_iff i)
  simp only [victories, victoriesOf, countP_nil, hwon] at hcount ⊢
  omega

lemma Opened.due_iff : awardDue t.match ↔ awardDue g.match := by
  change awardDue t.match.rules ↔ awardDue g.match.rules
  rw [h.evolves.rules]

lemma Opened.setting (v : Victory) : isSetting t.match v = isSetting g.match v :=
  h.evolves.isSetting v

/-! ## The sweep -/

/-- An award by a value that the sweep has not changed, or has cleared. -/
lemma Opened.award (haward : AwardSpec value goal vt t g')
    (hcontested : contested t = some (value t)) (hdue : awardDue g.match ↔ goal.all (· ≤ 0) = true)
    (hstanding : ∀ i, value t i = standing g i) : PlayersWin g t g' ↔ Fair g := by
  have hbest := haward.best_iff h.no_winner
  have hslot : ¬ t.flagged 0 ↔ ¬ g.flagged 0 ∧ (g.match.armageddonReached = true → ¬ g.active 0) := by
    rw [h.flagged_iff 0, not_or, not_and]
  simp only [h.active_iff, hstanding, hslot, and_imp] at hbest
  rw [Fair, hdue, ← hbest]
  constructor
  · intro hw w hwin
    have hb := hw.best (value t) hcontested w hwin
    simpa only [h.active_iff, hstanding] using hb
  · intro hb
    refine ⟨fun i hi hnew => ?_, fun value' hv w hwin => ?_⟩
    · have hplayer : ∀ w, directWinner g'.events = some w → t.active w := fun w hwin =>
        (h.active_iff w).2 (hb w hwin).1
      rcases haward.winners h.no_winner hplayer hi with hwon | hact
      · exact (hnew ((h.won_iff i).1 hwon)).elim
      · exact ((h.active_iff i).1 hact).1
    · obtain rfl : value t = value' := by simpa [hcontested] using hv
      simpa only [h.active_iff, hstanding] using hb w hwin

/-- A setting without awards. -/
lemma Opened.other {v : Victory} (hv : isSetting t.match v = true)
    (hs : v ≠ .score) (ht : v ≠ .timeLimit) (he : v ≠ .economic) {fits : Prop}
    (hblock : BlockSpec fits True t g') : PlayersWin g t g' ↔ Fair g := by
  have hno : ∀ v', v ≠ v' → isSetting t.match v' = false := fun v' hne =>
    Bool.eq_false_iff.2 fun hv' => hne (isSetting_inj hv hv')
  have hfair : Fair g := by
    intro hdue
    rw [← h.due_iff] at hdue
    simp [awardDue, hno _ hs, hno _ ht, hno _ he] at hdue
  refine iff_of_true ⟨fun i hi hnew => ?_, fun value hvalue => ?_⟩ hfair
  · rcases hblock.winners trivial i hi with hwon | hact
    · exact (hnew ((h.won_iff i).1 hwon)).elim
    · exact ((h.active_iff i).1 hact).1
  · simp [contested, hno _ hs, hno _ ht, hno _ he] at hvalue

/-- Settings whose blocks do not run. -/
lemma Opened.idle (hidle : ∀ v ∈ settings, runs v t.match = false) :
    PlayersWin g t t ↔ Fair g := by
  have hfair : Fair g := by
    intro hdue
    rw [← h.due_iff] at hdue
    have hs := hidle .score (by decide)
    have ht := hidle .timeLimit (by decide)
    have he := hidle .economic (by decide)
    simp only [runs] at hs ht he
    rcases hdue with ⟨hdue, _⟩ | ⟨hdue, hup⟩ | ⟨hdue, _⟩
    · simp [hs] at hdue
    · simp [hdue, hup] at ht
    · simp [he] at hdue
  refine iff_of_true ⟨fun i hi hnew => (hnew ((h.won_iff i).1 hi)).elim, fun value _ w hw => ?_⟩ hfair
  simp [h.no_winner] at hw

lemma Opened.playersWin_iff (hstage : Stage settings t g') : PlayersWin g t g' ↔ Fair g := by
  rcases hstage with ⟨rfl, hidle⟩ | ⟨v, _, hruns, hd⟩
  · exact h.idle hidle
  have hv := isSetting_of_runs hruns
  have hvg := hv
  rw [h.setting] at hvg
  have hno : ∀ v', v ≠ v' → isSetting g.match v' = false := fun v' hne =>
    Bool.eq_false_iff.2 fun hv' => hne (isSetting_inj hvg hv')
  cases v with
  | score =>
    obtain ⟨goal, hgoal, haward⟩ := hd
    refine h.award haward (by simp [contested, hv]) ?_ fun i => ?_
    · rw [← h.due_iff]
      simp [awardDue, hv, hgoal, h.setting, hno .timeLimit (by decide),
        hno .economic (by decide)]
    · simp [standing, h.score i, hno .economic (by decide)]
  | timeLimit =>
    have haward : AwardSpec getTeamScore none .byTimeLimit t g' := hd
    refine h.award haward (by simp [contested, hv]) ?_ fun i => ?_
    · rw [← h.due_iff]
      simp [awardDue, hv, (Bool.and_eq_true _ _ ▸ hruns : _ ∧ _).2]
    · simp [standing, h.score i, hno .economic (by decide)]
  | economic =>
    obtain ⟨goal, hgoal, haward⟩ := hd
    refine h.award haward ?_ ?_ fun i => ?_
    · simp [contested, hv, h.setting, hno .score (by decide), hno .timeLimit (by decide)]
    · rw [← h.due_iff]
      simp [awardDue, hv, hgoal, h.setting, hno .timeLimit (by decide),
        hno .score (by decide)]
    · rw [h.evolves.getTeamEconomic i, standing, if_pos hvg]
      rfl
  | musicalChairs => exact h.other hv (by decide) (by decide) (by decide) hd
  | standard | suddenDeath | conquest | wonder | population | techRace | scenario =>
    exact h.other hv (by decide) (by decide) (by decide) hd

end

/-- Of every sweep that returns: its winners are the rightful ones exactly when the game it starts from
is fair. -/
theorem only_players_win_iff (S : Scoring ρ) (net value : Seat → Int32) (n : Nat) (g g' : Game ρ)
    (hrun : (processVictory S net value).run n g = .ok () g') :
    ∃ t, S.opening.run n g = .ok () t ∧ (PlayersWin g t g' ↔ Fair g) := by
  obtain ⟨_, g₀, hclear, hrest⟩ := Proc.run_bind_ok_iff.1 hrun
  obtain ⟨_, t, hclock, hblocks⟩ := Proc.run_bind_ok_iff.1 hrest
  refine ⟨t, Proc.run_bind_ok_iff.2 ⟨(), g₀, hclear, hclock⟩, ?_⟩
  obtain rfl : { g with events := [] } = g₀ := by simpa using hclear
  exact (opened_of_armageddonBlock hclock).playersWin_iff ((blocks_total net value t).of_run hblocks)

/-- Slot 0 leads by score and wins. -/
theorem duel_players_win : ∃ n g' t,
    (processVictory plainScoring (fun _ => 0) fun _ => 0).run n (duel (plainMatch .score 0) 2000 5) = .ok () g'
      ∧ g'.won 0 ∧ plainScoring.opening.run n (duel (plainMatch .score 0) 2000 5) = .ok () t
      ∧ PlayersWin (duel (plainMatch .score 0) 2000 5) t g' := by
  obtain ⟨g', hrun, hwon⟩ := exists_of_sweepsTo (g := duel (plainMatch .score 0) 2000 5)
    (p := fun g' => g'.won 0) (by decide)
  obtain ⟨t, hopen, hiff⟩ := only_players_win_iff plainScoring (fun _ => 0) (fun _ => 0) 18 _ g' hrun
  refine ⟨18, g', t, hrun, by simpa using hwon, hopen, hiff.2 fun _ _ _ hle => ?_⟩
  have hzero := hle 0 ⟨by decide, fun h => absurd h (by decide)⟩
  exact absurd hzero (by decide)

/-- Time is up, slots 1 and 2 play and have no points, and slot 0 is empty. -/
def scoreless : Game Unit :=
  { duel { plainMatch .timeLimit 0 with tick := 18000 } 0 0 with
    leader := fun i => if i = 1 ∨ i = 2 then plainLeader 3 0 else plainLeader 0 0 }

/-- The empty slot wins. -/
theorem empty_slot_wins : ∃ n g',
    (processVictory plainScoring (fun _ => 0) fun _ => 0).run n scoreless = .ok () g'
      ∧ ∀ t, ¬ PlayersWin scoreless t g' := by
  obtain ⟨g', hrun, hwon⟩ := exists_of_sweepsTo (g := scoreless) (p := fun g' => g'.won 0)
    (by decide)
  refine ⟨18, g', hrun, fun t hwin => ?_⟩
  have hactive := hwin.winners 0 (by simpa using hwon) (by decide)
  exact absurd hactive (by decide)

end Don.Sim
