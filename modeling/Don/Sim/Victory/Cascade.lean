import Don.Sim.Victory.Evolution

/-!
# Cascade — victories and defeats that call each other

One specification for each of `victory`, `defeat` and `check_victory`, proved together by induction on
the depth of the recursion.  When alliances are transitive, a cascade that starts from one team leaves
no leader with both outcomes: the leaders it defeats are exactly those outside the winning team.
-/

namespace Don.Sim

open Foundation Game Proc List LeaderState

variable {ρ : Type}

namespace Game

/-- Nobody has both outcomes. -/
def Exclusive (g : Game ρ) : Prop := ∀ i, ¬ (g.won i ∧ g.defeated i)

/-- No leader still in the game has won. -/
def Open (g : Game ρ) : Prop := ∀ i, g.active i → ¬ g.won i

/-- Every leader still in the game has an outcome. -/
def Settled (g : Game ρ) : Prop := ∀ i, g.active i → g.flagged i

/-- The winners still in the game are allies of `w`. -/
def Gathered (w : Seat) (g : Game ρ) : Prop := ∀ i, g.active i → g.won i → g.allied i w

/-- Alliances are transitive. -/
def Transitive (g : Game ρ) : Prop := ∀ i j k, g.allied i j → g.allied j k → g.allied i k

end Game

lemma Evolves.transitive {g g' : Game ρ} (h : Evolves g g') (ht : g.Transitive) :
    g'.Transitive := by
  intro i j k hij hjk
  rw [h.allied_iff] at *
  exact ht i j k hij hjk

lemma Evolves.flagged {g g' : Game ρ} (h : Evolves g g') {i : Seat} (hi : g.flagged i) :
    g'.flagged i :=
  hi.imp (h.won i) (h.defeated i)

namespace Quiet

variable {g g' : Game ρ}

lemma exclusive (h : Quiet g g') (hex : g.Exclusive) : g'.Exclusive := by
  intro i hi
  rw [h.won_iff, h.defeated_iff] at hi
  exact hex i hi

lemma opened (h : Quiet g g') (ho : g.Open) : g'.Open := by
  intro i ha hw
  exact ho i ((h.active_iff i).1 ha) ((h.won_iff i).1 hw)

lemma settled (h : Quiet g g') (hs : g.Settled) : g'.Settled := by
  intro i ha
  exact h.evolves.flagged (hs i ((h.active_iff i).1 ha))

lemma gathered (h : Quiet g g') {w : Seat} (hg : g.Gathered w) : g'.Gathered w := by
  intro i ha hw
  rw [h.evolves.allied_iff]
  exact hg i ((h.active_iff i).1 ha) ((h.won_iff i).1 hw)

end Quiet

/-! ## Specifications -/

def SameScores (g g' : Game ρ) : Prop := ∀ i, (g'.leader i).scores = (g.leader i).scores

structure VictorySpec (w : Seat) (vt : VictoryType) (g g' : Game ρ) : Prop where
  evolves : Evolves g g'
  scores : SameScores g g'
  winners : ∀ i, g'.won i → g.won i ∨ g.active i ∨ i = w
  idle : g.flagged w → g' = g
  settles : ¬ g.flagged w → g'.won w ∧ g'.Settled
  first : ¬ g.flagged w → g.events ++ [.victory w vt] <+: g'.events
  exclusive : g.Transitive → g.Exclusive → g.Gathered w → g.active w ∨ g.flagged w →
    g'.Exclusive ∧ g'.Gathered w

/-- What a check of the match does; a defeat of `hit` does the same, given that the loser has not won.
Once the armageddon clock has run out, nobody wins and nobody else loses. -/
structure CheckSpec (fits : Prop) (hit : Option Seat) (g g' : Game ρ) : Prop where
  evolves : Evolves g g'
  scores : SameScores g g'
  winners : ∀ i, g'.won i → g.won i ∨ g.active i
  doomed : g.match.armageddonReached → ∀ i, g'.won i → g.won i
  losers : g.match.armageddonReached → ∀ i, g'.defeated i → g.defeated i ∨ hit = some i
  opened : fits → g.Transitive → g.Exclusive → g.Open → g'.Exclusive ∧ (g'.Open ∨ g'.Settled)
  gathered : fits → g.Transitive → g.Exclusive → ∀ w, g.won w → g.active w → g.Gathered w →
    g'.Exclusive ∧ g'.Gathered w

structure DefeatSpec (x : Seat) (g g' : Game ρ) : Prop extends CheckSpec (¬ g.won x) (some x) g g' where
  beaten : g'.defeated x
  out : ¬ g.defeated x → ¬ g'.active x

/-- The three functions meet their specifications on every game with little enough left to decide. -/
structure Calls.Sound (c : Calls ρ) (k : Nat) : Prop where
  victory : ∀ w vt instant g, g.slack < k →
    Proc.Total (c.victory w vt instant) g (fun _ g' => VictorySpec w vt g g') fun _ _ => False
  defeat : ∀ x dt by_ instant g, g.slack < k →
    Proc.Total (c.defeat x dt by_ instant) g (fun _ g' => DefeatSpec x g g') fun _ _ => False
  checkVictory : ∀ g, g.slack < k →
    Proc.Total c.checkVictory g (fun _ g' => CheckSpec True none g g') fun _ _ => False

/-- A loop with an invariant over the slots already visited. -/
lemma total_forEach {f : Seat → Play ρ Unit} {E : Panic → Game ρ → Prop}
    {I : List Seat → Game ρ → Prop}
    (hstep : ∀ done i g, I done g → Total (f i) g (fun _ g' => I (done ++ [i]) g') E) :
    ∀ is done g, I done g → Total (forEach f is) g (fun _ g' => I (done ++ is) g') E := by
  intro is
  induction is with
  | nil =>
    intro done g h
    exact total_pure (by simpa using h)
  | cons i is ih =>
    intro done g h
    refine (hstep done i g h).seq fun _ g' h' => ?_
    simpa using ih (done ++ [i]) g' h'

namespace Calls

/-! ## Winning -/

lemma flag_markWon (who : Seat) (vt : VictoryType) (instant : Int32) (g : Game ρ) (i : Seat)
    (f : LeaderFlag) : ((markWon who vt instant g).leader i).flag f
      = ((g.leader i).flag f || decide (i = who ∧ .won = f)) := by
  by_cases hi : i = who
  · subst hi
    have hleader : (markWon i vt instant g).leader i
        = { (((g.leader i).setFlag .won).putFlag2 .instantVictory (instant ≠ 0)) with
            victoryType := vt.code, numQueued := (g.leader i).numQueued.map fun _ => 0 } := by
      simp [markWon, pushEvent, requestTerminalQueueCleanup, modifyLeader]
    rw [hleader]
    refine (flag_setFlag (g.leader i) .won f).trans ?_
    simp
  · have hleader : (markWon who vt instant g).leader i = g.leader i := by
      simp [markWon, pushEvent, requestTerminalQueueCleanup, modifyLeader, hi]
    simp [hleader, hi]

variable {w : Seat} {g : Game ρ}

lemma markWon_evolves (vt : VictoryType) (instant : Int32)
    (h : ¬ g.won w) : Evolves g (markWon w vt instant g) ∧ SameScores g (markWon w vt instant g)
      ∧ ∀ i, (markWon w vt instant g).won i ↔ g.won i ∨ i = w := by
  have hflag := flag_markWon w vt instant g
  have hterms : ∀ i, ((markWon w vt instant g).leader i).diplos = (g.leader i).diplos
      ∧ ((markWon w vt instant g).leader i).economic = (g.leader i).economic
      ∧ ((markWon w vt instant g).leader i).scores = (g.leader i).scores := by
    intro i
    by_cases hi : i = w
    · subst hi
      simp [markWon, pushEvent, requestTerminalQueueCleanup, modifyLeader,
        setFlag, putFlag2]
    · simp [markWon, pushEvent, requestTerminalQueueCleanup, modifyLeader, hi]
  have hwon : ∀ i, (markWon w vt instant g).won i ↔ g.won i ∨ i = w := by
    intro i
    simp [won, hflag]
  have hact : ∀ i, (markWon w vt instant g).active i ↔ g.active i := by
    intro i
    simp [active, isActive_eq, hflag]
  have hdef : ∀ i, (markWon w vt instant g).defeated i ↔ g.defeated i := by
    intro i
    simp [defeated, hflag]
  refine ⟨?_, fun i => (hterms i).2.2, hwon⟩
  exact
    { terms := fun i => ⟨(hterms i).1, (hterms i).2.1, by simp [hflag]⟩
      won := fun i hi => (hwon i).2 (Or.inl hi)
      defeated := fun i => (hdef i).2
      active := fun i => (hact i).1
      fallen := fun i hi => Or.inl ((hact i).2 hi)
      ended := id
      rules := rfl
      scoring := rfl
      events := ⟨[.victory w vt], rfl⟩
      victories := by
        intro i
        have hcount : (markWon w vt instant g).victories i
            = g.victories i + if w = i then 1 else 0 := by
          simp only [victories, victoriesOf, markWon, pushEvent, countP_append,
            countP_singleton, decide_eq_true_eq]
          rfl
        rw [hcount, hflag]
        by_cases hi : i = w
        · subst hi
          have hnot : (g.leader i).flag .won = false := by simpa [won] using h
          simp [hnot]
        · simp [hi, Ne.symm hi]
      defeats := by
        intro i
        have hcount : (markWon w vt instant g).defeats i = g.defeats i := by
          simp [defeats, defeatsOf, markWon, pushEvent, requestTerminalQueueCleanup,
            modifyLeader]
        rw [hcount, hflag]
        simp }

lemma quiet_survived (g : Game ρ) (i : Seat) : Quiet g (g.modifyLeader i (·.setFlag .survived)) ∧
      SameScores g (g.modifyLeader i (·.setFlag .survived)) := by
  refine ⟨Quiet.modifyLeader g i ⟨⟨rfl, rfl, by simp⟩, by simp, by simp, by simp⟩, fun j => ?_⟩
  by_cases hj : j = i
  · subst hj
    simp [modifyLeader, setFlag]
  · simp [modifyLeader, hj]

/-- What holds while a victory spreads from `w`, after the slots of `done`. -/
structure Spreading (w : Seat) (g : Game ρ) (done : List Seat) (h : Game ρ) : Prop where
  evolves : Evolves g h
  scores : SameScores g h
  winners : ∀ i, h.won i → g.won i ∨ g.active i
  visited : ∀ o ∈ done, o ≠ w → h.active o → h.flagged o
  exclusive : g.Transitive → g.Exclusive → g.Gathered w → g.won w → g.active w →
    h.Exclusive ∧ h.Gathered w

lemma Spreading.skip {h : Game ρ} {done : List Seat} (hs : Spreading w g done h)
    {o : Seat} (ho : o = w ∨ ¬ h.active o) : Spreading w g (done ++ [o]) h where
  evolves := hs.evolves
  scores := hs.scores
  winners := hs.winners
  visited := by
    intro o' ho' hne hact
    rcases mem_append.1 ho' with hmem | hmem
    · exact hs.visited o' hmem hne hact
    · rw [mem_singleton.1 hmem] at hne hact
      exact (ho.elim hne fun hna => hna hact).elim
  exclusive := hs.exclusive

lemma Spreading.visit {h h' : Game ρ} {done : List Seat} (hs : Spreading w g done h)
    {o : Seat} (hev : Evolves h h') (hsc : SameScores h h')
    (hwin : ∀ i, h'.won i → h.won i ∨ h.active i) (ho : h'.flagged o)
    (hex : h.Transitive → h.Exclusive → h.Gathered w → h.won w → h.active w →
      h'.Exclusive ∧ h'.Gathered w) : Spreading w g (done ++ [o]) h' where
  evolves := hs.evolves.trans hev
  scores i := (hsc i).trans (hs.scores i)
  winners i hi := (hwin i hi).elim (hs.winners i) fun ha => Or.inr (hs.evolves.active i ha)
  visited := by
    intro o' ho' hne hact
    rcases mem_append.1 ho' with hmem | hmem
    · exact hev.flagged (hs.visited o' hmem hne (hev.active o' hact))
    · rwa [mem_singleton.1 hmem]
  exclusive := by
    intro ht hx hg hw ha
    obtain ⟨hx', hg'⟩ := hs.exclusive ht hx hg hw ha
    exact hex (hs.evolves.transitive ht) hx' hg' (hs.evolves.won w hw)
      ((hs.evolves.fallen _ ha).resolve_right fun hd => hx' _ ⟨hs.evolves.won _ hw, hd.2⟩)

variable {c : Calls ρ} {k : Nat}

/-- One slot of the loop of `victory`. -/
lemma spread_total (hc : c.Sound k) {vt : VictoryType} {instant : Int32}
    (hk : g.slack < k) (done : List Seat) (o : Seat) (h : Game ρ) (hs : Spreading w g done h) :
    Total (c.spread w vt instant o) h (fun _ h' => Spreading w g (done ++ [o]) h')
      fun _ _ => False := by
  refine .gets_bind ?_
  split
  · rename_i hskip
    refine total_pure (hs.skip ?_)
    simpa [active] using hskip
  rename_i hgo
  have hne : o ≠ w ∧ h.active o := by simpa [active] using hgo
  refine .modify_bind ?_
  obtain ⟨hq, hsc⟩ := quiet_survived h o
  have hk' : (h.modifyLeader o (·.setFlag .survived)).slack < k :=
    lt_of_le_of_lt (hq.evolves.slack_le.trans hs.evolves.slack_le) hk
  split
  · -- an ally wins too
    rename_i hally
    refine (hc.victory o vt instant _ hk').post fun _ h' hv => ?_
    refine hs.visit (hq.evolves.trans hv.evolves) (fun i => (hv.scores i).trans (hsc i)) ?_ ?_ ?_
    · intro i hi
      rcases hv.winners i hi with hw | ha | rfl
      · exact Or.inl ((hq.won_iff i).1 hw)
      · exact Or.inr ((hq.active_iff i).1 ha)
      · exact Or.inr hne.2
    · by_cases hf : (h.modifyLeader o (·.setFlag .survived)).flagged o
      · exact hv.evolves.flagged hf
      · exact Or.inl (hv.settles hf).1
    · intro ht hx hg hw ha
      have hgo : h.Gathered o := fun i hia hiw =>
        ht i w o (hg i hia hiw) (allied_symm hally)
      obtain ⟨hx', hg'⟩ := hv.exclusive (hq.evolves.transitive ht) (hq.exclusive hx)
        (hq.gathered hgo) (Or.inl ((hq.active_iff o).2 hne.2))
      refine ⟨hx', fun i hia hiw => ?_⟩
      have htr := (hq.evolves.trans hv.evolves).transitive ht
      exact htr i o w (hg' i hia hiw) (((hq.evolves.trans hv.evolves).allied_iff o w).2 hally)
  · -- a rival is defeated; were it a winner, it would be an ally
    rename_i hrival
    refine (hc.defeat o .victory (-1) 0 _ hk').post fun _ h' hd => ?_
    refine hs.visit (hq.evolves.trans hd.evolves) (fun i => (hd.scores i).trans (hsc i)) ?_
      (Or.inr hd.beaten) ?_
    · intro i hi
      exact (hd.winners i hi).imp (hq.won_iff i).1 (hq.active_iff i).1
    · intro ht hx hg hw ha
      have hnot : ¬ (h.modifyLeader o (·.setFlag .survived)).won o := by
        rw [hq.won_iff]
        exact fun hwo => hrival (hg o hne.2 hwo)
      exact hd.gathered hnot (hq.evolves.transitive ht) (hq.exclusive hx) w ((hq.won_iff w).2 hw)
        ((hq.active_iff w).2 ha) (hq.gathered hg)

lemma victoryBody_total (hc : c.Sound k) (w : Seat) (vt : VictoryType) (instant : Int32)
    (g : Game ρ) (hk : g.slack < k + 1) :
    Total (c.victoryBody w vt instant) g (fun _ g' => VictorySpec w vt g g')
      fun _ _ => False := by
  refine .gets_bind ?_
  split
  · rename_i hflag
    have hf : g.flagged w := by simpa [flagged, won, defeated] using hflag
    refine total_pure ?_
    exact
      { evolves := Evolves.refl g
        scores := fun _ => rfl
        winners := fun _ hi => Or.inl hi
        idle := fun _ => rfl
        settles := fun hn => (hn hf).elim
        first := fun hn => (hn hf).elim
        exclusive := fun _ hx hg _ => ⟨hx, hg⟩ }
  · rename_i hflag
    have hf : ¬ g.flagged w := by simpa [flagged, won, defeated] using hflag
    have hnw : ¬ g.won w := fun hw => hf (Or.inl hw)
    refine .modify_bind ?_
    obtain ⟨hev, hsc, hwon⟩ := markWon_evolves vt instant hnw
    have hww : (markWon w vt instant g).won w := (hwon w).2 (Or.inr rfl)
    have hk' : (markWon w vt instant g).slack < k :=
      lt_of_lt_of_le (hev.slack_lt (Or.inl ⟨w, hnw, hww⟩)) (Nat.lt_succ_iff.1 hk)
    have hstart : Spreading w (markWon w vt instant g) [] (markWon w vt instant g) :=
      ⟨Evolves.refl _, fun _ => rfl, fun _ hi => Or.inl hi, by simp, fun _ hx hg _ _ => ⟨hx, hg⟩⟩
    refine (total_forEach (spread_total hc hk') seats [] _ hstart).post fun _ g' hs => ?_
    exact
      { evolves := hev.trans hs.evolves
        scores := fun i => (hs.scores i).trans (hsc i)
        winners := by
          intro i hi
          rcases hs.winners i hi with hw | ha
          · exact ((hwon i).1 hw).elim Or.inl fun hiw => Or.inr (Or.inr hiw)
          · exact Or.inr (Or.inl (hev.active i ha))
        idle := fun hfl => (hf hfl).elim
        settles := by
          refine fun _ => ⟨hs.evolves.won w hww, fun i hia => ?_⟩
          by_cases hiw : i = w
          · subst hiw
            exact Or.inl (hs.evolves.won i hww)
          · exact hs.visited i (mem_seats i) hiw hia
        first := fun _ => hs.evolves.events
        exclusive := by
          intro ht hx hg hact
          have ha : g.active w := hact.resolve_right hf
          have ha' : (markWon w vt instant g).active w := (hev.fallen w ha).resolve_right fun hd => by
            have hd' : g.defeated w := by
              simpa [defeated, flag_markWon] using hd.2
            exact hf (Or.inr hd')
          refine hs.exclusive (hev.transitive ht) ?_ ?_ hww ha'
          · -- the winner had no outcome before
            intro i hi
            have hd' : g.defeated i := by simpa [defeated, flag_markWon] using hi.2
            rcases (hwon i).1 hi.1 with hw | rfl
            · exact hx i ⟨hw, hd'⟩
            · exact hf (Or.inr hd')
          · intro i hia hiw
            rw [hev.allied_iff]
            rcases (hwon i).1 hiw with hw | rfl
            · exact hg i (hev.active i hia) hw
            · exact allied_refl g i }

/-! ## Losing -/

lemma flag_markDefeated (x : Seat) (dt : DefeatType) (instant : Int32) (g : Game ρ) (i : Seat)
    (f : LeaderFlag) : ((markDefeated x dt instant g).leader i).flag f
      = if i = x then ((g.leader i).flag f && !decide (.active = f)) || decide (.defeated = f)
        else (g.leader i).flag f := by
  by_cases hi : i = x
  · subst hi
    have hleader : (markDefeated i dt instant g).leader i
        = { (((((g.leader i).putFlag2 .instantDefeat (instant ≠ 0)).clearFlag .active).setFlag
              .defeated).putFlag2 .unitAiOff true) with
            defeatType := dt.code, numQueued := (g.leader i).numQueued.map fun _ => 0 } := by
      simp [markDefeated, pushEvent, requestTerminalQueueCleanup,
        requestDefeatUnitCleanup, modifyMatch, modifyLeader]
    rw [hleader, if_pos rfl]
    refine (flag_setFlag (((g.leader i).putFlag2 .instantDefeat (instant ≠ 0)).clearFlag
      .active) .defeated f).trans ?_
    rw [flag_clearFlag, flag_putFlag2]
  · have hleader : (markDefeated x dt instant g).leader i = g.leader i := by
      simp [markDefeated, pushEvent, requestTerminalQueueCleanup,
        requestDefeatUnitCleanup, modifyMatch, modifyLeader, hi]
    rw [hleader, if_neg hi]

structure Beats (x : Seat) (g g' : Game ρ) : Prop where
  evolves : Evolves g g'
  scores : SameScores g g'
  won_iff : ∀ i, g'.won i ↔ g.won i
  defeated_iff : ∀ i, g'.defeated i ↔ g.defeated i ∨ i = x
  active_iff : ∀ i, g'.active i ↔ g.active i ∧ i ≠ x

variable {x : Seat}

lemma markDefeated_beats (dt : DefeatType) (instant : Int32)
    (h : ¬ g.defeated x) : Beats x g (markDefeated x dt instant g) := by
  have hflag := flag_markDefeated x dt instant g
  have hterms : ∀ i, ((markDefeated x dt instant g).leader i).diplos = (g.leader i).diplos
      ∧ ((markDefeated x dt instant g).leader i).economic = (g.leader i).economic
      ∧ ((markDefeated x dt instant g).leader i).scores = (g.leader i).scores := by
    intro i
    by_cases hi : i = x
    · subst hi
      simp [markDefeated, pushEvent, requestTerminalQueueCleanup, modifyMatch,
        requestDefeatUnitCleanup, modifyLeader, setFlag, clearFlag,
        putFlag2]
    · simp [markDefeated, pushEvent, requestTerminalQueueCleanup, modifyMatch,
        requestDefeatUnitCleanup, modifyLeader, hi]
  have hwon : ∀ i, (markDefeated x dt instant g).won i ↔ g.won i := by
    intro i
    by_cases hi : i = x <;> simp [won, hflag, hi]
  have hdef : ∀ i, (markDefeated x dt instant g).defeated i ↔ g.defeated i ∨ i = x := by
    intro i
    by_cases hi : i = x <;> simp [defeated, hflag, hi]
  have hact : ∀ i, (markDefeated x dt instant g).active i ↔ g.active i ∧ i ≠ x := by
    intro i
    by_cases hi : i = x <;> simp [active, isActive_eq, hflag, hi]
  refine ⟨?_, fun i => (hterms i).2.2, hwon, hdef, hact⟩
  exact
    { terms := by
        refine fun i => ⟨(hterms i).1, (hterms i).2.1, ?_⟩
        by_cases hi : i = x <;> simp [hflag, hi]
      won := fun i => (hwon i).2
      defeated := fun i hi => (hdef i).2 (Or.inl hi)
      active := fun i hi => ((hact i).1 hi).1
      fallen := by
        intro i hi
        by_cases hix : i = x
        · exact Or.inr ⟨by rwa [hix], (hdef i).2 (Or.inr hix)⟩
        · exact Or.inl ((hact i).2 ⟨hi, hix⟩)
      ended := id
      rules := rfl
      scoring := rfl
      events := ⟨[.defeat x dt], rfl⟩
      victories := by
        intro i
        have hcount : (markDefeated x dt instant g).victories i = g.victories i := by
          simp [victories, victoriesOf, markDefeated, pushEvent, requestTerminalQueueCleanup,
            requestDefeatUnitCleanup, modifyMatch, modifyLeader]
        rw [hcount, hflag]
        by_cases hi : i = x <;> simp [hi]
      defeats := by
        intro i
        have hcount : (markDefeated x dt instant g).defeats i
            = g.defeats i + if x = i then 1 else 0 := by
          simp only [defeats, defeatsOf, markDefeated, pushEvent, countP_append,
            countP_singleton, decide_eq_true_eq]
          rfl
        rw [hcount, hflag]
        by_cases hi : i = x
        · subst hi
          have hnot : (g.leader i).flag .defeated = false := by simpa [defeated] using h
          simp [hnot]
        · simp [hi, Ne.symm hi] }

variable {g' : Game ρ}

lemma Beats.exclusive (h : Beats x g g') (hx : g.Exclusive)
    (hnot : ¬ g.won x) : g'.Exclusive := by
  intro i hi
  rw [h.won_iff, h.defeated_iff] at hi
  rcases hi.2 with hd | rfl
  · exact hx i ⟨hi.1, hd⟩
  · exact hnot hi.1

lemma Beats.gathered (h : Beats x g g') (hg : g.Gathered w) : g'.Gathered w := by
  intro i hia hiw
  rw [h.evolves.allied_iff]
  exact hg i ((h.active_iff i).1 hia).1 ((h.won_iff i).1 hiw)

lemma Beats.opened (h : Beats x g g') (ho : g.Open) : g'.Open :=
  fun i hia hiw => ho i ((h.active_iff i).1 hia).1 ((h.won_iff i).1 hiw)

lemma CheckSpec.of_quiet {fits : Prop} {hit : Option Seat} (h : Quiet g g')
    (hsc : SameScores g g') : CheckSpec fits hit g g' where
  evolves := h.evolves
  scores := hsc
  winners i hi := Or.inl ((h.won_iff i).1 hi)
  doomed _ i hi := (h.won_iff i).1 hi
  losers _ i hi := Or.inl ((h.defeated_iff i).1 hi)
  opened _ _ hx ho := ⟨h.exclusive hx, Or.inl (h.opened ho)⟩
  gathered _ _ hx _ _ _ hg := ⟨h.exclusive hx, h.gathered hg⟩

variable {g₁ g₂ g₃ : Game ρ}

lemma CheckSpec.after_quiet {fits : Prop} {hit : Option Seat}
    (h : Quiet g₁ g₂) (hsc : SameScores g₁ g₂) (hc : CheckSpec fits hit g₂ g₃) :
    CheckSpec fits hit g₁ g₃ where
  evolves := h.evolves.trans hc.evolves
  scores i := (hc.scores i).trans (hsc i)
  winners i hi := (hc.winners i hi).imp (h.won_iff i).1 (h.active_iff i).1
  doomed hd i hi := (h.won_iff i).1 (hc.doomed (by rwa [h.evolves.armageddonReached]) i hi)
  losers hd i hi := (hc.losers (by rwa [h.evolves.armageddonReached]) i hi).imp
    (h.defeated_iff i).1 id
  opened hf ht hx ho := hc.opened hf (h.evolves.transitive ht) (h.exclusive hx) (h.opened ho)
  gathered hf ht hx w hw ha hg := hc.gathered hf (h.evolves.transitive ht) (h.exclusive hx) w
    ((h.won_iff w).2 hw) ((h.active_iff w).2 ha) (h.gathered hg)

lemma CheckSpec.after_defeat (h : Beats x g₁ g₂)
    (hc : CheckSpec True none g₂ g₃) : CheckSpec (¬ g₁.won x) (some x) g₁ g₃ where
  evolves := h.evolves.trans hc.evolves
  scores i := (hc.scores i).trans (h.scores i)
  winners i hi := (hc.winners i hi).imp (h.won_iff i).1 fun ha => ((h.active_iff i).1 ha).1
  doomed hd i hi := (h.won_iff i).1 (hc.doomed (by rwa [h.evolves.armageddonReached]) i hi)
  losers hd i hi := by
    have hl := (hc.losers (by rwa [h.evolves.armageddonReached]) i hi).resolve_right (by simp)
    exact ((h.defeated_iff i).1 hl).imp id fun hix => congrArg some hix.symm
  opened hf ht hx ho := hc.opened trivial (h.evolves.transitive ht) (h.exclusive hx hf) (h.opened ho)
  gathered hf ht hx w hw ha hg := by
    have hne : w ≠ x := by
      rintro rfl
      exact hf hw
    exact hc.gathered trivial (h.evolves.transitive ht) (h.exclusive hx hf) w ((h.won_iff w).2 hw)
      ((h.active_iff w).2 ⟨ha, hne⟩) (h.gathered hg)

lemma quiet_refl (g : Game ρ) : Quiet g g :=
  ⟨fun _ => Alike.refl _, rfl, rfl, rfl, rfl⟩

open Calls.CheckSpec

lemma defeatBody_total (hc : c.Sound k) (x : Seat) (dt : DefeatType) (by_ instant : Int32)
    (g : Game ρ) (hk : g.slack < k + 1) :
    Total (c.defeatBody x dt by_ instant) g (fun _ g' => DefeatSpec x g g')
      fun _ _ => False := by
  refine .modify_bind ?_
  have hq : Quiet g (g.modifyLeader x fun l => { l with defeatedBy := by_ }) :=
    Quiet.modifyLeader g x ⟨⟨rfl, rfl, rfl⟩, rfl, rfl, rfl⟩
  have hsc : SameScores g (g.modifyLeader x fun l => { l with defeatedBy := by_ }) := by
    intro i
    by_cases hi : i = x
    · subst hi
      simp [modifyLeader]
    · simp [modifyLeader, hi]
  revert hq hsc
  generalize g.modifyLeader x (fun l => { l with defeatedBy := by_ }) = g₀
  intro hq hsc
  refine .gets_bind ?_
  split
  · rename_i hd
    exact total_pure ⟨of_quiet hq hsc, hd, fun hn => (hn ((hq.defeated_iff x).1 hd)).elim⟩
  rename_i hd
  refine .modify_bind ?_
  have hb := markDefeated_beats dt instant (x := x) (g := g₀) hd
  have hbeaten : (markDefeated x dt instant g₀).defeated x := (hb.defeated_iff x).2 (Or.inr rfl)
  have hk' : (markDefeated x dt instant g₀).slack < k := by
    have hlt := hb.evolves.slack_lt (Or.inr (Or.inl ⟨x, hd, hbeaten⟩))
    have hle := hq.evolves.slack_le
    omega
  have hfits : ∀ g', CheckSpec True none (markDefeated x dt instant g₀) g' →
      DefeatSpec x g g' := fun g' hcheck =>
    { toCheckSpec := by
        have h := after_quiet hq hsc (after_defeat hb hcheck)
        rwa [hq.won_iff] at h
      beaten := hcheck.evolves.defeated x hbeaten
      out := fun _ ha => ((hb.active_iff x).1 (hcheck.evolves.active x ha)).2 rfl }
  refine .gets_bind ?_
  split
  · exact total_pure (hfits _ (of_quiet (quiet_refl _) fun _ => rfl))
  · refine (hc.checkVictory _ hk').seq fun _ g' hcheck => ?_
    exact total_pure (hfits g' hcheck)

/-! ## Last team standing -/

lemma allied_of_allAllied (h : allAllied g = true) (ht : g.Transitive) {i j : Seat}
    (hi : g.active i ∧ ¬ g.defeated i) (hj : g.active j ∧ ¬ g.defeated j) : g.allied i j := by
  have hmem : ∀ i, g.active i ∧ ¬ g.defeated i →
      i ∈ seats.filter fun i => (g.leader i).isAlive := by
    intro i hi
    refine mem_filter.2 ⟨mem_seats i, ?_⟩
    simpa [isAlive_eq, active, defeated] using hi
  unfold allAllied at h
  revert h hmem
  generalize seats.filter (fun i => (g.leader i).isAlive) = alive
  intro h hmem
  cases alive with
  | nil => exact absurd (hmem i hi) (by simp)
  | cons first =>
    have hfirst : ∀ i, g.active i ∧ ¬ g.defeated i → g.allied i first := by
      intro i hi
      rcases mem_cons.1 (hmem i hi) with rfl | hrest
      · exact allied_refl g i
      · exact all_eq_true.1 h i hrest
    exact ht i first j (hfirst i hi) (allied_symm (hfirst j hj))

lemma markSurvivors_total : ∀ (is : List Seat) (winner : Option Seat) (g : Game ρ),
    (∀ w, winner = some w → g.active w ∧ ¬ g.defeated w) →
    Total (markSurvivors is winner) g (fun r g' => Quiet g g' ∧ SameScores g g' ∧
      ∀ w, r = some (some w) → g.active w ∧ ¬ g.defeated w) fun _ _ => False := by
  intro is
  induction is with
  | nil =>
    intro winner g h
    exact total_pure ⟨quiet_refl g, fun _ => rfl, fun w hw => h w (by simpa using hw)⟩
  | cons i is ih =>
    intro winner g h
    refine .gets_bind ?_
    split
    · exact ih winner g h
    rename_i hact
    have hi : g.active i := by simpa [active] using hact
    refine .modify_bind ?_
    obtain ⟨hq, hsc⟩ := quiet_survived g i
    -- the rest of the loop runs on the marked game; what it finds is alive in the original
    have hrest : ∀ winner', (∀ w, winner' = some w → g.active w ∧ ¬ g.defeated w) →
        Total (markSurvivors is winner') (g.modifyLeader i (·.setFlag .survived))
          (fun r g' => Quiet g g' ∧ SameScores g g' ∧
            ∀ w, r = some (some w) → g.active w ∧ ¬ g.defeated w) fun _ _ => False := by
      intro winner' hw'
      refine (ih winner' _ fun w hw => ?_).post fun r g' hr => ?_
      · rw [hq.active_iff, hq.defeated_iff]
        exact hw' w hw
      · refine ⟨⟨fun j => (hq.alike j).trans (hr.1.alike j), hr.1.ended.trans hq.ended,
          hr.1.rules.trans hq.rules, hr.1.scoring.trans hq.scoring,
          hr.1.events.trans hq.events⟩, fun j => (hr.2.1 j).trans (hsc j), fun w hw => ?_⟩
        have halive := hr.2.2 w hw
        rwa [hq.active_iff, hq.defeated_iff] at halive
    split
    · exact hrest winner h
    rename_i hd
    cases winner with
    | none =>
      refine hrest (some i) fun w hw => ?_
      rw [← Option.some.inj hw]
      exact ⟨hi, hd⟩
    | some w =>
      dsimp only
      split
      · exact total_pure ⟨hq, hsc, by simp⟩
      · exact hrest (some w) h

/-- The bits the end of a match sets. -/
lemma setSem_other (m : Match) {b b' : GameSem} (h : b ≠ b') : (m.setSem b).sem b' = m.sem b' := by
  rw [Match.sem_setSem]
  simp [h]

structure Ends (g g' : Game ρ) : Prop where
  evolves : Evolves g g'
  scores : SameScores g g'
  ended : g'.ended
  leader : g'.leader = g.leader

lemma ends_gameOver (g : Game ρ) :
    Ends g ((g.modifyMatch (·.setSem .gameOver)).pushEvent .gameOver) := by
  have hover : ((g.modifyMatch (·.setSem .gameOver)).pushEvent .gameOver).ended := by
    change (g.match.setSem .gameOver).sem .gameOver = true
    simp [Match.sem_setSem]
  refine ⟨?_, fun _ => rfl, hover, rfl⟩
  exact
    { terms := fun i => (Alike.refl _).toSameTerms
      won := fun _ h => h
      defeated := fun _ h => h
      active := fun _ h => h
      fallen := fun _ h => Or.inl h
      ended := fun _ => hover
      rules := rfl
      scoring := setSem_other g.match (by decide)
      events := ⟨[.gameOver], rfl⟩
      victories := by
        intro i
        simp [victories, victoriesOf, pushEvent, modifyMatch]
      defeats := by
        intro i
        simp [defeats, defeatsOf, pushEvent, modifyMatch] }

lemma CheckSpec.after_ends (h : Ends g₁ g₂) (hc : CheckSpec True none g₂ g₃) :
    CheckSpec True none g₁ g₃ := by
  have hl : ∀ i, g₂.leader i = g₁.leader i := fun i => congrFun h.leader i
  have hwon : ∀ i, g₂.won i ↔ g₁.won i := fun i => by simp [won, hl]
  have hdef : ∀ i, g₂.defeated i ↔ g₁.defeated i := fun i => by simp [defeated, hl]
  have hact : ∀ i, g₂.active i ↔ g₁.active i := fun i => by simp [active, hl]
  have hex : g₁.Exclusive → g₂.Exclusive := fun hx i hi =>
    hx i ⟨(hwon i).1 hi.1, (hdef i).1 hi.2⟩
  exact
    { evolves := h.evolves.trans hc.evolves
      scores := fun i => (hc.scores i).trans (h.scores i)
      winners := fun i hi => (hc.winners i hi).imp (hwon i).1 (hact i).1
      doomed := fun hd i hi => (hwon i).1 (hc.doomed (by rwa [h.evolves.armageddonReached]) i hi)
      losers := fun hd i hi => (hc.losers (by rwa [h.evolves.armageddonReached]) i hi).imp (hdef i).1 id
      opened := fun hf ht hx ho => hc.opened hf (h.evolves.transitive ht) (hex hx) fun i hia hiw =>
        ho i ((hact i).1 hia) ((hwon i).1 hiw)
      gathered := by
        intro hf ht hx w hw ha hg
        refine hc.gathered hf (h.evolves.transitive ht) (hex hx) w ((hwon w).2 hw) ((hact w).2 ha) ?_
        intro i hia hiw
        rw [h.evolves.allied_iff]
        exact hg i ((hact i).1 hia) ((hwon i).1 hiw) }

/-- A step that follows a check and decides nothing. -/
lemma CheckSpec.then_quiet (hc : CheckSpec True none g₁ g₂) (h : Quiet g₂ g₃)
    (hsc : SameScores g₂ g₃) : CheckSpec True none g₁ g₃ where
  evolves := hc.evolves.trans h.evolves
  scores i := (hsc i).trans (hc.scores i)
  winners i hi := hc.winners i ((h.won_iff i).1 hi)
  doomed hd i hi := hc.doomed hd i ((h.won_iff i).1 hi)
  losers hd i hi := hc.losers hd i ((h.defeated_iff i).1 hi)
  opened hf ht hx ho :=
    let ⟨hx', ho'⟩ := hc.opened hf ht hx ho
    ⟨h.exclusive hx', ho'.imp h.opened h.settled⟩
  gathered hf ht hx w hw ha hg :=
    let ⟨hx', hg'⟩ := hc.gathered hf ht hx w hw ha hg
    ⟨h.exclusive hx', h.gathered hg'⟩

/-- Crowning a leader that is alive, when all that are alive are allies. -/
lemma CheckSpec.of_victory {vt : VictoryType} (hv : VictorySpec w vt g g')
    (halive : g.active w ∧ ¬ g.defeated w) (hclock : g.match.armageddonReached = false)
    (hall : g.Transitive → ∀ i j, g.active i ∧ ¬ g.defeated i → g.active j ∧ ¬ g.defeated j →
      g.allied i j) : CheckSpec True none g g' where
  evolves := hv.evolves
  scores := hv.scores
  winners i hi := by
    rcases hv.winners i hi with hw | ha | rfl
    · exact Or.inl hw
    · exact Or.inr ha
    · exact Or.inr halive.1
  doomed hd := by simp [hclock] at hd
  losers hd := by simp [hclock] at hd
  opened _ ht hx ho := by
    have hg : g.Gathered w := fun i hia hiw => (ho i hia hiw).elim
    have hf : ¬ g.flagged w := fun hf => hf.elim (ho w halive.1) halive.2
    exact ⟨(hv.exclusive ht hx hg (Or.inl halive.1)).1, Or.inr (hv.settles hf).2⟩
  gathered _ ht hx w₀ hw₀ ha₀ hg₀ := by
    have hally : g.allied w w₀ := hall ht w w₀ halive ⟨ha₀, fun hd => hx w₀ ⟨hw₀, hd⟩⟩
    have hg : g.Gathered w := fun i hia hiw => ht i w₀ w (hg₀ i hia hiw) (allied_symm hally)
    obtain ⟨hx', hg'⟩ := hv.exclusive ht hx hg (Or.inl halive.1)
    refine ⟨hx', fun i hia hiw => ?_⟩
    exact (hv.evolves.transitive ht) i w w₀ (hg' i hia hiw) ((hv.evolves.allied_iff w w₀).2 hally)

lemma resolve_total (hc : c.Sound k) (hk : g.slack < k)
    (hall : g.Transitive → ∀ i j, g.active i ∧ ¬ g.defeated i → g.active j ∧ ¬ g.defeated j →
      g.allied i j) :
    Total c.resolve g (fun _ g' => CheckSpec True none g g') fun _ _ => False := by
  refine .gets_bind ?_
  split
  · exact total_pure (of_quiet (quiet_refl _) fun _ => rfl)
  rename_i hclock
  have hnone : ∀ w, (none : Option Seat) = some w → g.active w ∧ ¬ g.defeated w := by simp
  refine (markSurvivors_total seats none g hnone).seq ?_
  rintro r g₁ ⟨hq, hsc, hr⟩
  match r with
  | some (some w) =>
    refine (hc.victory w .generic 0 g₁ (lt_of_le_of_lt hq.evolves.slack_le hk)).post ?_
    intro _ g' hv
    refine after_quiet hq hsc (of_victory hv ?_ ?_ ?_)
    · rw [hq.active_iff, hq.defeated_iff]
      exact hr w rfl
    · rw [hq.evolves.armageddonReached]
      simpa using hclock
    · intro ht i j hi hj
      have ht' : g.Transitive := fun i j l hij hjl => by
        have h := ht i j l ((hq.evolves.allied_iff i j).2 hij) ((hq.evolves.allied_iff j l).2 hjl)
        rwa [hq.evolves.allied_iff] at h
      rw [hq.active_iff, hq.defeated_iff] at hi hj
      rw [hq.evolves.allied_iff]
      exact hall ht' i j hi hj
  | some none => exact total_pure (of_quiet hq hsc)
  | none => exact total_pure (of_quiet hq hsc)

lemma checkVictoryBody_total (hc : c.Sound k) (g : Game ρ) (hk : g.slack < k + 1) :
    Total c.checkVictoryBody g (fun _ g' => CheckSpec True none g g') fun _ _ => False := by
  refine .gets_bind ?_
  split
  · exact total_pure (of_quiet (quiet_refl _) fun _ => rfl)
  rename_i hover
  split
  · exact total_pure (of_quiet (quiet_refl _) fun _ => rfl)
  rename_i hallied
  refine .modify_bind ?_
  have hends := ends_gameOver g
  revert hends
  generalize (g.modifyMatch (·.setSem .gameOver)).pushEvent .gameOver = g₁
  intro hends
  have hk' : g₁.slack < k :=
    lt_of_lt_of_le (hends.evolves.slack_lt (Or.inr (Or.inr ⟨hover, hends.ended⟩)))
      (Nat.lt_succ_iff.1 hk)
  have hall : g₁.Transitive → ∀ i j, g₁.active i ∧ ¬ g₁.defeated i →
      g₁.active j ∧ ¬ g₁.defeated j → g₁.allied i j := by
    intro ht i j hi hj
    simp only [active, defeated, hends.leader] at hi hj
    have ht' : g.Transitive := by
      intro i j l hij hjl
      have h := ht i j l ((hends.evolves.allied_iff i j).2 hij)
        ((hends.evolves.allied_iff j l).2 hjl)
      rwa [hends.evolves.allied_iff] at h
    rw [hends.evolves.allied_iff]
    exact allied_of_allAllied (by simpa using hallied) ht' hi hj
  refine (resolve_total hc hk' hall).seq fun _ g₂ hcheck => ?_
  refine .modify_bind (total_pure ?_)
  have hq : Quiet g₂ (g₂.modifyMatch (·.setSem .victoryResolved)) :=
    ⟨fun _ => Alike.refl _, setSem_other g₂.match (by decide), rfl,
      setSem_other g₂.match (by decide), rfl⟩
  exact then_quiet (after_ends hends hcheck) hq fun _ => rfl

/-! ## The recursion -/

lemma upTo_sound (k : Nat) : (upTo k : Calls ρ).Sound k := by
  induction k with
  | zero => exact ⟨fun _ _ _ _ h => absurd h (by omega), fun _ _ _ _ _ h => absurd h (by omega),
      fun _ h => absurd h (by omega)⟩
  | succ k ih => exact ⟨victoryBody_total ih, defeatBody_total ih, checkVictoryBody_total ih⟩

end Calls

/-- `victory` returns, and meets its specification, on every game. -/
lemma victory_total (w : Seat) (vt : VictoryType) (instant : Int32) (g : Game ρ) :
    Total (victory w vt instant) g (fun _ g' => VictorySpec w vt g g') fun _ _ => False :=
  total_limit ((Calls.upTo_sound (g.slack + 1)).victory w vt instant g (Nat.lt_succ_self _))

/-- `defeat` returns, and meets its specification, on every game. -/
lemma defeat_total (x : Seat) (dt : DefeatType) (by_ instant : Int32) (g : Game ρ) :
    Total (defeat x dt by_ instant) g (fun _ g' => DefeatSpec x g g') fun _ _ => False :=
  total_limit ((Calls.upTo_sound (g.slack + 1)).defeat x dt by_ instant g (Nat.lt_succ_self _))

/-- What the rest of the game may call. -/
inductive Verdict where
  | victory (who : Seat) (vt : VictoryType) (instant : Int32)
  | defeat (who : Seat) (dt : DefeatType) (by_ instant : Int32)
  | check

def Verdict.play : Verdict → Play ρ Unit
  | victory who vt instant => Don.Sim.victory who vt instant
  | defeat who dt by_ instant => Don.Sim.defeat who dt by_ instant
  | check => do let _ ← checkVictory

/-- Whatever is called, in any order, on any game: every call returns, and flags are only set, each with its
own event. -/
theorem verdicts_evolve (calls : List Verdict) (g : Game ρ) :
    Total (calls.forM Verdict.play) g (fun _ g' => Evolves g g') fun _ _ => False := by
  induction calls generalizing g with
  | nil => exact total_pure (.refl g)
  | cons c calls ih =>
    have hone : Total c.play g (fun _ g' => Evolves g g') fun _ _ => False := by
      cases c with
      | victory who vt instant => exact (victory_total who vt instant g).post fun _ _ h => h.evolves
      | defeat who dt by_ instant => exact (defeat_total who dt by_ instant g).post fun _ _ h => h.evolves
      | check =>
        have hcheck : Total checkVictory g _ fun _ _ => False :=
          total_limit ((Calls.upTo_sound (g.slack + 1)).checkVictory g (Nat.lt_succ_self _))
        exact hcheck.seq fun _ _ h => total_pure h.evolves
    exact hone.seq fun _ g₁ h => (ih g₁).post fun _ _ => h.trans

end Don.Sim
