import Don.Sim.Victory.Sweep

/-!
# Outcomes — the outcomes of whole matches

The blocks of `process_victory` one after the other, and any number of sweeps.  Every sweep ends,
flags are never cleared and nobody wins or loses twice.  That nobody does both needs conditions on the
game a sweep starts from (`Orderly`): a defeat does not ask whether the leader has already won.
-/

namespace Don.Sim

open Foundation Game List

variable {ρ : Type}

/-! ## The whole sweep -/

lemma isSetting_inj {m : Match} {v v' : Victory} (h : isSetting m v = true)
    (h' : isSetting m v' = true) : v = v' := by
  simp only [isSetting, decide_eq_true_eq] at h h'
  rw [h] at h'
  revert h'
  cases v <;> cases v' <;> decide

lemma isSetting_rules (m : Match) (v : Victory) : isSetting m.rules v = isSetting m v := rfl

variable {g : Game ρ}

lemma Evolves.isSetting {g' : Game ρ} (h : Evolves g g') (v : Victory) :
    isSetting g'.match v = isSetting g.match v := by
  rw [← isSetting_rules, h.rules, isSetting_rules]

/-- Conditions on a game under which a sweep keeps outcomes exclusive. -/
structure Orderly (g : Game ρ) : Prop where
  transitive : g.Transitive
  calm : g.Calm
  /-- the clock does not run out on a leader that has won -/
  armageddon : g.match.armageddonReached = true → g.Open
  /-- nor does a cull, and it is not one by teams -/
  chairs : isSetting g.match .musicalChairs = true → CullDue g.match ∨ g.match.armageddonReached = true →
    g.Open ∧ freeForAll g.match = true
  /-- the slot that a table without positive values puts in front is in the game or decided -/
  score : isSetting g.match .score = true ∨ isSetting g.match .timeLimit = true →
    g.active 0 ∨ g.flagged 0 ∨
      (g.match.armageddonReached = false ∧ ∃ i, g.active i ∧ 0 < g.getTeamScore i)
  economic : isSetting g.match .economic = true →
    g.active 0 ∨ g.flagged 0 ∨
      (g.match.armageddonReached = false ∧ ∃ i, g.active i ∧ 0 < g.getTeamEconomic i)

/-- What a sweep meets when its blocks begin, after the clock was looked at. -/
structure Begins (t : Game ρ) : Prop where
  transitive : t.Transitive
  exclusive : t.Exclusive
  calm : t.Calm
  chairs : isSetting t.match .musicalChairs = true → CullFits t
  score : isSetting t.match .score = true ∨ isSetting t.match .timeLimit = true →
    Backed getTeamScore t
  economic : isSetting t.match .economic = true → Backed getTeamEconomic t

variable {t : Game ρ}

lemma Orderly.begins (ho : Orderly g) (hx : g.Exclusive)
    (hended : g.match.armageddonReached = true → Scoring.Ended g t)
    (hsame : g.match.armageddonReached = false → t = g) : Begins t := by
  cases hclock : g.match.armageddonReached with
  | false =>
    rw [hsame hclock]
    refine ⟨ho.transitive, hx, ho.calm, fun hs hdue => ho.chairs hs (Or.inl hdue), ?_, ?_⟩
    · exact fun hs => (ho.score hs).imp id (Or.imp id And.right)
    · exact fun hs => (ho.economic hs).imp id (Or.imp id And.right)
  | true =>
    have he := hended hclock
    obtain ⟨hx', hopen⟩ := he.exclusive ho.transitive hx (ho.armageddon hclock)
    -- the default slot has an outcome now, whether it was playing or not
    have hzero : g.active 0 ∨ g.flagged 0 → t.flagged 0 := fun h =>
      h.elim (fun ha => Or.inr ((he.defeated_iff 0).2 (Or.inr ha))) he.evolves.flagged
    have hdecided : ∀ p : Prop, (g.active 0 ∨ g.flagged 0 ∨
        (g.match.armageddonReached = false ∧ p)) → t.flagged 0 := by
      rintro p (ha | hf | ⟨hn, _⟩)
      · exact hzero (Or.inl ha)
      · exact hzero (Or.inr hf)
      · simp [hclock] at hn
    refine ⟨he.evolves.transitive ho.transitive, hx', hopen.calm, fun hs _ => ⟨hopen, ?_⟩, ?_, ?_⟩
    · rw [he.evolves.isSetting] at hs
      have hffa := (ho.chairs hs (Or.inr hclock)).2
      change freeForAll t.match.rules = true
      rw [he.evolves.rules]
      exact hffa
    · intro hs
      rw [he.evolves.isSetting, he.evolves.isSetting] at hs
      exact Or.inr (Or.inl (hdecided _ (ho.score hs)))
    · intro hs
      rw [he.evolves.isSetting] at hs
      exact Or.inr (Or.inl (hdecided _ (ho.economic hs)))

/-- The blocks that follow a look at the armageddon clock. -/
def blocks (net value : Seat → Int32) : Play ρ Unit := do
  wonderBlock net value
  territoryBlock
  scoreBlock
  timeLimitBlock
  musicalChairsBlock
  economicBlock

lemma isSetting_of_runs {v : Victory} {m : Match} (h : runs v m = true) : isSetting m v = true := by
  cases v with
  | timeLimit | musicalChairs => exact (Bool.and_eq_true _ _ ▸ h).1
  | score | economic | standard | suddenDeath | conquest | wonder | population | techRace | scenario =>
    exact h

/-- The blocks of the listed settings are over: none of them runs, or the current one did its work. -/
def Stage (vs : List Victory) (t s : Game ρ) : Prop :=
  (s = t ∧ ∀ v ∈ vs, runs v t.match = false) ∨ ∃ v ∈ vs, runs v t.match = true ∧ Did v t s

lemma Did.evolves {v : Victory} {s : Game ρ} (h : Did v t s) : Evolves t s := by
  cases v with
  | score | economic =>
    obtain ⟨goal, _, h⟩ := h
    exact h.block.evolves
  | timeLimit => exact (AwardSpec.block h).evolves
  | musicalChairs => exact BlockSpec.evolves h
  | standard | suddenDeath | conquest | wonder | population | techRace | scenario =>
    exact BlockSpec.evolves h

namespace Stage

variable {vs : List Victory} {t s s' : Game ρ}

lemma evolves (h : Stage vs t s) : Evolves t s := by
  rcases h with ⟨rfl, _⟩ | ⟨v, _, _, hd⟩
  · exact Evolves.refl _
  · exact hd.evolves

/-- The block of a setting that has not had its turn. -/
lemma next {v : Victory} (h : Stage vs t s) (hv : v ∉ vs)
    (hb : (runs v s.match = true ∧ Did v s s') ∨ (¬ runs v s.match = true ∧ s' = s)) :
    Stage (v :: vs) t s' := by
  rcases h with ⟨rfl, hidle⟩ | ⟨v', hmem, hs', hd'⟩
  · rcases hb with ⟨hs, hd⟩ | ⟨hs, rfl⟩
    · exact Or.inr ⟨v, mem_cons_self, hs, hd⟩
    · exact Or.inl ⟨rfl, forall_mem_cons.2 ⟨by simpa using hs, hidle⟩⟩
  rcases hb with ⟨hs, _⟩ | ⟨_, rfl⟩
  · -- only one setting is current
    have hv' := isSetting_of_runs hs
    rw [hd'.evolves.isSetting] at hv'
    rw [isSetting_inj hv' (isSetting_of_runs hs')] at hv
    exact (hv hmem).elim
  · exact Or.inr ⟨v', mem_cons_of_mem _ hmem, hs', hd'⟩

end Stage

/-- The settings in the order of their blocks, the last one first. -/
def settings : List Victory :=
  [.economic, .musicalChairs, .timeLimit, .score, .standard, .suddenDeath, .wonder, .population]

lemma stage_of_wonder_territory {s₂ s₃ : Game ρ}
    (h₂ : ((standardish t.match || isSetting t.match .wonder) = true ∧ BlockSpec True True t s₂)
      ∨ (¬ (standardish t.match || isSetting t.match .wonder) = true ∧ s₂ = t))
    (h₃ : (((standardish s₂.match || isSetting s₂.match .population) && s₂.match.worldLandSize ≠ 0) = true
        ∧ BlockSpec True True s₂ s₃)
      ∨ (¬ ((standardish s₂.match || isSetting s₂.match .population) && s₂.match.worldLandSize ≠ 0) = true
        ∧ s₃ = s₂)) :
    Stage [.standard, .suddenDeath, .wonder, .population] t s₃ := by
  have hb₂ : BlockSpec True True t s₂ := by
    rcases h₂ with ⟨_, hb⟩ | ⟨_, rfl⟩
    · exact hb
    · exact BlockSpec.refl _
  have hb₃ : BlockSpec True True t s₃ := by
    rcases h₃ with ⟨_, hb⟩ | ⟨_, rfl⟩
    · exact hb₂.trans hb
    · exact hb₂
  by_cases hset : isSetting t.match .standard = true ∨ isSetting t.match .suddenDeath = true ∨
      isSetting t.match .wonder = true ∨ isSetting t.match .population = true
  · right
    rcases hset with h | h | h | h
    · exact ⟨.standard, by decide, h, hb₃⟩
    · exact ⟨.suddenDeath, by decide, h, hb₃⟩
    · exact ⟨.wonder, by decide, h, hb₃⟩
    · exact ⟨.population, by decide, h, hb₃⟩
  · -- under any other setting neither block runs
    simp only [not_or, Bool.not_eq_true] at hset
    obtain ⟨h₁, h₂', h₃', h₄⟩ := hset
    have e₂ : s₂ = t := by
      rcases h₂ with ⟨hs, _⟩ | ⟨_, e⟩
      · simp [standardish, h₁, h₂', h₃'] at hs
      · exact e
    rcases h₃ with ⟨hs, _⟩ | ⟨_, e⟩
    · simp [e₂, standardish, h₁, h₂', h₄] at hs
    · exact Or.inl ⟨e.trans e₂, by simp [runs, h₁, h₂', h₃', h₄]⟩

lemma blocks_total (net value : Seat → Int32) (t : Game ρ) :
    Proc.Total (blocks net value) t (fun _ g' => Stage settings t g') fun _ _ => True := by
  refine (wonderBlock_total net value t).seq fun _ s₂ h₂ => ?_
  refine (territoryBlock_total s₂).seq fun _ s₃ h₃ => ?_
  have hs₃ := stage_of_wonder_territory h₂ h₃
  refine (scoreBlock_total s₃).seq fun _ s₄ h₄ => ?_
  have hs₄ := hs₃.next (by decide) h₄
  refine (timeLimitBlock_total s₄).seq fun _ s₅ h₅ => ?_
  have hs₅ := hs₄.next (by decide) h₅
  refine (musicalChairsBlock_total s₅).seq fun _ s₆ h₆ => ?_
  have hs₆ := hs₅.next (by decide) h₆
  exact (economicBlock_total s₆).post fun _ s₇ h₇ => hs₆.next (by decide) h₇

/-- What a stage needs to keep outcomes exclusive, setting by setting. -/
lemma Stage.exclusive {vs : List Victory} {s : Game ρ} (h : Stage vs t s) (hb : Begins t) :
    s.Exclusive := by
  rcases h with ⟨rfl, _⟩ | ⟨v, _, hruns, hd⟩
  · exact hb.exclusive
  have hs := isSetting_of_runs hruns
  have keeps : ∀ {fits fair : Prop}, BlockSpec fits fair t s → fits → s.Exclusive :=
    fun h hf => (h.orderly hf hb.transitive hb.exclusive hb.calm).1
  cases v with
  | score =>
    obtain ⟨goal, _, h⟩ := hd
    exact keeps h.block (hb.score (Or.inl hs))
  | timeLimit => exact keeps (AwardSpec.block hd) (hb.score (Or.inr hs))
  | economic =>
    obtain ⟨goal, _, h⟩ := hd
    exact keeps h.block (hb.economic hs)
  | musicalChairs => exact keeps hd (hb.chairs hs)
  | standard | suddenDeath | conquest | wonder | population | techRace | scenario =>
    exact keeps hd trivial

structure SweepSpec (g g' : Game ρ) : Prop where
  evolves : Evolves { g with events := [] } g'
  exclusive : Orderly g → g.Exclusive → g'.Exclusive

/-- `process_victory` ends on every game. -/
lemma processVictory_total (S : Scoring ρ) (net value : Seat → Int32) (g : Game ρ) :
    Proc.Total (processVictory S net value) g (fun _ g' => SweepSpec g g') fun _ _ => True := by
  refine .modify_bind ?_
  refine (S.armageddonBlock_total _).seq fun _ t ht => ?_
  have hev₀ : Evolves { g with events := [] } t := by
    cases hclock : g.match.armageddonReached with
    | false =>
      rw [ht.2 hclock]
      exact Evolves.refl _
    | true => exact (ht.1 hclock).evolves
  refine (blocks_total net value t).post fun _ g' hstage => ?_
  refine ⟨hev₀.trans hstage.evolves, fun ho hx => hstage.exclusive ?_⟩
  refine Orderly.begins (g := { g with events := [] }) ?_ hx ht.1 ht.2
  exact ⟨ho.transitive, ho.calm, ho.armageddon, ho.chairs, ho.score, ho.economic⟩

/-! ## Any number of sweeps -/

/-- Sweeps one after the other, each with a match and wonder points of its own, and all the events they
record.  Every sweep starts from a game that satisfies `P`. -/
inductive Frames (S : Scoring ρ) (P : Game ρ → Prop) : Game ρ → Game ρ → List MatchEvent → Prop
  | start (g : Game ρ) : Frames S P g g []
  | frame {g g₁ g₂ : Game ρ} {es : List MatchEvent} {n : Nat} (before : Frames S P g g₁ es) (m : Match)
      (net value : Seat → Int32) (hP : P { g₁ with «match» := m })
      (hrun : (processVictory S net value).run n { g₁ with «match» := m } = .ok () g₂) :
      Frames S P g g₂ (es ++ g₂.events)

lemma sweepSpec_of_run {S : Scoring ρ} {net value : Seat → Int32} {n : Nat} {g' : Game ρ}
    (h : (processVictory S net value).run n g = .ok () g') : SweepSpec g g' :=
  (processVictory_total S net value g).of_run h

lemma Frames.ledger {S : Scoring ρ} {P : Game ρ → Prop} {g' : Game ρ} {es : List MatchEvent}
    (h : Frames S P g g' es) (i : Seat) :
    (g.won i → g'.won i) ∧ (g.defeated i → g'.defeated i)
      ∧ victoriesOf es i + ((g.leader i).flag .won).toNat = ((g'.leader i).flag .won).toNat
      ∧ defeatsOf es i + ((g.leader i).flag .defeated).toNat = ((g'.leader i).flag .defeated).toNat := by
  induction h with
  | start => exact ⟨id, id, by simp [victoriesOf], by simp [defeatsOf]⟩
  | frame before m net value hP hrun ih =>
    have hev := (sweepSpec_of_run hrun).evolves
    obtain ⟨hw, hd, hv, hl⟩ := ih
    refine ⟨fun h => hev.won i (hw h), fun h => hev.defeated i (hd h), ?_, ?_⟩
    · have hv' := hev.victories i
      rw [victoriesOf_append]
      simp only [victories, victoriesOf, countP_nil] at hv hv' ⊢
      omega
    · have hl' := hev.defeats i
      rw [defeatsOf_append]
      simp only [defeats, defeatsOf, countP_nil] at hl hl' ⊢
      omega

/-- Outcomes over any number of sweeps: every sweep returns, flags are never cleared, and a leader wins
at most once and loses at most once.  Nobody does both, provided every sweep starts from an orderly
game. -/
theorem match_outcomes_consistent (S : Scoring ρ) :
    (∀ net value g, (processVictory S net value).Returns g) ∧
    (∀ g g' es, Frames S (fun _ => True) g g' es → ∀ i,
      (g.won i → g'.won i) ∧ (g.defeated i → g'.defeated i)
        ∧ victoriesOf es i ≤ 1 ∧ defeatsOf es i ≤ 1) ∧
    (∀ g g' es, Frames S Orderly g g' es → g.Exclusive → g'.Exclusive) := by
  refine ⟨fun net value g => (processVictory_total S net value g).returns, ?_, ?_⟩
  · intro g g' es h i
    obtain ⟨hw, hd, hv, hl⟩ := h.ledger i
    have hone : ∀ b : Bool, b.toNat ≤ 1 := Bool.toNat_le
    have hv₁ := hone ((g'.leader i).flag .won)
    have hl₁ := hone ((g'.leader i).flag .defeated)
    exact ⟨hw, hd, by omega, by omega⟩
  · intro g g' es h
    induction h with
    | start => exact id
    | frame before m net value hP hrun ih =>
      intro hx
      exact (sweepSpec_of_run hrun).exclusive hP (ih hx)

/-! ## Two leaders -/

def plainLeader (flags : BitVec 32) (score : Int32) : LeaderState Unit where
  leaderFlags := flags
  leaderFlags2 := 0
  who := 0
  defeatedBy := -1
  scores := { Scores.zero with score }
  diplos := fun _ => 0
  popwinStamp := 0
  popwinTimer := 0
  wonderwinStamp := 0
  wonderwinTimer := 0
  victoryType := 0
  defeatType := 0
  numQueued := []
  territory := 0
  economic := 0
  hasPreq2b9 := false
  rest := ()

/-- A match with the given victory setting and team style, and one entry in every table. -/
def plainMatch (victory : Victory) (teamStyle : UInt8) : Match where
  options := ⟨teamStyle, 0, victory.code, 0, 0, 0, 0, 0, 0⟩
  constants := ⟨4500, 3600, 4, 1, 2⟩
  victoryOptions := ⟨[1000], [15], [2], [1], [30], [100], [40, 50, 60, 70]⟩
  frame := 1800
  tick := 900
  numNations := 2
  numSides := 2
  musicalChairs := 0
  armageddon := 0
  semaphore := 0
  worldXs := 70
  worldLandSize := 1

/-- Slots 0 and 1 play against each other, each on a team of its own. -/
def duel (m : Match) (score₀ score₁ : Int32) : Game Unit where
  leader := fun i =>
    if i = 0 then plainLeader 3 score₀ else if i = 1 then plainLeader 3 score₁ else plainLeader 0 0
  teamOf := fun i => Int32.ofNat i.val
  events := []
  terminalQueueCleanup := 0
  defeatUnitCleanup := 0
  «match» := m

def plainScoring : Scoring Unit :=
  ⟨fun _ _ => (0, 0), fun _ _ => (0, 0), fun _ _ => 0, fun _ _ => 0, fun _ _ => 0⟩

def sweepsTo (g : Game Unit) (p : Game Unit → Bool) : Bool :=
  match (processVictory plainScoring (fun _ => 0) fun _ => 0).run 18 g with
  | .ok _ g' => p g'
  | _ => false

lemma exists_of_sweepsTo {g : Game Unit} {p : Game Unit → Bool} (h : sweepsTo g p = true) :
    ∃ g', (processVictory plainScoring (fun _ => 0) fun _ => 0).run 18 g = .ok () g' ∧ p g' = true := by
  unfold sweepsTo at h
  split at h
  · rename_i g' hrun
    exact ⟨g', hrun, h⟩
  · simp at h

lemma duel_orderly : Orderly (duel (plainMatch .score 0) 2000 5) where
  transitive := by
    unfold Game.Transitive
    decide
  calm := by
    unfold Calm
    decide
  armageddon h := absurd h (by decide)
  chairs h := absurd h (by decide)
  score _ := Or.inl (by decide)
  economic h := absurd h (by decide)

/-- A score victory: slot 0 wins, slot 1 loses, and no slot does both. -/
theorem duel_outcomes_consistent : ∃ g' es,
    Frames plainScoring Orderly (duel (plainMatch .score 0) 2000 5) g' es ∧ victoriesOf es 0 = 1 ∧
      defeatsOf es 1 = 1 ∧ g'.Exclusive := by
  obtain ⟨g', hrun, hp⟩ := exists_of_sweepsTo (g := duel (plainMatch .score 0) 2000 5)
    (p := fun g' => victoriesOf g'.events 0 = 1 ∧ defeatsOf g'.events 1 = 1) (by decide)
  have hframes : Frames plainScoring Orderly (duel (plainMatch .score 0) 2000 5) g' ([] ++ g'.events) :=
    .frame (.start _) (plainMatch .score 0) _ _ duel_orderly hrun
  have hx : (duel (plainMatch .score 0) 2000 5).Exclusive := by
    unfold Exclusive
    decide
  simp only [decide_eq_true_eq] at hp
  exact ⟨g', _, hframes, hp.1, hp.2, (match_outcomes_consistent plainScoring).2.2 _ _ _ hframes hx⟩

/-- Musical chairs between two teams of one: slot 0 is culled, which makes slot 1 the winner, and then
slot 1 is culled as the lowest scorer of its own team. -/
theorem chairs_defeat_the_winner : ∃ n g',
    (processVictory plainScoring (fun _ => 0) fun _ => 0).run n
        (duel (plainMatch .musicalChairs 1) 10 20) = .ok () g' ∧
      (duel (plainMatch .musicalChairs 1) 10 20).Exclusive ∧ g'.won 1 ∧ g'.defeated 1 := by
  obtain ⟨g', hrun, hp⟩ := exists_of_sweepsTo (g := duel (plainMatch .musicalChairs 1) 10 20)
    (p := fun g' => g'.won 1 ∧ g'.defeated 1) (by decide)
  have hx : (duel (plainMatch .musicalChairs 1) 10 20).Exclusive := by
    unfold Exclusive
    decide
  simp only [decide_eq_true_eq] at hp
  exact ⟨18, g', hrun, hx, hp⟩

end Don.Sim
