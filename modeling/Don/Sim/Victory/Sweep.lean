import Don.Sim.Victory.Cascade

/-!
# Sweep — the blocks of `process_victory`

Each block of the sweep on its own: when it runs, who can win by it, and what it needs to keep outcomes
exclusive.
-/

namespace Don.Sim

open Foundation Game Proc List LeaderState Game Quiet Calls

variable {ρ : Type}

namespace Game

/-- A winner still in the game has no rival there without an outcome. -/
def Calm (g : Game ρ) : Prop :=
  ∀ i j, g.active i → g.won i → g.active j → ¬ g.flagged j → g.allied i j

lemma Open.calm {g : Game ρ} (h : g.Open) : g.Calm :=
  fun i _ hi hw _ _ => (h i hi hw).elim

lemma Settled.calm {g : Game ρ} (h : g.Settled) : g.Calm :=
  fun _ j _ _ hj hf => (hf (h j hj)).elim

end Game

variable {g : Game ρ}

lemma Quiet.calm {g' : Game ρ} (h : Quiet g g') (hc : g.Calm) : g'.Calm := by
  intro i j hi hw hj hf
  rw [h.evolves.allied_iff]
  refine hc i j ((h.active_iff i).1 hi) ((h.won_iff i).1 hw) ((h.active_iff j).1 hj) fun hfl => hf ?_
  exact h.evolves.flagged hfl

/-! ## Blocks -/

/-- What a block of the sweep does.  Under `fits` it keeps outcomes exclusive, and under `fair` only
leaders in the game win. -/
structure BlockSpec (fits fair : Prop) (g g' : Game ρ) : Prop where
  evolves : Evolves g g'
  winners : fair → ∀ i, g'.won i → g.won i ∨ g.active i
  orderly : fits → g.Transitive → g.Exclusive → g.Calm → g'.Exclusive ∧ g'.Calm

namespace BlockSpec

variable {fits fair : Prop} {g g₁ g₂ g₃ : Game ρ}

lemma of_quiet (h : Quiet g₁ g₂) : BlockSpec fits fair g₁ g₂ :=
  ⟨h.evolves, fun _ i hi => Or.inl ((h.won_iff i).1 hi),
    fun _ _ hx hc => ⟨h.exclusive hx, h.calm hc⟩⟩

lemma refl (g : Game ρ) : BlockSpec fits fair g g := of_quiet (quiet_refl g)

lemma trans (h₁ : BlockSpec fits fair g₁ g₂) (h₂ : BlockSpec fits fair g₂ g₃) :
    BlockSpec fits fair g₁ g₃ where
  evolves := h₁.evolves.trans h₂.evolves
  winners hf i hi := (h₂.winners hf i hi).elim (h₁.winners hf i) fun ha =>
    Or.inr (h₁.evolves.active i ha)
  orderly hf ht hx hc :=
    let ⟨hx', hc'⟩ := h₁.orderly hf ht hx hc
    h₂.orderly hf (h₁.evolves.transitive ht) hx' hc'

lemma mono {fits' fair' : Prop} (h : BlockSpec fits fair g₁ g₂) (himp : fits' → fits)
    (himp' : fair' → fair) : BlockSpec fits' fair' g₁ g₂ :=
  ⟨h.evolves, fun hf => h.winners (himp' hf), fun hf => h.orderly (himp hf)⟩

lemma of_victory {w : Seat} {vt : VictoryType} (h : VictorySpec w vt g₁ g₂) :
    BlockSpec (g₁.active w ∨ g₁.flagged w) (g₁.active w ∨ g₁.flagged w) g₁ g₂ where
  evolves := h.evolves
  winners hf i hi := by
    by_cases hfl : g₁.flagged w
    · rw [h.idle hfl] at hi
      exact Or.inl hi
    · rcases h.winners i hi with hw | ha | rfl
      · exact Or.inl hw
      · exact Or.inr ha
      · exact Or.inr (hf.resolve_right hfl)
  orderly hf ht hx hc := by
    by_cases hfl : g₁.flagged w
    · rw [h.idle hfl]
      exact ⟨hx, hc⟩
    · have hact := hf.resolve_right hfl
      have hg : g₁.Gathered w := fun i hi hw => hc i w hi hw hact hfl
      exact ⟨(h.exclusive ht hx hg hf).1, (h.settles hfl).2.calm⟩

lemma of_defeat {x : Seat} (h : DefeatSpec x g₁ g₂) (hx : g₁.active x) :
    BlockSpec g₁.Open True g₁ g₂ where
  evolves := h.evolves
  winners _ := h.winners
  orderly ho ht hex _ := by
    obtain ⟨hex', hphase⟩ := h.opened (ho x hx) ht hex ho
    exact ⟨hex', hphase.elim Open.calm Settled.calm⟩

end BlockSpec

open BlockSpec

lemma total_forUntil {f : Seat → Play ρ Bool} {fits fair : Prop}
    (hstep : ∀ i g, Total (f i) g (fun _ g' => BlockSpec fits fair g g') fun _ _ => True) :
    ∀ is g, Total (forUntil f is) g (fun _ g' => BlockSpec fits fair g g') fun _ _ => True := by
  intro is
  induction is with
  | nil => exact fun g => total_pure (BlockSpec.refl g)
  | cons i is ih =>
    intro g
    refine (hstep i g).seq fun b g₁ h₁ => ?_
    split
    · exact total_pure h₁
    · exact (ih g₁).post fun _ g₂ h₂ => h₁.trans h₂

/-- A step that reads, or panics, and changes nothing. -/
def Reads {α : Type} (x : Play ρ α) : Prop :=
  ∀ g, Proc.Total x g (fun _ g' => g' = g) fun _ _ => True

lemma reads_lookup (table : List Int32) (i : Nat) : Reads (lookup table i : Play ρ Int32) :=
  fun _ => total_ofOption (fun _ _ => rfl) fun _ => trivial

lemma reads_divide (a b : Int32) : Reads (divide a b : Play ρ Int32) := by
  intro g
  unfold divide
  split
  · exact total_throw trivial
  · exact total_pure rfl

variable {α : Type}

lemma reads_pure (a : α) : Reads (pure a : Play ρ α) := fun _ => total_pure rfl

lemma reads_gets (f : Game ρ → α) : Reads (Proc.gets f : Play ρ α) :=
  fun _ => total_gets rfl

lemma Reads.bind {β : Type} {x : Play ρ α} {f : α → Play ρ β} (hx : Reads x)
    (hf : ∀ a, Reads (f a)) : Reads (x >>= f) := by
  intro g
  refine (hx g).seq fun a g' h => ?_
  rw [h]
  exact hf a g

/-- Sequencing after a step that changes nothing. -/
lemma Reads.total_bind {β : Type} {x : Play ρ α} (hx : Reads x) {f : α → Play ρ β}
    {Q : β → Game ρ → Prop} (hf : ∀ a, Total (f a) g Q fun _ _ => True) :
    Total (x >>= f) g Q fun _ _ => True := by
  refine (hx g).seq fun a g' h => ?_
  rw [h]
  exact hf a

lemma reads_expired (m : Match) (base stamp : Int32) : Reads
    (expired m base stamp : Play ρ Bool) := by
  refine Reads.bind ?_ fun timer => reads_pure _
  unfold mapScaled
  split
  · exact reads_pure _
  · exact (reads_lookup _ _).bind fun s => (reads_divide _ _).bind fun v => reads_pure _

lemma reads_territoryShare (who : Seat) : Reads (territoryShare who : Play ρ Int32) :=
  (reads_gets _).bind fun _ => reads_divide _ _

lemma reads_rivalsOver (pct : Int32) (who : Seat) (is : List Seat) :
    Reads (rivalsOver pct who is : Play ρ Nat) := by
  induction is with
  | nil => exact reads_pure _
  | cons other rest ih =>
    refine (reads_gets _).bind fun g => ?_
    split
    · exact ih
    · exact (reads_territoryShare other).bind fun share => ih.bind fun n => reads_pure _

/-! ## Wonders and territory -/

variable {who : Seat}

/-- The step does no more than a block may. -/
abbrev Blocks (x : Play ρ Bool) (g : Game ρ) : Prop :=
  Total x g (fun _ g' => BlockSpec True True g g') fun _ _ => True

lemma award_total (vt : VictoryType) (instant : Int32) (hact : g.active who) :
    Blocks (award who vt instant) g := by
  refine Total.bind ((victory_total who vt instant g).mono (fun _ g' h => ?_) fun _ _ h => h.elim)
  exact total_pure ((of_victory h).mono (fun _ => Or.inl hact) fun _ => Or.inl hact)

lemma awardIf_total (b : Bool) (vt : VictoryType) (hact : g.active who) :
    Blocks (awardIf b who vt) g := by
  unfold awardIf
  split
  · exact award_total vt 0 hact
  · exact total_pure (BlockSpec.refl g)

lemma quiet_cancelWonder (m : Match) (g : Game ρ) (who : Seat) :
    Quiet g (g.modifyLeader who (cancelWonder m)) := by
  refine modifyLeader g who ?_
  unfold cancelWonder
  split
  · exact ⟨⟨rfl, rfl, rfl⟩, rfl, rfl, rfl⟩
  · exact Alike.refl _

lemma quiet_cancelTerritory (m : Match) (g : Game ρ) (who : Seat) :
    Quiet g (g.modifyLeader who (cancelTerritory m)) := by
  refine modifyLeader g who ?_
  unfold cancelTerritory
  split
  · exact ⟨⟨rfl, rfl, rfl⟩, rfl, rfl, rfl⟩
  · exact Alike.refl _

lemma wonderCountdown_total (hact : g.active who) : Blocks (wonderCountdown who) g := by
  refine .gets_bind ?_
  split
  · refine .modify_bind (total_pure (of_quiet ?_))
    exact modifyLeader g who ⟨⟨rfl, rfl, rfl⟩, rfl, rfl, rfl⟩
  · exact (reads_expired _ _ _).total_bind fun b => awardIf_total b _ hact

lemma wonderSlot_total (winner : Option Seat) (who : Seat) (g : Game ρ) :
    Blocks (wonderSlot winner who) g := by
  refine .gets_bind ?_
  split
  · exact total_pure (BlockSpec.refl g)
  rename_i hact
  have ha : g.active who := by simpa [active] using hact
  split
  · refine .modify_bind (total_pure ?_)
    exact of_quiet (quiet_cancelWonder _ g who)
  · split
    · exact award_total _ _ ha
    · exact wonderCountdown_total ha

def BlockUnder (setting : Match → Prop) (Q : Game ρ → Game ρ → Prop) (x : Play ρ Unit) : Prop :=
  ∀ g, Proc.Total x g
    (fun _ g' => (setting g.match ∧ Q g g') ∨ (¬ setting g.match ∧ g' = g)) fun _ _ => True

lemma blockUnder_of_test {test : Match → Bool} {Q : Game ρ → Game ρ → Prop}
    {x : Match → Play ρ Unit}
    (h : ∀ g, test g.match → Total (x g.match) g (fun _ g' => Q g g') fun _ _ => True) :
    BlockUnder (test · = true) Q (do
      let m ← Proc.gets (·.match)
      if test m then x m else pure ()) := by
  intro g
  refine .gets_bind ?_
  split
  · rename_i htest
    exact (h g htest).post fun _ g' hb => Or.inl ⟨htest, hb⟩
  · rename_i htest
    exact total_pure (Or.inr ⟨htest, rfl⟩)

lemma wonderBlock_total (net value : Seat → Int32) :
    BlockUnder (fun m => (standardish m || isSetting m .wonder) = true) (BlockSpec True True)
      (wonderBlock net value : Play ρ Unit) := by
  intro g
  refine .gets_bind ?_
  split
  · rename_i htest
    refine (reads_lookup _ _).total_bind fun threshold => ?_
    refine (total_forUntil (wonderSlot_total _) seats g).post fun _ g' hb => ?_
    exact Or.inl ⟨htest, hb⟩
  · rename_i htest
    exact total_pure (Or.inr ⟨htest, rfl⟩)

lemma territoryCountdown_total (hact : g.active who) : Blocks (territoryCountdown who) g := by
  refine .gets_bind ?_
  split
  · refine .modify_bind (total_pure (of_quiet ?_))
    exact modifyLeader g who ⟨⟨rfl, rfl, rfl⟩, rfl, rfl, rfl⟩
  · exact (reads_expired _ _ _).total_bind fun b => awardIf_total b _ hact

lemma territorySlot_total (pct : Int32) (who : Seat) (g : Game ρ) :
    Blocks (territorySlot pct who) g := by
  refine .gets_bind ?_
  split
  · exact total_pure (BlockSpec.refl g)
  rename_i hact
  have ha : g.active who := by simpa [active] using hact
  refine (reads_territoryShare who).total_bind fun mine => ?_
  refine (reads_rivalsOver pct who seats).total_bind fun rivals => ?_
  refine .gets_bind ?_
  split
  · refine .modify_bind (total_pure ?_)
    exact of_quiet (quiet_cancelTerritory _ g who)
  · split
    · exact award_total _ _ ha
    · exact territoryCountdown_total ha

lemma territoryBlock_total :
    BlockUnder (fun m => ((standardish m || isSetting m .population) && m.worldLandSize ≠ 0) = true)
      (BlockSpec True True) (territoryBlock : Play ρ Unit) := by
  refine blockUnder_of_test fun g _ => ?_
  refine (reads_lookup _ _).total_bind fun pct => ?_
  exact total_forUntil (territorySlot_total pct) seats g

/-! ## The leader of the table -/

/-- The running maximum is that of an active leader with a positive value, or the default slot when
there is none. -/
lemma leading_spec (g : Game ρ) (value : Game ρ → Seat → Int32) :
    (leading g value = (0, 0) ∧ ∀ i, g.active i → value g i ≤ 0) ∨
      (g.active (leading g value).2 ∧ value g (leading g value).2 = (leading g value).1
        ∧ 0 < (leading g value).1 ∧ ∀ i, g.active i → value g i ≤ (leading g value).1) := by
  -- the invariant of the loop, over the slots already seen
  have hloop : ∀ (is done : List Seat) (best : Int32 × Seat),
      ((best = (0, 0) ∧ ∀ i ∈ done, g.active i → value g i ≤ 0) ∨
        (g.active best.2 ∧ value g best.2 = best.1 ∧ 0 < best.1
          ∧ ∀ i ∈ done, g.active i → value g i ≤ best.1)) →
      let last := is.foldl (fun best who =>
        if (g.leader who).isActive ∧ best.1 < value g who then (value g who, who) else best) best
      (last = (0, 0) ∧ ∀ i ∈ done ++ is, g.active i → value g i ≤ 0) ∨
        (g.active last.2 ∧ value g last.2 = last.1 ∧ 0 < last.1
          ∧ ∀ i ∈ done ++ is, g.active i → value g i ≤ last.1) := by
    intro is
    induction is with
    | nil =>
      intro done best h
      simpa using h
    | cons i is ih =>
      intro done best h
      have hnext := ih (done ++ [i])
        (if (g.leader i).isActive ∧ best.1 < value g i then (value g i, i) else best) ?_
      · simpa using hnext
      · split
        · -- a new maximum, above a best that is not negative
          rename_i hnew
          refine Or.inr ⟨hnew.1, rfl, ?_, ?_⟩
          · rcases h with ⟨rfl, _⟩ | ⟨_, _, hpos, _⟩
            · exact hnew.2
            · exact Int32.lt_trans hpos hnew.2
          · intro j hj hja
            rcases mem_append.1 hj with hj | hj
            · refine Int32.le_trans ?_ (Int32.le_of_lt hnew.2)
              rcases h with ⟨rfl, hle⟩ | ⟨_, _, _, hle⟩
              all_goals exact hle j hj hja
            · rw [mem_singleton.1 hj]
              exact Int32.le_refl _
        · rename_i hold
          have hi : g.active i → value g i ≤ best.1 := by
            intro hia
            by_contra hlt
            exact hold ⟨hia, Int32.not_le.1 hlt⟩
          have hmem : ∀ b, (∀ j ∈ done, g.active j → value g j ≤ b) → (g.active i → value g i ≤ b) →
              ∀ j ∈ done ++ [i], g.active j → value g j ≤ b := by
            intro b hd hib j hj hja
            rcases mem_append.1 hj with hj | hj
            · exact hd j hj hja
            · rw [mem_singleton.1 hj] at hja ⊢
              exact hib hja
          rcases h with ⟨rfl, hle⟩ | ⟨ha, hv, hpos, hle⟩
          · exact Or.inl ⟨rfl, hmem 0 hle hi⟩
          · exact Or.inr ⟨ha, hv, hpos, hmem _ hle hi⟩
  have hall := hloop seats [] (0, 0) (Or.inl ⟨rfl, by simp⟩)
  simpa [leading, mem_seats] using hall

/-- The slot in front is in the game, or at least has an outcome. -/
def Backed (value : Game ρ → Seat → Int32) (g : Game ρ) : Prop :=
  g.active 0 ∨ g.flagged 0 ∨ ∃ i, g.active i ∧ 0 < value g i

lemma Backed.leading {value : Game ρ → Seat → Int32} (h : Backed value g) :
    g.active (leading g value).2 ∨ g.flagged (leading g value).2 := by
  rcases leading_spec g value with ⟨heq, hle⟩ | ⟨hact, _⟩
  · rw [heq]
    rcases h with ha | hf | ⟨i, hi, hpos⟩
    · exact Or.inl ha
    · exact Or.inr hf
    · exact absurd (hle i hi) (Int32.not_le.2 hpos)
  · exact Or.inl hact

/-- What an award to the slot in front does: a victory if the goal is reached, and nothing else. -/
def AwardSpec (value : Game ρ → Seat → Int32) (goal : Option Int32) (vt : VictoryType)
    (g g' : Game ρ) : Prop :=
  if goal.all (· ≤ (leading g value).1) then VictorySpec (leading g value).2 vt g g' else g' = g

lemma awardLeading_total (value : Game ρ → Seat → Int32) (goal : Option Int32) (vt : VictoryType)
    (g : Game ρ) :
    Total (awardLeading value goal vt) g (fun _ g' => AwardSpec value goal vt g g')
      fun _ _ => True := by
  refine .gets_bind ?_
  unfold AwardSpec
  split
  · exact (victory_total _ vt 0 g).mono (fun _ g' h => h) fun _ _ h => h.elim
  · exact total_pure rfl

lemma AwardSpec.block {value : Game ρ → Seat → Int32} {goal : Option Int32} {vt : VictoryType}
    {g' : Game ρ} (h : AwardSpec value goal vt g g') :
    BlockSpec (Backed value g) (Backed value g) g g' := by
  unfold AwardSpec at h
  split at h
  · exact (of_victory h).mono Backed.leading Backed.leading
  · rw [h]
    exact BlockSpec.refl g

/-- The interval between culls is over. -/
def CullDue (m : Match) : Prop :=
  isSetting m .musicalChairs = true ∧ m.frame ≠ 0 ∧
    ∃ minutes, m.victoryOptions.chairs[m.options.chairs.toNat]? = some minutes
      ∧ minutes * 900 ≤ m.frame - m.musicalChairs

/-- A cull finds no winner in the game and does not go by teams. -/
def CullFits (g : Game ρ) : Prop :=
  CullDue g.match → g.Open ∧ freeForAll g.match = true

def runs : Victory → Match → Bool
  | .timeLimit, m => isSetting m .timeLimit && timeIsUp m
  | .musicalChairs, m => isSetting m .musicalChairs && m.frame ≠ 0
  | v, m => isSetting m v

/-- What one setting does to a game when its blocks run. -/
def Did : Victory → Game ρ → Game ρ → Prop
  | .score, g, g' => ∃ goal, g.match.victoryOptions.scores[g.match.options.scoreGoal.toNat]? = some goal
      ∧ AwardSpec getTeamScore (some goal) .byScore g g'
  | .timeLimit, g, g' => AwardSpec getTeamScore none .byTimeLimit g g'
  | .economic, g, g' => ∃ goal, g.match.victoryOptions.econwins[g.match.options.econwin.toNat]? = some goal
      ∧ AwardSpec getTeamEconomic (some goal) .byEconomy g g'
  | .musicalChairs, g, g' => BlockSpec (CullFits g) True g g'
  | _, g, g' => BlockSpec True True g g'

lemma scoreBlock_total :
    BlockUnder (runs .score · = true) (Did .score) (scoreBlock : Play ρ Unit) := by
  refine blockUnder_of_test fun g _ => ?_
  refine Total.bind (total_ofOption (fun goal hgoal => ?_) fun _ => trivial)
  exact (awardLeading_total _ _ _ g).post fun _ _ h => ⟨goal, hgoal, h⟩

lemma timeLimitBlock_total :
    BlockUnder (runs .timeLimit · = true) (Did .timeLimit) (timeLimitBlock : Play ρ Unit) :=
  blockUnder_of_test fun g _ => awardLeading_total _ _ _ g

lemma economicBlock_total :
    BlockUnder (runs .economic · = true) (Did .economic) (economicBlock : Play ρ Unit) := by
  refine blockUnder_of_test fun g _ => ?_
  refine Total.bind (total_ofOption (fun goal hgoal => ?_) fun _ => trivial)
  exact (awardLeading_total _ _ _ g).post fun _ _ h => ⟨goal, hgoal, h⟩

/-! ## Musical chairs -/

lemma active_of_lowest (g : Game ρ) (member : Seat → Bool) {ceiling : Int32} {w : Seat}
    (h : (seats.foldl (lowestStep g member) (ceiling, none, true)).2.1 = some w) : g.active w := by
  have hloop : ∀ (is : List Seat) (acc : Int32 × Option Seat × Bool),
      (∀ w, acc.2.1 = some w → g.active w) →
      ∀ w, (is.foldl (lowestStep g member) acc).2.1 = some w → g.active w := by
    intro is
    induction is with
    | nil => exact fun acc hacc => hacc
    | cons i is ih =>
      intro acc hacc
      refine ih _ fun w hw => ?_
      unfold lowestStep at hw
      dsimp only at hw
      split at hw
      · rename_i hlow
        simp only [Bool.and_eq_true] at hlow
        rw [← Option.some.inj hw]
        exact hlow.1.1
      · exact hacc w hw
  exact hloop seats _ (by simp) w h

lemma cullLowest_total (ceiling : Int32) (member : Game ρ → Seat → Bool) (g : Game ρ) :
    Total (cullLowest ceiling member) g (fun _ g' => BlockSpec g.Open True g g') fun _ _ => True := by
  refine .gets_bind ?_
  split
  · rename_i w hlow
    refine (defeat_total w .musicalChairs (-1) 0 g).mono (fun _ g' h => ?_) fun _ _ h => h.elim
    exact of_defeat h (active_of_lowest g (member g) (by simpa using congrArg (·.2.1) hlow))
  · exact total_pure (BlockSpec.refl g)

/-- A cull of several teams keeps no promise about exclusive outcomes. -/
lemma cullTeams_total (teams : List Int32) : ∀ g : Game ρ,
    Total (cullTeams teams) g (fun _ g' => BlockSpec False True g g') fun _ _ => True := by
  induction teams with
  | nil => exact fun g => total_pure (BlockSpec.refl g)
  | cons team teams ih =>
    intro g
    refine (cullLowest_total _ _ g).seq fun _ g₁ h₁ => ?_
    exact (ih g₁).post fun _ g₂ h₂ => (h₁.mono False.elim id).trans h₂

lemma quiet_restartChairs (g : Game ρ) :
    Quiet g (g.modifyMatch fun m => { m with musicalChairs := m.frame }) :=
  ⟨fun _ => Alike.refl _, rfl, rfl, rfl, rfl⟩

lemma musicalChairsBlock_total :
    BlockUnder (runs .musicalChairs · = true) (Did .musicalChairs) (musicalChairsBlock : Play ρ Unit) := by
  refine blockUnder_of_test fun g htest => ?_
  refine Total.bind (total_ofOption (fun minutes hmin => ?_) fun _ => trivial)
  unfold cullWhenDue
  split
  · rename_i hdue
    have hcull : CullDue g.match := by
      simp only [runs, Bool.and_eq_true, decide_eq_true_eq] at htest
      exact ⟨htest.1, htest.2, minutes, hmin, hdue⟩
    refine .modify_bind ?_
    have hq := quiet_restartChairs g
    refine .gets_bind ?_
    split
    · refine (cullLowest_total _ _ _).post fun _ g' h => ?_
      exact (of_quiet hq).trans (h.mono (fun hf => hq.opened (hf hcull).1) id)
    · rename_i hffa
      refine (cullTeams_total _ _).post fun _ g' h => ?_
      exact (of_quiet hq).trans (h.mono (fun hf => hffa (hf hcull).2) id)
  · exact total_pure (BlockSpec.refl g)

/-! ## Armageddon -/

namespace LeaderState

variable (l : LeaderState ρ)

lemma alike_scores (s : Scores) : Alike l { l with scores := s } :=
  ⟨⟨rfl, rfl, rfl⟩, rfl, rfl, rfl⟩

lemma alike_clearNewUnits : Alike l (l.clearFlag .newUnits) :=
  ⟨⟨rfl, rfl, by simp⟩, by simp, by simp, by simp⟩

lemma alike_clearNewTech : Alike l (l.clearFlag .newTech) :=
  ⟨⟨rfl, rfl, by simp⟩, by simp, by simp, by simp⟩

end LeaderState

namespace Scoring

open LeaderState

variable (S : Scoring ρ) (m : Match)

lemma alike_refreshUnits (l : LeaderState ρ) : Alike l (S.refreshUnits m l) := by
  unfold refreshUnits
  split
  · exact (alike_scores l _).trans (alike_clearNewUnits _)
  · exact Alike.refl l

lemma alike_refreshTech (l : LeaderState ρ) : Alike l (S.refreshTech m l) := by
  unfold refreshTech
  split
  · exact ((alike_scores l _).trans (alike_scores _ _)).trans (alike_clearNewTech _)
  · exact Alike.refl l

/-- Computing components touches only scores and the flags that ask for it. -/
lemma alike_components (l : LeaderState ρ) : Alike l (S.components m l) := by
  have hunits : Alike l (S.refreshUnits m (computeExploreScore l)) :=
    (alike_scores l _).trans (S.alike_refreshUnits m _)
  have hpop : ∀ l, Alike l (computePopScore (S.computeEconomyScore m (S.computeBuildScore m l))) :=
    fun l => ((alike_scores l _).trans (alike_scores _ _)).trans (alike_scores _ _)
  exact (hunits.trans (hpop _)).trans (S.alike_refreshTech m _)

lemma alike_total (terr : Int32) (l : LeaderState ρ) : Alike l (total m terr l) := by
  unfold total
  dsimp only
  split
  all_goals exact alike_scores l _

/-- A score is computed without deciding anything, and is zero when the clock has run out. -/
lemma computeScore_total (who : Seat) (force : Int32) (g : Game ρ) :
    Total (S.computeScore who force) g (fun _ g' => Quiet g g' ∧
      (∀ j, j ≠ who → g'.leader j = g.leader j) ∧
      (force ≠ 0 → g.match.armageddonReached → (g'.leader who).scores = Scores.zero))
      fun _ _ => True := by
  refine .gets_bind ?_
  split
  · rename_i hskip
    refine total_pure ⟨quiet_refl g, fun _ _ => rfl, fun hf => ?_⟩
    simp [refreshes, hf] at hskip
  refine .modify_bind ?_
  refine (reads_divide _ _).total_bind fun terr => total_modify ⟨?_, ?_, ?_⟩
  · have h₁ := modifyLeader g who (S.alike_components g.match (g.leader who))
    have h₂ := modifyLeader (g.modifyLeader who (S.components g.match)) who
      (alike_total g.match terr _)
    exact ⟨fun j => (h₁.alike j).trans (h₂.alike j), rfl, rfl, rfl, rfl⟩
  · intro j hj
    simp [Game.modifyLeader, hj]
  · intro _ hclock
    simp [Game.modifyLeader, total, hclock]

/-- What holds while everybody is defeated, after the slots of `done`. -/
structure Ending (g : Game ρ) (done : List Seat) (h : Game ρ) : Prop where
  evolves : Evolves g h
  winners : ∀ i, h.won i → g.won i
  losers : ∀ i, h.defeated i → g.defeated i ∨ (i ∈ done ∧ g.active i)
  out : ∀ i ∈ done, h.active i → g.defeated i
  zero : ∀ i ∈ done, (h.leader i).scores = Scores.zero
  exclusive : g.Transitive → g.Exclusive → g.Open → h.Exclusive ∧ h.Open

/-- One more slot: `h₁` is the game after the slot was defeated if it was still playing, `h₂` the game
after its score was computed. -/
lemma Ending.visit {g h h₁ h₂ : Game ρ} {done : List Seat} {i : Seat} (he : Ending g done h)
    (hev : Evolves h h₁) (hsc : SameScores h h₁) (hwin : ∀ j, h₁.won j → h.won j)
    (hlose : ∀ j, h₁.defeated j → h.defeated j ∨ (j = i ∧ h.active i))
    (hout : h₁.active i → g.defeated i)
    (hex : h.Transitive → h.Exclusive → h.Open → h₁.Exclusive ∧ h₁.Open)
    (hq : Quiet h₁ h₂) (hother : ∀ j, j ≠ i → h₂.leader j = h₁.leader j)
    (hzero : (h₂.leader i).scores = Scores.zero) : Ending g (done ++ [i]) h₂ where
  evolves := he.evolves.trans (hev.trans hq.evolves)
  winners j hj := he.winners j (hwin j ((hq.won_iff j).1 hj))
  losers j hj := by
    rcases hlose j ((hq.defeated_iff j).1 hj) with hd | ⟨rfl, ha⟩
    · exact (he.losers j hd).imp id fun h => ⟨mem_append_left _ h.1, h.2⟩
    · exact Or.inr ⟨by simp, he.evolves.active j ha⟩
  out j hj hja := by
    have hja' := (hq.active_iff j).1 hja
    rcases mem_append.1 hj with hj | hj
    · exact he.out j hj (hev.active j hja')
    · rw [mem_singleton.1 hj] at hja' ⊢
      exact hout hja'
  zero j hj := by
    by_cases hji : j = i
    · rw [hji, hzero]
    · rw [hother j hji, hsc j]
      exact he.zero j ((mem_append.1 hj).resolve_right fun h => hji (mem_singleton.1 h))
  exclusive ht hx ho := by
    obtain ⟨hx', ho'⟩ := he.exclusive ht hx ho
    obtain ⟨hx₁, ho₁⟩ := hex (he.evolves.transitive ht) hx' ho'
    exact ⟨hq.exclusive hx₁, hq.opened ho₁⟩

lemma defeatOne_total {g : Game ρ} (hclock : g.match.armageddonReached = true) (done : List Seat)
    (i : Seat) (hnew : i ∉ done) (h : Game ρ) (he : Ending g done h) :
    Total (S.defeatOne i) h (fun _ h' => Ending g (done ++ [i]) h') fun _ _ => True := by
  have hreached : ∀ {h'}, Evolves h h' → h'.match.armageddonReached = true := by
    intro h' hev
    rw [hev.armageddonReached, he.evolves.armageddonReached, hclock]
  refine .gets_bind ?_
  split
  · rename_i hplays
    have halive : h.active i ∧ ¬ h.defeated i := by
      simpa [active, defeated, isActive_eq] using hplays
    refine .modify_bind ?_
    obtain ⟨hq, hsc⟩ := quiet_survived h i
    refine Total.bind ((defeat_total i .armageddon (-1) 0 _).mono (fun _ h₁ hd => ?_)
      fun _ _ hf => hf.elim)
    have hev := hq.evolves.trans hd.evolves
    have hwin : ∀ j, h₁.won j → h.won j := fun j hj =>
      (hq.won_iff j).1 (hd.doomed (hreached hq.evolves) j hj)
    refine (S.computeScore_total i 1 h₁).mono (fun _ h₂ hs => ?_) fun _ _ _ => trivial
    refine he.visit hev (fun j => (hd.scores j).trans (hsc j)) hwin ?_ ?_ ?_ hs.1 hs.2.1
      (hs.2.2 (by decide) (hreached hev))
    · intro j hj
      refine (hd.losers (hreached hq.evolves) j hj).imp (hq.defeated_iff j).1 fun hij => ?_
      exact ⟨(Option.some.inj hij).symm, halive.1⟩
    · intro ha
      refine (hd.out ?_ ha).elim
      rw [hq.defeated_iff]
      exact halive.2
    · intro ht hx ho
      have hnot : ¬ (h.modifyLeader i (·.setFlag .survived)).won i := by
        rw [hq.won_iff]
        exact ho i halive.1
      obtain ⟨hx₁, _⟩ := hd.opened hnot (hq.evolves.transitive ht) (hq.exclusive hx) (hq.opened ho)
      exact ⟨hx₁, fun j hja hjw => ho j (hev.active j hja) (hwin j hjw)⟩
  · -- a slot that is not playing keeps its outcome; if it is active it was defeated before
    rename_i hplays
    refine (S.computeScore_total i 1 h).mono (fun _ h₂ hs => ?_) fun _ _ _ => trivial
    refine he.visit (Evolves.refl h) (fun _ => rfl) (fun _ hj => hj) (fun _ hj => Or.inl hj) ?_
      (fun _ hx ho => ⟨hx, ho⟩) hs.1 hs.2.1 (hs.2.2 (by decide) (hreached (Evolves.refl h)))
    intro ha
    have hd : h.defeated i := by
      by_contra hnd
      refine hplays ?_
      simp only [active, isActive_eq, Bool.and_eq_true] at ha
      simpa [ha.1, ha.2, defeated] using hnd
    exact (he.losers i hd).resolve_right fun h => hnew h.1

/-- A loop over distinct slots, with an invariant over the slots already visited. -/
lemma total_forEach_nodup {f : Seat → Play ρ Unit} {E : Panic → Game ρ → Prop}
    {I : List Seat → Game ρ → Prop}
    (hstep : ∀ done i, i ∉ done → ∀ g, I done g → Total (f i) g (fun _ g' => I (done ++ [i]) g') E) :
    ∀ is done g, (done ++ is).Nodup → I done g →
      Total (forEach f is) g (fun _ g' => I (done ++ is) g') E := by
  intro is
  induction is with
  | nil =>
    intro done g _ h
    exact total_pure (by simpa using h)
  | cons i is ih =>
    intro done g hnd h
    have hi : i ∉ done := fun hmem =>
      (nodup_append.1 hnd).2.2 i hmem i (mem_cons_self) rfl
    refine (hstep done i hi g h).seq fun _ g' h' => ?_
    have hnd' : ((done ++ [i]) ++ is).Nodup := by simpa using hnd
    simpa using ih (done ++ [i]) g' hnd' h'

/-- After the world has ended, nobody new has won, and only the defeated are still active. -/
structure Ended (g t : Game ρ) : Prop where
  evolves : Evolves g t
  winners : ∀ i, t.won i → g.won i
  defeated_iff : ∀ i, t.defeated i ↔ g.defeated i ∨ g.active i
  active_iff : ∀ i, t.active i ↔ g.active i ∧ g.defeated i
  zero : ∀ i, (t.leader i).scores = Scores.zero
  exclusive : g.Transitive → g.Exclusive → g.Open → t.Exclusive ∧ t.Open

lemma defeatAll_total {g : Game ρ} (hclock : g.match.armageddonReached = true) :
    Total S.defeatAll g (fun _ t => Ended g t) fun _ _ => True := by
  have hstart : Ending g [] g :=
    ⟨Evolves.refl g, fun _ h => h, fun _ h => Or.inl h, by simp, by simp, fun _ hx ho => ⟨hx, ho⟩⟩
  refine (total_forEach_nodup (S.defeatOne_total hclock) seats [] g
    (nodup_finRange 8) hstart).seq fun _ h he => total_modify ?_
  have hact : ∀ i, h.active i ↔ g.active i ∧ g.defeated i := by
    intro i
    refine ⟨fun ha => ⟨he.evolves.active i ha, he.out i (mem_seats i) ha⟩, fun ha => ?_⟩
    exact (he.evolves.fallen i ha.1).resolve_right fun hd => hd.1 ha.2
  have hdef : ∀ i, h.defeated i ↔ g.defeated i ∨ g.active i := by
    intro i
    refine ⟨fun hd => (he.losers i hd).imp id fun h => h.2, fun hor => ?_⟩
    rcases hor with hd | ha
    · exact he.evolves.defeated i hd
    · rcases he.evolves.fallen i ha with ha' | hd
      · exact he.evolves.defeated i ((hact i).1 ha').2
      · exact hd.2
  have hev : Evolves h (h.pushEvent .armageddonAll) :=
    { terms := fun _ => (Alike.refl _).toSameTerms
      won := fun _ hw => hw
      defeated := fun _ hd => hd
      active := fun _ ha => ha
      fallen := fun _ ha => Or.inl ha
      ended := id
      rules := rfl
      scoring := rfl
      events := ⟨[.armageddonAll], rfl⟩
      victories := by simp [victories, victoriesOf, pushEvent]
      defeats := by simp [defeats, defeatsOf, pushEvent] }
  exact ⟨he.evolves.trans hev, he.winners, hdef, hact, fun i => he.zero i (mem_seats i), he.exclusive⟩

lemma armageddonBlock_total (g : Game ρ) : Total S.armageddonBlock g (fun _ t =>
      (g.match.armageddonReached = true → Ended g t) ∧
      (g.match.armageddonReached = false → t = g)) fun _ _ => True := by
  refine .gets_bind ?_
  split
  · rename_i hclock
    refine (S.defeatAll_total hclock).post fun _ t ht => ⟨fun _ => ht, ?_⟩
    simp [hclock]
  · rename_i hclock
    exact total_pure ⟨fun h => (hclock h).elim, fun _ => rfl⟩

end Scoring

end Don.Sim
