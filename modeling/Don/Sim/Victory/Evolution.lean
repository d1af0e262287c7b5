import Don.Sim.Victory.Basic

/-!
# Evolution — what the sweep can do to a leader

Flags are only set, an active leader stops being active only by being defeated, and an event is
recorded exactly when a flag is set (`Evolves`).  `victory`, `defeat` and `check_victory` call each
other at most as often as there are flags left to set, so they return (`Slack`).
-/

namespace Don.Sim

open Foundation LeaderFlag LeaderState

variable {ρ : Type}

/-! ## Flags -/

namespace LeaderState

variable (l : LeaderState ρ)

lemma flag_eq (f : LeaderFlag) : l.flag f = l.leaderFlags.getLsbD f.bit := by
  rw [flag, mask, BitVec.and_twoPow]
  split
  · rename_i h
    have hne : BitVec.twoPow 32 f.bit ≠ 0#32 := by cases f <;> decide
    simpa [h] using hne
  · rename_i h
    simp [h]

lemma bit_lt (f : LeaderFlag) : f.bit < 32 := by
  cases f <;> decide

lemma bit_inj {f f' : LeaderFlag} : f.bit = f'.bit ↔ f = f' := by
  cases f <;> cases f' <;> decide

@[simp] lemma flag_setFlag (f f' : LeaderFlag) :
    (l.setFlag f).flag f' = (l.flag f' || decide (f = f')) := by
  rw [flag_eq, flag_eq, setFlag, mask, BitVec.getLsbD_or, BitVec.getLsbD_twoPow]
  simp [bit_lt, bit_inj]

@[simp] lemma flag_clearFlag (f f' : LeaderFlag) :
    (l.clearFlag f).flag f' = (l.flag f' && !decide (f = f')) := by
  rw [flag_eq, flag_eq, clearFlag, mask, BitVec.getLsbD_and, BitVec.getLsbD_not,
    BitVec.getLsbD_twoPow]
  simp [bit_lt, bit_inj]

@[simp] lemma flag_putFlag2 (f : LeaderFlag2) (on : Bool) (f' : LeaderFlag) :
    (l.putFlag2 f on).flag f' = l.flag f' := rfl

lemma isActive_eq : l.isActive = (l.flag .valid && l.flag .active) := by
  rw [flag_eq, flag_eq, isActive, BitVec.and_or_distrib_left, mask, mask,
    BitVec.and_twoPow, BitVec.and_twoPow]
  cases l.leaderFlags.getLsbD valid.bit <;>
    cases l.leaderFlags.getLsbD active.bit <;> decide

lemma isAlive_eq : l.isAlive = (l.isActive && !l.flag .defeated) := by
  rw [isActive_eq, flag_eq, flag_eq, flag_eq, isAlive, BitVec.and_or_distrib_left,
    BitVec.and_or_distrib_left, mask, mask, mask,
    BitVec.and_twoPow, BitVec.and_twoPow, BitVec.and_twoPow]
  cases l.leaderFlags.getLsbD valid.bit <;>
    cases l.leaderFlags.getLsbD active.bit <;>
    cases l.leaderFlags.getLsbD defeated.bit <;> decide

structure SameTerms (l l' : LeaderState ρ) : Prop where
  diplos : l'.diplos = l.diplos
  economic : l'.economic = l.economic
  valid : l'.flag .valid = l.flag .valid

/-- Nothing that decides outcomes differs, except scores. -/
structure Alike (l l' : LeaderState ρ) : Prop extends SameTerms l l' where
  active : l'.flag .active = l.flag .active
  won : l'.flag .won = l.flag .won
  defeated : l'.flag .defeated = l.flag .defeated

lemma Alike.refl : Alike l l := ⟨⟨rfl, rfl, rfl⟩, rfl, rfl, rfl⟩

lemma Alike.trans {l₁ l₂ l₃ : LeaderState ρ} (h₁ : Alike l₁ l₂) (h₂ : Alike l₂ l₃) :
    Alike l₁ l₃ :=
  ⟨⟨h₂.diplos.trans h₁.diplos, h₂.economic.trans h₁.economic, h₂.valid.trans h₁.valid⟩,
    h₂.active.trans h₁.active, h₂.won.trans h₁.won, h₂.defeated.trans h₁.defeated⟩

end LeaderState

/-! ## Outcomes -/

def victoriesOf (es : List MatchEvent) (i : Seat) : Nat :=
  es.countP fun
    | .victory j _ => j = i
    | _ => false

def defeatsOf (es : List MatchEvent) (i : Seat) : Nat :=
  es.countP fun
    | .defeat j _ => j = i
    | _ => false

lemma victoriesOf_append (es fs : List MatchEvent) (i : Seat) :
    victoriesOf (es ++ fs) i = victoriesOf es i + victoriesOf fs i :=
  List.countP_append

lemma defeatsOf_append (es fs : List MatchEvent) (i : Seat) :
    defeatsOf (es ++ fs) i = defeatsOf es i + defeatsOf fs i :=
  List.countP_append

namespace Game

variable (g : Game ρ) (i : Seat)

def won : Prop := (g.leader i).flag .won = true

def defeated : Prop := (g.leader i).flag .defeated = true

def active : Prop := (g.leader i).isActive = true

/-- The slot has an outcome: no further victory can change it. -/
def flagged : Prop := g.won i ∨ g.defeated i

def ended : Prop := g.match.sem .gameOver = true

def allied (i j : Seat) : Prop := g.isAlly i j = true

instance (g : Game ρ) (i : Seat) : Decidable (g.won i) := inferInstanceAs (Decidable (_ = true))

instance (g : Game ρ) (i : Seat) : Decidable (g.defeated i) := inferInstanceAs (Decidable (_ = true))

instance (g : Game ρ) (i : Seat) : Decidable (g.active i) := inferInstanceAs (Decidable (_ = true))

instance (g : Game ρ) (i : Seat) : Decidable (g.flagged i) := inferInstanceAs (Decidable (_ ∨ _))

instance (g : Game ρ) : Decidable g.ended := inferInstanceAs (Decidable (_ = true))

instance (g : Game ρ) (i j : Seat) : Decidable (g.allied i j) := inferInstanceAs (Decidable (_ = true))

def victories : Nat := victoriesOf g.events i

def defeats : Nat := defeatsOf g.events i

lemma allied_symm {g : Game ρ} {i j : Seat} (h : g.allied i j) : g.allied j i := by
  unfold allied isAlly at *
  simp only [effectiveDiplo, decide_eq_true_eq] at *
  grind

lemma allied_refl : g.allied i i := by
  simp [allied, isAlly, effectiveDiplo]

/-- How many outcomes are still open, counting the match itself. -/
def slack : Nat :=
  (Finset.univ.filter fun i => ¬ g.won i).card + (Finset.univ.filter fun i => ¬ g.defeated i).card
    + if g.ended then 0 else 1

end Game

/-- The part of a match that the sweep never changes. -/
def Match.rules (m : Match) : Match := { m with musicalChairs := 0, semaphore := 0 }

lemma Match.armageddonReached_rules (m : Match) : m.rules.armageddonReached = m.armageddonReached :=
  rfl

lemma Match.sem_setSem (m : Match) (b b' : GameSem) :
    (m.setSem b).sem b' = (m.sem b' || decide (b = b')) := by
  have hb : ∀ c : GameSem, c.bit < 32 := by intro c; cases c <;> decide
  have hinj : b.bit = b'.bit ↔ b = b' := by cases b <;> cases b' <;> decide
  have hne : BitVec.twoPow 32 b'.bit ≠ 0#32 := by cases b' <;> decide
  have hsem : ∀ m : Match, m.sem b' = m.semaphore.getLsbD b'.bit := by
    intro m
    rw [sem, BitVec.and_twoPow]
    cases h : m.semaphore.getLsbD b'.bit <;> simp [hne]
  rw [hsem, hsem, setSem, BitVec.getLsbD_or, BitVec.getLsbD_twoPow]
  simp [hb, hinj]

open Game

/-! ## Evolution -/

/-- What every part of the sweep does: flags are only set, a leader leaves the game only by defeat, and
each flag that is set is an event. -/
structure Evolves (g g' : Game ρ) : Prop where
  terms : ∀ i, LeaderState.SameTerms (g.leader i) (g'.leader i)
  won : ∀ i, g.won i → g'.won i
  defeated : ∀ i, g.defeated i → g'.defeated i
  active : ∀ i, g'.active i → g.active i
  fallen : ∀ i, g.active i → g'.active i ∨ (¬ g.defeated i ∧ g'.defeated i)
  ended : g.ended → g'.ended
  rules : g'.match.rules = g.match.rules
  scoring : g'.match.sem .teamScoring = g.match.sem .teamScoring
  events : g.events <+: g'.events
  victories : ∀ i, g'.victories i + ((g.leader i).flag .won).toNat
    = g.victories i + ((g'.leader i).flag .won).toNat
  defeats : ∀ i, g'.defeats i + ((g.leader i).flag .defeated).toNat
    = g.defeats i + ((g'.leader i).flag .defeated).toNat

namespace Evolves

lemma refl (g : Game ρ) : Evolves g g where
  terms _ := (Alike.refl _).toSameTerms
  won _ h := h
  defeated _ h := h
  active _ h := h
  fallen _ h := Or.inl h
  ended h := h
  rules := rfl
  scoring := rfl
  events := List.prefix_refl _
  victories _ := rfl
  defeats _ := rfl

lemma trans {g₁ g₂ g₃ : Game ρ} (h₁ : Evolves g₁ g₂) (h₂ : Evolves g₂ g₃) : Evolves g₁ g₃ where
  terms i :=
    { diplos := (h₂.terms i).diplos.trans (h₁.terms i).diplos
      economic := (h₂.terms i).economic.trans (h₁.terms i).economic
      valid := (h₂.terms i).valid.trans (h₁.terms i).valid }
  won i h := h₂.won i (h₁.won i h)
  defeated i h := h₂.defeated i (h₁.defeated i h)
  active i h := h₁.active i (h₂.active i h)
  fallen i h := by
    rcases h₁.fallen i h with ha | ⟨hn, hd⟩
    · exact (h₂.fallen i ha).imp id fun hd => ⟨fun hd' => hd.1 (h₁.defeated i hd'), hd.2⟩
    · exact Or.inr ⟨hn, h₂.defeated i hd⟩
  ended h := h₂.ended (h₁.ended h)
  rules := h₂.rules.trans h₁.rules
  scoring := h₂.scoring.trans h₁.scoring
  events := h₁.events.trans h₂.events
  victories i := by
    have hv₁ := h₁.victories i
    have hv₂ := h₂.victories i
    omega
  defeats i := by
    have hd₁ := h₁.defeats i
    have hd₂ := h₂.defeats i
    omega

variable {g g' : Game ρ}

lemma allied_iff (h : Evolves g g') (i j : Seat) : g'.allied i j ↔ g.allied i j := by
  simp only [allied, isAlly, (h.terms i).diplos, (h.terms j).diplos]

lemma armageddonReached (h : Evolves g g') :
    g'.match.armageddonReached = g.match.armageddonReached := by
  rw [← Match.armageddonReached_rules, h.rules, Match.armageddonReached_rules]

lemma slack_le (h : Evolves g g') : g'.slack ≤ g.slack := by
  refine Nat.add_le_add (Nat.add_le_add ?_ ?_) ?_
  · exact Finset.card_le_card (Finset.monotone_filter_right _ fun i _ hi hw => hi (h.won i hw))
  · exact Finset.card_le_card (Finset.monotone_filter_right _ fun i _ hi hd => hi (h.defeated i hd))
  · by_cases ho : g.ended
    · simp [ho, h.ended ho]
    · split <;> simp

lemma slack_lt (h : Evolves g g')
    (hnew : (∃ i, ¬ g.won i ∧ g'.won i) ∨ (∃ i, ¬ g.defeated i ∧ g'.defeated i) ∨ (¬ g.ended ∧ g'.ended)) :
    g'.slack < g.slack := by
  have hw : (Finset.univ.filter fun i => ¬ g'.won i) ⊆ Finset.univ.filter fun i => ¬ g.won i :=
    Finset.monotone_filter_right _ fun i _ hi hw => hi (h.won i hw)
  have hd : (Finset.univ.filter fun i => ¬ g'.defeated i) ⊆ Finset.univ.filter fun i => ¬ g.defeated i :=
    Finset.monotone_filter_right _ fun i _ hi hd => hi (h.defeated i hd)
  have hwc := Finset.card_le_card hw
  have hdc := Finset.card_le_card hd
  have ho : (if g'.ended then 0 else 1) ≤ if g.ended then 0 else 1 := by
    by_cases ho : g.ended
    · simp [ho, h.ended ho]
    · split <;> simp
  unfold slack
  rcases hnew with ⟨i, hi, hi'⟩ | ⟨i, hi, hi'⟩ | ⟨hi, hi'⟩
  · have hlt := Finset.card_lt_card (Finset.ssubset_iff_subset_ne.2 ⟨hw, fun heq => by
      have hmem : i ∈ Finset.univ.filter fun i => ¬ g.won i := by simp [hi]
      rw [← heq] at hmem
      simp [hi'] at hmem⟩)
    omega
  · have hlt := Finset.card_lt_card (Finset.ssubset_iff_subset_ne.2 ⟨hd, fun heq => by
      have hmem : i ∈ Finset.univ.filter fun i => ¬ g.defeated i := by simp [hi]
      rw [← heq] at hmem
      simp [hi'] at hmem⟩)
    omega
  · simp only [hi, hi', if_true, if_false]
    omega

end Evolves

/-- A step that decides nothing: no outcome and no score differs. -/
structure Quiet (g g' : Game ρ) : Prop where
  alike : ∀ i, LeaderState.Alike (g.leader i) (g'.leader i)
  ended : g'.match.sem .gameOver = g.match.sem .gameOver
  rules : g'.match.rules = g.match.rules
  scoring : g'.match.sem .teamScoring = g.match.sem .teamScoring
  events : g'.events = g.events

namespace Quiet

variable {g g' : Game ρ}

lemma won_iff (h : Quiet g g') (i : Seat) : g'.won i ↔ g.won i := by
  simp [Game.won, (h.alike i).won]

lemma defeated_iff (h : Quiet g g') (i : Seat) : g'.defeated i ↔ g.defeated i := by
  simp [Game.defeated, (h.alike i).defeated]

lemma active_iff (h : Quiet g g') (i : Seat) : g'.active i ↔ g.active i := by
  simp [Game.active, LeaderState.isActive_eq, (h.alike i).active, (h.alike i).valid]

lemma evolves (h : Quiet g g') : Evolves g g' where
  terms i := (h.alike i).toSameTerms
  won i := (h.won_iff i).2
  defeated i := (h.defeated_iff i).2
  active i := (h.active_iff i).1
  fallen i hi := Or.inl ((h.active_iff i).2 hi)
  ended ho := by rwa [Game.ended, h.ended]
  rules := h.rules
  scoring := h.scoring
  events := by rw [h.events]
  victories i := by rw [victories, h.events, (h.alike i).won]; rfl
  defeats i := by rw [defeats, h.events, (h.alike i).defeated]; rfl

lemma modifyLeader (g : Game ρ) (who : Seat) {f : LeaderState ρ → LeaderState ρ}
    (h : Alike (g.leader who) (f (g.leader who))) : Quiet g (g.modifyLeader who f) where
  alike i := by
    by_cases hi : i = who
    · subst hi
      simpa [Game.modifyLeader] using h
    · simpa [Game.modifyLeader, Function.update_of_ne hi] using LeaderState.Alike.refl _
  ended := rfl
  rules := rfl
  scoring := rfl
  events := rfl

end Quiet

end Don.Sim
