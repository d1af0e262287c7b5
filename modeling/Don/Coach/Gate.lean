import Mathlib

/-!
# Gate — which samples the coach analyses

`AdviceEngine::gate` and the position that `analyze` remembers, of `crates/rontoy-core/src/engine.rs`.
A paused sample is refused before its order is looked at, and its position is remembered all the same.
-/

namespace Don.Coach

inductive HumanIdentity where
  | confirmed
  | ambiguous
  | nonHuman
  deriving DecidableEq

inductive GameMode where
  | singlePlayer
  | multiplayer
  | unknown
  deriving DecidableEq

inductive SuppressionReason where
  | unsupportedSchema
  | partialSnapshot
  | incoherentSnapshot
  | ambiguousIdentity
  | nonHuman
  | unknownGameMode
  | multiplayer
  | paused
  | staleSnapshot
  | invalidValues
  | timeWentBackwards
  | sampleWentBackwards
  deriving DecidableEq

structure SnapshotMeta where
  schemaVersion : Nat
  matchId : Nat
  sampleSequence : Nat
  gameTick : Nat
  capturedAtMs : Nat
  analyzedAtMs : Nat
  paused : Bool
  coherent : Bool
  complete : Bool
  identity : HumanIdentity
  gameMode : GameMode

structure Observed (α : Type) where
  value : α
  ageMs : Nat

abbrev ResourceVector := Fin 6 → Int

structure EconomyTelemetry where
  stock : ResourceVector
  plannedUnpaidCost : ResourceVector
  commerceCap : ResourceVector
  commerceStatus : Fin 6 → Nat

structure PopulationTelemetry where
  paidQueuePopulation : Nat
  blockedPaidPopulation : Nat

structure LaborTelemetry where
  citizens : Nat
  idleCitizens : Nat
  rebalance : Option (Fin 6 × Fin 6)

/-- The sites are their `stable_id`s, an opportunity is its `stable_id` and its cost. -/
structure TelemetrySnapshot extends SnapshotMeta where
  economy : Option (Observed EconomyTelemetry)
  population : Option (Observed PopulationTelemetry)
  labor : Option (Observed LaborTelemetry)
  production : Option (Observed (List Nat))
  progression : Option (Observed (List (Nat × ResourceVector)))
  pressure : Option (Observed Nat)

structure CoachConfig where
  maxSnapshotAgeMs : Nat
  maxFieldAgeMs : Nat
  enablePressureAdvice : Bool

/-- `valid_values` -/
def validValues (s : TelemetrySnapshot) (c : CoachConfig) : Bool :=
  (s.economy.any fun e => ∀ r, 0 ≤ e.value.stock r ∧ 0 ≤ e.value.plannedUnpaidCost r ∧
    0 ≤ e.value.commerceCap r ∧ e.value.commerceStatus r ≤ 2) &&
  (s.population.any fun p => p.value.blockedPaidPopulation ≤ p.value.paidQueuePopulation) &&
  (s.labor.any fun l => l.value.idleCitizens ≤ l.value.citizens) &&
  (s.progression.all fun p => (p.value.map Prod.fst).Nodup ∧ ∀ o ∈ p.value, ∀ r, 0 ≤ o.2 r) &&
  (s.production.all fun p => p.value.Nodup) &&
  (s.labor.all fun l => l.value.rebalance.all fun (source, target) => source ≠ target) &&
  (!c.enablePressureAdvice || s.pressure.all fun p => p.value ≤ 1000)

/-- The fields that the gate reads. -/
structure AdviceEngine where
  config : CoachConfig
  matchId : Option Nat
  lastSequence : Option Nat
  lastGameTick : Option Nat
  lastAnalyzedMs : Option Nat

namespace AdviceEngine

variable (e : AdviceEngine) (s : TelemetrySnapshot)

def stale : Bool :=
  let delay := s.analyzedAtMs - s.capturedAtMs
  let old (age : Option Nat) : Bool :=
    age.all fun age => e.config.maxFieldAgeMs < min (age + delay) (2 ^ 64 - 1)
  old (s.economy.map (·.ageMs)) || old (s.population.map (·.ageMs)) || old (s.labor.map (·.ageMs))

def gate : Option SuppressionReason :=
  if s.schemaVersion ≠ 1 then some .unsupportedSchema
  else if !s.complete then some .partialSnapshot
  else if s.economy.isNone || s.population.isNone || s.labor.isNone then some .partialSnapshot
  else if !s.coherent then some .incoherentSnapshot
  else if s.identity = .ambiguous then some .ambiguousIdentity
  else if s.identity = .nonHuman then some .nonHuman
  else if s.gameMode = .multiplayer then some .multiplayer
  else if s.gameMode = .unknown then some .unknownGameMode
  else if s.paused then some .paused
  else if s.analyzedAtMs < s.capturedAtMs ∨
      e.config.maxSnapshotAgeMs < s.analyzedAtMs - s.capturedAtMs then some .staleSnapshot
  else if e.lastAnalyzedMs.any (s.analyzedAtMs < ·) then some .timeWentBackwards
  else if e.lastSequence.any (s.sampleSequence ≤ ·) || e.lastGameTick.any (s.gameTick ≤ ·) then
    some .sampleWentBackwards
  else if e.stale s then some .staleSnapshot
  else if !validValues s e.config then some .invalidValues
  else none

def recordValidPosition : AdviceEngine :=
  { e with
    lastSequence := some s.sampleSequence
    lastGameTick := some s.gameTick
    lastAnalyzedMs := some s.analyzedAtMs }

/-- A change of match forgets the position. -/
def enter : AdviceEngine :=
  if e.matchId.any (· ≠ s.matchId) then ⟨e.config, some s.matchId, none, none, none⟩
  else { e with matchId := some s.matchId }

/-- `analyze`, as far as the position goes, and why the sample was suppressed. -/
def analyze : AdviceEngine × Option SuppressionReason :=
  let e := e.enter s
  match e.gate s with
  | none => (e.recordValidPosition s, none)
  | some .paused => (e.recordValidPosition s, some .paused)
  | some reason => (e, some reason)

/-- The samples that were not suppressed. -/
def accepted (e : AdviceEngine) : List TelemetrySnapshot → List TelemetrySnapshot
  | [] => []
  | s :: rest =>
    if (e.analyze s).2 = none then s :: accepted (e.analyze s).1 rest else accepted (e.analyze s).1 rest

/-- The sample is not behind the remembered position. -/
def InOrder : Prop :=
  (∀ n ∈ e.lastSequence, n ≤ s.sampleSequence) ∧ (∀ n ∈ e.lastGameTick, n ≤ s.gameTick) ∧
    ∀ n ∈ e.lastAnalyzedMs, n ≤ s.analyzedAtMs

/-- No paused sample of the run is behind the position at that time. -/
def PausesInOrder (e : AdviceEngine) : List TelemetrySnapshot → Prop
  | [] => True
  | s :: rest => ((e.enter s).gate s = some .paused → (e.enter s).InOrder s) ∧
      PausesInOrder (e.analyze s).1 rest

/-- The position is that of `s` or a later one. -/
def Reached : Prop :=
  (∃ n ∈ e.lastSequence, s.sampleSequence ≤ n) ∧ (∃ n ∈ e.lastGameTick, s.gameTick ≤ n) ∧
    ∃ n ∈ e.lastAnalyzedMs, s.analyzedAtMs ≤ n

end AdviceEngine

/-- `t` was sampled after `s`. -/
def After (s t : TelemetrySnapshot) : Prop :=
  s.sampleSequence < t.sampleSequence ∧ s.gameTick < t.gameTick ∧ s.analyzedAtMs ≤ t.analyzedAtMs

namespace AdviceEngine

variable {e : AdviceEngine} {s t : TelemetrySnapshot} {snapshots : List TelemetrySnapshot} {m : Nat}

lemma gate_none (h : e.gate s = none) : (∀ n ∈ e.lastSequence, n < s.sampleSequence) ∧
    (∀ n ∈ e.lastGameTick, n < s.gameTick) ∧ ∀ n ∈ e.lastAnalyzedMs, n ≤ s.analyzedAtMs := by
  have hif : ∀ (c : Prop) [Decidable c] (reason : SuppressionReason) (x : Option SuppressionReason),
      (if c then some reason else x) = none ↔ ¬ c ∧ x = none := by
    intro c _ reason x
    by_cases hc : c <;> simp [hc]
  simp only [gate, hif] at h
  obtain ⟨-, -, -, -, -, -, -, -, -, -, htime, hsample, -⟩ := h
  simp only [Bool.or_eq_true, not_or, Option.any_eq_true, not_exists, not_and, decide_eq_true_eq,
    Nat.not_le, Nat.not_lt] at htime hsample
  exact ⟨hsample.1, hsample.2, htime⟩

lemma matchId_enter : (e.enter s).matchId = some s.matchId := by
  unfold enter
  split <;> rfl

lemma enter_of_match (h : e.matchId = some s.matchId) : e.enter s = e := by
  obtain ⟨config, matchId, seq, tick, ms⟩ := e
  cases h
  simp [enter]

lemma analyze_cases (e : AdviceEngine) (s : TelemetrySnapshot) :
    ((e.enter s).gate s = none ∧ e.analyze s = ((e.enter s).recordValidPosition s, none)) ∨
    ((e.enter s).gate s = some .paused ∧ e.analyze s = ((e.enter s).recordValidPosition s, some .paused)) ∨
    ∃ reason, e.analyze s = (e.enter s, some reason) := by
  unfold analyze
  dsimp only
  split
  · exact .inl ⟨‹_›, rfl⟩
  · exact .inr (.inl ⟨‹_›, rfl⟩)
  · exact .inr (.inr ⟨_, rfl⟩)

lemma reached_record : (e.recordValidPosition s).Reached s :=
  ⟨⟨_, rfl, Nat.le_refl _⟩, ⟨_, rfl, Nat.le_refl _⟩, ⟨_, rfl, Nat.le_refl _⟩⟩

/-- A sample of the match keeps what was reached, and comes after it when it is accepted. -/
lemma Reached.analyze (h : e.Reached s) (hm : e.matchId = some t.matchId)
    (hpause : (e.enter t).gate t = some .paused → (e.enter t).InOrder t) :
    (e.analyze t).1.Reached s ∧ (e.analyze t).1.matchId = some t.matchId ∧
      ((e.analyze t).2 = none → After s t) := by
  obtain ⟨⟨n, hn, hseq⟩, ⟨k, hk, htick⟩, ⟨x, hx, hms⟩⟩ := h
  have hcases := analyze_cases e t
  rw [enter_of_match hm] at hcases hpause
  rcases hcases with ⟨hgate, heq⟩ | ⟨hgate, heq⟩ | ⟨reason, heq⟩ <;> rw [heq]
  · obtain ⟨h₁, h₂, h₃⟩ := gate_none hgate
    have hafter : After s t :=
      ⟨Nat.lt_of_le_of_lt hseq (h₁ n hn), Nat.lt_of_le_of_lt htick (h₂ k hk), Nat.le_trans hms (h₃ x hx)⟩
    exact ⟨⟨⟨_, rfl, Nat.le_of_lt hafter.1⟩, ⟨_, rfl, Nat.le_of_lt hafter.2.1⟩, _, rfl, hafter.2.2⟩, hm,
      fun _ => hafter⟩
  · obtain ⟨h₁, h₂, h₃⟩ := hpause hgate
    exact ⟨⟨⟨_, rfl, Nat.le_trans hseq (h₁ n hn)⟩, ⟨_, rfl, Nat.le_trans htick (h₂ k hk)⟩, _, rfl,
      Nat.le_trans hms (h₃ x hx)⟩, hm, by simp⟩
  · exact ⟨⟨⟨n, hn, hseq⟩, ⟨k, hk, htick⟩, x, hx, hms⟩, hm, by simp⟩

lemma Reached.after (h : e.Reached s) (hm : e.matchId = some m)
    (hmatch : ∀ t ∈ snapshots, t.matchId = m) (hpauses : e.PausesInOrder snapshots) :
    ∀ t ∈ e.accepted snapshots, After s t := by
  induction snapshots generalizing e with
  | nil => simp [accepted]
  | cons x rest ih =>
    have hx : x.matchId = m := hmatch x List.mem_cons_self
    obtain ⟨hreached, hm', hafter⟩ := h.analyze (hx ▸ hm) hpauses.1
    have hrest := ih hreached (hx ▸ hm') (fun t ht => hmatch t (List.mem_cons_of_mem x ht)) hpauses.2
    intro t ht
    rw [accepted] at ht
    split at ht
    · rcases List.mem_cons.1 ht with rfl | ht
      · exact hafter ‹_›
      · exact hrest t ht
    · exact hrest t ht

/-- Samples of one match are analysed in order, as long as no paused one sets the position back. -/
theorem accepted_in_order (e : AdviceEngine) (hmatch : ∀ t ∈ snapshots, t.matchId = m)
    (hpauses : e.PausesInOrder snapshots) : (e.accepted snapshots).Pairwise After := by
  induction snapshots generalizing e with
  | nil => exact .nil
  | cons x rest ih =>
    have hrest := fun t ht => hmatch t (List.mem_cons_of_mem x ht)
    rw [accepted]
    split
    next hnone =>
      have hfirst : (e.analyze x).1 = (e.enter x).recordValidPosition x := by
        rcases analyze_cases e x with ⟨-, heq⟩ | ⟨-, heq⟩ | ⟨_, heq⟩
        · rw [heq]
        · rw [heq]
        · rw [heq] at hnone
          cases hnone
      have hm : (e.analyze x).1.matchId = some m := by
        rw [hfirst, ← hmatch x List.mem_cons_self]
        exact matchId_enter
      have hafter := Reached.after (hfirst ▸ reached_record) hm hrest hpauses.2
      exact List.pairwise_cons.2 ⟨hafter, ih _ hrest hpauses.2⟩
    · exact ih _ hrest hpauses.2

/-- An acceptable sample, but for `paused`. -/
def sample (sequence : Nat) (paused : Bool) : TelemetrySnapshot where
  schemaVersion := 1
  matchId := 0
  sampleSequence := sequence
  gameTick := sequence
  capturedAtMs := 0
  analyzedAtMs := 0
  paused := paused
  coherent := true
  complete := true
  identity := .confirmed
  gameMode := .singlePlayer
  economy := some ⟨⟨fun _ => 0, fun _ => 0, fun _ => 0, fun _ => 0⟩, 0⟩
  population := some ⟨⟨0, 0⟩, 0⟩
  labor := some ⟨⟨0, 0, none⟩, 0⟩
  production := none
  progression := none
  pressure := none

def fresh : AdviceEngine := ⟨⟨2000, 8000, false⟩, none, none, none, none⟩

theorem accepted_in_order_paused :
    (fresh.accepted [sample 1 false, sample 2 true, sample 3 false]).Pairwise After :=
  accepted_in_order (m := 0) fresh (by simp [sample]) ⟨fun h => absurd h (by decide), fun _ =>
    ⟨by rintro _ ⟨⟩; decide, by rintro _ ⟨⟩; decide, by rintro _ ⟨⟩; decide⟩,
    fun h => absurd h (by decide), trivial⟩

/-- A paused sample that is behind lets the last one be analysed again. -/
theorem accepted_twice : (fresh.accepted [sample 2 false, sample 1 true, sample 2 false]).map
    (·.sampleSequence) = [2, 2] := by
  decide

end AdviceEngine

end Don.Coach
