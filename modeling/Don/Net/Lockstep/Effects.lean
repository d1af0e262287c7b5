import Don.Foundation.Machine
import Don.Foundation.OrderedMap
import Don.Net.Lockstep.Basic

/-!
# Lockstep.Effects — what a call can do to a runner

Every call on a `LockstepRunner` is a short sequence of four primitive effects: latch the timeout of
the current turn, file a package, commit the turn, enter a new epoch.  `step_effects` says so once;
every invariant of the runner is then proved by one case per effect.

The second half of the module is the roster invariant: what `normalize_participants` guarantees, and
how the *number* of pending packages determines *which* packages are pending.
-/

namespace Don.Net

open Foundation List LockstepRunner
open Std (ExtTreeMap)

/-! ## Rosters -/

/-- What a normalised participant list is: slots of `0..8`, each once, in increasing order. -/
structure Roster (participants : List Int8) : Prop where
  nonempty : participants ≠ []
  increasing : participants.Pairwise (· < ·)
  inRange : ∀ play ∈ participants, 0 ≤ play ∧ play < 8

lemma slot_inRange {play : Int8} (h : ¬ (play < 0 ∨ maxPlayers ≤ play.toNatClampNeg)) :
    0 ≤ play ∧ play < 8 := by
  have hneg : ¬ play.toInt < 0 := fun hlt => h (Or.inl (Int8.lt_iff_toInt_lt.2 hlt))
  have hbig : ¬ 8 ≤ play.toInt.toNat := fun hle => h (Or.inr hle)
  constructor
  · exact Int8.le_iff_toInt_le.2 (by simpa using not_lt.1 hneg)
  · refine Int8.lt_iff_toInt_lt.2 ?_
    have height : (8 : Int8).toInt = 8 := rfl
    omega

/-- The validation loop on a sorted list rejects equal neighbours, so what it accepts is strictly
increasing; `previous` is a lower bound carried along. -/
lemma checkParticipants_ok : ∀ (participants : List Int8) (previous : Option Int8),
      checkParticipants previous participants = .ok () →
        participants.Pairwise (· ≤ ·) → (∀ q ∈ previous, ∀ p ∈ participants, q ≤ p) →
          participants.Pairwise (· < ·) ∧ (∀ q ∈ previous, ∀ p ∈ participants, q < p) ∧
            ∀ p ∈ participants, 0 ≤ p ∧ p < 8
  | [], _, _, _, _ => by simp
  | play :: rest, previous, hcheck, hsorted, hprevious => by
    simp only [checkParticipants] at hcheck
    split at hcheck
    · cases hcheck
    rename_i hslot
    split at hcheck
    · cases hcheck
    rename_i hne
    rcases pairwise_cons.1 hsorted with ⟨hle, hrestSorted⟩
    have hplay : ∀ q ∈ some play, ∀ p ∈ rest, q ≤ p := by
      intro q hq p hp
      cases hq
      exact hle p hp
    rcases checkParticipants_ok rest (some play) hcheck hrestSorted hplay with
      ⟨hinc, hlt, hrange⟩
    have hprevLt : ∀ q ∈ previous, q < play := by
      intro q hq
      refine Int8.lt_iff_le_and_ne.2 ⟨hprevious q hq play (by simp), ?_⟩
      rintro rfl
      exact hne hq
    refine ⟨pairwise_cons.2 ⟨hlt play rfl, hinc⟩, ?_, ?_⟩
    · intro q hq p hp
      rcases mem_cons.1 hp with rfl | hp
      · exact hprevLt q hq
      · exact Int8.lt_trans (hprevLt q hq) (hlt play rfl p hp)
    · intro p hp
      rcases mem_cons.1 hp with rfl | hp
      · exact slot_inRange hslot
      · exact hrange p hp

lemma normalizeParticipants_roster {raw participants : List Int8}
    (h : normalizeParticipants raw = .ok participants) : Roster participants := by
  simp only [normalizeParticipants] at h
  split at h
  · cases h
  rename_i hraw
  split at h
  · cases h
  rename_i hcheck
  cases h
  have hsorted : (raw.insertionSort (· ≤ ·)).Pairwise (· ≤ ·) :=
    pairwise_insertionSort _ raw
  rcases checkParticipants_ok _ none hcheck hsorted (by simp) with ⟨hinc, _, hrange⟩
  refine ⟨?_, hinc, hrange⟩
  intro hnil
  have hlen : (raw.insertionSort (· ≤ ·)).length = raw.length := length_insertionSort _ raw
  rw [hnil] at hlen
  exact hraw (length_eq_zero_iff.1 hlen.symm)

namespace LockstepRunner

/-! ## The four effects -/

/-- One primitive change of a runner, with the facts the code has checked when it makes it. -/
inductive Effect (r : LockstepRunner) : LockstepRunner → Prop where
  | latch (nowMs : UInt64) (hnone : r.timedOut = none)
      (hwait : r.pending.size ≠ r.participants.length) :
      Effect r (r.latchTimeout nowMs)
  | accept (package : TurnPackage) (checksums : CheckSums) (hnone : r.timedOut = none)
      (hplay : package.play ∈ r.participants) (hfresh : r.pending[package.play]? = none) :
      Effect r (r.accept package checksums)
  | advance (nextStamp : UInt32) (nowMs : UInt64) (hnone : r.timedOut = none)
      (hfull : r.missing = []) (hnext : checkedSucc r.expectedStamp = some nextStamp) :
      Effect r (r.advance nextStamp nowMs)
  | enterEpoch (raw participants : List Int8) (epoch : UInt32) (cause : EpochCause)
      (nowMs : UInt64) (hroster : normalizeParticipants raw = .ok participants)
      (hnext : checkedSucc r.epoch = some epoch) :
      Effect r (r.enterEpoch epoch participants cause nowMs)

abbrev Effects := Relation.ReflTransGen Effect

variable (r : LockstepRunner)

lemma observeTimeout_effects (nowMs : UInt64) : Effects r (r.observeTimeout nowMs) := by
  unfold observeTimeout
  split
  · exact .refl
  rename_i h
  have hnone : r.timedOut = none := by
    cases hto : r.timedOut with
    | none => rfl
    | some => exact absurd (Or.inl (by simp [hto])) h
  exact .single (.latch nowMs hnone fun hsize => h (Or.inr (Or.inl hsize)))

lemma submitObserved_effects (package : TurnPackage) :
    Effects r (r.submitObserved package).state := by
  unfold submitObserved
  cases hto : r.timedOut with
  | some => exact .refl
  | none =>
    by_cases hstamp : package.stamp ≠ r.expectedStamp
    · simp only [if_pos hstamp]
      exact .refl
    by_cases hplay : package.play ∉ r.participants
    · simp only [if_neg hstamp, if_pos hplay]
      exact .refl
    simp only [if_neg hstamp, if_neg hplay]
    cases hpend : r.pending[package.play]? with
    | some existing =>
      by_cases hsame : existing.package = package
      · simp only [if_pos hsame]
        exact .refl
      · simp only [if_neg hsame]
        exact .refl
    | none =>
      cases hdec : decodeRetailChecksumPackage package r.gameKey with
      | error => exact .refl
      | ok decoded =>
        exact .single (.accept package decoded.checksums hto (not_not.1 hplay) hpend)

lemma status_effects (nowMs : UInt64) : Effects r (r.status nowMs).1 := by
  unfold status
  split
  · exact .refl
  · cases hto : (r.observeTimeout nowMs).timedOut with
    | some | none =>
      simp only [hto]
      exact observeTimeout_effects r nowMs

lemma commitObserved_effects (nowMs : UInt64) : Effects r (r.commitObserved nowMs).state := by
  unfold commitObserved
  cases hto : r.timedOut with
  | some => exact .refl
  | none =>
    by_cases hmiss : r.missing ≠ []
    · simp only [if_pos hmiss]
      exact .refl
    · simp only [if_neg hmiss]
      cases hnext : checkedSucc r.expectedStamp with
      | none => exact .refl
      | some nextStamp => exact .single (.advance nextStamp nowMs hto (not_not.1 hmiss) hnext)

lemma beginEpoch_effects (raw : List Int8) (cause : EpochCause)
    (nowMs : UInt64) : Effects r (r.beginEpoch raw cause nowMs).state := by
  unfold beginEpoch
  cases hroster : normalizeParticipants raw with
  | error => exact .refl
  | ok participants =>
    cases hnext : checkedSucc r.epoch with
    | none => exact .refl
    | some epoch => exact .single (.enterEpoch raw participants epoch cause nowMs hroster hnext)

/-- Every call is a sequence of primitive effects, also when it returns an error. -/
lemma step_effects (call : Call) : Effects r (r.step call) := by
  cases call with
  | submit package nowMs =>
    exact (observeTimeout_effects r nowMs).trans (submitObserved_effects _ package)
  | status nowMs => exact status_effects r nowMs
  | commitReady nowMs =>
    exact (observeTimeout_effects r nowMs).trans (commitObserved_effects _ nowMs)
  | beginEpoch raw cause nowMs => exact beginEpoch_effects r raw cause nowMs

variable {r : LockstepRunner}

lemma effects_preserve {P : LockstepRunner → Prop} {r' : LockstepRunner}
    (heffect : ∀ s s', P s → Effect s s' → P s') (h : Effects r r') (hr : P r) : P r' := by
  induction h with
  | refl => exact hr
  | tail _ hlast ih => exact heffect _ _ ih hlast

/-- The induction rule for runners: a property kept by every effect is kept by every run. -/
lemma run_of_effect {P : LockstepRunner → Prop}
    (heffect : ∀ s s', P s → Effect s s' → P s') (calls : List Call)
    (h : P r) : P (run step r calls) := by
  refine run_invariant (I := P) ?_ calls r h
  intro s call hs
  exact effects_preserve heffect (step_effects s call) hs

/-! ## The roster invariant -/

/-- The participants are a roster and every pending package is filed under a participant's slot. -/
structure Seated (r : LockstepRunner) : Prop where
  roster : Roster r.participants
  seated : ∀ play ∈ r.pending, play ∈ r.participants
  filed : ∀ (play : Int8) (pending : PendingPackage),
    r.pending[play]? = some pending → pending.package.play = play

lemma Seated.effect {r' : LockstepRunner} (h : Seated r) (he : Effect r r') : Seated r' := by
  cases he with
  | latch => exact ⟨h.roster, h.seated, h.filed⟩
  | accept package checksums hnone hplay =>
    refine ⟨h.roster, ?_, ?_⟩
    · intro play hmem
      rcases ExtTreeMap.mem_insert.1 hmem with heq | hmem
      · have hslot : package.play = play := Std.LawfulEqOrd.eq_of_compare heq
        exact hslot ▸ hplay
      · exact h.seated play hmem
    · intro play pending hget
      have hget' : (r.pending.insert package.play ⟨package, checksums⟩)[play]? = some pending :=
        hget
      rw [ExtTreeMap.getElem?_insert] at hget'
      split at hget'
      · rename_i heq
        cases hget'
        exact Std.LawfulEqOrd.eq_of_compare heq
      · exact h.filed play pending hget'
  | advance =>
    refine ⟨h.roster, ?_, ?_⟩
    · intro play hmem
      exact absurd hmem ExtTreeMap.not_mem_empty
    · intro play pending hget
      simp [advance] at hget
  | enterEpoch raw participants epoch cause nowMs hroster =>
    refine ⟨normalizeParticipants_roster hroster, ?_, ?_⟩
    · intro play hmem
      -- `retain` keeps exactly the slots of the new roster
      have hkey := ExtTreeMap.mem_keys.2 hmem
      simp only [enterEpoch, ExtTreeMap.keys_filter_key] at hkey
      exact of_decide_eq_true (mem_filter.1 hkey).2
    · intro play pending hget
      have hold : r.pending[play]? = some pending := by
        simp [enterEpoch] at hget
        exact hget.1
      exact h.filed play pending hold

lemma Seated.new {gameKey firstStamp : UInt32} {raw : List Int8} {nowMs timeoutMs : UInt64}
    (h : new gameKey raw firstStamp nowMs timeoutMs = .ok r) :
    Seated r := by
  unfold LockstepRunner.new at h
  split at h
  · cases h
  split at h
  · cases h
  rename_i hroster
  cases h
  refine ⟨normalizeParticipants_roster hroster, ?_, ?_⟩
  · intro play hmem
    exact absurd hmem ExtTreeMap.not_mem_empty
  · intro play pending hget
    simp at hget

namespace Seated

variable {r : LockstepRunner}

lemma mem_missing_iff {play : Int8} :
    play ∈ r.missing ↔ play ∈ r.participants ∧ play ∉ r.pending := by
  unfold missing
  rw [mem_filter, Bool.not_eq_true', Bool.eq_false_iff, ne_eq, ExtTreeMap.contains_iff_mem]

lemma missing_eq_nil_iff : r.missing = [] ↔ ∀ play ∈ r.participants, play ∈ r.pending := by
  rw [eq_nil_iff_forall_not_mem]
  constructor
  · intro h play hplay
    by_contra hnot
    exact h play (mem_missing_iff.2 ⟨hplay, hnot⟩)
  · intro h play hmiss
    rcases mem_missing_iff.1 hmiss with ⟨hplay, hnot⟩
    exact hnot (h play hplay)

/-- The readiness test by size and the readiness test by missing slots are the same test. -/
lemma size_eq_iff_missing (h : Seated r) :
    r.pending.size = r.participants.length ↔ r.missing = [] := by
  rw [missing_eq_nil_iff]
  exact size_eq_iff_forall_mem h.roster.increasing h.seated

lemma keys_eq_participants (h : Seated r) (hfull : r.missing = []) :
    r.pending.keys = r.participants := by
  have hsize : r.pending.size = r.participants.length := h.size_eq_iff_missing.2 hfull
  exact keys_eq_of_subset h.roster.increasing h.seated hsize.ge

end Seated

end LockstepRunner

end Don.Net
