import Don.Net.Lockstep.Effects

/-!
# Lockstep.Safety — invariants of every run of a runner

Two families of facts about a runner built by `LockstepRunner::new` after any sequence of calls:

* the **chronicle**: committed stamps are consecutive, and each committed turn holds exactly one
  package per participant of the epoch it names;
* the **timeout discipline**: a latched timeout means a participant is missing, `status` and
  `commit_ready` read the same readiness, and timeouts never pile up within a turn.
-/

namespace Don.Net

open Foundation LockstepRunner List
open Std (ExtTreeMap)

/-! ## Reading the evidence -/

def LockstepEvidence.turn? : LockstepEvidence → Option TurnEvidence
  | .turn t => some t
  | _ => none

def LockstepEvidence.IsTimeout : LockstepEvidence → Prop
  | .timeout _ => True
  | _ => False

def committedTurns (evidence : List LockstepEvidence) : List TurnEvidence :=
  evidence.filterMap LockstepEvidence.turn?

def TurnEvidence.plays (t : TurnEvidence) : List Int8 :=
  t.packages.map PackageEvidence.play

@[simp] lemma committedTurns_append_epoch (ev : List LockstepEvidence) (e : UInt32)
    (c : EpochCause) (s : UInt32) (ps : List Int8) :
    committedTurns (ev ++ [.epoch e c s ps]) = committedTurns ev := by
  simp [committedTurns, LockstepEvidence.turn?]

@[simp] lemma committedTurns_append_timeout (ev : List LockstepEvidence)
    (t : TurnTimeoutEvidence) : committedTurns (ev ++ [.timeout t]) = committedTurns ev := by
  simp [committedTurns, LockstepEvidence.turn?]

@[simp] lemma committedTurns_append_turn (ev : List LockstepEvidence) (t : TurnEvidence) :
    committedTurns (ev ++ [.turn t]) = committedTurns ev ++ [t] := by
  simp [committedTurns, LockstepEvidence.turn?]

namespace LockstepRunner

/-! ## Stamps -/

/-- Committed stamps count up from the first one without gap or repeat, and the expected stamp is
the next in line. -/
structure Counted (firstStamp : UInt32) (r : LockstepRunner) : Prop where
  stamps : (committedTurns r.evidence).map (fun t => t.stamp.toNat) =
    List.range' firstStamp.toNat (committedTurns r.evidence).length
  expected : r.expectedStamp.toNat = firstStamp.toNat + (committedTurns r.evidence).length

variable {firstStamp : UInt32} {r r' : LockstepRunner}

lemma Counted.effect (h : Counted firstStamp r) (he : Effect r r') : Counted firstStamp r' := by
  cases he with
  | latch =>
    exact ⟨by simpa [latchTimeout] using h.stamps, by simpa [latchTimeout] using h.expected⟩
  | accept => exact ⟨h.stamps, h.expected⟩
  | enterEpoch =>
    refine ⟨?_, ?_⟩
    · simpa [enterEpoch] using h.stamps
    · simpa [enterEpoch] using h.expected
  | advance nextStamp nowMs hnone hfull hnext =>
    have hsucc : nextStamp.toNat = r.expectedStamp.toNat + 1 := checkedSucc_eq_some hnext
    refine ⟨?_, ?_⟩
    · have hlen : (committedTurns (r.advance nextStamp nowMs).evidence).length
          = (committedTurns r.evidence).length + 1 := by
        simp [advance]
      rw [hlen, List.range'_1_concat, ← h.stamps]
      simp [advance, turnEvidence, h.expected]
    · simp only [advance, committedTurns_append_turn, length_append,
        length_singleton, hsucc, h.expected]
      omega

/-! ## Epochs and the slots of a turn -/

/-- Epoch records are numbered without reuse, the newest one describes the current participants, and
each committed turn lists exactly the slots of the epoch it names. -/
structure Chronicle (r : LockstepRunner) : Prop where
  current : ∃ cause stamp, .epoch r.epoch cause stamp r.participants ∈ r.evidence
  currentOnly : ∀ cause stamp participants,
    .epoch r.epoch cause stamp participants ∈ r.evidence → participants = r.participants
  epochBound : ∀ epoch cause stamp participants,
    .epoch epoch cause stamp participants ∈ r.evidence → epoch.toNat ≤ r.epoch.toNat
  turnBound : ∀ t ∈ committedTurns r.evidence, t.epoch.toNat ≤ r.epoch.toNat
  turnEpoch : ∀ t ∈ committedTurns r.evidence,
    ∃ cause stamp, .epoch t.epoch cause stamp t.plays ∈ r.evidence
  turnEpochOnly : ∀ t ∈ committedTurns r.evidence, ∀ cause stamp participants,
    .epoch t.epoch cause stamp participants ∈ r.evidence → participants = t.plays
  turnIncreasing : ∀ t ∈ committedTurns r.evidence, t.plays.Pairwise (· < ·)

variable {r : LockstepRunner}

lemma turnEvidence_plays (h : Seated r) (hfull : r.missing = []) :
    r.turnEvidence.plays = r.participants := by
  have hplay : ∀ entry ∈ r.pending.toList, entry.2.package.play = entry.1 := by
    intro entry hentry
    exact h.filed _ _ (ExtTreeMap.mem_toList_iff_getElem?_eq_some.1 hentry)
  calc
    r.turnEvidence.plays
        = r.pending.toList.map (fun entry => entry.2.package.play) := by
          simp [TurnEvidence.plays, turnEvidence, packageEvidence]
    _ = r.pending.toList.map Prod.fst := map_congr_left hplay
    _ = r.pending.keys := ExtTreeMap.map_fst_toList_eq_keys
    _ = r.participants := h.keys_eq_participants hfull

lemma Chronicle.latch (h : Chronicle r) (nowMs : UInt64) : Chronicle (r.latchTimeout nowMs) := by
  rcases h.current with ⟨cause, stamp, hcur⟩
  refine ⟨⟨cause, stamp, ?_⟩, ?_, ?_, ?_, ?_, ?_, ?_⟩
  · simpa [latchTimeout] using hcur
  · simpa [latchTimeout] using h.currentOnly
  · simpa [latchTimeout] using h.epochBound
  · simpa [latchTimeout] using h.turnBound
  · simpa [latchTimeout] using h.turnEpoch
  · simpa [latchTimeout] using h.turnEpochOnly
  · simpa [latchTimeout] using h.turnIncreasing

lemma Chronicle.advance (h : Chronicle r) (hs : Seated r)
    (hfull : r.missing = []) (nextStamp : UInt32) (nowMs : UInt64) :
    Chronicle (r.advance nextStamp nowMs) := by
  have hplays : r.turnEvidence.plays = r.participants := turnEvidence_plays hs hfull
  rcases h.current with ⟨cause, stamp, hcur⟩
  -- The only new turn names the current epoch, whose record lists the current participants.
  have hturn : ∀ t ∈ committedTurns (r.advance nextStamp nowMs).evidence,
      t ∈ committedTurns r.evidence ∨ t = r.turnEvidence := by
    intro t ht
    simpa [LockstepRunner.advance] using ht
  refine ⟨⟨cause, stamp, ?_⟩, ?_, ?_, ?_, ?_, ?_, ?_⟩
  · simpa [LockstepRunner.advance] using hcur
  · simpa [LockstepRunner.advance] using h.currentOnly
  · simpa [LockstepRunner.advance] using h.epochBound
  · intro t ht
    rcases hturn t ht with hold | rfl
    · exact h.turnBound t hold
    · exact le_refl _
  · intro t ht
    rcases hturn t ht with hold | rfl
    · simpa [LockstepRunner.advance] using h.turnEpoch t hold
    · refine ⟨cause, stamp, ?_⟩
      rw [hplays]
      simpa [LockstepRunner.advance, turnEvidence] using hcur
  · intro t ht cause' stamp' participants hmem
    have hmem' : .epoch t.epoch cause' stamp' participants ∈ r.evidence := by
      simpa [LockstepRunner.advance] using hmem
    rcases hturn t ht with hold | rfl
    · exact h.turnEpochOnly t hold cause' stamp' participants hmem'
    · rw [hplays]
      exact h.currentOnly cause' stamp' participants hmem'
  · intro t ht
    rcases hturn t ht with hold | rfl
    · exact h.turnIncreasing t hold
    · rw [hplays]
      exact hs.roster.increasing

lemma Chronicle.enterEpoch (h : Chronicle r) {epoch : UInt32}
    (hnext : epoch.toNat = r.epoch.toNat + 1) (participants : List Int8) (cause : EpochCause)
    (nowMs : UInt64) : Chronicle (r.enterEpoch epoch participants cause nowMs) := by
  -- Every older record has a smaller number than the new epoch.
  have hold : ∀ e c s ps, .epoch e c s ps ∈ r.evidence → e ≠ epoch := by
    intro e c s ps hmem heq
    have hle := h.epochBound e c s ps hmem
    rw [heq] at hle
    omega
  have hmem : ∀ e c s ps,
      .epoch e c s ps ∈ (r.enterEpoch epoch participants cause nowMs).evidence →
        .epoch e c s ps ∈ r.evidence ∨ (e = epoch ∧ ps = participants) := by
    intro e c s ps hin
    rcases mem_append.1 hin with hin | hin
    · exact Or.inl hin
    · simp only [mem_singleton, LockstepEvidence.epoch.injEq] at hin
      exact Or.inr ⟨hin.1, hin.2.2.2⟩
  have hturns : committedTurns (r.enterEpoch epoch participants cause nowMs).evidence
      = committedTurns r.evidence := by
    simp [LockstepRunner.enterEpoch]
  have hepoch : (r.enterEpoch epoch participants cause nowMs).epoch = epoch := rfl
  refine ⟨⟨cause, r.expectedStamp, ?_⟩, ?_, ?_, ?_, ?_, ?_, ?_⟩
  · exact mem_append_right _ (by simp [LockstepRunner.enterEpoch])
  · intro c s ps hin
    rcases hmem _ c s ps hin with hin | ⟨_, rfl⟩
    · exact absurd hepoch (hold _ c s ps hin)
    · rfl
  · intro e c s ps hin
    rcases hmem e c s ps hin with hin | ⟨rfl, _⟩
    · have hle := h.epochBound e c s ps hin
      rw [hepoch]
      omega
    · exact le_refl _
  · intro t ht
    rw [hturns] at ht
    have hle := h.turnBound t ht
    rw [hepoch]
    omega
  · intro t ht
    rw [hturns] at ht
    rcases h.turnEpoch t ht with ⟨c, s, hin⟩
    exact ⟨c, s, mem_append_left _ hin⟩
  · intro t ht c s ps hin
    rw [hturns] at ht
    rcases hmem _ c s ps hin with hin | ⟨heq, _⟩
    · exact h.turnEpochOnly t ht c s ps hin
    · have hle := h.turnBound t ht
      rw [heq] at hle
      omega
  · intro t ht
    rw [hturns] at ht
    exact h.turnIncreasing t ht

lemma Chronicle.effect (h : Chronicle r) (hs : Seated r) (he : Effect r r') : Chronicle r' := by
  cases he with
  | latch nowMs => exact h.latch nowMs
  | accept =>
    exact ⟨h.current, h.currentOnly, h.epochBound, h.turnBound, h.turnEpoch, h.turnEpochOnly,
      h.turnIncreasing⟩
  | advance nextStamp nowMs hnone hfull => exact h.advance hs hfull nextStamp nowMs
  | enterEpoch raw participants epoch cause nowMs hroster hnext =>
    exact h.enterEpoch (checkedSucc_eq_some hnext) participants cause nowMs

/-! ## Timeouts -/

/-- A latched timeout means a participant is missing; two timeout records are never neighbours, and
after an epoch or turn record the timeout is clear. -/
structure Latched (r : LockstepRunner) : Prop where
  waiting : r.timedOut.isSome → r.missing ≠ []
  clear : r.timedOut = none → ∀ e ∈ r.evidence.getLast?, ¬ e.IsTimeout
  spaced : r.evidence.IsChain fun a b => ¬ (a.IsTimeout ∧ b.IsTimeout)

lemma spaced_append {ev : List LockstepEvidence} {e : LockstepEvidence}
    (h : ev.IsChain fun a b => ¬ (a.IsTimeout ∧ b.IsTimeout))
    (hlast : ∀ a ∈ ev.getLast?, ¬ (a.IsTimeout ∧ e.IsTimeout)) :
    (ev ++ [e]).IsChain fun a b => ¬ (a.IsTimeout ∧ b.IsTimeout) := by
  refine h.append (isChain_singleton e) ?_
  intro a ha b hb
  have hbe : e = b := by simpa using hb
  exact hbe ▸ hlast a ha

lemma Latched.effect (h : Latched r) (hs : Seated r) (he : Effect r r') : Latched r' := by
  cases he with
  | latch nowMs hnone hwait =>
    refine ⟨?_, ?_, ?_⟩
    · intro _
      have hmiss : r.missing ≠ [] := fun hnil => hwait (hs.size_eq_iff_missing.2 hnil)
      exact hmiss
    · intro hclear
      cases hclear
    · refine spaced_append h.spaced ?_
      intro a ha hboth
      exact h.clear hnone a ha hboth.1
  | accept package checksums hnone =>
    refine ⟨?_, h.clear, h.spaced⟩
    intro hsome
    have hsome' : r.timedOut.isSome := hsome
    simp [hnone] at hsome'
  | advance =>
    refine ⟨?_, ?_, ?_⟩
    · intro hsome
      cases hsome
    · intro _ e he
      have hlast : LockstepEvidence.turn r.turnEvidence = e := by
        simpa [advance] using he
      simp [← hlast, LockstepEvidence.IsTimeout]
    · refine spaced_append h.spaced ?_
      intro a _ hboth
      exact hboth.2
  | enterEpoch raw participants epoch cause =>
    refine ⟨?_, ?_, ?_⟩
    · intro hsome
      cases hsome
    · intro _ e he
      have hlast : LockstepEvidence.epoch epoch cause r.expectedStamp participants = e := by
        simpa [enterEpoch] using he
      simp [← hlast, LockstepEvidence.IsTimeout]
    · refine spaced_append h.spaced ?_
      intro a _ hboth
      exact hboth.2

/-! ## All invariants together, over whole runs -/

structure Inv (firstStamp : UInt32) (r : LockstepRunner) : Prop where
  seated : Seated r
  counted : Counted firstStamp r
  chronicle : Chronicle r
  latched : Latched r

lemma Inv.effect (h : Inv firstStamp r) (he : Effect r r') : Inv firstStamp r' :=
  ⟨h.seated.effect he, h.counted.effect he, h.chronicle.effect h.seated he,
    h.latched.effect h.seated he⟩

lemma Inv.new {gameKey : UInt32} {raw : List Int8} {nowMs timeoutMs : UInt64}
    (h : LockstepRunner.new gameKey raw firstStamp nowMs timeoutMs = .ok r) :
    Inv firstStamp r := by
  have hseated : Seated r := Seated.new h
  unfold LockstepRunner.new at h
  split at h
  · cases h
  split at h
  · cases h
  cases h
  -- The evidence is one epoch record: no turn, no timeout.
  refine ⟨hseated, ⟨rfl, rfl⟩, ⟨⟨.initial, firstStamp, ?_⟩, ?_, ?_, ?_, ?_, ?_, ?_⟩, ⟨?_, ?_, ?_⟩⟩
  · exact mem_singleton_self _
  · intro cause stamp participants hmem
    simp only [mem_singleton, LockstepEvidence.epoch.injEq] at hmem
    exact hmem.2.2.2
  · intro epoch cause stamp participants hmem
    simp only [mem_singleton, LockstepEvidence.epoch.injEq] at hmem
    exact hmem.1 ▸ le_refl _
  · intro t ht
    cases ht
  · intro t ht
    cases ht
  · intro t ht
    cases ht
  · intro t ht
    cases ht
  · intro hsome
    cases hsome
  · intro _ e he
    rw [List.getLast?_singleton, Option.mem_some] at he
    simp [← he, LockstepEvidence.IsTimeout]
  · exact isChain_singleton _

lemma Inv.run {gameKey : UInt32} {raw : List Int8} {nowMs timeoutMs : UInt64}
    (h : LockstepRunner.new gameKey raw firstStamp nowMs timeoutMs = .ok r)
    (calls : List Call) : Inv firstStamp (Foundation.run step r calls) :=
  run_of_effect (P := Inv firstStamp) (fun _ _ hs he => hs.effect he) calls (Inv.new h)

/-- The states of runners in use: some run of calls reaches `r` from a freshly built runner. -/
def Reachable (r : LockstepRunner) : Prop :=
  ∃ gameKey raw firstStamp nowMs timeoutMs r0 calls,
    LockstepRunner.new gameKey raw firstStamp nowMs timeoutMs = .ok r0 ∧
      Foundation.run step r0 calls = r

lemma Reachable.inv (h : Reachable r) : ∃ firstStamp, Inv firstStamp r := by
  rcases h with ⟨gameKey, raw, firstStamp, nowMs, timeoutMs, r0, calls, hnew, rfl⟩
  exact ⟨firstStamp, Inv.run hnew calls⟩

/-- Safety of whole runs, refused calls included: pending packages are seated, the roster is
normalised, each committed turn has one package per participant of its epoch in slot order, and the
committed stamps are consecutive from the first one. -/
theorem run_safe {gameKey firstStamp : UInt32} {raw : List Int8} {nowMs timeoutMs : UInt64}
    {r0 : LockstepRunner}
    (hnew : LockstepRunner.new gameKey raw firstStamp nowMs timeoutMs = .ok r0)
    (calls : List Call) :
    let r := Foundation.run step r0 calls
    ((∀ play ∈ r.pending, play ∈ r.participants) ∧ r.participants ≠ [] ∧
      r.participants.Pairwise (· < ·) ∧ ∀ play ∈ r.participants, 0 ≤ play ∧ play < 8) ∧
    (∀ t ∈ committedTurns r.evidence,
      t.plays.Pairwise (· < ·) ∧
      (∃ cause stamp, .epoch t.epoch cause stamp t.plays ∈ r.evidence) ∧
      ∀ cause stamp participants,
        .epoch t.epoch cause stamp participants ∈ r.evidence → t.plays = participants) ∧
    ((committedTurns r.evidence).map fun t => t.stamp.toNat) =
      List.range' firstStamp.toNat (committedTurns r.evidence).length ∧
    r.expectedStamp.toNat = firstStamp.toNat + (committedTurns r.evidence).length := by
  intro r
  have hinv : Inv firstStamp r := Inv.run hnew calls
  have hroster : Roster r.participants := hinv.seated.roster
  refine ⟨⟨hinv.seated.seated, hroster.nonempty, hroster.increasing, hroster.inRange⟩, ?_,
    hinv.counted.stamps, hinv.counted.expected⟩
  intro t ht
  refine ⟨hinv.chronicle.turnIncreasing t ht, hinv.chronicle.turnEpoch t ht, ?_⟩
  intro cause stamp participants hmem
  exact (hinv.chronicle.turnEpochOnly t ht cause stamp participants hmem).symm

/-- A package holding one checksum command with sixteen zero words, plain under game key 0. -/
def zeroChecksumPackage (stamp : UInt32) (play : Int8) : TurnPackage :=
  { stamp, play,
    payload := 0x39 :: List.replicate 65 0 }

/-- A fresh runner of slots 0 and 1 at stamp 5. -/
def twoPlayerRunner : LockstepRunner :=
  { gameKey := 0
    timeoutMs := 100
    epoch := 0
    expectedStamp := 5
    deadlineMs := 100
    participants := [0, 1]
    pending := ∅
    timedOut := none
    evidence := [.epoch 0 .initial 5 [0, 1]] }

lemma new_twoPlayerRunner : new 0 [1, 0] 5 0 100 = .ok twoPlayerRunner := rfl

theorem run_safe_two_players :
    let r := Foundation.run step twoPlayerRunner
      [.submit (zeroChecksumPackage 5 1) 1, .submit (zeroChecksumPackage 9 0) 2,
        .submit (zeroChecksumPackage 5 0) 3, .commitReady 4]
    (committedTurns r.evidence).length = 1 ∧
      r.expectedStamp.toNat = 5 + (committedTurns r.evidence).length := by
  intro r
  have hlen : (committedTurns r.evidence).length = 1 := by decide
  exact ⟨hlen, (run_safe new_twoPlayerRunner _).2.2.2⟩

/-! ## The record -/

lemma channelDifferences_eq_nil_iff {a b : Int8} {x y : CheckSums} :
    channelDifferences a x b y = [] ↔ x = y := by
  constructor
  · intro h
    rw [CheckSums.mk.injEq]
    refine Vector.ext fun i hi => ?_
    simpa [channelDifferences, hi] using filterMap_eq_nil_iff.1 h i (mem_range.2 hi)
  · rintro rfl
    simp [channelDifferences]

lemma differences_eq_nil_iff (m : ExtTreeMap Int8 PendingPackage) : differences m.toList = [] ↔
    ∀ p ∈ m.toList, ∀ q ∈ m.toList, p.2.checksums = q.2.checksums := by
  have hkeys := m.distinct_keys_toList
  cases h : m.toList with
  | nil => simp [differences]
  | cons e es =>
    -- no other package has the key of the first one
    rw [h] at hkeys
    have hne : ∀ p ∈ es, p.1 ≠ e.1 := fun p hp heq =>
      (pairwise_cons.1 hkeys).1 p hp (by simp [heq])
    have hnil : differences (e :: es) = [] ↔ ∀ p ∈ es, e.2.checksums = p.2.checksums := by
      simp only [differences, flatMap_eq_nil_iff, forall_mem_cons, if_true, true_and]
      refine forall₂_congr fun p hp => ?_
      rw [if_neg (hne p hp), channelDifferences_eq_nil_iff]
    rw [hnil]
    constructor
    · intro hall
      have hfirst : ∀ p ∈ e :: es, e.2.checksums = p.2.checksums := forall_mem_cons.2 ⟨rfl, hall⟩
      exact fun p hp q hq => (hfirst p hp).symm.trans (hfirst q hq)
    · exact fun hall p hp => hall e mem_cons_self p (mem_cons_of_mem e hp)

/-- The record of `s` is that of `r` with something added.  A turn that was added is said to agree exactly
when all its packages have the same checksums. -/
def Extends (r s : LockstepRunner) : Prop :=
  ∃ l, s.evidence = r.evidence ++ l ∧ ∀ t ∈ committedTurns l,
    (t.checksumsAgree ↔ ∀ p ∈ t.packages, ∀ q ∈ t.packages, p.checksums = q.checksums)

/-- Whatever calls arrive in whatever state, the record is only added to, and no divergence goes unnoticed. -/
theorem record_extends (r : LockstepRunner) (calls : List Call) :
    Extends r (Foundation.run step r calls) := by
  refine run_of_effect (P := Extends r) ?_ calls ⟨[], by simp, by simp [committedTurns]⟩
  rintro s s' ⟨l, hl, hjudged⟩ he
  cases he with
  | accept => exact ⟨l, hl, hjudged⟩
  | latch => exact ⟨l ++ [_], by rw [latchTimeout, hl, append_assoc], by simpa using hjudged⟩
  | enterEpoch =>
    exact ⟨l ++ [_], by rw [LockstepRunner.enterEpoch, hl, append_assoc], by simpa using hjudged⟩
  | advance =>
    refine ⟨l ++ [_], by rw [LockstepRunner.advance, hl, append_assoc], ?_⟩
    rw [committedTurns_append_turn, forall_mem_append, forall_mem_singleton]
    refine ⟨hjudged, ?_⟩
    simp only [TurnEvidence.checksumsAgree, turnEvidence, List.isEmpty_iff, differences_eq_nil_iff,
      forall_mem_map, packageEvidence]

/-! ## `status` and `commit_ready` -/

section Readiness

variable {r : LockstepRunner}

lemma observeTimeout_of_full (hs : Seated r) (hfull : r.missing = []) (nowMs : UInt64) :
    r.observeTimeout nowMs = r := by
  have hsize : r.pending.size = r.participants.length := hs.size_eq_iff_missing.2 hfull
  simp [observeTimeout, hsize]

lemma missing_observeTimeout (r : LockstepRunner) (nowMs : UInt64) :
    (r.observeTimeout nowMs).missing = r.missing := by
  unfold observeTimeout
  split <;> rfl

lemma Latched.timedOut_of_full (h : Latched r) (hfull : r.missing = []) : r.timedOut = none := by
  cases hto : r.timedOut with
  | none => rfl
  | some => exact absurd hfull (h.waiting (by simp [hto]))

/-- With nobody missing, `commit_ready` fails only on the last stamp. -/
lemma commitReady_of_full (hs : Seated r) (hl : Latched r) (hfull : r.missing = [])
    (nowMs : UInt64) :
    r.commitReady nowMs = match checkedSucc r.expectedStamp with
      | none => .error r .stampOverflow
      | some nextStamp => .ok (r.advance nextStamp nowMs) r.turnEvidence := by
  have hto : r.timedOut = none := hl.timedOut_of_full hfull
  have hcommit : r.commitReady nowMs = r.commitObserved nowMs := by
    simp only [commitReady, observeTimeout_of_full hs hfull]
  rw [hcommit]
  cases hnext : checkedSucc r.expectedStamp with
  | none | some => simp [commitObserved, hto, hfull, hnext]

/-- With somebody missing, `status` and `commit_ready` both report the timeout as observed now. -/
lemma status_of_missing (hs : Seated r) (hwait : r.missing ≠ []) (nowMs : UInt64) :
    (r.status nowMs).2 = match (r.observeTimeout nowMs).timedOut with
      | some timeout => .timedOut timeout
      | none => .waiting (r.observeTimeout nowMs).epoch (r.observeTimeout nowMs).expectedStamp
          (r.observeTimeout nowMs).deadlineMs (r.observeTimeout nowMs).missing := by
  have hsize : r.pending.size ≠ r.participants.length :=
    fun h => hwait (hs.size_eq_iff_missing.1 h)
  unfold status
  rw [if_neg hsize]
  cases hto : (r.observeTimeout nowMs).timedOut <;> simp [hto]

lemma commitReady_of_missing (hwait : r.missing ≠ []) (nowMs : UInt64) :
    (r.commitReady nowMs).result = match (r.observeTimeout nowMs).timedOut with
      | some timeout => .error (.turnTimedOut timeout)
      | none => .error (.turnNotReady (r.observeTimeout nowMs).expectedStamp r.missing) := by
  unfold commitReady commitObserved
  cases hto : (r.observeTimeout nowMs).timedOut <;>
    simp [missing_observeTimeout, hwait]

end Readiness

lemma checkedSucc_eq_none {v : UInt32} : checkedSucc v = none ↔ v = 0xffffffff := by
  rw [checkedSucc_eq_none_iff]
  constructor
  · intro h
    exact UInt32.toNat.inj (by simpa [UInt32.size] using h)
  · rintro rfl
    rfl

lemma timeouts_spaced {ev pre mid post : List LockstepEvidence}
    (h : ev.IsChain fun a b => ¬ (a.IsTimeout ∧ b.IsTimeout)) (hsplit : ev = pre ++ mid ++ post)
    (hmid : ∀ e ∈ mid, e.IsTimeout) : mid.length ≤ 1 := by
  subst hsplit
  have hchain : mid.IsChain fun a b => ¬ (a.IsTimeout ∧ b.IsTimeout) :=
    h.left_of_append.right_of_append
  match mid, hchain, hmid with
  | [], _, _ => simp
  | [_], _, _ => simp
  | a :: b :: rest, hchain, hmid =>
    have hab := (isChain_cons_cons.1 hchain).1
    exact absurd ⟨hmid a (by simp), hmid b (by simp)⟩ hab

/-- In every reachable state and at every instant, `status` and `commit_ready` agree. -/
theorem status_agrees_with_commit {r : LockstepRunner} (hr : Reachable r) :
    (r.timedOut.isSome → ∃ play ∈ r.participants, play ∉ r.pending) ∧
    (∀ nowMs, (∃ epoch stamp plays, (r.status nowMs).2 = .ready epoch stamp plays) ↔
      if r.expectedStamp = 0xffffffff then (r.commitReady nowMs).result = .error .stampOverflow
      else ∃ turn, (r.commitReady nowMs).result = .ok turn) ∧
    (∀ nowMs timeout, (r.status nowMs).2 = .timedOut timeout ↔
      (r.commitReady nowMs).result = .error (.turnTimedOut timeout)) ∧
    ∀ pre mid post, r.evidence = pre ++ mid ++ post → (∀ e ∈ mid, e.IsTimeout) →
      mid.length ≤ 1 := by
  rcases hr.inv with ⟨firstStamp, hinv⟩
  have hs : Seated r := hinv.seated
  have hl : Latched r := hinv.latched
  refine ⟨?_, ?_, ?_, ?_⟩
  · intro hsome
    rcases exists_mem_of_ne_nil _ (hl.waiting hsome) with ⟨play, hplay⟩
    exact ⟨play, Seated.mem_missing_iff.1 hplay⟩
  · intro nowMs
    by_cases hfull : r.missing = []
    · have hsize : r.pending.size = r.participants.length := hs.size_eq_iff_missing.2 hfull
      have hready : (r.status nowMs).2 = .ready r.epoch r.expectedStamp r.pending.keys := by
        simp [status, hsize]
      rw [commitReady_of_full hs hl hfull, hready]
      cases hnext : checkedSucc r.expectedStamp with
      | none => simp [checkedSucc_eq_none.1 hnext]
      | some =>
        have hne : r.expectedStamp ≠ 0xffffffff := by
          intro heq
          rw [checkedSucc_eq_none.2 heq] at hnext
          cases hnext
        simp [hne]
    · rw [status_of_missing hs hfull, commitReady_of_missing hfull]
      cases hto : (r.observeTimeout nowMs).timedOut <;> simp
  · intro nowMs timeout
    by_cases hfull : r.missing = []
    · have hsize : r.pending.size = r.participants.length := hs.size_eq_iff_missing.2 hfull
      rw [commitReady_of_full hs hl hfull]
      cases hnext : checkedSucc r.expectedStamp <;> simp [status, hsize]
    · rw [status_of_missing hs hfull, commitReady_of_missing hfull]
      cases hto : (r.observeTimeout nowMs).timedOut <;> simp
  · intro pre mid post hsplit hmid
    exact timeouts_spaced hl.spaced hsplit hmid

theorem status_agrees_with_commit_late :
    let r := Foundation.run step twoPlayerRunner
      [.submit (zeroChecksumPackage 5 1) 1, .status 200]
    r.timedOut.isSome ∧ ∃ play ∈ r.participants, play ∉ r.pending := by
  intro r
  have hr : Reachable r := ⟨0, [1, 0], 5, 0, 100, _, _, new_twoPlayerRunner, rfl⟩
  have hlate : r.timedOut.isSome := by decide
  exact ⟨hlate, (status_agrees_with_commit hr).1 hlate⟩

end LockstepRunner

end Don.Net
