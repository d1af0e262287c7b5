import Don.Sim.Victory.Outcomes

/-!
# Wonder — who leads in wonder points

`wonder_winning` in one pass: the slot it names is active, has enough points and at least those of
everybody else.  A tie between leaders who are not allies was meant to give nobody the lead, but the
pass then goes on to make the second of them the leader.
-/

namespace Don.Sim

open Game List

variable {ρ : Type}

namespace Game

/-- An active leader with the most points of all active leaders. -/
def tops (g : Game ρ) (net : Seat → Int32) (i : Seat) : Prop :=
  g.active i ∧ ∀ j, g.active j → net j ≤ net i

instance (g : Game ρ) (net : Seat → Int32) (i : Seat) : Decidable (g.tops net i) :=
  inferInstanceAs (Decidable (_ ∧ _))

end Game

/-- The documented selection: the leader named has the points, a tie between rivals names nobody, and
among allies the highest wonder value decides. -/
structure WonderSelection (g : Game ρ) (threshold : Int32) (net value : Seat → Int32)
    (winner : Option Seat) : Prop where
  eligible : ∀ i, winner = some i → g.tops net i ∧ threshold ≤ net i
  rivals : (∃ i j, g.tops net i ∧ g.tops net j ∧ ¬ g.allied i j) → winner = none
  allies : (∃ i, g.tops net i ∧ threshold ≤ net i) → (∀ i j, g.tops net i → g.tops net j → g.allied i j) →
    ∃ i, winner = some i ∧ g.tops net i ∧ ∀ j, g.tops net j → value j ≤ value i

/-- The state of the pass after the slots in `done`.  The running best starts from zero, so without a
leader nobody so far has both enough points and a positive number of them. -/
structure Leads (g : Game ρ) (threshold : Int32) (net value : Seat → Int32) (done : List Seat)
    (acc : Int32 × Option Seat) : Prop where
  nobody : acc.2 = none → acc.1 = 0 ∧ ∀ j ∈ done, g.active j → net j ≤ 0 ∨ net j < threshold
  leader : ∀ c, acc.2 = some c → c ∈ done ∧ g.active c ∧ net c = acc.1 ∧ 0 < acc.1 ∧ threshold ≤ acc.1 ∧
    ∀ j ∈ done, g.active j → net j ≤ acc.1
  highest : ∀ c, acc.2 = some c →
    (∀ j ∈ done, ∀ k ∈ done, g.active j → g.active k → net j = acc.1 → net k = acc.1 → g.allied j k) →
    ∀ j ∈ done, g.active j → net j = acc.1 → value j ≤ value c

namespace Leads

variable {g : Game ρ} {threshold : Int32} {net value : Seat → Int32} {done : List Seat}
  {acc : Int32 × Option Seat}

section

variable (h : Leads g threshold net value done acc)
include h

lemma nonneg : 0 ≤ acc.1 := by
  cases hacc : acc.2 with
  | none => simp [(h.nobody hacc).1]
  | some c => exact Int32.le_of_lt (h.leader c hacc).2.2.2.1

lemma skip {i : Seat}
    (hi : g.active i → net i < acc.1 ∨ (acc.2 = none ∧ (net i ≤ 0 ∨ net i < threshold))) :
    Leads g threshold net value (done ++ [i]) acc where
  nobody hn := by
    obtain ⟨hzero, hle⟩ := h.nobody hn
    refine ⟨hzero, fun j hj ha => ?_⟩
    rcases mem_append.1 hj with hj | hj
    · exact hle j hj ha
    · rw [mem_singleton.1 hj] at ha ⊢
      rcases hi ha with hlt | ⟨_, hsmall⟩
      · rw [hzero] at hlt
        exact Or.inl (Int32.le_of_lt hlt)
      · exact hsmall
  leader c hc := by
    obtain ⟨hmem, hact, heq, hpos, hthr, hle⟩ := h.leader c hc
    refine ⟨mem_append_left _ hmem, hact, heq, hpos, hthr, fun j hj ha => ?_⟩
    rcases mem_append.1 hj with hj | hj
    · exact hle j hj ha
    · rw [mem_singleton.1 hj] at ha ⊢
      rcases hi ha with hlt | ⟨hn, _⟩
      · exact Int32.le_of_lt hlt
      · simp [hn] at hc
  highest c hc hall j hj ha heq := by
    rcases mem_append.1 hj with hj | hj
    · refine h.highest c hc (fun j hj k hk => ?_) j hj ha heq
      exact hall j (mem_append_left _ hj) k (mem_append_left _ hk)
    · rw [mem_singleton.1 hj] at ha heq
      rcases hi ha with hlt | ⟨hn, _⟩
      · simp [heq] at hlt
      · simp [hn] at hc

lemma overtake {i : Seat} (hact : g.active i) (hlt : acc.1 < net i) (hthr : threshold ≤ net i) :
    Leads g threshold net value (done ++ [i]) (net i, some i) := by
  have below : ∀ j ∈ done, g.active j → net j < net i := by
    intro j hj ha
    cases hacc : acc.2 with
    | none =>
      have hzero := (h.nobody hacc).1
      rcases (h.nobody hacc).2 j hj ha with hle | hsmall
      · exact Int32.lt_of_le_of_lt hle (hzero ▸ hlt)
      · exact Int32.lt_of_lt_of_le hsmall hthr
    | some c => exact Int32.lt_of_le_of_lt ((h.leader c hacc).2.2.2.2.2 j hj ha) hlt
  refine ⟨fun hn => by simp at hn, fun c hc => ?_, fun c hc _ j hj ha heq => ?_⟩
  · obtain rfl : i = c := by simpa using hc
    refine ⟨by simp, hact, rfl, Int32.lt_of_le_of_lt h.nonneg hlt, hthr, fun j hj ha => ?_⟩
    rcases mem_append.1 hj with hj | hj
    · exact Int32.le_of_lt (below j hj ha)
    · rw [mem_singleton.1 hj]
      exact Int32.le_refl _
  · obtain rfl : i = c := by simpa using hc
    rcases mem_append.1 hj with hj | hj
    · have hlt' := below j hj ha
      simp [heq] at hlt'
    · rw [mem_singleton.1 hj]
      exact Int32.le_refl _

/-- A tie: the one of the two that leads afterwards. -/
lemma tie {i c w : Seat} (hc : acc.2 = some c)
    (hact : g.active i) (heq : net i = acc.1) (hw : w = i ∨ w = c)
    (hbest : g.allied i c → value i ≤ value w ∧ value c ≤ value w) :
    Leads g threshold net value (done ++ [i]) (acc.1, some w) := by
  obtain ⟨hmem, hcact, hceq, hpos, hthr, hle⟩ := h.leader c hc
  refine ⟨fun hn => by simp at hn, fun w' hw' => ?_, fun w' hw' hall j hj ha hj' => ?_⟩
  · obtain rfl : w = w' := by simpa using hw'
    have hbound : ∀ j ∈ done ++ [i], g.active j → net j ≤ acc.1 := by
      intro j hj ha
      rcases mem_append.1 hj with hj | hj
      · exact hle j hj ha
      · rw [mem_singleton.1 hj, heq]
        exact Int32.le_refl _
    rcases hw with rfl | rfl
    · exact ⟨by simp, hact, heq, hpos, hthr, hbound⟩
    · exact ⟨mem_append_left _ hmem, hcact, hceq, hpos, hthr, hbound⟩
  · obtain rfl : w = w' := by simpa using hw'
    -- if all holders of the maximum are allies, so are the newcomer and the leader so far
    have hallied := hall i (by simp) c (mem_append_left _ hmem) hact hcact heq hceq
    obtain ⟨hi, hc'⟩ := hbest hallied
    rcases mem_append.1 hj with hj | hj
    · refine Int32.le_trans (h.highest c hc (fun j hj k hk => ?_) j hj ha hj') hc'
      exact hall j (mem_append_left _ hj) k (mem_append_left _ hk)
    · rw [mem_singleton.1 hj]
      exact hi

lemma step (i : Seat) :
    Leads g threshold net value (done ++ [i]) (g.wonderStep threshold net value acc i) := by
  unfold wonderStep
  dsimp only
  split
  · rename_i hidle
    refine h.skip fun ha => ?_
    rw [active] at ha
    simp [ha] at hidle
  · rename_i hactive
    have hact : g.active i := by simpa [active] using hactive
    split
    · exact h.skip fun _ => Or.inl (by assumption)
    rename_i hge
    split
    · rename_i heq
      split
      · rename_i hn
        have hzero := (h.nobody hn).1
        refine h.skip fun _ => Or.inr ⟨hn, Or.inl ?_⟩
        rw [heq, hzero]
        exact Int32.le_refl _
      · rename_i c hc
        split
        · -- allies: the higher wonder value leads
          split
          · rename_i hlt
            refine h.tie hc hact heq (Or.inl rfl) fun _ => ⟨Int32.le_refl _, Int32.le_of_lt hlt⟩
          · rename_i hnot
            refine h.tie hc hact heq (Or.inr rfl) fun _ => ⟨Int32.not_lt.1 hnot, Int32.le_refl _⟩
        · rename_i hrival
          -- rivals: the newcomer has the points of the leader so far, hence enough of them
          have hthr : ¬ net i < threshold := by
            rw [heq]
            exact Int32.not_lt.2 (h.leader c hc).2.2.2.2.1
          rw [if_neg hthr, heq]
          exact h.tie hc hact heq (Or.inl rfl) fun hal => (hrival hal).elim
    · rename_i hne
      have hlt : acc.1 < net i := Int32.lt_of_le_of_ne (Int32.not_lt.1 hge) (Ne.symm hne)
      split
      · rename_i hsmall
        refine h.skip fun _ => Or.inr ⟨?_, Or.inr hsmall⟩
        cases hacc : acc.2 with
        | none => rfl
        | some c =>
          have hle := (h.leader c hacc).2.2.2.2.1
          have := Int32.lt_of_le_of_lt hle (Int32.lt_trans hlt hsmall)
          simp at this
      · rename_i hthr
        exact h.overtake hact hlt (Int32.not_lt.1 hthr)

end

end Leads

lemma leads_wonderWinning (g : Game ρ) (threshold : Int32) (net value : Seat → Int32) :
    ∃ best, Leads g threshold net value seats (best, g.wonderWinning threshold net value) := by
  have hloop : ∀ (is done : List Seat) (acc : Int32 × Option Seat),
      Leads g threshold net value done acc →
        Leads g threshold net value (done ++ is) (is.foldl (g.wonderStep threshold net value) acc) := by
    intro is
    induction is with
    | nil => simp
    | cons i is ih =>
      intro done acc h
      simpa using ih (done ++ [i]) _ (h.step i)
  have hstart : Leads g threshold net value [] (0, none) :=
    ⟨fun _ => ⟨rfl, by simp⟩, fun _ h => by simp at h, fun _ h => by simp at h⟩
  exact ⟨_, hloop seats [] (0, none) hstart⟩

variable {threshold : Int32} {net value : Seat → Int32}

/-- A leader is named only with the most points, enough of them and at least one. -/
lemma tops_of_wonderWinning {g : Game ρ} {c : Seat}
    (h : g.wonderWinning threshold net value = some c) :
    g.tops net c ∧ threshold ≤ net c ∧ 0 < net c := by
  obtain ⟨best, hleads⟩ := leads_wonderWinning g threshold net value
  obtain ⟨_, hact, heq, hpos, hthr, hle⟩ := hleads.leader c h
  dsimp only at heq hpos hthr hle
  rw [← heq] at hpos hthr hle
  exact ⟨⟨hact, fun j hj => hle j (mem_seats j) hj⟩, hthr, hpos⟩

/-- Nobody is named only if nobody has enough points, or nobody has any. -/
lemma small_of_wonderWinning {g : Game ρ}
    (h : g.wonderWinning threshold net value = none) {i : Seat} (hi : g.active i)
    (hthr : threshold ≤ net i) : net i ≤ 0 := by
  obtain ⟨best, hleads⟩ := leads_wonderWinning g threshold net value
  exact ((hleads.nobody h).2 i (mem_seats i) hi).resolve_right (Int32.not_lt.2 hthr)

lemma highest_of_wonderWinning {g : Game ρ} {c : Seat}
    (h : g.wonderWinning threshold net value = some c)
    (hall : ∀ i j, g.tops net i → g.tops net j → g.allied i j) {j : Seat} (hj : g.tops net j) :
    value j ≤ value c := by
  obtain ⟨best, hleads⟩ := leads_wonderWinning g threshold net value
  obtain ⟨_, hact, heq, _, _, hle⟩ := hleads.leader c h
  dsimp only at heq hle
  have htops : ∀ k, g.active k → net k = best → g.tops net k := by
    intro k hk heq
    rw [tops, heq]
    exact ⟨hk, fun j hj => hle j (mem_seats j) hj⟩
  refine hleads.highest c h (fun i _ k _ hi hk hib hkb => ?_) j (mem_seats j) hj.1 ?_
  · exact hall i k (htops i hi hib) (htops k hk hkb)
  · rw [← heq]
    exact Int32.le_antisymm ((htops c hact heq).2 j hj.1) (hj.2 c hact)

/-- The pass is the documented selection exactly when a maximum that reaches the threshold is positive
if, and only if, all its holders are allies. -/
theorem wonder_winning_selects_iff (g : Game ρ) (threshold : Int32) (net value : Seat → Int32) :
    WonderSelection g threshold net value (g.wonderWinning threshold net value) ↔
      ∀ i, g.tops net i → threshold ≤ net i →
        (0 < net i ↔ ∀ j k, g.tops net j → g.tops net k → g.allied j k) := by
  constructor
  · intro hsel i hi hthr
    constructor
    · intro hpos j k hj hk
      by_contra hrival
      have hnone := hsel.rivals ⟨j, k, hj, hk, hrival⟩
      exact Int32.not_lt.2 (small_of_wonderWinning hnone hi.1 hthr) hpos
    · intro hall
      obtain ⟨c, hc, htops, _⟩ := hsel.allies ⟨i, hi, hthr⟩ hall
      exact Int32.lt_of_lt_of_le (tops_of_wonderWinning hc).2.2 (hi.2 c htops.1)
  · intro hcond
    constructor
    case eligible =>
      intro i h
      obtain ⟨htops, hthr, _⟩ := tops_of_wonderWinning h
      exact ⟨htops, hthr⟩
    case rivals =>
      rintro ⟨j, k, hj, hk, hrival⟩
      cases hw : g.wonderWinning threshold net value with
      | none => rfl
      | some c =>
        obtain ⟨htops, hthr, hpos⟩ := tops_of_wonderWinning hw
        exact (hrival ((hcond c htops hthr).1 hpos j k hj hk)).elim
    case allies =>
      rintro ⟨i, hi, hthr⟩ hall
      cases hw : g.wonderWinning threshold net value with
      | none =>
        have hpos := (hcond i hi hthr).2 hall
        exact absurd hpos (Int32.not_lt.2 (small_of_wonderWinning hw hi.1 hthr))
      | some c =>
        obtain ⟨htops, _, _⟩ := tops_of_wonderWinning hw
        exact ⟨c, rfl, htops, fun j hj => highest_of_wonderWinning hw hall hj⟩

/-- Slots 0 and 1 are at war and have four wonder points each.  The pass names slot 1. -/
theorem tied_rivals_are_named :
    ¬ WonderSelection (duel (plainMatch .wonder 0) 0 0) 4 (fun _ => 4) (fun _ => 0)
      ((duel (plainMatch .wonder 0) 0 0).wonderWinning 4 (fun _ => 4) fun _ => 0) := by
  intro hsel
  have hnone := hsel.rivals ⟨0, 1, by decide⟩
  revert hnone
  decide

end Don.Sim
