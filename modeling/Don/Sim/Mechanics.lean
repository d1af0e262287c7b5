import Mathlib.Algebra.BigOperators.Group.List.Basic
import Mathlib.Tactic.Linarith

/-!
# Mechanics — crediting a resource from a frame's income

`credit_resource` of `crates/don-sim/src/mechanics.rs` divides the income by the period, adds the
remainder to an accumulator and drains that in whole periods.  One call loses nothing, so a run of
frames credits the floor of all that came in.
-/

namespace Don.Sim

/-- `none` is the `#DE` of the original. -/
def idivTrapping (num den : Int32) : Option Int32 :=
  if den = 0 ∨ num = Int32.minValue ∧ den = -1 then none else some (num / den)

/-- The carry loop.  It need not end for a negative period, so it is given its turns. -/
def drain (period : Int32) : Nat → Int32 → Int32 → Option (Int32 × Int32)
  | 0, _, _ => none
  | turns + 1, acc, whole =>
    if period ≤ acc then drain period turns (acc - period) (whole + 1) else some (whole, acc)

/-- What is credited, and the accumulator after it. -/
def creditResource (turns : Nat) (income period acc : Int32) : Option (Int32 × Int32) := do
  let whole ← idivTrapping income period
  drain period turns (acc + income % period) whole

/-- One call a frame: all that was credited, and the last accumulator. -/
def creditFrames (turns : Nat) (period : Int32) : List Int32 → Int32 → Option (Int × Int32)
  | [], acc => some (0, acc)
  | income :: rest, acc => do
    let (whole, acc) ← creditResource turns income period acc
    let (total, last) ← creditFrames turns period rest acc
    return (whole.toInt + total, last)

/-- No frame's remainder takes the accumulator below 32 bits; above them it never comes. -/
def NoOverflow (turns : Nat) (period : Int32) : List Int32 → Int32 → Prop
  | [], _ => True
  | income :: rest, acc =>
    -2 ^ 31 ≤ acc.toInt + income.toInt.tmod period.toInt ∧
      ∀ whole next, creditResource turns income period acc = some (whole, next) →
        NoOverflow turns period rest next

section

variable {turns : Nat} {period acc : Int32} (hpos : 1 ≤ period.toInt)
  (hmax : period.toInt ≤ 2 ^ 30) (hturns : 2 ≤ turns)

include hpos

lemma idivTrapping_spec (income : Int32) : ∃ whole, idivTrapping income period = some whole ∧
    whole.toInt = income.toInt.tdiv period.toInt := by
  have hne : ∀ d : Int32, d.toInt < 1 → period ≠ d := by
    rintro d hd rfl
    omega
  refine ⟨income / period, ?_, Int32.toInt_div_of_ne_right _ _ (hne _ (by decide))⟩
  simp [idivTrapping, hne 0 (by decide), hne (-1) (by decide)]

include hmax hturns

/-- The loop takes at most one turn: accumulator and remainder are each below the period. -/
lemma creditResource_spec (income : Int32) (hacc : acc < period)
    (hfits : -2 ^ 31 ≤ acc.toInt + income.toInt.tmod period.toInt) :
    ∃ whole next, creditResource turns income period acc = some (whole, next) ∧ next < period ∧
      period.toInt * whole.toInt + next.toInt = acc.toInt + income.toInt ∧
      (0 ≤ acc.toInt → 0 ≤ income.toInt → 0 ≤ next.toInt) := by
  obtain ⟨turns, rfl⟩ : ∃ k, turns = k + 2 := ⟨turns - 2, by omega⟩
  obtain ⟨whole, hwhole, hquot⟩ := idivTrapping_spec hpos income
  have hsplit := Int.mul_tdiv_add_tmod income.toInt period.toInt
  have hsmall := Int.tmod_lt_of_pos income.toInt (by omega : 0 < period.toInt)
  rw [Int32.lt_iff_toInt_lt] at hacc
  have hsum : (acc + income % period).toInt = acc.toInt + income.toInt.tmod period.toInt := by
    rw [Int32.toInt_add, Int32.toInt_mod, Int.bmod_eq_of_le (by omega) (by omega)]
  simp only [creditResource, hwhole, Option.bind_eq_bind, Option.bind_some, drain]
  split
  case isFalse hlast =>
    refine ⟨whole, _, rfl, Int32.not_le.1 hlast, ?_, fun ha hi => ?_⟩
    · rw [hsum, hquot]
      omega
    · have := Int.tmod_nonneg period.toInt hi
      omega
  case isTrue hle =>
    rw [Int32.le_iff_toInt_le, hsum] at hle
    have hdrained : (acc + income % period - period).toInt =
        acc.toInt + income.toInt.tmod period.toInt - period.toInt := by
      rw [Int32.toInt_sub, hsum, Int.bmod_eq_of_le (by omega) (by omega)]
    have hlast : acc + income % period - period < period := by
      rw [Int32.lt_iff_toInt_lt]
      omega
    -- the remainder is positive, and with it the income
    have hincome : 0 ≤ income.toInt := by
      by_contra hneg
      have := Int.tmod_nonneg period.toInt (a := -income.toInt) (by omega)
      rw [Int.neg_tmod] at this
      omega
    have hwhole : (whole + 1).toInt = whole.toInt + 1 := by
      have hnonneg := Int.tdiv_nonneg hincome (by omega : 0 ≤ period.toInt)
      have hle : 1 * income.toInt.tdiv period.toInt ≤ _ := Int.mul_le_mul_of_nonneg_right hpos hnonneg
      have := income.toInt_lt
      rw [Int32.toInt_add, hquot, Int32.toInt_one, Int.bmod_eq_of_le (by omega) (by omega)]
    rw [if_neg (Int32.not_le.2 hlast)]
    refine ⟨whole + 1, _, rfl, hlast, ?_, fun _ _ => by omega⟩
    rw [hwhole, hdrained, hquot, mul_add]
    omega

lemma creditFrames_spec (incomes : List Int32) (hacc : acc < period)
    (hfits : NoOverflow turns period incomes acc ∨ 0 ≤ acc.toInt ∧ ∀ i ∈ incomes, 0 ≤ i.toInt) :
    ∃ total last, creditFrames turns period incomes acc = some (total, last) ∧ last < period ∧
      period.toInt * total + last.toInt = acc.toInt + (incomes.map Int32.toInt).sum ∧
      (0 ≤ acc.toInt → (∀ i ∈ incomes, 0 ≤ i.toInt) → 0 ≤ last.toInt) := by
  induction incomes generalizing acc with
  | nil => exact ⟨0, acc, rfl, hacc, by simp, fun h _ => h⟩
  | cons income rest ih =>
    have hlow : -2 ^ 31 ≤ acc.toInt + income.toInt.tmod period.toInt := by
      rcases hfits with hfits | ⟨hstart, hi⟩
      · exact hfits.1
      · have := Int.tmod_nonneg period.toInt (hi income (.head _))
        omega
    obtain ⟨whole, next, hcall, hnext, hsum, hsign⟩ :=
      creditResource_spec hpos hmax hturns income hacc hlow
    obtain ⟨total, last, hrun, hlast, htotal, hsigns⟩ := ih hnext <| by
      rcases hfits with hfits | ⟨hstart, hi⟩
      · exact .inl (hfits.2 whole next hcall)
      · exact .inr ⟨hsign hstart (hi _ (.head _)), fun i hm => hi i (.tail _ hm)⟩
    refine ⟨whole.toInt + total, last, by simp [creditFrames, hcall, hrun], hlast, ?_, ?_⟩
    · rw [mul_add, add_assoc, htotal, List.map_cons, List.sum_cons]
      omega
    · exact fun ha hi => hsigns (hsign ha (hi _ (.head _))) fun i hm => hi i (.tail _ hm)

/-- The accumulator stays below the period and nothing that came in is lost; without negative
incomes the credit is the floor of what came in, however it is spread over frames. -/
theorem income_conserved (incomes : List Int32) (hacc : acc < period) :
    (NoOverflow turns period incomes acc →
      ∃ total last, creditFrames turns period incomes acc = some (total, last) ∧ last < period ∧
        period.toInt * total + last.toInt = acc.toInt + (incomes.map Int32.toInt).sum) ∧
    (0 ≤ acc.toInt → (∀ i ∈ incomes, 0 ≤ i.toInt) →
      ∃ last, creditFrames turns period incomes acc =
        some ((acc.toInt + (incomes.map Int32.toInt).sum) / period.toInt, last)) := by
  constructor
  · intro hfits
    obtain ⟨total, last, hrun, hlast, hsum, _⟩ :=
      creditFrames_spec hpos hmax hturns incomes hacc (.inl hfits)
    exact ⟨total, last, hrun, hlast, hsum⟩
  · intro hstart hi
    obtain ⟨total, last, hrun, hlast, hsum, hsign⟩ :=
      creditFrames_spec hpos hmax hturns incomes hacc (.inr ⟨hstart, hi⟩)
    refine ⟨last, ?_⟩
    rw [hrun, ← hsum, Int.add_comm, Int.add_mul_ediv_left _ _ (by omega),
      Int.ediv_eq_zero_of_lt (hsign hstart hi) (Int32.lt_iff_toInt_lt.1 hlast), zero_add]

end

theorem income_conserved_shipped :
    ∃ last, creditFrames 2 7200 [5000, 300, 4000] 10 = some (1, last) :=
  (income_conserved (by decide) (by decide) (by decide) [5000, 300, 4000] (by decide)).2
    (by decide) (by simp)

end Don.Sim
