import Don.Net.GameKey
import Don.Sim.World.Basic

/-!
# Draws — range and balance of the random stream

`crates/don-sim/src/rng.rs`.  A draw scales the low half of the state.  The product may wrap, but what
is kept of it is below `2 ^ 16`, so it is below a span that is large enough for the product to wrap.
The low half runs through all its values in a turn, whatever the state, so that a turn of draws splits
`2 ^ 16` states evenly over a span.
-/

namespace Don.Sim.Population.Random

open Foundation Net List Function

/-- The next `k` draws. -/
def draws (lo hi : Int32) : Nat → Random → List Int32
  | 0, _ => []
  | k + 1, r => (r.get lo hi).1 :: draws lo hi k (r.get lo hi).2

variable (r : Random)

def low : UInt16 :=
  r.state.toUInt32.toUInt16

lemma low_advance : r.advance.low = lowStep r.low := by
  rw [low, low, ← toUInt16_step]
  rfl

variable {lo hi : Int32}

/-! ## One draw -/

/-- What is added to the lower bound. -/
def scale (x span : Nat) : Nat :=
  x * span % 2 ^ 32 / 2 ^ 16

lemma scale_lt {x n : Nat} (hx : x < 2 ^ 16) (hn : 0 < n) : scale x n < n := by
  unfold scale
  rcases Nat.lt_or_ge n (2 ^ 16) with hsmall | hlarge
  · have hlt : x * n < 2 ^ 16 * n := Nat.mul_lt_mul_of_pos_right hx hn
    rw [Nat.mod_eq_of_lt (by omega), Nat.div_lt_iff_lt_mul (by omega)]
    omega
  · -- a span past the half word is longer than anything that is kept
    have hkept : x * n % 2 ^ 32 < 2 ^ 32 := Nat.mod_lt _ (by omega)
    omega

/-- A word read with its sign. -/
lemma toInt_eq_word (a : Int32) : a.toInt =
    if a.toUInt32.toNat < 2 ^ 31 then (a.toUInt32.toNat : Int) else a.toUInt32.toNat - 2 ^ 32 := by
  have hcond := BitVec.toInt_eq_toNat_cond a.toBitVec
  change a.toInt = if 2 * a.toUInt32.toNat < 2 ^ 32 then _ else _ at hcond
  rw [hcond]
  split <;> split <;> first | rfl | omega

lemma toInt_scaled (s : UInt32) (h : lo < hi) :
    ((((s &&& 0xFFFF).toInt32 * (hi - lo)).toUInt32 >>> 16).toInt32 + lo).toInt =
      lo.toInt + scale s.toUInt16.toNat (hi.toInt - lo.toInt).natAbs := by
  have hlt : lo.toInt < hi.toInt := Int32.lt_iff_toInt_lt.1 h
  have hmask : (s &&& 0xFFFF).toNat = s.toUInt16.toNat := by
    rw [UInt32.toNat_and, UInt32.toNat_toUInt16]
    exact Nat.and_two_pow_sub_one_eq_mod _ 16
  have hspan : (hi - lo).toUInt32.toNat = (hi.toInt - lo.toInt).natAbs := by
    have hlo := lo.toUInt32.toNat_lt
    have hhi := hi.toUInt32.toNat_lt
    rw [toInt_eq_word lo, toInt_eq_word hi] at hlt ⊢
    rw [Int32.toUInt32_sub, UInt32.toNat_sub]
    split at hlt <;> split at hlt <;> omega
  have hkept : (((s &&& 0xFFFF).toInt32 * (hi - lo)).toUInt32 >>> 16).toNat =
      scale s.toUInt16.toNat (hi.toInt - lo.toInt).natAbs := by
    rw [UInt32.toNat_shiftRight, Int32.toUInt32_mul, UInt32.toNat_mul, hspan,
      UInt32.toUInt32_toInt32, hmask]
    exact Nat.shiftRight_eq_div_pow _ 16
  have hbelow := scale_lt s.toUInt16.toNat_lt (n := (hi.toInt - lo.toInt).natAbs) (by omega)
  rw [← hkept] at hbelow ⊢
  generalize ((s &&& 0xFFFF).toInt32 * (hi - lo)).toUInt32 >>> 16 = q at hbelow ⊢
  have hq := q.toNat_lt
  have hlo := lo.toUInt32.toNat_lt
  have hhi := hi.toUInt32.toNat_lt
  rw [toInt_eq_word (_ + lo), Int32.toUInt32_add, UInt32.toUInt32_toInt32, UInt32.toNat_add]
  rw [toInt_eq_word lo, toInt_eq_word hi] at hbelow hlt
  rw [toInt_eq_word lo]
  split at hlt <;> split at hlt <;> split <;> omega

lemma toInt_get (h : lo ≠ hi) : (r.get lo hi).2 = r.advance ∧
    (r.get lo hi).1.toInt = min lo.toInt hi.toInt +
      scale r.advance.low.toNat (hi.toInt - lo.toInt).natAbs := by
  have hne : lo.toInt ≠ hi.toInt := fun heq => h (Int32.toInt_inj.1 heq)
  unfold get
  rw [if_neg h]
  refine ⟨rfl, ?_⟩
  by_cases hswap : hi < lo
  · rw [if_pos hswap, min_eq_right (Int32.lt_iff_toInt_lt.1 hswap).le,
      ← Int.natAbs_neg, Int.neg_sub]
    exact toInt_scaled r.advance.state.toUInt32 hswap
  · have hle := Int32.lt_iff_toInt_lt.not.1 hswap
    rw [if_neg hswap, min_eq_left (not_lt.1 hle)]
    exact toInt_scaled r.advance.state.toUInt32 (Int32.lt_iff_toInt_lt.2 (by omega))

/-! ## A turn of draws -/

/-- A turn meets every low half once. -/
lemma lows_perm (x : UInt16) :
    ((range (2 ^ 16)).map fun i => (lowStep^[i] x).toNat).Perm (range (2 ^ 16)) := by
  refine ((subperm_of_subset nodup_range fun j hj => ?_).perm_of_length_le ?_).symm
  · obtain ⟨i, hi, hx⟩ := orbit_surjective (F := lowStep) (f := fun x => x.toNat / 2 ^ 15)
      card_uInt16 lowStep_turn topBit_half x (UInt16.ofNat j)
    refine mem_map.2 ⟨i, mem_range.2 hi, ?_⟩
    rw [hx, UInt16.toNat_ofNat_of_lt' (mem_range.1 hj)]
  · simp

lemma draws_eq (h : lo ≠ hi) (k : Nat) : (draws lo hi k r).map Int32.toInt =
    (range k).map fun i => min lo.toInt hi.toInt +
      scale (lowStep^[i] (lowStep r.low)).toNat (hi.toInt - lo.toInt).natAbs := by
  induction k generalizing r with
  | zero => rfl
  | succ k ih =>
    obtain ⟨hnext, hvalue⟩ := r.toInt_get h
    rw [draws, map_cons, hvalue, hnext, ih, low_advance, range_succ_eq_map, map_cons,
      map_map]
    refine congrArg _ (map_congr_left fun i _ => ?_)
    rw [comp_apply, iterate_succ_apply]

/-- How many of the first `a` numbers, scaled from `a` to `n`, come to `w`. -/
lemma card_scaled {a n w : Nat} (ha : 0 < a) (hw : w < n) :
    ((Finset.range a).filter (fun x => x * n / a = w)).card ∈ [a / n, (a + (n - 1)) / n] := by
  have hn : 0 < n := by omega
  -- the numbers that come to `w` lie between two multiples of `a / n`, rounded up
  let first (w : Nat) : Nat := (a * w + (n - 1)) / n
  have hfirst : ∀ w x, first w ≤ x ↔ a * w ≤ x * n := by
    intro w x
    rw [← Nat.lt_succ_iff, Nat.div_lt_iff_lt_mul hn, Nat.succ_mul]
    omega
  have hset : (Finset.range a).filter (fun x => x * n / a = w) =
      Finset.Ico (first w) (first (w + 1)) := by
    ext x
    have hlast : a * (w + 1) ≤ a * n := Nat.mul_le_mul_left a hw
    rw [Finset.mem_filter, Finset.mem_range, Finset.mem_Ico, ← not_le (a := first _), hfirst, hfirst,
      Nat.div_eq_iff ha, Nat.mul_comm w a, Nat.mul_succ]
    rw [Nat.mul_succ] at hlast
    refine ⟨fun h => by omega, fun h => ⟨Nat.lt_of_mul_lt_mul_right (a := n) ?_, by omega⟩⟩
    omega
  have hmod := Nat.mod_lt (a * w + (n - 1)) hn
  have hstep : first (w + 1) - first w =
      a / n + if n ≤ (a * w + (n - 1)) % n + a % n then 1 else 0 := by
    simp only [first]
    rw [Nat.mul_succ, Nat.add_right_comm, Nat.add_div hn, Nat.add_assoc, Nat.add_sub_cancel_left]
  rw [hset, Nat.card_Ico, hstep, Nat.add_div hn, Nat.div_eq_of_lt (a := n - 1) (by omega),
    Nat.mod_eq_of_lt (a := n - 1) (by omega)]
  by_cases hcarry : n ≤ (a * w + (n - 1)) % n + a % n
  · rw [if_pos hcarry, if_pos (by omega)]
    simp
  · simp [hcarry]

/-- A turn of draws gives a value as often as the numbers below `2 ^ 16` scale to its distance from
the lower bound. -/
lemma count_draws (h : lo ≠ hi) {v : Int32} (hlo : min lo.toInt hi.toInt ≤ v.toInt)
    (hspan : (hi.toInt - lo.toInt).natAbs ≤ 2 ^ 16) :
    (draws lo hi (2 ^ 16) r).count v = ((Finset.range (2 ^ 16)).filter fun x =>
      x * (hi.toInt - lo.toInt).natAbs / 2 ^ 16 = (v.toInt - min lo.toInt hi.toInt).toNat).card := by
  have hscale : ∀ x ∈ range (2 ^ 16), min lo.toInt hi.toInt +
      scale x (hi.toInt - lo.toInt).natAbs = v.toInt ↔
        x * (hi.toInt - lo.toInt).natAbs / 2 ^ 16 = (v.toInt - min lo.toInt hi.toInt).toNat := by
    intro x hx
    have hfits : x * (hi.toInt - lo.toInt).natAbs < 2 ^ 32 := by
      have hx := mem_range.1 hx
      calc
        x * (hi.toInt - lo.toInt).natAbs ≤ x * 2 ^ 16 := Nat.mul_le_mul_left x hspan
        _ < 2 ^ 16 * 2 ^ 16 := by omega
    rw [scale, Nat.mod_eq_of_lt hfits]
    omega
  have hinj : Injective Int32.toInt := fun _ _ => Int32.toInt_inj.1
  have hlows := (lows_perm (lowStep r.low)).map fun x =>
    min lo.toInt hi.toInt + (scale x (hi.toInt - lo.toInt).natAbs : Int)
  rw [map_map] at hlows
  rw [← count_map_of_injective _ _ hinj, draws_eq r h]
  refine (hlows.count_eq v.toInt).trans ?_
  rw [Finset.card_def, Finset.filter_val, Finset.range_val, ← Multiset.countP_eq_card_filter,
    Multiset.range, Multiset.coe_countP, count_eq_countP, countP_map]
  refine countP_congr fun x hx => ?_
  simpa using hscale x hx

/-- Every draw lies in the range, and a turn of draws over a span of at most `2 ^ 16` is balanced. -/
theorem get_ranged_and_balanced (h : lo ≠ hi) :
    (∀ r : Random, min lo.toInt hi.toInt ≤ (r.get lo hi).1.toInt ∧
      (r.get lo hi).1.toInt < max lo.toInt hi.toInt) ∧
    ∀ n, n = (hi.toInt - lo.toInt).natAbs → n ≤ 65536 → ∀ (r : Random) (v : Int32),
      min lo.toInt hi.toInt ≤ v.toInt → v.toInt < max lo.toInt hi.toInt →
        (draws lo hi 65536 r).count v = 65536 / n ∨
          (draws lo hi 65536 r).count v = (65536 + (n - 1)) / n := by
  have hne : lo.toInt ≠ hi.toInt := fun heq => h (Int32.toInt_inj.1 heq)
  constructor
  · intro r
    rw [(r.toInt_get h).2]
    have hlt := scale_lt r.advance.low.toNat_lt (n := (hi.toInt - lo.toInt).natAbs) (by omega)
    omega
  · rintro n rfl hn r v hlo hhi
    have hcard := card_scaled (a := 2 ^ 16) (n := (hi.toInt - lo.toInt).natAbs)
      (w := (v.toInt - min lo.toInt hi.toInt).toNat) (by omega) (by omega)
    rw [← r.count_draws h hlo hn] at hcard
    simpa using hcard

theorem get_ranged_and_balanced_die : (1 : Int32) ≠ 7 ∧
    ((draws 1 7 65536 ⟨0⟩).count 3 = 65536 / 6 ∨ (draws 1 7 65536 ⟨0⟩).count 3 = (65536 + 5) / 6) :=
  ⟨by decide, (get_ranged_and_balanced (by decide)).2 6 rfl (by decide) ⟨0⟩ 3 (by decide) (by decide)⟩

end Don.Sim.Population.Random
