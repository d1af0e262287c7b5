import Mathlib.Data.Nat.Factorization.Basic
import Mathlib.SetTheory.Cardinal.Finite
import Mathlib.Tactic.Ring

/-!
# Orbit — observing a map of period a power of two

A map on `2 ^ (k + 1)` states returns after `2 ^ (k + 1)` rounds, and half a turn always changes
what is observed.  Then every state is on one orbit and the observations tell states apart.
-/

namespace Don.Foundation

open Function

section Orbit

variable {α β : Type*} {F : α → α} {k : Nat}

/-- Some multiple of every distance below a full turn is half a turn. -/
lemma exists_half_turn (hturn : ∀ z, F^[2 ^ (k + 1)] z = z) {t : Nat} (ht : 0 < t)
    (hlt : t < 2 ^ (k + 1)) : ∃ q, ∀ z, F^[t * q] z = F^[2 ^ k] z := by
  obtain ⟨j, odd, ⟨i, rfl⟩, rfl⟩ := Nat.exists_eq_two_pow_mul_odd ht.ne'
  have hj : j ≤ k := by
    have hpow : 2 ^ j < 2 ^ (k + 1) := lt_of_le_of_lt (Nat.le_mul_of_pos_right _ (by omega)) hlt
    exact Nat.lt_succ_iff.mp ((Nat.pow_lt_pow_iff_right (by omega)).mp hpow)
  have hturns : 2 ^ j * (2 * i + 1) * 2 ^ (k - j) = 2 ^ k + 2 ^ (k + 1) * i := by
    calc
      2 ^ j * (2 * i + 1) * 2 ^ (k - j) = 2 ^ (j + (k - j)) * (2 * i + 1) := by ring
      _ = 2 ^ k * (2 * i + 1) := by rw [Nat.add_sub_cancel' hj]
      _ = 2 ^ k + 2 ^ (k + 1) * i := by ring
  refine ⟨2 ^ (k - j), fun z => ?_⟩
  rw [hturns, iterate_add_apply, iterate_mul,
    iterate_fixed (hturn z) i]

variable {f : α → β}

lemma orbit_surjective (hcard : Nat.card α = 2 ^ (k + 1))
    (hturn : ∀ z, F^[2 ^ (k + 1)] z = z) (hflip : ∀ z, f (F^[2 ^ k] z) ≠ f z) (x y : α) :
    ∃ s < 2 ^ (k + 1), F^[s] x = y := by
  -- two equal states on the way would be a turn too short, and so half a turn would be none
  have hne : ∀ a b : Fin (2 ^ (k + 1)), a < b → F^[(a : Nat)] x ≠ F^[(b : Nat)] x := by
    intro a b hab heq
    obtain ⟨q, hq⟩ := exists_half_turn hturn (t := b - a) (by omega) (by omega)
    have hback : F^[(b : Nat) - a] (F^[(a : Nat)] x) = F^[(a : Nat)] x := by
      rw [← iterate_add_apply, Nat.sub_add_cancel (by omega), heq]
    apply hflip (F^[(a : Nat)] x)
    rw [← hq, iterate_mul, iterate_fixed hback q]
  have hinj : Injective fun s : Fin (2 ^ (k + 1)) => F^[(s : Nat)] x := by
    intro a b heq
    rcases lt_trichotomy a b with hab | hab | hab
    · exact absurd heq (hne a b hab)
    · exact hab
    · exact absurd heq.symm (hne b a hab)
  have : Finite α := Nat.finite_of_card_ne_zero (hcard ▸ (Nat.two_pow_pos _).ne')
  obtain ⟨s, hs⟩ := (hinj.bijective_of_nat_card_le (by rw [hcard, Nat.card_fin])).surjective y
  exact ⟨s, s.isLt, hs⟩

/-- States with the same observations from the first round on are the same. -/
lemma eq_of_observed (hcard : Nat.card α = 2 ^ (k + 1))
    (hturn : ∀ z, F^[2 ^ (k + 1)] z = z) (hflip : ∀ z, f (F^[2 ^ k] z) ≠ f z) {x y : α}
    (h : ∀ n, f (F^[n + 1] x) = f (F^[n + 1] y)) : x = y := by
  have hall : ∀ n, f (F^[n] x) = f (F^[n] y)
    | n + 1 => h n
    | 0 => by
      obtain ⟨m, hm⟩ := Nat.exists_eq_succ_of_ne_zero (Nat.two_pow_pos (k + 1)).ne'
      rw [Nat.succ_eq_add_one] at hm
      have hround := h m
      rwa [← hm, hturn, hturn] at hround
  obtain ⟨s, hs, rfl⟩ := orbit_surjective hcard hturn hflip x y
  rcases Nat.eq_zero_or_pos s with rfl | hpos
  · rfl
  -- the observations repeat after `s` rounds, so also after the multiple that is half a turn
  obtain ⟨q, hq⟩ := exists_half_turn hturn hpos hs
  have hrepeat : ∀ m, f (F^[s * m] x) = f x := by
    intro m
    induction m with
    | zero => rfl
    | succ m ih => rw [Nat.mul_succ, iterate_add_apply, ← hall (s * m), ih]
  exact absurd ((congrArg f (hq x)).symm.trans (hrepeat q)) (hflip x)

end Orbit

end Don.Foundation
