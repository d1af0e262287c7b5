import Mathlib.Data.List.Basic
import Mathlib.Logic.Function.Basic

/-!
# Listing — members that know their place in a list

Several lists hold members, and every member knows the list it is in and its place there.  Removing a
member moves the last one of its list into the hole, so that two records change at once.
-/

namespace Don.Foundation

open List Option

open Function (update update_of_ne update_self)

variable {α β κ : Type}

lemma mapM_eq_pure {m : Type → Type} [Monad m] [LawfulMonad m] {f : α → m β}
    {g : α → β} {l : List α} (h : ∀ x ∈ l, f x = pure (g x)) : l.mapM f = pure (l.map g) := by
  induction l with
  | nil => exact mapM_nil
  | cons x l ih =>
    rw [mapM_cons, h x mem_cons_self, ih fun y hy => h y (mem_cons_of_mem _ hy)]
    simp

/-! ## Removal by moving the last entry -/

variable (l : List α) (i : Nat)

/-- Put the last entry in the place of entry `i`, and drop the last place. -/
def swapRemove : List α :=
  match l.getLast? with
  | some a => (l.set i a).dropLast
  | none => []

lemma swapRemove_of_last {l : List α} {a : α} (ha : l[l.length - 1]? = some a) :
    swapRemove l i = (l.set i a).dropLast := by
  rw [swapRemove, getLast?_eq_getElem?, ha]

lemma swapRemove_last : swapRemove l (l.length - 1) = l.dropLast := by
  cases h : l[l.length - 1]? with
  | none =>
    have hlen := getElem?_eq_none_iff.1 h
    obtain rfl : l = [] := eq_nil_of_length_eq_zero (by omega)
    rfl
  | some =>
    obtain ⟨hlt, rfl⟩ := List.getElem?_eq_some_iff.1 h
    rw [swapRemove_of_last _ h, set_getElem_self]

lemma length_swapRemove : (swapRemove l i).length = l.length - 1 := by
  unfold swapRemove
  cases h : l.getLast? with
  | none => simp [getLast?_eq_none_iff.1 h]
  | some => simp

lemma getElem?_swapRemove (i j : Nat) :
    (swapRemove l i)[j]? = if j + 1 < l.length then if j = i then l[l.length - 1]? else l[j]? else none := by
  unfold swapRemove
  cases h : l.getLast? with
  | none => simp [getLast?_eq_none_iff.1 h]
  | some =>
    rw [getLast?_eq_getElem?] at h
    dsimp only
    rw [dropLast_eq_take, getElem?_take, length_set, getElem?_set]
    by_cases hj : j + 1 < l.length
    · rw [if_pos (by omega), if_pos hj]
      by_cases hji : j = i
      · rw [if_pos hji.symm, if_pos hji, if_pos (by omega), h]
      · rw [if_neg (Ne.symm hji), if_neg hji]
    · rw [if_neg (by omega), if_neg hj]

lemma map_swapRemove (f : α → β) (l : List α) (i : Nat) :
    (swapRemove l i).map f = swapRemove (l.map f) i := by
  refine ext_getElem? fun j => ?_
  rw [getElem?_map, getElem?_swapRemove, getElem?_swapRemove, length_map]
  split
  · split
    all_goals rw [getElem?_map]
  · rfl

/-- The entry that moves into place `i` when that is vacated. -/
def lastMoved : Option α :=
  if i = l.length - 1 then none else l[l.length - 1]?

lemma map_lastMoved (f : α → β) (l : List α) (i : Nat) :
    (lastMoved l i).map f = lastMoved (l.map f) i := by
  unfold lastMoved
  rw [length_map, getElem?_map]
  split
  · rfl
  · rfl

lemma mem_swapRemove {l : List α} {i : Nat} {a : α} (h : a ∈ swapRemove l i) : a ∈ l := by
  obtain ⟨j, hj⟩ := getElem?_of_mem h
  rw [getElem?_swapRemove] at hj
  split at hj
  · split at hj
    all_goals exact mem_of_getElem? hj
  · cases hj

/-! ## Places -/

/-- Every member knows its list and its place, and the lists have nothing else in them. -/
def Listed (place : α → Option (κ × Nat)) (lists : κ → List α) : Prop :=
  ∀ a s k, place a = some (s, k) ↔ (lists s)[k]? = some a

namespace Listed

variable {place : α → Option (κ × Nat)} {lists : κ → List α}

lemma empty : Listed (fun _ : α => none) (fun _ : κ => []) := by
  intro a s k
  simp

variable {a : α} {s : κ}

section

variable (h : Listed place lists)
include h

lemma mem_iff : a ∈ lists s ↔ ∃ k, place a = some (s, k) := by
  rw [mem_iff_getElem?]
  exact exists_congr fun k => (h a s k).symm

lemma lt {k : Nat} (ha : place a = some (s, k)) : k < (lists s).length :=
  (List.getElem?_eq_some_iff.1 ((h a s k).1 ha)).1

lemma nodup (s : κ) : (lists s).Nodup := by
  refine pairwise_iff_getElem.2 fun i j hi hj hij heq => ?_
  have hpi := (h _ s i).2 (getElem?_eq_getElem hi)
  have hpj := (h _ s j).2 (getElem?_eq_getElem hj)
  rw [heq] at hpi
  exact Nat.ne_of_lt hij (congrArg Prod.snd (some.inj (hpi.symm.trans hpj)))

lemma eq_of_mem {t : κ} (hs : a ∈ lists s) (ht : a ∈ lists t) : s = t := by
  obtain ⟨k, hk⟩ := h.mem_iff.1 hs
  obtain ⟨j, hj⟩ := h.mem_iff.1 ht
  exact congrArg Prod.fst (some.inj (hk.symm.trans hj))

lemma congr {place' : α → Option (κ × Nat)} (heq : ∀ a, place' a = place a) :
    Listed place' lists := by
  intro a s k
  rw [heq a]
  exact h a s k

end

variable [DecidableEq α] [DecidableEq κ]

lemma append (h : Listed place lists) (ha : place a = none) (s : κ) :
    Listed (update place a (some (s, (lists s).length)))
      (update lists s (lists s ++ [a])) := by
  have hfresh : ∀ t k, (lists t)[k]? ≠ some a := fun t k hk =>
    nomatch ha.symm.trans ((h a t k).2 hk)
  intro b t k
  by_cases ht : t = s
  · subst ht
    rw [update_self]
    by_cases hb : b = a
    · subst hb
      rw [update_self, getElem?_append]
      split
      · rename_i hlt
        have hne := hfresh t k
        simp only [hne, iff_false, some.injEq, Prod.mk.injEq, true_and]
        omega
      · rename_i hge
        rw [getElem?_singleton]
        by_cases hk : k - (lists t).length = 0
        · have hk' : (lists t).length = k := by omega
          simp [hk']
        · have hk' : (lists t).length ≠ k := by omega
          simp [hk, hk']
    · rw [update_of_ne hb, h b t k, getElem?_append]
      split
      · rfl
      rename_i hge
      rw [getElem?_eq_none (Nat.le_of_not_lt hge), getElem?_singleton]
      have hne : a ≠ b := Ne.symm hb
      split
      · simp [hne]
      · simp
  · rw [update_of_ne ht]
    by_cases hb : b = a
    · subst hb
      have hne := hfresh t k
      have hst : s ≠ t := Ne.symm ht
      simp [hne, hst]
    · rw [update_of_ne hb]
      exact h b t k

/-- Where members are when `a` has left its place `k` of the list `s`. -/
def leave (place : α → Option (κ × Nat)) (lists : κ → List α) (a : α) (s : κ) (k : Nat) :
    α → Option (κ × Nat) :=
  fun b => if b = a then none
    else if (lists s)[(lists s).length - 1]? = some b then some (s, k) else place b

lemma remove (h : Listed place lists) {k : Nat} (ha : place a = some (s, k)) :
    Listed (leave place lists a s k) (update lists s (swapRemove (lists s) k)) := by
  have hka := (h a s k).1 ha
  have hklt := h.lt ha
  intro b t j
  unfold leave
  by_cases ht : t = s
  · subst ht
    rw [update_self, getElem?_swapRemove]
    by_cases hb : b = a
    · -- the removed member was at place `k` only
      subst hb
      rw [if_pos rfl]
      have hnot : ∀ i, i ≠ k → (lists t)[i]? ≠ some b := by
        intro i hi hbi
        have heq := ((h b t i).2 hbi).symm.trans ha
        exact hi (congrArg Prod.snd (some.inj heq))
      split
      · split
        · have := hnot ((lists t).length - 1) (by omega)
          simp [this]
        · rename_i hjk
          have := hnot j hjk
          simp [this]
      · simp
    · rw [if_neg hb]
      by_cases hlast : (lists t)[(lists t).length - 1]? = some b
      · -- the last member has moved to `k`
        rw [if_pos hlast]
        have hkne : k ≠ (lists t).length - 1 := by
          intro hk
          rw [hk, hlast] at hka
          exact hb (some.inj hka)
        have hplace := (h b t _).2 hlast
        split
        · rename_i hj
          by_cases hjk : j = k
          · simp [hjk, hlast]
          rw [if_neg hjk]
          have hjb : (lists t)[j]? ≠ some b := by
            intro hbj
            have heq := ((h b t j).2 hbj).symm.trans hplace
            have := congrArg Prod.snd (some.inj heq)
            simp only at this
            omega
          have hkj : k ≠ j := Ne.symm hjk
          simp [hjb, hkj]
        · rename_i hj
          have hkj : k ≠ j := by omega
          simp [hkj]
      · rw [if_neg hlast, h b t j]
        split
        · split
          · rename_i hjk
            rw [hjk, hka]
            have hne : a ≠ b := Ne.symm hb
            simp [hne, hlast]
          · rfl
        · rename_i hj
          have hnone : (lists t)[j]? ≠ some b := by
            intro hbj
            have hjlt := (List.getElem?_eq_some_iff.1 hbj).1
            have hjeq : j = (lists t).length - 1 := by omega
            exact hlast (hjeq ▸ hbj)
          simp [hnone]
  · rw [update_of_ne ht]
    have hst : s ≠ t := Ne.symm ht
    by_cases hb : b = a
    · subst hb
      have hne : (lists t)[j]? ≠ some b := by
        intro hbj
        have heq := ((h b t j).2 hbj).symm.trans ha
        exact ht (congrArg Prod.fst (some.inj heq))
      simp [hne]
    · rw [if_neg hb]
      split
      · rename_i hlast
        have hne : (lists t)[j]? ≠ some b := by
          intro hbj
          have heq := ((h b t j).2 hbj).symm.trans ((h b s _).2 hlast)
          exact ht (congrArg Prod.fst (some.inj heq))
        simp [hne, hst]
      · exact h b t j

lemma rename (h : Listed place lists) {b : α} {k : Nat} (ha : place a = some (s, k))
    (hb : place b = none) :
    Listed (update (update place a none) b (some (s, k)))
      (update lists s ((lists s).set k b)) := by
  have hka := (h a s k).1 ha
  have hklt := h.lt ha
  have hfresh : ∀ t j, (lists t)[j]? ≠ some b := fun t j hj =>
    nomatch hb.symm.trans ((h b t j).2 hj)
  have hab : a ≠ b := by
    rintro rfl
    exact nomatch ha.symm.trans hb
  have honly : ∀ t j, (lists t)[j]? = some a → t = s ∧ j = k := by
    intro t j hj
    have heq := some.inj (((h a t j).2 hj).symm.trans ha)
    exact ⟨congrArg Prod.fst heq, congrArg Prod.snd heq⟩
  intro c t j
  by_cases hc : c = b
  · subst hc
    rw [update_self]
    by_cases ht : t = s
    · subst ht
      rw [update_self, getElem?_set]
      by_cases hj : k = j
      · subst hj
        simp [hklt]
      · have := hfresh t j
        simp [hj, this]
    · rw [update_of_ne ht]
      have hst : s ≠ t := Ne.symm ht
      have := hfresh t j
      simp [this, hst]
  · rw [update_of_ne hc]
    have hbc : b ≠ c := Ne.symm hc
    by_cases hca : c = a
    · subst hca
      rw [update_self]
      have hne : (update lists s ((lists s).set k b) t)[j]? ≠ some c := by
        by_cases ht : t = s
        · subst ht
          rw [update_self, getElem?_set]
          intro hj
          split at hj
          · exact hbc (some.inj hj)
          · rename_i hkj
            exact hkj (honly t j hj).2.symm
        · rw [update_of_ne ht]
          exact fun hj => ht (honly t j hj).1
      simp [hne]
    · rw [update_of_ne hca, h c t j]
      by_cases ht : t = s
      · subst ht
        rw [update_self, getElem?_set]
        by_cases hj : k = j
        · subst hj
          rw [if_pos rfl, hka]
          have hac : a ≠ c := Ne.symm hca
          simp [hklt, hbc, hac]
        · simp [hj]
      · rw [update_of_ne ht]

end Listed

end Don.Foundation
