import Mathlib

/-!
# OrderedMap — counting the keys of an ordered finite map

`Std.ExtTreeMap` gives ordered finite maps and their algebra.  What a barrier needs on top is a way
to read a *count* of entries as a statement about *which* keys are present: a map whose keys all lie
in a strictly increasing list is complete exactly when it has as many entries as the list.
-/

namespace Don.Foundation

open List

open Std (ExtTreeMap)

universe u v

section Keys

variable {α : Type u} {β : Type v} [Ord α] [Std.TransOrd α] [Std.LawfulEqOrd α]

/-- As many entries as `l` is long, each key naming a different element of `l`: the keys name all of
`l`, once each. -/
lemma map_keys_perm {γ : Type*} {t : ExtTreeMap α β} {l : List γ} {f : α → γ}
    (hinj : Function.Injective f) (hsub : ∀ k ∈ t, f k ∈ l) (hlen : l.length ≤ t.size) :
    (t.keys.map f).Perm l := by
  have hnodup : (t.keys.map f).Nodup := ExtTreeMap.nodup_keys.map hinj
  have hsubset : t.keys.map f ⊆ l := by
    intro c hc
    rcases mem_map.1 hc with ⟨k, hk, rfl⟩
    exact hsub k (ExtTreeMap.mem_keys.1 hk)
  refine (hnodup.subperm hsubset).perm_of_length_le ?_
  simpa using hlen

lemma filter_toList_key [DecidableEq α] {t : ExtTreeMap α β} {k : α} {v : β}
    (h : t[k]? = some v) : t.toList.filter (fun e => e.1 = k) = [(k, v)] := by
  have hmem : (k, v) ∈ t.toList := ExtTreeMap.mem_toList_iff_getElem?_eq_some.2 h
  have hkeys : (t.toList.map Prod.fst).Nodup := by
    rw [ExtTreeMap.map_fst_toList_eq_keys]
    exact ExtTreeMap.nodup_keys
  revert hmem hkeys
  generalize t.toList = l
  intro hmem hkeys
  induction l with
  | nil => cases hmem
  | cons e rest ih =>
    rcases nodup_cons.1 hkeys with ⟨hnot, hrest⟩
    rcases mem_cons.1 hmem with heq | hmem
    · subst heq
      have hothers : rest.filter (fun e => e.1 = k) = [] := by
        refine filter_eq_nil_iff.2 ?_
        intro e he
        have hne : e.1 ≠ k := fun hk => hnot (mem_map.2 ⟨e, he, hk⟩)
        simpa using hne
      simp [hothers]
    · have hne : e.1 ≠ k := fun hk => hnot (mem_map.2 ⟨(k, v), hmem, hk.symm⟩)
      simp [hne, ih hmem hrest]

end Keys

variable {α : Type u} {β : Type v} [Ord α] [LT α] [LE α]
variable [Std.LawfulOrderOrd α] [Std.LawfulOrderLT α]

lemma lt_asymm_of_ord {a b : α} (hab : a < b) : ¬ b < a := by
  intro hba
  have hgt : compare b a = .gt := Std.OrientedCmp.gt_iff_lt.2 (Std.compare_eq_lt.2 hab)
  have hlt : compare b a = .lt := Std.compare_eq_lt.2 hba
  simp [hgt] at hlt

lemma nodup_of_increasing {l : List α} (hl : l.Pairwise (· < ·)) : l.Nodup := by
  refine hl.imp ?_
  rintro a b hab rfl
  exact lt_asymm_of_ord hab hab

variable [Std.TransOrd α]

lemma keys_increasing (t : ExtTreeMap α β) : t.keys.Pairwise (· < ·) := by
  have hord := ExtTreeMap.ordered_keys (t := t)
  exact hord.imp fun h => Std.compare_eq_lt.1 h

variable [Std.LawfulEqOrd α]

/-- A map with keys in `l` and at least as many entries as `l` has exactly the keys `l`. -/
lemma keys_eq_of_subset {t : ExtTreeMap α β} {l : List α} (hl : l.Pairwise (· < ·))
    (hsub : ∀ k ∈ t, k ∈ l) (hlen : l.length ≤ t.size) : t.keys = l := by
  have hsubset : t.keys ⊆ l := by
    intro k hk
    exact hsub k (ExtTreeMap.mem_keys.1 hk)
  have hperm : t.keys.Perm l := by
    refine (ExtTreeMap.nodup_keys.subperm hsubset).perm_of_length_le ?_
    simpa using hlen
  refine hperm.eq_of_pairwise ?_ (keys_increasing t) hl
  intro a b _ _ hab hba
  exact absurd hba (lt_asymm_of_ord hab)

lemma size_eq_iff_forall_mem {t : ExtTreeMap α β} {l : List α} (hl : l.Pairwise (· < ·))
    (hsub : ∀ k ∈ t, k ∈ l) : t.size = l.length ↔ ∀ k ∈ l, k ∈ t := by
  constructor
  · intro hsize k hk
    have hkeys : t.keys = l := keys_eq_of_subset hl hsub hsize.ge
    exact ExtTreeMap.mem_keys.1 (hkeys ▸ hk)
  · intro hall
    have hback : l ⊆ t.keys := fun k hk => ExtTreeMap.mem_keys.2 (hall k hk)
    have hle : l.length ≤ t.keys.length := ((nodup_of_increasing hl).subperm hback).length_le
    have hkeys : t.keys = l :=
      keys_eq_of_subset hl hsub (by simpa using hle)
    rw [← ExtTreeMap.length_keys, hkeys]

end Don.Foundation
