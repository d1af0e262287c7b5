import Mathlib.Data.List.Nodup
import Mathlib.Data.List.Range

/-!
# Numbered — lists that carry their own positions

A list is numbered by `f` when `f` gives each entry its position.  Appending keeps a numbering when
the newcomer is given the old length.  Removing entries keeps it exactly when nothing is removed from
in front of an entry that stays, because nobody is renumbered.
-/

namespace Don.Foundation

open List

universe u

variable {α : Type u} {f : α → Nat} {l : List α}

def Numbered (f : α → Nat) (l : List α) : Prop :=
  l.map f = List.range l.length

lemma Numbered.nodup (h : Numbered f l) : (l.map f).Nodup := by
  rw [h]
  exact nodup_range

lemma numbered_iff_getElem : Numbered f l ↔ ∀ (k : Nat) (hk : k < l.length), f l[k] = k := by
  constructor
  · intro h k hk
    have hat : (l.map f)[k]? = (List.range l.length)[k]? := by rw [h]
    simpa [hk] using hat
  · intro h
    refine ext_getElem (by simp) ?_
    intro k hk _
    simpa using h k (by simpa using hk)

lemma Numbered.append (h : Numbered f l) {a : α} (ha : f a = l.length) :
    Numbered f (l ++ [a]) := by
  unfold Numbered
  rw [map_append, h, length_append, map_singleton, ha]
  exact range_succ.symm

lemma Numbered.take (h : Numbered f l) (n : Nat) : Numbered f (l.take n) := by
  unfold Numbered
  rw [map_take, h, take_range, length_take]

/-- Removing entries keeps the numbering exactly when what stays is an initial segment. -/
lemma Numbered.filter_iff (h : Numbered f l) (keep : α → Bool) :
    Numbered f (l.filter keep) ↔ l.filter keep <+: l := by
  constructor
  · intro hkept
    have hle : (l.filter keep).length ≤ l.length := length_filter_le _ _
    -- position by position, the entry that stayed and the old entry carry the same number
    have heq : l.filter keep = l.take (l.filter keep).length := by
      refine ext_getElem (by simp [hle]) ?_
      intro k hk hk'
      have hold : k < l.length := lt_of_lt_of_le hk hle
      have hmem : (l.filter keep)[k] ∈ l := (mem_filter.1 (getElem_mem hk)).1
      rw [getElem_take]
      refine inj_on_of_nodup_map h.nodup hmem (getElem_mem hold) ?_
      rw [numbered_iff_getElem.1 hkept k hk, numbered_iff_getElem.1 h k hold]
    rw [heq]
    exact take_prefix _ _
  · intro hpre
    rw [prefix_iff_eq_take.1 hpre]
    exact h.take _

end Don.Foundation
