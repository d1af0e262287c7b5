import Mathlib.Logic.Function.Basic

/-!
# Mirror — what two parties write down about each other

A table with an entry for every ordered pair, where the entry of `(j, i)` is a fixed reflection of the
entry of `(i, j)`.  An edit of one pair writes its two entries one after the other.
-/

namespace Don.Foundation

open Function

variable {ι α : Type}

/-- Both entries of every pair say the same, up to the reflection `r`. -/
def Mirrored (r : α → α) (m : ι → ι → α) : Prop :=
  ∀ i j, m j i = r (m i j)

section

variable [DecidableEq ι]

def editAt (i j : ι) (f : α → α) (m : ι → ι → α) : ι → ι → α :=
  Function.update m i (Function.update (m i) j (f (m i j)))

lemma editAt_self (i j : ι) (f : α → α) (m : ι → ι → α) : editAt i j f m i j = f (m i j) := by
  simp [editAt]

lemma editAt_other {i j a b : ι} (f : α → α) (m : ι → ι → α) (h : ¬ (a = i ∧ b = j)) :
    editAt i j f m a b = m a b := by
  unfold editAt
  by_cases ha : a = i
  · subst ha
    have hb : b ≠ j := fun hb => h ⟨rfl, hb⟩
    simp [update_of_ne hb]
  · simp [update_of_ne ha]

lemma editAt_id (i j : ι) (m : ι → ι → α) : editAt i j (fun x => x) m = m := by
  simp [editAt]

/-- An edit of a pair keeps the table mirrored if its two halves correspond under the reflection.  A
party's entry for itself gets both halves. -/
lemma Mirrored.editPair {r f f' : α → α} {m : ι → ι → α} (h : Mirrored r m) (i j : ι)
    (hr : Involutive r) (hpair : ∀ x, f' (r x) = r (f x))
    (hself : ∀ x, x = r x → f' (f x) = r (f' (f x))) :
    Mirrored r (editAt j i f' (editAt i j f m)) := by
  intro a b
  by_cases hij : i = j
  · subst hij
    by_cases hab : a = i ∧ b = i
    · obtain ⟨rfl, rfl⟩ := hab
      rw [editAt_self, editAt_self]
      exact hself _ (h _ _)
    · have hba : ¬ (b = i ∧ a = i) := fun hba => hab ⟨hba.2, hba.1⟩
      rw [editAt_other _ _ hab, editAt_other _ _ hab, editAt_other _ _ hba, editAt_other _ _ hba]
      exact h a b
  · have hforth : editAt j i f' (editAt i j f m) i j = f (m i j) := by
      rw [editAt_other _ _ fun hc => hij hc.1, editAt_self]
    have hback : editAt j i f' (editAt i j f m) j i = f' (m j i) := by
      rw [editAt_self, editAt_other _ _ fun hc => hij hc.2]
    by_cases hab : a = i ∧ b = j
    · obtain ⟨rfl, rfl⟩ := hab
      rw [hforth, hback, h a b, hpair]
    by_cases hba : a = j ∧ b = i
    · obtain ⟨rfl, rfl⟩ := hba
      rw [hforth, hback, h b a, hpair, hr]
    · have hab' : ¬ (b = j ∧ a = i) := fun hc => hab ⟨hc.2, hc.1⟩
      have hba' : ¬ (b = i ∧ a = j) := fun hc => hba ⟨hc.2, hc.1⟩
      rw [editAt_other _ _ hba, editAt_other _ _ hab, editAt_other _ _ hab', editAt_other _ _ hba']
      exact h a b

end

end Don.Foundation
