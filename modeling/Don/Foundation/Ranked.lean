import Mathlib.Logic.Relation
import Mathlib.Algebra.Order.BigOperators.Group.List
import Mathlib.Algebra.Order.Group.Nat

/-!
# Ranked — finite graphs without cycles

A graph is ranked when every edge goes to a smaller number.  A walk in a ranked graph ends within
the rank of its start, and the outgoing edges of one node may be replaced as long as none of the new
targets leads back to that node.
-/

namespace Don.Foundation

variable {α : Type}

def Ranked (edge : α → α → Prop) : Prop :=
  ∃ rank : α → Nat, ∀ a b, edge a b → rank b < rank a

namespace Ranked

variable {edge edge' : α → α → Prop}

lemma mono (h : Ranked edge) (hsub : ∀ a b, edge' a b → edge a b) : Ranked edge' := by
  obtain ⟨rank, hrank⟩ := h
  exact ⟨rank, fun a b hab => hrank a b (hsub a b hab)⟩

lemma not_cyclic (h : Ranked edge) (a : α) : ¬ Relation.TransGen edge a a := by
  obtain ⟨rank, hrank⟩ := h
  have hlt : ∀ b, Relation.TransGen edge a b → rank b < rank a := by
    intro b hab
    induction hab with
    | single hedge => exact hrank _ _ hedge
    | tail _ hedge ih => exact (hrank _ _ hedge).trans ih
  intro hcycle
  exact lt_irrefl _ (hlt a hcycle)

lemma not_back (h : Ranked edge) {a b : α} (hab : edge a b) : ¬ Relation.ReflTransGen edge b a :=
  fun hback => h.not_cyclic a (Relation.TransGen.head' hab hback)

/-- The edges out of one node may be replaced by finitely many that do not lead back to it. -/
lemma redirect (h : Ranked edge) (t : α) (targets : List α)
    (hother : ∀ a b, a ≠ t → edge' a b → edge a b) (hfin : ∀ b, edge' t b → b ∈ targets)
    (hfree : ∀ b, edge' t b → ¬ Relation.ReflTransGen edge b t) : Ranked edge' := by
  classical
  obtain ⟨rank, hrank⟩ := h
  -- lift everything that leads to `t` above all the new targets
  let height := (targets.map rank).sum + 1
  have hheight : ∀ b ∈ targets, rank b < height := by
    intro b hb
    have hle : rank b ≤ (targets.map rank).sum := List.single_le_sum (fun _ _ => Nat.zero_le _) _ (List.mem_map_of_mem hb)
    exact Nat.lt_succ_of_le hle
  refine ⟨fun a => if Relation.ReflTransGen edge a t then rank a + height else rank a, ?_⟩
  intro a b hab
  dsimp only
  by_cases ha : a = t
  · subst ha
    have hb : rank b < height := hheight b (hfin b hab)
    rw [if_neg (hfree b hab), if_pos Relation.ReflTransGen.refl]
    exact hb.trans_le (Nat.le_add_left _ _)
  · have hedge := hother a b ha hab
    have hlt := hrank a b hedge
    by_cases hb : Relation.ReflTransGen edge b t
    · rw [if_pos hb, if_pos (Relation.ReflTransGen.head hedge hb)]
      exact Nat.add_lt_add_right hlt height
    · rw [if_neg hb]
      split
      · exact hlt.trans_le (Nat.le_add_right _ _)
      · exact hlt

end Ranked

/-- Nodes closed under the edges of one graph reach the same nodes in a graph that agrees there. -/
lemma reaches_congr {edge edge' : α → α → Prop} {S : α → Prop}
    (hclosed : ∀ a b, S a → edge a b → S b) (hsame : ∀ a b, S a → (edge a b ↔ edge' a b))
    {a t : α} (ha : S a) :
    Relation.ReflTransGen edge a t ↔ Relation.ReflTransGen edge' a t := by
  constructor
  · intro h
    have hboth : S t ∧ Relation.ReflTransGen edge' a t := by
      induction h with
      | refl => exact ⟨ha, .refl⟩
      | tail _ hedge ih => exact ⟨hclosed _ _ ih.1 hedge, ih.2.tail ((hsame _ _ ih.1).1 hedge)⟩
    exact hboth.2
  · intro h
    have hboth : S t ∧ Relation.ReflTransGen edge a t := by
      induction h with
      | refl => exact ⟨ha, .refl⟩
      | tail _ hedge ih =>
        have hold := (hsame _ _ ih.1).2 hedge
        exact ⟨hclosed _ _ ih.1 hold, ih.2.tail hold⟩
    exact hboth.2

end Don.Foundation
