import Mathlib.Data.List.Basic

/-!
# UpdateFirst — changing the first entry that matches

The list form of `iter_mut().find(..)` followed by an assignment: the first matching entry is
replaced in place, everything else stays where it is.
-/

namespace Don.Foundation

open List

universe u v

variable {α : Type u} {β : Type v}

/-- Apply `f` to the first entry satisfying `p`. -/
def updateFirst (p : α → Bool) (f : α → α) : List α → List α
  | [] => []
  | a :: rest => if p a then f a :: rest else a :: updateFirst p f rest

variable {p : α → Bool} {f : α → α}

/-- Projections that `f` leaves alone are left alone everywhere. -/
lemma map_updateFirst {g : α → β} (hg : ∀ a, p a → g (f a) = g a) :
    ∀ l : List α, (updateFirst p f l).map g = l.map g := by
  intro l
  induction l with
  | nil => rfl
  | cons a rest ih =>
    by_cases ha : p a
    · simp [updateFirst, ha, hg a ha]
    · simp [updateFirst, ha, ih]

/-- Only the entry `find?` returns is changed. -/
lemma map_updateFirst_of_find {g : α → β} {a : α} :
    ∀ {l : List α}, l.find? p = some a → g (f a) = g a →
      (updateFirst p f l).map g = l.map g := by
  intro l
  induction l with
  | nil =>
    intro hfind
    cases hfind
  | cons b rest ih =>
    intro hfind hg
    by_cases hb : p b
    · obtain rfl : b = a := by simpa [List.find?_cons, hb] using hfind
      simp [updateFirst, hb, hg]
    · have hrest : rest.find? p = some a := by simpa [List.find?_cons, hb] using hfind
      simp [updateFirst, hb, ih hrest hg]

lemma map_updateFirst_comm {g : α → β} {p' : β → Bool} {f' : β → β}
    (hp : ∀ a, p a = p' (g a)) (hf : ∀ a, g (f a) = f' (g a)) :
    ∀ l : List α, (updateFirst p f l).map g = updateFirst p' f' (l.map g) := by
  intro l
  induction l with
  | nil => rfl
  | cons a rest ih =>
    by_cases ha : p a
    · have ha' : p' (g a) := hp a ▸ ha
      simp [updateFirst, ha, ha', hf]
    · have ha' : ¬ p' (g a) := hp a ▸ ha
      simp [updateFirst, ha, ha', ih]

lemma updateFirst_eq_map {κ : Type*} [DecidableEq κ] {key : α → κ} {k : κ} :
    ∀ {l : List α}, (l.map key).Nodup →
      updateFirst (fun a => decide (key a = k)) f l = l.map fun a => if key a = k then f a else a := by
  intro l
  induction l with
  | nil =>
    intro _
    rfl
  | cons a rest ih =>
    intro hnodup
    rcases nodup_cons.1 hnodup with ⟨hnot, hrest⟩
    by_cases ha : key a = k
    · have hothers : rest.map (fun b => if key b = k then f b else b) = rest := by
        refine (map_congr_left ?_).trans (map_id rest)
        intro b hb
        have hne : key b ≠ k := fun hk => hnot (mem_map.2 ⟨b, hb, hk.trans ha.symm⟩)
        simp [hne]
      simp [updateFirst, ha, hothers]
    · simp [updateFirst, ha, ih hrest]

lemma mem_updateFirst {b : α} :
    ∀ {l : List α}, b ∈ updateFirst p f l → b ∈ l ∨ ∃ a ∈ l, p a ∧ b = f a := by
  intro l
  induction l with
  | nil =>
    intro hb
    cases hb
  | cons a rest ih =>
    intro hb
    by_cases ha : p a
    · rw [updateFirst, if_pos ha] at hb
      rcases mem_cons.1 hb with rfl | hb
      · exact Or.inr ⟨a, by simp, ha, rfl⟩
      · exact Or.inl (by simp [hb])
    · rw [updateFirst, if_neg ha] at hb
      rcases mem_cons.1 hb with rfl | hb
      · exact Or.inl (by simp)
      · rcases ih hb with hold | ⟨c, hc, hpc, heq⟩
        · exact Or.inl (by simp [hold])
        · exact Or.inr ⟨c, by simp [hc], hpc, heq⟩

/-- No entry is lost: each is still there, or there in its changed form. -/
lemma exists_mem_updateFirst {a : α} :
    ∀ {l : List α}, a ∈ l → ∃ b ∈ updateFirst p f l, b = a ∨ (p a ∧ b = f a) := by
  intro l
  induction l with
  | nil =>
    intro ha
    cases ha
  | cons c rest ih =>
    intro ha
    by_cases hc : p c
    · rw [updateFirst, if_pos hc]
      rcases mem_cons.1 ha with rfl | ha
      · exact ⟨f a, by simp, Or.inr ⟨hc, rfl⟩⟩
      · exact ⟨a, by simp [ha], Or.inl rfl⟩
    · rw [updateFirst, if_neg hc]
      rcases mem_cons.1 ha with rfl | ha
      · exact ⟨a, by simp, Or.inl rfl⟩
      · rcases ih ha with ⟨b, hb, hab⟩
        exact ⟨b, by simp [hb], hab⟩

lemma exists_updated {a : α} :
    ∀ {l : List α}, a ∈ l → p a → ∃ c ∈ l, p c ∧ f c ∈ updateFirst p f l := by
  intro l
  induction l with
  | nil =>
    intro ha
    cases ha
  | cons c rest ih =>
    intro ha hpa
    by_cases hc : p c
    · exact ⟨c, by simp, hc, by simp [updateFirst, hc]⟩
    have hrest : a ∈ rest := by
      rcases mem_cons.1 ha with rfl | ha
      · exact absurd hpa hc
      · exact ha
    rcases ih hrest hpa with ⟨b, hb, hpb, hmem⟩
    exact ⟨b, by simp [hb], hpb, by simp [updateFirst, hc, hmem]⟩

lemma find?_updateFirst (hf : ∀ a, p a → p (f a)) :
    ∀ l : List α, (updateFirst p f l).find? p = (l.find? p).map f := by
  intro l
  induction l with
  | nil => rfl
  | cons a rest ih =>
    by_cases ha : p a
    · simp [updateFirst, ha, hf a ha]
    · simp [updateFirst, ha, ih]

lemma find?_updateFirst_of_disjoint {q : α → Bool} :
    ∀ {l : List α}, (∀ a ∈ l, p a → q a = false ∧ q (f a) = false) →
      (updateFirst p f l).find? q = l.find? q := by
  intro l
  induction l with
  | nil =>
    intro _
    rfl
  | cons a rest ih =>
    intro h
    by_cases ha : p a
    · rcases h a (by simp) ha with ⟨hold, hnew⟩
      simp [updateFirst, ha, hold, hnew]
    · have hrest := ih fun b hb => h b (by simp [hb])
      by_cases hq : q a
      · simp [updateFirst, ha, hq]
      · simp [updateFirst, ha, hq, hrest]

end Don.Foundation
