import Mathlib.Data.List.Basic

/-!
# Machine — runs of a deterministic step function

A component is a step function `step : σ → ι → σ`; a run is a fold of it over a list of inputs.
This module gives the vocabulary for statements about *whole runs* and the rules that reduce them
to statements about one step:

* `run step s is` — the state after the inputs `is`;
* `Throughout step P s is` — `P` holds in every state the run passes through;
* `Admissible step ok s is` — every input of the run meets `ok` in the state it is applied to;
* `Reaches step A s s'` — some run of inputs satisfying `A` leads from `s` to `s'`.
-/

namespace Don.Foundation

open List

universe u v

variable {σ : Type u} {ι : Type v} (step : σ → ι → σ) (s : σ)

/-- The state after applying the inputs from left to right. -/
def run (is : List ι) : σ :=
  is.foldl step s

/-- `P` holds in the initial state and after every input of the run. -/
def Throughout (P : σ → Prop) : σ → List ι → Prop
  | s, [] => P s
  | s, i :: is => P s ∧ Throughout P (step s i) is

/-- Every input meets `ok` in the state in which the run applies it. -/
def Admissible (ok : σ → ι → Prop) : σ → List ι → Prop
  | _, [] => True
  | s, i :: is => ok s i ∧ Admissible ok (step s i) is

instance decidableAdmissible {ok : σ → ι → Prop} [∀ s i, Decidable (ok s i)] :
    ∀ (s : σ) (is : List ι), Decidable (Admissible step ok s is)
  | _, [] => isTrue trivial
  | s, i :: is =>
    @instDecidableAnd _ _ inferInstance (decidableAdmissible (step s i) is)

@[simp] lemma run_nil : run step s [] = s := rfl

@[simp] lemma run_cons (i : ι) (is : List ι) :
    run step s (i :: is) = run step (step s i) is := rfl

lemma run_append (is js : List ι) : run step s (is ++ js) = run step (run step s is) js := by
  simp [run]

/-- Some run of inputs satisfying `A` leads from `s` to `s'`. -/
def Reaches (A : ι → Prop) (s s' : σ) : Prop :=
  ∃ is : List ι, (∀ i ∈ is, A i) ∧ run step s is = s'

variable {A : ι → Prop}

lemma Reaches.refl : Reaches step A s s :=
  ⟨[], by simp, rfl⟩

variable {step} in
lemma Reaches.tail {s s' : σ} (h : Reaches step A s s') {i : ι} (hi : A i) :
    Reaches step A s (step s' i) := by
  rcases h with ⟨is, his, rfl⟩
  refine ⟨is ++ [i], ?_, run_append step s is [i]⟩
  intro j hj
  rcases mem_append.1 hj with hj | hj
  · exact his j hj
  · rw [mem_singleton.1 hj]
    exact hi

lemma admissible_iff_forall_mem (is : List ι) :
    Admissible step (fun _ i => A i) s is ↔ ∀ i ∈ is, A i := by
  induction is generalizing s with
  | nil => simp [Admissible]
  | cons i is ih => simp [Admissible, ih]

/-! ## Invariant rules -/

section Rules

variable {step}
variable {I P : σ → Prop} {A : σ → ι → Prop}

/-- What one step on an input of `G` preserves, a whole run of such inputs preserves. -/
lemma run_invariant_on {G : ι → Prop} (hstep : ∀ s i, G i → I s → I (step s i)) :
    ∀ (is : List ι) (s : σ), (∀ i ∈ is, G i) → I s → I (run step s is) := by
  intro is
  induction is with
  | nil =>
    intro s _ hs
    simpa using hs
  | cons i is ih =>
    intro s hG hs
    have hnext : I (step s i) := hstep s i (hG i (by simp)) hs
    simpa using ih (step s i) (fun j hj => hG j (by simp [hj])) hnext

lemma run_invariant (hstep : ∀ s i, I s → I (step s i)) (is : List ι) (s : σ) (hs : I s) :
    I (run step s is) :=
  run_invariant_on (G := fun _ => True) (fun s i _ h => hstep s i h) is s (fun _ _ => trivial) hs

lemma throughout_iff_prefixes (is : List ι) (s : σ) :
    Throughout step P s is ↔ ∀ pre, pre <+: is → P (run step s pre) := by
  induction is generalizing s with
  | nil =>
    simp [Throughout]
  | cons i is ih =>
    constructor
    · rintro ⟨hs, hrest⟩ pre hpre
      cases pre with
      | nil => simpa using hs
      | cons j pre =>
        obtain ⟨rfl, hpre'⟩ := cons_prefix_cons.1 hpre
        simpa using (ih (step s j)).1 hrest pre hpre'
    · intro h
      refine ⟨h [] nil_prefix, (ih (step s i)).2 ?_⟩
      intro pre hpre
      simpa using h (i :: pre) (cons_prefix_cons.2 ⟨rfl, hpre⟩)

/-- On an admissible run an inductive property holds in every state passed through. -/
lemma throughout_of_admissible (hstep : ∀ s i, I s → A s i → I (step s i)) (hP : ∀ s, I s → P s) :
    ∀ (is : List ι) (s : σ), I s → Admissible step A s is → Throughout step P s is := by
  intro is
  induction is with
  | nil =>
    intro s hs _
    exact hP s hs
  | cons i is ih =>
    intro s hs hadm
    exact ⟨hP s hs, ih (step s i) (hstep s i hs hadm.1) hadm.2⟩

/-- When, under an invariant, a step on an input of `G` keeps `P` exactly if it meets `A`, a run of
such inputs keeps `P` throughout exactly if it is admissible. -/
lemma throughout_iff_admissible {G : ι → Prop} (hkeep : ∀ s i, G i → I s → P s → I (step s i))
    (hiff : ∀ s i, G i → I s → P s → (P (step s i) ↔ A s i)) :
    ∀ (is : List ι) (s : σ), (∀ i ∈ is, G i) → I s → P s →
      (Throughout step P s is ↔ Admissible step A s is) := by
  intro is
  induction is with
  | nil =>
    intro s _ _ hP
    simp [Throughout, Admissible, hP]
  | cons i is ih =>
    intro s hG hInv hP
    have hi : G i := hG i (by simp)
    have hrestG : ∀ j ∈ is, G j := fun j hj => hG j (by simp [hj])
    have hInv' : I (step s i) := hkeep s i hi hInv hP
    constructor
    · rintro ⟨_, hrest⟩
      have hP' : P (step s i) := by
        cases is with
        | nil => exact hrest
        | cons => exact hrest.1
      exact ⟨(hiff s i hi hInv hP).1 hP', (ih (step s i) hrestG hInv' hP').1 hrest⟩
    · rintro ⟨hok, hrest⟩
      have hP' : P (step s i) := (hiff s i hi hInv hP).2 hok
      exact ⟨hP, (ih (step s i) hrestG hInv' hP').2 hrest⟩

end Rules

end Don.Foundation
