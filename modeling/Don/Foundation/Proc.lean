import Mathlib.Order.Defs.PartialOrder

/-!
# Proc — procedures on a mutable receiver that may fail or not return

A procedure takes the state of its receiver and either returns a value, returns an error, or does
not return.  A state mutated before an error stays mutated.  Recursion that follows pointers need
not end, so a procedure is given by its approximations: `run n` explores at most `n` levels of such
recursion and answers `hang` when that is not enough.  Every procedure carries the proof that more
fuel never changes an answer, so `∃ n, x.run n s = r` with `r ≠ hang` determines `r`.

`Result.Sat` is the predicate transformer of the library: one rule per construct reduces a statement
about a procedure to a statement about its parts.
-/

namespace Don.Foundation

inductive Result (σ ε α : Type) where
  | ok (a : α) (s : σ)
  | error (e : ε) (s : σ)
  | hang
  deriving DecidableEq

namespace Result

variable {σ τ ε α β : Type}

/-- `r` approximates `r'`: they agree unless `r` is no answer yet. -/
def Le (r r' : Result σ ε α) : Prop :=
  r = hang ∨ r = r'

lemma Le.refl (r : Result σ ε α) : r.Le r :=
  Or.inr rfl

lemma Le.trans {r₁ r₂ r₃ : Result σ ε α} (h₁ : r₁.Le r₂) (h₂ : r₂.Le r₃) : r₁.Le r₃ := by
  rcases h₁ with h | rfl
  · exact Or.inl h
  · exact h₂

variable {r : Result σ ε α}

lemma Le.eq_of_ne_hang {r' : Result σ ε α} (h : r.Le r') (hr : r ≠ hang) : r = r' :=
  h.resolve_left hr

lemma le_hang_iff : r.Le hang ↔ r = hang := by
  simp [Le]

/-- The answer of a continuation after an answer. -/
def bind (r : Result σ ε α) (f : α → σ → Result σ ε β) : Result σ ε β :=
  match r with
  | ok a s => f a s
  | error e s => error e s
  | hang => hang

@[simp] lemma bind_ok (a : α) (s : σ) (f : α → σ → Result σ ε β) : (ok a s).bind f = f a s := rfl

@[simp] lemma bind_error (e : ε) (s : σ) (f : α → σ → Result σ ε β) :
    (error e s : Result σ ε α).bind f = error e s := rfl

@[simp] lemma bind_hang (f : α → σ → Result σ ε β) :
    (hang : Result σ ε α).bind f = hang := rfl

lemma bind_le {r' : Result σ ε α} {f f' : α → σ → Result σ ε β} (h : r.Le r')
    (hf : ∀ a s, (f a s).Le (f' a s)) : (r.bind f).Le (r'.bind f') := by
  rcases h with rfl | rfl
  · exact Or.inl rfl
  · cases r with
    | ok a s => exact hf a s
    | error | hang => exact Le.refl _

def mapState (φ : σ → τ) : Result σ ε α → Result τ ε α
  | ok a s => ok a (φ s)
  | error e s => error e (φ s)
  | hang => hang

/-- What the caller sees of an answer, besides the state. -/
def answer : Result σ ε α → Option (Except ε α)
  | ok a _ => some (.ok a)
  | error e _ => some (.error e)
  | hang => none

/-- The answer is a value satisfying `Q`, an error satisfying `E`, or no answer when `H`. -/
def Sat (r : Result σ ε α) (Q : α → σ → Prop) (E : ε → σ → Prop) (H : Prop) : Prop :=
  match r with
  | ok a s => Q a s
  | error e s => E e s
  | hang => H

section Rules

variable {Q Q' : α → σ → Prop} {E E' : ε → σ → Prop} {H H' : Prop}

@[simp] lemma sat_ok (a : α) (s : σ) : (ok a s : Result σ ε α).Sat Q E H ↔ Q a s := Iff.rfl

@[simp] lemma sat_error (e : ε) (s : σ) : (error e s : Result σ ε α).Sat Q E H ↔ E e s := Iff.rfl

@[simp] lemma sat_hang : (hang : Result σ ε α).Sat Q E H ↔ H := Iff.rfl

lemma Sat.mono {r : Result σ ε α} (h : r.Sat Q E H) (hQ : ∀ a s, Q a s → Q' a s)
    (hE : ∀ e s, E e s → E' e s) (hH : H → H') : r.Sat Q' E' H' := by
  cases r with
  | ok a s => exact hQ a s h
  | error e s => exact hE e s h
  | hang => exact hH h

/-- An answer that is one stays one when more is explored. -/
lemma Sat.of_le {r r' : Result σ ε α} (h : r.Sat Q E False) (hle : r.Le r') :
    r'.Sat Q E False := by
  rcases hle with rfl | rfl
  · exact h.elim
  · exact h

end Rules

end Result

/-- A procedure: its approximations, and that exploring more never changes an answer. -/
structure Proc (σ ε α : Type) where
  run : Nat → σ → Result σ ε α
  mono : ∀ {m n : Nat} (s : σ), m ≤ n → (run m s).Le (run n s)

namespace Proc

open Result

variable {σ τ ε ε' α β : Type}

/-- A procedure without recursion: every approximation is the procedure itself. -/
def lift (f : σ → Result σ ε α) : Proc σ ε α :=
  ⟨fun _ s => f s, fun s _ => Le.refl (f s)⟩

instance : Monad (Proc σ ε) where
  pure a := lift fun s => .ok a s
  bind x f :=
    ⟨fun n s => (x.run n s).bind fun a s' => (f a).run n s',
      fun s h => bind_le (x.mono s h) fun a s' => (f a).mono s' h⟩

def gets (g : σ → α) : Proc σ ε α :=
  lift fun s => .ok (g s) s

def modify (g : σ → σ) : Proc σ ε Unit :=
  lift fun s => .ok () (g s)

/-- Return an error; what was done to the state before stays done. -/
def throw (e : ε) : Proc σ ε α :=
  lift fun s => .error e s

def hang : Proc σ ε α :=
  lift fun _ => .hang

def ofOption (e : ε) : Option α → Proc σ ε α
  | some a => pure a
  | none => throw e

/-- Run a procedure on a part of the state and hand its error to the caller. -/
def zoom (get : τ → σ) (set : σ → τ → τ) (x : Proc σ ε α) : Proc τ ε' (Except ε α) :=
  ⟨fun n t =>
    match x.run n (get t) with
    | .ok a s => .ok (.ok a) (set s t)
    | .error e s => .ok (.error e) (set s t)
    | .hang => .hang,
  fun t h => by
    rcases x.mono (get t) h with hle | hle
    · exact Or.inl (by rw [hle])
    · exact Or.inr (by rw [hle])⟩

/-- Run a procedure on a part of the state; its errors are errors of the whole. -/
def focus (get : τ → σ) (set : σ → τ → τ) (x : Proc σ ε α) : Proc τ ε α :=
  ⟨fun n t => (x.run n (get t)).mapState fun s => set s t,
  fun t h => by
    rcases x.mono (get t) h with hle | hle
    · exact Or.inl (by rw [hle]; rfl)
    · exact Or.inr (by rw [hle])⟩

def withState (s : σ) (x : Proc σ ε α) : Proc τ ε (α × σ) :=
  ⟨fun n t =>
    match x.run n s with
    | .ok a s' => .ok (a, s') t
    | .error e _ => .error e t
    | .hang => .hang,
  fun t h => by
    rcases x.mono s h with hle | hle
    · exact Or.inl (by rw [hle])
    · exact Or.inr (by rw [hle])⟩

/-- `x` approximates `y` at every level. -/
def Le (x y : Proc σ ε α) : Prop :=
  ∀ n s, (x.run n s).Le (y.run n s)

lemma Le.refl (x : Proc σ ε α) : x.Le x :=
  fun _ _ => Result.Le.refl _

lemma hang_le (x : Proc σ ε α) : (hang : Proc σ ε α).Le x :=
  fun _ _ => Or.inl rfl

variable {f : α → Proc σ ε β}

lemma bind_le {x x' : Proc σ ε α} {f' : α → Proc σ ε β} (hx : x.Le x')
    (hf : ∀ a, (f a).Le (f' a)) : (x >>= f).Le (x' >>= f') :=
  fun n s => Result.bind_le (hx n s) fun a s' => hf a n s'

/-- The procedure whose level-`n` approximation unfolds a recursion `n` times. -/
def limit (x : Nat → Proc σ ε α) (h : ∀ k, (x k).Le (x (k + 1))) : Proc σ ε α where
  run n s := (x n).run n s
  mono := by
    intro m n s hmn
    have hchain : ∀ k, (x m).Le (x (m + k)) := by
      intro k
      induction k with
      | zero => exact Le.refl _
      | succ k ih => exact fun l t => (ih l t).trans (h (m + k) l t)
    obtain ⟨k, rfl⟩ := Nat.exists_eq_add_of_le hmn
    exact ((x m).mono s hmn).trans (hchain k (m + k) s)

@[simp] lemma run_limit (x : Nat → Proc σ ε α) (h) (n : Nat) (s : σ) :
    (limit x h).run n s = (x n).run n s := rfl

/-! ## Symbolic execution -/

section Run

variable {n : Nat} {s : σ}

@[simp] lemma run_pure (a : α) : (pure a : Proc σ ε α).run n s = .ok a s := rfl

@[simp] lemma run_bind (x : Proc σ ε α) (f : α → Proc σ ε β) :
    (x >>= f).run n s = (x.run n s).bind fun a s' => (f a).run n s' := rfl

@[simp] lemma run_lift (f : σ → Result σ ε α) : (lift f).run n s = f s := rfl

@[simp] lemma run_gets (g : σ → α) : (gets g : Proc σ ε α).run n s = .ok (g s) s := rfl

@[simp] lemma run_modify (g : σ → σ) : (modify g : Proc σ ε Unit).run n s = .ok () (g s) := rfl

@[simp] lemma run_throw (e : ε) : (throw e : Proc σ ε α).run n s = .error e s := rfl

@[simp] lemma run_hang : (hang : Proc σ ε α).run n s = .hang := rfl

@[simp] lemma run_ofOption_some (e : ε) (a : α) :
    (ofOption e (some a) : Proc σ ε α).run n s = .ok a s := rfl

@[simp] lemma run_ofOption_none (e : ε) :
    (ofOption e (none : Option α) : Proc σ ε α).run n s = .error e s := rfl

end Run

/-! ## The predicate transformer -/

section Sat

variable {n : Nat} {s : σ} {Q : α → σ → Prop} {E : ε → σ → Prop} {H : Prop}

lemma sat_bind {x : Proc σ ε β} {f : β → Proc σ ε α} : ((x >>= f).run n s).Sat Q E H ↔
      (x.run n s).Sat (fun b s' => ((f b).run n s').Sat Q E H) E H := by
  rw [run_bind]
  cases x.run n s <;> rfl

lemma sat_zoom {get : τ → σ} {set : σ → τ → τ} {x : Proc σ ε' β} {t : τ}
    {Q : Except ε' β → τ → Prop} {E : ε → τ → Prop} :
    ((zoom get set x : Proc τ ε _).run n t).Sat Q E H ↔
      (x.run n (get t)).Sat (fun b s => Q (.ok b) (set s t)) (fun e s => Q (.error e) (set s t)) H
      := by
  simp only [zoom]
  cases x.run n (get t) <;> rfl

lemma sat_focus {get : τ → σ} {set : σ → τ → τ} {x : Proc σ ε β} {t : τ}
    {Q : β → τ → Prop} {E : ε → τ → Prop} :
    ((focus get set x).run n t).Sat Q E H ↔
      (x.run n (get t)).Sat (fun b s => Q b (set s t)) (fun e s => E e (set s t)) H := by
  simp only [focus]
  cases x.run n (get t) <;> rfl

end Sat

/-! ## Frame rules -/

/-- `x` leaves the value of `f` alone, however it ends. -/
def Keeps {γ : Type} (f : σ → γ) (x : Proc σ ε α) : Prop :=
  ∀ n s, (x.run n s).Sat (fun _ s' => f s' = f s) (fun _ s' => f s' = f s) True

section Keeps

variable {γ : Type} {f : σ → γ}

lemma keeps_lift {g : σ → Result σ ε α}
    (h : ∀ s, (g s).Sat (fun _ s' => f s' = f s) (fun _ s' => f s' = f s) True) :
    Keeps f (lift g) :=
  fun _ s => h s

lemma keeps_modify {g : σ → σ} (h : ∀ s, f (g s) = f s) : Keeps f (modify g : Proc σ ε Unit) :=
  fun _ s => h s

lemma keeps_gets (g : σ → α) : Keeps f (gets g : Proc σ ε α) :=
  fun _ _ => rfl

lemma keeps_throw (e : ε) : Keeps f (throw e : Proc σ ε α) :=
  fun _ _ => rfl

lemma keeps_hang : Keeps f (hang : Proc σ ε α) :=
  fun _ _ => trivial

lemma keeps_pure (a : α) : Keeps f (pure a : Proc σ ε α) :=
  fun _ _ => rfl

lemma Keeps.bind {x : Proc σ ε α} {k : α → Proc σ ε β} (hx : Keeps f x)
    (hk : ∀ a, Keeps f (k a)) : Keeps f (x >>= k) := by
  intro n s
  rw [sat_bind]
  refine (hx n s).mono ?_ (fun _ _ h => h) id
  intro a s' hs'
  exact (hk a n s').mono (fun _ _ h => h.trans hs') (fun _ _ h => h.trans hs') id

/-- What a first part keeps may be assumed of the state the second part starts in. -/
lemma Keeps.sat_bind {x : Proc σ ε α} {k : α → Proc σ ε β} (hx : Keeps f x) {n : Nat} {s : σ}
    {Q : β → σ → Prop} (hk : ∀ a s', f s' = f s → ((k a).run n s').Sat Q (fun _ _ => True) True) :
    ((x >>= k).run n s).Sat Q (fun _ _ => True) True := by
  rw [Proc.sat_bind]
  exact (hx n s).mono hk (fun _ _ _ => trivial) id

lemma keeps_ofOption (e : ε) (o : Option α) : Keeps f (ofOption e o : Proc σ ε α) := by
  cases o with
  | some a => exact keeps_pure a
  | none => exact keeps_throw e

lemma keeps_limit {x : Nat → Proc σ ε α} {h} (hx : ∀ k, Keeps f (x k)) : Keeps f (limit x h) :=
  fun n s => hx n n s

/-- A procedure on a part of the state keeps whatever does not depend on that part. -/
lemma keeps_zoom {get : σ → τ} {set : τ → σ → σ} {x : Proc τ ε' α} (h : ∀ t s, f (set t s) = f s) :
    Keeps f (zoom get set x : Proc σ ε _) := by
  intro n s
  rw [sat_zoom]
  cases x.run n (get s) with
  | ok a t | error e t => exact h t s
  | hang => trivial

lemma keeps_focus {get : σ → τ} {set : τ → σ → σ} {x : Proc τ ε α} (h : ∀ t s, f (set t s) = f s) :
    Keeps f (focus get set x) := by
  intro n s
  rw [sat_focus]
  cases x.run n (get s) with
  | ok a t | error e t => exact h t s
  | hang => trivial

end Keeps

/-- `x` does the same on a state and on its image. -/
def Commutes (φ : σ → σ) (x : Proc σ ε α) : Prop :=
  ∀ n s, x.run n (φ s) = (x.run n s).mapState φ

section Commutes

variable {φ : σ → σ}

lemma commutes_lift {g : σ → Result σ ε α} (h : ∀ s, g (φ s) = (g s).mapState φ) :
    Commutes φ (lift g) :=
  fun _ s => h s

lemma commutes_modify {g : σ → σ} (h : ∀ s, g (φ s) = φ (g s)) :
    Commutes φ (modify g : Proc σ ε Unit) := by
  intro n s
  simp [h, mapState]

lemma commutes_gets {g : σ → α} (h : ∀ s, g (φ s) = g s) : Commutes φ (gets g : Proc σ ε α) := by
  intro n s
  simp [h, mapState]

lemma commutes_throw (e : ε) : Commutes φ (throw e : Proc σ ε α) :=
  fun _ _ => rfl

lemma commutes_pure (a : α) : Commutes φ (pure a : Proc σ ε α) :=
  fun _ _ => rfl

lemma Commutes.bind {x : Proc σ ε α} {k : α → Proc σ ε β} (hx : Commutes φ x)
    (hk : ∀ a, Commutes φ (k a)) : Commutes φ (x >>= k) := by
  intro n s
  rw [run_bind, run_bind, hx n s]
  cases x.run n s with
  | ok a s' => exact hk a n s'
  | error | hang => rfl

lemma commutes_zoom {get : σ → τ} {set : τ → σ → σ} {x : Proc τ ε' α}
    (hget : ∀ s, get (φ s) = get s) (hset : ∀ t s, set t (φ s) = φ (set t s)) :
    Commutes φ (zoom get set x : Proc σ ε _) := by
  intro n s
  simp only [zoom, hget]
  cases x.run n (get s) <;> simp [mapState, hset]

lemma commutes_focus {get : σ → τ} {set : τ → σ → σ} {x : Proc τ ε α}
    (hget : ∀ s, get (φ s) = get s) (hset : ∀ t s, set t (φ s) = φ (set t s)) :
    Commutes φ (focus get set x) := by
  intro n s
  simp only [focus, hget]
  cases x.run n (get s) <;> simp [mapState, hset]

end Commutes

/-! ## Total correctness -/

/-- On `s` the procedure answers, with a value satisfying `Q` or an error satisfying `E`. -/
def Total (x : Proc σ ε α) (s : σ) (Q : α → σ → Prop) (E : ε → σ → Prop) : Prop :=
  ∃ n, (x.run n s).Sat Q E False

section Total

variable {s : σ} {Q : α → σ → Prop} {E : ε → σ → Prop} {x : Proc σ ε α}

lemma Total.at_level {m : Nat} (h : (x.run m s).Sat Q E False) {n : Nat}
    (hle : m ≤ n) : (x.run n s).Sat Q E False :=
  h.of_le (x.mono s hle)

lemma Total.mono {Q' : α → σ → Prop} {E' : ε → σ → Prop} (h : Total x s Q E)
    (hQ : ∀ a s', Q a s' → Q' a s') (hE : ∀ e s', E e s' → E' e s') : Total x s Q' E' := by
  obtain ⟨n, hn⟩ := h
  exact ⟨n, hn.mono hQ hE id⟩

lemma Total.attained (h : Total x s Q E) :
    Total x s (fun a s' => Q a s' ∧ ∃ n, x.run n s = .ok a s') E := by
  obtain ⟨n, hn⟩ := h
  refine ⟨n, ?_⟩
  cases hrun : x.run n s with
  | ok =>
    rw [hrun] at hn
    exact ⟨hn, n, hrun⟩
  | error =>
    rw [hrun] at hn
    exact hn
  | hang =>
    rw [hrun] at hn
    exact hn.elim

lemma total_lift {g : σ → Result σ ε α} (h : (g s).Sat Q E False) : Total (lift g) s Q E :=
  ⟨0, h⟩

lemma total_pure {a : α} (h : Q a s) : Total (pure a) s Q E :=
  ⟨0, h⟩

lemma total_gets {g : σ → α} (h : Q (g s) s) : Total (gets g) s Q E :=
  ⟨0, h⟩

lemma total_modify {Q : Unit → σ → Prop} {g : σ → σ} (h : Q () (g s)) : Total (modify g) s Q E :=
  ⟨0, h⟩

lemma total_throw {e : ε} (h : E e s) : Total (throw e) s Q E :=
  ⟨0, h⟩

lemma total_ofOption {e : ε} {o : Option α} (hsome : ∀ a, o = some a → Q a s)
    (hnone : o = none → E e s) : Total (ofOption e o) s Q E := by
  cases o with
  | some a => exact total_pure (hsome a rfl)
  | none => exact total_throw (hnone rfl)

open Total

/-- Sequencing: fuel enough for both parts is enough for the whole. -/
lemma Total.bind {x : Proc σ ε β} {f : β → Proc σ ε α}
    (h : Total x s (fun b s' => Total (f b) s' Q E) E) : Total (x >>= f) s Q E := by
  obtain ⟨m, hm⟩ := h
  cases hx : x.run m s with
  | hang =>
    rw [hx] at hm
    exact hm.elim
  | error =>
    rw [hx] at hm
    refine ⟨m, ?_⟩
    rw [run_bind, hx]
    exact hm
  | ok b s' =>
    rw [hx] at hm
    obtain ⟨k, hk⟩ := hm
    have hx' : x.run (max m k) s = .ok b s' := by
      rw [← hx]
      exact ((x.mono s (Nat.le_max_left m k)).eq_of_ne_hang (by simp [hx])).symm
    refine ⟨max m k, ?_⟩
    rw [run_bind, hx']
    exact at_level hk (Nat.le_max_right m k)

lemma Total.gets_bind {g : σ → β} {f : β → Proc σ ε α} (h : Total (f (g s)) s Q E) :
    Total (gets g >>= f) s Q E :=
  Total.bind (total_gets h)

lemma Total.modify_bind {g : σ → σ} {f : Unit → Proc σ ε α} (h : Total (f ()) (g s) Q E) :
    Total (modify g >>= f) s Q E :=
  Total.bind (total_modify h)

lemma Total.post {Q' : α → σ → Prop} (h : Total x s Q E) (hQ : ∀ a s', Q a s' → Q' a s') :
    Total x s Q' E :=
  h.mono hQ fun _ _ h => h

/-- The rule of sequencing. -/
lemma Total.seq {P : β → σ → Prop} {y : Proc σ ε β} {f : β → Proc σ ε α} (hy : Total y s P E)
    (hf : ∀ b s', P b s' → Total (f b) s' Q E) : Total (y >>= f) s Q E :=
  Total.bind (hy.post hf)

lemma total_limit {x : Nat → Proc σ ε α} {h} {k : Nat} (hk : Total (x k) s Q E) :
    Total (limit x h) s Q E := by
  obtain ⟨n, hn⟩ := hk
  have hchain : ∀ j, (x k).Le (x (k + j)) := by
    intro j
    induction j with
    | zero => exact Le.refl _
    | succ j ih => exact fun l t => (ih l t).trans (h (k + j) l t)
  obtain ⟨j, hj⟩ := Nat.exists_eq_add_of_le (Nat.le_max_left k n)
  refine ⟨max k n, ?_⟩
  rw [run_limit]
  have hlevel := at_level hn (Nat.le_max_right k n)
  have hle := hchain j (max k n) s
  rw [← hj] at hle
  exact hlevel.of_le hle

lemma total_zoom {get : τ → σ} {set : σ → τ → τ} {x : Proc σ ε' β} {t : τ}
    {Q : Except ε' β → τ → Prop} {E : ε → τ → Prop}
    (h : Total x (get t) (fun b s => Q (.ok b) (set s t)) fun e s => Q (.error e) (set s t)) :
    Total (zoom get set x : Proc τ ε _) t Q E := by
  obtain ⟨n, hn⟩ := h
  exact ⟨n, sat_zoom.2 hn⟩

end Total

/-- The procedure answers on `s`. -/
def Returns (x : Proc σ ε α) (s : σ) : Prop :=
  ∃ n, x.run n s ≠ .hang

variable {x : Proc σ ε α} {s : σ} {Q : α → σ → Prop} {E : ε → σ → Prop}

lemma Total.returns (h : Total x s Q E) : x.Returns s := by
  obtain ⟨n, hn⟩ := h
  refine ⟨n, fun hhang => ?_⟩
  rw [hhang] at hn
  exact hn

/-! ## Procedures whose termination does not depend on the state -/

/-- The procedure answers on every state. -/
def Halts (x : Proc σ ε α) : Prop :=
  ∀ s, x.Returns s

/-- The procedure answers on no state. -/
def Stuck (x : Proc σ ε α) : Prop :=
  ∀ n s, x.run n s = .hang

lemma Stuck.not_returns (h : x.Stuck) (s : σ) : ¬ x.Returns s :=
  fun ⟨n, hn⟩ => hn (h n s)

lemma halts_lift {g : σ → Result σ ε α} (h : ∀ s, g s ≠ .hang) : (lift g).Halts :=
  fun s => ⟨0, h s⟩

lemma halts_pure (a : α) : (pure a : Proc σ ε α).Halts :=
  halts_lift fun s => by simp

lemma halts_gets (g : σ → α) : (gets g : Proc σ ε α).Halts :=
  halts_lift fun s => by simp

lemma halts_modify (g : σ → σ) : (modify g : Proc σ ε Unit).Halts :=
  halts_lift fun s => by simp

lemma Halts.total (h : x.Halts) (s : σ) : Total x s (fun _ _ => True) fun _ _ => True := by
  obtain ⟨n, hn⟩ := h s
  refine ⟨n, ?_⟩
  cases hrun : x.run n s with
  | ok | error => trivial
  | hang => exact hn hrun

lemma Halts.bind (hx : x.Halts) (hf : ∀ a, (f a).Halts) : (x >>= f).Halts :=
  fun s => (Total.bind ((hx.total s).mono (fun a s' _ => (hf a).total s') fun _ _ h => h)).returns

lemma stuck_bind_left (h : x.Stuck) : (x >>= f).Stuck := by
  intro n s
  rw [run_bind, h n s]
  rfl

/-- It is enough that the second part is stuck on the values the first can return. -/
lemma stuck_bind_of {x : Proc σ Empty α} {f : α → Proc σ Empty β} {p : α → Prop}
    (hx : ∀ n s, (x.run n s).Sat (fun a _ => p a) (fun _ _ => True) True)
    (h : ∀ a, p a → (f a).Stuck) : (x >>= f).Stuck := by
  intro n s
  have hval := hx n s
  rw [run_bind]
  cases hrun : x.run n s with
  | ok a s' =>
    rw [hrun] at hval
    exact h a hval n s'
  | error e => exact e.elim
  | hang => rfl

lemma stuck_bind_right {x : Proc σ Empty α} {f : α → Proc σ Empty β} (h : ∀ a, (f a).Stuck) :
    (x >>= f).Stuck := by
  refine stuck_bind_of (p := fun _ => True) (fun n s => ?_) fun a _ => h a
  cases x.run n s <;> trivial

lemma returns_withState {x : Proc σ ε α} {t : τ} :
    (withState s x : Proc τ ε _).Returns t ↔ x.Returns s := by
  refine exists_congr fun n => not_congr ?_
  simp only [withState]
  cases x.run n s <;> simp

variable {n : Nat}

lemma run_bind_ok_iff {s₂ : σ} {b : β} :
    (x >>= f).run n s = .ok b s₂ ↔ ∃ a s₁, x.run n s = .ok a s₁ ∧ (f a).run n s₁ = .ok b s₂ := by
  rw [run_bind]
  cases hx : x.run n s with
  | ok => simp [and_assoc]
  | error | hang => simp

lemma run_of_le {s' : σ} {a : α} {m : Nat} (h : x.run m s = .ok a s')
    (hle : m ≤ n) : x.run n s = .ok a s' := by
  rw [← h]
  exact ((x.mono s hle).eq_of_ne_hang (by simp [h])).symm

lemma Total.of_run {s' : σ} {a : α}
    (h : Total x s Q E) (hrun : x.run n s = .ok a s') : Q a s' := by
  obtain ⟨k, hk⟩ := h
  have hmax := at_level hk (Nat.le_max_right n k)
  rw [run_of_le hrun (Nat.le_max_left n k)] at hmax
  exact hmax

lemma Returns.total (h : x.Returns s) (hsat : ∀ n, (x.run n s).Sat Q E True) : Total x s Q E := by
  obtain ⟨n, hn⟩ := h
  have hright := hsat n
  refine ⟨n, ?_⟩
  cases hrun : x.run n s with
  | ok | error => rwa [hrun] at hright
  | hang => exact hn hrun

lemma run_unique {m : Nat} (hm : x.run m s ≠ .hang)
    (hn : x.run n s ≠ .hang) : x.run m s = x.run n s := by
  rcases Nat.le_total m n with h | h
  · exact (x.mono s h).eq_of_ne_hang hm
  · exact ((x.mono s h).eq_of_ne_hang hn).symm

end Proc

end Don.Foundation
