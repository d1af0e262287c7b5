import Mathlib.Logic.Basic

/-!
# Outcome — fallible methods on a mutable receiver

A method that takes its receiver by mutable reference and returns a result is a function from a
state to an `Outcome`: the state it leaves behind *and* the value or error it returns.  The two
components are independent on purpose: a method that returns early with an error keeps every
mutation it made before the error.

`Outcome.andThen` is the early-return operator.  The rules at the end of the file carry a property
of the state through it, so that clients never unfold `andThen`.
-/

namespace Don.Foundation

universe u v w

/-- The state a fallible method leaves behind, together with what it returns. -/
structure Outcome (σ : Type u) (ε : Type v) (α : Type w) where
  state : σ
  result : Except ε α

namespace Outcome

variable {σ : Type u} {ε : Type v} {α β : Type w} (s : σ) (a : α)

/-- Return normally from state `s`. -/
def ok : Outcome σ ε α :=
  ⟨s, .ok a⟩

/-- Return an error from state `s`; whatever happened to `s` before stays. -/
def error (e : ε) : Outcome σ ε α :=
  ⟨s, .error e⟩

/-- Early return: continue with `k` on success, stop with the state reached on an error. -/
def andThen (o : Outcome σ ε α) (k : σ → α → Outcome σ ε β) : Outcome σ ε β :=
  match o.result with
  | .ok a => k o.state a
  | .error e => error o.state e

@[simp] lemma state_ok : (ok s a : Outcome σ ε α).state = s := rfl

@[simp] lemma state_error (e : ε) : (error s e : Outcome σ ε α).state = s := rfl

@[simp] lemma result_ok : (ok s a : Outcome σ ε α).result = .ok a := rfl

@[simp] lemma result_error (e : ε) :
    (error s e : Outcome σ ε α).result = .error e := rfl

@[simp] lemma ok_andThen (k : σ → α → Outcome σ ε β) :
    (ok s a).andThen k = k s a := rfl

variable {o : Outcome σ ε α}

lemma andThen_of_ok {a : α} (h : o.result = .ok a)
    (k : σ → α → Outcome σ ε β) : o.andThen k = k o.state a := by
  simp [andThen, h]

lemma andThen_of_error {e : ε} (h : o.result = .error e)
    (k : σ → α → Outcome σ ε β) : o.andThen k = error o.state e := by
  simp [andThen, h]

/-! ## Carrying a property of the state -/

/-- A property of the state survives `andThen` when the continuation preserves it. -/
lemma andThen_state {P : σ → Prop} {k : σ → α → Outcome σ ε β}
    (ho : P o.state) (hk : ∀ s a, P s → P (k s a).state) : P (o.andThen k).state := by
  unfold andThen
  cases h : o.result with
  | ok a => exact hk _ a ho
  | error => simpa using ho

/-- If both parts leave the value of `f` alone, so does their composition. -/
lemma andThen_frame {γ : Type*} (f : σ → γ)
    {k : σ → α → Outcome σ ε β} {c : γ} (ho : f o.state = c)
    (hk : ∀ s a, f s = c → f (k s a).state = c) : f (o.andThen k).state = c :=
  andThen_state (P := fun s => f s = c) ho hk

end Outcome

end Don.Foundation
