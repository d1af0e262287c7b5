import Mathlib.Data.List.Basic

/-!
# Replica — a value replicated over an in-order channel

A receiver keeps a copy `r` of something and updates it with every message.  What the copy *will* be
is decided by the messages still on their way: `Carries update ok r queue final` says that the
receiver, starting from `r`, may process the whole queue (each message is `ok` when it arrives) and
ends with `final`.  A protocol invariant about `final` is kept by the sender appending messages and is
not touched by the receiver processing them; once nothing is on its way, `final` is the copy.
-/

namespace Don.Foundation

universe u v

variable {ρ : Type u} {μ : Type v} (update : ρ → μ → ρ) (ok : ρ → μ → Prop)

def Carries : ρ → List μ → ρ → Prop
  | r, [], final => r = final
  | r, m :: rest, final => ok r m ∧ Carries (update r m) rest final

variable {update ok} {r r' final final' : ρ} {m : μ} {queue more : List μ}

lemma Carries.append (h : Carries update ok r queue final)
    (hmore : Carries update ok final more final') : Carries update ok r (queue ++ more) final' := by
  induction queue generalizing r with
  | nil =>
    cases h
    exact hmore
  | cons m rest ih => exact ⟨h.1, ih h.2⟩

lemma carries_singleton (hok : ok r m) : Carries update ok r [m] (update r m) :=
  ⟨hok, rfl⟩

lemma Carries.preserves {P : ρ → Prop} (h : Carries update ok r queue final) (hr : P r)
    (hkeep : ∀ r, ∀ m ∈ queue, P r → P (update r m)) : P final := by
  induction queue generalizing r with
  | nil =>
    cases h
    exact hr
  | cons m rest ih =>
    exact ih h.2 (hkeep r m (by simp) hr) fun r n hn => hkeep r n (by simp [hn])

/-- The copy is overwritten by a related one while messages are on their way.  The queue still
carries it, and if some message on its way is decisive, which copy it was no longer matters. -/
lemma Carries.replace {R : ρ → ρ → Prop} (h : Carries update ok r queue final) (hr : R r r')
    (hok : ∀ r r' m, R r r' → ok r m → ok r' m)
    (hkeep : ∀ r r' m, R r r' → R (update r m) (update r' m)) (hrefl : ∀ r, R r r) :
    ∃ final', Carries update ok r' queue final' ∧ R final final' ∧
      ((∃ m ∈ queue, ∀ r r', R r r' → update r m = update r' m) → final' = final) := by
  induction queue generalizing r r' with
  | nil =>
    cases h
    exact ⟨r', rfl, hr, by simp⟩
  | cons m rest ih =>
    by_cases hdecisive : ∀ r r', R r r' → update r m = update r' m
    · -- from here on both copies are the same
      refine ⟨final, ⟨hok r r' m hr h.1, ?_⟩, hrefl final, fun _ => rfl⟩
      rw [← hdecisive r r' hr]
      exact h.2
    · rcases ih h.2 (hkeep r r' m hr) with ⟨final', hcarries, hrel, hsame⟩
      refine ⟨final', ⟨hok r r' m hr h.1, hcarries⟩, hrel, ?_⟩
      rintro ⟨n, hn, hdec⟩
      rcases List.mem_cons.1 hn with rfl | hn
      · exact absurd hdec hdecisive
      · exact hsame ⟨n, hn, hdec⟩

end Don.Foundation
