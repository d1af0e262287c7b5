import Don.Foundation.Bytes

/-!
# Reader — consuming a byte string from the front

A reader takes bytes off the front of its input and returns a value with what is left, or an error.
What a reader accepts is stated as an equivalence: `r b` succeeds with `a` and `rest` exactly when `b`
is the text of `a` followed by `rest`.  Read from left to right this is canonicity (one text per
value); read from right to left it is the round trip.
-/

namespace Don.Foundation

open List Except

universe u

/-- A computation that consumes a byte string from the front. -/
abbrev Reader (ε : Type u) := StateT Bytes (Except ε)

namespace Reader

variable {ε : Type u} {α β : Type} {rest : Bytes} {b : Bytes}

lemma bind_ok_iff {x : Reader ε α} {f : α → Reader ε β} {c : β} :
    (x >>= f) b = .ok (c, rest) ↔ ∃ a mid, x b = .ok (a, mid) ∧ f a mid = .ok (c, rest) := by
  simp only [bind, StateT.bind, Except.bind]
  cases x b with
  | error => simp
  | ok p =>
    constructor
    · intro h
      exact ⟨p.1, p.2, rfl, h⟩
    · rintro ⟨a, mid, hp, h⟩
      cases hp
      exact h

@[simp] lemma pure_ok_iff {a c : α} :
    (pure a : Reader ε α) b = .ok (c, rest) ↔ c = a ∧ rest = b := by
  change ok (a, b) = .ok (c, rest) ↔ _
  simp only [ok.injEq, Prod.mk.injEq]
  exact and_congr eq_comm eq_comm

@[simp] lemma throw_ok_iff {e : ε} {c : α} :
    (throw e : Reader ε α) b = .ok (c, rest) ↔ False := by
  change (error e : Except ε (α × Bytes)) = .ok (c, rest) ↔ _
  simp

/-- A result computed without reading. -/
lemma lift_ok_iff {x : Except ε α} {a : α} :
    (liftM x : Reader ε α) b = .ok (a, rest) ↔ x = .ok a ∧ rest = b := by
  cases x with
  | error e =>
    change (error e : Except ε (α × Bytes)) = .ok (a, rest) ↔ _
    simp
  | ok a' =>
    change (ok (a', b) : Except ε (α × Bytes)) = .ok (a, rest) ↔ _
    simp only [ok.injEq, Prod.mk.injEq]
    exact and_congr Iff.rfl eq_comm

lemma guard_ok_iff {p : Prop} [Decidable p] {e : ε} {x : Reader ε α} {c : α} :
    (if p then throw e else x : Reader ε α) b = .ok (c, rest) ↔ ¬ p ∧ x b = .ok (c, rest) := by
  by_cases hp : p <;> simp [hp]

/-! ## Primitive readers -/

def remaining : Reader ε Nat := fun b => .ok (b.length, b)

variable (short : Nat → Nat → ε)

/-- The next `n` bytes; `short need have` is the error when there are fewer. -/
def take (n : Nat) : Reader ε Bytes := fun b =>
  if b.length < n then .error (short n b.length) else .ok (b.take n, b.drop n)

def u8 : Reader ε UInt8 := do
  let b ← take short 1
  return byteAt b 0

def u16 : Reader ε UInt16 := do
  let b ← take short 2
  return u16le b 0

def u32 : Reader ε UInt32 := do
  let b ← take short 4
  return u32le b 0

def u64 : Reader ε UInt64 := do
  let b ← take short 8
  return u64FromLe b

variable {short : Nat → Nat → ε} {b rest : Bytes}

@[simp] lemma remaining_ok_iff {n : Nat} :
    (remaining : Reader ε Nat) b = .ok (n, rest) ↔ n = b.length ∧ rest = b := by
  simp only [remaining, ok.injEq, Prod.mk.injEq]
  exact and_congr eq_comm eq_comm

@[simp] lemma take_ok_iff {n : Nat} {s : Bytes} :
    take short n b = .ok (s, rest) ↔ s.length = n ∧ b = s ++ rest := by
  unfold take
  by_cases hn : b.length < n
  · simp only [hn, if_true, reduceCtorEq, false_iff, not_and]
    rintro hs rfl
    simp only [length_append] at hn
    omega
  · simp only [hn, if_false, ok.injEq, Prod.mk.injEq]
    constructor
    · rintro ⟨rfl, rfl⟩
      exact ⟨by simp only [length_take]; omega, (take_append_drop n b).symm⟩
    · rintro ⟨rfl, rfl⟩
      simp

@[simp] lemma u8_ok_iff {v : UInt8} : u8 short b = .ok (v, rest) ↔ b = v :: rest := by
  simp only [u8, bind_ok_iff, take_ok_iff, pure_ok_iff]
  constructor
  · rintro ⟨s, mid, ⟨hs, rfl⟩, rfl, rfl⟩
    obtain ⟨x, rfl⟩ := length_eq_one_iff.1 hs
    rfl
  · rintro rfl
    exact ⟨[v], rest, ⟨rfl, rfl⟩, rfl, rfl⟩

@[simp] lemma u16_ok_iff {v : UInt16} :
    u16 short b = .ok (v, rest) ↔ b = u16ToLe v ++ rest := by
  simp only [u16, bind_ok_iff, take_ok_iff, pure_ok_iff]
  constructor
  · rintro ⟨s, mid, ⟨hs, rfl⟩, rfl, rfl⟩
    obtain ⟨x, y, rfl⟩ := length_eq_two.1 hs
    exact congrArg (· ++ rest) (u16ToLe_fromLe x y).symm
  · rintro rfl
    exact ⟨u16ToLe v, rest, ⟨rfl, rfl⟩, (u16FromLe_bytes v).symm, rfl⟩

@[simp] lemma u32_ok_iff {v : UInt32} :
    u32 short b = .ok (v, rest) ↔ b = u32ToLe v ++ rest := by
  simp only [u32, bind_ok_iff, take_ok_iff, pure_ok_iff]
  constructor
  · rintro ⟨s, mid, ⟨hs, rfl⟩, rfl, rfl⟩
    match s, hs with
    | [x, y, z, w], _ => exact congrArg (· ++ rest) (u32ToLe_fromLe x y z w).symm
  · rintro rfl
    exact ⟨u32ToLe v, rest, ⟨rfl, rfl⟩, (u32FromLe_bytes v).symm, rfl⟩

@[simp] lemma u64_ok_iff {v : UInt64} :
    u64 short b = .ok (v, rest) ↔ b = u64ToLe v ++ rest := by
  simp only [u64, bind_ok_iff, take_ok_iff, pure_ok_iff]
  constructor
  · rintro ⟨s, mid, ⟨hs, rfl⟩, rfl, rfl⟩
    rw [u64ToLe_fromLe hs]
  · rintro rfl
    exact ⟨u64ToLe v, rest, ⟨by simp, rfl⟩, (u64FromLe_toLe v).symm, rfl⟩

/-! ## Repetition -/

/-- `r` read `n` times in a row. -/
def times (r : Reader ε α) : Nat → Reader ε (List α)
  | 0 => pure []
  | n + 1 => do
    let a ← r
    let as ← times r n
    return a :: as

lemma times_ok_iff (r : Reader ε α) (ok : α → Prop) (write : α → Bytes)
    (hr : ∀ b a rest, r b = .ok (a, rest) ↔ ok a ∧ b = write a ++ rest) :
    ∀ (n : Nat) (b : Bytes) (as : List α) (rest : Bytes),
      times r n b = .ok (as, rest) ↔
        as.length = n ∧ (∀ a ∈ as, ok a) ∧ b = as.flatMap write ++ rest := by
  intro n
  induction n with
  | zero =>
    intro b as rest
    simp only [times, pure_ok_iff, length_eq_zero_iff]
    constructor
    · rintro ⟨rfl, rfl⟩
      simp
    · rintro ⟨rfl, _, rfl⟩
      simp
  | succ n ih =>
    intro b as rest
    simp only [times, bind_ok_iff, hr, ih, pure_ok_iff]
    constructor
    · rintro ⟨a, _, ⟨ha, rfl⟩, tail, _, ⟨hlen, htail, rfl⟩, rfl, rfl⟩
      refine ⟨by simp [hlen], ?_, by simp⟩
      intro x hx
      rcases mem_cons.1 hx with rfl | hx
      · exact ha
      · exact htail x hx
    · rintro ⟨hlen, hall, rfl⟩
      cases as with
      | nil => simp at hlen
      | cons a tail =>
        refine ⟨a, tail.flatMap write ++ rest, ⟨hall a (by simp), by simp⟩, tail, rest, ?_, rfl, rfl⟩
        exact ⟨by simpa using hlen, fun x hx => hall x (by simp [hx]), rfl⟩

end Reader

end Don.Foundation
