import Don.Foundation.Reader

/-!
# Layout — records written and read field by field

A reader *reads* a set of values under a text function when it accepts exactly the texts of those
values.  A record whose reader takes its fields one after the other reads the records whose parts
are the texts of the fields: one rule per field, and a last one for the record itself.
-/

namespace Don.Foundation

open Reader List

variable {ε : Type} {α β : Type}

/-- `r` accepts exactly the texts of the values that satisfy `ok`. -/
def Reads (r : Reader ε α) (ok : α → Prop) (text : α → Bytes) : Prop :=
  ∀ b a rest, r b = .ok (a, rest) ↔ ok a ∧ b = text a ++ rest

namespace Reads

variable {r : Reader ε α} {ok ok' : α → Prop} {text : α → Bytes}

lemma ok_iff (h : Reads r ok text) {b rest : Bytes} {a : α} :
    r b = .ok (a, rest) ↔ ok a ∧ b = text a ++ rest :=
  h b a rest

lemma run (h : Reads r ok text) {a : α} (ha : ok a) (rest : Bytes) :
    r (text a ++ rest) = .ok (a, rest) :=
  (h _ _ _).2 ⟨ha, rfl⟩

lemma congr (h : Reads r ok text) (hok : ∀ a, ok' a ↔ ok a) : Reads r ok' text := by
  intro b a rest
  rw [h b a rest, hok a]

lemma field {f : α → Reader ε β} {okRecord : β → Prop} {parts : β → List Bytes} (get : β → α)
    (hr : Reads r ok text)
    (hf : ∀ a, Reads (f a) (fun c => okRecord c ∧ get c = a) (fun c => (parts c).flatten)) :
    Reads (r >>= f) (fun c => okRecord c ∧ ok (get c))
      (fun c => (text (get c) :: parts c).flatten) := by
  intro b c rest
  rw [bind_ok_iff]
  constructor
  · rintro ⟨a, mid, hfirst, hrest⟩
    obtain ⟨ha, rfl⟩ := (hr _ _ _).1 hfirst
    obtain ⟨⟨hc, rfl⟩, rfl⟩ := (hf a _ _ _).1 hrest
    exact ⟨⟨hc, ha⟩, by simp⟩
  · rintro ⟨⟨hc, ha⟩, rfl⟩
    refine ⟨get c, (parts c).flatten ++ rest, ?_, (hf _ _ _ _).2 ⟨⟨hc, rfl⟩, rfl⟩⟩
    exact (hr _ _ _).2 ⟨ha, by simp⟩

/-- The same for a field that has no condition of its own. -/
lemma always {f : α → Reader ε β} {okRecord : β → Prop} {parts : β → List Bytes} {get : β → α}
    (hr : Reads r (fun _ => True) text)
    (hf : ∀ a, Reads (f a) (fun c => okRecord c ∧ get c = a) (fun c => (parts c).flatten)) :
    Reads (r >>= f) okRecord (fun c => (text (get c) :: parts c).flatten) :=
  (field get hr hf).congr (by simp)

lemma record {a : α} (h : ∀ c, ok c ↔ c = a) :
    Reads (pure a : Reader ε α) ok (fun _ => ([] : List Bytes).flatten) := by
  intro b c rest
  rw [pure_ok_iff, h c]
  simp only [flatten_nil, nil_append]
  exact and_congr Iff.rfl eq_comm

end Reads

/-! ## Checks -/

/-- Stop with `e` when `p` holds. -/
def refuse {m : Type → Type} [Monad m] [MonadExcept ε m] (p : Prop) [Decidable p] (e : ε) :
    m Unit :=
  if p then throw e else pure ()

variable {p : Prop} {e : ε}

@[simp] lemma refuse_ok_iff [Decidable p] {u : Unit} :
    (refuse p e : Except ε Unit) = .ok u ↔ ¬ p := by
  by_cases hp : p <;> simp [refuse, hp, throw, throwThe, MonadExceptOf.throw, pure, Except.pure]

variable {b : Bytes}

@[simp] lemma Reader.refuse_ok_iff [Decidable p] {u : Unit} {rest : Bytes} :
    (refuse p e : Reader ε Unit) b = .ok (u, rest) ↔ ¬ p ∧ rest = b := by
  by_cases hp : p <;> simp [refuse, hp]

/-- The value, or `e` when there is none. -/
def okOr {m : Type → Type} [Monad m] [MonadExcept ε m] (e : ε) : Option α → m α
  | some a => pure a
  | none => throw e

@[simp] lemma okOr_ok_iff {x : Option α} {a : α} :
    (okOr e x : Except ε α) = .ok a ↔ x = some a := by
  cases x <;> simp [okOr, throw, throwThe, MonadExceptOf.throw, pure, Except.pure]

@[simp] lemma Reader.okOr_ok_iff {x : Option α} {a : α} {rest : Bytes} :
    (okOr e x : Reader ε α) b = .ok (a, rest) ↔ x = some a ∧ rest = b := by
  cases x with
  | none => simp [okOr]
  | some =>
    simp only [okOr, pure_ok_iff, Option.some.injEq]
    exact and_congr eq_comm Iff.rfl

variable {x : Except ε α}

lemma except_bind_ok_iff {f : α → Except ε β} {c : β} :
    (x >>= f) = .ok c ↔ ∃ a, x = .ok a ∧ f a = .ok c := by
  cases x with
  | error | ok => simp [bind, Except.bind]

lemma except_pure_ok_iff {a c : α} : (pure a : Except ε α) = .ok c ↔ c = a := by
  simp [pure, Except.pure, eq_comm]

lemma except_error_ok_iff [Decidable p] {c : α} :
    (if p then .error e else x) = .ok c ↔ ¬ p ∧ x = .ok c := by
  by_cases hp : p <;> simp [hp]

/-- A check in front of the rest of a block. -/
lemma except_check_ok_iff [Decidable p] {f : β → Except ε α}
    {c : α} : (if p then throw e >>= f else x) = .ok c ↔ ¬ p ∧ x = .ok c :=
  except_error_ok_iff

lemma mapError_ok_iff {ε' : Type} {f : ε → ε'} {a : α} : x.mapError f = .ok a ↔ x = .ok a := by
  cases x <;> simp [Except.mapError]

/-! ## Words at an offset -/

lemma byteAt_drop (b : Bytes) (o k : Nat) : byteAt (b.drop o) k = byteAt b (o + k) := by
  simp [byteAt, getD]

variable {o : Nat}

lemma drop_byteAt (h : o < b.length) : b.drop o = byteAt b o :: b.drop (o + 1) := by
  rw [drop_eq_getElem_cons h]
  simp [byteAt, getD, h]

lemma drop_u32le (h : o + 4 ≤ b.length) : b.drop o = u32ToLe (u32le b o) ++ b.drop (o + 4) := by
  rw [u32le, u32ToLe_fromLe]
  rw [drop_byteAt (by omega), drop_byteAt (o := o + 1) (by omega),
    drop_byteAt (o := o + 2) (by omega), drop_byteAt (o := o + 3) (by omega)]
  rfl

lemma drop_i32le (h : o + 4 ≤ b.length) : b.drop o = i32ToLe (i32le b o) ++ b.drop (o + 4) :=
  drop_u32le h

lemma drop_u16le (h : o + 2 ≤ b.length) : b.drop o = u16ToLe (u16le b o) ++ b.drop (o + 2) := by
  rw [u16le, u16ToLe_fromLe]
  rw [drop_byteAt (by omega), drop_byteAt (o := o + 1) (by omega)]
  rfl

lemma u32le_of_drop {t : Bytes} {v : UInt32} (h : b.drop o = u32ToLe v ++ t) : u32le b o = v := by
  have hbyte : ∀ k, byteAt b (o + k) = byteAt (u32ToLe v ++ t) k := fun k => by
    rw [← byteAt_drop, h]
  have h0 := hbyte 0
  rw [Nat.add_zero] at h0
  rw [u32le, h0, hbyte, hbyte, hbyte]
  exact u32FromLe_bytes v

lemma i32le_of_drop {t : Bytes} {v : Int32} (h : b.drop o = i32ToLe v ++ t) : i32le b o = v := by
  rw [i32le, u32le_of_drop h, Int32.toInt32_toUInt32]

lemma u16le_of_drop {t : Bytes} {v : UInt16} (h : b.drop o = u16ToLe v ++ t) : u16le b o = v := by
  have hbyte : ∀ k, byteAt b (o + k) = byteAt (u16ToLe v ++ t) k := fun k => by
    rw [← byteAt_drop, h]
  have h0 := hbyte 0
  rw [Nat.add_zero] at h0
  rw [u16le, h0, hbyte]
  exact u16FromLe_bytes v

/-! ## Signed words, flags and optional parts -/

/-- `i16::to_le_bytes`. -/
def i16ToLe (v : Int16) : Bytes :=
  u16ToLe v.toUInt16

/-- `i8 as u8`. -/
def i8ToLe (v : Int8) : Bytes :=
  [v.toUInt8]

def flagText (v : Bool) : Bytes :=
  [if v then 1 else 0]

/-- A flag that says whether the part follows, then the part. -/
def optionText (text : α → Bytes) : Option α → Bytes
  | none => flagText false
  | some a => flagText true ++ text a

def lengthText (n : Nat) : Bytes :=
  u32ToLe (UInt32.ofNat n)

@[simp] lemma length_lengthText (n : Nat) : (lengthText n).length = 4 := rfl

namespace Reader

variable {short : Nat → Nat → ε}

variable (short : Nat → Nat → ε)

def i8 : Reader ε Int8 := do
  let v ← u8 short
  return v.toInt8

def i16 : Reader ε Int16 := do
  let v ← u16 short
  return v.toInt16

def i32 : Reader ε Int32 := do
  let v ← u32 short
  return v.toInt32

/-- A flag, where every byte but zero and one is an error. -/
def flag (bad : ε) : Reader ε Bool := do
  let v ← u8 short
  if v = 0 then pure false
  else if v = 1 then pure true
  else throw bad

/-- A length, refused above `max`. -/
def count (max : Nat) (long : ε) : Reader ε Nat := do
  let n ← u32 short
  refuse (max < n.toNat) long
  return n.toNat

def optional (flag : Reader ε Bool) (r : Reader ε α) : Reader ε (Option α) := do
  let present ← flag
  if present then
    let a ← r
    return some a
  else
    return none

end Reader

namespace Reads

variable {short : Nat → Nat → ε}

lemma u8 : Reads (u8 short) (fun _ => True) (fun v => [v]) := by
  intro b v rest
  simp

lemma u16 : Reads (u16 short) (fun _ => True) u16ToLe := by
  intro b v rest
  simp

lemma u32 : Reads (u32 short) (fun _ => True) u32ToLe := by
  intro b v rest
  simp

lemma convert {r : Reader ε α} {text : α → Bytes} (into : α → β) (back : β → α)
    (hto : ∀ a, back (into a) = a) (hback : ∀ c, into (back c) = c)
    (hr : Reads r (fun _ => True) text) :
    Reads (do let a ← r; return into a) (fun _ => True) (fun c => text (back c)) := by
  intro b c rest
  simp only [bind_ok_iff, pure_ok_iff]
  constructor
  · rintro ⟨a, mid, hread, rfl, rfl⟩
    obtain ⟨-, rfl⟩ := (hr _ _ _).1 hread
    exact ⟨trivial, by rw [hto]⟩
  · rintro ⟨-, rfl⟩
    exact ⟨back c, rest, (hr _ _ _).2 ⟨trivial, rfl⟩, (hback c).symm, rfl⟩

lemma i8 : Reads (i8 short) (fun _ => True) i8ToLe :=
  convert UInt8.toInt8 Int8.toUInt8 (fun _ => rfl) (fun _ => rfl) u8

lemma i16 : Reads (i16 short) (fun _ => True) i16ToLe :=
  convert UInt16.toInt16 Int16.toUInt16 (fun _ => rfl) (fun _ => rfl) u16

lemma i32 : Reads (i32 short) (fun _ => True) i32ToLe :=
  convert UInt32.toInt32 Int32.toUInt32 (fun _ => rfl) (fun _ => rfl) u32

lemma flag {bad : ε} : Reads (Reader.flag short bad) (fun _ => True) flagText := by
  intro b v rest
  simp only [Reader.flag, bind_ok_iff, u8_ok_iff, true_and, flagText]
  constructor
  · rintro ⟨byte, mid, rfl, h⟩
    by_cases h0 : byte = 0
    · obtain ⟨rfl, rfl⟩ : v = false ∧ rest = mid := by simpa [h0] using h
      simp [h0]
    · by_cases h1 : byte = 1
      · obtain ⟨rfl, rfl⟩ : v = true ∧ rest = mid := by simpa [h1] using h
        simp [h1]
      · simp [h0, h1] at h
  · rintro rfl
    cases v with
    | false => exact ⟨0, rest, rfl, by simp⟩
    | true => exact ⟨1, rest, rfl, by simp⟩

lemma count {max : Nat} {long : ε} (hmax : max < 2 ^ 32) :
    Reads (Reader.count short max long) (fun n => n ≤ max) lengthText := by
  intro b n rest
  simp only [Reader.count, bind_ok_iff, u32_ok_iff, Reader.refuse_ok_iff,
    pure_ok_iff, Nat.not_lt, lengthText]
  constructor
  · rintro ⟨word, _, rfl, _, _, ⟨hle, rfl⟩, rfl, rfl⟩
    exact ⟨hle, by rw [UInt32.ofNat_toNat]⟩
  · rintro ⟨hle, rfl⟩
    have hword : (UInt32.ofNat n).toNat = n :=
      UInt32.toNat_ofNat_of_lt' (Nat.lt_of_le_of_lt hle hmax)
    exact ⟨UInt32.ofNat n, rest, rfl, (), rest, ⟨by rw [hword]; exact hle, rfl⟩, hword.symm, rfl⟩

lemma optional {flag : Reader ε Bool} {r : Reader ε α} {text : α → Bytes}
    (hflag : Reads flag (fun _ => True) flagText) (hr : Reads r (fun _ => True) text) :
    Reads (Reader.optional flag r) (fun _ => True) (optionText text) := by
  intro b v rest
  simp only [Reader.optional, bind_ok_iff, hflag.ok_iff, true_and]
  constructor
  · rintro ⟨present, mid, rfl, h⟩
    cases present with
    | false =>
      obtain ⟨rfl, rfl⟩ : v = none ∧ rest = mid := by simpa using h
      rfl
    | true =>
      simp only [if_true, bind_ok_iff, pure_ok_iff, hr.ok_iff, true_and] at h
      obtain ⟨a, _, rfl, rfl, rfl⟩ := h
      simp [optionText]
  · rintro rfl
    cases v with
    | none => exact ⟨false, rest, rfl, by simp⟩
    | some a =>
      refine ⟨true, text a ++ rest, by simp [optionText], ?_⟩
      simp only [if_true, bind_ok_iff, pure_ok_iff, hr.ok_iff, true_and]
      exact ⟨a, rest, rfl, rfl, rfl⟩

end Reads

end Don.Foundation
