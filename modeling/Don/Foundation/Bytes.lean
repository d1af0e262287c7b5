import Mathlib.Data.List.Basic
import Mathlib.Data.UInt

/-!
# Bytes — machine words and little-endian byte strings

A byte string is a `List UInt8`.  Reading past its end yields zero; the formats built on this
module check lengths before they read, so that value is never observed.
-/

namespace Don.Foundation

open List

abbrev Bytes := List UInt8

instance neZero_eight : NeZero 8 := ⟨by decide⟩

variable (b : Bytes)

/-- The byte at offset `o`. -/
def byteAt (o : Nat) : UInt8 :=
  b.getD o 0

/-! ## Little-endian words -/

/-- `u16::from_le_bytes`. -/
def u16FromLe (b₀ b₁ : UInt8) : UInt16 :=
  UInt16.ofNat (b₀.toNat + 256 * b₁.toNat)

/-- `u32::from_le_bytes`. -/
def u32FromLe (b₀ b₁ b₂ b₃ : UInt8) : UInt32 :=
  UInt32.ofNat (b₀.toNat + 256 * b₁.toNat + 65536 * b₂.toNat + 16777216 * b₃.toNat)

def u16le (o : Nat) : UInt16 :=
  u16FromLe (byteAt b o) (byteAt b (o + 1))

def u32le (o : Nat) : UInt32 :=
  u32FromLe (byteAt b o) (byteAt b (o + 1)) (byteAt b (o + 2)) (byteAt b (o + 3))

def i32le (o : Nat) : Int32 :=
  (u32le b o).toInt32

/-- `u16::to_le_bytes`. -/
def u16ToLe (v : UInt16) : Bytes :=
  [UInt8.ofNat v.toNat, UInt8.ofNat (v.toNat / 256)]

variable (v : UInt32)

/-- `u32::to_le_bytes`. -/
def u32ToLe : Bytes :=
  [UInt8.ofNat v.toNat, UInt8.ofNat (v.toNat / 256), UInt8.ofNat (v.toNat / 65536),
    UInt8.ofNat (v.toNat / 16777216)]

/-- `i32::to_le_bytes`. -/
def i32ToLe (v : Int32) : Bytes :=
  u32ToLe v.toUInt32

def leToNat : Bytes → Nat
  | [] => 0
  | b :: rest => b.toNat + 256 * leToNat rest

/-- The `width` low bytes of a number, least significant byte first. -/
def natToLe : Nat → Nat → Bytes
  | 0, _ => []
  | width + 1, n => UInt8.ofNat n :: natToLe width (n / 256)

/-- `u64::from_le_bytes`. -/
def u64FromLe : UInt64 :=
  UInt64.ofNat (leToNat b)

/-- `u64::to_le_bytes`. -/
def u64ToLe (v : UInt64) : Bytes :=
  natToLe 8 v.toNat

@[simp] lemma length_u32ToLe : (u32ToLe v).length = 4 := rfl

@[simp] lemma length_i32ToLe (v : Int32) : (i32ToLe v).length = 4 := rfl

lemma u32FromLe_bytes : u32FromLe (UInt8.ofNat v.toNat) (UInt8.ofNat (v.toNat / 256))
      (UInt8.ofNat (v.toNat / 65536)) (UInt8.ofNat (v.toNat / 16777216)) = v := by
  have hv : v.toNat < 4294967296 := v.toNat_lt
  apply UInt32.toNat_inj.1
  simp only [u32FromLe, UInt32.toNat_ofNat', UInt8.toNat_ofNat']
  omega

/-! ### Words and their bytes determine each other -/

@[simp] lemma length_u16ToLe (v : UInt16) : (u16ToLe v).length = 2 := rfl

@[simp] lemma length_natToLe (width n : Nat) : (natToLe width n).length = width := by
  induction width generalizing n with
  | zero => rfl
  | succ width ih => simp [natToLe, ih]

@[simp] lemma length_u64ToLe (v : UInt64) : (u64ToLe v).length = 8 := length_natToLe 8 _

lemma u16FromLe_bytes (v : UInt16) :
    u16FromLe (UInt8.ofNat v.toNat) (UInt8.ofNat (v.toNat / 256)) = v := by
  have hv : v.toNat < 65536 := v.toNat_lt
  apply UInt16.toNat_inj.1
  simp only [u16FromLe, UInt16.toNat_ofNat', UInt8.toNat_ofNat']
  omega

lemma u16ToLe_fromLe (b₀ b₁ : UInt8) : u16ToLe (u16FromLe b₀ b₁) = [b₀, b₁] := by
  have h₀ : b₀.toNat < 256 := b₀.toNat_lt
  have h₁ : b₁.toNat < 256 := b₁.toNat_lt
  have hword : (u16FromLe b₀ b₁).toNat = b₀.toNat + 256 * b₁.toNat := by
    simp only [u16FromLe, UInt16.toNat_ofNat']
    omega
  simp only [u16ToLe, hword, cons.injEq, and_true, ← UInt8.toNat_inj, UInt8.toNat_ofNat']
  omega

lemma u32ToLe_fromLe (b₀ b₁ b₂ b₃ : UInt8) :
    u32ToLe (u32FromLe b₀ b₁ b₂ b₃) = [b₀, b₁, b₂, b₃] := by
  have h₀ : b₀.toNat < 256 := b₀.toNat_lt
  have h₁ : b₁.toNat < 256 := b₁.toNat_lt
  have h₂ : b₂.toNat < 256 := b₂.toNat_lt
  have h₃ : b₃.toNat < 256 := b₃.toNat_lt
  have hword : (u32FromLe b₀ b₁ b₂ b₃).toNat =
      b₀.toNat + 256 * b₁.toNat + 65536 * b₂.toNat + 16777216 * b₃.toNat := by
    simp only [u32FromLe, UInt32.toNat_ofNat']
    omega
  simp only [u32ToLe, hword, cons.injEq, and_true, ← UInt8.toNat_inj, UInt8.toNat_ofNat']
  omega

lemma leToNat_natToLe : ∀ (width n : Nat), leToNat (natToLe width n) = n % 256 ^ width := by
  intro width
  induction width with
  | zero =>
    intro n
    simp [natToLe, leToNat, Nat.mod_one]
  | succ width ih =>
    intro n
    have hlow : (UInt8.ofNat n).toNat = n % 256 := by simp
    rw [natToLe, leToNat, ih, hlow, Nat.pow_succ', Nat.mod_mul]

lemma natToLe_leToNat : ∀ b : Bytes, natToLe b.length (leToNat b) = b := by
  intro b
  induction b with
  | nil => rfl
  | cons x rest ih =>
    have hx : x.toNat < 256 := x.toNat_lt
    have hlow : UInt8.ofNat (x.toNat + 256 * leToNat rest) = x := by
      apply UInt8.toNat_inj.1
      simp only [UInt8.toNat_ofNat']
      omega
    have hhigh : (x.toNat + 256 * leToNat rest) / 256 = leToNat rest := by omega
    rw [length_cons, leToNat, natToLe, hlow, hhigh, ih]

lemma leToNat_lt : ∀ b : Bytes, leToNat b < 256 ^ b.length := by
  intro b
  induction b with
  | nil => simp [leToNat]
  | cons x =>
    have hx : x.toNat < 256 := x.toNat_lt
    rw [length_cons, leToNat, Nat.pow_succ']
    omega

lemma u64FromLe_toLe (v : UInt64) : u64FromLe (u64ToLe v) = v := by
  have hv : v.toNat < 18446744073709551616 := v.toNat_lt
  apply UInt64.toNat_inj.1
  simp only [u64FromLe, u64ToLe, leToNat_natToLe, UInt64.toNat_ofNat']
  omega

lemma u64ToLe_fromLe {b : Bytes} (h : b.length = 8) : u64ToLe (u64FromLe b) = b := by
  have hlt : leToNat b < 256 ^ 8 := h ▸ leToNat_lt b
  have hword : (u64FromLe b).toNat = leToNat b := by
    simp only [u64FromLe, UInt64.toNat_ofNat']
    omega
  rw [u64ToLe, hword, ← h, natToLe_leToNat]

/-! ### Reading inside a longer string -/

lemma byteAt_append_right (pre b : Bytes) (k : Nat) :
    byteAt (pre ++ b) (pre.length + k) = byteAt b k := by
  simp [byteAt, getD, getElem?_append_right]

lemma u32le_append (pre post : Bytes) (v : UInt32) :
    u32le (pre ++ u32ToLe v ++ post) pre.length = v := by
  have hget : ∀ k, byteAt (pre ++ u32ToLe v ++ post) (pre.length + k)
      = byteAt (u32ToLe v ++ post) k := by
    intro k
    rw [append_assoc]
    exact byteAt_append_right pre _ k
  have h0 := hget 0
  simp only [Nat.add_zero] at h0
  have hword := u32FromLe_bytes v
  simp only [u32le, h0, hget]
  simp only [u32ToLe, byteAt, cons_append, getD_cons_zero, getD_cons_succ, hword]

lemma i32le_append (pre post : Bytes) (v : Int32) :
    i32le (pre ++ i32ToLe v ++ post) pre.length = v := by
  simp only [i32le, i32ToLe, u32le_append, Int32.toInt32_toUInt32]

/-- Reading entry `i` of an array of words. -/
lemma u32le_flatMap (pre post : Bytes) : ∀ (xs : List UInt32) (i : Nat) (h : i < xs.length),
      u32le (pre ++ (xs.flatMap u32ToLe ++ post)) (pre.length + i * 4) = xs[i] := by
  intro xs
  induction xs generalizing pre with
  | nil =>
    intro i h
    cases h
  | cons x xs ih =>
    intro i h
    cases i with
    | zero =>
      have hword := u32le_append pre (xs.flatMap u32ToLe ++ post) x
      simpa using hword
    | succ i =>
      -- the entries before `x :: xs` grow by the four bytes of `x`
      have hrest := ih (pre ++ u32ToLe x) i (by simpa using h)
      have hoff : (pre ++ u32ToLe x).length + i * 4 = pre.length + (i + 1) * 4 := by
        simp only [length_append, length_u32ToLe]
        omega
      rw [hoff] at hrest
      simpa using hrest

lemma i32le_flatMap (pre : Bytes) (xs : List Int32) (i : Nat) (h : i < xs.length) :
    i32le (pre ++ xs.flatMap i32ToLe) (pre.length + i * 4) = xs[i] := by
  have hword := u32le_flatMap pre [] (xs.map Int32.toUInt32) i (by simpa using h)
  rw [append_nil, flatMap_map] at hword
  change (u32le (pre ++ xs.flatMap fun x => u32ToLe x.toUInt32) _).toInt32 = _
  rw [hword, getElem_map, Int32.toInt32_toUInt32]

/-! ## Saturating and checked arithmetic -/

/-- `u64::saturating_add`. -/
def saturatingAdd (a b : UInt64) : UInt64 :=
  if a.toNat + b.toNat < UInt64.size then a + b else UInt64.ofNat (UInt64.size - 1)

/-- `u64::saturating_sub`. -/
def saturatingSub (a b : UInt64) : UInt64 :=
  if b ≤ a then a - b else 0

/-- `u32::checked_add(1)`. -/
def checkedSucc : Option UInt32 :=
  if v.toNat + 1 < UInt32.size then some (v + 1) else none

lemma checkedSucc_eq_some {v w : UInt32} (h : checkedSucc v = some w) :
    w.toNat = v.toNat + 1 := by
  unfold checkedSucc at h
  split at h
  · rename_i hlt
    cases h
    simp only [UInt32.toNat_add, UInt32.toNat_one]
    exact Nat.mod_eq_of_lt hlt
  · cases h

lemma checkedSucc_eq_none_iff {v : UInt32} :
    checkedSucc v = none ↔ v.toNat = UInt32.size - 1 := by
  have hv : v.toNat < UInt32.size := v.toNat_lt_size
  simp only [UInt32.size] at hv ⊢
  unfold checkedSucc
  split
  · rename_i hlt
    simp only [UInt32.size] at hlt
    simp only [reduceCtorEq, false_iff]
    omega
  · rename_i hge
    simp only [UInt32.size] at hge
    simp only [true_iff]
    omega

end Don.Foundation
