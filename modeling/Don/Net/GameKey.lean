import Don.Foundation.Orbit
import Don.Net.Retail

/-!
# GameKey — the bits of a game key that reach the wire

`crates/don-net/src/extension.rs`.  A key drives a package through its XOR word, bits 8..24, and
through the pads, which read only the low half of the generator.  The pads in turn give the low
half back, so two keys drive the same transform exactly when their low 24 bits agree.
-/

namespace Don.Net

open Foundation Obfuscation Function
open scoped UInt16.CommRing

def gameKeyWireMask : UInt32 := 0x00FFFFFF

/-- Do these two keys drive the identical package transform? -/
def gameKeysAreWireEquivalent (a b : UInt32) : Bool :=
  a &&& gameKeyWireMask == b &&& gameKeyWireMask

/-- The pad after command `n` of a package. -/
def Obfuscation.padAt (o : Obfuscation) : Nat → Nat
  | 0 => o.nextPad.1
  | n + 1 => Obfuscation.padAt o.nextPad.2 n

variable (x : UInt16)

/-- The generator on its low half. -/
def lowStep : UInt16 :=
  x * lcgA.toUInt16 + lcgC.toUInt16

lemma toUInt16_step (seed : UInt32) : (seed * lcgA + lcgC).toUInt16 = lowStep seed.toUInt16 := by
  rw [UInt32.toUInt16_add, UInt32.toUInt16_mul]
  rfl

lemma nextPad_multiplayer (g : UInt32) : (multiplayer g).nextPad =
      ((lowStep g.toUInt16).toNat / 2 ^ 15, multiplayer (g * lcgA + lcgC)) := by
  rw [← toUInt16_step]
  generalize hs : g * lcgA + lcgC = seed
  have hlow := seed.toUInt16.toNat_lt
  have hscaled : (((seed &&& 0xFFFF).toUInt64 * 2) >>> 16).toNat = seed.toUInt16.toNat / 2 ^ 15 := by
    have hand : (seed &&& 0xFFFF).toNat = seed.toUInt16.toNat := by
      rw [UInt32.toNat_and, UInt32.toNat_toUInt16]
      exact Nat.and_two_pow_sub_one_eq_mod _ 16
    simp only [UInt64.toNat_shiftRight, UInt64.toNat_mul, UInt32.toNat_toUInt64, hand,
      UInt64.reduceToNat, Nat.reduceMod, Nat.shiftRight_eq_div_pow]
    omega
  have hpad : ((0 : Int32) + (((seed &&& 0xFFFF).toUInt64 * 2) >>> 16).toUInt32.toInt32).toNatClampNeg
      = seed.toUInt16.toNat / 2 ^ 15 := by
    rw [← hscaled]
    rcases (show seed.toUInt16.toNat / 2 ^ 15 = 0 ∨ seed.toUInt16.toNat / 2 ^ 15 = 1 by omega)
      with h | h
    · rw [UInt64.toNat_inj.mp (hscaled.trans (h.trans UInt64.toNat_zero.symm))]
      rfl
    · rw [UInt64.toNat_inj.mp (hscaled.trans (h.trans UInt64.toNat_one.symm))]
      rfl
  simp only [nextPad, multiplayer, PadRandom.nextPad, PadRandom.inRange, hs]
  exact congrArg (·, _) hpad

lemma padAt_multiplayer (g : UInt32) (n : Nat) :
    (multiplayer g).padAt n = (lowStep^[n + 1] g.toUInt16).toNat / 2 ^ 15 := by
  induction n generalizing g with
  | zero => rw [padAt, nextPad_multiplayer]; rfl
  | succ n ih =>
    rw [padAt, nextPad_multiplayer, ih, toUInt16_step, ← iterate_succ_apply]

/-! ## The pads give the low half back -/

/-- The factor and the summand of two rounds. -/
def twice (p : UInt16 × UInt16) : UInt16 × UInt16 :=
  (p.1 * p.1, p.2 * p.1 + p.2)

lemma iterate_two_pow (k : Nat) (m c x : UInt16) : (fun z => z * m + c)^[2 ^ k] x =
      x * (twice^[k] (m, c)).1 + (twice^[k] (m, c)).2 := by
  induction k generalizing m c x with
  | zero => rfl
  | succ k ih =>
    have htwice : (fun z => z * m + c)^[2] = fun z => z * (m * m) + (c * m + c) := by
      funext z
      simp only [iterate_succ_apply, iterate_zero_apply]
      ring
    rw [Nat.pow_succ', iterate_mul, htwice, ih, iterate_succ_apply,
      twice]

lemma lowStep_half : lowStep^[2 ^ 15] x = x + 0x8000 := by
  refine (iterate_two_pow 15 _ _ x).trans ?_
  rw [show twice^[15] (lcgA.toUInt16, lcgC.toUInt16) = (1, 0x8000) by decide, mul_one]

lemma lowStep_turn : lowStep^[2 ^ (15 + 1)] x = x := by
  rw [pow_succ, mul_two, iterate_add_apply, lowStep_half, lowStep_half, add_assoc,
    show (0x8000 : UInt16) + 0x8000 = 0 by decide, add_zero]

lemma topBit_half : (lowStep^[2 ^ 15] x).toNat / 2 ^ 15 ≠ x.toNat / 2 ^ 15 := by
  have hx := x.toNat_lt
  rw [lowStep_half, UInt16.toNat_add, show (0x8000 : UInt16).toNat = 2 ^ 15 from rfl]
  omega

lemma card_uInt16 : Nat.card UInt16 = 2 ^ (15 + 1) :=
  (Nat.card_congr ⟨UInt16.toFin, UInt16.ofFin, fun _ => rfl, fun _ => rfl⟩).trans (Nat.card_fin _)

lemma toUInt16_eq_of_padAt {a b : UInt32}
    (h : ∀ n, (multiplayer a).padAt n = (multiplayer b).padAt n) :
    a.toUInt16 = b.toUInt16 := by
  apply eq_of_observed (k := 15) (F := lowStep) (f := fun x => x.toNat / 2 ^ 15) card_uInt16
    lowStep_turn topBit_half
  intro n
  rw [← padAt_multiplayer, ← padAt_multiplayer]
  exact h n

/-- The mask keeps the XOR word and the low half. -/
lemma gameKeysAreWireEquivalent_iff (a b : UInt32) : gameKeysAreWireEquivalent a b = true ↔
      xorKey a = xorKey b ∧ a.toUInt16 = b.toUInt16 := by
  have hmask : ∀ g : UInt32, (g &&& gameKeyWireMask).toNat = g.toNat % 2 ^ 24 := by
    intro g
    rw [UInt32.toNat_and]
    exact Nat.and_two_pow_sub_one_eq_mod _ 24
  have hxor : ∀ g : UInt32, (xorKey g).toNat = g.toNat / 2 ^ 8 % 2 ^ 16 := by
    intro g
    rw [xorKey, UInt32.toNat_toUInt16, UInt32.toNat_shiftRight, Nat.shiftRight_eq_div_pow]
    rfl
  rw [gameKeysAreWireEquivalent, beq_iff_eq, ← UInt32.toNat_inj, ← UInt16.toNat_inj,
    ← UInt16.toNat_inj, hmask, hmask, hxor, hxor, UInt32.toNat_toUInt16, UInt32.toNat_toUInt16]
  omega

/-! ## Equivalent keys decode alike -/

lemma decodeLoop_lowHalf (payload : Bytes) {a b : UInt32} (h : a.toUInt16 = b.toUInt16)
    (fuel i : Nat) (out : List Command) :
    decodeLoop payload fuel i (multiplayer a) out =
      decodeLoop payload fuel i (multiplayer b) out := by
  induction fuel generalizing a b i out with
  | zero => rfl
  | succ fuel ih =>
    have hnext : (a * lcgA + lcgC).toUInt16 = (b * lcgA + lcgC).toUInt16 := by
      rw [toUInt16_step, toUInt16_step, h]
    simp only [decodeLoop, nextPad_multiplayer, h, ih hnext]

/-- Two keys are wire equivalent exactly when their XOR words and all their pads agree, and then
every retail checksum package decodes alike under both. -/
theorem gameKeysAreWireEquivalent_exact (a b : UInt32) : (gameKeysAreWireEquivalent a b = true ↔
      Obfuscation.xorKey a = Obfuscation.xorKey b ∧
        ∀ n, (Obfuscation.multiplayer a).padAt n = (Obfuscation.multiplayer b).padAt n) ∧
    (gameKeysAreWireEquivalent a b = true → ∀ package : TurnPackage,
      decodeRetailChecksumPackage package a = decodeRetailChecksumPackage package b) := by
  rw [gameKeysAreWireEquivalent_iff]
  refine ⟨and_congr_right fun _ => ⟨fun h n => ?_, toUInt16_eq_of_padAt⟩, ?_⟩
  · rw [padAt_multiplayer, padAt_multiplayer, h]
  · rintro ⟨hxor, hlow⟩ package
    simp only [decodeRetailChecksumPackage, decodeCommands, hxor, decodeLoop_lowHalf _ hlow]

end Don.Net
