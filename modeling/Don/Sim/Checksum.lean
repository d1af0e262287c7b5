import Mathlib.Data.Nat.ModEq
import Mathlib.Tactic.Linarith
import Don.Foundation.Bytes

/-!
# Checksum — Adler-32 with deferred reduction

`crates/don-sim/src/checksum.rs`.  The sums are reduced once a chunk; the chunk is as long as it can
be before a sum outgrows 32 bits.
-/

namespace Don.Sim

open Foundation List

def adlerBase : UInt32 := 65521

def adlerNmax : Nat := 5552

variable (s : UInt32 × UInt32)

def addByte (b : UInt8) : UInt32 × UInt32 :=
  let s1 := s.1 + b.toUInt32
  (s1, s.2 + s1)

/-- The loop over `k` blocks of sixteen bytes. -/
def addBlocks : Nat → Bytes → UInt32 × UInt32 → UInt32 × UInt32
  | 0, _, s => s
  | k + 1, blocks, s => addBlocks k (blocks.drop 16) ((blocks.take 16).foldl addByte s)

def addChunk (chunk : Bytes) : UInt32 × UInt32 :=
  let k := chunk.length
  let blocks := chunk.take (k - (k &&& 15))
  let tail := chunk.drop (k - (k &&& 15))
  let s := tail.foldl addByte (addBlocks (blocks.length / 16) blocks s)
  (s.1 % adlerBase, s.2 % adlerBase)

/-- The loop over the chunks. -/
def addChunks (s : UInt32 × UInt32) (buf : Bytes) : UInt32 × UInt32 :=
  if buf = [] then s else addChunks (addChunk s (buf.take adlerNmax)) (buf.drop adlerNmax)
termination_by buf.length
decreasing_by
  have := List.length_pos_iff.mpr ‹buf ≠ []›
  simp [adlerNmax]
  omega

def unpack (adler : UInt32) : UInt32 × UInt32 :=
  (adler &&& 0xffff, adler >>> 16)

def pack : UInt32 :=
  s.2 <<< 16 ||| s.1

def adler32 (adler : UInt32) (buf : Bytes) : UInt32 :=
  pack (addChunks (unpack adler) buf)

structure Adler32 where
  checksum : UInt32
  bytes : UInt64

def Adler32.update (a : Adler32) (bytes : Bytes) : Adler32 :=
  ⟨adler32 a.checksum bytes, a.bytes + UInt64.ofNat bytes.length⟩

/-! ## The definition -/

/-- The sums as numbers. -/
def sums : Nat × Nat :=
  (s.1.toNat, s.2.toNat)

/-- A byte added to sums without bound. -/
def sumByte (s : Nat × Nat) (b : UInt8) : Nat × Nat :=
  (s.1 + b.toNat, s.2 + (s.1 + b.toNat))

/-- A byte added with both sums reduced. -/
def reducedByte (s : Nat × Nat) (b : UInt8) : Nat × Nat :=
  let s1 := (s.1 + b.toNat) % 65521
  (s1, (s.2 + s1) % 65521)

/-- `adler32_by_definition` -/
def adler32ByDefinition (adler : UInt32) (buf : Bytes) : UInt32 :=
  let s := buf.foldl reducedByte (sums (unpack adler))
  UInt32.ofNat (s.2 * 65536 + s.1)

def Packable (s : Nat × Nat) : Prop :=
  s.1 ≤ 65535 ∧ s.2 ≤ 65535

variable {l : Bytes}

/-- What a chunk can reach stays below the word: at most 4,294,773,495. -/
lemma sumBytes_lt {s : Nat × Nat} (hs : Packable s) (hl : l.length ≤ adlerNmax) :
    (l.foldl sumByte s).1 < 2 ^ 32 ∧ (l.foldl sumByte s).2 < 2 ^ 32 := by
  have hgrow : ∀ (l : Bytes) (s : Nat × Nat), (l.foldl sumByte s).1 ≤ s.1 + 255 * l.length ∧
      2 * (l.foldl sumByte s).2 ≤
        2 * s.2 + 2 * l.length * s.1 + 255 * (l.length * (l.length + 1)) := by
    intro l
    induction l with
    | nil => simp
    | cons b l ih =>
      intro s
      obtain ⟨h1, h2⟩ := ih (sumByte s b)
      have hb := b.toNat_lt
      simp only [foldl_cons, length_cons]
      simp only [sumByte] at h1 h2 ⊢
      constructor
      · omega
      · nlinarith
  obtain ⟨h1, h2⟩ := hgrow l s
  obtain ⟨hs1, hs2⟩ := hs
  unfold adlerNmax at hl
  constructor
  · omega
  · nlinarith

/-- Sums that never outgrow the word are the machine's. -/
lemma sums_addBytes {s : UInt32 × UInt32}
    (h : (l.foldl sumByte (sums s)).1 < 2 ^ 32 ∧ (l.foldl sumByte (sums s)).2 < 2 ^ 32) :
    sums (l.foldl addByte s) = l.foldl sumByte (sums s) := by
  have hmono : ∀ (l : Bytes) (s : Nat × Nat),
      s.1 ≤ (l.foldl sumByte s).1 ∧ s.2 ≤ (l.foldl sumByte s).2 := by
    intro l
    induction l with
    | nil => simp
    | cons b l ih =>
      intro s
      have := ih (sumByte s b)
      simp only [foldl_cons, sumByte] at this ⊢
      omega
  induction l generalizing s with
  | nil => rfl
  | cons b l ih =>
    have hle := hmono l (sumByte (sums s) b)
    have hstep : sums (addByte s b) = sumByte (sums s) b := by
      simp only [foldl_cons] at h
      simp only [sumByte, sums] at hle h ⊢
      simp only [addByte, UInt32.toNat_add, UInt8.toNat_toUInt32]
      rw [Nat.mod_eq_of_lt (by omega), Nat.mod_eq_of_lt (by omega)]
    rw [foldl_cons, foldl_cons, ← hstep]
    rw [foldl_cons, ← hstep] at h
    exact ih h

lemma reducedBytes_modEq (l : Bytes) (s : Nat × Nat) :
    (l.foldl reducedByte s).1 ≡ (l.foldl sumByte s).1 [MOD 65521] ∧
      (l.foldl reducedByte s).2 ≡ (l.foldl sumByte s).2 [MOD 65521] := by
  induction l using List.reverseRecOn with
  | nil => exact ⟨rfl, rfl⟩
  | append_singleton l b ih =>
    simp only [foldl_append, foldl_cons, foldl_nil, reducedByte, sumByte]
    have h1 := (Nat.mod_modEq _ _).trans (ih.1.add_right b.toNat)
    exact ⟨h1, (Nat.mod_modEq _ _).trans (ih.2.add h1)⟩

/-- One reduction at the end is as good as one after every byte. -/
lemma reducedBytes_eq (hl : l ≠ []) (s : Nat × Nat) : l.foldl reducedByte s =
      ((l.foldl sumByte s).1 % 65521, (l.foldl sumByte s).2 % 65521) := by
  have hmod := reducedBytes_modEq l s
  simp only [Nat.ModEq] at hmod
  rw [← hmod.1, ← hmod.2]
  induction l using List.reverseRecOn with
  | nil => exact absurd rfl hl
  | append_singleton l b _ => simp [reducedByte]

/-! ## The code -/

lemma addBlocks_eq (k : Nat) (l : Bytes) (s : UInt32 × UInt32) :
    addBlocks k l s = (l.take (16 * k)).foldl addByte s := by
  induction k generalizing l s with
  | zero => rfl
  | succ k ih =>
    rw [addBlocks, ih, ← foldl_append, show 16 * (k + 1) = 16 + 16 * k by omega, take_add]

/-- The blocks of sixteen make no difference. -/
lemma addChunk_eq (l : Bytes) : addChunk s l =
      ((l.foldl addByte s).1 % adlerBase, (l.foldl addByte s).2 % adlerBase) := by
  have hlow : l.length &&& 15 = l.length % 16 := Nat.and_two_pow_sub_one_eq_mod l.length 4
  have hall : l.length - l.length % 16 = 16 * (l.length / 16) := by omega
  have hblocks : 16 * (16 * (l.length / 16) / 16) = 16 * (l.length / 16) := by omega
  simp only [addChunk, addBlocks_eq, hlow, hall, length_take,
    Nat.min_eq_left (Nat.mul_div_le l.length 16), hblocks, take_take, Nat.min_self]
  rw [← foldl_append, take_append_drop]

variable {s : UInt32 × UInt32}

lemma sums_addChunk (hs : Packable (sums s)) (hne : l ≠ [])
    (hl : l.length ≤ adlerNmax) : sums (addChunk s l) = l.foldl reducedByte (sums s) := by
  rw [addChunk_eq, reducedBytes_eq hne, ← sums_addBytes (sumBytes_lt hs hl)]
  simp [sums, adlerBase]

lemma packable_reducedBytes {s : Nat × Nat} (hs : Packable s) :
    Packable (l.foldl reducedByte s) := by
  induction l generalizing s with
  | nil => exact hs
  | cons b l ih =>
    have hlt : ∀ n, n % 65521 ≤ 65535 := fun n => by omega
    exact ih ⟨hlt _, hlt _⟩

lemma sums_addChunks (hs : Packable (sums s)) (buf : Bytes) :
    sums (addChunks s buf) = buf.foldl reducedByte (sums s) := by
  induction s, buf using addChunks.induct with
  | case1 s => simp [addChunks]
  | case2 s buf hne ih =>
    have htake : buf.take adlerNmax ≠ [] := by simpa [adlerNmax] using hne
    have hchunk := sums_addChunk hs htake (length_take_le _ _)
    rw [addChunks, if_neg hne, ih (hchunk ▸ packable_reducedBytes hs), hchunk, ← foldl_append,
      take_append_drop]

lemma sums_unpack (a : UInt32) : sums (unpack a) = (a.toNat % 65536, a.toNat / 65536) := by
  have hlow : a.toNat &&& 65535 = a.toNat % 65536 := Nat.and_two_pow_sub_one_eq_mod a.toNat 16
  simp [sums, unpack, hlow, Nat.shiftRight_eq_div_pow]

lemma packable_unpack (a : UInt32) : Packable (sums (unpack a)) := by
  have hlt := a.toNat_lt
  rw [sums_unpack]
  exact ⟨by dsimp only; omega, by dsimp only; omega⟩

lemma toNat_pack (hs : Packable (sums s)) : (pack s).toNat = s.2.toNat * 65536 + s.1.toNat := by
  obtain ⟨h1, h2⟩ := hs
  simp only [sums] at h1 h2
  have hshift : s.2.toNat <<< 16 % 2 ^ 32 = 2 ^ 16 * s.2.toNat := by
    rw [Nat.shiftLeft_eq, Nat.mod_eq_of_lt (by omega), Nat.mul_comm]
  simp only [pack, UInt32.toNat_or, UInt32.toNat_shiftLeft, UInt32.reduceToNat, Nat.reduceMod, hshift]
  rw [← Nat.two_pow_add_eq_or_of_lt (by omega)]
  omega

lemma unpack_pack (hs : Packable (sums s)) : unpack (pack s) = s := by
  have hsums : sums (unpack (pack s)) = sums s := by
    rw [sums_unpack, toNat_pack hs]
    obtain ⟨h1, h2⟩ := hs
    simp only [sums, Prod.mk.injEq] at h1 h2 ⊢
    omega
  obtain ⟨h1, h2⟩ := Prod.mk.inj hsums
  exact Prod.ext (UInt32.toNat.inj h1) (UInt32.toNat.inj h2)

/-- Walking a buffer in two parts is walking it at once; after `before`, no sum of a chunk outgrows the
word; the checksum is the one of the definition; and the accumulator depends on the ranges only through their
concatenation. -/
theorem adler32_streams (a : UInt32) : (∀ x y, adler32 a (x ++ y) = adler32 (adler32 a x) y) ∧
      (∀ before l : Bytes, l.length ≤ adlerNmax →
        (l.foldl sumByte (sums (addChunks (unpack a) before))).1 < 2 ^ 32 ∧
          (l.foldl sumByte (sums (addChunks (unpack a) before))).2 < 2 ^ 32) ∧
      (∀ x, adler32 a x = adler32ByDefinition a x) ∧
      ∀ (bytes : UInt64) (ranges : List Bytes), (ranges.foldl Adler32.update ⟨a, bytes⟩).checksum =
        adler32 a ranges.flatten := by
  have hpack : ∀ a x, Packable (sums (addChunks (unpack a) x)) := by
    intro a x
    rw [sums_addChunks (packable_unpack a)]
    exact packable_reducedBytes (packable_unpack a)
  have happend : ∀ a x y, adler32 a (x ++ y) = adler32 (adler32 a x) y := by
    intro a x y
    have hsums : sums (addChunks (unpack a) (x ++ y)) =
        sums (addChunks (addChunks (unpack a) x) y) := by
      rw [sums_addChunks (hpack a x), sums_addChunks (packable_unpack a),
        sums_addChunks (packable_unpack a), foldl_append]
    obtain ⟨h1, h2⟩ := Prod.mk.inj hsums
    simp only [adler32, unpack_pack (hpack a x)]
    exact congrArg pack (Prod.ext (UInt32.toNat.inj h1) (UInt32.toNat.inj h2))
  refine ⟨happend a, fun before l hl => sumBytes_lt (hpack a before) hl, ?_, ?_⟩
  · intro x
    have hnat := toNat_pack (hpack a x)
    have hsums := sums_addChunks (packable_unpack a) x
    rw [adler32ByDefinition, ← hsums, adler32]
    refine UInt32.toNat.inj ?_
    rw [hnat, UInt32.toNat_ofNat', sums, Nat.mod_eq_of_lt]
    rw [← hnat]
    exact UInt32.toNat_lt _
  · intro bytes ranges
    induction ranges generalizing a bytes with
    | nil =>
      have hnat := toNat_pack (packable_unpack a)
      have hparts := Prod.mk.inj (sums_unpack a)
      rw [foldl_nil, flatten_nil, adler32, addChunks, if_pos rfl]
      refine UInt32.toNat.inj ?_
      rw [hnat, hparts.1, hparts.2]
      exact (Nat.div_add_mod' a.toNat 65536).symm
    | cons r ranges ih => rw [foldl_cons, Adler32.update, ih, flatten_cons, happend]

end Don.Sim
