import Don.Foundation.Bytes

/-!
# Obfuscate — the multiplayer payload transform

`crates/don-net/src/obfuscate.rs`.  A package payload is XORed word-wise with a 16-bit key, and the
reader skips a pad of zero or one byte after each command.  Both are driven by the 32-bit game key;
the pad generator restarts from the key for every package.
-/

namespace Don.Net

open Foundation

/-- Multiplier of the engine's linear congruential generator. -/
def lcgA : UInt32 := 0x0019660D

/-- Increment of the engine's linear congruential generator. -/
def lcgC : UInt32 := 0x3C6EF35F

structure PadRandom where
  seed : UInt32
  deriving DecidableEq

namespace PadRandom

/-- `Random::get(lo, hi)`, with the `lo == hi` short circuit and the swap of reversed bounds. -/
def inRange (r : PadRandom) (lo hi : Int32) : Int32 × PadRandom :=
  if lo = hi then
    (lo, r)
  else
    let lo' := if hi < lo then hi else lo
    let hi' := if hi < lo then lo else hi
    let seed := r.seed * lcgA + lcgC
    let low16 := (seed &&& 0xFFFF).toUInt64
    let scaled := (low16 * (hi' - lo').toInt64.toUInt64) >>> 16
    (lo' + scaled.toUInt32.toInt32, ⟨seed⟩)

/-- The pad after one command: `in_range(0, 2)`. -/
def nextPad (r : PadRandom) : Nat × PadRandom :=
  let (v, r') := r.inRange 0 2
  (v.toNatClampNeg, r')

end PadRandom

/-- Payload obfuscation state of one package: no generator means no padding. -/
structure Obfuscation where
  rng : Option PadRandom
  deriving DecidableEq

namespace Obfuscation

/-- Single player: no padding. -/
def none : Obfuscation :=
  ⟨Option.none⟩

/-- Multiplayer, seeded from the game key. -/
def multiplayer (g : UInt32) : Obfuscation :=
  ⟨some ⟨g⟩⟩

def nextPad (o : Obfuscation) : Nat × Obfuscation :=
  match o.rng with
  | some r =>
    let (n, r') := r.nextPad
    (n, ⟨some r'⟩)
  | .none => (0, o)

/-- Bits 8..24 of the game key. -/
def xorKey (g : UInt32) : UInt16 :=
  (g >>> 8).toUInt16

end Obfuscation

/-- XOR every 16-bit word with the two key bytes; an odd final byte is left alone. -/
def xorWords (k₀ k₁ : UInt8) : Bytes → Bytes
  | b₀ :: b₁ :: rest => (b₀ ^^^ k₀) :: (b₁ ^^^ k₁) :: xorWords k₀ k₁ rest
  | rest => rest

/-- `xor_payload`: the key is split as `u16::to_le_bytes` splits it. -/
def xorPayload (payload : Bytes) (key : UInt16) : Bytes :=
  xorWords (byteAt (u16ToLe key) 0) (byteAt (u16ToLe key) 1) payload

end Don.Net
