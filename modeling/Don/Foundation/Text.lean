import Don.Foundation.Bytes

/-!
# Text — lossy UTF-8 and UTF-16 code units

Text fields of a wire format are decoded without ever failing: a byte sequence that is not UTF-8 and
a code unit that is not a scalar value each become the replacement character.
-/

namespace Don.Foundation

/-- `char::REPLACEMENT_CHARACTER`. -/
def replacement : Char := '�'

def isContinuation (b : UInt8) : Bool :=
  0x80 ≤ b && b ≤ 0xBF

def threeByteSecond (b₀ b₁ : UInt8) : Bool :=
  (b₀ == 0xE0 && 0xA0 ≤ b₁ && b₁ ≤ 0xBF) ||
    (0xE1 ≤ b₀ && b₀ ≤ 0xEC && isContinuation b₁) ||
    (b₀ == 0xED && 0x80 ≤ b₁ && b₁ ≤ 0x9F) ||
    (0xEE ≤ b₀ && b₀ ≤ 0xEF && isContinuation b₁)

def fourByteSecond (b₀ b₁ : UInt8) : Bool :=
  (b₀ == 0xF0 && 0x90 ≤ b₁ && b₁ ≤ 0xBF) ||
    (0xF1 ≤ b₀ && b₀ ≤ 0xF3 && isContinuation b₁) ||
    (b₀ == 0xF4 && 0x80 ≤ b₁ && b₁ ≤ 0x8F)

/-- The scalar value spelled by the payload bits of a lead byte and its continuation bytes. -/
def scalar (lead : Nat) (continuation : List UInt8) : Char :=
  Char.ofNat (continuation.foldl (fun acc b => acc * 64 + b.toNat % 64) lead)

/-- The characters of a byte string; each maximal ill-formed piece becomes one replacement. -/
def lossyChars : Bytes → List Char
  | [] => []
  | b₀ :: rest =>
    if b₀ < 0x80 then
      Char.ofNat b₀.toNat :: lossyChars rest
    else if 0xC2 ≤ b₀ && b₀ ≤ 0xDF then
      match rest with
      | [] => [replacement]
      | b₁ :: rest₁ =>
        if isContinuation b₁ then
          scalar (b₀.toNat % 32) [b₁] :: lossyChars rest₁
        else
          replacement :: lossyChars (b₁ :: rest₁)
    else if 0xE0 ≤ b₀ && b₀ ≤ 0xEF then
      match rest with
      | [] => [replacement]
      | b₁ :: rest₁ =>
        if threeByteSecond b₀ b₁ then
          match rest₁ with
          | [] => [replacement]
          | b₂ :: rest₂ =>
            if isContinuation b₂ then
              scalar (b₀.toNat % 16) [b₁, b₂] :: lossyChars rest₂
            else
              replacement :: lossyChars (b₂ :: rest₂)
        else
          replacement :: lossyChars (b₁ :: rest₁)
    else if 0xF0 ≤ b₀ && b₀ ≤ 0xF4 then
      match rest with
      | [] => [replacement]
      | b₁ :: rest₁ =>
        if fourByteSecond b₀ b₁ then
          match rest₁ with
          | [] => [replacement]
          | b₂ :: rest₂ =>
            if isContinuation b₂ then
              match rest₂ with
              | [] => [replacement]
              | b₃ :: rest₃ =>
                if isContinuation b₃ then
                  scalar (b₀.toNat % 8) [b₁, b₂, b₃] :: lossyChars rest₃
                else
                  replacement :: lossyChars (b₃ :: rest₃)
            else
              replacement :: lossyChars (b₂ :: rest₂)
        else
          replacement :: lossyChars (b₁ :: rest₁)
    else
      replacement :: lossyChars rest

/-- `String::from_utf8_lossy`. -/
def fromUtf8Lossy (b : Bytes) : String :=
  String.ofList (lossyChars b)

/-- `str::as_bytes`. -/
def utf8Bytes (s : String) : Bytes :=
  s.toUTF8.data.toList

lemma fromUTF8?_eq_some_iff {b : Bytes} {s : String} :
    String.fromUTF8? ⟨b.toArray⟩ = some s ↔ b = utf8Bytes s := by
  unfold String.fromUTF8?
  constructor
  · intro h
    split at h
    · cases h
      rfl
    · cases h
  · rintro rfl
    have harray : (⟨(utf8Bytes s).toArray⟩ : ByteArray) = s.toUTF8 := rfl
    have hvalid : s.toUTF8.IsValidUTF8 := s.isValidUTF8
    rw [harray, dif_pos hvalid]
    rfl

/-- `char::from_u32(unit).unwrap_or(REPLACEMENT_CHARACTER)` for one UTF-16 unit. -/
def charOfUnit (unit : UInt16) : Char :=
  if 0xD800 ≤ unit && unit ≤ 0xDFFF then replacement else Char.ofNat unit.toNat

def unitsOfChar (c : Char) : List UInt16 :=
  if c.toNat < 0x10000 then
    [UInt16.ofNat c.toNat]
  else
    let v := c.toNat - 0x10000
    [UInt16.ofNat (0xD800 + v / 1024), UInt16.ofNat (0xDC00 + v % 1024)]

/-- `str::encode_utf16`. -/
def utf16Units (s : String) : List UInt16 :=
  s.toList.flatMap unitsOfChar

end Don.Foundation
