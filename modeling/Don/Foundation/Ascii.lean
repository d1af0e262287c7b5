import Mathlib.Logic.Basic

/-!
# Ascii — the text functions of a program that works on identifiers and numerals

Case folding is ASCII only; trimming uses the Unicode white-space property; numerals are decimal with
an optional sign and an exact range check.
-/

namespace Don.Foundation

def toAsciiLower (s : String) : String :=
  String.ofList (s.toList.map Char.toLower)

def eqIgnoreAsciiCase (s t : String) : Bool :=
  s.toList.map Char.toLower == t.toList.map Char.toLower

/-- The Unicode `White_Space` property. -/
def isWhiteSpace (c : Char) : Bool :=
  (0x09 ≤ c.val && c.val ≤ 0x0D) || c.val == 0x20 || c.val == 0x85 || c.val == 0xA0 ||
    c.val == 0x1680 || (0x2000 ≤ c.val && c.val ≤ 0x200A) || c.val == 0x2028 || c.val == 0x2029 ||
    c.val == 0x202F || c.val == 0x205F || c.val == 0x3000

def trim (s : List Char) : List Char :=
  ((s.dropWhile isWhiteSpace).reverse.dropWhile isWhiteSpace).reverse

/-- The value of a non-empty string of decimal digits. -/
def parseDigits (s : List Char) : Option Nat :=
  if s ≠ [] ∧ s.all Char.isDigit then
    some (s.foldl (fun n c => 10 * n + (c.toNat - '0'.toNat)) 0)
  else
    none

def parseInt : List Char → Option Int
  | '+' :: s => (parseDigits s).map Int.ofNat
  | '-' :: s => (parseDigits s).map fun n => -(Int.ofNat n)
  | s => (parseDigits s).map Int.ofNat

/-- A numeral in the range of a 32-bit signed integer. -/
def parseInt32 (s : List Char) : Option Int32 :=
  (parseInt s).bind fun i =>
    if -2147483648 ≤ i ∧ i ≤ 2147483647 then some (Int32.ofInt i) else none

/-- A number in hexadecimal with its `0x`. -/
def hex (n : Nat) : String :=
  "0x" ++ String.ofList (Nat.toDigits 16 n)

end Don.Foundation
