import Don.Foundation.Bytes

/-!
# Assembly — back-patching

A one-pass assembler appends instructions to a byte array.  An operand that is the position of a label
is written as zero and recorded as a fixup; the fixups are patched when the positions are known.
-/

namespace Don.Foundation.Assembly

def putWord (code : Bytes) (at_ : Nat) (w : UInt32) : Bytes :=
  code.take at_ ++ u32ToLe w ++ code.drop (at_ + 4)

/-- Write the positions of labels over the operands that wait for them. -/
def patchAll (pos : Nat → UInt32) (code : Bytes) (fs : List (Nat × Nat)) : Bytes :=
  fs.foldl (fun code f => putWord code f.1 (pos f.2)) code

end Don.Foundation.Assembly
