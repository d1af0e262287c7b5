import Mathlib.Logic.Basic

/-!
# Opcode — the instruction set

One byte of opcode, followed by zero, one or two little-endian 32-bit operands.  Opcodes that share a
handler share their meaning, and `Handler` names the handlers.
-/

namespace Don.Bhs

/-- The opcodes, in the order of their numbers. -/
inductive Opcode where
  | assign
  | eqOp
  | neOp
  | addAssign
  | add
  | less
  | grea
  | leOp
  | geOp
  | unaNot
  | andOp
  | orOp
  | mulAssign
  | divAssign
  | subAssign
  | mul
  | div
  | subt
  | incOp
  | decOp
  | incOpPost
  | decOpPost
  | unaNega
  | powOp
  | powAssign
  | modAssign
  | leftAssign
  | rightAssign
  | andAssign
  | xorAssign
  | orAssign
  | mod
  | leftOp
  | rightOp
  | andBit
  | xorBit
  | orBit
  | unaTild
  | push
  | pop
  | createSimple
  | createArray
  | createArrayDyn
  | createArrayIniter
  | createStruct
  | pushArrayIndex
  | createArrayIndex
  | pushStructField
  | pushArrayLength
  | setArrayLength
  | initCopy
  | init
  | cast
  | castBool
  | call
  | callInclude
  | callGame
  | callGameVaried
  | caseOp
  | breakOp
  | bitSet
  | bitUnset
  | returnOp
  | jump
  | jumpIf
  | jumpIfNot
  | jumpIfScTrue
  | jumpIfScFalse
  | jumpIfInited
  | jumpIfBitset
  | marker
  | scriptMarker
  | errorToken
  deriving DecidableEq

namespace Opcode

def code : Opcode → UInt8
  | assign => 0x00
  | eqOp => 0x01
  | neOp => 0x02
  | addAssign => 0x03
  | add => 0x04
  | less => 0x05
  | grea => 0x06
  | leOp => 0x07
  | geOp => 0x08
  | unaNot => 0x09
  | andOp => 0x0a
  | orOp => 0x0b
  | mulAssign => 0x0c
  | divAssign => 0x0d
  | subAssign => 0x0e
  | mul => 0x0f
  | div => 0x10
  | subt => 0x11
  | incOp => 0x12
  | decOp => 0x13
  | incOpPost => 0x14
  | decOpPost => 0x15
  | unaNega => 0x16
  | powOp => 0x17
  | powAssign => 0x18
  | modAssign => 0x19
  | leftAssign => 0x1a
  | rightAssign => 0x1b
  | andAssign => 0x1c
  | xorAssign => 0x1d
  | orAssign => 0x1e
  | mod => 0x1f
  | leftOp => 0x20
  | rightOp => 0x21
  | andBit => 0x22
  | xorBit => 0x23
  | orBit => 0x24
  | unaTild => 0x25
  | push => 0x26
  | pop => 0x27
  | createSimple => 0x28
  | createArray => 0x29
  | createArrayDyn => 0x2a
  | createArrayIniter => 0x2b
  | createStruct => 0x2c
  | pushArrayIndex => 0x2d
  | createArrayIndex => 0x2e
  | pushStructField => 0x2f
  | pushArrayLength => 0x30
  | setArrayLength => 0x31
  | initCopy => 0x32
  | init => 0x33
  | cast => 0x34
  | castBool => 0x35
  | call => 0x36
  | callInclude => 0x37
  | callGame => 0x38
  | callGameVaried => 0x39
  | caseOp => 0x3a
  | breakOp => 0x3b
  | bitSet => 0x3c
  | bitUnset => 0x3d
  | returnOp => 0x3e
  | jump => 0x3f
  | jumpIf => 0x40
  | jumpIfNot => 0x41
  | jumpIfScTrue => 0x42
  | jumpIfScFalse => 0x43
  | jumpIfInited => 0x44
  | jumpIfBitset => 0x45
  | marker => 0x46
  | scriptMarker => 0x47
  | errorToken => 0x48

def table : List Opcode :=
  [assign, eqOp, neOp, addAssign, add, less, grea, leOp, geOp, unaNot, andOp, orOp, mulAssign,
    divAssign, subAssign, mul, div, subt, incOp, decOp, incOpPost, decOpPost, unaNega, powOp,
    powAssign, modAssign, leftAssign, rightAssign, andAssign, xorAssign, orAssign, mod, leftOp,
    rightOp, andBit, xorBit, orBit, unaTild, push, pop, createSimple, createArray, createArrayDyn,
    createArrayIniter, createStruct, pushArrayIndex, createArrayIndex, pushStructField,
    pushArrayLength, setArrayLength, initCopy, init, cast, castBool, call, callInclude, callGame,
    callGameVaried, caseOp, breakOp, bitSet, bitUnset, returnOp, jump, jumpIf, jumpIfNot,
    jumpIfScTrue, jumpIfScFalse, jumpIfInited, jumpIfBitset, marker, scriptMarker, errorToken]

/-- The opcode of a byte; bytes above `errorToken` have none. -/
def decode (b : UInt8) : Option Opcode :=
  table[b.toNat]?

/-- The handlers of the instruction loop.  Five of them serve a whole family of operators. -/
inductive Handler where
  /-- pop the target, pop the value, operate on the target, push the target back -/
  | assignment
  /-- pop right, pop left, push the result -/
  | binary
  | unary
  | preIncDec
  | postIncDec
  | push
  | pop
  | createSimple
  | createArray
  | createArrayDyn
  | createArrayIniter
  | createStruct
  | pushArrayIndex
  | createArrayIndex
  | pushStructField
  | pushArrayLength
  | setArrayLength
  | initCopy
  | init
  | cast
  | castBool
  | call
  | callInclude
  | callGame
  | callGameVaried
  | caseOp
  | breakOp
  | bitSet
  | bitUnset
  | returnOp
  | jump
  | jumpIf
  | jumpIfNot
  | jumpIfScTrue
  | jumpIfScFalse
  | jumpIfInited
  | jumpIfBitset
  | marker
  | scriptMarker
  | errorToken
  deriving DecidableEq

def handler : Opcode → Handler
  | assign | addAssign | mulAssign | divAssign | subAssign | powAssign | modAssign | leftAssign
  | rightAssign | andAssign | xorAssign | orAssign => .assignment
  | eqOp | neOp | add | less | grea | leOp | geOp | andOp | orOp | mul | div | subt | powOp | mod
  | leftOp | rightOp | andBit | xorBit | orBit => .binary
  | unaNot | unaNega | unaTild => .unary
  | incOp | decOp => .preIncDec
  | incOpPost | decOpPost => .postIncDec
  | push => .push
  | pop => .pop
  | createSimple => .createSimple
  | createArray => .createArray
  | createArrayDyn => .createArrayDyn
  | createArrayIniter => .createArrayIniter
  | createStruct => .createStruct
  | pushArrayIndex => .pushArrayIndex
  | createArrayIndex => .createArrayIndex
  | pushStructField => .pushStructField
  | pushArrayLength => .pushArrayLength
  | setArrayLength => .setArrayLength
  | initCopy => .initCopy
  | init => .init
  | cast => .cast
  | castBool => .castBool
  | call => .call
  | callInclude => .callInclude
  | callGame => .callGame
  | callGameVaried => .callGameVaried
  | caseOp => .caseOp
  | breakOp => .breakOp
  | bitSet => .bitSet
  | bitUnset => .bitUnset
  | returnOp => .returnOp
  | jump => .jump
  | jumpIf => .jumpIf
  | jumpIfNot => .jumpIfNot
  | jumpIfScTrue => .jumpIfScTrue
  | jumpIfScFalse => .jumpIfScFalse
  | jumpIfInited => .jumpIfInited
  | jumpIfBitset => .jumpIfBitset
  | marker => .marker
  | scriptMarker => .scriptMarker
  | errorToken => .errorToken

end Opcode

end Don.Bhs
