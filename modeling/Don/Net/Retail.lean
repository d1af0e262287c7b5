import Don.Net.Command

/-!
# Retail — the checksum package boundary

`crates/don-net/src/retail.rs`: a turn package is accepted only if its payload, after the retail
XOR and padding transform, splits into commands of which exactly one is a checksum command whose
last word is the sum of the other fifteen.
-/

namespace Don.Net

open Foundation

/-- A command package keyed by `(stamp, player slot)` (`session.rs`). -/
structure TurnPackage where
  stamp : UInt32
  play : Int8
  payload : Bytes
  deriving DecidableEq

structure DecodedRetailChecksum where
  stamp : UInt32
  play : Int8
  commandCount : Nat
  opcodes : List UInt8
  checksums : CheckSums
  deriving DecidableEq

inductive RetailChecksumError where
  | payloadTooLarge (len : Nat)
  | commandDecode (error : Error)
  | missingChecksum
  | multipleChecksums
  | invalidChecksumTotal (expected actual : UInt32)
  deriving DecidableEq

def checksumOpcode : UInt8 := 0x39

/-- Wrapping sum of the first fifteen words. -/
def CheckSums.total (c : CheckSums) : UInt32 :=
  (c.words.toList.take 15).foldl (· + ·) 0

/-- One pass of the checksum loop: `found` is the checksum command seen so far. -/
def collectChecksum : List Command → Option CheckSums → Except RetailChecksumError (Option CheckSums)
  | [], found => .ok found
  | command :: rest, found =>
    if command.opcode ≠ checksumOpcode then
      collectChecksum rest found
    else
      match CheckSums.decode command with
      | none => .error .missingChecksum
      | some decoded =>
        if decoded.words[15] ≠ decoded.total then
          .error (.invalidChecksumTotal decoded.total decoded.words[15])
        else
          -- `checksums.replace(decoded)` returned a previous value
          match found with
          | some _ => .error .multipleChecksums
          | none => collectChecksum rest (some decoded)

def decodeRetailChecksumPackage (package : TurnPackage) (gameKey : UInt32) :
    Except RetailChecksumError DecodedRetailChecksum :=
  if 512 < package.payload.length then
    .error (.payloadTooLarge package.payload.length)
  else
    let plain := xorPayload package.payload (Obfuscation.xorKey gameKey)
    match decodeCommands plain (Obfuscation.multiplayer gameKey) with
    | .error e => .error (.commandDecode e)
    | .ok commands =>
      match collectChecksum commands none with
      | .error e => .error e
      | .ok none => .error .missingChecksum
      | .ok (some checksums) =>
        .ok
          { stamp := package.stamp
            play := package.play
            commandCount := commands.length
            opcodes := commands.map Command.opcode
            checksums }

end Don.Net
