import Don.Foundation.Bytes

/-!
# Extension — DoN transport extensions

`crates/don-net/src/extension.rs`: two packets of our own above the shipped internal range, the game
key of a match in progress and the explicit match start.
-/

namespace Don.Net

open Foundation

def donExtBase : UInt8 := 0xF0
def donExtGameKey : UInt8 := 0xF0
def donExtMatchStart : UInt8 := 0xF1
def donExtGameKeyLen : Nat := 6
def donExtMatchStartLen : Nat := 9

/-- Where the announcing side got the key. -/
inductive GameKeySource where
  | retailGameInfoSeed
  | configured
  deriving DecidableEq

namespace GameKeySource

def fromWire (value : UInt8) : Option GameKeySource :=
  if value = 1 then
    some .retailGameInfoSeed
  else if value = 2 then
    some .configured
  else
    none

def toWire : GameKeySource → UInt8
  | .retailGameInfoSeed => 1
  | .configured => 2

end GameKeySource

inductive DonExtension where
  | gameKey (seed : UInt32) (source : GameKeySource)
  | matchStart (epoch seed : UInt32)
  deriving DecidableEq

inductive ExtensionError where
  | notExtension (byte : UInt8)
  | unknownType (byte : UInt8)
  | short (id : UInt8) (need available : Nat)
  | trailing (id : UInt8) (need available : Nat)
  | unknownGameKeySource (value : UInt8)
  deriving DecidableEq

namespace DonExtension

def isExtension (first : UInt8) : Bool :=
  donExtBase ≤ first

def exactly (id : UInt8) (buf : Bytes) (need : Nat) (packet : Except ExtensionError DonExtension) :
    Except ExtensionError DonExtension :=
  if buf.length < need then
    .error (.short id need buf.length)
  else if buf.length > need then
    .error (.trailing id need buf.length)
  else
    packet

def decode : Bytes → Except ExtensionError DonExtension
  | [] => .error (.notExtension 0)
  | id :: rest =>
    let buf := id :: rest
    if !isExtension id then
      .error (.notExtension id)
    else if id = donExtGameKey then
      exactly id buf donExtGameKeyLen <|
        match GameKeySource.fromWire (byteAt buf 5) with
        | none => .error (.unknownGameKeySource (byteAt buf 5))
        | some source => .ok (.gameKey (u32le buf 1) source)
    else if id = donExtMatchStart then
      exactly id buf donExtMatchStartLen (.ok (.matchStart (u32le buf 1) (u32le buf 5)))
    else
      .error (.unknownType id)

def encode : DonExtension → Bytes
  | .gameKey seed source => donExtGameKey :: (u32ToLe seed ++ [source.toWire])
  | .matchStart epoch seed => donExtMatchStart :: (u32ToLe epoch ++ u32ToLe seed)

end DonExtension

end Don.Net
