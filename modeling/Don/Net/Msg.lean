import Don.Foundation.Text

/-!
# Msg — the game's own message layer

`crates/don-net/src/msg.rs`: the type byte with its reply marker, the fixed-width text fields, and
the codec of `NetMsg`.  Every id below 128 belongs to this layer; a type byte with the top bit set is
refused as internal.
-/

namespace Don.Net

open Foundation

/-! ## Fixed-width text -/

/-- `read_wide`: UTF-16LE units up to the first NUL or the end of the buffer. -/
def readWideChars (b : Bytes) (off : Nat) : Nat → List Char
  | 0 => []
  | units + 1 =>
    if b.length ≤ off + 1 then
      []
    else if u16le b off = 0 then
      []
    else
      charOfUnit (u16le b off) :: readWideChars b (off + 2) units

def readWide (b : Bytes) (off units : Nat) : String :=
  String.ofList (readWideChars b off units)

def writeWide (s : String) (units : Nat) : Bytes :=
  let kept := (utf16Units s).take (units - 1)
  kept.flatMap u16ToLe ++ List.replicate (2 * (units - kept.length)) 0

/-- `read_narrow`: bytes up to the first NUL, decoded lossily. -/
def readNarrow (b : Bytes) (off len : Nat) : String :=
  fromUtf8Lossy (((b.drop off).take len).takeWhile (· ≠ 0))

def writeNarrow (s : String) (len : Nat) : Bytes :=
  let kept := (utf8Bytes s).take (len - 1)
  kept ++ List.replicate (len - kept.length) 0

lemma length_writeNarrow (s : String) (len : Nat) : (writeNarrow s len).length = len := by
  have hkept : ((utf8Bytes s).take (len - 1)).length ≤ len := by
    rw [List.length_take]
    omega
  simp only [writeNarrow, List.length_append, List.length_replicate]
  omega

/-! ## Message types -/

/-- Message ids, in the order of the source: the id is the position. -/
inductive NetMsgType where
  | generic | playerConnectionData | allPlayerConnectionData | gameConnectionData
  | gameConnectionDataFull | chat | ping | commandPackageData | pause | taunt | syncSignal
  | dropStamp | timeSync | dropVote | dropDecision | gameModSyncRequest | gameModSyncResponse
  | syncFileBegin | syncFileResponse | syncFileData | syncFileVerify | syncFileEnd | syncFileError
  | syncDirError | syncDirRequest | syncDirInfo | gameSpyChallenge | playerStatusRequest
  | playerStatusResponse | dropFlag | spline | gameConnectionScenario | gameConnectionModInfo
  deriving DecidableEq

def NetMsgType.toUInt8 (t : NetMsgType) : UInt8 :=
  UInt8.ofNat t.ctorIdx

/-- The message id plus the reply marker, both carried by the type byte. -/
structure MsgType where
  id : UInt8
  response : Bool
  deriving DecidableEq

namespace MsgType

def responseFlag : UInt8 := 64

def fromWire (b : UInt8) : MsgType :=
  { id := b &&& ~~~responseFlag
    response := b &&& responseFlag ≠ 0 }

def toWire (t : MsgType) : UInt8 :=
  t.id ||| (if t.response then responseFlag else 0)

def isInternal (b : UInt8) : Bool :=
  128 ≤ b

end MsgType

/-! ## Messages -/

inductive NetMsg where
  | generic (buffer : Vector UInt8 512)
  | chat (observerToAll : UInt8) (message : String)
  | ping (cx cy : Int32)
  | commandPackage (stamp : UInt32) (play : Int8) (payload : Bytes)
  | pause (play : Int32) (pauseTime : UInt32) (requestedState : UInt8)
  | taunt (taunt : UInt8)
  | syncSignal (play : Int32)
  | dropStamp (playFrom stamp play : Int32)
  | timeSync (timeStampSent timeStampReceived : UInt32)
  | dropVote (play : UInt8) (vote : Int8)
  | dropDecision (vote : Int8)
  | dropFlag (pid : Int32)
  | gameModSyncRequest (desired : UInt8)
  | gameModSyncResponse (required : UInt8)
  | playerStatusRequest
  | playerStatusResponse (playerId timeSinceLastPulse : Vector UInt32 8)
  | raw (id : UInt8) (body : Bytes)
  deriving DecidableEq

structure Framed where
  ty : MsgType
  msg : NetMsg
  deriving DecidableEq

inductive MsgError where
  | empty
  | short (id : UInt8) (need available : Nat)
  | negativeSize (size : Int16)
  | isInternal (byte : UInt8)
  deriving DecidableEq

namespace NetMsg

def id : NetMsg → UInt8
  | .generic .. => NetMsgType.generic.toUInt8
  | .chat .. => NetMsgType.chat.toUInt8
  | .ping .. => NetMsgType.ping.toUInt8
  | .commandPackage .. => NetMsgType.commandPackageData.toUInt8
  | .pause .. => NetMsgType.pause.toUInt8
  | .taunt .. => NetMsgType.taunt.toUInt8
  | .syncSignal .. => NetMsgType.syncSignal.toUInt8
  | .dropStamp .. => NetMsgType.dropStamp.toUInt8
  | .timeSync .. => NetMsgType.timeSync.toUInt8
  | .dropVote .. => NetMsgType.dropVote.toUInt8
  | .dropDecision .. => NetMsgType.dropDecision.toUInt8
  | .dropFlag .. => NetMsgType.dropFlag.toUInt8
  | .gameModSyncRequest .. => NetMsgType.gameModSyncRequest.toUInt8
  | .gameModSyncResponse .. => NetMsgType.gameModSyncResponse.toUInt8
  | .playerStatusRequest => NetMsgType.playerStatusRequest.toUInt8
  | .playerStatusResponse .. => NetMsgType.playerStatusResponse.toUInt8
  | .raw id _ => id

/-- The length check every typed message makes before it reads. -/
def need (id : UInt8) (buf : Bytes) (n : Nat) : Except MsgError Unit :=
  if buf.length < n then .error (.short id n buf.length) else .ok ()

def decodeBody (id : UInt8) (buf : Bytes) : Except MsgError NetMsg :=
  if id = NetMsgType.generic.toUInt8 then do
    need id buf 513
    return .generic (Vector.ofFn fun i => byteAt buf (1 + i))
  else if id = NetMsgType.chat.toUInt8 then do
    need id buf 514
    return .chat (byteAt buf 1) (readWide buf 2 256)
  else if id = NetMsgType.ping.toUInt8 then do
    need id buf 9
    return .ping (i32le buf 1) (i32le buf 5)
  else if id = NetMsgType.commandPackageData.toUInt8 then do
    need id buf 8
    let size := (u16le buf 6).toInt16
    if size < 0 then
      throw (.negativeSize size)
    let stop := 8 + size.toNatClampNeg
    need id buf stop
    return .commandPackage (u32le buf 1) (byteAt buf 5).toInt8 ((buf.take stop).drop 8)
  else if id = NetMsgType.pause.toUInt8 then do
    need id buf 10
    return .pause (i32le buf 1) (u32le buf 5) (byteAt buf 9)
  else if id = NetMsgType.taunt.toUInt8 then do
    need id buf 2
    return .taunt (byteAt buf 1)
  else if id = NetMsgType.syncSignal.toUInt8 then do
    need id buf 5
    return .syncSignal (i32le buf 1)
  else if id = NetMsgType.dropStamp.toUInt8 then do
    need id buf 13
    return .dropStamp (i32le buf 1) (i32le buf 5) (i32le buf 9)
  else if id = NetMsgType.timeSync.toUInt8 then do
    need id buf 9
    return .timeSync (u32le buf 1) (u32le buf 5)
  else if id = NetMsgType.dropVote.toUInt8 then do
    need id buf 3
    return .dropVote (byteAt buf 1) (byteAt buf 2).toInt8
  else if id = NetMsgType.dropDecision.toUInt8 then do
    need id buf 2
    return .dropDecision (byteAt buf 1).toInt8
  else if id = NetMsgType.dropFlag.toUInt8 then do
    need id buf 5
    return .dropFlag (i32le buf 1)
  else if id = NetMsgType.gameModSyncRequest.toUInt8 then do
    need id buf 2
    return .gameModSyncRequest (byteAt buf 1)
  else if id = NetMsgType.gameModSyncResponse.toUInt8 then do
    need id buf 2
    return .gameModSyncResponse (byteAt buf 1)
  else if id = NetMsgType.playerStatusRequest.toUInt8 then
    return .playerStatusRequest
  else if id = NetMsgType.playerStatusResponse.toUInt8 then do
    need id buf 65
    return .playerStatusResponse (Vector.ofFn fun i => u32le buf (1 + i * 4))
      (Vector.ofFn fun i => u32le buf (33 + i * 4))
  else
    return .raw id (buf.drop 1)

/-- Decode one packet; the first byte is the raw type byte, reply marker included. -/
def decode : Bytes → Except MsgError Framed
  | [] => .error .empty
  | first :: rest =>
    if MsgType.isInternal first then
      .error (.isInternal first)
    else
      let ty := MsgType.fromWire first
      match decodeBody ty.id (first :: rest) with
      | .error e => .error e
      | .ok msg => .ok { ty := ty, msg := msg }

def encodeBody : NetMsg → Bytes
  | .generic buffer => buffer.toList
  | .chat observerToAll message => observerToAll :: writeWide message 256
  | .ping cx cy => i32ToLe cx ++ i32ToLe cy
  | .commandPackage stamp play payload =>
    u32ToLe stamp ++ [play.toUInt8] ++ u16ToLe (UInt16.ofNat payload.length) ++ payload
  | .pause play pauseTime requestedState =>
    i32ToLe play ++ u32ToLe pauseTime ++ [requestedState]
  | .taunt value => [value]
  | .syncSignal play => i32ToLe play
  | .dropStamp playFrom stamp play => i32ToLe playFrom ++ i32ToLe stamp ++ i32ToLe play
  | .timeSync sent received => u32ToLe sent ++ u32ToLe received
  | .dropVote play vote => [play, vote.toUInt8]
  | .dropDecision vote => [vote.toUInt8]
  | .dropFlag pid => i32ToLe pid
  | .gameModSyncRequest desired => [desired]
  | .gameModSyncResponse required => [required]
  | .playerStatusRequest => []
  | .playerStatusResponse playerId timeSinceLastPulse =>
    playerId.toList.flatMap u32ToLe ++ timeSinceLastPulse.toList.flatMap u32ToLe
  | .raw _ body => body

def encodeFramed (msg : NetMsg) (response : Bool) : Bytes :=
  MsgType.toWire { id := msg.id, response := response } :: msg.encodeBody

/-- `encode`: the reply marker clear. -/
def encode (msg : NetMsg) : Bytes :=
  msg.encodeFramed false

lemma decode_first {b : UInt8} {rest : Bytes} {f : Framed} (h : decode (b :: rest) = .ok f) :
    b < 128 := by
  simp only [decode] at h
  split at h
  · cases h
  · rename_i hint
    simpa [MsgType.isInternal] using hint

end NetMsg

end Don.Net
