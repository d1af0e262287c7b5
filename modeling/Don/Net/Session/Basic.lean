import Mathlib
import Don.Foundation.UpdateFirst
import Don.Net.Extension
import Don.Net.Internal
import Don.Net.Retail
import Don.Net.Transport

/-!
# Session.Basic — membership, readiness and the turn store

`crates/don-net/src/session.rs`: the state machine above a datagram transport.  Every method that
takes `&mut self` and returns a `Result` is an `Outcome`: the session it leaves behind and what it
returned.  The question mark operator is `Outcome.andThen`, so what a method did before a failing
send stays done.
-/

namespace Don.Net

open Foundation
open Std (ExtTreeMap)

/-! ## Players and events -/

structure Player where
  uniqueId : Int32
  name : String
  isHost : Bool
  isLocal : Bool
  ready : Bool
  lastPulseMs : UInt64
  slot : Nat
  deriving DecidableEq

inductive SetupRefusal where
  | malformed (error : InternalError)
  | malformedExtension (error : ExtensionError)
  | gameKeyFromNonHost (expectedHost : Option Int32)
  | matchStartFromNonHost (expectedHost : Option Int32)
  | matchStartBeforeAllReady
  | matchStartInvalidEpoch (epoch : UInt32)
  | matchStartConflict (currentEpoch currentSeed announcedEpoch announcedSeed : UInt32)
  | senderIdMismatch (announced : Int32)
  | unexpectedHostClaim
  | duplicateAddConflict (uniqueId : Int32)
  | playerListFromNonHost
  | playerListHostMismatch (expected : Int32)
  | hostMissingFromSlotZero
  | localMissingFromRoster
  | readyBeforeAdd
  | destroySenderMismatch (announced : Int32)
  deriving DecidableEq

/-- An accepted match start (`from` in the source is `sender` here). -/
structure AnnouncedMatchStart where
  sender : Int32
  epoch : UInt32
  seed : UInt32
  deriving DecidableEq

structure AnnouncedGameKey where
  sender : Int32
  seed : UInt32
  source : GameKeySource
  deriving DecidableEq

structure OwnedMsg where
  id : UInt8
  response : Bool
  bytes : Bytes
  deriving DecidableEq

inductive Event where
  | playerJoined (uniqueId : Int32)
  | playerLeft (uniqueId : Int32)
  | allReady
  | readyChanged (uniqueId : Int32) (ready : Bool)
  | setupRefused (sender : Int32) (reason : SetupRefusal)
  | desync (uniqueId frame : Int32)
  | gameKeyAnnounced (sender : Int32) (seed : UInt32) (source : GameKeySource)
  | matchStarted (start : AnnouncedMatchStart)
  | game (sender : Int32) (msg : OwnedMsg)
  deriving DecidableEq

inductive Role where
  | host
  | client
  deriving DecidableEq

inductive MatchStartError where
  | notHost
  | notAllReady
  | zeroEpoch
  | alreadyStarted (current : AnnouncedMatchStart) (requestedEpoch requestedSeed : UInt32)
  | transport (error : IoError)
  deriving DecidableEq

/-! ## The session -/

/-- Received and local command packages: stamp, then slot. -/
abbrev TurnStore := ExtTreeMap UInt32 (ExtTreeMap Int8 TurnPackage)

structure Session (τ : Type) where
  transport : τ
  role : Role
  localName : String
  players : List Player
  events : List Event
  turns : TurnStore
  announcedTo : List Int32
  allReadyFired : Bool
  nowMs : UInt64
  lastPulseSentMs : UInt64
  pulseIntervalMs : UInt64
  timeoutMs : UInt64
  announcedGameKey : Option AnnouncedGameKey
  announcedMatchStart : Option AnnouncedMatchStart

namespace Session

variable {τ : Type} [Transport τ]

def localPlayer (id : Int32) (role : Role) (name : String) : Player :=
  { uniqueId := id
    name,
    isHost := role = .host
    isLocal := true
    ready := false
    lastPulseMs := 0
    slot := 0 }

def new (transport : τ) (role : Role) (localName : String) : Session τ :=
  { transport, role, localName,
    players := [localPlayer (Transport.localId transport) role localName]
    events := []
    turns := ∅
    announcedTo := []
    allReadyFired := false
    nowMs := 0
    lastPulseSentMs := 0
    pulseIntervalMs := 1000
    timeoutMs := 30000
    announcedGameKey := none
    announcedMatchStart := none }

variable (s : Session τ)

def setTimeoutMs (ms : UInt64) : Session τ :=
  { s with timeoutMs := ms }

def localId : Int32 :=
  Transport.localId s.transport

/-- `reset_for_reuse`: every per-attempt field starts over; intervals and transport stay. -/
def resetForReuse (role : Role) : Session τ :=
  { s with
    role,
    players := [localPlayer s.localId role s.localName]
    events := []
    turns := ∅
    announcedTo := []
    allReadyFired := false
    nowMs := 0
    lastPulseSentMs := 0
    announcedGameKey := none
    announcedMatchStart := none }

variable (uniqueId : Int32)

def find : Option Player :=
  s.players.find? (·.uniqueId = uniqueId)

def allReady : Bool :=
  !s.players.isEmpty && s.players.all (·.ready)

/-- The unique id of the first player marked host. -/
def host? : Option Int32 :=
  (s.players.find? (·.isHost)).map (·.uniqueId)

def localReady : Bool :=
  ((s.players.find? (·.isLocal)).map (·.ready)).getD false

def push (event : Event) : Session τ :=
  { s with events := s.events ++ [event] }

/-! ### Sending -/

def transmit (dest : Dest) (bytes : Bytes) : Outcome (Session τ) IoError Unit :=
  let sent := Transport.send s.transport dest bytes
  { state := { s with transport := sent.state }
    result := sent.result }

def emitAll (p : InternalPacket) : Outcome (Session τ) IoError Unit :=
  s.transmit .all p.encode

def emitTo (peer : Int32) (p : InternalPacket) :
    Outcome (Session τ) IoError Unit :=
  s.transmit (.one peer) p.encode

def republishReady : Outcome (Session τ) IoError Unit :=
  s.emitAll (.readyFlag s.localReady)

/-! ### Local calls -/

def sendReadyFlag (ready : Bool) : Outcome (Session τ) IoError Unit :=
  let players := updateFirst (·.isLocal) (fun p : Player => { p with ready }) s.players
  emitAll { s with players } (.readyFlag ready)

def resetReadyFlags : Outcome (Session τ) IoError Unit :=
  let s : Session τ :=
    { s with
      players := s.players.map fun p => { p with ready := false }
      allReadyFired := false }
  s.emitAll (.readyFlag false)

def sendDsync (frame : Int32) : Outcome (Session τ) IoError Unit :=
  s.emitAll (.dsync frame)

def recordStart (start : AnnouncedMatchStart) : Session τ :=
  push { s with announcedMatchStart := some start } (.matchStarted start)

def startMatch (epoch seed : UInt32) :
    Outcome (Session τ) MatchStartError AnnouncedMatchStart :=
  if s.role ≠ .host then
    .error s .notHost
  else if epoch = 0 then
    .error s .zeroEpoch
  else if !s.allReady then
    .error s .notAllReady
  else
    match s.announcedMatchStart with
    | some current =>
      if current.epoch = epoch ∧ current.seed = seed then
        .ok s current
      else
        .error s (.alreadyStarted current epoch seed)
    | none =>
      let sent := s.transmit .all (DonExtension.matchStart epoch seed).encode
      match sent.result with
      | .error e => .error sent.state (.transport e)
      | .ok () =>
        let started : AnnouncedMatchStart :=
          { sender := sent.state.localId
            epoch, seed }
        .ok (sent.state.recordStart started) started

def announceGameKeyTo (peer : Int32) (seed : UInt32) (source : GameKeySource) :
    Outcome (Session τ) IoError Unit :=
  s.transmit (.one peer) (DonExtension.gameKey seed source).encode

def announceGameKey (seed : UInt32) (source : GameKeySource) :
    Outcome (Session τ) IoError Unit :=
  s.transmit .all (DonExtension.gameKey seed source).encode

def announceDisconnect : Outcome (Session τ) IoError Unit :=
  s.emitAll (.destroyPlayer s.localId)

def sendAll (msg : NetMsg) : Outcome (Session τ) IoError Unit :=
  s.transmit .all msg.encode

def sendTo (msg : NetMsg) : Outcome (Session τ) IoError Unit :=
  s.transmit (.one uniqueId) msg.encode

def filePackage (package : TurnPackage) : Session τ :=
  { s with
    turns := s.turns.insert package.stamp
      (((s.turns[package.stamp]?).getD ∅).insert package.play package) }

def sendCommandPackage (stamp : UInt32) (play : Int8) (payload : Bytes) :
    Outcome (Session τ) IoError Unit :=
  if payload.length > maxCommandPackagePayload then
    .error s
      { kind := .invalidInput
        message := "command package payload is " ++ toString payload.length
          ++ " bytes; retail capacity is " ++ toString maxCommandPackagePayload }
  else
    (s.sendAll (.commandPackage stamp play payload)).andThen fun s _ =>
      .ok (s.filePackage { stamp := stamp, play := play, payload := payload }) ()

/-- The lockstep gate: at least as many packages as players. -/
def turnReady (stamp : UInt32) : Bool :=
  match s.turns[stamp]? with
  | none => false
  | some packages => s.players.length ≤ packages.size

def packageForTurn (stamp : UInt32) (play : Int8) : Option TurnPackage :=
  (s.turns[stamp]?).bind fun packages => packages[play]?

def takeTurn (stamp : UInt32) : Session τ × List TurnPackage :=
  match s.turns[stamp]? with
  | none => (s, [])
  | some packages =>
    ({ s with turns := s.turns.erase stamp }, packages.toList.map Prod.snd)

def drainEvents : Session τ × List Event :=
  ({ s with events := [] }, s.events)

/-! ### Received packets -/

variable (sender : Int32)

def refuse (reason : SetupRefusal) :
    Outcome (Session τ) IoError Unit :=
  .ok (s.push (.setupRefused sender reason)) ()

def handleGameKey (seed : UInt32) (source : GameKeySource) :
    Outcome (Session τ) IoError Unit :=
  if s.host? ≠ some sender then
    s.refuse sender (.gameKeyFromNonHost s.host?)
  else
    let announcement : AnnouncedGameKey :=
      { sender, seed, source }
    if s.announcedGameKey ≠ some announcement then
      .ok (push { s with announcedGameKey := some announcement }
        (.gameKeyAnnounced sender seed source)) ()
    else
      .ok s ()

def handleMatchStart (epoch seed : UInt32) :
    Outcome (Session τ) IoError Unit :=
  if s.host? ≠ some sender then
    s.refuse sender (.matchStartFromNonHost s.host?)
  else if !s.allReady then
    s.refuse sender .matchStartBeforeAllReady
  else if epoch = 0 then
    s.refuse sender (.matchStartInvalidEpoch epoch)
  else
    let announced : AnnouncedMatchStart :=
      { sender, epoch, seed }
    match s.announcedMatchStart with
    | none => .ok (s.recordStart announced) ()
    | some current =>
      if current = announced then
        .ok s ()
      else
        s.refuse sender (.matchStartConflict current.epoch current.seed epoch seed)

def handleExtension : DonExtension →
    Outcome (Session τ) IoError Unit
  | .gameKey seed source => s.handleGameKey sender seed source
  | .matchStart epoch seed => s.handleMatchStart sender epoch seed

/-- The roster packet the host sends: the first eight players, in roster order. -/
def playerListPacket : InternalPacket :=
  .playerList (UInt8.ofNat (min s.players.length 8))
    (Vector.ofFn fun i => ((s.players.map (·.uniqueId))[i.val]?).getD 0)

/-- The host answers every announcement with the roster and its own name. -/
def answerAdd : Outcome (Session τ) IoError Unit :=
  if s.role = .host then
    (s.emitAll s.playerListPacket).andThen fun s _ =>
      s.emitAll (.addPlayer s.localName s.localId true)
  else
    .ok s ()

/-- A player the roster did not have. -/
def join (name : String) (isHost isLocal : Bool) (slot : Nat) :
    Session τ :=
  let player : Player :=
    { uniqueId, name, isHost, isLocal,
      ready := false
      lastPulseMs := s.nowMs
      slot }
  push { s with players := s.players ++ [player] } (.playerJoined uniqueId)

/-- Complete the entry of a player known from a roster packet only. -/
def introduce (name : String) (isHosting : Bool) : Session τ :=
  { s with
    players := updateFirst (·.uniqueId = uniqueId)
      (fun p =>
        { p with
          name := if p.name = "" then name else p.name
          isHost := isHosting }) s.players }

def handleAddPlayer (name : String) (uniqueId : Int32)
    (isHosting : Bool) : Outcome (Session τ) IoError Unit :=
  if uniqueId ≠ sender then
    s.refuse sender (.senderIdMismatch uniqueId)
  else if isHosting ∧ (s.role = .host ∨ s.host?.any (· ≠ uniqueId)) then
    s.refuse sender .unexpectedHostClaim
  else
    match s.find uniqueId with
    | some p =>
      if (p.name ≠ "" ∧ p.name ≠ name) ∨ p.isHost ≠ isHosting then
        s.refuse sender (.duplicateAddConflict uniqueId)
      else
        (s.introduce uniqueId name isHosting).answerAdd
    | none =>
      (s.join uniqueId name isHosting false s.players.length).republishReady.andThen fun s _ =>
        s.answerAdd

/-- One entry of an accepted roster packet; the flag records whether the roster grew. -/
def enrollEntry (acc : Session τ × Bool) (entry : Int32 × Nat) :
    Session τ × Bool :=
  if entry.1 = 0 then
    acc
  else
    match acc.1.find entry.1 with
    | some _ =>
      ({ acc.1 with
        players := updateFirst (·.uniqueId = entry.1)
          (fun p =>
            { p with
              slot := entry.2
              isHost := entry.1 = sender }) acc.1.players }, acc.2)
    | none =>
      (acc.1.join entry.1 "" (entry.1 = sender) (entry.1 = acc.1.localId) entry.2, true)

def enroll (ids : List Int32) : Session τ × Bool :=
  ids.zipIdx.foldl (enrollEntry sender) (s, false)

def removePlayer : Session τ :=
  push
    { s with
      players := s.players.filter (·.uniqueId ≠ uniqueId)
      announcedTo := s.announcedTo.filter (· ≠ uniqueId) } (.playerLeft uniqueId)

def removeAll (ids : List Int32) : Session τ :=
  ids.foldl removePlayer s

/-- Drop whoever an accepted roster packet left out, then order the roster by slot. -/
def settle (keep : List Int32) : Session τ :=
  let dropped := (s.players.filter fun p => !p.isLocal && p.uniqueId ∉ keep).map (·.uniqueId)
  let s := s.removeAll dropped
  { s with players := s.players.insertionSort fun p q => p.slot ≤ q.slot }

def handlePlayerList (numPlayers : UInt8)
    (uniqueIds : Vector Int32 8) : Outcome (Session τ) IoError Unit :=
  let ids := InternalPacket.active numPlayers uniqueIds
  if s.role = .host then
    s.refuse sender .playerListFromNonHost
  else
    match s.host?.filter (· ≠ sender) with
    | some expected => s.refuse sender (.playerListHostMismatch expected)
    | none =>
      if uniqueIds.head ≠ sender then
        s.refuse sender .hostMissingFromSlotZero
      else if s.localId ∉ ids then
        s.refuse sender .localMissingFromRoster
      else
        let enrolled := s.enroll sender ids
        if enrolled.2 then
          enrolled.1.republishReady.andThen fun s _ => .ok (s.settle ids) ()
        else
          .ok (enrolled.1.settle ids) ()

def handleReadyFlag (ready : Bool) :
    Outcome (Session τ) IoError Unit :=
  match s.find sender with
  | some p =>
    if p.ready ≠ ready then
      let players := updateFirst (·.uniqueId = sender) (fun p => { p with ready }) s.players
      .ok (push { s with players } (.readyChanged sender ready)) ()
    else
      .ok s ()
  | none => s.refuse sender .readyBeforeAdd

def handlePulse : Outcome (Session τ) IoError Unit :=
  .ok { s with
    players := updateFirst (·.uniqueId = sender) (fun p => { p with lastPulseMs := s.nowMs })
      s.players } ()

def handleDestroyPlayer (sender uniqueId : Int32) :
    Outcome (Session τ) IoError Unit :=
  if uniqueId ≠ sender then
    s.refuse sender (.destroySenderMismatch uniqueId)
  else
    let s := { s with announcedTo := s.announcedTo.filter (· ≠ uniqueId) }
    if s.players.any (·.uniqueId = uniqueId) then
      .ok (push { s with players := s.players.filter (·.uniqueId ≠ uniqueId) }
        (.playerLeft uniqueId)) ()
    else
      .ok s ()

/-- `process_host_migrate_message`: unlike its siblings it does not ask who sent the packet. -/
def handleMigrateHost (newHost : Int32) : Outcome (Session τ) IoError Unit :=
  let s := { s with players := s.players.map fun p => { p with isHost := p.uniqueId = newHost } }
  .ok (if newHost = s.localId then { s with role := .host } else s) ()

def handleInternal : InternalPacket →
    Outcome (Session τ) IoError Unit
  | .addPlayer name uniqueId isHosting => s.handleAddPlayer sender name uniqueId isHosting
  | .playerList numPlayers uniqueIds => s.handlePlayerList sender numPlayers uniqueIds
  | .readyFlag ready => s.handleReadyFlag sender ready
  | .pulse => s.handlePulse sender
  | .dsync frame => .ok (s.push (.desync sender frame)) ()
  | .destroyPlayer uniqueId => s.handleDestroyPlayer sender uniqueId
  | .migrateHost newHost => s.handleMigrateHost newHost
  | .dropRequest _ => .ok s ()
  | .cancelDropRequest _ => .ok s ()

def handleGame (d : Datagram) : Outcome (Session τ) IoError Unit :=
  match NetMsg.decode d.bytes with
  | .error _ => .ok s ()
  | .ok f =>
    let s := match f.msg with
      | .commandPackage stamp play payload =>
        s.filePackage { stamp := stamp, play := play, payload := payload }
      | _ => s
    let msg : OwnedMsg :=
      { id := f.ty.id
        response := f.ty.response
        bytes := d.bytes }
    .ok (s.push (.game d.sender msg)) ()

def handle (d : Datagram) : Outcome (Session τ) IoError Unit :=
  match d.bytes with
  | [] => .ok s ()
  | first :: _ =>
    if DonExtension.isExtension first then
      match DonExtension.decode d.bytes with
      | .error e => s.refuse d.sender (.malformedExtension e)
      | .ok p => s.handleExtension d.sender p
    else if iptBase ≤ first then
      match InternalPacket.decode d.bytes with
      | .error e => s.refuse d.sender (.malformed e)
      | .ok p => s.handleInternal d.sender p
    else
      s.handleGame d

/-! ### Polling -/

def greetAll (add flag : InternalPacket) : List Int32 → Session τ →
    Outcome (Session τ) IoError Unit
  | [], s => .ok s ()
  | peer :: rest, s =>
    ((s.emitTo peer add).andThen fun s _ => s.emitTo peer flag).andThen fun s _ =>
      greetAll add flag rest { s with announcedTo := s.announcedTo ++ [peer] }

def greetFresh : Outcome (Session τ) IoError Unit :=
  let fresh := (Transport.peers s.transport).filter (· ∉ s.announcedTo)
  greetAll (.addPlayer s.localName s.localId (s.role = .host)) (.readyFlag s.localReady) fresh s

def sendPulse (nowMs : UInt64) : Outcome (Session τ) IoError Unit :=
  if s.pulseIntervalMs ≤ saturatingSub nowMs s.lastPulseSentMs then
    (s.emitAll .pulse).andThen fun s _ => .ok { s with lastPulseSentMs := nowMs } ()
  else
    .ok s ()

/-- The part of `poll` before it reads the transport. -/
def pollBegin (nowMs : UInt64) : Outcome (Session τ) IoError Unit :=
  (greetFresh { s with nowMs }).andThen fun s _ => s.sendPulse nowMs

def drive (budget : Nat) : Outcome (Session τ) IoError Unit :=
  let driven := Transport.poll s.transport budget
  { state := { s with transport := driven.state }
    result := driven.result }

/-- The receive loop, for at most `fuel` datagrams. -/
def receiveAll : Nat → Session τ → Outcome (Session τ) IoError Unit
  | 0, s => .ok s ()
  | fuel + 1, s =>
    let popped := Transport.recv s.transport
    let s := { s with transport := popped.state }
    match popped.result with
    | .error e => .error s e
    | .ok none => .ok s ()
    | .ok (some d) => (s.handle d).andThen fun s _ => receiveAll fuel s

def reapTimeouts : Session τ :=
  let dropped := (s.players.filter fun p =>
    !p.isLocal && s.timeoutMs < saturatingSub s.nowMs p.lastPulseMs).map (·.uniqueId)
  s.removeAll dropped

/-- Report the edge to all-ready once. -/
def noteAllReady : Session τ :=
  if s.allReady && !s.allReadyFired then
    push { s with allReadyFired := true } .allReady
  else if !s.allReady then
    { s with allReadyFired := false }
  else
    s

/-- The part of `poll` after the receive loop. -/
def pollEnd : Session τ :=
  s.reapTimeouts.noteAllReady

/-- `poll`; the loop over the transport's inbox is cut after `fuel` datagrams. -/
def poll (fuel : Nat) (s : Session τ) (nowMs : UInt64) (budget : Nat) :
    Outcome (Session τ) IoError Unit :=
  (((s.pollBegin nowMs).andThen fun s _ => s.drive budget).andThen fun s _ =>
    receiveAll fuel s).andThen fun s _ => .ok s.pollEnd ()

end Session

end Don.Net
