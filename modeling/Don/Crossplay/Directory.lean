import Mathlib

/-!
# Directory — lobbies and mailboxes

The model of `Directory` in `local.rs`: the lobbies by id, the mailbox of every attached peer, and the
number of lobbies made so far.  A call takes the directory and gives its result with the directory it
leaves behind.  Additions that would overflow do not return: a call that makes one is `none`.
-/

namespace Don.Crossplay

open Std (ExtTreeMap)

/-! ## Data -/

/-- `Attributes`: keys in order. -/
abbrev Attributes := ExtTreeMap String String

structure Member where
  userId : String
  userName : String
  platform : String
  platformAccountId : String
  deriving DecidableEq

/-- `Member::new` -/
def Member.new (userId userName : String) : Member where
  userId := userId
  userName := userName
  platform := "don"
  platformAccountId := userId

structure Lobby where
  id : String
  ownerUserId : String
  sessionReference : String
  maxMembers : Int32
  botCount : Int32
  attributeVersion : Int32
  visibility : Int32
  members : List Member
  attributes : Attributes
  gameStarted : Bool
  deriving DecidableEq

namespace Lobby

variable (l : Lobby)

def memberIds : List String :=
  l.members.map Member.userId

/-- `members.len() as i32` -/
def memberCount : Int32 :=
  Int32.ofNat l.members.length

/-- The seats that are left, not below zero. -/
def availableSlots : Int32 :=
  let seats := l.maxMembers - l.botCount - l.memberCount
  if seats < 0 then 0 else seats

def isMember (userId : String) : Bool :=
  l.members.any fun m => m.userId = userId

end Lobby

structure UpdateResult where
  success : Bool
  lobby : Lobby
  timestamp : Int64
  deriving DecidableEq

abbrev Failure := Int32 × String

inductive Outcome where
  | sessionStarted (playerId : String)
  | lobby (lobby : Lobby)
  | lobbies (lobbies : List Lobby)
  | updated (result : UpdateResult)
  | sessionReference (reference : String)
  | done
  | failed (code : Int32) (message : String)
  deriving DecidableEq

def Outcome.isError : Outcome → Bool
  | failed _ _ => true
  | _ => false

inductive Notice where
  | peerOpened (peer : String)
  | peerClosed (peer : String)
  | data (sender : String) (bytes : List UInt8)
  | text (sender text : String)
  deriving DecidableEq

inductive DirectoryOperation where
  | startSession
  | stopSession (lobbyId : Option String)
  | getLobby (id : String)
  | findLobbies (maxResults minSlots : Int32)
  | createLobby (maxMembers visibility : Int32) (attributes : Attributes)
  | joinLobby (id : String)
  | leaveLobby (id : String)
  | updateLobby (lobbyId : String) (maxMembers botCount : Int32) (attributes : Attributes)
  | startGame (lobbyId sessionReference : String)
  | cancelGameStart (id : String)
  | sendToAll (bytes : List UInt8)
  | sendTo (peer : String) (bytes : List UInt8)
  | poll
  deriving DecidableEq

structure DirectoryCall where
  user : Member
  operation : DirectoryOperation
  deriving DecidableEq

/-! ### Error codes -/

namespace error

def notInitialized : Int32 := -1
def noSession : Int32 := -2
def notFound : Int32 := -3
def full : Int32 := -4
def alreadyJoined : Int32 := -5
def notAMember : Int32 := -6
def notOwner : Int32 := -7
def gameAlreadyStarted : Int32 := -8
def notAvailable : Int32 := -9
def badArgument : Int32 := -10
def identityInUse : Int32 := -11
def identityMismatch : Int32 := -12

end error

/-- `VISIBILITY_PUBLIC` -/
def visibilityPublic : Int32 := 0

/-! ### Ids -/

def base36Digit (digit : Nat) : Char :=
  if digit < 10 then Char.ofNat (48 + digit) else Char.ofNat (87 + digit)

/-- `base36`: the digits are taken off at the low end and written from the high end. -/
def base36 (value : Nat) : String :=
  if value = 0 then "0"
  else String.ofList ((Nat.digits 36 value).reverse.map base36Digit)

/-! ## The directory -/

structure Directory where
  lobbies : ExtTreeMap String Lobby
  mailboxes : ExtTreeMap String (List Notice)
  nextLobby : Nat
  deriving DecidableEq

namespace Directory

def new : Directory := ⟨∅, ∅, 0⟩

abbrev Returns (α : Type) := Except Failure α × Directory

variable (d : Directory) (userId : String)

def attachPeer : Directory :=
  if userId ∈ d.mailboxes then d else { d with mailboxes := d.mailboxes.insert userId [] }

def detachPeer : Directory :=
  { d with mailboxes := d.mailboxes.erase userId }

def get (id : String) : Option Lobby :=
  d.lobbies[id]?

def values : List Lobby :=
  d.lobbies.toList.map Prod.snd

def lobbyOf : Option Lobby :=
  d.values.find? fun l => l.isMember userId

def find (maxResults minAvailableSlots : Int32) : List Lobby :=
  let listed := d.values.filter fun l =>
    l.visibility = visibilityPublic && !l.gameStarted && minAvailableSlots ≤ l.availableSlots
  if maxResults ≤ 0 then listed else listed.take maxResults.toInt.toNat

def putLobby (id : String) (l : Lobby) : Directory :=
  { d with lobbies := d.lobbies.insert id l }

def post (notice : Notice) : Directory :=
  match d.mailboxes[userId]? with
  | some box => { d with mailboxes := d.mailboxes.insert userId (box ++ [notice]) }
  | none => d

/-- Tell every peer about `userId`, and `userId` about every peer. -/
def announce (notice : String → Notice) (userId : String) (peers : List String) (d : Directory) :
    Directory :=
  peers.foldl (fun d peer => (d.post peer (notice userId)).post userId (notice peer)) d

def newLobby (id : String) (owner : Member) (maxMembers visibility : Int32) (attributes : Attributes) :
    Lobby where
  id := id
  ownerUserId := owner.userId
  sessionReference := ""
  maxMembers := maxMembers
  botCount := 0
  attributeVersion := 1
  visibility := visibility
  members := [owner]
  attributes := attributes
  gameStarted := false

/-- `create`; the count of lobbies is a 64-bit word. -/
def create (owner : Member) (maxMembers visibility : Int32) (attributes : Attributes) :
    Option (Returns Lobby) :=
  if (d.lobbyOf owner.userId).isSome then
    some (.error (error.alreadyJoined, "already in a lobby"), d)
  else if maxMembers < 1 then
    some (.error (error.badArgument, "max_members < 1"), d)
  else if d.nextLobby + 1 < 2 ^ 64 then
    let d := { d with nextLobby := d.nextLobby + 1 }
    let id := base36 d.nextLobby
    let lobby := newLobby id owner maxMembers visibility attributes
    some (.ok lobby, d.putLobby id lobby)
  else
    none

def join (who : Member) (lobbyId : String) : Returns Lobby :=
  if (d.lobbyOf who.userId).isSome then
    (.error (error.alreadyJoined, "already in a lobby"), d)
  else
    match d.lobbies[lobbyId]? with
    | none => (.error (error.notFound, "no such lobby"), d)
    | some lobby =>
      if lobby.gameStarted then
        (.error (error.gameAlreadyStarted, "match already started"), d)
      else if lobby.availableSlots < 1 then
        (.error (error.full, "lobby is full"), d)
      else
        let joined := { lobby with members := lobby.members ++ [who] }
        (.ok joined, announce .peerOpened who.userId lobby.memberIds (d.putLobby lobbyId joined))

/-- A lobby without a member; the next one takes over if it was the owner. -/
def withoutMember (l : Lobby) (userId : String) : Lobby :=
  let members := l.members.filter fun m => m.userId ≠ userId
  { l with
    members,
    ownerUserId :=
      match members with
      | [] => l.ownerUserId
      | next :: _ => if l.ownerUserId = userId then next.userId else l.ownerUserId }

def leave (userId lobbyId : String) : Returns Unit :=
  match d.lobbies[lobbyId]? with
  | none => (.error (error.notFound, "no such lobby"), d)
  | some lobby =>
    if lobby.isMember userId then
      let left := withoutMember lobby userId
      let d :=
        if left.members.isEmpty then { d with lobbies := d.lobbies.erase lobbyId }
        else d.putLobby lobbyId left
      (.ok (), announce .peerClosed userId left.memberIds d)
    else
      (.error (error.notAMember, "not a member"), d)

/-- Keys with an empty value are deletions. -/
def mergeAttributes (old delta : Attributes) : Attributes :=
  delta.toList.foldl (fun m e => if e.2.isEmpty then m.erase e.1 else m.insert e.1 e.2) old

def updatedLobby (l : Lobby) (maxMembers botCount : Int32) (attributes : Attributes) : Lobby :=
  { l with
    maxMembers := if 0 < maxMembers then maxMembers else l.maxMembers
    botCount := if 0 ≤ botCount then botCount else l.botCount
    attributes := mergeAttributes l.attributes attributes }

/-- `update`; the version is a signed 32-bit word. -/
def update (userId lobbyId : String) (maxMembers botCount : Int32)
    (attributes : Attributes) : Option (Returns Lobby) :=
  match d.lobbies[lobbyId]? with
  | none => some (.error (error.notFound, "no such lobby"), d)
  | some lobby =>
    if lobby.ownerUserId ≠ userId then
      some (.error (error.notOwner, "not the lobby owner"), d)
    else if 0 < maxMembers ∧ maxMembers < lobby.memberCount then
      some (.error (error.badArgument, "max_members below current membership"), d)
    else if lobby.attributeVersion.toInt + 1 < 2 ^ 31 then
      let updated := updatedLobby lobby maxMembers botCount attributes
      let updated := { updated with attributeVersion := updated.attributeVersion + 1 }
      some (.ok updated, d.putLobby lobbyId updated)
    else
      none

def startGame (userId lobbyId sessionReference : String) : Returns String :=
  match d.lobbies[lobbyId]? with
  | none => (.error (error.notFound, "no such lobby"), d)
  | some lobby =>
    if lobby.ownerUserId ≠ userId then
      (.error (error.notOwner, "not the lobby owner"), d)
    else if lobby.gameStarted then
      (.error (error.gameAlreadyStarted, "match already started"), d)
    else
      (.ok sessionReference,
        d.putLobby lobbyId { lobby with gameStarted := true, sessionReference := sessionReference })

def cancelGameStart (userId lobbyId : String) : Returns String :=
  match d.lobbies[lobbyId]? with
  | none => (.error (error.notFound, "no such lobby"), d)
  | some lobby =>
    if lobby.ownerUserId ≠ userId then
      (.error (error.notOwner, "not the lobby owner"), d)
    else
      (.ok lobby.sessionReference,
        d.putLobby lobbyId { lobby with gameStarted := false, sessionReference := "" })

def sendToAll (sender : String) (bytes : List UInt8) : Directory :=
  match d.lobbyOf sender with
  | none => d
  | some l =>
    (l.memberIds.filter fun peer => peer ≠ sender).foldl
      (fun d peer => d.post peer (.data sender bytes)) d

def shares (sender peer : String) : Bool :=
  match d.lobbyOf sender with
  | none => false
  | some l => l.isMember peer && peer ≠ sender

def sendTo (sender peer : String) (bytes : List UInt8) : Bool × Directory :=
  if d.shares sender peer then (true, d.post peer (.data sender bytes)) else (false, d)

/-- `drain_mailbox` -/
def drainMailbox : List Notice × Directory :=
  match d.mailboxes[userId]? with
  | none => ([], d)
  | some box => (box, { d with mailboxes := d.mailboxes.insert userId [] })

/-- The notices that fit a page: at most `items` of them, and at most `room` bytes. -/
def page (encodedSize : Notice → Nat) : Nat → Nat → List Notice → List Notice
  | 0, _, _ => []
  | _ + 1, _, [] => []
  | items + 1, room, notice :: rest =>
    if encodedSize notice ≤ room then
      notice :: page encodedSize items (room - encodedSize notice) rest
    else []

/-- `drain_mailbox_page` -/
def drainMailboxPage (maxItems maxBytes : Nat)
    (encodedSize : Notice → Nat) : (List Notice × Bool) × Directory :=
  match d.mailboxes[userId]? with
  | none => (([], false), d)
  | some box =>
    let notices := page encodedSize maxItems maxBytes box
    let rest := box.drop notices.length
    ((notices, !rest.isEmpty), { d with mailboxes := d.mailboxes.insert userId rest })

def hasPendingNotices : Bool :=
  match d.mailboxes[userId]? with
  | none => false
  | some box => !box.isEmpty

/-! ### Calls -/

def outcome {α : Type} (ok : α → Outcome) (r : Returns α) : Outcome × Directory :=
  match r with
  | (.ok a, d) => (ok a, d)
  | (.error (code, message), d) => (.failed code message, d)

/-- `StopSession`: leaves the lobby that is named, or the one the user is in. -/
def stopSession (lobbyId : Option String) : Directory :=
  match lobbyId <|> (d.lobbyOf userId).map Lobby.id with
  | some id => (d.leave userId id).2
  | none => d

def execute (call : DirectoryCall) : Option (Outcome × Directory) :=
  let userId := call.user.userId
  match call.operation with
  | .startSession => some (.sessionStarted userId, d.attachPeer userId)
  | .stopSession lobbyId => some (.done, d.stopSession userId lobbyId)
  | .getLobby id =>
    match d.get id with
    | some lobby => some (.lobby lobby, d)
    | none => some (.failed error.notFound "no such lobby", d)
  | .findLobbies maxResults minSlots => some (.lobbies (d.find maxResults minSlots), d)
  | .createLobby maxMembers visibility attributes =>
    (d.create call.user maxMembers visibility attributes).map (outcome .lobby)
  | .joinLobby id => some (outcome .lobby (d.join call.user id))
  | .leaveLobby id => some (outcome (fun _ => .done) (d.leave userId id))
  | .updateLobby lobbyId maxMembers botCount attributes =>
    (d.update userId lobbyId maxMembers botCount attributes).map
      (outcome fun l => .updated ⟨true, l, l.attributeVersion.toInt64⟩)
  | .startGame lobbyId sessionReference =>
    some (outcome .sessionReference (d.startGame userId lobbyId sessionReference))
  | .cancelGameStart id => some (outcome .sessionReference (d.cancelGameStart userId id))
  | .sendToAll bytes => some (.done, d.sendToAll userId bytes)
  | .sendTo peer bytes =>
    match d.sendTo userId peer bytes with
    | (true, d) => some (.done, d)
    | (false, d) => some (.failed error.notAMember "peer is not in the same lobby", d)
  | .poll => some (.done, d)

/-- `cleanup_peer` -/
def cleanupPeer : Directory :=
  let d :=
    match d.lobbyOf userId with
    | some l => (d.leave userId l.id).2
    | none => d
  d.detachPeer userId

end Directory

end Don.Crossplay
