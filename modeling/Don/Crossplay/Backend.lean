import Don.Crossplay.Directory

/-!
# Backend — one service instance

The model of `Backend` in `local.rs`.  A slot of the interface only queues a request; a tick resolves
the oldest one.  With a directory in the same process the tick resolves it on the spot; with a remote
directory one tick submits it and a later one takes its answer.
-/

namespace Don.Crossplay

open Std (ExtTreeSet)

inductive SessionStatus where
  | stopped
  | starting
  | started
  | stopping
  deriving DecidableEq

inductive Request where
  | startSession (userId : String)
  | getLobby (id : String)
  | findLobbies (maxResults minSlots : Int32)
  | createLobby (maxMembers visibility : Int32) (attributes : Attributes)
  | joinLobby (id : String)
  | leaveLobby (id : String)
  | updateLobby (lobbyId : String) (maxMembers botCount : Int32) (attributes : Attributes)
  | startGame (lobbyId sessionReference : String)
  | cancelGameStart (id : String)
  | failClosed (slot : String)
  deriving DecidableEq

def Request.isStart : Request → Bool
  | startSession _ => true
  | _ => false

/-- `ReqId` -/
abbrev ReqId := Nat

inductive Emission where
  | completion (id : ReqId) (outcome : Outcome)
  | notice (notice : Notice)
  deriving DecidableEq

structure DirectoryAnswer where
  outcome : Outcome
  notices : List Notice
  moreNotices : Bool
  deriving DecidableEq

inductive AsyncDirectoryEvent where
  | requested (answer : Except String DirectoryAnswer)
  | detached (answer : Except String DirectoryAnswer)

structure Backend where
  initialized : Bool
  status : SessionStatus
  user : Member
  playerGuid : String
  joinedLobby : Option String
  queue : List (ReqId × Request)
  ready : List Emission
  nextReq : Nat
  openPeers : ExtTreeSet String
  serviceErrors : List String
  remoteInflight : Option (ReqId × Request)
  remotePolling : Bool
  remoteDiscarding : Bool
  remoteMoreNotices : Bool

namespace Backend

def new (userId userName : String) : Backend where
  initialized := false
  status := .stopped
  user := .new userId userName
  playerGuid := ""
  joinedLobby := none
  queue := []
  ready := []
  nextReq := 0
  openPeers := ∅
  serviceErrors := []
  remoteInflight := none
  remotePolling := false
  remoteDiscarding := false
  remoteMoreNotices := false

variable (b : Backend)

def init : Backend :=
  { b with initialized := true }

def reportServiceError (message : String) : Backend :=
  { b with serviceErrors := b.serviceErrors ++ [message] }

/-- `submit`: the id is the new count of requests, a 64-bit word. -/
def submit (request : Request) : Option (ReqId × Backend) :=
  if b.nextReq + 1 < 2 ^ 64 then
    some (b.nextReq + 1,
      { b with nextReq := b.nextReq + 1, queue := b.queue ++ [(b.nextReq + 1, request)] })
  else
    none

/-- A request call.  `start_session` also sets the status; the other slots only queue. -/
def request : Request → Option (ReqId × Backend)
  | .startSession userId => ({ b with status := .starting } : Backend).submit (.startSession userId)
  | r => b.submit r

/-- The effect of notices on the peers that are open. -/
def acceptNotices (notices : List Notice) : Backend × List Emission :=
  ({ b with openPeers := notices.foldl (fun peers n =>
      match n with
      | .peerOpened peer => peers.insert peer
      | .peerClosed peer => peers.erase peer
      | _ => peers) b.openPeers },
    notices.map .notice)

def isStopped : Bool :=
  b.status = .stopped || b.status = .stopping

/-! ## A directory in the same process -/

def startedAs (userId : String) : Backend :=
  { b with
    user := { b.user with userId := userId, platformAccountId := userId }
    playerGuid := userId
    status := .started }

def failClosedText (slot : String) : String :=
  "not available in the DoN local backend: " ++ slot

def settle {α : Type} (ok : α → Outcome) (r : Directory.Returns α) :
    Outcome × Backend × Directory :=
  match r with
  | (.ok a, d) => (ok a, b, d)
  | (.error (code, message), d) => (.failed code message, b, d)

def settleJoined (r : Directory.Returns Lobby) : Outcome × Backend × Directory :=
  match r with
  | (.ok l, d) => (.lobby l, { b with joinedLobby := some l.id }, d)
  | (.error (code, message), d) => (.failed code message, b, d)

variable (d : Directory)

/-- `resolve` for a started session. -/
def resolveStarted (request : Request) :
    Option (Outcome × Backend × Directory) :=
  let userId := b.user.userId
  match request with
  -- `resolve` has handled it
  | .startSession _ => none
  | .getLobby id =>
    match d.get id with
    | some lobby => some (.lobby lobby, b, d)
    | none => some (.failed error.notFound "no such lobby", b, d)
  | .findLobbies maxResults minSlots => some (.lobbies (d.find maxResults minSlots), b, d)
  | .createLobby maxMembers visibility attributes =>
    (d.create b.user maxMembers visibility attributes).map b.settleJoined
  | .joinLobby id => some (b.settleJoined (d.join b.user id))
  | .leaveLobby id =>
    match d.leave userId id with
    | (.ok (), d) =>
      some (.done, if b.joinedLobby = some id then { b with joinedLobby := none } else b, d)
    | (.error (code, message), d) => some (.failed code message, b, d)
  | .updateLobby lobbyId maxMembers botCount attributes =>
    (d.update userId lobbyId maxMembers botCount attributes).map
      (b.settle fun l => .updated ⟨true, l, l.attributeVersion.toInt64⟩)
  | .startGame lobbyId sessionReference =>
    some (b.settle .sessionReference (d.startGame userId lobbyId sessionReference))
  | .cancelGameStart id => some (b.settle .sessionReference (d.cancelGameStart userId id))
  | .failClosed slot => some (.failed error.notAvailable (failClosedText slot), b, d)

def resolve (request : Request) :
    Option (Outcome × Backend × Directory) :=
  if !b.initialized then
    some (.failed error.notInitialized "Init has not been called", b, d)
  else
    match request with
    | .startSession userId => some (.sessionStarted userId, b.startedAs userId, d.attachPeer userId)
    | request =>
      if b.status ≠ .started then some (.failed error.noSession "no session is started", b, d)
      else b.resolveStarted d request

/-- The request at the front of the queue is resolved. -/
def tickRequest : Option (List Emission × Backend × Directory) :=
  match b.queue with
  | [] => some ([], b, d)
  | (id, request) :: queue =>
    (({ b with queue } : Backend).resolve d request).map fun r =>
      ([.completion id r.1], r.2.1, r.2.2)

def tick : Option (List Emission × Backend × Directory) :=
  (b.tickRequest d).map fun (out, b, d) =>
    let (notices, d) := d.drainMailbox b.user.userId
    let (b, emitted) := b.acceptNotices notices
    (out ++ emitted ++ b.ready, { b with ready := [] }, d)

/-- `stop_session`, with the peers that are closed. -/
def stopSession : List String × Backend × Directory :=
  if b.isStopped then ([], b, d)
  else
    let d :=
      match b.joinedLobby with
      | some id => (d.leave b.user.userId id).2
      | none => d
    (b.openPeers.toList,
      { b with
        openPeers := ∅
        joinedLobby := none
        queue := []
        ready := []
        playerGuid := ""
        status := .stopped },
      d.detachPeer b.user.userId)

/-! ## A remote directory -/

/-- `stop_session_remote`.  `notified` is what the transport says to the stop that is sent. -/
def stopSessionRemote (notified : Except String Unit) : List String × Backend :=
  if b.isStopped then ([], b)
  else
    let closed := b.openPeers.toList
    let b := { b with openPeers := ∅, joinedLobby := none }
    let b :=
      match notified with
      | .ok () => b
      | .error message => b.reportServiceError message
    (closed,
      { b with
        queue := []
        ready := []
        remoteDiscarding := b.remoteInflight.isSome || b.remotePolling
        playerGuid := ""
        status := .stopped })

def failStart (request : Request) : Backend :=
  if request.isStart then { b with status := .stopped, playerGuid := "" } else b

def acceptRemoteOutcome (request : Request) (outcome : Outcome) : Backend :=
  if outcome.isError then b.failStart request
  else
    match request, outcome with
    | .startSession userId, .sessionStarted _ => b.startedAs userId
    | .createLobby _ _ _, .lobby l => { b with joinedLobby := some l.id }
    | .joinLobby _, .lobby l => { b with joinedLobby := some l.id }
    | .leaveLobby id, .done => if b.joinedLobby = some id then { b with joinedLobby := none } else b
    | _, _ => b

def acceptDetachedAnswer : Except String DirectoryAnswer → Backend × List Emission
  | .ok answer =>
    let (b, emitted) := ({ b with remoteMoreNotices := answer.moreNotices } : Backend).acceptNotices
      answer.notices
    match answer.outcome with
    | .failed _ message => (b.reportServiceError message, emitted)
    | _ => (b, emitted)
  | .error message => (b.reportServiceError message, [])

/-- The outcome of an answer is for the request in flight, unless a stop has canceled it. -/
def acceptOwned (request : Option (ReqId × Request)) (wasPoll discarded : Bool)
    (outcome : Outcome) : Backend × List Emission :=
  if discarded then (b, [])
  else
    match request with
    | some (id, request) => (b.acceptRemoteOutcome request outcome, [.completion id outcome])
    | none =>
      if wasPoll then (b, [])
      else (b.reportServiceError "directory returned an unowned response", [])

def acceptRequestedAnswer (answer : Except String DirectoryAnswer) :
    Backend × List Emission :=
  let request := b.remoteInflight
  let wasPoll := b.remotePolling
  let discarded := b.remoteDiscarding
  let b := { b with remoteInflight := none, remotePolling := false, remoteDiscarding := false }
  match answer with
  | .ok answer =>
    let b := { b with remoteMoreNotices := answer.moreNotices }
    let (b, completed) := b.acceptOwned request wasPoll discarded answer.outcome
    -- the completion precedes the notices of the same answer
    let (b, emitted) := b.acceptNotices answer.notices
    (b, completed ++ emitted)
  | .error message =>
    match request, discarded with
    | some (id, request), false =>
      ((b.failStart request).reportServiceError message,
        [.completion id (.failed error.notAvailable message)])
    | _, _ => (b.reportServiceError message, [])

def remotePreflight (request : Request) : Option Outcome :=
  if !b.initialized then some (.failed error.notInitialized "Init has not been called")
  else if request.isStart then none
  else if b.status ≠ .started then some (.failed error.noSession "no session is started")
  else
    match request with
    | .failClosed slot => some (.failed error.notAvailable (failClosedText slot))
    | _ => none

def submitPoll (submitted : Except String Unit) : Backend :=
  match submitted with
  | .ok () => { b with remotePolling := true }
  | .error message => b.reportServiceError message

def submitRequest (id : ReqId) (request : Request) (submitted : Except String Unit) :
    Backend × List Emission :=
  match submitted with
  | .ok () => ({ b with remoteInflight := some (id, request) }, [])
  | .error message =>
    ((b.failStart request).reportServiceError message,
      [.completion id (.failed error.notAvailable message)])

/-- The part of a tick that submits work, when none is under way.  `submitted` is what the transport
says; the flag tells whether it was asked. -/
def tickSubmit (submitted : Except String Unit) : Backend × List Emission × Bool :=
  if b.remoteInflight.isNone && !b.remotePolling then
    if b.remoteMoreNotices then (b.submitPoll submitted, [], true)
    else
      match b.queue with
      | (id, request) :: queue =>
        let b := { b with queue }
        match b.remotePreflight request with
        | some outcome => (b, [.completion id outcome], false)
        | none =>
          let (b, out) := b.submitRequest id request submitted
          (b, out, true)
      | [] =>
        if b.status = .started then (b.submitPoll submitted, [], true) else (b, [], false)
  else (b, [], false)

def tickPoll : Option AsyncDirectoryEvent → Backend × List Emission
  | none => (b, [])
  | some (.detached answer) => b.acceptDetachedAnswer answer
  | some (.requested answer) => b.acceptRequestedAnswer answer

/-- `tick_remote`, with the event that the transport has and its answer to a submission. -/
def tickRemote (event : Option AsyncDirectoryEvent) (submitted : Except String Unit) :
    List Emission × Backend :=
  let (b, polled) := b.tickPoll event
  let (b, sent, _) := b.tickSubmit submitted
  (polled ++ sent ++ b.ready, { b with ready := [] })

end Backend

end Don.Crossplay
