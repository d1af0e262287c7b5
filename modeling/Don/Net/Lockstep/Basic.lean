import Mathlib
import Don.Foundation.Outcome
import Don.Net.Retail

/-!
# Lockstep.Basic — the turn clock above a session

`crates/don-net/src/lockstep.rs`.  A `LockstepRunner` owns one expected stamp, one package per
current participant, the retail checksum comparison, a deadline and explicit membership epochs.
Everything it decides is appended to `evidence`.

A `BTreeMap` is `Std.ExtTreeMap`: finite maps ordered by key, equal when they have the same entries.
`now_ms` is an argument of every call, as in the source; the runner never reads a clock.
-/

namespace Don.Net

open Foundation
open Std (ExtTreeMap)

/-! ## Evidence -/

inductive EpochCause where
  | initial
  | drop
  | reconnect
  | rosterChange
  deriving DecidableEq

structure ChecksumDifference where
  channel : Nat
  referencePlay : Int8
  reference : UInt32
  divergentPlay : Int8
  divergent : UInt32
  deriving DecidableEq

structure PackageEvidence where
  play : Int8
  payloadBytes : Nat
  payloadFnv1a64 : UInt64
  checksums : CheckSums
  deriving DecidableEq

structure TurnEvidence where
  epoch : UInt32
  stamp : UInt32
  packages : List PackageEvidence
  differences : List ChecksumDifference
  deriving DecidableEq

def TurnEvidence.checksumsAgree (turn : TurnEvidence) : Bool :=
  turn.differences.isEmpty

structure TurnTimeoutEvidence where
  epoch : UInt32
  stamp : UInt32
  deadlineMs : UInt64
  observedMs : UInt64
  received : List Int8
  missing : List Int8
  deriving DecidableEq

inductive LockstepEvidence where
  | epoch (epoch : UInt32) (cause : EpochCause) (stamp : UInt32) (participants : List Int8)
  | timeout (timeout : TurnTimeoutEvidence)
  | turn (turn : TurnEvidence)
  deriving DecidableEq

inductive LockstepStatus where
  | waiting (epoch stamp : UInt32) (deadlineMs : UInt64) (missing : List Int8)
  | ready (epoch stamp : UInt32) (plays : List Int8)
  | timedOut (timeout : TurnTimeoutEvidence)
  deriving DecidableEq

inductive SubmitOutcome where
  | accepted (missing : List Int8)
  | duplicate
  deriving DecidableEq

inductive LockstepError where
  | noParticipants
  | invalidParticipant (play : Int8)
  | duplicateParticipant (play : Int8)
  | zeroTimeout
  | unexpectedStamp (expected actual : UInt32)
  | unexpectedPlay (play : Int8)
  | duplicateConflict (stamp : UInt32) (play : Int8)
  | checksum (error : RetailChecksumError)
  | turnTimedOut (timeout : TurnTimeoutEvidence)
  | turnNotReady (stamp : UInt32) (missing : List Int8)
  | epochOverflow
  | stampOverflow
  deriving DecidableEq

/-! ## Participants -/

/-- `MAX_PLAYERS` (`internal.rs`). -/
def maxPlayers : Nat := 8

/-- The validation loop over the sorted slots; `previous` is the slot before. -/
def checkParticipants : Option Int8 → List Int8 → Except LockstepError Unit
  | _, [] => .ok ()
  | previous, play :: rest =>
    if play < 0 ∨ maxPlayers ≤ play.toNatClampNeg then
      .error (.invalidParticipant play)
    else if previous = some play then
      .error (.duplicateParticipant play)
    else
      checkParticipants (some play) rest

def normalizeParticipants (participants : List Int8) : Except LockstepError (List Int8) :=
  if participants = [] then
    .error .noParticipants
  else
    let sorted := participants.insertionSort (· ≤ ·)
    match checkParticipants none sorted with
    | .error e => .error e
    | .ok () => .ok sorted

/-! ## The runner -/

structure PendingPackage where
  package : TurnPackage
  checksums : CheckSums
  deriving DecidableEq

structure LockstepRunner where
  gameKey : UInt32
  timeoutMs : UInt64
  epoch : UInt32
  expectedStamp : UInt32
  deadlineMs : UInt64
  participants : List Int8
  pending : ExtTreeMap Int8 PendingPackage
  timedOut : Option TurnTimeoutEvidence
  evidence : List LockstepEvidence

/-- FNV-1a over the payload bytes. -/
def fnv1a64 (bytes : Bytes) : UInt64 :=
  bytes.foldl (fun hash byte => (hash ^^^ byte.toUInt64) * 0x100000001b3) 0xcbf29ce484222325

namespace LockstepRunner

def new (gameKey : UInt32) (participants : List Int8) (firstStamp : UInt32)
    (nowMs timeoutMs : UInt64) : Except LockstepError LockstepRunner :=
  if timeoutMs = 0 then
    .error .zeroTimeout
  else
    match normalizeParticipants participants with
    | .error e => .error e
    | .ok participants =>
      .ok
        { gameKey, timeoutMs,
          epoch := 0
          expectedStamp := firstStamp
          deadlineMs := saturatingAdd nowMs timeoutMs
          participants,
          pending := ∅
          timedOut := none
          evidence := [.epoch 0 .initial firstStamp participants] }

variable (r : LockstepRunner)

/-- Participants without a pending package, in slot order. -/
def missing : List Int8 :=
  r.participants.filter fun play => !r.pending.contains play

variable (nowMs : UInt64)

def latchTimeout : LockstepRunner :=
  let timeout : TurnTimeoutEvidence :=
    { epoch := r.epoch
      stamp := r.expectedStamp
      deadlineMs := r.deadlineMs
      observedMs := nowMs
      received := r.pending.keys
      missing := r.missing }
  { r with
    evidence := r.evidence ++ [.timeout timeout]
    timedOut := some timeout }

def observeTimeout : LockstepRunner :=
  if r.timedOut.isSome ∨ r.pending.size = r.participants.length ∨ nowMs < r.deadlineMs then
    r
  else
    r.latchTimeout nowMs

/-! ### Membership epochs -/

/-- The state after a membership change: pending packages of departed slots are discarded, the
deadline restarts and the expected stamp stays. -/
def enterEpoch (epoch : UInt32) (participants : List Int8)
    (cause : EpochCause) (nowMs : UInt64) : LockstepRunner :=
  { r with
    epoch,
    pending := r.pending.filter fun play _ => decide (play ∈ participants)
    participants,
    timedOut := none
    deadlineMs := saturatingAdd nowMs r.timeoutMs
    evidence := r.evidence ++ [.epoch epoch cause r.expectedStamp participants] }

def beginEpoch (participants : List Int8) (cause : EpochCause)
    (nowMs : UInt64) : Outcome LockstepRunner LockstepError UInt32 :=
  match normalizeParticipants participants with
  | .error e => .error r e
  | .ok participants =>
    match checkedSucc r.epoch with
    | none => .error r .epochOverflow
    | some epoch => .ok (r.enterEpoch epoch participants cause nowMs) epoch

/-! ### Submitting packages -/

def accept (package : TurnPackage) (checksums : CheckSums) : LockstepRunner :=
  { r with pending := r.pending.insert package.play ⟨package, checksums⟩ }

/-- `submit` once the deadline has been observed.  `binary_search` on the sorted participants is
membership. -/
def submitObserved (package : TurnPackage) :
    Outcome LockstepRunner LockstepError SubmitOutcome :=
  match r.timedOut with
  | some timeout => .error r (.turnTimedOut timeout)
  | none =>
    if package.stamp ≠ r.expectedStamp then
      .error r (.unexpectedStamp r.expectedStamp package.stamp)
    else if package.play ∉ r.participants then
      .error r (.unexpectedPlay package.play)
    else
      match r.pending[package.play]? with
      | some existing =>
        if existing.package = package then
          .ok r .duplicate
        else
          .error r (.duplicateConflict package.stamp package.play)
      | none =>
        match decodeRetailChecksumPackage package r.gameKey with
        | .error e => .error r (.checksum e)
        | .ok decoded =>
          let r' := r.accept package decoded.checksums
          .ok r' (.accepted r'.missing)

def submit (package : TurnPackage) (nowMs : UInt64) :
    Outcome LockstepRunner LockstepError SubmitOutcome :=
  (r.observeTimeout nowMs).submitObserved package

/-! ### Status -/

/-- `status` takes `&mut self`: it may latch a timeout on the way. -/
def status : LockstepRunner × LockstepStatus :=
  if r.pending.size = r.participants.length then
    (r, .ready r.epoch r.expectedStamp r.pending.keys)
  else
    let r' := r.observeTimeout nowMs
    match r'.timedOut with
    | some timeout => (r', .timedOut timeout)
    | none => (r', .waiting r'.epoch r'.expectedStamp r'.deadlineMs r'.missing)

/-! ### Committing a turn -/

/-- Channels on which `actual` differs from the reference words. -/
def channelDifferences (reference : Int8) (expected : CheckSums) (play : Int8)
    (actual : CheckSums) : List ChecksumDifference :=
  (List.range checksumChannels.length).filterMap fun channel =>
    let e := expected.words.toList.getD channel 0
    let a := actual.words.toList.getD channel 0
    if e ≠ a then
      some
        { channel,
          referencePlay := reference
          reference := e
          divergentPlay := play
          divergent := a }
    else
      none

/-- Differences against the lowest slot.  `pending` is not empty when a turn commits, so the
source's `expect` on its first key cannot fail. -/
def differences (entries : List (Int8 × PendingPackage)) : List ChecksumDifference :=
  match entries with
  | [] => []
  | (reference, first) :: _ =>
    entries.flatMap fun (play, pending) =>
      if play = reference then
        []
      else
        channelDifferences reference first.checksums play pending.checksums

def packageEvidence (pending : PendingPackage) : PackageEvidence :=
  { play := pending.package.play
    payloadBytes := pending.package.payload.length
    payloadFnv1a64 := fnv1a64 pending.package.payload
    checksums := pending.checksums }

def turnEvidence : TurnEvidence :=
  { epoch := r.epoch
    stamp := r.expectedStamp
    packages := r.pending.toList.map fun entry => packageEvidence entry.2
    differences := differences r.pending.toList }

/-- Push the turn, clear the pending packages and move to the next stamp. -/
def advance (nextStamp : UInt32) (nowMs : UInt64) : LockstepRunner :=
  { r with
    evidence := r.evidence ++ [.turn r.turnEvidence]
    pending := ∅
    timedOut := none
    expectedStamp := nextStamp
    deadlineMs := saturatingAdd nowMs r.timeoutMs }

/-- `commit_ready` once the deadline has been observed. -/
def commitObserved :
    Outcome LockstepRunner LockstepError TurnEvidence :=
  match r.timedOut with
  | some timeout => .error r (.turnTimedOut timeout)
  | none =>
    if r.missing ≠ [] then
      .error r (.turnNotReady r.expectedStamp r.missing)
    else
      match checkedSucc r.expectedStamp with
      | none => .error r .stampOverflow
      | some nextStamp => .ok (r.advance nextStamp nowMs) r.turnEvidence

def commitReady :
    Outcome LockstepRunner LockstepError TurnEvidence :=
  (r.observeTimeout nowMs).commitObserved nowMs

/-! ## Runs -/

inductive Call where
  | submit (package : TurnPackage) (nowMs : UInt64)
  | status (nowMs : UInt64)
  | commitReady (nowMs : UInt64)
  | beginEpoch (participants : List Int8) (cause : EpochCause) (nowMs : UInt64)

def step : Call → LockstepRunner
  | .submit package nowMs => (r.submit package nowMs).state
  | .status nowMs => (r.status nowMs).1
  | .commitReady nowMs => (r.commitReady nowMs).state
  | .beginEpoch participants cause nowMs => (r.beginEpoch participants cause nowMs).state

end LockstepRunner

end Don.Net
