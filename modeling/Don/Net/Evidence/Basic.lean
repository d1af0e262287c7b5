import Don.Foundation.Reader
import Don.Foundation.Text
import Don.Net.Lockstep.Transcript

/-!
# Evidence.Basic — the persisted lockstep transcript

`crates/don-net/src/evidence.rs`.  A transcript stores the inputs of a lockstep run together with the
outcome it produced.  Writing and reading both re-execute the inputs, so a stored outcome that the
inputs do not produce is neither written nor read.
-/

namespace Don.Net

open Foundation

def lockstepEvidenceMagic : Bytes :=
  [0x44, 0x4F, 0x4E, 0x4C, 0x53, 0x54, 0x50, 0x00]

def lockstepEvidenceVersion : UInt16 := 1

def maxLockstepEvidenceBytes : Nat := 8 * 1024 * 1024

def maxLockstepActions : Nat := 65536

def maxLockstepOutcomeBytes : Nat := 4 * 1024 * 1024

def headerLen : Nat := 40

def recordInitial : UInt8 := 1

def recordEpoch : UInt8 := 2

def recordPackage : UInt8 := 3

def recordObserveDeadline : UInt8 := 4

def recordCommit : UInt8 := 5

structure EpochMember where
  play : Int8
  uniqueId : Int32
  deriving DecidableEq

inductive ReplayAction where
  | initial (atMs : UInt64) (firstStamp : UInt32) (members : List EpochMember)
  | epoch (atMs : UInt64) (cause : EpochCause) (members : List EpochMember)
  | package (atMs : UInt64) (package : TurnPackage)
  | observeDeadline (atMs : UInt64)
  | commit (atMs : UInt64)
  deriving DecidableEq

def ReplayAction.atMs : ReplayAction → UInt64
  | .initial atMs _ _ => atMs
  | .epoch atMs _ _ => atMs
  | .package atMs _ => atMs
  | .observeDeadline atMs => atMs
  | .commit atMs => atMs

structure ReplayedLockstep where
  outcomeJson : String
  outcomeFnv1a64 : UInt64
  nextStamp : UInt32
  finalEpoch : UInt32
  evidence : List LockstepEvidence
  deriving DecidableEq

structure PersistedLockstepTranscript where
  gameKey : UInt32
  timeoutMs : UInt64
  actions : List ReplayAction
  outcomeJson : String
  outcomeFnv1a64 : UInt64
  deriving DecidableEq

inductive EvidenceError where
  | transcriptTooLarge (size : Nat)
  | tooManyActions (count : Nat)
  | outcomeTooLarge (size : Nat)
  | badMagic
  | unsupportedVersion (version : UInt16)
  | nonzeroFlags (flags : UInt16)
  | truncated (need have_ : Nat)
  | trailing (bytes : Nat)
  | unknownRecord (ty : UInt8)
  | malformedRecord (ty : UInt8) (len : Nat)
  | packageTooLarge (size : Nat)
  | invalidEpochCause (cause : UInt8)
  | initialNotFirst
  | missingInitial
  | initialCauseAfterStart
  | noncanonicalMembers
  | nonMonotonicTime (action : Nat) (previousMs actualMs : UInt64)
  | outcomeNotUtf8
  | outcomeHashMismatch (stored actual : UInt64)
  | replayOutcomeMismatch
  | replay (action : Nat) (error : LockstepError)
  deriving DecidableEq

/-! ## Executing the inputs -/

def validateMembers (members : List EpochMember) : Except EvidenceError Unit :=
  if members = [] ∨ 8 < members.length
      ∨ (∃ m ∈ members, ¬ (0 ≤ m.play ∧ m.play < 8) ∨ m.uniqueId = 0)
      ∨ ¬ members.IsChain (fun a b => a.play < b.play)
      ∨ ¬ (members.map EpochMember.uniqueId).Nodup then
    .error .noncanonicalMembers
  else
    .ok ()

/-- One action after the first, at position `index`. -/
def executeAction (runner : LockstepRunner) (index : Nat) :
    ReplayAction → Except EvidenceError LockstepRunner
  | .initial _ _ _ => .error .initialNotFirst
  | .epoch atMs cause members => do
    if cause = .initial then
      throw .initialCauseAfterStart
    validateMembers members
    let begun := runner.beginEpoch (members.map EpochMember.play) cause atMs
    match begun.result with
    | .error e => throw (.replay index e)
    | .ok _ => return begun.state
  | .package atMs package => do
    if 512 < package.payload.length then
      throw (.packageTooLarge package.payload.length)
    let submitted := runner.submit package atMs
    match submitted.result with
    | .error e => throw (.replay index e)
    | .ok _ => return submitted.state
  | .observeDeadline atMs => .ok (runner.status atMs).1
  | .commit atMs =>
    let committed := runner.commitReady atMs
    match committed.result with
    | .error e => .error (.replay index e)
    | .ok _ => .ok committed.state

/-- The loop of `execute` over the actions from position `index` on. -/
def executeFrom (runner : LockstepRunner) (previousMs : UInt64) :
    Nat → List ReplayAction → Except EvidenceError LockstepRunner
  | _, [] => .ok runner
  | index, action :: rest =>
    if action.atMs < previousMs then
      .error (.nonMonotonicTime index previousMs action.atMs)
    else
      match executeAction runner index action with
      | .error e => .error e
      | .ok runner => executeFrom runner action.atMs (index + 1) rest

def execute (gameKey : UInt32) (timeoutMs : UInt64) (actions : List ReplayAction) :
    Except EvidenceError ReplayedLockstep :=
  if maxLockstepActions < actions.length then
    .error (.tooManyActions actions.length)
  else
    match actions with
    | .initial atMs firstStamp members :: rest => do
      validateMembers members
      match LockstepRunner.new gameKey (members.map EpochMember.play) firstStamp atMs timeoutMs with
      | .error e => throw (.replay 0 e)
      | .ok runner =>
        let runner ← executeFrom runner atMs 1 rest
        let outcomeJson := runner.exportJson
        return {
          outcomeJson,
          outcomeFnv1a64 := fnv1a64 (utf8Bytes outcomeJson)
          nextStamp := runner.expectedStamp
          finalEpoch := runner.epoch
          evidence := runner.evidence }
    | _ => .error .missingInitial

namespace PersistedLockstepTranscript

def validateBounds (t : PersistedLockstepTranscript) : Except EvidenceError Unit := do
  if maxLockstepActions < t.actions.length then
    throw (.tooManyActions t.actions.length)
  if maxLockstepOutcomeBytes < (utf8Bytes t.outcomeJson).length then
    throw (.outcomeTooLarge (utf8Bytes t.outcomeJson).length)
  t.actions.forM fun action =>
    match action with
    | .package _ package =>
      if 512 < package.payload.length then
        throw (.packageTooLarge package.payload.length)
      else
        pure ()
    | _ => pure ()

def replay (t : PersistedLockstepTranscript) : Except EvidenceError ReplayedLockstep := do
  t.validateBounds
  let actualStoredHash := fnv1a64 (utf8Bytes t.outcomeJson)
  if actualStoredHash ≠ t.outcomeFnv1a64 then
    throw (.outcomeHashMismatch t.outcomeFnv1a64 actualStoredHash)
  let replay ← execute t.gameKey t.timeoutMs t.actions
  if replay.outcomeFnv1a64 ≠ t.outcomeFnv1a64 ∨ replay.outcomeJson ≠ t.outcomeJson then
    throw .replayOutcomeMismatch
  return replay

/-- The only way to make a transcript: run the inputs. -/
def record (gameKey : UInt32) (timeoutMs : UInt64) (actions : List ReplayAction) :
    Except EvidenceError PersistedLockstepTranscript := do
  let replay ← execute gameKey timeoutMs actions
  let transcript : PersistedLockstepTranscript :=
    { gameKey, timeoutMs, actions,
      outcomeJson := replay.outcomeJson
      outcomeFnv1a64 := replay.outcomeFnv1a64 }
  transcript.validateBounds
  return transcript

end PersistedLockstepTranscript

/-! ## Writing -/

def encodeCause : EpochCause → UInt8
  | .initial => 0
  | .drop => 1
  | .reconnect => 2
  | .rosterChange => 3

def memberBytes (member : EpochMember) : Bytes :=
  member.play.toUInt8 :: i32ToLe member.uniqueId

def encodeMembers (members : List EpochMember) : Except EvidenceError Bytes :=
  if 255 < members.length then
    .error (.malformedRecord recordEpoch members.length)
  else
    .ok (UInt8.ofNat members.length :: members.flatMap memberBytes)

def actionPayload : ReplayAction → Except EvidenceError (UInt8 × Bytes)
  | .initial atMs firstStamp members => do
    let tail ← encodeMembers members
    return (recordInitial, u64ToLe atMs ++ u32ToLe firstStamp ++ tail)
  | .epoch atMs cause members => do
    if cause = .initial then
      throw .initialCauseAfterStart
    let tail ← encodeMembers members
    return (recordEpoch, u64ToLe atMs ++ [encodeCause cause] ++ tail)
  | .package atMs package => do
    if 512 < package.payload.length then
      throw (.packageTooLarge package.payload.length)
    return (recordPackage,
      u64ToLe atMs ++ u32ToLe package.stamp ++ [package.play.toUInt8]
        ++ u16ToLe (UInt16.ofNat package.payload.length) ++ package.payload)
  | .observeDeadline atMs => .ok (recordObserveDeadline, u64ToLe atMs)
  | .commit atMs => .ok (recordCommit, u64ToLe atMs)

/-- What `encode_action` appends to the records. -/
def encodeAction (action : ReplayAction) : Except EvidenceError Bytes := do
  let (ty, payload) ← actionPayload action
  return ty :: u32ToLe (UInt32.ofNat payload.length) ++ payload

/-- The loop of `encode` over the actions. -/
def encodeActions : List ReplayAction → Except EvidenceError Bytes
  | [] => .ok []
  | action :: rest => do
    let first ← encodeAction action
    let others ← encodeActions rest
    return first ++ others

namespace PersistedLockstepTranscript

def header (t : PersistedLockstepTranscript) : Bytes :=
  lockstepEvidenceMagic ++ u16ToLe lockstepEvidenceVersion ++ u16ToLe 0
    ++ u32ToLe (UInt32.ofNat t.actions.length)
    ++ u32ToLe (UInt32.ofNat (utf8Bytes t.outcomeJson).length)
    ++ u64ToLe t.outcomeFnv1a64 ++ u32ToLe t.gameKey ++ u64ToLe t.timeoutMs

def encode (t : PersistedLockstepTranscript) : Except EvidenceError Bytes := do
  let _ ← t.replay
  let records ← encodeActions t.actions
  let total := headerLen + records.length + (utf8Bytes t.outcomeJson).length
  if maxLockstepEvidenceBytes < total then
    throw (.transcriptTooLarge total)
  return t.header ++ records ++ utf8Bytes t.outcomeJson

end PersistedLockstepTranscript

/-! ## Reading -/

namespace Cursor

def take (n : Nat) : Reader EvidenceError Bytes := Reader.take .truncated n

def u8 : Reader EvidenceError UInt8 := Reader.u8 .truncated

def u16 : Reader EvidenceError UInt16 := Reader.u16 .truncated

def u32 : Reader EvidenceError UInt32 := Reader.u32 .truncated

def u64 : Reader EvidenceError UInt64 := Reader.u64 .truncated

end Cursor

def decodeCause (cause : UInt8) : Except EvidenceError EpochCause :=
  if cause = 0 then .ok .initial
  else if cause = 1 then .ok .drop
  else if cause = 2 then .ok .reconnect
  else if cause = 3 then .ok .rosterChange
  else .error (.invalidEpochCause cause)

def decodeMember : Reader EvidenceError EpochMember := do
  let play ← Cursor.u8
  let uniqueId ← Cursor.u32
  return { play := play.toInt8, uniqueId := uniqueId.toInt32 }

/-- `len` is the length of the whole record, which the error names. -/
def decodeMembers (ty : UInt8) (len : Nat) : Reader EvidenceError (List EpochMember) := do
  let count ← Cursor.u8
  let members ← Reader.times decodeMember count.toNat
  let left ← Reader.remaining
  if left ≠ 0 then
    throw (.malformedRecord ty len)
  else
    return members

/-- The fields of a record, before the check for slack bytes. -/
def decodeFields (ty : UInt8) (len : Nat) : Reader EvidenceError ReplayAction :=
  if ty = recordInitial then
    if len < 13 then
      throw (.malformedRecord ty len)
    else do
      let atMs ← Cursor.u64
      let firstStamp ← Cursor.u32
      let members ← decodeMembers ty len
      return .initial atMs firstStamp members
  else if ty = recordEpoch then
    if len < 10 then
      throw (.malformedRecord ty len)
    else do
      let atMs ← Cursor.u64
      let cause ← Cursor.u8
      let cause ← liftM (decodeCause cause)
      let members ← decodeMembers ty len
      return .epoch atMs cause members
  else if ty = recordPackage then
    if len < 15 then
      throw (.malformedRecord ty len)
    else do
      let atMs ← Cursor.u64
      let stamp ← Cursor.u32
      let play ← Cursor.u8
      let payloadLen ← Cursor.u16
      if 512 < payloadLen.toNat then
        throw (.packageTooLarge payloadLen.toNat)
      else do
        let payload ← Cursor.take payloadLen.toNat
        return .package atMs { stamp := stamp, play := play.toInt8, payload := payload }
  else if ty = recordObserveDeadline then
    if len ≠ 8 then
      throw (.malformedRecord ty len)
    else do
      let atMs ← Cursor.u64
      return .observeDeadline atMs
  else if ty = recordCommit then
    if len ≠ 8 then
      throw (.malformedRecord ty len)
    else do
      let atMs ← Cursor.u64
      return .commit atMs
  else
    throw (.unknownRecord ty)

/-- A record is read by a cursor of its own, which must end with nothing left. -/
def decodeAction (ty : UInt8) (bytes : Bytes) : Except EvidenceError ReplayAction :=
  match decodeFields ty bytes.length bytes with
  | .error e => .error e
  | .ok (action, left) =>
    if left.length ≠ 0 then
      .error (.malformedRecord ty bytes.length)
    else
      .ok action

/-- One round of the record loop of `decode`. -/
def decodeRecord : Reader EvidenceError ReplayAction := do
  let ty ← Cursor.u8
  let len ← Cursor.u32
  let record ← Cursor.take len.toNat
  liftM (decodeAction ty record)

/-- `core::str::from_utf8`. -/
def fromUtf8 (b : Bytes) : Except EvidenceError String :=
  match String.fromUTF8? ⟨b.toArray⟩ with
  | some s => .ok s
  | none => .error .outcomeNotUtf8

/-- Everything `decode` reads, up to the check of the transcript it has read. -/
def decodeTranscript : Reader EvidenceError PersistedLockstepTranscript := do
  let magic ← Cursor.take 8
  if magic ≠ lockstepEvidenceMagic then throw .badMagic else do
  let version ← Cursor.u16
  if version ≠ lockstepEvidenceVersion then throw (.unsupportedVersion version) else do
  let flags ← Cursor.u16
  if flags ≠ 0 then throw (.nonzeroFlags flags) else do
  let actionCount ← Cursor.u32
  if maxLockstepActions < actionCount.toNat then throw (.tooManyActions actionCount.toNat) else do
  let outcomeLen ← Cursor.u32
  if maxLockstepOutcomeBytes < outcomeLen.toNat then throw (.outcomeTooLarge outcomeLen.toNat) else do
  let outcomeFnv1a64 ← Cursor.u64
  let gameKey ← Cursor.u32
  let timeoutMs ← Cursor.u64
  let actions ← Reader.times decodeRecord actionCount.toNat
  let outcome ← Cursor.take outcomeLen.toNat
  let left ← Reader.remaining
  if left ≠ 0 then throw (.trailing left) else do
  let outcomeJson ← liftM (fromUtf8 outcome)
  return {
    gameKey, timeoutMs, actions, outcomeJson, outcomeFnv1a64 }

def PersistedLockstepTranscript.decode (bytes : Bytes) :
    Except EvidenceError PersistedLockstepTranscript :=
  if maxLockstepEvidenceBytes < bytes.length then
    .error (.transcriptTooLarge bytes.length)
  else do
    let (transcript, _) ← decodeTranscript bytes
    let _ ← transcript.replay
    return transcript

end Don.Net
