import Don.Foundation.Decodes
import Don.Crossplay.Backend

/-!
# Wire — the frames of the directory RPC

The model of the encoder and the decoder in `directory_rpc.rs`.  The decoder bounds every string, byte
vector and collection; within those bounds it reads back what the encoder writes.
-/

namespace Don.Crossplay

open Foundation Reader DirectoryOperation Outcome Reads

namespace Rpc

/-! ## Bounds -/

def maxFrameBytes : Nat := 2 * 1024 * 1024
def maxStringBytes : Nat := 64 * 1024
def maxCollectionItems : Nat := 4096
def maxPacketBytes : Nat := 1024 * 1024
def maxNoticePageItems : Nat := 1024

def StringOk (s : String) : Prop :=
  (utf8Bytes s).length ≤ maxStringBytes

structure MemberOk (m : Member) : Prop where
  userId : StringOk m.userId
  userName : StringOk m.userName
  platform : StringOk m.platform
  platformAccountId : StringOk m.platformAccountId

/-- Entries that the decoder accepts, whatever their number. -/
def EntriesOk (a : Attributes) : Prop :=
  ∀ k v : String, a[k]? = some v → StringOk k ∧ StringOk v

def AttributesOk (a : Attributes) : Prop :=
  a.size ≤ maxCollectionItems ∧ EntriesOk a

structure LobbyStrings (l : Lobby) : Prop where
  id : StringOk l.id
  ownerUserId : StringOk l.ownerUserId
  sessionReference : StringOk l.sessionReference
  members : ∀ m ∈ l.members, MemberOk m
  attributes : EntriesOk l.attributes

structure LobbyOk (l : Lobby) : Prop extends LobbyStrings l where
  memberCount : l.members.length ≤ maxCollectionItems
  attributeCount : l.attributes.size ≤ maxCollectionItems

def OutcomeOk : Outcome → Prop
  | .sessionStarted s => StringOk s
  | .lobby l => LobbyOk l
  | .lobbies ls => ls.length ≤ maxCollectionItems ∧ ∀ l ∈ ls, LobbyOk l
  | .updated r => LobbyOk r.lobby
  | .sessionReference s => StringOk s
  | .done => True
  | .failed _ message => StringOk message

def NoticeOk : Notice → Prop
  | .peerOpened peer => StringOk peer
  | .peerClosed peer => StringOk peer
  | .data sender bytes => StringOk sender ∧ bytes.length ≤ maxPacketBytes
  | .text sender text => StringOk sender ∧ StringOk text

def OperationOk : DirectoryOperation → Prop
  | .startSession => True
  | .stopSession lobbyId => ∀ id, lobbyId = some id → StringOk id
  | .getLobby id => StringOk id
  | .findLobbies _ _ => True
  | .createLobby _ _ attributes => AttributesOk attributes
  | .joinLobby id => StringOk id
  | .leaveLobby id => StringOk id
  | .updateLobby lobbyId _ _ attributes => StringOk lobbyId ∧ AttributesOk attributes
  | .startGame lobbyId reference => StringOk lobbyId ∧ StringOk reference
  | .cancelGameStart id => StringOk id
  | .sendToAll bytes => bytes.length ≤ maxPacketBytes
  | .sendTo peer bytes => StringOk peer ∧ bytes.length ≤ maxPacketBytes
  | .poll => True

structure CallOk (c : DirectoryCall) : Prop where
  user : MemberOk c.user
  operation : OperationOk c.operation

structure AnswerOk (a : DirectoryAnswer) : Prop where
  outcome : OutcomeOk a.outcome
  noticeCount : a.notices.length ≤ maxCollectionItems
  notices : ∀ n ∈ a.notices, NoticeOk n

/-! ## The encoder -/

namespace Encoder

def requestMagic : Bytes := [68, 78, 82, 81]
def responseMagic : Bytes := [68, 78, 82, 83]
def version : UInt16 := 1

/-- `Encoder::new` -/
def header (magic : Bytes) : Bytes :=
  magic ++ u16ToLe version

def attributes (a : Attributes) : Bytes :=
  mapText stringText stringText a

def member (m : Member) : Bytes :=
  stringText m.userId ++ stringText m.userName ++ stringText m.platform ++
    stringText m.platformAccountId

def lobby (l : Lobby) : Bytes :=
  [stringText l.id, stringText l.ownerUserId, stringText l.sessionReference, i32ToLe l.maxMembers,
    i32ToLe l.botCount, i32ToLe l.attributeVersion, i32ToLe l.visibility, listText member l.members,
    attributes l.attributes, flagText l.gameStarted].flatten

def outcomeTag : Outcome → UInt8
  | .sessionStarted _ => 0
  | .lobby _ => 1
  | .lobbies _ => 2
  | .updated _ => 3
  | .sessionReference _ => 4
  | .done => 5
  | .failed _ _ => 6

def outcomeBody : Outcome → Bytes
  | .sessionStarted s => stringText s
  | .lobby l => lobby l
  | .lobbies ls => listText lobby ls
  | .updated r => flagText r.success ++ lobby r.lobby ++ i64ToLe r.timestamp
  | .sessionReference s => stringText s
  | .done => []
  | .failed code message => i32ToLe code ++ stringText message

def outcome (o : Outcome) : Bytes :=
  outcomeTag o :: outcomeBody o

def noticeTag : Notice → UInt8
  | .peerOpened _ => 0
  | .peerClosed _ => 1
  | .data _ _ => 2
  | .text _ _ => 3

def noticeBody : Notice → Bytes
  | .peerOpened peer => stringText peer
  | .peerClosed peer => stringText peer
  | .data sender bytes => stringText sender ++ blobText bytes
  | .text sender text => stringText sender ++ stringText text

def notice (n : Notice) : Bytes :=
  noticeTag n :: noticeBody n

def operationTag : DirectoryOperation → UInt8
  | .startSession => 0
  | .stopSession _ => 1
  | .getLobby _ => 2
  | .findLobbies _ _ => 3
  | .createLobby _ _ _ => 4
  | .joinLobby _ => 5
  | .leaveLobby _ => 6
  | .updateLobby _ _ _ _ => 7
  | .startGame _ _ => 8
  | .cancelGameStart _ => 9
  | .sendToAll _ => 10
  | .sendTo _ _ => 11
  | .poll => 12

def operationBody : DirectoryOperation → Bytes
  | .startSession => []
  | .stopSession lobbyId => optionText stringText lobbyId
  | .getLobby id => stringText id
  | .findLobbies maxResults minSlots => i32ToLe maxResults ++ i32ToLe minSlots
  | .createLobby maxMembers visibility a => i32ToLe maxMembers ++ i32ToLe visibility ++ attributes a
  | .joinLobby id => stringText id
  | .leaveLobby id => stringText id
  | .updateLobby lobbyId maxMembers botCount a =>
    stringText lobbyId ++ i32ToLe maxMembers ++ i32ToLe botCount ++ attributes a
  | .startGame lobbyId reference => stringText lobbyId ++ stringText reference
  | .cancelGameStart id => stringText id
  | .sendToAll bytes => blobText bytes
  | .sendTo peer bytes => stringText peer ++ blobText bytes
  | .poll => []

def operation (o : DirectoryOperation) : Bytes :=
  operationTag o :: operationBody o

end Encoder

def encodeCall (c : DirectoryCall) : Bytes :=
  Encoder.header Encoder.requestMagic ++ (Encoder.member c.user ++ Encoder.operation c.operation)

def encodeAnswer (a : DirectoryAnswer) : Bytes :=
  Encoder.header Encoder.responseMagic ++
    (Encoder.outcome a.outcome ++ flagText a.moreNotices ++ listText Encoder.notice a.notices)

/-! ## The decoder -/

namespace Decoder

/-- A reader with the message of an invalid frame as its error. -/
abbrev Read := Reader String

def truncated : Nat → Nat → String :=
  fun _ _ => "truncated directory RPC message"

/-- `Decoder::new` -/
def header (magic : Bytes) : Read Unit := fun b =>
  if b.length < 6 ∨ b.take 4 ≠ magic then .error "directory RPC magic mismatch"
  else if u16le b 4 ≠ Encoder.version then .error "unsupported directory RPC version"
  else .ok ((), b.drop 6)

def finish : Read Unit := fun b =>
  if b = [] then .ok ((), b) else .error "trailing bytes in directory RPC message"

def tooMany : String := "directory RPC collection exceeds the configured bound"

def bool : Read Bool :=
  Reader.flag truncated "non-boolean directory RPC value"

def string : Read String :=
  Reader.string truncated maxStringBytes "directory RPC string exceeds the configured bound"
    "directory RPC string is not UTF-8"

def optionString : Read (Option String) :=
  Reader.optional bool string

def bytes : Read Bytes :=
  Reader.blob truncated maxPacketBytes "directory RPC byte vector exceeds the configured bound"

def attributes : Read Attributes :=
  Reader.mapOf truncated maxCollectionItems tooMany "duplicate directory RPC attribute key" string string

def member : Read Member := do
  let userId ← string
  let userName ← string
  let platform ← string
  let platformAccountId ← string
  return ⟨userId, userName, platform, platformAccountId⟩

def lobby : Read Lobby := do
  let id ← string
  let ownerUserId ← string
  let sessionReference ← string
  let maxMembers ← Reader.i32 truncated
  let botCount ← Reader.i32 truncated
  let attributeVersion ← Reader.i32 truncated
  let visibility ← Reader.i32 truncated
  let members ← Reader.listOf truncated maxCollectionItems tooMany member
  let attributes ← attributes
  let gameStarted ← bool
  return ⟨id, ownerUserId, sessionReference, maxMembers, botCount, attributeVersion, visibility,
    members, attributes, gameStarted⟩

def updated : Read UpdateResult := do
  let success ← bool
  let lobby ← lobby
  let timestamp ← Reader.i64 truncated
  return ⟨success, lobby, timestamp⟩

def outcome : Read Outcome := do
  let tag ← Reader.u8 truncated
  match tag with
  | 0 => do let s ← string; return .sessionStarted s
  | 1 => do let l ← lobby; return .lobby l
  | 2 => do let ls ← Reader.listOf truncated maxCollectionItems tooMany lobby; return .lobbies ls
  | 3 => do let r ← updated; return .updated r
  | 4 => do let s ← string; return .sessionReference s
  | 5 => return .done
  | 6 => do let code ← Reader.i32 truncated; let message ← string; return .failed code message
  | _ => throw "unknown directory RPC outcome"

def notice : Read Notice := do
  let tag ← Reader.u8 truncated
  match tag with
  | 0 => do let peer ← string; return .peerOpened peer
  | 1 => do let peer ← string; return .peerClosed peer
  | 2 => do let sender ← string; let b ← bytes; return .data sender b
  | 3 => do let sender ← string; let text ← string; return .text sender text
  | _ => throw "unknown directory RPC notice"

def operation : Read DirectoryOperation := do
  let tag ← Reader.u8 truncated
  match tag with
  | 0 => return .startSession
  | 1 => do let id ← optionString; return .stopSession id
  | 2 => do let id ← string; return .getLobby id
  | 3 => do
    let maxResults ← Reader.i32 truncated
    let minSlots ← Reader.i32 truncated
    return .findLobbies maxResults minSlots
  | 4 => do
    let maxMembers ← Reader.i32 truncated
    let visibility ← Reader.i32 truncated
    let a ← attributes
    return .createLobby maxMembers visibility a
  | 5 => do let id ← string; return .joinLobby id
  | 6 => do let id ← string; return .leaveLobby id
  | 7 => do
    let lobbyId ← string
    let maxMembers ← Reader.i32 truncated
    let botCount ← Reader.i32 truncated
    let a ← attributes
    return .updateLobby lobbyId maxMembers botCount a
  | 8 => do let lobbyId ← string; let reference ← string; return .startGame lobbyId reference
  | 9 => do let id ← string; return .cancelGameStart id
  | 10 => do let b ← bytes; return .sendToAll b
  | 11 => do let peer ← string; let b ← bytes; return .sendTo peer b
  | 12 => return .poll
  | _ => throw "unknown directory operation"

def call : Read DirectoryCall := do
  let user ← member
  let o ← operation
  return ⟨user, o⟩

def answer : Read DirectoryAnswer := do
  let o ← outcome
  let moreNotices ← bool
  let notices ← Reader.listOf truncated maxCollectionItems tooMany notice
  return ⟨o, notices, moreNotices⟩

/-- A whole frame: the header, one value and nothing after it. -/
def frame {α : Type} (magic : Bytes) (r : Read α) (b : Bytes) : Except String α := do
  let (a, _) ← (do header magic; let a ← r; finish; return a : Read α) b
  return a

end Decoder

def decodeCall (b : Bytes) : Except String DirectoryCall :=
  Decoder.frame Encoder.requestMagic Decoder.call b

def decodeAnswer (b : Bytes) : Except String DirectoryAnswer :=
  Decoder.frame Encoder.responseMagic Decoder.answer b

/-! ## What is written is read back -/

namespace Decoder

lemma maxCollectionItems_lt : maxCollectionItems < 2 ^ 32 := by decide

lemma string_decodes : Decodes string StringOk stringText :=
  (Reads.string (by decide)).decodes

lemma bool_decodes : Decodes bool (fun _ => True) flagText :=
  flag.decodes

lemma i32_decodes : Decodes (Reader.i32 truncated) (fun _ => True) i32ToLe :=
  i32.decodes

lemma bytes_decodes : Decodes bytes (fun b => b.length ≤ maxPacketBytes) blobText :=
  (Reads.blob (by decide)).decodes

lemma attributes_decodes : Decodes attributes AttributesOk Encoder.attributes :=
  .mapOf string_decodes string_decodes maxCollectionItems_lt

lemma member_decodes : Decodes member MemberOk Encoder.member := by
  refine .wrap₄ Member.mk string_decodes string_decodes string_decodes string_decodes ?_ fun _ _ _ _ => rfl
  intro m
  constructor
  · intro h
    exact ⟨m.userId, m.userName, m.platform, m.platformAccountId,
      ⟨h.userId, h.userName, h.platform, h.platformAccountId⟩, rfl⟩
  · rintro ⟨a, b, c, d, ⟨ha, hb, hc, hd⟩, rfl⟩
    exact ⟨ha, hb, hc, hd⟩

lemma lobby_decodes : Decodes lobby LobbyOk Encoder.lobby := by
  have hmembers : Decodes (Reader.listOf truncated maxCollectionItems tooMany member)
      (fun ms => ms.length ≤ maxCollectionItems ∧ ∀ m ∈ ms, MemberOk m) (listText Encoder.member) :=
    member_decodes.listOf maxCollectionItems_lt
  refine .field Lobby.id string_decodes (fun l hl => hl.id) fun id hid => ?_
  refine .field Lobby.ownerUserId string_decodes (fun l hl => hl.1.ownerUserId) fun owner howner => ?_
  refine .field Lobby.sessionReference string_decodes (fun l hl => hl.1.1.sessionReference)
    fun reference hreference => ?_
  refine .field Lobby.maxMembers i32_decodes (fun _ _ => trivial) fun maxMembers _ => ?_
  refine .field Lobby.botCount i32_decodes (fun _ _ => trivial) fun botCount _ => ?_
  refine .field Lobby.attributeVersion i32_decodes (fun _ _ => trivial) fun version _ => ?_
  refine .field Lobby.visibility i32_decodes (fun _ _ => trivial) fun visibility _ => ?_
  refine .field Lobby.members hmembers (fun l hl => ?_) fun members hmem => ?_
  · have hl := hl.1.1.1.1.1.1.1
    exact ⟨hl.memberCount, hl.members⟩
  refine .field Lobby.attributes attributes_decodes (fun l hl => ?_) fun entries hentries => ?_
  · have hl := hl.1.1.1.1.1.1.1.1
    exact ⟨hl.attributeCount, hl.attributes⟩
  refine .field Lobby.gameStarted bool_decodes (fun _ _ => trivial) fun started _ => ?_
  refine .record fun l => ?_
  constructor
  · rintro ⟨⟨⟨⟨⟨⟨⟨⟨⟨⟨_, rfl⟩, rfl⟩, rfl⟩, rfl⟩, rfl⟩, rfl⟩, rfl⟩, rfl⟩, rfl⟩, rfl⟩
    rfl
  · rintro rfl
    exact ⟨⟨⟨⟨⟨⟨⟨⟨⟨⟨⟨⟨hid, howner, hreference, hmem.2, hentries.2⟩, hmem.1, hentries.1⟩, rfl⟩, rfl⟩,
      rfl⟩, rfl⟩, rfl⟩, rfl⟩, rfl⟩, rfl⟩, rfl⟩, rfl⟩

lemma updated_decodes : Decodes updated (fun r => LobbyOk r.lobby)
    (fun r => flagText r.success ++ Encoder.lobby r.lobby ++ i64ToLe r.timestamp) := by
  refine .wrap₃ UpdateResult.mk bool_decodes lobby_decodes i64.decodes ?_ fun _ _ _ => rfl
  intro r
  constructor
  · intro h
    exact ⟨r.success, r.lobby, r.timestamp, ⟨trivial, h, trivial⟩, rfl⟩
  · rintro ⟨_, _, _, ⟨_, h, _⟩, rfl⟩
    exact h

open Encoder

lemma outcome_decodes : Decodes outcome OutcomeOk Encoder.outcome := by
  refine .tagged outcomeTag fun tag => ?_
  split
  case' h_1 => refine string_decodes.wrap sessionStarted (fun o => ?_) fun _ => rfl
  case' h_2 => refine lobby_decodes.wrap Outcome.lobby (fun o => ?_) fun _ => rfl
  case' h_3 => refine (lobby_decodes.listOf maxCollectionItems_lt).wrap lobbies (fun o => ?_) fun _ => rfl
  case' h_4 => refine updated_decodes.wrap Outcome.updated (fun o => ?_) fun _ => rfl
  case' h_5 => refine string_decodes.wrap sessionReference (fun o => ?_) fun _ => rfl
  case' h_6 => refine .constant (fun o => ?_) rfl
  case' h_7 => refine .wrap₂ failed i32_decodes string_decodes (fun o => ?_) fun _ _ => rfl
  case h_8 =>
    refine .never fun o => ?_
    rintro ⟨_, rfl⟩
    cases o <;> simp_all [outcomeTag]
  -- a value with this tag is one of this constructor
  all_goals cases o <;> simp [OutcomeOk, outcomeTag]

lemma notice_decodes : Decodes notice NoticeOk Encoder.notice := by
  refine .tagged noticeTag fun tag => ?_
  split
  case' h_1 => refine string_decodes.wrap Notice.peerOpened (fun n => ?_) fun _ => rfl
  case' h_2 => refine string_decodes.wrap Notice.peerClosed (fun n => ?_) fun _ => rfl
  case' h_3 => refine .wrap₂ Notice.data string_decodes bytes_decodes (fun n => ?_) fun _ _ => rfl
  case' h_4 => refine .wrap₂ Notice.text string_decodes string_decodes (fun n => ?_) fun _ _ => rfl
  case h_5 =>
    refine .never fun n => ?_
    rintro ⟨_, rfl⟩
    cases n <;> simp_all [noticeTag]
  -- a value with this tag is one of this constructor
  all_goals cases n <;> simp [NoticeOk, noticeTag]

lemma operation_decodes : Decodes operation OperationOk Encoder.operation := by
  refine .tagged operationTag fun tag => ?_
  split
  case' h_1 => refine .constant (fun o => ?_) rfl
  case' h_2 => refine (Decodes.optional flag string_decodes).wrap stopSession (fun o => ?_) fun _ => rfl
  case' h_3 => refine string_decodes.wrap getLobby (fun o => ?_) fun _ => rfl
  case' h_4 => refine .wrap₂ findLobbies i32_decodes i32_decodes (fun o => ?_) fun _ _ => rfl
  case' h_5 => refine .wrap₃ createLobby i32_decodes i32_decodes attributes_decodes (fun o => ?_) fun _ _ _ => rfl
  case' h_6 => refine string_decodes.wrap joinLobby (fun o => ?_) fun _ => rfl
  case' h_7 => refine string_decodes.wrap leaveLobby (fun o => ?_) fun _ => rfl
  case' h_8 =>
    refine .wrap₄ updateLobby string_decodes i32_decodes i32_decodes attributes_decodes
      (fun o => ?_) fun _ _ _ _ => rfl
  case' h_9 => refine .wrap₂ startGame string_decodes string_decodes (fun o => ?_) fun _ _ => rfl
  case' h_10 => refine string_decodes.wrap cancelGameStart (fun o => ?_) fun _ => rfl
  case' h_11 => refine bytes_decodes.wrap sendToAll (fun o => ?_) fun _ => rfl
  case' h_12 => refine .wrap₂ sendTo string_decodes bytes_decodes (fun o => ?_) fun _ _ => rfl
  case' h_13 => refine .constant (fun o => ?_) rfl
  case h_14 =>
    refine .never fun o => ?_
    rintro ⟨_, rfl⟩
    cases o <;> simp_all [operationTag]
  -- a value with this tag is one of this constructor
  all_goals cases o <;> simp [OperationOk, operationTag]

lemma call_decodes : Decodes call CallOk
    (fun c => Encoder.member c.user ++ Encoder.operation c.operation) := by
  refine .wrap₂ DirectoryCall.mk member_decodes operation_decodes ?_ fun _ _ => rfl
  intro c
  constructor
  · intro h
    exact ⟨c.user, c.operation, ⟨h.user, h.operation⟩, rfl⟩
  · rintro ⟨_, _, ⟨huser, hop⟩, rfl⟩
    exact ⟨huser, hop⟩

lemma answer_decodes : Decodes answer AnswerOk (fun a =>
    Encoder.outcome a.outcome ++ flagText a.moreNotices ++ listText Encoder.notice a.notices) := by
  refine .wrap₃ (fun o more notices => DirectoryAnswer.mk o notices more) outcome_decodes
    bool_decodes (notice_decodes.listOf maxCollectionItems_lt) ?_ fun _ _ _ => rfl
  intro a
  constructor
  · intro h
    exact ⟨a.outcome, a.moreNotices, a.notices, ⟨h.outcome, trivial, h.noticeCount, h.notices⟩, rfl⟩
  · rintro ⟨_, _, _, ⟨ho, _, hcount, hnotices⟩, rfl⟩
    exact ⟨ho, hcount, hnotices⟩

variable {magic : Bytes}

lemma header_run (hmagic : magic.length = 4) (rest : Bytes) :
    header magic (Encoder.header magic ++ rest) = .ok ((), rest) := by
  have hlen : (Encoder.header magic).length = 6 := by
    simp [Encoder.header, hmagic]
  have hversion : u16le (Encoder.header magic ++ rest) 4 = Encoder.version := by
    refine u16le_of_drop (t := rest) ?_
    simp [Encoder.header, hmagic]
  unfold header
  rw [if_neg, if_neg (by simpa using hversion)]
  · simp [hlen]
  · rintro (hshort | hother)
    · simp only [List.length_append, hlen] at hshort
      omega
    · exact hother (by simp [Encoder.header, hmagic])

lemma frame_run {α : Type} {r : Read α} {ok : α → Prop} {text : α → Bytes}
    (hmagic : magic.length = 4) (hr : Decodes r ok text) {a : α} (ha : ok a) :
    frame magic r (Encoder.header magic ++ text a) = .ok a := by
  have hread : (do header magic; let a ← r; finish; return a : Read α)
      (Encoder.header magic ++ text a) = .ok (a, []) := by
    rw [bind_ok_iff]
    refine ⟨(), text a, header_run hmagic _, ?_⟩
    rw [bind_ok_iff]
    refine ⟨a, [], by simpa using hr.run a [] ha, ?_⟩
    rw [bind_ok_iff]
    exact ⟨(), [], rfl, rfl⟩
  rw [frame, hread]
  rfl

lemma frame_sound {α : Type} {r : Read α} {ok : α → Prop} {text : α → Bytes}
    (hr : Decodes r ok text) {b : Bytes} {a : α} (h : frame magic r b = .ok a) : ok a := by
  rw [frame, except_bind_ok_iff] at h
  obtain ⟨⟨a', rest⟩, hread, hpure⟩ := h
  obtain rfl := except_pure_ok_iff.1 hpure
  obtain ⟨_, _, _, hbody⟩ := bind_ok_iff.1 hread
  obtain ⟨a', _, hvalue, hfinish⟩ := bind_ok_iff.1 hbody
  obtain ⟨_, _, _, hpure⟩ := bind_ok_iff.1 hfinish
  obtain ⟨rfl, _⟩ := pure_ok_iff.1 hpure
  exact hr.sound _ _ _ hvalue

end Decoder

open Decoder

lemma decodeCall_encodeCall {c : DirectoryCall} (h : CallOk c) : decodeCall
    (encodeCall c) = .ok c :=
  frame_run rfl call_decodes h

lemma callOk_of_decodeCall {b : Bytes} {c : DirectoryCall} (h : decodeCall b = .ok c) : CallOk c :=
  frame_sound call_decodes h

end Rpc

end Don.Crossplay
