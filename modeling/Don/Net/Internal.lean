import Don.Net.Msg

/-!
# Internal — the netlib's own control plane

`crates/don-net/src/internal.rs`: nine packed records at ids 128 to 136, each with an exact size.
`decode_wellFormed` says what the decoder lets through; `decode_encode` that every well-formed packet
survives the wire, a player name in its fixed-width form.
-/

namespace Don.Net

open Foundation

/-! ## Ids and sizes -/

def iptBase : UInt8 := 128
def iptPlayerList : UInt8 := 128
def iptDropRequest : UInt8 := 129
def iptCancelDropRequest : UInt8 := 130
def iptPulsePacket : UInt8 := 131
def iptAddPlayer : UInt8 := 132
def iptDestroyPlayer : UInt8 := 133
def iptMigrateHost : UInt8 := 134
def iptDsyncMsg : UInt8 := 135
def iptReadyFlag : UInt8 := 136

/-- `sizeof` for each internal type, indexed by `id - IPT_BASE`. -/
def iptSize : List Nat := [34, 5, 5, 1, 70, 5, 5, 5, 2]

def addPlayerNameLen : Nat := 64

/-! ## Packets -/

inductive InternalPacket where
  | playerList (numPlayers : UInt8) (uniqueIds : Vector Int32 8)
  | dropRequest (uniqueId : Int32)
  | cancelDropRequest (uniqueId : Int32)
  | pulse
  | addPlayer (playerName : String) (uniqueId : Int32) (isHosting : Bool)
  | destroyPlayer (uniqueId : Int32)
  | migrateHost (newHost : Int32)
  | dsync (frame : Int32)
  | readyFlag (ready : Bool)
  deriving DecidableEq

inductive InternalError where
  | notInternal (byte : UInt8)
  | unknownType (byte : UInt8)
  | short (id : UInt8) (need available : Nat)
  | trailing (id : UInt8) (need available : Nat)
  | badPlayerCount (count : UInt8)
  | zeroPlayerId (slot : Nat)
  | duplicatePlayerId (id : Int32)
  | invalidPlayerId (id : Int32)
  | invalidBool (id value : UInt8)
  deriving DecidableEq

namespace InternalPacket

def id : InternalPacket → UInt8
  | .playerList .. => iptPlayerList
  | .dropRequest .. => iptDropRequest
  | .cancelDropRequest .. => iptCancelDropRequest
  | .pulse => iptPulsePacket
  | .addPlayer .. => iptAddPlayer
  | .destroyPlayer .. => iptDestroyPlayer
  | .migrateHost .. => iptMigrateHost
  | .dsync .. => iptDsyncMsg
  | .readyFlag .. => iptReadyFlag

def iptIds : List UInt8 :=
  [iptPlayerList, iptDropRequest, iptCancelDropRequest, iptPulsePacket, iptAddPlayer,
    iptDestroyPlayer, iptMigrateHost, iptDsyncMsg, iptReadyFlag]

lemma id_mem_iptIds (p : InternalPacket) : p.id ∈ iptIds := by
  cases p <;> simp [id, iptIds]

/-- The engine's `sizeof` for this packet. -/
def wireLen (p : InternalPacket) : Nat :=
  iptSize.getD (p.id - iptBase).toNat 0

/-- The loop over the active entries of a player list; `seen` are the entries before. -/
def checkPlayerIds (seen : List Int32) : List Int32 → Except InternalError Unit
  | [] => .ok ()
  | id :: rest =>
    if id = 0 then
      .error (.zeroPlayerId seen.length)
    else if id ∈ seen then
      .error (.duplicatePlayerId id)
    else
      checkPlayerIds (seen ++ [id]) rest

/-- The record of type `id`; `buf` has exactly the length of that record. -/
def decodeBody (id : UInt8) (buf : Bytes) : Except InternalError InternalPacket :=
  if id = iptPlayerList then
    let count := byteAt buf 1
    if count.toNat > 8 then
      .error (.badPlayerCount count)
    else
      let ids : Vector Int32 8 := Vector.ofFn fun i => i32le buf (2 + i * 4)
      match checkPlayerIds [] (ids.toList.take count.toNat) with
      | .error e => .error e
      | .ok () => .ok (.playerList count ids)
  else if id = iptDropRequest then
    .ok (.dropRequest (i32le buf 1))
  else if id = iptCancelDropRequest then
    .ok (.cancelDropRequest (i32le buf 1))
  else if id = iptPulsePacket then
    .ok .pulse
  else if id = iptAddPlayer then
    let uniqueId := i32le buf 65
    if uniqueId = 0 then
      .error (.invalidPlayerId uniqueId)
    else if byteAt buf 69 > 1 then
      .error (.invalidBool id (byteAt buf 69))
    else
      .ok (.addPlayer (readNarrow buf 1 addPlayerNameLen) uniqueId (byteAt buf 69 ≠ 0))
  else if id = iptDestroyPlayer then
    let uniqueId := i32le buf 1
    if uniqueId = 0 then
      .error (.invalidPlayerId uniqueId)
    else
      .ok (.destroyPlayer uniqueId)
  else if id = iptMigrateHost then
    .ok (.migrateHost (i32le buf 1))
  else if id = iptDsyncMsg then
    .ok (.dsync (i32le buf 1))
  else if id = iptReadyFlag then
    if byteAt buf 1 > 1 then
      .error (.invalidBool id (byteAt buf 1))
    else
      .ok (.readyFlag (byteAt buf 1 ≠ 0))
  else
    .error (.unknownType id)

def decode : Bytes → Except InternalError InternalPacket
  | [] => .error (.notInternal 0)
  | id :: rest =>
    let buf := id :: rest
    if id < iptBase then
      .error (.notInternal id)
    else
      match iptSize[(id - iptBase).toNat]? with
      | none => .error (.unknownType id)
      | some need =>
        if buf.length < need then
          .error (.short id need buf.length)
        else if buf.length > need then
          .error (.trailing id need buf.length)
        else
          decodeBody id buf

def encodeBody : InternalPacket → Bytes
  | .playerList numPlayers uniqueIds => numPlayers :: uniqueIds.toList.flatMap i32ToLe
  | .dropRequest uniqueId => i32ToLe uniqueId
  | .cancelDropRequest uniqueId => i32ToLe uniqueId
  | .destroyPlayer uniqueId => i32ToLe uniqueId
  | .pulse => []
  | .addPlayer playerName uniqueId isHosting =>
    writeNarrow playerName addPlayerNameLen ++ i32ToLe uniqueId ++ [if isHosting then 1 else 0]
  | .migrateHost newHost => i32ToLe newHost
  | .dsync frame => i32ToLe frame
  | .readyFlag ready => [if ready then 1 else 0]

def encode (p : InternalPacket) : Bytes :=
  p.id :: p.encodeBody

/-! ## What the decoder accepts -/

lemma checkPlayerIds_ok_iff : ∀ (ids seen : List Int32), checkPlayerIds seen ids = .ok () ↔
      0 ∉ ids ∧ ids.Nodup ∧ ∀ id ∈ ids, id ∉ seen := by
  intro ids
  induction ids with
  | nil =>
    intro seen
    simp [checkPlayerIds]
  | cons id rest ih =>
    intro seen
    simp only [checkPlayerIds]
    by_cases hzero : id = 0
    · simp [hzero]
    by_cases hseen : id ∈ seen
    · simp [hzero, hseen]
    rw [if_neg hzero, if_neg hseen, ih]
    simp only [List.mem_cons, List.nodup_cons, List.mem_append]
    constructor
    · rintro ⟨hz, hnodup, hfresh⟩
      refine ⟨?_, ⟨?_, hnodup⟩, ?_⟩
      · rintro (h | h)
        · exact hzero h.symm
        · exact hz h
      · intro hmem
        exact hfresh id hmem (Or.inr (Or.inl rfl))
      · rintro x (rfl | hx)
        · exact hseen
        · exact fun hin => hfresh x hx (Or.inl hin)
    · rintro ⟨hz, ⟨hnot, hnodup⟩, hfresh⟩
      refine ⟨fun h => hz (Or.inr h), hnodup, ?_⟩
      rintro x hx (hin | hin | hin)
      · exact hfresh x (Or.inr hx) hin
      · exact hnot (hin ▸ hx)
      · cases hin

def active (numPlayers : UInt8) (uniqueIds : Vector Int32 8) : List Int32 :=
  uniqueIds.toList.take numPlayers.toNat

/-- What every decoded packet satisfies: ids that name a player are not zero, and a player list has
at most eight distinct ones. -/
def WellFormed : InternalPacket → Prop
  | .playerList numPlayers uniqueIds =>
    numPlayers.toNat ≤ 8 ∧ 0 ∉ active numPlayers uniqueIds ∧ (active numPlayers uniqueIds).Nodup
  | .addPlayer _ uniqueId _ => uniqueId ≠ 0
  | .destroyPlayer uniqueId => uniqueId ≠ 0
  | _ => True

variable {p : InternalPacket}

lemma decodeBody_spec {id : UInt8} {buf : Bytes}
    (h : decodeBody id buf = .ok p) : p.id = id ∧ p.WellFormed := by
  unfold decodeBody at h
  split at h
  · rename_i hid
    simp only at h
    split at h
    · cases h
    split at h
    · cases h
    · rename_i hcount _ hcheck
      cases h
      rcases (checkPlayerIds_ok_iff _ _).1 hcheck with ⟨hzero, hnodup, _⟩
      exact ⟨hid.symm, not_lt.1 hcount, hzero, hnodup⟩
  split at h
  · cases h
    rename_i hid
    exact ⟨hid.symm, trivial⟩
  split at h
  · cases h
    rename_i hid
    exact ⟨hid.symm, trivial⟩
  split at h
  · cases h
    rename_i hid
    exact ⟨hid.symm, trivial⟩
  split at h
  · rename_i hid
    simp only at h
    split at h
    · cases h
    · split at h
      · cases h
      · cases h
        rename_i hne _
        exact ⟨hid.symm, hne⟩
  split at h
  · rename_i hid
    simp only at h
    split at h
    · cases h
    · cases h
      rename_i hne
      exact ⟨hid.symm, hne⟩
  split at h
  · cases h
    rename_i hid
    exact ⟨hid.symm, trivial⟩
  split at h
  · cases h
    rename_i hid
    exact ⟨hid.symm, trivial⟩
  split at h
  · rename_i hid
    split at h
    · cases h
    · cases h
      exact ⟨hid.symm, trivial⟩
  · cases h

lemma decode_spec {buf : Bytes} (h : decode buf = .ok p) :
    buf.head? = some p.id ∧ p.WellFormed := by
  cases buf with
  | nil => cases h
  | cons =>
    simp only [decode] at h
    split at h
    · cases h
    split at h
    · cases h
    split at h
    · cases h
    · split at h
      · cases h
      · rcases decodeBody_spec h with ⟨hid, hwf⟩
        exact ⟨by simp [hid], hwf⟩

/-! ## Round trip -/

/-- The packet as it arrives: a player name is cut to its fixed-width field. -/
def onWire : InternalPacket → InternalPacket
  | .addPlayer playerName uniqueId isHosting =>
    .addPlayer (fromUtf8Lossy ((writeNarrow playerName addPlayerNameLen).takeWhile (· ≠ 0)))
      uniqueId isHosting
  | p => p

lemma length_encode (p : InternalPacket) : p.encode.length = p.wireLen := by
  cases p <;>
    simp [encode, encodeBody, wireLen, id, iptSize, iptBase, iptPlayerList, iptDropRequest,
      iptCancelDropRequest, iptPulsePacket, iptAddPlayer, iptDestroyPlayer, iptMigrateHost,
      iptDsyncMsg, iptReadyFlag, addPlayerNameLen, length_writeNarrow, List.length_flatMap]

lemma iptSize_id (p : InternalPacket) :
    ¬ p.id < iptBase ∧ iptSize[(p.id - iptBase).toNat]? = some p.wireLen := by
  have htable : ∀ b ∈ iptIds, ¬ b < iptBase ∧
      iptSize[(b - iptBase).toNat]? = some (iptSize.getD (b - iptBase).toNat 0) := by
    decide +kernel
  exact htable p.id (id_mem_iptIds p)

lemma decode_encode_body (p : InternalPacket) : decode p.encode = decodeBody p.id p.encode := by
  have hlen : p.encode.length = p.wireLen := length_encode p
  rcases iptSize_id p with ⟨hbase, hsize⟩
  unfold encode at hlen ⊢
  simp only [decode, if_neg hbase, hsize]
  rw [if_neg (by omega), if_neg (by omega)]

lemma i32le_tail (id : UInt8) (v : Int32) : i32le (id :: i32ToLe v) 1 = v := by
  simpa using i32le_append [id] [] v

lemma decode_encode (h : p.WellFormed) : decode p.encode = .ok p.onWire := by
  rw [decode_encode_body]
  cases p with
  | playerList numPlayers uniqueIds =>
    rcases h with ⟨hcount, hzero, hnodup⟩
    have hids : (Vector.ofFn fun i : Fin 8 =>
        i32le (iptPlayerList :: numPlayers :: uniqueIds.toList.flatMap i32ToLe) (2 + i * 4))
        = uniqueIds := by
      ext i hi
      have hread := i32le_flatMap [iptPlayerList, numPlayers] uniqueIds.toList i (by simpa using hi)
      simpa using hread
    have hcheck : checkPlayerIds [] (uniqueIds.toList.take numPlayers.toNat) = .ok () :=
      (checkPlayerIds_ok_iff _ _).2 ⟨hzero, hnodup, by simp⟩
    have hbyte : byteAt (iptPlayerList :: numPlayers :: uniqueIds.toList.flatMap i32ToLe) 1
        = numPlayers := rfl
    simp only [id, encode, encodeBody, decodeBody, if_true, hbyte, hids, hcheck,
      if_neg (not_lt.2 hcount)]
    rfl
  | addPlayer playerName uniqueId isHosting =>
    have hpre : (iptAddPlayer :: writeNarrow playerName addPlayerNameLen).length = 65 := by
      simp [length_writeNarrow, addPlayerNameLen]
    have huid : i32le (addPlayer playerName uniqueId isHosting).encode 65 = uniqueId := by
      have hword := i32le_append (iptAddPlayer :: writeNarrow playerName addPlayerNameLen)
        [if isHosting then 1 else 0] uniqueId
      rw [hpre] at hword
      simpa [encode, encodeBody, id] using hword
    have hflag : byteAt (addPlayer playerName uniqueId isHosting).encode 69
        = if isHosting then 1 else 0 := by
      have hbyte := byteAt_append_right
        (iptAddPlayer :: writeNarrow playerName addPlayerNameLen ++ i32ToLe uniqueId)
        [if isHosting then 1 else 0] 0
      rw [List.length_append, hpre, length_i32ToLe] at hbyte
      have hlast : byteAt [if isHosting then (1 : UInt8) else 0] 0 = if isHosting then 1 else 0 :=
        rfl
      rw [hlast] at hbyte
      simpa [encode, encodeBody, id] using hbyte
    have hname : readNarrow (addPlayer playerName uniqueId isHosting).encode 1 addPlayerNameLen
        = fromUtf8Lossy ((writeNarrow playerName addPlayerNameLen).takeWhile (· ≠ 0)) := by
      simp [readNarrow, encode, encodeBody, length_writeNarrow]
    have hne : uniqueId ≠ 0 := h
    simp only [decodeBody, huid, hflag, hname, if_neg hne]
    cases isHosting <;> rfl
  | pulse => rfl
  | readyFlag ready => cases ready <;> rfl
  | destroyPlayer uniqueId =>
    have hne : uniqueId ≠ 0 := h
    simp only [encode, encodeBody, decodeBody, i32le_tail, if_neg hne]
    rfl
  | dropRequest uniqueId | cancelDropRequest uniqueId | migrateHost uniqueId | dsync uniqueId =>
    simp only [encode, encodeBody, decodeBody, i32le_tail]
    rfl

end InternalPacket

end Don.Net
