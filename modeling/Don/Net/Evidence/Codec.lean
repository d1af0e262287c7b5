import Don.Foundation.Layout
import Don.Net.Evidence.Basic

/-!
# Evidence.Codec — writing and reading are inverse

Every reader of the format accepts exactly the text the writer produces for what it returns, record
by record and then for the whole file.  The two sides check their bounds in different places; what
closes the gap is that both re-execute the inputs, and a run that executes is within all of them.
-/

namespace Don.Net

open Foundation Reader Cursor List ReplayAction

/-! ## Members -/

variable {b : Bytes} {rest : Bytes}

lemma decodeMember_ok_iff {m : EpochMember} :
    decodeMember b = .ok (m, rest) ↔ b = memberBytes m ++ rest := by
  simp only [decodeMember, Cursor.u8, Cursor.u32, bind_ok_iff, u8_ok_iff,
    u32_ok_iff, pure_ok_iff]
  constructor
  · rintro ⟨play, _, rfl, uniqueId, _, rfl, rfl, rfl⟩
    simp [memberBytes, i32ToLe]
  · rintro rfl
    exact ⟨m.play.toUInt8, _, rfl, m.uniqueId.toUInt32, rest, rfl, by simp, rfl⟩

lemma decodeMembers_ok_iff {ty : UInt8} {len : Nat} {ms : List EpochMember} :
    decodeMembers ty len b = .ok (ms, rest) ↔
      ms.length ≤ 255 ∧ rest = [] ∧ b = UInt8.ofNat ms.length :: ms.flatMap memberBytes := by
  have hmembers := times_ok_iff decodeMember (fun _ => True) memberBytes
    (fun b m rest => by simp [decodeMember_ok_iff])
  simp only [decodeMembers, Cursor.u8, bind_ok_iff, u8_ok_iff, hmembers,
    remaining_ok_iff, guard_ok_iff, pure_ok_iff]
  constructor
  · rintro ⟨count, _, rfl, ms, left, ⟨hlen, _, rfl⟩, _, _, ⟨rfl, rfl⟩, hleft, rfl, rfl⟩
    have hcount : count.toNat < 256 := count.toNat_lt
    have hnil : rest = [] := by simpa using hleft
    subst hnil
    exact ⟨by omega, rfl, by simp [hlen]⟩
  · rintro ⟨hlen, rfl, rfl⟩
    refine ⟨UInt8.ofNat ms.length, _, rfl, ms, [], ⟨?_, by simp, by simp⟩, 0, [], ⟨rfl, rfl⟩, ?_⟩
    · simp only [UInt8.toNat_ofNat']
      omega
    · simp

lemma encodeMembers_ok_iff {ms : List EpochMember} {tail : Bytes} : encodeMembers ms = .ok tail ↔
      ms.length ≤ 255 ∧ tail = UInt8.ofNat ms.length :: ms.flatMap memberBytes := by
  rw [encodeMembers, except_error_ok_iff, Nat.not_lt, Except.ok.injEq, eq_comm]

/-! ## Records -/

lemma decodeCause_ok_iff {byte : UInt8} {cause : EpochCause} :
    decodeCause byte = .ok cause ↔ byte = encodeCause cause := by
  unfold decodeCause
  constructor
  · intro h
    split at h
    · cases h
      assumption
    split at h
    · cases h
      assumption
    split at h
    · cases h
      assumption
    split at h
    · cases h
      assumption
    · cases h
  · rintro rfl
    cases cause <;> rfl

/-- The type and payload of a record. -/
def recordOf : ReplayAction → UInt8 × Bytes
  | .initial atMs firstStamp ms =>
    (recordInitial,
      u64ToLe atMs ++ u32ToLe firstStamp ++ UInt8.ofNat ms.length :: ms.flatMap memberBytes)
  | .epoch atMs cause ms =>
    (recordEpoch,
      u64ToLe atMs ++ [encodeCause cause] ++ UInt8.ofNat ms.length :: ms.flatMap memberBytes)
  | .package atMs p =>
    (recordPackage,
      u64ToLe atMs ++ u32ToLe p.stamp ++ [p.play.toUInt8]
        ++ u16ToLe (UInt16.ofNat p.payload.length) ++ p.payload)
  | .observeDeadline atMs => (recordObserveDeadline, u64ToLe atMs)
  | .commit atMs => (recordCommit, u64ToLe atMs)

/-- What fits the length fields of a record. -/
def ReplayAction.Storable : ReplayAction → Prop
  | .initial _ _ ms => ms.length ≤ 255
  | .epoch _ _ ms => ms.length ≤ 255
  | .package _ p => p.payload.length ≤ 512
  | _ => True

/-- The record that the reader takes and the writer refuses. -/
def ReplayAction.RepeatsInitial : ReplayAction → Prop
  | .epoch _ cause _ => cause = .initial
  | _ => False

variable {action : ReplayAction}

lemma actionPayload_ok_iff {record : UInt8 × Bytes} : actionPayload action = .ok record ↔
      action.Storable ∧ ¬ action.RepeatsInitial ∧ record = recordOf action := by
  cases action with
  | initial =>
    simp only [actionPayload, except_bind_ok_iff, except_pure_ok_iff, encodeMembers_ok_iff]
    constructor
    · rintro ⟨_, ⟨hle, rfl⟩, rfl⟩
      exact ⟨hle, id, rfl⟩
    · rintro ⟨hle, -, rfl⟩
      exact ⟨_, ⟨hle, rfl⟩, rfl⟩
  | epoch =>
    simp only [actionPayload, except_check_ok_iff, except_bind_ok_iff, except_pure_ok_iff,
      encodeMembers_ok_iff]
    constructor
    · rintro ⟨hcause, _, ⟨hle, rfl⟩, rfl⟩
      exact ⟨hle, hcause, rfl⟩
    · rintro ⟨hle, hcause, rfl⟩
      exact ⟨hcause, _, ⟨hle, rfl⟩, rfl⟩
  | package =>
    simp [actionPayload, except_check_ok_iff, except_pure_ok_iff, Storable,
      RepeatsInitial, recordOf, -bind_pure_comp]
  | observeDeadline | commit =>
    simp [actionPayload, Storable, RepeatsInitial, recordOf, eq_comm]

lemma decodeFields_ok_iff {ty : UInt8} : decodeFields ty b.length b = .ok (action, []) ↔
    action.Storable ∧ (ty, b) = recordOf action := by
  -- no record of another type is read, so that each branch is about one kind of action
  have hother : ∀ {code : UInt8}, ty = code → (recordOf action).1 ≠ code →
      ¬ (action.Storable ∧ (ty, b) = recordOf action) := by
    rintro _ rfl hne ⟨-, heq⟩
    exact hne (heq ▸ rfl)
  unfold decodeFields
  simp only [Cursor.u64, Cursor.u32, Cursor.u16, Cursor.u8, Cursor.take]
  split
  · rename_i hty
    simp only [guard_ok_iff, bind_ok_iff, u64_ok_iff, u32_ok_iff, decodeMembers_ok_iff, pure_ok_iff]
    constructor
    · rintro ⟨_, atMs, _, rfl, firstStamp, _, rfl, ms, _, ⟨hle, rfl, rfl⟩, rfl, _⟩
      exact ⟨hle, by simp [recordOf, hty]⟩
    · intro h
      cases action with
      | initial atMs firstStamp ms =>
        obtain ⟨hle, heq⟩ := h
        cases heq
        refine ⟨?_, atMs, _, by simp, firstStamp, _, rfl, ms, _, ⟨hle, rfl, rfl⟩, rfl, rfl⟩
        simp only [length_append, length_cons, length_u64ToLe, length_u32ToLe]
        omega
      | _ => exact (hother hty (by simp only [recordOf]; decide) h).elim
  split
  · rename_i hty
    simp only [guard_ok_iff, bind_ok_iff, u64_ok_iff, u8_ok_iff, lift_ok_iff, decodeCause_ok_iff,
      decodeMembers_ok_iff, pure_ok_iff]
    constructor
    · rintro ⟨_, atMs, _, rfl, _, _, rfl, cause, _, ⟨rfl, rfl⟩, ms, _, ⟨hle, rfl, rfl⟩, rfl, _⟩
      exact ⟨hle, by simp [recordOf, hty]⟩
    · intro h
      cases action with
      | epoch atMs cause ms =>
        obtain ⟨hle, heq⟩ := h
        cases heq
        refine ⟨?_, atMs, _, by simp, encodeCause cause, _, rfl, cause, _, ⟨rfl, rfl⟩, ms, _,
          ⟨hle, rfl, rfl⟩, rfl, rfl⟩
        simp only [length_append, length_cons, length_u64ToLe, length_nil]
        omega
      | _ => exact (hother hty (by simp only [recordOf]; decide) h).elim
  split
  · rename_i hty
    simp only [guard_ok_iff, bind_ok_iff, u64_ok_iff, u32_ok_iff, u16_ok_iff, u8_ok_iff, take_ok_iff,
      pure_ok_iff]
    constructor
    · rintro ⟨_, atMs, _, rfl, stamp, _, rfl, play, _, rfl, size, _, rfl, hsize, payload, _,
        ⟨hpayload, rfl⟩, rfl, rfl⟩
      exact ⟨hpayload.trans_le (Nat.not_lt.1 hsize), by simp [recordOf, hty, hpayload]⟩
    · intro h
      cases action with
      | package atMs p =>
        obtain ⟨hle, heq⟩ := h
        cases heq
        have hle : p.payload.length ≤ 512 := hle
        have hsize : (UInt16.ofNat p.payload.length).toNat = p.payload.length := by
          simp only [UInt16.toNat_ofNat']
          omega
        refine ⟨?_, atMs, _, by simp, p.stamp, _, rfl, p.play.toUInt8, _, rfl,
          UInt16.ofNat p.payload.length, p.payload, rfl, by omega, p.payload, [],
          ⟨hsize.symm, by simp⟩, by simp, rfl⟩
        simp only [length_append, length_cons, length_u64ToLe, length_u32ToLe, length_u16ToLe,
          length_nil]
        omega
      | _ => exact (hother hty (by simp only [recordOf]; decide) h).elim
  split
  · rename_i hty
    simp only [guard_ok_iff, bind_ok_iff, u64_ok_iff, pure_ok_iff]
    constructor
    · rintro ⟨_, atMs, _, rfl, rfl, rfl⟩
      exact ⟨trivial, by simp [recordOf, hty]⟩
    · intro h
      cases action with
      | observeDeadline atMs =>
        obtain ⟨-, heq⟩ := h
        cases heq
        exact ⟨by simp, atMs, [], by simp, rfl, rfl⟩
      | _ => exact (hother hty (by simp only [recordOf]; decide) h).elim
  split
  · rename_i hty
    simp only [guard_ok_iff, bind_ok_iff, u64_ok_iff, pure_ok_iff]
    constructor
    · rintro ⟨_, atMs, _, rfl, rfl, rfl⟩
      exact ⟨trivial, by simp [recordOf, hty]⟩
    · intro h
      cases action with
      | commit atMs =>
        obtain ⟨-, heq⟩ := h
        cases heq
        exact ⟨by simp, atMs, [], by simp, rfl, rfl⟩
      | _ => exact (hother hty (by simp only [recordOf]; decide) h).elim
  · constructor
    · intro h
      cases h
    · rintro ⟨-, heq⟩
      cases action <;> cases heq <;> contradiction

lemma decodeAction_ok_iff {ty : UInt8} {bytes : Bytes} :
    decodeAction ty bytes = .ok action ↔ action.Storable ∧ (ty, bytes) = recordOf action := by
  rw [← decodeFields_ok_iff, decodeAction]
  split
  · simp [*]
  · rename_i action' left hfields
    rw [hfields]
    split <;> grind

/-! ## The record stream -/

/-- A record with its type and its length in front. -/
def recordBytes (action : ReplayAction) : Bytes :=
  (recordOf action).1 :: u32ToLe (UInt32.ofNat (recordOf action).2.length) ++ (recordOf action).2

lemma length_flatMap_memberBytes (ms : List EpochMember) :
    (ms.flatMap memberBytes).length = 5 * ms.length := by
  induction ms with
  | nil => rfl
  | cons m ms ih =>
    simp only [flatMap_cons, length_append, memberBytes, length_cons,
      length_i32ToLe, ih]
    omega

lemma recordOf_length_lt (h : action.Storable) :
    (UInt32.ofNat (recordOf action).2.length).toNat = (recordOf action).2.length := by
  have hlt : (recordOf action).2.length < 4294967296 := by
    cases action <;>
      simp only [Storable] at h <;>
      simp only [recordOf, length_append, length_cons, length_nil, length_u64ToLe,
        length_u32ToLe, length_u16ToLe, length_flatMap_memberBytes] <;>
      omega
  simp only [UInt32.toNat_ofNat']
  omega

lemma decodeRecord_ok_iff :
    decodeRecord b = .ok (action, rest) ↔ action.Storable ∧ b = recordBytes action ++ rest := by
  simp only [decodeRecord, Cursor.u8, Cursor.u32, Cursor.take, bind_ok_iff, u8_ok_iff,
    u32_ok_iff, take_ok_iff, lift_ok_iff, decodeAction_ok_iff]
  constructor
  · rintro ⟨ty, _, rfl, len, _, rfl, record, _, ⟨hlen, rfl⟩, ⟨hstorable, hrecord⟩, rfl⟩
    refine ⟨hstorable, ?_⟩
    simp [recordBytes, ← hrecord, hlen]
  · rintro ⟨hstorable, rfl⟩
    exact ⟨(recordOf action).1, _, rfl, UInt32.ofNat (recordOf action).2.length,
      (recordOf action).2 ++ rest, by simp, (recordOf action).2, rest,
      ⟨(recordOf_length_lt hstorable).symm, rfl⟩, ⟨hstorable, rfl⟩, rfl⟩

lemma encodeAction_ok_iff : encodeAction action = .ok b ↔
      action.Storable ∧ ¬ action.RepeatsInitial ∧ b = recordBytes action := by
  simp only [encodeAction, except_bind_ok_iff, actionPayload_ok_iff, except_pure_ok_iff]
  constructor
  · rintro ⟨_, ⟨hstorable, hrepeats, rfl⟩, rfl⟩
    exact ⟨hstorable, hrepeats, rfl⟩
  · rintro ⟨hstorable, hrepeats, rfl⟩
    exact ⟨_, ⟨hstorable, hrepeats, rfl⟩, rfl⟩

lemma encodeActions_ok_iff {actions : List ReplayAction} : encodeActions actions = .ok b ↔
      (∀ a ∈ actions, a.Storable ∧ ¬ a.RepeatsInitial) ∧ b = actions.flatMap recordBytes := by
  induction actions generalizing b with
  | nil => simp [encodeActions, eq_comm]
  | cons action rest ih =>
    simp only [encodeActions, except_bind_ok_iff, encodeAction_ok_iff, ih, except_pure_ok_iff,
      forall_mem_cons, flatMap_cons]
    constructor
    · rintro ⟨_, ⟨hstorable, hrepeats, rfl⟩, _, ⟨hrest, rfl⟩, rfl⟩
      exact ⟨⟨⟨hstorable, hrepeats⟩, hrest⟩, rfl⟩
    · rintro ⟨⟨⟨hstorable, hrepeats⟩, hrest⟩, rfl⟩
      exact ⟨_, ⟨hstorable, hrepeats, rfl⟩, _, ⟨hrest, rfl⟩, rfl⟩

/-! ## What executes is within every bound -/

lemma validateMembers_ok {members : List EpochMember} (h : validateMembers members = .ok ()) :
    members.length ≤ 8 := by
  unfold validateMembers at h
  split at h
  · cases h
  · rename_i hvalid
    simp only [not_or] at hvalid
    omega

lemma executeAction_ok {runner runner' : LockstepRunner} {index : Nat}
    (h : executeAction runner index action = .ok runner') :
    action.Storable ∧ ¬ action.RepeatsInitial := by
  cases action with
  | initial => cases h
  | epoch =>
    simp only [executeAction, except_check_ok_iff, except_bind_ok_iff] at h
    obtain ⟨hcause, _, hmembers, -⟩ := h
    exact ⟨(validateMembers_ok hmembers).trans (by decide), hcause⟩
  | package =>
    simp only [executeAction, except_check_ok_iff] at h
    exact ⟨Nat.not_lt.mp h.1, id⟩
  | observeDeadline | commit => exact ⟨trivial, id⟩

lemma executeFrom_ok : ∀ {actions : List ReplayAction} {runner runner' : LockstepRunner}
    {previousMs : UInt64} {index : Nat}, executeFrom runner previousMs index actions = .ok runner' →
      ∀ a ∈ actions, a.Storable ∧ ¬ a.RepeatsInitial := by
  intro actions
  induction actions with
  | nil =>
    intro runner runner' previousMs index _ a ha
    cases ha
  | cons action rest ih =>
    intro runner runner' previousMs index h a ha
    rw [executeFrom] at h
    split at h
    · cases h
    cases hstep : executeAction runner index action with
    | error => simp [hstep] at h
    | ok =>
      rw [hstep] at h
      rcases mem_cons.1 ha with rfl | ha
      · exact executeAction_ok hstep
      · exact ih h a ha

lemma execute_ok {gameKey : UInt32} {timeoutMs : UInt64} {actions : List ReplayAction}
    {replayed : ReplayedLockstep} (h : execute gameKey timeoutMs actions = .ok replayed) :
    actions.length ≤ maxLockstepActions ∧ ∀ a ∈ actions, a.Storable ∧ ¬ a.RepeatsInitial := by
  unfold execute at h
  rw [except_error_ok_iff] at h
  refine ⟨Nat.not_lt.mp h.1, ?_⟩
  replace h := h.2
  split at h
  · obtain ⟨_, hmembers, h⟩ := except_bind_ok_iff.1 h
    split at h
    · cases h
    · obtain ⟨_, hrun, -⟩ := except_bind_ok_iff.1 h
      rw [forall_mem_cons]
      exact ⟨⟨(validateMembers_ok hmembers).trans (by decide), id⟩, executeFrom_ok hrun⟩
  · cases h

namespace PersistedLockstepTranscript

lemma replay_ok {t : PersistedLockstepTranscript} {replayed : ReplayedLockstep}
    (h : t.replay = .ok replayed) :
    t.actions.length ≤ maxLockstepActions ∧
      (utf8Bytes t.outcomeJson).length ≤ maxLockstepOutcomeBytes ∧
      ∀ a ∈ t.actions, a.Storable ∧ ¬ a.RepeatsInitial := by
  simp only [replay, validateBounds, except_bind_ok_iff, except_check_ok_iff] at h
  obtain ⟨_, ⟨-, houtcome, -⟩, -, _, hexec, -⟩ := h
  have hrun := execute_ok hexec
  exact ⟨hrun.1, Nat.not_lt.mp houtcome, hrun.2⟩

/-! ## The whole file -/

lemma length_header (t : PersistedLockstepTranscript) : t.header.length = headerLen := by
  simp [header, lockstepEvidenceMagic, headerLen]

end PersistedLockstepTranscript

lemma fromUtf8_ok_iff {s : String} : fromUtf8 b = .ok s ↔ b = utf8Bytes s := by
  rw [← fromUTF8?_eq_some_iff]
  unfold fromUtf8
  cases String.fromUTF8? ⟨b.toArray⟩ <;> simp

lemma decodeTranscript_ok_iff {t : PersistedLockstepTranscript}
    (hcount : t.actions.length ≤ maxLockstepActions)
    (houtcome : (utf8Bytes t.outcomeJson).length ≤ maxLockstepOutcomeBytes) :
    decodeTranscript b = .ok (t, rest) ↔
      rest = [] ∧ (∀ a ∈ t.actions, a.Storable) ∧
        b = t.header ++ t.actions.flatMap recordBytes ++ utf8Bytes t.outcomeJson := by
  have hrecords := times_ok_iff decodeRecord ReplayAction.Storable recordBytes
    fun b a rest => decodeRecord_ok_iff
  simp only [decodeTranscript, Cursor.take, Cursor.u16, Cursor.u32, Cursor.u64, bind_ok_iff,
    take_ok_iff, guard_ok_iff, u16_ok_iff, u32_ok_iff, u64_ok_iff,
    hrecords, remaining_ok_iff, lift_ok_iff, fromUtf8_ok_iff, pure_ok_iff,
    not_not]
  simp only [maxLockstepActions, maxLockstepOutcomeBytes] at hcount houtcome
  constructor
  · rintro ⟨magic, _, ⟨_, rfl⟩, rfl, version, _, rfl, rfl, flags, _, rfl, rfl, count, _, rfl, _, len, _,
      rfl, _, hash, _, rfl, gameKey, _, rfl, timeoutMs, _, rfl, actions, _, ⟨hactions, hstorable, rfl⟩,
      outcome, _, ⟨hlen, rfl⟩, left, _, ⟨rfl, rfl⟩, hleft, s, _, ⟨rfl, rfl⟩, rfl, rfl⟩
    obtain rfl : rest = [] := length_eq_zero_iff.1 hleft
    refine ⟨rfl, hstorable, ?_⟩
    simp [PersistedLockstepTranscript.header, hactions, hlen]
  · rintro ⟨rfl, hstorable, rfl⟩
    have hcount' : (UInt32.ofNat t.actions.length).toNat = t.actions.length := by
      simp only [UInt32.toNat_ofNat']
      omega
    have houtcome' : (UInt32.ofNat (utf8Bytes t.outcomeJson).length).toNat
        = (utf8Bytes t.outcomeJson).length := by
      simp only [UInt32.toNat_ofNat']
      omega
    refine ⟨lockstepEvidenceMagic, _, ⟨rfl, ?_⟩, rfl, lockstepEvidenceVersion, _, rfl, rfl, 0, _, rfl, rfl,
      UInt32.ofNat t.actions.length, _, rfl, ?_, UInt32.ofNat (utf8Bytes t.outcomeJson).length, _, rfl,
      ?_, t.outcomeFnv1a64, _, rfl, t.gameKey, _, rfl, t.timeoutMs, _, rfl, t.actions,
      utf8Bytes t.outcomeJson, ⟨hcount'.symm, hstorable, rfl⟩, utf8Bytes t.outcomeJson, [],
      ⟨houtcome'.symm, by simp⟩, 0, [], ⟨rfl, rfl⟩, rfl, t.outcomeJson, [], ⟨rfl, rfl⟩, rfl, rfl⟩
    · simp [PersistedLockstepTranscript.header]
    · rw [hcount', maxLockstepActions]
      omega
    · rw [houtcome', maxLockstepOutcomeBytes]
      omega

namespace PersistedLockstepTranscript

lemma encode_ok_iff {t : PersistedLockstepTranscript} {b : Bytes} : t.encode = .ok b ↔
      (∃ replayed, t.replay = .ok replayed) ∧ b.length ≤ maxLockstepEvidenceBytes ∧
        b = t.header ++ t.actions.flatMap recordBytes ++ utf8Bytes t.outcomeJson := by
  simp only [encode, except_bind_ok_iff, except_check_ok_iff, except_pure_ok_iff, encodeActions_ok_iff,
    Nat.not_lt, ← length_header t, ← length_append]
  constructor
  · rintro ⟨replayed, hreplay, _, ⟨-, rfl⟩, hlen, rfl⟩
    exact ⟨⟨replayed, hreplay⟩, hlen, rfl⟩
  · rintro ⟨⟨replayed, hreplay⟩, hlen, rfl⟩
    exact ⟨replayed, hreplay, _, ⟨(replay_ok hreplay).2.2, rfl⟩, hlen, rfl⟩

lemma decode_ok_iff {t : PersistedLockstepTranscript} {b : Bytes} : decode b = .ok t ↔
      (∃ replayed, t.replay = .ok replayed) ∧ b.length ≤ maxLockstepEvidenceBytes ∧
        b = t.header ++ t.actions.flatMap recordBytes ++ utf8Bytes t.outcomeJson := by
  simp only [decode, except_error_ok_iff, except_bind_ok_iff, except_pure_ok_iff, Nat.not_lt]
  constructor
  · rintro ⟨hlen, ⟨_, rest⟩, hread, replayed, hreplay, rfl⟩
    have hbounds := replay_ok hreplay
    exact ⟨⟨replayed, hreplay⟩, hlen, ((decodeTranscript_ok_iff hbounds.1 hbounds.2.1).1 hread).2.2⟩
  · rintro ⟨⟨replayed, hreplay⟩, hlen, htext⟩
    have hbounds := replay_ok hreplay
    have hread := (decodeTranscript_ok_iff hbounds.1 hbounds.2.1).2
      ⟨rfl, fun a ha => (hbounds.2.2 a ha).1, htext⟩
    exact ⟨hlen, _, hread, replayed, hreplay, rfl⟩

/-- Writing and reading are inverse to each other: what is written reads back as the transcript, and
what is read writes back as the same bytes, so no two accepted files hold the same transcript. -/
theorem evidence_format_canonical :
    (∀ (t : PersistedLockstepTranscript) (b : Bytes), t.encode = .ok b → decode b = .ok t) ∧
      (∀ (b : Bytes) (t : PersistedLockstepTranscript), decode b = .ok t → t.encode = .ok b) ∧
      ∀ (b b' : Bytes) (t : PersistedLockstepTranscript),
        decode b = .ok t → decode b' = .ok t → b = b' := by
  refine ⟨?_, ?_, ?_⟩
  · intro t b h
    exact decode_ok_iff.2 (encode_ok_iff.1 h)
  · intro b t h
    exact encode_ok_iff.2 (decode_ok_iff.1 h)
  · intro b b' t h h'
    rw [(decode_ok_iff.1 h).2.2, (decode_ok_iff.1 h').2.2]

/-- One player: a turn, a change of the roster and a deadline observation. -/
def soloActions : List ReplayAction :=
  [.initial 0 5 [⟨0, 1⟩], .package 1 (LockstepRunner.zeroChecksumPackage 5 0), .commit 2,
    .epoch 3 .rosterChange [⟨0, 1⟩, ⟨1, 2⟩], .observeDeadline 7]

theorem evidence_format_canonical_solo :
    ∃ t b, record 0 100 soloActions = .ok t ∧ t.encode = .ok b ∧ decode b = .ok t := by
  have hrun : ((record 0 100 soloActions).bind encode).isOk = true := by decide +kernel
  cases hrecord : record 0 100 soloActions with
  | error => simp [hrecord, Except.bind, Except.isOk, Except.toBool] at hrun
  | ok t =>
    cases hencode : t.encode with
    | error => simp [hrecord, hencode, Except.bind, Except.isOk, Except.toBool] at hrun
    | ok b => exact ⟨t, b, rfl, hencode, evidence_format_canonical.1 t b hencode⟩

end PersistedLockstepTranscript

end Don.Net
