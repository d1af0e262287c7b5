import Don.Foundation.Layout
import Don.Net.Msg

/-!
# MsgCodec — a message through its packet and back

Every message of the game layer decodes from the packet it was encoded to, under the same id and
reply marker, with one exception.  Chat is written as UTF-16 and read back unit by unit, so a
character outside the basic plane, which is a pair of units, comes back as two replacements.
-/

namespace Don.Net

open Foundation List MsgType

/-! ## Text -/

lemma readWideChars_units {b tail : Bytes} {us : List UInt16} {off n : Nat}
    (hb : b.drop off = us.flatMap u16ToLe ++ (u16ToLe 0 ++ tail)) (hnz : 0 ∉ us)
    (hlen : us.length < n) : readWideChars b off n = us.map charOfUnit := by
  induction us generalizing off n with
  | nil =>
    obtain ⟨n, rfl⟩ : ∃ k, n = k + 1 := ⟨n - 1, by simp at hlen; omega⟩
    have hzero : u16le b off = 0 := u16le_of_drop hb
    simp [readWideChars, hzero]
  | cons u us ih =>
    obtain ⟨n, rfl⟩ : ∃ k, n = k + 1 := ⟨n - 1, by simp at hlen; omega⟩
    have hu : u16le b off = u := u16le_of_drop (by simpa using hb)
    have hroom : off + 1 < b.length := by
      have hdrop := congrArg List.length hb
      simp at hdrop
      omega
    have hrest : b.drop (off + 2) = us.flatMap u16ToLe ++ (u16ToLe 0 ++ tail) := by
      rw [← drop_drop, hb]
      rfl
    have hne : u ≠ 0 := fun h => hnz (by simp [h])
    simp [readWideChars, hu, hne, Nat.not_le.mpr hroom,
      ih hrest (fun h => hnz (by simp [h])) (by simpa using hlen)]

lemma charOfUnit_ofNat {c : Char} (hc : c.toNat < 0x10000) :
    charOfUnit (UInt16.ofNat c.toNat) = c := by
  have hval : (UInt16.ofNat c.toNat).toNat = c.toNat := by simp; omega
  have hscalar : ¬ (0xD800 ≤ c.toNat ∧ c.toNat ≤ 0xDFFF) := by
    have := c.valid
    simp only [UInt32.isValidChar, Nat.isValidChar] at this
    change ¬ (0xD800 ≤ c.val.toNat ∧ c.val.toNat ≤ 0xDFFF)
    omega
  simp [charOfUnit, UInt16.le_iff_toNat_le, hval, hscalar]

lemma surrogate_of_mem {c : Char} {u : UInt16} (hc : ¬ c.toNat < 0x10000)
    (hu : u ∈ unitsOfChar c) : 0xD800 ≤ u.toNat ∧ u.toNat ≤ 0xDFFF := by
  have hmax : c.toNat < 0x110000 := by
    have := c.valid
    simp only [UInt32.isValidChar, Nat.isValidChar] at this
    change c.val.toNat < 0x110000
    omega
  simp only [unitsOfChar, hc, if_false, mem_cons, not_mem_nil, or_false] at hu
  rcases hu with rfl | rfl
  all_goals
    rw [UInt16.toNat_ofNat']
    omega

lemma charOfUnit_surrogate {u : UInt16} (hu : 0xD800 ≤ u.toNat ∧ u.toNat ≤ 0xDFFF) :
    charOfUnit u = replacement := by
  simp [charOfUnit, UInt16.le_iff_toNat_le, hu]

lemma zero_not_mem_unitsOfChar {c : Char} (hc : c ≠ '\x00') : 0 ∉ unitsOfChar c := by
  intro hzero
  by_cases hbasic : c.toNat < 0x10000
  · simp only [unitsOfChar, hbasic, if_true, mem_singleton] at hzero
    apply hc
    rw [← charOfUnit_ofNat hbasic, ← hzero]
    rfl
  · have hrange := surrogate_of_mem hbasic hzero
    simp at hrange

lemma map_charOfUnit_iff (cs : List Char) :
    (cs.flatMap unitsOfChar).map charOfUnit = cs ↔ ∀ c ∈ cs, c.toNat < 0x10000 := by
  induction cs with
  | nil => simp
  | cons c cs ih =>
    rw [flatMap_cons, map_append]
    by_cases hc : c.toNat < 0x10000
    · simp [unitsOfChar, hc, charOfUnit_ofNat, ih]
    · -- the first of the two units already reads as a replacement, which is in the basic plane
      have hne : replacement ≠ c := fun h => hc (h ▸ by decide)
      have hsur := fun u => charOfUnit_surrogate ∘ surrogate_of_mem (u := u) hc
      simp only [unitsOfChar, hc, if_false] at hsur ⊢
      simp [hsur, hc, hne]

lemma length_writeWide (s : String) {units : Nat} (h : 0 < units) :
    (writeWide s units).length = 2 * units := by
  have hkept : ((utf16Units s).take (units - 1)).length ≤ units - 1 := by simp
  simp only [writeWide, length_append, length_flatMap, length_u16ToLe, map_const',
    sum_replicate_nat, length_replicate]
  omega

lemma readWide_writeWide_iff (pre : Bytes) {s : String} {units : Nat} (hnul : '\x00' ∉ s.toList)
    (hlen : (utf16Units s).length < units) :
    readWide (pre ++ writeWide s units) pre.length units = s ↔
      ∀ c ∈ s.toList, c.toNat < 0x10000 := by
  have hnz : 0 ∉ utf16Units s := by
    simp only [utf16Units, mem_flatMap, not_exists, not_and]
    intro c hc
    exact zero_not_mem_unitsOfChar fun h => hnul (h ▸ hc)
  have hdrop : (pre ++ writeWide s units).drop pre.length = (utf16Units s).flatMap u16ToLe ++
      (u16ToLe 0 ++ List.replicate (2 * (units - (utf16Units s).length) - 2) 0) := by
    obtain ⟨k, hk⟩ : ∃ k, 2 * (units - (utf16Units s).length) = k + 2 :=
      ⟨2 * (units - (utf16Units s).length) - 2, by omega⟩
    rw [drop_left, writeWide, take_of_length_le (by omega), hk]
    rfl
  rw [readWide, readWideChars_units hdrop hnz hlen, ← map_charOfUnit_iff, ← String.toList_inj,
    String.toList_ofList]
  rfl

/-! ## Messages -/

lemma MsgType.fromWire_toWire {t : MsgType} (h : t.id < 64) :
    isInternal t.toWire = false ∧ fromWire t.toWire = t := by
  obtain ⟨id, response⟩ := t
  have hall : ∀ id : Fin 64, ∀ r, isInternal (toWire ⟨UInt8.ofNat id, r⟩) = false ∧
      fromWire (toWire ⟨UInt8.ofNat id, r⟩) = ⟨UInt8.ofNat id, r⟩ := by
    decide
  have := hall ⟨id.toNat, h⟩ response
  simpa using this

namespace NetMsg

/-- The ids `decode` reads as more than raw bytes. -/
def typedIds : List NetMsgType :=
  [.generic, .chat, .ping, .commandPackageData, .pause, .taunt, .syncSignal, .dropStamp, .timeSync,
    .dropVote, .dropDecision, .dropFlag, .gameModSyncRequest, .gameModSyncResponse,
    .playerStatusRequest, .playerStatusResponse]

/-- The messages whose fields fit their packet. -/
def Encodable : NetMsg → Prop
  | .raw id _ => id < 64 ∧ id ∉ typedIds.map NetMsgType.toUInt8
  | .commandPackage _ _ payload => payload.length ≤ 32767
  | .chat _ message => '\x00' ∉ message.toList ∧ (utf16Units message).length ≤ 255
  | _ => True

lemma id_lt {m : NetMsg} (hm : m.Encodable) : m.id < 64 := by
  cases m with
  | raw => exact hm.1
  | _ => simp +decide only [NetMsg.id]

lemma decode_encodeFramed {m : NetMsg} (hm : m.Encodable) (response : Bool) {m' : NetMsg} :
    decode (m.encodeFramed response) = .ok ⟨⟨m.id, response⟩, m'⟩ ↔
      decodeBody m.id (m.encodeFramed response) = .ok m' := by
  obtain ⟨hint, hty⟩ := fromWire_toWire (t := ⟨m.id, response⟩) (id_lt hm)
  simp only [encodeFramed, decode, hint, hty, Bool.false_eq_true, if_false]
  cases decodeBody m.id (toWire ⟨m.id, response⟩ :: m.encodeBody) with
  | error | ok => simp

/-- A message is decoded from its own packet unless it is chat with a character outside the basic
plane. -/
theorem decode_encodeFramed_iff (m : NetMsg) (response : Bool) (hm : m.Encodable) :
    decode (m.encodeFramed response) = .ok ⟨⟨m.id, response⟩, m⟩ ↔
      ∀ observerToAll message, m = .chat observerToAll message →
        ∀ c ∈ message.toList, c.toNat < 0x10000 := by
  rw [decode_encodeFramed hm]
  cases m with
  | chat observerToAll =>
    have htext := readWide_writeWide_iff
      [MsgType.toWire ⟨NetMsgType.chat.toUInt8, response⟩, observerToAll] hm.1
      (Nat.lt_succ_of_le hm.2)
    simp +decide [decodeBody, NetMsg.id, need, encodeFramed, encodeBody, length_writeWide, byteAt]
    exact htext
  | generic =>
    simp +decide [decodeBody, NetMsg.id, need, encodeFramed, encodeBody]
    ext i hi
    simp [byteAt, Nat.add_comm 1 i, hi]
  | commandPackage stamp play payload =>
    have hsize : (UInt16.ofNat payload.length).toInt16.toInt = payload.length := by
      have hfits : payload.length ≤ 32767 := hm
      change (BitVec.ofNat 16 payload.length).toInt = payload.length
      rw [BitVec.toInt_ofNat', Int.bmod_eq_of_le]
      · omega
      · omega
    have hnonneg : ¬ (UInt16.ofNat payload.length).toInt16 < 0 := by
      rw [Int16.lt_iff_toInt_lt, hsize]
      simp
    have hclamp : (UInt16.ofNat payload.length).toInt16.toNatClampNeg = payload.length := by
      rw [Int16.toNatClampNeg, hsize]
      rfl
    simp only [encodeFramed, encodeBody]
    generalize UInt16.ofNat payload.length = size at hnonneg hclamp
    simp +decide +arith [decodeBody, NetMsg.id, need, u32ToLe, u32le, u16ToLe, u16le, byteAt,
      u32FromLe_bytes, u16FromLe_bytes, -UInt8.ofNat_uInt32ToNat, -UInt8.ofNat_uInt16ToNat,
      hnonneg, hclamp]
    rfl
  | playerStatusResponse playerId timeSinceLastPulse =>
    simp +decide [decodeBody, NetMsg.id, need, encodeFramed, encodeBody]
    constructor
    · refine Vector.ext fun i hi => ?_
      have hword := u32le_flatMap [MsgType.toWire ⟨NetMsgType.playerStatusResponse.toUInt8, response⟩]
        (timeSinceLastPulse.toList.flatMap u32ToLe) playerId.toList i (by simpa using hi)
      simpa using hword
    · refine Vector.ext fun i hi => ?_
      have hword := u32le_flatMap
        (MsgType.toWire ⟨NetMsgType.playerStatusResponse.toUInt8, response⟩ ::
          playerId.toList.flatMap u32ToLe) [] timeSinceLastPulse.toList i (by simpa using hi)
      simpa using hword
  | raw id =>
    have hother := hm.2
    simp only [typedIds, map_cons, map_nil, mem_cons, not_or] at hother
    simp [decodeBody, NetMsg.id, encodeFramed, encodeBody, hother]
    rfl
  | _ =>
    simp +decide [decodeBody, NetMsg.id, need, encodeFramed, encodeBody, i32ToLe, i32le, u32ToLe,
      u32le, byteAt, u32FromLe_bytes, -UInt8.ofNat_uInt32ToNat]

theorem decode_encodeFramed_gg : decode ((NetMsg.chat 0 "gg").encodeFramed true) =
      .ok ⟨⟨NetMsgType.chat.toUInt8, true⟩, .chat 0 "gg"⟩ :=
  (decode_encodeFramed_iff (.chat 0 "gg") true ⟨by decide, by decide⟩).mpr (by
    rintro observerToAll message ⟨⟩ c hc
    have hg : c = 'g' := by simpa using hc
    rw [hg]
    decide)

set_option maxRecDepth 4000 in
/-- An emoji is within the length and comes back as two replacement characters. -/
theorem decode_encodeFramed_emoji : (NetMsg.chat 0 "😀").Encodable ∧
      decode ((NetMsg.chat 0 "😀").encodeFramed false) =
        .ok ⟨⟨NetMsgType.chat.toUInt8, false⟩, .chat 0 "��"⟩ := by
  refine ⟨⟨by decide, by decide⟩, ?_⟩
  rfl

end NetMsg

end Don.Net
