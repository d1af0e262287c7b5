import Don.Sim.Save.Order

/-!
# Save.Economy — the payload of the economy orders

Gathering, boarding, repairing, casting and trading share one leaf: a tag, a version and a suffix
whose shape the tag fixes.  The header of the order decides which tag it may carry, and the target
in the header is checked on both sides of the codec.
-/

namespace Don.Sim.Save

open Foundation List EconomyOrderPayload

inductive EconomyPayloadTag where
  | none | gather | castSpell | tradeRoute
  deriving DecidableEq

namespace EconomyPayloadTag

def fromRaw (raw : UInt8) : Option EconomyPayloadTag :=
  match raw.toNat with
  | 0 => some none
  | 2 => some gather
  | 3 => some castSpell
  | 4 => some tradeRoute
  | _ => Option.none

/-- `tag as u8`. -/
def raw : EconomyPayloadTag → UInt8
  | none => 0
  | gather => 2
  | castSpell => 3
  | tradeRoute => 4

def version : EconomyPayloadTag → UInt8
  | none => 0
  | _ => 1

def shared : EconomyPayloadTag → DoNSaveOrderPayloadTag
  | none => .none
  | gather => .gather
  | castSpell => .castSpell
  | tradeRoute => .tradeRoute

@[simp] lemma raw_shared (tag : EconomyPayloadTag) : tag.shared.raw = tag.raw := by
  cases tag <;> rfl

lemma fromRaw_eq_some_iff {byte : UInt8} {tag : EconomyPayloadTag} :
    fromRaw byte = some tag ↔ byte = tag.raw := by
  constructor
  · intro h
    unfold fromRaw at h
    split at h <;> cases h
    all_goals exact UInt8.toNat_inj.1 (by assumption)
  · rintro rfl
    cases tag <;> rfl

end EconomyPayloadTag

structure EconomyOrderHeader where
  kind : OrderIndex
  flags : UInt8
  x : Int32
  y : Int32
  primary : StableTargetIdentity
  deriving DecidableEq

structure EconomyOrderNode where
  metric : UInt8
  header : EconomyOrderHeader
  payload : EconomyOrderPayload
  deriving DecidableEq

inductive EconomyOrderAuthorityError where
  | unsupportedDoNSaveVersion (version : Nat)
  | unsupportedOrderKind (kind : OrderIndex)
  | payloadDoesNotMatchKind (kind : OrderIndex) (tag : EconomyPayloadTag)
  | incoherentTargetIdentity
  | missingRequiredPrimaryTarget (kind : OrderIndex)
  | unknownPayloadTag (raw : UInt8)
  | unknownPayloadVersion (tag : EconomyPayloadTag) (version : UInt8)
  | foreignPayloadTag (kind : OrderIndex) (expected actual : EconomyPayloadTag)
  | invalidHandlePresence (raw : UInt8)
  | wrongLeafSize (expected actual : Nat)
  deriving DecidableEq

/-! ## Validation -/

namespace StableTargetIdentity

def isLive (t : StableTargetIdentity) : Bool :=
  decide (0 ≤ t.o) && decide (0 ≤ t.who)

def validate (t : StableTargetIdentity) : Except EconomyOrderAuthorityError Unit :=
  match decide (0 ≤ t.o), decide (0 ≤ t.who), t.handle with
  | true, true, some _ => .ok ()
  -- builds and walls have no handle: their addresses start at 2000
  | true, true, none =>
    if 2000 ≤ t.o ∧ t.o ≤ 32767 ∧ 0 ≤ t.who ∧ t.who < 10 then .ok ()
    else .error .incoherentTargetIdentity
  | false, false, none =>
    if t.o = -1 ∧ t.who = -1 ∧ t.uid = 65535 then .ok ()
    else .error .incoherentTargetIdentity
  | _, _, _ => .error .incoherentTargetIdentity

end StableTargetIdentity

def expectedPayloadTag : OrderIndex → Option EconomyPayloadTag
  | .boardShip | .awaitBoard | .repair => some .none
  | .gather => some .gather
  | .castSpell => some .castSpell
  | .tradeRoute => some .tradeRoute
  | _ => none

namespace EconomyOrderPayload

def tag : EconomyOrderPayload → EconomyPayloadTag
  | targetOnly => .none
  | gather _ => .gather
  | castSpell _ => .castSpell
  | tradeRoute _ => .tradeRoute

end EconomyOrderPayload

/-- The kinds that need a target; a cast may go to a place. -/
def requiresPrimaryTarget : OrderIndex → Bool
  | .boardShip | .awaitBoard | .repair | .gather | .tradeRoute => true
  | _ => false

def EconomyOrderNode.validate (node : EconomyOrderNode) :
    Except EconomyOrderAuthorityError Unit := do
  let expected ← okOr (.unsupportedOrderKind node.header.kind) (expectedPayloadTag node.header.kind)
  let actual := node.payload.tag
  refuse (actual ≠ expected) (.payloadDoesNotMatchKind node.header.kind actual)
  node.header.primary.validate
  refuse (requiresPrimaryTarget node.header.kind ∧ ¬ node.header.primary.isLive)
    (.missingRequiredPrimaryTarget node.header.kind)
  match node.payload with
  | .tradeRoute payload => payload.second.validate
  | _ => pure ()

variable {node : EconomyOrderNode}

open EconomyOrderNode

lemma EconomyOrderNode.expected_of_validate
    (h : node.validate = .ok ()) : expectedPayloadTag node.header.kind = some node.payload.tag := by
  simp only [validate, except_bind_ok_iff, okOr_ok_iff, refuse_ok_iff,
    not_not] at h
  obtain ⟨expected, hkind, _, htag, -⟩ := h
  rw [hkind, htag]

/-! ## The leaf -/

def pushGatherSuffix (payload : GatherOrderPayload) : Bytes :=
  i32ToLe payload.tx ++ (i32ToLe payload.ty ++ (i32ToLe payload.buildType
    ++ (i32ToLe payload.wait
      ++ [payload.gotoBuild, payload.nonFlatGather, payload.distMod, payload.beenThere])))

def pushTradeSuffix (payload : TradeOrderPayload) : Bytes :=
  i32ToLe payload.second.o ++ (i32ToLe payload.second.who ++ (i32ToLe payload.started
    ++ (i32ToLe payload.loaded ++ u16ToLe payload.second.uid)))

/-- What follows the tag and the version. -/
def EconomyOrderPayload.suffix : EconomyOrderPayload → Bytes
  | targetOnly => []
  | gather payload => pushGatherSuffix payload
  | castSpell payload => i32ToLe payload.paid ++ i32ToLe payload.spell
  | tradeRoute payload =>
    pushTradeSuffix payload ++ optionText handleText payload.second.handle

/-- `tag:u8, payload_version:u8, payload…`. -/
def EconomyOrderPayload.leaf (payload : EconomyOrderPayload) : Bytes :=
  payload.tag.raw :: payload.tag.version :: payload.suffix

def requireV13 (version : Nat) : Except EconomyOrderAuthorityError Unit :=
  refuse (¬ donSaveV13 ≤ version) (.unsupportedDoNSaveVersion version)

structure EncodedEconomyOrderLeaf where
  metric : UInt8
  typedPayload : Bytes
  deriving DecidableEq

def encodeV13Leaf (version : Nat) (node : EconomyOrderNode) :
    Except EconomyOrderAuthorityError EncodedEconomyOrderLeaf := do
  requireV13 version
  node.validate
  return ⟨node.metric, node.payload.leaf⟩

def requireSize (bytes : Bytes) (expected : Nat) : Except EconomyOrderAuthorityError Unit :=
  refuse (bytes.length ≠ expected) (.wrongLeafSize expected bytes.length)

/-- The handle after the fixed part of a trade leaf, with the size that the leaf then has. -/
def decodeTradeHandle (bytes : Bytes) (present : UInt8) :
    Except EconomyOrderAuthorityError (Nat × Option Handle) :=
  if present = 0 then pure (21, none)
  else if present = 1 then do
    refuse (bytes.length < 29) (.wrongLeafSize 29 bytes.length)
    return (29, some { id := u32le bytes 21, generation := u32le bytes 25 })
  else throw (.invalidHandlePresence present)

/-- The body of a leaf, at the offsets after its tag and version. -/
def decodeSuffix (bytes : Bytes) :
    EconomyPayloadTag → Except EconomyOrderAuthorityError EconomyOrderPayload
  | .none => do
    requireSize bytes 2
    return .targetOnly
  | .gather => do
    requireSize bytes 22
    return .gather
      { tx := i32le bytes 2
        ty := i32le bytes 6
        buildType := i32le bytes 10
        wait := i32le bytes 14
        gotoBuild := byteAt bytes 18
        nonFlatGather := byteAt bytes 19
        distMod := byteAt bytes 20
        beenThere := byteAt bytes 21 }
  | .castSpell => do
    requireSize bytes 10
    return .castSpell { paid := i32le bytes 2, spell := i32le bytes 6 }
  | .tradeRoute => do
    refuse (bytes.length < 21) (.wrongLeafSize 21 bytes.length)
    let (expectedSize, handle) ← decodeTradeHandle bytes (byteAt bytes 20)
    requireSize bytes expectedSize
    return .tradeRoute
      { second :=
          { o := i32le bytes 2, who := i32le bytes 6, uid := u16le bytes 18, handle := handle }
        started := i32le bytes 10
        loaded := i32le bytes 14 }

def decodeV13Leaf (version : Nat) (metric : UInt8) (header : EconomyOrderHeader) (bytes : Bytes) :
    Except EconomyOrderAuthorityError EconomyOrderNode := do
  requireV13 version
  refuse (bytes.length < 2) (.wrongLeafSize 2 bytes.length)
  let tag ← okOr (.unknownPayloadTag (byteAt bytes 0)) (EconomyPayloadTag.fromRaw (byteAt bytes 0))
  let expected ← okOr (.unsupportedOrderKind header.kind) (expectedPayloadTag header.kind)
  refuse (tag ≠ expected) (.foreignPayloadTag header.kind expected tag)
  refuse (byteAt bytes 1 ≠ tag.version) (.unknownPayloadVersion tag (byteAt bytes 1))
  let payload ← decodeSuffix bytes tag
  let node : EconomyOrderNode := ⟨metric, header, payload⟩
  node.validate
  return node

/-! ## The leaf is read from exactly its own bytes -/

variable {first second : UInt8} {p : EconomyOrderPayload} {s : Bytes}

/-- The fixed part of a trade leaf, cut at the offsets where it is read. -/
lemma drop_two_trade {b : Bytes} (h : 21 ≤ b.length) (handle : Option Handle) :
    b.drop 2 = pushTradeSuffix
        { second :=
            { o := i32le b 2, who := i32le b 6, uid := u16le b 18, handle := handle }
          started := i32le b 10
          loaded := i32le b 14 } ++ byteAt b 20 :: b.drop 21 := by
  rw [drop_i32le (by omega), drop_i32le (o := 2 + 4) (by omega),
    drop_i32le (o := 2 + 4 + 4) (by omega), drop_i32le (o := 2 + 4 + 4 + 4) (by omega),
    drop_u16le (o := 18) (by omega), drop_byteAt (o := 18 + 2) (by omega)]
  simp [pushTradeSuffix]

/-- A suffix is read under a tag exactly when it is that of a payload with this tag. -/
lemma decodeSuffix_ok_iff {tag : EconomyPayloadTag} :
    decodeSuffix (first :: second :: s) tag = .ok p ↔ p.tag = tag ∧ s = p.suffix := by
  constructor
  · intro h
    -- the suffix is cut at the offsets where the fields were read
    have hcut : s = (first :: second :: s).drop 2 := rfl
    cases tag <;> simp only [decodeSuffix, requireSize, except_bind_ok_iff, refuse_ok_iff,
      except_pure_ok_iff, not_not] at h
    case none =>
      obtain ⟨_, hlen, rfl⟩ := h
      refine ⟨rfl, length_eq_zero_iff.1 ?_⟩
      simpa using hlen
    case gather =>
      obtain ⟨_, hlen, rfl⟩ := h
      refine ⟨rfl, hcut.trans ?_⟩
      rw [drop_i32le (by omega), drop_i32le (o := 2 + 4) (by omega),
        drop_i32le (o := 2 + 4 + 4) (by omega), drop_i32le (o := 2 + 4 + 4 + 4) (by omega),
        drop_byteAt (o := 18) (by omega), drop_byteAt (o := 18 + 1) (by omega),
        drop_byteAt (o := 18 + 1 + 1) (by omega), drop_byteAt (o := 18 + 1 + 1 + 1) (by omega),
        drop_eq_nil_of_le (by omega)]
      rfl
    case castSpell =>
      obtain ⟨_, hlen, rfl⟩ := h
      refine ⟨rfl, hcut.trans ?_⟩
      rw [drop_i32le (by omega), drop_i32le (o := 2 + 4) (by omega),
        drop_eq_nil_of_le (by omega), append_nil]
      rfl
    case tradeRoute =>
      obtain ⟨_, hlong, ⟨size, handle⟩, hpresent, _, hsize, rfl⟩ := h
      refine ⟨rfl, ?_⟩
      have hcut := drop_two_trade (b := first :: second :: s) (by omega) handle
      have hhandle : byteAt (first :: second :: s) 20 :: (first :: second :: s).drop 21
          = optionText handleText handle := by
        unfold decodeTradeHandle at hpresent
        by_cases h0 : byteAt (first :: second :: s) 20 = 0
        · simp only [h0, if_true, except_pure_ok_iff, Prod.mk.injEq] at hpresent
          obtain ⟨rfl, rfl⟩ := hpresent
          rw [h0, drop_eq_nil_of_le (by omega)]
          rfl
        by_cases h1 : byteAt (first :: second :: s) 20 = 1
        · simp only [h1, show (1 : UInt8) ≠ 0 by decide, if_true, if_false, except_bind_ok_iff,
            refuse_ok_iff, except_pure_ok_iff, Prod.mk.injEq] at hpresent
          obtain ⟨_, hroom, rfl, rfl⟩ := hpresent
          rw [h1, drop_u32le (by omega), drop_u32le (o := 21 + 4) (by omega),
            drop_eq_nil_of_le (by omega)]
          rfl
        · simp [h0, h1, throw, throwThe, MonadExceptOf.throw] at hpresent
      rw [hhandle] at hcut
      exact hcut
  · rintro ⟨rfl, rfl⟩
    cases p <;> simp only [tag, decodeSuffix, requireSize, except_bind_ok_iff,
      refuse_ok_iff, except_pure_ok_iff, not_not]
    case targetOnly => exact ⟨(), rfl, trivial⟩
    case gather payload =>
      refine ⟨(), rfl, ?_⟩
      rw [i32le_of_drop (o := 2) (v := payload.tx) rfl,
        i32le_of_drop (o := 6) (v := payload.ty) rfl,
        i32le_of_drop (o := 10) (v := payload.buildType) rfl,
        i32le_of_drop (o := 14) (v := payload.wait) rfl]
      rfl
    case castSpell payload =>
      refine ⟨(), rfl, ?_⟩
      rw [i32le_of_drop (o := 2) (v := payload.paid) rfl,
        i32le_of_drop (o := 6) (v := payload.spell) (t := []) rfl]
    case tradeRoute payload =>
      obtain ⟨⟨o, who, uid, handle⟩, started, loaded⟩ := payload
      refine ⟨(), ?_, (_, handle), ?_, (), rfl, ?_⟩
      · cases handle with
        | none => exact Nat.not_lt.2 (Nat.le_refl 21)
        | some => exact Nat.not_lt.2 (Nat.le_add_right 21 8)
      · cases handle with
        | none => rfl
        | some handle =>
          change decodeTradeHandle _ 1 = _
          simp only [decodeTradeHandle, show (1 : UInt8) ≠ 0 by decide, if_true, if_false,
            except_bind_ok_iff, refuse_ok_iff, except_pure_ok_iff]
          refine ⟨(), Nat.not_lt.2 (Nat.le_refl 29), ?_⟩
          rw [u32le_of_drop (o := 21) (v := handle.id) rfl,
            u32le_of_drop (o := 25) (v := handle.generation) (t := []) rfl]
          rfl
      · rw [i32le_of_drop (o := 2) (v := o) rfl, i32le_of_drop (o := 6) (v := who) rfl,
          i32le_of_drop (o := 10) (v := started) rfl,
          i32le_of_drop (o := 14) (v := loaded) rfl, u16le_of_drop (o := 18) (v := uid) rfl]

lemma encodeV13Leaf_ok_iff {version : Nat} (hversion : donSaveV13 ≤ version)
    {leaf : EncodedEconomyOrderLeaf} :
    encodeV13Leaf version node = .ok leaf ↔
      node.validate = .ok () ∧ leaf = ⟨node.metric, node.payload.leaf⟩ := by
  simp only [encodeV13Leaf, requireV13, except_bind_ok_iff, refuse_ok_iff, except_pure_ok_iff,
    hversion, not_true_eq_false, not_false_eq_true, true_and]
  constructor
  · rintro ⟨_, _, hvalid, rfl⟩
    exact ⟨hvalid, rfl⟩
  · rintro ⟨hvalid, rfl⟩
    exact ⟨(), (), hvalid, rfl⟩

open EconomyPayloadTag

lemma decodeV13Leaf_ok_iff {version : Nat} (hversion : donSaveV13 ≤ version) {metric : UInt8}
    {header : EconomyOrderHeader} {bytes : Bytes} :
    decodeV13Leaf version metric header bytes = .ok node ↔
      node.metric = metric ∧ node.header = header ∧ node.validate = .ok () ∧
        bytes = node.payload.leaf := by
  simp only [decodeV13Leaf, requireV13, except_bind_ok_iff, okOr_ok_iff, refuse_ok_iff,
    except_pure_ok_iff, fromRaw_eq_some_iff, hversion, not_not, true_and,
    Nat.not_lt]
  constructor
  · rintro ⟨_, _, hlen, tag, htag, _, _, _, rfl, _, hver, payload, hpayload, _, hvalid, rfl⟩
    rcases bytes with _ | ⟨first, _ | ⟨second, s⟩⟩
    · simp at hlen
    · simp at hlen
    · obtain ⟨rfl, rfl⟩ := decodeSuffix_ok_iff.1 hpayload
      have hfirst : first = payload.tag.raw := htag
      have hsecond : second = payload.tag.version := hver
      exact ⟨rfl, rfl, hvalid, by rw [hfirst, hsecond]; rfl⟩
  · obtain ⟨metric', header', payload⟩ := node
    rintro ⟨rfl, rfl, hvalid, rfl⟩
    have hexpected := expected_of_validate hvalid
    refine ⟨(), (), by simp [leaf], payload.tag, rfl, payload.tag, hexpected,
      (), rfl, (), rfl, payload, decodeSuffix_ok_iff.2 ⟨rfl, rfl⟩, (), hvalid, rfl⟩

/-! ## The payload inside the order stream -/

def mapEconomyPayloadSaveError : EconomyOrderAuthorityError → SaveError
  | .unsupportedDoNSaveVersion _ => .unsupported "economy payload before DoNSave v13"
  | _ => .invalid "invalid economy order payload"

def Order.economyHeader (order : Order) : EconomyOrderHeader :=
  { kind := order.kind
    flags := order.flags
    x := order.x
    y := order.y
    primary :=
      { o := order.targetO.toInt32
        who := order.targetWho.toInt32
        uid := order.targetUid
        handle := order.targetHandle } }

/-- The bytes of the leaf; only a trade route has a length of its own. -/
def readEconomyLeaf (tag : DoNSaveOrderPayloadTag) (version : UInt8) : Reader SaveError Bytes :=
  match tag with
  | .none => pure [tag.raw, version]
  | .gather => do
    let suffix ← Reader.take truncated 20
    return tag.raw :: version :: suffix
  | .castSpell => do
    let suffix ← Reader.take truncated 8
    return tag.raw :: version :: suffix
  | .tradeRoute => do
    let fixed ← Reader.take truncated 18
    let present ← Reader.u8 truncated
    if present = 0 then return tag.raw :: version :: (fixed ++ [present])
    else if present = 1 then
      let handle ← Reader.take truncated 8
      return tag.raw :: version :: (fixed ++ present :: handle)
    else throw (.invalid "invalid economy order payload")
  | _ => throw (.invalid "invalid economy order payload")

def readEconomyPayload (order : Order) (tag : DoNSaveOrderPayloadTag) (version : UInt8) :
    Reader SaveError EconomyOrderPayload := do
  let bytes ← readEconomyLeaf tag version
  let node ← liftM
    ((decodeV13Leaf donSaveV13 0 order.economyHeader bytes).mapError mapEconomyPayloadSaveError)
  return node.payload

open Reader

lemma readEconomyLeaf_sound {tag : DoNSaveOrderPayloadTag} {version : UInt8}
    {b bytes rest : Bytes} (h : readEconomyLeaf tag version b = .ok (bytes, rest)) :
    ∃ suffix, bytes = tag.raw :: version :: suffix ∧ b = suffix ++ rest := by
  cases tag with
  | none =>
    obtain ⟨rfl, rfl⟩ := pure_ok_iff.1 h
    exact ⟨[], rfl, rfl⟩
  | gather | castSpell =>
    simp only [readEconomyLeaf, bind_ok_iff, take_ok_iff, pure_ok_iff] at h
    obtain ⟨suffix, _, ⟨-, rfl⟩, rfl, rfl⟩ := h
    exact ⟨suffix, rfl, rfl⟩
  | tradeRoute =>
    simp only [readEconomyLeaf, bind_ok_iff, take_ok_iff, u8_ok_iff] at h
    obtain ⟨fixed, _, ⟨-, rfl⟩, present, mid, rfl, h⟩ := h
    by_cases h0 : present = 0
    · obtain ⟨rfl, rfl⟩ := pure_ok_iff.1 (by simpa only [h0, if_true] using h)
      exact ⟨fixed ++ [0], rfl, by simp [h0]⟩
    by_cases h1 : present = 1
    · simp only [h1, show (1 : UInt8) ≠ 0 by decide, if_true, if_false, bind_ok_iff,
        take_ok_iff, pure_ok_iff] at h
      obtain ⟨handle, _, ⟨-, rfl⟩, rfl, rfl⟩ := h
      exact ⟨fixed ++ 1 :: handle, rfl, by simp [h1]⟩
    · simp [h0, h1] at h
  | _ => simp [readEconomyLeaf] at h

lemma readEconomyLeaf_complete (payload : EconomyOrderPayload) (rest : Bytes) :
    readEconomyLeaf payload.tag.shared payload.tag.version (payload.suffix ++ rest)
      = .ok (payload.leaf, rest) := by
  cases payload with
  | targetOnly => rfl
  | gather | castSpell =>
    refine bind_ok_iff.2 ⟨_, _, take_ok_iff.2 ⟨?_, rfl⟩, rfl⟩
    rfl
  | tradeRoute payload =>
    -- the fixed part, and then the handle when there is one
    refine bind_ok_iff.2 ⟨pushTradeSuffix payload,
      optionText handleText payload.second.handle ++ rest,
      take_ok_iff.2 ⟨rfl, append_assoc _ _ rest⟩, ?_⟩
    simp only [leaf, suffix]
    cases payload.second.handle with
    | none => rfl
    | some handle =>
      exact bind_ok_iff.2 ⟨1, handleText handle ++ rest, rfl, bind_ok_iff.2
        ⟨handleText handle, rest, take_ok_iff.2 ⟨rfl, rfl⟩, rfl⟩⟩

lemma readEconomyPayload_ok_iff {order : Order} {tag : DoNSaveOrderPayloadTag} {version : UInt8}
    {b rest : Bytes} {payload : EconomyOrderPayload} :
    readEconomyPayload order tag version b = .ok (payload, rest) ↔
      (mk 0 order.economyHeader payload).validate = .ok () ∧
        tag = payload.tag.shared ∧ version = payload.tag.version ∧ b = payload.suffix ++ rest := by
  simp only [readEconomyPayload, bind_ok_iff, lift_ok_iff, mapError_ok_iff,
    pure_ok_iff, decodeV13Leaf_ok_iff (Nat.le_refl donSaveV13)]
  constructor
  · rintro ⟨bytes, mid, hread, ⟨_, _, payload⟩, _, ⟨⟨rfl, rfl, hvalid, hleaf⟩, rfl⟩, rfl, rfl⟩
    obtain ⟨suffix, rfl, rfl⟩ := readEconomyLeaf_sound hread
    simp only [leaf, List.cons.injEq] at hleaf
    obtain ⟨hraw, rfl, rfl⟩ := hleaf
    refine ⟨hvalid, ?_, rfl, rfl⟩
    rw [← raw_shared] at hraw
    exact DoNSaveOrderPayloadTag.raw_injective hraw
  · rintro ⟨hvalid, rfl, rfl, rfl⟩
    exact ⟨payload.leaf, rest, readEconomyLeaf_complete payload rest,
      ⟨0, order.economyHeader, payload⟩, rest, ⟨⟨rfl, rfl, hvalid, rfl⟩, rfl⟩, rfl, rfl⟩

end Don.Sim.Save
