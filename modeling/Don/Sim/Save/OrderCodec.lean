import Don.Sim.Save.Economy
import Don.Sim.Save.Flight

/-!
# Save.OrderCodec — one order of the save stream

The writer checks that the payloads of an order belong to its kind, then appends the header, the
three optional parts and the one typed payload behind a tag and a version.  The reader goes the
other way and makes its checks where it meets the bytes.  Both are taken from the source for every
format version.
-/

namespace Don.Sim.Save

open Foundation

/-! ## Kinds and their payloads -/

def orderKindCarriesMoveState : OrderIndex → Bool
  | .moveTo | .attackTo | .exploreTo | .fleeTo | .changeForm | .groupMove | .groupAttackTo => true
  | _ => false

def orderKindCarriesEconomyPayload : OrderIndex → Bool
  | .gather | .boardShip | .awaitBoard | .repair | .castSpell | .tradeRoute => true
  | _ => false

variable (order : Order)

def Order.headerTarget : Int32 × Int32 × UInt16 :=
  (order.targetO.toInt32, order.targetWho.toInt32, order.targetUid)

def angleMismatch (kind : OrderIndex) :
    Option MoveOrderState → Option FormOrderState → Bool
  | some moveState, some form => kind == .changeForm && moveState.angle != form.angle
  | _, _ => false

/-! ## Writing -/

def economyNode : Except SaveError (Option EconomyOrderNode) :=
  match order.economy with
  | none => do
    refuse (orderKindCarriesEconomyPayload order.kind) (.invalid "missing economy order payload")
    return none
  | some payload => do
    refuse (¬ orderKindCarriesEconomyPayload order.kind)
      (.invalid "economy payload on foreign order kind")
    let node : EconomyOrderNode := ⟨order.nodeMetric, order.economyHeader, payload⟩
    node.validate.mapError mapEconomyPayloadSaveError
    return some node

variable (o : Order)

/-- How many of the payloads outside the economy are there. -/
def Order.typedPayloads : Nat :=
  o.moveState.isSome.toNat + o.airPatrol.isSome.toNat + o.strafe.isSome.toNat
    + o.guard.isSome.toNat + o.attackGround.isSome.toNat + o.attack.isSome.toNat

variable (version : Nat)

/-- Payloads that older versions cannot hold. -/
def refuseBeforeV13 : Except SaveError Unit := do
  refuse (version < orderNodeMetricFormatVersion ∧ o.airPatrol.isSome)
    (.unsupported "AIR_PATROL payload before DoNSave v13")
  refuse (version < orderNodeMetricFormatVersion ∧ o.strafe.isSome)
    (.unsupported "STRAFE payload before DoNSave v13")
  refuse (version < orderNodeMetricFormatVersion ∧ o.guard.isSome)
    (.unsupported "GUARD payload before DoNSave v13")
  refuse (version < orderNodeMetricFormatVersion ∧ o.attackGround.isSome)
    (.unsupported "ATTACK_GROUND payload before DoNSave v13")
  refuse (version < orderNodeMetricFormatVersion ∧ o.attack.isSome)
    (.unsupported "ATTACK payload before DoNSave v13")

def checkV13Payloads : Except SaveError Unit :=
  if orderNodeMetricFormatVersion ≤ version then do
    refuse (o.airPatrol.isSome ∧ o.kind ≠ .airPatrol)
      (.invalid "AIR_PATROL payload on foreign order kind")
    refuse (o.airPatrol.isNone ∧ o.kind = .airPatrol) (.invalid "missing AIR_PATROL payload")
    refuse (o.strafe.isSome ∧ o.kind ≠ .strafe) (.invalid "STRAFE payload on foreign order kind")
    refuse (o.strafe.isNone ∧ o.kind = .strafe) (.invalid "missing STRAFE payload")
    refuse (o.strafe.any fun strafe =>
        o.headerTarget != (strafe.targetO, strafe.targetWho, strafe.targetUid))
      (.invalid "invalid STRAFE payload")
    -- a guard, an attack and an attack on the ground may go without their payload
    refuse (o.guard.isSome ∧ o.kind ≠ .guard) (.invalid "GUARD payload on foreign order kind")
    refuse (o.guard.any fun guard =>
        o.headerTarget != (guard.target.o, guard.target.who, guard.target.uid))
      (.invalid "invalid GUARD payload")
    refuse (o.attackGround.isSome ∧ o.kind ≠ .attackGround)
      (.invalid "ATTACK_GROUND payload on foreign order kind")
    refuse (o.attackGround.any fun attack => (o.x, o.y) != (attack.attX, attack.attY))
      (.invalid "invalid ATTACK_GROUND payload")
    refuse (o.attack.isSome ∧ o.kind ≠ .attack) (.invalid "ATTACK payload on foreign order kind")
  else pure ()

def checkTypedEnvelope : Except SaveError Unit :=
  if typedOrderFormatVersion ≤ version then do
    refuse (o.moveState.isSome ∧ ¬ orderKindCarriesMoveState o.kind)
      (.invalid "movement payload on foreign order kind")
    refuse (o.moveState.isNone ∧ orderKindCarriesMoveState o.kind)
      (.invalid "missing movement payload")
    refuse (angleMismatch o.kind o.moveState o.formOrder)
      (.invalid "change-form movement angle mismatch")
    checkV13Payloads o version
    refuse (1 < o.typedPayloads) (.invalid "multiple typed order payloads")
  else pure ()

def economyNodeFor : Except SaveError (Option EconomyOrderNode) :=
  if donSaveV13 ≤ version then economyNode o
  else if o.economy.isSome then throw (.unsupported "economy payload before DoNSave v13")
  else pure none

/-- Apply a fallible encoder to a part that may be missing. -/
def encodeOptional {ε α β : Type} (encode : α → Except ε β) : Option α → Except ε (Option β)
  | none => pure none
  | some a => do
    let b ← encode a
    return some b

def encodeEconomyLeaf (node : EconomyOrderNode) :
    Except SaveError EncodedEconomyOrderLeaf := do
  refuse (version < donSaveV13) (.unsupported "economy payload before DoNSave v13")
  (encodeV13Leaf version node).mapError mapEconomyPayloadSaveError

def airPatrolLeafFor : Except SaveError (Option Bytes) :=
  if orderNodeMetricFormatVersion ≤ version then
    encodeOptional (fun payload => (encodeAirPatrolLeaf payload).mapError mapAirPatrolSaveError)
      o.airPatrol
  else pure none

def strafeLeafFor : Except SaveError (Option Bytes) :=
  if orderNodeMetricFormatVersion ≤ version then
    encodeOptional (fun strafe => (encodeStrafeLeaf strafe).mapError mapStrafeSaveError) o.strafe
  else pure none

def specialAnimText (special : SpecialAnimOrderState) : Bytes :=
  [i32ToLe special.specialType.raw, i32ToLe special.started, i32ToLe special.frames,
    i32ToLe special.data1, i32ToLe special.data2, i32ToLe special.data3, i32ToLe special.data4,
    i32ToLe special.ox, i32ToLe special.whom].flatten

def formOrderText (form : FormOrderState) : Bytes :=
  [i32ToLe form.angle, i32ToLe form.newForm, i32ToLe form.delay].flatten

def followText (follow : FollowOrderPayload) : Bytes :=
  [i32ToLe follow.ox, i32ToLe follow.whom, u16ToLe follow.uid, i32ToLe follow.oxx,
    i32ToLe follow.whose, u16ToLe follow.uid2].flatten

def guardText (guard : GuardOrderState) : Bytes :=
  [i32ToLe guard.target.o, i32ToLe guard.target.who, u16ToLe guard.target.uid, i32ToLe guard.dx,
    i32ToLe guard.dy, i32ToLe guard.guardX, i32ToLe guard.guardY, i32ToLe guard.idle,
    i32ToLe guard.retry].flatten

def attackGroundText (attack : AttackGroundOrderState) : Bytes :=
  [i32ToLe attack.attX, i32ToLe attack.attY, i32ToLe attack.accuracy,
    i32ToLe attack.attackUnit].flatten

def attackText (attack : AttackOrderState) : Bytes :=
  [i32ToLe attack.defX, i32ToLe attack.defY, [attack.mandatory], [attack.defensive],
    [attack.inRange], [attack.everInRange], [attack.newOrd]].flatten

def moveText (state : MoveOrderState) : Bytes :=
  [i32ToLe state.angle, i32ToLe state.dest, i32ToLe state.pause, i32ToLe state.retry,
    i32ToLe state.attempts, i32ToLe state.timer, i32ToLe state.facing, i32ToLe state.destX,
    i32ToLe state.destY, i32ToLe state.lastX, i32ToLe state.lastY, i32ToLe state.collX,
    i32ToLe state.collY, i32ToLe state.origX, i32ToLe state.origY, i16ToLe state.offX,
    i16ToLe state.offY, i32ToLe state.groupOxx, i32ToLe state.groupWhose, i32ToLe state.groupId,
    i32ToLe state.groupFormId, i32ToLe state.groupAngle, i32ToLe state.inGroup].flatten

def headerParts : List Bytes :=
  [[UInt8.ofNat o.kind.index], [o.flags], i32ToLe o.x, i32ToLe o.y, i8ToLe o.targetWho,
    i16ToLe o.targetO, u16ToLe o.targetUid, optionText handleText o.targetHandle,
    i32ToLe o.tolerance, optionText specialAnimText o.specialAnim,
    optionText formOrderText o.formOrder, optionText followText o.follow]

/-- The tag that is written: the first payload found, in this order. -/
def payloadTag (economyLeaf : Option EncodedEconomyOrderLeaf)
    (airPatrolLeaf strafeLeaf : Option Bytes) : DoNSaveOrderPayloadTag :=
  if o.moveState.isSome then .move
  else match economyLeaf with
    | some leaf => (DoNSaveOrderPayloadTag.fromRaw (byteAt leaf.typedPayload 0)).getD .none
    | none =>
      if airPatrolLeaf.isSome then .airPatrol
      else if strafeLeaf.isSome then .strafe
      else if o.guard.isSome then .guard
      else if o.attackGround.isSome then .attackGround
      else if o.attack.isSome then .attack
      else .none

/-- The tag, the version and the body of the payload that is not a movement. -/
def payloadBytes (economyLeaf : Option EncodedEconomyOrderLeaf)
    (airPatrolLeaf strafeLeaf : Option Bytes) (tag : DoNSaveOrderPayloadTag) : Bytes :=
  match economyLeaf, airPatrolLeaf, strafeLeaf, o.guard, o.attackGround, o.attack with
  | some leaf, _, _, _, _, _ => leaf.typedPayload
  | none, some leaf, _, _, _, _ => leaf
  | none, none, some leaf, _, _, _ => leaf
  | none, none, none, some guard, _, _ => tag.raw :: tag.wireVersion :: guardText guard
  | none, none, none, none, some attack, _ => tag.raw :: tag.wireVersion :: attackGroundText attack
  | none, none, none, none, none, some attack => tag.raw :: tag.wireVersion :: attackText attack
  | none, none, none, none, none, none => [tag.raw, tag.wireVersion]

def envelopeBytes (economyLeaf : Option EncodedEconomyOrderLeaf)
    (airPatrolLeaf strafeLeaf : Option Bytes) : Bytes :=
  if typedOrderFormatVersion ≤ version then
    payloadBytes o economyLeaf airPatrolLeaf strafeLeaf
        (payloadTag o economyLeaf airPatrolLeaf strafeLeaf)
      ++ (o.moveState.map moveText).getD []
  else []

def writeOrder : Except SaveError Bytes := do
  refuseBeforeV13 o version
  checkTypedEnvelope o version
  let economyNode ← economyNodeFor o version
  refuse (economyNode.isSome ∧ (o.moveState.isSome ∨ o.airPatrol.isSome ∨ o.strafe.isSome
      ∨ o.guard.isSome ∨ o.attackGround.isSome ∨ o.attack.isSome))
    (.invalid "multiple typed order payloads")
  refuse (o.nodeMetric ≠ 0 ∧ version < orderNodeMetricFormatVersion)
    (.invalid "order node metric before v13")
  let economyLeaf ← encodeOptional (encodeEconomyLeaf version) economyNode
  let airPatrolLeaf ← airPatrolLeafFor o version
  let strafeLeaf ← strafeLeafFor o version
  return (headerParts o ++ [envelopeBytes o version economyLeaf airPatrolLeaf strafeLeaf]).flatten

def writeOrderNode : Except SaveError Bytes := do
  let body ← writeOrder o version
  return (if orderNodeMetricFormatVersion ≤ version then [o.nodeMetric] else []) ++ body

/-! ## Reading -/

def readKind : Reader SaveError OrderIndex := do
  let byte ← Reader.u8 truncated
  okOr (.invalid "unknown unit order index") (OrderIndex.fromIndex byte.toNat)

def readHandle : Reader SaveError Handle := do
  let id ← Reader.u32 truncated
  let generation ← Reader.u32 truncated
  return { id := id, generation := generation }

def readSpecialType : Reader SaveError SpecialAnimType := do
  let raw ← Reader.i32 truncated
  okOr (.invalid "unknown special animation type") (SpecialAnimType.fromRaw raw)

def readSpecialAnim : Reader SaveError SpecialAnimOrderState := do
  let specialType ← readSpecialType
  let started ← Reader.i32 truncated
  let frames ← Reader.i32 truncated
  let data1 ← Reader.i32 truncated
  let data2 ← Reader.i32 truncated
  let data3 ← Reader.i32 truncated
  let data4 ← Reader.i32 truncated
  let ox ← Reader.i32 truncated
  let whom ← Reader.i32 truncated
  return {
    specialType := specialType, started := started, frames := frames, data1 := data1
    data2 := data2, data3 := data3, data4 := data4, ox := ox, whom := whom }

def readFormOrder : Reader SaveError FormOrderState := do
  let angle ← Reader.i32 truncated
  let newForm ← Reader.i32 truncated
  let delay ← Reader.i32 truncated
  return { angle := angle, newForm := newForm, delay := delay }

def readFollow : Reader SaveError FollowOrderPayload := do
  let ox ← Reader.i32 truncated
  let whom ← Reader.i32 truncated
  let uid ← Reader.u16 truncated
  let oxx ← Reader.i32 truncated
  let whose ← Reader.i32 truncated
  let uid2 ← Reader.u16 truncated
  return { ox := ox, whom := whom, uid := uid, oxx := oxx, whose := whose, uid2 := uid2 }

def readMove : Reader SaveError MoveOrderState := do
  let angle ← Reader.i32 truncated
  let dest ← Reader.i32 truncated
  let pause ← Reader.i32 truncated
  let retry ← Reader.i32 truncated
  let attempts ← Reader.i32 truncated
  let timer ← Reader.i32 truncated
  let facing ← Reader.i32 truncated
  let destX ← Reader.i32 truncated
  let destY ← Reader.i32 truncated
  let lastX ← Reader.i32 truncated
  let lastY ← Reader.i32 truncated
  let collX ← Reader.i32 truncated
  let collY ← Reader.i32 truncated
  let origX ← Reader.i32 truncated
  let origY ← Reader.i32 truncated
  let offX ← Reader.i16 truncated
  let offY ← Reader.i16 truncated
  let groupOxx ← Reader.i32 truncated
  let groupWhose ← Reader.i32 truncated
  let groupId ← Reader.i32 truncated
  let groupFormId ← Reader.i32 truncated
  let groupAngle ← Reader.i32 truncated
  let inGroup ← Reader.i32 truncated
  return {
    angle := angle, dest := dest, pause := pause, retry := retry, attempts := attempts
    timer := timer, facing := facing, destX := destX, destY := destY, lastX := lastX
    lastY := lastY, collX := collX, collY := collY, origX := origX, origY := origY
    offX := offX, offY := offY, groupOxx := groupOxx, groupWhose := groupWhose
    groupId := groupId, groupFormId := groupFormId, groupAngle := groupAngle
    inGroup }

def readGuard : Reader SaveError GuardOrderState := do
  let o ← Reader.i32 truncated
  let who ← Reader.i32 truncated
  let uid ← Reader.u16 truncated
  let dx ← Reader.i32 truncated
  let dy ← Reader.i32 truncated
  let guardX ← Reader.i32 truncated
  let guardY ← Reader.i32 truncated
  let idle ← Reader.i32 truncated
  let retry ← Reader.i32 truncated
  return {
    target := { o := o, who := who, uid := uid }
    dx := dx, dy := dy, guardX := guardX, guardY := guardY, idle := idle, retry := retry }

def readAttackGround : Reader SaveError AttackGroundOrderState := do
  let attX ← Reader.i32 truncated
  let attY ← Reader.i32 truncated
  let accuracy ← Reader.i32 truncated
  let attackUnit ← Reader.i32 truncated
  return { attX := attX, attY := attY, accuracy := accuracy, attackUnit := attackUnit }

def readAttack : Reader SaveError AttackOrderState := do
  let defX ← Reader.i32 truncated
  let defY ← Reader.i32 truncated
  let mandatory ← Reader.u8 truncated
  let defensive ← Reader.u8 truncated
  let inRange ← Reader.u8 truncated
  let everInRange ← Reader.u8 truncated
  let newOrd ← Reader.u8 truncated
  return {
    defX := defX, defY := defY, mandatory := mandatory, defensive := defensive
    inRange := inRange, everInRange := everInRange, newOrd := newOrd }

structure Payloads where
  moveState : Option MoveOrderState := none
  airPatrol : Option AirPatrolOrderPayload := none
  strafe : Option StrafeOrder := none
  guard : Option GuardOrderState := none
  attackGround : Option AttackGroundOrderState := none
  attack : Option AttackOrderState := none
  economy : Option EconomyOrderPayload := none
  deriving DecidableEq

def unknownPayload : SaveError :=
  .invalid "unknown order payload discriminator/version"

def reservedPayload : SaveError :=
  .unsupported "reserved typed order payload"

/-- The match arms of the payloads that came with the node metric: `(tag, 1)` is read, any other
version is unknown, and before version 13 the tag is only reserved. -/
def fromV13 (payloadVersion : UInt8) (read : Reader SaveError Payloads) :
    Reader SaveError Payloads :=
  if orderNodeMetricFormatVersion ≤ version then
    if payloadVersion = 1 then read else throw unknownPayload
  else throw reservedPayload

def readEconomyTagged (order : Order) (tag : DoNSaveOrderPayloadTag)
    (payloadVersion : UInt8) : Reader SaveError Payloads :=
  if payloadVersion = 1 ∧ donSaveV13 ≤ version then do
    let economy ← readEconomyPayload order tag 1
    return { economy := some economy }
  else throw reservedPayload

def readUntagged (order : Order) : Reader SaveError Payloads := do
  refuse (orderKindCarriesMoveState order.kind) (.invalid "missing movement payload")
  refuse (orderNodeMetricFormatVersion ≤ version ∧ order.kind = .airPatrol)
    (.invalid "missing AIR_PATROL payload")
  refuse (orderNodeMetricFormatVersion ≤ version ∧ order.kind = .strafe)
    (.invalid "missing STRAFE payload")
  if donSaveV13 ≤ version ∧ orderKindCarriesEconomyPayload order.kind then
    let economy ← readEconomyPayload order .none 0
    return { economy := some economy }
  else
    return {}

def readTagged (order : Order) (payloadVersion : UInt8) :
    DoNSaveOrderPayloadTag → Reader SaveError Payloads
  | .none => if payloadVersion = 0 then readUntagged version order else throw unknownPayload
  | .move =>
    if payloadVersion = 1 then do
      refuse (¬ orderKindCarriesMoveState order.kind)
        (.invalid "movement payload on foreign order kind")
      let state ← readMove
      return { moveState := some state }
    else throw unknownPayload
  | .gather => readEconomyTagged version order .gather payloadVersion
  | .castSpell => readEconomyTagged version order .castSpell payloadVersion
  | .tradeRoute => readEconomyTagged version order .tradeRoute payloadVersion
  | .airPatrol => fromV13 version payloadVersion do
      refuse (order.kind ≠ .airPatrol) (.invalid "AIR_PATROL payload on foreign order kind")
      let payload ← readAirPatrol
      return { airPatrol := some payload }
  | .strafe => fromV13 version payloadVersion do
      refuse (order.kind ≠ .strafe) (.invalid "STRAFE payload on foreign order kind")
      let payload ← readStrafe
        { o := order.targetO.toInt32, who := order.targetWho.toInt32, uid := order.targetUid }
      return { strafe := some payload }
  | .guard => fromV13 version payloadVersion do
      refuse (order.kind ≠ .guard) (.invalid "GUARD payload on foreign order kind")
      let payload ← readGuard
      refuse ((payload.target.o, payload.target.who, payload.target.uid) ≠ order.headerTarget)
        (.invalid "invalid GUARD payload")
      return { guard := some payload }
  | .attackGround => fromV13 version payloadVersion do
      refuse (order.kind ≠ .attackGround) (.invalid "ATTACK_GROUND payload on foreign order kind")
      let payload ← readAttackGround
      refuse ((order.x, order.y) ≠ (payload.attX, payload.attY))
        (.invalid "invalid ATTACK_GROUND payload")
      return { attackGround := some payload }
  | .attack => fromV13 version payloadVersion do
      refuse (order.kind ≠ .attack) (.invalid "ATTACK payload on foreign order kind")
      let payload ← readAttack
      return { attack := some payload }
  | .groupPatrol | .airAttackGround => throw reservedPayload

def readTyped (order : Order) : Reader SaveError Payloads := do
  let raw ← Reader.u8 truncated
  let tag ← okOr unknownPayload (DoNSaveOrderPayloadTag.fromRaw raw)
  let payloadVersion ← Reader.u8 truncated
  readTagged version order payloadVersion tag

def readEnvelope (order : Order) : Reader SaveError Payloads :=
  if typedOrderFormatVersion ≤ version then readTyped version order else pure {}

def Order.withPayloads (p : Payloads) : Order :=
  { order with
    moveState := p.moveState, airPatrol := p.airPatrol, strafe := p.strafe, guard := p.guard
    attackGround := p.attackGround, attack := p.attack, economy := p.economy }

def readOrder : Reader SaveError Order := do
  let kind ← readKind
  let flags ← Reader.u8 truncated
  let x ← Reader.i32 truncated
  let y ← Reader.i32 truncated
  let targetWho ← Reader.i8 truncated
  let targetO ← Reader.i16 truncated
  let targetUid ← Reader.u16 truncated
  let targetHandle ← Reader.optional readBool readHandle
  let tolerance ← Reader.i32 truncated
  let order : Order :=
    { nodeMetric := 0, kind := kind, flags := flags, x := x, y := y, targetWho := targetWho
      targetO := targetO, targetUid := targetUid, targetHandle := targetHandle, attack := none
      tolerance := tolerance, moveState := none, follow := none, specialAnim := none
      formOrder := none, airPatrol := none, strafe := none, guard := none, attackGround := none
      economy := none }
  let specialAnim ← Reader.optional readBool readSpecialAnim
  let formOrder ← Reader.optional readBool readFormOrder
  let follow ← Reader.optional readBool readFollow
  let payloads ← readEnvelope version order
  refuse (angleMismatch kind payloads.moveState formOrder)
    (.invalid "change-form movement angle mismatch")
  return { order with specialAnim := specialAnim, formOrder := formOrder, follow := follow }.withPayloads
    payloads

def readMetric : Reader SaveError UInt8 :=
  if orderNodeMetricFormatVersion ≤ version then Reader.u8 truncated else pure 0

def readOrderNode : Reader SaveError Order := do
  let metric ← readMetric version
  let order ← readOrder version
  return { order with nodeMetric := metric }

end Don.Sim.Save
