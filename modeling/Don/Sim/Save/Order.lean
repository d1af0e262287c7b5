import Don.Foundation.Layout

/-!
# Save.Order — unit orders as the save file sees them

An order is one flat record: a header that every kind has, three optional parts that any kind may
carry, and seven typed payloads of which a kind admits at most one.  Nothing in the record itself
rules out a payload on the wrong kind; the two sides of the codec do.
-/

namespace Don.Sim.Save

open Foundation

/-! ## Kinds and tags -/

inductive OrderIndex where
  | none | moveTo | attackTo | exploreTo | fleeTo | patrol | buildAt | gather | boardShip
  | awaitBoard | attack | follow | guard | repair | castSpell | tradeRoute | strafe | airPatrol
  | changeForm | groupMove | groupAttack | groupAttackTo | groupPatrol | attackGround
  | airAttackGround | specialAnim | garrison | think
  deriving DecidableEq

namespace OrderIndex

def all : List OrderIndex :=
  [none, moveTo, attackTo, exploreTo, fleeTo, patrol, buildAt, gather, boardShip, awaitBoard,
    attack, follow, guard, repair, castSpell, tradeRoute, strafe, airPatrol, changeForm, groupMove,
    groupAttack, groupAttackTo, groupPatrol, attackGround, airAttackGround, specialAnim, garrison,
    think]

/-- The discriminant: the kinds are numbered in the order they are declared. -/
def index (kind : OrderIndex) : Nat :=
  kind.ctorIdx

def fromIndex (i : Nat) : Option OrderIndex :=
  all[i]?

lemma all_index : ∀ i, i < all.length → (all[i]?).map index = some i := by
  decide

lemma fromIndex_eq_some_iff {byte : UInt8} {kind : OrderIndex} :
    fromIndex byte.toNat = some kind ↔ byte = UInt8.ofNat kind.index := by
  constructor
  · intro h
    obtain ⟨hlt, -⟩ := List.getElem?_eq_some_iff.1 h
    have hindex := all_index byte.toNat hlt
    rw [show all[byte.toNat]? = some kind from h] at hindex
    rw [Option.some.inj hindex, UInt8.ofNat_toNat]
  · rintro rfl
    cases kind <;> rfl

end OrderIndex

inductive DoNSaveOrderPayloadTag where
  | none | move | gather | castSpell | tradeRoute | guard | airPatrol | groupPatrol | strafe
  | attackGround | airAttackGround | attack
  deriving DecidableEq

namespace DoNSaveOrderPayloadTag

def fromRaw (raw : UInt8) : Option DoNSaveOrderPayloadTag :=
  match raw.toNat with
  | 0 => some none
  | 1 => some move
  | 2 => some gather
  | 3 => some castSpell
  | 4 => some tradeRoute
  | 5 => some guard
  | 6 => some airPatrol
  | 7 => some groupPatrol
  | 8 => some strafe
  | 9 => some attackGround
  | 10 => some airAttackGround
  | 11 => some attack
  | _ => Option.none

/-- `tag as u8`. -/
def raw : DoNSaveOrderPayloadTag → UInt8
  | none => 0
  | move => 1
  | gather => 2
  | castSpell => 3
  | tradeRoute => 4
  | guard => 5
  | airPatrol => 6
  | groupPatrol => 7
  | strafe => 8
  | attackGround => 9
  | airAttackGround => 10
  | attack => 11

def wireVersion : DoNSaveOrderPayloadTag → UInt8
  | none => 0
  | _ => 1

lemma fromRaw_eq_some_iff {byte : UInt8} {tag : DoNSaveOrderPayloadTag} :
    fromRaw byte = some tag ↔ byte = tag.raw := by
  constructor
  · intro h
    unfold fromRaw at h
    split at h <;> cases h
    all_goals exact UInt8.toNat_inj.1 (by assumption)
  · rintro rfl
    cases tag <;> rfl

lemma raw_injective : Function.Injective raw := by
  intro tag tag' h
  exact Option.some.inj ((fromRaw_eq_some_iff.2 rfl).symm.trans (fromRaw_eq_some_iff.2 h))

end DoNSaveOrderPayloadTag

inductive SpecialAnimType where
  | enter | exit | unit
  deriving DecidableEq

namespace SpecialAnimType

def fromRaw (value : Int32) : Option SpecialAnimType :=
  if value = 0 then some enter
  else if value = 1 then some exit
  else if value = 2 then some unit
  else none

/-- `special_type as i32`. -/
def raw : SpecialAnimType → Int32
  | enter => 0
  | exit => 1
  | unit => 2

lemma fromRaw_eq_some_iff {value : Int32} {ty : SpecialAnimType} :
    fromRaw value = some ty ↔ value = ty.raw := by
  constructor
  · intro h
    unfold fromRaw at h
    split at h
    · cases h
      assumption
    split at h
    · cases h
      assumption
    split at h
    · cases h
      assumption
    · cases h
  · rintro rfl
    cases ty <;> rfl

end SpecialAnimType

/-! ## The record -/

structure Handle where
  id : UInt32
  generation : UInt32
  deriving DecidableEq

structure MoveOrderState where
  angle : Int32
  dest : Int32
  pause : Int32
  retry : Int32
  attempts : Int32
  timer : Int32
  facing : Int32
  destX : Int32
  destY : Int32
  lastX : Int32
  lastY : Int32
  collX : Int32
  collY : Int32
  origX : Int32
  origY : Int32
  offX : Int16
  offY : Int16
  groupOxx : Int32
  groupWhose : Int32
  groupId : Int32
  groupFormId : Int32
  groupAngle : Int32
  inGroup : Int32
  deriving DecidableEq

structure AttackOrderState where
  defX : Int32
  defY : Int32
  mandatory : UInt8
  defensive : UInt8
  inRange : UInt8
  everInRange : UInt8
  newOrd : UInt8
  deriving DecidableEq

structure AttackGroundOrderState where
  attX : Int32
  attY : Int32
  accuracy : Int32
  attackUnit : Int32
  deriving DecidableEq

structure GuardIdentity where
  o : Int32
  who : Int32
  uid : UInt16
  deriving DecidableEq

structure GuardOrderState where
  target : GuardIdentity
  dx : Int32
  dy : Int32
  guardX : Int32
  guardY : Int32
  idle : Int32
  retry : Int32
  deriving DecidableEq

structure FollowOrderPayload where
  ox : Int32
  whom : Int32
  uid : UInt16
  oxx : Int32
  whose : Int32
  uid2 : UInt16
  deriving DecidableEq

structure SpecialAnimOrderState where
  specialType : SpecialAnimType
  started : Int32
  frames : Int32
  data1 : Int32
  data2 : Int32
  data3 : Int32
  data4 : Int32
  ox : Int32
  whom : Int32
  deriving DecidableEq

structure FormOrderState where
  angle : Int32
  newForm : Int32
  delay : Int32
  deriving DecidableEq

structure WalkedCoordArray where
  increment : Int16
  flags : UInt8
  values : List Int32
  deriving DecidableEq

structure AirOrderPayload where
  homeO : Int32
  homeWho : Int32
  cruisingAlt : Int32
  sharpTurn : Int32
  old : Int32
  returning : Int32
  deriving DecidableEq

structure AirPatrolOrderPayload where
  x : WalkedCoordArray
  y : WalkedCoordArray
  waypoint : Int32
  air : AirOrderPayload
  deriving DecidableEq

structure AirOrderWalk where
  oxx : Int32
  whose : Int32
  cruisingAlt : Int32
  sharpTurn : Int32
  old : Int32
  returning : Int32
  deriving DecidableEq

structure StrafeOrder where
  targetO : Int32
  targetWho : Int32
  targetUid : UInt16
  defX : Int32
  defY : Int32
  mandatory : UInt8
  defensive : UInt8
  inRange : UInt8
  everInRange : UInt8
  newOrd : UInt8
  air : AirOrderWalk
  xx : Int32
  yy : Int32
  deriving DecidableEq

structure StableTargetIdentity where
  o : Int32
  who : Int32
  uid : UInt16
  handle : Option Handle
  deriving DecidableEq

structure GatherOrderPayload where
  tx : Int32
  ty : Int32
  buildType : Int32
  wait : Int32
  gotoBuild : UInt8
  nonFlatGather : UInt8
  distMod : UInt8
  beenThere : UInt8
  deriving DecidableEq

structure CastOrderPayload where
  paid : Int32
  spell : Int32
  deriving DecidableEq

structure TradeOrderPayload where
  second : StableTargetIdentity
  started : Int32
  loaded : Int32
  deriving DecidableEq

inductive EconomyOrderPayload where
  | targetOnly
  | gather (payload : GatherOrderPayload)
  | castSpell (payload : CastOrderPayload)
  | tradeRoute (payload : TradeOrderPayload)
  deriving DecidableEq

structure Order where
  nodeMetric : UInt8
  kind : OrderIndex
  flags : UInt8
  x : Int32
  y : Int32
  targetWho : Int8
  targetO : Int16
  targetUid : UInt16
  targetHandle : Option Handle
  attack : Option AttackOrderState
  tolerance : Int32
  moveState : Option MoveOrderState
  follow : Option FollowOrderPayload
  specialAnim : Option SpecialAnimOrderState
  formOrder : Option FormOrderState
  airPatrol : Option AirPatrolOrderPayload
  strafe : Option StrafeOrder
  guard : Option GuardOrderState
  attackGround : Option AttackGroundOrderState
  economy : Option EconomyOrderPayload
  deriving DecidableEq

/-! ## Errors and versions -/

inductive SaveError where
  | unsupported (what : String)
  | invalid (what : String)
  | limit (what : String)
  deriving DecidableEq

/-- What every read past the end returns. -/
def truncated (_ _ : Nat) : SaveError :=
  .invalid "truncated payload"

abbrev readBool : Reader SaveError Bool :=
  Reader.flag truncated (.invalid "non-canonical bool")

def handleText (handle : Handle) : Bytes :=
  [u32ToLe handle.id, u32ToLe handle.generation].flatten

def typedOrderFormatVersion : Nat := 12

def orderNodeMetricFormatVersion : Nat := 13

def donSaveV13 : Nat := 13

/-- The version that is written now. -/
def formatVersion : Nat := 23

end Don.Sim.Save
