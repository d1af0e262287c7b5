import Don.Sim.Save.Order

/-!
# Save.Flight — the payloads of the air patrol and of the strafing run

An air patrol carries two coordinate arrays of one length and the state of its flight; a strafing
run has a fixed size and takes its target from the header of the order.
-/

namespace Don.Sim.Save

open Foundation AirPatrolOrderPayload Reads List

/-! ## Air patrol -/

inductive AirRuntimeAuthorityError where
  | pointCountLimit (count : Nat)
  | pointCountOutOfRange (count : Nat)
  | waypointArrayLengthMismatch (x y : Nat)
  | emptyPatrolRoute
  | unnormalizedArrayFlags (flags : UInt8)
  | incoherentHomeAddress
  deriving DecidableEq

def maxDecodedPatrolPoints : Nat := 2 ^ 20

def WalkedCoordArray.validate (array : WalkedCoordArray) : Except AirRuntimeAuthorityError Unit :=
  refuse (array.flags &&& 0x40 ≠ 0) (.unnormalizedArrayFlags array.flags)

def AirPatrolOrderPayload.validate (payload : AirPatrolOrderPayload) :
    Except AirRuntimeAuthorityError Unit := do
  payload.x.validate
  payload.y.validate
  refuse (payload.x.values.length ≠ payload.y.values.length)
    (.waypointArrayLengthMismatch payload.x.values.length payload.y.values.length)
  refuse (payload.x.values = []) .emptyPatrolRoute
  refuse (2 ^ 31 ≤ payload.x.values.length) (.pointCountOutOfRange payload.x.values.length)
  refuse (¬ (0 ≤ payload.air.homeO ↔ 0 ≤ payload.air.homeWho)) .incoherentHomeAddress

/-- The image of an array: its length, its growth step, its flags and its values. -/
def coordArrayText (array : WalkedCoordArray) : Bytes :=
  [u32ToLe (UInt32.ofNat array.values.length), i16ToLe array.increment, [array.flags],
    array.values.flatMap i32ToLe].flatten

def writeCoordArray (array : WalkedCoordArray) : Except AirRuntimeAuthorityError Bytes := do
  array.validate
  refuse (maxDecodedPatrolPoints < array.values.length) (.pointCountLimit array.values.length)
  refuse (2 ^ 32 ≤ array.values.length) (.pointCountOutOfRange array.values.length)
  return coordArrayText array

/-- `AirOrderPayload::append_bytes`. -/
def airOrderText (air : AirOrderPayload) : Bytes :=
  [i32ToLe air.homeO, i32ToLe air.homeWho, i32ToLe air.cruisingAlt, i32ToLe air.sharpTurn,
    i32ToLe air.old, i32ToLe air.returning].flatten

def encodeAirPatrolLeaf (payload : AirPatrolOrderPayload) :
    Except AirRuntimeAuthorityError Bytes := do
  payload.validate
  let x ← writeCoordArray payload.x
  let y ← writeCoordArray payload.y
  return 6 :: 1 :: (x ++ (y ++ (i32ToLe payload.waypoint ++ airOrderText payload.air)))

def mapAirPatrolSaveError : AirRuntimeAuthorityError → SaveError
  | .pointCountLimit _ | .pointCountOutOfRange _ => .limit "AIR_PATROL waypoint count"
  | _ => .invalid "invalid AIR_PATROL payload"

/-- The number of entries that follow, refused above `max`. -/
def readLen (max : Nat) (what : String) : Reader SaveError Nat := do
  let n ← Reader.u32 truncated
  refuse (max < n.toNat) (.limit what)
  return n.toNat

def readAirPatrolCoordArray : Reader SaveError WalkedCoordArray := do
  let len ← readLen maxDecodedPatrolPoints "AIR_PATROL waypoint count"
  let increment ← Reader.i16 truncated
  let flags ← Reader.u8 truncated
  let values ← Reader.times (Reader.i32 truncated) len
  return { increment := increment, flags := flags, values := values }

def readAirOrder : Reader SaveError AirOrderPayload := do
  let homeO ← Reader.i32 truncated
  let homeWho ← Reader.i32 truncated
  let cruisingAlt ← Reader.i32 truncated
  let sharpTurn ← Reader.i32 truncated
  let old ← Reader.i32 truncated
  let returning ← Reader.i32 truncated
  return {
    homeO := homeO, homeWho := homeWho, cruisingAlt := cruisingAlt, sharpTurn := sharpTurn,
    old := old, returning := returning }

def readAirPatrolFields : Reader SaveError AirPatrolOrderPayload := do
  let x ← readAirPatrolCoordArray
  let y ← readAirPatrolCoordArray
  let waypoint ← Reader.i32 truncated
  let air ← readAirOrder
  return { x := x, y := y, waypoint := waypoint, air := air }

def readAirPatrol : Reader SaveError AirPatrolOrderPayload := do
  let payload ← readAirPatrolFields
  liftM (payload.validate.mapError mapAirPatrolSaveError)
  return payload

/-! ### Both sides accept the same patrols -/

def AirPatrolOrderPayload.Storable (payload : AirPatrolOrderPayload) : Prop :=
  payload.validate = .ok () ∧ payload.x.values.length ≤ maxDecodedPatrolPoints ∧
    payload.y.values.length ≤ maxDecodedPatrolPoints

def airPatrolBody (payload : AirPatrolOrderPayload) : Bytes :=
  [coordArrayText payload.x, coordArrayText payload.y, i32ToLe payload.waypoint,
    airOrderText payload.air].flatten

variable {payload : AirPatrolOrderPayload}

lemma validate_arrays (h : payload.validate = .ok ()) :
    payload.x.validate = .ok () ∧ payload.y.validate = .ok () := by
  simp only [validate, except_bind_ok_iff] at h
  obtain ⟨_, hx, _, hy, -⟩ := h
  exact ⟨hx, hy⟩

variable {b : Bytes}

lemma writeCoordArray_ok_iff {array : WalkedCoordArray} : writeCoordArray array = .ok b ↔
      array.validate = .ok () ∧ array.values.length ≤ maxDecodedPatrolPoints ∧
        b = coordArrayText array := by
  simp only [writeCoordArray, except_bind_ok_iff, refuse_ok_iff, except_pure_ok_iff, Nat.not_lt,
    Nat.not_le]
  constructor
  · rintro ⟨_, hvalid, _, hlimit, _, _, rfl⟩
    exact ⟨hvalid, hlimit, rfl⟩
  · rintro ⟨hvalid, hlimit, rfl⟩
    refine ⟨(), hvalid, (), hlimit, (), ?_, rfl⟩
    exact Nat.lt_of_le_of_lt hlimit (by decide)

lemma encodeAirPatrolLeaf_ok_iff : encodeAirPatrolLeaf payload = .ok b ↔
      payload.Storable ∧ b = 6 :: 1 :: airPatrolBody payload := by
  simp only [encodeAirPatrolLeaf, except_bind_ok_iff, writeCoordArray_ok_iff, except_pure_ok_iff,
    Storable]
  constructor
  · rintro ⟨_, hvalid, _, ⟨_, hx, rfl⟩, _, ⟨_, hy, rfl⟩, rfl⟩
    exact ⟨⟨hvalid, hx, hy⟩, by simp [airPatrolBody]⟩
  · rintro ⟨⟨hvalid, hx, hy⟩, rfl⟩
    obtain ⟨hvx, hvy⟩ := validate_arrays hvalid
    exact ⟨(), hvalid, _, ⟨hvx, hx, rfl⟩, _, ⟨hvy, hy, rfl⟩, by simp [airPatrolBody]⟩

variable {rest : Bytes}

lemma readLen_ok_iff {max : Nat} {what : String} {n : Nat} (hmax : max < 2 ^ 32) :
    readLen max what b = .ok (n, rest) ↔ n ≤ max ∧ b = u32ToLe (UInt32.ofNat n) ++ rest :=
  (count hmax).ok_iff

open Reader

lemma readAirPatrolCoordArray_reads : Reads readAirPatrolCoordArray
      (fun array => array.values.length ≤ maxDecodedPatrolPoints) coordArrayText := by
  intro b array rest
  have hvalues := times_ok_iff (Reader.i32 truncated) (fun _ => True) i32ToLe
    (fun b a rest => i32.ok_iff)
  simp only [readAirPatrolCoordArray, bind_ok_iff, pure_ok_iff,
    readLen_ok_iff (show maxDecodedPatrolPoints < 2 ^ 32 by decide), i16.ok_iff,
    u8_ok_iff, hvalues, true_and]
  constructor
  · rintro ⟨_, _, ⟨hle, rfl⟩, increment, _, rfl, flags, _, rfl, values, _, ⟨rfl, _, rfl⟩, rfl, rfl⟩
    exact ⟨hle, by simp [coordArrayText]⟩
  · rintro ⟨hle, rfl⟩
    obtain ⟨increment, flags, values⟩ := array
    refine ⟨values.length, _, ⟨hle, ?_⟩, increment, _, rfl, flags, _, rfl, values, rest,
      ⟨rfl, by simp, rfl⟩, rfl, rfl⟩
    simp [coordArrayText]

lemma readAirOrder_reads : Reads readAirOrder (fun _ => True) airOrderText := by
  refine .always .i32 fun homeO => ?_
  refine .always .i32 fun homeWho => ?_
  refine .always .i32 fun cruisingAlt => ?_
  refine .always .i32 fun sharpTurn => ?_
  refine .always .i32 fun old => ?_
  refine .always .i32 fun returning => ?_
  refine .record ?_
  rintro ⟨⟩
  simp only [true_and, and_assoc, AirOrderPayload.mk.injEq]

lemma readAirPatrolFields_reads : Reads readAirPatrolFields
      (fun payload => payload.x.values.length ≤ maxDecodedPatrolPoints ∧
        payload.y.values.length ≤ maxDecodedPatrolPoints) airPatrolBody := by
  have harray := readAirPatrolCoordArray_reads
  refine Reads.congr ?_ fun payload => and_comm
  refine .field AirPatrolOrderPayload.x harray fun x => Reads.congr ?_ fun payload => and_comm
  refine .field AirPatrolOrderPayload.y harray fun y => ?_
  refine .always .i32 fun waypoint => ?_
  refine .always readAirOrder_reads fun air => ?_
  refine .record ?_
  rintro ⟨⟩
  simp only [and_assoc, AirPatrolOrderPayload.mk.injEq]

lemma readAirPatrol_ok_iff : readAirPatrol b = .ok (payload, rest) ↔
      payload.Storable ∧ b = airPatrolBody payload ++ rest := by
  simp only [readAirPatrol, bind_ok_iff, lift_ok_iff, mapError_ok_iff,
    pure_ok_iff, readAirPatrolFields_reads.ok_iff, Storable]
  constructor
  · rintro ⟨payload, _, ⟨⟨hx, hy⟩, rfl⟩, _, _, ⟨hvalid, rfl⟩, rfl, rfl⟩
    exact ⟨⟨hvalid, hx, hy⟩, rfl⟩
  · rintro ⟨⟨hvalid, hx, hy⟩, rfl⟩
    exact ⟨payload, rest, ⟨⟨hx, hy⟩, rfl⟩, (), rest, ⟨hvalid, rfl⟩, rfl, rfl⟩

/-! ## Strafing run -/

inductive StrafeAuthorityError where
  | wrongPayloadTag (tag : UInt8)
  | wrongPayloadVersion (version : UInt8)
  | truncated
  | trailingBytes (expected actual : Nat)
  | incoherentTargetAddress (o who : Int32)
  | incoherentHomeAddress (o who : Int32)
  | nonCanonicalFlag (field : String) (value : UInt8)
  deriving DecidableEq

structure StrafeTargetIdentity where
  o : Int32
  who : Int32
  uid : UInt16
  deriving DecidableEq

/-- `target_identity`. -/
def StrafeOrder.targetIdentity (order : StrafeOrder) : StrafeTargetIdentity :=
  { o := order.targetO, who := order.targetWho, uid := order.targetUid }

def validatePair (o who : Int32) : Bool :=
  decide (0 ≤ o) == decide (0 ≤ who)

def validateFlag (field : String) (value : UInt8) : Except StrafeAuthorityError Unit :=
  refuse (¬ value ≤ 1) (.nonCanonicalFlag field value)

def validateStrafeOrder (order : StrafeOrder) : Except StrafeAuthorityError Unit := do
  refuse (¬ validatePair order.targetO order.targetWho)
    (.incoherentTargetAddress order.targetO order.targetWho)
  refuse (¬ validatePair order.air.oxx order.air.whose)
    (.incoherentHomeAddress order.air.oxx order.air.whose)
  validateFlag "mandatory" order.mandatory
  validateFlag "defensive" order.defensive
  validateFlag "in_range" order.inRange
  validateFlag "ever_in_range" order.everInRange
  validateFlag "new_ord" order.newOrd

/-- `append_attack_and_air`. -/
def appendAttackAndAir (order : StrafeOrder) : Bytes :=
  [i32ToLe order.defX, i32ToLe order.defY, [order.mandatory], [order.defensive], [order.inRange],
    [order.everInRange], [order.newOrd], i32ToLe order.air.oxx, i32ToLe order.air.whose,
    i32ToLe order.air.cruisingAlt, i32ToLe order.air.sharpTurn, i32ToLe order.air.old,
    i32ToLe order.air.returning, i32ToLe order.xx, i32ToLe order.yy].flatten

def encodeStrafeLeaf (order : StrafeOrder) : Except StrafeAuthorityError Bytes := do
  validateStrafeOrder order
  return 8 :: 1 :: appendAttackAndAir order

def strafeTruncated (_ _ : Nat) : StrafeAuthorityError :=
  .truncated

variable (target : StrafeTargetIdentity)

def readStrafeFields : Reader StrafeAuthorityError StrafeOrder := do
  let defX ← Reader.i32 strafeTruncated
  let defY ← Reader.i32 strafeTruncated
  let mandatory ← Reader.u8 strafeTruncated
  let defensive ← Reader.u8 strafeTruncated
  let inRange ← Reader.u8 strafeTruncated
  let everInRange ← Reader.u8 strafeTruncated
  let newOrd ← Reader.u8 strafeTruncated
  let oxx ← Reader.i32 strafeTruncated
  let whose ← Reader.i32 strafeTruncated
  let cruisingAlt ← Reader.i32 strafeTruncated
  let sharpTurn ← Reader.i32 strafeTruncated
  let old ← Reader.i32 strafeTruncated
  let returning ← Reader.i32 strafeTruncated
  let xx ← Reader.i32 strafeTruncated
  let yy ← Reader.i32 strafeTruncated
  return {
    targetO := target.o, targetWho := target.who, targetUid := target.uid
    defX := defX, defY := defY, mandatory := mandatory, defensive := defensive
    inRange := inRange, everInRange := everInRange, newOrd := newOrd
    air :=
      { oxx := oxx, whose := whose, cruisingAlt := cruisingAlt, sharpTurn := sharpTurn, old := old
        returning }
    xx := xx, yy := yy }

def readStrafeLeaf (size : Nat) :
    Reader StrafeAuthorityError StrafeOrder := do
  let tag ← Reader.u8 strafeTruncated
  refuse (tag ≠ 8) (.wrongPayloadTag tag)
  let version ← Reader.u8 strafeTruncated
  refuse (version ≠ 1) (.wrongPayloadVersion version)
  let order ← readStrafeFields target
  let left ← Reader.remaining
  refuse (left ≠ 0) (.trailingBytes (size - left) size)
  liftM (validateStrafeOrder order)
  return order

def decodeStrafeLeaf (bytes : Bytes) :
    Except StrafeAuthorityError StrafeOrder := do
  let (order, _) ← readStrafeLeaf target bytes.length bytes
  return order

def mapStrafeSaveError (_ : StrafeAuthorityError) : SaveError :=
  .invalid "invalid STRAFE payload"

/-- The body of a strafing run after its tag and version: the leaf is put together again and given
to its decoder. -/
def readStrafe : Reader SaveError StrafeOrder := do
  let body ← Reader.take truncated 45
  liftM ((decodeStrafeLeaf target (8 :: 1 :: body)).mapError mapStrafeSaveError)

/-! ### Both sides accept the same runs -/

variable {order : StrafeOrder}

lemma encodeStrafeLeaf_ok_iff : encodeStrafeLeaf order = .ok b ↔
      validateStrafeOrder order = .ok () ∧ b = 8 :: 1 :: appendAttackAndAir order := by
  simp only [encodeStrafeLeaf, except_bind_ok_iff, except_pure_ok_iff]
  constructor
  · rintro ⟨_, hvalid, rfl⟩
    exact ⟨hvalid, rfl⟩
  · rintro ⟨hvalid, rfl⟩
    exact ⟨(), hvalid, rfl⟩

lemma readStrafeFields_reads :
    Reads (readStrafeFields target) (fun order => order.targetIdentity = target)
      appendAttackAndAir := by
  refine .always .i32 fun defX => ?_
  refine .always .i32 fun defY => ?_
  refine .always .u8 fun mandatory => ?_
  refine .always .u8 fun defensive => ?_
  refine .always .u8 fun inRange => ?_
  refine .always .u8 fun everInRange => ?_
  refine .always .u8 fun newOrd => ?_
  refine .always .i32 fun oxx => ?_
  refine .always .i32 fun whose => ?_
  refine .always .i32 fun cruisingAlt => ?_
  refine .always .i32 fun sharpTurn => ?_
  refine .always .i32 fun old => ?_
  refine .always .i32 fun returning => ?_
  refine .always .i32 fun xx => ?_
  refine .always .i32 fun yy => ?_
  refine .record ?_
  obtain ⟨o, who, uid⟩ := target
  rintro ⟨_, _, _, _, _, _, _, _, _, _, ⟨⟩, _, _⟩
  simp only [and_assoc, StrafeOrder.mk.injEq, StrafeOrder.targetIdentity,
    StrafeTargetIdentity.mk.injEq, AirOrderWalk.mk.injEq]

lemma decodeStrafeLeaf_ok_iff {target : StrafeTargetIdentity} {body : Bytes} :
    decodeStrafeLeaf target (8 :: 1 :: body) = .ok order ↔
      order.targetIdentity = target ∧ validateStrafeOrder order = .ok () ∧
        body = appendAttackAndAir order := by
  simp only [decodeStrafeLeaf, readStrafeLeaf, except_bind_ok_iff, Prod.exists, bind_ok_iff,
    u8_ok_iff, Reader.refuse_ok_iff, (readStrafeFields_reads target).ok_iff,
    remaining_ok_iff, lift_ok_iff, pure_ok_iff, except_pure_ok_iff, not_not]
  constructor
  · rintro ⟨_, _, ⟨_, _, htag, _, _, ⟨_, rfl⟩, _, _, hversion, _, _, ⟨_, rfl⟩, order, left,
      ⟨htarget, hbody⟩, _, _, ⟨rfl, rfl⟩, _, _, ⟨hleft, rfl⟩, _, _, ⟨hvalid, rfl⟩, rfl, rfl⟩, rfl⟩
    obtain ⟨rfl, rfl⟩ := cons.inj htag
    obtain ⟨rfl, rfl⟩ := cons.inj hversion
    rw [length_eq_zero_iff.1 hleft, append_nil] at hbody
    exact ⟨htarget, hvalid, hbody⟩
  · rintro ⟨htarget, hvalid, rfl⟩
    exact ⟨order, [], ⟨8, _, rfl, (), _, ⟨rfl, rfl⟩, 1, _, rfl, (), _, ⟨rfl, rfl⟩, order, [],
      ⟨htarget, by simp⟩, 0, [], ⟨rfl, rfl⟩, (), [], ⟨rfl, rfl⟩, (), [], ⟨hvalid, rfl⟩, rfl, rfl⟩,
      rfl⟩

lemma readStrafe_ok_iff {target : StrafeTargetIdentity} :
    readStrafe target b = .ok (order, rest) ↔
      order.targetIdentity = target ∧ validateStrafeOrder order = .ok () ∧
        b = appendAttackAndAir order ++ rest := by
  simp only [readStrafe, bind_ok_iff, take_ok_iff, lift_ok_iff,
    mapError_ok_iff, decodeStrafeLeaf_ok_iff]
  constructor
  · rintro ⟨body, _, ⟨_, rfl⟩, ⟨htarget, hvalid, rfl⟩, rfl⟩
    exact ⟨htarget, hvalid, rfl⟩
  · rintro ⟨htarget, hvalid, rfl⟩
    exact ⟨appendAttackAndAir order, rest, ⟨rfl, rfl⟩, ⟨htarget, hvalid, rfl⟩, rfl⟩

end Don.Sim.Save
