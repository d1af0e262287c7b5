import Don.Sim.Save.OrderShape

/-!
# Save.OrderExact — the order codec is a bijection

Every part of an order is read from exactly the bytes that are written for it, so the reader returns
exactly the storable orders, each from its own text: the codec is a bijection between the orders the
writer accepts and the byte strings the reader accepts.
-/

namespace Don.Sim.Save

open Foundation Reader Payload

/-! ## The parts -/

lemma readKind_reads : Reads readKind (fun _ => True) (fun kind => [UInt8.ofNat kind.index]) := by
  intro b kind rest
  simp only [readKind, bind_ok_iff, u8_ok_iff, Reader.okOr_ok_iff,
    OrderIndex.fromIndex_eq_some_iff, true_and]
  constructor
  · rintro ⟨_, _, rfl, rfl, rfl⟩
    rfl
  · rintro rfl
    exact ⟨_, rest, rfl, rfl, rfl⟩

lemma readHandle_reads : Reads readHandle (fun _ => True) handleText := by
  refine .always .u32 fun id => ?_
  refine .always .u32 fun generation => ?_
  refine .record ?_
  rintro ⟨⟩
  simp only [true_and, Handle.mk.injEq]

lemma readSpecialType_reads :
    Reads readSpecialType (fun _ => True) (fun ty => i32ToLe ty.raw) := by
  intro b ty rest
  simp only [readSpecialType, bind_ok_iff, Reads.i32.ok_iff, Reader.okOr_ok_iff,
    SpecialAnimType.fromRaw_eq_some_iff, true_and]
  constructor
  · rintro ⟨_, _, rfl, rfl, rfl⟩
    rfl
  · rintro rfl
    exact ⟨_, rest, rfl, rfl, rfl⟩

lemma readSpecialAnim_reads : Reads readSpecialAnim (fun _ => True) specialAnimText := by
  refine .always readSpecialType_reads fun specialType => ?_
  refine .always .i32 fun started => ?_
  refine .always .i32 fun frames => ?_
  refine .always .i32 fun data1 => ?_
  refine .always .i32 fun data2 => ?_
  refine .always .i32 fun data3 => ?_
  refine .always .i32 fun data4 => ?_
  refine .always .i32 fun ox => ?_
  refine .always .i32 fun whom => ?_
  refine .record ?_
  rintro ⟨⟩
  simp only [true_and, and_assoc, SpecialAnimOrderState.mk.injEq]

lemma readFormOrder_reads : Reads readFormOrder (fun _ => True) formOrderText := by
  refine .always .i32 fun angle => ?_
  refine .always .i32 fun newForm => ?_
  refine .always .i32 fun delay => ?_
  refine .record ?_
  rintro ⟨⟩
  simp only [true_and, and_assoc, FormOrderState.mk.injEq]

lemma readFollow_reads : Reads readFollow (fun _ => True) followText := by
  refine .always .i32 fun ox => ?_
  refine .always .i32 fun whom => ?_
  refine .always .u16 fun uid => ?_
  refine .always .i32 fun oxx => ?_
  refine .always .i32 fun whose => ?_
  refine .always .u16 fun uid2 => ?_
  refine .record ?_
  rintro ⟨⟩
  simp only [true_and, and_assoc, FollowOrderPayload.mk.injEq]

lemma readMove_reads : Reads readMove (fun _ => True) moveText := by
  refine .always .i32 fun angle => ?_
  refine .always .i32 fun dest => ?_
  refine .always .i32 fun pause => ?_
  refine .always .i32 fun retry => ?_
  refine .always .i32 fun attempts => ?_
  refine .always .i32 fun timer => ?_
  refine .always .i32 fun facing => ?_
  refine .always .i32 fun destX => ?_
  refine .always .i32 fun destY => ?_
  refine .always .i32 fun lastX => ?_
  refine .always .i32 fun lastY => ?_
  refine .always .i32 fun collX => ?_
  refine .always .i32 fun collY => ?_
  refine .always .i32 fun origX => ?_
  refine .always .i32 fun origY => ?_
  refine .always .i16 fun offX => ?_
  refine .always .i16 fun offY => ?_
  refine .always .i32 fun groupOxx => ?_
  refine .always .i32 fun groupWhose => ?_
  refine .always .i32 fun groupId => ?_
  refine .always .i32 fun groupFormId => ?_
  refine .always .i32 fun groupAngle => ?_
  refine .always .i32 fun inGroup => ?_
  refine .record ?_
  rintro ⟨⟩
  simp only [true_and, and_assoc, MoveOrderState.mk.injEq]

lemma readGuard_reads : Reads readGuard (fun _ => True) guardText := by
  refine .always .i32 fun o => ?_
  refine .always .i32 fun who => ?_
  refine .always .u16 fun uid => ?_
  refine .always .i32 fun dx => ?_
  refine .always .i32 fun dy => ?_
  refine .always .i32 fun guardX => ?_
  refine .always .i32 fun guardY => ?_
  refine .always .i32 fun idle => ?_
  refine .always .i32 fun retry => ?_
  refine .record ?_
  rintro ⟨⟨⟩, _⟩
  simp only [true_and, and_assoc, GuardOrderState.mk.injEq, GuardIdentity.mk.injEq]

lemma readAttackGround_reads : Reads readAttackGround (fun _ => True) attackGroundText := by
  refine .always .i32 fun attX => ?_
  refine .always .i32 fun attY => ?_
  refine .always .i32 fun accuracy => ?_
  refine .always .i32 fun attackUnit => ?_
  refine .record ?_
  rintro ⟨⟩
  simp only [true_and, and_assoc, AttackGroundOrderState.mk.injEq]

lemma readAttack_reads : Reads readAttack (fun _ => True) attackText := by
  refine .always .i32 fun defX => ?_
  refine .always .i32 fun defY => ?_
  refine .always .u8 fun mandatory => ?_
  refine .always .u8 fun defensive => ?_
  refine .always .u8 fun inRange => ?_
  refine .always .u8 fun everInRange => ?_
  refine .always .u8 fun newOrd => ?_
  refine .record ?_
  rintro ⟨⟩
  simp only [true_and, and_assoc, AttackOrderState.mk.injEq]

/-! ## The envelope -/

variable {version : Nat} {payloadVersion : UInt8} {b rest : Bytes} {q : Payloads}

lemma fromV13_ok_iff (hversion : donSaveV13 ≤ version) {read : Reader SaveError Payloads} :
    fromV13 version payloadVersion read b = .ok (q, rest) ↔
      payloadVersion = 1 ∧ read b = .ok (q, rest) := by
  have h13 : orderNodeMetricFormatVersion ≤ version := hversion
  by_cases h : payloadVersion = 1 <;> simp [fromV13, h13, h]

variable {order : Order}

section

variable (hversion : donSaveV13 ≤ version)
include hversion

lemma readEconomyTagged_ok_iff {tag : DoNSaveOrderPayloadTag} :
    readEconomyTagged version order tag payloadVersion b = .ok (q, rest) ↔
      payloadVersion = 1 ∧ ∃ payload, q = (Payload.economy payload).slots ∧
        (Payload.economy payload).Fits order ∧ tag = payload.tag.shared ∧ payload.tag.version = 1 ∧
        b = payload.suffix ++ rest := by
  by_cases h : payloadVersion = 1
  · simp only [readEconomyTagged, h, hversion, and_self, if_true, bind_ok_iff,
      readEconomyPayload_ok_iff, pure_ok_iff, true_and]
    constructor
    · rintro ⟨payload, _, ⟨hvalid, htag, hone, rfl⟩, rfl, rfl⟩
      exact ⟨payload, rfl, hvalid, htag, hone.symm, rfl⟩
    · rintro ⟨payload, rfl, hvalid, htag, hone, rfl⟩
      exact ⟨payload, rest, ⟨hvalid, htag, hone.symm, rfl⟩, rfl, rfl⟩
  · simp [readEconomyTagged, h]

lemma readUntagged_ok_iff : readUntagged version order b = .ok (q, rest) ↔
      ∃ p : Payload, q = p.slots ∧ p.Fits order ∧ p.tag = .none ∧ b = p.body ++ rest := by
  have h13 : orderNodeMetricFormatVersion ≤ version := hversion
  simp only [readUntagged, h13, hversion, true_and, bind_ok_iff, Reader.refuse_ok_iff,
    Bool.not_eq_true]
  constructor
  · rintro ⟨_, _, ⟨hmove, rfl⟩, _, _, ⟨hair, rfl⟩, _, _, ⟨hstrafe, rfl⟩, h⟩
    by_cases hkind : orderKindCarriesEconomyPayload order.kind = true
    · simp only [hkind, if_true, bind_ok_iff, readEconomyPayload_ok_iff,
        pure_ok_iff] at h
      obtain ⟨payload, _, ⟨hvalid, htag, -, rfl⟩, rfl, rfl⟩ := h
      exact ⟨.economy payload, rfl, hvalid, htag.symm, rfl⟩
    · simp only [hkind, Bool.false_eq_true, if_false, pure_ok_iff] at h
      obtain ⟨rfl, rfl⟩ := h
      exact ⟨.bare, rfl, ⟨hmove, by simpa using hkind, hair, hstrafe⟩, rfl, rfl⟩
  · rintro ⟨p, rfl, hfits, htag, rfl⟩
    cases p with
    | bare =>
      obtain ⟨hmove, hkind, hair, hstrafe⟩ := hfits
      refine ⟨(), rest, ⟨hmove, rfl⟩, (), rest, ⟨hair, rfl⟩, (), rest, ⟨hstrafe, rfl⟩, ?_⟩
      simp [hkind, Payload.slots]
    | economy payload =>
      have hkind := carriesEconomy_of_validate hfits
      obtain ⟨hmove, hair, hstrafe⟩ := economy_not_move hkind
      refine ⟨(), _, ⟨hmove, rfl⟩, (), _, ⟨hair, rfl⟩, (), _, ⟨hstrafe, rfl⟩, ?_⟩
      simp only [hkind, if_true, bind_ok_iff, readEconomyPayload_ok_iff,
        pure_ok_iff]
      refine ⟨payload, rest, ⟨hfits, htag.symm, ?_, rfl⟩, rfl, rfl⟩
      cases payload with
      | targetOnly => rfl
      | _ => cases htag
    | _ => cases htag

/-- A payload that is read only on an order of its kind. -/
lemma fromV13_kind_ok_iff {kind : OrderIndex} {e : SaveError} {read : Unit → Reader SaveError Payloads} :
    fromV13 version payloadVersion (refuse (order.kind ≠ kind) e >>= read) b = .ok (q, rest) ↔
      payloadVersion = 1 ∧ order.kind = kind ∧ read () b = .ok (q, rest) := by
  simp [fromV13_ok_iff hversion, bind_ok_iff, and_assoc, Unique.exists_iff]

lemma readTagged_sound {tag : DoNSaveOrderPayloadTag}
    (h : readTagged version order payloadVersion tag b = .ok (q, rest)) :
    ∃ p : Payload, q = p.slots ∧ p.Fits order ∧ p.tag = tag ∧
      payloadVersion = tag.wireVersion ∧ b = p.body ++ rest := by
  have heconomy : ∀ tag : DoNSaveOrderPayloadTag, tag.wireVersion = 1 →
      readEconomyTagged version order tag payloadVersion b = .ok (q, rest) →
      ∃ p : Payload, q = p.slots ∧ p.Fits order ∧ p.tag = tag ∧
        payloadVersion = tag.wireVersion ∧ b = p.body ++ rest := by
    intro tag hone h
    obtain ⟨rfl, payload, rfl, hfits, rfl, -, rfl⟩ := (readEconomyTagged_ok_iff hversion).1 h
    exact ⟨.economy payload, rfl, hfits, rfl, hone.symm, rfl⟩
  cases tag with
  | none =>
    simp only [readTagged] at h
    split at h
    · rename_i hzero
      obtain ⟨p, rfl, hfits, htag, rfl⟩ := (readUntagged_ok_iff hversion).1 h
      exact ⟨p, rfl, hfits, htag, hzero, rfl⟩
    · simp at h
  | move =>
    simp only [readTagged] at h
    split at h
    · rename_i hone
      simp only [bind_ok_iff, Reader.refuse_ok_iff, readMove_reads.ok_iff, true_and,
        pure_ok_iff, not_not] at h
      obtain ⟨_, _, ⟨hmove, rfl⟩, state, _, rfl, rfl, rfl⟩ := h
      exact ⟨.move state, rfl, hmove, rfl, hone, rfl⟩
    · simp at h
  | gather => exact heconomy .gather rfl h
  | castSpell => exact heconomy .castSpell rfl h
  | tradeRoute => exact heconomy .tradeRoute rfl h
  | airPatrol =>
    simp only [readTagged, fromV13_kind_ok_iff hversion, bind_ok_iff, readAirPatrol_ok_iff,
      pure_ok_iff] at h
    obtain ⟨hone, hkind, payload, _, ⟨hstorable, rfl⟩, rfl, rfl⟩ := h
    exact ⟨.airPatrol payload, rfl, ⟨hkind, hstorable⟩, rfl, hone, rfl⟩
  | strafe =>
    simp only [readTagged, fromV13_kind_ok_iff hversion, bind_ok_iff, readStrafe_ok_iff,
      pure_ok_iff] at h
    obtain ⟨hone, hkind, payload, _, ⟨htarget, hvalid, rfl⟩, rfl, rfl⟩ := h
    refine ⟨.strafe payload, rfl, ⟨hkind, hvalid, ?_⟩, rfl, hone, rfl⟩
    obtain ⟨ho, hwho, huid⟩ := StrafeTargetIdentity.mk.inj htarget
    rw [ho, hwho, huid]
    rfl
  | guard =>
    simp only [readTagged, fromV13_kind_ok_iff hversion, bind_ok_iff, readGuard_reads.ok_iff,
      Reader.refuse_ok_iff, true_and, pure_ok_iff, not_not] at h
    obtain ⟨hone, hkind, payload, _, rfl, _, _, ⟨htarget, rfl⟩, rfl, rfl⟩ := h
    exact ⟨.guard payload, rfl, ⟨hkind, htarget.symm⟩, rfl, hone, rfl⟩
  | attackGround =>
    simp only [readTagged, fromV13_kind_ok_iff hversion, bind_ok_iff, readAttackGround_reads.ok_iff,
      Reader.refuse_ok_iff, true_and, pure_ok_iff, not_not] at h
    obtain ⟨hone, hkind, payload, _, rfl, _, _, ⟨hplace, rfl⟩, rfl, rfl⟩ := h
    exact ⟨.attackGround payload, rfl, ⟨hkind, hplace⟩, rfl, hone, rfl⟩
  | attack =>
    simp only [readTagged, fromV13_kind_ok_iff hversion, bind_ok_iff, readAttack_reads.ok_iff,
      true_and, pure_ok_iff] at h
    obtain ⟨hone, hkind, payload, _, rfl, rfl, rfl⟩ := h
    exact ⟨.attack payload, rfl, hkind, rfl, hone, rfl⟩
  | groupPatrol | airAttackGround => simp [readTagged] at h

lemma readTagged_complete {p : Payload} (hfits : p.Fits order) (rest : Bytes) :
    readTagged version order p.tag.wireVersion p.tag (p.body ++ rest) = .ok (p.slots, rest) := by
  cases p with
  | bare =>
    exact (readUntagged_ok_iff hversion).2 ⟨.bare, rfl, hfits, rfl, rfl⟩
  | economy payload =>
    have htagged : payload.tag.version = 1 →
        readEconomyTagged version order payload.tag.shared 1 (payload.suffix ++ rest)
          = .ok ((Payload.economy payload).slots, rest) := fun hone =>
      (readEconomyTagged_ok_iff hversion).2 ⟨rfl, payload, rfl, hfits, rfl, hone, rfl⟩
    cases payload with
    | targetOnly =>
      exact (readUntagged_ok_iff hversion).2 ⟨.economy .targetOnly, rfl, hfits, rfl, rfl⟩
    | gather => exact htagged rfl
    | castSpell => exact htagged rfl
    | tradeRoute => exact htagged rfl
  | move state =>
    have hmove : orderKindCarriesMoveState order.kind = true := hfits
    simp only [readTagged, Payload.tag, DoNSaveOrderPayloadTag.wireVersion, ↓reduceIte,
      bind_ok_iff, Reader.refuse_ok_iff, readMove_reads.ok_iff, pure_ok_iff,
      true_and, not_not]
    exact ⟨(), _, ⟨hmove, rfl⟩, state, rest, rfl, rfl, rfl⟩
  | airPatrol payload =>
    refine (fromV13_kind_ok_iff hversion).2 ⟨rfl, hfits.1, ?_⟩
    exact bind_ok_iff.2 ⟨payload, rest, readAirPatrol_ok_iff.2 ⟨hfits.2, rfl⟩, rfl⟩
  | strafe payload =>
    obtain ⟨hkind, hvalid, htarget⟩ := hfits
    refine (fromV13_kind_ok_iff hversion).2 ⟨rfl, hkind, ?_⟩
    refine bind_ok_iff.2 ⟨payload, rest, readStrafe_ok_iff.2 ⟨?_, hvalid, rfl⟩, rfl⟩
    simp only [Order.headerTarget, Prod.mk.injEq] at htarget
    rw [StrafeOrder.targetIdentity, htarget.1, htarget.2.1, htarget.2.2]
  | guard payload =>
    refine (fromV13_kind_ok_iff hversion).2 ⟨rfl, hfits.1, ?_⟩
    refine bind_ok_iff.2 ⟨payload, rest, readGuard_reads.ok_iff.2 ⟨trivial, rfl⟩, ?_⟩
    exact bind_ok_iff.2 ⟨(), rest, Reader.refuse_ok_iff.2 ⟨not_not.2 hfits.2.symm, rfl⟩, rfl⟩
  | attackGround payload =>
    refine (fromV13_kind_ok_iff hversion).2 ⟨rfl, hfits.1, ?_⟩
    refine bind_ok_iff.2 ⟨payload, rest, readAttackGround_reads.ok_iff.2 ⟨trivial, rfl⟩, ?_⟩
    exact bind_ok_iff.2 ⟨(), rest, Reader.refuse_ok_iff.2 ⟨not_not.2 hfits.2, rfl⟩, rfl⟩
  | attack payload =>
    refine (fromV13_kind_ok_iff hversion).2 ⟨rfl, hfits, ?_⟩
    exact bind_ok_iff.2 ⟨payload, rest, readAttack_reads.ok_iff.2 ⟨trivial, rfl⟩, rfl⟩

lemma readEnvelope_ok_iff : readEnvelope version order b = .ok (q, rest) ↔
      q = q.shape.slots ∧ q.shape.Fits order ∧ b = q.shape.text ++ rest := by
  have h12 : typedOrderFormatVersion ≤ version := Nat.le_trans (by decide) hversion
  simp only [readEnvelope, h12, if_true, readTyped, bind_ok_iff, u8_ok_iff,
    Reader.okOr_ok_iff, DoNSaveOrderPayloadTag.fromRaw_eq_some_iff]
  constructor
  · rintro ⟨_, _, rfl, tag, _, ⟨rfl, rfl⟩, _, _, rfl, h⟩
    obtain ⟨p, rfl, hfits, rfl, rfl, rfl⟩ := readTagged_sound hversion h
    rw [p.shape_slots]
    exact ⟨rfl, hfits, rfl⟩
  · rintro ⟨hslots, hfits, rfl⟩
    refine ⟨_, _, rfl, q.shape.tag, _, ⟨rfl, rfl⟩, _, _, rfl, ?_⟩
    exact (readTagged_complete hversion hfits rest).trans (by rw [← hslots])

/-! ## The order -/

end

lemma Payload.fits_congr {p : Payload} {o o' : Order} (h : o.economyHeader = o'.economyHeader) :
    p.Fits o ↔ p.Fits o' := by
  have hparts := h
  simp only [Order.economyHeader, EconomyOrderHeader.mk.injEq, StableTargetIdentity.mk.injEq]
    at hparts
  obtain ⟨hkind, -, hx, hy, ho, hwho, huid, -⟩ := hparts
  cases p <;> simp only [Fits, Order.headerTarget, h, hkind, hx, hy, ho, hwho, huid]

lemma readOrder_reads (hversion : donSaveV13 ≤ version) :
    Reads (readOrder version) (fun o => o.nodeMetric = 0 ∧ o.Storable)
      (fun o => (orderParts o).flatten) := by
  have hbool : Reads readBool (fun _ => True) flagText := Reads.flag
  refine .always readKind_reads fun kind => ?_
  refine .always .u8 fun flags => ?_
  refine .always .i32 fun x => ?_
  refine .always .i32 fun y => ?_
  refine .always .i8 fun targetWho => ?_
  refine .always .i16 fun targetO => ?_
  refine .always .u16 fun targetUid => ?_
  refine .always (.optional hbool readHandle_reads) fun targetHandle => ?_
  refine .always .i32 fun tolerance => ?_
  refine .always (.optional hbool readSpecialAnim_reads) fun specialAnim => ?_
  refine .always (.optional hbool readFormOrder_reads) fun formOrder => ?_
  refine .always (.optional hbool readFollow_reads) fun follow => ?_
  -- the header is known; what is left are the payload fields
  change Reads _ _ (fun o : Order => [o.payloads.shape.text].flatten)
  intro b o rest
  simp only [bind_ok_iff, readEnvelope_ok_iff hversion, Reader.refuse_ok_iff,
    pure_ok_iff, Bool.not_eq_true, List.flatten_cons, List.flatten_nil, List.append_nil]
  constructor
  · rintro ⟨q, _, ⟨hslots, hfits, rfl⟩, _, _, ⟨hangle, rfl⟩, rfl, rfl⟩
    refine ⟨?_, rfl⟩
    simp only [Order.withPayloads, and_true, true_and]
    exact ⟨hslots, (Payload.fits_congr rfl).1 hfits, hangle⟩
  · obtain ⟨_, _, _, _, _, _, _, _, _, _, _, _, _, _, _, _, _, _, _, _⟩ := o
    intro h
    simp only [and_assoc] at h
    obtain ⟨rfl, ⟨hslots, hfits, hangle⟩, rfl, rfl, rfl, rfl, rfl, rfl, rfl, rfl, rfl, rfl, rfl,
      rfl, rfl⟩ := h
    exact ⟨_, rest, ⟨hslots, (Payload.fits_congr rfl).1 hfits, rfl⟩, (), rest, ⟨hangle, rfl⟩, rfl,
      rfl⟩

lemma readOrderNode_ok_iff (hversion : donSaveV13 ≤ version) {o : Order} :
    readOrderNode version b = .ok (o, rest) ↔
      o.Storable ∧ b = o.nodeMetric :: (orderParts o).flatten ++ rest := by
  have h13 : orderNodeMetricFormatVersion ≤ version := hversion
  simp only [readOrderNode, readMetric, h13, if_true, bind_ok_iff, u8_ok_iff,
    (readOrder_reads hversion).ok_iff, pure_ok_iff]
  constructor
  · rintro ⟨metric, _, rfl, order, _, ⟨⟨-, hslots, hfits, hangle⟩, rfl⟩, rfl, rfl⟩
    exact ⟨⟨hslots, (fits_congr rfl).1 hfits, hangle⟩, rfl⟩
  · rintro ⟨⟨hslots, hfits, hangle⟩, rfl⟩
    exact ⟨o.nodeMetric, _, rfl, { o with nodeMetric := 0 }, rest,
      ⟨⟨rfl, hslots, (fits_congr rfl).1 hfits, hangle⟩, rfl⟩, rfl, rfl⟩

/-- **Order node codec.**  At the current version the reader returns `o` and leaves `rest` exactly
when the stream is a text that the writer produces for `o`, followed by `rest`.  Right to left, an
order that was written is read back from its own bytes and no others; left to right, what was read
is written back as the bytes that were consumed. -/
theorem order_node_codec_exact (stream rest : Bytes) (o : Order) :
    readOrderNode formatVersion stream = .ok (o, rest) ↔
      ∃ text, writeOrderNode o formatVersion = .ok text ∧ stream = text ++ rest := by
  have hversion : donSaveV13 ≤ formatVersion := by decide
  rw [readOrderNode_ok_iff hversion]
  simp only [writeOrderNode, except_bind_ok_iff, except_pure_ok_iff, writeOrder_ok_iff hversion]
  constructor
  · rintro ⟨hstorable, rfl⟩
    exact ⟨_, ⟨_, ⟨hstorable, rfl⟩, rfl⟩, rfl⟩
  · rintro ⟨_, ⟨_, ⟨hstorable, rfl⟩, rfl⟩, rfl⟩
    exact ⟨hstorable, rfl⟩

end Don.Sim.Save
