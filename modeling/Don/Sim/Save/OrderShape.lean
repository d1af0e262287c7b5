import Don.Sim.Save.OrderCodec

/-!
# Save.OrderShape — the orders that can be written

The two sides of the codec spell their checks differently, so both are compared with a third
description: an order carries one `Payload`, which fits its header.  Here the writer is shown to
succeed exactly on such orders.
-/

namespace Don.Sim.Save

open Foundation EconomyOrderNode Option Save.Order

/-! ## What an order may carry -/

inductive Payload where
  | bare
  | move (state : MoveOrderState)
  | economy (payload : EconomyOrderPayload)
  | airPatrol (payload : AirPatrolOrderPayload)
  | strafe (payload : StrafeOrder)
  | guard (payload : GuardOrderState)
  | attackGround (payload : AttackGroundOrderState)
  | attack (payload : AttackOrderState)

namespace Payload

/-- The payload in the field where the order keeps it. -/
def slots : Payload → Payloads
  | bare => {}
  | move state => { moveState := some state }
  | economy payload => { economy := some payload }
  | airPatrol payload => { airPatrol := some payload }
  | strafe payload => { strafe := some payload }
  | guard payload => { guard := some payload }
  | attackGround payload => { attackGround := some payload }
  | attack payload => { attack := some payload }

def tag : Payload → DoNSaveOrderPayloadTag
  | bare => .none
  | move _ => .move
  | economy payload => payload.tag.shared
  | airPatrol _ => .airPatrol
  | strafe _ => .strafe
  | guard _ => .guard
  | attackGround _ => .attackGround
  | attack _ => .attack

def body : Payload → Bytes
  | bare => []
  | move state => moveText state
  | economy payload => payload.suffix
  | airPatrol payload => airPatrolBody payload
  | strafe payload => appendAttackAndAir payload
  | guard payload => guardText payload
  | attackGround payload => attackGroundText payload
  | attack payload => attackText payload

def text (p : Payload) : Bytes :=
  p.tag.raw :: p.tag.wireVersion :: p.body

/-- The payload belongs to the kind of the order and repeats its header. -/
def Fits (o : Order) : Payload → Prop
  | bare => orderKindCarriesMoveState o.kind = false ∧ orderKindCarriesEconomyPayload o.kind = false
      ∧ o.kind ≠ .airPatrol ∧ o.kind ≠ .strafe
  | move _ => orderKindCarriesMoveState o.kind = true
  | economy payload => (EconomyOrderNode.mk 0 o.economyHeader payload).validate = .ok ()
  | airPatrol payload => o.kind = .airPatrol ∧ payload.Storable
  | strafe payload => o.kind = .strafe ∧ validateStrafeOrder payload = .ok ()
      ∧ o.headerTarget = (payload.targetO, payload.targetWho, payload.targetUid)
  | guard payload => o.kind = .guard
      ∧ o.headerTarget = (payload.target.o, payload.target.who, payload.target.uid)
  | attackGround payload => o.kind = .attackGround ∧ (o.x, o.y) = (payload.attX, payload.attY)
  | attack _ => o.kind = .attack

end Payload

def Order.payloads (o : Order) : Payloads :=
  { moveState := o.moveState, airPatrol := o.airPatrol, strafe := o.strafe, guard := o.guard
    attackGround := o.attackGround, attack := o.attack, economy := o.economy }

/-- The first payload that is there. -/
def Payloads.shape (q : Payloads) : Payload :=
  match q.moveState, q.economy, q.airPatrol, q.strafe, q.guard, q.attackGround, q.attack with
  | some state, _, _, _, _, _, _ => .move state
  | none, some payload, _, _, _, _, _ => .economy payload
  | none, none, some payload, _, _, _, _ => .airPatrol payload
  | none, none, none, some payload, _, _, _ => .strafe payload
  | none, none, none, none, some payload, _, _ => .guard payload
  | none, none, none, none, none, some payload, _ => .attackGround payload
  | none, none, none, none, none, none, some payload => .attack payload
  | none, none, none, none, none, none, none => .bare

lemma Payload.shape_slots (p : Payload) : p.slots.shape = p := by
  cases p <;> rfl

/-- An order that can be stored: one payload, fitting the header, and one angle. -/
structure Order.Storable (o : Order) : Prop where
  single : o.payloads = o.payloads.shape.slots
  fits : o.payloads.shape.Fits o
  angle : angleMismatch o.kind o.moveState o.formOrder = false

def orderParts (o : Order) : List Bytes :=
  headerParts o ++ [o.payloads.shape.text]

/-! ## The kinds do not overlap -/

variable {kind : OrderIndex}

lemma carriesEconomy_iff :
    orderKindCarriesEconomyPayload kind = true ↔ (expectedPayloadTag kind).isSome = true := by
  cases kind <;> decide

lemma economy_not_move (h : orderKindCarriesEconomyPayload kind = true) :
    orderKindCarriesMoveState kind = false ∧ kind ≠ .airPatrol ∧ kind ≠ .strafe := by
  cases kind <;> revert h <;> decide

lemma move_not_flight (h : orderKindCarriesMoveState kind = true) :
    orderKindCarriesEconomyPayload kind = false ∧ kind ≠ .airPatrol ∧ kind ≠ .strafe := by
  cases kind <;> revert h <;> decide

lemma carriesEconomy_of_validate {metric : UInt8} {o : Order} {payload : EconomyOrderPayload}
    (h : (mk metric o.economyHeader payload).validate = .ok ()) :
    orderKindCarriesEconomyPayload o.kind = true := by
  have hexpected := expected_of_validate h
  rw [carriesEconomy_iff]
  exact isSome_iff_exists.2 ⟨_, hexpected⟩

/-! ## The writer -/

variable {o : Order}

lemma single_of_counts (hcount : o.typedPayloads ≤ 1)
    (heconomy : o.economy.isSome = true → o.typedPayloads = 0) :
    o.payloads = o.payloads.shape.slots := by
  simp only [payloads]
  simp only [typedPayloads] at hcount heconomy
  generalize o.moveState = m, o.airPatrol = a, o.strafe = s, o.guard = g, o.attackGround = k,
    o.attack = t, o.economy = e at hcount heconomy
  -- two payloads outside the economy make the count two, one beside it makes it one
  rcases m with _ | m <;> rcases a with _ | a <;> rcases s with _ | s <;> rcases g with _ | g <;>
    rcases k with _ | k <;> rcases t with _ | t <;>
    first
    | (simp only [isSome_none, isSome_some, Bool.toNat_true, Bool.toNat_false] at hcount
       omega)
    | (rcases e with _ | e
       · rfl
       · simp at heconomy <;> rfl)

/-- Encoding a part that may be missing, by an encoder with a known domain and text. -/
lemma encodeOptional_ok_iff {ε α β : Type} {encode : α → Except ε β} {ok : α → Prop} {text : α → β}
    (hencode : ∀ a b, encode a = .ok b ↔ ok a ∧ b = text a) {x : Option α} {y : Option β} :
    encodeOptional encode x = .ok y ↔ (∀ a, x = some a → ok a) ∧ y = x.map text := by
  cases x with
  | none => simp [encodeOptional, except_pure_ok_iff]
  | some a =>
    simp only [encodeOptional, except_bind_ok_iff, except_pure_ok_iff, hencode, map_some,
      some.injEq, forall_eq']
    constructor
    · rintro ⟨b, ⟨ha, rfl⟩, rfl⟩
      exact ⟨ha, rfl⟩
    · rintro ⟨ha, rfl⟩
      exact ⟨text a, ⟨ha, rfl⟩, rfl⟩

variable {version : Nat}

lemma refuseBeforeV13_ok (hversion : donSaveV13 ≤ version) :
    refuseBeforeV13 o version = .ok () := by
  have hnot : ¬ version < orderNodeMetricFormatVersion := Nat.not_lt.2 hversion
  simp only [refuseBeforeV13, except_bind_ok_iff, refuse_ok_iff, hnot, false_and, not_false_eq_true,
    true_and, exists_const]

def Order.EconomyChecked (o : Order) : Prop :=
  (o.economy = none ∧ orderKindCarriesEconomyPayload o.kind = false) ∨
    ∃ payload, o.economy = some payload ∧ o.typedPayloads = 0 ∧
      (EconomyOrderNode.mk 0 o.economyHeader payload).validate = .ok ()

lemma economyNode_ok_iff {node : Option EconomyOrderNode} : economyNode o = .ok node ↔
      (o.economy = none ∧ orderKindCarriesEconomyPayload o.kind = false ∧ node = none) ∨
      ∃ payload, o.economy = some payload ∧
        (mk 0 o.economyHeader payload).validate = .ok () ∧
        node = some ⟨o.nodeMetric, o.economyHeader, payload⟩ := by
  unfold economyNode
  cases he : o.economy with
  | none =>
    simp only [except_bind_ok_iff, except_pure_ok_iff, refuse_ok_iff, Bool.not_eq_true,
      exists_const, true_and, reduceCtorEq, false_and, exists_false, or_false]
  | some payload =>
    simp only [except_bind_ok_iff, except_pure_ok_iff, refuse_ok_iff, mapError_ok_iff, not_not]
    constructor
    · rintro ⟨_, _, _, hvalid, rfl⟩
      exact .inr ⟨payload, rfl, hvalid, rfl⟩
    · rintro (⟨h, -⟩ | ⟨payload', h, hvalid, rfl⟩)
      · cases h
      · cases h
        exact ⟨(), carriesEconomy_of_validate hvalid, (), hvalid, rfl⟩

lemma typedPayloads_eq_zero_iff :
    o.typedPayloads = 0 ↔ ¬ (o.moveState.isSome ∨ o.airPatrol.isSome ∨ o.strafe.isSome
      ∨ o.guard.isSome ∨ o.attackGround.isSome ∨ o.attack.isSome) := by
  simp only [typedPayloads, Nat.add_eq_zero_iff, Bool.toNat_eq_zero, not_or,
    Bool.not_eq_true, and_assoc]

/-- The envelope that is written when every leaf was encoded. -/
def Order.envelope (o : Order) (version : Nat) : Bytes :=
  envelopeBytes o version (o.economy.map fun payload => ⟨o.nodeMetric, payload.leaf⟩)
    (o.airPatrol.map fun payload => 6 :: 1 :: airPatrolBody payload)
    (o.strafe.map fun strafe => 8 :: 1 :: appendAttackAndAir strafe)

lemma writeOrder_ok_iff_checks {b : Bytes} (hversion : donSaveV13 ≤ version) :
    writeOrder o version = .ok b ↔
      checkTypedEnvelope o version = .ok () ∧ o.EconomyChecked ∧
      (∀ payload, o.airPatrol = some payload → payload.Storable) ∧
      (∀ strafe, o.strafe = some strafe → validateStrafeOrder strafe = .ok ()) ∧
      b = (headerParts o ++ [o.envelope version]).flatten := by
  have h13 : orderNodeMetricFormatVersion ≤ version := hversion
  have hnot : ¬ version < orderNodeMetricFormatVersion := Nat.not_lt.2 hversion
  have hold : ¬ version < donSaveV13 := Nat.not_lt.2 hversion
  have heconomy : ∀ node leaf, encodeEconomyLeaf version node = .ok leaf ↔
      node.validate = .ok () ∧ leaf = ⟨node.metric, node.payload.leaf⟩ := by
    intro node leaf
    simp only [encodeEconomyLeaf, hold, except_bind_ok_iff, refuse_ok_iff, not_false_eq_true,
      true_and, exists_const, mapError_ok_iff, encodeV13Leaf_ok_iff hversion]
  simp only [writeOrder, refuseBeforeV13_ok hversion, economyNodeFor, airPatrolLeafFor,
    strafeLeafFor, hversion, h13, hnot, if_true, except_bind_ok_iff, refuse_ok_iff,
    except_pure_ok_iff, and_false, not_false_eq_true, true_and, exists_const, economyNode_ok_iff,
    encodeOptional_ok_iff heconomy,
    encodeOptional_ok_iff fun _ _ => mapError_ok_iff.trans encodeAirPatrolLeaf_ok_iff,
    encodeOptional_ok_iff fun _ _ => mapError_ok_iff.trans encodeStrafeLeaf_ok_iff]
  constructor
  · rintro ⟨_, hcheck, node, hnode, halone, _, ⟨_, rfl⟩, _, ⟨hair, rfl⟩, _, ⟨hstrafe, rfl⟩, rfl⟩
    rcases hnode with ⟨he, hkind, rfl⟩ | ⟨payload, he, hvalid, rfl⟩
    · exact ⟨hcheck, .inl ⟨he, hkind⟩, hair, hstrafe, by simp only [envelope, he, map_none]⟩
    · have hzero := typedPayloads_eq_zero_iff.2 (not_and.1 halone rfl)
      refine ⟨hcheck, .inr ⟨payload, he, hzero, hvalid⟩, hair, hstrafe, ?_⟩
      simp only [envelope, he, map_some]
  · rintro ⟨hcheck, heconomyOk, hair, hstrafe, rfl⟩
    refine ⟨(), hcheck, ?_⟩
    rcases heconomyOk with ⟨he, hkind⟩ | ⟨payload, he, hzero, hvalid⟩
    · refine ⟨none, .inl ⟨he, hkind, rfl⟩, by simp, none, by simp, _, ⟨hair, rfl⟩, _,
        ⟨hstrafe, rfl⟩, ?_⟩
      simp only [envelope, he, map_none]
    refine ⟨some ⟨o.nodeMetric, o.economyHeader, payload⟩, .inr ⟨payload, he, hvalid, rfl⟩,
      not_and_of_not_right _ (typedPayloads_eq_zero_iff.1 hzero), _, ⟨?_, rfl⟩, _, ⟨hair, rfl⟩, _,
      ⟨hstrafe, rfl⟩, ?_⟩
    · rintro node hnode
      cases hnode
      exact hvalid
    · simp only [envelope, he, map_some]

variable {p : Payload}

section

variable (hversion : donSaveV13 ≤ version)
include hversion

open Payload

/-- The checks of the writer, on an order with the one payload `p`, say that `p` fits. -/
lemma checks_iff_fits (h : o.payloads = p.slots) :
    (checkTypedEnvelope o version = .ok () ∧ o.EconomyChecked ∧
      (∀ payload, o.airPatrol = some payload → payload.Storable) ∧
      (∀ strafe, o.strafe = some strafe → validateStrafeOrder strafe = .ok ())) ↔
    p.Fits o ∧ angleMismatch o.kind o.moveState o.formOrder = false := by
  have h13 : orderNodeMetricFormatVersion ≤ version := hversion
  have h12 : typedOrderFormatVersion ≤ version := Nat.le_trans (by decide) hversion
  obtain ⟨hm, ha, hs, hg, hk, ht, he⟩ := Payloads.mk.inj h
  simp only [checkTypedEnvelope, checkV13Payloads, h12, h13, if_true, except_bind_ok_iff,
    refuse_ok_iff, exists_const, EconomyChecked, typedPayloads, hm, ha, hs, hg, hk, ht, he]
  cases p with
  | bare =>
    simp [Fits]
    tauto
  | move =>
    have hflight := @move_not_flight o.kind
    simp [Fits]
    tauto
  | economy payload =>
    have hmove := fun hvalid => economy_not_move (@carriesEconomy_of_validate 0 o payload hvalid)
    simp [Fits]
    tauto
  | airPatrol =>
    by_cases hkind : o.kind = .airPatrol <;>
      simp [Fits, hkind, orderKindCarriesMoveState, orderKindCarriesEconomyPayload, and_comm]
  | strafe =>
    by_cases hkind : o.kind = .strafe <;>
      simp [Fits, hkind, orderKindCarriesMoveState, orderKindCarriesEconomyPayload]
    tauto
  | guard =>
    by_cases hkind : o.kind = .guard <;>
      simp [Fits, hkind, orderKindCarriesMoveState, orderKindCarriesEconomyPayload, and_comm]
  | attackGround =>
    by_cases hkind : o.kind = .attackGround <;>
      simp [Fits, hkind, orderKindCarriesMoveState, orderKindCarriesEconomyPayload, and_comm]
  | attack =>
    by_cases hkind : o.kind = .attack <;>
      simp [Fits, hkind, orderKindCarriesMoveState, orderKindCarriesEconomyPayload]

lemma envelope_of_slots (h : o.payloads = p.slots) : o.envelope version = p.text := by
  have h12 : typedOrderFormatVersion ≤ version := Nat.le_trans (by decide) hversion
  obtain ⟨hm, ha, hs, hg, hk, ht, he⟩ := Payloads.mk.inj h
  simp only [envelope, envelopeBytes, h12, if_true]
  cases p with
  | economy payload =>
    simp only [payloadBytes, hm, ha, hs, hg, hk, ht, he, map_some, map_none,
      getD_none, List.append_nil]
    cases payload <;> rfl
  | move =>
    simp only [payloadBytes, payloadTag, hm, ha, hs, hg, hk, ht, he, map_some,
      map_none]
    rfl
  | _ =>
    simp only [payloadBytes, payloadTag, hm, ha, hs, hg, hk, ht, he, map_some,
      map_none, getD_none, List.append_nil]
    rfl

end

lemma writeOrder_ok_iff {b : Bytes} (hversion : donSaveV13 ≤ version) :
    writeOrder o version = .ok b ↔ o.Storable ∧ b = (orderParts o).flatten := by
  rw [writeOrder_ok_iff_checks hversion]
  constructor
  · rintro ⟨hcheck, heconomy, hair, hstrafe, rfl⟩
    have hsingle : o.payloads = o.payloads.shape.slots := by
      refine single_of_counts ?_ fun hsome => ?_
      · have h12 : typedOrderFormatVersion ≤ version := Nat.le_trans (by decide) hversion
        simp only [checkTypedEnvelope, h12, if_true, except_bind_ok_iff, refuse_ok_iff] at hcheck
        obtain ⟨_, _, _, _, _, _, _, _, hcount⟩ := hcheck
        exact Nat.not_lt.1 hcount
      · rcases heconomy with ⟨hnone, -⟩ | ⟨_, _, hzero, -⟩
        · rw [hnone] at hsome
          cases hsome
        · exact hzero
    obtain ⟨hfits, hangle⟩ := (checks_iff_fits hversion hsingle).1 ⟨hcheck, heconomy, hair, hstrafe⟩
    refine ⟨⟨hsingle, hfits, hangle⟩, ?_⟩
    rw [envelope_of_slots hversion hsingle]
    rfl
  · rintro ⟨⟨hsingle, hfits, hangle⟩, rfl⟩
    obtain ⟨hcheck, heconomy, hair, hstrafe⟩ := (checks_iff_fits hversion hsingle).2 ⟨hfits, hangle⟩
    refine ⟨hcheck, heconomy, hair, hstrafe, ?_⟩
    rw [envelope_of_slots hversion hsingle]
    rfl

end Don.Sim.Save
