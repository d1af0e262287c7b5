import Don.Sim.Diplomacy.Mirror

/-!
# Tribute — what an offer may grow to

An offer is added to the standing one when the sum is in the bucket of the sender.  The sum is a 32-bit
word: past the largest word it is negative, and a negative offer is in every bucket.  An offer of a
leader to itself is added to a record and taken from it again.  Everywhere else the new offer is the
exact sum and covered by the bucket that was asked; the bucket that is left afterwards is the one that
the refund of a pending agreement makes of it.
-/

namespace Don.Sim.Diplomacy

open Foundation DiplomacyCommandState Function

/-! ## The state behind an offer -/

variable (st : DiplomacyCommandState) (leader target : Slot)

lemma buckets_modifyRecord (f : DiplomacyProposal → DiplomacyProposal) (a : Slot) :
    ((modifyRecord leader target f st).leaders a).buckets = (st.leaders a).buckets := by
  unfold modifyRecord modifyLeader
  by_cases ha : a = leader
  · subst ha
    simp
  · simp [update_of_ne ha]

/-- The bucket of a leader after its agreement with `target` is dissolved. -/
def refundedBucket (st : DiplomacyCommandState) (leader target : Slot) (good : Good) : Int32 :=
  let p := st.record leader target
  let l := st.leaders leader
  if p.agreementPending = 1 then (refund p good (l.reservedResources good, l.buckets good)).2
  else l.buckets good

lemma offers_clearAgreement (a b : Slot) :
    ((modifyLeader leader (.clearAgreement target) st).record a b).offers = (st.record a b).offers := by
  unfold modifyLeader record
  by_cases ha : a = leader
  · subst ha
    by_cases hb : b = target
    · subst hb
      simp [DiplomacyLeaderState.clearAgreement]
    · simp [DiplomacyLeaderState.clearAgreement, Function.update_of_ne hb]
  · simp [update_of_ne ha]

lemma buckets_clearAgreement_other {leader a : Slot} (ha : a ≠ leader) :
    ((modifyLeader leader (.clearAgreement target) st).leaders a).buckets = (st.leaders a).buckets := by
  simp [modifyLeader, update_of_ne ha]

lemma buckets_clearAgreement_self (good : Good) :
    ((modifyLeader leader (.clearAgreement target) st).leaders leader).buckets good
      = refundedBucket st leader target good := by
  simp only [modifyLeader, DiplomacyLeaderState.clearAgreement, Function.update_self]
  rfl

lemma refundedBucket_markOpen (st : DiplomacyCommandState) (sender target : Slot) (good : Good) :
    refundedBucket (markOpen sender target st) sender target good
      = refundedBucket st sender target good := by
  simp only [refundedBucket, markOpen, modifyRecord, modifyLeader, record, Function.update_self]
  rfl

/-! ## The plan -/

def addOffer (good : Good) (amount : Int32) (p : DiplomacyProposal) : DiplomacyProposal :=
  { p with offers := Function.update p.offers good (p.offers good + amount) }

def subOffer (good : Good) (amount : Int32) (p : DiplomacyProposal) : DiplomacyProposal :=
  { p with offers := Function.update p.offers good (p.offers good - amount) }

def offeredState (before : DiplomacyCommandState) (sender target : Slot) (good : Good) (amount : Int32) :
    DiplomacyCommandState :=
  modifyRecord target sender (subOffer good amount) <|
    modifyRecord sender target (addOffer good amount) <|
      modifyLeader target (.clearAgreement sender) <|
        modifyLeader sender (.clearAgreement target) (markOpen sender target before)

lemma offers_markOpen (st : DiplomacyCommandState) (sender target a b : Slot) :
    ((markOpen sender target st).record a b).offers = (st.record a b).offers := by
  rw [markOpen, record_modifyRecord]
  by_cases hab : a = sender ∧ b = target
  · obtain ⟨rfl, rfl⟩ := hab
    rw [editAt_self]
  · rw [editAt_other _ _ hab]

variable {before : DiplomacyCommandState} {sender target : Slot}

lemma offered_offer (hne : sender ≠ target) (good : Good) (amount : Int32) :
    ((offeredState before sender target good amount).record sender target).offers good
      = (before.record sender target).offers good + amount := by
  have hother : ¬ (sender = target ∧ target = sender) := fun h => hne h.1
  rw [offeredState, record_modifyRecord, editAt_other _ _ hother, record_modifyRecord, editAt_self]
  simp [addOffer, offers_clearAgreement, offers_markOpen]

lemma offered_self (before : DiplomacyCommandState) (sender : Slot) (good : Good) (amount : Int32) :
    ((offeredState before sender sender good amount).record sender sender).offers good
      = (before.record sender sender).offers good := by
  rw [offeredState, record_modifyRecord, editAt_self, record_modifyRecord, editAt_self]
  simp [addOffer, subOffer, offers_clearAgreement, offers_markOpen]

lemma offered_bucket (hne : sender ≠ target) (good : Good) (amount : Int32) :
    ((offeredState before sender target good amount).leaders sender).buckets good
      = refundedBucket before sender target good := by
  rw [offeredState, buckets_modifyRecord, buckets_modifyRecord, buckets_clearAgreement_other _ _ hne,
    buckets_clearAgreement_self, refundedBucket_markOpen]

lemma planOffer_eq (before : DiplomacyCommandState) (sender target : Slot) {value : Int32}
    {good : Good}
    (hgood : goodIndex value = .ok good) (amount : Int32) :
    planOffer before sender target value amount = .ok
      (if 0 < amount ∧ (before.leaders sender).buckets good
          < (before.record sender target).offers good + amount then
        Draft.pushIf (isLocal before sender) (.localNotice sender .insufficientTribute)
          ⟨before, [.clickStamp sender target, .refuseInsufficientTribute sender target good amount]⟩
      else
        ⟨offeredState before sender target good amount,
          [.clickStamp sender target, .markProposalOpen sender target, .clearAgreement sender target,
            .clearAgreement target sender, .writeOffer sender target good amount]⟩) := by
  unfold planOffer
  rw [hgood]
  simp only [bind, Except.bind, pure, Except.pure]
  split <;> rfl

/-! ## The bound -/

structure OfferWire (wire : Bytes) (sender target : Slot) (good : Good) (amount : Int32) : Prop where
  decoded : ∃ demand, decodeDiplomacyCommand wire
    = .ok (.offer (Int32.ofNat sender.val) (Int32.ofNat target.val) (Int32.ofNat good.val) amount demand)

/-- A plan for an offer either writes the exact sum, within `bucket`, or records the refusal and leaves
every proposal, bucket and reserve alone. -/
def OfferCovered (before : DiplomacyCommandState) (sender target : Slot) (good : Good) (amount : Int32)
    (plan : DiplomacyCommandPlan) (bucket : Int32) : Prop :=
  if .writeOffer sender target good amount ∈ plan.steps then
    ((plan.state.record sender target).offers good).toInt
        = ((before.record sender target).offers good).toInt + amount.toInt ∧
      ((plan.state.record sender target).offers good).toInt ≤ bucket.toInt
  else
    .refuseInsufficientTribute sender target good amount ∈ plan.steps ∧
      ∀ l, (plan.state.leaders l).proposals = (before.leaders l).proposals ∧
        (plan.state.leaders l).buckets = (before.leaders l).buckets ∧
        (plan.state.leaders l).reservedResources = (before.leaders l).reservedResources

/-- The 32-bit sum is beyond the bucket, so that the offer is refused. -/
def OfferRefused (before : DiplomacyCommandState) (sender target : Slot) (good : Good) (amount : Int32) :
    Prop :=
  (before.leaders sender).buckets good < (before.record sender target).offers good + amount

/-- The two leaders differ and the sum is a 32-bit word. -/
def OfferExact (before : DiplomacyCommandState) (sender target : Slot) (good : Good) (amount : Int32) :
    Prop :=
  sender ≠ target ∧ ((before.record sender target).offers good).toInt + amount.toInt < 2 ^ 31

lemma toInt_add_eq_iff {a b : Int32} (hb : 0 < b) :
    (a + b).toInt = a.toInt + b.toInt ↔ a.toInt + b.toInt < 2 ^ 31 := by
  have hle := a.le_toInt
  have hlt := (a + b).toInt_lt
  have hpos : 0 < b.toInt := Int32.lt_iff_toInt_lt.1 hb
  constructor
  · intro h
    omega
  · intro h
    rw [Int32.toInt_add]
    exact Int.bmod_eq_of_le (by omega) (by omega)

lemma slot_ofNat : ∀ i : Slot, slot (Int32.ofNat i.val) = .ok i := by
  decide

lemma goodIndex_ofNat : ∀ good : Good, goodIndex (Int32.ofNat good.val) = .ok good := by
  decide

lemma plan_of_offerWire {wire : Bytes}
    {good : Good} {amount : Int32} (hwire : OfferWire wire sender target good amount)
    {plan : DiplomacyCommandPlan} (hplan : planDiplomacyCommand before wire = .ok (.apply plan)) :
    ∃ d, planOffer before sender target (Int32.ofNat good.val) amount = .ok d ∧
      plan.state = d.state ∧ plan.steps = d.steps := by
  obtain ⟨demand, hdecoded⟩ := hwire.decoded
  simp only [planDiplomacyCommand, hdecoded, Except.mapError, bind, Except.bind] at hplan
  cases hpair : before.pair (Int32.ofNat sender.val) (Int32.ofNat target.val) with
  | error => simp [DiplomacyWireCommand.sender, DiplomacyWireCommand.target, hpair] at hplan
  | ok p =>
    have hsame : p = (sender, target) := by
      simp only [pair, slot_ofNat, bind, Except.bind, pure, Except.pure] at hpair
      split at hpair
      · cases hpair
      · split at hpair
        · cases hpair
        · exact (Except.ok.inj hpair).symm
    subst hsame
    simp only [DiplomacyWireCommand.sender, DiplomacyWireCommand.target, hpair, planCommand, bind,
      Except.bind, pure, Except.pure] at hplan
    cases hoffer : planOffer before sender target (Int32.ofNat good.val) amount with
    | error => simp [hoffer] at hplan
    | ok d =>
      simp only [hoffer, Draft.decide, Except.ok.injEq, DiplomacyPlanDecision.apply.injEq] at hplan
      subst hplan
      exact ⟨d, rfl, rfl, rfl⟩

section

variable {before : DiplomacyCommandState} {sender target : Slot} {good : Good} {amount : Int32}
  {plan : DiplomacyCommandPlan}

lemma covered_of_refused (hstate : plan.state = before)
    (hsteps : .writeOffer sender target good amount ∉ plan.steps)
    (hrefuse : .refuseInsufficientTribute sender target good amount ∈ plan.steps) (bucket : Int32) :
    OfferCovered before sender target good amount plan bucket := by
  rw [OfferCovered, if_neg hsteps, hstate]
  exact ⟨hrefuse, fun _ => ⟨rfl, rfl, rfl⟩⟩

/-- Where the offer is written, it is the exact sum for two leaders and no overflow. -/
lemma covered_of_written (hpos : 0 < amount)
    (hstate : plan.state = offeredState before sender target good amount)
    (hsteps : .writeOffer sender target good amount ∈ plan.steps) (bucket : Int32) :
    OfferCovered before sender target good amount plan bucket ↔
      OfferExact before sender target good amount ∧
        ((before.record sender target).offers good).toInt + amount.toInt ≤ bucket.toInt := by
  rw [OfferCovered, if_pos hsteps, hstate, OfferExact]
  by_cases hself : sender = target
  · subst hself
    have hamount : 0 < amount.toInt := Int32.lt_iff_toInt_lt.1 hpos
    rw [offered_self]
    constructor
    · rintro ⟨heq, _⟩
      omega
    · rintro ⟨⟨hne, _⟩, _⟩
      exact absurd rfl hne
  · rw [offered_offer hself, toInt_add_eq_iff hpos]
    constructor
    · rintro ⟨hexact, hle⟩
      rw [(toInt_add_eq_iff hpos).2 hexact] at hle
      exact ⟨⟨hself, hexact⟩, hle⟩
    · rintro ⟨⟨_, hexact⟩, hle⟩
      rw [(toInt_add_eq_iff hpos).2 hexact]
      exact ⟨hexact, hle⟩

end

/-- An offer of a positive amount stays within the bucket that it is asked of exactly when it is refused,
or goes to another leader and adds up within 32 bits; and within the bucket that the plan leaves exactly
when the refund of a pending agreement leaves enough in it, too. -/
theorem tribute_covered_iff (before : DiplomacyCommandState) (wire : Bytes) (sender target : Slot)
    (good : Good) (amount : Int32) (hwire : OfferWire wire sender target good amount) (hpos : 0 < amount)
    (plan : DiplomacyCommandPlan) (hplan : planDiplomacyCommand before wire = .ok (.apply plan)) :
    (OfferCovered before sender target good amount plan ((before.leaders sender).buckets good) ↔
      OfferRefused before sender target good amount ∨ OfferExact before sender target good amount) ∧
    (OfferCovered before sender target good amount plan ((plan.state.leaders sender).buckets good) ↔
      OfferRefused before sender target good amount ∨
        (OfferExact before sender target good amount ∧
          ((before.record sender target).offers good).toInt + amount.toInt
            ≤ (refundedBucket before sender target good).toInt)) := by
  obtain ⟨d, hd, hstate, hsteps⟩ := plan_of_offerWire hwire hplan
  rw [planOffer_eq before sender target (goodIndex_ofNat good) amount] at hd
  obtain rfl := Except.ok.inj hd
  by_cases hrefused : OfferRefused before sender target good amount
  · have hboth : 0 < amount ∧ (before.leaders sender).buckets good
        < (before.record sender target).offers good + amount := ⟨hpos, hrefused⟩
    rw [if_pos hboth] at hstate hsteps
    have hbefore : plan.state = before := by
      rw [hstate]
      unfold Draft.pushIf
      split <;> rfl
    have hwrite : .writeOffer sender target good amount ∉ plan.steps := by
      rw [hsteps]
      unfold Draft.pushIf Draft.push
      split <;> simp
    have hrefuse : .refuseInsufficientTribute sender target good amount ∈ plan.steps := by
      rw [hsteps]
      unfold Draft.pushIf Draft.push
      split <;> simp
    have hcovered := covered_of_refused hbefore hwrite hrefuse
    exact ⟨iff_of_true (hcovered _) (.inl hrefused), iff_of_true (hcovered _) (.inl hrefused)⟩
  · have hnot : ¬ (0 < amount ∧ (before.leaders sender).buckets good
        < (before.record sender target).offers good + amount) := fun h => hrefused h.2
    rw [if_neg hnot] at hstate hsteps
    have hwrite : .writeOffer sender target good amount ∈ plan.steps := by
      rw [hsteps]
      simp
    have hle : (before.record sender target).offers good + amount ≤ (before.leaders sender).buckets good :=
      Int32.not_lt.1 hrefused
    simp only [covered_of_written hpos hstate hwrite, hrefused, false_or]
    refine ⟨⟨fun h => h.1, fun h => ⟨h, ?_⟩⟩, and_congr_right fun hexact => ?_⟩
    · -- the sum that was compared with the bucket is the exact one
      rw [← (toInt_add_eq_iff hpos).2 h.2]
      exact Int32.le_iff_toInt_le.1 hle
    · rw [hstate, offered_bucket hexact.1]

/-- Every leader has a hundred of every good. -/
def hundreds : DiplomacyCommandState :=
  .default (fun i => Int32.ofNat i.val) fun _ _ => 100

/-- The plan that writes an offer of slot 0 to slot 1. -/
def offerPlan (before : DiplomacyCommandState) (amount : Int32) : DiplomacyCommandPlan where
  command := .offer 0 1 2 amount false
  state := offeredState before 0 1 2 amount
  steps := [.clickStamp 0 1, .markProposalOpen 0 1, .clearAgreement 0 1, .clearAgreement 1 0,
    .writeOffer 0 1 2 amount]

theorem first_tribute_covered : OfferWire tributeWire 0 1 2 30 ∧
      planDiplomacyCommand hundreds tributeWire = .ok (.apply (offerPlan hundreds 30)) ∧
      OfferCovered hundreds 0 1 2 30 (offerPlan hundreds 30) 100 := by
  have hwire : OfferWire tributeWire 0 1 2 30 := ⟨false, by decide⟩
  have hplan : planDiplomacyCommand hundreds tributeWire = .ok (.apply (offerPlan hundreds 30)) := by
    decide
  refine ⟨hwire, hplan, ?_⟩
  exact (tribute_covered_iff hundreds tributeWire 0 1 2 30 hwire (by decide) _ hplan).1.2
    (.inr ⟨by decide, by decide⟩)

/-- The largest amount that a wire can hold. -/
def largestTribute : Bytes := [43, 0, 0, 0, 0, 1, 0, 0, 0, 2, 0, 0, 0, 255, 255, 255, 127]

/-- Slot 0 has a hundred and offers thirty of them; the largest amount on top wraps around and is
written. -/
theorem tribute_wraps_past_the_bucket :
    let st := commitAll hundreds [tributeWire]
    OfferWire largestTribute 0 1 2 2147483647 ∧
      planDiplomacyCommand st largestTribute = .ok (.apply (offerPlan st 2147483647)) ∧
      ((offerPlan st 2147483647).state.record 0 1).offers 2 = -2147483619 ∧
      ¬ OfferCovered st 0 1 2 2147483647 (offerPlan st 2147483647) ((st.leaders 0).buckets 2) := by
  refine ⟨⟨false, by decide⟩, by decide, by decide, ?_⟩
  have hwrite : DiplomacyStep.writeOffer 0 1 2 2147483647
      ∈ (offerPlan (commitAll hundreds [tributeWire]) 2147483647).steps := by
    decide
  rw [OfferCovered, if_pos hwrite]
  decide

end Don.Sim.Diplomacy
