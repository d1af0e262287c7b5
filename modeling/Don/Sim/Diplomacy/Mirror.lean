import Don.Foundation.Layout
import Don.Foundation.Mirror
import Don.Sim.Diplomacy.Basic

/-!
# Mirror — the two records of a pair, and the resources behind them

Whatever is committed, the records of two leaders about each other hold the same treaty and attacks and
opposite offers, no good of a leader gets lost or made, and a command touches the records of its own
pair only.
-/

namespace Don.Sim.Diplomacy

open Foundation DiplomacyCommandState Except Draft
open Function (update update_of_ne update_self)

/-! ## Terms -/

/-- What the two records of a pair have in common. -/
@[ext]
structure Terms where
  treaty : Int32
  offers : Good → Int32
  attacks : Slot → Int32

/-- The same terms from the other side. -/
def Terms.reflect (x : Terms) : Terms :=
  { x with offers := fun good => -x.offers good }

def DiplomacyProposal.terms (p : DiplomacyProposal) : Terms :=
  ⟨p.treaty, p.offers, p.attacks⟩

namespace DiplomacyCommandState

def terms (st : DiplomacyCommandState) (leader target : Slot) : Terms :=
  (st.record leader target).terms

/-- What a leader has of a good, in the bucket and in reserve. -/
def holdings (st : DiplomacyCommandState) (leader : Slot) (good : Good) : Int32 :=
  (st.leaders leader).buckets good + (st.leaders leader).reservedResources good

lemma record_modifyRecord (leader target : Slot) (f : DiplomacyProposal → DiplomacyProposal)
    (st : DiplomacyCommandState) :
    (modifyRecord leader target f st).record = editAt leader target f st.record := by
  funext a b
  unfold modifyRecord modifyLeader record editAt
  by_cases ha : a = leader
  · subst ha
    simp
  · simp [update_of_ne ha]

lemma terms_modifyRecord (leader target : Slot) {f : DiplomacyProposal → DiplomacyProposal}
    {g : Terms → Terms} (hg : ∀ p, (f p).terms = g p.terms) (st : DiplomacyCommandState) :
    (modifyRecord leader target f st).terms = editAt leader target g st.terms := by
  funext a b
  unfold terms
  rw [record_modifyRecord]
  by_cases hab : a = leader ∧ b = target
  · obtain ⟨rfl, rfl⟩ := hab
    rw [editAt_self, editAt_self, hg]
  · rw [editAt_other _ _ hab, editAt_other _ _ hab]

lemma holdings_modifyRecord (leader target : Slot) (f : DiplomacyProposal → DiplomacyProposal)
    (st : DiplomacyCommandState) : (modifyRecord leader target f st).holdings = st.holdings := by
  funext a good
  unfold modifyRecord modifyLeader holdings
  by_cases ha : a = leader
  · subst ha
    simp
  · simp [update_of_ne ha]

end DiplomacyCommandState

/-! ## Edits -/

/-- The record of `leader` towards `target` is one of the two that belong to the pair. -/
def ofPair (sender target a b : Slot) : Prop :=
  (a = sender ∧ b = target) ∨ (a = target ∧ b = sender)

structure Edits (sender target : Slot) (st st' : DiplomacyCommandState) : Prop where
  mirrored : Mirrored Terms.reflect st.terms → Mirrored Terms.reflect st'.terms
  conserved : st'.holdings = st.holdings
  others : ∀ a b, ¬ ofPair sender target a b → st'.record a b = st.record a b

namespace Edits

variable {sender target : Slot} {st st₁ st₂ : DiplomacyCommandState}

lemma refl (st : DiplomacyCommandState) : Edits sender target st st :=
  ⟨id, rfl, fun _ _ _ => rfl⟩

lemma trans (h₁ : Edits sender target st st₁) (h₂ : Edits sender target st₁ st₂) :
    Edits sender target st st₂ :=
  ⟨fun hm => h₂.mirrored (h₁.mirrored hm), h₂.conserved.trans h₁.conserved,
    fun a b hab => (h₂.others a b hab).trans (h₁.others a b hab)⟩

lemma symm (h : Edits target sender st st₁) : Edits sender target st st₁ :=
  ⟨h.mirrored, h.conserved, fun a b hab => h.others a b fun hab' => hab hab'.symm⟩

lemma of_same_terms {f : DiplomacyProposal → DiplomacyProposal} (hf : ∀ p, (f p).terms = p.terms) :
    Edits sender target st (modifyRecord sender target f st) where
  mirrored hm := by
    rw [terms_modifyRecord sender target (g := fun x => x) hf, editAt_id]
    exact hm
  conserved := holdings_modifyRecord _ _ _ _
  others a b hab := by
    rw [record_modifyRecord]
    exact editAt_other _ _ fun h => hab (Or.inl h)

lemma of_pair {f f' : DiplomacyProposal → DiplomacyProposal} (g g' : Terms → Terms)
    (hg : ∀ p, (f p).terms = g p.terms) (hg' : ∀ p, (f' p).terms = g' p.terms)
    (hpair : ∀ x, g' x.reflect = (g x).reflect)
    (hself : ∀ x : Terms, x = x.reflect → g' (g x) = (g' (g x)).reflect) :
    Edits sender target st (modifyRecord target sender f' (modifyRecord sender target f st)) where
  mirrored hm := by
    rw [terms_modifyRecord _ _ hg', terms_modifyRecord _ _ hg]
    exact hm.editPair sender target (fun x => by simp [Terms.reflect]) hpair hself
  conserved := by
    rw [holdings_modifyRecord, holdings_modifyRecord]
  others a b hab := by
    rw [record_modifyRecord, record_modifyRecord, editAt_other _ _ fun h => hab (Or.inr h),
      editAt_other _ _ fun h => hab (Or.inl h)]

end Edits

/-! ## Agreements -/

lemma giveBack_sum (amount : Int32) (held : Int32 × Int32) :
    (giveBack amount held).2 + (giveBack amount held).1 = held.2 + held.1 := by
  unfold giveBack
  dsimp only
  generalize (if held.1 ≤ amount then held.1 else amount) = returned
  calc held.2 + returned + (held.1 - returned)
      = held.2 + (returned + (held.1 - returned)) := Int32.add_assoc _ _ _
    _ = held.2 + (held.1 - returned + returned) := by rw [Int32.add_comm returned]
    _ = held.2 + held.1 := by rw [Int32.sub_add_cancel]

lemma refund_sum (p : DiplomacyProposal) (good : Good) (held : Int32 × Int32) :
    (refund p good held).2 + (refund p good held).1 = held.2 + held.1 := by
  have hcost : ∀ held' : Int32 × Int32, held'.2 + held'.1 = held.2 + held.1 →
      (if 0 < p.offers good then giveBack (p.offers good) held' else held').2
        + (if 0 < p.offers good then giveBack (p.offers good) held' else held').1
        = held.2 + held.1 := by
    intro held' h
    split
    · rw [giveBack_sum, h]
    · exact h
  unfold refund
  apply hcost
  split
  · exact giveBack_sum _ _
  · rfl

/-- An agreement is dissolved: what was reserved for it goes back, and the terms stand. -/
lemma edits_clearAgreement (leader target : Slot) (st : DiplomacyCommandState) :
    Edits leader target st (modifyLeader leader (.clearAgreement target) st) := by
  have hrecord : ∀ a b, ¬ (a = leader ∧ b = target) →
      (modifyLeader leader (.clearAgreement target) st).record a b = st.record a b := by
    intro a b hab
    unfold modifyLeader record
    by_cases ha : a = leader
    · subst ha
      have hb : b ≠ target := fun hb => hab ⟨rfl, hb⟩
      simp [DiplomacyLeaderState.clearAgreement, update_of_ne hb]
    · simp [update_of_ne ha]
  have hterms : (modifyLeader leader (.clearAgreement target) st).terms = st.terms := by
    funext a b
    by_cases hab : a = leader ∧ b = target
    · obtain ⟨rfl, rfl⟩ := hab
      simp [terms, record, modifyLeader, DiplomacyLeaderState.clearAgreement, DiplomacyProposal.terms]
    · unfold terms
      rw [hrecord a b hab]
  refine ⟨fun hm => hterms ▸ hm, ?_, fun a b hab => hrecord a b fun h => hab (Or.inl h)⟩
  funext a good
  unfold holdings modifyLeader
  by_cases ha : a = leader
  · subst ha
    simp only [update_self, DiplomacyLeaderState.clearAgreement]
    split
    · exact refund_sum _ _ _
    · rfl
  · simp [update_of_ne ha]

/-- Fields of a leader that no record and no holding is read from. -/
lemma edits_of_counters {sender target : Slot} (leader : Slot)
    (f : DiplomacyLeaderState → DiplomacyLeaderState) (hp : ∀ l, (f l).proposals = l.proposals) (hb : ∀ l, (f l).buckets = l.buckets)
    (hr : ∀ l, (f l).reservedResources = l.reservedResources) (st : DiplomacyCommandState) :
    Edits sender target st (modifyLeader leader f st) := by
  have hrecord : (modifyLeader leader f st).record = st.record := by
    funext a b
    unfold modifyLeader record
    by_cases ha : a = leader
    · subst ha
      simp [hp]
    · simp [update_of_ne ha]
  refine ⟨fun hm => ?_, ?_, fun a b _ => by rw [hrecord]⟩
  · have hterms : (modifyLeader leader f st).terms = st.terms := by
      funext a b
      unfold terms
      rw [hrecord]
    rw [hterms]
    exact hm
  · funext a good
    unfold holdings modifyLeader
    by_cases ha : a = leader
    · subst ha
      simp [hb, hr]
    · simp [update_of_ne ha]

/-! ## Drafts -/

/-- A draft that started from `before` and is about one pair. -/
def Draft.About (sender target : Slot) (before : DiplomacyCommandState) (d : Draft) : Prop :=
  Edits sender target before d.state

namespace Draft.About

variable {sender target : Slot} {before : DiplomacyCommandState} {d : Draft}

open Edits

lemma start (sender target : Slot) (before : DiplomacyCommandState) :
    About sender target before ⟨before, []⟩ := refl before

section

variable (h : About sender target before d)
include h

lemma push (step : DiplomacyStep) : About sender target before (d.push step) := h

lemma pushIf (cond : Bool) (step : DiplomacyStep) :
    About sender target before (d.pushIf cond step) := by
  unfold Draft.pushIf
  split
  · exact h.push step
  · exact h

lemma pushAll (steps : List DiplomacyStep) :
    About sender target before (steps.foldl (fun d step => d.push step) d) := by
  induction steps generalizing d with
  | nil => exact h
  | cons step steps ih => exact ih (h.push step)

lemma markOpen : About sender target before (d.markOpen sender target) :=
  trans h (of_same_terms (f := fun p => { p with proposalOpen := 1 }) fun _ => rfl)

lemma clearAgreement : About sender target before (d.clearAgreement sender target) :=
  h.trans (edits_clearAgreement sender target d.state)

lemma clearPairAgreements : About sender target before (d.clearPairAgreements sender target) :=
  h.clearAgreement.trans (edits_clearAgreement target sender _).symm

lemma clearResponseCounters :
    About sender target before (d.clearResponseCounters sender target) := by
  have h₁ := h.trans (edits_of_counters sender
    (fun l => { l with response334 := update l.response334 target 0 })
    (fun _ => rfl) (fun _ => rfl) (fun _ => rfl) d.state)
  exact h₁.trans (edits_of_counters sender
    (fun l => { l with response314 := update l.response314 target 0 })
    (fun _ => rfl) (fun _ => rfl) (fun _ => rfl) _)

lemma editPair {f f' : DiplomacyProposal → DiplomacyProposal}
    (g g' : Terms → Terms) (hg : ∀ p, (f p).terms = g p.terms) (hg' : ∀ p, (f' p).terms = g' p.terms)
    (hpair : ∀ x, g' x.reflect = (g x).reflect)
    (hself : ∀ x : Terms, x = x.reflect → g' (g x) = (g' (g x)).reflect) :
    About sender target before (d.editPair sender target f f') :=
  trans h (of_pair g g' hg hg' hpair hself)

/-- Both records are changed the same way, which reads the same from both sides. -/
lemma editPair_same {f : DiplomacyProposal → DiplomacyProposal}
    (g : Terms → Terms) (hg : ∀ p, (f p).terms = g p.terms) (hpair : ∀ x, g x.reflect = (g x).reflect) :
    About sender target before (d.editPair sender target f f) := by
  refine h.editPair g g hg hg hpair fun x hx => ?_
  rw [← hpair, ← hpair, ← hx]

end

end Draft.About

/-! ## Commands -/

section

variable (before : DiplomacyCommandState) (sender target : Slot)

open About

lemma planTreaty_about (treaty : Int32) :
    (planTreaty before sender target treaty).About sender target before := by
  have h := (start sender target before).push
    (.clickStamp sender target)
  refine (h.markOpen.clearPairAgreements.editPair_same (fun x => { x with treaty }) ?_ ?_).push _
  all_goals exact fun _ => rfl

lemma planClearTributes_about :
    (planClearTributes before sender target).About sender target before := by
  have h := (start sender target before).clearPairAgreements
  exact ((h.pushIf _ _).editPair_same (fun x => { x with offers := fun _ => 0 }) (fun _ => rfl)
    fun x => by simp [Terms.reflect]).push _

lemma reflect_default :
    DiplomacyProposal.default.terms.reflect = DiplomacyProposal.default.terms := by
  simp [Terms.reflect, DiplomacyProposal.terms, DiplomacyProposal.default]

lemma planClearAll_about : (planClearAll before sender target).About sender target before := by
  have h := (start sender target before).push
    (.clickStamp sender target)
  exact ((h.clearPairAgreements.pushIf _ _).editPair_same (fun _ => DiplomacyProposal.default.terms)
    (fun _ => rfl) fun _ => reflect_default.symm).push _

variable {before sender target} {d : Draft}

lemma planReject_about (h : planReject before sender target = .ok d) :
    d.About sender target before := by
  have hstart := (About.start sender target before).clearResponseCounters
  unfold planReject at h
  split at h
  · simp only [planRejectProposal, except_bind_ok_iff, except_pure_ok_iff] at h
    obtain ⟨scanned, -, rfl⟩ := h
    have hcleared := (hstart.pushAll scanned).clearPairAgreements
    -- the record of the target is the first one here
    refine About.pushIf (About.pushIf ?_ _ _) _ _
    refine hcleared.trans (Edits.symm (Edits.of_pair (fun _ => DiplomacyProposal.default.terms)
      (fun _ => DiplomacyProposal.default.terms) (fun _ => rfl) (fun _ => rfl) ?_ ?_))
    · exact fun _ => reflect_default.symm
    · exact fun _ _ => reflect_default.symm
  · rw [← ok.inj h]
    exact hstart.clearAgreement.pushIf _ _

lemma planOffer_about {good amount : Int32}
    (h : planOffer before sender target good amount = .ok d) : d.About sender target before := by
  obtain ⟨good, -, h⟩ := except_bind_ok_iff.1 h
  dsimp only at h
  have hstart := (start sender target before).push
    (.clickStamp sender target)
  split at h
  · rw [← ok.inj h]
    exact (hstart.push _).pushIf _ _
  rw [← ok.inj h]
  refine push ?_ _
  refine hstart.markOpen.clearPairAgreements.editPair
    (fun x => { x with offers := update x.offers good (x.offers good + amount) })
    (fun x => { x with offers := update x.offers good (x.offers good - amount) })
    (fun _ => rfl) (fun _ => rfl) (fun x => ?_) fun x hx => ?_
  · ext g
    · rfl
    · by_cases hg : g = good
      · subst hg
        simp [Terms.reflect, Int32.neg_add, Int32.sub_eq_add_neg]
      · simp [Terms.reflect, update_of_ne hg]
    · rfl
  · simpa using hx

lemma planProposeAttack_about {whose onoff : Int32}
    (h : planProposeAttack before sender target whose onoff = .ok d) : d.About sender target before := by
  have hstart := ((start sender target before).push
    (.clickStamp sender target)).markOpen
  unfold planProposeAttack at h
  dsimp only at h
  split at h
  · simp only [except_bind_ok_iff, except_pure_ok_iff] at h
    obtain ⟨whose, -, rfl⟩ := h
    exact (hstart.clearPairAgreements.editPair_same
      (fun x => { x with attacks := update x.attacks whose onoff })
      (fun _ => rfl) fun _ => rfl).push _
  · rw [← ok.inj h]
    exact hstart

lemma planDeclareChange_about {treaty : Int32} {allied : Bool}
    (h : planDeclareChange before sender target treaty allied = .inl d) :
    d.About sender target before := by
  unfold planDeclareChange at h
  dsimp only at h
  split at h
  · cases h
  · split at h
    · rw [← Sum.inl.inj h]
      exact (start sender target before).pushIf _ _
    · cases h

lemma planDeclare_about {treaty : Int32}
    (h : planDeclare before sender target treaty = .ok (.inl d)) : d.About sender target before := by
  have hstart := start sender target before
  obtain ⟨enemy, -, h⟩ := except_bind_ok_iff.1 h
  cases enemy with
  | true =>
    rw [← Sum.inl.inj (ok.inj h)]
    exact hstart.push _
  | false =>
    simp only [Bool.false_eq_true, if_false] at h
    split at h
    · obtain ⟨_, -, h⟩ := except_bind_ok_iff.1 h
      exact planDeclareChange_about (ok.inj h)
    · exact planDeclareChange_about (ok.inj h)

lemma planCommand_edits {command : DiplomacyWireCommand} {plan : DiplomacyCommandPlan}
    (h : planCommand before command sender target = .ok (.apply plan)) :
    Edits sender target before plan.state := by
  have apply_draft : ∀ {x : Planned Draft}, (do return (← x).decide command) = .ok (.apply plan) →
      (∀ d, x = .ok d → d.About sender target before) → Edits sender target before plan.state := by
    intro x hx habout
    simp only [except_bind_ok_iff, except_pure_ok_iff, Draft.decide,
      DiplomacyPlanDecision.apply.injEq] at hx
    obtain ⟨d, hd, rfl⟩ := hx
    exact habout d hd
  have apply_ok : ∀ {d : Draft}, ok (d.decide command) = (.ok (.apply plan) : Planned _) →
      d.About sender target before → Edits sender target before plan.state :=
    fun {d} hd habout => apply_draft (x := .ok d) hd fun d' hd' => ok.inj hd' ▸ habout
  unfold planCommand at h
  cases command with
  | treaty s t treaty => exact apply_ok h (planTreaty_about before sender target treaty)
  | clearTributes => exact apply_ok h (planClearTributes_about before sender target)
  | clearAll => exact apply_ok h (planClearAll_about before sender target)
  | accept => simp at h
  | reject => exact apply_draft h fun _ => planReject_about
  | offer => exact apply_draft h fun _ => planOffer_about
  | proposeAttack => exact apply_draft h fun _ => planProposeAttack_about
  | declare s t treaty =>
    obtain ⟨outcome, hdecl, h⟩ := except_bind_ok_iff.1 h
    cases outcome with
    | inl => exact apply_ok h (planDeclare_about hdecl)
    | inr => exact nomatch ok.inj h

end

/-! ## Commits -/

lemma slot_ok {value : Int32} {i : Slot} (h : slot value = .ok i) : Int32.ofNat i.val = value := by
  unfold slot at h
  split at h
  · rename_i hrange
    rw [← ok.inj h]
    apply Int32.toInt_inj.1
    rw [Int32.toInt_ofNat_of_lt (by omega)]
    exact Int.toNat_of_nonneg hrange.1
  · cases h

variable {st : DiplomacyCommandState}

lemma pair_ok {sender target : Int32} {s t : Slot} (h : st.pair sender target = .ok (s, t)) :
    Int32.ofNat s.val = sender ∧ Int32.ofNat t.val = target := by
  simp only [pair, except_bind_ok_iff, except_pure_ok_iff, Prod.mk.injEq] at h
  obtain ⟨_, hs, _, ht, _, _, _, _, rfl, rfl⟩ := h
  exact ⟨slot_ok hs, slot_ok ht⟩

/-- A command names a pair in either order. -/
def Names (wire : Bytes) (a b : Slot) : Prop :=
  ∃ command, decodeDiplomacyCommand wire = .ok command ∧
    ((Int32.ofNat a.val = command.sender ∧ Int32.ofNat b.val = command.target) ∨
      (Int32.ofNat a.val = command.target ∧ Int32.ofNat b.val = command.sender))

lemma commit_edits (st : DiplomacyCommandState) (wire : Bytes) :
    commit st wire = st ∨ ∃ sender target, Edits sender target st (commit st wire) ∧
      ∀ a b, ofPair sender target a b → Names wire a b := by
  cases hplan : planDiplomacyCommand st wire with
  | error => simp [commit, hplan]
  | ok decision =>
    cases decision with
    | boundary => simp [commit, hplan]
    | apply plan =>
      right
      have hcommit : commit st wire = plan.state := by simp [commit, hplan]
      simp only [planDiplomacyCommand, except_bind_ok_iff, mapError_ok_iff] at hplan
      obtain ⟨command, hdecode, ⟨s, t⟩, hpair, hplan⟩ := hplan
      obtain ⟨hs, ht⟩ := pair_ok hpair
      refine ⟨s, t, hcommit ▸ planCommand_edits hplan, fun a b hab => ⟨command, hdecode, ?_⟩⟩
      rcases hab with ⟨rfl, rfl⟩ | ⟨rfl, rfl⟩
      · exact Or.inl ⟨hs, ht⟩
      · exact Or.inr ⟨ht, hs⟩

lemma commit_mirrored (wire : Bytes)
    (h : Mirrored Terms.reflect st.terms) : Mirrored Terms.reflect (commit st wire).terms := by
  rcases commit_edits st wire with heq | ⟨_, _, hedits, _⟩
  · rw [heq]
    exact h
  · exact hedits.mirrored h

lemma commit_conserves (st : DiplomacyCommandState) (wire : Bytes) :
    (commit st wire).holdings = st.holdings := by
  rcases commit_edits st wire with heq | ⟨_, _, hedits, _⟩
  · rw [heq]
  · exact hedits.conserved

lemma commit_others (st : DiplomacyCommandState) {wire : Bytes} {a b : Slot}
    (h : ¬ Names wire a b) :
    (commit st wire).record a b = st.record a b := by
  rcases commit_edits st wire with heq | ⟨_, _, hedits, hnames⟩
  · rw [heq]
  · exact hedits.others a b fun hab => h (hnames a b hab)

lemma commitAll_keeps (wires : List Bytes) (h : Mirrored Terms.reflect st.terms) :
    Mirrored Terms.reflect (commitAll st wires).terms ∧ (commitAll st wires).holdings = st.holdings := by
  induction wires generalizing st with
  | nil => exact ⟨h, rfl⟩
  | cons wire wires ih =>
    obtain ⟨hm, hc⟩ := ih (commit_mirrored wire h)
    exact ⟨hm, hc.trans (commit_conserves st wire)⟩

/-- From the default state, whatever commands arrive: the records of any two leaders about each other
mirror each other, every leader's bucket and reserve of every good add up to what the bucket held at
the start, and no commit touches a record that its command does not name. -/
theorem records_mirrored_and_conserved (who : Slot → Int32) (buckets : Slot → Good → Int32)
    (wires : List Bytes) :
    (∀ s t,
      let st := commitAll (.default who buckets) wires
      (∀ good, (st.record s t).offers good = -(st.record t s).offers good) ∧
        (st.record s t).treaty = (st.record t s).treaty ∧
        (st.record s t).attacks = (st.record t s).attacks) ∧
    (∀ s good,
      let st := commitAll (.default who buckets) wires
      (st.leaders s).buckets good + (st.leaders s).reservedResources good = buckets s good) ∧
    (∀ wire a b, ¬ Names wire a b →
      (commit (commitAll (.default who buckets) wires) wire).record a b
        = (commitAll (.default who buckets) wires).record a b) := by
  have hstart : Mirrored Terms.reflect (DiplomacyCommandState.default who buckets).terms :=
    fun _ _ => reflect_default.symm
  obtain ⟨hm, hc⟩ := commitAll_keeps wires hstart
  refine ⟨fun s t => ?_, fun s good => ?_, fun wire a b h => commit_others _ h⟩
  · have hst := hm t s
    refine ⟨fun good => ?_, congrArg Terms.treaty hst, congrArg Terms.attacks hst⟩
    exact congrFun (congrArg Terms.offers hst) good
  · have hheld := congrFun (congrFun hc s) good
    exact hheld.trans (Int32.add_zero _)

/-- Slot 0 offers slot 1 thirty of good 2. -/
def tributeWire : Bytes := [43, 0, 0, 0, 0, 1, 0, 0, 0, 2, 0, 0, 0, 30, 0, 0, 0]

theorem tribute_mirrored_and_conserved :
    let st := commitAll (.default (fun i => Int32.ofNat i.val) fun _ _ => 100) [tributeWire]
    (st.record 0 1).offers 2 = 30 ∧ (st.record 1 0).offers 2 = -30 ∧
      (st.record 0 1).offers 2 = -(st.record 1 0).offers 2 ∧
      (commit st tributeWire).record 2 3 = st.record 2 3 := by
  obtain ⟨hmirror, _, hothers⟩ :=
    records_mirrored_and_conserved (fun i => Int32.ofNat i.val) (fun _ _ => 100) [tributeWire]
  refine ⟨by decide, by decide, (hmirror 0 1).1 2, hothers tributeWire 2 3 ?_⟩
  rintro ⟨command, hdecode, hnames⟩
  have hcommand : decodeDiplomacyCommand tributeWire = .ok (.offer 0 1 2 30 false) := by decide
  obtain rfl := ok.inj (hcommand.symm.trans hdecode)
  revert hnames
  decide

end Don.Sim.Diplomacy
