import Don.Foundation.Bytes

/-!
# Diplomacy — plans for the diplomacy commands

The model of `diplomacy_command_plans.rs`.  A command (opcodes 37 to 45) is decoded from its bytes and
planned against a state: the plan holds the whole state after it and the steps taken on the way.  Only
an `Apply` plan is ever committed; declarations and acceptances stop at a boundary.

Every leader keeps a record for every other leader, so what two leaders have agreed on is written down
twice.
-/

namespace Don.Sim.Diplomacy

open Foundation

/-- A leader slot, `0..DIPLOMACY_SLOTS`. -/
abbrev Slot := Fin 8

/-- One of the `NUM_GOODS` goods. -/
abbrev Good := Fin 6

def slots : List Slot := List.finRange 8

def goods : List Good := List.finRange 6

/-! ## State -/

/-- The `Diplomacy` record of one leader towards another. -/
structure DiplomacyProposal where
  agreementPending : Int32
  proposalOpen : Int32
  treaty : Int32
  offers : Good → Int32
  declarationCosts : Good → Int32
  attacks : Slot → Int32
  deriving DecidableEq

namespace DiplomacyProposal

/-- `DiplomacyProposal::default` -/
def default : DiplomacyProposal where
  agreementPending := 0
  proposalOpen := 0
  treaty := -1
  offers := fun _ => 0
  declarationCosts := fun _ => 0
  attacks := fun _ => 0

def hasAnyOffer (p : DiplomacyProposal) : Bool :=
  goods.any fun good => p.offers good ≠ 0

def hasAnyProposal (p : DiplomacyProposal) : Bool :=
  p.treaty ≠ -1 || p.hasAnyOffer || slots.any fun whose => p.attacks whose ≠ 0

def clearOffers (p : DiplomacyProposal) : DiplomacyProposal :=
  { p with offers := fun _ => 0 }

def clearAll (_ : DiplomacyProposal) : DiplomacyProposal :=
  default

end DiplomacyProposal

structure DiplomacyLeaderState where
  proposals : Slot → DiplomacyProposal
  buckets : Good → Int32
  reservedResources : Good → Int32
  response314 : Slot → Int32
  response334 : Slot → Int32
  declarationFrame : Slot → Int32
  deriving DecidableEq

/-- `DiplomacyLeaderState::default`, with the given buckets. -/
def DiplomacyLeaderState.default (buckets : Good → Int32) : DiplomacyLeaderState where
  proposals := fun _ => .default
  buckets := buckets
  reservedResources := fun _ => 0
  response314 := fun _ => 0
  response334 := fun _ => 0
  declarationFrame := fun _ => 0

/-- The part of `LeaderTeamState` that plans read. -/
structure LeaderTeamState where
  leaderFlags : Int32
  who : Int32
  diplos : Slot → Int32
  deriving DecidableEq

def LeaderTeamState.isPresent (l : LeaderTeamState) : Bool :=
  l.leaderFlags &&& 1 ≠ 0

structure DiplomacyCommandState where
  setup : Slot → LeaderTeamState
  leaders : Slot → DiplomacyLeaderState
  frame : Int32
  noRushFrames : Int32
  localWho : Int32
  deriving DecidableEq

/-- `DiplomacyCommandState::default`, with the given identities and buckets. -/
def DiplomacyCommandState.default (who : Slot → Int32) (buckets : Slot → Good → Int32) :
    DiplomacyCommandState where
  setup := fun i => ⟨0, who i, fun _ => 0⟩
  leaders := fun i => .default (buckets i)
  frame := 0
  noRushFrames := 0
  localWho := -1

/-! ## Commands -/

inductive DiplomacyWireCommand where
  | treaty (sender target treaty : Int32)
  | declare (sender target treaty : Int32)
  | clearTributes (sender target : Int32)
  | clearAll (sender target : Int32)
  | accept (sender target : Int32)
  | reject (sender target : Int32)
  | offer (sender target good amount : Int32) (demand : Bool)
  | proposeAttack (sender target whose onoff : Int32)
  deriving DecidableEq

def DiplomacyWireCommand.sender : DiplomacyWireCommand → Int32
  | treaty s _ _ | declare s _ _ | clearTributes s _ | clearAll s _ | accept s _ | reject s _
  | offer s _ _ _ _ | proposeAttack s _ _ _ => s

def DiplomacyWireCommand.target : DiplomacyWireCommand → Int32
  | treaty _ t _ | declare _ t _ | clearTributes _ t | clearAll _ t | accept _ t | reject _ t
  | offer _ t _ _ _ | proposeAttack _ t _ _ => t

inductive DiplomacyDecodeError where
  | unsupportedOpcode (opcode : UInt8)
  | wrongWireLength (opcode : UInt8) (expected actual : Nat)
  deriving DecidableEq

def wireLength (opcode : UInt8) : Option Nat :=
  if opcode = 37 ∨ opcode = 38 then some 13
  else if opcode = 39 ∨ opcode = 40 ∨ opcode = 41 ∨ opcode = 42 then some 9
  else if opcode = 43 ∨ opcode = 44 ∨ opcode = 45 then some 17
  else none

def decodeDiplomacyCommand (bytes : Bytes) : Except DiplomacyDecodeError DiplomacyWireCommand :=
  let opcode := bytes.headD 255
  match wireLength opcode with
  | none => .error (.unsupportedOpcode opcode)
  | some expected =>
    if bytes.length ≠ expected then
      .error (.wrongWireLength opcode expected bytes.length)
    else
      let sender := i32le bytes 1
      let target := i32le bytes 5
      .ok <|
        if opcode = 37 then .treaty sender target (i32le bytes 9)
        else if opcode = 38 then .declare sender target (i32le bytes 9)
        else if opcode = 39 then .clearTributes sender target
        else if opcode = 40 then .clearAll sender target
        else if opcode = 41 then .accept sender target
        else if opcode = 42 then .reject sender target
        else if opcode = 43 then .offer sender target (i32le bytes 9) (i32le bytes 13) false
        -- a demand is an offer of the wrapping negation
        else if opcode = 44 then .offer sender target (i32le bytes 9) (-i32le bytes 13) true
        else .proposeAttack sender target (i32le bytes 9) (i32le bytes 13)

/-! ## Plans -/

inductive DiplomacyPlanError where
  | decode (error : DiplomacyDecodeError)
  | leaderOutOfRange (value : Int32)
  | goodOutOfRange (value : Int32)
  | attackLeaderOutOfRange (value : Int32)
  | leaderIdentityMismatch (slot : Slot) (who : Int32)
  deriving DecidableEq

inductive LocalNotice where
  | tributesCleared
  | proposalsCleared
  | rejected
  | counterproposalRejected
  | noRushDeclaration
  | insufficientTribute
  deriving DecidableEq

inductive ResponseCounterField where
  | tributeDemanded334
  | counteroffer314
  deriving DecidableEq

inductive DiplomacyStep where
  | clickStamp (sender target : Slot)
  | markProposalOpen (sender target : Slot)
  | clearAgreement (leader target : Slot)
  | clearOffers (sender target : Slot)
  | clearAll (sender target : Slot)
  | clearProposalRecord (leader target : Slot)
  | writeTreaty (sender target : Slot) (treaty : Int32)
  | writeOffer (sender target : Slot) (good : Good) (amount : Int32)
  | writeAttack (sender target whose : Slot) (onoff : Int32)
  | clearResponseCounter (sender target : Slot) (field : ResponseCounterField)
  | rejectCounterproposalSelfGate (sender target candidate : Slot)
  | declarationAlreadyEnemy (sender target : Slot)
  | rewriteAlliedWarRequestToNeutral (sender target : Slot)
  | refuseInsufficientTribute (sender target : Slot) (good : Good) (amount : Int32)
  | localNotice (who : Slot) (notice : LocalNotice)
  | sound (category : Int32)
  deriving DecidableEq

inductive DiplomacyBoundary where
  | declarationResourceAndDiploChange (sender target : Slot) (requested effective : Int32)
  | acceptTransferAndDiploChange (sender target : Slot)
  deriving DecidableEq

structure DiplomacyCommandPlan where
  command : DiplomacyWireCommand
  state : DiplomacyCommandState
  steps : List DiplomacyStep
  deriving DecidableEq

structure DiplomacyBoundaryPlan where
  command : DiplomacyWireCommand
  steps : List DiplomacyStep
  boundary : DiplomacyBoundary
  deriving DecidableEq

inductive DiplomacyPlanDecision where
  | apply (plan : DiplomacyCommandPlan)
  | boundary (plan : DiplomacyBoundaryPlan)
  deriving DecidableEq

abbrev Planned := Except DiplomacyPlanError

namespace DiplomacyCommandState

/-- A slot is sent as a 32-bit word. -/
def slot (value : Int32) : Planned Slot :=
  if h : 0 ≤ value.toInt ∧ value.toInt < 8 then .ok ⟨value.toInt.toNat, by omega⟩
  else .error (.leaderOutOfRange value)

variable (st : DiplomacyCommandState)

def checkIdentity (i : Slot) : Planned Unit :=
  if (st.setup i).who ≠ Int32.ofNat i.val then .error (.leaderIdentityMismatch i (st.setup i).who)
  else .ok ()

def pair (sender target : Int32) : Planned (Slot × Slot) := do
  let sender ← slot sender
  let target ← slot target
  st.checkIdentity sender
  st.checkIdentity target
  return (sender, target)

def getDiplo (sender target : Slot) : Planned Int32 := do
  let (sender, target) ← st.pair (Int32.ofNat sender.val) (Int32.ofNat target.val)
  if sender = target then
    return 2
  else
    let forward := (st.setup sender).diplos target
    let reverse := (st.setup target).diplos sender
    return if forward = 0 ∨ reverse = 0 then 0 else if forward = 2 ∧ reverse = 2 then 2 else 1

def isEnemy (sender target : Slot) : Planned Bool := do
  return (← st.getDiplo sender target) = 0

def isAlly (sender target : Slot) : Planned Bool := do
  return (← st.getDiplo sender target) = 2

/-- The record that `leader` keeps for `target`. -/
def record (leader target : Slot) : DiplomacyProposal :=
  (st.leaders leader).proposals target

def modifyLeader (leader : Slot) (f : DiplomacyLeaderState → DiplomacyLeaderState)
    (st : DiplomacyCommandState) : DiplomacyCommandState :=
  { st with leaders := Function.update st.leaders leader (f (st.leaders leader)) }

def modifyRecord (leader target : Slot) (f : DiplomacyProposal → DiplomacyProposal) :
    DiplomacyCommandState → DiplomacyCommandState :=
  modifyLeader leader fun l =>
    { l with proposals := Function.update l.proposals target (f (l.proposals target)) }

def markOpen (sender target : Slot) : DiplomacyCommandState → DiplomacyCommandState :=
  modifyRecord sender target fun p => { p with proposalOpen := 1 }

end DiplomacyCommandState

/-! ### Agreements -/

/-- Move up to `amount` from the reserve (first) back to the bucket (second). -/
def giveBack (amount : Int32) (held : Int32 × Int32) : Int32 × Int32 :=
  let returned := if held.1 ≤ amount then held.1 else amount
  (held.1 - returned, held.2 + returned)

/-- What one turn of the refund loop does to the reserve and the bucket of a good. -/
def refund (p : DiplomacyProposal) (good : Good) (held : Int32 × Int32) : Int32 × Int32 :=
  let held := if p.declarationCosts good ≠ 0 then giveBack (p.declarationCosts good) held else held
  if 0 < p.offers good then giveBack (p.offers good) held else held

/-- `clear_agreement` without its receipt.  The turns of the refund loop are about different goods, so
the loop is a function of the good. -/
def DiplomacyLeaderState.clearAgreement (target : Slot) (l : DiplomacyLeaderState) :
    DiplomacyLeaderState :=
  let p := l.proposals target
  let pending := p.agreementPending = 1
  let held (good : Good) := refund p good (l.reservedResources good, l.buckets good)
  { l with
    reservedResources := fun good => if pending then (held good).1 else l.reservedResources good
    buckets := fun good => if pending then (held good).2 else l.buckets good
    proposals := Function.update l.proposals target
      { p with
        declarationCosts := if pending then fun _ => 0 else p.declarationCosts
        agreementPending := 0
        proposalOpen := 0 } }

/-- A state under work and the steps so far. -/
structure Draft where
  state : DiplomacyCommandState
  steps : List DiplomacyStep

namespace Draft

def push (step : DiplomacyStep) (d : Draft) : Draft :=
  { d with steps := d.steps ++ [step] }

def pushIf (cond : Bool) (step : DiplomacyStep) (d : Draft) : Draft :=
  if cond then d.push step else d

def edit (f : DiplomacyCommandState → DiplomacyCommandState) (d : Draft) : Draft :=
  { d with state := f d.state }

def clearAgreement (leader target : Slot) (d : Draft) : Draft :=
  (d.edit (.modifyLeader leader (.clearAgreement target))).push (.clearAgreement leader target)

def clearPairAgreements (sender target : Slot) (d : Draft) : Draft :=
  (d.clearAgreement sender target).clearAgreement target sender

def clearResponseCounters (sender target : Slot) (d : Draft) : Draft :=
  let d := d.edit (.modifyLeader sender fun l =>
    { l with response334 := Function.update l.response334 target 0 })
  let d := d.push (.clearResponseCounter sender target .tributeDemanded334)
  let d := d.edit (.modifyLeader sender fun l =>
    { l with response314 := Function.update l.response314 target 0 })
  d.push (.clearResponseCounter sender target .counteroffer314)

def editPair (sender target : Slot) (f f' : DiplomacyProposal → DiplomacyProposal) (d : Draft) : Draft :=
  (d.edit (.modifyRecord sender target f)).edit (.modifyRecord target sender f')

def markOpen (sender target : Slot) (d : Draft) : Draft :=
  (d.edit (.markOpen sender target)).push (.markProposalOpen sender target)

end Draft

/-! ### The commands one by one -/

section

variable (before : DiplomacyCommandState) (sender target : Slot)

def isLocal (who : Slot) : Bool :=
  before.localWho = Int32.ofNat who.val

def planTreaty (treaty : Int32) : Draft :=
  let d := (Draft.mk before []).push (.clickStamp sender target)
  let d := (d.markOpen sender target).clearPairAgreements sender target
  let d := d.editPair sender target (fun p => { p with treaty }) fun p => { p with treaty }
  d.push (.writeTreaty sender target treaty)

def planClearTributes : Draft :=
  let d := (Draft.mk before []).clearPairAgreements sender target
  let d := d.pushIf (isLocal before target && (d.state.record sender target).hasAnyOffer)
    (.localNotice target .tributesCleared)
  let d := d.editPair sender target .clearOffers .clearOffers
  d.push (.clearOffers sender target)

def planClearAll : Draft :=
  let d := (Draft.mk before []).push (.clickStamp sender target)
  let d := d.clearPairAgreements sender target
  let d := d.pushIf (isLocal before target && (d.state.record sender target).hasAnyProposal)
    (.localNotice target .proposalsCleared)
  let d := d.editPair sender target .clearAll .clearAll
  d.push (.clearAll sender target)

/-- The scan of attack counterproposals, which leaves receipts only. -/
def counterproposals : Planned (List DiplomacyStep) := do
  if (before.setup sender).leaderFlags &&& 4 ≠ 0 ∧ (before.setup target).leaderFlags &&& 4 = 0 then
    if ← before.isAlly sender target then
      let candidates := slots.filter fun candidate =>
        (before.setup candidate).isPresent && (before.record sender target).attacks candidate ≠ 0
      return candidates.map (.rejectCounterproposalSelfGate sender target)
  return []

/-- The rejection of a proposal without a pending agreement (mode 2). -/
def planRejectProposal : Planned Draft := do
  let d := (Draft.mk before []).clearResponseCounters sender target
  let scanned ← counterproposals before sender target
  let d := (scanned.foldl (fun d step => d.push step) d).clearPairAgreements sender target
  -- here the record of the target is cleared first
  let d := d.edit (.modifyRecord target sender .clearAll)
  let d := d.push (.clearProposalRecord target sender)
  let d := d.edit (.modifyRecord sender target .clearAll)
  let d := d.push (.clearProposalRecord sender target)
  let d := d.pushIf (isLocal before target) (.localNotice target .counterproposalRejected)
  return d.pushIf (isLocal before target) (.sound 0x18)

def planReject : Planned Draft :=
  if (before.record sender target).agreementPending ≠ 1 then
    planRejectProposal before sender target
  else
    let d := (Draft.mk before []).clearResponseCounters sender target
    let d := d.clearAgreement sender target
    .ok (d.pushIf (isLocal before target) (.localNotice target .rejected))

def goodIndex (value : Int32) : Planned Good :=
  if h : 0 ≤ value.toInt ∧ value.toInt < 6 then .ok ⟨value.toInt.toNat, by omega⟩
  else .error (.goodOutOfRange value)

def planOffer (good amount : Int32) : Planned Draft := do
  let good ← goodIndex good
  let d := (Draft.mk before []).push (.clickStamp sender target)
  let current := (before.record sender target).offers good
  if 0 < amount ∧ (before.leaders sender).buckets good < current + amount then
    let d := d.push (.refuseInsufficientTribute sender target good amount)
    return d.pushIf (isLocal before sender) (.localNotice sender .insufficientTribute)
  else
    let d := (d.markOpen sender target).clearPairAgreements sender target
    let d := d.editPair sender target
      (fun p => { p with offers := Function.update p.offers good (p.offers good + amount) })
      fun p => { p with offers := Function.update p.offers good (p.offers good - amount) }
    return d.push (.writeOffer sender target good amount)

def attackIndex (value : Int32) : Planned Slot :=
  if h : 0 ≤ value.toInt ∧ value.toInt < 8 then .ok ⟨value.toInt.toNat, by omega⟩
  else .error (.attackLeaderOutOfRange value)

def planProposeAttack (whose onoff : Int32) : Planned Draft := do
  let d := (Draft.mk before []).push (.clickStamp sender target)
  let d := d.markOpen sender target
  if 0 ≤ whose then
    let whose ← attackIndex whose
    let d := d.clearPairAgreements sender target
    let d := d.editPair sender target
      (fun p => { p with attacks := Function.update p.attacks whose onoff })
      fun p => { p with attacks := Function.update p.attacks whose onoff }
    return d.push (.writeAttack sender target whose onoff)
  else
    return d

/-- The later of the two declaration stamps of a pair. -/
def lastDeclaration : Int32 :=
  let stamp := (before.leaders sender).declarationFrame target
  let stamp' := (before.leaders target).declarationFrame sender
  if stamp ≤ stamp' then stamp' else stamp

/-- A declaration against a leader who is not an enemy: refused without effect while there is no rush,
or stopped at the boundary. -/
def planDeclareChange (treaty : Int32) (allied : Bool) : Draft ⊕ (List DiplomacyStep × DiplomacyBoundary) :=
  if allied then
    .inr ([.rewriteAlliedWarRequestToNeutral sender target],
      .declarationResourceAndDiploChange sender target treaty 1)
  else
    let last := lastDeclaration before sender target
    if treaty = 0 ∧ last ≠ 0 ∧ before.frame - last < before.noRushFrames then
      .inl ((Draft.mk before []).pushIf (isLocal before sender) (.localNotice sender .noRushDeclaration))
    else
      .inr ([], .declarationResourceAndDiploChange sender target treaty treaty)

def planDeclare (treaty : Int32) : Planned (Draft ⊕ (List DiplomacyStep × DiplomacyBoundary)) := do
  if ← before.isEnemy sender target then
    return .inl ((Draft.mk before []).push (.declarationAlreadyEnemy sender target))
  else
    -- only a request for war asks whether the two are allies
    let allied ← if treaty = 0 then before.isAlly sender target else pure false
    return planDeclareChange before sender target treaty allied

end

def Draft.decide (command : DiplomacyWireCommand) (d : Draft) : DiplomacyPlanDecision :=
  .apply ⟨command, d.state, d.steps⟩

def planCommand (before : DiplomacyCommandState) (command : DiplomacyWireCommand) (sender target : Slot) :
    Planned DiplomacyPlanDecision :=
  match command with
  | .treaty _ _ treaty => .ok ((planTreaty before sender target treaty).decide command)
  | .declare _ _ treaty => do
    match ← planDeclare before sender target treaty with
    | .inl d => return d.decide command
    | .inr (steps, boundary) => return .boundary ⟨command, steps, boundary⟩
  | .clearTributes _ _ => .ok ((planClearTributes before sender target).decide command)
  | .clearAll _ _ => .ok ((planClearAll before sender target).decide command)
  | .accept _ _ =>
    let d := (Draft.mk before []).clearResponseCounters sender target
    .ok (.boundary ⟨command, d.steps, .acceptTransferAndDiploChange sender target⟩)
  | .reject _ _ => do return (← planReject before sender target).decide command
  | .offer _ _ good amount _ => do return (← planOffer before sender target good amount).decide command
  | .proposeAttack _ _ whose onoff => do
    return (← planProposeAttack before sender target whose onoff).decide command

def planDiplomacyCommand (before : DiplomacyCommandState) (wire : Bytes) :
    Planned DiplomacyPlanDecision := do
  let command ← (decodeDiplomacyCommand wire).mapError .decode
  let (sender, target) ← before.pair command.sender command.target
  planCommand before command sender target

/-! ## Runs -/

/-- A host commits the state of an `Apply` plan; any other answer leaves the state alone. -/
def commit (st : DiplomacyCommandState) (wire : Bytes) : DiplomacyCommandState :=
  match planDiplomacyCommand st wire with
  | .ok (.apply plan) => plan.state
  | _ => st

def commitAll (st : DiplomacyCommandState) (wires : List Bytes) : DiplomacyCommandState :=
  wires.foldl commit st

end Don.Sim.Diplomacy
