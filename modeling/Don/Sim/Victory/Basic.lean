import Don.Foundation.Bytes
import Don.Foundation.Proc
import Mathlib.Data.Fintype.Card
import Mathlib.Data.Fintype.Pi
import Mathlib.Data.List.FinRange
import Mathlib.Logic.Function.Basic

/-!
# Victory — outcomes of a match

The eight leader slots, the match they play, and the per-frame sweep that decides who has won and who
is out.  `victory`, `defeat` and `check_victory` call each other while the set of active leaders
shrinks, so they are procedures that may not return (`Proc`); that they do is a theorem.

The component scores of a leader (units, buildings, economy, upgrades, research) read tables that
nothing else here reads.  They are parameters, and only of the branch in which the armageddon clock is
still running; otherwise every component is zero.
-/

namespace Don.Sim

open Foundation Proc

abbrev Seat := Fin 8

/-- All slots, in the order every loop visits them. -/
def seats : List Seat := List.finRange 8

lemma mem_seats (i : Seat) : i ∈ seats := List.mem_finRange i

/-! ## Flags and settings -/

/-- The bits of `leader_flags`. -/
inductive LeaderFlag where
  | valid
  | active
  | human
  | won
  | defeated
  | survived
  | newUnits
  | newTech
  deriving DecidableEq

def LeaderFlag.bit : LeaderFlag → Nat
  | valid => 0
  | active => 1
  | human => 2
  | won => 5
  | defeated => 6
  | survived => 7
  | newUnits => 23
  | newTech => 24

def LeaderFlag.mask (f : LeaderFlag) : BitVec 32 := BitVec.twoPow 32 f.bit

/-- The bits of `leader_flags2` that are written here. -/
inductive LeaderFlag2 where
  | unitAiOff
  | instantVictory
  | instantDefeat
  deriving DecidableEq

def LeaderFlag2.mask : LeaderFlag2 → BitVec 32
  | unitAiOff => 0x2#32
  | instantVictory => 0x100#32
  | instantDefeat => 0x200#32

/-- The bits of the game's semaphore that are read or written here. -/
inductive GameSem where
  | netOrRecording
  | gameOver
  | teamScoring
  | victoryResolved
  deriving DecidableEq

def GameSem.bit : GameSem → Nat
  | netOrRecording => 2
  | gameOver => 6
  | teamScoring => 7
  | victoryResolved => 22

inductive Victory where
  | standard
  | suddenDeath
  | conquest
  | score
  | timeLimit
  | musicalChairs
  | wonder
  | population
  | economic
  | techRace
  | scenario
  deriving DecidableEq

def Victory.code : Victory → UInt8
  | standard => 0
  | suddenDeath => 1
  | conquest => 2
  | score => 3
  | timeLimit => 4
  | musicalChairs => 5
  | wonder => 6
  | population => 7
  | economic => 8
  | techRace => 9
  | scenario => 10

inductive VictoryType where
  | generic
  | byWonder
  | byTerritory
  | byTechRace
  | byScore
  | byEconomy
  | byTimeLimit
  deriving DecidableEq

def VictoryType.code : VictoryType → Int32
  | generic => 0
  | byWonder => 1
  | byTerritory => 2
  | byTechRace => 3
  | byScore => 4
  | byEconomy => 5
  | byTimeLimit => 6

inductive DefeatType where
  | conquest
  | capital
  | suddenDeathCapital
  | suddenDeath
  | musicalChairs
  | victory
  | resign
  | disconnect
  | armageddon
  | scenario
  | hero
  deriving DecidableEq

def DefeatType.code : DefeatType → Int32
  | conquest => 0
  | capital => 1
  | suddenDeathCapital => 2
  | suddenDeath => 3
  | musicalChairs => 4
  | victory => 5
  | resign => 6
  | disconnect => 7
  | armageddon => 8
  | scenario => 9
  | hero => 10

inductive Diplo where
  | war
  | peace
  | ally
  deriving DecidableEq

/-- War if either side declares it, an alliance only if both do. -/
def effectiveDiplo (samePlayer : Bool) (declaredAb declaredBa : Int32) : Diplo :=
  if samePlayer then
    .ally
  else if declaredAb = 0 ∨ declaredBa = 0 then
    .war
  else if declaredAb = 2 ∧ declaredBa = 2 then
    .ally
  else
    .peace

/-- Divide by two, truncating toward zero. -/
def halfTrunc (x : Int32) : Int32 := (x - (x >>> 31)) >>> 1

/-! ## The match -/

structure MatchOptions where
  teamStyle : UInt8
  startingResources : UInt8
  victory : UInt8
  wonderwin : UInt8
  scoreGoal : UInt8
  popwin : UInt8
  timeLimit : UInt8
  chairs : UInt8
  econwin : UInt8
  deriving DecidableEq

structure MatchConstants where
  wonderTimer : Int32
  popwinTimer : Int32
  armageddon : Int32
  armageddonPerNation : Int32
  armageddonPerTeam : Int32
  deriving DecidableEq

structure VictoryOptions where
  scores : List Int32
  timeLimits : List Int32
  chairs : List Int32
  wonderwins : List Int32
  popwins : List Int32
  econwins : List Int32
  mapSizes : List Int32
  deriving DecidableEq

structure Match where
  options : MatchOptions
  constants : MatchConstants
  victoryOptions : VictoryOptions
  frame : Int32
  tick : Int32
  numNations : Int32
  numSides : Int32
  musicalChairs : Int32
  armageddon : Int32
  semaphore : BitVec 32
  worldXs : Int32
  worldLandSize : Int32
  deriving DecidableEq

namespace Match

def sem (m : Match) (b : GameSem) : Bool :=
  m.semaphore &&& BitVec.twoPow 32 b.bit ≠ 0

def setSem (m : Match) (b : GameSem) : Match :=
  { m with semaphore := m.semaphore ||| BitVec.twoPow 32 b.bit }

/-- The number of nukes that ends the match. -/
def getArmageddon (m : Match) : Int32 :=
  let v := m.constants.armageddonPerTeam * m.numSides
    + m.constants.armageddonPerNation * m.numNations + m.constants.armageddon
  let r := m.options.startingResources
  let v := if r = 7 then v * 3 else if r = 5 ∨ r = 6 ∨ r = 11 ∨ r = 12 then v * 2 else v
  if r = 8 ∧ v < 100 then 100 else v

def armageddonReached (m : Match) : Bool :=
  m.getArmageddon ≤ m.armageddon

end Match

/-! ## Leaders -/

structure Scores where
  score : Int32
  explored : Int32
  territory : Int32
  units : Int32
  units2 : Int32
  buildings : Int32
  economy : Int32
  pop : Int32
  unitUpgrades : Int32
  research : Int32
  wonders : Int32
  combat : Int32
  deriving DecidableEq

/-- `reset_score` -/
def Scores.zero : Scores := ⟨0, 0, 0, 0, 0, 0, 0, 0, 0, 0, 0, 0⟩

/-- A leader; `rest` is what only the component scores read. -/
structure LeaderState (ρ : Type) where
  leaderFlags : BitVec 32
  leaderFlags2 : BitVec 32
  who : Int32
  defeatedBy : Int32
  scores : Scores
  diplos : Seat → Int32
  popwinStamp : Int32
  popwinTimer : Int32
  wonderwinStamp : Int32
  wonderwinTimer : Int32
  victoryType : Int32
  defeatType : Int32
  numQueued : List UInt16
  territory : Int32
  economic : Int32
  hasPreq2b9 : Bool
  rest : ρ

namespace LeaderState

variable {ρ : Type} (l : LeaderState ρ)

def flag (f : LeaderFlag) : Bool :=
  l.leaderFlags &&& f.mask ≠ 0

def isActive : Bool :=
  l.leaderFlags &&& (LeaderFlag.valid.mask ||| LeaderFlag.active.mask)
    = LeaderFlag.valid.mask ||| LeaderFlag.active.mask

/-- Active and not yet defeated. -/
def isAlive : Bool :=
  l.leaderFlags &&& (LeaderFlag.valid.mask ||| LeaderFlag.active.mask ||| LeaderFlag.defeated.mask)
    = LeaderFlag.valid.mask ||| LeaderFlag.active.mask

def setFlag (f : LeaderFlag) : LeaderState ρ :=
  { l with leaderFlags := l.leaderFlags ||| f.mask }

def clearFlag (f : LeaderFlag) : LeaderState ρ :=
  { l with leaderFlags := l.leaderFlags &&& ~~~f.mask }

def putFlag2 (f : LeaderFlag2) (on : Bool) : LeaderState ρ :=
  { l with leaderFlags2 := if on then l.leaderFlags2 ||| f.mask else l.leaderFlags2 &&& ~~~f.mask }

end LeaderState

inductive MatchEvent where
  | victory (who : Seat) (type : VictoryType)
  | defeat (who : Seat) (type : DefeatType)
  | armageddonAll
  | gameOver
  deriving DecidableEq

/-- The leaders and the match: what the procedures below work on.  `teamOf` is the team of a slot in the
player setup. -/
structure Game (ρ : Type) where
  leader : Seat → LeaderState ρ
  teamOf : Seat → Int32
  events : List MatchEvent
  terminalQueueCleanup : UInt8
  defeatUnitCleanup : UInt8
  «match» : Match

/-- A Rust panic. -/
inductive Panic where
  | indexOutOfBounds
  | divideError
  deriving DecidableEq

abbrev Play (ρ : Type) := Proc (Game ρ) Panic

namespace Game

variable {ρ : Type} (g : Game ρ)

def isAlly (i j : Seat) : Bool :=
  effectiveDiplo (i = j) ((g.leader i).diplos j) ((g.leader j).diplos i) = .ally

variable (who : Seat)

def modifyLeader (f : LeaderState ρ → LeaderState ρ) (g : Game ρ) : Game ρ :=
  { g with leader := Function.update g.leader who (f (g.leader who)) }

def pushEvent (e : MatchEvent) (g : Game ρ) : Game ρ :=
  { g with events := g.events ++ [e] }

def requestTerminalQueueCleanup (g : Game ρ) : Game ρ :=
  { g with terminalQueueCleanup := g.terminalQueueCleanup ||| 1 <<< UInt8.ofNat who.val }

def requestDefeatUnitCleanup (g : Game ρ) : Game ρ :=
  { g with defeatUnitCleanup := g.defeatUnitCleanup ||| 1 <<< UInt8.ofNat who.val }

def modifyMatch (f : Match → Match) (g : Game ρ) : Game ρ :=
  { g with «match» := f g.match }

/-- The valid leaders allied with a slot, and the slot itself. -/
def teamMates : List Seat :=
  seats.filter fun i => i = who || ((g.leader i).flag .valid && g.isAlly who i)

def teamSum (value : LeaderState ρ → Int32) (who : Seat) : Int32 :=
  (g.teamMates who).foldl (fun sum i => sum + value (g.leader i)) 0

def teamAverage (value : LeaderState ρ → Int32) (who : Seat) : Int32 :=
  g.teamSum value who / Int32.ofNat (max (g.teamMates who).length 1)

/-- The own score of a player, or the average of the team under team scoring. -/
def getTeamScore : Int32 :=
  if g.match.sem .teamScoring then
    g.teamAverage (·.scores.score) who
  else
    (g.leader who).scores.score

def getTeamTerr : Int32 :=
  g.teamSum (·.territory) who

def getTeamEconomic : Int32 :=
  g.teamAverage (·.economic) who

/-! ## Wonder points -/

/-- One slot of the wonder loop, with the best points so far and the candidate. -/
def wonderStep (threshold : Int32) (net value : Seat → Int32)
    (acc : Int32 × Option Seat) (i : Seat) : Int32 × Option Seat :=
  -- the points of a slot that gets past the comparison with the best
  let consider (ret : Option Seat) : Int32 × Option Seat :=
    if net i < threshold then (acc.1, ret) else (net i, some i)
  if !(g.leader i).isActive then
    acc
  else if net i < acc.1 then
    acc
  else if net i = acc.1 then
    match acc.2 with
    | none => acc
    | some cur =>
      if g.isAlly i cur then
        (acc.1, if value cur < value i then some i else some cur)
      else
        -- the candidate is dropped, and the loop goes on with this slot
        consider none
  else
    consider acc.2

def wonderWinning (threshold : Int32) (net value : Seat → Int32) : Option Seat :=
  (seats.foldl (g.wonderStep threshold net value) (0, none)).2

end Game

/-! ## Procedures -/

variable {ρ : Type}

def lookup (table : List Int32) (i : Nat) : Play ρ Int32 :=
  Proc.ofOption .indexOutOfBounds table[i]?

/-- Division, which panics on zero and on the one quotient that does not fit. -/
def divide (a b : Int32) : Play ρ Int32 :=
  if b = 0 ∨ (a = Int32.minValue ∧ b = -1) then Proc.throw .divideError else pure (a / b)

def forEach (f : Seat → Play ρ Unit) : List Seat → Play ρ Unit
  | [] => pure ()
  | i :: is => do
    f i
    forEach f is

def forUntil (f : Seat → Play ρ Bool) : List Seat → Play ρ Unit
  | [] => pure ()
  | i :: is => do
    if ← f i then pure () else forUntil f is

/-- The three functions that call each other. -/
structure Calls (ρ : Type) where
  victory : Seat → VictoryType → Int32 → Play ρ Unit
  defeat : Seat → DefeatType → Int32 → Int32 → Play ρ Unit
  checkVictory : Play ρ Bool

namespace Calls

variable (c : Calls ρ)

/-! ### Winning -/

variable (who : Seat)

def markWon (vt : VictoryType) (instant : Int32) (g : Game ρ) : Game ρ :=
  (((g.modifyLeader who fun l =>
    { ((l.setFlag .won).putFlag2 .instantVictory (instant ≠ 0)) with
      victoryType := vt.code
      numQueued := l.numQueued.map fun _ => 0 }).requestTerminalQueueCleanup who).pushEvent
    (.victory who vt))

/-- What a victory means to another slot: a win for an active ally, a defeat for any other active
leader. -/
def spread (vt : VictoryType) (instant : Int32) (other : Seat) : Play ρ Unit := do
  let g ← Proc.gets id
  if other = who || !(g.leader other).isActive then
    pure ()
  else
    Proc.modify (Game.modifyLeader other (·.setFlag .survived))
    if g.isAlly other who then c.victory other vt instant else c.defeat other .victory (-1) 0

def victoryBody (vt : VictoryType) (instant : Int32) : Play ρ Unit := do
  let l ← Proc.gets (·.leader who)
  if l.flag .won || l.flag .defeated then
    pure ()
  else
    Proc.modify (markWon who vt instant)
    forEach (c.spread who vt instant) seats

/-! ### Losing -/

def markDefeated (dt : DefeatType) (instant : Int32) (g : Game ρ) : Game ρ :=
  (((((g.modifyLeader who fun l =>
    { ((((l.putFlag2 .instantDefeat (instant ≠ 0)).clearFlag .active).setFlag .defeated).putFlag2
        .unitAiOff true) with
      defeatType := dt.code
      numQueued := l.numQueued.map fun _ => 0 }).modifyMatch fun m =>
    -- any defeat restarts the musical-chairs interval
    { m with musicalChairs := m.frame }).requestTerminalQueueCleanup who).requestDefeatUnitCleanup
    who).pushEvent (.defeat who dt))

/-- The match is checked after a defeat unless it is already over. -/
def recheck : Play ρ Unit := do
  let m ← Proc.gets (·.match)
  if m.sem .gameOver then
    pure ()
  else
    let _ ← c.checkVictory
    pure ()

def defeatBody (dt : DefeatType) (by_ instant : Int32) : Play ρ Unit := do
  Proc.modify (Game.modifyLeader who fun l => { l with defeatedBy := by_ })
  let l ← Proc.gets (·.leader who)
  if l.flag .defeated then
    pure ()
  else
    Proc.modify (markDefeated who dt instant)
    c.recheck

/-! ### Last team standing -/

/-- Every living leader is allied with the first one. -/
def allAllied (g : Game ρ) : Bool :=
  match seats.filter fun i => (g.leader i).isAlive with
  | [] => true
  | first :: rest => rest.all fun i => g.isAlly i first

/-- Mark the active leaders as survivors and find the first undefeated one.  The answer is `none` when
another undefeated one is neither a winner nor its ally. -/
def markSurvivors : List Seat → Option Seat → Play ρ (Option (Option Seat))
  | [], winner => return some winner
  | i :: is, winner => do
    let g ← Proc.gets id
    if !(g.leader i).isActive then
      markSurvivors is winner
    else
      Proc.modify (Game.modifyLeader i (·.setFlag .survived))
      if (g.leader i).flag .defeated then
        markSurvivors is winner
      else
        match winner with
        | none => markSurvivors is (some i)
        | some w =>
          if !(g.leader i).flag .won && !g.isAlly i w then
            return none
          else
            markSurvivors is (some w)

def crown : Option (Option Seat) → Play ρ Unit
  | some (some w) => c.victory w .generic 0
  | _ => pure ()

/-- Unless the world has ended, the survivors win. -/
def resolve : Play ρ Unit := do
  let m ← Proc.gets (·.match)
  if m.armageddonReached then
    pure ()
  else
    c.crown (← markSurvivors seats none)

def checkVictoryBody : Play ρ Bool := do
  let g ← Proc.gets id
  if g.match.sem .gameOver then
    return true
  else if !allAllied g then
    return false
  else
    Proc.modify fun g => (g.modifyMatch (·.setSem .gameOver)).pushEvent .gameOver
    c.resolve
    Proc.modify (Game.modifyMatch (·.setSem .victoryResolved))
    return true

/-- One unfolding of the recursion. -/
def body : Calls ρ where
  victory := c.victoryBody
  defeat := c.defeatBody
  checkVictory := c.checkVictoryBody

/-- The recursion unfolded to a depth. -/
def upTo : Nat → Calls ρ
  | 0 => ⟨fun _ _ _ => Proc.hang, fun _ _ _ _ => Proc.hang, Proc.hang⟩
  | k + 1 => (upTo k).body

/-- Every function of `c` approximates that of `d`. -/
structure Le (c d : Calls ρ) : Prop where
  victory : ∀ who vt instant, (c.victory who vt instant).Le (d.victory who vt instant)
  defeat : ∀ who dt by_ instant, (c.defeat who dt by_ instant).Le (d.defeat who dt by_ instant)
  checkVictory : c.checkVictory.Le d.checkVictory

lemma forEach_le {f g : Seat → Play ρ Unit} (h : ∀ i, (f i).Le (g i)) :
    ∀ is, (forEach f is).Le (forEach g is) := by
  intro is
  induction is with
  | nil => exact Le.refl _
  | cons i is ih => exact bind_le (h i) fun _ => ih

lemma body_le {c d : Calls ρ} (h : c.Le d) : c.body.Le d.body where
  victory := by
    intro who vt instant
    refine bind_le (Le.refl _) fun l => ?_
    split
    · exact Le.refl _
    refine bind_le (Le.refl _) fun _ => forEach_le (fun other => ?_) seats
    refine bind_le (Le.refl _) fun g => ?_
    split
    · exact Le.refl _
    · refine bind_le (Le.refl _) fun _ => ?_
      split
      · exact h.victory _ _ _
      · exact h.defeat _ _ _ _
  defeat := by
    intro who dt by_ instant
    refine bind_le (Le.refl _) fun _ => bind_le (Le.refl _) fun l => ?_
    split
    · exact Le.refl _
    · refine bind_le (Le.refl _) fun _ => bind_le (Le.refl _) fun m => ?_
      split
      · exact Le.refl _
      · exact bind_le h.checkVictory fun _ => Le.refl _
  checkVictory := by
    refine bind_le (Le.refl _) fun g => ?_
    split
    · exact Le.refl _
    split
    · exact Le.refl _
    refine bind_le (Le.refl _) fun _ => bind_le ?_ fun _ => Le.refl _
    refine bind_le (Le.refl _) fun m => ?_
    split
    · exact Le.refl _
    · refine bind_le (Le.refl _) fun winner => ?_
      match winner with
      | some (some w) => exact h.victory _ _ _
      | some none => exact Le.refl _
      | none => exact Le.refl _

lemma upTo_le (k : Nat) : (upTo k : Calls ρ).Le (upTo (k + 1)) := by
  induction k with
  | zero => exact ⟨fun _ _ _ => hang_le _, fun _ _ _ _ => hang_le _, hang_le _⟩
  | succ k ih => exact body_le ih

end Calls

variable (who : Seat)

/-- `Leader::victory` -/
def victory (vt : VictoryType) (instant : Int32) : Play ρ Unit :=
  Proc.limit (fun k => (Calls.upTo k).victory who vt instant)
    fun k => (Calls.upTo_le k).victory who vt instant

/-- `Leader::defeat` -/
def defeat (dt : DefeatType) (by_ instant : Int32) : Play ρ Unit :=
  Proc.limit (fun k => (Calls.upTo k).defeat who dt by_ instant)
    fun k => (Calls.upTo_le k).defeat who dt by_ instant

/-- `Game::check_victory` -/
def checkVictory : Play ρ Bool :=
  Proc.limit (fun k => (Calls.upTo k).checkVictory) fun k => (Calls.upTo_le k).checkVictory

/-! ## Scores -/

/-- The component scores of a leader while the armageddon clock runs: military, total and wonders apart,
each read off the leader's own record. -/
structure Scoring (ρ : Type) where
  units : Match → LeaderState ρ → Int32 × Int32
  builds : Match → LeaderState ρ → Int32 × Int32
  economy : Match → LeaderState ρ → Int32
  unitUpgrades : Match → LeaderState ρ → Int32
  research : Match → LeaderState ρ → Int32

namespace Scoring

variable (S : Scoring ρ) (m : Match)

/-- A component is zero once the clock has run out. -/
def unlessArmageddon {α : Type} (zero value : α) : α :=
  if m.armageddonReached then zero else value

def computeUnitScore (l : LeaderState ρ) : LeaderState ρ :=
  let v := unlessArmageddon m (0, 0) (S.units m l)
  { l with scores := { l.scores with units := v.1, units2 := v.2 } }

def computeBuildScore (l : LeaderState ρ) : LeaderState ρ :=
  let v := unlessArmageddon m (0, 0) (S.builds m l)
  { l with scores := { l.scores with buildings := v.1, wonders := v.2 } }

def computeEconomyScore (l : LeaderState ρ) : LeaderState ρ :=
  { l with scores := { l.scores with economy := unlessArmageddon m 0 (S.economy m l) } }

def computeUnitUpgradesScore (l : LeaderState ρ) : LeaderState ρ :=
  { l with scores := { l.scores with unitUpgrades := unlessArmageddon m 0 (S.unitUpgrades m l) } }

def computeResearchScore (l : LeaderState ρ) : LeaderState ρ :=
  { l with scores := { l.scores with research := unlessArmageddon m 0 (S.research m l) } }

def computeExploreScore (l : LeaderState ρ) : LeaderState ρ :=
  { l with scores := { l.scores with explored := 0 } }

/-- Population scores nothing. -/
def computePopScore (l : LeaderState ρ) : LeaderState ρ :=
  { l with scores := { l.scores with pop := 0 } }

def refreshUnits (l : LeaderState ρ) : LeaderState ρ :=
  if l.flag .newUnits || l.flag .newTech then
    (S.computeUnitScore m l).clearFlag .newUnits
  else
    l

/-- Upgrades and research are counted again when technologies are new. -/
def refreshTech (l : LeaderState ρ) : LeaderState ρ :=
  if l.flag .newTech then
    (S.computeResearchScore m (S.computeUnitUpgradesScore m l)).clearFlag .newTech
  else
    l

/-- The components, each recomputed when its inputs may have changed. -/
def components (l : LeaderState ρ) : LeaderState ρ :=
  let l := S.refreshUnits m (computeExploreScore l)
  let l := S.computeEconomyScore m (S.computeBuildScore m l)
  S.refreshTech m (computePopScore l)

/-- The total, in the order the engine adds it up. -/
def total (terr : Int32) (l : LeaderState ρ) : LeaderState ρ :=
  let s := { l.scores with territory := terr }
  if m.armageddonReached then
    { l with scores := Scores.zero }
  else
    { l with scores := { s with
        score := s.combat + s.wonders + s.research + s.unitUpgrades + s.economy + s.buildings
          + s.units + terr + s.pop + s.explored } }

/-- Whether the score of a slot is refreshed in this frame. -/
def refreshes (l : LeaderState ρ) (force : Int32) : Bool :=
  m.frame = 0 || force ≠ 0 || m.sem .gameOver || (l.who + m.frame) % 10 = 0

/-- `compute_score` -/
def computeScore (who : Seat) (force : Int32) : Play ρ Unit := do
  let g ← Proc.gets id
  if !refreshes g.match (g.leader who) force then
    pure ()
  else
    Proc.modify (Game.modifyLeader who (S.components g.match))
    let terr ← divide ((g.leader who).territory * 1000) g.match.worldLandSize
    Proc.modify (Game.modifyLeader who (total g.match terr))

/-! ## The per-frame sweep -/

/-- One slot of `defeat_all`. -/
def defeatOne (who : Seat) : Play ρ Unit := do
  let l ← Proc.gets (·.leader who)
  if l.flag .valid && l.flag .active && !l.flag .defeated then
    Proc.modify (Game.modifyLeader who (·.setFlag .survived))
    defeat who .armageddon (-1) 0
    S.computeScore who 1
  else
    S.computeScore who 1

/-- `Game::defeat_all` -/
def defeatAll : Play ρ Unit := do
  forEach S.defeatOne seats
  Proc.modify (Game.pushEvent .armageddonAll)

/-- 1. Armageddon. -/
def armageddonBlock : Play ρ Unit := do
  let m ← Proc.gets (·.match)
  if m.armageddonReached then S.defeatAll else pure ()

end Scoring

variable (m : Match)

def isSetting (v : Victory) : Bool :=
  m.options.victory = v.code

def standardish : Bool :=
  isSetting m .standard || isSetting m .suddenDeath

def mapScaled (base : Int32) : Play ρ Int32 :=
  if base ≤ 0 then
    return 0
  else do
    let s ← lookup m.victoryOptions.mapSizes 3
    let v ← divide (m.worldXs * base + halfTrunc s) s
    return if v < 1 then 1 else v

def expired (base stamp : Int32) : Play ρ Bool := do
  let timer ← mapScaled m base
  return timer - (m.frame - stamp) ≤ 0

/-! ### 2. Wonders -/

def cancelWonder (l : LeaderState ρ) : LeaderState ρ :=
  if l.wonderwinTimer ≠ 0 then
    { l with wonderwinTimer := 0, wonderwinStamp := l.wonderwinStamp - m.frame }
  else
    l

/-- Some valid member of the alliance has the prerequisite that skips the countdown. -/
def countdownBypassed (g : Game ρ) (who : Seat) : Bool :=
  seats.any fun member =>
    (g.leader member).flag .valid && (member = who || g.isAlly who member)
      && (g.leader member).hasPreq2b9

def countsDown (g : Game ρ) (who : Seat) : Bool :=
  isSetting g.match .standard && (g.match.sem .netOrRecording || 1 < g.match.numNations)
    && !countdownBypassed g who

def award (vt : VictoryType) (instant : Int32) : Play ρ Bool := do
  victory who vt instant
  return true

def awardIf (b : Bool) (who : Seat) (vt : VictoryType) : Play ρ Bool :=
  if b then award who vt 0 else pure false

def wonderCountdown : Play ρ Bool := do
  let g ← Proc.gets id
  if (g.leader who).wonderwinTimer = 0 then
    Proc.modify (Game.modifyLeader who fun l =>
      { l with wonderwinTimer := 1, wonderwinStamp := l.wonderwinStamp + g.match.frame })
    return false
  else
    awardIf (← expired g.match g.match.constants.wonderTimer (g.leader who).wonderwinStamp)
      who .byWonder

def wonderSlot (winner : Option Seat) (who : Seat) : Play ρ Bool := do
  let g ← Proc.gets id
  if !(g.leader who).isActive then
    return false
  else if !(winner.any fun w => who = w || g.isAlly who w) then
    Proc.modify (Game.modifyLeader who (cancelWonder g.match))
    return false
  else if !countsDown g who then
    award who .byWonder (if countdownBypassed g who then 1 else 0)
  else
    wonderCountdown who

def wonderBlock (net value : Seat → Int32) : Play ρ Unit := do
  let g ← Proc.gets id
  if standardish g.match || isSetting g.match .wonder then
    let threshold ← lookup g.match.victoryOptions.wonderwins g.match.options.wonderwin.toNat
    forUntil (wonderSlot (g.wonderWinning threshold net value)) seats
  else
    pure ()

/-! ### 3. Territory -/

def cancelTerritory (l : LeaderState ρ) : LeaderState ρ :=
  if l.popwinTimer ≠ 0 then
    { l with popwinTimer := 0, popwinStamp := l.popwinStamp - m.frame }
  else
    l

/-- The share of the land a team owns, in percent. -/
def territoryShare : Play ρ Int32 := do
  let g ← Proc.gets id
  divide (g.getTeamTerr who * 100) g.match.worldLandSize

def rivalsOver (pct : Int32) (who : Seat) : List Seat → Play ρ Nat
  | [] => return 0
  | other :: rest => do
    let g ← Proc.gets id
    if other = who || !(g.leader other).isActive || g.isAlly who other then
      rivalsOver pct who rest
    else
      let share ← territoryShare other
      let n ← rivalsOver pct who rest
      return if pct ≤ share then n + 1 else n

def territoryCountdown : Play ρ Bool := do
  let g ← Proc.gets id
  if (g.leader who).popwinTimer = 0 then
    Proc.modify (Game.modifyLeader who fun l =>
      { l with popwinTimer := 1, popwinStamp := l.popwinStamp + g.match.frame })
    return false
  else
    awardIf (← expired g.match g.match.constants.popwinTimer (g.leader who).popwinStamp)
      who .byTerritory

def territoryClaim (pct mine : Int32) (rivals : Nat) (who : Seat) : Play ρ Bool := do
  let g ← Proc.gets id
  if mine < pct ∨ rivals ≠ 0 then
    Proc.modify (Game.modifyLeader who (cancelTerritory g.match))
    return false
  else if isSetting g.match .population then
    award who .byTerritory 0
  else
    territoryCountdown who

def territorySlot (pct : Int32) (who : Seat) : Play ρ Bool := do
  let g ← Proc.gets id
  if !(g.leader who).isActive then
    return false
  else
    let mine ← territoryShare who
    territoryClaim pct mine (← rivalsOver pct who seats) who

def territoryBlock : Play ρ Unit := do
  let m ← Proc.gets (·.match)
  if (standardish m || isSetting m .population) && m.worldLandSize ≠ 0 then
    let pct ← lookup m.victoryOptions.popwins m.options.popwin.toNat
    forUntil (territorySlot pct) seats
  else
    pure ()

/-! ### 4, 5 and 7. The leader of the table -/

/-- The running maximum of a value over the active leaders, and the slot that has it.  Both start
from zero. -/
def leading (g : Game ρ) (value : Game ρ → Seat → Int32) : Int32 × Seat :=
  seats.foldl (fun best who =>
    if (g.leader who).isActive ∧ best.1 < value g who then (value g who, who) else best) (0, 0)

def awardLeading (value : Game ρ → Seat → Int32) (goal : Option Int32) (vt : VictoryType) :
    Play ρ Unit := do
  let best ← Proc.gets (leading · value)
  if goal.all (· ≤ best.1) then victory best.2 vt 0 else pure ()

def scoreBlock : Play ρ Unit := do
  let m ← Proc.gets (·.match)
  if isSetting m .score then
    let goal ← lookup m.victoryOptions.scores m.options.scoreGoal.toNat
    awardLeading Game.getTeamScore (some goal) .byScore
  else
    pure ()

/-- The limit in minutes; a setting past the end of the table means five hours. -/
def timeLimitMinutes : Int32 :=
  (m.victoryOptions.timeLimits[m.options.timeLimit.toNat]?).getD 300

def timeIsUp : Bool :=
  timeLimitMinutes m * 60 ≤ m.tick

def timeLimitBlock : Play ρ Unit := do
  let m ← Proc.gets (·.match)
  if isSetting m .timeLimit && timeIsUp m then
    awardLeading Game.getTeamScore none .byTimeLimit
  else
    pure ()

def economicBlock : Play ρ Unit := do
  let m ← Proc.gets (·.match)
  if isSetting m .economic then
    let goal ← lookup m.victoryOptions.econwins m.options.econwin.toNat
    awardLeading Game.getTeamEconomic (some goal) .byEconomy
  else
    pure ()

/-! ### 6. Musical chairs -/

/-- The lowest score among the active leaders of a group, who has it, and whether it is shared. -/
def lowestStep (g : Game ρ) (member : Seat → Bool) (acc : Int32 × Option Seat × Bool) (i : Seat) :
    Int32 × Option Seat × Bool :=
  let s := (g.leader i).scores.score
  if (g.leader i).isActive && member i && s ≤ acc.1 then
    (s, some i, s = acc.1 && acc.2.1.isSome && acc.2.1 ≠ some i)
  else
    acc

/-- Defeat the lowest scorer of a group unless there is a tie. -/
def cullLowest (ceiling : Int32) (member : Game ρ → Seat → Bool) : Play ρ Unit := do
  let g ← Proc.gets id
  match seats.foldl (lowestStep g (member g)) (ceiling, none, true) with
  | (_, some w, false) => defeat w .musicalChairs (-1) 0
  | _ => pure ()

def freeForAll : Bool :=
  m.options.teamStyle = 0 || m.options.teamStyle = 8 || m.options.teamStyle = 11

def cullTeams : List Int32 → Play ρ Unit
  | [] => pure ()
  | team :: teams => do
    cullLowest 99999999 fun g i => g.teamOf i = team
    cullTeams teams

def musicalChairsCull : Play ρ Unit := do
  let m ← Proc.gets (·.match)
  if freeForAll m then cullLowest Int32.maxValue fun _ _ => true else cullTeams [0, 1, 2, 3]

def cullWhenDue (interval : Int32) : Play ρ Unit :=
  if interval ≤ m.frame - m.musicalChairs then do
    Proc.modify (Game.modifyMatch fun m => { m with musicalChairs := m.frame })
    musicalChairsCull
  else
    pure ()

def musicalChairsBlock : Play ρ Unit := do
  let m ← Proc.gets (·.match)
  if isSetting m .musicalChairs && m.frame ≠ 0 then
    let minutes ← lookup m.victoryOptions.chairs m.options.chairs.toNat
    cullWhenDue m (minutes * 900)
  else
    pure ()

/-- `GameDaemon::process_victory`, the per-frame sweep. -/
def processVictory (S : Scoring ρ) (net value : Seat → Int32) : Play ρ Unit := do
  Proc.modify fun g => { g with events := [] }
  S.armageddonBlock
  wonderBlock net value
  territoryBlock
  scoreBlock
  timeLimitBlock
  musicalChairsBlock
  economicBlock

end Don.Sim
