import Don.Sim.World.Objects

/-!
# World — rows, handles and the calls that change the population

Live units have the rows below `live`.  A handle is the id of a row with the generation of the id; ids of
despawned units are given out again, with a new generation.  Orders are a parameter: the calls of this
file only move them.
-/

namespace Don.Sim.Population

open Foundation

/-! ## The random stream -/

/-- `Random`: a linear congruential generator. -/
structure Random where
  state : Int32
  deriving DecidableEq

namespace Random

def mul : Int32 := 0x0019660D

def add : Int32 := 0x3C6EF35F

def advance (r : Random) : Random :=
  ⟨r.state * mul + add⟩

/-- A draw from `lo` up to `hi`, without `hi`. -/
def get (r : Random) (lo hi : Int32) : Int32 × Random :=
  if lo = hi then
    (lo, r)
  else
    let (lo, hi) := if hi < lo then (hi, lo) else (lo, hi)
    let r := r.advance
    let low : Int32 := (r.state.toUInt32 &&& 0xFFFF).toInt32
    let scaled : Int32 := ((low * (hi - lo)).toUInt32 >>> 16).toInt32
    (scaled + lo, r)

end Random

/-! ## Unit columns -/

/-- One row of the columns of `UnitData`; the columns no call here names are `others`. -/
structure UnitRow where
  xInternal : Int32 := 0
  yInternal : Int32 := 0
  angle : Int32 := 0
  myspeed : Int16 := 0
  flags : UInt8 := 0
  who : Nat := 0
  o : Int16 := 0
  uid : UInt16 := 0
  oUp : Int16 := 0
  insideUp : Int16 := 0
  insideUpWho : Int8 := 0
  tolerance : Int32 := 0
  myhits : Int32 := 0
  myarmor : Int16 := 0
  others : Nat → Int := fun _ => 0

def UnitRow.zero : UnitRow := {}

/-- `o as u32` -/
def UnitRow.oIndex (row : UnitRow) : Nat :=
  (row.o.toInt % 2 ^ 32).toNat

structure UnitCols where
  cap : Nat
  rows : List UnitRow

namespace UnitCols

def pushZeroed (u : UnitCols) : Option (Nat × UnitCols) :=
  if u.cap ≤ u.rows.length then none
  else some (u.rows.length, { u with rows := u.rows ++ [.zero] })

/-- Copy every column of `src` over `dst`. -/
def copyRow (u : UnitCols) (dst src : Nat) : Except Panic UnitCols := do
  let row ← index u.rows src
  return { u with rows := ← assign u.rows dst row }

def pop (u : UnitCols) : UnitCols :=
  { u with rows := u.rows.dropLast }

end UnitCols

/-! ## The world -/

structure Handle where
  id : Nat
  generation : Nat
  deriving DecidableEq

/-- The columns of the type table that a spawn reads. -/
structure UnitTypeStats where
  typeId : Int32
  armor : Int32
  hits : Int32
  deriving DecidableEq

structure World (ω : Type) where
  units : UnitCols
  unitOrders : List ω
  unitTypeId : List Int32
  moveStepX : List Int32
  moveStepY : List Int32
  objects : ObjectRegistry
  objectBands : SparseObjectBands
  handleOfRow : List Nat
  rowOfHandle : List Nat
  generation : List Nat
  live : Nat
  capacity : Nat
  random : Random
  unitStats : List UnitTypeStats

/-- `MAX_UNITS` -/
def maxUnits : Nat := 4096

/-- `MAP_SPAN` -/
def mapSpan : Int32 := 256 * 0x300

/-- `SUBTILE` -/
def subtile : Int32 := 0x300 / 4

/-- `NO_ROW` -/
def noRow : Nat := 2 ^ 32 - 1

/-- `OBJ_FLAG_ACTIVE` -/
def objFlagActive : UInt8 := 1

namespace World

variable {ω : Type}

def withCapacity (capacity : Nat) (seed : UInt64) (unitStats : List UnitTypeStats) : World ω where
  units := ⟨min capacity maxUnits, []⟩
  unitOrders := []
  unitTypeId := []
  moveStepX := []
  moveStepY := []
  objects := .new
  objectBands := .new
  handleOfRow := List.range (min capacity maxUnits)
  rowOfHandle := List.replicate (min capacity maxUnits) noRow
  generation := List.replicate (min capacity maxUnits) 0
  live := 0
  capacity := min capacity maxUnits
  random := ⟨seed.toUInt32.toInt32⟩
  unitStats := unitStats

variable (w : World ω)

/-- The row of a handle, unless it is stale.  The tables have `capacity` entries. -/
def rowOf (h : Handle) : Option Nat :=
  if h.id < w.capacity ∧ w.generation[h.id]? = some h.generation then
    match w.rowOfHandle[h.id]? with
    | some row => if row < w.live ∧ w.handleOfRow[row]? = some h.id then some row else none
    | none => none
  else
    none

/-- The row behind an address of the unit band. -/
def unitRowAt (who o : Int) : Option Nat :=
  if who < 0 ∨ ownerSlots ≤ who ∨ Band.unit.contains o = false then
    none
  else
    match w.objectBands.liveIdentity ⟨who.toNat, .unit, o⟩ with
    | some (.unit id generation) => w.rowOf ⟨id, generation⟩
    | _ => none

def typeStats (typeId : Int32) : Option UnitTypeStats :=
  if typeId ≤ 0 then none else w.unitStats.find? (·.typeId = typeId)

def initialRow (stats : Option UnitTypeStats) (id o owner : Nat) (x y angle : Int32) (speed : Int16) :
    UnitRow where
  xInternal := x
  yInternal := y
  angle := angle
  myspeed := speed
  flags := objFlagActive
  who := owner
  o := .ofNat o
  uid := .ofNat id
  oUp := -1
  insideUp := -1
  insideUpWho := -1
  tolerance := subtile
  myhits := stats.elim 100 fun s => max s.hits 1
  myarmor := stats.elim 0 fun s => (min (max s.armor (-32768)) 32767).toInt16

/-- Both registries, the columns of `row` and the tables, for a unit whose row was just appended. -/
def commit (new : ω) (row owner : Nat) (typeId x y angle : Int32) (speed : Int16) :
    Except Panic (Option Handle × World ω) := do
  let id ← index w.handleOfRow row
  let (o, objects) ← w.objects.insert owner .unit row
  let rows ← assign w.units.rows row (initialRow (w.typeStats typeId) id o owner x y angle speed)
  let rowOfHandle ← assign w.rowOfHandle id row
  let generation ← index w.generation id
  -- a failed mirror is an `expect`
  match w.objectBands.mirrorDenseAppend owner .unit (.unit id generation) with
  | .error _ => throw .appendMirror
  | .ok (address, objectBands) =>
    if address.o ≠ o then
      throw .appendAddress
    else
      return (some ⟨id, generation⟩, { w with
        units := { w.units with rows }
        unitOrders := w.unitOrders ++ [new]
        unitTypeId := w.unitTypeId ++ [typeId]
        moveStepX := w.moveStepX ++ [0]
        moveStepY := w.moveStepY ++ [0]
        objects, objectBands, rowOfHandle,
        live := w.live + 1 })

/-- Append a unit with a position, facing and speed that are drawn. -/
def spawnTyped (new : ω) (owner : Nat) (typeId : Int32) :
    Except Panic (Option Handle × World ω) :=
  if w.capacity ≤ w.live ∨ ownerSlots ≤ owner then
    .ok (none, w)
  else
    match w.units.pushZeroed with
    | none => .ok (none, w)
    | some (row, units) =>
      let (x, r) := w.random.get 0 mapSpan
      let (y, r) := r.get 0 mapSpan
      let (angle, r) := r.get 0 0xFFFF
      let (speed, r) := r.get 8 64
      { w with units := units, random := r }.commit new row owner typeId x y (angle <<< 16) speed.toInt16

/-- Append a unit at an exact position, without a draw. -/
def allocateTypedAt (new : ω) (owner : Nat) (typeId x y : Int32) :
    Except Panic (Option Handle × World ω) :=
  if w.capacity ≤ w.live ∨ ownerSlots ≤ owner then
    .ok (none, w)
  else
    match w.units.pushZeroed with
    | none => .ok (none, w)
    | some (row, units) => { w with units }.commit new row owner typeId x y 0 0

/-- The part of a removal that concerns addresses: both registries, and the index of the unit that took
the place in the band. -/
def unregister (h : Handle) (row : Nat) : Except Panic (World ω) := do
  let unit ← index w.units.rows row
  let (denseMoved, objects) ← w.objects.remove unit.who .unit unit.oIndex
  let rows ← match denseMoved with
    | none => pure w.units.rows
    | some (movedRow, newO) => do
      let moved ← index w.units.rows movedRow
      assign w.units.rows movedRow { moved with o := .ofNat newO }
  match w.objectBands.mirrorDenseSwapRemove ⟨unit.who, .unit, unit.oIndex⟩ (.unit h.id h.generation) with
  | .error _ => throw .removeMirror
  | .ok (sparseMoved, objectBands) =>
    let w' := { w with units := { w.units with rows }, objects, objectBands }
    -- the two receipts must name the same unit and the same address
    match denseMoved, sparseMoved with
    | none, none => return w'
    | some (movedRow, newO), some (identity, address) => do
      let id ← index w.handleOfRow movedRow
      let generation ← index w.generation id
      if identity ≠ .unit id generation then throw .movedIdentity
      else if address.o ≠ newO then throw .movedAddress
      else return w'
    | _, _ => throw .receiptsDiverged

/-- Move the last row into `row`, with all that refers to it. -/
def fillRow (row last : Nat) : Except Panic (World ω) := do
  let units ← w.units.copyRow row last
  let unitOrders ← removeAt w.unitOrders row
  let unitTypeId ← removeAt w.unitTypeId row
  let moveStepX ← removeAt w.moveStepX row
  let moveStepY ← removeAt w.moveStepY row
  let moved ← index units.rows row
  let objects ← w.objects.repoint moved.who .unit moved.oIndex row
  let id ← index w.handleOfRow last
  let handleOfRow ← assign w.handleOfRow row id
  let rowOfHandle ← assign w.rowOfHandle id row
  return { w with
    units, unitOrders, unitTypeId, moveStepX, moveStepY, objects, handleOfRow, rowOfHandle }

def dropSides : World ω :=
  { w with
    unitOrders := w.unitOrders.dropLast
    unitTypeId := w.unitTypeId.dropLast
    moveStepX := w.moveStepX.dropLast
    moveStepY := w.moveStepY.dropLast }

/-- Give the id of a handle back, with a new generation, and drop the last row. -/
def vacate (h : Handle) (last : Nat) : Except Panic (Bool × World ω) := do
  let handleOfRow ← assign w.handleOfRow last h.id
  let old ← index w.generation h.id
  let generation ← assign w.generation h.id ((old + 1) % 2 ^ 32)
  return (true, { w with
    units := w.units.pop
    handleOfRow,
    live := w.live - 1
    generation })

/-- The part of a removal that concerns rows and ids. -/
def compact (h : Handle) (row : Nat) : Except Panic (Bool × World ω) := do
  let last := w.live - 1
  let w ← if row ≠ last then w.fillRow row last else pure w.dropSides
  w.vacate h last

/-- Remove a unit, swapping the last live row into its place. -/
def despawn (h : Handle) : Except Panic (Bool × World ω) :=
  match w.rowOf h with
  | none => .ok (false, w)
  | some row => do
    let w ← w.unregister h row
    w.compact h row

def setObjectOwnerActive (owner : Nat) (active : Bool) : Except Panic (Bool × World ω) :=
  if ownerSlots ≤ owner then
    .ok (false, w)
  else
    match w.objectBands.setActive owner active with
    | .ok objectBands =>
      .ok (true, { w with objects := w.objects.setActive owner active, objectBands := objectBands })
    | .error _ => .error .index

/-! ## The check of one registry against the other -/

/-- The identity of an entry of the dense registry, if the unit in that row is the one addressed. -/
def denseIdentity (owner : Nat) (b : Band) (o row : Nat) : Option Identity :=
  match b with
  | .unit => do
    let unit ← w.units.rows[row]?
    let id ← w.handleOfRow[row]?
    let generation ← w.generation[id]?
    if w.live ≤ row ∨ unit.who ≠ owner ∨ unit.o.toInt ≠ o then none
    else some (.unit id generation)
  | .build => some (.buildRow row)
  | .wall => some (.wallRow row)

def bandEntries (owner : Nat) (b : Band) : Option (List DenseRegistryEntry) :=
  (((w.objects.slot owner).band b).zipIdx b.base).mapM fun (row, o) =>
    (w.denseIdentity owner b o row).map fun identity => ⟨⟨owner, b, o⟩, identity⟩

def deriveObjectBandsFromDense : Option SparseObjectBands := do
  let entries ← (List.range ownerSlots).mapM fun owner =>
    SparseObjectBands.bands.mapM fun b => w.bandEntries owner b
  (SparseObjectBands.fromDenseEntries w.objects.active entries.flatten.flatten).toOption

/-- Whether the sparse registry is the one that is derived, up to storage. -/
def objectBandsAreDenseEquivalent : Bool :=
  match w.deriveObjectBandsFromDense with
  | none => false
  | some derived => w.objectBands.snapshot.toOption = derived.snapshot.toOption

end World

/-! ## Calls -/

inductive Call where
  | spawnTyped (owner : Nat) (typeId : Int32)
  | allocateTypedAt (owner : Nat) (typeId x y : Int32)
  | despawn (h : Handle)
  | setObjectOwnerActive (owner : Nat) (active : Bool)
  deriving DecidableEq

inductive Answer where
  | handle (h : Option Handle)
  | done (ok : Bool)
  deriving DecidableEq

namespace World

variable {ω : Type}

/-- Make one call; `new` is the empty order list. -/
def call (new : ω) (w : World ω) : Call → Except Panic (Answer × World ω)
  | .spawnTyped owner typeId => do
    let (h, w) ← w.spawnTyped new owner typeId
    return (.handle h, w)
  | .allocateTypedAt owner typeId x y => do
    let (h, w) ← w.allocateTypedAt new owner typeId x y
    return (.handle h, w)
  | .despawn h => do
    let (ok, w) ← w.despawn h
    return (.done ok, w)
  | .setObjectOwnerActive owner active => do
    let (ok, w) ← w.setObjectOwnerActive owner active
    return (.done ok, w)

def run (new : ω) : World ω → List Call → Except Panic (List (Call × Answer) × World ω)
  | w, [] => .ok ([], w)
  | w, c :: calls => do
    let (a, w) ← w.call new c
    let (rest, w) ← run new w calls
    return ((c, a) :: rest, w)

end World

end Don.Sim.Population
