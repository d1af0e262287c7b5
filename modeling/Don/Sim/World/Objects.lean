import Don.Foundation.Listing
import Mathlib.Algebra.Group.Int.Defs
import Mathlib.Algebra.Group.Nat.Defs

/-!
# Objects — the two registries of object addresses

An object is addressed by its owner and an index `o` in one of three bands.  The dense registry has one
list of rows for each owner and band; the sparse one keeps, beside it, the stable identity behind each
address, and refuses an append that does not fit its band.
-/

namespace Don.Sim.Population

open Foundation

/-! ## Bands -/

/-- `OWNER_SLOTS` -/
def ownerSlots : Nat := 10

/-- `BANDED_OWNER_SLOTS` -/
def bandedOwnerSlots : Nat := 8

/-- Which band an object index falls in. -/
inductive Band where
  | unit
  | build
  | wall
  deriving DecidableEq

namespace Band

def base : Band → Nat
  | unit => 0
  | build => 2000
  | wall => 3000

/-- The exclusive bound of the band. -/
def limit : Band → Nat
  | unit => 2000
  | build => 3000
  | wall => 32768

def contains (b : Band) (o : Int) : Bool :=
  b.base ≤ o && o < b.limit

end Band

/-- What stops a call: an index out of range, or an assertion about the two registries. -/
inductive Panic where
  | index
  | appendMirror
  | appendAddress
  | removeMirror
  | movedIdentity
  | movedAddress
  | receiptsDiverged
  deriving DecidableEq

/-- `l[i]` -/
def index {α : Type} (l : List α) (i : Nat) : Except Panic α :=
  match l[i]? with
  | some a => .ok a
  | none => .error .index

/-- `l[i] = a` -/
def assign {α : Type} (l : List α) (i : Nat) (a : α) : Except Panic (List α) :=
  if i < l.length then .ok (l.set i a) else .error .index

/-- `l.swap_remove(i)` -/
def removeAt {α : Type} (l : List α) (i : Nat) : Except Panic (List α) :=
  if i < l.length then .ok (swapRemove l i) else .error .index

/-! ## The dense registry -/

/-- One owner's object list, stored per band. -/
structure Slot where
  units : List Nat := []
  builds : List Nat := []
  walls : List Nat := []
  deriving DecidableEq

namespace Slot

def band (s : Slot) : Band → List Nat
  | .unit => s.units
  | .build => s.builds
  | .wall => s.walls

def setBand (s : Slot) (rows : List Nat) : Band → Slot
  | .unit => { s with units := rows }
  | .build => { s with builds := rows }
  | .wall => { s with walls := rows }

end Slot

structure ObjectRegistry where
  slots : Nat → Slot
  active : Nat → Bool

namespace ObjectRegistry

def new : ObjectRegistry :=
  ⟨fun _ => {}, fun _ => false⟩

variable (r : ObjectRegistry)

def slot (s : Nat) : Slot :=
  r.slots s

def setSlot (who : Nat) (band : Band) (rows : List Nat) : ObjectRegistry :=
  { r with slots := Function.update r.slots who ((r.slots who).setBand rows band) }

def setActive (s : Nat) (on : Bool) : ObjectRegistry :=
  { r with active := Function.update r.active s on }

/-- Register `row` in a band of `who`, and return its index; the first insert activates the owner. -/
def insert (who : Nat) (band : Band) (row : Nat) :
    Except Panic (Nat × ObjectRegistry) :=
  if who < ownerSlots then
    let rows := (r.slots who).band band ++ [row]
    .ok (band.base + (rows.length - 1), (r.setSlot who band rows).setActive who true)
  else
    .error .index

/-- Remove the entry at `o`, and return the row that moved into the hole with its new index. -/
def remove (r : ObjectRegistry) (who : Nat) (band : Band) (o : Nat) :
    Except Panic (Option (Nat × Nat) × ObjectRegistry) :=
  if who < ownerSlots then
    let rows := (r.slots who).band band
    let idx := o - band.base
    if o < band.base ∨ rows.length ≤ idx then
      .ok (none, r)
    else
      let rows' := swapRemove rows idx
      -- the last entry has moved, unless it was the one to remove
      .ok (if idx ≠ rows.length - 1 then (rows'[idx]?).map (·, band.base + idx) else none,
        r.setSlot who band rows')
  else
    .error .index

/-- Repoint the entry at `o`, when a row has moved. -/
def repoint (who : Nat) (band : Band) (o : Nat) (row : Nat) :
    Except Panic ObjectRegistry :=
  if who < ownerSlots then
    if o < band.base then .ok r
    else .ok (r.setSlot who band (((r.slots who).band band).set (o - band.base) row))
  else
    .error .index

end ObjectRegistry

/-! ## The sparse registry -/

inductive Identity where
  | unit (id generation : Nat)
  | buildRow (row : Nat)
  | wallRow (row : Nat)
  deriving DecidableEq

structure Address where
  owner : Nat
  band : Band
  o : Int
  deriving DecidableEq

def Address.isWellFormed (a : Address) : Bool :=
  decide (a.owner < ownerSlots) && a.band.contains a.o

inductive StorageClass where
  | unit
  | animal
  | build
  | wall
  deriving DecidableEq

/-- The storage of a retail slot, which stays with the slot. -/
structure ParallelStorage where
  object : UInt64
  storageClass : StorageClass
  unit : Option UInt64
  deriving DecidableEq

structure TombstoneFacts where
  flags : UInt8
  holdFrames : UInt16
  isUnit : Bool
  oUp : Int16
  deriving DecidableEq

inductive Lifecycle where
  | tombstone (facts : TombstoneFacts)
  | reserved (ticket : UInt64) (prior : TombstoneFacts)
  | live (identity : Identity)
  deriving DecidableEq

structure SparseSlot where
  storage : ParallelStorage
  lifecycle : Lifecycle
  deriving DecidableEq

structure SparseBand where
  mark : Int
  slots : List SparseSlot
  deriving DecidableEq

def SparseBand.new (b : Band) : SparseBand :=
  ⟨b.base, []⟩

inductive SparseRegistryError where
  | invalidOwner
  | invalidObjectIndex
  | invalidMark
  | missingStorage
  | liveTailBelowMark
  | duplicateIdentity
  | identityMismatch
  | outstandingReservation
  | denseBandGap
  | duplicateAddress
  | denseMirrorMismatch
  deriving DecidableEq

structure SparseObjectBands where
  owners : Nat → Band → SparseBand
  active : Nat → Bool
  reverse : Identity → Option Address
  nextStorage : UInt64
  nextTicket : UInt64

inductive SnapshotLifecycle where
  | tombstone (facts : TombstoneFacts)
  | live (identity : Identity)
  deriving DecidableEq

/-- The marks, slots and activity of all owners. -/
structure SparseRegistrySnapshot where
  active : List Bool
  owners : List (List (Int × List SnapshotLifecycle))
  deriving DecidableEq

structure DenseRegistryEntry where
  address : Address
  identity : Identity
  deriving DecidableEq

namespace SparseObjectBands

def new : SparseObjectBands where
  owners _ b := .new b
  active _ := false
  reverse _ := none
  nextStorage := 1
  nextTicket := 1

variable (r : SparseObjectBands) (owner : Nat)

def band (b : Band) : SparseBand :=
  r.owners owner b

def setBand (b : Band) (x : SparseBand) : SparseObjectBands :=
  { r with owners := Function.update r.owners owner (Function.update (r.owners owner) b x) }

def setActive (on : Bool) :
    Except SparseRegistryError SparseObjectBands :=
  if owner < ownerSlots then .ok { r with active := Function.update r.active owner on }
  else .error .invalidOwner

def slotIndex (a : Address) : Except SparseRegistryError Nat :=
  if ownerSlots ≤ a.owner then .error .invalidOwner
  else if a.band.contains a.o then .ok (a.o - a.band.base).toNat
  else .error .invalidObjectIndex

def liveIdentity (a : Address) : Option Identity :=
  match slotIndex a with
  | .error _ => none
  | .ok i =>
    match ((r.band a.owner a.band).slots[i]?).map SparseSlot.lifecycle with
    | some (.live identity) => some identity
    | _ => none

/-- The next storage number; zero is never given out. -/
def bump (n : UInt64) : UInt64 :=
  max (n + 1) 1

def allocateStorage : Band → ParallelStorage × SparseObjectBands
  | .unit =>
    let unit := bump r.nextStorage
    let storageClass := if bandedOwnerSlots ≤ owner then .animal else .unit
    (⟨r.nextStorage, storageClass, some unit⟩, { r with nextStorage := bump unit })
  | .build => (⟨r.nextStorage, .build, none⟩, { r with nextStorage := bump r.nextStorage })
  | .wall => (⟨r.nextStorage, .wall, none⟩, { r with nextStorage := bump r.nextStorage })

def pushLive (address : Address) (identity : Identity) : SparseObjectBands :=
  let (storage, r) := r.allocateStorage address.owner address.band
  let x := r.band address.owner address.band
  let r := r.setBand address.owner address.band ⟨x.mark + 1, x.slots ++ [⟨storage, .live identity⟩]⟩
  { r with reverse := Function.update r.reverse identity (some address) }

/-- Mirror an append of the dense registry.  The band must be without gaps and have room. -/
def mirrorDenseAppend (b : Band) (identity : Identity) :
    Except SparseRegistryError (Address × SparseObjectBands) :=
  if ownerSlots ≤ owner then
    .error .invalidOwner
  else if (r.reverse identity).isSome then
    .error .duplicateIdentity
  else
    let x := r.band owner b
    if x.mark ≠ b.base + x.slots.length ∨ x.mark ≥ b.limit then
      .error .denseMirrorMismatch
    else
      let address : Address := ⟨owner, b, x.mark⟩
      let r := r.pushLive address identity
      .ok (address, { r with active := Function.update r.active owner true })

/-- The identity that takes the place of slot `i`, when it is removed; `none` for the last slot. -/
def movedInto (x : SparseBand) (i : Nat) : Except SparseRegistryError (Option Identity) :=
  if i = x.slots.length - 1 then
    .ok none
  else
    match (x.slots[x.slots.length - 1]?).map SparseSlot.lifecycle with
    | some (.live moved) => .ok (some moved)
    | _ => .error .denseMirrorMismatch

/-- The slots of a band without the last one, whose identity goes to slot `i`.  Storage stays with the
slots. -/
def closeUp (x : SparseBand) (i : Nat) : Option Identity → SparseBand
  | some moved => ⟨x.mark - 1, (x.slots.modify i ({ · with lifecycle := .live moved })).dropLast⟩
  | none => ⟨x.mark - 1, x.slots.dropLast⟩

/-- Mirror a removal of the dense registry, and return the identity that moved, with its new address. -/
def mirrorDenseSwapRemove (address : Address) (identity : Identity) :
    Except SparseRegistryError (Option (Identity × Address) × SparseObjectBands) := do
  let i ← slotIndex address
  if r.reverse identity ≠ some address then
    throw .identityMismatch
  else
    let x := r.band address.owner address.band
    if x.mark ≠ address.band.base + x.slots.length ∨
        (x.slots[i]?).map SparseSlot.lifecycle ≠ some (.live identity) then
      throw .denseMirrorMismatch
    else
      let moved ← movedInto x i
      let r := r.setBand address.owner address.band (closeUp x i moved)
      let reverse := Function.update r.reverse identity none
      match moved with
      | none => return (none, { r with reverse })
      | some m =>
        return (some (m, address), { r with reverse := Function.update reverse m (some address) })

/-- The saved form of a slot; a reservation has none. -/
def saveLifecycle : Lifecycle → Except SparseRegistryError SnapshotLifecycle
  | .tombstone facts => .ok (.tombstone facts)
  | .live identity => .ok (.live identity)
  | .reserved _ _ => .error .outstandingReservation

def snapshotBand (x : SparseBand) : Except SparseRegistryError (Int × List SnapshotLifecycle) := do
  let slots ← x.slots.mapM fun slot => saveLifecycle slot.lifecycle
  return (x.mark, slots)

def bands : List Band := [.unit, .build, .wall]

def snapshot : Except SparseRegistryError SparseRegistrySnapshot := do
  let owners ← (List.range ownerSlots).mapM fun owner =>
    bands.mapM fun b => snapshotBand (r.band owner b)
  return ⟨(List.range ownerSlots).map r.active, owners⟩

def convertEntry (previous : Option Address) (e : DenseRegistryEntry) :
    Except SparseRegistryError SparseObjectBands :=
  if !e.address.isWellFormed then
    .error .invalidObjectIndex
  else if previous = some e.address then
    .error .duplicateAddress
  else if (r.reverse e.identity).isSome then
    .error .duplicateIdentity
  else if e.address.o ≠ (r.band e.address.owner e.address.band).mark then
    .error .denseBandGap
  else
    .ok (r.pushLive e.address e.identity)

def convert (r : SparseObjectBands) (previous : Option Address) :
    List DenseRegistryEntry → Except SparseRegistryError SparseObjectBands
  | [] => .ok r
  | e :: entries => do
    let r ← convertEntry r previous e
    convert r (some e.address) entries

/-- The order of addresses: by owner, band and index. -/
def before (x y : DenseRegistryEntry) : Bool :=
  let rank : Address → Nat × Int := fun a => (3 * a.owner + (bands.idxOf a.band), a.o)
  (rank x.address).1 < (rank y.address).1 ||
    ((rank x.address).1 = (rank y.address).1 && (rank x.address).2 ≤ (rank y.address).2)

def fromDenseEntries (active : Nat → Bool) (entries : List DenseRegistryEntry) :
    Except SparseRegistryError SparseObjectBands :=
  convert { new with active } none (entries.mergeSort before)

end SparseObjectBands

end Don.Sim.Population
