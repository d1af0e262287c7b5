import Mathlib.Algebra.BigOperators.Group.List.Basic
import Mathlib.Data.UInt
import Don.Sim.World.Identity

/-!
# World.Digest — the digest does not see rows

`World::digest` and `object_bands_digest` of `crates/don-sim/src/world.rs`.  The hash of a row is seeded
with the id of its unit, and the hashes of the rows are added up.
-/

namespace Don.Sim.Population

open Foundation List

/-- Which width pool holds a field. -/
inductive Pool where
  | w4 | w2 | w1 | wf | none

/-- The entries of a field descriptor that the digest reads. -/
structure FieldDesc where
  count : Nat
  walked : Option Bool
  aliasOf : Option String
  pool : Pool
  plane : Nat

/-- What the digest reads of an order. -/
structure OrderFacts where
  kind : UInt32
  x : Int32
  y : Int32
  flags : UInt8

structure ClockedWorld extends World (List OrderFacts) where
  frame : Int32

/-- The prime and the offset basis of FNV-1a. -/
def fnvPrime : UInt64 := 0x100000001B3

def fnvBasis : UInt64 := 0xcbf29ce484222325

def mix (hash v : UInt64) : UInt64 :=
  (hash ^^^ v) * fnvPrime

def rotateLeft (x : UInt64) (k : UInt64) : UInt64 :=
  x <<< k ||| x >>> (64 - k)

def SnapshotLifecycle.mixed : SnapshotLifecycle → List UInt64
  | .tombstone facts => [0, facts.flags.toUInt64, facts.holdFrames.toUInt64, facts.isUnit.toUInt64,
      facts.oUp.toUInt16.toUInt64]
  | .live (.unit id generation) => [1, .ofNat id, .ofNat generation]
  | .live (.buildRow row) => [2, .ofNat row]
  | .live (.wallRow row) => [3, .ofNat row]

/-- `object_bands_digest`, of the snapshot -/
def SparseRegistrySnapshot.digest (s : SparseRegistrySnapshot) : UInt64 :=
  let active := s.active.zipIdx.flatMap fun (active, owner) => [.ofNat owner, active.toUInt64]
  let bands := s.owners.zipIdx.flatMap fun (bands, owner) => bands.zipIdx.flatMap fun (saved, band) =>
    [.ofNat owner, .ofNat band, (Int32.ofInt saved.1).toUInt32.toUInt64, .ofNat saved.2.length] ++
      saved.2.flatMap SnapshotLifecycle.mixed
  (0x4f424a5350415253 :: (active ++ bands)).foldl mix fnvBasis

/-! The generated layout is a parameter: the table of fields, and the element of a plane in a row as the
unsigned number of the width of its pool. -/

variable (fields : List FieldDesc) (element : UnitRow → Pool → Nat → Nat → UInt64)

/-- The walked columns of a row, in the order of the table. -/
def UnitRow.walked (unit : UnitRow) : List UInt64 :=
  fields.flatMap fun f =>
    if f.aliasOf.isSome ∨ f.walked ≠ some true then []
    else match f.pool with
      | .w4 | .w2 | .w1 => (range f.count).map (element unit f.pool f.plane)
      | .wf | .none => []

/-- The length and the current order of a unit's orders. -/
def orderMixed (orders : List OrderFacts) : List UInt64 :=
  (UInt32.ofNat orders.length).toUInt64 :: orders.head?.elim [] fun o =>
    [o.kind.toUInt64, o.x.toUInt32.toUInt64, o.y.toUInt32.toUInt64, o.flags.toUInt64]

namespace World

def rowHash (w : World (List OrderFacts)) (row : Nat) : Except Panic UInt64 := do
  let id ← index w.handleOfRow row
  let unit ← index w.units.rows row
  let orders ← index w.unitOrders row
  return (.ofNat id :: (unit.walked fields element ++ orderMixed orders)).foldl mix fnvBasis

/-- A snapshot that fails is an `expect`. -/
def digest (w : ClockedWorld) : Except Panic UInt64 := do
  let hashes ← (range w.live).mapM (w.rowHash fields element)
  match w.objectBands.snapshot with
  | .error _ => throw .index
  | .ok bands =>
    let out := (hashes.sum ^^^ rotateLeft bands.digest 23) ^^^ w.frame.toUInt32.toUInt64
    return out * fnvPrime ^^^ .ofNat w.live

/-- The same handles are live, and what the digest reads of a unit is the same in the row it has. -/
structure SameUnits (w w' : World (List OrderFacts)) : Prop where
  live : ∀ h, (w.rowOf h).isSome ↔ (w'.rowOf h).isSome
  columns : ∀ h r r', w.rowOf h = some r → w'.rowOf h = some r' →
    w.units.rows[r]?.map (·.walked fields element) = w'.units.rows[r']?.map (·.walked fields element)
  orders : ∀ h r r', w.rowOf h = some r → w'.rowOf h = some r' →
    w.unitOrders[r]?.map (fun os => (os.length, os.head?)) =
      w'.unitOrders[r']?.map fun os => (os.length, os.head?)

variable {fields} {element} {w w' : World (List OrderFacts)} {r r' id : Nat}

lemma rowHash_ok (hs : w.Sized) (hh : w.Handled) (hr : r < w.live) :
    ∃ id u os, w.handleOfRow[r]? = some id ∧ w.units.rows[r]? = some u ∧ w.unitOrders[r]? = some os ∧
      w.rowHash fields element r
        = .ok ((.ofNat id :: (u.walked fields element ++ orderMixed os)).foldl mix fnvBasis) := by
  have hid : r < w.handleOfRow.length := hh.length ▸ Nat.lt_of_lt_of_le hr hs.live
  have hu : r < w.units.rows.length := hs.rows ▸ hr
  have hos : r < w.unitOrders.length := hs.orders ▸ hr
  refine ⟨_, _, _, getElem?_eq_getElem hid, getElem?_eq_getElem hu, getElem?_eq_getElem hos, ?_⟩
  simp [rowHash, index, hid, hu, hos]
  rfl

lemma handle_of_id (hs : w.Sized) (hh : w.Handled) (hr : r < w.live)
    (hid : w.handleOfRow[r]? = some id) : ∃ g, w.rowOf ⟨id, g⟩ = some r := by
  have hlt : id < w.generation.length := hs.generation ▸ hh.id_lt hid
  exact ⟨_, hh.rowOf_eq_some_iff.2 ⟨hr, hid, getElem?_eq_getElem hlt⟩⟩

lemma SameUnits.symm (h : SameUnits fields element w w') : SameUnits fields element w' w where
  live x := (h.live x).symm
  columns x r r' hr hr' := (h.columns x r' r hr' hr).symm
  orders x r r' hr hr' := (h.orders x r' r hr' hr).symm

/-- A unit has the same hash in both worlds, in whichever row it is. -/
lemma SameUnits.hash (h : SameUnits fields element w w') (hs : w.Sized) (hh : w.Handled)
    (hs' : w'.Sized) (hh' : w'.Handled) {x : UInt64} : (∃ r < w.live, w.handleOfRow[r]? = some id ∧
      w.rowHash fields element r = .ok x) → ∃ r < w'.live, w'.handleOfRow[r]? = some id ∧
        w'.rowHash fields element r = .ok x := by
  rintro ⟨r, hr, hid, hx⟩
  obtain ⟨g, hrow⟩ := handle_of_id hs hh hr hid
  obtain ⟨r', hrow'⟩ := Option.isSome_iff_exists.1 ((h.live _).1 (Option.isSome_of_eq_some hrow))
  obtain ⟨hr', hid', -⟩ := hh'.rowOf_eq_some_iff.1 hrow'
  refine ⟨r', hr', hid', ?_⟩
  obtain ⟨i, u, os, hi, hu, hos, heq⟩ := rowHash_ok hs hh hr
  obtain ⟨i', u', os', hi', hu', hos', heq'⟩ := rowHash_ok hs' hh' hr'
  obtain rfl := Option.some.inj (hid.symm.trans hi)
  obtain rfl := Option.some.inj (hid'.symm.trans hi')
  have hwalked : u.walked fields element = u'.walked fields element := by
    simpa [hu, hu'] using h.columns _ r r' hrow hrow'
  obtain ⟨hlen, hhead⟩ : os.length = os'.length ∧ os.head? = os'.head? := by
    simpa [hos, hos'] using h.orders _ r r' hrow hrow'
  rw [← hx, heq, heq', hwalked, orderMixed, orderMixed, hlen, hhead]

variable (fields element) in
/-- The hashes of the rows, each with the id of its unit. -/
lemma exists_hashes (hs : w.Sized) (hh : w.Handled) : ∃ pairs : List (Nat × UInt64),
    pairs.length = w.live ∧ pairs.Nodup ∧
      (range w.live).mapM (w.rowHash fields element) = .ok (pairs.map Prod.snd) ∧
      ∀ id x, (id, x) ∈ pairs ↔
        ∃ r < w.live, w.handleOfRow[r]? = some id ∧ w.rowHash fields element r = .ok x := by
  have hfound : ∀ r, ∃ p : Nat × UInt64, r < w.live →
      w.handleOfRow[r]? = some p.1 ∧ w.rowHash fields element r = .ok p.2 := by
    intro r
    by_cases hr : r < w.live
    · obtain ⟨id, u, os, hid, -, -, heq⟩ := rowHash_ok hs hh hr
      exact ⟨(id, _), fun _ => ⟨hid, heq⟩⟩
    · exact ⟨(0, 0), fun h => absurd h hr⟩
  choose f hf using hfound
  refine ⟨(range w.live).map f, by simp, ?_, ?_, ?_⟩
  · refine nodup_range.map_on fun r hr r' hr' heq => ?_
    rw [mem_range] at hr hr'
    exact hh.inj (hf r hr).1 (heq ▸ (hf r' hr').1)
  · rw [map_map]
    exact mapM_eq_pure fun r hr => (hf r (mem_range.1 hr)).2
  · intro id x
    simp only [mem_map, mem_range]
    constructor
    · rintro ⟨r, hr, heq⟩
      obtain ⟨hid, hx⟩ := hf r hr
      rw [heq] at hid hx
      exact ⟨r, hr, hid, hx⟩
    · rintro ⟨r, hr, hid, hx⟩
      obtain ⟨hid', hx'⟩ := hf r hr
      exact ⟨r, hr, Prod.ext (Option.some.inj (hid'.symm.trans hid)) (Except.ok.inj (hx'.symm.trans hx))⟩

/-- Two worlds with the same frame, bands and units have the same digest, whatever rows the units have. -/
theorem digest_ignores_rows (w w' : ClockedWorld) (hs : w.Sized) (hh : w.Handled) (hs' : w'.Sized)
    (hh' : w'.Handled) (hframe : w.frame = w'.frame) (bands : SparseRegistrySnapshot)
    (hbands : w.objectBands.snapshot = .ok bands) (hbands' : w'.objectBands.snapshot = .ok bands)
    (h : SameUnits fields element w.toWorld w'.toWorld) :
    ∃ d, digest fields element w = .ok d ∧ digest fields element w' = .ok d := by
  obtain ⟨pairs, hlen, hnodup, hmap, hmem⟩ := exists_hashes fields element hs hh
  obtain ⟨pairs', hlen', hnodup', hmap', hmem'⟩ := exists_hashes fields element hs' hh'
  have hperm : pairs.Perm pairs' := by
    rw [perm_ext_iff_of_nodup hnodup hnodup']
    rintro ⟨id, x⟩
    rw [hmem, hmem']
    exact ⟨h.hash hs hh hs' hh', h.symm.hash hs' hh' hs hh⟩
  have hsum : (pairs.map Prod.snd).sum = (pairs'.map Prod.snd).sum := (hperm.map _).sum_eq
  have hlive : w.live = w'.live := hlen.symm.trans (hperm.length_eq.trans hlen')
  refine ⟨_, by rw [digest, hmap, hbands]; rfl, ?_⟩
  rw [digest, hmap', hbands']
  simp only [hsum, hlive, hframe]
  rfl

/-- Two units, in rows that a permutation of them gives. -/
def pair (ids : List Nat) : ClockedWorld :=
  ⟨{ (withCapacity 2 0 [] : World (List OrderFacts)) with
      units := ⟨2, ids.map fun id => { uid := .ofNat id }⟩
      unitOrders := [[], []]
      unitTypeId := [0, 0]
      moveStepX := [0, 0]
      moveStepY := [0, 0]
      handleOfRow := ids
      rowOfHandle := ids
      live := 2 }, 0⟩

theorem digest_ignores_rows_pair : ∃ d,
    digest [⟨1, some true, none, .w2, 0⟩] (fun u _ _ _ => u.uid.toUInt64) (pair [0, 1]) = .ok d ∧
      digest [⟨1, some true, none, .w2, 0⟩] (fun u _ _ _ => u.uid.toUInt64) (pair [1, 0]) = .ok d := by
  have hback : ∀ ids ∈ [[0, 1], [1, 0]], (pair ids).Sized ∧ (pair ids).Handled := by
    simp only [mem_cons, not_mem_nil, or_false, forall_eq_or_imp, forall_eq]
    refine ⟨⟨?_, by decide, ?_⟩, ⟨?_, by decide, ?_⟩⟩
    all_goals first
      | constructor <;> decide
      | rintro (_ | _ | r) id hr hid
        · cases hid; rfl
        · cases hid; rfl
        · cases hid
  obtain ⟨hs, hh⟩ := hback [0, 1] (by decide)
  obtain ⟨hs', hh'⟩ := hback [1, 0] (by decide)
  refine digest_ignores_rows _ _ hs hh hs' hh' rfl _ rfl rfl ⟨?_, ?_, ?_⟩ <;>
    rintro ⟨_ | _ | id, _ | g⟩ <;> simp [rowOf, pair, withCapacity, maxUnits]

end World

end Don.Sim.Population
