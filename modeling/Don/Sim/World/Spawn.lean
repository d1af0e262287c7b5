import Don.Sim.World.Basic
import Don.Sim.World.Mirror
import Mathlib.Order.Nat

/-!
# Spawn — the invariant of the population, and new units

The rows, the handle tables and the two registries of a world agree.  A new unit keeps this, and is
refused by a panic exactly when its owner has as many units as the band of the sparse registry takes.
-/

namespace Don.Sim.Population

open Foundation List Option
open Function (update update_of_ne update_self)

variable {ω : Type}

/-! ## Checked access -/

lemma index_ok {α : Type} {l : List α} {i : Nat} {a : α} (h : l[i]? = some a) :
    index l i = .ok a := by
  rw [index, h]

lemma assign_ok {α : Type} {l : List α} {i : Nat} (h : i < l.length) (a : α) :
    assign l i a = .ok (l.set i a) :=
  if_pos h

lemma removeAt_ok {α : Type} {l : List α} {i : Nat} (h : i < l.length) :
    removeAt l i = .ok (swapRemove l i) :=
  if_pos h

namespace ObjectRegistry

def units (r : ObjectRegistry) (s : Nat) : List Nat :=
  (r.slots s).units

lemma units_setSlot (r : ObjectRegistry) (who : Nat) (rows : List Nat) :
    (r.setSlot who .unit rows).units = update r.units who rows := by
  funext s
  by_cases hs : s = who
  · subst hs
    simp [units, setSlot, Slot.setBand]
  · simp [units, setSlot, update_of_ne hs]

/-- No buildings and no walls. -/
def Bare (r : ObjectRegistry) : Prop :=
  ∀ s, (r.slots s).builds = [] ∧ (r.slots s).walls = []

lemma Bare.setSlot {r : ObjectRegistry} (h : r.Bare) (who : Nat) (rows : List Nat) :
    (r.setSlot who .unit rows).Bare := by
  intro s
  by_cases hs : s = who
  · subst hs
    simpa [ObjectRegistry.setSlot, Slot.setBand] using h s
  · simpa [ObjectRegistry.setSlot, update_of_ne hs] using h s

end ObjectRegistry

/-! ## The invariant -/

namespace World

def placeOf (w : World ω) (r : Nat) : Option (Nat × Nat) :=
  (w.units.rows[r]?).map fun row => (row.who, row.oIndex)

def identityAt (w : World ω) (r : Nat) : Identity :=
  .unit (w.handleOfRow.getD r 0) (w.generation.getD (w.handleOfRow.getD r 0) 0)

def identities (w : World ω) (s : Nat) : List Identity :=
  (w.objects.units s).map w.identityAt

/-- All tables have the sizes they were made with, and one entry for each live unit. -/
structure Sized (w : World ω) : Prop where
  capacity : w.capacity ≤ maxUnits
  cap : w.units.cap = w.capacity
  live : w.live ≤ w.capacity
  rows : w.units.rows.length = w.live
  orders : w.unitOrders.length = w.live
  types : w.unitTypeId.length = w.live
  stepX : w.moveStepX.length = w.live
  stepY : w.moveStepY.length = w.live
  rowOf : w.rowOfHandle.length = w.capacity
  generation : w.generation.length = w.capacity

/-- The ids are given out once each, and live ones know their rows. -/
structure Handled (w : World ω) : Prop where
  perm : w.handleOfRow.Perm (List.range w.capacity)
  back : ∀ r id : Nat, r < w.live → w.handleOfRow[r]? = some id → w.rowOfHandle[id]? = some r

/-- Both registries hold the live units and nothing else. -/
structure Registered (w : World ω) : Prop where
  owners : ∀ (r : Nat) (row : UnitRow), w.units.rows[r]? = some row → row.who < ownerSlots
  listed : Listed w.placeOf w.objects.units
  fits : ∀ s, (w.objects.units s).length ≤ Band.unit.limit
  bare : w.objects.Bare
  mirror : Mirror w.identities w.objectBands
  active : ∀ s, w.objectBands.active s = w.objects.active s

structure Sound (w : World ω) : Prop extends Sized w, Handled w, Registered w

lemma withCapacity_sound (capacity : Nat) (seed : UInt64) (stats : List UnitTypeStats) :
    (withCapacity capacity seed stats : World ω).Sound where
  capacity := Nat.min_le_right _ _
  cap := rfl
  live := Nat.zero_le _
  rows := rfl
  orders := rfl
  types := rfl
  stepX := rfl
  stepY := rfl
  rowOf := length_replicate
  generation := length_replicate
  perm := List.Perm.refl _
  back _ _ h := nomatch h
  owners _ _ h := by simp [withCapacity] at h
  listed := Listed.empty
  fits _ := Nat.zero_le _
  bare _ := ⟨rfl, rfl⟩
  mirror := Mirror.new _
  active _ := rfl

section

variable {w w' : World ω}

lemma Handled.length (h : w.Handled) : w.handleOfRow.length = w.capacity := by
  simpa using h.perm.length_eq

variable {r : Nat}

lemma Handled.id_lt (h : w.Handled) {id : Nat} (hr : w.handleOfRow[r]? = some id) :
    id < w.capacity :=
  mem_range.1 (h.perm.mem_iff.1 (mem_of_getElem? hr))

lemma Handled.inj (h : w.Handled) {r' id : Nat} (hr : w.handleOfRow[r]? = some id)
    (hr' : w.handleOfRow[r']? = some id) : r = r' := by
  have hnodup : w.handleOfRow.Nodup := h.perm.nodup_iff.2 nodup_range
  exact (getElem?_inj (List.getElem?_eq_some_iff.1 hr).1 hnodup).1 (hr.trans hr'.symm)

lemma Handled.exists_id (h : w.Handled) (hr : r < w.capacity) :
    ∃ id, w.handleOfRow[r]? = some id ∧ id < w.capacity := by
  have hlt : r < w.handleOfRow.length := h.length ▸ hr
  exact ⟨_, getElem?_eq_getElem hlt, h.id_lt (getElem?_eq_getElem hlt)⟩

lemma identityAt_eq {id g : Nat} (hid : w.handleOfRow[r]? = some id)
    (hg : w.generation[id]? = some g) :
    w.identityAt r = .unit id g := by
  simp [identityAt, hid, hg]

lemma Sound.live_of_mem (h : w.Sound) {s : Nat} (hr : r ∈ w.objects.units s) : r < w.live := by
  obtain ⟨k, hk⟩ := h.listed.mem_iff.1 hr
  obtain ⟨row, hrow, _⟩ := map_eq_some_iff.1 hk
  exact h.rows ▸ (List.getElem?_eq_some_iff.1 hrow).1

lemma Sound.identityAt_inj (h : w.Sound) {r' : Nat} (hr : r < w.capacity) (hr' : r' < w.capacity)
    (heq : w.identityAt r = w.identityAt r') : r = r' := by
  obtain ⟨id, hid, _⟩ := h.exists_id hr
  obtain ⟨id', hid', _⟩ := h.exists_id hr'
  have hids : id = id' := by
    injection heq with hid₀ _
    simpa [hid, hid'] using hid₀
  exact h.inj hid (hids ▸ hid')

lemma Sound.fresh (h : w.Sound) (hr : w.live ≤ r) (hlt : r < w.capacity) (s : Nat) :
    w.identityAt r ∉ w.identities s := by
  intro hmem
  obtain ⟨r', hr', heq⟩ := mem_map.1 hmem
  have hlive := h.live_of_mem hr'
  have := h.identityAt_inj (hlive.trans_le h.live) hlt heq
  omega

lemma oIndex_ofNat {row : UnitRow} {k : Nat} (hk : k < Band.unit.limit) (ho : row.o = .ofNat k) :
    row.oIndex = k := by
  have hlt : k < 2 ^ 15 := hk.trans (by decide)
  rw [UnitRow.oIndex, ho, Int16.toInt_ofNat_of_lt hlt]
  omega

/-! ## New units -/

/-- What a new unit changes: one row at the end of everything, and the row of the next id. -/
structure Spawned (w w' : World ω) (new : ω) (owner : Nat) (typeId : Int32) (h : Handle) : Prop where
  id : w.handleOfRow[w.live]? = some h.id
  generation : w.generation[h.id]? = some h.generation
  rows : ∃ row, w'.units.rows = w.units.rows ++ [row] ∧ row.who = owner ∧
    row.o = .ofNat (w.objects.units owner).length
  orders : w'.unitOrders = w.unitOrders ++ [new]
  types : w'.unitTypeId = w.unitTypeId ++ [typeId]
  stepX : w'.moveStepX = w.moveStepX ++ [0]
  stepY : w'.moveStepY = w.moveStepY ++ [0]
  handles : w'.handleOfRow = w.handleOfRow
  rowOf : w'.rowOfHandle = w.rowOfHandle.set h.id w.live
  generations : w'.generation = w.generation
  live : w'.live = w.live + 1
  capacity : w'.capacity = w.capacity
  cap : w'.units.cap = w.units.cap
  units : w'.objects.units
    = Function.update w.objects.units owner (w.objects.units owner ++ [w.live])

def withRow (w : World ω) (random : Random) : World ω :=
  { w with units := { w.units with rows := w.units.rows ++ [.zero] }, random := random }

def joined (w : World ω) (new : ω) (row : UnitRow) (id owner : Nat) (typeId : Int32) (random : Random)
    (objectBands : SparseObjectBands) : World ω :=
  { w with
    units := { w.units with rows := w.units.rows ++ [row] }
    unitOrders := w.unitOrders ++ [new]
    unitTypeId := w.unitTypeId ++ [typeId]
    moveStepX := w.moveStepX ++ [0]
    moveStepY := w.moveStepY ++ [0]
    objects := (w.objects.setSlot owner .unit (w.objects.units owner ++ [w.live])).setActive owner true
    objectBands,
    rowOfHandle := w.rowOfHandle.set id w.live
    live := w.live + 1
    random }

variable {owner : Nat}

lemma insert_ok (howner : owner < ownerSlots) (r : ObjectRegistry) (row : Nat) :
    r.insert owner .unit row = .ok ((r.units owner).length,
      (r.setSlot owner .unit (r.units owner ++ [row])).setActive owner true) := by
  simp [ObjectRegistry.insert, howner, Slot.band, ObjectRegistry.units, Band.base]

lemma Spawned.registered {new : ω} {typeId : Int32} {h : Handle}
    (hs : Spawned w w' new owner typeId h) (hw : w.Sound) (howner : owner < ownerSlots)
    (hroom : (w.objects.units owner).length < Band.unit.limit) (hbare : w'.objects.Bare)
    (hmirror : Mirror (update w.identities owner (w.identities owner ++ [.unit h.id h.generation]))
      w'.objectBands)
    (hactive : ∀ s, w'.objectBands.active s = w'.objects.active s) : w'.Registered := by
  obtain ⟨row, hrows, hwho, ho⟩ := hs.rows
  have hlast : w'.units.rows[w.live]? = some row := by
    rw [hrows, ← hw.rows, getElem?_concat_length]
  have hold : ∀ r, r ≠ w.live → w'.units.rows[r]? = w.units.rows[r]? := by
    intro r hr
    rw [hrows, getElem?_append]
    split
    · rfl
    · rename_i hge
      have hlt : ¬ r - w.units.rows.length = 0 := by
        have := hw.rows
        omega
      rw [getElem?_eq_none (Nat.le_of_not_lt hge), getElem?_singleton, if_neg hlt]
  have hident : w'.identityAt = w.identityAt := by
    funext r
    rw [identityAt, identityAt, hs.handles, hs.generations]
  refine ⟨fun r u hu => ?_, ?_, fun s => ?_, hbare, ?_, hactive⟩
  · by_cases hr : r = w.live
    · rw [hr, hlast] at hu
      rw [← some.inj hu, hwho]
      exact howner
    · rw [hold r hr] at hu
      exact hw.owners r u hu
  · rw [hs.units]
    have hnone : w.placeOf w.live = none := by
      rw [placeOf, getElem?_eq_none hw.rows.le, map_none]
    refine (hw.listed.append hnone owner).congr fun r => ?_
    by_cases hr : r = w.live
    · rw [hr, update_self, placeOf, hlast, map_some, hwho, oIndex_ofNat hroom ho]
    · rw [update_of_ne hr, placeOf, placeOf, hold r hr]
  · rw [hs.units]
    by_cases hso : s = owner
    · subst hso
      rw [update_self, length_append]
      exact hroom
    · rw [update_of_ne hso]
      exact hw.fits s
  · have hids : w'.identities
        = update w.identities owner (w.identities owner ++ [.unit h.id h.generation]) := by
      funext s
      by_cases hso : s = owner
      · subst hso
        rw [update_self, identities, identities, hident, hs.units, update_self,
          map_append, map_singleton, identityAt_eq hs.id hs.generation]
      · rw [update_of_ne hso, identities, identities, hident, hs.units, update_of_ne hso]
    rw [hids]
    exact hmirror

/-- The step that both spawns share, after the row was appended and the draws were made. -/
lemma commit_spec (hw : w.Sound) (hlive : w.live < w.capacity) (howner : owner < ownerSlots)
    (random : Random) (new : ω) (typeId x y angle : Int32) (speed : Int16) :
    if (w.objects.units owner).length < Band.unit.limit then
      ∃ h w', (w.withRow random).commit new w.live owner typeId x y angle speed = .ok (some h, w') ∧
        Spawned w w' new owner typeId h ∧ w'.Registered
    else
      (w.withRow random).commit new w.live owner typeId x y angle speed = .error .appendMirror := by
  obtain ⟨id, hid, hidlt⟩ := hw.exists_id hlive
  have hgen : id < w.generation.length := hw.generation ▸ hidlt
  have hg : w.generation[id]? = some w.generation[id] := getElem?_eq_getElem hgen
  have hident := identityAt_eq hid hg
  have hfresh : ∀ s, Identity.unit id w.generation[id] ∉ w.identities s := fun s =>
    hident ▸ hw.fresh le_rfl hlive s
  have hlen : (w.identities owner).length = (w.objects.units owner).length := length_map _
  have hassign : ∀ row, assign (w.units.rows ++ [.zero]) w.live row = .ok (w.units.rows ++ [row]) := by
    intro row
    rw [assign_ok (by simp [hw.rows]), ← hw.rows, set_append_right _ _ le_rfl, Nat.sub_self]
    rfl
  have hrowOf := assign_ok (l := w.rowOfHandle) (hw.rowOf ▸ hidlt) w.live
  split
  · rename_i hroom
    obtain ⟨r', hrun, hmirror, hactive⟩ := hw.mirror.append hfresh howner (hlen ▸ hroom)
    rw [hlen] at hrun
    have haddress : (unitAddress (owner, (w.objects.units owner).length)).o
        = ((w.objects.units owner).length : Int) := rfl
    obtain ⟨row, hrow⟩ : ∃ row, row = initialRow (w.typeStats typeId) id (w.objects.units owner).length
      owner x y angle speed := ⟨_, rfl⟩
    have hcommit : (w.withRow random).commit new w.live owner typeId x y angle speed
          = .ok (some ⟨id, w.generation[id]⟩, w.joined new row id owner typeId random r') := by
      rw [hrow]
      simp only [withRow, commit, bind, Except.bind, index_ok hid, insert_ok howner, hassign, hrowOf, index_ok hg, hrun,
        haddress, ne_eq, not_true, if_false, pure, Except.pure]
      rfl
    have hspawned : Spawned w (w.joined new row id owner typeId random r') new owner typeId
        ⟨id, w.generation[id]⟩ := by
      refine ⟨hid, hg, ⟨row, rfl, ?_, ?_⟩, rfl, rfl, rfl, rfl, rfl, rfl, rfl, rfl, rfl, rfl, ?_⟩
      · rw [hrow]
        rfl
      · rw [hrow]
        rfl
      · exact ObjectRegistry.units_setSlot _ _ _
    refine ⟨_, _, hcommit, hspawned, hspawned.registered hw howner hroom (hw.bare.setSlot _ _) hmirror ?_⟩
    intro s
    change r'.active s = update w.objects.active owner true s
    have hsame : w.objectBands.active = w.objects.active := funext hw.active
    rw [hactive, hsame]
  · rename_i hfull
    have hrun := hw.mirror.append_full hfresh howner (hlen ▸ Nat.le_of_not_lt hfull)
    simp only [withRow, commit, bind, Except.bind, index_ok hid, insert_ok howner, hassign, hrowOf, index_ok hg, hrun,
      throw, throwThe, MonadExceptOf.throw]

lemma Spawned.sound {new : ω} {typeId : Int32} {h : Handle}
    (hs : Spawned w w' new owner typeId h) (hw : w.Sound) (hlive : w.live < w.capacity)
    (hr : w'.Registered) : w'.Sound where
  toRegistered := hr
  capacity := hs.capacity.le.trans hw.capacity
  cap := by rw [hs.cap, hs.capacity, hw.cap]
  live := by
    rw [hs.live, hs.capacity]
    exact hlive
  rows := by
    obtain ⟨row, hrows, _⟩ := hs.rows
    rw [hrows, hs.live, length_append, hw.rows, length_singleton]
  orders := by rw [hs.orders, hs.live, length_append, hw.orders, length_singleton]
  types := by rw [hs.types, hs.live, length_append, hw.types, length_singleton]
  stepX := by rw [hs.stepX, hs.live, length_append, hw.stepX, length_singleton]
  stepY := by rw [hs.stepY, hs.live, length_append, hw.stepY, length_singleton]
  rowOf := by rw [hs.rowOf, length_set, hs.capacity, hw.rowOf]
  generation := by rw [hs.generations, hs.capacity, hw.generation]
  perm := by
    rw [hs.handles, hs.capacity]
    exact hw.perm
  back r id hr hid := by
    rw [hs.live] at hr
    rw [hs.handles] at hid
    rw [hs.rowOf, getElem?_set]
    by_cases hrl : r = w.live
    · -- the new row has the new id
      subst hrl
      obtain rfl := some.inj (hs.id.symm.trans hid)
      rw [if_pos rfl, if_pos (hw.rowOf ▸ hw.id_lt hid)]
    · have hne : h.id ≠ id := fun heq => hrl (hw.inj hid (heq ▸ hs.id))
      rw [if_neg hne]
      exact hw.back r id (by omega) hid

inductive SpawnSpec (w : World ω) (new : ω) (owner : Nat) (typeId : Int32) :
    Except Panic (Option Handle × World ω) → Prop
  | refused (hno : w.capacity ≤ w.live ∨ ownerSlots ≤ owner) : SpawnSpec w new owner typeId (.ok (none, w))
  | placed {h : Handle} {w' : World ω} (hlive : w.live < w.capacity) (howner : owner < ownerSlots)
      (hroom : (w.objects.units owner).length < Band.unit.limit) (hs : Spawned w w' new owner typeId h)
      (hw' : w'.Sound) : SpawnSpec w new owner typeId (.ok (some h, w'))
  | full (hlive : w.live < w.capacity) (howner : owner < ownerSlots)
      (hfull : Band.unit.limit ≤ (w.objects.units owner).length) :
      SpawnSpec w new owner typeId (.error .appendMirror)

lemma spawnSpec_of_commit (hw : w.Sound) (hlive : w.live < w.capacity)
    (howner : owner < ownerSlots) (random : Random) (new : ω) (typeId x y angle : Int32) (speed : Int16) :
    SpawnSpec w new owner typeId ((w.withRow random).commit new w.live owner typeId x y angle speed) := by
  have hcommit := commit_spec hw hlive howner random new typeId x y angle speed
  split at hcommit
  · rename_i hroom
    obtain ⟨h, w', hrun, hs, hr⟩ := hcommit
    rw [hrun]
    exact .placed hlive howner hroom hs (hs.sound hw hlive hr)
  · rename_i hfull
    rw [hcommit]
    exact .full hlive howner (Nat.le_of_not_lt hfull)

lemma pushZeroed_eq (hw : w.Sound) (hlive : w.live < w.capacity) :
    w.units.pushZeroed = some (w.live, { w.units with rows := w.units.rows ++ [.zero] }) := by
  have hroom : ¬ w.units.cap ≤ w.units.rows.length := by
    rw [hw.cap, hw.rows]
    exact Nat.not_le.2 hlive
  rw [UnitCols.pushZeroed, if_neg hroom, hw.rows]

lemma spawnTyped_spec (hw : w.Sound) (new : ω) (owner : Nat) (typeId : Int32) :
    SpawnSpec w new owner typeId (w.spawnTyped new owner typeId) := by
  unfold spawnTyped
  split
  · rename_i hno
    exact .refused hno
  · rename_i hyes
    obtain ⟨hlive, howner⟩ := not_or.1 hyes
    rw [pushZeroed_eq hw (Nat.lt_of_not_le hlive)]
    exact spawnSpec_of_commit hw (Nat.lt_of_not_le hlive) (Nat.lt_of_not_le howner) _ new typeId _ _ _ _

lemma allocateTypedAt_spec (hw : w.Sound) (new : ω) (owner : Nat) (typeId x y : Int32) :
    SpawnSpec w new owner typeId (w.allocateTypedAt new owner typeId x y) := by
  unfold allocateTypedAt
  split
  · rename_i hno
    exact .refused hno
  · rename_i hyes
    obtain ⟨hlive, howner⟩ := not_or.1 hyes
    rw [pushZeroed_eq hw (Nat.lt_of_not_le hlive)]
    exact spawnSpec_of_commit hw (Nat.lt_of_not_le hlive) (Nat.lt_of_not_le howner) w.random new typeId _ _ _ _

end

end World

end Don.Sim.Population
