import Don.Sim.World.Spawn

/-!
# Despawn — removing a unit

A removal takes two swaps: the last entry of the owner's band takes the index of the unit, and the last
row takes its row.  Between the two the invariant holds but for the row that is to go.
-/

namespace Don.Sim.Population

open Foundation List ObjectRegistry World
open Function (update update_of_ne update_self)

variable {ω : Type}

lemma remove_ok {r : ObjectRegistry} {who k : Nat} (hwho : who < ownerSlots)
    (hk : k < (r.units who).length) :
    r.remove who .unit k = .ok ((lastMoved (r.units who) k).map (·, k),
      r.setSlot who .unit (swapRemove (r.units who) k)) := by
  have hband : (r.slots who).band .unit = r.units who := rfl
  unfold remove
  rw [if_pos hwho]
  simp only [hband, Band.base, Nat.sub_zero, Nat.not_lt_zero, false_or, Nat.zero_add]
  rw [if_neg (Nat.not_le.2 hk)]
  unfold lastMoved
  by_cases hlast : k = (r.units who).length - 1
  · rw [if_pos hlast, if_neg (not_not.2 hlast), Option.map_none]
  · rw [if_neg hlast, if_pos hlast, getElem?_swapRemove, if_pos (by omega), if_pos rfl]

namespace World

variable {w w' w₁ : World ω} {h : Handle} {row : Nat}

/-! ## The index -/

/-- The rows after the unit of one of them has taken the index `k`. -/
def readdress (rows : List UnitRow) (moved : Option Nat) (k : Nat) : List UnitRow :=
  match moved with
  | none => rows
  | some m => rows.modify m ({ · with o := .ofNat k })

lemma getElem?_readdress (rows : List UnitRow) (moved : Option Nat) (k r : Nat) :
    (readdress rows moved k)[r]?
      = (rows[r]?).map fun u => if moved = some r then { u with o := .ofNat k } else u := by
  unfold readdress
  cases moved with
  | none => simp
  | some m =>
    rw [getElem?_modify]
    by_cases hm : m = r
    all_goals simp [hm]

/-- The world between the two swaps. -/
def unregistered (w : World ω) (who k : Nat) (objectBands : SparseObjectBands) : World ω :=
  { w with
    units := { w.units with rows := readdress w.units.rows (lastMoved (w.objects.units who) k) k }
    objects := w.objects.setSlot who .unit (swapRemove (w.objects.units who) k)
    objectBands }

/-- The registries hold all live units but the one in `row`. -/
structure RegisteredBut (w : World ω) (row : Nat) : Prop where
  owners : ∀ (r : Nat) (u : UnitRow), w.units.rows[r]? = some u → u.who < ownerSlots
  listed : Listed (fun r => if r = row then none else w.placeOf r) w.objects.units
  fits : ∀ s, (w.objects.units s).length ≤ Band.unit.limit
  bare : w.objects.Bare
  mirror : Mirror w.identities w.objectBands
  active : ∀ s, w.objectBands.active s = w.objects.active s

variable {u : UnitRow}

lemma Sound.entry (hw : w.Sound) (hu : w.units.rows[row]? = some u) :
    (w.objects.units u.who)[u.oIndex]? = some row :=
  (hw.listed row u.who u.oIndex).1 (by rw [placeOf, hu, Option.map_some])

lemma unregistered_registered (hw : w.Sound) (hu : w.units.rows[row]? = some u)
    {objectBands : SparseObjectBands}
    (hmirror : Mirror (update w.identities u.who (swapRemove (w.identities u.who) u.oIndex))
      objectBands) (hactive : objectBands.active = w.objectBands.active) :
    (w.unregistered u.who u.oIndex objectBands).RegisteredBut row := by
  have hentry := hw.entry hu
  have hklt := (List.getElem?_eq_some_iff.1 hentry).1
  have hunits : (w.unregistered u.who u.oIndex objectBands).objects.units = update w.objects.units
      u.who (swapRemove (w.objects.units u.who) u.oIndex) := ObjectRegistry.units_setSlot _ _ _
  refine ⟨fun r v hv => ?_, ?_, fun s => ?_, hw.bare.setSlot _ _, ?_, fun s => ?_⟩
  · rw [unregistered, getElem?_readdress] at hv
    obtain ⟨v₀, hv₀, rfl⟩ := Option.map_eq_some_iff.1 hv
    split
    all_goals exact hw.owners r v₀ hv₀
  · have hplace : w.placeOf row = some (u.who, u.oIndex) := by rw [placeOf, hu, Option.map_some]
    rw [hunits]
    refine (hw.listed.remove hplace).congr fun r => ?_
    unfold Listed.leave
    by_cases hr : r = row
    · rw [if_pos hr, if_pos hr]
    rw [if_neg hr, if_neg hr, placeOf, unregistered, getElem?_readdress]
    by_cases hlast : (w.objects.units u.who)[(w.objects.units u.who).length - 1]? = some r
    · -- the last entry of the band takes the index
      have hne : u.oIndex ≠ (w.objects.units u.who).length - 1 := by
        intro heq
        rw [heq, hlast] at hentry
        exact hr (Option.some.inj hentry)
      have hmoved : lastMoved (w.objects.units u.who) u.oIndex = some r := by
        rw [lastMoved, if_neg hne, hlast]
      obtain ⟨v, hv, hvp⟩ := Option.map_eq_some_iff.1 ((hw.listed r u.who _).2 hlast)
      rw [if_pos hlast, hv, Option.map_some, Option.map_some, if_pos hmoved]
      have hwho : v.who = u.who := congrArg Prod.fst hvp
      have ho : ({ v with o := .ofNat u.oIndex } : UnitRow).oIndex = u.oIndex :=
        oIndex_ofNat (hklt.trans_le (hw.fits u.who)) rfl
      exact congrArg some (Prod.ext hwho ho)
    · have hmoved : lastMoved (w.objects.units u.who) u.oIndex ≠ some r := by
        unfold lastMoved
        split
        · simp
        · exact hlast
      simp only [if_neg hlast, if_neg hmoved, Option.map_id']
      rfl
  · rw [hunits]
    by_cases hs : s = u.who
    · subst hs
      rw [update_self, length_swapRemove]
      exact (Nat.sub_le _ _).trans (hw.fits _)
    · rw [update_of_ne hs]
      exact hw.fits s
  · have hids : (w.unregistered u.who u.oIndex objectBands).identities
        = update w.identities u.who (swapRemove (w.identities u.who) u.oIndex) := by
      funext s
      change ((w.unregistered u.who u.oIndex objectBands).objects.units s).map w.identityAt = _
      rw [hunits]
      by_cases hs : s = u.who
      · subst hs
        rw [update_self, update_self, map_swapRemove]
        rfl
      · rw [update_of_ne hs, update_of_ne hs]
        rfl
    rw [hids]
    exact hmirror
  · change objectBands.active s = w.objects.active s
    rw [hactive]
    exact hw.active s

lemma unregister_spec (hw : w.Sound) (hu : w.units.rows[row]? = some u)
    (hid : w.handleOfRow[row]? = some h.id) (hg : w.generation[h.id]? = some h.generation) :
    ∃ objectBands, w.unregister h row = .ok (w.unregistered u.who u.oIndex objectBands) ∧
      (w.unregistered u.who u.oIndex objectBands).RegisteredBut row := by
  have hentry := hw.entry hu
  have hklt := (List.getElem?_eq_some_iff.1 hentry).1
  have hwho := hw.owners row u hu
  have hident : (w.identities u.who)[u.oIndex]? = some (.unit h.id h.generation) := by
    rw [identities, getElem?_map, hentry, Option.map_some, identityAt_eq hid hg]
  obtain ⟨objectBands, hrun, hmirror, hactive⟩ :=
    hw.mirror.remove hwho (hklt.trans_le (hw.fits u.who)) hident
  refine ⟨objectBands, ?_, unregistered_registered hw hu hmirror hactive⟩
  have hmoved : lastMoved (w.identities u.who) u.oIndex
      = (lastMoved (w.objects.units u.who) u.oIndex).map w.identityAt := (map_lastMoved _ _ _).symm
  have haddress : (⟨u.who, .unit, u.oIndex⟩ : Address) = unitAddress (u.who, u.oIndex) := rfl
  simp only [unregister, bind, Except.bind, index_ok hu, remove_ok hwho hklt, haddress, hrun, hmoved]
  cases hm : lastMoved (w.objects.units u.who) u.oIndex with
  | none =>
    simp only [Option.map_none, pure, Except.pure, unregistered, hm, readdress]
  | some m =>
    -- the unit that moves is live, and both receipts name it
    have hmem : m ∈ w.objects.units u.who := by
      unfold lastMoved at hm
      split at hm
      · cases hm
      · exact mem_of_getElem? hm
    have hmlive := hw.live_of_mem hmem
    have hmlt : m < w.units.rows.length := hw.rows ▸ hmlive
    have hmrow : w.units.rows[m]? = some w.units.rows[m] := getElem?_eq_getElem hmlt
    obtain ⟨id, hmid, hidlt⟩ := hw.exists_id (hmlive.trans_le hw.live)
    obtain ⟨g, hmg⟩ : ∃ g, w.generation[id]? = some g :=
      ⟨_, getElem?_eq_getElem (hw.generation ▸ hidlt)⟩
    have hrows : w.units.rows.set m { w.units.rows[m] with o := .ofNat u.oIndex }
        = readdress w.units.rows (lastMoved (w.objects.units u.who) u.oIndex) u.oIndex := by
      rw [hm, readdress, modify_eq_set_getElem?, hmrow]
      rfl
    simp only [Option.map_some, index_ok hmrow, assign_ok hmlt, pure, Except.pure, index_ok hmid,
      index_ok hmg, identityAt_eq hmid hmg, unitAddress, ne_eq, not_true, if_false, hrows, unregistered]

/-! ## The row -/

/-- What a removal does to everything but the registries: the last row takes the place of `row`, the last
id changes places with the id of the handle, and that has a new generation. -/
structure Compacted (w w' : World ω) (h : Handle) (row idLast : Nat) : Prop where
  rows : w'.units.rows = swapRemove w.units.rows row
  cap : w'.units.cap = w.units.cap
  orders : w'.unitOrders = swapRemove w.unitOrders row
  types : w'.unitTypeId = swapRemove w.unitTypeId row
  stepX : w'.moveStepX = swapRemove w.moveStepX row
  stepY : w'.moveStepY = swapRemove w.moveStepY row
  last : w.handleOfRow[w.live - 1]? = some idLast
  handles : w'.handleOfRow = (w.handleOfRow.set row idLast).set (w.live - 1) h.id
  rowOf : w'.rowOfHandle = w.rowOfHandle.set idLast row
  generations : w'.generation = w.generation.set h.id ((h.generation + 1) % 2 ^ 32)
  live : w'.live = w.live - 1
  capacity : w'.capacity = w.capacity

section

variable {idLast : Nat}

section

variable (hc : Compacted w w' h row idLast)
include hc

lemma Compacted.sized (hw : w.Sized) : w'.Sized where
  capacity := hc.capacity.le.trans hw.capacity
  cap := by rw [hc.cap, hc.capacity, hw.cap]
  live := by
    rw [hc.live, hc.capacity]
    exact (Nat.sub_le _ _).trans hw.live
  rows := by rw [hc.rows, length_swapRemove, hw.rows, hc.live]
  orders := by rw [hc.orders, length_swapRemove, hw.orders, hc.live]
  types := by rw [hc.types, length_swapRemove, hw.types, hc.live]
  stepX := by rw [hc.stepX, length_swapRemove, hw.stepX, hc.live]
  stepY := by rw [hc.stepY, length_swapRemove, hw.stepY, hc.live]
  rowOf := by rw [hc.rowOf, length_set, hw.rowOf, hc.capacity]
  generation := by rw [hc.generations, length_set, hw.generation, hc.capacity]

lemma Compacted.handle_at (hw : w.Handled) (hrow : row < w.live)
    (hlive : w.live ≤ w.capacity) (r : Nat) :
    w'.handleOfRow[r]? = if r = w.live - 1 then some h.id
      else if r = row then some idLast else w.handleOfRow[r]? := by
  have hlen := hw.length
  rw [hc.handles, getElem?_set, getElem?_set, length_set]
  by_cases hr : r = w.live - 1
  · rw [if_pos hr.symm, if_pos hr, if_pos (by omega)]
  · rw [if_neg (Ne.symm hr), if_neg hr]
    by_cases hr' : r = row
    · rw [if_pos hr'.symm, if_pos hr', if_pos (by omega)]
    · rw [if_neg (Ne.symm hr'), if_neg hr']

lemma Compacted.handled (hw : w.Handled) (hrow : row < w.live)
    (hlive : w.live ≤ w.capacity) (hrowOf : w.rowOfHandle.length = w.capacity)
    (hid : w.handleOfRow[row]? = some h.id) : w'.Handled where
  perm := by
    have hlen := hw.length
    obtain ⟨hlt, heq⟩ := List.getElem?_eq_some_iff.1 hid
    obtain ⟨hlt', heq'⟩ := List.getElem?_eq_some_iff.1 hc.last
    rw [hc.handles, hc.capacity, ← heq, ← heq']
    exact (set_set_perm hlt hlt').trans hw.perm
  back r id hr hid' := by
    rw [hc.live] at hr
    rw [hc.handle_at hw hrow hlive, if_neg (by omega)] at hid'
    rw [hc.rowOf, getElem?_set]
    by_cases hr' : r = row
    · rw [if_pos hr'] at hid'
      obtain rfl := Option.some.inj hid'
      rw [if_pos rfl, if_pos (hrowOf ▸ hw.id_lt hc.last), hr']
    rw [if_neg hr'] at hid'
    have hne : idLast ≠ id := fun heq => by
      have := hw.inj hid' (heq ▸ hc.last)
      omega
    rw [if_neg hne]
    exact hw.back r id (by omega) hid'

end

def rowBefore (w : World ω) (row r : Nat) : Nat :=
  if r = row then w.live - 1 else r

lemma Compacted.identityAt (hc : Compacted w w' h row idLast) (hw : w.Handled) (hrow : row < w.live)
    (hlive : w.live ≤ w.capacity) (hid : w.handleOfRow[row]? = some h.id) {r : Nat} (hr : r + 1 < w.live) :
    w'.identityAt r = w.identityAt (w.rowBefore row r) := by
  have hhandle : w'.handleOfRow[r]? = w.handleOfRow[w.rowBefore row r]? := by
    rw [hc.handle_at hw hrow hlive, if_neg (by omega), rowBefore]
    split
    · rw [hc.last]
    · rfl
  have hbefore : w.rowBefore row r < w.capacity ∧ w.rowBefore row r ≠ row := by
    unfold rowBefore
    split
    · omega
    · omega
  obtain ⟨id, hid', _⟩ := hw.exists_id hbefore.1
  have hne : h.id ≠ id := fun heq => hbefore.2 (hw.inj hid' (heq ▸ hid))
  simp only [World.identityAt, getD_eq_getElem?_getD, hhandle, hid', Option.getD_some, hc.generations,
    getElem?_set_ne hne]

lemma Compacted.placeOf (hc : Compacted w w' h row idLast)
    (hsize : w.units.rows.length = w.live) (r : Nat) :
    w'.placeOf r = if r + 1 < w.live then w.placeOf (w.rowBefore row r) else none := by
  rw [World.placeOf, hc.rows, getElem?_swapRemove, hsize, rowBefore]
  split
  · split
    · rfl
    · rfl
  · rfl

section

variable (hb : w.RegisteredBut row) (hc : Compacted w w' h row idLast) (hsize : w.Sized)
  (hh : w.Handled) (hrow : row < w.live) (hid : w.handleOfRow[row]? = some h.id)
include hb hc hsize hh hrow hid

/-- The registries agree again, when the entries for the last row name the row it has moved to. -/
lemma RegisteredBut.registered
    (hlisted : Listed w'.placeOf w'.objects.units) (hbare : w'.objects.Bare)
    (hunits : ∀ s, w.objects.units s = (w'.objects.units s).map (w.rowBefore row))
    (hactive : w'.objects.active = w.objects.active) (hbands : w'.objectBands = w.objectBands) :
    w'.Registered where
  owners r u hu := by
    rw [hc.rows] at hu
    obtain ⟨r', hr'⟩ := getElem?_of_mem (mem_swapRemove (mem_of_getElem? hu))
    exact hb.owners r' u hr'
  listed := hlisted
  fits s := by
    have hlen := hb.fits s
    rwa [hunits, length_map] at hlen
  bare := hbare
  mirror := by
    have hids : w'.identities = w.identities := by
      funext s
      rw [identities, identities, hunits, map_map]
      refine map_congr_left fun r hr => ?_
      -- a row in the registry is live
      obtain ⟨k, hk⟩ := hlisted.mem_iff.1 hr
      rw [hc.placeOf hsize.rows] at hk
      split at hk
      · rename_i hlt
        exact hc.identityAt hh hrow hsize.live hid hlt
      · cases hk
    rw [hids, hbands]
    exact hb.mirror
  active s := by
    rw [hbands, hactive]
    exact hb.active s

lemma RegisteredBut.registered_last (hlast : row = w.live - 1) (hobj : w'.objects = w.objects)
    (hbands : w'.objectBands = w.objectBands) : w'.Registered := by
  refine hb.registered hc hsize hh hrow hid ?_ (hobj ▸ hb.bare) (fun s => ?_) (by rw [hobj]) hbands
  · rw [hobj]
    refine hb.listed.congr fun r => ?_
    rw [hc.placeOf hsize.rows]
    by_cases hr : r = row
    · rw [if_pos hr, if_neg (by omega)]
    · rw [if_neg hr, rowBefore, if_neg hr]
      split
      · rfl
      · rw [World.placeOf, getElem?_eq_none (by rw [hsize.rows]; omega), Option.map_none]
  · have hid' : w.rowBefore row = id := by
      funext r
      unfold rowBefore
      split
      · rename_i hr
        rw [hr, hlast]
        rfl
      · rfl
    rw [hobj, hid', map_id]

lemma RegisteredBut.registered_moved (hlast : row ≠ w.live - 1) {u : UnitRow} (hu : w.units.rows[w.live - 1]? = some u)
    (hobj : w'.objects = w.objects.setSlot u.who .unit ((w.objects.units u.who).set u.oIndex row))
    (hbands : w'.objectBands = w.objectBands) : w'.Registered := by
  have hplace : (fun r => if r = row then none else w.placeOf r) (w.live - 1) = some (u.who, u.oIndex) := by
    dsimp only
    rw [if_neg (Ne.symm hlast), placeOf, hu, Option.map_some]
  have hunits : w'.objects.units
      = update w.objects.units u.who ((w.objects.units u.who).set u.oIndex row) := by
    rw [hobj, units_setSlot]
  have hentry := (hb.listed _ _ _).1 hplace
  refine hb.registered hc hsize hh hrow hid ?_ (hobj ▸ hb.bare.setSlot _ _) (fun s => ?_)
    (by rw [hobj]; rfl) hbands
  · rw [hunits]
    refine (hb.listed.rename hplace (if_pos rfl)).congr fun r => ?_
    rw [hc.placeOf hsize.rows, rowBefore]
    by_cases hr : r = row
    · rw [hr, update_self, if_pos (by omega), if_pos rfl, placeOf, hu, Option.map_some]
    rw [update_of_ne hr, if_neg hr]
    by_cases hr' : r = w.live - 1
    · rw [hr', update_self, if_neg (by omega)]
    · rw [update_of_ne hr', if_neg hr]
      split
      · rfl
      · rw [placeOf, getElem?_eq_none (by rw [hsize.rows]; omega), Option.map_none]
  · -- no entry names `row`, so that going back changes only the entry that was repointed
    have hback : ∀ t, (w.objects.units t).map (w.rowBefore row) = w.objects.units t := by
      intro t
      refine (map_congr_left fun r hr => ?_).trans (map_id _)
      obtain ⟨k, hk⟩ := hb.listed.mem_iff.1 hr
      by_cases hrr : r = row
      · rw [if_pos hrr] at hk
        cases hk
      · rw [rowBefore, if_neg hrr]
        rfl
    rw [hunits]
    by_cases hs : s = u.who
    · subst hs
      rw [update_self, map_set, hback, rowBefore, if_pos rfl]
      obtain ⟨hlt, heq⟩ := List.getElem?_eq_some_iff.1 hentry
      rw [← heq, set_getElem_self]
    · rw [update_of_ne hs, hback]

end

end

/-! ## The call -/

lemma Handled.rowOf_eq_some_iff (hw : w.Handled) {r : Nat} : w.rowOf h = some r ↔
    r < w.live ∧ w.handleOfRow[r]? = some h.id ∧ w.generation[h.id]? = some h.generation := by
  unfold rowOf
  constructor
  · intro hr
    split at hr
    · rename_i hgen
      split at hr
      · rename_i row hrow
        split at hr
        · rename_i hlive
          obtain rfl := Option.some.inj hr
          exact ⟨hlive.1, hlive.2, hgen.2⟩
        · cases hr
      · cases hr
    · cases hr
  · rintro ⟨hlive, hid, hgen⟩
    rw [if_pos ⟨hw.id_lt hid, hgen⟩, hw.back r h.id hlive hid]
    exact if_pos ⟨hlive, hid⟩

lemma length_readdress (rows : List UnitRow) (moved : Option Nat) (k : Nat) :
    (readdress rows moved k).length = rows.length := by
  unfold readdress
  split
  · rfl
  · exact length_modify _ _ _

lemma Sound.unregistered_sized (hw : w.Sound) (who k : Nat) (objectBands : SparseObjectBands) :
    (w.unregistered who k objectBands).Sized :=
  { hw.toSized with rows := (length_readdress _ _ _).trans hw.rows }

lemma Sound.unregistered_handled (hw : w.Sound) (who k : Nat) (objectBands : SparseObjectBands) :
    (w.unregistered who k objectBands).Handled :=
  ⟨hw.perm, hw.back⟩

/-- The unit in `row` is gone, and the last one has its row. -/
def Removed (w w' : World ω) (h : Handle) (row : Nat) : Prop :=
  ∃ who k objectBands idLast, Compacted (w.unregistered who k objectBands) w' h row idLast

def filled (w : World ω) (row : Nat) (u : UnitRow) (idLast : Nat) : World ω :=
  { w with
    units := { w.units with rows := w.units.rows.set row u }
    unitOrders := swapRemove w.unitOrders row
    unitTypeId := swapRemove w.unitTypeId row
    moveStepX := swapRemove w.moveStepX row
    moveStepY := swapRemove w.moveStepY row
    objects := w.objects.setSlot u.who .unit ((w.objects.units u.who).set u.oIndex row)
    handleOfRow := w.handleOfRow.set row idLast
    rowOfHandle := w.rowOfHandle.set idLast row }

/-- The world after the id was given back. -/
def vacated (w : World ω) (h : Handle) (last g : Nat) : World ω :=
  { w with
    units := w.units.pop
    handleOfRow := w.handleOfRow.set last h.id
    live := w.live - 1
    generation := w.generation.set h.id ((g + 1) % 2 ^ 32) }

lemma fillRow_ok (hsize : w.Sized) (hh : w.Handled) (hrow : row + 1 < w.live) {idLast : Nat}
    (hu : w.units.rows[w.live - 1]? = some u) (hwho : u.who < ownerSlots)
    (hlast : w.handleOfRow[w.live - 1]? = some idLast) :
    w.fillRow row (w.live - 1) = .ok (w.filled row u idLast) := by
  have hcap := hsize.live
  have hlen := hh.length
  have hrlt : row < w.units.rows.length := by rw [hsize.rows]; omega
  have hget : (w.units.rows.set row u)[row]? = some u := by
    rw [getElem?_set_self hrlt]
  have hrepoint : w.objects.repoint u.who .unit u.oIndex row
      = .ok (w.objects.setSlot u.who .unit ((w.objects.units u.who).set u.oIndex row)) := by
    simp [ObjectRegistry.repoint, hwho, Band.base, Slot.band, ObjectRegistry.units]
  simp only [fillRow, UnitCols.copyRow, bind, Except.bind, index_ok hu, assign_ok hrlt, pure, Except.pure,
    removeAt_ok (l := w.unitOrders) (i := row) (by rw [hsize.orders]; omega),
    removeAt_ok (l := w.unitTypeId) (i := row) (by rw [hsize.types]; omega),
    removeAt_ok (l := w.moveStepX) (i := row) (by rw [hsize.stepX]; omega),
    removeAt_ok (l := w.moveStepY) (i := row) (by rw [hsize.stepY]; omega), index_ok hget, hrepoint,
    index_ok hlast, assign_ok (l := w.handleOfRow) (i := row) (by omega),
    assign_ok (l := w.rowOfHandle) (hsize.rowOf ▸ hh.id_lt hlast), filled]

lemma vacate_ok {last g : Nat} (hlast : last < w.handleOfRow.length)
    (hg : w.generation[h.id]? = some g) :
    w.vacate h last = .ok (true, w.vacated h last g) := by
  have hlt := (List.getElem?_eq_some_iff.1 hg).1
  simp only [vacate, bind, Except.bind, assign_ok hlast, index_ok hg, assign_ok hlt, pure, Except.pure,
    vacated]

lemma compacted_last (hsize : w.Sized) (hh : w.Handled) (hrow : row < w.live)
    (hlast : row = w.live - 1)
    (hid : w.handleOfRow[row]? = some h.id) :
    Compacted w (w.dropSides.vacated h (w.live - 1) h.generation) h row h.id where
  rows := by rw [hlast, ← hsize.rows, swapRemove_last]; rfl
  cap := rfl
  orders := by rw [hlast, ← hsize.orders, swapRemove_last]; rfl
  types := by rw [hlast, ← hsize.types, swapRemove_last]; rfl
  stepX := by rw [hlast, ← hsize.stepX, swapRemove_last]; rfl
  stepY := by rw [hlast, ← hsize.stepY, swapRemove_last]; rfl
  last := hlast ▸ hid
  handles := by rw [hlast, set_set]; rfl
  rowOf := by
    -- the id is entered for this row already
    obtain ⟨hlt, heq⟩ := List.getElem?_eq_some_iff.1 (hh.back row h.id hrow hid)
    rw [← heq, set_getElem_self]
    rfl
  generations := rfl
  live := rfl
  capacity := rfl

lemma compacted_moved (hsize : w.Sized) {idLast : Nat}
    (hu : w.units.rows[w.live - 1]? = some u) (hidLast : w.handleOfRow[w.live - 1]? = some idLast) :
    Compacted w ((w.filled row u idLast).vacated h (w.live - 1) h.generation) h row idLast where
  rows := by
    rw [← hsize.rows] at hu
    rw [swapRemove_of_last row hu]
    rfl
  cap := rfl
  orders := rfl
  types := rfl
  stepX := rfl
  stepY := rfl
  last := hidLast
  handles := rfl
  rowOf := rfl
  generations := rfl
  live := rfl
  capacity := rfl

lemma compact_spec (hb : w.RegisteredBut row) (hsize : w.Sized) (hh : w.Handled)
    (hrow : row < w.live)
    (hid : w.handleOfRow[row]? = some h.id) (hg : w.generation[h.id]? = some h.generation) :
    ∃ w' idLast, w.compact h row = .ok (true, w') ∧ Compacted w w' h row idLast ∧ w'.Registered := by
  have hcap := hsize.live
  have hlen := hh.length
  by_cases hlast : row = w.live - 1
  · have hvacate : w.dropSides.vacate h (w.live - 1)
        = .ok (true, w.dropSides.vacated h (w.live - 1) h.generation) :=
      vacate_ok (by change w.live - 1 < w.handleOfRow.length; omega) hg
    have hc := compacted_last hsize hh hrow hlast hid
    refine ⟨_, h.id, ?_, hc, hb.registered_last hc hsize hh hrow hid hlast rfl rfl⟩
    simp only [compact, hlast, ne_eq, not_true, if_false, bind, Except.bind, pure, Except.pure, hvacate]
  · obtain ⟨idLast, hidLast, _⟩ := hh.exists_id (r := w.live - 1) (by omega)
    obtain ⟨u, hu⟩ : ∃ u, w.units.rows[w.live - 1]? = some u :=
      ⟨_, getElem?_eq_getElem (by rw [hsize.rows]; omega)⟩
    have hnext : row + 1 < w.live := by omega
    have hfill := fillRow_ok hsize hh hnext hu (hb.owners _ u hu) hidLast
    have hvacate : (w.filled row u idLast).vacate h (w.live - 1)
        = .ok (true, (w.filled row u idLast).vacated h (w.live - 1) h.generation) :=
      vacate_ok (by change w.live - 1 < (w.handleOfRow.set row idLast).length; rw [length_set]; omega) hg
    have hc : Compacted w ((w.filled row u idLast).vacated h (w.live - 1) h.generation) h row idLast :=
      compacted_moved hsize hu hidLast
    refine ⟨_, idLast, ?_, hc, hb.registered_moved hc hsize hh hrow hid hlast hu rfl rfl⟩
    simp only [compact, ne_eq, hlast, not_false_eq_true, if_true, bind, Except.bind, hfill, hvacate]

lemma despawn_removes (hw : w.Sound) (hfound : w.rowOf h = some row) :
    ∃ w', w.despawn h = .ok (true, w') ∧ Removed w w' h row ∧ w'.Sound := by
  obtain ⟨hrow, hid, hg⟩ := hw.rowOf_eq_some_iff.1 hfound
  obtain ⟨u, hu⟩ : ∃ u, w.units.rows[row]? = some u := ⟨_, getElem?_eq_getElem (hw.rows ▸ hrow)⟩
  obtain ⟨bands, hrun, hbut⟩ := unregister_spec (h := h) hw hu hid hg
  have hsize := hw.unregistered_sized u.who u.oIndex bands
  have hhandled := hw.unregistered_handled u.who u.oIndex bands
  obtain ⟨w', idLast, hcompact, hc, hr⟩ := compact_spec hbut hsize hhandled hrow hid hg
  refine ⟨w', ?_, ⟨_, _, _, _, hc⟩, ?_⟩
  · simp only [despawn, hfound, bind, Except.bind, hrun, hcompact]
  · exact { hc.sized hsize, hc.handled hhandled hrow hsize.live hsize.rowOf hid, hr with }

end World

end Don.Sim.Population
