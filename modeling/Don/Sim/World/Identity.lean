import Don.Sim.World.Calls

/-!
# Identity — handles, rows and addresses over whole runs

A handle has a row from the spawn that returned it to its removal, and never again: ids come back with a
new generation, and fewer than `2 ^ 32` calls cannot bring an old one back.  In the meantime its unit keeps
all it has but its index.
-/

namespace Don.Sim.Population

open Foundation List SparseObjectBands

variable {ω : Type}

/-! ## Histories -/

def spawned (trace : List (Call × Answer)) : List Handle :=
  trace.filterMap fun
    | (_, .handle h) => h
    | (_, .done _) => none

def despawned (trace : List (Call × Answer)) : List Handle :=
  trace.filterMap fun
    | (.despawn h, .done true) => some h
    | _ => none

namespace World

variable {w w' : World ω} {new : ω} {h : Handle} {row : Nat}

lemma Sound.isSome_rowOf_iff (hw : w.Sound) : (w.rowOf h).isSome ↔
    ∃ r, r < w.live ∧ w.handleOfRow[r]? = some h.id ∧ w.generation[h.id]? = some h.generation := by
  rw [Option.isSome_iff_exists]
  exact exists_congr fun r => hw.rowOf_eq_some_iff

variable {owner : Nat} {typeId : Int32} {x : Handle}

lemma Spawned.isSome_rowOf_iff
    (hs : Spawned w w' new owner typeId x) (hw : w.Sound) (hw' : w'.Sound) :
    (w'.rowOf h).isSome ↔ (w.rowOf h).isSome ∨ h = x := by
  rw [hw.isSome_rowOf_iff, hw'.isSome_rowOf_iff, hs.live, hs.handles, hs.generations]
  constructor
  · rintro ⟨r, hr, hid, hg⟩
    by_cases hrl : r = w.live
    · right
      rw [hrl] at hid
      have hids := Option.some.inj (hid.symm.trans hs.id)
      rw [hids] at hg
      have hgens := Option.some.inj (hg.symm.trans hs.generation)
      obtain ⟨id, g⟩ := h
      obtain ⟨id', g'⟩ := x
      simp only at hids hgens
      rw [hids, hgens]
    · exact .inl ⟨r, by omega, hid, hg⟩
  · rintro (⟨r, hr, hid, hg⟩ | rfl)
    · exact ⟨r, by omega, hid, hg⟩
    · exact ⟨w.live, by omega, hs.id, hs.generation⟩

variable {r : Nat}

lemma Removed.before (hr : Removed w w' h row) (hw : w.Sound) (hfound : w.rowOf h = some row)
    (hlt : r + 1 < w.live) : w'.handleOfRow[r]? = w.handleOfRow[w.rowBefore row r]? ∧
      w.rowBefore row r < w.live ∧ w.rowBefore row r ≠ row := by
  obtain ⟨who, k, bands, idLast, hc⟩ := hr
  obtain ⟨hrow, _, _⟩ := hw.rowOf_eq_some_iff.1 hfound
  have hat := hc.handle_at (hw.unregistered_handled who k bands) hrow hw.live r
  change w'.handleOfRow[r]? = if r = w.live - 1 then some h.id
    else if r = row then some idLast else w.handleOfRow[r]? at hat
  have hlast : w.handleOfRow[w.live - 1]? = some idLast := hc.last
  rw [hat, if_neg (by omega), rowBefore]
  split
  · exact ⟨hlast.symm, by omega, by omega⟩
  · rename_i hne
    exact ⟨rfl, by omega, hne⟩

lemma Removed.generation (hr : Removed w w' h row) (hw : w.Sound) (hfound : w.rowOf h = some row)
    (id : Nat) : w'.generation[id]? = if h.id = id then some ((h.generation + 1) % 2 ^ 32)
      else w.generation[id]? := by
  obtain ⟨who, k, bands, idLast, hc⟩ := hr
  obtain ⟨_, _, hg⟩ := hw.rowOf_eq_some_iff.1 hfound
  rw [hc.generations, getElem?_set]
  split
  · rename_i heq
    exact if_pos (List.getElem?_eq_some_iff.1 hg).1
  · rfl

lemma Removed.isSome_rowOf_iff (hr : Removed w w' x row) (hw : w.Sound) (hw' : w'.Sound)
    (hfound : w.rowOf x = some row) : (w'.rowOf h).isSome ↔ (w.rowOf h).isSome ∧ h ≠ x := by
  obtain ⟨hrow, hid, hg⟩ := hw.rowOf_eq_some_iff.1 hfound
  have hlive : w'.live = w.live - 1 := by
    obtain ⟨_, _, _, _, hc⟩ := hr
    exact hc.live
  rw [hw.isSome_rowOf_iff, hw'.isSome_rowOf_iff]
  constructor
  · rintro ⟨r, hr', hid', hg'⟩
    obtain ⟨hhandle, hlt, hne⟩ := hr.before hw hfound (r := r) (by omega)
    rw [hhandle] at hid'
    have hids : x.id ≠ h.id := fun heq => hne (hw.inj hid' (heq ▸ hid))
    rw [hr.generation hw hfound, if_neg hids] at hg'
    exact ⟨⟨_, hlt, hid', hg'⟩, fun heq => hids (congrArg Handle.id heq).symm⟩
  · rintro ⟨⟨r, hr', hid', hg'⟩, hne⟩
    have hids : x.id ≠ h.id := by
      intro heq
      rw [← heq, hg] at hg'
      obtain ⟨id, g⟩ := h
      obtain ⟨id', g'⟩ := x
      simp only [Option.some.injEq] at heq hg'
      exact hne (by rw [heq, hg'])
    have hrne : r ≠ row := fun heq => hids (Option.some.inj (hid.symm.trans (heq ▸ hid')))
    -- the last row has moved to `row`
    obtain ⟨r', hlt, hback⟩ : ∃ r', r' + 1 < w.live ∧ w.rowBefore row r' = r := by
      by_cases hlast : r = w.live - 1
      · exact ⟨row, by omega, by rw [rowBefore, if_pos rfl, hlast]⟩
      · exact ⟨r, by omega, by rw [rowBefore, if_neg hrne]⟩
    obtain ⟨hhandle, _, _⟩ := hr.before hw hfound hlt
    refine ⟨r', by omega, ?_, ?_⟩
    · rw [hhandle, hback]
      exact hid'
    · rw [hr.generation hw hfound, if_neg hids]
      exact hg'

/-- What the past says about the handles of a world. -/
structure History (trace : List (Call × Answer)) (w : World ω) : Prop where
  valid : ∀ h, (w.rowOf h).isSome ↔ h ∈ spawned trace ∧ h ∉ despawned trace
  gone : ∀ h ∈ despawned trace, ∃ g, w.generation[h.id]? = some g ∧ h.generation < g
  bound : ∀ id g : Nat, w.generation[id]? = some g → g ≤ trace.length

lemma spawned_snoc (trace : List (Call × Answer)) (c : Call) (a : Answer) :
    spawned (trace ++ [(c, a)]) = spawned trace ++ spawned [(c, a)] :=
  filterMap_append

lemma despawned_snoc (trace : List (Call × Answer)) (c : Call) (a : Answer) :
    despawned (trace ++ [(c, a)]) = despawned trace ++ despawned [(c, a)] :=
  filterMap_append

lemma despawned_handle (c : Call) (x : Option Handle) : despawned [(c, .handle x)] = [] := by
  cases c with
  | despawn | spawnTyped | allocateTypedAt | setObjectOwnerActive => rfl

variable {trace : List (Call × Answer)} {c : Call}

section

variable (hh : History trace w)
include hh

lemma History.same {a : Answer}
    (hrow : ∀ h, w'.rowOf h = w.rowOf h) (hgen : w'.generation = w.generation)
    (hs : spawned [(c, a)] = []) (hd : despawned [(c, a)] = []) : History (trace ++ [(c, a)]) w' where
  valid h := by
    rw [spawned_snoc, despawned_snoc, hs, hd, append_nil, append_nil, hrow]
    exact hh.valid h
  gone h hmem := by
    rw [despawned_snoc, hd, append_nil] at hmem
    rw [hgen]
    exact hh.gone h hmem
  bound id g hg := by
    rw [hgen] at hg
    rw [length_append]
    exact (hh.bound id g hg).trans (Nat.le_add_right _ _)

lemma History.spawn (hw : w.Sound) (hw' : w'.Sound) (hs : Spawned w w' new owner typeId x) :
    History (trace ++ [(c, .handle (some x))]) w' where
  valid h := by
    -- the handle is new: an old one with this id has an earlier generation
    have hnew : x ∉ despawned trace := by
      intro hmem
      obtain ⟨g, hg, hlt⟩ := hh.gone x hmem
      obtain rfl := Option.some.inj (hg.symm.trans hs.generation)
      exact lt_irrefl _ hlt
    rw [hs.isSome_rowOf_iff hw hw', hh.valid, spawned_snoc, despawned_snoc, despawned_handle, append_nil]
    have hsingle : spawned [(c, .handle (some x))] = [x] := rfl
    rw [hsingle, mem_append, mem_singleton]
    constructor
    · rintro (⟨hin, hout⟩ | rfl)
      · exact ⟨.inl hin, hout⟩
      · exact ⟨.inr rfl, hnew⟩
    · rintro ⟨hin | rfl, hout⟩
      · exact .inl ⟨hin, hout⟩
      · exact .inr rfl
  gone h hmem := by
    rw [despawned_snoc, despawned_handle, append_nil] at hmem
    rw [hs.generations]
    exact hh.gone h hmem
  bound id g hg := by
    rw [hs.generations] at hg
    rw [length_append]
    exact (hh.bound id g hg).trans (Nat.le_add_right _ _)

lemma History.despawn (hw : w.Sound)
    (hw' : w'.Sound) (hfound : w.rowOf x = some row) (hr : Removed w w' x row)
    (hfew : trace.length + 1 < 2 ^ 32) : History (trace ++ [(.despawn x, .done true)]) w' := by
  obtain ⟨_, _, hg⟩ := hw.rowOf_eq_some_iff.1 hfound
  have hbound := hh.bound _ _ hg
  have hnext : (x.generation + 1) % 2 ^ 32 = x.generation + 1 := Nat.mod_eq_of_lt (by omega)
  have hsingle : despawned [(.despawn x, .done true)] = [x] := rfl
  have hnone : spawned [(.despawn x, .done true)] = [] := rfl
  refine ⟨fun h => ?_, fun h hmem => ?_, fun id g hid => ?_⟩
  · rw [hr.isSome_rowOf_iff hw hw' hfound, hh.valid, spawned_snoc, despawned_snoc, hsingle, hnone,
      append_nil, mem_append, mem_singleton, not_or, and_assoc]
  · rw [despawned_snoc, hsingle, mem_append, mem_singleton] at hmem
    rw [hr.generation hw hfound, hnext]
    split
    · -- the generation of the id has grown
      rename_i heq
      refine ⟨_, rfl, ?_⟩
      rcases hmem with hold | rfl
      · obtain ⟨g, hg', hlt⟩ := hh.gone h hold
        rw [← heq, hg] at hg'
        rw [Option.some.inj hg']
        exact hlt.trans (Nat.lt_succ_self _)
      · exact Nat.lt_succ_self _
    · rename_i hne
      rcases hmem with hold | rfl
      · exact hh.gone h hold
      · exact (hne rfl).elim
  · rw [hr.generation hw hfound, hnext] at hid
    rw [length_append, length_singleton]
    split at hid
    · rw [← Option.some.inj hid]
      exact Nat.succ_le_succ hbound
    · exact (hh.bound id g hid).trans (Nat.le_succ _)

lemma History.snoc {a : Answer}
    (hw : w.Sound) (hs : CallSpec new w c (.ok (a, w'))) (hfew : trace.length + 1 < 2 ^ 32) :
    History (trace ++ [(c, a)]) w' := by
  cases hs with
  | refused hc _ => exact hh.same (fun _ => rfl) rfl rfl (despawned_handle c none)
  | placed _ _ _ _ hs hw' => exact hh.spawn hw hw' hs
  | stale _ | noOwner _ | activated _ _ => exact hh.same (fun _ => rfl) rfl rfl rfl
  | removed hfound hr hw' => exact hh.despawn hw hw' hfound hr hfew

end

lemma history_withCapacity (capacity : Nat) (seed : UInt64) (stats : List UnitTypeStats) :
    History [] (withCapacity capacity seed stats : World ω) where
  valid h := by
    rw [(withCapacity_sound capacity seed stats).isSome_rowOf_iff]
    exact ⟨fun ⟨_, hr, _⟩ => (nomatch hr), fun hmem => (nomatch hmem.1)⟩
  gone _ hmem := nomatch hmem
  bound id g hg := by
    have hmem := mem_of_getElem? hg
    rw [eq_of_mem_replicate hmem]
    exact le_rfl

lemma Runs.history {trace before : List (Call × Answer)} (hr : Runs new w trace w')
    (hh : History before w) (hfew : before.length + trace.length < 2 ^ 32) :
    History (before ++ trace) w' := by
  induction hr with
  | nil => rwa [append_nil]
  | snoc _ hw₁ hs ih =>
    rw [length_append, length_singleton] at hfew
    rw [← append_assoc]
    exact (ih (by omega)).snoc hw₁ hs (by rw [length_append]; omega)

/-! ## Units that survive -/

/-- The unit in row `r'` has everything the unit in row `r` had, but its index. -/
structure Keeps (w w' : World ω) (r r' : Nat) : Prop where
  types : w'.unitTypeId[r']? = w.unitTypeId[r]?
  orders : w'.unitOrders[r']? = w.unitOrders[r]?
  stepX : w'.moveStepX[r']? = w.moveStepX[r]?
  stepY : w'.moveStepY[r']? = w.moveStepY[r]?
  columns : ∃ u o, w.units.rows[r]? = some u ∧ w'.units.rows[r']? = some { u with o }

lemma Keeps.refl (hw : w.Sound) (hr : r < w.live) : Keeps w w r r :=
  ⟨rfl, rfl, rfl, rfl, _, _, getElem?_eq_getElem (hw.rows ▸ hr), getElem?_eq_getElem (hw.rows ▸ hr)⟩

lemma Keeps.trans {w₁ : World ω} {r₁ r' : Nat} (h₁ : Keeps w w₁ r r₁) (h₂ : Keeps w₁ w' r₁ r') :
    Keeps w w' r r' := by
  obtain ⟨u, o, hu, hu₁⟩ := h₁.columns
  obtain ⟨u₁, o₁, hu₁', hu'⟩ := h₂.columns
  obtain rfl := Option.some.inj (hu₁.symm.trans hu₁')
  exact ⟨h₂.types.trans h₁.types, h₂.orders.trans h₁.orders, h₂.stepX.trans h₁.stepX,
    h₂.stepY.trans h₁.stepY, u, o₁, hu, hu'⟩

lemma Spawned.keeps (hs : Spawned w w' new owner typeId x)
    (hw : w.Sound) (hr : r < w.live) : Keeps w w' r r := by
  obtain ⟨row, hrows, _⟩ := hs.rows
  obtain ⟨u, hu⟩ : ∃ u, w.units.rows[r]? = some u := ⟨_, getElem?_eq_getElem (hw.rows ▸ hr)⟩
  refine ⟨?_, ?_, ?_, ?_, u, u.o, hu, ?_⟩
  · rw [hs.types, getElem?_append_left (hw.types ▸ hr)]
  · rw [hs.orders, getElem?_append_left (hw.orders ▸ hr)]
  · rw [hs.stepX, getElem?_append_left (hw.stepX ▸ hr)]
  · rw [hs.stepY, getElem?_append_left (hw.stepY ▸ hr)]
  · rw [hrows, getElem?_append_left (hw.rows ▸ hr), hu]

lemma getElem?_swapRemove_before {α : Type} {l : List α} (hl : l.length = w.live)
    (hr : r + 1 < w.live) : (swapRemove l row)[r]? = l[w.rowBefore row r]? := by
  rw [getElem?_swapRemove, hl, if_pos hr, rowBefore]
  split
  · rfl
  · rfl

lemma Removed.keeps (hr : Removed w w' h row) (hw : w.Sound) (hlt : r + 1 < w.live)
    (hbefore : w.rowBefore row r < w.live) : Keeps w w' (w.rowBefore row r) r := by
  obtain ⟨who, k, bands, idLast, hc⟩ := hr
  obtain ⟨u, hu⟩ : ∃ u, w.units.rows[w.rowBefore row r]? = some u :=
    ⟨_, getElem?_eq_getElem (hw.rows ▸ hbefore)⟩
  refine ⟨?_, ?_, ?_, ?_, ?_⟩
  · rw [hc.types]
    exact getElem?_swapRemove_before hw.types hlt
  · rw [hc.orders]
    exact getElem?_swapRemove_before hw.orders hlt
  · rw [hc.stepX]
    exact getElem?_swapRemove_before hw.stepX hlt
  · rw [hc.stepY]
    exact getElem?_swapRemove_before hw.stepY hlt
  · -- a unit of the same band may have got the index
    have hrows : w'.units.rows[r]? = (readdress w.units.rows (lastMoved (w.objects.units who) k) k)[
        w.rowBefore row r]? := by
      rw [hc.rows]
      exact getElem?_swapRemove_before ((length_readdress _ _ _).trans hw.rows) hlt
    rw [getElem?_readdress, hu, Option.map_some] at hrows
    by_cases hm : lastMoved (w.objects.units who) k = some (w.rowBefore row r)
    · exact ⟨u, .ofNat k, hu, by rw [hrows, if_pos hm]⟩
    · exact ⟨u, u.o, hu, by rw [hrows, if_neg hm]⟩

lemma CallSpec.keeps {a : Answer} (hs : CallSpec new w c (.ok (a, w'))) (hw : w.Sound)
    {r' : Nat} (hr : w.rowOf h = some r) (hr' : w'.rowOf h = some r') : Keeps w w' r r' := by
  have hsame : ∀ {w₁ : World ω}, w₁.rowOf h = w.rowOf h → w₁.units = w.units → w₁.unitTypeId = w.unitTypeId →
      w₁.unitOrders = w.unitOrders → w₁.moveStepX = w.moveStepX → w₁.moveStepY = w.moveStepY →
      w₁.rowOf h = some r' → Keeps w w₁ r r' := by
    intro w₁ hrow hu ht ho hx hy hr₁
    rw [hrow, hr] at hr₁
    obtain rfl := Option.some.inj hr₁
    obtain ⟨_, _, _, _, u, o, h₁, h₂⟩ := Keeps.refl hw (hw.rowOf_eq_some_iff.1 hr).1
    exact ⟨by rw [ht], by rw [ho], by rw [hx], by rw [hy], u, o, h₁, by rw [hu]; exact h₂⟩
  obtain ⟨hlive, hid, _⟩ := hw.rowOf_eq_some_iff.1 hr
  cases hs with
  | refused | stale | noOwner | activated => exact hsame rfl rfl rfl rfl rfl rfl hr'
  | placed _ _ _ _ hs hw' =>
    obtain ⟨_, hid', _⟩ := hw'.rowOf_eq_some_iff.1 hr'
    rw [hs.handles] at hid'
    obtain rfl := hw.inj hid hid'
    exact hs.keeps hw hlive
  | @removed x row w' hfound hr₀ hw' =>
    obtain ⟨hlive', hid', _⟩ := hw'.rowOf_eq_some_iff.1 hr'
    have hl : w'.live = w.live - 1 := by
      obtain ⟨_, _, _, _, hc⟩ := hr₀
      exact hc.live
    obtain ⟨hhandle, hlt, _⟩ := hr₀.before hw hfound (r := r') (by omega)
    rw [hhandle] at hid'
    obtain rfl := hw.inj hid hid'
    exact hr₀.keeps hw (by omega) hlt

lemma Runs.keeps {before trace : List (Call × Answer)} (hruns : Runs new w trace w')
    (hh : History before w) (hw : w.Sound) (hw' : w'.Sound) (hfew : before.length + trace.length < 2 ^ 32) (hr : w.rowOf h = some r) : ∀ {r' : Nat}, w'.rowOf h = some r' → Keeps w w' r r' := by
  induction hruns with
  | nil =>
    intro r' hr'
    obtain rfl := Option.some.inj (hr.symm.trans hr')
    exact Keeps.refl hw (hw.rowOf_eq_some_iff.1 hr).1
  | @snoc w₁ w₂ trace c a hbefore hw₁ hs ih =>
    intro r' hr'
    rw [length_append, length_singleton] at hfew
    have hh₁ := hbefore.history hh (by omega)
    have hh₂ := hh₁.snoc hw₁ hs (by rw [length_append]; omega)
    -- it was valid in between: it has not been despawned
    have hvalid : (w₁.rowOf h).isSome := by
      obtain ⟨_, hout⟩ := (hh₂.valid h).1 (by rw [hr']; rfl)
      obtain ⟨hin, _⟩ := (hh.valid h).1 (by rw [hr]; rfl)
      refine (hh₁.valid h).2 ⟨?_, fun hmem => hout ?_⟩
      · rw [spawned, filterMap_append]
        exact mem_append_left _ hin
      · rw [despawned_snoc]
        exact mem_append_left _ hmem
    obtain ⟨r₁, hr₁⟩ := Option.isSome_iff_exists.1 hvalid
    exact (ih hw₁ (by omega) hr₁).trans (hs.keeps hw₁ hr₁ hr')

/-! ## Addresses -/

lemma toInt_of_oIndex {u : UnitRow} {k : Nat} (hk : k < Band.unit.limit) (hu : u.oIndex = k) :
    u.o.toInt = k := by
  have hle := Int16.le_toInt u.o
  have hlt := Int16.toInt_lt u.o
  unfold UnitRow.oIndex at hu
  simp only [Band.limit] at hk
  omega

lemma Sound.row_of_entry (hw : w.Sound) {s k : Nat} (hr : (w.objects.units s)[k]? = some r) :
    ∃ u, w.units.rows[r]? = some u ∧ u.who = s ∧ u.o.toInt = k := by
  obtain ⟨u, hu, hplace⟩ := Option.map_eq_some_iff.1 ((hw.listed r s k).2 hr)
  obtain ⟨hwho, ho⟩ := Prod.mk.inj hplace
  have hlt := (List.getElem?_eq_some_iff.1 hr).1.trans_le (hw.fits s)
  exact ⟨u, hu, hwho, toInt_of_oIndex hlt ho⟩

lemma Sound.identity (hw : w.Sound) (hr : r < w.live) :
    ∃ id g, w.handleOfRow[r]? = some id ∧ w.generation[id]? = some g ∧ w.identityAt r = .unit id g := by
  obtain ⟨id, hid, hlt⟩ := hw.exists_id (hr.trans_le hw.live)
  have hg : w.generation[id]? = some (w.generation.get ⟨id, hw.generation ▸ hlt⟩) :=
    getElem?_eq_getElem (hw.generation ▸ hlt)
  exact ⟨id, _, hid, hg, identityAt_eq hid hg⟩

lemma Sound.unitRowAt (hw : w.Sound) {u : UnitRow} (hu : w.units.rows[r]? = some u) :
    w.unitRowAt u.who u.o.toInt = some r := by
  have hentry := hw.entry hu
  have hk := (List.getElem?_eq_some_iff.1 hentry).1.trans_le (hw.fits u.who)
  have hwho := hw.owners r u hu
  obtain ⟨id, g, hid, hg, hident⟩ := hw.identity (hw.live_of_mem (mem_of_getElem? hentry))
  -- the address has the identity of the row, and that leads to the row
  have hlive : w.objectBands.liveIdentity ⟨u.who, .unit, u.oIndex⟩ = some (.unit id g) := by
    refine (hw.mirror.liveIdentity hwho hk).trans ?_
    rw [identities, getElem?_map, hentry, Option.map_some, hident]
  have hcontains : Band.unit.contains (u.oIndex : Int) = true := contains_unit.2 hk
  rw [toInt_of_oIndex hk rfl, World.unitRowAt, if_neg]
  · simp only [Int.toNat_natCast, hlive]
    exact hw.rowOf_eq_some_iff.2 ⟨hw.live_of_mem (mem_of_getElem? hentry), hid, hg⟩
  · rw [hcontains]
    simp only [Bool.true_eq_false, or_false, not_or, Int.not_lt, Int.not_le]
    exact ⟨Int.natCast_nonneg _, Int.ofNat_lt.2 hwho⟩

lemma Sound.bandEntries (hw : w.Sound) (s : Nat) :
    w.bandEntries s .unit = some (unitEntries s (w.identities s) 0) := by
  have hall : ∀ p ∈ (w.objects.units s).zipIdx 0,
      ((w.denseIdentity s .unit p.2 p.1).map fun identity => (⟨⟨s, .unit, p.2⟩, identity⟩ : DenseRegistryEntry))
        = some ⟨unitAddress (s, p.2), w.identityAt p.1⟩ := by
    rintro ⟨r, k⟩ hmem
    have hget : (w.objects.units s)[k]? = some r := by
      obtain ⟨_, hlt, heq⟩ := mem_zipIdx hmem
      exact List.getElem?_eq_some_iff.2 ⟨by simpa using hlt, by simpa using heq.symm⟩
    obtain ⟨u, hu, hwho, ho⟩ := hw.row_of_entry hget
    have hlive := hw.live_of_mem (mem_of_getElem? hget)
    obtain ⟨id, g, hid, hg, hident⟩ := hw.identity hlive
    have hno : ¬ (w.live ≤ r ∨ u.who ≠ s ∨ u.o.toInt ≠ k) := by
      rw [not_or, not_or]
      exact ⟨Nat.not_le.2 hlive, not_not.2 hwho, not_not.2 ho⟩
    simp only [denseIdentity, hu, hid, hg, Option.bind_some, bind, if_neg hno, Option.map_some, hident]
    rfl
  have hentries : unitEntries s (w.identities s) 0
      = ((w.objects.units s).zipIdx 0).map fun p => ⟨unitAddress (s, p.2), w.identityAt p.1⟩ := by
    rw [unitEntries, identities, zipIdx_map, map_map]
    rfl
  rw [hentries]
  exact mapM_eq_pure hall

lemma Sound.denseEquivalent (hw : w.Sound) : w.objectBandsAreDenseEquivalent = true := by
  obtain ⟨place, hlisted, _⟩ := hw.mirror.reverse
  have hnone : ∀ s, ownerSlots ≤ s → w.identities s = [] := by
    intro s hs
    rw [identities, map_eq_nil_iff, eq_nil_iff_forall_not_mem]
    intro r hr
    obtain ⟨k, hk⟩ := getElem?_of_mem hr
    obtain ⟨u, hu, hwho, _⟩ := hw.row_of_entry hk
    exact absurd (hw.owners r u hu) (Nat.not_lt.2 (hwho ▸ hs))
  obtain ⟨d, hrun, hmirror, hactive⟩ := fromDenseEntries_mirror hlisted
    (fun s => (length_map w.identityAt).trans_le (hw.fits s)) hnone w.objects.active
  -- one list of entries for each owner: it has no buildings and no walls
  have hbands : ∀ s, (bands.mapM fun b => w.bandEntries s b)
      = some [unitEntries s (w.identities s) 0, [], []] := by
    intro s
    obtain ⟨hbuilds, hwalls⟩ := hw.bare s
    have hb : w.bandEntries s .build = some [] := by
      simp [World.bandEntries, ObjectRegistry.slot, Slot.band, hbuilds]
    have hwl : w.bandEntries s .wall = some [] := by
      simp [World.bandEntries, ObjectRegistry.slot, Slot.band, hwalls]
    simp [bands, hw.bandEntries, hb, hwl]
  have hderive : w.deriveObjectBandsFromDense = some d := by
    have hentries := mapM_eq_pure (l := range ownerSlots) fun s _ => hbands s
    have hflat : ((range ownerSlots).map fun s =>
        [unitEntries s (w.identities s) 0, [], []]).flatten.flatten
          = (range ownerSlots).flatMap fun s => unitEntries s (w.identities s) 0 := by
      simp [flatMap, flatten_flatten, Function.comp_def]
    simp only [deriveObjectBandsFromDense, hentries, bind, pure, Option.bind_some, hflat, hrun, Except.toOption]
  have hsnapshot := hmirror.snapshot_eq hw.mirror fun s _ => by rw [hactive]; exact hw.active s
  rw [objectBandsAreDenseEquivalent, hderive]
  simp [hsnapshot]

/-! ## Whole runs -/

structure Identified (w : World ω) : Prop where
  perm : w.handleOfRow.Perm (List.range w.capacity)
  injective : ∀ h h' r, w.rowOf h = some r → w.rowOf h' = some r → h = h'
  addressed : ∀ r < w.live, ∃ u o, w.units.rows[r]? = some u ∧ u.who < ownerSlots ∧ u.o.toInt = (o : Nat) ∧
    ((w.objects.slot u.who).band .unit)[o]? = some r ∧ w.unitRowAt u.who o = some r
  only : ∀ s o r : Nat, ((w.objects.slot s).band .unit)[o]? = some r → r < w.live ∧
    ∃ u, w.units.rows[r]? = some u ∧ u.who = s ∧ u.o.toInt = o
  dense : w.objectBandsAreDenseEquivalent = true

lemma Sound.identified (hw : w.Sound) : w.Identified where
  perm := hw.perm
  injective h h' r hr hr' := by
    obtain ⟨_, hid, hg⟩ := hw.rowOf_eq_some_iff.1 hr
    obtain ⟨_, hid', hg'⟩ := hw.rowOf_eq_some_iff.1 hr'
    have hids := Option.some.inj (hid.symm.trans hid')
    rw [← hids, hg] at hg'
    obtain ⟨id, g⟩ := h
    obtain ⟨id', g'⟩ := h'
    simp only [Option.some.injEq] at hids hg'
    rw [hids, hg']
  addressed r hr := by
    have hlt : r < w.units.rows.length := hw.rows ▸ hr
    have hu : w.units.rows[r]? = some w.units.rows[r] := getElem?_eq_getElem hlt
    have hentry := hw.entry hu
    obtain ⟨v, hv, _, ho⟩ := hw.row_of_entry hentry
    obtain rfl := Option.some.inj (hu.symm.trans hv)
    refine ⟨_, _, hu, hw.owners r _ hu, ho, hentry, ?_⟩
    rw [← ho]
    exact hw.unitRowAt hu
  only s o r hr := ⟨hw.live_of_mem (mem_of_getElem? hr), hw.row_of_entry hr⟩
  dense := hw.denseEquivalent

/-- After any calls that return, fewer than `2 ^ 32` of them: rows, handles and addresses name each other, a
handle has a row exactly from its spawn to its removal, and a unit that survives further calls keeps all it
has but its index. -/
theorem world_identity (new : ω) (capacity : Nat) (seed : UInt64) (stats : List UnitTypeStats)
    (calls later : List Call) (hfew : (calls ++ later).length < 2 ^ 32) (trace : List (Call × Answer))
    (w : World ω) (hrun : (withCapacity capacity seed stats).run new calls = .ok (trace, w)) :
    w.Identified ∧ (∀ h, (w.rowOf h).isSome ↔ h ∈ spawned trace ∧ h ∉ despawned trace) ∧
      ∀ trace' w', w.run new later = .ok (trace', w') → ∀ h r r', w.rowOf h = some r →
        w'.rowOf h = some r' → Keeps w w' r r' := by
  rw [List.length_append] at hfew
  obtain ⟨hruns, hw, hlen⟩ := runs_of_run (withCapacity_sound capacity seed stats) hrun
  have hhistory : History trace w :=
    hruns.history (history_withCapacity capacity seed stats) (by simp only [List.length_nil]; omega)
  refine ⟨hw.identified, hhistory.valid, fun trace' w' hrun' h r r' hr hr' => ?_⟩
  obtain ⟨hruns', hw', hlen'⟩ := runs_of_run hw hrun'
  exact hruns'.keeps hhistory hw hw' (by omega) hr hr'

/-- Three units, of which the second is removed: its handle has no row any more. -/
theorem second_of_three_removed : ∃ trace w, (withCapacity 4 0 [] : World Unit).run ()
    [.spawnTyped 0 0, .spawnTyped 0 0, .spawnTyped 0 0, .despawn ⟨1, 0⟩] = .ok (trace, w) ∧
      w.Identified ∧ w.rowOf ⟨1, 0⟩ = none := by
  have hremoved : ((withCapacity 4 0 [] : World Unit).run () [.spawnTyped 0 0, .spawnTyped 0 0,
      .spawnTyped 0 0, .despawn ⟨1, 0⟩]).toOption.map (fun r => despawned r.1) = some [⟨1, 0⟩] := by
    decide +kernel
  generalize hrun : (withCapacity 4 0 [] : World Unit).run () [.spawnTyped 0 0, .spawnTyped 0 0,
      .spawnTyped 0 0, .despawn ⟨1, 0⟩] = r at hremoved ⊢
  cases r with
  | error => cases hremoved
  | ok r =>
    obtain ⟨trace, w⟩ := r
    have hid := world_identity () 4 0 [] _ [] (by decide) trace w hrun
    refine ⟨trace, w, rfl, hid.1, ?_⟩
    have hgone : despawned trace = [⟨1, 0⟩] := Option.some.inj hremoved
    rw [← Option.not_isSome_iff_eq_none, hid.2.1, hgone]
    simp

end World

end Don.Sim.Population
