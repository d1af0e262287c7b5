import Don.Sim.World.Objects

/-!
# Mirror — what the sparse registry stands for

As long as only the dense registry allocates, the sparse one stands for one list of identities for each
owner: the slots of the unit band are these, live and without gaps, and the reverse map says where each of
them is.  Each operation of the sparse registry is then one on the lists.
-/

namespace Don.Sim.Population

open Foundation SparseObjectBands List Function Option SparseSlot Band

def unitAddress (p : Nat × Nat) : Address :=
  ⟨p.1, .unit, p.2⟩

lemma unitAddress_injective : Function.Injective unitAddress := by
  rintro ⟨s, k⟩ ⟨t, j⟩ h
  simp only [unitAddress, Address.mk.injEq, true_and, Int.ofNat_inj] at h
  rw [h.1, h.2]

structure Mirror (lists : Nat → List Identity) (r : SparseObjectBands) : Prop where
  slots : ∀ s, (r.owners s .unit).slots.map SparseSlot.lifecycle = (lists s).map .live
  mark : ∀ s, (r.owners s .unit).mark = (lists s).length
  bare : ∀ s b, b ≠ .unit → r.owners s b = .new b
  reverse : ∃ place, Listed place lists ∧ ∀ x, r.reverse x = (place x).map unitAddress

namespace Mirror

variable {lists : Nat → List Identity} {r r' : SparseObjectBands}

lemma new (active : Nat → Bool) : Mirror (fun _ => []) { new with active } where
  slots _ := rfl
  mark _ := rfl
  bare _ _ _ := rfl
  reverse := ⟨_, Listed.empty, fun _ => rfl⟩

lemma setActive (h : Mirror lists r) (active : Nat → Bool) : Mirror lists { r with active } :=
  ⟨h.slots, h.mark, h.bare, h.reverse⟩

lemma length_slots (h : Mirror lists r) (s : Nat) : (r.owners s .unit).slots.length =
    (lists s).length := by
  simpa using congrArg length (h.slots s)

variable {x : Identity}

lemma reverse_eq_none (h : Mirror lists r) (hx : ∀ s, x ∉ lists s) : r.reverse x = none := by
  obtain ⟨place, hlisted, hreverse⟩ := h.reverse
  rw [hreverse, map_eq_none_iff]
  by_contra hne
  obtain ⟨⟨s, k⟩, hp⟩ := ne_none_iff_exists'.1 hne
  exact hx s (hlisted.mem_iff.2 ⟨k, hp⟩)

variable {s k : Nat}

section

variable (h : Mirror lists r)
include h

lemma reverse_eq_some (hx : (lists s)[k]? = some x) :
    r.reverse x = some (unitAddress (s, k)) := by
  obtain ⟨place, hlisted, hreverse⟩ := h.reverse
  rw [hreverse, (hlisted x s k).2 hx, map_some]

lemma lifecycle_at (s k : Nat) :
    ((r.owners s .unit).slots[k]?).map lifecycle = ((lists s)[k]?).map .live := by
  rw [← getElem?_map, ← getElem?_map, h.slots]

/-! ## Appending -/

lemma pushLive (hx : ∀ s, x ∉ lists s) (s : Nat) :
    Mirror (update lists s (lists s ++ [x])) (r.pushLive (unitAddress (s, (lists s).length)) x) where
  slots t := by
    by_cases ht : t = s
    · subst ht
      simp [SparseObjectBands.pushLive, allocateStorage, setBand,
        band, unitAddress, h.slots]
    · simp [SparseObjectBands.pushLive, allocateStorage, setBand,
        band, unitAddress, update_of_ne ht, h.slots]
  mark t := by
    by_cases ht : t = s
    · subst ht
      simp [SparseObjectBands.pushLive, allocateStorage, setBand,
        band, unitAddress, h.mark]
    · simp [SparseObjectBands.pushLive, allocateStorage, setBand,
        band, unitAddress, update_of_ne ht, h.mark]
  bare t b hb := by
    by_cases ht : t = s
    · subst ht
      simp [SparseObjectBands.pushLive, allocateStorage, setBand,
        band, unitAddress, update_of_ne hb, h.bare t b hb]
    · simp [SparseObjectBands.pushLive, allocateStorage, setBand,
        band, unitAddress, update_of_ne ht, h.bare t b hb]
  reverse := by
    obtain ⟨place, hlisted, hreverse⟩ := h.reverse
    have hnone : place x = none := by
      have := h.reverse_eq_none hx
      rwa [hreverse, map_eq_none_iff] at this
    refine ⟨_, hlisted.append hnone s, fun y => ?_⟩
    change update r.reverse x _ y = _
    by_cases hy : y = x
    · subst hy
      simp
    · rw [update_of_ne hy, update_of_ne hy, hreverse]

lemma append (hx : ∀ s, x ∉ lists s) (hs : s < ownerSlots)
    (hroom : (lists s).length < unit.limit) :
    ∃ r', r.mirrorDenseAppend s .unit x = .ok (unitAddress (s, (lists s).length), r') ∧
      Mirror (update lists s (lists s ++ [x])) r' ∧
      r'.active = update r.active s true := by
  refine ⟨_, ?_, (h.pushLive hx s).setActive (update r.active s true), rfl⟩
  have hmark : ¬ ((r.band s .unit).mark ≠ unit.base + ((r.band s .unit).slots.length : Int) ∨
      (r.band s .unit).mark ≥ (unit.limit : Int)) := by
    rw [band, h.mark, h.length_slots]
    simp only [base, limit] at hroom ⊢
    omega
  unfold mirrorDenseAppend
  rw [if_neg (Nat.not_le.2 hs), h.reverse_eq_none hx, if_neg (by simp)]
  dsimp only
  rw [if_neg hmark]
  simp only [band, h.mark]
  rfl

lemma append_full (hx : ∀ s, x ∉ lists s) (hs : s < ownerSlots)
    (hfull : unit.limit ≤ (lists s).length) :
    r.mirrorDenseAppend s .unit x = .error .denseMirrorMismatch := by
  have hmark : (r.band s .unit).mark ≥ (unit.limit : Int) := by
    rw [band, h.mark]
    exact Int.ofNat_le.2 hfull
  unfold mirrorDenseAppend
  rw [if_neg (Nat.not_le.2 hs), h.reverse_eq_none hx, if_neg (by simp)]
  dsimp only
  rw [if_pos (.inr hmark)]

/-! ## Removing -/

end

lemma slotIndex_unit (hs : s < ownerSlots) (hk : k < unit.limit) :
    slotIndex (unitAddress (s, k)) = .ok k := by
  have hcontains : unit.contains (k : Int) = true := by
    have hlt : (k : Int) < (unit.limit : Nat) := Int.ofNat_lt.2 hk
    simp [Band.contains, Band.base, hlt]
  simp only [slotIndex, unitAddress, if_neg (Nat.not_le.2 hs), hcontains, if_true,
    base]
  simp

section

variable (h : Mirror lists r)
include h

lemma liveIdentity (hs : s < ownerSlots) (hk : k < unit.limit) :
    r.liveIdentity (unitAddress (s, k)) = (lists s)[k]? := by
  have hlife := h.lifecycle_at s k
  unfold SparseObjectBands.liveIdentity
  rw [slotIndex_unit hs hk]
  simp only [band, unitAddress, hlife]
  cases (lists s)[k]? with
  | none | some => rfl

lemma movedInto_eq (hk : k < (lists s).length) :
    movedInto (r.band s .unit) k = .ok (lastMoved (lists s) k) := by
  unfold movedInto lastMoved
  rw [band, h.length_slots, h.lifecycle_at]
  split
  · rfl
  · have hlast : (lists s).length - 1 < (lists s).length := by omega
    simp [getElem?_eq_getElem hlast]

lemma closeUp_slots (hk : k < (lists s).length) :
    ((closeUp (r.band s .unit) k (lastMoved (lists s) k)).slots).map lifecycle
      = (swapRemove (lists s) k).map .live := by
  rw [map_swapRemove, ← h.slots s]
  unfold lastMoved
  split
  · rename_i hlast
    have hlen : (lists s).length = ((r.owners s .unit).slots.map lifecycle).length := by
      rw [length_map, h.length_slots]
    rw [closeUp, map_dropLast, hlast, hlen, swapRemove_last]
    rfl
  · have hl : (lists s).length - 1 < (lists s).length := by omega
    have hlast : ((r.owners s .unit).slots.map lifecycle)[((r.owners s .unit).slots.map
        lifecycle).length - 1]? = some (.live (lists s)[(lists s).length - 1]) := by
      rw [h.slots, length_map, getElem?_map, getElem?_eq_getElem hl, map_some]
    rw [swapRemove_of_last k hlast, getElem?_eq_getElem hl, closeUp,
      map_dropLast]
    -- the new lifecycle of slot `k`
    refine congrArg dropLast (ext_getElem? fun j => ?_)
    rw [getElem?_map, getElem?_modify, getElem?_set, getElem?_map, length_map]
    have hks : k < (r.owners s .unit).slots.length := h.length_slots s ▸ hk
    by_cases hkj : k = j
    · subst hkj
      simp [band, hks]
    · simp [band, hkj]

lemma closed (hk : k < (lists s).length) {reverse : Identity → Option Address}
    (hreverse : ∃ place, Listed place (update lists s (swapRemove (lists s) k)) ∧
      ∀ x, reverse x = (place x).map unitAddress) :
    Mirror (update lists s (swapRemove (lists s) k))
      { r.setBand s .unit (closeUp (r.band s .unit) k (lastMoved (lists s) k)) with
        reverse } where
  slots t := by
    by_cases ht : t = s
    · subst ht
      simp only [setBand, update_self]
      exact h.closeUp_slots hk
    · simp only [setBand, update_of_ne ht]
      exact h.slots t
  mark t := by
    by_cases ht : t = s
    · subst ht
      have hmark : ∀ m, (closeUp (r.band t .unit) k m).mark = (r.band t .unit).mark - 1 := by
        intro m
        cases m with
        | none | some => rfl
      simp only [setBand, update_self, hmark, length_swapRemove]
      rw [band, h.mark]
      omega
    · simp only [setBand, update_of_ne ht]
      exact h.mark t
  bare t b hb := by
    by_cases ht : t = s
    · subst ht
      simp only [setBand, update_self, update_of_ne hb]
      exact h.bare t b hb
    · simp only [setBand, update_of_ne ht]
      exact h.bare t b hb
  reverse := hreverse

lemma remove (hs : s < ownerSlots) (hk : k < unit.limit) (hx : (lists s)[k]? = some x) :
    ∃ r', r.mirrorDenseSwapRemove (unitAddress (s, k)) x
        = .ok ((lastMoved (lists s) k).map (·, unitAddress (s, k)), r') ∧
      Mirror (update lists s (swapRemove (lists s) k)) r' ∧ r'.active = r.active := by
  have hklt := (List.getElem?_eq_some_iff.1 hx).1
  have hlive : ¬ ((r.band s .unit).mark ≠ unit.base + ((r.band s .unit).slots.length : Int) ∨
      ((r.band s .unit).slots[k]?).map lifecycle ≠ some (.live x)) := by
    rw [band, h.mark, h.length_slots, h.lifecycle_at, hx]
    simp [base]
  obtain ⟨place, hlisted, hreverse⟩ := h.reverse
  have hplace := (hlisted x s k).2 hx
  have hleft := hlisted.remove hplace
  -- the checks pass, and the reverse map forgets `x` and learns where the moved identity is
  have hrun : r.mirrorDenseSwapRemove (unitAddress (s, k)) x
      = .ok ((lastMoved (lists s) k).map (·, unitAddress (s, k)),
          { r.setBand s .unit (closeUp (r.band s .unit) k (lastMoved (lists s) k)) with
            reverse := (lastMoved (lists s) k).elim (update r.reverse x none) fun m =>
              update (update r.reverse x none) m (some (unitAddress (s, k))) }) := by
    unfold mirrorDenseSwapRemove
    rw [slotIndex_unit hs hk, h.reverse_eq_some hx]
    have hband : (unitAddress (s, k)).band = .unit := rfl
    have howner : (unitAddress (s, k)).owner = s := rfl
    simp only [ne_eq, not_true, if_false, bind, Except.bind, hband, howner]
    simp only [ne_eq] at hlive
    rw [if_neg hlive, h.movedInto_eq hklt]
    cases lastMoved (lists s) k with
    | none | some => rfl
  refine ⟨_, hrun, h.closed hklt ⟨_, hleft, fun y => ?_⟩, rfl⟩
  unfold lastMoved Listed.leave
  split
  · -- nothing moves: the last identity is `x`
    rename_i hlast
    simp only [elim_none]
    by_cases hy : y = x
    · subst hy
      simp
    · rw [update_of_ne hy, if_neg hy, if_neg, hreverse]
      rw [← hlast, hx]
      exact fun heq => hy (some.inj heq).symm
  · rename_i hlast
    have hl : (lists s).length - 1 < (lists s).length := by omega
    have hmx : (lists s)[(lists s).length - 1] ≠ x := by
      intro heq
      have hplace' := (hlisted x s _).2 (List.getElem?_eq_some_iff.2 ⟨hl, heq⟩)
      exact hlast (congrArg Prod.snd (some.inj (hplace.symm.trans hplace')))
    rw [getElem?_eq_getElem hl, elim_some]
    by_cases hym : y = (lists s)[(lists s).length - 1]
    · rw [hym, update_self, if_neg hmx, if_pos rfl, map_some]
    · rw [update_of_ne hym]
      by_cases hy : y = x
      · subst hy
        simp
      · rw [update_of_ne hy, if_neg hy, if_neg fun heq => hym (some.inj heq).symm, hreverse]

/-! ## The saved form -/

end

lemma snapshotBand_congr {x y : SparseBand} (hmark : x.mark = y.mark)
    (hslots : x.slots.map lifecycle = y.slots.map lifecycle) :
    snapshotBand x = snapshotBand y := by
  obtain ⟨mark, slots⟩ := x
  obtain ⟨mark', slots'⟩ := y
  obtain rfl : mark = mark' := hmark
  unfold snapshotBand
  dsimp only at hslots ⊢
  -- a slot is saved by its lifecycle alone
  have hmapM : ∀ l : List SparseSlot, (l.mapM fun slot => saveLifecycle slot.lifecycle)
      = (l.map lifecycle).mapM saveLifecycle := fun l =>
    (mapM_map (g := saveLifecycle) (l := l)).symm
  rw [hmapM, hmapM, hslots]

lemma snapshot_eq (h : Mirror lists r) (h' : Mirror lists r')
    (hactive : ∀ s < ownerSlots, r'.active s = r.active s) : r'.snapshot = r.snapshot := by
  have hband : ∀ s b, snapshotBand (r'.band s b)
      = snapshotBand (r.band s b) := by
    intro s b
    by_cases hb : b = .unit
    · subst hb
      exact snapshotBand_congr ((h'.mark s).trans (h.mark s).symm) ((h'.slots s).trans (h.slots s).symm)
    · rw [band, band, h'.bare s b hb, h.bare s b hb]
  have hmap : (range ownerSlots).map r'.active = (range ownerSlots).map r.active :=
    map_congr_left fun s hs => hactive s (mem_range.1 hs)
  unfold snapshot
  simp only [hband, hmap]

end Mirror

/-! ## Conversion from the dense registry -/

/-- The entries of one owner, whose first index is `k`. -/
def unitEntries (s : Nat) (l : List Identity) (k : Nat) : List DenseRegistryEntry :=
  (l.zipIdx k).map fun p => ⟨unitAddress (s, p.2), p.1⟩

/-- The entry before those of `s` from index `k` on is of an earlier address. -/
def Earlier (previous : Option Address) (s k : Nat) : Prop :=
  ∀ t j, previous = some (unitAddress (t, j)) → t < s ∨ t = s ∧ j < k

lemma contains_unit {k : Nat} : unit.contains (k : Int) = true ↔ k < unit.limit := by
  simp [Band.contains, Band.base]

lemma convert_unitEntries {s : Nat} (hs : s < ownerSlots) (rest : List DenseRegistryEntry) :
    ∀ (l : List Identity) {lists : Nat → List Identity} {r : SparseObjectBands} {previous : Option Address},
      Mirror lists r → l.Nodup → (∀ x ∈ l, ∀ t, x ∉ lists t) →
      (lists s).length + l.length ≤ unit.limit → Earlier previous s (lists s).length →
      ∃ r' previous', r.convert previous (unitEntries s l (lists s).length ++ rest)
          = r'.convert previous' rest ∧
        Mirror (update lists s (lists s ++ l)) r' ∧ r'.active = r.active ∧
        Earlier previous' s ((lists s).length + l.length) := by
  intro l
  induction l with
  | nil =>
    intro lists r previous hm _ _ _ hprev
    refine ⟨r, previous, rfl, ?_, rfl, hprev⟩
    rw [append_nil, update_eq_self]
    exact hm
  | cons x l ih =>
    intro lists r previous hm hnodup hfresh hroom hprev
    obtain ⟨hxl, hnodup'⟩ := nodup_cons.1 hnodup
    have hxfresh := hfresh x mem_cons_self
    simp only [length_cons] at hroom
    -- the entry passes the four checks
    have hentry : r.convertEntry previous ⟨unitAddress (s, (lists s).length), x⟩
        = .ok (r.pushLive (unitAddress (s, (lists s).length)) x) := by
      have hwell : (unitAddress (s, (lists s).length)).isWellFormed = true := by
        simp only [Address.isWellFormed, unitAddress, Bool.and_eq_true]
        exact ⟨decide_eq_true hs, contains_unit.2 (by omega)⟩
      have hprev' : previous ≠ some (unitAddress (s, (lists s).length)) := by
        intro heq
        have := hprev s _ heq
        omega
      have hmark : ¬ (unitAddress (s, (lists s).length)).o ≠ (r.band s .unit).mark := by
        rw [band, hm.mark]
        simp [unitAddress]
      unfold convertEntry
      rw [if_neg (by simp [hwell]), if_neg hprev', hm.reverse_eq_none hxfresh, if_neg (by simp)]
      exact if_neg hmark
    have hpush := hm.pushLive hxfresh s
    have hlen : (update lists s (lists s ++ [x]) s).length = (lists s).length + 1 := by simp
    have hfresh' : ∀ y ∈ l, ∀ t, y ∉ update lists s (lists s ++ [x]) t := by
      intro y hy t hmem
      by_cases ht : t = s
      · subst ht
        rw [update_self, mem_append, mem_singleton] at hmem
        rcases hmem with hold | rfl
        · exact hfresh y (mem_cons_of_mem _ hy) t hold
        · exact hxl hy
      · rw [update_of_ne ht] at hmem
        exact hfresh y (mem_cons_of_mem _ hy) t hmem
    have hearlier : Earlier (some (unitAddress (s, (lists s).length))) s ((lists s).length + 1) := by
      intro t j heq
      obtain ⟨rfl, rfl⟩ := Prod.mk.inj (unitAddress_injective (some.inj heq))
      exact .inr ⟨rfl, Nat.lt_succ_self _⟩
    obtain ⟨r', previous', hrun, hm', hactive, hlast⟩ := ih hpush hnodup' hfresh' (by rw [hlen]; omega)
      (by rw [hlen]; exact hearlier)
    rw [hlen] at hrun hlast
    refine ⟨r', previous', ?_, ?_, hactive, ?_⟩
    · have hcons : unitEntries s (x :: l) (lists s).length
          = ⟨unitAddress (s, (lists s).length), x⟩ :: unitEntries s l ((lists s).length + 1) := by
        simp [unitEntries]
      rw [hcons, cons_append, convert, hentry]
      exact hrun
    · simpa using hm'
    · simpa [Nat.add_assoc, Nat.add_comm 1] using hlast

/-- The lists of the owners before `s`. -/
def listsBefore (lists : Nat → List Identity) (s t : Nat) : List Identity :=
  if t < s then lists t else []

lemma listsBefore_succ (lists : Nat → List Identity) (s : Nat) :
    update (listsBefore lists s) s (listsBefore lists s s ++ lists s) = listsBefore lists (s + 1) := by
  funext t
  by_cases ht : t = s
  · subst ht
    simp [listsBefore]
  · rw [update_of_ne ht]
    unfold listsBefore
    by_cases hlt : t < s
    · rw [if_pos hlt, if_pos (by omega)]
    · rw [if_neg hlt, if_neg (by omega)]

/-- Converting the entries of the owners from `s` on. -/
lemma convert_owners {lists : Nat → List Identity} {place : Identity → Option (Nat × Nat)}
    (hlisted : Listed place lists) (hroom : ∀ s, (lists s).length ≤ unit.limit) :
    ∀ (n s : Nat) {r : SparseObjectBands} {previous : Option Address}, s + n ≤ ownerSlots →
      Mirror (listsBefore lists s) r → Earlier previous s 0 →
      ∃ r', r.convert previous ((range' s n).flatMap fun t => unitEntries t (lists t) 0) = .ok r' ∧
        Mirror (listsBefore lists (s + n)) r' ∧ r'.active = r.active := by
  intro n
  induction n with
  | zero =>
    intro s r previous _ hm _
    exact ⟨r, rfl, hm, rfl⟩
  | succ n ih =>
    intro s r previous hn hm hprev
    have hnil : listsBefore lists s s = [] := by simp [listsBefore]
    have hfresh : ∀ x ∈ lists s, ∀ t, x ∉ listsBefore lists s t := by
      intro x hx t hmem
      unfold listsBefore at hmem
      split at hmem
      · rename_i hlt
        exact Nat.ne_of_lt hlt (hlisted.eq_of_mem hmem hx)
      · cases hmem
    obtain ⟨r₁, previous₁, hrun, hm₁, hactive, hlast⟩ := convert_unitEntries (s := s) (by omega)
      ((range' (s + 1) n).flatMap fun t => unitEntries t (lists t) 0) (lists s) hm
      (hlisted.nodup s) hfresh (by rw [hnil]; simpa using hroom s) (by rw [hnil]; exact hprev)
    rw [listsBefore_succ] at hm₁
    rw [hnil] at hrun hlast
    obtain ⟨r', hrest, hm', hactive'⟩ := ih (s + 1) (by omega) hm₁ fun t j heq => by
      have := hlast t j heq
      omega
    refine ⟨r', ?_, ?_, hactive'.trans hactive⟩
    · rw [range'_succ, flatMap_cons]
      exact hrun.trans hrest
    · have hsum : s + 1 + n = s + (n + 1) := by omega
      rw [← hsum]
      exact hm'

lemma unitEntries_sorted (lists : Nat → List Identity) (n : Nat) :
    ((range n).flatMap fun t => unitEntries t (lists t) 0).Pairwise
      fun x y => before x y = true := by
  refine pairwise_flatMap.2 ⟨fun s _ => ?_, ?_⟩
  · refine pairwise_map.2 (pairwise_iff_getElem.2 fun i j hi hj hij => ?_)
    simp [before, unitAddress]
    omega
  · refine pairwise_iff_getElem.2 fun i j hi hj hij x hx y hy => ?_
    obtain ⟨p, _, rfl⟩ := mem_map.1 hx
    obtain ⟨q, _, rfl⟩ := mem_map.1 hy
    have hlt : (range n)[i] < (range n)[j] := by simpa using hij
    simp [before, unitAddress, bands] at hlt ⊢
    omega

lemma fromDenseEntries_mirror {lists : Nat → List Identity} {place : Identity → Option (Nat × Nat)}
    (hlisted : Listed place lists) (hroom : ∀ s, (lists s).length ≤ unit.limit)
    (hnone : ∀ s, ownerSlots ≤ s → lists s = []) (active : Nat → Bool) :
    ∃ r, fromDenseEntries active
        ((range ownerSlots).flatMap fun t => unitEntries t (lists t) 0) = .ok r ∧
      Mirror lists r ∧ r.active = active := by
  have hsorted := mergeSort_of_pairwise (unitEntries_sorted lists ownerSlots)
  have hstart : Mirror (listsBefore lists 0) { new with active } :=
    Mirror.new active
  obtain ⟨r, hrun, hm, hactive⟩ := convert_owners hlisted hroom ownerSlots 0 (by omega) hstart
    fun t j (heq : none = _) => nomatch heq
  refine ⟨r, ?_, ?_, hactive⟩
  · rw [fromDenseEntries, hsorted, range_eq_range']
    exact hrun
  · have hall : listsBefore lists (0 + ownerSlots) = lists := by
      funext t
      unfold listsBefore
      split
      · rfl
      · exact (hnone t (by omega)).symm
    rw [hall] at hm
    exact hm

end Don.Sim.Population
