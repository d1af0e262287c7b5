import Don.Foundation.Layout

/-!
# Stream — the command stream at the end of a replay

`crates/don-net/src/stream.rs`.  Nothing points at the stream, so it is looked for from the end of
the buffer backwards: a record is good if the record behind it is, and the longest chain is taken.
-/

namespace Don.Net.Stream

open Foundation

structure PackageHeader where
  stamp : UInt32
  play : Int32
  valid : Int32
  group : Int32
  size : UInt16
  deriving DecidableEq

structure PackageRecord where
  header : PackageHeader
  payload : Bytes
  deriving DecidableEq

def PackageHeader.decode (buf : Bytes) : Option PackageHeader :=
  if buf.length < 18 then none
  else some ⟨u32le buf 0, i32le buf 4, i32le buf 8, i32le buf 12, u16le buf 16⟩

def PackageRecord.decode (buf : Bytes) : Option (PackageRecord × Nat) :=
  match PackageHeader.decode buf with
  | none => none
  | some header =>
    let n := 18 + header.size.toNat
    if buf.length < n then none else some (⟨header, (buf.take n).drop 18⟩, n)

namespace PackageStream

/-- `next`: the record at `pos` and the position behind it. -/
def next (buf : Bytes) (pos : Nat) : Option (PackageRecord × Nat) :=
  if buf.length ≤ pos then none
  else (PackageRecord.decode (buf.drop pos)).map fun (record, n) => (record, pos + n)

lemma next_advances {buf : Bytes} {pos : Nat} {found : PackageRecord × Nat}
    (h : next buf pos = some found) : pos < buf.length ∧ pos < found.2 := by
  unfold next at h
  split at h
  · cases h
  · obtain ⟨⟨record, n⟩, hdecode, rfl⟩ := Option.map_eq_some_iff.1 h
    have hpos : 0 < n := by
      unfold PackageRecord.decode at hdecode
      split at hdecode
      · cases hdecode
      · dsimp only at hdecode
        split at hdecode
        · cases hdecode
        · cases hdecode
          omega
    exact ⟨by omega, Nat.lt_add_of_pos_right hpos⟩

/-- The records from `pos` on, and where the iterator stops. -/
def collect (buf : Bytes) (pos : Nat) : List PackageRecord × Nat :=
  match hnext : next buf pos with
  | none => ([], pos)
  | some found =>
    have _ := next_advances hnext
    let (records, stop) := collect buf found.2
    (found.1 :: records, stop)
termination_by buf.length - pos

lemma collect_of_none {buf : Bytes} {pos : Nat} (h : next buf pos = none) : collect buf pos = ([], pos) := by
  rw [collect]
  split
  · rfl
  · simp_all

lemma collect_of_some {buf : Bytes} {pos : Nat} {found : PackageRecord × Nat}
    (h : next buf pos = some found) :
    collect buf pos = (found.1 :: (collect buf found.2).1, (collect buf found.2).2) := by
  rw [collect]
  split
  · simp_all
  · rename_i found' h'
    rw [h] at h'
    cases h'
    rfl

end PackageStream

structure StreamLocation where
  start : Nat
  records : Nat
  deriving DecidableEq

/-- A read that panics outside of the buffer. -/
def u32At (buf : Bytes) (o : Nat) : Option UInt32 :=
  if o + 4 ≤ buf.length then some (u32le buf o) else none

def u16At (buf : Bytes) (o : Nat) : Option UInt16 :=
  if o + 2 ≤ buf.length then some (u16le buf o) else none

/-- The labelled block: the length of the chain from `o`, if there is one. -/
def body (buf : Bytes) (count : Nat → Nat) (o : Nat) : Option (Option Nat) := do
  if 8 ≤ (← u32At buf (o + 4)) then
    return none
  let ln := (← u16At buf (o + 16)).toNat
  if 4000 < ln then
    return none
  let next := o + 18 + ln
  if buf.length < next then
    return none
  if next = buf.length then
    return some 1
  if count next = 0 then
    return none
  let a ← u32At buf o
  let b ← u32At buf next
  if b < a || 200 < b - a then
    return none
  return some (count next + 1)

/-- The loop over the offsets below `o`, downwards. -/
def loop (buf : Bytes) : Nat → (Nat → Nat) → Nat × Option Nat → Option (Nat × Option Nat)
  | 0, _, best => some best
  | o + 1, count, best =>
    match body buf count o with
    | none => none
    | some none => loop buf o count best
    | some (some c) =>
      loop buf o (Function.update count o c) (if best.1 < c then (c, some o) else best)

/-- `find_stream`; the outer `none` is a panic. -/
def findStream (buf : Bytes) : Option (Option StreamLocation) :=
  if buf.length < 18 then
    some none
  else
    (loop buf (buf.length - 18 + 1) (fun _ => 0) (0, none)).map fun best =>
      best.2.map fun start => ⟨start, best.1⟩

/-! ## Chains -/

def Steps (a b : UInt32) : Prop :=
  a ≤ b ∧ b - a ≤ 200

/-- Records of players, of a sane size, whose stamps go up by little. -/
def Plausible (records : List PackageRecord) : Prop :=
  (∀ r ∈ records, r.header.play.toUInt32 < 8 ∧ r.header.size ≤ 4000) ∧
    records.IsChain fun r r' => Steps r.header.stamp r'.header.stamp

/-- The iterator gives `k` plausible records from `o` on and ends with the buffer. -/
def Chain (buf : Bytes) (o k : Nat) : Prop :=
  let stream := PackageStream.collect buf o
  stream.1.length = k ∧ stream.2 = buf.length ∧ Plausible stream.1

section

variable {buf : Bytes}

def nextAt (buf : Bytes) (o : Nat) : Nat :=
  o + 18 + (u16le buf (o + 16)).toNat

def recordAt (buf : Bytes) (o : Nat) : PackageRecord :=
  ⟨⟨u32le buf o, i32le buf (o + 4), i32le buf (o + 8), i32le buf (o + 12), u16le buf (o + 16)⟩,
    ((buf.drop o).take (18 + (u16le buf (o + 16)).toNat)).drop 18⟩

def Sane (buf : Bytes) (o : Nat) : Prop :=
  u32le buf (o + 4) < 8 ∧ u16le buf (o + 16) ≤ 4000

/-- A chain from an offset to the end, record by record. -/
inductive Run (buf : Bytes) : Nat → Nat → Prop
  | last {o : Nat} : Sane buf o → nextAt buf o = buf.length → Run buf o 1
  | link {o k : Nat} : Sane buf o → nextAt buf o < buf.length → Run buf (nextAt buf o) k →
      Steps (u32le buf o) (u32le buf (nextAt buf o)) → Run buf o (k + 1)

lemma next_eq_some_iff {o : Nat} {found : PackageRecord × Nat} :
    PackageStream.next buf o = some found ↔
      nextAt buf o ≤ buf.length ∧ found = (recordAt buf o, nextAt buf o) := by
  have hword : ∀ k, u32le (buf.drop o) k = u32le buf (o + k) := fun k => by
    simp [u32le, byteAt_drop, Nat.add_assoc]
  have hsize : u16le (buf.drop o) 16 = u16le buf (o + 16) := by
    simp [u16le, byteAt_drop, Nat.add_assoc]
  simp only [PackageStream.next, PackageRecord.decode, PackageHeader.decode, List.length_drop]
  by_cases hroom : o + 18 ≤ buf.length
  · rw [if_neg (by omega), if_neg (by omega)]
    simp only [i32le, hword, hsize, Nat.add_zero]
    by_cases hlen : nextAt buf o ≤ buf.length
    · unfold nextAt at hlen
      have hfits : ¬ buf.length - o < 18 + (u16le buf (o + 16)).toNat := by omega
      simp [hfits, recordAt, nextAt, i32le, Nat.add_assoc, eq_comm]
      intro _
      omega
    · have hshort : buf.length - o < 18 + (u16le buf (o + 16)).toNat := by
        unfold nextAt at hlen
        omega
      simp [hshort, hlen]
  · have hlen : ¬ nextAt buf o ≤ buf.length := by
      unfold nextAt
      omega
    by_cases hpos : buf.length ≤ o
    · simp [hpos, hlen]
    · simp [hpos, hlen, show buf.length - o < 18 by omega]

lemma Run.bounds {o k : Nat} (h : Run buf o k) : o + 18 * k ≤ buf.length ∧ 0 < k := by
  induction h with
  | last _ hend =>
    unfold nextAt at hend
    omega
  | link _ _ _ _ ih =>
    unfold nextAt at ih
    omega

lemma collect_of_run {o k : Nat} (h : Run buf o k) :
    ∃ records, PackageStream.collect buf o = (recordAt buf o :: records, buf.length) ∧
      records.length + 1 = k ∧ Plausible (recordAt buf o :: records) := by
  induction h with
  | @last o hsane hend =>
    have hnext := PackageStream.collect_of_some (next_eq_some_iff.mpr ⟨hend.le, rfl⟩)
    have hstop : PackageStream.next buf buf.length = none := by simp [PackageStream.next]
    refine ⟨[], ?_, rfl, ?_, ?_⟩
    · rw [hnext, hend, PackageStream.collect_of_none hstop]
    · simpa [recordAt, i32le, Sane] using hsane
    · simp
  | @link o k hsane hlt _ hstep ih =>
    obtain ⟨records, hcollect, hlen, hall, hchain⟩ := ih
    have hnext := PackageStream.collect_of_some (next_eq_some_iff.mpr ⟨hlt.le, rfl⟩)
    refine ⟨recordAt buf (nextAt buf o) :: records, ?_, by simp [hlen], ?_, hchain.cons_cons hstep⟩
    · rw [hnext, hcollect]
    · rw [List.forall_mem_cons]
      exact ⟨by simpa [recordAt, i32le, Sane] using hsane, hall⟩

lemma collect_eq_cons {o stop : Nat} {r : PackageRecord} {records : List PackageRecord}
    (h : PackageStream.collect buf o = (r :: records, stop)) :
    r = recordAt buf o ∧ PackageStream.collect buf (nextAt buf o) = (records, stop) := by
  cases hnext : PackageStream.next buf o with
  | none => simp [PackageStream.collect_of_none hnext] at h
  | some found =>
    rw [PackageStream.collect_of_some hnext] at h
    obtain ⟨-, rfl⟩ := next_eq_some_iff.mp hnext
    simp only [Prod.mk.injEq, List.cons.injEq] at h
    exact ⟨h.1.1.symm, Prod.ext h.1.2 h.2⟩

lemma collect_eq_nil {o stop : Nat} (h : PackageStream.collect buf o = ([], stop)) : o = stop := by
  cases hnext : PackageStream.next buf o with
  | none => simpa [PackageStream.collect_of_none hnext] using h
  | some found => simp [PackageStream.collect_of_some hnext] at h

lemma run_of_collect {o : Nat} {r : PackageRecord} {records : List PackageRecord}
    (h : PackageStream.collect buf o = (r :: records, buf.length))
    (hlikely : Plausible (r :: records)) : Run buf o (records.length + 1) := by
  induction records generalizing o r with
  | nil =>
    obtain ⟨rfl, hrest⟩ := collect_eq_cons h
    exact .last (by simpa [recordAt, i32le, Sane] using hlikely.1 _ List.mem_cons_self)
      (collect_eq_nil hrest)
  | cons r' records ih =>
    obtain ⟨rfl, hrest⟩ := collect_eq_cons h
    obtain ⟨hall, hchain⟩ := hlikely
    obtain ⟨hstep, htail⟩ := List.isChain_cons_cons.mp hchain
    have hrun := ih hrest ⟨fun x hx => hall x (List.mem_cons_of_mem _ hx), htail⟩
    obtain ⟨rfl, -⟩ := collect_eq_cons hrest
    have hlt := hrun.bounds.1
    exact .link (by simpa [recordAt, i32le, Sane] using hall _ List.mem_cons_self) (by omega) hrun hstep

lemma chain_iff_run {o k : Nat} (hk : 0 < k) : Chain buf o k ↔ Run buf o k := by
  unfold Chain
  constructor
  · rintro ⟨hlen, hstop, hlikely⟩
    rcases hcollect : PackageStream.collect buf o with ⟨records, stop⟩
    rw [hcollect] at hlen hstop hlikely
    cases records with
    | nil => exact absurd hlen hk.ne
    | cons r records =>
      cases hlen
      cases hstop
      exact run_of_collect hcollect hlikely
  · intro h
    obtain ⟨records, hcollect, rfl, hlikely⟩ := collect_of_run h
    rw [hcollect]
    exact ⟨rfl, rfl, hlikely⟩

/-! ## The search -/

lemma run_iff {o k : Nat} :
    Run buf o k ↔ Sane buf o ∧ (nextAt buf o = buf.length ∧ k = 1 ∨
      nextAt buf o < buf.length ∧ ∃ j, Run buf (nextAt buf o) j ∧ k = j + 1 ∧
        Steps (u32le buf o) (u32le buf (nextAt buf o))) := by
  constructor
  · intro h
    cases h with
    | last hsane hend => exact ⟨hsane, .inl ⟨hend, rfl⟩⟩
    | link hsane hlt hrun hstep => exact ⟨hsane, .inr ⟨hlt, _, hrun, rfl, hstep⟩⟩
  · rintro ⟨hsane, ⟨hend, rfl⟩ | ⟨hlt, j, hrun, rfl, hstep⟩⟩
    · exact .last hsane hend
    · exact .link hsane hlt hrun hstep

section Counts

variable {count : Nat → Nat} {o : Nat} (hcount : ∀ o', o < o' → ∀ k, 0 < k → (count o' = k ↔ Run buf o' k))

include hcount

lemma run_nextAt_iff (k : Nat) : Run buf (nextAt buf o) k ↔ 0 < k ∧ count (nextAt buf o) = k := by
  have hlt : o < nextAt buf o := by
    unfold nextAt
    omega
  exact ⟨fun h => ⟨h.bounds.2, (hcount _ hlt k h.bounds.2).mpr h⟩, fun h => (hcount _ hlt k h.1).mp h.2⟩

/-- A chain, with the count of the next record for the chain behind. -/
lemma run_iff_count (k : Nat) : Run buf o k ↔ Sane buf o ∧ (nextAt buf o = buf.length ∧ k = 1 ∨
    nextAt buf o < buf.length ∧ count (nextAt buf o) ≠ 0 ∧ k = count (nextAt buf o) + 1 ∧
      Steps (u32le buf o) (u32le buf (nextAt buf o))) := by
  rw [run_iff]
  simp only [run_nextAt_iff hcount]
  constructor
  · rintro ⟨hsane, hend | ⟨hlt, j, ⟨hpos, rfl⟩, hk, hstep⟩⟩
    · exact ⟨hsane, .inl hend⟩
    · exact ⟨hsane, .inr ⟨hlt, hpos.ne', hk, hstep⟩⟩
  · rintro ⟨hsane, hend | ⟨hlt, hpos, hk, hstep⟩⟩
    · exact ⟨hsane, .inl hend⟩
    · exact ⟨hsane, .inr ⟨hlt, _, ⟨Nat.pos_of_ne_zero hpos, rfl⟩, hk, hstep⟩⟩

/-- With the counts behind `o` right, the block finds the chain from `o` and never leaves the buffer:
the header of the record behind is read where a chain starts, so it is there. -/
lemma body_spec (hroom : o + 18 ≤ buf.length) :
    ∃ found, body buf count o = some found ∧ ∀ k, found = some k ↔ Run buf o k := by
  have hplay : u32At buf (o + 4) = some (u32le buf (o + 4)) := if_pos (by omega)
  have hsize : u16At buf (o + 16) = some (u16le buf (o + 16)) := if_pos (by omega)
  have hstamp : u32At buf o = some (u32le buf o) := if_pos (by omega)
  simp only [body, hplay, hsize, hstamp, Option.bind_eq_bind, Option.bind_some, Option.pure_def,
    run_iff_count hcount]
  by_cases hsane : Sane buf o
  · have hfew : ¬ 8 ≤ u32le buf (o + 4) := UInt32.not_le.mpr hsane.1
    have hsmall : ¬ 4000 < (u16le buf (o + 16)).toNat := Nat.not_lt.mpr hsane.2
    simp only [hfew, hsmall, if_false, hsane, true_and]
    change ∃ found, (if buf.length < nextAt buf o then _ else if nextAt buf o = buf.length then _ else
      if count (nextAt buf o) = 0 then _ else (u32At buf (nextAt buf o)).bind _) = _ ∧ _
    rcases lt_trichotomy (nextAt buf o) buf.length with hlt | hend | hgt
    · rw [if_neg (by omega), if_neg hlt.ne]
      by_cases hzero : count (nextAt buf o) = 0
      · exact ⟨none, if_pos hzero, by simp [hlt.ne, hzero]⟩
      · -- there is a chain behind, so its first header is in the buffer
        have hroom' := ((run_nextAt_iff hcount _).mpr ⟨Nat.pos_of_ne_zero hzero, rfl⟩).bounds
        have hread : u32At buf (nextAt buf o) = some (u32le buf (nextAt buf o)) := if_pos (by omega)
        rw [if_neg hzero, hread, Option.bind_some]
        by_cases hstep : Steps (u32le buf o) (u32le buf (nextAt buf o))
        · refine ⟨some (count (nextAt buf o) + 1), if_neg ?_,
            by simp [hlt, hlt.ne, hzero, hstep, eq_comm]⟩
          simpa [Steps, UInt32.not_lt] using hstep
        · refine ⟨none, if_pos ?_, by simp [hlt.ne, hstep]⟩
          simpa [Steps, ← UInt32.not_le, ← not_and_or, Decidable.or_iff_not_not_and_not] using hstep
    · exact ⟨some 1, by simp [hend], by simp [hend, eq_comm]⟩
    · exact ⟨none, if_pos hgt, by simp; omega⟩
  · refine ⟨none, ?_, by simp [hsane]⟩
    by_cases hfew : 8 ≤ u32le buf (o + 4)
    · exact if_pos hfew
    · have hlarge : 4000 < (u16le buf (o + 16)).toNat :=
        Nat.lt_of_not_le fun h => hsane ⟨UInt32.not_le.mp hfew, h⟩
      rw [if_neg hfew, if_pos hlarge]

end Counts

/-- The best chain among those from `o` on: the longest, and of the longest the last. -/
structure Best (buf : Bytes) (o : Nat) (best : Nat × Option Nat) : Prop where
  found : ∀ s, best.2 = some s → o ≤ s ∧ Run buf s best.1
  empty : best.2 = none → best.1 = 0
  most : ∀ o' k, o ≤ o' → Run buf o' k → k < best.1 ∨ k = best.1 ∧ ∃ s, best.2 = some s ∧ o' ≤ s

lemma Best.skip {o : Nat} {best : Nat × Option Nat} (h : Best buf (o + 1) best)
    (hnone : ∀ k, ¬ Run buf o k) : Best buf o best where
  found s hs := ⟨Nat.le_of_succ_le (h.found s hs).1, (h.found s hs).2⟩
  empty := h.empty
  most o' k ho hrun := by
    rcases ho.eq_or_lt with rfl | hlt
    · exact absurd hrun (hnone k)
    · exact h.most o' k hlt hrun

lemma Best.take {o c : Nat} {best : Nat × Option Nat} (h : Best buf (o + 1) best)
    (hrun : Run buf o c) (hunique : ∀ k, Run buf o k → k = c) :
    Best buf o (if best.1 < c then (c, some o) else best) := by
  split
  · rename_i hmore
    refine ⟨by rintro s ⟨⟩; exact ⟨le_rfl, hrun⟩, by rintro ⟨⟩, fun o' k ho hk => ?_⟩
    rcases ho.eq_or_lt with rfl | hlt
    · exact .inr ⟨hunique k hk, o, rfl, le_rfl⟩
    · have hle := h.most o' k hlt hk
      exact .inl (by simp only; omega)
  · rename_i hless
    refine ⟨fun s hs => ⟨Nat.le_of_succ_le (h.found s hs).1, (h.found s hs).2⟩, h.empty, ?_⟩
    intro o' k ho hk
    rcases ho.eq_or_lt with rfl | hlt
    · -- a chain of the same length further on is preferred
      cases hbest : best.2 with
      | none =>
        have hpos := hrun.bounds.2
        have hzero := h.empty hbest
        omega
      | some s =>
        have hs := (h.found s hbest).1
        rw [hunique k hk]
        rcases (Nat.not_lt.mp hless).eq_or_lt with heq | hlt
        · exact .inr ⟨heq, s, rfl, by omega⟩
        · exact .inl hlt
    · exact h.most o' k hlt hk

lemma loop_spec {o : Nat} {count : Nat → Nat} {best : Nat × Option Nat} (hroom : o + 17 ≤ buf.length)
    (hcount : ∀ o', o ≤ o' → ∀ k, 0 < k → (count o' = k ↔ Run buf o' k))
    (hblank : ∀ o', o' < o → count o' = 0) (hbest : Best buf o best) :
    ∃ best', loop buf o count best = some best' ∧ Best buf 0 best' := by
  induction o generalizing count best with
  | zero => exact ⟨best, rfl, hbest⟩
  | succ o ih =>
    obtain ⟨found, hbody, hfound⟩ := body_spec hcount (by omega)
    rw [loop, hbody]
    cases found with
    | none =>
      have hnone : ∀ k, ¬ Run buf o k := by
        intro k hrun
        cases (hfound k).mpr hrun
      refine ih (by omega) (fun o' ho k hk => ?_) (fun o' ho => hblank o' (by omega)) (hbest.skip hnone)
      rcases ho.eq_or_lt with rfl | hlt
      · simp only [hblank o (Nat.lt_succ_self o), hnone, iff_false]
        exact hk.ne
      · exact hcount o' hlt k hk
    | some c =>
      have hunique : ∀ k, Run buf o k → k = c := fun k hrun =>
        (Option.some.inj ((hfound k).mpr hrun)).symm
      refine ih (by omega) (fun o' ho k hk => ?_) (fun o' ho => ?_)
        (hbest.take ((hfound c).mp rfl) hunique)
      swap
      · rw [Function.update_of_ne ho.ne]
        exact hblank o' (by omega)
      rcases ho.eq_or_lt with rfl | hlt
      · rw [Function.update_self, ← hfound k, Option.some.injEq]
      · rw [Function.update_of_ne hlt.ne']
        exact hcount o' hlt k hk

lemma Best.longest {best : Nat × Option Nat} {s : Nat} (h : Best buf 0 best) (hs : best.2 = some s) :
    0 < best.1 ∧ Chain buf s best.1 ∧
      ∀ o k, 0 < k → Chain buf o k → k < best.1 ∨ k = best.1 ∧ o ≤ s := by
  have hrun := (h.found s hs).2
  refine ⟨hrun.bounds.2, (chain_iff_run hrun.bounds.2).mpr hrun, fun o k hk hchain => ?_⟩
  rcases h.most o k (Nat.zero_le o) ((chain_iff_run hk).mp hchain) with hlt | ⟨heq, s', hs', hle⟩
  · exact .inl hlt
  · rw [hs] at hs'
    cases hs'
    exact .inr ⟨heq, hle⟩

lemma Best.eq_none_iff {best : Nat × Option Nat} (h : Best buf 0 best) :
    best.2 = none ↔ ∀ o k, 0 < k → ¬ Chain buf o k := by
  constructor
  · intro hnone o k hk hchain
    rcases h.most o k (Nat.zero_le o) ((chain_iff_run hk).mp hchain) with hlt | ⟨-, s, hs, -⟩
    · rw [h.empty hnone] at hlt
      omega
    · rw [hnone] at hs
      cases hs
  · intro hnone
    cases hs : best.2 with
    | none => rfl
    | some s =>
      obtain ⟨hpos, hchain, -⟩ := h.longest hs
      exact absurd hchain (hnone s best.1 hpos)

end

end Don.Net.Stream
