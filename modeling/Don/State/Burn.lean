import Mathlib
import Don.State.SpanDiff

/-!
# Burn — how much of a retail change is explained

`diff_ranges` and `burn_span` of `crates/don-state/src/spandiff.rs`: the bytes of one aligned span that
retail changed from one frame to the next, and which of them our own frame gives as well.
-/

namespace Don.State

/-- The runs of `p` in the positions that are left; the inner loop of `diff_ranges` is the `takeWhile`. -/
def runs (p : Nat → Bool) : List Nat → List (Nat × Nat)
  | [] => []
  | i :: rest =>
    if p i then (i, i + 1 + (rest.takeWhile p).length) :: runs p (rest.dropWhile p) else runs p rest
termination_by is => is.length
decreasing_by
  · exact Nat.lt_succ_of_le (List.dropWhile_suffix p).length_le
  · exact Nat.lt_succ_self _

/-- A length difference extends the last range, or is one of its own. -/
def diffRanges (a b : List UInt8) : List (Nat × Nat) :=
  let n := min a.length b.length
  let e := max a.length b.length
  let out := runs (fun i => a[i]? != b[i]?) (List.range n)
  if a.length ≠ b.length then
    match out.getLast? with
    | some r => if r.2 = n then out.dropLast ++ [(r.1, e)] else out ++ [(n, e)]
    | none => out ++ [(n, e)]
  else out

structure PairBurn where
  path : String
  retailChanged : Nat
  explained : Nat
  unexplained : Nat
  introduced : Nat
  unexplainedRanges : List (Nat × Nat)
  introducedRanges : List (Nat × Nat)

/-- A counter of the loop, with its open run and the runs it has closed. -/
structure Tally where
  count : Nat
  run : Option (Nat × Nat)
  ranges : List (Nat × Nat)

def Tally.hit (t : Tally) (i : Nat) : Tally where
  count := t.count + 1
  run := match t.run with
    | some r => if r.2 = i then some (r.1, i + 1) else some (i, i + 1)
    | none => some (i, i + 1)
  ranges := t.ranges

def Tally.close (t : Tally) : Tally :=
  { t with run := none, ranges := t.ranges ++ t.run.toList }

def Tally.step (t : Tally) (i : Nat) (hit close : Bool) : Tally :=
  let t := if hit then t.hit i else t
  if close then t.close else t

section

variable (ab bb : List UInt8) (ours : Option (List UInt8))

def retailDiff (i : Nat) : Bool :=
  ab.getD i 0 != bb.getD i 0

def explainedAt (i : Nat) : Bool :=
  retailDiff ab bb i && ours.bind (·[i]?) == some (bb.getD i 0)

def unexplainedAt (i : Nat) : Bool :=
  retailDiff ab bb i && ours.bind (·[i]?) != some (bb.getD i 0)

def introducedAt (i : Nat) : Bool :=
  (ours.bind (·[i]?)).any (· != ab.getD i 0) && !retailDiff ab bb i

structure Burning where
  retailChanged : Nat
  explained : Nat
  unx : Tally
  int : Tally

def burnStep (s : Burning) (i : Nat) : Burning :=
  let ov := ours.bind (·[i]?)
  { retailChanged := if retailDiff ab bb i then s.retailChanged + 1 else s.retailChanged
    explained := if explainedAt ab bb ours i then s.explained + 1 else s.explained
    unx := s.unx.step i (unexplainedAt ab bb ours i)
      (!retailDiff ab bb i || ov == some (bb.getD i 0))
    int := s.int.step i (introducedAt ab bb ours i)
      !(ov.isSome && ov != some (ab.getD i 0) && !retailDiff ab bb i) }

def burnBelow (n : Nat) : Burning :=
  (List.range n).foldl (burnStep ab bb ours) ⟨0, 0, ⟨0, none, []⟩, ⟨0, none, []⟩⟩

end

/-- The span's slice of the image; `none` is the panic of a slice out of range. -/
def Span.bytes (s : Span) (raw : List UInt8) : Option (List UInt8) :=
  if s.offset + s.len ≤ raw.length then some ((raw.drop s.offset).take s.len) else none

def burnSpan (a b : Span) (oldRaw newRaw : List UInt8) (ours : Option (List UInt8))
    (excluded : Bool) : Option PairBurn := do
  if excluded then return ⟨a.path, 0, 0, 0, 0, [], []⟩
  let ab ← a.bytes oldRaw
  let bb ← b.bytes newRaw
  let s := burnBelow ab bb ours (max ab.length bb.length)
  return ⟨a.path, s.retailChanged, s.explained, s.unx.count, s.int.count, s.unx.close.ranges,
    s.int.close.ranges⟩

def total (rs : List (Nat × Nat)) : Nat :=
  (rs.map fun r => r.2 - r.1).sum

/-- The maximal runs of `p` below `n`: they list its positions in order, with a gap after each. -/
structure RunsOf (p : Nat → Bool) (n : Nat) (rs : List (Nat × Nat)) : Prop where
  positions : rs.flatMap (fun r => List.range' r.1 (r.2 - r.1)) = (List.range n).filter p
  nonempty : ∀ r ∈ rs, r.1 < r.2
  apart : rs.Pairwise (·.2 < ·.1)

section

variable {p : Nat → Bool} {n : Nat} {rs : List (Nat × Nat)} {t : Tally}

lemma RunsOf.total_eq (h : RunsOf p n rs) : total rs = (List.range n).countP p := by
  rw [List.countP_eq_length_filter, ← h.positions, List.length_flatMap]
  simp [total]

/-- What a counter of `p` holds after the positions below `n`. -/
structure Tallied (p : Nat → Bool) (n : Nat) (t : Tally) : Prop where
  count : t.count = (List.range n).countP p
  runs : RunsOf p n (t.ranges ++ t.run.toList)
  closed : ∀ r ∈ t.ranges, r.2 < n
  opened : ∀ r ∈ t.run, r.2 = n

lemma Tallied.step (h : Tallied p n t) : Tallied p (n + 1) (t.step n (p n) !p n) := by
  obtain ⟨hcount, ⟨hpos, hne, hapart⟩, hclosed, hopened⟩ := h
  obtain ⟨count, run, ranges⟩ := t
  have hlater := fun a b hr => Nat.lt_succ_of_lt (hclosed (a, b) hr)
  dsimp only at *
  cases hp : p n with
  | false =>
    refine ⟨?_, ⟨?_, ?_, ?_⟩, ?_, ?_⟩ <;>
      simp_all [Tally.step, Tally.close, List.range_succ]
    rintro a b (hr | hr)
    · exact hlater a b hr
    · have hend := hopened _ _ hr
      omega
  | true =>
    cases run with
    | none =>
      refine ⟨?_, ⟨?_, ?_, ?_⟩, ?_, ?_⟩ <;>
        simp_all [Tally.step, Tally.hit, List.range_succ, List.pairwise_append, or_imp]
      exacts [hclosed, hlater]
    | some r =>
      obtain ⟨s, e⟩ := r
      obtain rfl : e = n := hopened _ rfl
      have hs : s < e := hne (s, e) (by simp)
      have hgrown : List.range' s (e + 1 - s) = List.range' s (e - s) ++ [e] := by
        rw [show e + 1 - s = e - s + 1 by omega, List.range'_concat]
        simp only [List.append_cancel_left_eq, List.cons.injEq, and_true]
        omega
      refine ⟨?_, ⟨?_, ?_, ?_⟩, ?_, ?_⟩ <;>
        simp_all [Tally.step, Tally.hit, List.range_succ, List.pairwise_append, or_imp]
      · rw [← List.append_assoc, hpos]
      · omega
      · exact hapart.2
      · exact hlater

variable (ab bb : List UInt8) (ours : Option (List UInt8))

lemma burn_tallied (n : Nat) :
    (burnBelow ab bb ours n).retailChanged = (List.range n).countP (retailDiff ab bb) ∧
      (burnBelow ab bb ours n).explained = (List.range n).countP (explainedAt ab bb ours) ∧
      Tallied (unexplainedAt ab bb ours) n (burnBelow ab bb ours n).unx ∧
      Tallied (introducedAt ab bb ours) n (burnBelow ab bb ours n).int := by
  induction n with
  | zero =>
    have hnone : ∀ p, Tallied p 0 ⟨0, none, []⟩ := fun p =>
      ⟨rfl, ⟨rfl, by simp, by simp⟩, by simp, by simp⟩
    exact ⟨rfl, rfl, hnone _, hnone _⟩
  | succ n ih =>
    obtain ⟨hchanged, hexplained, hunx, hint⟩ := ih
    have hlast : burnBelow ab bb ours (n + 1) = burnStep ab bb ours (burnBelow ab bb ours n) n := by
      rw [burnBelow, List.range_succ, List.foldl_concat, burnBelow]
    rw [List.range_succ, hlast]
    refine ⟨?_, ?_, ?_, ?_⟩
    · simp only [burnStep, hchanged, List.countP_append, List.countP_singleton]
      split <;> rfl
    · simp only [burnStep, hexplained, List.countP_append, List.countP_singleton]
      split <;> rfl
    · simpa [burnStep, unexplainedAt, bne] using hunx.step
    · have hclose : (!((ours.bind (·[n]?)).isSome && ours.bind (·[n]?) != some (ab.getD n 0) &&
          !retailDiff ab bb n)) = !introducedAt ab bb ours n := by
        cases h : ours.bind (·[n]?) <;> simp [introducedAt, h, bne]
      rw [burnStep, hclose]
      exact hint.step

lemma runs_nonempty (is : List Nat) : ∀ r ∈ runs p is, r.1 < r.2 := by
  fun_induction runs p is with
  | case1 => simp
  | case2 i rest hp ih => simpa using ⟨by omega, by simpa using ih⟩
  | case3 i rest hp ih => exact ih

lemma total_runs (is : List Nat) : total (runs p is) = is.countP p := by
  fun_induction runs p is with
  | case1 => rfl
  | case2 i rest hp ih =>
    have hall : (rest.takeWhile p).countP p = (rest.takeWhile p).length :=
      List.countP_eq_length.2 fun _ h => List.all_eq_true.1 List.all_takeWhile _ h
    have hsplit := congrArg (List.countP p) (List.takeWhile_append_dropWhile (p := p) (l := rest))
    rw [List.countP_append, hall] at hsplit
    rw [List.countP_cons_of_pos hp, ← hsplit, ← ih]
    simp [total]
    omega
  | case3 i rest hp ih => rw [ih, List.countP_cons_of_neg hp]

lemma total_append (rs rs' : List (Nat × Nat)) : total (rs ++ rs') = total rs + total rs' := by
  simp [total]

lemma total_diffRanges : total (diffRanges ab bb) =
    (List.range (min ab.length bb.length)).countP (retailDiff ab bb) +
      (max ab.length bb.length - min ab.length bb.length) := by
  have hcommon : (List.range (min ab.length bb.length)).countP (fun i => ab[i]? != bb[i]?) =
      (List.range (min ab.length bb.length)).countP (retailDiff ab bb) := by
    refine List.countP_congr fun i hi => ?_
    have hi := List.mem_range.1 hi
    simp [retailDiff, List.getElem?_eq_getElem (show i < ab.length by omega),
      List.getElem?_eq_getElem (show i < bb.length by omega)]
  rw [← hcommon, ← total_runs, diffRanges]
  split
  case isFalse hlen => rw [show max ab.length bb.length - min ab.length bb.length = 0 by omega]; rfl
  split
  case h_2 => exact total_append _ _
  next r hr =>
  split
  case isFalse => exact total_append _ _
  next hend =>
  -- the last run reaches the end of the shorter span and takes the tail
  have hlast := List.dropLast_append_getLast? r hr
  have hrun := runs_nonempty _ r (List.mem_of_getLast? hr)
  conv_rhs => rw [← hlast]
  simp only [total_append, Nat.add_assoc, Nat.add_left_cancel_iff]
  simp [total]
  omega

lemma tail_differs {a b : List UInt8} (h : a.length ≤ b.length) :
    (∀ i ∈ List.range' a.length (b.length - a.length), a.getD i 0 ≠ b.getD i 0) ↔
      0 ∉ b.drop a.length := by
  simp only [List.mem_range'_1, List.getD_eq_getElem?_getD]
  simp only [List.mem_iff_getElem?, List.getElem?_drop, not_exists]
  refine ⟨fun hall k hk => hall (a.length + k) ?_ ?_, fun hnone i hi heq => hnone (i - a.length) ?_⟩
  · have := (List.getElem?_eq_some_iff.1 hk).1
    omega
  · simp [hk]
  · have hb : i < b.length := by omega
    simp only [List.getElem?_eq_none hi.1, List.getElem?_eq_getElem hb] at heq
    rw [Nat.add_sub_cancel' hi.1, List.getElem?_eq_getElem hb]
    exact congrArg some heq.symm

lemma changed_eq_iff : (List.range (max ab.length bb.length)).countP (retailDiff ab bb) =
    total (diffRanges ab bb) ↔ 0 ∉ ab.drop bb.length ++ bb.drop ab.length := by
  have hsplit := range'_split (Nat.zero_le (min ab.length bb.length))
    (Nat.le_trans (Nat.min_le_left _ _) (Nat.le_max_left _ bb.length))
  have hall := List.countP_eq_length (p := retailDiff ab bb)
    (l := List.range' (min ab.length bb.length) (max ab.length bb.length - min ab.length bb.length))
  simp only [Nat.sub_zero, ← List.range_eq_range'] at hsplit
  rw [List.length_range'] at hall
  rw [total_diffRanges, ← hsplit, List.countP_append, Nat.add_left_cancel_iff, hall]
  simp only [retailDiff, bne_iff_ne]
  rcases Nat.le_total ab.length bb.length with h | h
  · simp [Nat.min_eq_left h, Nat.max_eq_right h, List.drop_eq_nil_of_le h, ← tail_differs h]
  · simp [Nat.min_eq_right h, Nat.max_eq_left h, List.drop_eq_nil_of_le h, ← tail_differs h, eq_comm]

end

/-- The counters are those of three disjoint sets of positions, with the runs of two of them.  The bytes
that `diff_ranges` finds changed are those counted, unless a byte past the shorter span is zero: `burn_span`
reads a missing byte as zero. -/
theorem burnSpan_exact (a b : Span) (oldRaw newRaw : List UInt8) (ours : Option (List UInt8))
    {ab bb : List UInt8} (ha : a.bytes oldRaw = some ab) (hb : b.bytes newRaw = some bb) :
    ∃ out, burnSpan a b oldRaw newRaw ours false = some out ∧
      out.retailChanged = out.explained + out.unexplained ∧
      out.explained = (List.range (max ab.length bb.length)).countP (explainedAt ab bb ours) ∧
      RunsOf (unexplainedAt ab bb ours) (max ab.length bb.length) out.unexplainedRanges ∧
      total out.unexplainedRanges = out.unexplained ∧
      RunsOf (introducedAt ab bb ours) (max ab.length bb.length) out.introducedRanges ∧
      total out.introducedRanges = out.introduced ∧
      (∀ i, ([explainedAt ab bb ours i, unexplainedAt ab bb ours i, introducedAt ab bb ours i].count
        true) ≤ 1) ∧
      (out.retailChanged = total (diffRanges ab bb) ↔
        0 ∉ ab.drop bb.length ++ bb.drop ab.length) := by
  obtain ⟨hchanged, hexplained, hunx, hint⟩ := burn_tallied ab bb ours (max ab.length bb.length)
  refine ⟨_, by simp [burnSpan, ha, hb]; rfl, ?_, hexplained, hunx.runs, ?_, hint.runs, ?_, ?_, ?_⟩
  · rw [hchanged, hexplained, hunx.count, List.countP_eq_countP_filter_add _ _
      fun i => ours.bind (·[i]?) == some (bb.getD i 0), List.countP_filter, List.countP_filter]
    rfl
  · rw [hunx.count]; exact hunx.runs.total_eq
  · rw [hint.count]; exact hint.runs.total_eq
  · intro i
    simp only [explainedAt, unexplainedAt, introducedAt, bne]
    cases retailDiff ab bb i <;> cases ours.bind (·[i]?) == some (bb.getD i 0) <;>
      cases (ours.bind (·[i]?)).any _ <;> decide
  · rw [← changed_eq_iff, ← hchanged]

/-- The first byte is explained, the second introduced and the one that was added unexplained. -/
theorem burnSpan_exact_grown : ∃ out,
    burnSpan ⟨"Unit", 0, 3⟩ ⟨"Unit", 1, 4⟩ [3, 7, 1] [0, 4, 7, 1, 5] (some [4, 8, 1]) false = some out ∧
      out.retailChanged = total (diffRanges [3, 7, 1] [4, 7, 1, 5]) ∧
      out.retailChanged = out.explained + out.unexplained ∧
      total out.introducedRanges = out.introduced := by
  obtain ⟨out, hout, hsum, _, _, _, _, hintroduced, _, hiff⟩ := burnSpan_exact ⟨"Unit", 0, 3⟩
    ⟨"Unit", 1, 4⟩ [3, 7, 1] [0, 4, 7, 1, 5] (some [4, 8, 1]) rfl rfl
  exact ⟨out, hout, hiff.2 (by decide), hsum, hintroduced⟩

/-- A span that grows by a zero byte has changed, but no byte of it is counted. -/
theorem burnSpan_misses_zero : (burnSpan ⟨"Unit", 0, 0⟩ ⟨"Unit", 0, 1⟩ [] [0] none false).map
      PairBurn.retailChanged = some 0 ∧ total (diffRanges [] [0]) = 1 := by
  exact ⟨by decide, by simp [total, diffRanges, runs]⟩

end Don.State
