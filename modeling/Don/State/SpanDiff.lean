import Mathlib.Data.List.Basic

/-!
# SpanDiff — alignment of two span traces

`align` of `crates/don-state/src/spandiff.rs` merges two traces by path.  A trace that has fallen behind
is caught up by a bounded look-ahead, so a cursor moves at every turn and no index is passed over.
-/

namespace Don.State

open List

structure Span where
  path : String
  offset : Nat
  len : Nat

/-- `RESYNC` -/
def resync : Nat := 64

inductive AlignEvent where
  | aligned (i j : Nat)
  | removed (indices : List Nat)
  | added (indices : List Nat)
  | unresolved (i j : Nat)
  | tail (old new : Nat)

/-- The first of the next `resync` spans whose path is `path`. -/
def ahead (paths : List String) (i : Nat) (path : Option String) : Option Nat :=
  (List.range' i (min (i + resync) paths.length - i)).find? fun k => paths[k]? = path

variable {old new paths : List String} {i j k : Nat} {path : Option String}

lemma ahead_spec (h : ahead paths i path = some k) : i ≤ k ∧ k < paths.length ∧
    paths[k]? = path ∧ ∀ n ∈ range' i (k - i), paths[n]? ≠ path := by
  simp only [ahead, find?_range'_eq_some, mem_range'_1, decide_eq_true_eq,
    Bool.not_eq_true', decide_eq_false_iff_not] at h
  obtain ⟨hk, ⟨hle, hlt⟩, hfirst⟩ := h
  refine ⟨hle, by omega, hk, fun n hn => ?_⟩
  rw [mem_range'_1] at hn
  exact hfirst n hn.1 (by omega)

lemma lt_of_ahead (h : ahead paths i path = some k) (hne : paths[i]? ≠ path) : i < k := by
  obtain ⟨hle, _, hk, _⟩ := ahead_spec h
  refine Nat.lt_of_le_of_ne hle ?_
  rintro rfl
  exact hne hk

/-- The loop of `align`, from the cursors `i` and `j`. -/
def alignFrom (old new : List String) (i j : Nat) : List AlignEvent :=
  if _h : i < old.length ∧ j < new.length then
    if hsame : old[i]? = new[j]? then .aligned i j :: alignFrom old new (i + 1) (j + 1)
    else
      match hi : ahead old i new[j]?, hj : ahead new j old[i]? with
      | none, none => .unresolved i j :: alignFrom old new (i + 1) (j + 1)
      | some k, _ => .removed (List.range' i (k - i)) :: alignFrom old new k j
      | none, some k => .added (List.range' j (k - j)) :: alignFrom old new i k
  else if i < old.length ∨ j < new.length then [.tail (old.length - i) (new.length - j)]
  else []
termination_by (old.length - i) + (new.length - j)
decreasing_by
  · omega
  · omega
  · have := lt_of_ahead hi hsame
    omega
  · have := lt_of_ahead hj (Ne.symm hsame)
    omega

def align (old new : List Span) : List AlignEvent :=
  alignFrom (old.map Span.path) (new.map Span.path) 0 0

/-- The old indices an event mentions, of `n`. -/
def AlignEvent.olds (n : Nat) : AlignEvent → List Nat
  | .aligned i _ | .unresolved i _ => [i]
  | .removed is => is
  | .added _ => []
  | .tail m _ => List.range' (n - m) m

/-- The new indices an event mentions, of `n`. -/
def AlignEvent.news (n : Nat) : AlignEvent → List Nat
  | .aligned _ j | .unresolved _ j => [j]
  | .removed _ => []
  | .added js => js
  | .tail _ m => List.range' (n - m) m

/-- The events from the cursors `i` and `j` on: every index once and in order, equal paths where they
say so, and a gap that ends at the first span with the path it was skipped for. -/
structure Aligns (old new : List String) (i j : Nat) (events : List AlignEvent) : Prop where
  olds : events.flatMap (·.olds old.length) = List.range' i (old.length - i)
  news : events.flatMap (·.news new.length) = List.range' j (new.length - j)
  aligned : ∀ a b, .aligned a b ∈ events → old[a]? = new[b]?
  removed : ∀ is rest, .removed is :: rest <:+ events → ∃ a b rest', rest = .aligned a b :: rest' ∧
    ∀ n ∈ is, old[n]? ≠ old[a]?
  added : ∀ js rest, .added js :: rest <:+ events → ∃ a b rest', rest = .aligned a b :: rest' ∧
    ∀ n ∈ js, new[n]? ≠ new[b]?

lemma range'_split {n : Nat} (h : i ≤ k) (hk : k ≤ n) :
    range' i (k - i) ++ range' k (n - k) = range' i (n - i) := by
  rw [show n - i = k - i + (n - k) by omega, ← range'_append_1, show i + (k - i) = k by omega]

lemma range'_head {n : Nat} (h : i < n) :
    i :: range' (i + 1) (n - (i + 1)) = range' i (n - i) := by
  rw [show n - i = n - (i + 1) + 1 by omega, range'_succ]

lemma alignFrom_same (hi : i < old.length) (hj : j < new.length) (h : old[i]? = new[j]?) :
    alignFrom old new i j = .aligned i j :: alignFrom old new (i + 1) (j + 1) := by
  rw [alignFrom, dif_pos ⟨hi, hj⟩, dif_pos h]

open AlignEvent

lemma alignFrom_aligns (hi : i ≤ old.length) (hj : j ≤ new.length) :
    Aligns old new i j (alignFrom old new i j) := by
  fun_induction alignFrom old new i j with
  | case1 i j h hsame ih =>
    have ih := ih h.1 h.2
    refine ⟨?_, ?_, ?_, ?_, ?_⟩
    · exact (congrArg (i :: ·) ih.olds).trans (range'_head h.1)
    · exact (congrArg (j :: ·) ih.news).trans (range'_head h.2)
    · simp only [mem_cons, aligned.injEq]
      rintro a b (⟨rfl, rfl⟩ | hmem)
      · exact hsame
      · exact ih.aligned a b hmem
    · simpa [suffix_cons_iff] using ih.removed
    · simpa [suffix_cons_iff] using ih.added
  | case2 i j h hne hold hnew ih =>
    have ih := ih h.1 h.2
    refine ⟨?_, ?_, by simpa using ih.aligned, ?_, ?_⟩
    · exact (congrArg (i :: ·) ih.olds).trans (range'_head h.1)
    · exact (congrArg (j :: ·) ih.news).trans (range'_head h.2)
    · simpa [suffix_cons_iff] using ih.removed
    · simpa [suffix_cons_iff] using ih.added
  | case3 i j h hne k hold ih =>
    obtain ⟨hle, hlt, hk, hfirst⟩ := ahead_spec hold
    have ih := ih (Nat.le_of_lt hlt) hj
    refine ⟨?_, ih.news, by simpa using ih.aligned, ?_, ?_⟩
    · exact (congrArg (_ ++ ·) ih.olds).trans (range'_split hle (Nat.le_of_lt hlt))
    · simp only [suffix_cons_iff, cons.injEq, removed.injEq]
      rintro is rest (⟨rfl, rfl⟩ | hrest)
      · exact ⟨k, j, _, alignFrom_same hlt h.2 hk, hk ▸ hfirst⟩
      · exact ih.removed is rest hrest
    · simpa [suffix_cons_iff] using ih.added
  | case4 i j h hne k hold hnew ih =>
    obtain ⟨hle, hlt, hk, hfirst⟩ := ahead_spec hnew
    have ih := ih hi (Nat.le_of_lt hlt)
    refine ⟨ih.olds, ?_, by simpa using ih.aligned, ?_, ?_⟩
    · exact (congrArg (_ ++ ·) ih.news).trans (range'_split hle (Nat.le_of_lt hlt))
    · simpa [suffix_cons_iff] using ih.removed
    · simp only [suffix_cons_iff, cons.injEq, added.injEq]
      rintro js rest (⟨rfl, rfl⟩ | hrest)
      · exact ⟨i, k, _, alignFrom_same h.1 hlt hk.symm, hk ▸ hfirst⟩
      · exact ih.added js rest hrest
  | case5 i j h hmore =>
    refine ⟨?_, ?_, by simp, ?_, ?_⟩ <;>
      simp [olds, news, suffix_cons_iff, Nat.sub_sub_self, hi, hj]
  | case6 i j h hdone =>
    refine ⟨?_, ?_, by simp, ?_, ?_⟩ <;> simp <;> omega

lemma alignFrom_self {e : AlignEvent} (he : e ∈ alignFrom old old i i) : ∃ n, e = .aligned n n := by
  induction hn : old.length - i generalizing i with
  | zero =>
    rw [alignFrom, dif_neg (by omega), if_neg (by omega)] at he
    cases he
  | succ n ih =>
    rw [alignFrom_same (by omega) (by omega) rfl] at he
    rcases mem_cons.1 he with rfl | hrest
    · exact ⟨i, rfl⟩
    · exact ih hrest (by omega)

/-- Nothing is lost: every index is mentioned once and in order, and traces with the same paths are
aligned throughout. -/
theorem align_loses_nothing (old new : List Span) :
    Aligns (old.map Span.path) (new.map Span.path) 0 0 (align old new) ∧
      (old.map Span.path = new.map Span.path → ∀ e ∈ align old new, ∃ n, e = .aligned n n) := by
  refine ⟨alignFrom_aligns (Nat.zero_le _) (Nat.zero_le _), fun hpaths e he => ?_⟩
  rw [align, ← hpaths] at he
  exact alignFrom_self he

end Don.State
