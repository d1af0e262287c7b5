import Mathlib
import Don.Foundation.Layout
import Don.Foundation.Text

/-!
# Decodes — readers with more than one text for a value

A map is read from its entries in any order, so a reader of maps is not canonical.  What is left of
`Reads` has two halves: the written text of every value that satisfies the bounds is read back, and
every value that is read satisfies the bounds.
-/

namespace Don.Foundation

open Std (ExtTreeMap)
open Reader List Reads Option

variable {ε : Type} {α β : Type}

/-- `r` reads back the texts of the values that satisfy `ok`, and reads no other values. -/
structure Decodes (r : Reader ε α) (ok : α → Prop) (text : α → Bytes) : Prop where
  run : ∀ a rest, ok a → r (text a ++ rest) = .ok (a, rest)
  sound : ∀ b a rest, r b = .ok (a, rest) → ok a

lemma Reads.decodes {r : Reader ε α} {ok : α → Prop} {text : α → Bytes} (h : Reads r ok text) :
    Decodes r ok text where
  run := fun _ rest ha => h.run ha rest
  sound := fun b a rest hr => ((h b a rest).1 hr).1

namespace Decodes

variable {r : Reader ε α} {ok ok' : α → Prop} {text : α → Bytes}

lemma field {f : α → Reader ε β} {okRecord : β → Prop} {parts : β → List Bytes} (get : β → α)
    (hr : Decodes r ok text) (hget : ∀ c, okRecord c → ok (get c))
    (hf : ∀ a, ok a → Decodes (f a) (fun c => okRecord c ∧ get c = a) (fun c => (parts c).flatten)) :
    Decodes (r >>= f) okRecord (fun c => (text (get c) :: parts c).flatten) where
  run := by
    intro c rest hc
    rw [bind_ok_iff]
    refine ⟨get c, (parts c).flatten ++ rest, ?_, (hf _ (hget c hc)).run c rest ⟨hc, rfl⟩⟩
    rw [flatten_cons, append_assoc]
    exact hr.run _ _ (hget c hc)
  sound := by
    intro b c rest h
    obtain ⟨a, mid, hfirst, hrest⟩ := bind_ok_iff.1 h
    exact ((hf a (hr.sound _ _ _ hfirst)).sound _ _ _ hrest).1

lemma record {a : α} (h : ∀ c, ok c ↔ c = a) :
    Decodes (pure a : Reader ε α) ok (fun _ => ([] : List Bytes).flatten) :=
  (Reads.record h).decodes

lemma tagged {short : Nat → Nat → ε} {f : UInt8 → Reader ε α} (tag : α → UInt8) {body : α → Bytes}
    (hf : ∀ t, Decodes (f t) (fun a => ok a ∧ tag a = t) body) :
    Decodes (u8 short >>= f) ok (fun a => tag a :: body a) where
  run := by
    intro a rest ha
    rw [bind_ok_iff]
    exact ⟨tag a, body a ++ rest, u8_ok_iff.2 rfl, (hf _).run a rest ⟨ha, rfl⟩⟩
  sound := by
    intro b a rest h
    obtain ⟨t, mid, _, hbody⟩ := bind_ok_iff.1 h
    exact ((hf t).sound _ _ _ hbody).1

lemma never {e : ε} (h : ∀ a, ¬ ok a) : Decodes (throw e : Reader ε α) ok text where
  run := fun a _ ha => absurd ha (h a)
  sound := fun _ _ _ hr => absurd hr (by simp)

lemma constant {a : α} (hok : ∀ c, ok c ↔ c = a) (htext : text a = []) :
    Decodes (pure a : Reader ε α) ok text where
  run := by
    intro c rest hc
    obtain rfl := (hok c).1 hc
    rw [htext]
    rfl
  sound := by
    intro b c rest h
    obtain ⟨rfl, _⟩ := pure_ok_iff.1 h
    exact (hok _).2 rfl

lemma wrap (f : α → β) {okWhole : β → Prop} {textWhole : β → Bytes} (hr : Decodes r ok text)
    (hok : ∀ c, okWhole c ↔ ∃ a, ok a ∧ f a = c) (htext : ∀ a, textWhole (f a) = text a) :
    Decodes (do let a ← r; return f a) okWhole textWhole where
  run := by
    intro c rest hc
    obtain ⟨a, ha, rfl⟩ := (hok c).1 hc
    rw [bind_ok_iff, htext]
    exact ⟨a, rest, hr.run a rest ha, by simp⟩
  sound := by
    intro b c rest h
    obtain ⟨a, mid, hread, hpure⟩ := bind_ok_iff.1 h
    obtain ⟨rfl, _⟩ := pure_ok_iff.1 hpure
    exact (hok _).2 ⟨a, hr.sound _ _ _ hread, rfl⟩

section Parts

variable {γ δ η : Type} {rb : Reader ε β} {rc : Reader ε γ} {rd : Reader ε δ} {okB : β → Prop}
  {okC : γ → Prop} {okD : δ → Prop} {textB : β → Bytes} {textC : γ → Bytes} {textD : δ → Bytes}
  {okWhole : η → Prop} {textWhole : η → Bytes}

lemma wrap₂ (f : α → β → η) (hr : Decodes r ok text) (hb : Decodes rb okB textB)
    (hok : ∀ w, okWhole w ↔ ∃ a b, (ok a ∧ okB b) ∧ f a b = w)
    (htext : ∀ a b, textWhole (f a b) = text a ++ textB b) :
    Decodes (do let a ← r; let b ← rb; return f a b) okWhole textWhole where
  run := by
    intro w rest hw
    obtain ⟨a, b, ⟨ha, hb'⟩, rfl⟩ := (hok w).1 hw
    simp only [bind_ok_iff, pure_ok_iff, htext, append_assoc]
    exact ⟨a, _, hr.run a _ ha, b, _, hb.run b _ hb', rfl, rfl⟩
  sound := by
    intro s w rest h
    simp only [bind_ok_iff, pure_ok_iff] at h
    obtain ⟨a, _, ha, b, _, hb', rfl, _⟩ := h
    exact (hok _).2 ⟨a, b, ⟨hr.sound _ _ _ ha, hb.sound _ _ _ hb'⟩, rfl⟩

lemma wrap₃ (f : α → β → γ → η) (hr : Decodes r ok text) (hb : Decodes rb okB textB)
    (hc : Decodes rc okC textC)
    (hok : ∀ w, okWhole w ↔ ∃ a b c, (ok a ∧ okB b ∧ okC c) ∧ f a b c = w)
    (htext : ∀ a b c, textWhole (f a b c) = text a ++ textB b ++ textC c) :
    Decodes (do let a ← r; let b ← rb; let c ← rc; return f a b c) okWhole textWhole where
  run := by
    intro w rest hw
    obtain ⟨a, b, c, ⟨ha, hb', hc'⟩, rfl⟩ := (hok w).1 hw
    simp only [bind_ok_iff, pure_ok_iff, htext, append_assoc]
    exact ⟨a, _, hr.run a _ ha, b, _, hb.run b _ hb', c, _, hc.run c _ hc', rfl, rfl⟩
  sound := by
    intro s w rest h
    simp only [bind_ok_iff, pure_ok_iff] at h
    obtain ⟨a, _, ha, b, _, hb', c, _, hc', rfl, _⟩ := h
    exact (hok _).2
      ⟨a, b, c, ⟨hr.sound _ _ _ ha, hb.sound _ _ _ hb', hc.sound _ _ _ hc'⟩, rfl⟩

lemma wrap₄ (f : α → β → γ → δ → η) (hr : Decodes r ok text) (hb : Decodes rb okB textB)
    (hc : Decodes rc okC textC) (hd : Decodes rd okD textD)
    (hok : ∀ w, okWhole w ↔ ∃ a b c d, (ok a ∧ okB b ∧ okC c ∧ okD d) ∧ f a b c d = w)
    (htext : ∀ a b c d, textWhole (f a b c d) = text a ++ textB b ++ textC c ++ textD d) :
    Decodes (do let a ← r; let b ← rb; let c ← rc; let d ← rd; return f a b c d)
      okWhole textWhole where
  run := by
    intro w rest hw
    obtain ⟨a, b, c, d, ⟨ha, hb', hc', hd'⟩, rfl⟩ := (hok w).1 hw
    simp only [bind_ok_iff, pure_ok_iff, htext, append_assoc]
    exact ⟨a, _, hr.run a _ ha, b, _, hb.run b _ hb', c, _, hc.run c _ hc', d, _, hd.run d _ hd', rfl,
      rfl⟩
  sound := by
    intro s w rest h
    simp only [bind_ok_iff, pure_ok_iff] at h
    obtain ⟨a, _, ha, b, _, hb', c, _, hc', d, _, hd', rfl, _⟩ := h
    exact (hok _).2 ⟨a, b, c, d,
      ⟨hr.sound _ _ _ ha, hb.sound _ _ _ hb', hc.sound _ _ _ hc', hd.sound _ _ _ hd'⟩, rfl⟩

end Parts

/-- A part that is there when its flag is set. -/
lemma optional {flag : Reader ε Bool} (hflag : Reads flag (fun _ => True) flagText)
    (hr : Decodes r ok text) :
    Decodes (optional flag r) (fun v => ∀ a, v = some a → ok a) (optionText text) where
  run := by
    intro v rest hv
    rw [Reader.optional, bind_ok_iff]
    cases v with
    | none => exact ⟨false, rest, hflag.run trivial rest, by simp⟩
    | some a =>
      refine ⟨true, text a ++ rest, ?_, ?_⟩
      · rw [optionText, append_assoc]
        exact hflag.run trivial _
      · rw [if_pos rfl, bind_ok_iff]
        exact ⟨a, rest, hr.run a rest (hv a rfl), by simp⟩
  sound := by
    intro b v rest h a hv
    subst hv
    obtain ⟨present, mid, _, hbody⟩ := bind_ok_iff.1 h
    cases present with
    | false => simp at hbody
    | true =>
      rw [if_pos rfl, bind_ok_iff] at hbody
      obtain ⟨a', _, hread, hpure⟩ := hbody
      obtain ⟨heq, _⟩ := pure_ok_iff.1 hpure
      exact some.inj heq ▸ hr.sound _ _ _ hread

lemma times (hr : Decodes r ok text) (n : Nat) :
    Decodes (times r n) (fun as => (∀ a ∈ as, ok a) ∧ as.length = n)
      (fun as => as.flatMap text) := by
  induction n with
  | zero =>
    constructor
    · rintro as rest ⟨_, hlen⟩
      obtain rfl := length_eq_zero_iff.1 hlen
      rfl
    · intro b as rest h
      obtain ⟨rfl, _⟩ := pure_ok_iff.1 h
      exact ⟨by simp, rfl⟩
  | succ n ih =>
    constructor
    · rintro as rest ⟨hall, hlen⟩
      cases as with
      | nil => cases hlen
      | cons a tail =>
        rw [Reader.times, bind_ok_iff]
        refine ⟨a, tail.flatMap text ++ rest, ?_, ?_⟩
        · rw [flatMap_cons, append_assoc]
          exact hr.run a _ (hall a mem_cons_self)
        · rw [bind_ok_iff]
          refine ⟨tail, rest, ih.run tail rest ⟨?_, by simpa using hlen⟩, by simp⟩
          exact fun a ha => hall a (mem_cons_of_mem _ ha)
    · intro b as rest h
      obtain ⟨a, mid, hfirst, h⟩ := bind_ok_iff.1 h
      obtain ⟨tail, mid', htail, hpure⟩ := bind_ok_iff.1 h
      obtain ⟨rfl, _⟩ := pure_ok_iff.1 hpure
      obtain ⟨hall, hlen⟩ := ih.sound _ _ _ htail
      refine ⟨?_, by simp [hlen]⟩
      intro x hx
      rcases mem_cons.1 hx with rfl | hx
      · exact hr.sound _ _ _ hfirst
      · exact hall x hx

end Decodes

/-! ## Counts, byte strings and texts -/

/-- `i64::to_le_bytes`. -/
def i64ToLe (v : Int64) : Bytes :=
  u64ToLe v.toUInt64

def blobText (b : Bytes) : Bytes :=
  lengthText b.length ++ b

def stringText (s : String) : Bytes :=
  blobText (utf8Bytes s)

def listText (text : α → Bytes) (as : List α) : Bytes :=
  lengthText as.length ++ as.flatMap text

namespace Reader

variable (short : Nat → Nat → ε)

def i64 : Reader ε Int64 := do
  let v ← u64 short
  return v.toInt64

def blob (max : Nat) (long : ε) : Reader ε Bytes := do
  let n ← count short max long
  take short n

/-- A string; `bad` is the error for bytes that are not UTF-8. -/
def string (max : Nat) (long bad : ε) : Reader ε String := do
  let b ← blob short max long
  okOr bad (String.fromUTF8? ⟨b.toArray⟩)

def listOf (max : Nat) (long : ε) (r : Reader ε α) : Reader ε (List α) := do
  let n ← count short max long
  times r n

end Reader

namespace Reads

variable {short : Nat → Nat → ε} {max : Nat} {long bad : ε}

lemma u64 : Reads (u64 short) (fun _ => True) u64ToLe := by
  intro b v rest
  simp

lemma i64 : Reads (i64 short) (fun _ => True) i64ToLe :=
  convert UInt64.toInt64 Int64.toUInt64 (fun _ => rfl) (fun _ => rfl) u64

lemma blob (hmax : max < 2 ^ 32) :
    Reads (Reader.blob short max long) (fun s => s.length ≤ max) blobText := by
  intro b s rest
  simp only [Reader.blob, bind_ok_iff, (count hmax).ok_iff, take_ok_iff, blobText]
  constructor
  · rintro ⟨n, _, ⟨hle, rfl⟩, rfl, rfl⟩
    exact ⟨hle, by simp⟩
  · rintro ⟨hle, rfl⟩
    exact ⟨s.length, s ++ rest, ⟨hle, by simp⟩, rfl, rfl⟩

lemma string (hmax : max < 2 ^ 32) :
    Reads (Reader.string short max long bad) (fun s => (utf8Bytes s).length ≤ max) stringText := by
  intro b s rest
  simp only [Reader.string, bind_ok_iff, (blob hmax).ok_iff, Reader.okOr_ok_iff,
    fromUTF8?_eq_some_iff, stringText]
  constructor
  · rintro ⟨_, _, ⟨hle, rfl⟩, rfl, rfl⟩
    exact ⟨hle, rfl⟩
  · rintro ⟨hle, rfl⟩
    exact ⟨utf8Bytes s, rest, ⟨hle, rfl⟩, rfl, rfl⟩

end Reads

lemma Decodes.listOf {short : Nat → Nat → ε} {max : Nat} {long : ε} {r : Reader ε α}
    {ok : α → Prop} {text : α → Bytes} (hr : Decodes r ok text) (hmax : max < 2 ^ 32) :
    Decodes (listOf short max long r) (fun as => as.length ≤ max ∧ ∀ a ∈ as, ok a)
      (listText text) where
  run := by
    rintro as rest ⟨hlen, hall⟩
    rw [Reader.listOf, bind_ok_iff, listText, append_assoc]
    exact ⟨as.length, _, (count hmax).run hlen _, (hr.times _).run as rest ⟨hall, rfl⟩⟩
  sound := by
    intro b as rest h
    obtain ⟨n, mid, hcount, htimes⟩ := bind_ok_iff.1 h
    obtain ⟨hall, rfl⟩ := (hr.times n).sound _ _ _ htimes
    exact ⟨(((count hmax) _ _ _).1 hcount).1, hall⟩

/-! ## Maps -/

section Maps

variable {κ ν : Type} [Ord κ] [Std.TransOrd κ] [Std.LawfulEqOrd κ]

/-- Entries that are put into a map one by one; `twice` is the error for a key that is there. -/
def Reader.entries (twice : ε) (key : Reader ε κ) (value : Reader ε ν) :
    Nat → ExtTreeMap κ ν → Reader ε (ExtTreeMap κ ν)
  | 0, m => pure m
  | n + 1, m => do
    let k ← key
    let v ← value
    refuse (k ∈ m) twice
    entries twice key value n (m.insert k v)

/-- A map: the number of its entries, then the entries. -/
def Reader.mapOf (short : Nat → Nat → ε) (max : Nat) (long twice : ε) (key : Reader ε κ)
    (value : Reader ε ν) : Reader ε (ExtTreeMap κ ν) := do
  let n ← count short max long
  entries twice key value n ∅

def entryText (keyText : κ → Bytes) (valueText : ν → Bytes) (e : κ × ν) : Bytes :=
  keyText e.1 ++ valueText e.2

/-- The entries of a map in the order of the keys, after their number. -/
def mapText (keyText : κ → Bytes) (valueText : ν → Bytes) (m : ExtTreeMap κ ν) : Bytes :=
  listText (entryText keyText valueText) m.toList

def insertAll (m : ExtTreeMap κ ν) (es : List (κ × ν)) : ExtTreeMap κ ν :=
  es.foldl (fun m e => m.insert e.1 e.2) m

variable {es : List (κ × ν)}

lemma getElem?_insertAll (hes : es.Pairwise fun a b => a.1 ≠ b.1)
    (m : ExtTreeMap κ ν) (k : κ) (v : ν) :
    (insertAll m es)[k]? = some v ↔ (k, v) ∈ es ∨ (k ∉ es.map Prod.fst ∧ m[k]? = some v) := by
  induction es generalizing m with
  | nil => simp [insertAll]
  | cons e es ih =>
    obtain ⟨hfirst, hes⟩ := pairwise_cons.1 hes
    rw [insertAll, foldl_cons, ← insertAll, ih hes, ExtTreeMap.getElem?_insert]
    by_cases hk : e.1 = k
    · subst hk
      have hnot : e.1 ∉ es.map Prod.fst := by
        intro hin
        obtain ⟨e', he', heq⟩ := mem_map.1 hin
        exact hfirst e' he' heq.symm
      have hno : (e.1, v) ∉ es := fun hin => hnot (mem_map.2 ⟨_, hin, rfl⟩)
      simp [hno, hnot, Std.ReflCmp.compare_self, Prod.ext_iff, eq_comm]
    · have hne : compare e.1 k ≠ .eq := fun heq => hk (Std.LawfulEqCmp.eq_of_compare heq)
      have hhead : (k, v) ≠ e := fun heq => hk (heq ▸ rfl)
      simp [hne, hhead, Ne.symm hk]

lemma size_insertAll (hes : es.Pairwise fun a b => a.1 ≠ b.1)
    (m : ExtTreeMap κ ν) (hm : ∀ e ∈ es, e.1 ∉ m) : (insertAll m es).size = m.size + es.length := by
  induction es generalizing m with
  | nil => rfl
  | cons e es ih =>
    obtain ⟨hfirst, hes⟩ := pairwise_cons.1 hes
    have hnew : ¬ m.contains e.1 = true := fun hin =>
      hm e mem_cons_self (ExtTreeMap.mem_iff_contains.2 hin)
    rw [insertAll, foldl_cons, ← insertAll, ih hes, ExtTreeMap.size_insert, if_neg hnew,
      length_cons]
    · omega
    · intro e' he' hin
      rcases ExtTreeMap.mem_insert.1 hin with heq | hin
      · exact hfirst e' he' (Std.LawfulEqCmp.eq_of_compare heq)
      · exact hm e' (mem_cons_of_mem _ he') hin

lemma distinct_toList (m : ExtTreeMap κ ν) : m.toList.Pairwise fun a b => a.1 ≠ b.1 := by
  refine ExtTreeMap.distinct_keys_toList.imp ?_
  intro a b hne heq
  rw [heq] at hne
  exact hne Std.ReflCmp.compare_self

lemma insertAll_toList (m : ExtTreeMap κ ν) : insertAll ∅ m.toList = m := by
  apply ExtTreeMap.ext_getElem?
  intro k
  apply ext
  intro v
  rw [getElem?_insertAll (distinct_toList m), ExtTreeMap.mem_toList_iff_getElem?_eq_some]
  simp

variable {twice : ε} {key : Reader ε κ} {value : Reader ε ν} {okKey : κ → Prop} {okValue : ν → Prop}
  {keyText : κ → Bytes} {valueText : ν → Bytes}

section

variable (hkey : Decodes key okKey keyText) (hvalue : Decodes value okValue valueText)
include hkey hvalue

lemma entries_run (hok : ∀ e ∈ es, okKey e.1 ∧ okValue e.2)
    (hes : es.Pairwise fun a b => a.1 ≠ b.1) (m : ExtTreeMap κ ν) (hm : ∀ e ∈ es, e.1 ∉ m)
    (rest : Bytes) :
    entries twice key value es.length m (es.flatMap (entryText keyText valueText) ++ rest) =
      .ok (insertAll m es, rest) := by
  induction es generalizing m with
  | nil => rfl
  | cons e es ih =>
    obtain ⟨hfirst, hes⟩ := pairwise_cons.1 hes
    obtain ⟨hk, hv⟩ := hok e mem_cons_self
    rw [length_cons, entries, bind_ok_iff, flatMap_cons, entryText,
      append_assoc, append_assoc]
    refine ⟨e.1, _, hkey.run _ _ hk, ?_⟩
    rw [bind_ok_iff]
    refine ⟨e.2, _, hvalue.run _ _ hv, ?_⟩
    rw [bind_ok_iff]
    refine ⟨(), _, Reader.refuse_ok_iff.2 ⟨hm e mem_cons_self, rfl⟩, ?_⟩
    refine ih (fun e' he' => hok e' (mem_cons_of_mem _ he')) hes _ ?_
    intro e' he' hin
    rcases ExtTreeMap.mem_insert.1 hin with heq | hin
    · exact hfirst e' he' (Std.LawfulEqCmp.eq_of_compare heq)
    · exact hm e' (mem_cons_of_mem _ he') hin

lemma entries_sound (n : Nat) {m m' : ExtTreeMap κ ν} {b rest : Bytes}
    (h : entries twice key value n m b = .ok (m', rest))
    (hm : ∀ k v, m[k]? = some v → okKey k ∧ okValue v) :
    m'.size = m.size + n ∧ ∀ k v, m'[k]? = some v → okKey k ∧ okValue v := by
  induction n generalizing m b with
  | zero =>
    obtain ⟨rfl, _⟩ := pure_ok_iff.1 h
    exact ⟨rfl, hm⟩
  | succ n ih =>
    obtain ⟨k, _, hk, hvalues⟩ := bind_ok_iff.1 h
    obtain ⟨v, _, hv, hchecked⟩ := bind_ok_iff.1 hvalues
    obtain ⟨_, _, hcheck, hentries⟩ := bind_ok_iff.1 hchecked
    obtain ⟨hnew, rfl⟩ := Reader.refuse_ok_iff.1 hcheck
    obtain ⟨hsize, hall⟩ := ih hentries (by
      intro k' v' hget
      rw [ExtTreeMap.getElem?_insert] at hget
      split at hget
      · rename_i heq
        obtain rfl := Std.LawfulEqCmp.eq_of_compare heq
        obtain rfl := some.inj hget
        exact ⟨hkey.sound _ _ _ hk, hvalue.sound _ _ _ hv⟩
      · exact hm k' v' hget)
    refine ⟨?_, hall⟩
    rw [hsize, ExtTreeMap.size_insert, if_neg (by simpa using hnew)]
    omega

lemma Decodes.mapOf {short : Nat → Nat → ε} {max : Nat} {long : ε} (hmax : max < 2 ^ 32) :
    Decodes (mapOf short max long twice key value)
      (fun m => m.size ≤ max ∧ ∀ k v, m[k]? = some v → okKey k ∧ okValue v)
      (mapText keyText valueText) where
  run := by
    rintro m rest ⟨hsize, hok⟩
    have hlen : m.toList.length ≤ max := by
      rwa [ExtTreeMap.length_toList]
    rw [Reader.mapOf, bind_ok_iff, mapText, listText, append_assoc]
    refine ⟨m.toList.length, _, (count hmax).run hlen _, ?_⟩
    rw [entries_run hkey hvalue ?_ ?_ ∅ (by simp) rest, insertAll_toList]
    · intro e he
      exact hok e.1 e.2 (ExtTreeMap.mem_toList_iff_getElem?_eq_some.1 he)
    · exact distinct_toList m
  sound := by
    intro b m rest h
    obtain ⟨n, mid, hcount, hentries⟩ := bind_ok_iff.1 h
    obtain ⟨hsize, hok⟩ := entries_sound hkey hvalue n hentries (by simp)
    have hle := (((count hmax) _ _ _).1 hcount).1
    exact ⟨by simpa [hsize] using hle, hok⟩

end

end Maps

end Don.Foundation
