import Don.Foundation.Layout

/-!
# Save.Chunk — the chunk container

`Chunk::encode` and `parse_chunk` of `crates/don-sim/src/systems/save_load.rs`.  A chunk is a header
and either raw data or chunks.  Its length is in its header, and a parent is cut by the lengths of its
children.
-/

namespace Don.Sim.Save

open Foundation List

/-- The errors of `SaveError` that the container reports. -/
inductive ChunkError where
  | invalidChunk (what : String)
  | limit (what : String)

inductive Chunk where
  | mk (id : UInt16) (children : List Chunk) (data : Bytes)

/-- The bytes of a header, and the body after it. -/
def chunkText (size : UInt32) (id numChunks : UInt16) (body : Bytes) : Bytes :=
  u32ToLe size ++ u16ToLe id ++ u16ToLe numChunks ++ body

mutual

def Chunk.encode : Chunk → Except ChunkError Bytes
  | .mk id children data => do
    refuse (children ≠ [] ∧ data ≠ []) (.invalidChunk "mixed child and raw payload")
    let body ← (if children = [] then .ok data else encodeAll children)
    refuse (2 ^ 32 ≤ body.length + 8) (.limit "chunk size")
    refuse (2 ^ 16 ≤ children.length) (.limit "chunk child count")
    return chunkText (.ofNat (body.length + 8)) id (.ofNat children.length) body

def Chunk.encodeAll : List Chunk → Except ChunkError Bytes
  | [] => pure []
  | child :: rest => do return (← child.encode) ++ (← encodeAll rest)

end

structure ChunkHeader where
  size : UInt32
  id : UInt16
  numChunks : UInt16

inductive ParsedChunk where
  | mk (header : ChunkHeader) (data : Bytes) (children : List ParsedChunk)

mutual

def parseChunk (input : Bytes) : Except ChunkError ParsedChunk :=
  if _h : input.length < 8 then .error (.invalidChunk "truncated header")
  else
    let header : ChunkHeader := ⟨u32le input 0, u16le input 4, u16le input 6⟩
    if header.size.toNat < 8 ∨ header.size.toNat ≠ input.length then
      .error (.invalidChunk "size does not bound the chunk exactly")
    else if header.numChunks = 0 then .ok (.mk header (input.drop 8) [])
    else do return .mk header [] (← parseChildren (input.drop 8) header.numChunks.toNat)
termination_by 2 * input.length
decreasing_by
  rw [length_drop]
  omega

/-- The loop over the children, on the payload that is left. -/
def parseChildren (payload : Bytes) : Nat → Except ChunkError (List ParsedChunk)
  | 0 =>
    if payload ≠ [] then .error (.invalidChunk "parent has unclaimed trailing payload") else .ok []
  | n + 1 =>
    if payload.length < 8 then .error (.invalidChunk "truncated child header")
    else
      let childSize := (u32le payload 0).toNat
      if _h : childSize < 8 ∨ payload.length < childSize then
        .error (.invalidChunk "child escapes parent")
      else do
        let child ← parseChunk (payload.take childSize)
        return child :: (← parseChildren (payload.drop childSize) n)
termination_by 2 * payload.length + 1
decreasing_by
  · rw [length_take]
    omega
  · rw [length_drop]
    omega

end

mutual

/-- What was parsed, without the lengths. -/
def ParsedChunk.tree : ParsedChunk → Chunk
  | .mk header data children => .mk header.id (trees children) data

def ParsedChunk.trees : List ParsedChunk → List Chunk
  | [] => []
  | child :: rest => child.tree :: trees rest

end

section

variable {size : UInt32} {id numChunks : UInt16} {body input : Bytes}

lemma length_chunkText : (chunkText size id numChunks body).length = body.length + 8 := by
  simp [chunkText]
  omega

lemma exists_chunkText (h : 8 ≤ input.length) :
    input = chunkText (u32le input 0) (u16le input 4) (u16le input 6) (input.drop 8) := by
  simp only [chunkText, append_assoc]
  rw [← drop_u16le (o := 6) (by omega), ← drop_u16le (o := 4) (by omega),
    ← drop_u32le (o := 0) (by omega), drop_zero]

lemma parseChunk_chunkText {p : ParsedChunk} :
    parseChunk (chunkText size id numChunks body) = .ok p ↔ size.toNat = body.length + 8 ∧
      ((numChunks = 0 ∧ p = .mk ⟨size, id, 0⟩ body []) ∨ (numChunks ≠ 0 ∧
        ∃ children, parseChildren body numChunks.toNat = .ok children ∧
          p = .mk ⟨size, id, numChunks⟩ [] children)) := by
  have hsize : u32le (chunkText size id numChunks body) 0 = size := u32FromLe_bytes size
  have hid : u16le (chunkText size id numChunks body) 4 = id := u16FromLe_bytes id
  have hnum : u16le (chunkText size id numChunks body) 6 = numChunks := u16FromLe_bytes numChunks
  have hbody : (chunkText size id numChunks body).drop 8 = body := rfl
  rw [parseChunk, dif_neg (by simp [length_chunkText])]
  simp only [hsize, hid, hnum, hbody, length_chunkText, except_error_ok_iff]
  have hfits : ¬ (size.toNat < 8 ∨ size.toNat ≠ body.length + 8) ↔ size.toNat = body.length + 8 := by
    omega
  rw [hfits]
  refine and_congr_right fun _ => ?_
  by_cases hzero : numChunks = 0
  · simp [hzero, eq_comm]
  · simp only [hzero, if_false, except_bind_ok_iff, except_pure_ok_iff, false_and, false_or, ne_eq,
      not_false_eq_true, true_and]

/-- A chunk that is accepted is a header and a body, and its length stands in front. -/
lemma exists_of_parseChunk {p : ParsedChunk} (h : parseChunk input = .ok p) :
    ∃ size id numChunks body, input = chunkText size id numChunks body ∧
      size.toNat = body.length + 8 := by
  have hlong : 8 ≤ input.length := by
    rw [parseChunk] at h
    split at h
    · cases h
    · omega
  have htext := exists_chunkText hlong
  rw [htext] at h
  exact ⟨_, _, _, _, htext, (parseChunk_chunkText.1 h).1⟩

lemma parseChildren_zero {ps : List ParsedChunk} :
    parseChildren input 0 = .ok ps ↔ input = [] ∧ ps = [] := by
  rw [parseChildren, except_error_ok_iff]
  simp [eq_comm]

lemma parseChildren_succ {ps : List ParsedChunk} {n : Nat} :
    parseChildren input (n + 1) = .ok ps ↔ ∃ p ps' c rest, ps = p :: ps' ∧ input = c ++ rest ∧
      parseChunk c = .ok p ∧ parseChildren rest n = .ok ps' := by
  rw [parseChildren]
  constructor
  · intro h
    split at h
    · cases h
    dsimp only at h
    split at h
    · cases h
    · simp only [except_bind_ok_iff, except_pure_ok_iff] at h
      obtain ⟨p, hp, ps', hps, rfl⟩ := h
      exact ⟨p, ps', _, _, rfl, (take_append_drop _ input).symm, hp, hps⟩
  · rintro ⟨p, ps', c, rest, rfl, rfl, hp, hps⟩
    -- an accepted child begins with its own length, which is where the loop cuts
    obtain ⟨size, id, numChunks, body, rfl, hsize⟩ := exists_of_parseChunk hp
    have hlength : (chunkText size id numChunks body).length = body.length + 8 := length_chunkText
    have hfront : (u32le (chunkText size id numChunks body ++ rest) 0).toNat =
        (chunkText size id numChunks body).length := by
      rw [hlength, ← hsize]
      exact congrArg _ (u32FromLe_bytes size)
    rw [if_neg (by simp [hlength]; omega)]
    dsimp only
    rw [dif_neg (by simp [hfront, hlength]), hfront, take_left, drop_left]
    simp only [except_bind_ok_iff, except_pure_ok_iff]
    exact ⟨p, hp, ps', hps, rfl⟩

open Chunk ParsedChunk

/-- The induction is on the tree that is written or found, so it gives both directions at once. -/
lemma encode_ok_iff_parse (c : Chunk) :
    ∀ b, c.encode = .ok b ↔ ∃ p, parseChunk b = .ok p ∧ p.tree = c := by
  refine @Chunk.rec (fun c => ∀ b, c.encode = .ok b ↔ ∃ p, parseChunk b = .ok p ∧ p.tree = c)
    (fun cs => ∀ n b, cs.length = n ∧ encodeAll cs = .ok b ↔
      ∃ ps, parseChildren b n = .ok ps ∧ trees ps = cs) ?_ ?_ ?_ c
  · intro id children data ih b
    -- a leaf is told from a parent by the number of children in both directions
    simp only [encode, except_bind_ok_iff, refuse_ok_iff, except_pure_ok_iff, exists_const,
      Nat.not_le, not_and_or, not_not]
    constructor
    · rintro ⟨hmixed, body, hbody, hsize, hnum, rfl⟩
      have hsize : (UInt32.ofNat (body.length + 8)).toNat = body.length + 8 :=
        UInt32.toNat_ofNat_of_lt' hsize
      have hnum : (UInt16.ofNat children.length).toNat = children.length :=
        UInt16.toNat_ofNat_of_lt' hnum
      by_cases hleaf : children = []
      · rw [if_pos hleaf] at hbody
        cases hbody
        subst hleaf
        exact ⟨_, parseChunk_chunkText.2 ⟨hsize, .inl ⟨rfl, rfl⟩⟩, rfl⟩
      · rw [if_neg hleaf] at hbody
        obtain ⟨ps, hps, rfl⟩ := (ih _ body).1 ⟨hnum.symm, hbody⟩
        obtain rfl := hmixed.resolve_left hleaf
        refine ⟨_, parseChunk_chunkText.2 ⟨hsize, .inr ⟨?_, ps, hps, rfl⟩⟩, rfl⟩
        intro hzero
        rw [hzero] at hnum
        exact hleaf (length_eq_zero_iff.1 hnum.symm)
    · rintro ⟨p, hparse, htree⟩
      obtain ⟨size, id', numChunks, body, rfl, -⟩ := exists_of_parseChunk hparse
      obtain ⟨hsize, ⟨rfl, rfl⟩ | ⟨hzero, ps, hps, rfl⟩⟩ := parseChunk_chunkText.1 hparse
      · obtain ⟨rfl, rfl, rfl⟩ := mk.inj htree
        refine ⟨.inl rfl, body, if_pos rfl, hsize ▸ size.toNat_lt, by decide, ?_⟩
        rw [← hsize, UInt32.ofNat_toNat]
        rfl
      · obtain ⟨rfl, rfl, rfl⟩ := mk.inj htree
        obtain ⟨hnum, hbody⟩ := (ih _ _).2 ⟨ps, hps, rfl⟩
        have hsome : trees ps ≠ [] := by
          intro hnone
          rw [hnone] at hnum
          exact hzero (UInt16.toNat_inj.1 hnum.symm)
        refine ⟨.inr rfl, body, (if_neg hsome).trans hbody, hsize ▸ size.toNat_lt,
          hnum ▸ numChunks.toNat_lt, ?_⟩
        rw [← hsize, UInt32.ofNat_toNat, hnum, UInt16.ofNat_toNat]
  · intro n b
    cases n with
    | zero => simp [encodeAll, except_pure_ok_iff, parseChildren_zero, trees]
    | succ n => simp [parseChildren_succ, trees]
  · intro child rest ihchild ihrest n b
    -- the parser is given the number of children, so a wrong one is excluded here
    cases n with
    | zero => simp [parseChildren_zero, trees]
    | succ n =>
      simp only [encodeAll, except_bind_ok_iff, except_pure_ok_iff, length_cons,
        parseChildren_succ, ihchild, Nat.add_right_cancel_iff]
      constructor
      · rintro ⟨hlength, c, ⟨p, hp, rfl⟩, r, hr, rfl⟩
        obtain ⟨ps, hps, rfl⟩ := (ihrest n r).1 ⟨hlength, hr⟩
        exact ⟨p :: ps, ⟨p, ps, c, r, rfl, rfl, hp, hps⟩, rfl⟩
      · rintro ⟨_, ⟨p, ps, c, r, rfl, rfl, hp, hps⟩, htrees⟩
        obtain ⟨hchild, hrest⟩ := cons.inj htrees
        obtain ⟨hlength, hr⟩ := (ihrest n r).2 ⟨ps, hps, hrest⟩
        exact ⟨hlength, c, ⟨p, hp, hchild⟩, r, hr, rfl⟩

end

/-- The codec is exact: the trees written as `b` are those `b` is parsed to, and there is only one. -/
theorem chunk_codec (b : Bytes) :
    (∀ c : Chunk, c.encode = .ok b ↔ ∃ p, parseChunk b = .ok p ∧ p.tree = c) ∧
      ∀ c c' : Chunk, c.encode = .ok b → c'.encode = .ok b → c = c' := by
  refine ⟨fun c => encode_ok_iff_parse c b, fun c c' h h' => ?_⟩
  obtain ⟨p, hp, rfl⟩ := (encode_ok_iff_parse c b).1 h
  obtain ⟨p', hp', rfl⟩ := (encode_ok_iff_parse c' b).1 h'
  rw [hp] at hp'
  cases hp'
  rfl

end Don.Sim.Save
