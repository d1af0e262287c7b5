import Don.Foundation.Layout
import Don.Net.Command

/-!
# CommandCodec — splitting a package payload and putting it back together

The payload of a command package has no length fields: each command says from its own bytes how long
it is, and after each command the generator says how many pad bytes to skip.  `Splits` is that
framing without the reading loop.  The decoder accepts exactly the payloads that split, and the
encoder produces the split whose pads are zero.
-/

namespace Don.Net

open Foundation List Command

/-! ## The length of a command is read from the command -/

/-- The opcode is the first byte and the length is the one the command itself announces. -/
def Command.WellFormed (c : Command) : Prop :=
  byteAt c.bytes 0 = c.opcode ∧ Command.wireLen c.bytes = .ok c.bytes.length

variable {b : Bytes}

/-- The three commands that compute their length, and the table for all others. -/
lemma Command.wireLen_ok_iff {l : Nat} : wireLen b = .ok l ↔ 1 ≤ b.length ∧
      ((byteAt b 0 = 0x00 ∧ 2 ≤ b.length ∧ l = 3 + 2 * (byteAt b 1).toNat) ∨
        (byteAt b 0 = 0x33 ∧ 6 ≤ b.length ∧ l = 6 + 8 * (u16le b 4).toNat) ∨
        (byteAt b 0 = 0x44 ∧ 17 ≤ b.length ∧ (0 ≤ i32le b 13 ∧ i32le b 13 ≤ 512) ∧
          l = 19 + 2 * (i32le b 13).toNatClampNeg) ∨
        (byteAt b 0 ≠ 0x00 ∧ byteAt b 0 ≠ 0x33 ∧ byteAt b 0 ≠ 0x44 ∧
          (commandSizes[(byteAt b 0).toNat]?).join = some l)) := by
  have hneed : ∀ n, need b n = if b.length < n then .error (.truncated 0 n b.length) else .ok () :=
    fun _ => rfl
  simp only [wireLen, hneed, bind, Except.bind, pure, Except.pure]
  by_cases h1 : b.length < 1
  · simp [h1, Nat.not_le.2 h1]
  simp only [h1, if_false, Nat.le_of_not_lt h1, true_and]
  by_cases h00 : byteAt b 0 = 0x00
  · by_cases h2 : b.length < 2
    · simp [h00, h2, Nat.not_le.2 h2]
    · simp [h00, h2, Nat.le_of_not_lt h2, eq_comm]
  by_cases h33 : byteAt b 0 = 0x33
  · by_cases h6 : b.length < 6
    · simp [h33, h6, Nat.not_le.2 h6]
    · simp [h33, h6, Nat.le_of_not_lt h6, eq_comm]
  by_cases h44 : byteAt b 0 = 0x44
  · by_cases h17 : b.length < 17
    · simp [h44, h17, Nat.not_le.2 h17]
    · by_cases hchat : 0 ≤ i32le b 13 ∧ i32le b 13 ≤ 512
      · simp [h44, h17, Nat.le_of_not_lt h17, hchat, eq_comm]
      · simp [h44, h17, Nat.le_of_not_lt h17, hchat]
  · simp only [h00, h33, h44, if_false, false_and, false_or, ne_eq, not_false_eq_true, true_and]
    cases (commandSizes[(byteAt b 0).toNat]?).join with
    | none | some => simp

/-- `wire_len` looks only at bytes of the command whose length it returns. -/
lemma Command.wireLen_congr {b' : Bytes} {l : Nat} (h : wireLen b = .ok l)
    (hlen : l ≤ b'.length) (hagree : ∀ k < l, byteAt b' k = byteAt b k) :
    wireLen b' = .ok l := by
  have hpos : 0 < l := wireLen_pos h
  have hop : byteAt b' 0 = byteAt b 0 := hagree 0 hpos
  rw [wireLen_ok_iff] at h ⊢
  refine ⟨by omega, ?_⟩
  rw [hop]
  rcases h.2 with ⟨h00, _, hl⟩ | ⟨h33, _, hl⟩ | ⟨h44, _, hchat, hl⟩ | hfixed
  · refine Or.inl ⟨h00, by omega, ?_⟩
    rw [hagree 1 (by omega), hl]
  · have hword : u16le b' 4 = u16le b 4 := by
      simp only [u16le, hagree 4 (by omega), hagree 5 (by omega)]
    refine Or.inr (Or.inl ⟨h33, by omega, ?_⟩)
    rw [hword, hl]
  · have hword : i32le b' 13 = i32le b 13 := by
      simp only [i32le, u32le, hagree 13 (by omega), hagree 14 (by omega), hagree 15 (by omega),
        hagree 16 (by omega)]
    refine Or.inr (Or.inr (Or.inl ⟨h44, by omega, ?_, ?_⟩))
    · rwa [hword]
    · rw [hword, hl]
  · exact Or.inr (Or.inr (Or.inr hfixed))

lemma byteAt_append_left {pre : Bytes} {k : Nat} (h : k < pre.length) :
    byteAt (pre ++ b) k = byteAt pre k := by
  simp [byteAt, getD, getElem?_append_left h]

lemma byteAt_take {n k : Nat} (h : k < n) : byteAt (b.take n) k = byteAt b k := by
  simp [byteAt, getD, h]

/-! ## Splits -/

/-- `b` is the given commands, each followed by the pad the generator draws after it. -/
def Splits : List Command → Obfuscation → Bytes → Prop
  | [], _, b => b = []
  | c :: rest, obf, b =>
    c.WellFormed ∧ ∃ pad tail, pad.length = obf.nextPad.1 ∧ b = c.bytes ++ pad ++ tail ∧
      Splits rest obf.nextPad.2 tail

/-- What a split says about its first command: the length it announces, and where the rest is. -/
lemma splits_cons_iff {c : Command} {rest : List Command} {obf : Obfuscation} :
    Splits (c :: rest) obf b ↔ ∃ l, wireLen b = .ok l ∧ l + obf.nextPad.1 ≤ b.length ∧
      c = ⟨byteAt b 0, b.take l⟩ ∧ Splits rest obf.nextPad.2 (b.drop (l + obf.nextPad.1)) := by
  constructor
  · rintro ⟨hc, pad, tail, hpad, rfl, hrest⟩
    refine ⟨c.bytes.length, ?_, ?_, ?_, ?_⟩
    · rw [append_assoc]
      exact wireLen_congr hc.2 (by simp) fun _ hk => byteAt_append_left hk
    · simp only [length_append]
      omega
    · rw [append_assoc, byteAt_append_left (wireLen_pos hc.2), take_left, hc.1]
    · rw [← hpad, ← length_append, drop_left]
      exact hrest
  · rintro ⟨l, hl, hfit, rfl, hrest⟩
    have hlen : (b.take l).length = l := by
      rw [length_take]
      omega
    refine ⟨⟨?_, ?_⟩, (b.drop l).take obf.nextPad.1, b.drop (l + obf.nextPad.1), ?_, ?_, hrest⟩
    · exact byteAt_take (wireLen_pos hl)
    · change wireLen (b.take l) = .ok (b.take l).length
      rw [hlen]
      exact wireLen_congr hl (by rw [hlen]) fun k hk => byteAt_take hk
    · rw [length_take, length_drop]
      omega
    · rw [append_assoc, ← drop_drop, take_append_drop, take_append_drop]

/-- The loop of `decode_commands` appends exactly the commands of a split. -/
lemma decodeLoop_ok_iff (payload : Bytes) :
    ∀ (fuel i : Nat) (obf : Obfuscation) (out all : List Command), i ≤ payload.length →
      payload.length < fuel + i →
        (decodeLoop payload fuel i obf out = .ok all ↔
          ∃ cmds, all = out ++ cmds ∧ Splits cmds obf (payload.drop i)) := by
  intro fuel
  induction fuel with
  | zero =>
    intro i obf out all hi hfuel
    omega
  | succ fuel ih =>
    intro i obf out all hi hfuel
    rw [decodeLoop]
    by_cases hmore : i < payload.length
    · rw [if_pos hmore]
      -- there are bytes left, so a split of them starts with a command
      have hcons : (∃ cmds, all = out ++ cmds ∧ Splits cmds obf (payload.drop i)) ↔
          ∃ c rest, all = out ++ [c] ++ rest ∧ Splits (c :: rest) obf (payload.drop i) := by
        constructor
        · rintro ⟨cmds, hall, hsplit⟩
          cases cmds with
          | nil =>
            have hnil : payload.drop i = [] := hsplit
            rw [drop_eq_nil_iff] at hnil
            omega
          | cons c rest => exact ⟨c, rest, by simpa using hall, hsplit⟩
        · rintro ⟨c, rest, hall, hsplit⟩
          exact ⟨c :: rest, by simpa using hall, hsplit⟩
      rw [hcons]
      simp only [splits_cons_iff]
      cases hl : wireLen (payload.drop i) with
      | error => simp
      | ok l =>
        dsimp only
        have hpos := wireLen_pos hl
        have hhead : byteAt (payload.drop i) 0 = byteAt payload i := byteAt_drop payload i 0
        have hlen : (payload.drop i).length = payload.length - i := length_drop
        by_cases hfit : i + (l + obf.nextPad.1) ≤ payload.length
        · rw [if_neg (by omega)]
          simp only [ih (i + (l + obf.nextPad.1)) obf.nextPad.2 _ all hfit (by omega)]
          constructor
          · rintro ⟨rest, hall, hrest⟩
            exact ⟨_, rest, hall, l, rfl, by omega, by rw [hhead], by rwa [drop_drop]⟩
          · rintro ⟨c, rest, hall, l', hl', _, rfl, hrest⟩
            cases hl'
            rw [drop_drop] at hrest
            exact ⟨rest, by rwa [hhead] at hall, hrest⟩
        · -- the command or its pad runs past the end: an error, and no split
          refine iff_of_false ?_ ?_
          · by_cases hcut : payload.length < i + l
            · rw [if_pos hcut]
              exact fun h => nomatch h
            · rw [if_neg hcut]
              cases fuel with
              | zero => exact fun h => nomatch h
              | succ =>
                simp only [decodeLoop]
                rw [if_neg (by omega), if_pos (by omega)]
                exact fun h => nomatch h
          · rintro ⟨c, rest, _, l', hl', hle, _⟩
            cases hl'
            omega
    · have hall : i = payload.length := by omega
      have hdrop : payload.drop i = [] := by simp [hall]
      rw [if_neg hmore, if_neg (by simp [hall]), hdrop]
      constructor
      · intro h
        cases h
        exact ⟨[], by simp, rfl⟩
      · rintro ⟨cmds, rfl, hsplit⟩
        cases cmds with
        | nil => simp
        | cons =>
          rcases splits_cons_iff.1 hsplit with ⟨l, hl, hle, _⟩
          have hpos := wireLen_pos hl
          simp at hle
          omega

lemma decodeCommands_ok_iff {payload : Bytes} {obf : Obfuscation} {cmds : List Command} :
    decodeCommands payload obf = .ok cmds ↔ Splits cmds obf payload := by
  have hloop := decodeLoop_ok_iff payload (payload.length + 1) 0 obf [] cmds (by omega) (by omega)
  simpa [decodeCommands] using hloop

/-! ## The encoder -/

lemma splits_encodeCommands : ∀ {cmds : List Command} (obf : Obfuscation),
    (∀ c ∈ cmds, c.WellFormed) → Splits cmds obf (encodeCommands cmds obf) := by
  intro cmds
  induction cmds with
  | nil =>
    intro obf _
    rfl
  | cons c rest ih =>
    intro obf hall
    refine ⟨hall c (by simp), replicate obf.nextPad.1 0, _, by simp, rfl, ?_⟩
    exact ih obf.nextPad.2 fun c hc => hall c (by simp [hc])

lemma Splits.wellFormed : ∀ {cmds : List Command} {obf : Obfuscation} {b : Bytes},
    Splits cmds obf b → ∀ c ∈ cmds, c.WellFormed := by
  intro cmds
  induction cmds with
  | nil => simp
  | cons c rest ih =>
    rintro obf b ⟨hc, _, _, _, _, hrest⟩ c' hmem
    rcases mem_cons.1 hmem with rfl | hmem
    · exact hc
    · exact ih hrest c' hmem

def padMask : List Command → Obfuscation → List Bool
  | [], _ => []
  | c :: rest, obf =>
    List.replicate c.bytes.length false ++ List.replicate obf.nextPad.1 true
      ++ padMask rest obf.nextPad.2

lemma Splits.length_eq : ∀ {cmds : List Command} {obf : Obfuscation} {b : Bytes},
    Splits cmds obf b → b.length = (padMask cmds obf).length := by
  intro cmds
  induction cmds with
  | nil =>
    rintro obf b rfl
    rfl
  | cons c rest ih =>
    rintro obf b ⟨_, pad, tail, hpad, rfl, hrest⟩
    simp only [padMask, length_append, length_replicate, hpad, ih hrest]

lemma Splits.agree : ∀ {cmds : List Command} {obf : Obfuscation} {b b' : Bytes},
    Splits cmds obf b → Splits cmds obf b' →
      ∀ k : Nat, (padMask cmds obf)[k]? = some false → b[k]? = b'[k]? := by
  intro cmds
  induction cmds with
  | nil =>
    rintro obf b b' rfl rfl k _
    rfl
  | cons c rest ih =>
    rintro obf b b' ⟨_, pad, tail, hpad, rfl, hrest⟩ ⟨_, pad', tail', hpad', rfl, hrest'⟩ k hk
    -- `k` lies in the command, in its pad, or in what follows
    by_cases hin : k < c.bytes.length
    · rw [append_assoc, append_assoc, getElem?_append_left hin,
        getElem?_append_left hin]
    by_cases hinPad : k < c.bytes.length + obf.nextPad.1
    · rw [padMask, append_assoc, getElem?_append_right (by simpa using hin),
        getElem?_append_left (by simp; omega)] at hk
      have hpadByte := mem_of_getElem? hk
      simp at hpadByte
    · have hdone : c.bytes.length + obf.nextPad.1 ≤ k := by omega
      rw [padMask, getElem?_append_right (by simpa using hdone)] at hk
      rw [getElem?_append_right (by simpa [hpad] using hdone),
        getElem?_append_right (by simpa [hpad'] using hdone)]
      simp only [length_append, length_replicate, hpad, hpad'] at hk ⊢
      exact ih hrest hrest' _ hk

/-! ## The XOR layer -/

lemma xorWords_xorWords (k₀ k₁ : UInt8) : ∀ b : Bytes, xorWords k₀ k₁ (xorWords k₀ k₁ b) = b := by
  intro b
  induction b using xorWords.induct with
  | case1 b₀ b₁ rest ih =>
    simp only [xorWords, UInt8.xor_assoc, UInt8.xor_self, UInt8.xor_zero, ih]
  | case2 rest hshort =>
    have hfix : xorWords k₀ k₁ rest = rest := by
      unfold xorWords
      split
      · rename_i b₀ b₁ more
        exact absurd rfl (hshort b₀ b₁ more)
      · rfl
    rw [hfix, hfix]

/-! ## Round trips -/

/-- Decoding what was encoded and XORed twice gives the commands back, and re-encoding what was
decoded gives the payload back up to its pads. -/
theorem command_package_round_trip :
    (∀ (g : UInt32) (cmds : List Command), (∀ c ∈ cmds, c.WellFormed) →
      decodeCommands
        (xorPayload
          (xorPayload (encodeCommands cmds (Obfuscation.multiplayer g)) (Obfuscation.xorKey g))
          (Obfuscation.xorKey g))
        (Obfuscation.multiplayer g) = .ok cmds) ∧
      ∀ (payload : Bytes) (obf : Obfuscation) (cmds : List Command),
        decodeCommands payload obf = .ok cmds →
          (encodeCommands cmds obf).length = payload.length ∧
            ∀ k : Nat, (padMask cmds obf)[k]? = some false →
              (encodeCommands cmds obf)[k]? = payload[k]? := by
  refine ⟨?_, ?_⟩
  · intro g cmds hwf
    rw [xorPayload, xorPayload, xorWords_xorWords]
    exact decodeCommands_ok_iff.2 (splits_encodeCommands _ hwf)
  · intro payload obf cmds h
    have hsplit : Splits cmds obf payload := decodeCommands_ok_iff.1 h
    have hencoded : Splits cmds obf (encodeCommands cmds obf) :=
      splits_encodeCommands obf hsplit.wellFormed
    exact ⟨hencoded.length_eq.trans hsplit.length_eq.symm, hencoded.agree hsplit⟩

/-- Two commands whose lengths are computed from their bytes, with pads. -/
theorem command_package_round_trip_pair :
    let cmds := [⟨0x00, [0x00, 0x01, 0x41, 0x00, 0x00]⟩, ⟨0x33, [0x33, 0x00, 0x00, 0x00, 0x00, 0x00]⟩]
    let obf := Obfuscation.multiplayer 0x9abcdef0
    true ∈ padMask cmds obf ∧
      decodeCommands (xorPayload (xorPayload (encodeCommands cmds obf) (Obfuscation.xorKey 0x9abcdef0))
        (Obfuscation.xorKey 0x9abcdef0)) obf = .ok cmds := by
  refine ⟨by decide, command_package_round_trip.1 0x9abcdef0 _ ?_⟩
  simp only [mem_cons, not_mem_nil, or_false, forall_eq_or_imp, forall_eq]
  exact ⟨⟨by decide, by decide⟩, ⟨by decide, by decide⟩⟩

end Don.Net
