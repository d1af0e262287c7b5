import Don.Net.Command

/-!
# Wire — the simulation splits a payload as the network does

`wire_len` and `process_all` of `crates/don-sim/src/command.rs`, beside `decode_commands` of the network
crate without padding.  The two length rules are the same function, so both loops pass through the same
offsets and stop at the same one.
-/

namespace Don.Sim

open Foundation Net List Command

inductive WireError where
  | unknownOpcode (op : UInt8)
  | truncated (offset need : Nat)
  | badLength (offset : Nat) (len : Int)
  deriving DecidableEq

inductive WireLen where
  | fixed (n : Nat)
  | variable

/-- The `wire` column of `OPCODES`. -/
def opcodeWires : List WireLen :=
  [.variable, .fixed 1, .fixed 5, .fixed 13, .fixed 17, .fixed 13, .fixed 17, .fixed 22, .fixed 26,
    .fixed 10, .fixed 10, .fixed 25, .fixed 1, .fixed 1, .fixed 5, .fixed 9, .fixed 13, .fixed 21,
    .fixed 9, .fixed 9, .fixed 13, .fixed 5, .fixed 17, .fixed 21, .fixed 9, .fixed 25, .fixed 17,
    .fixed 1, .fixed 25, .fixed 1, .fixed 13, .fixed 13, .fixed 9, .fixed 9, .fixed 25, .fixed 1,
    .fixed 1, .fixed 13, .fixed 13, .fixed 9, .fixed 9, .fixed 9, .fixed 9, .fixed 17, .fixed 17,
    .fixed 17, .fixed 13, .fixed 13, .fixed 15, .fixed 11, .fixed 9, .variable, .fixed 5, .fixed 1,
    .fixed 1, .fixed 1, .fixed 5, .fixed 65, .fixed 6, .fixed 5, .fixed 5, .fixed 5, .fixed 1,
    .fixed 1, .fixed 1, .fixed 5, .fixed 5, .fixed 17, .variable, .fixed 9, .fixed 5, .fixed 7,
    .fixed 10, .fixed 33, .fixed 11, .fixed 53, .fixed 2, .fixed 2, .fixed 521, .fixed 9, .fixed 3,
    .fixed 2]

/-- The `need` guard of `wire_len`. -/
def needBytes (buf : Bytes) (n : Nat) : Except WireError Unit :=
  if buf.length < n then .error (.truncated 0 n) else .ok ()

def wireLen (buf : Bytes) : Except WireError Nat := do
  needBytes buf 1
  let op := byteAt buf 0
  match opcodeWires[op.toNat]? with
  | none => .error (.unknownOpcode op)
  | some (.fixed n) => return n
  | some .variable =>
    if op = 0 then
      needBytes buf 2
      return 3 + 2 * (byteAt buf 1).toNat
    else if op = 51 then
      needBytes buf 6
      return 6 + 8 * (u16le buf 4).toNat
    else if op = 68 then
      needBytes buf 17
      let n := i32le buf 13
      if 0 ≤ n ∧ n ≤ 512 then
        return 19 + 2 * n.toNatClampNeg
      else
        .error (.badLength 0 n.toInt)
    else
      .error (.unknownOpcode op)

def WireError.atOffset (i : Nat) : WireError → WireError
  | .truncated _ n => .truncated i n
  | .badLength _ len => .badLength i len
  | e => e

variable {σ : Type}

/-- The loop of `process_all` from offset `i`; `processOne` is what a command does to the processor, the
package and the fleet.  Every command has at least one byte, so that `payload.length + 1` rounds of
fuel reach the end. -/
def processLoop (processOne : Bytes → σ → σ) (payload : Bytes) :
    Nat → Nat → σ → Except WireError Unit × σ
  | 0, _, s => (.ok (), s)
  | fuel + 1, i, s =>
    if i < payload.length then
      match wireLen (payload.drop i) with
      | .error e => (.error (e.atOffset i), s)
      | .ok l =>
        if payload.length < i + l then
          (.error (.truncated i l), s)
        else
          processLoop processOne payload fuel (i + l) (processOne ((payload.drop i).take l) s)
    else
      (.ok (), s)

def processAll (processOne : Bytes → σ → σ) (payload : Bytes) (s : σ) : Except WireError Unit × σ :=
  processLoop processOne payload (payload.length + 1) 0 s

/-! ## One length rule -/

/-- The network's error for the same failure, with `have_` bytes left. -/
def WireError.toNet (have_ : Nat) : WireError → Net.Error
  | .unknownOpcode op => .unknownOpcode op
  | .truncated i n => .truncated i n have_
  | .badLength i len => .badLength i len

lemma commandSizes_eq : commandSizes = opcodeWires.map fun
    | .fixed n => some n
    | .variable => none := by
  rfl

lemma wireLen_agrees (buf : Bytes) :
    Command.wireLen buf = (wireLen buf).mapError (WireError.toNet buf.length) := by
  have hneed : ∀ n, need buf n = (needBytes buf n).mapError (WireError.toNet buf.length) := by
    intro n
    unfold need needBytes
    split <;> rfl
  have hvariable : ∀ op : UInt8, op = 0 ∨ op = 51 ∨ op = 68 →
      opcodeWires[op.toNat]? = some .variable := by
    rintro op (rfl | rfl | rfl) <;> rfl
  simp only [Command.wireLen, wireLen, hneed, commandSizes_eq, List.getElem?_map]
  cases needBytes buf 1 with
  | error => rfl
  | ok =>
    generalize byteAt buf 0 = op
    by_cases hop : op = 0 ∨ op = 51 ∨ op = 68
    · rw [hvariable op hop]
      rcases hop with rfl | rfl | rfl
      · cases needBytes buf 2 with
        | error | ok => rfl
      · cases needBytes buf 6 with
        | error | ok => rfl
      · cases needBytes buf 17 with
        | error => rfl
        | ok =>
          by_cases hchat : 0 ≤ i32le buf 13 ∧ i32le buf 13 ≤ 512
          · simp [bind, Except.bind, Except.mapError, hchat, pure, Except.pure]
          · simp [bind, Except.bind, Except.mapError, hchat, WireError.toNet]
    · simp only [not_or] at hop
      cases opcodeWires[op.toNat]? with
      | none => simp [bind, Except.bind, Except.mapError, hop, WireError.toNet]
      | some w =>
        cases w with
        | fixed => simp [bind, Except.bind, Except.mapError, hop, pure, Except.pure]
        | «variable» => simp [bind, Except.bind, Except.mapError, hop, WireError.toNet]

/-! ## One split -/

variable (processOne : Bytes → σ → σ) (payload : Bytes)

/-- What the commands do, one after the other. -/
def processed (cmds : List Command) (s : σ) : σ :=
  cmds.foldl (fun s c => processOne c.bytes s) s

/-- Both loops stop at `i`, where they have split off `cmds`: at the end of the payload, or at the same
failure. -/
def StopAt (i : Nat) (cmds : List Command) (split : Except Net.Error (List Command))
    (run : Except WireError Unit) : Prop :=
  (i = payload.length ∧ split = .ok cmds ∧ run = .ok ()) ∨
    (i < payload.length ∧ ∃ e : WireError, run = .error (e.atOffset i) ∧
      split = .error ((e.atOffset i).toNet (payload.length - i)))

/-- From any offset both loops go on to the same stop. -/
lemma loops_agree (s : σ) (fuel i : Nat) (cmds : List Command) (hfuel : payload.length < i + fuel)
    (hi : i ≤ payload.length) (hcmds : (cmds.map bytes).flatten = payload.take i) :
    ∃ cmds' i' fuel', (cmds'.map bytes).flatten = payload.take i' ∧
      decodeLoop payload fuel i .none cmds = decodeLoop payload (fuel' + 1) i' .none cmds' ∧
      processLoop processOne payload fuel i (processed processOne cmds s) =
        processLoop processOne payload (fuel' + 1) i' (processed processOne cmds' s) ∧
      (processLoop processOne payload fuel i (processed processOne cmds s)).2 =
        processed processOne cmds' s ∧
      StopAt payload i' cmds' (decodeLoop payload fuel i .none cmds)
        (processLoop processOne payload fuel i (processed processOne cmds s)).1 := by
  induction fuel generalizing i cmds with
  | zero => omega
  | succ fuel ih =>
    rcases hi.eq_or_lt with rfl | hlt
    · refine ⟨cmds, payload.length, fuel, hcmds, rfl, rfl, ?_⟩
      simp [decodeLoop, processLoop, StopAt]
    have hlen := wireLen_agrees (payload.drop i)
    rw [length_drop] at hlen
    cases hw : wireLen (payload.drop i) with
    | error e =>
      refine ⟨cmds, i, fuel, hcmds, rfl, rfl, ?_⟩
      have hoffset : ((e.toNet (payload.length - i)).atOffset i) =
          (e.atOffset i).toNet (payload.length - i) := by
        cases e <;> rfl
      simp only [decodeLoop, processLoop, if_pos hlt, hlen, hw, Except.mapError, hoffset]
      exact ⟨trivial, .inr ⟨hlt, e, rfl, rfl⟩⟩
    | ok l =>
      rw [hw] at hlen
      by_cases hlong : payload.length < i + l
      · refine ⟨cmds, i, fuel, hcmds, rfl, rfl, ?_⟩
        simp only [decodeLoop, processLoop, if_pos hlt, hlen, hw, Except.mapError, if_pos hlong]
        exact ⟨trivial, .inr ⟨hlt, .truncated i l, rfl, rfl⟩⟩
      have hpos := wireLen_pos hlen
      let command : Command := ⟨byteAt payload i, (payload.drop i).take l⟩
      have hsplit : decodeLoop payload (fuel + 1) i .none cmds =
          decodeLoop payload fuel (i + l) .none (cmds ++ [command]) := by
        rw [decodeLoop, if_pos hlt, hlen]
        exact if_neg hlong
      have hrun : processLoop processOne payload (fuel + 1) i (processed processOne cmds s) =
          processLoop processOne payload fuel (i + l) (processed processOne (cmds ++ [command]) s) := by
        rw [processLoop, if_pos hlt, hw, processed, processed, foldl_append]
        exact if_neg hlong
      rw [hsplit, hrun]
      refine ih (i + l) (cmds ++ [command]) (by omega) (by omega) ?_
      rw [map_append, flatten_append, hcmds, take_add]
      simp [command]

/-- Every payload is split alike: the same commands end to end up to the same offset, where both loops
are at their end or fail alike. -/
theorem payloads_split_alike (s : σ) : ∃ cmds i fuel,
    (cmds.map Command.bytes).flatten = payload.take i ∧
    decodeCommands payload .none = decodeLoop payload (fuel + 1) i .none cmds ∧
    processAll processOne payload s =
      processLoop processOne payload (fuel + 1) i (processed processOne cmds s) ∧
    (processAll processOne payload s).2 = processed processOne cmds s ∧
    StopAt payload i cmds (decodeCommands payload .none) (processAll processOne payload s).1 :=
  loops_agree processOne payload s _ 0 [] (by omega) (Nat.zero_le _) rfl

end Don.Sim
