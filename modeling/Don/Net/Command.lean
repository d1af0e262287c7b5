import Don.Net.Obfuscate

/-!
# Command — the lockstep command list

The command codec of `crates/don-net/src/lib.rs` with the size table of `opcodes.rs`: how long the
command at the head of a buffer is, how a package payload splits into commands, and the sixteen
checksum words carried by opcode `0x39`.
-/

namespace Don.Net

open Foundation

/-! ## Errors and constants -/

inductive Error where
  | unknownOpcode (op : UInt8)
  | truncated (offset need have_ : Nat)
  | badLength (offset : Nat) (len : Int)
  | residual (consumed len : Nat)
  deriving DecidableEq

/-- The sixteen `check_all` channels in serialisation order. -/
def checksumChannels : List String :=
  ["units", "builds", "walls", "ammo", "deaths", "groups", "guys", "leaders", "cities", "items",
    "goods", "world", "rules", "scenario_data", "script_run_time", "all"]

/-- Capacity of retail `CommandPackage::data`. -/
def maxCommandPackagePayload : Nat := 512

/-- Fixed wire size by opcode; `none` marks the three variable-length commands. -/
def commandSizes : List (Option Nat) :=
  [
    none, some 1, some 5, some 13, some 17, some 13, some 17, some 22,
    some 26, some 10, some 10, some 25, some 1, some 1, some 5, some 9,
    some 13, some 21, some 9, some 9, some 13, some 5, some 17, some 21,
    some 9, some 25, some 17, some 1, some 25, some 1, some 13, some 13,
    some 9, some 9, some 25, some 1, some 1, some 13, some 13, some 9,
    some 9, some 9, some 9, some 17, some 17, some 17, some 13, some 13,
    some 15, some 11, some 9, none, some 5, some 1, some 1, some 1,
    some 5, some 65, some 6, some 5, some 5, some 5, some 1, some 1,
    some 1, some 5, some 5, some 17, none, some 9, some 5, some 7,
    some 10, some 33, some 11, some 53, some 2, some 2, some 521, some 9,
    some 3, some 2]

/-! ## Commands -/

/-- One command on the wire; `bytes` includes the opcode byte. -/
structure Command where
  opcode : UInt8
  bytes : Bytes
  deriving DecidableEq

/-- The `need` guard of `wire_len`. -/
def need (buf : Bytes) (n : Nat) : Except Error Unit :=
  if buf.length < n then .error (.truncated 0 n buf.length) else .ok ()

/-- Byte length of the command at the head of `buf`. -/
def Command.wireLen (buf : Bytes) : Except Error Nat := do
  need buf 1
  let op := byteAt buf 0
  if op = 0x00 then
    need buf 2
    return 3 + 2 * (byteAt buf 1).toNat
  else if op = 0x33 then
    need buf 6
    return 6 + 8 * (u16le buf 4).toNat
  else if op = 0x44 then
    need buf 17
    let n := i32le buf 13
    if 0 ≤ n ∧ n ≤ 512 then
      return 19 + 2 * n.toNatClampNeg
    else
      .error (.badLength 0 n.toInt)
  else
    match (commandSizes[op.toNat]?).join with
    | some n => return n
    | none => .error (.unknownOpcode op)

/-- Errors of `wire_len` are relative to the command; `decode_commands` moves them to `offset`. -/
def Error.atOffset (offset : Nat) : Error → Error
  | .truncated _ n h => .truncated offset n h
  | .badLength _ len => .badLength offset len
  | e => e

/-- The `while` loop of `decode_commands` from offset `i`.  Every command is at least one byte
long, so `payload.length + 1` rounds of fuel reach the loop exit. -/
def decodeLoop (payload : Bytes) :
    Nat → Nat → Obfuscation → List Command → Except Error (List Command)
  | 0, i, _, _ => .error (.residual i payload.length)
  | fuel + 1, i, obf, out =>
    if i < payload.length then
      match Command.wireLen (payload.drop i) with
      | .error e => .error (e.atOffset i)
      | .ok l =>
        if payload.length < i + l then
          .error (.truncated i l (payload.length - i))
        else
          let command : Command := ⟨byteAt payload i, (payload.drop i).take l⟩
          let (pad, obf') := obf.nextPad
          decodeLoop payload fuel (i + (l + pad)) obf' (out ++ [command])
    else if i ≠ payload.length then
      .error (.residual i payload.length)
    else
      .ok out

def decodeCommands (payload : Bytes) (obf : Obfuscation) : Except Error (List Command) :=
  decodeLoop payload (payload.length + 1) 0 obf []

/-- Re-emit a command list: a pad of zeros, drawn from the same generator, follows every command. -/
def encodeCommands : List Command → Obfuscation → Bytes
  | [], _ => []
  | command :: rest, obf =>
    let (pad, obf') := obf.nextPad
    command.bytes ++ List.replicate pad 0 ++ encodeCommands rest obf'

/-! ### Every command moves `decodeLoop` on -/

lemma commandSizes_pos {op n : Nat} (h : (commandSizes[op]?).join = some n) : 0 < n := by
  have hall : ∀ o ∈ commandSizes, ∀ m, o = some m → 0 < m := by decide
  cases hget : commandSizes[op]? with
  | none => simp [hget] at h
  | some o =>
    have hmem : o ∈ commandSizes := List.mem_of_getElem? hget
    have ho : o = some n := by simpa [hget] using h
    exact hall o hmem n ho

lemma Command.wireLen_pos {buf : Bytes} {l : Nat} (h : Command.wireLen buf = .ok l) : 0 < l := by
  simp only [Command.wireLen, need, bind, Except.bind, pure, Except.pure] at h
  split at h
  · cases h
  repeat' split at h
  all_goals try cases h
  all_goals try omega
  rename_i hsize
  exact commandSizes_pos hsize

/-! ## Checksums -/

/-- Decoded `CheckSumsCommand`: one word per channel. -/
structure CheckSums where
  words : Vector UInt32 16
  deriving DecidableEq

namespace CheckSums

def wireLen : Nat := 65

/-- The sixteen little-endian words of an opcode-`0x39` command of the exact length. -/
def decode (cmd : Command) : Option CheckSums :=
  if cmd.opcode ≠ 0x39 ∨ cmd.bytes.length ≠ wireLen then
    none
  else
    some ⟨Vector.ofFn fun i => u32le cmd.bytes (1 + 4 * i.val)⟩

end CheckSums

end Don.Net
