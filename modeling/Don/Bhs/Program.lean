import Don.Bhs.Value
import Don.Foundation.Bytes

/-!
# Program — compiled scripts and their persistent state

A program is a list of files; a file is one code array, its constants and its scripts.  The static
variables and the trigger bits of a script are the only state that survives from one run to the next.
-/

namespace Don.Bhs

open Foundation List

structure Script where
  name : String
  arity : Nat
  /-- The type tag of each parameter. -/
  params : List UInt32
  /-- One for each parameter that is a reference. -/
  refs : List UInt8
  /-- Byte offset of the entry point in the code of the file. -/
  entry : UInt32
  returnType : UInt32
  triggerNames : List String
  /-- A static that is not yet initialised is `none`. -/
  statics : List (Option Value)
  triggerBits : List UInt8
  triggerCount : Int32
  deriving DecidableEq

instance : Inhabited Script := ⟨⟨"", 0, [], [], 0, 0, [], [], [], 0⟩⟩

namespace Script

/-- The byte a trigger index selects; a negative index selects none. -/
def triggerByte (i : Int32) : Option Nat :=
  if 0 ≤ i then some (i.toNatClampNeg / 8) else none

def triggerMask (i : Int32) : UInt8 :=
  1 <<< UInt8.ofNat (i.toNatClampNeg % 8)

variable (s : Script)

def isTriggerEnabled (i : Int32) : Bool :=
  if i < 0 ∨ s.triggerCount < i then
    false
  else
    match (triggerByte i).bind (s.triggerBits[·]?) with
    | some b => b &&& triggerMask i ≠ 0
    | none => false

/-- Change the byte of a trigger, if the index is in range. -/
def modifyTrigger (i : Int32) (f : UInt8 → UInt8) : Script :=
  if s.triggerCount < i then
    s
  else
    match triggerByte i with
    | some b => { s with triggerBits := s.triggerBits.modify b f }
    | none => s

@[simp] lemma statics_modifyTrigger (i : Int32) (f : UInt8 → UInt8) :
    (s.modifyTrigger i f).statics = s.statics := by
  unfold modifyTrigger
  split
  · rfl
  · split <;> rfl

def triggerBitClear (i : Int32) : Script :=
  s.modifyTrigger i fun b => b &&& ~~~(triggerMask i)

def triggerBitSet (i : Int32) : Script :=
  s.modifyTrigger i fun b => b ||| triggerMask i

def enableAllTriggers (on : Bool) : Script :=
  { s with triggerBits := s.triggerBits.map fun _ => if on then 0xff else 0x00 }

def findTrigger (name : String) : Option Nat :=
  s.triggerNames.findIdx? fun n => eqIgnoreAsciiCase n name

end Script

structure ScriptFile where
  code : Bytes
  scripts : List Script
  constPool : List Value
  deriving DecidableEq

instance : Inhabited ScriptFile := ⟨⟨[], [], []⟩⟩

structure Program where
  files : List ScriptFile
  /-- For each file, the files its include slots stand for. -/
  linkedFiles : List (List Nat)
  globalTypeNames : List (String × UInt32)
  deriving DecidableEq

namespace Program

def rootTypeNames : List (String × UInt32) :=
  [("int", ScriptTy.int.tag), ("float", ScriptTy.real.tag), ("string", ScriptTy.str.tag),
    ("void", ScriptTy.void.tag), ("bool", 0x000a6192)]

def empty : Program := ⟨[], [], rootTypeNames⟩

def single (f : ScriptFile) : Program := ⟨[f], [[]], rootTypeNames⟩

variable (p : Program)

def resolvedLinks (file : Nat) : Option (List Nat) :=
  p.linkedFiles[file]?

def typeName (tag : UInt32) : Option String :=
  (p.globalTypeNames.find? fun e => e.2 = tag).map (·.1)

def file (i : Nat) : ScriptFile :=
  p.files.getD i default

def script (p : Program) (file script : Nat) : Script :=
  (p.file file).scripts.getD script default

def modifyScript (file script : Nat) (f : Script → Script) : Program :=
  { p with files := p.files.modify file fun x => { x with scripts := x.scripts.modify script f } }

lemma file_modifyScript (file script : Nat) (f : Script → Script) (i : Nat) :
    (p.modifyScript file script f).file i =
      if i = file then { p.file i with scripts := (p.file i).scripts.modify script f }
      else p.file i := by
  simp only [modifyScript, Program.file, getD_eq_getElem?_getD, getElem?_modify,
    eq_comm (a := file)]
  split
  · cases p.files[i]? with
    | some => rfl
    | none =>
      change (default : ScriptFile) = { (default : ScriptFile) with scripts := [].modify script f }
      rw [modify_nil]
      rfl
  · cases p.files[i]? <;> rfl

lemma script_modifyScript (file script : Nat) (f : Script → Script) (i j : Nat) :
    (p.modifyScript file script f).script i j = p.script i j ∨
      i = file ∧ j = script ∧ (p.modifyScript file script f).script i j = f (p.script i j) := by
  simp only [Program.script, file_modifyScript]
  split
  · rename_i hi
    simp only [getD_eq_getElem?_getD, getElem?_modify]
    by_cases hj : script = j
    · cases hs : (p.file i).scripts[j]? with
      | some => exact .inr ⟨hi, hj.symm, by simp [hj]⟩
      | none => exact .inl rfl
    · left
      simp [hj]
  · exact .inl rfl

end Program

end Don.Bhs
