import Don.Bhs.Paths
import Don.Bhs.Vm.Isolation

/-!
# Image — what a run cannot write

The code, the constants and the descriptions of the scripts are the image of a program.  No
instruction writes the image itself.  A constant that is an aggregate is read as a reference to it,
though, and through that reference its elements can be written: it keeps its contents only if no aggregate in
it is written.
-/

namespace Don.Bhs

open Foundation Proc Program Option Heap

variable {σ : Type}

def ScriptFile.image (f : ScriptFile) : ScriptFile :=
  { f with scripts := f.scripts.map Script.image }

def Program.image (p : Program) : Program :=
  { p with files := p.files.map ScriptFile.image }

/-- What is read from a constant along a path. -/
def Vm.constant (vm : Vm σ) (file i : Nat) (path : List Hop) : Option Seen :=
  ((vm.prog.file file).constPool[i]?).bind (vm.heap.look · path)

/-- The image with the contents of its constants. -/
def SameImage (vm vm' : Vm σ) : Prop :=
  vm'.prog.image = vm.prog.image ∧ ∀ file i path, vm'.constant file i path = vm.constant file i path

/-- No aggregate in a constant was written. -/
def Vm.ConstantsUnwritten (vm vm' : Vm σ) : Prop :=
  ∀ file, ∀ v ∈ (vm.prog.file file).constPool, vm.heap.Agree vm'.heap v

/-- Some call, with its arguments as values or in cells, was made on the first machine and left the second. -/
def Entered [StdLib] (E : Engine σ) (vm vm' : Vm σ) : Prop :=
  Called E vm vm' ∨ ∃ (c : Call) (n : Nat),
    (∃ out, (Exec.runScriptIndexMut E c.file c.script c.args).run n vm = .ok out vm') ∨
      ∃ e, (Exec.runScriptIndexMut E c.file c.script c.args).run n vm = .error e vm'

lemma Program.image_modifyScript {f : Script → Script} (hf : ∀ s, (f s).image = s.image)
    (p : Program) (file script : Nat) : (p.modifyScript file script f).image = p.image := by
  unfold image modifyScript
  dsimp only
  rw [map_modify_eq]
  intro x
  simp only [ScriptFile.image, map_modify_eq hf]

lemma Program.constPool_of_image {p p' : Program} (h : p'.image = p.image) (file : Nat) :
    (p'.file file).constPool = (p.file file).constPool := by
  have hpool : ∀ p : Program, (p.file file).constPool = (p.image.file file).constPool := by
    intro p
    simp only [Program.file, image, List.getD_eq_getElem?_getD, List.getElem?_map]
    cases p.files[file]? <;> rfl
  rw [hpool, h, ← hpool]

lemma SameImage.of_image {vm vm' : Vm σ} (h : vm'.prog.image = vm.prog.image)
    (hconst : vm.ConstantsUnwritten vm') : SameImage vm vm' := by
  refine ⟨h, fun file i path => ?_⟩
  unfold Vm.constant
  rw [constPool_of_image h]
  cases hv : (vm.prog.file file).constPool[i]? with
  | none => rfl
  | some v => exact (hconst file v (List.mem_of_getElem? hv)).look path

namespace Exec

lemma answers_image : Answers (σ := σ) (fun x => Keeps (fun vm => vm.prog.image) x)
    (fun x => Keeps (fun vm => vm.prog.image) x) :=
  (compositional_keeps (fun _ _ => rfl) (fun _ _ _ => rfl) (fun _ _ _ => rfl) (fun _ _ _ _ => rfl)
    fun vm file script g => image_modifyScript (f := fun s => { s with statics := g s.statics })
      (fun _ => rfl) vm.prog file script).answers_keeps fun _ _ => rfl

section

variable [StdLib]

lemma keeps_image_loop (E : Engine σ) (left : Nat) :
    Keeps (fun vm => vm.prog.image) (loop E left) := by
  have hstep : Keeps (fun vm => vm.prog.image) (step E) :=
    answers_image.step E (keeps_pushFrame fun _ _ => rfl)
      (answers_image.closeFrame (keeps_modify fun _ => rfl)
        (fun _ => keeps_modify fun _ => rfl) fun _ => keeps_modify fun _ => rfl)
      fun _ hf => keeps_modify fun vm => image_modifyScript hf vm.prog _ _
  have htick : Keeps (fun vm => vm.prog.image) (tick E) := by
    refine hstep.bind fun st => ?_
    cases st with
    | «continue» | abort e =>
      exact Keeps.bind (keeps_modify fun _ => rfl) fun _ => keeps_pure _
  induction left with
  | zero =>
    refine (keeps_gets _).bind fun done => ?_
    split
    · exact keeps_pure _
    · exact keeps_throw _
  | succ left ih =>
    refine (keeps_gets _).bind fun done => ?_
    split
    · exact keeps_pure _
    · refine htick.bind fun e => ?_
      cases e with
      | none => exact ih
      | some e => exact keeps_pure _

lemma keeps_image_runScriptSlots (E : Engine σ) (file script : Nat) (args : List Slot) :
    Keeps (fun vm => vm.prog.image) (runScriptSlots E file script args) := by
  refine (keeps_gets _).bind fun before => ?_
  refine Keeps.bind (keeps_modify fun _ => rfl) fun _ => ?_
  refine (keeps_pushFrame (fun _ _ => rfl) _ _).bind fun _ => (keeps_gets _).bind fun budget => ?_
  refine (keeps_image_loop E _).bind fun error => (keeps_gets _).bind fun outcome => ?_
  exact Keeps.bind (keeps_modify fun _ => rfl) fun _ => keeps_pure _

lemma keeps_image_runScriptIndexMut (E : Engine σ) (file script : Nat) (args : List Value) :
    Keeps (fun vm => vm.prog.image) (runScriptIndexMut E file script args) := by
  refine (keeps_gets _).bind fun found => (keeps_ofOption _ _).bind fun _ => ?_
  refine Keeps.bind (keeps_lift fun _ => rfl) fun cells => ?_
  refine (keeps_image_runScriptSlots E _ _ _).bind fun out => ?_
  exact (keeps_gets _).bind fun _ => keeps_pure _

end

/-- A machine with one script, in the given code, and an array of one element. -/
def poolVm (code : Bytes) (constants : List Value) : Vm Unit :=
  .new (.single
    { code
      scripts := [{ (default : Script) with name := "grow", returnType := ScriptTy.void.tag }]
      constPool := constants }) () ⟨[.int 5], [⟨ScriptTy.int.tag, [0], some (.int 0), true⟩]⟩

/-- Sets the length of the array in constant 0 to constant 1, and ends there. -/
def growCode : Bytes := [0x26, 1, 0, 0, 0x20, 0x26, 0, 0, 0, 0x20, 0x31]

/-- Reads constant 0, and ends there. -/
def readCode : Bytes := [0x26, 0, 0, 0, 0x20]

end Exec

end Don.Bhs
