import Don.Foundation.Replica
import Don.Net.Session.Basic

/-!
# Session.Replication — ready flags as replicated state

A ready flag is replicated state: its owner keeps it in its own roster entry, the other end keeps a
copy, and packets carry it across.  This is the protocol without sessions: what the messages on their
way will make of the copy, and what either end may do about it.
-/

namespace Don.Net

open Foundation InternalPacket Option

namespace Session

/-- What a receiver makes of a message: its copy of the sender's flag, if it knows the sender. -/
def note (copy : Option Bool) (m : Bytes) : Option Bool :=
  match InternalPacket.decode m with
  | .ok (.addPlayer ..) => some (copy.getD false)
  | .ok (.readyFlag ready) => copy.map fun _ => ready
  | _ => copy

/-- What an end with this id and role sends; a roster packet goes only to an end that knows it. -/
def Admits (id : Int32) (role : Role) (copy : Option Bool) (m : Bytes) : Prop :=
  match InternalPacket.decode m with
  | .ok (.addPlayer _ uniqueId isHosting) => uniqueId = id ∧ (isHosting → role = .host)
  | .ok (.playerList ..) => copy.isSome
  | .ok (.readyFlag _) => True
  | .ok .pulse => True
  | _ => False

/-- A flag is on its way. -/
def FlagIn (queue : List Bytes) : Prop :=
  ∃ m ∈ queue, ∃ ready, InternalPacket.decode m = .ok (.readyFlag ready)

instance (queue : List Bytes) : Decidable (FlagIn queue) :=
  inferInstanceAs (Decidable (∃ m ∈ queue, ∃ ready, InternalPacket.decode m = .ok (.readyFlag ready)))

/-- The messages on their way will bring the copy up to the owner's flag; and once the owner has
introduced itself, there will be a copy. -/
def Owes (id : Int32) (role : Role) (copy : Option Bool) (queue : List Bytes) (own : Bool)
    (greeted : Prop) : Prop :=
  ∃ final, Carries note (Admits id role) copy queue final ∧ (∀ ready ∈ final, ready = own) ∧
    (greeted → final.isSome)

lemma decode_readyFlag (ready : Bool) :
    decode (readyFlag ready).encode = .ok (.readyFlag ready) :=
  decode_encode trivial

lemma decode_pulse : decode pulse.encode = .ok .pulse :=
  decode_encode trivial

lemma decode_addPlayer {id : Int32} (hid : id ≠ 0) (name : String) (isHosting : Bool) :
    ∃ wireName, decode (addPlayer name id isHosting).encode =
      .ok (.addPlayer wireName id isHosting) :=
  ⟨_, decode_encode (p := .addPlayer name id isHosting) hid⟩

namespace Owes

variable {id : Int32} {role : Role} {copy : Option Bool} {queue : List Bytes} {own : Bool}
variable {greeted : Prop}

section

variable (h : Owes id role copy queue own greeted)
include h

lemma mono {greeted' : Prop} (hg : greeted' → greeted) :
    Owes id role copy queue own greeted' := by
  rcases h with ⟨final, hcarries, hown, hknown⟩
  exact ⟨final, hcarries, hown, fun h => hknown (hg h)⟩

lemma flag (ready : Bool) :
    Owes id role copy (queue ++ [(readyFlag ready).encode]) ready greeted := by
  rcases h with ⟨final, hcarries, _, hknown⟩
  refine ⟨note final _, hcarries.append (carries_singleton ?_), ?_, ?_⟩
  · simp only [Admits, decode_readyFlag]
  · simp only [note, decode_readyFlag]
    intro r hr
    rcases map_eq_some_iff.1 hr with ⟨_, _, rfl⟩
    rfl
  · intro hg
    simpa only [note, decode_readyFlag, isSome_map] using hknown hg

lemma pulse : Owes id role copy (queue ++ [pulse.encode]) own greeted := by
  rcases h with ⟨final, hcarries, hown, hknown⟩
  refine ⟨note final _, hcarries.append (carries_singleton ?_), ?_, ?_⟩
  · simp only [Admits, decode_pulse]
  · simpa only [note, decode_pulse] using hown
  · simpa only [note, decode_pulse] using hknown

lemma greet (hid : id ≠ 0) (name : String) {isHosting : Bool} (hrole : isHosting → role = .host) :
    Owes id role copy (queue ++ [(addPlayer name id isHosting).encode,
      (readyFlag own).encode]) own True := by
  rcases h with ⟨final, hcarries, _, _⟩
  rcases decode_addPlayer hid name isHosting with ⟨wireName, hadd⟩
  refine ⟨some own, hcarries.append ⟨?_, ?_, ?_⟩, by simp, by simp⟩
  · simp only [Admits, hadd]
    exact ⟨trivial, hrole⟩
  · simp only [Admits, decode_readyFlag]
  · simp only [Carries, note, hadd, decode_readyFlag, map_some]

end

lemma answer (h : Owes id role copy queue own True) (hid : id ≠ 0) (hrole : role = .host)
    (name : String) {roster : Bytes} {n : UInt8} {ids : Vector Int32 8}
    (hroster : decode roster = .ok (.playerList n ids)) :
    Owes id role copy (queue ++ [roster, (addPlayer name id true).encode]) own True := by
  rcases h with ⟨final, hcarries, hown, hknown⟩
  rcases decode_addPlayer hid name true with ⟨wireName, hadd⟩
  rcases isSome_iff_exists.1 (hknown trivial) with ⟨ready, rfl⟩
  refine ⟨some ready, hcarries.append ⟨?_, ?_, ?_⟩, hown, by simp⟩
  · simp only [Admits, hroster, isSome_some]
  · simp only [Admits, hadd, hrole]
    exact ⟨trivial, fun _ => trivial⟩
  · simp only [Carries, note, hadd, hroster, getD_some]

lemma read {m : Bytes} (h : Owes id role copy (m :: queue) own greeted) :
    Admits id role copy m ∧ Owes id role (note copy m) queue own greeted := by
  rcases h with ⟨final, ⟨hadmits, hcarries⟩, hown, hknown⟩
  exact ⟨hadmits, final, hcarries, hown, hknown⟩

/-- Only whether there is a copy matters to the sender. -/
lemma admits_congr {copy' : Option Bool} {m : Bytes} (h : copy.isSome = copy'.isSome)
    (hm : Admits id role copy m) : Admits id role copy' m := by
  unfold Admits at hm ⊢
  revert hm
  cases decode m with
  | error => exact fun hm => hm
  | ok p =>
    cases p with
    | playerList => exact fun hm => h ▸ hm
    | _ => exact fun hm => hm

lemma note_isSome_congr {copy' : Option Bool} (m : Bytes) (h : copy.isSome = copy'.isSome) :
    (note copy m).isSome = (note copy' m).isSome := by
  unfold note
  cases decode m with
  | error => exact h
  | ok p =>
    cases p with
    | readyFlag => simpa using h
    | addPlayer => rfl
    | _ => exact h

/-- Clearing a copy does no harm while a flag is on its way, or when the owner's flag is down. -/
lemma clear (h : Owes id role copy queue own greeted) (hsafe : FlagIn queue ∨ own = false) :
    Owes id role (copy.map fun _ => false) queue own greeted := by
  rcases h with ⟨final, hcarries, hown, hknown⟩
  have hcleared : copy.isSome = (copy.map fun _ => false).isSome := by simp
  rcases hcarries.replace (R := fun r r' => r.isSome = r'.isSome) hcleared
    (fun _ _ _ hr hm => admits_congr hr hm) (fun _ _ m hr => note_isSome_congr m hr)
    (fun _ => rfl) with ⟨final', hcarries', hrel, hsame⟩
  refine ⟨final', hcarries', ?_, fun hg => hrel ▸ hknown hg⟩
  by_cases hflag : FlagIn queue
  · rcases hflag with ⟨m, hm, ready, hd⟩
    have heq : final' = final := by
      refine hsame ⟨m, hm, ?_⟩
      intro r r' hr
      simp only [note, hd]
      cases r <;> cases r' <;> simp_all
    rw [heq]
    exact hown
  · -- without a flag nothing on its way can raise the cleared copy
    have hdown : own = false := hsafe.resolve_left hflag
    rw [hdown]
    refine hcarries'.preserves (P := fun r : Option Bool => ∀ ready ∈ r, ready = false) ?_ ?_
    · intro ready hready
      rcases map_eq_some_iff.1 hready with ⟨_, _, rfl⟩
      rfl
    · intro r m hm hr
      cases hd : decode m with
      | error => simpa only [note, hd] using hr
      | ok p =>
        cases p with
        | readyFlag ready => exact absurd ⟨m, hm, ready, hd⟩ hflag
        | addPlayer =>
          simp only [note, hd]
          intro ready hready
          cases r with
          | none => simpa using hready.symm
          | some b => simpa [hr b rfl] using hready.symm
        | _ => simpa only [note, hd] using hr

/-- With nothing on its way the copy, if there is one, is the owner's flag. -/
lemma settled (h : Owes id role copy [] own greeted) : ∀ ready ∈ copy, ready = own := by
  rcases h with ⟨final, hcarries, hown, _⟩
  cases hcarries
  exact hown

end Owes

end Session

end Don.Net
