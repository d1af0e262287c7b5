import Don.Crossplay.Invariant

/-!
# History — every sequence of calls on a new directory

The ids that were handed out are the numbers from one on, written in base 36, in the order in which the
lobbies were made.
-/

namespace Don.Crossplay.Directory

open List

/-! ## Counting -/

variable {d : Directory}

lemma nextLobby_cleanupPeer (d : Directory) (u : String) :
    (d.cleanupPeer u).nextLobby = d.nextLobby := by
  unfold cleanupPeer detachPeer
  dsimp only
  split
  · exact (leave_step _ _ _).2.2
  · rfl

/-! ## Histories -/

inductive Event where
  | call (call : DirectoryCall) (outcome : Outcome)
  | cleanup (userId : String)

/-- The directories that a new one can become, with what has happened so far. -/
inductive Runs : List Event → Directory → Prop
  | new : Runs [] Directory.new
  | call {events : List Event} {d d' : Directory} {c : DirectoryCall} {o : Outcome}
      (h : Runs events d) (hcall : d.execute c = some (o, d')) : Runs (events ++ [.call c o]) d'
  | cleanup {events : List Event} {d : Directory} (h : Runs events d) (u : String) :
      Runs (events ++ [.cleanup u]) (d.cleanupPeer u)

def Event.created : Event → Option String
  | .call c o => createdBy c.operation o
  | .cleanup _ => none

/-- The ids of the lobbies that were made, in order. -/
def createdIds (events : List Event) : List String :=
  events.filterMap Event.created

lemma Runs.sound {events : List Event} (h : Runs events d) : d.Sound := by
  induction h with
  | new => exact sound_new
  | call _ hcall ih => exact ih.step (execute_step hcall).1.step
  | cleanup _ u ih => exact ih.step (cleanupPeer_step _ u)

lemma Runs.createdIds_eq {events : List Event} (h : Runs events d) :
    createdIds events = (List.range d.nextLobby).map fun n => base36 (n + 1) := by
  induction h with
  | new => rfl
  | @call events d d' c o _ hcall ih =>
    have happend : createdIds (events ++ [.call c o])
        = createdIds events ++ (createdBy c.operation o).toList := by
      simp only [createdIds, filterMap_append, filterMap_cons, filterMap_nil,
        Event.created]
      cases createdBy c.operation o <;> rfl
    rw [happend, ih]
    rcases (execute_step hcall).2 with ⟨hnone, hnext⟩ | ⟨hsome, hnext⟩
    · rw [hnone, hnext]
      simp
    · rw [hsome, hnext, range_succ]
      simp
  | cleanup _ u ih =>
    rw [nextLobby_cleanupPeer, ← ih]
    simp [createdIds, Event.created]

/-- In every history, every lobby is inhabited by different users, among them its owner, and not
overfull; no user is in two lobbies; every lobby has an id that was handed out, and no id was handed out
twice; and a call that fails changes no lobby. -/
theorem lobbies_consistent (events : List Event) (d : Directory) (h : Runs events d) :
    (∀ (id : String) (l : Lobby), d.lobbies[id]? = some l →
      l.id = id ∧ 1 ≤ l.members.length ∧ l.memberIds.Nodup ∧ l.ownerUserId ∈ l.memberIds ∧
        (l.members.length : Int) ≤ l.maxMembers.toInt) ∧
    (∀ (id id' : String) (l l' : Lobby) (u : String), d.lobbies[id]? = some l →
      d.lobbies[id']? = some l' → l.isMember u = true → l'.isMember u = true → id = id') ∧
    ((createdIds events).Nodup ∧ ∀ id ∈ d.lobbies, id ∈ createdIds events) ∧
    ∀ (c : DirectoryCall) (o : Outcome) (d' : Directory), d.execute c = some (o, d') →
      o.isError = true → d'.lobbies = d.lobbies := by
  have hsound := h.sound
  refine ⟨?_, ?_, ⟨?_, ?_⟩, fun c o d' hcall => (execute_step hcall).1.failed⟩
  · intro id l hl
    have hok := hsound.ok id l hl
    exact ⟨hsound.named id l hl, length_pos_iff.2 hok.inhabited, hok.distinct, hok.owned, hok.room⟩
  · intro id id' l l' u hl hl' hu hu'
    exact hsound.apart id id' l l' u hl hl' (Lobby.isMember_iff.1 hu) (Lobby.isMember_iff.1 hu')
  · rw [h.createdIds_eq]
    refine List.Nodup.map_on ?_ nodup_range
    intro a _ b _ heq
    exact Nat.succ_injective (base36_inj (Nat.succ_pos a) (Nat.succ_pos b) heq)
  · intro id hid
    obtain ⟨n, hpos, hle, rfl⟩ := hsound.counted id hid
    rw [h.createdIds_eq, mem_map]
    exact ⟨n - 1, mem_range.2 (by omega), by rw [Nat.sub_add_cancel hpos]⟩

/-- A host makes a lobby for two, and a guest enters it. -/
def hostCreates : DirectoryCall := ⟨.new "host" "Host", .createLobby 2 0 ∅⟩

def guestJoins : DirectoryCall := ⟨.new "guest" "Guest", .joinLobby "1"⟩

def afterCalls : Directory → List DirectoryCall → Option (List Event × Directory)
  | d, [] => some ([], d)
  | d, c :: calls =>
    match d.execute c with
    | none => none
    | some (o, d) => (afterCalls d calls).map fun r => (.call c o :: r.1, r.2)

lemma Runs.afterCalls {calls : List DirectoryCall} : ∀ {events : List Event} {d : Directory}
    {r : List Event × Directory}, Runs events d → d.afterCalls calls = some r →
      Runs (events ++ r.1) r.2 := by
  induction calls with
  | nil =>
    intro events d r h hr
    cases hr
    simpa using h
  | cons c calls ih =>
    intro events d r h hr
    unfold Directory.afterCalls at hr
    cases hcall : d.execute c with
    | none => simp [hcall] at hr
    | some p =>
      obtain ⟨o, d'⟩ := p
      simp only [hcall, Option.map_eq_some_iff] at hr
      obtain ⟨r', hr', rfl⟩ := hr
      simpa using ih (h.call hcall) hr'

lemma guestJoins_isSome : (new.afterCalls [hostCreates, guestJoins]).isSome = true := by
  decide

theorem two_players_consistent : ∃ events d, Runs events d ∧ (createdIds events).Nodup ∧
      (d.lobbies["1"]?.map Lobby.memberIds) = some ["host", "guest"] := by
  have hruns := Runs.new.afterCalls (Option.some_get guestJoins_isSome).symm
  refine ⟨_, _, hruns, (lobbies_consistent _ _ hruns).2.2.1.1, by decide⟩

end Don.Crossplay.Directory
