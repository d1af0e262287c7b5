import Don.Foundation.OrderedMap
import Don.Net.Session.Roster

/-!
# Session.Turns — the turn store

Only another `CommandPackage` for the same stamp and slot can change a stored package, and
`handle_game` lets it, because it inserts unconditionally.  `package_write_once_iff` says what a
session keeps over a run and what `take_turn` then hands out.
-/

namespace Don.Net

open Foundation List NetMsg Outcome
open Std (ExtTreeMap)

namespace Session

variable {τ : Type} [Transport τ]

/-! ## The store -/

omit [Transport τ] in
lemma packageForTurn_filePackage (s : Session τ) (p : TurnPackage) (stamp : UInt32) (play : Int8) :
    (s.filePackage p).packageForTurn stamp play =
      if p.stamp = stamp ∧ p.play = play then some p else s.packageForTurn stamp play := by
  unfold packageForTurn filePackage
  rw [ExtTreeMap.getElem?_insert]
  by_cases hstamp : p.stamp = stamp
  · subst hstamp
    rw [if_pos Std.ReflCmp.compare_self, Option.bind_some, ExtTreeMap.getElem?_insert]
    by_cases hplay : p.play = play
    · simp [hplay]
    · have hcmp : compare p.play play ≠ .eq := fun h => hplay (Std.LawfulEqOrd.eq_of_compare h)
      rw [if_neg hcmp]
      cases s.turns[p.stamp]? <;> simp [hplay]
  · have hcmp : compare p.stamp stamp ≠ .eq := fun h => hstamp (Std.LawfulEqOrd.eq_of_compare h)
    rw [if_neg hcmp]
    simp [hstamp]

variable {s : Session τ}

omit [Transport τ] in
lemma packageForTurn_erase {stamp stamp' : UInt32} (h : stamp' ≠ stamp) (play : Int8) :
    packageForTurn { s with turns := s.turns.erase stamp' } stamp play =
      s.packageForTurn stamp play := by
  have hcmp : compare stamp' stamp ≠ .eq := fun hc => h (Std.LawfulEqOrd.eq_of_compare hc)
  simp [packageForTurn, ExtTreeMap.getElem?_erase, hcmp]

lemma turns_effect {i : Input τ} {s' : Session τ} (he : Effect i s s') : s'.turns = s.turns ∨
      (∃ stamp play payload, (i = .sendCommandPackage stamp play payload ∨
          ∃ d ty, i = .receive d ∧
            decode d.bytes = .ok ⟨ty, .commandPackage stamp play payload⟩) ∧
        s'.turns = (s.filePackage ⟨stamp, play, payload⟩).turns) ∨
      (∃ stamp, i = .takeTurn stamp ∧ s'.turns = s.turns.erase stamp) ∨
      (∃ role, i = .resetForReuse role ∧ s'.turns = ∅) := by
  cases he with
  | enroll d =>
    exact Or.inl (RosterOnly.enroll s d.sender _).turns
  | settle => exact Or.inl (RosterOnly.settle s _).turns
  | reap => exact Or.inl (RosterOnly.reapTimeouts s).turns
  | migrate =>
    refine Or.inl ?_
    simp only [handleMigrateHost, state_ok]
    split <;> rfl
  | fileLocal stamp play payload hrec =>
    exact Or.inr (Or.inl ⟨stamp, play, payload, Or.inl hrec, rfl⟩)
  | fileRemote d ty stamp play payload hrec hd =>
    exact Or.inr (Or.inl ⟨stamp, play, payload, Or.inr ⟨d, ty, hrec, hd⟩, rfl⟩)
  | take stamp hrec => exact Or.inr (Or.inr (Or.inl ⟨stamp, hrec, rfl⟩))
  | reset role hrec => exact Or.inr (Or.inr (Or.inr ⟨role, hrec, rfl⟩))
  | _ => exact Or.inl rfl

omit [Transport τ] in
lemma packageForTurn_congr {s' : Session τ} (h : s'.turns = s.turns) (stamp : UInt32)
    (play : Int8) : s'.packageForTurn stamp play = s.packageForTurn stamp play := by
  simp [packageForTurn, h]

/-- Every package is filed under its own stamp and slot. -/
def Filed (s : Session τ) : Prop :=
  ∀ stamp play package, s.packageForTurn stamp play = some package →
    package.stamp = stamp ∧ package.play = play

lemma Filed.step (h : Filed s) (i : Input τ) : Filed (s.step i) := by
  refine effects_preserve (P := Filed) ?_ (step_effects i s) h
  intro s s' hs he stamp play package hget
  rcases turns_effect he with hsame | ⟨st, pl, payload, _, hfile⟩ | ⟨st, _, herase⟩ | ⟨role, _, hempty⟩
  · exact hs stamp play package (packageForTurn_congr hsame stamp play ▸ hget)
  · rw [packageForTurn_congr hfile, packageForTurn_filePackage] at hget
    split at hget
    · rename_i hkey
      cases hget
      exact hkey
    · exact hs stamp play package hget
  · rw [packageForTurn_congr (s := { s with turns := s.turns.erase st }) herase] at hget
    by_cases heq : st = stamp
    · subst heq
      simp [packageForTurn] at hget
    · rw [packageForTurn_erase heq] at hget
      exact hs stamp play package hget
  · simp [packageForTurn, hempty] at hget

lemma InUse.filed (h : InUse s) : Filed s := by
  rcases h with ⟨t, role, name, inputs, rfl⟩
  refine run_invariant (I := Filed) (fun s i hs => hs.step i) inputs _ ?_
  intro stamp play package hget
  simp [packageForTurn, Session.new] at hget

/-! ## One package, over a run -/

/-- A received `CommandPackage` for this stamp and slot that carries other bytes. -/
def Conflicts (stamp : UInt32) (play : Int8) (payload : Bytes) (d : Datagram) : Prop :=
  ∃ ty payload', NetMsg.decode d.bytes = .ok ⟨ty, .commandPackage stamp play payload'⟩ ∧
    payload' ≠ payload

/-- The local calls by which the owner gives a package up or replaces it. -/
def Input.Releases (stamp : UInt32) (play : Int8) : Input τ → Prop
  | .takeTurn stamp' => stamp' = stamp
  | .resetForReuse _ => True
  | .sendCommandPackage stamp' play' _ => stamp' = stamp ∧ play' = play
  | _ => False

section Package

variable {s : Session τ} {i : Input τ} {stamp : UInt32} {play : Int8} {payload : Bytes}

lemma step_commandPackage {d : Datagram} {ty : MsgType} {stamp : UInt32} {play : Int8}
    {payload : Bytes}
    (hd : decode d.bytes = .ok ⟨ty, .commandPackage stamp play payload⟩) (s : Session τ) :
    s.step (.receive d) = (s.filePackage ⟨stamp, play, payload⟩).push
      (.game d.sender ⟨ty.id, ty.response, d.bytes⟩) := by
  simp only [step, handle_game hd, handleGame, hd]
  rfl

/-- `send_command_package` files the package exactly when it succeeds. -/
lemma sendCommandPackage_spec (s : Session τ) (stamp : UInt32) (play : Int8) (payload : Bytes) :
    (s.sendCommandPackage stamp play payload).state.seats = s.seats ∧
      match (s.sendCommandPackage stamp play payload).result with
      | .ok _ => (s.sendCommandPackage stamp play payload).state.turns =
          (s.filePackage ⟨stamp, play, payload⟩).turns
      | .error _ => (s.sendCommandPackage stamp play payload).state.turns = s.turns := by
  unfold sendCommandPackage
  split
  · exact ⟨rfl, rfl⟩
  cases hsent : (s.sendAll (.commandPackage stamp play payload)).result with
  | error =>
    rw [andThen_of_error hsent]
    exact ⟨rfl, rfl⟩
  | ok =>
    rw [andThen_of_ok hsent]
    exact ⟨rfl, rfl⟩

/-- A step keeps a stored package exactly when it is not a conflicting datagram. -/
lemma package_step_iff (hheld : s.packageForTurn stamp play = some ⟨stamp, play, payload⟩)
    (hkeep : ¬ i.Releases stamp play) :
    (s.step i).packageForTurn stamp play = some ⟨stamp, play, payload⟩ ↔
      ∀ d, i = .receive d → ¬ Conflicts stamp play payload d := by
  constructor
  · rintro hafter d rfl ⟨ty, payload', hd, hne⟩
    have hnew : (s.step (.receive d)).packageForTurn stamp play = some ⟨stamp, play, payload'⟩ := by
      rw [step_commandPackage hd]
      have hfile := packageForTurn_filePackage s ⟨stamp, play, payload'⟩ stamp play
      rw [if_pos ⟨rfl, rfl⟩] at hfile
      exact hfile
    rw [hnew] at hafter
    cases hafter
    exact hne rfl
  · intro hquiet
    refine effects_preserve
      (P := fun s => s.packageForTurn stamp play = some ⟨stamp, play, payload⟩) ?_
      (step_effects i s) hheld
    intro s s' hs he
    rcases turns_effect he with hsame | ⟨st, pl, payload', hsource, hfile⟩ | ⟨st, hrec, herase⟩ |
      ⟨role, hrec, hempty⟩
    · rw [packageForTurn_congr hsame]
      exact hs
    · rw [packageForTurn_congr hfile, packageForTurn_filePackage]
      split
      · rename_i hkey
        obtain ⟨rfl, rfl⟩ : st = stamp ∧ pl = play := hkey
        rcases hsource with rfl | ⟨d, ty, rfl, hd⟩
        · exact absurd ⟨rfl, rfl⟩ hkeep
        · have hbytes : payload' = payload := by
            by_contra hne
            exact hquiet d rfl ⟨ty, payload', hd, hne⟩
          rw [hbytes]
      · exact hs
    · subst hrec
      rw [packageForTurn_congr (s := { s with turns := s.turns.erase st }) herase,
        packageForTurn_erase hkeep]
      exact hs
    · subst hrec
      exact absurd trivial hkeep

/-- A run keeps a stored package throughout exactly when no conflicting datagram arrives. -/
lemma package_run_iff (hheld : s.packageForTurn stamp play = some ⟨stamp, play, payload⟩)
    (inputs : List (Input τ)) (hkeep : ∀ i ∈ inputs, ¬ i.Releases stamp play) :
    (∀ pre, pre <+: inputs →
      (run step s pre).packageForTurn stamp play = some ⟨stamp, play, payload⟩) ↔
      ∀ d, .receive d ∈ inputs → ¬ Conflicts stamp play payload d := by
  have hruns : Throughout step
      (fun s => s.packageForTurn stamp play = some ⟨stamp, play, payload⟩) s inputs ↔
      Admissible step (fun _ i => ∀ d, i = .receive d → ¬ Conflicts stamp play payload d) s inputs :=
    throughout_iff_admissible (I := fun _ => True) (G := fun i => ¬ i.Releases stamp play)
      (P := fun s : Session τ => s.packageForTurn stamp play = some ⟨stamp, play, payload⟩)
      (fun _ _ _ _ _ => trivial) (fun s i hi _ hs => package_step_iff hs hi) inputs s hkeep
      trivial hheld
  rw [throughout_iff_prefixes, admissible_iff_forall_mem] at hruns
  refine hruns.trans ⟨?_, ?_⟩
  · intro h d hd
    exact h _ hd d rfl
  · rintro h i hi d rfl
    exact h d hi

omit [Transport τ] in
/-- What `take_turn` hands out for the slot of a stored package. -/
lemma takeTurn_slot (hfiled : Filed s)
    (hheld : s.packageForTurn stamp play = some ⟨stamp, play, payload⟩) :
    (s.takeTurn stamp).2.filter (·.play = play) = [⟨stamp, play, payload⟩] := by
  cases hmap : s.turns[stamp]? with
  | none => simp [packageForTurn, hmap] at hheld
  | some packages =>
    have hget : packages[play]? = some ⟨stamp, play, payload⟩ := by
      simpa [packageForTurn, hmap] using hheld
    have hslots : ∀ e ∈ packages.toList, e.2.play = e.1 := by
      intro e he
      have hentry : s.packageForTurn stamp e.1 = some e.2 := by
        simpa [packageForTurn, hmap] using ExtTreeMap.mem_toList_iff_getElem?_eq_some.1 he
      exact (hfiled stamp e.1 e.2 hentry).2
    have hfilter : packages.toList.filter (fun e => e.2.play = play)
        = packages.toList.filter (fun e => e.1 = play) := by
      refine filter_congr ?_
      intro e he
      rw [hslots e he]
    calc
      (s.takeTurn stamp).2.filter (·.play = play)
          = (packages.toList.filter (fun e => e.2.play = play)).map Prod.snd := by
            simp only [takeTurn, hmap, filter_map]
            rfl
      _ = [⟨stamp, play, payload⟩] := by
            rw [hfilter, filter_toList_key hget]
            rfl

end Package

/-- Write-once, for a session in use that holds `package`: until its owner releases it, it stays
exactly as long as no conflicting datagram arrives; and two sessions that hold the same package and
hear no conflicting one hand out that package, and no other, for the slot. -/
theorem package_write_once_iff {s s' : Session τ} (hs : InUse s) (hs' : InUse s') {stamp : UInt32}
    {play : Int8} {package : TurnPackage} (hheld : s.packageForTurn stamp play = some package)
    (hheld' : s'.packageForTurn stamp play = some package) (inputs inputs' : List (Input τ))
    (hkeep : ∀ i ∈ inputs, ¬ i.Releases stamp play)
    (hkeep' : ∀ i ∈ inputs', ¬ i.Releases stamp play) :
    ((∀ pre, pre <+: inputs → (run step s pre).packageForTurn stamp play = some package) ↔
      ∀ d, .receive d ∈ inputs → ¬ Conflicts stamp play package.payload d) ∧
    ((∀ d, .receive d ∈ inputs ++ inputs' → ¬ Conflicts stamp play package.payload d) →
      ((run step s inputs).takeTurn stamp).2.filter (·.play = play) = [package] ∧
        ((run step s' inputs').takeTurn stamp).2.filter (·.play = play) = [package]) := by
  rcases package with ⟨st, pl, payload⟩
  obtain ⟨rfl, rfl⟩ : st = stamp ∧ pl = play := hs.filed stamp play _ hheld
  refine ⟨package_run_iff hheld inputs hkeep, ?_⟩
  intro hquiet
  have hfirst := (package_run_iff hheld inputs hkeep).2
    (fun d hd => hquiet d (mem_append_left _ hd)) inputs (prefix_refl _)
  have hsecond := (package_run_iff hheld' inputs' hkeep').2
    (fun d hd => hquiet d (mem_append_right _ hd)) inputs' (prefix_refl _)
  exact ⟨takeTurn_slot (hs.run inputs).filed hfirst, takeTurn_slot (hs'.run inputs').filed hsecond⟩

/-- A session that has queued one byte for its own slot at stamp 5. -/
def queuedOne : Session LoopTransport :=
  run step (Session.new (LoopTransport.new 1) .host "a") [.sendCommandPackage 5 0 [1]]

lemma queuedOne_inUse : InUse queuedOne :=
  ⟨_, _, _, _, rfl⟩

/-- The same package echoed back leaves it alone. -/
theorem package_write_once_echo :
    let echo : Datagram := ⟨2, (NetMsg.commandPackage 5 0 [1]).encode⟩
    ((run step queuedOne [.receive echo]).takeTurn 5).2.filter (·.play = 0) = [⟨5, 0, [1]⟩] ∧
      ((run step queuedOne []).takeTurn 5).2.filter (·.play = 0) = [⟨5, 0, [1]⟩] := by
  intro echo
  have hheld : queuedOne.packageForTurn 5 0 = some ⟨5, 0, [1]⟩ := by decide
  have hecho : decode echo.bytes = .ok ⟨⟨7, false⟩, .commandPackage 5 0 [1]⟩ := by
    decide
  refine (package_write_once_iff queuedOne_inUse queuedOne_inUse hheld hheld [.receive echo] []
    ?_ (by simp)).2 ?_
  · intro i hi
    rw [mem_singleton.1 hi]
    exact not_false
  · rintro d hd ⟨ty, payload', hconflict, hne⟩
    obtain rfl : d = echo := by simpa using hd
    rw [hecho] at hconflict
    cases hconflict
    exact hne rfl

/-- A remote package for the local slot replaces the one queued locally. -/
theorem remote_replaces_queued : queuedOne.packageForTurn 5 0 = some ⟨5, 0, [1]⟩ ∧
      (run step queuedOne
        [.receive ⟨2, (NetMsg.commandPackage 5 0 [2]).encode⟩]).packageForTurn 5 0
        = some ⟨5, 0, [2]⟩ := by
  decide

end Session

end Don.Net
