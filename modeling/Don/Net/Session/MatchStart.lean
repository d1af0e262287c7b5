import Don.Net.Session.Roster

/-!
# Session.MatchStart — one match start per attempt

Two code paths write `announced_match_start`: the host's own `start_match` and the extension handler.
Between two resets they start at most one match, and report exactly the one they start.  Events leave
the session through `drain_events`, so the reports of a run are what was drained plus what is queued.
-/

namespace Don.Net

open Foundation List Outcome InternalPacket DonExtension

def Event.start? : Event → Option AnnouncedMatchStart
  | .matchStarted start => some start
  | _ => none

def starts (events : List Event) : List AnnouncedMatchStart :=
  events.filterMap Event.start?

lemma starts_append (es fs : List Event) : starts (es ++ fs) = starts es ++ starts fs :=
  filterMap_append

lemma starts_plain {es : List Event} (h : ∀ e ∈ es, ∀ start, e ≠ .matchStarted start) :
    starts es = [] := by
  refine filterMap_eq_nil_iff.2 ?_
  intro e he
  cases e with
  | matchStarted start => exact absurd rfl (h _ he start)
  | _ => rfl

namespace Session

variable {τ : Type} [Transport τ]

structure Recorded (τ : Type) where
  session : Session τ
  drained : List Event

def Recorded.reported (r : Recorded τ) : List Event :=
  r.drained ++ r.session.events

def Recorded.step (r : Recorded τ) (i : Input τ) : Recorded τ :=
  { session := r.session.step i
    drained := match i with
      | .drainEvents => r.drained ++ r.session.drainEvents.2
      | _ => r.drained }

def Input.IsReset : Input τ → Prop
  | .resetForReuse _ => True
  | _ => False

def Input.IsStart (i : Input τ) : Prop :=
  (∃ epoch seed, i = .startMatch epoch seed) ∨
    ∃ d epoch seed, i = .receive d ∧ DonExtension.decode d.bytes = .ok (.matchStart epoch seed)

/-- The reported starts are the accepted one, or none. -/
def Reported (drained : List Event) (s : Session τ) : Prop :=
  starts (drained ++ s.events) = s.announcedMatchStart.toList

section Effects

variable {i : Input τ} {s s' : Session τ} {drained : List Event}

omit [Transport τ] in
lemma Reported.append (h : Reported drained s)
    (hstart : s'.announcedMatchStart = s.announcedMatchStart)
    (hevents : ∃ es, s'.events = s.events ++ es ∧ ∀ e ∈ es, ∀ start, e ≠ .matchStarted start) :
    Reported drained s' := by
  rcases hevents with ⟨es, hes, hplain⟩
  unfold Reported at h ⊢
  rw [hes, hstart, ← append_assoc, starts_append, starts_plain hplain, append_nil, h]

omit [Transport τ] in
lemma Reported.recordStart (h : Reported drained s) (hnone : s.announcedMatchStart = none)
    (start : AnnouncedMatchStart) : Reported drained (s.recordStart start) := by
  unfold Reported at h ⊢
  rw [hnone] at h
  have hevents : (s.recordStart start).events = s.events ++ [.matchStarted start] := rfl
  rw [hevents, ← append_assoc, starts_append, h]
  rfl

lemma matchStart_handleMigrateHost (s : Session τ) (newHost : Int32) :
    (s.handleMigrateHost newHost).state.announcedMatchStart = s.announcedMatchStart ∧
      (s.handleMigrateHost newHost).state.events = s.events := by
  simp only [handleMigrateHost, state_ok]
  split <;> exact ⟨rfl, rfl⟩

lemma Reported.effect (h : Reported drained s) (hdrain : i ≠ .drainEvents) (hreset : ¬ i.IsReset)
    (he : Effect i s s') : Reported drained s' := by
  cases he with
  | note event hplain =>
    refine h.append rfl ⟨[event], rfl, ?_⟩
    intro e he
    rw [mem_singleton.1 he]
    exact hplain
  | join d name isHosting =>
    have honly := (RosterOnly.refl s).join d.sender name isHosting false s.players.length
    exact h.append honly.matchStart honly.events
  | enroll d n ids =>
    have honly := RosterOnly.enroll s d.sender (active n ids)
    exact h.append honly.matchStart honly.events
  | settle d n ids =>
    have honly := RosterOnly.settle s (active n ids)
    exact h.append honly.matchStart honly.events
  | reap =>
    have honly := RosterOnly.reapTimeouts s
    exact h.append honly.matchStart honly.events
  | migrate d newHost =>
    rcases matchStart_handleMigrateHost s newHost with ⟨hstart, hevents⟩
    exact h.append hstart ⟨[], by simp [hevents], by simp⟩
  | startLocal start hrec hrole hepoch hready hnone
  | startRemote d start hrec hd hhost hepoch hready hnone => exact h.recordStart hnone start
  | drain hrec => exact absurd hrec hdrain
  | reset role hrec => exact absurd (by rw [hrec]; trivial) hreset
  | silent | touch | leave | fileLocal | fileRemote | gameKey | take => exact h

/-- The only effects that write `announced_match_start`: a reset clears it, and a start fills it when
it is empty. -/
lemma matchStart_effect (he : Effect i s s') : s'.announcedMatchStart = s.announcedMatchStart ∨
      (i.IsReset ∧ s'.announcedMatchStart = none) ∨
      (i.IsStart ∧ s.announcedMatchStart = none) := by
  cases he with
  | enroll d =>
    exact Or.inl (RosterOnly.enroll s d.sender _).matchStart
  | settle => exact Or.inl (RosterOnly.settle s _).matchStart
  | reap => exact Or.inl (RosterOnly.reapTimeouts s).matchStart
  | migrate d newHost => exact Or.inl (matchStart_handleMigrateHost s newHost).1
  | startLocal start hrec hrole hepoch hready hnone =>
    exact Or.inr (Or.inr ⟨Or.inl ⟨_, _, hrec⟩, hnone⟩)
  | startRemote d start hrec hd hhost hepoch hready hnone =>
    exact Or.inr (Or.inr ⟨Or.inr ⟨d, _, _, hrec, hd⟩, hnone⟩)
  | reset role hrec =>
    rw [hrec]
    exact Or.inr (Or.inl ⟨trivial, rfl⟩)
  | _ => exact Or.inl rfl

variable {start : AnnouncedMatchStart}

lemma matchStart_step_some (h : s.announcedMatchStart = some start) (hreset : ¬ i.IsReset) :
    (s.step i).announcedMatchStart = some start := by
  refine effects_preserve (P := fun s => s.announcedMatchStart = some start) ?_ (step_effects i s) h
  intro s s' hs he
  rcases matchStart_effect he with hsame | ⟨hr, _⟩ | ⟨_, hnone⟩
  · exact hsame.trans hs
  · exact absurd hr hreset
  · rw [hs] at hnone
    cases hnone

lemma matchStart_step_none (h : s.announcedMatchStart = none) (hstart : ¬ i.IsStart) :
    (s.step i).announcedMatchStart = none := by
  refine effects_preserve (P := fun s => s.announcedMatchStart = none) ?_ (step_effects i s) h
  intro s s' hs he
  rcases matchStart_effect he with hsame | ⟨_, hnone⟩ | ⟨hs', _⟩
  · exact hsame.trans hs
  · exact hnone
  · exact absurd hs' hstart

variable {epoch seed : UInt32}

section

variable (h : s.announcedMatchStart = none)
include h

lemma startMatch_accepts
    (hsome : (s.startMatch epoch seed).state.announcedMatchStart = some start) :
    s.allReady ∧ start.epoch ≠ 0 := by
  unfold startMatch at hsome
  split at hsome
  · simp [h] at hsome
  split at hsome
  · simp [h] at hsome
  rename_i hepoch
  split at hsome
  · simp [h] at hsome
  rename_i hready
  refine ⟨by simpa using hready, ?_⟩
  rw [h] at hsome
  simp only at hsome
  cases hsent : (s.transmit .all (matchStart epoch seed).encode).result with
  | error =>
    simp only [hsent, state_error] at hsome
    rw [show (s.transmit .all _).state.announcedMatchStart = none from h] at hsome
    cases hsome
  | ok =>
    simp only [hsent, state_ok, recordStart, push, Option.some.injEq] at hsome
    rw [← hsome]
    exact hepoch

omit [Transport τ] in
lemma handleMatchStart_accepts {sender : Int32}
    (hsome : (s.handleMatchStart sender epoch seed).state.announcedMatchStart = some start) :
    s.allReady ∧ start.epoch ≠ 0 := by
  unfold handleMatchStart at hsome
  split at hsome
  · simp [refuse, push, h] at hsome
  split at hsome
  · simp [refuse, push, h] at hsome
  rename_i hready
  split at hsome
  · simp [refuse, push, h] at hsome
  rename_i hepoch
  refine ⟨by simpa using hready, ?_⟩
  simp only [h, state_ok, recordStart, push, Option.some.injEq] at hsome
  rw [← hsome]
  exact hepoch

lemma step_accepts
    (hsome : (s.step i).announcedMatchStart = some start) : s.allReady ∧ start.epoch ≠ 0 := by
  by_cases hstart : i.IsStart
  · rcases hstart with ⟨epoch, seed, rfl⟩ | ⟨d, epoch, seed, rfl, hd⟩
    · exact startMatch_accepts h hsome
    · simp only [step, handle_extension hd, handleExtension] at hsome
      exact handleMatchStart_accepts h hsome
  · rw [matchStart_step_none h hstart] at hsome
    cases hsome

end

/-- A refused or failed `start_match` changes neither the start nor the events. -/
lemma startMatch_error {e : MatchStartError} (h : (s.startMatch epoch seed).result = .error e) :
    (s.startMatch epoch seed).state.announcedMatchStart = s.announcedMatchStart ∧
      (s.startMatch epoch seed).state.events = s.events := by
  unfold startMatch at h ⊢
  split
  · exact ⟨rfl, rfl⟩
  split
  · exact ⟨rfl, rfl⟩
  split
  · exact ⟨rfl, rfl⟩
  cases hnone : s.announcedMatchStart with
  | some =>
    simp only
    split
    all_goals exact ⟨hnone, rfl⟩
  | none =>
    simp only
    cases hsent : (s.transmit .all (matchStart epoch seed).encode).result with
    | error => exact ⟨hnone, rfl⟩
    | ok => simp_all

end Effects

/-! ## The transaction over runs -/

section Runs

variable {s : Session τ} {r : Recorded τ}

lemma recorded_step_reported (h : Reported r.drained r.session) (i : Input τ)
    (hreset : ¬ i.IsReset) : Reported (r.step i).drained (r.step i).session := by
  by_cases hdrain : i = .drainEvents
  · -- draining moves the events from the queue to the record
    subst hdrain
    have hall : (r.step .drainEvents).drained ++ (r.step .drainEvents).session.events
        = r.drained ++ r.session.events := by
      simp [Recorded.step, Session.step, drainEvents]
    unfold Reported at h ⊢
    rw [hall, h]
    rfl
  · have hsame : (r.step i).drained = r.drained := by
      cases i <;> first | rfl | exact absurd rfl hdrain
    rw [hsame]
    exact effects_preserve (P := Reported r.drained) (fun _ _ hs he => hs.effect hdrain hreset he)
      (step_effects i r.session) h

lemma recorded_run_reported (h : Reported r.drained r.session)
    (inputs : List (Input τ)) (hreset : ∀ i ∈ inputs, ¬ i.IsReset) :
    Reported (run Recorded.step r inputs).drained (run Recorded.step r inputs).session :=
  run_invariant_on (I := fun r : Recorded τ => Reported r.drained r.session)
    (fun _ i hi hr => recorded_step_reported hr i hi) inputs r hreset h

lemma recorded_run_some {start : AnnouncedMatchStart}
    (h : r.session.announcedMatchStart = some start) (inputs : List (Input τ))
    (hreset : ∀ i ∈ inputs, ¬ i.IsReset) :
    (run Recorded.step r inputs).session.announcedMatchStart = some start :=
  run_invariant_on (I := fun r : Recorded τ => r.session.announcedMatchStart = some start)
    (fun _ _ hi hr => matchStart_step_some hr hi) inputs r hreset h

/-- The match-start transaction of one attempt.  From a session with no start accepted or reported,
after any inputs without a reset: the reported starts are exactly the accepted one; an accepted start
is final; it was accepted with a non-zero epoch while everybody was ready; and a `start_match` that
returns an error changes nothing. -/
theorem match_start_transaction (hnone : s.announcedMatchStart = none)
    (hquiet : starts s.events = []) (inputs : List (Input τ))
    (hreset : ∀ i ∈ inputs, ¬ i.IsReset) :
    let r := run Recorded.step ⟨s, []⟩ inputs
    starts r.reported = r.session.announcedMatchStart.toList ∧
    (∀ start, r.session.announcedMatchStart = some start → ∀ more : List (Input τ),
      (∀ i ∈ more, ¬ i.IsReset) →
        (run Recorded.step r more).session.announcedMatchStart = some start) ∧
    (∀ i start, r.session.announcedMatchStart = none →
      (r.session.step i).announcedMatchStart = some start →
        start.epoch ≠ 0 ∧ r.session.allReady) ∧
    (∀ epoch seed e, (r.session.startMatch epoch seed).result = .error e →
      (r.session.startMatch epoch seed).state.announcedMatchStart = r.session.announcedMatchStart ∧
        (r.session.startMatch epoch seed).state.events = r.session.events) := by
  intro r
  have hinit : Reported ([] : List Event) s := by
    unfold Reported
    rw [nil_append, hquiet, hnone]
    rfl
  refine ⟨recorded_run_reported hinit inputs hreset, ?_, ?_, ?_⟩
  · intro start hstart more hmore
    exact recorded_run_some hstart more hmore
  · intro i start hempty hsome
    exact (step_accepts hempty hsome).symm
  · intro epoch seed e herror
    exact startMatch_error herror

end Runs

/-- A host alone: it is refused before it is ready, starts once, and repeats idempotently. -/
theorem match_start_transaction_solo :
    let s := Session.new (LoopTransport.new 1) .host "a"
    let inputs := [.startMatch 7 9, .sendReadyFlag true, .startMatch 7 9, .drainEvents,
      .startMatch 7 9, .startMatch 8 9]
    let r := run Recorded.step ⟨s, []⟩ inputs
    r.session.announcedMatchStart = some ⟨1, 7, 9⟩ ∧ starts r.reported = [⟨1, 7, 9⟩] := by
  intro s inputs r
  have hstart : r.session.announcedMatchStart = some ⟨1, 7, 9⟩ := by decide
  have hreset : ∀ i ∈ inputs, ¬ i.IsReset := by
    intro i hi
    simp only [inputs, mem_cons, not_mem_nil, or_false] at hi
    rcases hi with rfl | rfl | rfl | rfl | rfl | rfl <;> exact not_false
  have hreported := (match_start_transaction (s := s) rfl rfl inputs hreset).1
  exact ⟨hstart, hreported.trans (by rw [hstart]; rfl)⟩

end Session

end Don.Net
