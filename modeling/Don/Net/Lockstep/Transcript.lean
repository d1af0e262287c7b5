import Don.Net.Lockstep.Safety

/-!
# Lockstep.Transcript — the exported transcript, and what it does not depend on

`export_json` and its writers, from `crates/don-net/src/lockstep.rs`, followed by the two-run
statement about them: once every participant's package for the expected stamp is in, neither the
order in which the packages came nor how often each was repeated is visible in the turn, in the
evidence or in the transcript.
-/

namespace Don.Net

open Foundation List TurnPackage Option LockstepRunner
open Std (ExtTreeMap)

/-! ## Writers -/

/-- `{:0width x}`: lower-case hexadecimal, padded with zeros on the left. -/
def hexPadded (width n : Nat) : String :=
  String.ofList (List.leftpad width '0' (Nat.toDigits 16 n))

def writeArray (items : List String) : String :=
  "[" ++ ",".intercalate items ++ "]"

def writeI8Array (values : List Int8) : String :=
  writeArray (values.map fun value => toString value)

def EpochCause.name : EpochCause → String
  | .initial => "initial"
  | .drop => "drop"
  | .reconnect => "reconnect"
  | .rosterChange => "roster-change"

def writePackage (package : PackageEvidence) : String :=
  "\x7b\"play\":" ++ toString package.play
    ++ ",\"payload_bytes\":" ++ toString package.payloadBytes
    ++ ",\"payload_fnv1a64\":\"" ++ hexPadded 16 package.payloadFnv1a64.toNat
    ++ "\",\"checksums\":"
    ++ writeArray (package.checksums.words.toList.map fun checksum =>
        "\"" ++ hexPadded 8 checksum.toNat ++ "\"")
    ++ "\x7d"

def writeDifference (difference : ChecksumDifference) : String :=
  "\x7b\"channel\":\"" ++ checksumChannels.getD difference.channel ""
    ++ "\",\"index\":" ++ toString difference.channel
    ++ ",\"reference_play\":" ++ toString difference.referencePlay
    ++ ",\"reference\":\"" ++ hexPadded 8 difference.reference.toNat
    ++ "\",\"divergent_play\":" ++ toString difference.divergentPlay
    ++ ",\"divergent\":\"" ++ hexPadded 8 difference.divergent.toNat
    ++ "\"\x7d"

def writeTurnJson (turn : TurnEvidence) : String :=
  "\x7b\"type\":\"turn\",\"epoch\":" ++ toString turn.epoch
    ++ ",\"stamp\":" ++ toString turn.stamp
    ++ ",\"checksum_agreement\":" ++ toString turn.checksumsAgree
    ++ ",\"packages\":" ++ writeArray (turn.packages.map writePackage)
    ++ ",\"desync\":" ++ writeArray (turn.differences.map writeDifference)
    ++ "\x7d"

def writeEvidence : LockstepEvidence → String
  | .epoch epoch cause stamp participants =>
    "\x7b\"type\":\"epoch\",\"epoch\":" ++ toString epoch
      ++ ",\"cause\":\"" ++ cause.name
      ++ "\",\"stamp\":" ++ toString stamp
      ++ ",\"participants\":" ++ writeI8Array participants
      ++ "\x7d"
  | .timeout timeout =>
    "\x7b\"type\":\"timeout\",\"epoch\":" ++ toString timeout.epoch
      ++ ",\"stamp\":" ++ toString timeout.stamp
      ++ ",\"deadline_ms\":" ++ toString timeout.deadlineMs
      ++ ",\"observed_ms\":" ++ toString timeout.observedMs
      ++ ",\"received\":" ++ writeI8Array timeout.received
      ++ ",\"missing\":" ++ writeI8Array timeout.missing
      ++ "\x7d"
  | .turn turn => writeTurnJson turn

namespace LockstepRunner

def exportJson (r : LockstepRunner) : String :=
  "\x7b\"schema\":\"don.lockstep-transcript.v1\",\"timeout_ms\":" ++ toString r.timeoutMs
    ++ ",\"next_stamp\":" ++ toString r.expectedStamp
    ++ ",\"events\":" ++ writeArray (r.evidence.map writeEvidence)
    ++ "\x7d"

/-! ## A complete turn, and the ways to deliver it -/

/-- One package per participant for the expected stamp, each accepted by the checksum decoder. -/
structure CompleteTurn (r : LockstepRunner) (packages : List TurnPackage) : Prop where
  stamps : ∀ p ∈ packages, p.stamp = r.expectedStamp
  plays : (packages.map TurnPackage.play).Perm r.participants
  decodes : ∀ p ∈ packages, ∃ decoded, decodeRetailChecksumPackage p r.gameKey = .ok decoded

/-- A submission sequence that delivers exactly `packages`, in any order and with any repetitions,
at clock readings below the deadline. -/
structure Delivers (r : LockstepRunner) (packages : List TurnPackage)
    (submissions : List (TurnPackage × UInt64)) : Prop where
  exactly : ∀ p, p ∈ submissions.map Prod.fst ↔ p ∈ packages
  inTime : ∀ s ∈ submissions, s.2 < r.deadlineMs

def submitAll (r : LockstepRunner) (submissions : List (TurnPackage × UInt64)) : LockstepRunner :=
  Foundation.run step r (submissions.map fun s => .submit s.1 s.2)

lemma Reachable.submitAll {r : LockstepRunner} (h : Reachable r)
    (submissions : List (TurnPackage × UInt64)) : Reachable (r.submitAll submissions) := by
  rcases h with ⟨gameKey, raw, firstStamp, nowMs, timeoutMs, r0, calls, hnew, rfl⟩
  exact ⟨gameKey, raw, firstStamp, nowMs, timeoutMs, r0, _, hnew, run_append _ _ _ _⟩

section Delivery

variable {r : LockstepRunner} {packages : List TurnPackage} {p : TurnPackage}

lemma CompleteTurn.eq_of_play (h : CompleteTurn r packages) (hr : Roster r.participants)
    {q : TurnPackage} (hp : p ∈ packages) (hq : q ∈ packages) (heq : p.play = q.play) : p = q := by
  have hnodup : (packages.map play).Nodup :=
    h.plays.nodup_iff.2 (nodup_of_increasing hr.increasing)
  exact inj_on_of_nodup_map hnodup hp hq heq

/-- The pending map is exactly the decoded packages of `seen`; nothing else of `r` has changed. -/
structure Holds (r : LockstepRunner) (seen : List TurnPackage) (s : LockstepRunner) : Prop where
  frame : s = { r with pending := s.pending }
  entries : ∀ (play : Int8) (pending : PendingPackage), s.pending[play]? = some pending ↔
    pending.package ∈ seen ∧ pending.package.play = play ∧
      ∃ decoded, decodeRetailChecksumPackage pending.package r.gameKey = .ok decoded ∧
        pending.checksums = decoded.checksums

variable {seen : List TurnPackage} {s : LockstepRunner}

lemma Holds.unique {seen' : List TurnPackage} {s' : LockstepRunner} (h : Holds r seen s)
    (h' : Holds r seen' s') (hseen : ∀ p, p ∈ seen ↔ p ∈ seen') : s = s' := by
  have hpending : s.pending = s'.pending := by
    refine ExtTreeMap.ext_getElem? ?_
    intro play
    refine ext ?_
    intro pending
    rw [h.entries, h'.entries, hseen]
  rw [h.frame, h'.frame, hpending]

lemma Holds.start (hempty : r.pending = ∅) : Holds r [] r := by
  refine ⟨rfl, ?_⟩
  intro play pending
  simp [hempty]

lemma Holds.accept (h : Holds r seen s) {decoded : DecodedRetailChecksum}
    (hdecoded : decodeRetailChecksumPackage p r.gameKey = .ok decoded)
    (hfree : s.pending[p.play]? = none) : Holds r (p :: seen) (s.accept p decoded.checksums) := by
  refine ⟨?_, ?_⟩
  · rw [h.frame]
    rfl
  intro play pending
  have hinsert : (s.accept p decoded.checksums).pending[play]? =
      if compare p.play play = .eq then some ⟨p, decoded.checksums⟩ else s.pending[play]? :=
    ExtTreeMap.getElem?_insert
  rw [hinsert, mem_cons]
  by_cases hslot : p.play = play
  · subst hslot
    rw [if_pos Std.ReflCmp.compare_self, some.injEq]
    constructor
    · rintro rfl
      exact ⟨Or.inl rfl, rfl, decoded, hdecoded, rfl⟩
    · rintro ⟨hmem | hmem, hplay, decoded', hdecoded', hsums⟩
      · have hsame : decoded = decoded' := by
          rw [hmem, hdecoded] at hdecoded'
          exact Except.ok.inj hdecoded'
        cases pending
        subst hmem hsame hsums
        rfl
      · have htaken := (h.entries _ pending).2 ⟨hmem, hplay, decoded', hdecoded', hsums⟩
        rw [hfree] at htaken
        cases htaken
  · have hne : compare p.play play ≠ .eq := fun hcmp => hslot (Std.LawfulEqOrd.eq_of_compare hcmp)
    rw [if_neg hne, h.entries]
    constructor
    · rintro ⟨hmem, hrest⟩
      exact ⟨Or.inr hmem, hrest⟩
    · rintro ⟨hmem | hmem, hplay, hrest⟩
      · exact absurd (hmem ▸ hplay) hslot
      · exact ⟨hmem, hplay, hrest⟩

/-- One submission of a complete turn: filed when its slot is free, a duplicate otherwise. -/
lemma Holds.submit (h : Holds r seen s)
    (hturn : CompleteTurn r packages) (hroster : Roster r.participants) (hnone : r.timedOut = none)
    (hseen : ∀ p ∈ seen, p ∈ packages) (hp : p ∈ packages) {nowMs : UInt64}
    (htime : nowMs < r.deadlineMs) :
    Holds r (p :: seen) (s.step (.submit p nowMs)) := by
  have hgameKey : s.gameKey = r.gameKey := by rw [h.frame]
  have hstamp : ¬ p.stamp ≠ s.expectedStamp := by
    rw [h.frame]
    simpa using hturn.stamps p hp
  have hplay : ¬ p.play ∉ s.participants := by
    rw [h.frame]
    simpa using hturn.plays.subset (mem_map_of_mem hp)
  have htimedOut : s.timedOut = none := by
    rw [h.frame]
    exact hnone
  have hobserve : s.observeTimeout nowMs = s := by
    have hdeadline : nowMs < s.deadlineMs := by
      rw [h.frame]
      exact htime
    simp [observeTimeout, hdeadline]
  rcases hturn.decodes p hp with ⟨decoded, hdecoded⟩
  simp only [step, LockstepRunner.submit, hobserve, submitObserved, htimedOut, if_neg hstamp,
    if_neg hplay, hgameKey, hdecoded]
  cases hslot : s.pending[p.play]? with
  | some existing =>
    -- The slot is taken by a package of the same turn, so by this very package.
    rcases (h.entries _ _).1 hslot with ⟨hin, hsame, _⟩
    have heq : existing.package = p := hturn.eq_of_play hroster (hseen _ hin) hp hsame
    simp only [if_pos heq, Outcome.state_ok]
    refine ⟨h.frame, ?_⟩
    intro play pending
    rw [h.entries, mem_cons]
    constructor
    · rintro ⟨hmem, hrest⟩
      exact ⟨Or.inr hmem, hrest⟩
    · rintro ⟨hmem | hmem, hrest⟩
      · exact ⟨hmem ▸ heq ▸ hin, hrest⟩
      · exact ⟨hmem, hrest⟩
  | none =>
    exact h.accept hdecoded hslot

lemma Holds.submitAll (hturn : CompleteTurn r packages) (hroster : Roster r.participants)
    (hnone : r.timedOut = none) :
    ∀ (submissions : List (TurnPackage × UInt64)) (seen : List TurnPackage) (s : LockstepRunner),
      Holds r seen s → (∀ p ∈ seen, p ∈ packages) →
        (∀ p ∈ submissions.map Prod.fst, p ∈ packages) →
          (∀ x ∈ submissions, x.2 < r.deadlineMs) →
            ∃ seen', Holds r seen' (s.submitAll submissions) ∧
              ∀ p, p ∈ seen' ↔ p ∈ seen ∨ p ∈ submissions.map Prod.fst
  | [], seen, s, h, _, _, _ => ⟨seen, h, by simp⟩
  | (p, nowMs) :: rest, seen, s, h, hseen, hmem, htime => by
    have hp : p ∈ packages := hmem p (by simp)
    have hstep : Holds r (p :: seen) (s.step (.submit p nowMs)) :=
      h.submit hturn hroster hnone hseen hp (htime (p, nowMs) (by simp))
    have hseen' : ∀ q ∈ p :: seen, q ∈ packages := by
      intro q hq
      rcases mem_cons.1 hq with rfl | hq
      · exact hp
      · exact hseen q hq
    rcases Holds.submitAll hturn hroster hnone rest (p :: seen) _ hstep hseen'
      (fun q hq => hmem q (by simp_all)) (fun x hx => htime x (by simp [hx])) with
      ⟨seen', hholds, hiff⟩
    refine ⟨seen', hholds, ?_⟩
    intro q
    rw [hiff]
    simp only [mem_cons, map_cons]
    tauto

lemma submitAll_of_timedOut (hsome : r.timedOut.isSome)
    (submissions : List (TurnPackage × UInt64)) : r.submitAll submissions = r := by
  induction submissions with
  | nil => rfl
  | cons x rest ih =>
    have hstep : r.step (.submit x.1 x.2) = r := by
      rcases isSome_iff_exists.1 hsome with ⟨timeout, hto⟩
      simp [step, submit, observeTimeout, submitObserved, hto]
    calc
      r.submitAll (x :: rest) = (r.step (.submit x.1 x.2)).submitAll rest := rfl
      _ = r.submitAll rest := by rw [hstep]
      _ = r := ih

lemma submitAll_eq (hroster : Roster r.participants) (hempty : r.pending = ∅)
    (hturn : CompleteTurn r packages) {first second : List (TurnPackage × UInt64)}
    (hfirst : Delivers r packages first) (hsecond : Delivers r packages second) :
    r.submitAll first = r.submitAll second := by
  cases hto : r.timedOut with
  | some =>
    have hsome : r.timedOut.isSome := by simp [hto]
    rw [submitAll_of_timedOut hsome, submitAll_of_timedOut hsome]
  | none =>
    rcases Holds.submitAll hturn hroster hto first [] r (Holds.start hempty) (by simp)
      (fun p hp => (hfirst.exactly p).1 hp) hfirst.inTime with ⟨seen, hholds, hseen⟩
    rcases Holds.submitAll hturn hroster hto second [] r (Holds.start hempty) (by simp)
      (fun p hp => (hsecond.exactly p).1 hp) hsecond.inTime with ⟨seen', hholds', hseen'⟩
    refine hholds.unique hholds' ?_
    intro p
    rw [hseen, hseen', hfirst.exactly, hsecond.exactly]

lemma missing_submitAll (hroster : Roster r.participants) (hempty : r.pending = ∅)
    (hturn : CompleteTurn r packages) (hnone : r.timedOut = none)
    {submissions : List (TurnPackage × UInt64)} (hsub : Delivers r packages submissions) :
    (r.submitAll submissions).missing = [] ∧
      (r.submitAll submissions).expectedStamp = r.expectedStamp := by
  rcases Holds.submitAll hturn hroster hnone submissions [] r (Holds.start hempty) (by simp)
    (fun p hp => (hsub.exactly p).1 hp) hsub.inTime with ⟨seen, hholds, hseen⟩
  refine ⟨?_, by rw [hholds.frame]⟩
  rw [Seated.missing_eq_nil_iff]
  intro play hplay
  have hplay' : play ∈ r.participants := by
    rw [hholds.frame] at hplay
    exact hplay
  rcases mem_map.1 (hturn.plays.symm.subset hplay') with ⟨p, hp, hslot⟩
  rcases hturn.decodes p hp with ⟨decoded, hdecoded⟩
  have hin : p ∈ seen := (hseen p).2 (Or.inr ((hsub.exactly p).2 hp))
  have hentry := (hholds.entries play ⟨p, decoded.checksums⟩).2
    ⟨hin, hslot, decoded, hdecoded, rfl⟩
  rw [ExtTreeMap.mem_iff_isSome_getElem?, hentry]
  rfl

end Delivery

/-! ## Arrival order is invisible -/

/-- Without a latched timeout the turn is complete, and only the next stamp can be missing. -/
lemma result_commitReady_of_delivers {r : LockstepRunner} (hr : Reachable r) (hempty : r.pending = ∅)
    {packages : List TurnPackage} (hturn : CompleteTurn r packages) (hnone : r.timedOut = none)
    {submissions : List (TurnPackage × UInt64)} (hsub : Delivers r packages submissions)
    (nowMs : UInt64) : ((r.submitAll submissions).commitReady nowMs).result =
      if r.expectedStamp = 0xffffffff then .error .stampOverflow
      else .ok (r.submitAll submissions).turnEvidence := by
  rcases hr.inv with ⟨_, hinv⟩
  rcases missing_submitAll hinv.seated.roster hempty hturn hnone hsub with ⟨hfull, hexpected⟩
  rcases (hr.submitAll submissions).inv with ⟨_, hinv'⟩
  rw [commitReady_of_full hinv'.seated hinv'.latched hfull, hexpected]
  cases hnext : checkedSucc r.expectedStamp with
  | none =>
    rw [if_pos (checkedSucc_eq_none.1 hnext)]
    rfl
  | some next =>
    have hstamp : r.expectedStamp ≠ 0xffffffff := by
      intro hlast
      rw [checkedSucc_eq_none.2 hlast] at hnext
      cases hnext
    rw [if_neg hstamp]
    rfl

/-- Two deliveries of one complete turn, committed at the same instant, return the same result and
leave the same evidence, stamp and transcript.  The result is the turn unless the runner had latched
a timeout before the first submission, which is then the error, or stands at the last stamp. -/
theorem commit_arrival_order {r : LockstepRunner} (hr : Reachable r) (hempty : r.pending = ∅)
    {packages : List TurnPackage} (hturn : CompleteTurn r packages)
    {first second : List (TurnPackage × UInt64)} (hfirst : Delivers r packages first)
    (hsecond : Delivers r packages second) (nowMs : UInt64) :
    let a := (r.submitAll first).commitReady nowMs
    let b := (r.submitAll second).commitReady nowMs
    a.result = b.result ∧ a.state.evidence = b.state.evidence ∧
      a.state.expectedStamp = b.state.expectedStamp ∧
      a.state.exportJson = b.state.exportJson ∧
      (r.timedOut = none → r.expectedStamp ≠ 0xffffffff → ∃ turn, a.result = .ok turn) ∧
      (r.timedOut = none → r.expectedStamp = 0xffffffff → a.result = .error .stampOverflow) ∧
      ∀ timeout, r.timedOut = some timeout → a.result = .error (.turnTimedOut timeout) := by
  rcases hr.inv with ⟨_, hinv⟩
  have hroster : Roster r.participants := hinv.seated.roster
  have hsame : r.submitAll first = r.submitAll second :=
    submitAll_eq hroster hempty hturn hfirst hsecond
  intro a b
  have hab : a = b := by simp only [a, b, hsame]
  refine ⟨by rw [hab], by rw [hab], by rw [hab], by rw [hab], ?_, ?_, ?_⟩
  · intro hnone hstamp
    have hresult := result_commitReady_of_delivers hr hempty hturn hnone hfirst nowMs
    rw [if_neg hstamp] at hresult
    exact ⟨_, hresult⟩
  · intro hnone hstamp
    have hresult := result_commitReady_of_delivers hr hempty hturn hnone hfirst nowMs
    rwa [if_pos hstamp] at hresult
  · intro timeout hto
    simp only [a]
    rw [submitAll_of_timedOut (by simp [hto])]
    simp [commitReady, observeTimeout, commitObserved, hto]

lemma CompleteTurn.of_eval {r : LockstepRunner} {packages : List TurnPackage}
    (hstamps : ∀ p ∈ packages, p.stamp = r.expectedStamp)
    (hplays : (packages.map play).Perm r.participants)
    (hdecodes : ∀ p ∈ packages, (decodeRetailChecksumPackage p r.gameKey).isOk) :
    CompleteTurn r packages := by
  refine ⟨hstamps, hplays, ?_⟩
  intro p hp
  have hok := hdecodes p hp
  cases hdecode : decodeRetailChecksumPackage p r.gameKey with
  | error => simp [hdecode, Except.isOk, Except.toBool] at hok
  | ok decoded => exact ⟨decoded, rfl⟩

/-- A complete turn in two orders, once with a repeated package. -/
theorem commit_arrival_order_two_players :
    let first := [(zeroChecksumPackage 5 0, 1), (zeroChecksumPackage 5 1, 2)]
    let second := [(zeroChecksumPackage 5 1, 9), (zeroChecksumPackage 5 1, 3),
      (zeroChecksumPackage 5 0, 99)]
    ((twoPlayerRunner.submitAll first).commitReady 500).state.exportJson =
      ((twoPlayerRunner.submitAll second).commitReady 500).state.exportJson := by
  intro first second
  have hr : Reachable twoPlayerRunner := ⟨0, [1, 0], 5, 0, 100, _, [], new_twoPlayerRunner, rfl⟩
  have hturn : CompleteTurn twoPlayerRunner [zeroChecksumPackage 5 0, zeroChecksumPackage 5 1] :=
    .of_eval (by decide) (by decide) (by decide)
  have hfirst : Delivers twoPlayerRunner _ first := ⟨fun p => Iff.rfl, by decide⟩
  have hsecond : Delivers twoPlayerRunner
      [zeroChecksumPackage 5 0, zeroChecksumPackage 5 1] second := by
    refine ⟨?_, by decide⟩
    intro p
    simp only [second, map_cons, map_nil, mem_cons]
    tauto
  exact (commit_arrival_order hr rfl hturn hfirst hsecond 500).2.2.2.1

/-- A fresh runner of slot 0 alone. -/
def soloRunner (firstStamp : UInt32) : LockstepRunner :=
  { gameKey := 0
    timeoutMs := 100
    epoch := 0
    expectedStamp := firstStamp
    deadlineMs := 100
    participants := [0]
    pending := ∅
    timedOut := none
    evidence := [.epoch 0 .initial firstStamp [0]] }

lemma new_soloRunner (firstStamp : UInt32) :
    new 0 [0] firstStamp 0 100 = .ok (soloRunner firstStamp) := rfl

/-- Nothing pending and every submission in time do not make the turn commit: a runner at the last
stamp refuses it, and so does one whose timeout is already latched. -/
theorem commit_refused_after_delivery : (let r := soloRunner 0xffffffff
      let submissions := [(zeroChecksumPackage 0xffffffff 0, 1)]
      Reachable r ∧ r.pending = ∅ ∧ CompleteTurn r (submissions.map Prod.fst) ∧
        Delivers r (submissions.map Prod.fst) submissions ∧
        ((r.submitAll submissions).commitReady 2).result = .error .stampOverflow) ∧
    (let r := (soloRunner 5).step (.status 100)
      let submissions := [(zeroChecksumPackage 5 0, 1)]
      Reachable r ∧ r.pending = ∅ ∧ CompleteTurn r (submissions.map Prod.fst) ∧
        Delivers r (submissions.map Prod.fst) submissions ∧
        ((r.submitAll submissions).commitReady 2).result =
          .error (.turnTimedOut ⟨0, 5, 100, 100, [], [0]⟩)) := by
  constructor
  · intro r submissions
    have hr : Reachable r := ⟨0, [0], 0xffffffff, 0, 100, _, [], new_soloRunner _, rfl⟩
    have hturn : CompleteTurn r (submissions.map Prod.fst) :=
      .of_eval (by decide) (by decide) (by decide)
    exact ⟨hr, rfl, hturn, ⟨fun p => Iff.rfl, by decide⟩, by decide⟩
  · intro r submissions
    have hr : Reachable r := ⟨0, [0], 5, 0, 100, _, [.status 100], new_soloRunner _, rfl⟩
    have hturn : CompleteTurn r (submissions.map Prod.fst) :=
      .of_eval (by decide) (by decide) (by decide)
    exact ⟨hr, rfl, hturn, ⟨fun p => Iff.rfl, by decide⟩, by decide⟩

end LockstepRunner

end Don.Net
