import Don.Crossplay.Directory

/-!
# Invariant — what holds of the lobbies in every history

A call changes the lobbies in one of four ways: the caller makes one, enters one, goes from one, or edits
the record of one without touching its members.  `LobbyStep` says so once; everything about histories
follows from it.
-/

namespace Don.Crossplay

open List Lobby

open Std (ExtTreeMap)

/-! ## Members -/

namespace Lobby

variable {l : Lobby}

lemma isMember_iff {u : String} : l.isMember u = true ↔ u ∈ l.memberIds := by
  simp [isMember, memberIds]

/-- A lobby that can be in the directory. -/
structure Ok (l : Lobby) : Prop where
  inhabited : l.members ≠ []
  distinct : l.memberIds.Nodup
  owned : l.ownerUserId ∈ l.memberIds
  room : (l.members.length : Int) ≤ l.maxMembers.toInt
  bots : 0 ≤ l.botCount.toInt

lemma toInt_memberCount (h : (l.members.length : Int) < 2 ^ 31) :
    l.memberCount.toInt = l.members.length := by
  have hsize : Int32.size = 2 ^ 32 := rfl
  rw [memberCount, Int32.toInt_ofNat', hsize]
  exact Int.bmod_eq_of_le (by omega) (by omega)

lemma Ok.toInt_seats (h : l.Ok) : (l.maxMembers - l.botCount - l.memberCount).toInt
      = l.maxMembers.toInt - l.botCount.toInt - l.members.length := by
  have hmax := l.maxMembers.toInt_lt
  have hbot := l.botCount.toInt_lt
  have hroom := h.room
  have hbots := h.bots
  have hcount : l.memberCount.toInt = l.members.length := toInt_memberCount (by omega)
  rw [Int32.toInt_sub, Int32.toInt_sub, hcount, Int.bmod_sub_bmod]
  exact Int.bmod_eq_of_le (by omega) (by omega)

lemma Ok.seat (h : l.Ok) (hfree : ¬ l.availableSlots < 1) :
    (l.members.length : Int) + 1 ≤ l.maxMembers.toInt := by
  have hbots := h.bots
  have hseats : (1 : Int32) ≤ l.maxMembers - l.botCount - l.memberCount := by
    unfold availableSlots at hfree
    dsimp only at hfree
    split at hfree
    · exact absurd (by decide) hfree
    · exact Int32.not_lt.1 hfree
  have := Int32.le_iff_toInt_le.1 hseats
  rw [h.toInt_seats] at this
  have hone : (1 : Int32).toInt = 1 := by decide
  omega

end Lobby

namespace Directory

/-! ## What a call does to the lobbies -/

section frame

variable (d : Directory)

@[simp] lemma lobbies_post (u : String) (n : Notice) : (d.post u n).lobbies = d.lobbies := by
  unfold post
  split <;> rfl

@[simp] lemma nextLobby_post (u : String) (n : Notice) : (d.post u n).nextLobby = d.nextLobby := by
  unfold post
  split <;> rfl

@[simp] lemma lobbies_attachPeer (u : String) : (d.attachPeer u).lobbies = d.lobbies := by
  unfold attachPeer
  split <;> rfl

@[simp] lemma nextLobby_attachPeer (u : String) : (d.attachPeer u).nextLobby = d.nextLobby := by
  unfold attachPeer
  split <;> rfl

/-- A loop that only posts leaves the lobbies alone. -/
lemma foldl_frame {α : Type} {f : Directory → α → Directory}
    (hf : ∀ d a, (f d a).lobbies = d.lobbies ∧ (f d a).nextLobby = d.nextLobby) (l : List α) :
    (l.foldl f d).lobbies = d.lobbies ∧ (l.foldl f d).nextLobby = d.nextLobby := by
  induction l generalizing d with
  | nil => exact ⟨rfl, rfl⟩
  | cons a l ih => exact ⟨(ih _).1.trans (hf d a).1, (ih _).2.trans (hf d a).2⟩

@[simp] lemma lobbies_announce (notice : String → Notice) (u : String) (peers : List String) :
    (announce notice u peers d).lobbies = d.lobbies :=
  (foldl_frame d (fun _ _ => by simp) peers).1

@[simp] lemma nextLobby_announce (notice : String → Notice) (u : String) (peers : List String) :
    (announce notice u peers d).nextLobby = d.nextLobby :=
  (foldl_frame d (fun _ _ => by simp) peers).2

lemma sendToAll_frame (u : String) (bytes : List UInt8) :
    (d.sendToAll u bytes).lobbies = d.lobbies ∧ (d.sendToAll u bytes).nextLobby = d.nextLobby := by
  unfold sendToAll
  cases d.lobbyOf u with
  | none => exact ⟨rfl, rfl⟩
  | some => exact foldl_frame d (fun _ _ => by simp) _

end frame

variable {d : Directory} {l : Lobby}

lemma mem_values_iff : l ∈ d.values ↔ ∃ id : String, d.lobbies[id]? = some l := by
  simp [values]

variable {u : String}

lemma lobbyOf_eq_none_iff :
    d.lobbyOf u = none ↔ ∀ (id : String) (l : Lobby), d.lobbies[id]? = some l → u ∉ l.memberIds := by
  simp only [lobbyOf, List.find?_eq_none, mem_values_iff, isMember_iff]
  constructor
  · intro h id l hl
    exact h l ⟨id, hl⟩
  · rintro h l ⟨id, hl⟩
    exact h id l hl

lemma of_lobbyOf_eq_some (h : d.lobbyOf u = some l) :
    (∃ id : String, d.lobbies[id]? = some l) ∧ u ∈ l.memberIds :=
  ⟨mem_values_iff.1 (mem_of_find?_eq_some h),
    isMember_iff.1 (List.find?_some (p := fun l : Lobby => l.isMember u) h)⟩

/-- What one call of `user` does to the lobbies. -/
inductive LobbyStep (user : String) (d d' : Directory) : Prop
  | same (hlobbies : d'.lobbies = d.lobbies) (hnext : d'.nextLobby = d.nextLobby)
  | created (owner : Member) (maxMembers visibility : Int32) (attributes : Attributes)
      (huser : owner.userId = user) (hfree : d.lobbyOf user = none) (hmax : 1 ≤ maxMembers)
      (hlobbies : d'.lobbies = d.lobbies.insert (base36 (d.nextLobby + 1))
        (newLobby (base36 (d.nextLobby + 1)) owner maxMembers visibility attributes))
      (hnext : d'.nextLobby = d.nextLobby + 1)
  | joined (who : Member) (id : String) (l : Lobby)
      (huser : who.userId = user) (hfree : d.lobbyOf user = none) (hl : d.lobbies[id]? = some l)
      (hseat : ¬ l.availableSlots < 1)
      (hlobbies : d'.lobbies = d.lobbies.insert id { l with members := l.members ++ [who] })
      (hnext : d'.nextLobby = d.nextLobby)
  | left (id : String) (l : Lobby) (hl : d.lobbies[id]? = some l) (hmember : user ∈ l.memberIds)
      (hlobbies : d'.lobbies = if (withoutMember l user).members.isEmpty then d.lobbies.erase id
        else d.lobbies.insert id (withoutMember l user))
      (hnext : d'.nextLobby = d.nextLobby)
  | edited (id : String) (l l' : Lobby) (hl : d.lobbies[id]? = some l)
      (howner : l.ownerUserId = user) (hid : l'.id = l.id) (hsame : l'.ownerUserId = l.ownerUserId)
      (hmembers : l'.members = l.members)
      (hmax : l'.maxMembers = l.maxMembers ∨ l.memberCount ≤ l'.maxMembers)
      (hbots : l'.botCount = l.botCount ∨ 0 ≤ l'.botCount)
      (hlobbies : d'.lobbies = d.lobbies.insert id l') (hnext : d'.nextLobby = d.nextLobby)

lemma LobbyStep.refl (user : String) (d : Directory) : LobbyStep user d d :=
  .same rfl rfl

variable {d : Directory} {id : String}

lemma LobbyStep.put {user : String} {l' : Lobby}
    (hl : d.lobbies[id]? = some l) (howner : l.ownerUserId = user) (hid : l'.id = l.id)
    (hsame : l'.ownerUserId = l.ownerUserId) (hmembers : l'.members = l.members)
    (hmax : l'.maxMembers = l.maxMembers ∨ l.memberCount ≤ l'.maxMembers)
    (hbots : l'.botCount = l.botCount ∨ 0 ≤ l'.botCount) : LobbyStep user d (d.putLobby id l') :=
  .edited id l l' hl howner hid hsame hmembers hmax hbots rfl rfl

/-- What an operation that makes no lobby does; a refused one does nothing. -/
def Steps (user : String) (d : Directory) (r : Returns α) : Prop :=
  LobbyStep user d r.2 ∧ (r.1.isOk = false → r.2 = d) ∧ r.2.nextLobby = d.nextLobby

lemma Steps.refused {user : String} {e : Int32 × String} :
    Steps user d ((.error e, d) : Returns α) :=
  ⟨.refl user d, fun _ => rfl, rfl⟩

lemma Steps.done {user : String} {a : α} {d' : Directory} (hstep : LobbyStep user d d')
    (hnext : d'.nextLobby = d.nextLobby) : Steps user d ((.ok a, d') : Returns α) :=
  ⟨hstep, (fun h => by cases h), hnext⟩

lemma leave_step (d : Directory) (u id : String) : Steps u d (d.leave u id) := by
  unfold leave
  cases hl : d.lobbies[id]? with
  | none => exact .refused
  | some l =>
    by_cases hmember : l.isMember u = true
    · simp only [hmember, if_true]
      refine .done (.left id l hl (isMember_iff.1 hmember) ?_ ?_) ?_
      · rw [lobbies_announce]
        split <;> rfl
      all_goals
        rw [nextLobby_announce]
        split <;> rfl
    · simp only [hmember]
      exact .refused

lemma join_step (d : Directory) (who : Member) (id : String) :
    Steps who.userId d (d.join who id) := by
  unfold join
  by_cases hfree : (d.lobbyOf who.userId).isSome = true
  · rw [if_pos hfree]
    exact .refused
  rw [if_neg hfree]
  cases hl : d.lobbies[id]? with
  | none => exact .refused
  | some l =>
    dsimp only
    split
    · exact .refused
    split
    · exact .refused
    next hseat =>
      refine .done (.joined who id l rfl (by simpa using hfree) hl hseat ?_ ?_) ?_
      · rw [lobbies_announce]
        rfl
      all_goals
        rw [nextLobby_announce]
        rfl

lemma create_step {owner : Member} {maxMembers visibility : Int32}
    {attributes : Attributes} {r : Returns Lobby}
    (h : d.create owner maxMembers visibility attributes = some r) :
    LobbyStep owner.userId d r.2 ∧ (r.1.isOk = false → r.2 = d) ∧
      ∀ l, r.1 = .ok l → l.id = base36 (d.nextLobby + 1) ∧ r.2.nextLobby = d.nextLobby + 1 ∧
        r.2.lobbies[l.id]? = some l := by
  unfold create at h
  by_cases hfree : (d.lobbyOf owner.userId).isSome = true
  · rw [if_pos hfree] at h
    cases h
    exact ⟨.refl _ d, fun _ => rfl, fun l hl => by cases hl⟩
  rw [if_neg hfree] at h
  by_cases hmax : maxMembers < 1
  · rw [if_pos hmax] at h
    cases h
    exact ⟨.refl _ d, fun _ => rfl, fun l hl => by cases hl⟩
  rw [if_neg hmax] at h
  by_cases hnext : d.nextLobby + 1 < 2 ^ 64
  · rw [if_pos hnext] at h
    cases h
    refine ⟨.created owner maxMembers visibility attributes rfl (by simpa using hfree)
      (Int32.not_lt.1 hmax) rfl rfl, (fun h => by cases h), ?_⟩
    intro l hl
    cases hl
    exact ⟨rfl, rfl, by simp [putLobby, newLobby]⟩
  · rw [if_neg hnext] at h
    cases h

lemma update_step {maxMembers botCount : Int32} {attributes : Attributes} {r : Returns Lobby}
    (h : d.update u id maxMembers botCount attributes = some r) : Steps u d r := by
  unfold update at h
  cases hl : d.lobbies[id]? with
  | none =>
    simp only [hl] at h
    cases h
    exact .refused
  | some l =>
    simp only [hl] at h
    by_cases howner : l.ownerUserId = u
    · rw [if_neg (not_not.2 howner)] at h
      by_cases hlow : 0 < maxMembers ∧ maxMembers < l.memberCount
      · rw [if_pos hlow] at h
        cases h
        exact .refused
      rw [if_neg hlow] at h
      by_cases hversion : l.attributeVersion.toInt + 1 < 2 ^ 31
      · rw [if_pos hversion] at h
        cases h
        refine .done (.put hl howner rfl rfl rfl ?_ ?_) rfl
        · by_cases hpos : 0 < maxMembers
          · right
            simp only [updatedLobby, hpos, if_true]
            exact Int32.not_lt.1 fun hlt => hlow ⟨hpos, hlt⟩
          · left
            simp only [updatedLobby, hpos, if_false]
        · by_cases hpos : 0 ≤ botCount
          · right
            simp only [updatedLobby, hpos, if_true]
          · left
            simp only [updatedLobby, hpos, if_false]
      · rw [if_neg hversion] at h
        cases h
    · rw [if_pos howner] at h
      cases h
      exact .refused

lemma startGame_step (d : Directory) (u id reference : String) :
    Steps u d (d.startGame u id reference) := by
  unfold startGame
  cases hl : d.lobbies[id]? with
  | none => exact .refused
  | some =>
    dsimp only
    split
    · exact .refused
    next howner =>
      split
      · exact .refused
      · exact .done (.put hl (not_not.1 howner) rfl rfl rfl (.inl rfl) (.inl rfl)) rfl

lemma cancelGameStart_step (d : Directory) (u id : String) :
    Steps u d (d.cancelGameStart u id) := by
  unfold cancelGameStart
  cases hl : d.lobbies[id]? with
  | none => exact .refused
  | some =>
    dsimp only
    split
    · exact .refused
    next howner => exact .done (.put hl (not_not.1 howner) rfl rfl rfl (.inl rfl) (.inl rfl)) rfl

/-- A call and its outcome: what it did, and that a failure did nothing. -/
structure CallStep (call : DirectoryCall) (d d' : Directory) (o : Outcome) : Prop where
  step : LobbyStep call.user.userId d d'
  failed : o.isError = true → d'.lobbies = d.lobbies

lemma CallStep.of_outcome {call : DirectoryCall} {r : Returns α}
    {f : α → Outcome} (hf : ∀ a, (f a).isError = false) (hstep : LobbyStep call.user.userId d r.2)
    (hfail : r.1.isOk = false → r.2 = d) :
    CallStep call d (outcome f r).2 (outcome f r).1 := by
  obtain ⟨result, d'⟩ := r
  cases result with
  | ok => exact ⟨hstep, fun h => by simp [outcome, hf] at h⟩
  | error => exact ⟨hstep, fun _ => congrArg lobbies (hfail rfl)⟩

variable {d' : Directory}

def createdBy : DirectoryOperation → Outcome → Option String
  | .createLobby _ _ _, .lobby l => some l.id
  | _, _ => none

/-- The count goes up with every lobby that is made, and with nothing else. -/
def Counts (operation : DirectoryOperation) (d d' : Directory) (o : Outcome) : Prop :=
  (createdBy operation o = none ∧ d'.nextLobby = d.nextLobby) ∨
    (createdBy operation o = some (base36 (d.nextLobby + 1)) ∧ d'.nextLobby = d.nextLobby + 1)

lemma Steps.call {call : DirectoryCall} {r : Returns α} (hr : Steps call.user.userId d r)
    {f : α → Outcome} (hf : ∀ a, (f a).isError = false)
    (hop : ∀ o, createdBy call.operation o = none) {o : Outcome} (ho : outcome f r = (o, d')) :
    CallStep call d d' o ∧ Counts call.operation d d' o := by
  have hstep := CallStep.of_outcome hf hr.1 hr.2.1
  have hsnd : (outcome f r).2 = r.2 := by
    obtain ⟨result, _⟩ := r
    cases result <;> rfl
  rw [ho] at hstep hsnd
  exact ⟨hstep, .inl ⟨hop o, (congrArg nextLobby hsnd).trans hr.2.2⟩⟩

lemma execute_step {call : DirectoryCall} {o : Outcome}
    (h : d.execute call = some (o, d')) : CallStep call d d' o ∧ Counts call.operation d d' o := by
  unfold execute at h
  cases hop : call.operation with
  | startSession =>
    simp only [hop] at h
    cases h
    exact ⟨⟨.same (by simp) (by simp), fun _ => by simp⟩, .inl ⟨rfl, by simp⟩⟩
  | stopSession =>
    simp only [hop] at h
    cases h
    unfold stopSession
    split
    · obtain ⟨hstep, _, hnext⟩ := leave_step d call.user.userId _
      exact ⟨⟨hstep, fun h => by cases h⟩, .inl ⟨rfl, hnext⟩⟩
    · exact ⟨⟨.refl _ _, fun _ => rfl⟩, .inl ⟨rfl, rfl⟩⟩
  | getLobby =>
    simp only [hop] at h
    split at h <;> cases h <;> exact ⟨⟨.refl _ _, fun _ => rfl⟩, .inl ⟨rfl, rfl⟩⟩
  | findLobbies | poll =>
    simp only [hop] at h
    cases h
    exact ⟨⟨.refl _ _, fun _ => rfl⟩, .inl ⟨rfl, rfl⟩⟩
  | createLobby =>
    simp only [hop, Option.map_eq_some_iff] at h
    obtain ⟨⟨result, d₁⟩, hr, heq⟩ := h
    obtain ⟨hstep, hfail, hok⟩ := create_step hr
    have hcall := CallStep.of_outcome (f := Outcome.lobby) (fun _ => rfl) hstep hfail
    rw [heq] at hcall
    refine ⟨hcall, ?_⟩
    cases result with
    | ok l =>
      cases heq
      obtain ⟨hid, hnext, -⟩ := hok l rfl
      exact .inr ⟨congrArg some hid, hnext⟩
    | error =>
      cases heq
      exact .inl ⟨rfl, congrArg nextLobby (hfail rfl)⟩
  | joinLobby id =>
    simp only [hop, Option.some.injEq] at h
    exact hop ▸ (join_step d call.user id).call (fun _ => rfl) (fun _ => by rw [hop]; rfl) h
  | leaveLobby id =>
    simp only [hop, Option.some.injEq] at h
    exact hop ▸ (leave_step d _ id).call (fun _ => rfl) (fun _ => by rw [hop]; rfl) h
  | updateLobby =>
    simp only [hop, Option.map_eq_some_iff] at h
    obtain ⟨r, hr, heq⟩ := h
    exact hop ▸ (update_step hr).call (fun _ => rfl) (fun _ => by rw [hop]; rfl) heq
  | startGame id reference =>
    simp only [hop, Option.some.injEq] at h
    exact hop ▸ (startGame_step d _ id reference).call (fun _ => rfl) (fun _ => by rw [hop]; rfl) h
  | cancelGameStart id =>
    simp only [hop, Option.some.injEq] at h
    exact hop ▸ (cancelGameStart_step d _ id).call (fun _ => rfl) (fun _ => by rw [hop]; rfl) h
  | sendToAll bytes =>
    simp only [hop] at h
    cases h
    obtain ⟨hlobbies, hnext⟩ := sendToAll_frame d call.user.userId bytes
    exact ⟨⟨.same hlobbies hnext, fun _ => hlobbies⟩, .inl ⟨rfl, hnext⟩⟩
  | sendTo peer =>
    simp only [hop, sendTo] at h
    by_cases hshares : d.shares call.user.userId peer = true
    · rw [if_pos hshares] at h
      cases h
      exact ⟨⟨.same (by simp) (by simp), fun _ => by simp⟩, .inl ⟨rfl, by simp⟩⟩
    · rw [if_neg hshares] at h
      cases h
      exact ⟨⟨.refl _ _, fun _ => rfl⟩, .inl ⟨rfl, rfl⟩⟩

lemma cleanupPeer_step (d : Directory) (u : String) : LobbyStep u d (d.cleanupPeer u) := by
  have hdetach : ∀ d' : Directory, LobbyStep u d d' → LobbyStep u d (d'.detachPeer u) := by
    intro d' h
    cases h with
    | same h₁ h₂ => exact .same h₁ h₂
    | created _ _ _ _ h₁ h₂ h₃ h₄ h₅ => exact .created _ _ _ _ h₁ h₂ h₃ h₄ h₅
    | joined _ _ _ h₁ h₂ h₃ h₄ h₅ h₆ => exact .joined _ _ _ h₁ h₂ h₃ h₄ h₅ h₆
    | left _ _ h₁ h₂ h₃ h₄ => exact .left _ _ h₁ h₂ h₃ h₄
    | edited _ _ _ h₁ h₂ h₃ h₄ h₅ h₆ h₇ h₈ h₉ => exact .edited _ _ _ h₁ h₂ h₃ h₄ h₅ h₆ h₇ h₈ h₉
  unfold cleanupPeer
  apply hdetach
  split
  · exact (leave_step _ _ _).1
  · exact .refl _ _

/-! ## Ids -/

lemma base36Digit_inj {a b : Nat} (ha : a < 36) (hb : b < 36) (h : base36Digit a = base36Digit b) :
    a = b := by
  have hall : ∀ x y : Fin 36, base36Digit x.val = base36Digit y.val → x = y := by
    decide
  exact congrArg Fin.val (hall ⟨a, ha⟩ ⟨b, hb⟩ h)

lemma map_base36Digit_inj : ∀ {l l' : List Nat}, (∀ x ∈ l, x < 36) → (∀ x ∈ l', x < 36) →
    l.map base36Digit = l'.map base36Digit → l = l' := by
  intro l
  induction l with
  | nil =>
    intro l' _ _ h
    exact (map_eq_nil_iff.1 h.symm).symm
  | cons x l ih =>
    intro l' hl hl' h
    cases l' with
    | nil => cases h
    | cons y =>
      simp only [map_cons, List.cons.injEq] at h
      rw [base36Digit_inj (hl x (by simp)) (hl' y (by simp)) h.1,
        ih (fun z hz => hl z (by simp [hz])) (fun z hz => hl' z (by simp [hz])) h.2]

lemma base36_inj {a b : Nat} (ha : 0 < a) (hb : 0 < b) (h : base36 a = base36 b) : a = b := by
  unfold base36 at h
  rw [if_neg (by omega), if_neg (by omega)] at h
  have hdigits := map_base36Digit_inj
    (fun x hx => Nat.digits_lt_base (by norm_num) (mem_reverse.1 hx))
    (fun x hx => Nat.digits_lt_base (by norm_num) (mem_reverse.1 hx)) (String.ofList_injective h)
  exact Nat.digits_inj_iff.1 (reverse_injective hdigits)

/-! ## The invariant -/

structure Sound (d : Directory) : Prop where
  ok : ∀ (id : String) (l : Lobby), d.lobbies[id]? = some l → l.Ok
  named : ∀ (id : String) (l : Lobby), d.lobbies[id]? = some l → l.id = id
  apart : ∀ (id id' : String) (l l' : Lobby) (u : String), d.lobbies[id]? = some l →
    d.lobbies[id']? = some l' → u ∈ l.memberIds → u ∈ l'.memberIds → id = id'
  counted : ∀ id ∈ d.lobbies, ∃ n, 0 < n ∧ n ≤ d.nextLobby ∧ id = base36 n

lemma sound_new : new.Sound := by
  constructor <;> simp [new]

lemma getElem?_putLobby {lobbies : ExtTreeMap String Lobby} {id' : String} {l' : Lobby}
    (h : (lobbies.insert id l)[id']? = some l') :
    (id' = id ∧ l' = l) ∨ (id' ≠ id ∧ lobbies[id']? = some l') := by
  rw [ExtTreeMap.getElem?_insert] at h
  split at h
  next heq =>
    cases h
    exact .inl ⟨(Std.LawfulEqCmp.eq_of_compare heq).symm, rfl⟩
  next hne =>
    refine .inr ⟨fun heq => hne ?_, h⟩
    rw [heq]
    exact Std.ReflCmp.compare_self

lemma getElem?_eraseLobby {lobbies : ExtTreeMap String Lobby} {id' : String} {l' : Lobby}
    (h : (lobbies.erase id)[id']? = some l') : id' ≠ id ∧ lobbies[id']? = some l' := by
  rw [ExtTreeMap.getElem?_erase] at h
  split at h
  · cases h
  next hne =>
    refine ⟨fun heq => hne ?_, h⟩
    rw [heq]
    exact Std.ReflCmp.compare_self

/-- A lobby is put in the place of none, or of one whose members include its own apart from users who
are in no lobby. -/
lemma Sound.put (hd : d.Sound) (hl : l.Ok)
    (hid : l.id = id) (hlobbies : d'.lobbies = d.lobbies.insert id l)
    (hmembers : ∀ u ∈ l.memberIds, d.lobbyOf u = none ∨
      ∃ old, d.lobbies[id]? = some old ∧ u ∈ old.memberIds)
    (hnext : d.nextLobby ≤ d'.nextLobby)
    (hcount : ∃ n, 0 < n ∧ n ≤ d'.nextLobby ∧ id = base36 n) : d'.Sound := by
  -- a member of the new record is in no lobby of another id
  have hother : ∀ (id' : String) (l' : Lobby) (u : String), id' ≠ id → d.lobbies[id']? = some l' →
      u ∈ l'.memberIds → u ∉ l.memberIds := by
    intro id' l' u hne hl' hu hin
    rcases hmembers u hin with hfree | ⟨old, hold, hmem⟩
    · exact lobbyOf_eq_none_iff.1 hfree id' l' hl' hu
    · exact hne (hd.apart id' id l' old u hl' hold hu hmem)
  refine ⟨?_, ?_, ?_, ?_⟩
  · intro id' l' hl'
    rw [hlobbies] at hl'
    rcases getElem?_putLobby hl' with ⟨rfl, rfl⟩ | ⟨_, hold⟩
    · exact hl
    · exact hd.ok id' l' hold
  · intro id' l' hl'
    rw [hlobbies] at hl'
    rcases getElem?_putLobby hl' with ⟨rfl, rfl⟩ | ⟨_, hold⟩
    · exact hid
    · exact hd.named id' l' hold
  · intro id₁ id₂ l₁ l₂ u h₁ h₂ hu₁ hu₂
    rw [hlobbies] at h₁ h₂
    rcases getElem?_putLobby h₁ with ⟨rfl, rfl⟩ | ⟨hne₁, hold₁⟩
    · rcases getElem?_putLobby h₂ with ⟨rfl, rfl⟩ | ⟨hne₂, hold₂⟩
      · rfl
      · exact absurd hu₁ (hother id₂ l₂ u hne₂ hold₂ hu₂)
    · rcases getElem?_putLobby h₂ with ⟨rfl, rfl⟩ | ⟨_, hold₂⟩
      · exact absurd hu₂ (hother id₁ l₁ u hne₁ hold₁ hu₁)
      · exact hd.apart id₁ id₂ l₁ l₂ u hold₁ hold₂ hu₁ hu₂
  · intro id' hid'
    rw [hlobbies, ExtTreeMap.mem_insert] at hid'
    rcases hid' with heq | hold
    · rw [← Std.LawfulEqCmp.eq_of_compare heq]
      exact hcount
    · obtain ⟨n, hpos, hle, heq⟩ := hd.counted id' hold
      exact ⟨n, hpos, Nat.le_trans hle hnext, heq⟩

lemma memberIds_withoutMember (l : Lobby) (u : String) :
    (withoutMember l u).memberIds = l.memberIds.filter fun v => v ≠ u := by
  simp only [withoutMember, Lobby.memberIds, filter_map]
  rfl

lemma ok_withoutMember (h : l.Ok)
    (hleft : (withoutMember l u).members.isEmpty = false) : (withoutMember l u).Ok := by
  have hids := memberIds_withoutMember l u
  refine ⟨by simpa using hleft, ?_, ?_, ?_, h.bots⟩
  · rw [hids]
    exact h.distinct.filter _
  · rw [hids, mem_filter]
    cases hm : l.members.filter (fun m => m.userId ≠ u) with
    | nil =>
      simp only [withoutMember, hm] at hleft
      cases hleft
    | cons next =>
      have hnext : next ∈ l.members.filter (fun m => m.userId ≠ u) := by
        rw [hm]
        simp
      obtain ⟨hmem, hne⟩ := mem_filter.1 hnext
      by_cases howner : l.ownerUserId = u
      · simp only [withoutMember, hm, howner, if_true]
        exact ⟨mem_map.2 ⟨next, hmem, rfl⟩, hne⟩
      · simp only [withoutMember, hm, howner, if_false]
        exact ⟨h.owned, by simpa using howner⟩
  · have hle : (withoutMember l u).members.length ≤ l.members.length := length_filter_le _ _
    have hroom := h.room
    have hmax : (withoutMember l u).maxMembers = l.maxMembers := rfl
    rw [hmax]
    omega

lemma mem_of_getElem? {lobbies : ExtTreeMap String Lobby} (h : lobbies[id]? = some l) :
    id ∈ lobbies :=
  ExtTreeMap.mem_iff_isSome_getElem?.2 (by simp [h])

/-- Lobbies may go. -/
lemma Sound.fewer (hd : d.Sound) (hsub : ∀ (id : String) l, d'.lobbies[id]? = some l →
    d.lobbies[id]? = some l) (hnext : d'.nextLobby = d.nextLobby) : d'.Sound := by
  refine ⟨fun id l h => hd.ok id l (hsub id l h), fun id l h => hd.named id l (hsub id l h),
    fun id id' l l' u h h' => hd.apart id id' l l' u (hsub id l h) (hsub id' l' h'), fun id h => ?_⟩
  rw [hnext]
  obtain ⟨l, hl⟩ := Option.isSome_iff_exists.1 (ExtTreeMap.mem_iff_isSome_getElem?.1 h)
  exact hd.counted id (mem_of_getElem? (hsub id l hl))

lemma Sound.step (hd : d.Sound) (h : LobbyStep u d d') : d'.Sound := by
  cases h with
  | same hlobbies hnext =>
    exact hd.fewer (fun _ _ hl => hlobbies ▸ hl) hnext
  | created owner maxMembers visibility attributes huser hfree hmax hlobbies =>
    have hone : (1 : Int32).toInt ≤ maxMembers.toInt := Int32.le_iff_toInt_le.1 hmax
    have hok : (newLobby (base36 (d.nextLobby + 1)) owner maxMembers visibility attributes).Ok :=
      ⟨by simp [newLobby], by simp [newLobby, memberIds], by simp [newLobby, memberIds],
        by simpa [newLobby] using hone, by simp [newLobby]⟩
    refine hd.put hok rfl hlobbies ?_ (by omega) ⟨d.nextLobby + 1, by omega, by omega, rfl⟩
    intro v hv
    left
    have : v = u := by simpa [newLobby, memberIds, huser] using hv
    rw [this]
    exact hfree
  | joined who id l huser hfree hl hseat hlobbies hnext =>
    have hok := hd.ok id l hl
    have hnot : u ∉ l.memberIds := lobbyOf_eq_none_iff.1 hfree id l hl
    have hids : memberIds { l with members := l.members ++ [who] } = l.memberIds ++ [u] := by
      simp [memberIds, huser]
    have hok' : Ok { l with members := l.members ++ [who] } := by
      refine ⟨by simp, ?_, ?_, ?_, hok.bots⟩
      · rw [hids]
        exact hok.distinct.append (by simp) (by simpa using hnot)
      · rw [hids]
        exact mem_append_left _ hok.owned
      · simpa using hok.seat hseat
    refine hd.put hok' (hd.named id l hl) hlobbies ?_ (by omega) ?_
    · intro u hu
      rw [hids] at hu
      rcases mem_append.1 hu with hu | hu
      · exact .inr ⟨l, hl, hu⟩
      · rw [mem_singleton.1 hu]
        exact .inl hfree
    · rw [hnext]
      exact hd.counted id (mem_of_getElem? hl)
  | left id l hl hmember hlobbies hnext =>
    by_cases hempty : (withoutMember l u).members.isEmpty = true
    · rw [if_pos hempty] at hlobbies
      refine hd.fewer (fun id' l' hl' => ?_) hnext
      rw [hlobbies] at hl'
      exact (getElem?_eraseLobby hl').2
    · rw [if_neg hempty] at hlobbies
      have hok := ok_withoutMember (hd.ok id l hl) (by simpa using hempty)
      refine hd.put hok (hd.named id l hl) hlobbies ?_ (by omega) ?_
      · intro u hu
        rw [memberIds_withoutMember] at hu
        exact .inr ⟨l, hl, (mem_filter.1 hu).1⟩
      · rw [hnext]
        exact hd.counted id (mem_of_getElem? hl)
  | edited id l l' hl howner hid hsame hmembers hmax hbots hlobbies hnext =>
    have hok := hd.ok id l hl
    have hids : l'.memberIds = l.memberIds := by
      simp only [memberIds, hmembers]
    have hroom := hok.room
    have hlt := l.maxMembers.toInt_lt
    have hok' : l'.Ok := by
      refine ⟨by rw [hmembers]; exact hok.inhabited, by rw [hids]; exact hok.distinct,
        by rw [hids, hsame]; exact hok.owned, ?_, ?_⟩
      · rw [hmembers]
        rcases hmax with heq | hle
        · rw [heq]
          exact hok.room
        · rw [← toInt_memberCount (l := l) (by omega)]
          exact Int32.le_iff_toInt_le.1 hle
      · rcases hbots with heq | hle
        · rw [heq]
          exact hok.bots
        · exact Int32.le_iff_toInt_le.1 hle
    refine hd.put hok' (hid.trans (hd.named id l hl)) hlobbies ?_ (by omega) ?_
    · intro u hu
      rw [hids] at hu
      exact .inr ⟨l, hl, hu⟩
    · rw [hnext]
      exact hd.counted id (mem_of_getElem? hl)

end Directory

end Don.Crossplay
