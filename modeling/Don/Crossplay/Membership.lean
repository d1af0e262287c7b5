import Don.Crossplay.Invariant

/-!
# Membership — who is where

The operations of a directory as moves of one user: into a lobby, out of one, or neither.
-/

namespace Don.Crossplay

open List Lobby

open Std (ExtTreeMap)

namespace Directory

/-! ## Membership -/

def MemberAt (d : Directory) (u id : String) : Prop :=
  ∃ l : Lobby, d.lobbies[id]? = some l ∧ u ∈ l.memberIds

variable {d : Directory} {u : String}

lemma lobbyOf_eq_none_iff_memberAt : d.lobbyOf u = none ↔ ∀ id, ¬ d.MemberAt u id := by
  rw [lobbyOf_eq_none_iff]
  constructor
  · rintro h id ⟨l, hl, hu⟩
    exact h id l hl hu
  · intro h id l hl hu
    exact h id ⟨l, hl, hu⟩

variable {id : String}

lemma Sound.lobbyOf_id_iff (hd : d.Sound) :
    (d.lobbyOf u).map Lobby.id = some id ↔ d.MemberAt u id := by
  constructor
  · intro h
    obtain ⟨l, hl, rfl⟩ := Option.map_eq_some_iff.1 h
    obtain ⟨⟨id, hid⟩, hu⟩ := of_lobbyOf_eq_some hl
    exact ⟨l, (hd.named id l hid).symm ▸ hid, hu⟩
  · rintro ⟨l, hl, hu⟩
    cases hfound : d.lobbyOf u with
    | none => exact absurd hu (lobbyOf_eq_none_iff.1 hfound id l hl)
    | some l' =>
      obtain ⟨⟨id', hid'⟩, hu'⟩ := of_lobbyOf_eq_some hfound
      have hsame := hd.apart id' id l' l u hid' hl hu' hu
      rw [Option.map_some, hd.named id' l' hid', hsame]

variable {d d' : Directory}

lemma memberAt_congr (h : d'.lobbies = d.lobbies) : d'.MemberAt u id ↔ d.MemberAt u id := by
  unfold MemberAt
  rw [h]

variable {l : Lobby}

lemma memberAt_insert (h : d'.lobbies = d.lobbies.insert id l) {id' : String} :
    d'.MemberAt u id' ↔ (id' = id ∧ u ∈ l.memberIds) ∨ (id' ≠ id ∧ d.MemberAt u id') := by
  unfold MemberAt
  rw [h]
  constructor
  · rintro ⟨l', hl', hu⟩
    rcases getElem?_putLobby hl' with ⟨rfl, rfl⟩ | ⟨hne, hold⟩
    · exact .inl ⟨rfl, hu⟩
    · exact .inr ⟨hne, l', hold, hu⟩
  · rintro (⟨rfl, hu⟩ | ⟨hne, l', hl', hu⟩)
    · exact ⟨l, by simp, hu⟩
    · refine ⟨l', ?_, hu⟩
      rw [ExtTreeMap.getElem?_insert, if_neg fun heq => hne (Std.LawfulEqCmp.eq_of_compare heq).symm]
      exact hl'

/-- The user is now in this lobby, too. -/
def Enters (u id : String) (d d' : Directory) : Prop :=
  (∀ id', ¬ d.MemberAt u id') ∧
    ∀ v id', d'.MemberAt v id' ↔ d.MemberAt v id' ∨ (v = u ∧ id' = id)

/-- The user is no longer in this lobby. -/
def Exits (u id : String) (d d' : Directory) : Prop :=
  d.MemberAt u id ∧ ∀ v id', d'.MemberAt v id' ↔ d.MemberAt v id' ∧ ¬ (v = u ∧ id' = id)

/-- Nobody has moved. -/
def Stays (d d' : Directory) : Prop :=
  ∀ v id', d'.MemberAt v id' ↔ d.MemberAt v id'

lemma create_enters (hd : d.Sound) {owner : Member} {maxMembers visibility : Int32}
    {attributes : Attributes}
    (h : d.create owner maxMembers visibility attributes = some (.ok l, d')) :
    Enters owner.userId l.id d d' := by
  unfold create at h
  split at h
  · cases h
  next hfree =>
    split at h
    · cases h
    split at h
    · cases h
      have hnone : d.lobbyOf owner.userId = none := by simpa using hfree
      refine ⟨lobbyOf_eq_none_iff_memberAt.1 hnone, ?_⟩
      intro v id'
      have hfresh : ¬ d.MemberAt v (base36 (d.nextLobby + 1)) := by
        rintro ⟨l', hl', -⟩
        obtain ⟨n, hpos, hle, heq⟩ := hd.counted _ (ExtTreeMap.mem_iff_isSome_getElem?.2
          (by simp [hl'] : (d.lobbies[base36 (d.nextLobby + 1)]?).isSome = true))
        have := base36_inj (Nat.succ_pos _) hpos heq
        omega
      rw [memberAt_insert (d := d) rfl]
      have hids : (newLobby (base36 (d.nextLobby + 1)) owner maxMembers visibility attributes).memberIds
          = [owner.userId] := rfl
      rw [hids, mem_singleton]
      by_cases hid : id' = base36 (d.nextLobby + 1)
      · subst hid
        simp [newLobby, hfresh]
      · simp [newLobby, hid]
    · cases h

lemma join_enters (hd : d.Sound) {who : Member}
    (h : d.join who id = (.ok l, d')) : l.id = id ∧ Enters who.userId id d d' := by
  unfold join at h
  split at h
  · cases h
  next hfree =>
    split at h
    · cases h
    next old hold =>
      split at h
      · cases h
      split at h
      · cases h
      cases h
      have hnone : d.lobbyOf who.userId = none := by simpa using hfree
      refine ⟨hd.named id old hold, lobbyOf_eq_none_iff_memberAt.1 hnone, ?_⟩
      intro v id'
      rw [memberAt_insert (d := d) (lobbies_announce _ _ _ _)]
      have hids : memberIds { old with members := old.members ++ [who] }
          = old.memberIds ++ [who.userId] := by
        simp [memberIds]
      rw [hids, mem_append, mem_singleton]
      by_cases hid : id' = id
      · subst hid
        have hmem : d.MemberAt v id' ↔ v ∈ old.memberIds := by
          simp [MemberAt, hold]
        simp [hmem]
      · simp [hid]

lemma leave_exits (h : d.leave u id = (.ok (), d')) : Exits u id d d' := by
  unfold leave at h
  split at h
  · cases h
  next l hl =>
    split at h
    next hmember =>
      cases h
      have hu := isMember_iff.1 hmember
      refine ⟨⟨l, hl, hu⟩, ?_⟩
      intro v id'
      have hold : d.MemberAt v id ↔ v ∈ l.memberIds := by
        simp [MemberAt, hl]
      rw [memberAt_congr (lobbies_announce _ _ _ _)]
      split
      next hempty =>
        -- the last member is gone, and so is the lobby
        have hnobody : ∀ w ∈ l.memberIds, w = u := by
          intro w hw
          by_contra hne
          have hin : w ∈ (withoutMember l u).memberIds := by
            rw [memberIds_withoutMember, mem_filter]
            exact ⟨hw, by simpa using hne⟩
          rw [memberIds, isEmpty_iff.1 hempty] at hin
          simp at hin
        by_cases hid : id' = id
        · subst hid
          constructor
          · rintro ⟨l', hl', -⟩
            exact absurd rfl (getElem?_eraseLobby hl').1
          · rintro ⟨hv, hnot⟩
            exact absurd ⟨hnobody v (hold.1 hv), rfl⟩ hnot
        · constructor
          · rintro ⟨l', hl', hv⟩
            exact ⟨⟨l', (getElem?_eraseLobby hl').2, hv⟩, fun hboth => hid hboth.2⟩
          · rintro ⟨⟨l', hl', hv⟩, -⟩
            refine ⟨l', ?_, hv⟩
            dsimp only
            rw [ExtTreeMap.getElem?_erase,
              if_neg fun heq => hid (Std.LawfulEqCmp.eq_of_compare heq).symm]
            exact hl'
      · rw [memberAt_insert (d := d) rfl, memberIds_withoutMember, mem_filter]
        by_cases hid : id' = id
        · subst hid
          simp [hold]
        · simp [hid]
    · cases h

lemma leave_of_memberAt (h : d.MemberAt u id) : ∃ d', d.leave u id = (.ok (), d') := by
  obtain ⟨l, hl, hu⟩ := h
  unfold leave
  simp only [hl, isMember_iff.2 hu, if_true]
  exact ⟨_, rfl⟩

lemma stays_of_edit {l' : Lobby}
    (hl : d.lobbies[id]? = some l) (hmembers : l'.members = l.members) : Stays d (d.putLobby id l') := by
  intro v id'
  rw [memberAt_insert (d := d) rfl]
  by_cases hid : id' = id
  · subst hid
    simp [MemberAt, hl, memberIds, hmembers]
  · simp [hid]

lemma update_stays {maxMembers botCount : Int32} {attributes : Attributes} {r : Returns Lobby}
    (h : d.update u id maxMembers botCount attributes = some r) : Stays d r.2 := by
  unfold update at h
  split at h
  · cases h
    exact fun _ _ => Iff.rfl
  next l hl =>
    split at h
    · cases h
      exact fun _ _ => Iff.rfl
    split at h
    · cases h
      exact fun _ _ => Iff.rfl
    · split at h
      · cases h
        exact stays_of_edit hl rfl
      · cases h

lemma startGame_stays (d : Directory) (u id reference : String) :
    Stays d (d.startGame u id reference).2 := by
  unfold startGame
  split
  · exact fun _ _ => Iff.rfl
  next l hl =>
    split
    · exact fun _ _ => Iff.rfl
    · split
      · exact fun _ _ => Iff.rfl
      · exact stays_of_edit hl rfl

lemma cancelGameStart_stays (d : Directory) (u id : String) :
    Stays d (d.cancelGameStart u id).2 := by
  unfold cancelGameStart
  split
  · exact fun _ _ => Iff.rfl
  next l hl =>
    split
    · exact fun _ _ => Iff.rfl
    · exact stays_of_edit hl rfl

end Directory

end Don.Crossplay
