import XianyuAdmin.Core.Latest
import XianyuAdmin.Core.Stripping
import XianyuAdmin.Messages.Conversations

/-!
# The name of a peer

Messages and conversation summaries tell the name of a peer, in whatever order they arrive.
The identity row keeps the newest name.  An observation without a usable name leaves the row
as it is; where there is none yet, it may make one of the name that the conversation already
shows, its fallback.
-/

namespace XianyuAdmin.Messages

open XianyuAdmin.Python

section Names

variable {library : TextLibrary} {peerUserId : Option String}

theorem normalizePeerName_eq_some {value name : Option String}
    (hname : normalizePeerName library peerUserId value = name) (hsome : name.isSome) :
    ∃ text, value = some text ∧ name = some (strip text) ∧ strip text ≠ "" := by
  cases value with
  | none =>
      rw [← hname] at hsome
      cases hsome
  | some text =>
      refine ⟨text, rfl, ?_⟩
      simp only [normalizePeerName] at hname
      split at hname
      · rw [← hname] at hsome
        cases hsome
      · rename_i hempty
        split at hname
        · rw [← hname] at hsome
          cases hsome
        · split at hname
          · rw [← hname] at hsome
            cases hsome
          · exact ⟨hname.symm, hempty⟩

theorem ne_empty_of_normalizePeerName {value : Option String} {name : String}
    (hname : normalizePeerName library peerUserId value = some name) : name ≠ "" := by
  obtain ⟨text, -, hstrip, hne⟩ := normalizePeerName_eq_some hname rfl
  exact Option.some.inj hstrip ▸ hne

theorem normalizePeerName_self {value : Option String} {name : String}
    (hname : normalizePeerName library peerUserId value = some name) :
    normalizePeerName library peerUserId (some name) = some name := by
  obtain ⟨text, rfl, hstrip, -⟩ := normalizePeerName_eq_some hname rfl
  have hsame : strip name = strip text := by
    rw [Option.some.inj hstrip, strip_strip]
  calc normalizePeerName library peerUserId (some name)
      = normalizePeerName library peerUserId (some text) := by
        simp only [normalizePeerName, hsame]
    _ = some name := hname

end Names

/-- What `_merge_peer_identity` is told. -/
structure NameObservation where
  candidate : Option String
  fallback : Option String
  source : String
  observedAt : ℤ

def NameObservation.name? (library : TextLibrary) (peerUserId : Option String)
    (observation : NameObservation) : Option String :=
  normalizePeerName library peerUserId observation.candidate

/-- The identity row after `_merge_peer_identity`. -/
def observeName (library : TextLibrary) (peerUserId : Option String)
    (identity : Option PeerIdentity) (observation : NameObservation) : Option PeerIdentity :=
  (mergePeerIdentity library peerUserId observation.candidate observation.fallback
    observation.source observation.observedAt identity).2

def observeNames (library : TextLibrary) (peerUserId : Option String)
    (identity : Option PeerIdentity) (observations : List NameObservation) :
    Option PeerIdentity :=
  observations.foldl (observeName library peerUserId) identity

def NameObservation.identity (observation : NameObservation) (name : String) : PeerIdentity where
  displayName := name
  source := observation.source
  lastSeenAt := observation.observedAt

section Observations

variable {library : TextLibrary} {peerUserId : Option String}
  {observation : NameObservation} {identity : PeerIdentity} {name : String}

theorem truthy_of_name (hname : observation.name? library peerUserId = some name) :
    truthy (some name) = true := truthy_some.mpr (ne_empty_of_normalizePeerName hname)

/-- The first name makes the row. -/
theorem observeName_none (hpeer : truthy peerUserId = true)
    (hname : observation.name? library peerUserId = some name) :
    observeName library peerUserId none observation = some (observation.identity name) := by
  have hcandidate : normalizePeerName library peerUserId observation.candidate = some name := hname
  have htruthy := truthy_of_name hname
  simp [observeName, mergePeerIdentity, hpeer, hcandidate, htruthy, orElse, NameObservation.identity]

/-- A name replaces another that is not newer. -/
theorem observeName_some (hpeer : truthy peerUserId = true)
    (hname : observation.name? library peerUserId = some name)
    (hcurrent : normalizePeerName library peerUserId (some identity.displayName) =
      some identity.displayName) :
    observeName library peerUserId (some identity) observation =
      some (if identity.lastSeenAt ≤ observation.observedAt then observation.identity name
        else identity) := by
  have hcandidate : normalizePeerName library peerUserId observation.candidate = some name := hname
  have htruthy := truthy_of_name hname
  have hshown : truthy (some identity.displayName) = true :=
    truthy_some.mpr (ne_empty_of_normalizePeerName hcurrent)
  by_cases hnewer : identity.lastSeenAt ≤ observation.observedAt
  · simp [observeName, mergePeerIdentity, hpeer, hcandidate, hcurrent, htruthy, hshown, hnewer,
      orElse, NameObservation.identity]
  · simp [observeName, mergePeerIdentity, hpeer, hcandidate, hcurrent, hshown, hnewer, orElse]

/-- An observation without a usable name leaves a row as it is. -/
theorem observeName_of_unnamed (hname : observation.name? library peerUserId = none) :
    observeName library peerUserId (some identity) observation = some identity := by
  have hcandidate : normalizePeerName library peerUserId observation.candidate = none := hname
  simp only [observeName, mergePeerIdentity, hcandidate, truthy_none, Bool.false_and,
    Bool.false_eq_true, if_false]
  split
  · rfl
  · split <;> rfl

/-- Where there is no row, it makes one of its fallback. -/
theorem observeName_none_of_unnamed (hpeer : truthy peerUserId = true)
    (hname : observation.name? library peerUserId = none) :
    observeName library peerUserId none observation =
      (normalizePeerName library peerUserId observation.fallback).map observation.identity := by
  have hcandidate : normalizePeerName library peerUserId observation.candidate = none := hname
  have hnone : normalizePeerName library peerUserId none = none := rfl
  cases hfallback : normalizePeerName library peerUserId observation.fallback with
  | none =>
      simp [observeName, mergePeerIdentity, hpeer, hcandidate, hfallback, hnone, orElse]
  | some shown =>
      have htruthy : truthy (some shown) = true :=
        truthy_some.mpr (ne_empty_of_normalizePeerName hfallback)
      simp [observeName, mergePeerIdentity, hpeer, hcandidate, hfallback, hnone, orElse, htruthy,
        NameObservation.identity]

end Observations

section Convergence

variable {library : TextLibrary} {peerUserId : Option String}

def Shows (library : TextLibrary) (peerUserId : Option String) (latest : Option NameObservation)
    (identity : Option PeerIdentity) : Prop :=
  identity = latest.bind fun observation =>
    (observation.name? library peerUserId).map observation.identity

theorem shows_latest (hpeer : truthy peerUserId = true) {observations : List NameObservation}
    (hnamed : ∀ observation ∈ observations, (observation.name? library peerUserId).isSome) :
    ∃ latest, IsLatest NameObservation.observedAt (fun _ => true) observations latest ∧
      Shows library peerUserId latest (observeNames library peerUserId none observations) := by
  induction observations using List.reverseRecOn with
  | nil => exact ⟨none, .nil, rfl⟩
  | append_singleton observations observation ih =>
      obtain ⟨latest, hlatest, hshows⟩ := ih fun earlier hearlier =>
        hnamed earlier (List.mem_append_left _ hearlier)
      obtain ⟨name, hname⟩ := Option.isSome_iff_exists.mp
        (hnamed observation (List.mem_append_right _ List.mem_cons_self))
      have hafter : observeNames library peerUserId none (observations ++ [observation]) =
          observeName library peerUserId (observeNames library peerUserId none observations)
            observation := List.foldl_append
      cases latest with
      | none =>
          refine ⟨some observation, hlatest.append_newer rfl (fun _ hmem => by cases hmem), ?_⟩
          rw [Shows, hafter, hshows, Option.bind_none, observeName_none hpeer hname,
            Option.bind_some, hname, Option.map_some]
      | some last =>
          obtain ⟨shown, hshown⟩ := Option.isSome_iff_exists.mp
            (hnamed last (List.mem_append_left _ hlatest.1))
          have hrow : observeNames library peerUserId none observations =
              some (last.identity shown) := by
            rw [hshows, Option.bind_some, hshown, Option.map_some]
          have hstep : observeName library peerUserId (some (last.identity shown)) observation =
              some (if last.observedAt ≤ observation.observedAt then observation.identity name
                else last.identity shown) :=
            observeName_some hpeer hname (normalizePeerName_self hshown)
          by_cases hnewer : last.observedAt ≤ observation.observedAt
          · refine ⟨some observation, hlatest.append_newer rfl ?_, ?_⟩
            · intro held hheld
              exact Option.some.inj (Option.mem_def.mp hheld) ▸ hnewer
            · rw [Shows, hafter, hrow, hstep, if_pos hnewer, Option.bind_some, hname,
                Option.map_some]
          · refine ⟨some last, hlatest.append_older (le_of_not_ge hnewer), ?_⟩
            rw [Shows, hafter, hrow, hstep, if_neg hnewer, Option.bind_some, hshown,
              Option.map_some]

/-- Names that were observed at different times leave the newest of them, in whatever order
they arrive.  Without a usable name an observation changes no row, and makes one of its
fallback where there is none. -/
theorem peerName_converges (hpeer : truthy peerUserId = true) :
    (∀ (observations : List NameObservation) (newest : NameObservation),
      (∀ observation ∈ observations, (observation.name? library peerUserId).isSome) →
      (observations.map NameObservation.observedAt).Nodup → newest ∈ observations →
      (∀ observation ∈ observations, observation.observedAt ≤ newest.observedAt) →
      ∃ identity, observeNames library peerUserId none observations = some identity ∧
        newest.name? library peerUserId = some identity.displayName ∧
        identity.lastSeenAt = newest.observedAt) ∧
    (∀ (observation : NameObservation) (identity : PeerIdentity),
      observation.name? library peerUserId = none →
      observeName library peerUserId (some identity) observation = some identity) ∧
    ∀ observation : NameObservation, observation.name? library peerUserId = none →
      observeName library peerUserId none observation =
        (normalizePeerName library peerUserId observation.fallback).map observation.identity := by
  refine ⟨?_, fun _ _ => observeName_of_unnamed, fun _ => observeName_none_of_unnamed hpeer⟩
  intro observations newest hnamed htimes hnewest hgreatest
  obtain ⟨latest, hlatest, hshows⟩ := shows_latest hpeer hnamed
  have hkeys : Set.InjOn NameObservation.observedAt {row | row ∈ observations} :=
    List.inj_on_of_nodup_map htimes
  have hsame : latest = some newest :=
    hlatest.unique hkeys ⟨hnewest, rfl, fun observation hmem _ => hgreatest observation hmem⟩
  obtain ⟨name, hname⟩ := Option.isSome_iff_exists.mp (hnamed newest hnewest)
  refine ⟨newest.identity name, ?_, hname, rfl⟩
  rw [hshows, hsame, Option.bind_some, hname, Option.map_some]

/-- A message without a name that arrives first makes a row of the conversation's name, and
the name that was observed before it is not shown any more. -/
theorem fallback_hides_name :
    ¬ ∀ (observations : List NameObservation) (newest : NameObservation),
      newest ∈ observations → (newest.name? (tabulated []) (some "7")).isSome →
      (observations.map NameObservation.observedAt).Nodup →
      (∀ observation ∈ observations, (observation.name? (tabulated []) (some "7")).isSome →
        observation.observedAt ≤ newest.observedAt) →
      (observeNames (tabulated []) (some "7") none observations).map PeerIdentity.displayName =
        newest.name? (tabulated []) (some "7") := by
  intro hall
  have hshown := hall
    [⟨none, some "old", "message", 10⟩, ⟨some "new", none, "message", 5⟩]
    ⟨some "new", none, "message", 5⟩ (by simp) (by decide) (by decide) (by decide)
  revert hshown
  decide

/-- Two names, of which the newer arrives first. -/
theorem peerName_converges_pair :
    ∃ identity, observeNames (tabulated []) (some "7") none
        [⟨some "new", none, "message", 10⟩, ⟨some "old", none, "message", 5⟩] = some identity ∧
      NameObservation.name? (tabulated []) (some "7") ⟨some "new", none, "message", 10⟩ =
        some identity.displayName ∧ identity.lastSeenAt = 10 :=
  (peerName_converges (by decide)).1 [⟨some "new", none, "message", 10⟩,
    ⟨some "old", none, "message", 5⟩] ⟨some "new", none, "message", 10⟩
    (by decide) (by decide) (by simp) (by decide)

end Convergence

end XianyuAdmin.Messages
