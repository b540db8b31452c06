import Mathlib

/-!
# Deleting browser profiles

The profiles of the accounts are the directories below the profile root, and those of QR sessions
the directories below its `_qr`.  A profile is named by a key, and a link may stand for it.
-/

namespace XianyuAdmin.Browsers.ProfileDeletion

/-- The names on the way down from `/`. -/
abbrev Path := List String

inductive Node
  | directory
  | file
  | link (target : Option Path)
  deriving DecidableEq

structure FileSystem where
  node : Path → Option Node
  names : Path → List String
  mem_names : ∀ path name, name ∈ names path ↔ node (path ++ [name]) ≠ none
  parent : ∀ path name, node (path ++ [name]) ≠ none → node path = some .directory
  target : ∀ path target, node path = some (.link (some target)) →
    node target = some .directory ∨ node target = some .file

structure Process where
  arguments : List String
  userDataDir : Option Path

structure ActiveSession where
  /-- `temporary_profile.name` -/
  temporaryProfile : Option String
  accountId : Option String

inductive ProfileType
  | account
  | qr
  deriving DecidableEq

inductive ClearError
  | valueError (text : String)
  | verificationBusy (text : String)
  deriving DecidableEq

variable (fs : FileSystem) (processes : List Process) (actives : List ActiveSession) (root : Path)

/-- `account_profile_key`, `qr_profile_key` -/
def profileKey : ProfileType → String → String
  | .account, name => "account:" ++ name
  | .qr, name => "qr:" ++ name

def activeProfileKey (active : ActiveSession) : Option String :=
  match active.temporaryProfile with
  | some name => some (profileKey .qr name)
  | none => (active.accountId.filter (· ≠ "")).map (profileKey .account)

/-- `str(path)` -/
def pathText (path : Path) : String := "/" ++ String.intercalate "/" path

/-- `_path_in_use`, of a directory. -/
def pathInUse (directory : Path) : Bool :=
  processes.any fun process =>
    pathText directory ∈ process.arguments ||
      ("--user-data-dir=" ++ pathText directory) ∈ process.arguments

def isProfile (path : Path) : Bool :=
  match fs.node path with
  | some .directory | some (.link _) => true
  | _ => false

/-- `SAFE_DIRECTORY_NAME` -/
def isSafeName (name : List Char) : Bool :=
  1 ≤ name.length && name.length ≤ 128 &&
    name.all fun char => char.isAlphanum || char = '_' || char = '.' || char = '-'

/-- `_direct_child`, of a name that is safe. -/
def directChild (profileType : ProfileType) (name : String) :
    Except ClearError (ProfileType × String) :=
  if name = "." ∨ name = ".." then .error (.valueError "invalid browser profile directory")
  else .ok (profileType, name)

def profilePath (key : String) : Except ClearError (ProfileType × String) :=
  match key.toList.dropWhile (· ≠ ':') with
  | [] => .error (.valueError "invalid browser profile key")
  | _ :: name =>
      if !isSafeName name then .error (.valueError "invalid browser profile key")
      else if key.toList.takeWhile (· ≠ ':') = "account".toList then
        directChild .account (String.ofList name)
      else if key.toList.takeWhile (· ≠ ':') = "qr".toList then
        directChild .qr (String.ofList name)
      else .error (.valueError "invalid browser profile type")

/-- Where the path leads; a link at `_qr` is followed. -/
def placeOf : ProfileType → String → Option Path
  | .account, name => some (root ++ [name])
  | .qr, name =>
      match fs.node (root ++ ["_qr"]) with
      | some .directory => some (root ++ ["_qr"] ++ [name])
      | some (.link (some target)) => some (target ++ [name])
      | _ => none

structure ProfileDirectory where
  profileKey : String
  directoryName : String
  place : Path
  inUse : Bool
  manageable : Bool

/-- `_profile_record`; a link is not in use. -/
def profileRecord (profileType : ProfileType) (parent : Path) (name : String) : ProfileDirectory where
  profileKey := profileKey profileType name
  directoryName := name
  place := parent ++ [name]
  inUse := fs.node (parent ++ [name]) = some .directory && pathInUse processes (parent ++ [name])
  manageable := isSafeName name.toList

def listProfiles : List ProfileDirectory :=
  if fs.node root = none then []
  else
    (fs.names root).flatMap fun name =>
      if name = "_qr" then
        if fs.node (root ++ ["_qr"]) = some .directory then
          ((fs.names (root ++ ["_qr"])).filter fun child =>
            isProfile fs (root ++ ["_qr"] ++ [child])).map
              (profileRecord fs processes .qr (root ++ ["_qr"]))
        else []
      else if isProfile fs (root ++ [name]) then [profileRecord fs processes .account root name]
      else []

/-- What is left without a link, or without a directory and all below it. -/
def removed (place path : Path) : Option Node :=
  match fs.node place with
  | some (.link _) => if path = place then none else fs.node path
  | _ => if place <+: path then none else fs.node path

def deleteDirectory (place : Option Path) : Except ClearError Bool × (Path → Option Node) :=
  match place with
  | none => (.ok false, fs.node)
  | some place =>
      match fs.node place with
      | some (.link _) => (.ok true, removed fs place)
      | none => (.ok false, fs.node)
      | some .file => (.error (.valueError "browser profile is not a directory"), fs.node)
      | some .directory =>
          if pathInUse processes place then
            (.error (.verificationBusy "该浏览器目录仍被进程占用，请先停止会话"), fs.node)
          else (.ok true, removed fs place)

/-- `clear_browser_profile`, and what it leaves. -/
def clearBrowserProfile (key : String) : Except ClearError Bool × (Path → Option Node) :=
  if actives.any fun active => activeProfileKey active = some key then
    (.error (.verificationBusy "该浏览器目录正在运行，请先停止会话"), fs.node)
  else
    match profilePath key with
    | .error failure => (.error failure, fs.node)
    | .ok (profileType, name) => deleteDirectory fs processes (placeOf fs root profileType name)

variable {fs processes actives root} {key name other : String} {profileType : ProfileType}
variable {first second profile : ProfileDirectory} {place path : Path}

theorem profilePath_ok (hkey : profilePath key = .ok (profileType, name)) :
    key = profileKey profileType name := by
  have hsplit : key.toList.takeWhile (· ≠ ':') ++ key.toList.dropWhile (· ≠ ':') = key.toList :=
    List.takeWhile_append_dropWhile
  have hchild {found : ProfileType} {text : String}
      (hdirect : directChild found text = .ok (profileType, name)) :
      found = profileType ∧ text = name := by
    unfold directChild at hdirect
    split at hdirect
    · cases hdirect
    · cases hdirect
      exact ⟨rfl, rfl⟩
  unfold profilePath at hkey
  cases hdrop : key.toList.dropWhile (· ≠ ':') with
  | nil => rw [hdrop] at hkey; cases hkey
  | cons colon rest =>
      have hcolon : colon = ':' := by
        have hhead := List.head?_dropWhile_not (· ≠ ':') key.toList
        rw [hdrop] at hhead
        simpa using hhead
      subst hcolon
      rw [hdrop] at hkey hsplit
      dsimp only at hkey
      split at hkey
      · cases hkey
      · refine String.ext (hsplit.symm.trans ?_)
        split at hkey
        · rename_i haccount
          obtain ⟨rfl, rfl⟩ := hchild hkey
          rw [haccount]
          simp [profileKey]
        · split at hkey
          · rename_i hqr
            obtain ⟨rfl, rfl⟩ := hchild hkey
            rw [hqr]
            simp [profileKey]
          · cases hkey

theorem profileKey_inj {otherType : ProfileType}
    (hkey : profileKey profileType name = profileKey otherType other) :
    profileType = otherType ∧ name = other := by
  have hchars := congrArg String.toList hkey
  cases profileType <;> cases otherType <;>
    simp only [profileKey, String.toList_append] at hchars
  · exact ⟨rfl, String.ext (List.append_cancel_left hchars)⟩
  · exact absurd (congrArg List.head? hchars) (by simp)
  · exact absurd (congrArg List.head? hchars) (by simp)
  · exact ⟨rfl, String.ext (List.append_cancel_left hchars)⟩

variable (fs root) in
def IsListed (profileType : ProfileType) (name : String) (parent : Path) : Prop :=
  isProfile fs (parent ++ [name]) = true ∧
    ((profileType = .account ∧ name ≠ "_qr" ∧ parent = root) ∨
      (profileType = .qr ∧ fs.node (root ++ ["_qr"]) = some .directory ∧
        parent = root ++ ["_qr"]))

theorem ne_none_of_isProfile (hprofile : isProfile fs path = true) : fs.node path ≠ none := by
  intro hnone
  rw [isProfile, hnone] at hprofile
  cases hprofile

theorem mem_listProfiles :
    profile ∈ listProfiles fs processes root ↔
      ∃ profileType name parent, IsListed fs root profileType name parent ∧
        profile = profileRecord fs processes profileType parent name := by
  unfold listProfiles
  constructor
  · intro hmem
    split at hmem
    · exact absurd hmem List.not_mem_nil
    · obtain ⟨name, -, hmem⟩ := List.mem_flatMap.mp hmem
      split at hmem
      · split at hmem
        · rename_i hqr
          obtain ⟨child, hchild, rfl⟩ := List.mem_map.mp hmem
          exact ⟨.qr, child, _, ⟨(List.mem_filter.mp hchild).2, .inr ⟨rfl, hqr, rfl⟩⟩, rfl⟩
        · exact absurd hmem List.not_mem_nil
      · rename_i hname
        split at hmem
        · rename_i hprofile
          exact ⟨.account, name, root, ⟨hprofile, .inl ⟨rfl, hname, rfl⟩⟩,
            List.mem_singleton.mp hmem⟩
        · exact absurd hmem List.not_mem_nil
  · rintro ⟨_, name, _, ⟨hprofile, ⟨rfl, hname, rfl⟩ | ⟨rfl, hqr, rfl⟩⟩, rfl⟩
    · have hnode := ne_none_of_isProfile hprofile
      rw [if_neg (by rw [fs.parent _ _ hnode]; nofun)]
      refine List.mem_flatMap.mpr ⟨name, (fs.mem_names _ _).mpr hnode, ?_⟩
      rw [if_neg hname, if_pos hprofile]
      exact List.mem_singleton_self _
    · have hnode : fs.node (root ++ ["_qr"]) ≠ none := by rw [hqr]; nofun
      rw [if_neg (by rw [fs.parent _ _ hnode]; nofun)]
      refine List.mem_flatMap.mpr ⟨"_qr", (fs.mem_names _ _).mpr hnode, ?_⟩
      rw [if_pos rfl, if_pos hqr]
      refine List.mem_map.mpr ⟨name, List.mem_filter.mpr ⟨?_, hprofile⟩, rfl⟩
      exact (fs.mem_names _ _).mpr (ne_none_of_isProfile hprofile)

theorem eq_of_step_below {parent : Path} (hfirst : parent ++ [name] <+: path)
    (hsecond : parent ++ [other] <+: path) : name = other := by
  have hsame := List.prefix_of_prefix_length_le hfirst hsecond (by simp)
  have heq := hsame.eq_of_length (by simp)
  exact List.singleton_injective (List.append_cancel_left heq)

theorem eq_of_prefix (hfirst : first ∈ listProfiles fs processes root)
    (hsecond : second ∈ listProfiles fs processes root) (hbelow : first.place <+: path)
    (hother : second.place <+: path) : first = second := by
  obtain ⟨_, name, _, ⟨-, ⟨rfl, hname, rfl⟩ | ⟨rfl, -, rfl⟩⟩, rfl⟩ := mem_listProfiles.mp hfirst <;>
  obtain ⟨_, other, _, ⟨-, ⟨rfl, hne, rfl⟩ | ⟨rfl, -, rfl⟩⟩, rfl⟩ := mem_listProfiles.mp hsecond
  · rw [eq_of_step_below hbelow hother]
  · exact absurd (eq_of_step_below hbelow ((List.prefix_append _ _).trans hother)) hname
  · exact absurd (eq_of_step_below hother ((List.prefix_append _ _).trans hbelow)) hne
  · rw [eq_of_step_below hbelow hother]

theorem removed_of_link {target : Option Path} (hlink : fs.node place = some (.link target)) :
    removed fs place path = if path = place then none else fs.node path := by
  rw [removed, hlink]

theorem removed_of_directory (hdirectory : fs.node place = some .directory) :
    removed fs place path = if place <+: path then none else fs.node path := by
  rw [removed, hdirectory]

theorem removed_self : removed fs place place = none := by
  unfold removed
  split
  · exact if_pos rfl
  · exact if_pos (List.prefix_refl place)

theorem removed_of_ne (hne : path ≠ place)
    (hbelow : ¬(fs.node place = some .directory ∧ place <+: path))
    (hprofile : isProfile fs place = true) : removed fs place path = fs.node path := by
  unfold isProfile at hprofile
  split at hprofile
  · rename_i hdirectory
    rw [removed_of_directory hdirectory]
    exact if_neg fun hprefix => hbelow ⟨hdirectory, hprefix⟩
  · rename_i hlink
    rw [removed_of_link hlink]
    exact if_neg hne
  · cases hprofile

theorem clear_of_profile (hactive : ∀ active ∈ actives, activeProfileKey active ≠ some key)
    (hkey : profilePath key = .ok (profileType, name))
    (hplace : placeOf fs root profileType name = some place)
    (hprofile : isProfile fs place = true)
    (hidle : fs.node place = some .directory → pathInUse processes place = false) :
    clearBrowserProfile fs processes actives root key = (.ok true, removed fs place) := by
  have hnone : ¬(actives.any fun active => activeProfileKey active = some key) = true := by
    simpa using hactive
  rw [clearBrowserProfile, if_neg hnone, hkey]
  dsimp only
  rw [hplace, deleteDirectory]
  unfold isProfile at hprofile
  split at hprofile
  · rename_i hdirectory
    simp only [hdirectory, hidle hdirectory, Bool.false_eq_true, if_false]
  · rename_i hlink
    simp only [hlink]
  · cases hprofile

/-- The call leaves everything, or it deletes what the key leads to. -/
theorem clear_cases (fs : FileSystem) (processes : List Process) (actives : List ActiveSession)
    (root : Path) (key : String) :
    ((clearBrowserProfile fs processes actives root key).1 ≠ .ok true ∧
      (clearBrowserProfile fs processes actives root key).2 = fs.node) ∨
    ∃ profileType name place, (∀ active ∈ actives, activeProfileKey active ≠ some key) ∧
      profilePath key = .ok (profileType, name) ∧
      placeOf fs root profileType name = some place ∧ isProfile fs place = true ∧
      (fs.node place = some .directory → pathInUse processes place = false) := by
  unfold clearBrowserProfile
  split
  · exact .inl ⟨nofun, rfl⟩
  · rename_i hactive
    split
    · exact .inl ⟨nofun, rfl⟩
    · rename_i profileType name hkey
      cases hplace : placeOf fs root profileType name with
      | none => exact .inl ⟨nofun, rfl⟩
      | some place =>
          have hidle : ∀ active ∈ actives, activeProfileKey active ≠ some key := by
            simpa using hactive
          cases hnode : fs.node place with
          | none => exact .inl (by simp [deleteDirectory, hnode])
          | some node =>
              cases node with
              | file => exact .inl (by simp [deleteDirectory, hnode])
              | link target =>
                  exact .inr ⟨profileType, name, place, hidle, hkey, hplace,
                    by simp [isProfile, hnode], fun hother => by cases hnode.symm.trans hother⟩
              | directory =>
                  cases hbusy : pathInUse processes place with
                  | true => exact .inl (by simp [deleteDirectory, hnode, hbusy])
                  | false =>
                      exact .inr ⟨profileType, name, place, hidle, hkey, hplace,
                        by simp [isProfile, hnode], fun _ => hbusy⟩

variable (fs processes actives root)

def filesOf (place : Path) : Option Path :=
  match fs.node place with
  | some (.link target) => target
  | _ => some place

def InUse (profile : ProfileDirectory) : Prop :=
  (∃ active ∈ actives, activeProfileKey active = some profile.profileKey) ∨
    ∃ process ∈ processes, ∃ directory, process.userDataDir = some directory ∧
      filesOf fs profile.place = some directory

structure Sound (key : String) (result : Except ClearError Bool × (Path → Option Node)) : Prop where
  refused : result.1 ≠ .ok true → result.2 = fs.node
  deleted : result.1 = .ok true → ∃ profile ∈ listProfiles fs processes root,
    profile.profileKey = key ∧ root <+: profile.place ∧ result.2 = removed fs profile.place
  disjoint : ∀ first ∈ listProfiles fs processes root, ∀ second ∈ listProfiles fs processes root,
    ∀ path, first.place <+: path → second.place <+: path → first = second
  untouched : ∀ profile ∈ listProfiles fs processes root, InUse fs processes actives profile →
    ∀ directory path, filesOf fs profile.place = some directory → directory <+: path →
      result.2 path = fs.node path

/-- What is deleted is no `_qr` and not behind a link at `_qr`, a process that uses it names it as
it is compared, and no profile in use is a link that leads into it or above it. -/
def StandsAlone (key : String) : Prop :=
  ∀ profileType name place, (∀ active ∈ actives, activeProfileKey active ≠ some key) →
    profilePath key = .ok (profileType, name) →
    placeOf fs root profileType name = some place → isProfile fs place = true →
    (fs.node place = some .directory → pathInUse processes place = false) →
    key ≠ "account:_qr" ∧
    (profileType = .qr → fs.node (root ++ ["_qr"]) = some .directory) ∧
    (fs.node place = some .directory → ∀ process ∈ processes, process.userDataDir ≠ some place) ∧
    ∀ profile ∈ listProfiles fs processes root, ∀ target,
      fs.node profile.place = some (.link (some target)) → InUse fs processes actives profile →
      ¬target <+: place ∧ ¬(fs.node place = some .directory ∧ place <+: target)

variable {fs processes actives root}

theorem isListed_of_mem (hmem : profile ∈ listProfiles fs processes root)
    (hkey : profile.profileKey = profileKey profileType name)
    (hplace : placeOf fs root profileType name = some place) :
    profileKey profileType name ≠ "account:_qr" ∧
      (profileType = .qr → fs.node (root ++ ["_qr"]) = some .directory) ∧ profile.place = place := by
  obtain ⟨found, text, parent, ⟨-, hlisted⟩, rfl⟩ := mem_listProfiles.mp hmem
  obtain ⟨rfl, rfl⟩ := profileKey_inj hkey
  obtain ⟨rfl, hname, rfl⟩ | ⟨rfl, hqr, rfl⟩ := hlisted
  · refine ⟨fun hsame => hname ?_, nofun, Option.some.inj hplace⟩
    exact (profileKey_inj (hsame.trans (rfl : _ = profileKey .account "_qr"))).2
  · refine ⟨fun hsame => ?_, fun _ => hqr, ?_⟩
    · cases (profileKey_inj (hsame.trans (rfl : _ = profileKey .account "_qr"))).1
    · rw [placeOf, hqr] at hplace
      exact Option.some.inj hplace

theorem exists_listed (hne : profileKey profileType name ≠ "account:_qr")
    (hqr : profileType = .qr → fs.node (root ++ ["_qr"]) = some .directory)
    (hplace : placeOf fs root profileType name = some place)
    (hprofile : isProfile fs place = true) :
    ∃ profile ∈ listProfiles fs processes root, profile.profileKey = profileKey profileType name ∧
      root <+: profile.place ∧ profile.place = place := by
  cases profileType with
  | account =>
      cases Option.some.inj hplace
      refine ⟨_, mem_listProfiles.mpr ⟨.account, name, root, ⟨hprofile, .inl ⟨rfl, ?_, rfl⟩⟩, rfl⟩,
        rfl, List.prefix_append _ _, rfl⟩
      rintro rfl
      exact hne rfl
  | qr =>
      rw [placeOf, hqr rfl] at hplace
      cases Option.some.inj hplace
      refine ⟨_, mem_listProfiles.mpr ⟨.qr, name, _, ⟨hprofile, .inr ⟨rfl, hqr rfl, rfl⟩⟩, rfl⟩,
        rfl, ?_, rfl⟩
      exact (List.prefix_append _ _).trans (List.prefix_append _ _)

theorem filesOf_of_directory (hdirectory : fs.node place = some .directory) :
    filesOf fs place = some place := by
  rw [filesOf, hdirectory]

theorem standsAlone_of_sound
    (hsound : Sound fs processes actives root key
      (clearBrowserProfile fs processes actives root key)) :
    StandsAlone fs processes actives root key := by
  intro profileType name place hactive hkey hplace hprofile hidle
  rw [clear_of_profile hactive hkey hplace hprofile hidle] at hsound
  obtain ⟨own, hmem, hownKey, -, -⟩ := hsound.deleted rfl
  obtain rfl := profilePath_ok hkey
  obtain ⟨hne, hqr, hown⟩ := isListed_of_mem hmem hownKey hplace
  have hthere := ne_none_of_isProfile hprofile
  refine ⟨hne, hqr, fun hdirectory process hprocess huses => ?_,
    fun profile hlisted target hlink huse => ⟨fun habove => ?_, fun hbelow => ?_⟩⟩
  · have hfiles : filesOf fs own.place = some place := by
      rw [hown]
      exact filesOf_of_directory hdirectory
    have hsame := hsound.untouched own hmem (.inr ⟨process, hprocess, place, huses, hfiles⟩)
      place place hfiles (List.prefix_refl place)
    exact hthere (hsame.symm.trans removed_self)
  · have hfiles : filesOf fs profile.place = some target := by rw [filesOf, hlink]
    have hsame := hsound.untouched profile hlisted huse target place hfiles habove
    exact hthere (hsame.symm.trans removed_self)
  · have hfiles : filesOf fs profile.place = some target := by rw [filesOf, hlink]
    have hsame := hsound.untouched profile hlisted huse target target hfiles
      (List.prefix_refl target)
    have hgone : fs.node target = none :=
      hsame.symm.trans ((removed_of_directory hbelow.1).trans (if_pos hbelow.2))
    rcases fs.target _ _ hlink with hnode | hnode <;> cases hgone.symm.trans hnode

theorem removed_eq_of_inUse {own : ProfileDirectory} {directory : Path}
    (hown : own ∈ listProfiles fs processes root) (hprofile : isProfile fs own.place = true)
    (hactive : ∀ active ∈ actives, activeProfileKey active ≠ some own.profileKey)
    (hprocesses : fs.node own.place = some .directory →
      ∀ process ∈ processes, process.userDataDir ≠ some own.place)
    (hmem : profile ∈ listProfiles fs processes root) (huse : InUse fs processes actives profile)
    (hlinks : ∀ target, fs.node profile.place = some (.link (some target)) →
      ¬target <+: own.place ∧ ¬(fs.node own.place = some .directory ∧ own.place <+: target))
    (hfiles : filesOf fs profile.place = some directory) (hbelow : directory <+: path) :
    removed fs own.place path = fs.node path := by
  by_cases hdirectory : fs.node profile.place = some .directory
  · cases (filesOf_of_directory hdirectory).symm.trans hfiles
    have hother : ¬own.place <+: path := by
      intro hprefix
      cases eq_of_prefix hmem hown hbelow hprefix
      rcases huse with ⟨active, hin, hkey⟩ | ⟨process, hin, found, huses, hfound⟩
      · exact hactive active hin hkey
      · cases hfiles.symm.trans hfound
        exact hprocesses hdirectory process hin huses
    refine removed_of_ne ?_ (fun hall => hother hall.2) hprofile
    rintro rfl
    exact hother (List.prefix_refl _)
  · have hlink : fs.node profile.place = some (.link (some directory)) := by
      obtain ⟨_, _, _, ⟨hkind, -⟩, rfl⟩ := mem_listProfiles.mp hmem
      unfold isProfile at hkind
      split at hkind
      · rename_i hnode
        exact absurd hnode hdirectory
      · rename_i target hnode
        change fs.node _ = _ at hnode
        rw [filesOf] at hfiles
        simp only [profileRecord] at hfiles ⊢
        rw [hnode] at hfiles ⊢
        exact congrArg (fun found => some (Node.link found)) hfiles
      · cases hkind
    obtain ⟨habove, hinside⟩ := hlinks directory hlink
    refine removed_of_ne ?_ ?_ hprofile
    · rintro rfl
      exact habove hbelow
    · rintro ⟨hnode, hprefix⟩
      rcases List.prefix_or_prefix_of_prefix hbelow hprefix with hfirst | hfirst
      · exact habove hfirst
      · exact hinside ⟨hnode, hfirst⟩

/-- A deletion is sound exactly if what it deletes stands alone. -/
theorem clear_browser_profile_iff (fs : FileSystem) (processes : List Process)
    (actives : List ActiveSession) (root : Path) (key : String) :
    Sound fs processes actives root key (clearBrowserProfile fs processes actives root key) ↔
      StandsAlone fs processes actives root key := by
  refine ⟨standsAlone_of_sound, fun halone => ?_⟩
  have hdisjoint : ∀ first ∈ listProfiles fs processes root,
      ∀ second ∈ listProfiles fs processes root, ∀ path, first.place <+: path →
        second.place <+: path → first = second :=
    fun _ hfirst _ hsecond _ => eq_of_prefix hfirst hsecond
  obtain ⟨hkept, hsame⟩ | ⟨profileType, name, place, hactive, hkey, hplace, hprofile, hidle⟩ :=
    clear_cases fs processes actives root key
  · exact ⟨fun _ => hsame, fun hdeleted => absurd hdeleted hkept, hdisjoint,
      fun _ _ _ _ path _ _ => congrFun hsame path⟩
  · rw [clear_of_profile hactive hkey hplace hprofile hidle]
    obtain ⟨hne, hqr, hprocesses, hlinks⟩ :=
      halone profileType name place hactive hkey hplace hprofile hidle
    obtain rfl := profilePath_ok hkey
    obtain ⟨own, hown, hownKey, hroot, rfl⟩ := exists_listed hne hqr hplace hprofile
    refine ⟨fun hother => absurd rfl hother, fun _ => ⟨own, hown, hownKey, hroot, rfl⟩, hdisjoint,
      fun profile hmem huse directory path hfiles hbelow => ?_⟩
    exact removed_eq_of_inUse hown hprofile (hownKey ▸ hactive) hprocesses hmem huse
      (fun target hlink => hlinks profile hmem target hlink huse) hfiles hbelow

/-- `_qr` holds the profile `a`. -/
def qrNode (path : Path) : Option Node :=
  if path = [] ∨ path = ["_qr"] ∨ path = ["_qr", "a"] then some .directory else none

def qrFiles : FileSystem where
  node := qrNode
  names path := if path = [] then ["_qr"] else if path = ["_qr"] then ["a"] else []
  mem_names path name := by
    match path with
    | [] => simp [qrNode]
    | [first] => simp [qrNode]
    | first :: second :: rest => simp [qrNode]
  parent path name := by
    match path with
    | [] => simp [qrNode]
    | [first] => simp +contextual [qrNode]
    | first :: second :: rest => simp [qrNode]
  target path target := by
    unfold qrNode
    split <;> nofun

def qrSession : ActiveSession := ⟨some "a", none⟩

/-- All profiles of QR sessions go with the key `account:_qr`, also of a session that runs. -/
theorem qr_root_is_deleted :
    ¬∀ (fs : FileSystem) (processes : List Process) (actives : List ActiveSession) (root : Path)
      (key : String), Sound fs processes actives root key
        (clearBrowserProfile fs processes actives root key) := by
  intro hsound
  have hclear := hsound qrFiles [] [qrSession] [] "account:_qr"
  have hprofile : profileRecord qrFiles [] .qr ["_qr"] "a" ∈ listProfiles qrFiles [] [] :=
    mem_listProfiles.mpr ⟨.qr, "a", ["_qr"], ⟨rfl, .inr ⟨rfl, rfl, rfl⟩⟩, rfl⟩
  have hkept := hclear.untouched _ hprofile
    (.inl ⟨qrSession, List.mem_singleton_self _, rfl⟩) ["_qr", "a"] ["_qr", "a"] rfl
    (List.prefix_refl _)
  revert hkept
  decide

end XianyuAdmin.Browsers.ProfileDeletion
