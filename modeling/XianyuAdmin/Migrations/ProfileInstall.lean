import XianyuAdmin.Migrations.ImportRecords
import XianyuAdmin.Orders.ActionOutcome

/-!
# Installing the staged profile

`install_profile` copies the staged browser profile beside the directory of the new
account and renames the copy.  The staged directory may be deleted at any moment, file
by file, so the disk answers each question of the copying anew: which entries a
directory lists, whether a file is still there to be copied, whether the directory is
there at all.
-/

namespace XianyuAdmin.Migrations

open XianyuAdmin.Procedure
open XianyuAdmin.Orders (Interruption WriteEnd)

abbrev Path := List String

inductive Entries
  | nil
  | file (name : String) (rest : Entries)
  | directory (name : String) (contents rest : Entries)

def Entries.files (path : Path) : Entries → List Path
  | .nil => []
  | .file name rest => (path ++ [name]) :: rest.files path
  | .directory name contents rest => contents.files (path ++ [name]) ++ rest.files path

structure CopyDisk where
  listed : Path → Bool
  copied : Path → Bool
  /-- The directory is there when it is listed, and its copy is made. -/
  opened : Path → Bool
  /-- The directory is there when its copy has got its entries. -/
  statted : Path → Bool

def listedFiles (disk : CopyDisk) (path : Path) : Entries → List Path
  | .nil => []
  | .file name rest =>
      (if disk.listed (path ++ [name]) then [path ++ [name]] else []) ++
        listedFiles disk path rest
  | .directory name contents rest =>
      (if disk.listed (path ++ [name]) then listedFiles disk (path ++ [name]) contents else []) ++
        listedFiles disk path rest

/-- `shutil._copytree` over the entries of one directory: the files copied, and whether no
error was noted.  An error does not end the copying of the other entries. -/
def copyEntries (disk : CopyDisk) (path : Path) : Entries → List Path × Bool
  | .nil => ([], true)
  | .file name rest =>
      let others := copyEntries disk path rest
      if disk.listed (path ++ [name]) then
        if disk.copied (path ++ [name]) then ((path ++ [name]) :: others.1, others.2)
        else (others.1, false)
      else others
  | .directory name contents rest =>
      let others := copyEntries disk path rest
      if disk.listed (path ++ [name]) then
        if disk.opened (path ++ [name]) then
          let inner := copyEntries disk (path ++ [name]) contents
          (inner.1 ++ others.1, inner.2 && disk.statted (path ++ [name]) && others.2)
        else (others.1, false)
      else others

/-- A copy without errors has the files that were listed; what was deleted before goes
unnoticed. -/
theorem copyEntries_files {disk : CopyDisk} {entries : Entries} {path : Path}
    (hcopied : (copyEntries disk path entries).2 = true) :
    (copyEntries disk path entries).1 = listedFiles disk path entries := by
  induction entries generalizing path with
  | nil => rfl
  | file name rest ih =>
      rw [copyEntries] at hcopied ⊢
      rw [listedFiles]
      split at hcopied
      · split at hcopied
        · rename_i hlisted hfile
          rw [if_pos hlisted, if_pos hfile, if_pos hlisted, ih hcopied]
          rfl
        · cases hcopied
      · rename_i hlisted
        rw [if_neg hlisted, if_neg hlisted, ih hcopied]
        rfl
  | directory name contents rest ihcontents ih =>
      rw [copyEntries] at hcopied ⊢
      rw [listedFiles]
      split at hcopied
      · split at hcopied
        · rename_i hlisted hopened
          simp only [Bool.and_eq_true] at hcopied
          rw [if_pos hlisted, if_pos hopened, if_pos hlisted]
          simp only
          rw [ihcontents hcopied.1.1, ih hcopied.2]
        · cases hcopied
      · rename_i hlisted
        rw [if_neg hlisted, if_neg hlisted, ih hcopied]
        rfl

structure RaisedException where
  className : String
  text : String

/-- How the steps of `install_profile` end. -/
structure InstallSteps where
  profileIsDir : Bool
  disk : CopyDisk
  /-- What `shutil.copytree` raises if it raises. -/
  copyError : RaisedException
  chmod : Except RaisedException Unit
  rename : Except RaisedException Unit
  prepareAccount : Except RaisedException Unit
  /-- `shutil.rmtree(…, ignore_errors=True)` removes the copy. -/
  removesTemporary : Bool
  removesTarget : Bool

/-- What an end of the request is reported as. -/
inductive Raised
  | http (status : ℕ) (detail : String)
  | interrupted (interruption : Interruption)

def Raised.ofException (raised : RaisedException) : Raised :=
  .interrupted (.exception raised.className raised.text)

/-- The database, the directories of the new account with their files, and the local
variable `created`. -/
structure ImportState where
  database : Database
  target : Option (List Path)
  temporary : Option (List Path) := none
  created : Option StoredAccount := none

abbrev ImportProcedure := Procedure ImportState Raised

def threadStep (result : Except RaisedException Unit) : ImportProcedure Unit :=
  answer (result.mapError .ofException)

/-- `shutil.copytree(staged.profile_path, temporary)` -/
def copyTree (steps : InstallSteps) (profile : Entries) : ImportProcedure Unit :=
  if steps.disk.opened [] then do
    let copy := copyEntries steps.disk [] profile
    modify fun state => { state with temporary := some copy.1 }
    if copy.2 && steps.disk.statted [] then pure ()
    else throw (.ofException steps.copyError)
  else throw (.ofException steps.copyError)

def profileManifest : Path := [".xianyu-profile.json"]

/-- The body of the `try` in `install_profile`. -/
def copyProfile (steps : InstallSteps) (profile : Entries) : ImportProcedure Bool := do
  copyTree steps profile
  threadStep steps.chmod
  threadStep steps.rename
  modify fun state => { state with target := state.temporary, temporary := none }
  threadStep steps.prepareAccount
  modify fun state => { state with target := state.target.map (profileManifest :: ·) }
  pure true

def removeCopies (steps : InstallSteps) (state : ImportState) : ImportState :=
  { state with
    temporary := if steps.removesTemporary then none else state.temporary
    target := if steps.removesTarget then none else state.target }

def installProfile (steps : InstallSteps) : Option Entries → ImportProcedure Bool
  | none => pure false
  | some profile =>
      if steps.profileIsDir then do
        let state ← get
        if state.target.isSome then
          throw (.interrupted (.exception "AccountMigrationError"
            "目标账户浏览器 Profile 已存在，无法覆盖"))
        else
          tryCatch (copyProfile steps profile) fun failure => do
            modify (removeCopies steps)
            throw failure
      else pure false

/-- `except Exception` catches it. -/
def Raised.isException : Raised → Bool
  | .interrupted .cancelled => false
  | _ => true

/-- The copy is made without an error. -/
def InstallSteps.Copies (steps : InstallSteps) (profile : Entries) : Prop :=
  steps.disk.opened [] ∧ (copyEntries steps.disk [] profile).2 ∧ steps.disk.statted []

/-- The copy is made and gets the name of the profile. -/
def InstallSteps.Renames (steps : InstallSteps) (profile : Entries) : Prop :=
  steps.Copies profile ∧ steps.chmod = .ok () ∧ steps.rename = .ok ()

def InstallSteps.Returns (steps : InstallSteps) (target : Option (List Path)) :
    Option Entries → Prop
  | none => True
  | some profile => steps.profileIsDir →
      target = none ∧ steps.Renames profile ∧ steps.prepareAccount = .ok ()

/-- An installation that returns leaves a profile with every staged file: none was deleted
before its directory was listed, and the staged directory was there. -/
def InstallSteps.Keeps (steps : InstallSteps) (target : Option (List Path)) :
    Option Entries → Prop
  | none => True
  | some profile =>
      if steps.profileIsDir then
        ∀ path ∈ profile.files [], path ∈ profileManifest :: listedFiles steps.disk [] profile
      else ∃ files, target = some files ∧ ∀ path ∈ profile.files [], path ∈ files

def InstallSteps.Removes (steps : InstallSteps) (target : Option (List Path)) :
    Option Entries → Prop
  | none => True
  | some profile =>
      target.isSome ∨ ¬ steps.disk.opened [] ∨
        (¬ steps.Renames profile ∧ steps.removesTemporary) ∨
        (steps.Renames profile ∧ steps.removesTarget)

def HasProfile (profile : Option Entries) (target : Option (List Path)) : Prop :=
  ∀ entries, profile = some entries →
    ∃ files, target = some files ∧ ∀ path ∈ entries.files [], path ∈ files

section Ends

variable {steps : InstallSteps} {profile : Entries} {state : ImportState}

theorem ends_threadStep {result : Except RaisedException Unit}
    {returns : Unit → ImportState → Prop} {raises : Raised → ImportState → Prop} :
    Ends (threadStep result) state returns raises ↔
      match result with
      | .ok value => returns value state
      | .error raised => raises (.ofException raised) state := by
  cases result <;> exact ends_answer

theorem copyTree_ends :
    Ends (copyTree steps profile) state
      (fun _ next => steps.Copies profile ∧
        next = { state with temporary := some (listedFiles steps.disk [] profile) })
      (fun failure next => ¬ steps.Copies profile ∧ failure.isException ∧
        ((steps.disk.opened [] = false ∧ next = state) ∨
          (steps.disk.opened [] ∧ ∃ files, next = { state with temporary := some files }))) := by
  rw [copyTree]
  split
  · rename_i hopened
    simp only [ends_bind, ends_modify]
    split
    · rename_i hcopied
      rw [Bool.and_eq_true] at hcopied
      rw [ends_pure, copyEntries_files hcopied.1]
      exact ⟨⟨hopened, hcopied⟩, rfl⟩
    · rename_i hcopied
      rw [Bool.and_eq_true] at hcopied
      rw [ends_throw]
      exact ⟨fun hcopies => hcopied hcopies.2, rfl, .inr ⟨hopened, _, rfl⟩⟩
  · rename_i hopened
    rw [ends_throw]
    exact ⟨fun hcopies => hopened hcopies.1, rfl, .inl ⟨Bool.eq_false_of_not_eq_true hopened, rfl⟩⟩

theorem copyProfile_ends :
    Ends (copyProfile steps profile) state
      (fun _ next => (steps.Renames profile ∧ steps.prepareAccount = .ok ()) ∧
        next = { state with
          target := some (profileManifest :: listedFiles steps.disk [] profile)
          temporary := none })
      (fun failure next => ¬ (steps.Renames profile ∧ steps.prepareAccount = .ok ()) ∧
        failure.isException ∧
        ((steps.disk.opened [] = false ∧ next = state) ∨
          (steps.disk.opened [] ∧ ¬ steps.Renames profile ∧
            ∃ files, next = { state with temporary := some files }) ∨
          (steps.disk.opened [] ∧ steps.Renames profile ∧
            ∃ files, next = { state with target := some files, temporary := none }))) := by
  simp only [copyProfile, ends_bind]
  refine copyTree_ends.mono ?_ ?_
  · rintro - next ⟨hcopies, rfl⟩
    have hopened := hcopies.1
    rw [ends_threadStep]
    cases hchmod : steps.chmod with
    | error raised =>
        have hnot : ¬ steps.Renames profile := by simp [InstallSteps.Renames, hchmod]
        exact ⟨fun hall => hnot hall.1, rfl, .inr (.inl ⟨hopened, hnot, _, rfl⟩)⟩
    | ok value =>
        simp only [ends_threadStep]
        cases hrename : steps.rename with
        | error raised =>
            have hnot : ¬ steps.Renames profile := by simp [InstallSteps.Renames, hrename]
            exact ⟨fun hall => hnot hall.1, rfl, .inr (.inl ⟨hopened, hnot, _, rfl⟩)⟩
        | ok value =>
            have hrenames : steps.Renames profile := ⟨hcopies, hchmod, hrename⟩
            simp only [ends_modify, ends_pure]
            cases hprepare : steps.prepareAccount with
            | error raised =>
                refine ⟨fun hall => ?_, rfl, .inr (.inr ⟨hopened, hrenames, _, rfl⟩)⟩
                cases hall.2
            | ok value => exact ⟨⟨hrenames, rfl⟩, rfl⟩
  · rintro failure next ⟨hcopies, hexception, hnext⟩
    have hnot : ¬ steps.Renames profile := fun hrenames => hcopies hrenames.1
    refine ⟨fun hall => hnot hall.1, hexception, ?_⟩
    rcases hnext with hnext | ⟨hopened, hfiles⟩
    · exact .inl hnext
    · exact .inr (.inl ⟨hopened, hnot, hfiles⟩)

/-- Whether the installation returns, what it then leaves of the profile, and whether it
leaves a directory where it raises. -/
theorem installProfile_ends {staged : Option Entries} (htemporary : state.temporary = none) :
    Ends (installProfile steps staged) state
      (fun _ next => steps.Returns state.target staged ∧
        next.database = state.database ∧ next.created = state.created ∧
        (HasProfile staged next.target ↔ steps.Keeps state.target staged))
      (fun failure next => ¬ steps.Returns state.target staged ∧ failure.isException ∧
        next.database = state.database ∧ next.created = state.created ∧
        (next.target = state.target ∧ next.temporary = none ↔
          steps.Removes state.target staged)) := by
  cases staged with
  | none => exact ⟨trivial, rfl, rfl, by simp [HasProfile, InstallSteps.Keeps]⟩
  | some profile =>
      rw [installProfile]
      split
      · rename_i hdirectory
        simp only [ends_bind, ends_get]
        split
        · rename_i htarget
          rw [ends_throw]
          refine ⟨fun hreturns => ?_, rfl, rfl, rfl, ?_⟩
          · rw [(hreturns hdirectory).1] at htarget
            cases htarget
          · exact ⟨fun _ => .inl htarget, fun _ => ⟨rfl, htemporary⟩⟩
        · rename_i htarget
          have htarget : state.target = none := Option.not_isSome_iff_eq_none.mp htarget
          rw [ends_tryCatch]
          refine copyProfile_ends.mono ?_ ?_
          · rintro - next ⟨⟨hrenames, hprepare⟩, rfl⟩
            refine ⟨fun _ => ⟨htarget, hrenames, hprepare⟩, rfl, rfl, ?_⟩
            simp [HasProfile, InstallSteps.Keeps, hdirectory]
          · rintro failure next ⟨hnot, hexception, hnext⟩
            simp only [ends_bind, ends_modify, ends_throw]
            refine ⟨fun hreturns => hnot (hreturns hdirectory).2, hexception, ?_⟩
            rcases hnext with ⟨hopened, rfl⟩ | ⟨hopened, hrenames, files, rfl⟩ |
              ⟨hopened, hrenames, files, rfl⟩
            · simp [removeCopies, InstallSteps.Removes, htarget, htemporary, hopened]
            · simp [removeCopies, InstallSteps.Removes, htarget, hopened, hrenames]
            · simp [removeCopies, InstallSteps.Removes, htarget, hopened, hrenames]
      · rename_i hdirectory
        rw [ends_pure]
        refine ⟨fun hdir => absurd hdir hdirectory, rfl, rfl, ?_⟩
        simp [HasProfile, InstallSteps.Keeps, hdirectory]

end Ends

end XianyuAdmin.Migrations
