import XianyuAdmin.Migrations.PayloadExtraction

/-!
# Extracting a migration package is confined and bounded

Whatever the members of the archive are, files are written at `profile` and below it only, no
more of them and no more bytes than the limits allow.  What is returned accounts for the
members below `profile/`, with one exception: a regular file may be named `profile` itself.
-/

namespace XianyuAdmin.Migrations

open XianyuAdmin.FileTree
open XianyuAdmin.Procedure

def Member.path (member : Member) : PurePath := purePosixPath member.name

def PurePath.IsSafe (path : PurePath) : Prop :=
  path.isAbsolute = false ∧ ".." ∉ path.parts ∧ path.parts ≠ []

instance (path : PurePath) : Decidable path.IsSafe :=
  inferInstanceAs (Decidable (_ ∧ _ ∧ _))

def Member.isAccount (member : Member) : Bool :=
  member.kind = .file && member.path.IsSafe && member.path.parts = ["account.json"]

def Member.isProfileDirectory (member : Member) : Bool :=
  member.kind = .directory && member.path.IsSafe && member.path.parts = ["profile"]

def Member.isProfileFile (member : Member) : Bool :=
  member.kind = .file && member.path.IsSafe && member.path.parts.head? = some "profile"

def Member.isBelowProfile (member : Member) : Bool :=
  member.isProfileFile && member.path.parts ≠ ["profile"]

/-- The text of a relative path tells whether it has one part. -/
theorem asPosix_eq_iff {path : PurePath} (hsafe : path.IsSafe) {name : String}
    (hname : '/' ∉ name.toList) : path.asPosix = name ↔ path.parts = [name] := by
  obtain ⟨habsolute, -, hparts⟩ := hsafe
  simp only [PurePath.asPosix, habsolute, Bool.false_eq_true, if_false, hparts, false_and,
    String.empty_append]
  cases hlist : path.parts with
  | nil => exact absurd hlist hparts
  | cons first rest =>
      cases rest with
      | nil => simp [String.intercalate_singleton]
      | cons second rest =>
          refine iff_of_false ?_ (by simp)
          rintro rfl
          rw [String.intercalate_cons_cons] at hname
          simp at hname

section OneMember

variable {library : ExtractionLibrary} {limits : Limits} {extraction : Extraction}
  {member : Member} {returns : Unit → Extraction → Prop}
  {raises : ExtractionError → Extraction → Prop}

@[simp]
theorem ends_raiseMigration {Value : Type} {text : String}
    {returns : Value → Extraction → Prop} :
    Ends (raiseMigration text) extraction returns raises ↔ raises (.migration text) extraction :=
  Iff.rfl

theorem ends_mkdirs {path : FileTree.Path} :
    Ends (mkdirs library path) extraction returns raises ↔
      match library.refuses path, makeDirectories [] path extraction.tree with
      | some error, _ => raises error extraction
      | none, .ok tree => returns () { extraction with tree := tree }
      | none, .error _ => raises .osError extraction := by
  simp only [mkdirs, ends_bind, ends_get]
  cases library.refuses path with
  | some error => rfl
  | none => cases makeDirectories [] path extraction.tree <;> rfl

theorem ends_writeTarget {path : FileTree.Path} {content : List UInt8} :
    Ends (writeTarget library path content) extraction returns raises ↔
      match library.refuses path, writeFile path content extraction.tree with
      | some error, _ => raises error extraction
      | none, .ok tree =>
          returns ()
            { extraction with tree := tree, written := extraction.written ++ [(path, content)] }
      | none, .error _ => raises .osError extraction := by
  simp only [writeTarget, ends_bind, ends_get]
  cases library.refuses path with
  | some error => rfl
  | none => cases writeFile path content extraction.tree <;> rfl

def Extraction.count (extraction : Extraction) (member : Member) : Extraction :=
  { extraction with
    fileCount := extraction.fileCount + 1
    totalBytes := extraction.totalBytes + member.size }

theorem ends_countFile :
    Ends (countFile limits member) extraction returns raises ↔
      let counted := extraction.count member
      if limits.maxFiles < counted.fileCount then
        raises (.migration "账户迁移包文件数量超过限制") counted
      else if limits.maxExtractedBytes < counted.totalBytes then
        raises (.migration "账户迁移包解压后超过 2 GiB") counted
      else returns () counted := by
  simp only [countFile, ends_bind, ends_modify, ends_get, Extraction.count]
  by_cases hfiles : limits.maxFiles < extraction.fileCount + 1
  · simp only [hfiles, if_true, ends_raiseMigration]
  · by_cases hbytes : limits.maxExtractedBytes < extraction.totalBytes + member.size
    · simp only [hfiles, hbytes, if_false, if_true, ends_raiseMigration]
    · simp only [hfiles, hbytes, if_false, ends_pure]

theorem ends_readAccount :
    Ends (readAccount member) extraction returns raises ↔
      if extraction.accountBytes.isSome ∨ 1024 * 1024 < member.size then
        raises (.migration "账户迁移包账户清单异常") extraction
      else returns () { extraction with accountBytes := some member.content } := by
  simp only [readAccount, ends_bind, ends_get]
  by_cases hcase : extraction.accountBytes.isSome ∨ 1024 * 1024 < member.size
  · simp only [if_pos hcase, ends_raiseMigration]
  · simp only [if_neg hcase, ends_set]

def Extraction.HasRoom (limits : Limits) (extraction : Extraction) (member : Member) : Prop :=
  extraction.fileCount + 1 ≤ limits.maxFiles ∧
    extraction.totalBytes + member.size ≤ limits.maxExtractedBytes

def Member.IsAllowed (library : ExtractionLibrary) (member : Member) : Prop :=
  library.refuses member.path.parts.dropLast = none ∧ library.refuses member.path.parts = none

/-- What a turn of the loop does, when it does not raise. -/
inductive Extracts (library : ExtractionLibrary) (limits : Limits) (member : Member)
    (extraction : Extraction) : Extraction → Prop
  | directory {tree : Tree} (hmember : member.isProfileDirectory = true)
      (hmade : makeDirectories [] ["profile"] extraction.tree = .ok tree) :
      Extracts library limits member extraction { extraction with tree := tree }
  | account (hmember : member.isAccount = true) (hroom : extraction.HasRoom limits member)
      (hfirst : extraction.accountBytes = none) (hsize : member.size ≤ 1024 * 1024) :
      Extracts library limits member extraction
        { extraction.count member with accountBytes := some member.content }
  | file {made tree : Tree} (hmember : member.isProfileFile = true)
      (hroom : extraction.HasRoom limits member) (hallowed : member.IsAllowed library)
      (hmade : makeDirectories [] member.path.parts.dropLast extraction.tree = .ok made)
      (hwritten : writeFile member.path.parts member.content made = .ok tree) :
      Extracts library limits member extraction
        { extraction.count member with
          tree := tree
          written := extraction.written ++ [(member.path.parts, member.content)] }

/-- No file was written, and none is lost. -/
def Untouched (before after : Extraction) : Prop :=
  after.written = before.written ∧
    ∀ path content, Holds after.tree path content ↔ Holds before.tree path content

theorem extractMember_ends :
    Ends (extractMember library limits member) extraction
      (fun _ next => Extracts library limits member extraction next)
      (fun _ next => Untouched extraction next) := by
  have huntouched : Untouched extraction extraction := ⟨rfl, fun _ _ => Iff.rfl⟩
  unfold extractMember
  dsimp only
  split
  · exact huntouched
  · rename_i hunsafe
    have hsafe : member.path.IsSafe := by
      rw [not_or, not_or, Bool.not_eq_true] at hunsafe
      exact hunsafe
    split
    · rename_i hkind
      split
      · exact huntouched
      · rename_i hprofile
        have hparts := (asPosix_eq_iff hsafe (by decide)).mp (not_not.mp hprofile)
        rw [ends_mkdirs]
        split
        · exact huntouched
        · rename_i tree _ hmade
          exact .directory (by simp [Member.isProfileDirectory, hkind, hsafe, hparts]) hmade
        · exact huntouched
    · exact huntouched
    · rename_i hkind
      split
      · exact huntouched
      · rename_i hknown
        rw [ends_bind, ends_countFile]
        dsimp only
        split
        · exact huntouched
        · rename_i hfiles
          split
          · exact huntouched
          · rename_i hbytes
            have hroom : extraction.HasRoom limits member :=
              ⟨not_lt.mp hfiles, not_lt.mp hbytes⟩
            split
            · rename_i haccount
              have hparts := (asPosix_eq_iff hsafe (by decide)).mp haccount
              rw [ends_readAccount]
              split
              · exact huntouched
              · rename_i hfirst
                rw [not_or, Option.not_isSome_iff_eq_none, not_lt] at hfirst
                exact .account (by simp [Member.isAccount, hkind, hsafe, hparts]) hroom
                  hfirst.1 hfirst.2
            · rename_i haccount
              rw [not_and, not_not] at hknown
              have hhead := hknown haccount
              rw [ends_bind, ends_mkdirs]
              split
              · exact huntouched
              · rename_i made hparent hmade
                rw [ends_writeTarget]
                split
                · exact ⟨rfl, fun _ _ => holds_makeDirectories hmade⟩
                · rename_i tree htarget hwritten
                  exact .file (by simp [Member.isProfileFile, hkind, hsafe]; exact hhead) hroom
                    ⟨hparent, htarget⟩ hmade hwritten
                · exact ⟨rfl, fun _ _ => holds_makeDirectories hmade⟩
              · exact huntouched

end OneMember

def totalSize (members : List Member) : ℕ := (members.map Member.size).sum

/-- What the local variables say of the members so far. -/
structure Ledger (library : ExtractionLibrary) (limits : Limits) (members : List Member)
    (extraction : Extraction) : Prop where
  known : ∀ member ∈ members, member.isAccount = true ∨ member.isProfileDirectory = true ∨
    member.isProfileFile = true
  accountBytes : extraction.accountBytes.toList =
    (members.filter Member.isAccount).map Member.content
  fileCount : extraction.fileCount =
    members.countP Member.isAccount + members.countP Member.isProfileFile
  totalBytes : extraction.totalBytes =
    totalSize (members.filter Member.isAccount) + totalSize (members.filter Member.isProfileFile)
  written : extraction.written =
    (members.filter Member.isProfileFile).map fun member => (member.path.parts, member.content)
  files_le : extraction.fileCount ≤ limits.maxFiles
  bytes_le : extraction.totalBytes ≤ limits.maxExtractedBytes
  accountSize : ∀ member ∈ members, member.isAccount = true → member.size ≤ 1024 * 1024
  allowed : ∀ member ∈ members, member.isProfileFile = true → member.IsAllowed library
  confined : ∀ path content, Holds extraction.tree path content → path.head? = some "profile"
  asFile : ∀ member ∈ members, member.isProfileFile = true → member.path.parts = ["profile"] →
    ∃ content, Holds extraction.tree ["profile"] content
  asDirectory : ∀ member ∈ members,
    member.isProfileDirectory = true ∨ member.isBelowProfile = true →
      extraction.tree ["profile"] = some .directory

structure Confined (limits : Limits) (extraction : Extraction) : Prop where
  files_le : extraction.written.length ≤ limits.maxFiles
  bytes_le : (extraction.written.map fun file => file.2.length).sum ≤ limits.maxExtractedBytes
  profile : ∀ path content, Holds extraction.tree path content → path.head? = some "profile"

section AllMembers

variable {library : ExtractionLibrary} {limits : Limits} {extraction next : Extraction}
  {member : Member} {members rest : List Member}

theorem ledger_nil : Ledger library limits [] { } where
  known := by simp
  accountBytes := rfl
  fileCount := rfl
  totalBytes := rfl
  written := rfl
  files_le := Nat.zero_le _
  bytes_le := Nat.zero_le _
  accountSize := by simp
  allowed := by simp
  confined := by
    intro path content hholds
    simp [Holds, FileTree.empty] at hholds
  asFile := by simp
  asDirectory := by simp

theorem Ledger.toConfined (h : Ledger library limits members extraction) : Confined limits extraction where
  files_le := by
    have hcount := h.files_le
    rw [h.fileCount] at hcount
    rw [h.written, List.length_map, ← List.countP_eq_length_filter]
    omega
  bytes_le := by
    have htotal := h.bytes_le
    rw [h.totalBytes] at htotal
    rw [h.written, List.map_map]
    exact (Nat.le_add_left _ _).trans htotal
  profile := h.confined

theorem Confined.untouched (h : Confined limits extraction) (huntouched : Untouched extraction next) :
    Confined limits next where
  files_le := by simpa only [huntouched.1] using h.files_le
  bytes_le := by simpa only [huntouched.1] using h.bytes_le
  profile := fun path content hholds => h.profile path content ((huntouched.2 path content).mp hholds)

/-- The three kinds of members exclude each other. -/
theorem not_isProfileFile_of_isAccount (haccount : member.isAccount = true) :
    member.isProfileFile = false ∧ member.isProfileDirectory = false := by
  simp only [Member.isAccount, Bool.and_eq_true, decide_eq_true_eq] at haccount
  simp [Member.isProfileFile, Member.isProfileDirectory, haccount.1.1, haccount.2]

theorem not_isAccount_of_isProfileFile (hfile : member.isProfileFile = true) :
    member.isAccount = false := by
  simp only [Member.isProfileFile, Bool.and_eq_true, decide_eq_true_eq] at hfile
  have hparts : member.path.parts ≠ ["account.json"] := by
    intro hparts
    rw [hparts] at hfile
    exact absurd hfile.2 (by decide)
  simp [Member.isAccount, hparts]

theorem not_file_of_isProfileDirectory (hdirectory : member.isProfileDirectory = true) :
    member.isAccount = false ∧ member.isProfileFile = false := by
  simp only [Member.isProfileDirectory, Bool.and_eq_true, decide_eq_true_eq] at hdirectory
  simp [Member.isProfileFile, Member.isAccount, hdirectory.1.1]

theorem parts_of_isProfileFile (hfile : member.isProfileFile = true) :
    member.path.parts = ["profile"] ∨
      ∃ rest, member.path.parts.dropLast = "profile" :: rest ∧ member.isBelowProfile = true := by
  have hhead : member.path.parts.head? = some "profile" := by
    simp only [Member.isProfileFile, Bool.and_eq_true, decide_eq_true_eq] at hfile
    exact hfile.2
  obtain ⟨rest, hparts⟩ := List.head?_eq_some_iff.mp hhead
  cases rest with
  | nil => exact .inl hparts
  | cons second rest =>
      refine .inr ⟨(second :: rest).dropLast, ?_, ?_⟩
      · rw [hparts, List.dropLast_cons_cons]
      · simp [Member.isBelowProfile, hfile, hparts]

theorem Ledger.directory (h : Ledger library limits members extraction) {tree : Tree}
    (hmember : member.isProfileDirectory = true)
    (hmade : makeDirectories [] ["profile"] extraction.tree = .ok tree) :
    Ledger library limits (members ++ [member]) { extraction with tree := tree } := by
  obtain ⟨haccount, hfile⟩ := not_file_of_isProfileDirectory hmember
  refine
    { known := List.forall_mem_append.mpr ⟨h.known, by simp [hmember]⟩
      accountBytes := by simpa [List.filter_append, haccount] using h.accountBytes
      fileCount := by simpa [List.countP_append, haccount, hfile] using h.fileCount
      totalBytes := by simpa [List.filter_append, haccount, hfile] using h.totalBytes
      written := by simpa [List.filter_append, hfile] using h.written
      files_le := h.files_le
      bytes_le := h.bytes_le
      accountSize := List.forall_mem_append.mpr ⟨h.accountSize, by simp [haccount]⟩
      allowed := List.forall_mem_append.mpr ⟨h.allowed, by simp [hfile]⟩
      confined := fun path content hholds =>
        h.confined path content ((holds_makeDirectories hmade).mp hholds)
      asFile := List.forall_mem_append.mpr ⟨fun other hother hotherFile hparts => ?_, ?_⟩
      asDirectory := fun _ _ _ => makeDirectories_cons hmade }
  · obtain ⟨content, hcontent⟩ := h.asFile other hother hotherFile hparts
    exact ⟨content, (holds_makeDirectories hmade).mpr hcontent⟩
  · simp [hfile]

theorem Ledger.account (h : Ledger library limits members extraction) (hmember : member.isAccount = true)
    (hroom : extraction.HasRoom limits member) (hfirst : extraction.accountBytes = none)
    (hsize : member.size ≤ 1024 * 1024) :
    Ledger library limits (members ++ [member])
      { extraction.count member with accountBytes := some member.content } := by
  obtain ⟨hfile, hdirectory⟩ := not_isProfileFile_of_isAccount hmember
  have hnone : (members.filter Member.isAccount).map Member.content = [] := by
    rw [← h.accountBytes, hfirst]
    rfl
  refine
    { known := List.forall_mem_append.mpr ⟨h.known, by simp [hmember]⟩
      accountBytes := by simp [List.filter_append, hmember, hnone]
      fileCount := ?_
      totalBytes := ?_
      written := by simpa [List.filter_append, hfile, Extraction.count] using h.written
      files_le := hroom.1
      bytes_le := hroom.2
      accountSize := List.forall_mem_append.mpr ⟨h.accountSize, by simp [hsize]⟩
      allowed := List.forall_mem_append.mpr ⟨h.allowed, by simp [hfile]⟩
      confined := h.confined
      asFile := List.forall_mem_append.mpr ⟨h.asFile, by simp [hfile]⟩
      asDirectory := List.forall_mem_append.mpr
        ⟨h.asDirectory, by simp [hdirectory, Member.isBelowProfile, hfile]⟩ }
  · have hcount := h.fileCount
    simp only [Extraction.count, List.countP_append, List.countP_singleton, hmember, hfile,
      if_true, Bool.false_eq_true, if_false]
    omega
  · have htotal := h.totalBytes
    simp only [Extraction.count, List.filter_append, totalSize, List.map_append, List.sum_append,
      List.filter_singleton, hmember, hfile, List.map_cons, List.map_nil, List.sum_singleton,
      List.sum_nil, Bool.cond_true, Bool.cond_false] at htotal ⊢
    omega

/-- With a file `profile` there is no directory of that name, nor the other way round. -/
theorem profile_entry {made tree : Tree} (hmember : member.isProfileFile = true)
    (hmade : makeDirectories [] member.path.parts.dropLast extraction.tree = .ok made)
    (hwritten : writeFile member.path.parts member.content made = .ok tree) :
    (member.path.parts = ["profile"] ∧ tree ["profile"] = some (.file member.content) ∧
        extraction.tree ["profile"] ≠ some .directory) ∨
      (member.isBelowProfile = true ∧ tree ["profile"] = some .directory ∧
        ∀ content, ¬ Holds extraction.tree ["profile"] content) := by
  obtain ⟨-, hnotDirectory, rfl⟩ := writeFile_eq_ok_iff.mp hwritten
  rcases parts_of_isProfileFile hmember with hparts | ⟨rest, hdropLast, hbelow⟩
  · refine .inl ⟨hparts, ?_, ?_⟩
    · rw [hparts, Function.update_self]
    · intro hdirectory
      exact hnotDirectory (by rw [hparts]; exact makeDirectories_keeps hmade hdirectory)
  · have hother : ["profile"] ≠ member.path.parts := by
      intro hparts
      rw [← hparts] at hdropLast
      cases hdropLast
    rw [hdropLast] at hmade
    have hdirectory : made ["profile"] = some .directory := makeDirectories_cons hmade
    refine .inr ⟨hbelow, ?_, fun content hholds => ?_⟩
    · rw [Function.update_of_ne hother, hdirectory]
    · have hkept := makeDirectories_keeps hmade hholds
      rw [hdirectory] at hkept
      cases hkept

theorem Ledger.file (h : Ledger library limits members extraction) {made tree : Tree}
    (hmember : member.isProfileFile = true) (hroom : extraction.HasRoom limits member)
    (hallowed : member.IsAllowed library)
    (hmade : makeDirectories [] member.path.parts.dropLast extraction.tree = .ok made)
    (hwritten : writeFile member.path.parts member.content made = .ok tree) :
    Ledger library limits (members ++ [member])
      { extraction.count member with
        tree := tree
        written := extraction.written ++ [(member.path.parts, member.content)] } := by
  have haccount := not_isAccount_of_isProfileFile hmember
  have hdirectory : member.isProfileDirectory = false := by
    cases hcase : member.isProfileDirectory with
    | false => rfl
    | true => simp [(not_file_of_isProfileDirectory hcase).2] at hmember
  have hentry := profile_entry hmember hmade hwritten
  refine
    { known := List.forall_mem_append.mpr ⟨h.known, by simp [hmember]⟩
      accountBytes := by
        simpa [List.filter_append, haccount, Extraction.count] using h.accountBytes
      fileCount := ?_
      totalBytes := ?_
      written := by simp [List.filter_append, hmember, h.written]
      files_le := hroom.1
      bytes_le := hroom.2
      accountSize := List.forall_mem_append.mpr ⟨h.accountSize, by simp [haccount]⟩
      allowed := List.forall_mem_append.mpr ⟨h.allowed, by simp [hallowed]⟩
      confined := ?_
      asFile := ?_
      asDirectory := ?_ }
  · have hcount := h.fileCount
    simp only [Extraction.count, List.countP_append, List.countP_singleton, hmember, haccount,
      if_true, Bool.false_eq_true, if_false]
    omega
  · have htotal := h.totalBytes
    simp only [Extraction.count, List.filter_append, totalSize, List.map_append, List.sum_append,
      List.filter_singleton, hmember, haccount, List.map_cons, List.map_nil, List.sum_singleton,
      List.sum_nil, Bool.cond_true, Bool.cond_false] at htotal ⊢
    omega
  · intro path content hholds
    rw [holds_writeFile hwritten, holds_makeDirectories hmade] at hholds
    split at hholds
    · rename_i hpath
      simp only [Member.isProfileFile, Bool.and_eq_true, decide_eq_true_eq] at hmember
      rw [hpath]
      exact hmember.2
    · exact h.confined path content hholds
  · rcases hentry with ⟨-, hfile, -⟩ | ⟨hbelow, -, hnone⟩
    · exact fun _ _ _ _ => ⟨_, hfile⟩
    · refine List.forall_mem_append.mpr ⟨fun other hother hotherFile hparts => ?_, ?_⟩
      · obtain ⟨content, hcontent⟩ := h.asFile other hother hotherFile hparts
        exact absurd hcontent (hnone content)
      · simp only [Member.isBelowProfile, Bool.and_eq_true, decide_eq_true_eq] at hbelow
        simp [hbelow.2]
  · rcases hentry with ⟨hparts, -, hnotDirectory⟩ | ⟨-, hthere, -⟩
    · refine List.forall_mem_append.mpr ⟨fun other hother hotherDirectory => ?_, ?_⟩
      · exact absurd (h.asDirectory other hother hotherDirectory) hnotDirectory
      · simp [hdirectory, Member.isBelowProfile, hparts]
    · exact fun _ _ _ => hthere

/-- A turn of the loop keeps the ledger. -/
theorem Ledger.extracts (h : Ledger library limits members extraction)
    (hextracts : Extracts library limits member extraction next) :
    Ledger library limits (members ++ [member]) next := by
  cases hextracts with
  | directory hmember hmade => exact h.directory hmember hmade
  | account hmember hroom hfirst hsize => exact h.account hmember hroom hfirst hsize
  | file hmember hroom hallowed hmade hwritten =>
      exact h.file hmember hroom hallowed hmade hwritten

theorem extractMembers_ends (h : Ledger library limits members extraction) :
    Ends (extractMembers library limits rest) extraction
      (fun _ next => Ledger library limits (members ++ rest) next) (fun _ next => Confined limits next) := by
  induction rest generalizing members extraction with
  | nil => simpa only [extractMembers, ends_pure, List.append_nil] using h
  | cons member rest ih =>
      rw [extractMembers, ends_bind]
      refine extractMember_ends.mono (fun _ next hextracts => ?_)
        fun _ next huntouched => h.toConfined.untouched huntouched
      have hrest := ih (h.extracts hextracts)
      rwa [List.append_assoc] at hrest

end AllMembers

end XianyuAdmin.Migrations
