import XianyuAdmin.Migrations.ExtractionConfined

/-!
# What an extraction returns

The members that `_extract_payload` accepts, and the one archive it should not: with a regular
file named `profile` there is no profile, and the file is counted all the same.
-/

namespace XianyuAdmin.Migrations

open XianyuAdmin.FileTree
open XianyuAdmin.Procedure

structure Accounts (members : List Member) (payload : ExtractedPayload) : Prop where
  account : members.countP Member.isAccount = 1
  known : ∀ member ∈ members, member.isAccount = true ∨ member.isProfileDirectory = true ∨
    member.isBelowProfile = true
  profileSize : payload.profileSize = totalSize (members.filter Member.isBelowProfile)
  profileFiles : payload.profileFiles = members.countP Member.isBelowProfile

/-- Files are written below `profile` and within the limits, also when an exception is raised;
what is returned accounts for every member. -/
def ExtractsConfined (library : ExtractionLibrary) (limits : Limits) (members : List Member) :
    Prop :=
  Ends (extractPayload library limits members) { }
    (fun payload next => Confined limits next ∧ Accounts members payload)
    (fun _ next => Confined limits next)

def Member.isFileAsProfile (member : Member) : Bool :=
  member.isProfileFile && member.path.parts = ["profile"]

/-- An account without a profile, and at least one file `profile`. -/
structure FileAsProfile (library : ExtractionLibrary) (limits : Limits) (members : List Member) :
    Prop where
  file : ∃ member ∈ members, member.isFileAsProfile = true
  known : ∀ member ∈ members, member.isAccount = true ∨ member.isFileAsProfile = true
  account : ∃ member account, members.filter Member.isAccount = [member] ∧
    member.size ≤ 1024 * 1024 ∧ library.validate member.content = some account ∧
    account.isConsistent = true ∧ account.profilePresent = false
  allowed : library.refuses [] = none ∧ library.refuses ["profile"] = none
  files_le : members.length ≤ limits.maxFiles
  bytes_le : totalSize members ≤ limits.maxExtractedBytes

section Extracted

variable {library : ExtractionLibrary} {limits : Limits} {extraction : Extraction}
  {member : Member} {members : List Member}

theorem isBelowProfile_or_isFileAsProfile (hfile : member.isProfileFile = true) :
    member.isBelowProfile = true ∨ member.isFileAsProfile = true := by
  by_cases hparts : member.path.parts = ["profile"]
  · exact .inr (by simp [Member.isFileAsProfile, hfile, hparts])
  · exact .inl (by simp [Member.isBelowProfile, hfile, hparts])

variable {raises : ExtractionError → Extraction → Prop}

/-- The loop, and the handler that renames what the operating system raises. -/
theorem ends_extractPayload {returns : ExtractedPayload → Extraction → Prop}
    (hmembers : Ends (extractMembers library limits members) { }
      (fun _ next => Ends (finishExtraction library) next returns raises)
      (fun _ next => ∀ error, raises error next)) :
    Ends (extractPayload library limits members) { } returns raises := by
  rw [extractPayload, ends_bind, ends_tryCatch]
  refine hmembers.mono (fun _ _ hnext => hnext) fun error next hraises => ?_
  cases error with
  | osError => exact hraises _
  | migration text => exact hraises _
  | valueError => exact hraises _

/-- The checks that are left when the members have been read. -/
inductive Finishing (library : ExtractionLibrary) (extraction : Extraction) :
    ExtractedPayload → Prop
  | returns {content : List UInt8} {account : PackagedAccount}
      (hcontent : extraction.accountBytes = some content)
      (hvalid : library.validate content = some account)
      (hconsistent : account.isConsistent = true)
      (hpresent : account.profilePresent = decide (extraction.tree ["profile"] = some .directory)) :
      Finishing library extraction
        { account := account
          hasProfile := account.profilePresent
          profileSize := extraction.totalBytes - content.length
          profileFiles := extraction.fileCount - 1 }

theorem finishExtraction_ends :
    Ends (finishExtraction library) extraction
      (fun payload next => next = extraction ∧ Finishing library extraction payload)
      (fun _ next => next = extraction ∧ ∀ payload, ¬ Finishing library extraction payload) := by
  rw [finishExtraction, ends_bind, ends_get]
  split
  · rename_i hnone
    rw [ends_raiseMigration]
    refine ⟨rfl, fun payload hfinishes => ?_⟩
    cases hfinishes with
    | returns hcontent => simp [hnone] at hcontent
  · rename_i content hcontent
    split
    · rename_i hinvalid
      rw [ends_raiseMigration]
      refine ⟨rfl, fun payload hfinishes => ?_⟩
      cases hfinishes with
      | returns hcontent' hvalid =>
          cases hcontent.symm.trans hcontent'
          cases hinvalid.symm.trans hvalid
    · rename_i account hvalid
      dsimp only
      split
      · rename_i hinconsistent
        rw [ends_raiseMigration]
        refine ⟨rfl, fun payload hfinishes => ?_⟩
        cases hfinishes with
        | returns hcontent' hvalid' hconsistent =>
            cases hcontent.symm.trans hcontent'
            cases hvalid.symm.trans hvalid'
            simp [hconsistent] at hinconsistent
      · rename_i hconsistent
        rw [Bool.not_eq_true, Bool.not_eq_false'] at hconsistent
        split
        · rename_i hpresent
          rw [ends_raiseMigration]
          refine ⟨rfl, fun payload hfinishes => ?_⟩
          cases hfinishes with
          | returns hcontent' hvalid' _ hpresent' =>
              cases hcontent.symm.trans hcontent'
              cases hvalid.symm.trans hvalid'
              exact hpresent hpresent'
        · rename_i hpresent
          rw [not_not] at hpresent
          rw [ends_pure, ← hpresent]
          exact ⟨rfl, .returns hcontent hvalid hconsistent hpresent⟩

theorem Ledger.filter_account (h : Ledger library limits members extraction)
    {content : List UInt8} (hcontent : extraction.accountBytes = some content) :
    ∃ member, members.filter Member.isAccount = [member] ∧ member.content = content := by
  have haccount := h.accountBytes
  rw [hcontent, Option.toList_some, eq_comm, List.map_eq_singleton_iff] at haccount
  exact haccount

theorem Ledger.accounts (h : Ledger library limits members extraction)
    {payload : ExtractedPayload} (hfinishes : Finishing library extraction payload)
    (hnone : ¬ ∃ member ∈ members, member.isFileAsProfile = true) : Accounts members payload := by
  have hbelow : ∀ member ∈ members, member.isProfileFile = member.isBelowProfile := by
    intro member hmember
    cases hfile : member.isProfileFile with
    | false => simp [Member.isBelowProfile, hfile]
    | true =>
        rcases isBelowProfile_or_isFileAsProfile hfile with hbelow | hprofile
        · exact hbelow.symm
        · exact absurd ⟨member, hmember, hprofile⟩ hnone
  cases hfinishes with
  | returns hcontent _ _ _ =>
      obtain ⟨account, hfilter, rfl⟩ := h.filter_account hcontent
      have hcount : members.countP Member.isAccount = 1 := by
        rw [List.countP_eq_length_filter, hfilter, List.length_singleton]
      have hsize : totalSize (members.filter Member.isAccount) = account.content.length := by
        rw [hfilter]
        rfl
      refine
        { account := hcount
          known := fun member hmember => ?_
          profileSize := ?_
          profileFiles := ?_ }
      · rw [← hbelow member hmember]
        exact h.known member hmember
      · rw [← List.filter_congr hbelow, h.totalBytes, hsize]
        exact Nat.add_sub_cancel_left _ _
      · rw [List.countP_congr fun member hmember => by rw [← hbelow member hmember], h.fileCount,
          hcount]
        exact Nat.add_sub_cancel_left _ _

theorem counted_of_known (hknown : ∀ member ∈ members, member.isAccount = true ∨
      member.isProfileFile = true) :
    members.length = members.countP Member.isAccount + members.countP Member.isProfileFile ∧
      totalSize members =
        totalSize (members.filter Member.isAccount) +
          totalSize (members.filter Member.isProfileFile) := by
  induction members with
  | nil => exact ⟨rfl, rfl⟩
  | cons member rest ih =>
      rw [List.forall_mem_cons] at hknown
      obtain ⟨hcount, hsize⟩ := ih hknown.2
      rw [totalSize, List.map_cons, List.sum_cons, ← totalSize, hsize, List.length_cons, hcount]
      rcases hknown.1 with haccount | hfile
      · have hfile := (not_isProfileFile_of_isAccount haccount).1
        simp only [List.countP_cons, List.filter_cons, haccount, hfile, totalSize, if_true,
          Bool.false_eq_true, if_false, List.map_cons, List.sum_cons]
        omega
      · have haccount := not_isAccount_of_isProfileFile hfile
        simp only [List.countP_cons, List.filter_cons, haccount, hfile, totalSize, if_true,
          Bool.false_eq_true, if_false, List.map_cons, List.sum_cons]
        omega

theorem Member.isFileAsProfile.isProfileFile (hfile : member.isFileAsProfile = true) :
    member.isProfileFile = true := by
  rw [Member.isFileAsProfile, Bool.and_eq_true] at hfile
  exact hfile.1

theorem Ledger.fileAsProfile (h : Ledger library limits members extraction)
    {payload : ExtractedPayload} (hfinishes : Finishing library extraction payload)
    (hfile : ∃ member ∈ members, member.isFileAsProfile = true) :
    FileAsProfile library limits members := by
  have hfile' := hfile
  obtain ⟨profile, hprofile, hisFile⟩ := hfile'
  simp only [Member.isFileAsProfile, Bool.and_eq_true, decide_eq_true_eq] at hisFile
  obtain ⟨hisFile, hparts⟩ := hisFile
  obtain ⟨found, hfound⟩ := h.asFile profile hprofile hisFile hparts
  have hnotDirectory : extraction.tree ["profile"] ≠ some .directory := by
    rw [hfound]
    nofun
  have hknown : ∀ member ∈ members, member.isAccount = true ∨ member.isFileAsProfile = true := by
    intro member hmember
    rcases h.known member hmember with haccount | hdirectory | hmemberFile
    · exact .inl haccount
    · exact absurd (h.asDirectory member hmember (.inl hdirectory)) hnotDirectory
    · rcases isBelowProfile_or_isFileAsProfile hmemberFile with hbelow | hmemberProfile
      · exact absurd (h.asDirectory member hmember (.inr hbelow)) hnotDirectory
      · exact .inr hmemberProfile
  have hallowed := h.allowed profile hprofile hisFile
  rw [Member.IsAllowed, hparts] at hallowed
  cases hfinishes with
  | returns hcontent hvalid hconsistent hpresent =>
      obtain ⟨account, hfilter, rfl⟩ := h.filter_account hcontent
      have haccount : account ∈ members.filter Member.isAccount := by
        rw [hfilter]
        exact List.mem_singleton_self _
      rw [List.mem_filter] at haccount
      obtain ⟨hcount, hsize⟩ := counted_of_known fun member hmember =>
        (hknown member hmember).imp_right Member.isFileAsProfile.isProfileFile
      refine
        { file := hfile
          known := hknown
          account := ⟨account, _, hfilter, h.accountSize account haccount.1 haccount.2, hvalid,
            hconsistent, by rw [hpresent, decide_eq_false hnotDirectory]⟩
          allowed := hallowed
          files_le := ?_
          bytes_le := ?_ }
      · rw [hcount, ← h.fileCount]
        exact h.files_le
      · rw [hsize, ← h.totalBytes]
        exact h.bytes_le

/-- The state while the account and files `profile` are read. -/
structure ReadsFileAsProfile (limits : Limits) (members : List Member) (extraction : Extraction) :
    Prop where
  root : extraction.tree [] = some .directory
  profile : extraction.tree ["profile"] ≠ some .directory
  files_le : extraction.fileCount + members.length ≤ limits.maxFiles
  bytes_le : extraction.totalBytes + totalSize members ≤ limits.maxExtractedBytes
  account : extraction.accountBytes.toList.length + members.countP Member.isAccount ≤ 1

theorem extractMember_file (hkind : member.kind = .file) (hsafe : member.path.IsSafe)
    (hknown : member.path.asPosix = "account.json" ∨ member.path.parts.head? = some "profile") :
    extractMember library limits member =
      (do
        countFile limits member
        if member.path.asPosix = "account.json" then readAccount member
        else
          mkdirs library member.path.parts.dropLast
          writeTarget library member.path.parts member.content) := by
  have hnotUnsafe : ¬ (member.path.isAbsolute = true ∨ ".." ∈ member.path.parts ∨
      member.path.parts = []) := by
    simp [hsafe.1, hsafe.2.1, hsafe.2.2]
  have hnotUnknown : ¬ (member.path.asPosix ≠ "account.json" ∧
      member.path.parts.head? ≠ some "profile") := by
    rwa [not_and_or, not_not, not_not]
  unfold extractMember
  simp only [hkind]
  exact (if_neg hnotUnsafe).trans (if_neg hnotUnknown)

theorem ends_extractMember_account {returns : Unit → Extraction → Prop}
    (haccount : member.isAccount = true) :
    Ends (extractMember library limits member) extraction returns raises ↔
      Ends (countFile limits member) extraction
        (fun _ next => Ends (readAccount member) next returns raises) raises := by
  simp only [Member.isAccount, Bool.and_eq_true, decide_eq_true_eq] at haccount
  obtain ⟨⟨hkind, hsafe⟩, hparts⟩ := haccount
  have hposix := (asPosix_eq_iff hsafe (by decide)).mpr hparts
  rw [extractMember_file hkind hsafe (.inl hposix), ends_bind, if_pos hposix]

theorem ends_extractMember_fileAsProfile {returns : Unit → Extraction → Prop}
    (hfile : member.isFileAsProfile = true) :
    Ends (extractMember library limits member) extraction returns raises ↔
      Ends (countFile limits member) extraction
        (fun _ next => Ends (mkdirs library []) next
          (fun _ made => Ends (writeTarget library ["profile"] member.content) made returns raises)
          raises)
        raises := by
  simp only [Member.isFileAsProfile, Member.isProfileFile, Bool.and_eq_true,
    decide_eq_true_eq] at hfile
  obtain ⟨⟨⟨hkind, hsafe⟩, hhead⟩, hparts⟩ := hfile
  have hposix : member.path.asPosix ≠ "account.json" := by
    rw [Ne, asPosix_eq_iff hsafe (by decide), hparts]
    decide
  rw [extractMember_file hkind hsafe (.inr hhead), ends_bind, if_neg hposix, hparts]
  simp only [ends_bind, List.dropLast_singleton]

theorem makeDirectories_nil {base : FileTree.Path} {tree : Tree} :
    makeDirectories base [] tree = .ok tree := rfl

theorem ReadsFileAsProfile.extractMember {rest : List Member}
    (h : ReadsFileAsProfile limits (member :: rest) extraction)
    (hknown : member.isAccount = true ∨ member.isFileAsProfile = true)
    (hsize : member.isAccount = true → member.size ≤ 1024 * 1024)
    (hallowed : library.refuses [] = none ∧ library.refuses ["profile"] = none) :
    Ends (extractMember library limits member) extraction
      (fun _ next => ReadsFileAsProfile limits rest next) (fun _ _ => False) := by
  have hfiles := h.files_le
  have hbytes := h.bytes_le
  rw [List.length_cons] at hfiles
  rw [totalSize, List.map_cons, List.sum_cons, ← totalSize] at hbytes
  have hroom : ¬ limits.maxFiles < (extraction.count member).fileCount ∧
      ¬ limits.maxExtractedBytes < (extraction.count member).totalBytes := by
    simp only [Extraction.count]
    omega
  have haccounts := h.account
  rcases hknown with haccount | hfile
  · rw [List.countP_cons_of_pos haccount] at haccounts
    have hnone : extraction.accountBytes = none := by
      rw [← Option.toList_eq_nil_iff, ← List.length_eq_zero_iff]
      omega
    rw [ends_extractMember_account haccount, ends_countFile]
    simp only [hroom.1, hroom.2, if_false]
    rw [ends_readAccount, if_neg (by simp [Extraction.count, hnone, hsize haccount])]
    exact
      { root := h.root
        profile := h.profile
        files_le := by
          simp only [Extraction.count]
          omega
        bytes_le := by
          simp only [Extraction.count]
          omega
        account := by
          simp only [Option.toList_some, List.length_singleton]
          omega }
  · have haccount := not_isAccount_of_isProfileFile
      (Member.isFileAsProfile.isProfileFile hfile)
    rw [List.countP_cons_of_neg (by simp [haccount])] at haccounts
    rw [ends_extractMember_fileAsProfile hfile, ends_countFile]
    simp only [hroom.1, hroom.2, if_false]
    have hwritten : writeFile ["profile"] member.content extraction.tree =
        .ok (Function.update extraction.tree ["profile"] (some (.file member.content))) :=
      writeFile_eq_ok_iff.mpr ⟨h.root, h.profile, rfl⟩
    rw [ends_mkdirs, hallowed.1, makeDirectories_nil]
    dsimp only [Extraction.count]
    rw [ends_writeTarget, hallowed.2, hwritten]
    exact
      { root := h.root
        profile := by
          dsimp only
          rw [Function.update_self]
          exact fun hsame => by cases hsame
        files_le := by
          dsimp only
          omega
        bytes_le := by
          dsimp only
          omega
        account := haccounts }

theorem ReadsFileAsProfile.extractMembers (h : ReadsFileAsProfile limits members extraction)
    (hknown : ∀ member ∈ members, member.isAccount = true ∨ member.isFileAsProfile = true)
    (hsize : ∀ member ∈ members, member.isAccount = true → member.size ≤ 1024 * 1024)
    (hallowed : library.refuses [] = none ∧ library.refuses ["profile"] = none) :
    Ends (extractMembers library limits members) extraction
      (fun _ next => ReadsFileAsProfile limits [] next) (fun _ _ => False) := by
  induction members generalizing extraction with
  | nil => exact h
  | cons member rest ih =>
      rw [List.forall_mem_cons] at hknown hsize
      rw [Migrations.extractMembers, ends_bind]
      exact (h.extractMember hknown.1 hsize.1 hallowed).mono
        (fun _ _ hnext => ih hnext hknown.2 hsize.2) fun _ _ hfalse => hfalse

theorem FileAsProfile.returns (h : FileAsProfile library limits members) :
    Ends (extractPayload library limits members) { } (fun _ _ => True) (fun _ _ => False) := by
  obtain ⟨account, packaged, hfilter, hsize, hvalid, hconsistent, hpresent⟩ := h.account
  have hreads : ReadsFileAsProfile limits members { } :=
    { root := rfl
      profile := nofun
      files_le := by simpa using h.files_le
      bytes_le := by simpa using h.bytes_le
      account := by simp [List.countP_eq_length_filter, hfilter] }
  have hsizes : ∀ member ∈ members, member.isAccount = true → member.size ≤ 1024 * 1024 := by
    intro member hmember haccount
    have hfound : member ∈ members.filter Member.isAccount :=
      List.mem_filter.mpr ⟨hmember, haccount⟩
    rw [hfilter, List.mem_singleton] at hfound
    rwa [hfound]
  have hstart : Ledger library limits [] { } := ledger_nil
  have hmembers :=
    (hreads.extractMembers h.known hsizes h.allowed).and (extractMembers_ends hstart)
  refine ends_extractPayload (hmembers.mono (fun _ next hnext => ?_) fun _ _ hraises => hraises.1.elim)
  obtain ⟨hnext, hledger⟩ := hnext
  rw [List.nil_append] at hledger
  have hcontent : next.accountBytes = some account.content := by
    have haccounts := hledger.accountBytes
    rw [hfilter, List.map_singleton] at haccounts
    exact Option.toList_eq_singleton_iff.mp haccounts
  refine finishExtraction_ends.mono (fun _ _ _ => trivial) fun _ _ hraises => ?_
  refine hraises.2 _ (.returns hcontent hvalid hconsistent ?_)
  rw [hpresent, decide_eq_false hnext.profile]

end Extracted

/-- Extracting is confined and bounded, and what it returns accounts for the members, for every
archive but those with a file as the profile. -/
theorem extracts_confined_iff (library : ExtractionLibrary) (limits : Limits)
    (members : List Member) :
    ExtractsConfined library limits members ↔ ¬ FileAsProfile library limits members := by
  constructor
  · intro hconfined hfile
    refine (hconfined.and hfile.returns).elim (fun payload next hreturns => ?_)
      fun _ _ hraises => hraises.2
    obtain ⟨member, hmember, hisFile⟩ := hfile.file
    have hprofile := Member.isFileAsProfile.isProfileFile hisFile
    simp only [Member.isFileAsProfile, Bool.and_eq_true, decide_eq_true_eq] at hisFile
    rcases hreturns.1.2.known member hmember with haccount | hdirectory | hbelow
    · rw [(not_isProfileFile_of_isAccount haccount).1] at hprofile
      cases hprofile
    · rw [(not_file_of_isProfileDirectory hdirectory).2] at hprofile
      cases hprofile
    · simp [Member.isBelowProfile, hisFile.2] at hbelow
  · intro hnot
    refine ends_extractPayload ((extractMembers_ends ledger_nil).mono (fun _ next hledger => ?_)
      fun _ _ hraises _ => hraises)
    rw [List.nil_append] at hledger
    refine finishExtraction_ends.mono (fun payload after hreturns => ?_) fun _ _ hraises => ?_
    · obtain ⟨rfl, hfinishes⟩ := hreturns
      exact ⟨hledger.toConfined,
        hledger.accounts hfinishes fun hfile => hnot (hledger.fileAsProfile hfinishes hfile)⟩
    · rw [hraises.1]
      exact hledger.toConfined

def profileFileArchive : List Member :=
  [{ name := "account.json", content := [123, 125] }, { name := "profile", content := [1, 2, 3] }]

def profileFileLibrary : ExtractionLibrary where
  refuses _ := none
  validate content :=
    if content = [123, 125] then
      some { sourceAccountId := "1", browserIdentity := { }, exportedAt := 0 }
    else none

/-- The archive is extracted: there is no profile, and there is one file of three bytes in it. -/
theorem profile_file_counted :
    (Procedure.outcome (extractPayload profileFileLibrary { } profileFileArchive) { }).1 =
        .ok
          { account := { sourceAccountId := "1", browserIdentity := { }, exportedAt := 0 }
            hasProfile := false, profileSize := 3, profileFiles := 1 } ∧
      ¬ ExtractsConfined profileFileLibrary { } profileFileArchive := by
  constructor
  · rfl
  · rintro hconfined
    have haccounts : Accounts profileFileArchive _ := hconfined.2
    exact absurd haccounts.profileFiles (by decide)

end XianyuAdmin.Migrations
