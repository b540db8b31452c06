import XianyuAdmin.Core.FileTree
import XianyuAdmin.Core.Procedure
import XianyuAdmin.Migrations.PackagedAccounts

/-!
# Extracting the payload of a migration package

`_extract_payload` goes through the members of a tar archive, whoever has made it, and writes
the files of the browser profile below a directory of its own.
-/

namespace XianyuAdmin.Migrations

open XianyuAdmin.FileTree
open XianyuAdmin.Procedure

/-- `member.isdir()`, `member.isfile()`, or neither: a link, a device, a pipe. -/
inductive MemberKind
  | directory
  | file
  | other
  deriving DecidableEq, Repr

/-- A member of the archive with its content; `size` is the length of the content. -/
structure Member where
  name : String
  kind : MemberKind := .file
  content : List UInt8 := []
  deriving DecidableEq

def Member.size (member : Member) : ℕ := member.content.length

/-- A `PurePosixPath`, without its root. -/
structure PurePath where
  isAbsolute : Bool
  parts : FileTree.Path
  deriving DecidableEq

/-- `PurePosixPath(name)` -/
def purePosixPath (name : String) : PurePath where
  isAbsolute := name.toList.head? = some '/'
  parts := ((name.toList.splitOn '/').map String.ofList).filter fun part =>
    part ≠ "" && part ≠ "."

def PurePath.asPosix (path : PurePath) : String :=
  (if path.isAbsolute then "/" else "") ++
    if path.parts = [] ∧ path.isAbsolute = false then "." else "/".intercalate path.parts

structure Limits where
  maxArchiveBytes : ℕ := 512 * 1024 * 1024
  maxExtractedBytes : ℕ := 2 * 1024 * 1024 * 1024
  maxFiles : ℕ := 50000

/-- What is raised. -/
inductive ExtractionError
  /-- `AccountMigrationError` -/
  | migration (text : String)
  | osError
  | valueError
  deriving DecidableEq, Repr

structure ExtractionLibrary where
  /-- What the operating system raises for a path: a `ValueError` for a null byte, an `OSError`
  for a name that is too long. -/
  refuses : FileTree.Path → Option ExtractionError
  /-- `MigratedAccount.model_validate_json`, if it returns. -/
  validate : List UInt8 → Option PackagedAccount

/-- The local variables of `_extract_payload`, the tree below the destination, and the files
that were written into it. -/
structure Extraction where
  tree : Tree := FileTree.empty
  written : List (FileTree.Path × List UInt8) := []
  totalBytes : ℕ := 0
  fileCount : ℕ := 0
  accountBytes : Option (List UInt8) := none

abbrev ExtractionProcedure := Procedure Extraction ExtractionError

variable (library : ExtractionLibrary) (limits : Limits)

def raiseMigration {Value : Type} (text : String) : ExtractionProcedure Value :=
  throw (.migration text)

/-- `path.mkdir(parents=True, exist_ok=True)`, for a directory below the destination. -/
def mkdirs (path : FileTree.Path) : ExtractionProcedure Unit := do
  let extraction ← get
  match library.refuses path, makeDirectories [] path extraction.tree with
  | some error, _ => throw error
  | none, .ok tree => set { extraction with tree := tree }
  | none, .error _ => throw .osError

/-- `target.open("wb")`, and the copying of the content. -/
def writeTarget (path : FileTree.Path) (content : List UInt8) : ExtractionProcedure Unit := do
  let extraction ← get
  match library.refuses path, writeFile path content extraction.tree with
  | some error, _ => throw error
  | none, .ok tree =>
      set { extraction with tree := tree, written := extraction.written ++ [(path, content)] }
  | none, .error _ => throw .osError

def countFile (member : Member) : ExtractionProcedure Unit := do
  modify fun extraction =>
    { extraction with
      fileCount := extraction.fileCount + 1
      totalBytes := extraction.totalBytes + member.size }
  let extraction ← get
  if limits.maxFiles < extraction.fileCount then raiseMigration "账户迁移包文件数量超过限制"
  else if limits.maxExtractedBytes < extraction.totalBytes then
    raiseMigration "账户迁移包解压后超过 2 GiB"
  else pure ()

def readAccount (member : Member) : ExtractionProcedure Unit := do
  let extraction ← get
  if extraction.accountBytes.isSome ∨ 1024 * 1024 < member.size then
    raiseMigration "账户迁移包账户清单异常"
  else set { extraction with accountBytes := some member.content }

def extractMember (member : Member) : ExtractionProcedure Unit :=
  let path := purePosixPath member.name
  if path.isAbsolute ∨ ".." ∈ path.parts ∨ path.parts = [] then
    raiseMigration "账户迁移包包含不安全路径"
  else
    match member.kind with
    | .directory =>
        if path.asPosix ≠ "profile" then raiseMigration "账户迁移包包含未知目录"
        else mkdirs library ["profile"]
    | .other => raiseMigration "账户迁移包包含不安全的链接或设备文件"
    | .file =>
        if path.asPosix ≠ "account.json" ∧ path.parts.head? ≠ some "profile" then
          raiseMigration "账户迁移包包含未知文件"
        else do
          countFile limits member
          if path.asPosix = "account.json" then readAccount member
          else
            mkdirs library path.parts.dropLast
            writeTarget library path.parts member.content

def extractMembers : List Member → ExtractionProcedure Unit
  | [] => pure ()
  | member :: rest => do
      extractMember library limits member
      extractMembers rest

/-- What `_extract_payload` returns; the path of the profile is known, if there is one. -/
structure ExtractedPayload where
  account : PackagedAccount
  hasProfile : Bool
  profileSize : ℕ
  profileFiles : ℕ
  deriving DecidableEq

/-- The end of `_extract_payload`. -/
def finishExtraction : ExtractionProcedure ExtractedPayload := do
  let extraction ← get
  match extraction.accountBytes with
  | none => raiseMigration "账户迁移包缺少账户清单"
  | some accountBytes =>
      match library.validate accountBytes with
      | none => raiseMigration "账户迁移包账户数据无效"
      | some account =>
          let isDir : Bool := extraction.tree ["profile"] = some .directory
          if !account.isConsistent then raiseMigration "迁移包 Cookie 与平台账户身份不一致"
          else if account.profilePresent ≠ isDir then
            raiseMigration "迁移包浏览器 Profile 状态不一致"
          else
            pure
              { account := account
                hasProfile := isDir
                profileSize := extraction.totalBytes - accountBytes.length
                profileFiles := extraction.fileCount - 1 }

/-- `_extract_payload` into a new directory. -/
def extractPayload (members : List Member) : ExtractionProcedure ExtractedPayload := do
  tryCatch (extractMembers library limits members) fun error =>
    match error with
    | .osError => raiseMigration "账户迁移包压缩数据损坏"
    | .migration _ | .valueError => throw error
  finishExtraction library

end XianyuAdmin.Migrations
