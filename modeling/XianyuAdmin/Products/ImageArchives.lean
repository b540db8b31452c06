import Mathlib

/-!
# Image archives

An archive of product images is read entry by entry, and an image that is accepted is stored at
once.  An exception removes the images again that the import has stored.
-/

namespace XianyuAdmin.Products.ImageArchives

/-- What `zipfile` raises. -/
inductive ReaderError
  | badZipFile
  | eofError
  | osError
  | runtimeError
  | zlibError
  | unicodeDecodeError
  deriving DecidableEq, Repr

structure ZipInfo where
  filename : String
  fileSize : ℤ
  flagBits : ℕ := 0
  /-- `member.read(MAX_IMAGE_INPUT_BYTES + 1)` -/
  content : Except ReaderError (List UInt8)

structure Archive where
  size : ℕ
  infolistGbk : Except ReaderError (List ZipInfo)
  infolist : Except ReaderError (List ZipInfo)

/-- `_open_archive`, and the list of the entries. -/
def openArchive (archive : Archive) : Except ReaderError (List ZipInfo) :=
  match archive.infolistGbk with
  | .error .unicodeDecodeError => archive.infolist
  | entries => entries

def maxImageInputBytes : ℕ := 10 * 1024 * 1024
def maxProductArchiveBytes : ℕ := 50 * 1024 * 1024
def maxProductArchiveEntries : ℕ := 200
def maxProductArchiveUncompressedBytes : ℤ := 100 * 1024 * 1024

def supportedArchiveImageSuffixes : List String := [".jpg", ".jpeg", ".png", ".webp"]

/-- What the import takes from the Python library, from the image code and from `uuid4`. -/
structure ArchiveLibrary where
  casefold : String → String
  /-- `\d` -/
  isDecimal : Char → Bool
  /-- `str.isdigit` -/
  isDigit : Char → Bool
  decimal : Char → ℕ
  /-- `prepare_image`: the data, or the text of an `ImageValidationError`. -/
  prepareImage : List UInt8 → Except String (List UInt8)
  assetId : ℕ → String

variable (library : ArchiveLibrary)

def normalizedName (info : ZipInfo) : List Char :=
  info.filename.toList.map fun char => if char = '\\' then '/' else char

/-- `PurePosixPath(name).parts`, without the root. -/
def pathParts (name : List Char) : List (List Char) :=
  (name.splitOn '/').filter fun part => part ≠ [] ∧ part ≠ ['.']

def fileName (name : List Char) : List Char :=
  (pathParts name).getLast?.getD []

/-- `PurePosixPath(name).suffix` -/
def suffix (name : List Char) : List Char :=
  let extension := (fileName name).reverse.takeWhile (· ≠ '.')
  if extension = [] ∨ (fileName name).length ≤ extension.length + 1 then []
  else '.' :: extension.reverse

def isDir (info : ZipInfo) : Bool := info.filename.toList.getLast? = some '/'

/-- `re.match(r"^[A-Za-z]:", name)` -/
def startsWithDrive : List Char → Bool
  | letter :: ':' :: _ => letter.isAlpha
  | _ => false

def isUnsafeName (name : List Char) : Bool :=
  name.head? = some '/' || ['.', '.'] ∈ pathParts name || startsWithDrive name

def isImage (info : ZipInfo) : Bool :=
  library.casefold (String.ofList (suffix (normalizedName info))) ∈ supportedArchiveImageSuffixes

def originalFilename (info : ZipInfo) : String :=
  let name := String.ofList (fileName (normalizedName info))
  if name = "" then "product-image.jpg" else name

/-- `re.split(r"(\d+)", text)`; `digits` tells whether the part is a run of digits. -/
def splitRuns (part : List Char) (digits : Bool) : List Char → List (List Char)
  | [] => if digits then [part, []] else [part]
  | char :: rest =>
      if library.isDecimal char = digits then splitRuns (part ++ [char]) digits rest
      else part :: splitRuns [char] (!digits) rest

/-- `int(part)`, which takes decimal digits, and no more than 4300. -/
def intOfDigits (part : List Char) : Option ℕ :=
  if part.all library.isDecimal ∧ part.length ≤ 4300 then
    some (part.foldl (fun value char => 10 * value + library.decimal char) 0)
  else none

/-- A part of a sort key: `(0, part)` or `(1, int(part))`. -/
abbrev KeyPart := Lex (List Char ⊕ ℕ)

/-- `_natural_sort_key`, or `none` for a `ValueError`. -/
def naturalSortKey (info : ZipInfo) : Option (List KeyPart) :=
  (splitRuns library [] false
    (library.casefold (String.ofList (normalizedName info))).toList).mapM fun part =>
      if part ≠ [] ∧ part.all library.isDigit then
        (intOfDigits library part).map fun number => toLex (.inr number)
      else some (toLex (.inl part))

inductive ImportError
  /-- `ProductImageArchiveError` -/
  | archiveError (text : String)
  | reader (error : ReaderError)
  | valueError
  deriving DecidableEq

structure StoredArchiveImage where
  originalFilename : String
  assetId : String

structure RejectedArchiveImage where
  filename : String
  reason : String

structure ArchiveImport where
  images : List StoredArchiveImage
  ignoredNonImageCount : ℕ
  rejectedImages : List RejectedArchiveImage
  skippedLimitCount : ℕ

/-- The files of the account, by their asset ids. -/
abbrev ImageStorage := List (String × List UInt8)

def ImageStorage.delete (storage : ImageStorage) (assetId : String) : ImageStorage :=
  storage.filter fun file => file.1 ≠ assetId

structure Progress where
  saved : List StoredArchiveImage := []
  rejected : List RejectedArchiveImage := []
  storage : ImageStorage

def Progress.reject (progress : Progress) (info : ZipInfo) (reason : String) : Progress :=
  { progress with rejected := progress.rejected ++ [⟨originalFilename info, reason⟩] }

/-- `storage.save`, and the record of the image. -/
def Progress.save (progress : Progress) (info : ZipInfo) (data : List UInt8) : Progress :=
  let assetId := library.assetId progress.saved.length
  { progress with
    saved := progress.saved ++ [⟨originalFilename info, assetId⟩]
    storage := progress.storage.delete assetId ++ [(assetId, data)] }

def readFailure (error : ReaderError) : ImportError :=
  if error ∈ [.badZipFile, .eofError, .osError, .runtimeError] then
    .archiveError "ZIP 压缩包已损坏，无法读取图片"
  else .reader error

/-- The body of the loop. -/
def importEntry (info : ZipInfo) (progress : Progress) : Except ImportError Progress :=
  if info.fileSize ≤ 0 then .ok (progress.reject info "图片文件为空")
  else if (maxImageInputBytes : ℤ) < info.fileSize then
    .ok (progress.reject info "图片大小不能超过 10 MB")
  else
    match info.content with
    | .error error => .error (readFailure error)
    | .ok raw =>
        if maxImageInputBytes < raw.length then
          .ok (progress.reject info "图片大小不能超过 10 MB")
        else
          match library.prepareImage raw with
          | .error text => .ok (progress.reject info text)
          | .ok data => .ok (progress.save library info data)

/-- The loop over the candidates: how many are skipped, or what is raised. -/
def importFrom (limit : ℕ) : List ZipInfo → Progress → Except ImportError ℕ × Progress
  | [], progress => (.ok 0, progress)
  | info :: rest, progress =>
      if limit ≤ progress.saved.length then (.ok (rest.length + 1), progress)
      else
        match importEntry library info progress with
        | .error failure => (.error failure, progress)
        | .ok next => importFrom limit rest next

def filesOf (infos : List ZipInfo) : List ZipInfo := infos.filter fun info => !isDir info

/-- The checks before anything is read. -/
def refusal (infos : List ZipInfo) : Option String :=
  if maxProductArchiveEntries < infos.length then some "ZIP 压缩包内文件数量不能超过 200 个"
  else if infos.any (·.flagBits % 2 = 1) then some "暂不支持加密 ZIP 压缩包"
  else if (filesOf infos).any fun info => isUnsafeName (normalizedName info) then
    some "ZIP 压缩包包含不安全的文件路径"
  else if maxProductArchiveUncompressedBytes <
      ((filesOf infos).map fun info => max 0 info.fileSize).sum then
    some "ZIP 压缩包解压后的文件总量不能超过 100 MB"
  else none

def keyedCandidates (infos : List ZipInfo) : Option (List (List KeyPart × ZipInfo)) :=
  ((filesOf infos).filter (isImage library)).mapM fun info =>
    (naturalSortKey library info).map fun key => (key, info)

/-- `sorted(..., key=_natural_sort_key)` -/
def sortedCandidates (keyed : List (List KeyPart × ZipInfo)) : List ZipInfo :=
  (keyed.insertionSort fun left right => left.1 ≤ right.1).map Prod.snd

/-- `import_product_image_archive`, and the files it leaves. -/
def importProductImageArchive (archive : Archive) (limit : ℤ) (storage : ImageStorage) :
    Except ImportError ArchiveImport × ImageStorage :=
  if ¬(1 ≤ limit ∧ limit ≤ 9) then
    (.error (.archiveError "压缩包图片导入数量必须为 1 到 9 张"), storage)
  else if archive.size = 0 then (.error (.archiveError "压缩包为空"), storage)
  else if maxProductArchiveBytes < archive.size then
    (.error (.archiveError "ZIP 压缩包不能超过 50 MB"), storage)
  else
    match openArchive archive with
    | .error .badZipFile => (.error (.archiveError "文件不是有效的 ZIP 压缩包"), storage)
    | .error error => (.error (.reader error), storage)
    | .ok infos =>
        match refusal infos with
        | some text => (.error (.archiveError text), storage)
        | none =>
            match keyedCandidates library infos with
            | none => (.error .valueError, storage)
            | some keyed =>
                match importFrom library limit.toNat (sortedCandidates keyed)
                    { storage := storage } with
                | (.ok skipped, progress) =>
                    (.ok
                      { images := progress.saved
                        ignoredNonImageCount := (filesOf infos).length - keyed.length
                        rejectedImages := progress.rejected
                        skippedLimitCount := skipped }, progress.storage)
                | (.error failure, progress) =>
                    (.error failure,
                      progress.saved.foldl (fun files image => files.delete image.assetId)
                        progress.storage)

def readError (info : ZipInfo) : Option ReaderError :=
  if 0 < info.fileSize ∧ info.fileSize ≤ maxImageInputBytes then
    match info.content with
    | .error error => some error
    | .ok _ => none
  else none

def accepted (info : ZipInfo) : Option (List UInt8) :=
  if 0 < info.fileSize ∧ info.fileSize ≤ maxImageInputBytes then
    match info.content with
    | .error _ => none
    | .ok raw =>
        if raw.length ≤ maxImageInputBytes then (library.prepareImage raw).toOption else none
  else none

def isAccepted (info : ZipInfo) : Bool := (accepted library info).isSome

def IsHandled (error : ReaderError) : Prop :=
  error = .badZipFile ∨ error = .eofError ∨ error = .osError ∨ error = .runtimeError

variable {library} {info : ZipInfo} {progress before after : Progress} {limit : ℕ}
variable {front : List ZipInfo} {data : List UInt8} {reason : String}

theorem readFailure_isArchiveError {error : ReaderError} :
    (∃ text, readFailure error = .archiveError text) ↔ IsHandled error := by
  cases error <;> simp [readFailure, IsHandled]

theorem importEntry_of_readError {error : ReaderError} (herror : readError info = some error) :
    importEntry library info progress = .error (readFailure error) := by
  by_cases hsize : 0 < info.fileSize ∧ info.fileSize ≤ maxImageInputBytes
  · rw [readError, if_pos hsize] at herror
    rw [importEntry, if_neg (by omega), if_neg (by omega)]
    cases hcontent : info.content with
    | error raised => simp only [hcontent, Option.some.injEq] at herror ⊢; rw [herror]
    | ok raw => simp only [hcontent, reduceCtorEq] at herror
  · rw [readError, if_neg hsize] at herror
    cases herror

theorem importEntry_of_readable (progress : Progress) (hreadable : readError info = none) :
    (∃ data, accepted library info = some data ∧
      importEntry library info progress = .ok (progress.save library info data)) ∨
    (accepted library info = none ∧
      ∃ reason, importEntry library info progress = .ok (progress.reject info reason)) := by
  by_cases hsize : 0 < info.fileSize ∧ info.fileSize ≤ maxImageInputBytes
  · rw [readError, if_pos hsize] at hreadable
    rw [importEntry, if_neg (by omega), if_neg (by omega), accepted, if_pos hsize]
    cases hcontent : info.content with
    | error raised => simp only [hcontent, reduceCtorEq] at hreadable
    | ok raw =>
        by_cases hlength : raw.length ≤ maxImageInputBytes
        · simp only [hlength, if_true, if_neg (Nat.not_lt.mpr hlength)]
          cases hprepare : library.prepareImage raw with
          | error text => exact .inr ⟨rfl, text, rfl⟩
          | ok data => exact .inl ⟨data, rfl, rfl⟩
        · simp only [hlength, if_false, if_pos (Nat.lt_of_not_le hlength)]
          exact .inr ⟨trivial, _, rfl⟩
  · rw [importEntry, accepted, if_neg hsize]
    refine .inr ⟨rfl, ?_⟩
    by_cases hempty : info.fileSize ≤ 0
    · exact ⟨_, if_pos hempty⟩
    · exact ⟨_, (if_neg hempty).trans (if_pos (by omega))⟩

variable (library)

def storedImages (index : ℕ) (infos : List ZipInfo) : List StoredArchiveImage :=
  infos.mapIdx fun offset info => ⟨originalFilename info, library.assetId (index + offset)⟩

def storeAll : ℕ → List (List UInt8) → ImageStorage → ImageStorage
  | _, [], storage => storage
  | index, data :: rest, storage =>
      storeAll (index + 1) rest
        (storage.delete (library.assetId index) ++ [(library.assetId index, data)])

/-- The entries have been considered, and nothing has been raised. -/
structure Considers (front : List ZipInfo) (before after : Progress) : Prop where
  readable : ∀ info ∈ front, readError info = none
  saved : after.saved =
    before.saved ++ storedImages library before.saved.length (front.filter (isAccepted library))
  rejected : after.rejected.map (·.filename) =
    before.rejected.map (·.filename) ++
      (front.filter fun info => !isAccepted library info).map originalFilename
  storage : after.storage =
    storeAll library before.saved.length (front.filterMap (accepted library)) before.storage

variable {library}

theorem Considers.refl (progress : Progress) : Considers library [] progress progress := by
  constructor <;> simp [storedImages, storeAll]

theorem storedImages_cons (index : ℕ) (info : ZipInfo) (infos : List ZipInfo) :
    storedImages library index (info :: infos) =
      ⟨originalFilename info, library.assetId index⟩ ::
        storedImages library (index + 1) infos := by
  rw [storedImages, List.mapIdx_cons, storedImages]
  congr 2
  funext offset other
  rw [Nat.add_assoc, Nat.add_comm 1 offset]

theorem Considers.of_save (hreadable : readError info = none)
    (haccepted : accepted library info = some data)
    (hconsiders : Considers library front (before.save library info data) after) :
    Considers library (info :: front) before after := by
  have hisAccepted : isAccepted library info = true := by rw [isAccepted, haccepted]; rfl
  have hlength : (before.save library info data).saved.length = before.saved.length + 1 := by
    simp [Progress.save]
  refine ⟨List.forall_mem_cons.mpr ⟨hreadable, hconsiders.readable⟩, ?_, ?_, ?_⟩
  · rw [hconsiders.saved, List.filter_cons_of_pos hisAccepted, storedImages_cons, hlength]
    simp [Progress.save]
  · rw [hconsiders.rejected, List.filter_cons_of_neg (by simp [hisAccepted])]
    rfl
  · rw [hconsiders.storage, List.filterMap_cons_some haccepted, hlength, storeAll]
    rfl

theorem Considers.of_reject (hreadable : readError info = none)
    (haccepted : accepted library info = none)
    (hconsiders : Considers library front (before.reject info reason) after) :
    Considers library (info :: front) before after := by
  have hisAccepted : isAccepted library info = false := by rw [isAccepted, haccepted]; rfl
  refine ⟨List.forall_mem_cons.mpr ⟨hreadable, hconsiders.readable⟩, ?_, ?_, ?_⟩
  · rw [hconsiders.saved, List.filter_cons_of_neg (by simp [hisAccepted])]
    rfl
  · rw [hconsiders.rejected, List.filter_cons_of_pos (by simp [hisAccepted])]
    simp [Progress.reject]
  · rw [hconsiders.storage, List.filterMap_cons_none haccepted]
    rfl

theorem Considers.length_saved (hconsiders : Considers library front before after) :
    after.saved.length =
      before.saved.length + (front.filter (isAccepted library)).length := by
  rw [hconsiders.saved, List.length_append, storedImages, List.length_mapIdx]

/-- As long as nothing is raised and the limit is not reached, the loop considers each entry. -/
theorem importFrom_append (rest : List ZipInfo) (before : Progress)
    (hreadable : ∀ info ∈ front, readError info = none)
    (hlimit : before.saved.length + (front.filter (isAccepted library)).length < limit) :
    ∃ after, Considers library front before after ∧
      importFrom library limit (front ++ rest) before = importFrom library limit rest after := by
  induction front generalizing before with
  | nil => exact ⟨before, Considers.refl before, rfl⟩
  | cons info front ih =>
      obtain ⟨hinfo, hfront⟩ := List.forall_mem_cons.mp hreadable
      rw [List.cons_append, importFrom, if_neg (by omega)]
      rcases importEntry_of_readable before hinfo with
        ⟨data, haccepted, hentry⟩ | ⟨haccepted, reason, hentry⟩
      · have hisAccepted : isAccepted library info = true := by rw [isAccepted, haccepted]; rfl
        rw [List.filter_cons_of_pos hisAccepted, List.length_cons] at hlimit
        obtain ⟨after, hconsiders, hrun⟩ := ih (before.save library info data) hfront
          (by simp only [Progress.save, List.length_append, List.length_singleton]; omega)
        exact ⟨after, hconsiders.of_save hinfo haccepted, by rw [hentry]; exact hrun⟩
      · have hisAccepted : ¬isAccepted library info = true := by
          rw [isAccepted, haccepted]
          exact Bool.false_ne_true
        rw [List.filter_cons_of_neg hisAccepted] at hlimit
        obtain ⟨after, hconsiders, hrun⟩ :=
          ih (before.reject info reason) hfront hlimit
        exact ⟨after, hconsiders.of_reject hinfo haccepted, by rw [hentry]; exact hrun⟩

/-- The loop is left behind the last entry, at the limit, or by what a reading raises. -/
theorem importFrom_spec (library : ArchiveLibrary) (limit : ℕ) (candidates : List ZipInfo) (before : Progress) :
    ∃ front rest after, candidates = front ++ rest ∧ Considers library front before after ∧
      ((after.saved.length ≤ max limit before.saved.length ∧
          (rest = [] ∨ limit ≤ after.saved.length) ∧
          importFrom library limit candidates before = (.ok rest.length, after)) ∨
        ∃ info tail error, rest = info :: tail ∧ after.saved.length < limit ∧
          readError info = some error ∧
          importFrom library limit candidates before = (.error (readFailure error), after)) := by
  induction candidates generalizing before with
  | nil =>
      exact ⟨[], [], before, rfl, Considers.refl before,
        .inl ⟨le_max_right _ _, .inl rfl, rfl⟩⟩
  | cons info rest ih =>
      by_cases hlimit : limit ≤ before.saved.length
      · exact ⟨[], info :: rest, before, rfl, Considers.refl before,
          .inl ⟨le_max_right _ _, .inr hlimit, by rw [importFrom, if_pos hlimit]; rfl⟩⟩
      cases hread : readError info with
      | some error =>
          refine ⟨[], info :: rest, before, rfl, Considers.refl before,
            .inr ⟨info, rest, error, rfl, by omega, hread, ?_⟩⟩
          rw [importFrom, if_neg hlimit, importEntry_of_readError hread]
      | none =>
          rcases importEntry_of_readable before hread with
            ⟨data, haccepted, hentry⟩ | ⟨haccepted, reason, hentry⟩
          · obtain ⟨front, tail, after, rfl, hconsiders, hend⟩ := ih (before.save library info data)
            have hlength : (before.save library info data).saved.length ≤ limit := by
              simp only [Progress.save, List.length_append, List.length_singleton]
              omega
            refine ⟨info :: front, tail, after, rfl, hconsiders.of_save hread haccepted, ?_⟩
            rw [importFrom, if_neg hlimit, hentry]
            rw [max_eq_left hlength] at hend
            rw [max_eq_left (by omega : before.saved.length ≤ limit)]
            exact hend
          · obtain ⟨front, tail, after, rfl, hconsiders, hend⟩ := ih (before.reject info reason)
            refine ⟨info :: front, tail, after, rfl, hconsiders.of_reject hread haccepted, ?_⟩
            rw [importFrom, if_neg hlimit, hentry]
            exact hend

theorem mem_foldl_delete (saved : List StoredArchiveImage) (storage : ImageStorage) :
    (saved.foldl (fun files image => files.delete image.assetId) storage) =
      storage.filter fun file => file.1 ∉ saved.map (·.assetId) := by
  induction saved generalizing storage with
  | nil => simp
  | cons image saved ih =>
      rw [List.foldl_cons, ih, ImageStorage.delete, List.filter_filter]
      congr 1
      funext file
      simp only [List.map_cons, List.mem_cons, not_or, decide_not, Bool.decide_and, ne_eq,
        Bool.and_comm]

theorem filter_storeAll {ids : List String} (index : ℕ) (datas : List (List UInt8))
    (storage : ImageStorage)
    (hids : ∀ offset < datas.length, library.assetId (index + offset) ∈ ids) :
    (storeAll library index datas storage).filter (fun file => file.1 ∉ ids) =
      storage.filter fun file => file.1 ∉ ids := by
  induction datas generalizing index storage with
  | nil => rfl
  | cons data datas ih =>
      have hid : library.assetId index ∈ ids := hids 0 (Nat.zero_lt_succ _)
      have hrest : ∀ offset < datas.length, library.assetId (index + 1 + offset) ∈ ids := by
        intro offset hoffset
        rw [Nat.add_assoc, Nat.add_comm 1 offset]
        exact hids (offset + 1) (Nat.succ_lt_succ hoffset)
      rw [storeAll, ih _ _ hrest, List.filter_append, ImageStorage.delete, List.filter_filter]
      have hlast : [(library.assetId index, data)].filter (fun file => file.1 ∉ ids) = [] := by
        simp [hid]
      rw [hlast, List.append_nil]
      congr 1
      funext file
      have hne : file.1 ∉ ids → file.1 ≠ library.assetId index := fun hfile heq =>
        hfile (heq ▸ hid)
      simpa using hne

theorem Considers.mem_assetIds (hconsiders : Considers library front before after)
    (offset : ℕ) (hoffset : offset < (front.filterMap (accepted library)).length) :
    library.assetId (before.saved.length + offset) ∈ after.saved.map (·.assetId) := by
  rw [List.length_filterMap_eq_countP, List.countP_eq_length_filter] at hoffset
  rw [hconsiders.saved, List.map_append, List.mem_append]
  refine .inr (List.mem_iff_getElem.mpr ⟨offset, ?_, ?_⟩)
  · rw [List.length_map, storedImages, List.length_mapIdx]
    exact hoffset
  · simp [storedImages]

/-- What the handler leaves of the storage. -/
theorem Considers.discard (hconsiders : Considers library front before after) :
    after.saved.foldl (fun files image => files.delete image.assetId) after.storage =
      before.storage.filter fun file => file.1 ∉ after.saved.map (·.assetId) := by
  rw [mem_foldl_delete, hconsiders.storage]
  exact filter_storeAll _ _ _ hconsiders.mem_assetIds

variable {infos : List ZipInfo} {keyed : List (List KeyPart × ZipInfo)}

theorem keyedCandidates_eq_none :
    keyedCandidates library infos = none ↔
      ∃ info ∈ (filesOf infos).filter (isImage library), naturalSortKey library info = none := by
  rw [keyedCandidates]
  induction (filesOf infos).filter (isImage library) with
  | nil => simp
  | cons info rest ih =>
      rw [List.mapM_cons, List.exists_mem_cons_iff, ← ih]
      cases naturalSortKey library info with
      | none => simp
      | some key =>
          cases List.mapM (fun info => (naturalSortKey library info).map fun key => (key, info))
            rest <;> simp

theorem keyedCandidates_eq_some (hkeyed : keyedCandidates library infos = some keyed) :
    keyed.map Prod.snd = (filesOf infos).filter (isImage library) ∧
      ∀ pair ∈ keyed, naturalSortKey library pair.2 = some pair.1 := by
  rw [keyedCandidates] at hkeyed
  generalize (filesOf infos).filter (isImage library) = images at hkeyed ⊢
  induction images generalizing keyed with
  | nil =>
      cases Option.some.inj hkeyed
      simp
  | cons info rest ih =>
      rw [List.mapM_cons] at hkeyed
      cases hkey : naturalSortKey library info with
      | none => simp [hkey] at hkeyed
      | some key =>
          cases hrest : List.mapM
            (fun info => (naturalSortKey library info).map fun key => (key, info)) rest with
          | none => simp [hkey, hrest] at hkeyed
          | some others =>
              simp only [hkey, hrest, Option.map_some, Option.bind_eq_bind, Option.bind_some,
                Option.pure_def, Option.some.injEq] at hkeyed
              obtain ⟨hothers, hkeys⟩ := ih hrest
              subst hkeyed
              exact ⟨by rw [List.map_cons, hothers], List.forall_mem_cons.mpr ⟨hkey, hkeys⟩⟩

variable (library) in
def NotAfter (first second : ZipInfo) : Prop :=
  ∃ key other, naturalSortKey library first = some key ∧
    naturalSortKey library second = some other ∧ key ≤ other

theorem pairwise_sortedCandidates (hkeyed : keyedCandidates library infos = some keyed) :
    (sortedCandidates keyed).Pairwise (NotAfter library) := by
  let notAfter (left right : List KeyPart × ZipInfo) : Prop := left.1 ≤ right.1
  have : Std.Total notAfter := ⟨fun left right => le_total left.1 right.1⟩
  have : IsTrans (List KeyPart × ZipInfo) notAfter := ⟨fun _ _ _ => le_trans⟩
  have hkeys := (keyedCandidates_eq_some hkeyed).2
  refine List.pairwise_map.mpr
    ((List.pairwise_insertionSort notAfter keyed).imp_of_mem fun {left right} hleft hright hle => ?_)
  rw [List.mem_insertionSort] at hleft hright
  exact ⟨left.1, right.1, hkeys left hleft, hkeys right hright, hle⟩

theorem sortedCandidates_perm (hkeyed : keyedCandidates library infos = some keyed) :
    (sortedCandidates keyed).Perm ((filesOf infos).filter (isImage library)) := by
  rw [← (keyedCandidates_eq_some hkeyed).1]
  exact (List.perm_insertionSort _ keyed).map Prod.snd

variable (library)

structure Accounted (files candidates : List ZipInfo) (limit : ℕ) (storage : ImageStorage)
    (imported : ArchiveImport) (left : ImageStorage) : Prop where
  entries : candidates.Perm (files.filter (isImage library))
  sorted : candidates.Pairwise (NotAfter library)
  images : imported.images =
    storedImages library 0 ((candidates.filter (isAccepted library)).take limit)
  stored : left = storeAll library 0 ((candidates.filterMap (accepted library)).take limit) storage
  counted : ∃ considered skipped, candidates = considered ++ skipped ∧
    imported.images = storedImages library 0 (considered.filter (isAccepted library)) ∧
    imported.rejectedImages.map (·.filename) =
      (considered.filter fun info => !isAccepted library info).map originalFilename ∧
    imported.skippedLimitCount = skipped.length
  ignored : imported.ignoredNonImageCount =
    (files.filter fun info => !isImage library info).length
  total : imported.images.length + imported.rejectedImages.length +
    imported.ignoredNonImageCount + imported.skippedLimitCount = files.length

def IsSound (archive : Archive) (limit : ℤ) (storage : ImageStorage) :
    Except ImportError ArchiveImport × ImageStorage → Prop
  | (.error failure, left) =>
      (∃ text, failure = .archiveError text) ∧ (∀ file ∈ left, file ∈ storage) ∧
        ((∀ index, ∀ file ∈ storage, file.1 ≠ library.assetId index) → left = storage)
  | (.ok imported, left) =>
      imported.images.length ≤ limit.toNat ∧
        ∃ infos candidates, openArchive archive = .ok infos ∧
          Accounted library (filesOf infos) candidates limit.toNat storage imported left

def ReadsAll (limit : ℕ) (candidates : List ZipInfo) : Prop :=
  ∀ front info rest error, candidates = front ++ info :: rest →
    (∀ other ∈ front, readError other = none) →
    (front.filter (isAccepted library)).length < limit →
    readError info = some error → IsHandled error

structure IsReadable (archive : Archive) (limit : ℕ) : Prop where
  opens : ∀ error, openArchive archive = .error error → error = .badZipFile
  sorts : ∀ infos, openArchive archive = .ok infos → refusal infos = none →
    ∀ info ∈ (filesOf infos).filter (isImage library), naturalSortKey library info ≠ none
  reads : ∀ infos keyed, openArchive archive = .ok infos → refusal infos = none →
    keyedCandidates library infos = some keyed → ReadsAll library limit (sortedCandidates keyed)

variable {library} {rest : List ZipInfo} {storage : ImageStorage} {archive : Archive}

theorem take_append_of_length {Item : Type*} {first second : List Item}
    (hle : first.length ≤ limit) (hend : second = [] ∨ limit ≤ first.length) :
    (first ++ second).take limit = first := by
  rcases hend with rfl | hfull
  · rw [List.append_nil, List.take_of_length_le hle]
  · exact List.take_left' (le_antisymm hle hfull)

theorem accounted_of_considers (hkeyed : keyedCandidates library infos = some keyed)
    (hsplit : sortedCandidates keyed = front ++ rest)
    (hconsiders : Considers library front { storage := storage } after)
    (hle : after.saved.length ≤ limit) (hend : rest = [] ∨ limit ≤ after.saved.length) :
    Accounted library (filesOf infos) (sortedCandidates keyed) limit storage
      { images := after.saved
        ignoredNonImageCount := (filesOf infos).length - keyed.length
        rejectedImages := after.rejected
        skippedLimitCount := rest.length } after.storage := by
  have hperm := sortedCandidates_perm hkeyed
  have hsaved : after.saved = storedImages library 0 (front.filter (isAccepted library)) :=
    hconsiders.saved
  have hrejected : after.rejected.map (·.filename) =
      (front.filter fun info => !isAccepted library info).map originalFilename :=
    hconsiders.rejected
  have hlength : after.saved.length = (front.filter (isAccepted library)).length := by
    rw [hsaved, storedImages, List.length_mapIdx]
  have hlengthMap : (front.filterMap (accepted library)).length = after.saved.length := by
    rw [hlength, List.length_filterMap_eq_countP, List.countP_eq_length_filter]
    rfl
  have himages := List.length_eq_length_filter_add (l := filesOf infos) (isImage library)
  have hkeyedLength : keyed.length = ((filesOf infos).filter (isImage library)).length := by
    rw [← (keyedCandidates_eq_some hkeyed).1, List.length_map]
  refine ⟨hperm, pairwise_sortedCandidates hkeyed, ?_, ?_,
    ⟨front, rest, hsplit, hsaved, hrejected, rfl⟩, ?_, ?_⟩
  · rw [hsplit, List.filter_append, take_append_of_length (hlength ▸ hle)
      (hend.imp (fun hnil => by rw [hnil]; rfl) fun hfull => hlength ▸ hfull)]
    exact hsaved
  · rw [hsplit, List.filterMap_append, take_append_of_length (hlengthMap ▸ hle)
      (hend.imp (fun hnil => by rw [hnil]; rfl) fun hfull => hlengthMap ▸ hfull)]
    exact hconsiders.storage
  · show (filesOf infos).length - keyed.length = _
    omega
  · have hfront := List.length_eq_length_filter_add (l := front) (isAccepted library)
    have hrejectedLength := congrArg List.length hrejected
    rw [List.length_map, List.length_map] at hrejectedLength
    have hcandidates := hperm.length_eq
    rw [hsplit, List.length_append] at hcandidates
    show after.saved.length + after.rejected.length +
      ((filesOf infos).length - keyed.length) + rest.length = _
    omega

/-- The loop ends well, with each file accounted for, or it raises what a reading has raised. -/
theorem imports_of_importFrom (storage : ImageStorage)
    (hkeyed : keyedCandidates library infos = some keyed)
    (hreads : ReadsAll library limit (sortedCandidates keyed)) :
    (∃ imported after skipped,
      importFrom library limit (sortedCandidates keyed) { storage := storage } =
        (.ok skipped, after) ∧
      imported =
        { images := after.saved
          ignoredNonImageCount := (filesOf infos).length - keyed.length
          rejectedImages := after.rejected
          skippedLimitCount := skipped : ArchiveImport } ∧
      after.saved.length ≤ limit ∧
      Accounted library (filesOf infos) (sortedCandidates keyed) limit storage imported
        after.storage) ∨
    ∃ front error after, IsHandled error ∧
      Considers library front { storage := storage } after ∧
      importFrom library limit (sortedCandidates keyed) { storage := storage } =
        (.error (readFailure error), after) := by
  obtain ⟨front, rest, after, hsplit, hconsiders, ⟨hle, hend, hrun⟩ | hraised⟩ :=
    importFrom_spec library limit (sortedCandidates keyed) { storage := storage }
  · have hlimit : after.saved.length ≤ limit := hle.trans (max_le le_rfl (Nat.zero_le _))
    exact .inl ⟨_, after, rest.length, hrun, rfl, hlimit,
      accounted_of_considers hkeyed hsplit hconsiders hlimit hend⟩
  · obtain ⟨info, tail, error, rfl, hlimit, hread, hrun⟩ := hraised
    refine .inr ⟨front, error, after, ?_, hconsiders, hrun⟩
    refine hreads front info tail error hsplit hconsiders.readable ?_ hread
    rw [hconsiders.length_saved] at hlimit
    exact lt_of_le_of_lt (Nat.le_add_left _ _) hlimit

variable {limit : ℤ} {failure : ImportError} {left : ImageStorage}

theorem isSound_refused (text : String) :
    IsSound library archive limit storage (.error (.archiveError text), storage) :=
  ⟨⟨text, rfl⟩, fun _ hfile => hfile, fun _ => rfl⟩

theorem not_isSound_of_ne (hne : ∀ text, failure ≠ .archiveError text) :
    ¬IsSound library archive limit storage (.error failure, left) := by
  rintro ⟨⟨text, htext⟩, -⟩
  exact hne text htext

/-- What the handler leaves is what was there. -/
theorem isSound_discarded (hconsiders : Considers library front { storage := storage } after)
    {error : ReaderError} (hhandled : IsHandled error) :
    IsSound library archive limit storage
      (.error (readFailure error),
        after.saved.foldl (fun files image => files.delete image.assetId) after.storage) := by
  have hsaved : after.saved = storedImages library 0 (front.filter (isAccepted library)) :=
    hconsiders.saved
  refine ⟨readFailure_isArchiveError.mpr hhandled, fun file hfile => ?_, fun hfresh => ?_⟩
  · rw [hconsiders.discard] at hfile
    exact List.mem_of_mem_filter hfile
  · rw [hconsiders.discard]
    refine List.filter_eq_self.mpr fun file hfile => decide_eq_true fun hid => ?_
    rw [hsaved] at hid
    obtain ⟨image, himage, heq⟩ := List.mem_map.mp hid
    obtain ⟨offset, hoffset, rfl⟩ := List.mem_mapIdx.mp himage
    exact hfresh _ file hfile heq.symm

section Checked

variable (hfirst : 1 ≤ limit) (hlast : limit ≤ 9) (hempty : archive.size ≠ 0)
  (hsize : archive.size ≤ maxProductArchiveBytes)
include hfirst hlast hempty hsize

theorem import_of_opens_error {error : ReaderError} (herror : openArchive archive = .error error)
    (hne : error ≠ .badZipFile) :
    importProductImageArchive library archive limit storage = (.error (.reader error), storage) := by
  rw [importProductImageArchive, if_neg (by omega), if_neg hempty, if_neg (by omega), herror]
  cases error <;> first | rfl | exact absurd rfl hne

theorem import_of_keys_none (hopen : openArchive archive = .ok infos)
    (hrefusal : refusal infos = none) (hkeys : keyedCandidates library infos = none) :
    importProductImageArchive library archive limit storage = (.error .valueError, storage) := by
  rw [importProductImageArchive, if_neg (by omega), if_neg hempty, if_neg (by omega), hopen]
  simp only [hrefusal, hkeys]

theorem import_of_raised (hopen : openArchive archive = .ok infos)
    (hrefusal : refusal infos = none) (hkeyed : keyedCandidates library infos = some keyed)
    (hrun : importFrom library limit.toNat (sortedCandidates keyed) { storage := storage } =
      (.error failure, after)) :
    importProductImageArchive library archive limit storage =
      (.error failure,
        after.saved.foldl (fun files image => files.delete image.assetId) after.storage) := by
  rw [importProductImageArchive, if_neg (by omega), if_neg hempty, if_neg (by omega), hopen]
  simp only [hrefusal, hkeyed, hrun]

theorem isReadable_of_isSound
    (hsound : IsSound library archive limit storage
      (importProductImageArchive library archive limit storage)) :
    IsReadable library archive limit.toNat where
  opens error herror := by
    by_contra hne
    rw [import_of_opens_error hfirst hlast hempty hsize herror hne] at hsound
    exact not_isSound_of_ne (fun _ => ImportError.noConfusion) hsound
  sorts infos hopen hrefusal info himage hkey := by
    rw [import_of_keys_none hfirst hlast hempty hsize hopen hrefusal
      (keyedCandidates_eq_none.mpr ⟨info, himage, hkey⟩)] at hsound
    exact not_isSound_of_ne (fun _ => ImportError.noConfusion) hsound
  reads infos keyed hopen hrefusal hkeyed := by
    intro front info rest error hsplit hreadable hcount hread
    obtain ⟨after, hconsiders, hrun⟩ := importFrom_append (info :: rest) { storage := storage }
      hreadable (lt_of_eq_of_lt (Nat.zero_add _) hcount)
    have hlength : after.saved.length < limit.toNat := by
      rw [hconsiders.length_saved]
      simpa using hcount
    rw [importFrom, if_neg (not_le.mpr hlength), importEntry_of_readError hread, ← hsplit] at hrun
    rw [import_of_raised hfirst hlast hempty hsize hopen hrefusal hkeyed hrun] at hsound
    exact readFailure_isArchiveError.mp hsound.1

theorem isSound_of_isReadable (hreadable : IsReadable library archive limit.toNat) :
    IsSound library archive limit storage
      (importProductImageArchive library archive limit storage) := by
  rw [importProductImageArchive, if_neg (by omega), if_neg hempty, if_neg (by omega)]
  cases hopen : openArchive archive with
  | error error =>
      cases hreadable.opens error hopen
      exact isSound_refused _
  | ok infos =>
      cases hrefusal : refusal infos with
      | some text => simpa only [hrefusal] using isSound_refused text
      | none =>
          cases hkeyed : keyedCandidates library infos with
          | none =>
              obtain ⟨info, himage, hkey⟩ := keyedCandidates_eq_none.mp hkeyed
              exact absurd hkey (hreadable.sorts infos hopen hrefusal info himage)
          | some keyed =>
              rcases imports_of_importFrom storage hkeyed
                (hreadable.reads infos keyed hopen hrefusal hkeyed) with
                ⟨imported, after, skipped, hrun, rfl, hle, haccounted⟩ |
                ⟨front, error, after, hhandled, hconsiders, hrun⟩
              · simp only [hrefusal, hkeyed, hrun]
                exact ⟨hle, infos, _, hopen, haccounted⟩
              · simp only [hrefusal, hkeyed, hrun]
                exact isSound_discarded hconsiders hhandled

end Checked

/-- The import is sound exactly if all that is raised below it is of a kind it expects. -/
theorem import_product_image_archive_iff (library : ArchiveLibrary) (archive : Archive)
    (limit : ℤ) (storage : ImageStorage) :
    IsSound library archive limit storage
        (importProductImageArchive library archive limit storage) ↔
      (1 ≤ limit → limit ≤ 9 → archive.size ≠ 0 → archive.size ≤ maxProductArchiveBytes →
        IsReadable library archive limit.toNat) := by
  constructor
  · intro hsound hfirst hlast hempty hsize
    exact isReadable_of_isSound hfirst hlast hempty hsize hsound
  · intro hreadable
    by_cases hlimit : 1 ≤ limit ∧ limit ≤ 9
    · by_cases hempty : archive.size = 0
      · rw [importProductImageArchive, if_neg (not_not.mpr hlimit), if_pos hempty]
        exact isSound_refused _
      by_cases hsize : archive.size ≤ maxProductArchiveBytes
      · exact isSound_of_isReadable hlimit.1 hlimit.2 hempty hsize
          (hreadable hlimit.1 hlimit.2 hempty hsize)
      · rw [importProductImageArchive, if_neg (not_not.mpr hlimit), if_neg hempty,
          if_pos (not_le.mp hsize)]
        exact isSound_refused _
    · rw [importProductImageArchive, if_pos hlimit]
      exact isSound_refused _

def asciiLibrary : ArchiveLibrary where
  casefold := id
  isDecimal := Char.isDigit
  isDigit := Char.isDigit
  decimal char := char.toNat - 48
  prepareImage _ := .error "图片格式无效"
  assetId index := String.ofList (List.replicate index 'a')

def brokenArchive : Archive where
  size := 130
  infolistGbk := .ok [⟨"1.jpg", 5, 0, .error .zlibError⟩]
  infolist := .ok [⟨"1.jpg", 5, 0, .error .zlibError⟩]

theorem zlib_error_is_not_caught :
    ¬∀ (library : ArchiveLibrary) (archive : Archive) (limit : ℤ) (storage : ImageStorage),
      1 ≤ limit → limit ≤ 9 →
        IsSound library archive limit storage
          (importProductImageArchive library archive limit storage) := by
  intro hsound
  have hbroken := hsound asciiLibrary brokenArchive 9 [] (by decide) (by decide)
  have hrun : importProductImageArchive asciiLibrary brokenArchive 9 [] =
      (.error (.reader .zlibError), []) := rfl
  rw [hrun] at hbroken
  obtain ⟨⟨text, htext⟩, -⟩ := hbroken
  cases htext

end XianyuAdmin.Products.ImageArchives
