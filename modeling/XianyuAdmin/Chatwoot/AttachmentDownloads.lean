import XianyuAdmin.Core.Python
import XianyuAdmin.Core.Redirects
import XianyuAdmin.Core.Returns

/-!
# Attachment downloads

Images of Chatwoot and voice messages of Xianyu are downloaded from URLs that others choose, and a
server may send the download on to another URL.  Each URL is checked before it is requested.
-/

namespace XianyuAdmin.Chatwoot.AttachmentDownloads

open XianyuAdmin.Python XianyuAdmin.Redirects

def maxImageInputBytes : ℕ := 10 * 1024 * 1024
def maxImageRedirects : ℕ := 3
def maxAudioInputBytes : ℕ := 20 * 1024 * 1024
def maxAudioRedirects : ℕ := 3
def xianyuAudioHostSuffixes : List String := [".aliyuncs.com"]

structure SplitResult where
  scheme : String
  netloc : String
  path : String
  query : String
  fragment : String

/-- What `ipaddress` says of an address. -/
structure Address where
  isPrivate : Bool
  isLoopback : Bool
  isLinkLocal : Bool
  isMulticast : Bool
  isReserved : Bool
  isUnspecified : Bool

def Address.isInternal (address : Address) : Bool :=
  address.isPrivate || address.isLoopback || address.isLinkLocal || address.isMulticast ||
    address.isReserved || address.isUnspecified

inductive LookupError
  | osError
  | unicodeError

/-- The Python library, the name service and the settings; `none` is a `ValueError`. -/
structure Network where
  urlsplit : String → Option SplitResult
  urlunsplit : SplitResult → String
  urljoin : String → String → Option String
  hostname : (netloc : String) → Option String
  port : (netloc : String) → Option (Option ℕ)
  username : (netloc : String) → Option String
  password : (netloc : String) → Option String
  lower : String → String
  getaddrinfo : String → Except LookupError (List Address)
  /-- `PurePosixPath(path).suffix` -/
  suffix : (path : String) → String
  guessExtension : String → Option String
  chatwootCaBundle : String
  /-- `str(Path(text))` -/
  path : String → String
  isFile : (path : String) → Bool
  /-- `uuid.uuid4().hex[:12]` -/
  hex : String

inductive DownloadError
  /-- `ChatwootIntegrationError` -/
  | integration (text : String)
  | valueError
  | requestException
  deriving DecidableEq

structure Origin where
  scheme : String
  host : String
  port : ℕ
  deriving DecidableEq

inductive Verify
  | system
  | bundle (path : String)
  deriving DecidableEq

structure Request where
  url : String
  origin : Origin
  verify : Verify

structure Response where
  statusCode : ℕ
  location : Option String
  contentType : Option String
  /-- The chunks of the body; `none` is a broken connection. -/
  chunks : List (Option (List UInt8))

variable (network : Network)

def defaultPort (scheme : String) : ℕ := if scheme = "https" then 443 else 80

def urlOrigin (url : String) : Except DownloadError Origin :=
  match network.urlsplit url with
  | none => .error (.integration "图片附件地址不合法")
  | some parsed =>
      let hostname := network.lower ((network.hostname parsed.netloc).getD "")
      match network.port parsed.netloc with
      | none => .error (.integration "图片附件地址不合法")
      | some port =>
          if parsed.scheme ∉ ["http", "https"] ∨ hostname = "" ∨
              network.username parsed.netloc ≠ none ∨ network.password parsed.netloc ≠ none then
            .error (.integration "图片附件地址不合法")
          else
            -- `port or default`: a port 0 counts as none
            let effectivePort :=
              if port.getD 0 = 0 then defaultPort parsed.scheme else port.getD 0
            .ok ⟨parsed.scheme, hostname, effectivePort⟩

def hostIsPrivate (hostname : String) : Except DownloadError Bool :=
  match network.getaddrinfo hostname with
  | .error .unicodeError => .error .valueError
  | .error .osError | .ok [] => .error (.integration ("图片地址无法解析: " ++ hostname))
  | .ok addresses => .ok (addresses.any Address.isInternal)

def chatwootTlsVerify : Except DownloadError Verify :=
  if network.chatwootCaBundle = "" then .ok .system
  else if network.isFile (network.path network.chatwootCaBundle) then
    .ok (.bundle (network.path network.chatwootCaBundle))
  else .error (.integration ("Chatwoot CA 证书文件不存在: " ++ network.chatwootCaBundle))

def string (value : Option String) : String := strip (value.getD "")

/-- `_safe_filename`, for a URL that has been split before. -/
def safeFilename (url mimeType : String) : String :=
  let suffix := network.lower (network.suffix (((network.urlsplit url).map (·.path)).getD ""))
  let extension :=
    if suffix = "" ∨ 8 < suffix.length then
      (network.guessExtension (String.ofList (mimeType.toList.takeWhile (· ≠ ';')))).getD ".jpg"
    else suffix
  "xianyu-" ++ network.hex ++ extension

def isRedirect (response : Response) : Bool :=
  300 ≤ response.statusCode && response.statusCode < 400

/-- The loop over `iter_content`. -/
def readChunks (limit : ℕ) (tooLarge : String) :
    List (Option (List UInt8)) → List UInt8 → Except DownloadError (List UInt8)
  | [], data => .ok data
  | none :: _, _ => .error .requestException
  | some [] :: rest, data => readChunks limit tooLarge rest data
  | some chunk :: rest, data =>
      if limit < data.length + chunk.length then .error (.integration tooLarge)
      else readChunks limit tooLarge rest (data ++ chunk)

def validateImageUrl (allowedPrivateOrigin : Option String) (url : String) :
    Except DownloadError Origin := do
  let origin ← urlOrigin network url
  if ← hostIsPrivate network origin.host then
    match allowedPrivateOrigin with
    | none => .error (.integration "图片附件地址指向内网，已拒绝下载")
    | some allowed =>
        if origin ≠ (← urlOrigin network allowed) then
          .error (.integration "图片附件地址指向内网，已拒绝下载")
        else .ok origin
  else .ok origin

def verifyAt (allowedOrigin : Option Origin) (origin : Origin) : Except DownloadError Verify :=
  if allowedOrigin = some origin then chatwootTlsVerify network else .ok .system

def visitImage (allowedPrivateOrigin : Option String) (allowedOrigin : Option Origin)
    (url : String) : Except DownloadError Request := do
  let origin ← validateImageUrl network allowedPrivateOrigin url
  let verify ← verifyAt network allowedOrigin origin
  .ok ⟨url, origin, verify⟩

def nextImage (allowedPrivateOrigin : Option String) (redirectCount : ℕ) (request : Request)
    (response : Response) : Except DownloadError String :=
  let location := string response.location
  if location = "" then .error (.integration "图片附件重定向缺少目标地址")
  else if maxImageRedirects ≤ redirectCount then .error (.integration "图片附件重定向次数过多")
  else
    match network.urljoin request.url location with
    | none => .error .valueError
    | some nextUrl =>
        match validateImageUrl network allowedPrivateOrigin nextUrl with
        | .error failure => .error failure
        | .ok origin =>
            if request.origin.scheme = "https" ∧ origin.scheme ≠ "https" then
              .error (.integration "图片附件重定向禁止降级到 HTTP")
            else .ok nextUrl

def readImage (response : Response) : Except DownloadError (List UInt8 × String) :=
  if 400 ≤ response.statusCode then
    .error (.integration ("图片附件下载失败: HTTP " ++ toString response.statusCode))
  else
    let mimeType := network.lower
      (String.ofList ((string response.contentType).toList.takeWhile (· ≠ ';')))
    if "image/".toList.isPrefixOf mimeType.toList then
      match readChunks maxImageInputBytes "图片附件超过 10 MB" response.chunks [] with
      | .error failure => .error failure
      | .ok [] => .error (.integration "图片附件为空")
      | .ok data => .ok (data, mimeType)
    else
      .error (.integration
        ("附件不是图片: " ++ if mimeType = "" then "未知类型" else mimeType))

def imageDownload (allowedPrivateOrigin : Option String) (allowedOrigin : Option Origin) :
    Download Request Response (List UInt8 × String) DownloadError where
  visit := visitImage network allowedPrivateOrigin allowedOrigin
  isRedirect := isRedirect
  next := nextImage network allowedPrivateOrigin
  read := readImage network
  lost := .requestException
  tooMany := .integration "图片附件重定向次数过多"

/-- `_download_image`: the data, its type and a file name, and the requests that are made. -/
def downloadImage (servers : ℕ → Option Response) (url : String)
    (allowedPrivateOrigin : Option String) :
    Except DownloadError (List UInt8 × String × String) × List Request :=
  let allowed := allowedPrivateOrigin.filter (· ≠ "")
  match allowed.mapM (urlOrigin network) with
  | .error failure => (.error failure, [])
  | .ok allowedOrigin =>
      let result := Redirects.follow (imageDownload network allowed allowedOrigin) servers
        (maxImageRedirects + 1) 0 url
      (result.1.map fun image => (image.1, image.2, safeFilename network url image.2), result.2)

def normalizeXianyuAudioUrl (url : String) : Except DownloadError String :=
  match network.urlsplit url with
  | none => .error (.integration "闲鱼语音地址不合法")
  | some parsed =>
      let hostname := network.lower ((network.hostname parsed.netloc).getD "")
      let trusted := hostname = "aliyuncs.com" ∨
        ∃ suffix ∈ xianyuAudioHostSuffixes, suffix.toList.isSuffixOf hostname.toList = true
      if parsed.scheme ∉ ["http", "https"] ∨ ¬trusted ∨
          network.username parsed.netloc ≠ none ∨ network.password parsed.netloc ≠ none then
        .error (.integration "闲鱼语音地址不在受信任的媒体域名")
      else if parsed.scheme = "http" then
        .ok (network.urlunsplit { parsed with scheme := "https" })
      else .ok (network.urlunsplit parsed)

def visitAudio (url : String) : Except DownloadError Request := do
  let currentUrl ← normalizeXianyuAudioUrl network url
  let origin ← urlOrigin network currentUrl
  if ← hostIsPrivate network origin.host then
    .error (.integration "闲鱼语音地址指向内网，已拒绝下载")
  else .ok ⟨currentUrl, origin, .system⟩

def nextAudio (redirectCount : ℕ) (request : Request) (response : Response) :
    Except DownloadError String :=
  let location := string response.location
  if location = "" then .error (.integration "闲鱼语音重定向缺少目标地址")
  else if maxAudioRedirects ≤ redirectCount then .error (.integration "闲鱼语音重定向次数过多")
  else
    match network.urljoin request.url location with
    | none => .error .valueError
    | some joined =>
        match normalizeXianyuAudioUrl network joined with
        | .error failure => .error failure
        | .ok nextUrl =>
            match network.urlsplit nextUrl with
            | none => .error .valueError
            | some parsed =>
                if parsed.scheme ≠ "https" then
                  .error (.integration "闲鱼语音重定向禁止降级到 HTTP")
                else .ok nextUrl

def readAudio (response : Response) : Except DownloadError (List UInt8) :=
  if 400 ≤ response.statusCode then
    .error (.integration ("闲鱼语音下载失败: HTTP " ++ toString response.statusCode))
  else readChunks maxAudioInputBytes "闲鱼语音超过 20 MB" response.chunks []

def audioDownload : Download Request Response (List UInt8) DownloadError where
  visit := visitAudio network
  isRedirect := isRedirect
  next := nextAudio network
  read := readAudio
  lost := .requestException
  tooMany := .integration "闲鱼语音重定向次数过多"

def audioType (data : List UInt8) : Except DownloadError String :=
  if data = [] then .error (.integration "闲鱼语音附件为空")
  else if "#!AMR-WB\n".toUTF8.toList.isPrefixOf data then .ok "audio/amr-wb"
  else if "#!AMR\n".toUTF8.toList.isPrefixOf data then .ok "audio/amr"
  else .error (.integration "闲鱼语音不是有效的 AMR 文件")

def downloadXianyuAudio (servers : ℕ → Option Response) (url : String) :
    Except DownloadError (List UInt8 × String × String) × List Request :=
  match normalizeXianyuAudioUrl network url with
  | .error failure => (.error failure, [])
  | .ok currentUrl =>
      let result := Redirects.follow (audioDownload network) servers (maxAudioRedirects + 1) 0 currentUrl
      (result.1.bind fun data => (audioType data).map fun mimeType =>
        (data, mimeType, "xianyu-voice-" ++ network.hex ++ ".amr"), result.2)

/-- The scheme, the host and the port that `urlsplit` reports. -/
def peer (url : String) : Option Origin :=
  match network.urlsplit url with
  | none => none
  | some parsed =>
      (network.port parsed.netloc).map fun port =>
        ⟨parsed.scheme, network.lower ((network.hostname parsed.netloc).getD ""),
          port.getD (defaultPort parsed.scheme)⟩

def NamesPortZero (url : String) : Prop :=
  ∃ parsed, network.urlsplit url = some parsed ∧ network.port parsed.netloc = some (some 0)

def IsPublic (host : String) : Prop :=
  ∃ addresses, network.getaddrinfo host = .ok addresses ∧ addresses ≠ [] ∧
    ∀ address ∈ addresses, address.isInternal = false

variable {network} {url other text host : String} {origin first second : Origin} {request : Request}
variable {allowed : Option String} {allowedOrigin : Option Origin} {data : List UInt8}

theorem isPublic_of_hostIsPrivate (hprivate : hostIsPrivate network host = .ok false) :
    IsPublic network host := by
  unfold hostIsPrivate at hprivate
  split at hprivate
  · cases hprivate
  · cases hprivate
  · cases hprivate
  · rename_i addresses hne hlookup
    refine ⟨addresses, hlookup, hne, fun address hmem => ?_⟩
    exact Bool.eq_false_iff.mpr (List.any_eq_false.mp (Except.ok.inj hprivate) address hmem)

theorem urlOrigin_ok (horigin : urlOrigin network url = .ok origin) :
    ∃ parsed port, network.urlsplit url = some parsed ∧ network.port parsed.netloc = some port ∧
      origin =
        ⟨parsed.scheme, network.lower ((network.hostname parsed.netloc).getD ""),
          if port.getD 0 = 0 then defaultPort parsed.scheme else port.getD 0⟩ := by
  unfold urlOrigin at horigin
  cases hsplit : network.urlsplit url with
  | none => rw [hsplit] at horigin; cases horigin
  | some parsed =>
      cases hport : network.port parsed.netloc with
      | none => simp only [hsplit, hport, reduceCtorEq] at horigin
      | some port =>
          simp only [hsplit, hport] at horigin
          split at horigin
          · cases horigin
          · exact ⟨parsed, port, rfl, hport, (Except.ok.inj horigin).symm⟩

theorem defaultPort_ne_zero (scheme : String) : defaultPort scheme ≠ 0 := by
  unfold defaultPort
  split <;> decide

theorem peer_of_urlOrigin (horigin : urlOrigin network url = .ok origin) :
    origin.port ≠ 0 ∧
      ((NamesPortZero network url ∧ peer network url = some { origin with port := 0 }) ∨
        (¬NamesPortZero network url ∧ peer network url = some origin)) := by
  obtain ⟨parsed, port, hsplit, hport, rfl⟩ := urlOrigin_ok horigin
  have hzero : NamesPortZero network url ↔ port = some 0 := by
    constructor
    · rintro ⟨same, hsame, hnamed⟩
      cases hsplit.symm.trans hsame
      exact Option.some.inj (hport.symm.trans hnamed)
    · rintro rfl
      exact ⟨parsed, hsplit, hport⟩
  rw [hzero]
  simp only [peer, hsplit, hport, Option.map_some]
  rcases port with _ | _ | port
  · exact ⟨defaultPort_ne_zero _, .inr ⟨nofun, rfl⟩⟩
  · exact ⟨defaultPort_ne_zero _, .inl ⟨rfl, rfl⟩⟩
  · exact ⟨Nat.succ_ne_zero _, .inr ⟨by simp, rfl⟩⟩

theorem exists_peer (horigin : urlOrigin network url = .ok origin) :
    ∃ target, peer network url = some target ∧ target.scheme = origin.scheme ∧
      target.host = origin.host := by
  rcases (peer_of_urlOrigin horigin).2 with ⟨-, hpeer⟩ | ⟨-, hpeer⟩
  · exact ⟨_, hpeer, rfl, rfl⟩
  · exact ⟨_, hpeer, rfl, rfl⟩

theorem peer_eq_iff (hfirst : urlOrigin network url = .ok origin)
    (hsecond : urlOrigin network other = .ok origin) :
    peer network url = peer network other ↔
      (NamesPortZero network url ↔ NamesPortZero network other) := by
  obtain ⟨hport, ⟨hzero, hpeer⟩ | ⟨hzero, hpeer⟩⟩ := peer_of_urlOrigin hfirst <;>
  obtain ⟨-, ⟨hother, hpeer'⟩ | ⟨hother, hpeer'⟩⟩ := peer_of_urlOrigin hsecond
  · simp only [hpeer, hpeer', hzero, hother]
  · refine iff_of_false (fun heq => ?_) (fun hiff => hother (hiff.mp hzero))
    rw [hpeer, hpeer', Option.some.injEq] at heq
    exact hport (congrArg Origin.port heq).symm
  · refine iff_of_false (fun heq => ?_) (fun hiff => hzero (hiff.mpr hother))
    rw [hpeer, hpeer', Option.some.injEq] at heq
    exact hport (congrArg Origin.port heq)
  · simp only [hpeer, hpeer', hzero, hother]

theorem length_readChunks_le {limit : ℕ} {tooLarge : String} {chunks : List (Option (List UInt8))}
    {start : List UInt8} (hread : readChunks limit tooLarge chunks start = .ok data)
    (hstart : start.length ≤ limit) : data.length ≤ limit := by
  induction chunks generalizing start with
  | nil =>
      cases hread
      exact hstart
  | cons chunk rest ih =>
      match chunk with
      | none => cases hread
      | some [] => exact ih hread hstart
      | some (byte :: bytes) =>
          rw [readChunks] at hread
          · split at hread
            · cases hread
            · rename_i hlimit
              exact ih hread (by rw [List.length_append]; omega)
          · exact nofun

theorem length_readImage_le {response : Response} {mimeType : String}
    (hread : readImage network response = .ok (data, mimeType)) :
    data.length ≤ maxImageInputBytes := by
  unfold readImage at hread
  split at hread
  · cases hread
  · dsimp only at hread
    split at hread
    · split at hread
      · cases hread
      · cases hread
      · rename_i hchunks
        cases hread
        exact length_readChunks_le hchunks (Nat.zero_le _)
    · cases hread

theorem validateImageUrl_ok (hvalid : validateImageUrl network allowed url = .ok origin) :
    urlOrigin network url = .ok origin ∧
      (IsPublic network origin.host ∨
        ∃ text, allowed = some text ∧ urlOrigin network text = .ok origin) := by
  obtain ⟨found, hfound, hrest⟩ := head_of_bind_eq_ok hvalid
  obtain ⟨isPrivate, hprivate, hrest⟩ := head_of_bind_eq_ok hrest
  cases isPrivate with
  | false =>
      cases Except.ok.inj hrest
      exact ⟨hfound, .inl (isPublic_of_hostIsPrivate hprivate)⟩
  | true =>
      rw [if_pos rfl] at hrest
      cases allowed with
      | none => cases hrest
      | some text =>
          obtain ⟨expected, hexpected, hrest⟩ := head_of_bind_eq_ok hrest
          split at hrest
          · cases hrest
          · rename_i heq
            cases Except.ok.inj hrest
            exact ⟨hfound, .inr ⟨text, rfl, not_not.mp heq ▸ hexpected⟩⟩

theorem chatwootTlsVerify_ok {verify : Verify} (hverify : chatwootTlsVerify network = .ok verify) :
    verify ≠ .system ↔ network.chatwootCaBundle ≠ "" := by
  unfold chatwootTlsVerify at hverify
  split at hverify
  · rename_i hempty
    cases hverify
    exact iff_of_false (fun hne => hne rfl) (fun hne => hne hempty)
  · rename_i hempty
    split at hverify
    · cases hverify
      exact iff_of_true Verify.noConfusion hempty
    · cases hverify

theorem visitImage_ok (hvisit : visitImage network allowed allowedOrigin url = .ok request) :
    request.url = url ∧ validateImageUrl network allowed url = .ok request.origin ∧
      (request.verify ≠ .system ↔
        allowedOrigin = some request.origin ∧ network.chatwootCaBundle ≠ "") := by
  obtain ⟨origin, hvalid, hrest⟩ := head_of_bind_eq_ok hvisit
  obtain ⟨verify, hverify, hrest⟩ := head_of_bind_eq_ok hrest
  cases Except.ok.inj hrest
  refine ⟨rfl, hvalid, ?_⟩
  unfold verifyAt at hverify
  split at hverify
  · rename_i hallowed
    rw [chatwootTlsVerify_ok hverify, and_iff_right hallowed]
  · rename_i hother
    cases Except.ok.inj hverify
    exact iff_of_false (fun hne => hne rfl) (fun hallowed => hother hallowed.1)

theorem nextImage_ok {count : ℕ} {response : Response}
    (hnext : nextImage network allowed count request response = .ok url)
    (hvalid : validateImageUrl network allowed url = .ok origin)
    (hsecure : request.origin.scheme = "https") : origin.scheme = "https" := by
  unfold nextImage at hnext
  dsimp only at hnext
  split at hnext
  · cases hnext
  · split at hnext
    · cases hnext
    · split at hnext
      · cases hnext
      · split at hnext
        · cases hnext
        · rename_i hsame
          split at hnext
          · cases hnext
          · rename_i hkept
            cases hnext
            cases hsame.symm.trans hvalid
            exact not_not.mp fun hne => hkept ⟨hsecure, hne⟩

variable (network)

structure ImageSafe (allowed : Option String)
    (result : Except DownloadError (List UInt8 × String × String) × List Request) : Prop where
  hosts : ∀ request ∈ result.2, ∃ target, peer network request.url = some target ∧
    (IsPublic network target.host ∨ allowed.bind (peer network) = some target)
  certificates : ∀ request ∈ result.2, request.verify ≠ .system →
    allowed.bind (peer network) = peer network request.url
  schemes : result.2.Pairwise fun first second =>
    (peer network first.url).map (·.scheme) = some "https" →
      (peer network second.url).map (·.scheme) = some "https"
  count : result.2.length ≤ maxImageRedirects + 1
  size : ∀ image, result.1 = .ok image → image.1.length ≤ maxImageInputBytes

def PortsAgree (servers : ℕ → Option Response) (url : String) (allowed : Option String) : Prop :=
  ∀ text origin, allowed = some text → urlOrigin network text = .ok origin →
    ∀ steps target request, steps ≤ maxImageRedirects →
      Reaches (imageDownload network allowed (some origin)) servers steps 0 url target →
      visitImage network allowed (some origin) target = .ok request → request.origin = origin →
      ¬IsPublic network origin.host ∨ network.chatwootCaBundle ≠ "" →
      (NamesPortZero network target ↔ NamesPortZero network text)

variable {network} {servers : ℕ → Option Response}

theorem pairwise_https (turns : ℕ) :
    (Redirects.follow (imageDownload network allowed allowedOrigin) servers turns 0 url).2.Pairwise
      fun first second =>
        (peer network first.url).map (·.scheme) = some "https" →
          (peer network second.url).map (·.scheme) = some "https" := by
  have hscheme {request : Request} {target : String}
      (hvisit : visitImage network allowed allowedOrigin target = .ok request) :
      (peer network request.url).map (·.scheme) = some request.origin.scheme := by
    obtain ⟨rfl, hvalid, -⟩ := visitImage_ok hvisit
    obtain ⟨found, hpeer, hsame, -⟩ := exists_peer (validateImageUrl_ok hvalid).1
    rw [hpeer, Option.map_some, hsame]
  let kept (request : Request) : Prop := request.origin.scheme = "https"
  have hkept : ∀ count visit response next other, kept visit →
      (imageDownload network allowed allowedOrigin).next count visit response = .ok next →
      (imageDownload network allowed allowedOrigin).visit next = .ok other → kept other :=
    fun _ _ _ _ _ hsecure hnext hvisit => nextImage_ok hnext (visitImage_ok hvisit).2.1 hsecure
  refine (pairwise_follow hkept turns 0 url).imp_of_mem fun hfirst hsecond hpair hsecure => ?_
  obtain ⟨_, _, -, -, hfirst⟩ := (mem_follow_iff _ _ _).mp hfirst
  obtain ⟨_, _, -, -, hsecond⟩ := (mem_follow_iff _ _ _).mp hsecond
  rw [hscheme hfirst, Option.some.injEq] at hsecure
  rw [hscheme hsecond, hpair hsecure]

theorem mem_imageRequests :
    request ∈ (Redirects.follow (imageDownload network allowed allowedOrigin) servers
        (maxImageRedirects + 1) 0 url).2 ↔
      ∃ steps target, steps ≤ maxImageRedirects ∧
        Reaches (imageDownload network allowed allowedOrigin) servers steps 0 url target ∧
        visitImage network allowed allowedOrigin target = .ok request :=
  (mem_follow_iff _ _ _).trans
    (exists_congr fun _ => exists_congr fun _ => and_congr_left' Nat.lt_succ_iff)

/-- At the allowed origin, everything depends on the ports; elsewhere, nothing is left to check. -/
theorem imageSafe_of_requests
    (result : Except DownloadError (List UInt8 × String × String))
    (hresult : ∀ image, result = .ok image →
      ∃ response, readImage network response = .ok (image.1, image.2.1))
    (hallowed : allowed.mapM (urlOrigin network) = .ok allowedOrigin)
    (hpeers : ∀ request ∈ (Redirects.follow (imageDownload network allowed allowedOrigin) servers
        (maxImageRedirects + 1) 0 url).2, allowedOrigin = some request.origin →
      ¬IsPublic network request.origin.host ∨ network.chatwootCaBundle ≠ "" →
      allowed.bind (peer network) = peer network request.url) :
    ImageSafe network allowed
      (result, (Redirects.follow (imageDownload network allowed allowedOrigin) servers
        (maxImageRedirects + 1) 0 url).2) where
  hosts request hrequest := by
    obtain ⟨_, target, -, -, hvisit⟩ := mem_imageRequests.mp hrequest
    obtain ⟨rfl, hvalid, -⟩ := visitImage_ok hvisit
    obtain ⟨horigin, hpublic⟩ := validateImageUrl_ok hvalid
    obtain ⟨found, hfound, -, hhost⟩ := exists_peer horigin
    refine ⟨found, hfound, ?_⟩
    by_cases hinternal : IsPublic network request.origin.host
    · exact .inl (hhost ▸ hinternal)
    · obtain ⟨text, rfl, htext⟩ := hpublic.resolve_left hinternal
      rw [Option.mapM_some, htext] at hallowed
      rw [← hfound]
      exact .inr (hpeers request hrequest (Except.ok.inj hallowed).symm (.inl hinternal))
  certificates request hrequest hverify := by
    obtain ⟨_, target, -, -, hvisit⟩ := mem_imageRequests.mp hrequest
    obtain ⟨-, -, hcertificates⟩ := visitImage_ok hvisit
    obtain ⟨horigin, hbundle⟩ := hcertificates.mp hverify
    exact hpeers request hrequest horigin (.inr hbundle)
  schemes := pairwise_https _
  count := length_follow_le _ _ _
  size image himage := by
    obtain ⟨response, hread⟩ := hresult image himage
    exact length_readImage_le hread

theorem imageSafe_nil (failure : DownloadError) :
    ImageSafe network allowed (.error failure, []) where
  hosts _ hrequest := absurd hrequest List.not_mem_nil
  certificates _ hrequest := absurd hrequest List.not_mem_nil
  schemes := .nil
  count := Nat.zero_le _
  size _ himage := nomatch himage

theorem readImage_of_follow {image : List UInt8 × String × String}
    (hrun : (Redirects.follow (imageDownload network allowed allowedOrigin) servers
        (maxImageRedirects + 1) 0 url).1.map
          (fun found => (found.1, found.2, safeFilename network other found.2)) = .ok image) :
    ∃ response, readImage network response = .ok (image.1, image.2.1) := by
  obtain ⟨found, hfound, rfl⟩ := map_eq_ok_iff.mp hrun
  exact read_of_follow _ _ _ hfound

theorem imageSafe_iff (servers : ℕ → Option Response) (url : String)
    (allowedPrivateOrigin : Option String) :
    ImageSafe network (allowedPrivateOrigin.filter (· ≠ ""))
        (downloadImage network servers url allowedPrivateOrigin) ↔
      PortsAgree network servers url (allowedPrivateOrigin.filter (· ≠ "")) := by
  rw [downloadImage]
  cases hfilter : allowedPrivateOrigin.filter (· ≠ "") with
  | none =>
      refine iff_of_true ?_ nofun
      exact imageSafe_of_requests _ (fun _ => readImage_of_follow) rfl fun _ _ => nofun
  | some text =>
      cases horigin : urlOrigin network text with
      | error failure =>
          rw [Option.mapM_some, horigin]
          refine iff_of_true (imageSafe_nil failure) ?_
          rintro _ _ ⟨⟩ hok
          cases horigin.symm.trans hok
      | ok origin =>
          rw [Option.mapM_some, horigin]
          constructor
          · rintro hsafe _ _ ⟨⟩ hok steps target request hsteps hreaches hvisit rfl hmatters
            cases horigin.symm.trans hok
            have hrequest := mem_imageRequests.mpr ⟨steps, target, hsteps, hreaches, hvisit⟩
            obtain ⟨rfl, hvalid, hcertificates⟩ := visitImage_ok hvisit
            obtain ⟨hsame, -⟩ := validateImageUrl_ok hvalid
            obtain ⟨found, hfound, -, hhost⟩ := exists_peer hsame
            refine (peer_eq_iff hsame horigin).mp ?_
            rcases hmatters with hinternal | hbundle
            · obtain ⟨again, hagain, hpublic | hallowed⟩ := hsafe.hosts request hrequest
              · cases hfound.symm.trans hagain
                exact absurd (hhost ▸ hpublic) hinternal
              · exact hagain.trans hallowed.symm
            · exact (hsafe.certificates request hrequest (hcertificates.mpr ⟨rfl, hbundle⟩)).symm
          · intro hports
            refine imageSafe_of_requests _ (fun _ => readImage_of_follow) ?_ ?_
            · rw [Option.mapM_some, horigin]
              rfl
            · rintro request hrequest ⟨⟩ hmatters
              obtain ⟨steps, target, hsteps, hreaches, hvisit⟩ := mem_imageRequests.mp hrequest
              obtain ⟨rfl, hvalid, -⟩ := visitImage_ok hvisit
              have hagree := hports text request.origin rfl horigin steps request.url request
                hsteps hreaches hvisit rfl hmatters
              exact ((peer_eq_iff (validateImageUrl_ok hvalid).1 horigin).mpr hagree).symm

variable (network) in
def Resplits : Prop :=
  ∀ url parsed, network.urlsplit url = some parsed →
    network.lower ((network.hostname parsed.netloc).getD "") ≠ "" →
    ∃ again, network.urlsplit (network.urlunsplit { parsed with scheme := "https" }) = some again ∧
      again.scheme = "https" ∧ again.netloc = parsed.netloc

/-- `aliyuncs.com`, or one of its subdomains. -/
def IsAudioHost (host : String) : Prop :=
  host = "aliyuncs.com" ∨ ∃ labels, host.toList = labels ++ ".aliyuncs.com".toList

theorem normalizeXianyuAudioUrl_ok (hnormal : normalizeXianyuAudioUrl network url = .ok other) :
    ∃ parsed, network.urlsplit url = some parsed ∧
      IsAudioHost (network.lower ((network.hostname parsed.netloc).getD "")) ∧
      other = network.urlunsplit { parsed with scheme := "https" } := by
  unfold normalizeXianyuAudioUrl at hnormal
  cases hsplit : network.urlsplit url with
  | none => rw [hsplit] at hnormal; cases hnormal
  | some parsed =>
      simp only [hsplit] at hnormal
      split at hnormal
      · cases hnormal
      · rename_i haccepted
        obtain ⟨hscheme, htrusted, -⟩ := not_or.mp haccepted |>.imp_right not_or.mp
        refine ⟨parsed, rfl, ?_, ?_⟩
        · rcases not_not.mp htrusted with hhost | ⟨suffix, hsuffix, hends⟩
          · exact .inl hhost
          · obtain ⟨labels, hlabels⟩ := List.isSuffixOf_iff_suffix.mp hends
            cases List.mem_singleton.mp hsuffix
            exact .inr ⟨labels, hlabels.symm⟩
        · split at hnormal
          · exact (Except.ok.inj hnormal).symm
          · rename_i hother
            have hhttps : parsed.scheme = "https" := by simpa [hother] using hscheme
            rw [← hhttps]
            exact (Except.ok.inj hnormal).symm

theorem IsAudioHost.ne_empty (hhost : IsAudioHost host) : host ≠ "" := by
  rintro rfl
  rcases hhost with hempty | ⟨labels, hlabels⟩
  · exact absurd hempty (by decide)
  · exact absurd (List.append_eq_nil_iff.mp hlabels.symm).2 (by decide)

theorem visitAudio_ok (hresplits : Resplits network)
    (hvisit : visitAudio network url = .ok request) :
    ∃ target, peer network request.url = some target ∧ target.scheme = "https" ∧
      IsPublic network target.host ∧ IsAudioHost target.host := by
  obtain ⟨current, hnormal, hrest⟩ := head_of_bind_eq_ok hvisit
  obtain ⟨origin, horigin, hrest⟩ := head_of_bind_eq_ok hrest
  obtain ⟨isPrivate, hprivate, hrest⟩ := head_of_bind_eq_ok hrest
  cases isPrivate with
  | true => cases hrest
  | false =>
      cases Except.ok.inj hrest
      obtain ⟨parsed, hsplit, hhost, rfl⟩ := normalizeXianyuAudioUrl_ok hnormal
      obtain ⟨again, hagain, hscheme, hnetloc⟩ := hresplits url parsed hsplit hhost.ne_empty
      obtain ⟨found, hfound, hfoundScheme, hfoundHost⟩ := exists_peer horigin
      obtain ⟨same, port, hsame, -, rfl⟩ := urlOrigin_ok horigin
      cases hagain.symm.trans hsame
      refine ⟨found, hfound, hfoundScheme.trans hscheme, ?_, ?_⟩
      · rw [hfoundHost]
        exact isPublic_of_hostIsPrivate hprivate
      · rw [hfoundHost, hnetloc]
        exact hhost

variable (network) in
def AudioSafe (requests : List Request) : Prop :=
  ∀ request ∈ requests, ∃ target, peer network request.url = some target ∧
    target.scheme = "https" ∧ IsPublic network target.host ∧ IsAudioHost target.host

theorem audioSafe (hresplits : Resplits network) (servers : ℕ → Option Response) (url : String) :
    AudioSafe network (downloadXianyuAudio network servers url).2 := by
  intro request hrequest
  rw [downloadXianyuAudio] at hrequest
  cases hnormal : normalizeXianyuAudioUrl network url with
  | error failure =>
      rw [hnormal] at hrequest
      exact absurd hrequest List.not_mem_nil
  | ok current =>
      rw [hnormal] at hrequest
      obtain ⟨_, target, -, -, hvisit⟩ := (mem_follow_iff _ _ _).mp hrequest
      exact visitAudio_ok hresplits hvisit

/-- The downloads stay away from internal hosts exactly if what is requested at the allowed origin
names the port 0 just as the allowed origin does. -/
theorem attachment_downloads_iff (network : Network) (hresplits : Resplits network)
    (servers audioServers : ℕ → Option Response) (url audioUrl : String)
    (allowedPrivateOrigin : Option String) :
    (ImageSafe network (allowedPrivateOrigin.filter (· ≠ ""))
        (downloadImage network servers url allowedPrivateOrigin) ∧
      AudioSafe network (downloadXianyuAudio network audioServers audioUrl).2) ↔
      PortsAgree network servers url (allowedPrivateOrigin.filter (· ≠ "")) := by
  rw [imageSafe_iff]
  exact and_iff_left (audioSafe hresplits audioServers audioUrl)

def chatwootUrl (netloc path : String) : SplitResult := ⟨"https", netloc, path, "", ""⟩

def localNetwork : Network where
  urlsplit url :=
    if url = "https://chat.lan" then some (chatwootUrl "chat.lan" "")
    else if url = "https://chat.lan/a.png" then some (chatwootUrl "chat.lan" "/a.png")
    else if url = "https://chat.lan:0/a.png" then some (chatwootUrl "chat.lan:0" "/a.png")
    else none
  urlunsplit parsed := parsed.scheme ++ "://" ++ parsed.netloc ++ parsed.path
  urljoin _ _ := none
  hostname _ := some "chat.lan"
  port netloc := some (if netloc = "chat.lan:0" then some 0 else none)
  username _ := none
  password _ := none
  lower := id
  getaddrinfo _ := .ok [⟨true, false, false, false, false, false⟩]
  suffix _ := ".png"
  guessExtension _ := none
  chatwootCaBundle := ""
  path := id
  isFile _ := false
  hex := "0123456789ab"

def pictureServers : ℕ → Option Response :=
  fun _ => some ⟨200, none, some "image/png", [some [0x89]]⟩

theorem resplits_localNetwork : Resplits localNetwork := by
  intro url parsed hsplit _
  simp only [localNetwork] at hsplit
  split at hsplit
  · cases hsplit
    exact ⟨_, rfl, rfl, rfl⟩
  split at hsplit
  · cases hsplit
    exact ⟨_, rfl, rfl, rfl⟩
  split at hsplit
  · cases hsplit
    exact ⟨_, rfl, rfl, rfl⟩
  · cases hsplit

theorem attachment_downloads_at_chatwoot :
    Resplits localNetwork ∧
      ImageSafe localNetwork (some "https://chat.lan")
          (downloadImage localNetwork pictureServers "https://chat.lan/a.png"
            (some "https://chat.lan")) ∧
        AudioSafe localNetwork
          (downloadXianyuAudio localNetwork pictureServers "https://chat.lan/a.png").2 := by
  refine ⟨resplits_localNetwork, (attachment_downloads_iff localNetwork resplits_localNetwork
    pictureServers pictureServers "https://chat.lan/a.png" "https://chat.lan/a.png"
    (some "https://chat.lan")).mpr ?_⟩
  rintro _ _ ⟨⟩ - (_ | steps) target request - hreaches - - -
  · cases hreaches
    refine iff_of_false ?_ ?_ <;>
      · rintro ⟨parsed, hsplit, hport⟩
        cases hsplit
        cases hport
  · obtain ⟨_, ⟨_, _, -, hserver, hredirect, -⟩, -⟩ := hreaches
    cases hserver
    cases hredirect

/-- The port 0 of the same host is requested, as if it were the port of the allowed origin. -/
theorem port_zero_is_requested :
    ¬∀ (network : Network) (servers : ℕ → Option Response) (url : String)
      (allowedPrivateOrigin : Option String), Resplits network →
        ImageSafe network (allowedPrivateOrigin.filter (· ≠ ""))
          (downloadImage network servers url allowedPrivateOrigin) := by
  intro hsafe
  have himage := hsafe localNetwork pictureServers "https://chat.lan:0/a.png"
    (some "https://chat.lan") resplits_localNetwork
  obtain ⟨target, htarget, hpublic | hallowed⟩ := himage.hosts
    ⟨"https://chat.lan:0/a.png", ⟨"https", "chat.lan", 443⟩, .system⟩ (List.mem_singleton_self _)
  · obtain ⟨addresses, hlookup, -, hinternal⟩ := hpublic
    cases hlookup
    exact absurd (hinternal _ (List.mem_singleton_self _)) (by decide)
  · cases htarget
    cases hallowed

end XianyuAdmin.Chatwoot.AttachmentDownloads
