import XianyuAdmin.Core.Json
import XianyuAdmin.Core.Procedure

/-!
# Requests to the platform

Every request of the adapters is a POST to an MTOP API under the login cookies of one
account.  A response may change the cookies; one that names an invalid login token is
followed by the same POST again.  What a POST sends is left out: the platform may
answer anything to it.
-/

namespace XianyuAdmin.Mtop

open XianyuAdmin.Python Procedure

/-- A `requests.RequestException`. -/
inductive RequestError
  /-- No response; a connection error or a timeout is `isConnection`. -/
  | transport (className : String) (isConnection : Bool)
  /-- The `HTTPError` of `raise_for_status`. -/
  | http (status : ℕ)
  deriving DecidableEq, Repr

def RequestError.className : RequestError → String
  | .transport className _ => className
  | .http _ => "HTTPError"

inductive Answer
  | failed (error : RequestError)
  | notJson
  | json (value : Json)

/-- An answer, and the cookie `_m_h5_tk` that the HTTP session holds from then on. -/
structure Response where
  answer : Answer
  cookie : String

/-- What the platform responds when an API is posted for the first time in a call, for
the second time, and so on. -/
abbrev Platform := String → ℕ → Response

inductive Kind
  | auth
  | category
  | imageDownload
  | imageInvalid
  | imageUpload
  | imageUrl
  | location
  | network
  | platformRejected
  | platformResponse
  | publishResultUnknown
  | resultUnknown
  | riskControl
  | validation
  deriving DecidableEq, Repr

structure PlatformError where
  kind : Kind
  message : String
  retryable : Bool := false
  uncertain : Bool := false
  verificationRequired : Bool := false
  rawResponse : List (String × Json) := []

inductive Failure
  | productPublish (error : PlatformError)
  | orderAction (error : PlatformError)
  | productOperation (error : PlatformError)
  | request (error : RequestError)
  | imageValidation (message : String)
  /-- The `AttributeError` or `TypeError` that a value of another shape leads to. -/
  | unexpectedShape

/-- The call cannot tell whether the platform did what it was asked for. -/
def Failure.isUncertain : Failure → Bool
  | .productPublish error | .orderAction error | .productOperation error => error.uncertain
  | .request _ | .imageValidation _ | .unexpectedShape => false

/-- The token in the cookie `_m_h5_tk`, by which requests are signed. -/
def signToken (cookie : String) : String := String.ofList (cookie.toList.takeWhile (· ≠ '_'))

structure Session where
  /-- The cookie `_m_h5_tk`. -/
  cookie : String
  posts : List (String × Answer) := []

namespace Session

variable (session : Session)

def answersTo (api : String) : List Answer :=
  (session.posts.filter fun post => post.1 = api).map Prod.snd

def record (api : String) (response : Response) : Session :=
  { cookie := response.cookie, posts := session.posts ++ [(api, response.answer)] }

end Session

/-- A call of an adapter. -/
abbrev Exchange := Procedure Session Failure

def missingToken : PlatformError where
  kind := .auth
  message := "Cookie 缺少 _m_h5_tk，无法生成发布签名"

def notJsonError (api : String) : PlatformError where
  kind := .platformResponse
  message := api ++ " 返回非 JSON 响应"

/-- `_post_mtop` with `allow_token_retry=False`. -/
def postOnce (platform : Platform) (api : String) : Exchange Json := do
  let session ← get
  if signToken session.cookie = "" then throw (.productPublish missingToken)
  else do
    let response := platform api (session.answersTo api).length
    set (session.record api response)
    match response.answer with
    | .failed error => throw (.request error)
    | .notJson => throw (.productPublish (notJsonError api))
    | .json value => pure value

/-- The characters outside ASCII whose `str.upper()` has ASCII letters. -/
def upperCases : List (Char × List Char) :=
  [('ß', ['S', 'S']), ('ı', ['I']), ('ſ', ['S']), ('ŉ', ['ʼ', 'N']),
    ('ǰ', ['J', Char.ofNat 0x30c]), ('ẖ', ['H', Char.ofNat 0x331]),
    ('ẗ', ['T', Char.ofNat 0x308]), ('ẘ', ['W', Char.ofNat 0x30a]),
    ('ẙ', ['Y', Char.ofNat 0x30a]), ('ẚ', ['A', 'ʾ']),
    ('ﬀ', ['F', 'F']), ('ﬁ', ['F', 'I']), ('ﬂ', ['F', 'L']), ('ﬃ', ['F', 'F', 'I']),
    ('ﬄ', ['F', 'F', 'L']), ('ﬅ', ['S', 'T']), ('ﬆ', ['S', 'T'])]

/-- `str.upper()` of a character, as far as it comes to ASCII letters. -/
def upperChar (char : Char) : List Char :=
  ((upperCases.find? fun entry => entry.1 = char).map Prod.snd).getD [char.toUpper]

def containsMarker (response : Json) (markers : List String) : Bool :=
  containsAny markers (String.ofList (response.dumps.toList.flatMap upperChar))

def tokenErrorMarkers : List String :=
  ["FAIL_SYS_TOKEN_EXOIRED", "FAIL_SYS_TOKEN_EXPIRED", "FAIL_SYS_ILLEGAL_ACCESS",
    "FAIL_SYS_SESSION_EXPIRED"]

def riskMarkers : List String := ["RGV587", "RISK", "CAPTCHA", "VALIDATE"]

def categoryError : String := "FAIL_BIZ_CHANNEL_CAT_ID_PATH_QUERY_ERROR"

/-- `_post_mtop`: one that names a token error is followed by another one. -/
def postMtop (platform : Platform) (api : String) : Exchange Json := do
  let result ← postOnce platform api
  if containsMarker result tokenErrorMarkers then postOnce platform api else pure result

/-- `str(value).startswith("SUCCESS::")`; the text of no other value starts so. -/
def isSuccessEntry : Json → Bool
  | .str text => "SUCCESS::".toList.isPrefixOf text.toList
  | _ => false

/-- `response.get("ret")` if that is a list. -/
def retList? : Json → Option (List Json)
  | .obj members =>
      match Json.get members "ret" with
      | .arr ret => some ret
      | _ => none
  | _ => none

def isSuccess (response : Json) : Bool :=
  (retList? response).any fun ret => ret.any isSuccessEntry

/-- `str(value)`; lists and objects only have to show the text they contain. -/
def display (value : Json) : String :=
  match value with
  | .null => "None"
  | _ => value.scalarText.getD value.dumps

/-- `_error_message`; only an object has the attribute `get`. -/
def errorMessage (response : Json) : Option String :=
  match response with
  | .obj members =>
      match retList? response with
      | some (entry :: _) => some (display entry)
      | _ =>
          let text := ((Json.get members "message").or (Json.get members "errorMsg")).or
            (Json.get members "msg")
          some (if text.isTrue then display text else "平台返回未知错误")
  | _ => none

/-- How a refusal is classified. -/
def rejection (response : Json) (operation message : String) : PlatformError :=
  if contains categoryError message then
    { kind := .category
      message := "闲鱼类目识别失败，请调整标题、类目提示或首图后重试"
      rawResponse := response.asObject }
  else if containsMarker response riskMarkers then
    { kind := .riskControl
      message := operation ++ "触发风控: " ++ message
      rawResponse := response.asObject }
  else if containsMarker response tokenErrorMarkers then
    { kind := .auth
      message := operation ++ "登录凭据已失效: " ++ message
      rawResponse := response.asObject }
  else
    { kind := .platformRejected
      message := operation ++ "失败: " ++ message
      rawResponse := response.asObject }

def ensureSuccess (response : Json) (operation : String) : Except Failure Unit :=
  if isSuccess response then .ok ()
  else
    match errorMessage response with
    | some message => .error (.productPublish (rejection response operation message))
    | none => .error .unexpectedShape

end XianyuAdmin.Mtop
