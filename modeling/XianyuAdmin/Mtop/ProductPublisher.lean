import XianyuAdmin.Mtop.PostMtop

/-!
# Publishing a product

The publisher resolves a location, uploads the images and lets the platform recommend
a category before it posts the product.  What it reads of all this goes into the
product that is posted; here it matters only whether a step fails.
-/

namespace XianyuAdmin.Mtop

open XianyuAdmin.Python Procedure

structure PublishLibrary where
  /-- `float(value)` returns. -/
  isFloat : Json → Bool
  /-- `abs(float(left) - right) > 0.05` for a coordinate that was asked for. -/
  isFar : (isLongitude : Bool) → Json → Bool
  /-- `str.isdigit()` of a character. -/
  isDigit : Char → Bool

/-- `value.get(name)`; only an object has the attribute `get`. -/
def getAttribute (value : Json) (name : String) : Except Failure Json :=
  match value with
  | .obj members => .ok (Json.get members name)
  | _ => .error .unexpectedShape

def orEmpty (value : Json) : Json := value.or (.obj [])

/-- The items of `for item in value or []`, where an item has to be an object. -/
def iterate (value : Json) : Except Failure (List Json) :=
  if value.isTrue then
    match value with
    | .arr items => .ok items
    | _ => .error .unexpectedShape
  else .ok []

/-- `str(value or "").strip()` is empty. -/
def isBlank (value : Json) : Bool := strip value.textOrEmpty = ""

def productPublishError (kind : Kind) (message : String) : Failure :=
  .productPublish { kind := kind, message := message }

def locationApi : String := "mtop.taobao.idle.local.poi.get"

def missingLocationParts (members : List (String × Json)) : List String :=
  let field := Json.get members
  let absent (value : Json) : Bool :=
    match value with
    | .null => true
    | .str text => text = ""
    | _ => false
  let poiName :=
    ((((field "poi_name").or (field "poiName")).or (field "poi")).or (field "area")).or
      (field "city")
  [("prov", isBlank (field "prov")), ("city", isBlank (field "city")),
    ("division_id", isBlank ((field "division_id").or (field "divisionId"))),
    ("longitude", absent (field "longitude")), ("latitude", absent (field "latitude")),
    ("poi_name", isBlank poiName)].filterMap fun (name, isMissing) =>
      if isMissing then some name else none

def validateLocation (library : PublishLibrary) (location : Json) : Except Failure Unit :=
  match location with
  | .obj members =>
      let missing := missingLocationParts members
      if missing ≠ [] then
        .error (productPublishError .location
          ("宝贝所在地信息不完整，缺少: " ++ ", ".intercalate missing))
      else if library.isFloat (Json.get members "longitude") &&
          library.isFloat (Json.get members "latitude") then
        .ok ()
      else .error (productPublishError .location "宝贝所在地经纬度无效")
  | _ => .error (productPublishError .location "宝贝所在地格式无效")

def isRetryableLocationError : RequestError → Bool
  | .transport _ isConnection => isConnection
  | .http status => status = 502 || status = 503 || status = 504

/-- The request for locations; `left` more attempts may follow the `attempt`th one. -/
def postLocation (platform : Platform) (attempt : ℕ) : (left : ℕ) → Exchange Json
  | 0 => tryCatch (postMtop platform locationApi) (locationFailed attempt)
  | left + 1 =>
      tryCatch (postMtop platform locationApi) fun
        | .request error =>
            if isRetryableLocationError error then postLocation platform (attempt + 1) left
            else locationFailed attempt (.request error)
        | failure => throw failure
where
  locationFailed (attempt : ℕ) : Failure → Exchange Json
    | .request error =>
        throw (.productPublish
          { kind := .network
            message :=
              "获取宝贝所在地网络请求失败（" ++ error.className ++ "），已尝试 " ++
                toString attempt ++ " 次"
            retryable := isRetryableLocationError error })
    | failure => throw failure

/-- The places that are tried, in order; `centered` is the answer for the neighbourhood
of the selected place. -/
def locationSources (members centered : List (String × Json)) : List Json :=
  let selected := (Json.get centered "selectedPoi").or (Json.get members "selectedPoi")
  let values (name : String) : List Json :=
    (Json.get members name).asList ++ (Json.get centered name).asList
  (match selected with
    | .obj _ => [selected]
    | _ => []) ++
  values "commonAddresses" ++ values "nearbyAddresses" ++ values "pois"

def isElsewhere (library : PublishLibrary) (selected : Json) : Bool :=
  match selected with
  | .obj members =>
      let longitude := Json.get members "longitude"
      let latitude := Json.get members "latitude"
      library.isFloat longitude && library.isFloat latitude &&
        (library.isFar true longitude || library.isFar false latitude)
  | _ => false

def centeredLocations (library : PublishLibrary) (platform : Platform) (selected : Json) :
    Exchange (List (String × Json)) :=
  if isElsewhere library selected then
    tryCatch
      (do
        let response ← postMtop platform locationApi
        answer (ensureSuccess response "获取默认所在地附近地址")
        let data ← answer (getAttribute response "data")
        pure (orEmpty data).asObject)
      fun
        | .request _ | .productPublish _ => pure []
        | failure => throw failure
  else pure []

/-- `get_default_location`: the first of `list_location_candidates`. -/
def getDefaultLocation (library : PublishLibrary) (platform : Platform) : Exchange Unit := do
  let response ← postLocation platform 1 2
  answer (ensureSuccess response "获取宝贝所在地")
  let data ← answer (getAttribute response "data")
  let centered ← centeredLocations library platform (Json.get data.asObject "selectedPoi")
  match orEmpty data with
  | .obj members =>
      if (locationSources members centered).any fun source =>
          (validateLocation library source).isOk then
        pure ()
      else throw (productPublishError .location "账号未返回可用的宝贝所在地")
  | _ => throw .unexpectedShape

def resolveLocation (library : PublishLibrary) (platform : Platform) :
    Option Json → Exchange Unit
  | some location => answer (validateLocation library location)
  | none => getDefaultLocation library platform

structure ImageTransfer where
  download : Except Failure Unit
  upload : Response

def uploadImageData (upload : Answer) : Except Failure Unit :=
  match upload with
  | .failed error => .error (.request error)
  | .notJson => .error (productPublishError .imageUpload "图片上传返回非 JSON 响应")
  | .json (.obj members) => do
      let image := orEmpty (((Json.get members "object").or (Json.get members "data")).or
        (Json.get members "result"))
      let url ← getAttribute image "url"
      if (url.or (Json.get members "url")).isTrue then .ok ()
      else
        .error (productPublishError .imageUpload
          ("图片上传失败: " ++ (errorMessage (.obj members)).getD ""))
  | .json _ => .error .unexpectedShape

def uploadImages : List ImageTransfer → Exchange Unit
  | [] => pure ()
  | image :: images => do
      answer image.download
      modify fun session => { session with cookie := image.upload.cookie }
      answer (uploadImageData image.upload.answer)
      uploadImages images

def categoryApi : String := "mtop.taobao.idle.kgraph.property.recommend"

def extractCategory (response : Json) : Except Failure Unit := do
  let data ← getAttribute response "data"
  let predicted ← getAttribute (orEmpty data) "categoryPredictResult"
  match orEmpty predicted with
  | .obj members =>
      let missing :=
        [("catId", "cat_id"), ("catName", "cat_name"), ("channelCatId", "channel_cat_id"),
          ("tbCatId", "tb_cat_id")].filterMap fun (name, alternative) =>
            if ((Json.get members name).or (Json.get members alternative)).textOrEmpty = "" then
              some name
            else none
      if missing = [] then .ok ()
      else
        .error (productPublishError .category
          ("自动识别类目不完整，缺少: " ++ ", ".intercalate missing))
  | _ => .error .unexpectedShape

def searchClicked : List Json → Except Failure Unit
  | [] => .ok ()
  | value :: values => do
      let clicked ← getAttribute value "isClicked"
      if clicked.isTrue then .ok () else searchClicked values

/-- The cards that `_build_labels` walks through. -/
def buildLabels : List Json → Except Failure Unit
  | [] => .ok ()
  | card :: cards => do
      let cardData ← getAttribute card "cardData"
      let values ← getAttribute (orEmpty cardData) "valuesList"
      let values ← iterate values
      searchClicked values
      buildLabels cards

/-- `_build_publish_payload`, as far as it depends on the recommended category. -/
def buildPublishPayload (response : Json) : Except Failure Unit := do
  let data ← getAttribute response "data"
  let cards ← getAttribute (orEmpty data) "cardList"
  let cards ← iterate cards
  buildLabels cards

structure ProductPublishRequest where
  images : List ImageTransfer
  uniqueCode : String
  stock : ℤ := 1
  deliveryChoice : String := "free_shipping"
  hasPostPrice : Bool := false
  location : Option Json := none

def validateRequest (request : ProductPublishRequest) : Except Failure Unit :=
  let invalid (message : String) : Except Failure Unit :=
    .error (productPublishError .validation message)
  if ¬(1 ≤ request.images.length ∧ request.images.length ≤ 9) then
    invalid "商品图片数量必须为 1 到 9 张"
  else if request.uniqueCode = "" then invalid "发布任务缺少唯一编码"
  else if request.stock < 1 then invalid "商品库存必须大于 0"
  else if request.deliveryChoice ∉ ["free_shipping", "distance", "fixed", "pickup_only"] then
    invalid "不支持的运费方式"
  else if request.deliveryChoice = "fixed" ∧ ¬request.hasPostPrice then
    invalid "固定运费方式必须填写邮费"
  else .ok ()

def preparePublish (library : PublishLibrary) (platform : Platform)
    (request : ProductPublishRequest) : Exchange Unit := do
  resolveLocation library platform request.location
  uploadImages request.images
  let response ← postMtop platform categoryApi
  answer (ensureSuccess response "识别商品类目")
  answer (extractCategory response)
  answer (buildPublishPayload response)

def idKeys : List String := ["itemId", "item_id", "idleItemId", "idleId"]

def ownItemId (library : PublishLibrary) (expected : Option String)
    (members : List (String × Json)) : Option String :=
  idKeys.findSome? fun key =>
    let candidate := (Json.get members key).textOrEmpty
    if candidate ≠ "" ∧ candidate.toList.all library.isDigit ∧ 6 ≤ candidate.length ∧
        expected.all (· = candidate) then
      some candidate
    else none

mutual

def findItemId (library : PublishLibrary) (expected : Option String) : Json → Option String
  | .obj members =>
      ownItemId library expected members <|> findInMembers library expected members
  | .arr items => findInItems library expected items
  | _ => none

def findInMembers (library : PublishLibrary) (expected : Option String) :
    List (String × Json) → Option String
  | [] => none
  | (_, value) :: members =>
      findItemId library expected value <|> findInMembers library expected members

def findInItems (library : PublishLibrary) (expected : Option String) :
    List Json → Option String
  | [] => none
  | value :: values =>
      findItemId library expected value <|> findInItems library expected values

end

def itemListApi : String := "mtop.idle.web.xyh.item.list"

def verifyItem (library : PublishLibrary) (platform : Platform) (itemId : String) :
    Exchange Bool :=
  tryCatch
    (do
      let result ← postMtop platform itemListApi
      pure (isSuccess result &&
        findItemId library (some itemId) (Json.get result.asObject "data") = some itemId))
    fun
      | .productPublish _ | .request _ => pure false
      | failure => throw failure

structure ProductPublishResult where
  itemId : String
  verified : Bool
  rawResponse : Json

def publishApi : String := "mtop.idle.pc.idleitem.publish"

def publishResultUnknown (message : String) (rawResponse : List (String × Json)) : Failure :=
  .productPublish
    { kind := .publishResultUnknown
      message := message
      uncertain := true
      rawResponse := rawResponse }

/-- What `publish` makes of a failure of the POST itself. -/
def publishFailed : Failure → Exchange Json
  | .request _ =>
      throw (publishResultUnknown
        "发布请求已发出但未收到明确结果，请先到闲鱼核对，禁止直接重试" [])
  | .productPublish error =>
      if error.kind ≠ .platformResponse then throw (.productPublish error)
      else
        throw (publishResultUnknown
          "发布接口返回内容无法解析，请先到闲鱼核对，禁止直接重试" [])
  | failure => throw failure

def publishAnswered (library : PublishLibrary) (platform : Platform) (response : Json) :
    Exchange ProductPublishResult := do
  answer (ensureSuccess response "发布商品")
  match findItemId library none (Json.get response.asObject "data") with
  | none =>
      throw (publishResultUnknown
        "平台返回发布成功，但响应中没有商品 ID，请到闲鱼核对" response.asObject)
  | some itemId => do
      let verified ← verifyItem library platform itemId
      pure { itemId := itemId, verified := verified, rawResponse := response }

/-- The handlers around the steps of `publish`. -/
def publishRaised : Failure → Exchange ProductPublishResult
  | .imageValidation message =>
      throw (.productPublish { kind := .imageInvalid, message := message })
  | .request error =>
      throw (.productPublish
        { kind := .network
          message := "商品发布网络请求失败（" ++ error.className ++ "）"
          retryable := true })
  | failure => throw failure

def publish (library : PublishLibrary) (platform : Platform)
    (request : ProductPublishRequest) : Exchange ProductPublishResult := do
  answer (validateRequest request)
  tryCatch
    (do
      preparePublish library platform request
      let response ← tryCatch (postMtop platform publishApi) publishFailed
      publishAnswered library platform response)
    publishRaised

end XianyuAdmin.Mtop
