import XianyuAdmin.Core.PercentEncoding
import XianyuAdmin.Core.Python

/-!
# The network route of an account

An account without a proxy goes to the platform directly, and an account with one
goes through it or not at all.  Five clients build the URL of the proxy each on
their own; the route is decided at one place, and what `urlsplit` reads from the
URL are the credentials and the node of the account.
-/

namespace XianyuAdmin.AccountRoutes

open XianyuAdmin.Python XianyuAdmin.PercentEncoding

/-- `ProxyConfigPayload` -/
structure ProxyConfigPayload where
  enabled : Bool := false
  scheme : String := "socks5h"
  host : Option String := some ""
  port : Option ℕ := none
  username : Option String := none
  password : Option String := none

/-- `AccountNetworkRecord` -/
structure AccountNetworkRecord where
  proxyId : Option String
  proxy : ProxyConfigPayload

inductive AccountNetworkMode
  | direct
  | socks5

/-- What the caller is told; the scheme is quoted by its `repr`. -/
inductive RouteError
  | policy (message : String)
  | unsupportedScheme (scheme : String)

/-- `bool(port)` -/
def hasPort (port : Option ℕ) : Bool := port.any (· ≠ 0)

/-- `validate_account_network_route` -/
def validateAccountNetworkRoute (proxyId : Option String) (proxy : ProxyConfigPayload) :
    Except RouteError AccountNetworkMode :=
  match proxyId with
  | none =>
      if proxy.enabled || (truthy proxy.host || proxy.port.isSome || truthy proxy.username ||
          truthy proxy.password) then
        .error (.policy ("账户存在未绑定代理节点的旧代理配置，禁止使用隐藏代理或自动直连；" ++
          "请在代理管理中重新绑定节点"))
      else .ok .direct
  | some _ =>
      if !proxy.enabled then
        .error (.policy "账户绑定代理已停用，禁止直连，不得回退本地网络")
      else if proxy.scheme ∉ ["socks5", "socks5h"] then
        .error (.policy "账户绑定代理协议无效，仅支持 socks5/socks5h")
      else if !truthy proxy.host || !hasPort proxy.port then
        .error (.policy "账户绑定代理配置不完整，禁止直连，不得回退本地网络")
      else .ok .socks5

def auth (username password : Option String) : List Char :=
  if truthy username then
    quote (username.getD "") ++
      ((if truthy password then ':' :: quote (password.getD "") else []) ++ ['@'])
  else []

/-- `f"{scheme}://{auth}{host}:{port}"`, which every client writes. -/
def proxyUrl (scheme host : String) (port : Option ℕ) (username password : Option String) :
    String :=
  String.ofList (scheme.toList ++ ':' :: '/' :: '/' ::
    (auth username password ++ (host.toList ++ ':' :: (port.getD 0).repr.toList)))

/-- `ProxyConfig`, the proxy of the platform core. -/
structure ProxyConfig where
  enabled : Bool := false
  required : Bool := false
  scheme : String := "socks5h"
  host : String := ""
  port : Option ℕ := none
  username : Option String := none
  password : Option String := none

/-- `build_socks_proxy_url` -/
def buildSocksProxyUrl : Option ProxyConfig → Except RouteError (Option String)
  | none => .ok none
  | some proxy =>
      if !proxy.enabled then
        if proxy.required then .error (.policy "bound proxy is disabled") else .ok none
      else
        let scheme := lower (if proxy.scheme = "" then "socks5h" else proxy.scheme)
        if scheme ∉ ["socks5", "socks5h"] then .error (.unsupportedScheme proxy.scheme)
        else if proxy.host = "" then .error (.policy "proxy host is required")
        else if !hasPort proxy.port then .error (.policy "proxy port is required")
        else .ok (some (proxyUrl scheme proxy.host proxy.port proxy.username proxy.password))

/-- The proxy of an account that must not go out without it. -/
def ProxyConfigPayload.required (proxy : ProxyConfigPayload) : ProxyConfig where
  enabled := true
  required := true
  scheme := proxy.scheme
  host := proxy.host.getD ""
  port := proxy.port
  username := proxy.username
  password := proxy.password

/-- `build_core_account_proxy` -/
def buildCoreAccountProxy (account : AccountNetworkRecord) : Except RouteError ProxyConfig := do
  match ← validateAccountNetworkRoute account.proxyId account.proxy with
  | .direct => return { enabled := false, required := false }
  | .socks5 => return account.proxy.required

/-- The `_proxy_url` of the clients that write the scheme as it is stored. -/
def ProxyConfigPayload.url (proxy : ProxyConfigPayload) : String :=
  proxyUrl proxy.scheme (proxy.host.getD "") proxy.port proxy.username proxy.password

/-- `_proxy_url` of `QRLoginSession` and of `CookieRenewalService`, each with its message. -/
def checkedProxyUrl (message : String) (proxy : ProxyConfigPayload) : Except RouteError String :=
  if !truthy proxy.host || !hasPort proxy.port then .error (.policy message) else .ok proxy.url

/-- The validation comes first; then the proxy is used if it is enabled. -/
def ifEnabled (message : String) (account : AccountNetworkRecord) :
    Except RouteError (Option String) := do
  let _ ← validateAccountNetworkRoute account.proxyId account.proxy
  if account.proxy.enabled then return some (← checkedProxyUrl message account.proxy)
  else return none

inductive Client
  /-- `XianyuClient` and `ProductPublisher` -/
  | core
  /-- `QRLoginSession.start` -/
  | qrLogin
  /-- `CookieRenewalManager` with `CookieRenewalService` -/
  | cookieRenewal
  /-- `_start_proxy_bridge` of the remote browser -/
  | browserBridge
  /-- `_request_token_once` -/
  | imToken

/-- The proxy that a client sends its requests through, if any. -/
def Client.route (account : AccountNetworkRecord) : Client → Except RouteError (Option String)
  | .core => do buildSocksProxyUrl (some (← buildCoreAccountProxy account))
  | .qrLogin => ifEnabled "selected proxy is incomplete" account
  | .cookieRenewal => ifEnabled "账户代理配置不完整" account
  | .browserBridge => do
      match ← validateAccountNetworkRoute account.proxyId account.proxy with
      | .direct => return none
      | .socks5 =>
          let bridgeScheme :=
            if account.proxy.scheme = "socks5h" then "socks5" else account.proxy.scheme
          return some { account.proxy with scheme := bridgeScheme }.url
  | .imToken => do
      match ← validateAccountNetworkRoute account.proxyId account.proxy with
      | .direct => return none
      | .socks5 => return some account.proxy.url

/-- The bridge resolves no names, so that `socks5h` is `socks5` to it. -/
def Client.scheme (stored : String) : Client → String
  | .browserBridge => if stored = "socks5h" then "socks5" else stored
  | _ => stored

variable {account : AccountNetworkRecord} {client : Client}

/-- No proxy is bound, and none is left over. -/
structure AccountNetworkRecord.IsDirect (account : AccountNetworkRecord) : Prop where
  unbound : account.proxyId = none
  disabled : account.proxy.enabled = false
  host : truthy account.proxy.host = false
  port : account.proxy.port = none
  username : truthy account.proxy.username = false
  password : truthy account.proxy.password = false

/-- A proxy is bound that can be used. -/
structure AccountNetworkRecord.IsBound (account : AccountNetworkRecord) : Prop where
  bound : account.proxyId ≠ none
  enabled : account.proxy.enabled = true
  scheme : account.proxy.scheme ∈ ["socks5", "socks5h"]
  host : truthy account.proxy.host = true
  port : hasPort account.proxy.port = true

/-- The policy decides by what the account has bound. -/
theorem validate_cases (account : AccountNetworkRecord) :
    (account.IsDirect ∧
      validateAccountNetworkRoute account.proxyId account.proxy = .ok .direct) ∨
    (account.IsBound ∧
      validateAccountNetworkRoute account.proxyId account.proxy = .ok .socks5) ∨
    (¬account.IsDirect ∧ ¬account.IsBound ∧
      ∃ error, validateAccountNetworkRoute account.proxyId account.proxy = .error error) := by
  unfold validateAccountNetworkRoute
  cases hid : account.proxyId with
  | none =>
      have hbound : ¬account.IsBound := fun h => h.bound hid
      by_cases hleft : (account.proxy.enabled || (truthy account.proxy.host ||
          account.proxy.port.isSome || truthy account.proxy.username ||
          truthy account.proxy.password)) = true
      · refine .inr (.inr ⟨fun h => ?_, hbound, _, if_pos hleft⟩)
        simp [h.disabled, h.host, h.port, h.username, h.password] at hleft
      · have hclean := hleft
        simp only [Bool.or_eq_true, not_or, Bool.not_eq_true, Option.isSome_eq_false_iff,
          Option.isNone_iff_eq_none] at hclean
        obtain ⟨henabled, ⟨⟨hhost, hport⟩, husername⟩, hpassword⟩ := hclean
        exact .inl ⟨⟨hid, henabled, hhost, hport, husername, hpassword⟩, if_neg hleft⟩
  | some proxyId =>
      have hdirect : ¬account.IsDirect := fun h => by
        rw [h.unbound] at hid
        cases hid
      refine .inr ?_
      dsimp only
      split
      · rename_i hdisabled
        exact .inr ⟨hdirect, fun h => by simp [h.enabled] at hdisabled, _, rfl⟩
      · rename_i henabled
        split
        · rename_i hscheme
          exact .inr ⟨hdirect, fun h => hscheme h.scheme, _, rfl⟩
        · rename_i hscheme
          split
          · rename_i hincomplete
            exact .inr ⟨hdirect, fun h => by simp [h.host, h.port] at hincomplete, _, rfl⟩
          · rename_i hcomplete
            simp only [Bool.or_eq_true, Bool.not_eq_true', not_or, Bool.not_eq_false]
              at hcomplete
            exact .inl ⟨⟨by simp [hid], by simpa using henabled, not_not.mp hscheme,
              hcomplete.1, hcomplete.2⟩, rfl⟩

/-- The URL a client has for the account. -/
def Client.url (account : AccountNetworkRecord) (client : Client) : String :=
  { account.proxy with scheme := client.scheme account.proxy.scheme }.url

theorem route_of_error {error : RouteError}
    (herror : validateAccountNetworkRoute account.proxyId account.proxy = .error error) :
    client.route account = .error error := by
  cases client <;> simp only [Client.route, ifEnabled, buildCoreAccountProxy, herror] <;> rfl

theorem route_of_isDirect (hdirect : account.IsDirect)
    (hvalid : validateAccountNetworkRoute account.proxyId account.proxy = .ok .direct) :
    client.route account = .ok none := by
  cases client <;>
    simp only [Client.route, ifEnabled, buildCoreAccountProxy, hvalid, hdirect.disabled] <;> rfl

theorem route_of_isBound (hbound : account.IsBound)
    (hvalid : validateAccountNetworkRoute account.proxyId account.proxy = .ok .socks5) :
    client.route account = .ok (some (client.url account)) := by
  have hchecked : ∀ message, checkedProxyUrl message account.proxy = .ok account.proxy.url := by
    intro message
    simp [checkedProxyUrl, hbound.host, hbound.port]
  cases client with
  | core =>
      obtain ⟨host, hhost, hne⟩ := exists_of_truthy hbound.host
      have hlower : lower (if account.proxy.scheme = "" then "socks5h" else
          account.proxy.scheme) = account.proxy.scheme := by
        have hscheme := hbound.scheme
        simp only [List.mem_cons, List.not_mem_nil, or_false] at hscheme
        rcases hscheme with hscheme | hscheme <;> rw [hscheme] <;> decide
      have hsocks : buildSocksProxyUrl (some account.proxy.required) =
          .ok (some (Client.core.url account)) := by
        simp [buildSocksProxyUrl, ProxyConfigPayload.required, hlower, hbound.scheme, hhost, hne,
          hbound.port, Client.url, Client.scheme, ProxyConfigPayload.url]
      simp only [Client.route, buildCoreAccountProxy, hvalid]
      exact hsocks
  | qrLogin =>
      simp only [Client.route, ifEnabled, hvalid, hbound.enabled, hchecked]
      rfl
  | cookieRenewal =>
      simp only [Client.route, ifEnabled, hvalid, hbound.enabled, hchecked]
      rfl
  | browserBridge =>
      simp only [Client.route, hvalid]
      rfl
  | imToken =>
      simp only [Client.route, hvalid]
      rfl

theorem route_cases (client : Client) (account : AccountNetworkRecord) :
    (account.IsDirect ∧ client.route account = .ok none) ∨
    (account.IsBound ∧ client.route account = .ok (some (client.url account))) ∨
    (¬account.IsDirect ∧ ¬account.IsBound ∧ ∃ error, client.route account = .error error) := by
  rcases validate_cases account with ⟨hdirect, hvalid⟩ | ⟨hbound, hvalid⟩ |
    ⟨hdirect, hbound, error, herror⟩
  · exact .inl ⟨hdirect, route_of_isDirect hdirect hvalid⟩
  · exact .inr (.inl ⟨hbound, route_of_isBound hbound hvalid⟩)
  · exact .inr (.inr ⟨hdirect, hbound, error, route_of_error herror⟩)

/-- Every client goes out directly exactly where no proxy is bound and none is left over, and
through the node of the account exactly where it can be used; otherwise it goes out nowhere. -/
theorem route_iff (client : Client) (account : AccountNetworkRecord) :
    (client.route account = .ok none ↔ account.IsDirect) ∧
      ∀ url, client.route account = .ok (some url) ↔
        account.IsBound ∧ url = client.url account := by
  rcases route_cases client account with ⟨hdirect, hroute⟩ | ⟨hbound, hroute⟩ |
    ⟨hdirect, hbound, error, hroute⟩
  · have hbound : ¬account.IsBound := fun h => h.bound hdirect.unbound
    simp [hroute, hdirect, hbound]
  · have hdirect : ¬account.IsDirect := fun h => hbound.bound h.unbound
    simp [hroute, hdirect, hbound, eq_comm]
  · simp [hroute, hdirect, hbound]

/-- `text.partition(separator)` -/
def partition (separator : Char) : List Char → List Char × Option (List Char)
  | [] => ([], none)
  | char :: rest =>
      if char = separator then ([], some rest)
      else (char :: (partition separator rest).1, (partition separator rest).2)

/-- `text.rpartition(separator)` -/
def lastPartition (separator : Char) (text : List Char) : Option (List Char) × List Char :=
  match partition separator text.reverse with
  | (_, none) => (none, text)
  | (back, some front) => (some front.reverse, back.reverse)

structure Endpoint where
  scheme : String
  username : Option String
  password : Option String
  host : String
  port : String

def readNetloc (scheme netloc : List Char) : Endpoint :=
  let (userinfo, hostinfo) := lastPartition '@' netloc
  let (host, port) := partition ':' hostinfo
  { scheme := String.ofList scheme
    username := userinfo.bind fun info => unquote (partition ':' info).1
    password := userinfo.bind fun info => (partition ':' info).2.bind unquote
    host := String.ofList host
    port := String.ofList (port.getD []) }

/-- The parts of a URL by `urlsplit`, where the host is not an address in brackets. -/
def readProxyUrl (url : String) : Option Endpoint :=
  match partition ':' url.toList with
  | (scheme, some ('/' :: '/' :: rest)) =>
      some (readNetloc scheme (rest.takeWhile fun char => char ∉ ['/', '?', '#']))
  | _ => none

theorem partition_append {separator : Char} {front : List Char} (back : List Char)
    (hfront : separator ∉ front) :
    partition separator (front ++ separator :: back) = (front, some back) := by
  induction front with
  | nil => simp [partition]
  | cons char rest ih =>
      rw [List.mem_cons, not_or] at hfront
      simp [partition, Ne.symm hfront.1, ih hfront.2]

theorem partition_of_notMem {separator : Char} {text : List Char} (htext : separator ∉ text) :
    partition separator text = (text, none) := by
  induction text with
  | nil => rfl
  | cons char rest ih =>
      rw [List.mem_cons, not_or] at htext
      simp [partition, Ne.symm htext.1, ih htext.2]

theorem lastPartition_append {separator : Char} (front : List Char) {back : List Char}
    (hback : separator ∉ back) :
    lastPartition separator (front ++ separator :: back) = (some front, back) := by
  have hreverse : (front ++ separator :: back).reverse =
      back.reverse ++ separator :: front.reverse := by simp
  rw [lastPartition, hreverse, partition_append _ (by simpa using hback)]
  simp

theorem lastPartition_of_notMem {separator : Char} {text : List Char}
    (htext : separator ∉ text) : lastPartition separator text = (none, text) := by
  rw [lastPartition, partition_of_notMem (by simpa using htext)]

/-- A name or an address of version 4. -/
def IsPlainHost (host : String) : Prop :=
  ∀ char ∈ host.toList, char ∉ ['@', ':', '/', '?', '#']

/-- What a reader of the URL is meant to get. -/
def Client.endpoint (account : AccountNetworkRecord) (client : Client) : Endpoint where
  scheme := client.scheme account.proxy.scheme
  username := if truthy account.proxy.username then account.proxy.username else none
  password :=
    if truthy account.proxy.username && truthy account.proxy.password then account.proxy.password
    else none
  host := account.proxy.host.getD ""
  port := (account.proxy.port.getD 0).repr

theorem notMem_quote (text : String) {mark : Char}
    (hmark : mark ∈ ['@', ':', '/', '?', '#']) : mark ∉ quote text := by
  intro hmem
  have hmarks : ∀ mark ∈ ['@', ':', '/', '?', '#'],
      ¬(mark.isAlphanum = true ∨ mark ∈ ['_', '.', '-', '~', '%']) := by simp
  exact hmarks mark hmark (isSafe_of_mem_quote hmem)

theorem notMem_repr {port : ℕ} {mark : Char} (hmark : mark ∈ ['@', ':', '/', '?', '#']) :
    mark ∉ port.repr.toList := by
  intro hmem
  rw [Nat.toList_repr] at hmem
  have hmarks : ∀ mark ∈ ['@', ':', '/', '?', '#'], mark.isDigit = false := by simp [Char.isDigit]
  have hdigit := Nat.isDigit_of_mem_toDigits (by decide) (by decide) hmem
  rw [hmarks mark hmark] at hdigit
  cases hdigit

/-- The part of the URL before the host holds the credentials, and ends with the only `@`. -/
theorem lastPartition_auth (username password : Option String) {hostinfo : List Char}
    (hhostinfo : '@' ∉ hostinfo) :
    ∃ userinfo, lastPartition '@' (auth username password ++ hostinfo) = (userinfo, hostinfo) ∧
      (userinfo.bind fun info => unquote (partition ':' info).1) =
        (if truthy username then username else none) ∧
      (userinfo.bind fun info => (partition ':' info).2.bind unquote) =
        (if truthy username && truthy password then password else none) := by
  have hcolon : ':' ∈ ['@', ':', '/', '?', '#'] := by simp
  unfold auth
  by_cases husername : truthy username = true
  · obtain ⟨user, rfl, -⟩ := exists_of_truthy husername
    by_cases hpassword : truthy password = true
    · obtain ⟨secret, rfl, -⟩ := exists_of_truthy hpassword
      refine ⟨some (quote user ++ ':' :: quote secret), ?_, ?_, ?_⟩
      · rw [if_pos husername, if_pos hpassword]
        simpa using lastPartition_append (quote user ++ ':' :: quote secret) hhostinfo
      · simp [partition_append _ (notMem_quote user hcolon),
          unquote_quote, husername]
      · simp [partition_append _ (notMem_quote user hcolon),
          unquote_quote, husername, hpassword]
    · refine ⟨some (quote user), ?_, ?_, ?_⟩
      · rw [if_pos husername, if_neg hpassword]
        simpa using lastPartition_append (quote user) hhostinfo
      · simp [partition_of_notMem (notMem_quote user hcolon),
          unquote_quote, husername]
      · simp [partition_of_notMem (notMem_quote user hcolon),
          hpassword]
  · refine ⟨none, ?_, by simp [husername], by simp [husername]⟩
    rw [if_neg husername, List.nil_append, lastPartition_of_notMem hhostinfo]

theorem notMem_auth {username password : Option String} {mark : Char}
    (hmark : mark ∈ ['/', '?', '#']) : mark ∉ auth username password := by
  have hmarks : mark ∈ ['@', ':', '/', '?', '#'] := List.mem_append_right ['@', ':'] hmark
  have hcolon : mark ≠ ':' := by rintro rfl; simp at hmark
  have hat : mark ≠ '@' := by rintro rfl; simp at hmark
  unfold auth
  split
  · split <;> simp [notMem_quote _ hmarks, hcolon, hat]
  · simp

/-- The parts of a URL are told apart by marks that neither the node nor the quoted credentials
have. -/
theorem readProxyUrl_parts {url : String} {scheme host port : List Char}
    {username password : Option String}
    (hurl : url.toList =
      scheme ++ ':' :: '/' :: '/' :: (auth username password ++ (host ++ ':' :: port)))
    (hscheme : ':' ∉ scheme) (hhost : ∀ mark ∈ ['@', ':', '/', '?', '#'], mark ∉ host)
    (hport : ∀ mark ∈ ['@', ':', '/', '?', '#'], mark ∉ port) :
    readProxyUrl url = some {
      scheme := String.ofList scheme
      username := if truthy username then username else none
      password := if truthy username && truthy password then password else none
      host := String.ofList host
      port := String.ofList port } := by
  have hhostinfo : '@' ∉ host ++ ':' :: port := by simp [hhost, hport]
  have hnetloc : (auth username password ++ (host ++ ':' :: port)).takeWhile
      (fun char => decide (char ∉ ['/', '?', '#'])) =
        auth username password ++ (host ++ ':' :: port) := by
    rw [List.takeWhile_eq_self_iff]
    intro char hmem
    rw [decide_eq_true_iff]
    intro hmark
    have hmarks : char ∈ ['@', ':', '/', '?', '#'] := List.mem_append_right ['@', ':'] hmark
    have hcolon : char ≠ ':' := by
      rintro rfl
      simp at hmark
    simp [notMem_auth hmark, hhost char hmarks, hport char hmarks, hcolon] at hmem
  obtain ⟨userinfo, hparts, husername, hpassword⟩ :=
    lastPartition_auth username password hhostinfo
  have hnode := partition_append port (hhost ':' (by simp))
  rw [readProxyUrl, hurl, partition_append _ hscheme]
  change some (readNetloc scheme (List.takeWhile _ _)) = _
  rw [hnetloc]
  simp only [readNetloc, hparts, hnode, husername, hpassword, Option.getD_some]

/-- A password that has all the marks of a URL. -/
def markedAccount : AccountNetworkRecord where
  proxyId := some "node"
  proxy := {
    enabled := true
    host := some "10.0.0.8"
    port := some 1080
    username := some "店铺"
    password := some "p@ss:/?#" }

end XianyuAdmin.AccountRoutes
