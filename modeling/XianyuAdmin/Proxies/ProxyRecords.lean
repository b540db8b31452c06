import XianyuAdmin.Core.Python
import XianyuAdmin.Core.Sessions
import XianyuAdmin.Core.Table

/-!
# Accounts and their proxies

An account may be bound to a proxy.  The schema has the proxy's id in a unique
index of the accounts, and as a foreign key that is set to `NULL` when the proxy
is deleted.
-/

namespace XianyuAdmin.Proxies

open XianyuAdmin.Python

inductive Scheme
  | socks5
  | socks5h
  deriving DecidableEq, Repr

/-- How the proxy is reached; a probe tells something about just this. -/
structure Connection where
  scheme : Scheme := .socks5h
  host : String
  port : ℕ
  username : Option String := none
  password : Option String := none
  deriving DecidableEq, Repr

structure Probe where
  lastTestOk : Option Bool := none
  lastTestMessage : Option String := none
  lastTestLatencyMs : Option ℕ := none
  lastTestAt : Option ℕ := none
  lastPlatformStatus : Option ℕ := none
  deriving DecidableEq, Repr

/-- A row of `xianyu_proxies`. -/
structure Proxy where
  proxyId : Identifier
  name : String
  enabled : Bool := true
  connection : Connection
  probe : Probe := {}
  updatedAt : ℕ := 0
  deriving DecidableEq

/-- A row of `xianyu_accounts`. -/
structure Account where
  accountId : String
  remark : Option String := none
  platform : String := "xianyu"
  platformDisplayName : Option String := none
  cookie : String := ""
  cookieUpdatedAt : Option ℕ := none
  cookieUpdateSource : Option String := none
  enabled : Bool := true
  proxyId : Option String := none
  updatedAt : ℕ := 0
  deriving DecidableEq, Repr

/-- `platform_account_display_name`. -/
def Account.displayName (account : Account) : String :=
  let normalized := strip (account.platformDisplayName.getD "")
  if normalized ≠ "" then normalized
  else
    let platformName := if lower (strip account.platform) = "xianyu" then "闲鱼" else "平台"
    platformName ++ "账户-" ++ String.ofList (account.accountId.toList.take 8)

inductive ProxyKey
  | id (proxyId : String)
  | name (name : String)
  deriving DecidableEq

def proxyKeys (proxy : Proxy) : List ProxyKey := [.id proxy.proxyId.text, .name proxy.name]

inductive AccountKey
  | id (accountId : String)
  | proxy (proxyId : String)
  deriving DecidableEq

def accountKeys (account : Account) : List AccountKey :=
  .id account.accountId :: (account.proxyId.map AccountKey.proxy).toList

structure Database where
  accounts : Table Account accountKeys
  proxies : Table Proxy proxyKeys

namespace Database

def account? (database : Database) (accountId : String) : Option Account :=
  database.accounts.lookup (.id accountId)

def proxy? (database : Database) (proxyId : String) : Option Proxy :=
  database.proxies.lookup (.id proxyId)

def boundAccount? (database : Database) (proxyId : String) : Option Account :=
  database.accounts.lookup (.proxy proxyId)

end Database

structure AccountChanges where
  remark : Option (Option String) := none
  cookie : Option String := none
  cookieUpdatedAt : Option ℕ := none
  cookieUpdateSource : Option String := none
  enabled : Option Bool := none
  proxyId : Option (Option String) := none
  updatedAt : ℕ
  deriving DecidableEq, Repr

def Account.write (account : Account) (changes : AccountChanges) : Account :=
  { account with
    remark := changes.remark.getD account.remark
    cookie := changes.cookie.getD account.cookie
    cookieUpdatedAt := changes.cookieUpdatedAt <|> account.cookieUpdatedAt
    cookieUpdateSource := changes.cookieUpdateSource <|> account.cookieUpdateSource
    enabled := changes.enabled.getD account.enabled
    proxyId := changes.proxyId.getD account.proxyId
    updatedAt := changes.updatedAt }

structure ProxyChanges where
  name : Option String := none
  enabled : Option Bool := none
  scheme : Option Scheme := none
  host : Option String := none
  port : Option ℕ := none
  username : Option (Option String) := none
  password : Option (Option String) := none
  probe : Option Probe := none
  updatedAt : ℕ
  deriving DecidableEq, Repr

def Proxy.write (proxy : Proxy) (changes : ProxyChanges) : Proxy :=
  { proxy with
    name := changes.name.getD proxy.name
    enabled := changes.enabled.getD proxy.enabled
    connection :=
      { scheme := changes.scheme.getD proxy.connection.scheme
        host := changes.host.getD proxy.connection.host
        port := changes.port.getD proxy.connection.port
        username := changes.username.getD proxy.connection.username
        password := changes.password.getD proxy.connection.password }
    probe := changes.probe.getD proxy.probe
    updatedAt := changes.updatedAt }

def changed {Value : Type} [DecidableEq Value] (loaded new : Value) : Option Value :=
  if new = loaded then none else some new

/-- What a transaction commits. -/
inductive Write
  | insertAccount (account : Account)
  | updateAccount (accountId : String) (changes : AccountChanges)
  | updateProxy (proxyId : String) (changes : ProxyChanges)
  | deleteProxy (proxyId : String)

/-- The foreign key of the accounts. -/
def hasProxy (database : Database) (proxyId : Option String) : Bool :=
  proxyId.all fun proxyId => (database.proxy? proxyId).isSome

def Account.unbind (account : Account) (proxyId : String) : Account :=
  if account.proxyId = some proxyId then { account with proxyId := none } else account

theorem accountKeys_unbind (proxyId : String) (account : Account) :
    accountKeys (account.unbind proxyId) ⊆ accountKeys account := by
  unfold Account.unbind
  split
  · exact List.cons_subset_cons _ (List.nil_subset _)
  · exact List.Subset.refl _

/-- What the database makes of a write; `none` is an error that rolls it back. -/
def applyWrite (database : Database) : Write → Option Database
  | .insertAccount account =>
      if hasProxy database account.proxyId then
        (database.accounts.insert? account).map fun accounts =>
          { database with accounts := accounts }
      else none
  | .updateAccount accountId changes =>
      if (database.account? accountId).isSome && hasProxy database (changes.proxyId.getD none)
      then
        (database.accounts.update? fun account =>
          if account.accountId = accountId then account.write changes else account).map
            fun accounts => { database with accounts := accounts }
      else none
  | .updateProxy proxyId changes =>
      if (database.proxy? proxyId).isSome then
        (database.proxies.update? fun proxy =>
          if proxy.proxyId.text = proxyId then proxy.write changes else proxy).map
            fun proxies => { database with proxies := proxies }
      else none
  | .deleteProxy proxyId =>
      some
        { accounts :=
            database.accounts.release (fun account => account.unbind proxyId)
              (accountKeys_unbind proxyId)
          proxies := database.proxies.delete fun proxy => proxy.proxyId.text = proxyId }

inductive RowLock
  | account (accountId : String)
  | proxy (proxyId : String)
  deriving DecidableEq

def touches (database : Database) : Write → List RowLock
  | .insertAccount account => [.account account.accountId]
  | .updateAccount accountId _ => [.account accountId]
  | .updateProxy proxyId _ => [.proxy proxyId]
  | .deleteProxy proxyId =>
      .proxy proxyId ::
        ((database.boundAccount? proxyId).map fun account =>
          RowLock.account account.accountId).toList

def engine : Sessions.Engine Database RowLock Write where
  apply := applyWrite
  touches := touches

end XianyuAdmin.Proxies
