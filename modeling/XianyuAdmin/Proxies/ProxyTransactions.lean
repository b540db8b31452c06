import XianyuAdmin.Proxies.ProxyRecords

/-!
# Binding, disabling and deleting proxies

The store functions as transactions of concurrent sessions.  A function that binds
a proxy locks its row before it looks at it; the functions that change or delete a
proxy look at it and at its account without a lock.  What else may end a function
(a fingerprint seed that is taken, a lost connection) is a session that breaks off.
-/

namespace XianyuAdmin.Proxies

open Sessions

inductive Failure
  | valueError (message : String)
  /-- `ProxyAssignmentConflict`. -/
  | assignmentConflict (message : String)
  | integrityError
  deriving DecidableEq, Repr

/-- What a function returns; `missing` is `None`. -/
inductive Reply
  | missing
  | verdict (value : Bool)
  | account (record : Account)
  | proxy (record : Proxy)

abbrev Answer := Except Failure Reply

abbrev ProxyTransaction := Transaction Database RowLock Write Answer

def fail (failure : Failure) : ProxyTransaction := .ends (.error failure)

def reply (answer : Reply) : ProxyTransaction := .ends (.ok answer)

def proxyAssignmentOwner (database : Database) (proxyId accountId : String) : Option Account :=
  (database.boundAccount? proxyId).filter fun owner => owner.accountId ≠ accountId

def proxyAssignmentConflictMessage (proxy : Option Proxy) (owner : Account) : String :=
  let proxyName := proxy.elim (owner.proxyId.getD "None") Proxy.name
  "代理“" ++ proxyName ++ "”已绑定账户“" ++ owner.displayName ++ "”，请先解绑后再操作"

def requireAssignableProxy (proxyId accountId : String) (next : ProxyTransaction) :
    ProxyTransaction :=
  .locks (.proxy proxyId) fun database =>
    match database.proxy? proxyId with
    | none => fail (.valueError "proxy not found")
    | some proxy =>
        if !proxy.enabled then fail (.valueError "proxy is disabled")
        else
          .reads fun database =>
            match proxyAssignmentOwner database proxyId accountId with
            | some owner =>
                fail (.assignmentConflict (proxyAssignmentConflictMessage (some proxy) owner))
            | none => next

def commitAccountProxyChange (write : Write) (proxyId : Option String) (accountId : String)
    (record : Reply) : ProxyTransaction :=
  .commits write fun accepted =>
    if accepted then reply record
    else
      match proxyId with
      | none => fail .integrityError
      | some proxyId =>
          .reads fun database =>
            match proxyAssignmentOwner database proxyId accountId with
            | none => fail .integrityError
            | some owner =>
                .reads fun database =>
                  fail (.assignmentConflict
                    (proxyAssignmentConflictMessage (database.proxy? proxyId) owner))

structure AccountCreatePayload where
  remark : Option String := none
  cookie : String := ""
  enabled : Bool := true
  proxyId : Option String := none
  deriving DecidableEq, Repr

/-- `_create_account_sync`; the account id is a new one. -/
def createAccount (now : ℕ) (accountId : String) (payload : AccountCreatePayload)
    (cookieSource : String) : ProxyTransaction :=
  let row : Account :=
    { accountId := accountId
      remark := payload.remark
      cookie := payload.cookie
      enabled := payload.enabled
      proxyId := payload.proxyId
      cookieUpdatedAt := if payload.cookie ≠ "" then some now else none
      cookieUpdateSource := if payload.cookie ≠ "" then some cookieSource else none
      updatedAt := now }
  let commit :=
    commitAccountProxyChange (.insertAccount row) payload.proxyId accountId (.account row)
  match payload.proxyId with
  | none | some "" => commit
  | some proxyId => requireAssignableProxy proxyId accountId commit

/-- `AccountUpdatePayload`; a field that is `none` is not given. -/
structure AccountUpdatePayload where
  remark : Option (Option String) := none
  cookie : Option String := none
  enabled : Option Bool := none
  proxyId : Option (Option String) := none
  deriving DecidableEq, Repr

/-- The columns that `_update_account_sync` sets. -/
def accountChanges (now : ℕ) (loaded : Account) (payload : AccountUpdatePayload)
    (cookieSource : String) : AccountChanges :=
  let cookie := payload.cookie.bind (changed loaded.cookie)
  { remark := payload.remark.bind (changed loaded.remark)
    cookie := cookie
    cookieUpdatedAt := cookie.map fun _ => now
    cookieUpdateSource := cookie.map fun _ => cookieSource
    enabled := payload.enabled.bind (changed loaded.enabled)
    proxyId := payload.proxyId.bind (changed loaded.proxyId)
    updatedAt := now }

def updateAccount (now : ℕ) (accountId : String) (payload : AccountUpdatePayload)
    (cookieSource : String) : ProxyTransaction :=
  .reads fun database =>
    match database.account? accountId with
    | none => reply .missing
    | some loaded =>
        let changes := accountChanges now loaded payload cookieSource
        let row := loaded.write changes
        let commit := commitAccountProxyChange (.updateAccount accountId changes) row.proxyId
          accountId (.account row)
        match payload.proxyId with
        | none | some none | some (some "") => commit
        | some (some proxyId) => requireAssignableProxy proxyId accountId commit

def compareAndSetAccountCookie (now : ℕ) (accountId expectedCookie newCookie source : String)
    (proxyId : Option String) : ProxyTransaction :=
  .locks (.account accountId) fun database =>
    match database.account? accountId with
    | none => reply (.verdict false)
    | some loaded =>
        if loaded.cookie ≠ expectedCookie then reply (.verdict false)
        else
          let changes : AccountChanges :=
            { cookie := changed loaded.cookie newCookie
              cookieUpdatedAt := some now
              cookieUpdateSource := some source
              proxyId := (proxyId.map some).bind (changed loaded.proxyId)
              updatedAt := now }
          let commit := commitAccountProxyChange (.updateAccount accountId changes)
            (loaded.write changes).proxyId accountId (.verdict true)
          match changes.proxyId.getD none with
          | some proxyId => requireAssignableProxy proxyId accountId commit
          | none => if expectedCookie = newCookie then reply (.verdict true) else commit

/-- `ProxyUpdatePayload`; a field that is `none` is not given, or is `None` where
that makes no difference. -/
structure ProxyUpdatePayload where
  name : Option String := none
  enabled : Option (Option Bool) := none
  scheme : Option (Option Scheme) := none
  host : Option (Option String) := none
  port : Option (Option ℕ) := none
  username : Option (Option String) := none
  password : Option (Option String) := none
  deriving DecidableEq, Repr

/-- The first of the required fields that is given as `None`. -/
def ProxyUpdatePayload.nullField? (payload : ProxyUpdatePayload) : Option String :=
  if payload.enabled = some none then some "enabled"
  else if payload.scheme = some none then some "scheme"
  else if payload.host = some none then some "host"
  else if payload.port = some none then some "port"
  else none

/-- The columns that `_update_proxy_sync` sets; a probe of another connection says
nothing about this one. -/
def proxyChanges (now : ℕ) (loaded : Proxy) (payload : ProxyUpdatePayload) : ProxyChanges :=
  let changes : ProxyChanges :=
    { name := payload.name.bind (changed loaded.name)
      enabled := payload.enabled.join.bind (changed loaded.enabled)
      scheme := payload.scheme.join.bind (changed loaded.connection.scheme)
      host := payload.host.join.bind (changed loaded.connection.host)
      port := payload.port.join.bind (changed loaded.connection.port)
      username := payload.username.bind (changed loaded.connection.username)
      password := payload.password.bind (changed loaded.connection.password)
      updatedAt := now }
  if (loaded.write changes).connection = loaded.connection then changes
  else { changes with probe := some {} }

def updateProxy (now : ℕ) (proxyId : String) (payload : ProxyUpdatePayload) : ProxyTransaction :=
  .reads fun database =>
    match database.proxy? proxyId with
    | none => reply .missing
    | some loaded =>
        .reads fun database =>
          if payload.enabled = some (some false) && (database.boundAccount? proxyId).isSome then
            fail (.valueError "proxy is assigned to an account and cannot be disabled")
          else
            .reads fun database =>
              let duplicate := payload.name.any fun name =>
                database.proxies.rows.any fun proxy =>
                  proxy.name = name && proxy.proxyId.text ≠ proxyId
              if duplicate then fail (.valueError "proxy name already exists")
              else
                match payload.nullField? with
                | some field => fail (.valueError (field ++ " cannot be null"))
                | none =>
                    let changes := proxyChanges now loaded payload
                    .commits (.updateProxy proxyId changes) fun accepted =>
                      if accepted then reply (.proxy (loaded.write changes))
                      else fail .integrityError

def deleteProxy (proxyId : String) : ProxyTransaction :=
  .reads fun database =>
    match database.proxy? proxyId with
    | none => reply (.verdict false)
    | some _ =>
        .reads fun database =>
          if (database.boundAccount? proxyId).isSome then
            fail (.valueError "proxy is assigned to an account")
          else .commits (.deleteProxy proxyId) fun _ => reply (.verdict true)

inductive Call
  | createAccount (now : ℕ) (accountId : String) (payload : AccountCreatePayload)
      (cookieSource : String)
  | updateAccount (now : ℕ) (accountId : String) (payload : AccountUpdatePayload)
      (cookieSource : String)
  | compareAndSetAccountCookie (now : ℕ) (accountId expectedCookie newCookie source : String)
      (proxyId : Option String)
  | updateProxy (now : ℕ) (proxyId : String) (payload : ProxyUpdatePayload)
  | deleteProxy (proxyId : String)

def program : Call → ProxyTransaction
  | .createAccount now accountId payload cookieSource =>
      createAccount now accountId payload cookieSource
  | .updateAccount now accountId payload cookieSource =>
      updateAccount now accountId payload cookieSource
  | .compareAndSetAccountCookie now accountId expectedCookie newCookie source proxyId =>
      compareAndSetAccountCookie now accountId expectedCookie newCookie source proxyId
  | .updateProxy now proxyId payload => updateProxy now proxyId payload
  | .deleteProxy proxyId => deleteProxy proxyId

end XianyuAdmin.Proxies
