import XianyuAdmin.Cookies.AccountCookies
import XianyuAdmin.Proxies.ProxyRecords

/-!
# Importing a migrated account into the database

The preview of a staged migration looks for accounts with the same identity; the import
looks again and inserts the account, with its proxy if one is wanted, in one transaction.
Columns that neither of them reads are left out.
-/

namespace XianyuAdmin.Migrations

open XianyuAdmin.Python

structure StoredAccount extends Proxies.Account where
  platformUserId : Option String := none
  fingerprintSeed : Option ℤ := none

inductive AccountKey
  | id (accountId : String)
  | proxy (proxyId : String)
  | seed (fingerprintSeed : ℤ)
  deriving DecidableEq

def accountKeys (account : StoredAccount) : List AccountKey :=
  .id account.accountId :: ((account.proxyId.map AccountKey.proxy).toList ++
    (account.fingerprintSeed.map AccountKey.seed).toList)

structure Database where
  accounts : Table StoredAccount accountKeys
  proxies : Table Proxies.Proxy Proxies.proxyKeys

structure MigratedProxy where
  name : String
  connection : Proxies.Connection

structure MigratedAccount where
  remark : Option String := none
  platformUserId : Option String := none
  platformDisplayName : Option String := none
  cookie : String := ""
  fingerprintSeed : Option ℤ := none
  proxy : Option MigratedProxy := none

/-- The value of `unb` in a part of the cookie, as `MigratedAccount.cookie_user_id` reads
it. -/
def partUserId (part : List Char) : Option String :=
  match Cookies.parsePart part with
  | some (name, value) => if name = "unb" then stripOrNone value else none
  | none => none

def cookieUserId (cookie : String) : Option String :=
  (cookie.toList.splitOn ';').findSome? partUserId

/-- `unb=([^;]+)` at the start of a part. -/
def unbValue (part : List Char) : Option (List Char) :=
  if "unb=".toList.isPrefixOf part ∧ part.drop 4 ≠ [] then some (part.drop 4) else none

/-- `re.search(r"(?:^|;\s*)unb=([^;]+)", cookie)`, whose group is stripped. -/
def searchedUserId (cookie : String) : Option String :=
  let found :=
    match cookie.toList.splitOn ';' with
    | [] => none
    | first :: rest =>
        (first :: rest.map (List.dropWhile isSpace)).findSome? unbValue
  found.map fun value => strip (String.ofList value)

/-- The conflicts that `_account_migration_preview` reports for one account. -/
def accountConflicts (migrated : MigratedAccount) (account : StoredAccount) : List String :=
  let identity := orElse migrated.platformUserId (cookieUserId migrated.cookie)
  (if truthy identity ∧
      (identity = account.platformUserId ∨ identity = cookieUserId account.cookie) then
    ["该闲鱼账户已存在：" ++ account.displayName] else []) ++
  (if migrated.fingerprintSeed.isSome ∧ migrated.fingerprintSeed = account.fingerprintSeed then
    ["指纹 Seed 已被账户“" ++ account.displayName ++ "”使用"] else [])

/-- `preview.conflicts` -/
def previewConflicts (database : Database) (migrated : MigratedAccount) : List String :=
  (database.accounts.rows.flatMap (accountConflicts migrated)).eraseDups

/-- What the request asks for, once it is checked. -/
structure ImportPlan where
  migrated : MigratedAccount
  enabled : Bool
  proxy : Option MigratedProxy

/-- What the import draws: new ids and the clock. -/
structure Draws where
  accountId : String
  proxyId : Identifier
  now : ℕ

/-- `existing_id[:8]` -/
def shortId (accountId : String) : String := String.ofList (accountId.toList.take 8)

/-- `str(value or "").strip() or None` -/
def normalizedId (value : Option String) : Option String := stripOrNone (value.getD "")

def importedProxy (draws : Draws) (proxy : MigratedProxy) : Proxies.Proxy where
  proxyId := draws.proxyId
  name := proxy.name
  connection := proxy.connection
  updatedAt := draws.now

def importedAccount (draws : Draws) (plan : ImportPlan) (userId : Option String) :
    StoredAccount where
  accountId := draws.accountId
  remark := plan.migrated.remark
  platformDisplayName :=
    stripOrNone (String.ofList ((strip (plan.migrated.platformDisplayName.getD "")).toList.take 255))
  cookie := plan.migrated.cookie
  cookieUpdatedAt := if plan.migrated.cookie = "" then none else some draws.now
  cookieUpdateSource := if plan.migrated.cookie = "" then none else some "account_import"
  enabled := plan.enabled
  proxyId := plan.proxy.map fun _ => draws.proxyId.text
  updatedAt := draws.now
  platformUserId := userId
  fingerprintSeed := plan.migrated.fingerprintSeed

/-- The checks of `_import_migrated_account_sync`: the platform user of the new account, or
the text of a `ValueError`. -/
def checkImport (database : Database) (draws : Draws) (plan : ImportPlan) :
    Except String (Option String) :=
  let normalized :=
    normalizedId (orElse plan.migrated.platformUserId (cookieUserId plan.migrated.cookie))
  let searched := searchedUserId plan.migrated.cookie
  let userId := orElse normalized searched
  if truthy normalized ∧ truthy searched ∧ normalized ≠ searched then
    .error "迁移包 Cookie 与平台账户身份不一致"
  else
    match database.accounts.rows.find? fun account =>
        truthy userId && (userId = normalizedId account.platformUserId ||
          userId = searchedUserId account.cookie) with
    | some account => .error ("该闲鱼账户已经存在（内部账户 " ++ shortId account.accountId ++ "）")
    | none =>
        if plan.migrated.fingerprintSeed.isSome ∧ database.accounts.rows.any (fun account =>
            account.fingerprintSeed = plan.migrated.fingerprintSeed &&
              account.accountId ≠ draws.accountId) then
          .error "指纹 Seed 已被其他账户使用，请重新生成"
        else
          match plan.proxy with
          | some proxy =>
              if database.proxies.rows.any (fun row => row.name = proxy.name) then
                .error ("代理名称“" ++ proxy.name ++ "”已经存在")
              else .ok userId
          | none => .ok userId

def insertProxy (database : Database) (draws : Draws) (plan : ImportPlan) :
    Option (Table Proxies.Proxy Proxies.proxyKeys) :=
  match plan.proxy with
  | none => some database.proxies
  | some proxy => database.proxies.insert? (importedProxy draws proxy)

/-- `_import_migrated_account_sync`: the new account and the database, or the text of a
`ValueError`. -/
def importMigratedAccount (database : Database) (draws : Draws) (plan : ImportPlan) :
    Except String (StoredAccount × Database) :=
  match checkImport database draws plan with
  | .error text => .error text
  | .ok userId =>
      let account := importedAccount draws plan userId
      match insertProxy database draws plan, database.accounts.insert? account with
      | some proxies, some accounts => .ok (account, { accounts := accounts, proxies := proxies })
      | _, _ => .error "账户迁移数据与现有账户发生冲突"

def deleteAccount (database : Database) (accountId : String) : Database :=
  { database with accounts := database.accounts.delete fun account => account.accountId = accountId }

/-- `_delete_proxy_sync`; `none` is its `ValueError`. -/
def deleteProxy (database : Database) (proxyId : String) : Option Database :=
  if !database.proxies.rows.any fun proxy => proxy.proxyId.text = proxyId then some database
  else if database.accounts.rows.any fun account => account.proxyId = some proxyId then none
  else
    some { database with
      proxies := database.proxies.delete fun proxy => proxy.proxyId.text = proxyId }

variable {draws : Draws} {plan : ImportPlan} {account : StoredAccount}

theorem importMigratedAccount_eq_ok {database next : Database}
    (himport : importMigratedAccount database draws plan = .ok (account, next)) :
    ∃ userId, account = importedAccount draws plan userId ∧
      insertProxy database draws plan = some next.proxies ∧
      database.accounts.insert? account = some next.accounts := by
  unfold importMigratedAccount at himport
  split at himport
  · cases himport
  · rename_i userId _
    dsimp only at himport
    split at himport
    · rename_i proxies accounts hproxies haccounts
      cases himport
      exact ⟨userId, rfl, hproxies, haccounts⟩
    · cases himport

theorem find?_of_import {database next : Database}
    (himport : importMigratedAccount database draws plan = .ok (account, next)) :
    next.accounts.rows.find? (fun row => row.accountId = account.accountId) = some account := by
  obtain ⟨userId, haccount, -, haccounts⟩ := importMigratedAccount_eq_ok himport
  rw [Table.rows_of_insert? haccounts, List.find?_append]
  have hothers : database.accounts.rows.find? (fun row => row.accountId = account.accountId) =
      none := by
    refine List.find?_eq_none.mpr fun stored hstored hsame => ?_
    refine Table.noClash_of_insert? haccounts stored hstored (.id stored.accountId)
      List.mem_cons_self ?_
    rw [of_decide_eq_true hsame]
    exact List.mem_cons_self
  rw [hothers]
  simp

theorem deletions_of_import {database next : Database}
    (himport : importMigratedAccount database draws plan = .ok (account, next)) :
    deleteAccount next draws.accountId =
        { accounts := database.accounts, proxies := next.proxies } ∧
      (plan.proxy = none → next.proxies = database.proxies) ∧
      (plan.proxy.isSome → next.proxies ≠ database.proxies ∧
        deleteProxy { accounts := database.accounts, proxies := next.proxies }
          draws.proxyId.text = some database) := by
  obtain ⟨userId, rfl, hproxies, haccounts⟩ := importMigratedAccount_eq_ok himport
  refine ⟨?_, ?_, ?_⟩
  · have hdeleted : next.accounts.delete (fun account => account.accountId = draws.accountId) =
        database.accounts := by
      refine Table.delete_of_insert? haccounts (by simp [importedAccount]) ?_
      intro stored hsame hclash
      refine hclash (.id stored.accountId) List.mem_cons_self ?_
      rw [of_decide_eq_true hsame]
      exact List.mem_cons_self
    rw [deleteAccount, hdeleted]
  · intro hnone
    rw [insertProxy, hnone] at hproxies
    exact (Option.some.inj hproxies).symm
  · intro hsome
    obtain ⟨proxy, hproxy⟩ := Option.isSome_iff_exists.mp hsome
    rw [insertProxy, hproxy] at hproxies
    constructor
    · exact Table.ne_of_insert? hproxies
    · have hunbound : ¬ (database.accounts.rows.any fun account =>
          account.proxyId = some draws.proxyId.text) = true := by
        rw [List.any_eq_true]
        rintro ⟨stored, hstored, hbound⟩
        have hclash := Table.noClash_of_insert? haccounts stored hstored
        refine hclash (.proxy draws.proxyId.text) ?_ ?_
        · simp [accountKeys, of_decide_eq_true hbound]
        · simp [accountKeys, importedAccount, hproxy]
      have hdeleted : next.proxies.delete (fun proxy => proxy.proxyId.text = draws.proxyId.text) =
          database.proxies := by
        refine Table.delete_of_insert? hproxies (by simp [importedProxy]) ?_
        intro stored hsame hclash
        refine hclash (.id stored.proxyId.text) List.mem_cons_self ?_
        rw [of_decide_eq_true hsame]
        exact List.mem_cons_self
      have hstored : ¬ (!next.proxies.rows.any fun proxy =>
          proxy.proxyId.text = draws.proxyId.text) = true := by
        rw [Table.rows_of_insert? hproxies]
        simp [importedProxy]
      rw [deleteProxy, if_neg hstored, if_neg hunbound, hdeleted]

end XianyuAdmin.Migrations
