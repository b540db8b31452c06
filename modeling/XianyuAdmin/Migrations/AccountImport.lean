import XianyuAdmin.Core.Returns
import XianyuAdmin.Migrations.ProfileInstall

/-!
# A migrated account is imported all or nothing

`import_account_migration` imports the rows of the account and of its proxy, installs
the profile and then starts, announces and registers the account.  Its handlers delete
the rows again.  They catch exceptions of the import and of the installation only, not a
cancellation and nothing that the later steps raise, and a profile whose staged directory
is gone is no exception at all.
-/

namespace XianyuAdmin.Migrations

open XianyuAdmin.Python
open XianyuAdmin.Procedure
open XianyuAdmin.Orders (Interruption WriteEnd)

/-- `AccountMigrationImportPayload` without its session id. -/
structure ImportRequest where
  importProxy : Bool
  enableAfterImport : Bool
  enableChatwootAfterImport : Bool

structure StagedMigration where
  account : MigratedAccount
  profile : Option Entries

inductive ThreadWait
  | awaited
  /-- The executor did not take the function. -/
  | refused (raised : RaisedException)
  | cancelled (performed : Bool)

structure ImportSteps where
  locked : Except Interruption Unit
  getSession : Except RaisedException StagedMigration
  listAccounts : Except Interruption Unit
  previewProxies : Except Interruption Unit
  browserAvailable : Bool
  listProxies : Except Interruption Unit
  /-- The validation of `ProxyCreatePayload` and `AccountCreatePayload`. -/
  validated : Except RaisedException Unit
  draws : Draws
  importEnd : WriteEnd
  installWait : ThreadWait
  install : InstallSteps
  deleteAccount : WriteEnd
  deleteProxy : WriteEnd
  getAccount : Except Interruption Unit
  start : Except Interruption Unit
  publish : Except Interruption Unit
  enqueue : Except Interruption Unit

def awaited {Value : Type} (result : Except Interruption Value) : Except Raised Value :=
  result.mapError .interrupted

/-- `get_session`, whose `AccountMigrationError` is answered with 410. -/
def stagedSession (steps : ImportSteps) : Except Raised StagedMigration :=
  match steps.getSession with
  | .ok staged => .ok staged
  | .error raised =>
      if raised.className = "AccountMigrationError" then .error (.http 410 raised.text)
      else .error (.ofException raised)

def readPreview (steps : ImportSteps) (staged : StagedMigration) : Except Raised Unit := do
  awaited steps.listAccounts
  if staged.account.proxy.isSome then awaited steps.previewProxies else .ok ()

def requestedProxy (request : ImportRequest) (steps : ImportSteps) (database : Database)
    (migrated : MigratedAccount) : Except Raised (Option MigratedProxy) :=
  match migrated.proxy with
  | none => .ok none
  | some proxy =>
      if request.importProxy then do
        awaited steps.listProxies
        if database.proxies.rows.any (fun row => row.name = proxy.name) then
          .error (.http 409 ("代理名称“" ++ proxy.name ++ "”已经存在，请关闭导入代理后重试"))
        else .ok (some proxy)
      else .ok none

def checkRequest (request : ImportRequest) (steps : ImportSteps) (database : Database) :
    Except Raised (StagedMigration × ImportPlan) := do
  awaited steps.locked
  let staged ← stagedSession steps
  readPreview steps staged
  let conflicts := previewConflicts database staged.account
  if conflicts ≠ [] then .error (.http 409 ("；".intercalate conflicts))
  else if request.enableAfterImport && staged.account.cookie = "" then
    .error (.http 409 "迁移包没有 Cookie，不能直接启用账户")
  else if request.enableAfterImport && !steps.browserAvailable then
    .error (.http 409 "目标平台缺少迁移账户使用的浏览器内核，请导入后安装内核再启用")
  else do
    let proxy ← requestedProxy request steps database staged.account
    steps.validated.mapError .ofException
    .ok (staged, { migrated := staged.account, enabled := request.enableAfterImport, proxy := proxy })

section Service

variable (request : ImportRequest) (steps : ImportSteps)

/-- `await store.import_migrated_account(…)`, bound to `created`. -/
def awaitImport (plan : ImportPlan) : ImportProcedure StoredAccount := do
  let state ← get
  match importMigratedAccount state.database steps.draws plan with
  | .error text =>
      match steps.importEnd with
      | .returned => throw (.interrupted (.exception "ValueError" text))
      | .interrupted _ interruption => throw (.interrupted interruption)
  | .ok (account, next) =>
      match steps.importEnd with
      | .returned => do
          set { state with database := next, created := some account }
          pure account
      | .interrupted committed interruption => do
          set (if committed then { state with database := next } else state)
          throw (.interrupted interruption)

/-- `await run_browser_blocking(install_profile, staged, created)` -/
def awaitInstall (profile : Option Entries) : ImportProcedure Unit :=
  match steps.installWait with
  | .awaited => do
      let _ ← installProfile steps.install profile
      pure ()
  | .refused raised => throw (.ofException raised)
  | .cancelled performed => do
      let state ← get
      set (if performed then (installProfile steps.install profile).after state else state)
      throw (.interrupted .cancelled)

/-- `await store.delete_account(created.account_id)` -/
def awaitDeleteAccount (created : StoredAccount) : ImportProcedure Unit := do
  let state ← get
  let deleted := { state with database := deleteAccount state.database created.accountId }
  match steps.deleteAccount with
  | .returned => set deleted
  | .interrupted committed interruption => do
      set (if committed then deleted else state)
      throw (.interrupted interruption)

/-- `await store.delete_proxy(imported_proxy_id)` -/
def awaitDeleteProxy (proxyId : String) : ImportProcedure Unit := do
  let state ← get
  match deleteProxy state.database proxyId with
  | none =>
      match steps.deleteProxy with
      | .returned => throw (.interrupted (.exception "ValueError" "proxy is assigned to an account"))
      | .interrupted _ interruption => throw (.interrupted interruption)
  | some next =>
      match steps.deleteProxy with
      | .returned => set { state with database := next }
      | .interrupted committed interruption => do
          set (if committed then { state with database := next } else state)
          throw (.interrupted interruption)

/-- `with suppress(ValueError)` -/
def suppressValueError (procedure : ImportProcedure Unit) : ImportProcedure Unit :=
  tryCatch procedure fun failure =>
    match failure with
    | .interrupted (.exception "ValueError" _) => pure ()
    | failure => throw failure

/-- The deletions of the handlers. -/
def cleanUp : ImportProcedure Unit := do
  let state ← get
  match state.created with
  | none => pure ()
  | some created => do
      awaitDeleteAccount steps created
      match created.proxyId with
      | none => pure ()
      | some proxyId => suppressValueError (awaitDeleteProxy steps proxyId)

/-- The exceptions that are answered with 409. -/
def conflictText : Raised → Option String
  | .interrupted (.exception className text) =>
      if className ∈ ["AccountMigrationError", "ProxyAssignmentConflict", "ValueError"] then
        some text
      else none
  | _ => none

/-- The two `except` clauses. -/
def handleFailure (failure : Raised) : ImportProcedure StoredAccount :=
  if failure.isException then do
    cleanUp steps
    match conflictText failure with
    | some text => throw (.http 409 text)
    | none => throw failure
  else throw failure

/-- The body of the `try`. -/
def importAndInstall (staged : StagedMigration) (plan : ImportPlan) :
    ImportProcedure StoredAccount := do
  let created ← awaitImport steps plan
  awaitInstall steps staged.profile
  pure created

def awaitStep (result : Except Interruption Unit) : ImportProcedure Unit :=
  answer (awaited result)

def awaitIf (requested : Bool) (result : Except Interruption Unit) : ImportProcedure Unit :=
  if requested then awaitStep result else pure ()

/-- The steps after the `try` statement. -/
def announce (created : StoredAccount) : ImportProcedure StoredAccount := do
  awaitStep steps.getAccount
  let state ← get
  match state.database.accounts.rows.find? (fun row => row.accountId = created.accountId) with
  | none => throw (.http 500 "导入后账户读取失败")
  | some latest => do
      awaitIf request.enableAfterImport steps.start
      awaitStep steps.publish
      awaitIf request.enableChatwootAfterImport steps.enqueue
      pure latest

def importAccountMigration : ImportProcedure StoredAccount := do
  let state ← get
  let (staged, plan) ← answer (checkRequest request steps state.database)
  let created ← tryCatch (importAndInstall steps staged plan) (handleFailure steps)
  announce request steps created

end Service

def Complete (request : ImportRequest) (staged : StagedMigration) (draws : Draws)
    (account : StoredAccount) (state : ImportState) : Prop :=
  account ∈ state.database.accounts.rows ∧ account.accountId = draws.accountId ∧
    (request.importProxy = true → staged.account.proxy.isSome →
      account.proxyId = some draws.proxyId.text ∧
        ∃ proxy ∈ state.database.proxies.rows, proxy.proxyId = draws.proxyId) ∧
    HasProfile staged.profile state.target

def Nothing (database : Database) (target : Option (List Path)) (state : ImportState) : Prop :=
  state.database = database ∧ state.target = target ∧ state.temporary = none

def AllOrNothing (request : ImportRequest) (steps : ImportSteps) (database : Database)
    (target : Option (List Path)) : Prop :=
  Ends (importAccountMigration request steps) { database := database, target := target }
    (fun account state => ∃ staged, steps.getSession = .ok staged ∧
      Complete request staged steps.draws account state)
    (fun _ => Nothing database target)

def CleansUp (steps : ImportSteps) (plan : ImportPlan) : Prop :=
  match plan.proxy with
  | none => steps.deleteAccount.takesEffect
  | some _ => steps.deleteAccount = .returned ∧ steps.deleteProxy.takesEffect

/-- None of the steps after the `try` statement raises. -/
def Announces (request : ImportRequest) (steps : ImportSteps) : Prop :=
  steps.getAccount = .ok () ∧ (request.enableAfterImport = true → steps.start = .ok ()) ∧
    steps.publish = .ok () ∧ (request.enableChatwootAfterImport = true → steps.enqueue = .ok ())

/-- Where the import is accepted: it was not committed and interrupted, and then, either
the profile is installed with every file and no later step raises, or the installation
raises and everything is removed again; it is not cancelled. -/
def Finishes (request : ImportRequest) (steps : ImportSteps) (plan : ImportPlan)
    (staged : StagedMigration) (target : Option (List Path)) : Prop :=
  match steps.importEnd, steps.installWait with
  | .interrupted committed _, _ => committed = false
  | .returned, .cancelled _ => False
  | .returned, .refused _ => CleansUp steps plan
  | .returned, .awaited =>
      (steps.install.Returns target staged.profile ∧ steps.install.Keeps target staged.profile ∧
        Announces request steps) ∨
      (¬ steps.install.Returns target staged.profile ∧
        steps.install.Removes target staged.profile ∧ CleansUp steps plan)

section Ends

variable {request : ImportRequest} {steps : ImportSteps} {database next : Database}
  {plan : ImportPlan} {staged : StagedMigration} {account : StoredAccount}
  {target : Option (List Path)} {state : ImportState}

theorem stagedSession_eq_ok (hsession : stagedSession steps = .ok staged) :
    steps.getSession = .ok staged := by
  unfold stagedSession at hsession
  split at hsession
  · cases hsession
    assumption
  · split at hsession <;> cases hsession

theorem requestedProxy_eq_ok {migrated : MigratedAccount} {proxy : Option MigratedProxy}
    (hproxy : requestedProxy request steps database migrated = .ok proxy) :
    proxy = if request.importProxy then migrated.proxy else none := by
  unfold requestedProxy at hproxy
  split at hproxy
  · rename_i hnone
    cases hproxy
    rw [hnone, ite_self]
  · rename_i requested hsome
    split at hproxy
    · rename_i himport
      cases hlist : awaited steps.listProxies with
      | error failure =>
          rw [hlist] at hproxy
          cases hproxy
      | ok value =>
          rw [hlist] at hproxy
          change (if _ then _ else _) = _ at hproxy
          split at hproxy
          · cases hproxy
          · cases hproxy
            rw [if_pos himport, hsome]
    · rename_i himport
      cases hproxy
      rw [if_neg himport]

theorem checkRequest_eq_ok (hcheck : checkRequest request steps database = .ok (staged, plan)) :
    steps.getSession = .ok staged ∧
      plan.proxy = if request.importProxy then staged.account.proxy else none := by
  rw [checkRequest] at hcheck
  obtain ⟨-, -, hcheck⟩ := head_of_bind_eq_ok hcheck
  obtain ⟨session, hsession, hcheck⟩ := head_of_bind_eq_ok hcheck
  obtain ⟨-, -, hcheck⟩ := head_of_bind_eq_ok hcheck
  dsimp only at hcheck
  split at hcheck
  · cases hcheck
  · split at hcheck
    · cases hcheck
    · split at hcheck
      · cases hcheck
      · obtain ⟨proxy, hproxy, hcheck⟩ := head_of_bind_eq_ok hcheck
        obtain ⟨-, -, hcheck⟩ := head_of_bind_eq_ok hcheck
        cases hcheck
        exact ⟨stagedSession_eq_ok hsession, requestedProxy_eq_ok hproxy⟩

theorem awaitDeleteAccount_ends :
    Ends (awaitDeleteAccount steps account) state
      (fun _ after => steps.deleteAccount = .returned ∧
        after = { state with database := deleteAccount state.database account.accountId })
      (fun _ after => steps.deleteAccount ≠ .returned ∧
        after = if steps.deleteAccount.takesEffect then
          { state with database := deleteAccount state.database account.accountId } else state) := by
  simp only [awaitDeleteAccount, ends_bind, ends_get]
  cases steps.deleteAccount with
  | returned => exact ⟨rfl, rfl⟩
  | interrupted committed interruption => exact ⟨by rintro ⟨⟩, rfl⟩

theorem awaitDeleteProxy_ends {proxyId : String} {deleted : Database}
    (hdelete : deleteProxy state.database proxyId = some deleted) :
    Ends (suppressValueError (awaitDeleteProxy steps proxyId)) state
      (fun _ after => after =
        if steps.deleteProxy.takesEffect then { state with database := deleted } else state)
      (fun _ after => after =
        if steps.deleteProxy.takesEffect then { state with database := deleted } else state) := by
  simp only [suppressValueError, awaitDeleteProxy, ends_tryCatch, ends_bind, ends_get, hdelete]
  cases steps.deleteProxy with
  | returned => rfl
  | interrupted committed interruption =>
      simp only [ends_bind, ends_set, ends_throw]
      split <;> rfl

/-- After an accepted import, the handlers leave the database as it was before exactly if
`CleansUp`, and the directories in any case. -/
theorem cleanUp_ends
    (himport : importMigratedAccount database steps.draws plan = .ok (account, next))
    (hdatabase : state.database = next) (hcreated : state.created = some account) :
    Ends (cleanUp steps) state
      (fun _ after => after.target = state.target ∧ after.temporary = state.temporary ∧
        (after.database = database ↔ CleansUp steps plan))
      (fun _ after => after.target = state.target ∧ after.temporary = state.temporary ∧
        (after.database = database ↔ CleansUp steps plan)) := by
  have hinserted : next.accounts ≠ database.accounts := by
    obtain ⟨userId, -, -, haccounts⟩ := importMigratedAccount_eq_ok himport
    exact Table.ne_of_insert? haccounts
  obtain ⟨hdeleted, hsame, hproxies⟩ := deletions_of_import himport
  obtain ⟨userId, rfl, -, -⟩ := importMigratedAccount_eq_ok himport
  have hid : (importedAccount steps.draws plan userId).accountId = steps.draws.accountId := rfl
  simp only [cleanUp, ends_bind, ends_get, hcreated]
  refine awaitDeleteAccount_ends.mono ?_ ?_
  · rintro - after ⟨hreturned, rfl⟩
    rw [hid, hdatabase, hdeleted]
    cases hproxy : plan.proxy with
    | none =>
        have hnone : (importedAccount steps.draws plan userId).proxyId = none := by
          simp [importedAccount, hproxy]
        simp only [hnone, ends_pure, CleansUp, hproxy, hreturned, WriteEnd.takesEffect]
        rw [hsame hproxy]
        simp
    | some proxy =>
        have hsome : (importedAccount steps.draws plan userId).proxyId =
            some steps.draws.proxyId.text := by
          simp [importedAccount, hproxy]
        have hfacts := hproxies (by rw [hproxy]; rfl)
        simp only [hsome, CleansUp, hproxy, hreturned]
        refine (awaitDeleteProxy_ends hfacts.2).mono ?_ ?_
        all_goals
          rintro - after rfl
          cases hends : steps.deleteProxy.takesEffect with
          | true => simp
          | false =>
              refine ⟨rfl, rfl, ?_⟩
              simp only [Bool.false_eq_true, if_false, and_false, iff_false]
              intro hdatabases
              have hkept := congrArg Database.proxies hdatabases
              exact hfacts.1 hkept
  · rintro failure after ⟨hinterrupted, rfl⟩
    rw [hid, hdatabase, hdeleted]
    cases hends : steps.deleteAccount.takesEffect with
    | false =>
        refine ⟨rfl, rfl, ?_⟩
        have hleft : state.database ≠ database := by
          intro hdatabases
          rw [hdatabase] at hdatabases
          exact hinserted (congrArg Database.accounts hdatabases)
        cases hproxy : plan.proxy <;> simp [CleansUp, hproxy, hends, hinterrupted, hleft]
    | true =>
        refine ⟨rfl, rfl, ?_⟩
        cases hproxy : plan.proxy with
        | none => simp [CleansUp, hproxy, hends, hsame hproxy]
        | some proxy =>
            have hfacts := hproxies (by rw [hproxy]; rfl)
            simp only [if_true, CleansUp, hproxy, hinterrupted, false_and, iff_false]
            intro hdatabases
            have hkept := congrArg Database.proxies hdatabases
            exact hfacts.1 hkept

theorem handleFailure_ends (target : Option (List Path)) {failure : Raised}
    (himport : importMigratedAccount database steps.draws plan = .ok (account, next))
    (hdatabase : state.database = next) (hcreated : state.created = some account)
    (hexception : failure.isException = true) :
    Ends (handleFailure steps failure) state (fun _ _ => False)
      (fun _ after => Nothing database target after ↔
        (state.target = target ∧ state.temporary = none) ∧ CleansUp steps plan) := by
  simp only [handleFailure, if_pos hexception, ends_bind]
  have hleft : ∀ after : ImportState, after.target = state.target ∧
      after.temporary = state.temporary ∧ (after.database = database ↔ CleansUp steps plan) →
      (Nothing database target after ↔
        (state.target = target ∧ state.temporary = none) ∧ CleansUp steps plan) := by
    rintro after ⟨htarget, htemporary, hclean⟩
    rw [Nothing, htarget, htemporary, hclean, and_comm]
  refine (cleanUp_ends himport hdatabase hcreated).mono (fun _ after hafter => ?_)
    fun _ after hafter => hleft after hafter
  cases conflictText failure <;> exact hleft after hafter

/-- Without an account there is nothing to delete. -/
theorem handleFailure_ends_of_none {failure : Raised} (hcreated : state.created = none) :
    Ends (handleFailure steps failure) state (fun _ _ => False) (fun _ after => after = state) := by
  rw [handleFailure]
  split
  · simp only [cleanUp, ends_bind, ends_get, hcreated, ends_pure]
    cases conflictText failure <;> rfl
  · rfl

/-- The `try` statement of an import that the database accepts: it returns with the account,
or nothing is left exactly if `Finishes`. -/
theorem importAndInstall_ends (request : ImportRequest)
    (himport : importMigratedAccount database steps.draws plan = .ok (account, next)) :
    Ends (tryCatch (importAndInstall steps staged plan) (handleFailure steps))
      { database := database, target := target }
      (fun created after => created = account ∧ after.database = next ∧
        (HasProfile staged.profile after.target ∧ Announces request steps ↔
          Finishes request steps plan staged target))
      (fun _ after => Nothing database target after ↔
        Finishes request steps plan staged target) := by
  have hinserted : next ≠ database := by
    obtain ⟨userId, -, -, haccounts⟩ := importMigratedAccount_eq_ok himport
    intro hsame
    exact Table.ne_of_insert? haccounts (congrArg Database.accounts hsame)
  simp only [importAndInstall, awaitImport, ends_tryCatch, ends_bind, ends_get, himport]
  cases hend : steps.importEnd with
  | interrupted committed interruption =>
      simp only [ends_bind, ends_set, ends_throw]
      refine (handleFailure_ends_of_none (by split <;> rfl)).mono (fun _ _ hfalse => hfalse.elim) ?_
      rintro - after rfl
      cases committed <;> simp [Nothing, Finishes, hend, hinserted]
  | returned =>
      simp only [ends_bind, ends_set, ends_pure, awaitInstall]
      cases hwait : steps.installWait with
      | refused raised =>
          simp only [ends_throw]
          refine (handleFailure_ends target himport rfl rfl rfl).mono
            (fun _ _ hfalse => hfalse.elim) ?_
          intro _ after hafter
          rw [hafter]
          simp [Finishes, hend, hwait]
      | cancelled performed =>
          simp only [ends_bind, ends_get, ends_set, ends_throw]
          have hinstall : Ends (installProfile steps.install staged.profile)
              { database := next, target := target, created := some account }
              (fun _ after => after.database = next) (fun _ after => after.database = next) :=
            (installProfile_ends rfl).mono (fun _ _ hreturned => hreturned.2.1)
              fun _ _ hraised => hraised.2.2.1
          have hinstalled := ends_after.mp hinstall
          refine iff_of_false (fun hnothing => hinserted ?_) (by simp [Finishes, hend, hwait])
          rw [← hnothing.1]
          cases performed with
          | true => exact hinstalled.symm
          | false => rfl
      | awaited =>
          simp only [ends_bind, ends_pure]
          refine (installProfile_ends rfl).mono ?_ ?_
          · rintro - after ⟨hreturns, hdatabase, -, hkeeps⟩
            refine ⟨trivial, hdatabase, ?_⟩
            rw [hkeeps]
            simp [Finishes, hend, hwait, hreturns]
          · rintro failure after ⟨hraises, hexception, hdatabase, hcreated, hremoves⟩
            refine (handleFailure_ends target himport hdatabase hcreated hexception).mono
              (fun _ _ hfalse => hfalse.elim) ?_
            intro _ last hlast
            rw [hlast, hremoves]
            simp [Finishes, hend, hwait, hraises]

theorem awaitStep_ends {result : Except Interruption Unit} :
    Ends (awaitStep result) state (fun _ after => after = state ∧ result = .ok ())
      (fun _ after => after = state ∧ result ≠ .ok ()) := by
  cases result with
  | error interruption => exact ⟨rfl, nofun⟩
  | ok value => exact ⟨rfl, rfl⟩

theorem awaitIf_ends {requested : Bool} {result : Except Interruption Unit} :
    Ends (awaitIf requested result) state
      (fun _ after => after = state ∧ (requested = true → result = .ok ()))
      (fun _ after => after = state ∧ ¬ (requested = true → result = .ok ())) := by
  cases requested with
  | false => exact ⟨rfl, nofun⟩
  | true =>
      refine awaitStep_ends.mono (fun _ after hafter => ⟨hafter.1, fun _ => hafter.2⟩)
        fun _ after hafter => ⟨hafter.1, fun hall => hafter.2 (hall rfl)⟩

/-- The steps after the `try` statement write nothing. -/
theorem announce_ends
    (hfound : state.database.accounts.rows.find? (fun row => row.accountId = account.accountId) =
      some account) :
    Ends (announce request steps account) state
      (fun latest after => latest = account ∧ after = state ∧ Announces request steps)
      (fun _ after => after = state ∧ ¬ Announces request steps) := by
  simp only [announce, ends_bind, ends_get]
  refine awaitStep_ends.mono ?_ fun _ after hafter => ⟨hafter.1, fun hall => hafter.2 hall.1⟩
  rintro - after ⟨rfl, hget⟩
  simp only [hfound, ends_bind]
  refine awaitIf_ends.mono ?_ fun _ last hlast => ⟨hlast.1, fun hall => hlast.2 hall.2.1⟩
  rintro - last ⟨rfl, hstart⟩
  refine awaitStep_ends.mono ?_ fun _ after hafter => ⟨hafter.1, fun hall => hafter.2 hall.2.2.1⟩
  rintro - after ⟨rfl, hpublish⟩
  refine awaitIf_ends.mono ?_ fun _ last hlast => ⟨hlast.1, fun hall => hlast.2 hall.2.2.2⟩
  rintro - last ⟨rfl, henqueue⟩
  exact ⟨rfl, rfl, hget, hstart, hpublish, henqueue⟩

theorem ends_of_rejected {text : String} {returns : StoredAccount → ImportState → Prop}
    (himport : importMigratedAccount database steps.draws plan = .error text) :
    Ends (tryCatch (importAndInstall steps staged plan) (handleFailure steps) >>=
        announce request steps)
      { database := database, target := target } returns
      (fun _ => Nothing database target) := by
  simp only [importAndInstall, awaitImport, ends_tryCatch, ends_bind, ends_get, himport]
  have hnothing : ∀ failure, Ends (handleFailure steps failure)
      { database := database, target := target }
      (fun created after => Ends (announce request steps created) after returns
        fun _ => Nothing database target)
      (fun _ => Nothing database target) := by
    intro failure
    refine (handleFailure_ends_of_none rfl).mono (fun _ _ hfalse => hfalse.elim) ?_
    rintro _ after rfl
    exact ⟨rfl, rfl, rfl⟩
  cases steps.importEnd with
  | returned =>
      simp only [ends_throw]
      exact hnothing _
  | interrupted committed interruption =>
      simp only [ends_throw]
      exact hnothing _

theorem complete_of_import
    (hproxy : plan.proxy = if request.importProxy then staged.account.proxy else none)
    (himport : importMigratedAccount database steps.draws plan = .ok (account, next))
    (hdatabase : state.database = next) :
    account ∈ state.database.accounts.rows ∧ account.accountId = steps.draws.accountId ∧
      (request.importProxy = true → staged.account.proxy.isSome →
        account.proxyId = some steps.draws.proxyId.text ∧
          ∃ proxy ∈ state.database.proxies.rows, proxy.proxyId = steps.draws.proxyId) := by
  obtain ⟨userId, rfl, hproxies, haccounts⟩ := importMigratedAccount_eq_ok himport
  rw [hdatabase]
  refine ⟨?_, rfl, fun hrequested hsome => ?_⟩
  · rw [Table.rows_of_insert? haccounts]
    exact List.mem_append_right _ List.mem_cons_self
  · obtain ⟨migrated, hmigrated⟩ := Option.isSome_iff_exists.mp hsome
    rw [if_pos hrequested, hmigrated] at hproxy
    rw [insertProxy, hproxy] at hproxies
    refine ⟨by simp [importedAccount, hproxy], importedProxy steps.draws migrated, ?_, rfl⟩
    rw [Table.rows_of_insert? hproxies]
    exact List.mem_append_right _ List.mem_cons_self

attribute [local irreducible] Procedure.Ends

theorem ends_of_accepted (hsession : steps.getSession = .ok staged)
    (hproxy : plan.proxy = if request.importProxy then staged.account.proxy else none)
    (himport : importMigratedAccount database steps.draws plan = .ok (account, next)) :
    Ends (tryCatch (importAndInstall steps staged plan) (handleFailure steps) >>=
        announce request steps)
      { database := database, target := target }
      (fun account state => ∃ staged, steps.getSession = .ok staged ∧
        Complete request staged steps.draws account state)
      (fun _ => Nothing database target) ↔
      Finishes request steps plan staged target := by
  refine Ends.iff ?_
  have hinserted : next ≠ database := by
    obtain ⟨userId, -, -, haccounts⟩ := importMigratedAccount_eq_ok himport
    intro hsame
    exact Table.ne_of_insert? haccounts (congrArg Database.accounts hsame)
  rw [ends_bind]
  refine (importAndInstall_ends request himport).mono ?_ fun _ _ hraised => hraised
  rintro created state ⟨rfl, hdatabase, hfinishes⟩
  have hfound := find?_of_import himport
  rw [← hdatabase] at hfound
  refine (announce_ends hfound).mono ?_ ?_
  · rintro latest after ⟨rfl, rfl, hannounces⟩
    rw [← hfinishes]
    have hrows := complete_of_import hproxy himport hdatabase
    constructor
    · rintro ⟨other, hother, -, -, -, hprofile⟩
      rw [hsession] at hother
      cases hother
      exact ⟨hprofile, hannounces⟩
    · rintro ⟨hprofile, -⟩
      exact ⟨staged, hsession, hrows.1, hrows.2.1, hrows.2.2, hprofile⟩
  · rintro _ after ⟨rfl, hannounces⟩
    rw [← hfinishes]
    refine iff_of_false (fun hnothing => hinserted ?_) fun hall => hannounces hall.2
    rw [← hdatabase, hnothing.1]

end Ends

def expiredImport : ImportSteps where
  locked := .ok ()
  getSession := .ok { account := {}, profile := some (.file "Cookies" .nil) }
  listAccounts := .ok ()
  previewProxies := .ok ()
  browserAvailable := true
  listProxies := .ok ()
  validated := .ok ()
  draws := { accountId := "account", proxyId := ⟨"proxy", by decide⟩, now := 0 }
  importEnd := .returned
  installWait := .awaited
  install :=
    { profileIsDir := false
      disk :=
        { listed := fun _ => false, copied := fun _ => false
          opened := fun _ => false, statted := fun _ => false }
      copyError := { className := "FileNotFoundError", text := "" }
      chmod := .ok ()
      rename := .ok ()
      prepareAccount := .ok ()
      removesTemporary := true
      removesTarget := true }
  deleteAccount := .returned
  deleteProxy := .returned
  getAccount := .ok ()
  start := .ok ()
  publish := .ok ()
  enqueue := .ok ()

end XianyuAdmin.Migrations
