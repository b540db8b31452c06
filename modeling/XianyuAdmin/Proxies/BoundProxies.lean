import XianyuAdmin.Proxies.ProxyTransactions

/-!
# Bound proxies are enabled

The row lock that a binding takes keeps its proxy as it was found until the
binding is committed.  Nothing keeps an unbound proxy unbound between the look at
its account and the commit that disables it; such a commit is the only one that
can leave an account with a disabled proxy.
-/

namespace XianyuAdmin.Proxies

open Sessions Transition

def IsEnabled (database : Database) (proxyId : String) : Prop :=
  ∃ proxy ∈ database.proxies.rows, proxy.proxyId.text = proxyId ∧ proxy.enabled = true

def Usable (database : Database) : Prop :=
  ∀ account ∈ database.accounts.rows, ∀ proxyId, account.proxyId = some proxyId →
    IsEnabled database proxyId

def KeepsLocked (held : List RowLock) (before after : Database) : Prop :=
  ∀ proxyId, RowLock.proxy proxyId ∈ held → IsEnabled before proxyId → IsEnabled after proxyId

def DisablesUnbound (database : Database) : Write → Prop
  | .updateProxy proxyId changes =>
      changes.enabled = some false →
        ∀ account ∈ database.accounts.rows, account.proxyId ≠ some proxyId
  | _ => True

theorem KeepsLocked.refl (held : List RowLock) (database : Database) :
    KeepsLocked held database database :=
  fun _ _ henabled => henabled

theorem KeepsLocked.trans (held : List RowLock) (first second third : Database)
    (hleft : KeepsLocked held first second) (hright : KeepsLocked held second third) :
    KeepsLocked held first third :=
  fun proxyId hheld henabled => hright proxyId hheld (hleft proxyId hheld henabled)

variable {database : Database} {proxyId : String}

theorem isEnabled_of_proxy? {proxy : Proxy} (hproxy : database.proxy? proxyId = some proxy)
    (henabled : proxy.enabled = true) :
    IsEnabled database proxyId := by
  obtain ⟨hstored, hkey⟩ := Table.lookup_eq_some_iff.mp hproxy
  have hid : proxyId = proxy.proxyId.text := by simpa [proxyKeys] using hkey
  exact ⟨proxy, hstored, hid.symm, henabled⟩

def Write.binds : Write → Option String
  | .insertAccount account => account.proxyId
  | .updateAccount _ changes => changes.proxyId.getD none
  | .updateProxy .. | .deleteProxy _ => none

theorem isEnabled_of_applyWrite {before after : Database} {write : Write}
    (happly : applyWrite before write = some after) (henabled : IsEnabled before proxyId)
    (hkept : RowLock.proxy proxyId ∉ touches before write ∨
      ∃ changes, write = .updateProxy proxyId changes ∧ changes.enabled ≠ some false) :
    IsEnabled after proxyId := by
  obtain ⟨proxy, hstored, hid, hon⟩ := henabled
  cases write with
  | insertAccount account =>
      simp only [applyWrite] at happly
      split at happly
      · obtain ⟨accounts, -, rfl⟩ := Option.map_eq_some_iff.mp happly
        exact ⟨proxy, hstored, hid, hon⟩
      · cases happly
  | updateAccount accountId changes =>
      simp only [applyWrite] at happly
      split at happly
      · obtain ⟨accounts, -, rfl⟩ := Option.map_eq_some_iff.mp happly
        exact ⟨proxy, hstored, hid, hon⟩
      · cases happly
  | updateProxy updatedId changes =>
      simp only [applyWrite] at happly
      split at happly
      · obtain ⟨proxies, hupdate, rfl⟩ := Option.map_eq_some_iff.mp happly
        refine ⟨_, (Table.rows_of_update? hupdate).symm ▸ List.mem_map_of_mem hstored, ?_⟩
        split
        · rename_i hsame
          refine ⟨hid, ?_⟩
          rcases hkept with huntouched | ⟨other, hwrite, hon'⟩
          · simp [touches, ← hsame, hid] at huntouched
          · cases hwrite
            cases hvalue : changes.enabled with
            | none => simpa [Proxy.write, hvalue] using hon
            | some value =>
                cases value with
                | true => simp [Proxy.write, hvalue]
                | false => exact absurd hvalue hon'
        · exact ⟨hid, hon⟩
      · cases happly
  | deleteProxy deletedId =>
      cases happly
      refine ⟨proxy, Table.mem_delete_iff.mpr ⟨hstored, ?_⟩, hid, hon⟩
      rcases hkept with huntouched | ⟨other, hwrite, -⟩
      · have hother : proxyId ≠ deletedId := fun hsame => huntouched (by simp [touches, hsame])
        simp [hid, hother]
      · cases hwrite

theorem keepsLocked_of_applyWrite (held : List RowLock) (before : Database) (write : Write)
    (after : Database) (happly : applyWrite before write = some after)
    (hfree : ∀ row ∈ held, row ∉ touches before write) : KeepsLocked held before after :=
  fun _ hheld henabled => isEnabled_of_applyWrite happly henabled (.inl (hfree _ hheld))

theorem not_hasProxy_empty (database : Database) : hasProxy database (some "") = false := by
  have hnone : database.proxy? "" = none := by
    refine Table.lookup_eq_none_iff.mpr fun proxy _ hkey => ?_
    have hempty : "" = proxy.proxyId.text := by simpa [proxyKeys] using hkey
    exact proxy.proxyId.ne_empty hempty.symm
  simp [hasProxy, hnone]

theorem usable_of_applyWrite {before after : Database} {write : Write}
    (happly : applyWrite before write = some after) (husable : Usable before)
    (hbinds : ∀ proxyId, write.binds = some proxyId → proxyId = "" ∨ IsEnabled before proxyId)
    (hdisables : DisablesUnbound before write) : Usable after := by
  have hbound : ∀ proxyId, write.binds = some proxyId →
      hasProxy before (some proxyId) = true → IsEnabled before proxyId := by
    intro proxyId hbinding hexists
    rcases hbinds proxyId hbinding with rfl | henabled
    · rw [not_hasProxy_empty] at hexists
      cases hexists
    · exact henabled
  intro account haccount proxyId hproxy
  cases write with
  | insertAccount inserted =>
      simp only [applyWrite] at happly
      split at happly
      · rename_i hexists
        obtain ⟨accounts, hinsert, rfl⟩ := Option.map_eq_some_iff.mp happly
        rw [Table.rows_of_insert? hinsert] at haccount
        rcases List.mem_append.mp haccount with hold | hnew
        · exact husable account hold proxyId hproxy
        · rw [List.mem_singleton.mp hnew] at hproxy
          exact hbound proxyId hproxy (hproxy ▸ hexists)
      · cases happly
  | updateAccount accountId changes =>
      simp only [applyWrite] at happly
      split at happly
      · rename_i hexists
        obtain ⟨accounts, hupdate, rfl⟩ := Option.map_eq_some_iff.mp happly
        rw [Table.rows_of_update? hupdate] at haccount
        obtain ⟨stored, hstored, rfl⟩ := List.mem_map.mp haccount
        have hexists := (Bool.and_eq_true_iff.mp hexists).2
        split at hproxy
        · cases hchange : changes.proxyId with
          | none =>
              simp only [Account.write, hchange, Option.getD_none] at hproxy
              exact husable stored hstored proxyId hproxy
          | some bound =>
              simp only [Account.write, hchange, Option.getD_some] at hproxy
              subst hproxy
              rw [hchange, Option.getD_some] at hexists
              exact hbound proxyId (by simp [Write.binds, hchange]) hexists
        · exact husable stored hstored proxyId hproxy
      · cases happly
  | updateProxy updatedId changes =>
      have haccounts : after.accounts = before.accounts := by
        simp only [applyWrite] at happly
        split at happly
        · obtain ⟨proxies, -, rfl⟩ := Option.map_eq_some_iff.mp happly
          rfl
        · cases happly
      rw [haccounts] at haccount
      refine isEnabled_of_applyWrite happly (husable account haccount proxyId hproxy) ?_
      by_cases hother : proxyId = updatedId
      · subst hother
        exact .inr ⟨changes, rfl, fun hoff => hdisables hoff account haccount hproxy⟩
      · exact .inl (by simpa [touches] using hother)
  | deleteProxy deletedId =>
      have happlied := happly
      cases happly
      obtain ⟨stored, hstored, rfl⟩ := List.mem_map.mp haccount
      unfold Account.unbind at hproxy
      split at hproxy
      · cases hproxy
      · rename_i hother
        refine isEnabled_of_applyWrite happlied (husable stored hstored proxyId hproxy) (.inl ?_)
        have hne : proxyId ≠ deletedId := fun hsame => hother (hsame ▸ hproxy)
        simp [touches, hne]

abbrev IsReady (held : List RowLock) (database : Database) (rest : ProxyTransaction) : Prop :=
  Ready engine Usable KeepsLocked DisablesUnbound held database rest

theorem isReady_commitAccountProxyChange {held : List RowLock} {write : Write}
    {proxyId : Option String} {accountId : String} {record : Reply}
    (hbinds : ∀ bound, write.binds = some bound →
      bound = "" ∨ RowLock.proxy bound ∈ held ∧ IsEnabled database bound) :
    IsReady held database (commitAccountProxyChange write proxyId accountId record) := by
  intro later hrely husable hallowed
  cases happly : engine.apply later write with
  | some after =>
      refine ⟨usable_of_applyWrite happly husable (fun bound hbinding => ?_) hallowed, trivial⟩
      exact (hbinds bound hbinding).imp_right fun hlocked =>
        hrely bound hlocked.1 hlocked.2
  | none =>
      cases proxyId with
      | none => trivial
      | some proxyId =>
          intro second _ _
          cases howner : proxyAssignmentOwner second proxyId accountId with
          | none => simp [howner, fail, Ready]
          | some owner =>
              simp only [howner]
              exact fun _ _ _ => trivial

theorem isReady_requireAssignableProxy {held : List RowLock} {accountId : String}
    {next : ProxyTransaction}
    (hnext : ∀ later, IsEnabled later proxyId → IsReady (.proxy proxyId :: held) later next) :
    IsReady held database (requireAssignableProxy proxyId accountId next) := by
  intro locked _ _
  cases hproxy : locked.proxy? proxyId with
  | none => simp [hproxy, fail, Ready]
  | some proxy =>
      by_cases henabled : proxy.enabled = true
      · simp only [hproxy, henabled, Bool.not_true, Bool.false_eq_true, if_false]
        intro later hrely _
        have hon : IsEnabled later proxyId :=
          hrely proxyId List.mem_cons_self (isEnabled_of_proxy? hproxy henabled)
        cases howner : proxyAssignmentOwner later proxyId accountId with
        | none => simpa only [howner] using hnext later hon
        | some owner => simp [howner, fail, Ready]
      · simp [hproxy, henabled, fail, Ready]

theorem isReady_createAccount (database : Database) (now : ℕ) (accountId : String)
    (payload : AccountCreatePayload) (cookieSource : String) :
    IsReady [] database (createAccount now accountId payload cookieSource) := by
  unfold createAccount
  dsimp only
  split
  · rename_i hnone
    exact isReady_commitAccountProxyChange fun bound hbinding => by
      simp [Write.binds, hnone] at hbinding
  · rename_i hempty
    exact isReady_commitAccountProxyChange fun bound hbinding => by
      simp_all [Write.binds]
  · rename_i proxyId _ hproxy
    refine isReady_requireAssignableProxy fun later henabled =>
      isReady_commitAccountProxyChange fun bound hbinding => .inr ?_
    have hsame : proxyId = bound := Option.some.inj (hproxy.symm.trans hbinding)
    exact hsame ▸ ⟨List.mem_cons_self, henabled⟩

theorem binds_accountChanges {now : ℕ} {loaded : Account} {payload : AccountUpdatePayload}
    {cookieSource bound : String}
    (hbinding : (accountChanges now loaded payload cookieSource).proxyId.getD none =
      some bound) : payload.proxyId = some (some bound) := by
  cases hproxy : payload.proxyId with
  | none => simp [accountChanges, hproxy] at hbinding
  | some proxyId =>
      simp only [accountChanges, hproxy, Option.bind_some, changed] at hbinding
      split at hbinding
      · cases hbinding
      · exact congrArg some hbinding

theorem isReady_updateAccount (database : Database) (now : ℕ) (accountId : String)
    (payload : AccountUpdatePayload) (cookieSource : String) :
    IsReady [] database (updateAccount now accountId payload cookieSource) := by
  intro later _ _
  cases hloaded : later.account? accountId with
  | none => simp [hloaded, reply, Ready]
  | some loaded =>
      simp only [hloaded]
      split
      · rename_i hnone
        exact isReady_commitAccountProxyChange fun bound hbinding => by
          simp [binds_accountChanges hbinding] at hnone
      · rename_i hnone
        exact isReady_commitAccountProxyChange fun bound hbinding => by
          simp [binds_accountChanges hbinding] at hnone
      · rename_i hempty
        refine isReady_commitAccountProxyChange fun bound hbinding => .inl ?_
        have hsame := hempty.symm.trans (binds_accountChanges hbinding)
        exact (Option.some.inj (Option.some.inj hsame)).symm
      · rename_i proxyId _ hproxy
        refine isReady_requireAssignableProxy fun later henabled =>
          isReady_commitAccountProxyChange fun bound hbinding => .inr ?_
        have hsame := hproxy.symm.trans (binds_accountChanges hbinding)
        exact Option.some.inj (Option.some.inj hsame) ▸ ⟨List.mem_cons_self, henabled⟩

theorem isReady_compareAndSetAccountCookie (database : Database) (now : ℕ)
    (accountId expectedCookie newCookie source : String) (proxyId : Option String) :
    IsReady [] database
      (compareAndSetAccountCookie now accountId expectedCookie newCookie source proxyId) := by
  intro later _ _
  cases hloaded : later.account? accountId with
  | none => simp [hloaded, reply, Ready]
  | some loaded =>
      simp only [hloaded]
      split
      · trivial
      · split
        · rename_i assigned hassigned
          refine isReady_requireAssignableProxy fun later henabled =>
            isReady_commitAccountProxyChange fun bound hbinding => .inr ?_
          have hsame := Option.some.inj (hassigned.symm.trans hbinding)
          exact hsame ▸ ⟨List.mem_cons_self, henabled⟩
        · rename_i hnone
          split
          · trivial
          · exact isReady_commitAccountProxyChange fun bound hbinding => by
              cases hnone.symm.trans hbinding

theorem isReady_updateProxy (database : Database) (now : ℕ) (proxyId : String)
    (payload : ProxyUpdatePayload) : IsReady [] database (updateProxy now proxyId payload) := by
  intro first _ _
  cases hloaded : first.proxy? proxyId with
  | none => simp [hloaded, reply, Ready]
  | some loaded =>
      simp only [hloaded]
      intro second _ _
      dsimp only
      split
      · trivial
      · intro third _ _
        dsimp only
        split
        · trivial
        · split
          · trivial
          · intro last _ husable hallowed
            have hengine : engine.apply = applyWrite := rfl
            rw [hengine]
            cases happly : applyWrite last
                (.updateProxy proxyId (proxyChanges now loaded payload)) with
            | none => trivial
            | some after =>
                exact ⟨usable_of_applyWrite happly husable (by simp [Write.binds]) hallowed,
                  trivial⟩

theorem isReady_deleteProxy (database : Database) (proxyId : String) :
    IsReady [] database (deleteProxy proxyId) := by
  intro first _ _
  cases hloaded : first.proxy? proxyId with
  | none => simp [hloaded, reply, Ready]
  | some loaded =>
      simp only [hloaded]
      intro second _ _
      dsimp only
      split
      · trivial
      · intro last _ husable hallowed
        have hdeleted := @usable_of_applyWrite last _ (.deleteProxy proxyId) rfl husable
          (by simp [Write.binds]) hallowed
        exact ⟨hdeleted, trivial⟩

theorem isReady_program (call : Call) (database : Database) :
    IsReady [] database (program call) := by
  cases call with
  | createAccount now accountId payload cookieSource =>
      exact isReady_createAccount database now accountId payload cookieSource
  | updateAccount now accountId payload cookieSource =>
      exact isReady_updateAccount database now accountId payload cookieSource
  | compareAndSetAccountCookie now accountId expectedCookie newCookie source proxyId =>
      exact isReady_compareAndSetAccountCookie database now accountId expectedCookie newCookie
        source proxyId
  | updateProxy now proxyId payload => exact isReady_updateProxy database now proxyId payload
  | deleteProxy proxyId => exact isReady_deleteProxy database proxyId

structure ProxiesUsable (database : Database) : Prop where
  usable : Usable database
  exclusive : ∀ left ∈ database.accounts.rows, ∀ right ∈ database.accounts.rows, ∀ proxyId,
    left.proxyId = some proxyId → right.proxyId = some proxyId → left = right

theorem Usable.proxiesUsable (husable : Usable database) :
    ProxiesUsable database where
  usable := husable
  exclusive := by
    intro left hleft right hright proxyId hleftBound hrightBound
    have hleftKey : AccountKey.proxy proxyId ∈ accountKeys left := by
      simp [accountKeys, hleftBound]
    exact Table.eq_of_key hleft hright hleftKey (by simp [accountKeys, hrightBound])

abbrev ServiceState := State Database RowLock Write Answer Call

abbrev serviceStep : ServiceState → Label Call → ServiceState → Prop :=
  Sessions.step engine program

/-- In every interleaving in which a proxy is disabled only while it is not bound,
bound proxies stay usable and exclusive. -/
theorem proxiesUsable_of_run {start final : ServiceState} {labels : List (Label Call)}
    (hrun : Run (restrict serviceStep (commitsAllowed DisablesUnbound)) start labels final)
    (hstart : ProxiesUsable start.store) (hclosed : start.sessions = []) :
    ProxiesUsable final.store :=
  (good_of_run KeepsLocked.refl KeepsLocked.trans keepsLocked_of_applyWrite
    (fun call database _ => isReady_program call database) hrun hstart.usable
    hclosed).proxiesUsable

def unboundState : ServiceState where
  store :=
    { accounts := { rows := [{ accountId := "a1" }], unique := List.pairwise_singleton _ _ }
      proxies :=
        { rows :=
            [{ proxyId := ⟨"p1", by decide⟩
               name := "node"
               connection := { host := "127.0.0.1", port := 1080 } }]
          unique := List.pairwise_singleton _ _ } }
  sessions := []
  answered := []

def bindingCall : Call :=
  .updateAccount 1 "a1" { proxyId := some (some "p1") } "manual_update"

def disablingCall : Call := .updateProxy 1 "p1" { enabled := some (some false) }

theorem proxiesUsable_unboundState : ProxiesUsable unboundState.store := by
  refine Usable.proxiesUsable fun account haccount proxyId hproxy => ?_
  rw [List.mem_singleton.mp haccount] at hproxy
  cases hproxy

def bindingLabels : List (Label Call) :=
  [.begins 1 bindingCall, .advances 1, .advances 1, .advances 1, .advances 1]

/-- A binding that runs alone. -/
theorem proxiesUsable_of_binding :
    ∃ final : ServiceState, final.store.accounts.rows.map Account.proxyId = [some "p1"] ∧
      ProxiesUsable final.store := by
  have hfree : ∀ write, DisablesUnbound unboundState.store write := by
    intro write
    cases write with
    | updateProxy proxyId changes =>
        intro _ account haccount
        rw [List.mem_singleton.mp haccount]
        exact (Option.some_ne_none proxyId).symm
    | insertAccount | updateAccount | deleteProxy => trivial
  have hstep : ∀ {state next : ServiceState} {label : Label Call},
      state.store = unboundState.store → serviceStep state label next →
        restrict serviceStep (commitsAllowed DisablesUnbound) state label next :=
    fun hstore happly => ⟨commitsAllowed_of_forall (hstore ▸ hfree) _, happly⟩
  obtain ⟨final, hrun, hbound⟩ : ∃ final,
      Run (restrict serviceStep (commitsAllowed DisablesUnbound)) unboundState bindingLabels
        final ∧ final.store.accounts.rows.map Account.proxyId = [some "p1"] := by
    refine ⟨_, .cons (hstep rfl rfl) (.cons (hstep rfl rfl) (.cons (hstep rfl rfl)
      (.cons (hstep rfl rfl) (.cons (hstep rfl rfl) (.nil _))))), rfl⟩
  exact ⟨final, hbound, proxiesUsable_of_run hrun proxiesUsable_unboundState rfl⟩

def overtakenLabels : List (Label Call) :=
  [.begins 1 disablingCall, .advances 1, .advances 1, .advances 1,
    .begins 2 bindingCall, .advances 2, .advances 2, .advances 2, .advances 2, .advances 1]

theorem not_proxiesUsable_of_overtaken :
    ∃ final, Run serviceStep unboundState overtakenLabels final ∧
      ¬ProxiesUsable final.store := by
  refine ⟨_, run_ofPartial_iff.mpr rfl, fun husable => ?_⟩
  obtain ⟨proxy, hstored, -, hon⟩ := husable.usable _ List.mem_cons_self "p1" rfl
  rw [List.mem_singleton.mp hstored] at hon
  cases hon

end XianyuAdmin.Proxies
