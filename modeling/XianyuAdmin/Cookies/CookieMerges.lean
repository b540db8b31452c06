import XianyuAdmin.Cookies.AccountCookies
import XianyuAdmin.Core.Transition

/-!
# Concurrent cookie merges

Adapters merge the cookie updates of their responses into the stored cookie of an
account: they read it, overlay the updates and compare-and-set the result, three times
at most.  Other writers compare-and-set the cookie as well.  The awaits of all of them
interleave, and any of them may be interrupted, also after its transaction.
-/

namespace XianyuAdmin.Cookies

open XianyuAdmin.Python
open Transition

/-- `_compare_and_set_account_cookie_sync` without a new proxy: whether it returns `True`,
and the cookie it leaves; there is none if the account is not stored. -/
def compareAndSet (cookie : Option String) (expected new : String) : Bool × Option String :=
  if cookie = some expected then (true, some new) else (false, cookie)

inductive MergeError
  | accountNotFound
  | cookieConflict (text : String)
  /-- The await was cancelled, or the database failed. -/
  | interrupted (className : String)
  deriving DecidableEq, Repr

/-- Where a call of `merge_account_cookie_updates` stands; `attempts` are left, the current
one included. -/
inductive MergePhase
  | reads (attempts : ℕ)
  | swaps (attempts : ℕ) (expected merged : String)
  /-- The transaction of `compare_and_set_account_cookie` is done, its await is not. -/
  | swapped (attempts : ℕ) (accepted : Bool)
  | returned (changed : Bool)
  | raised (error : MergeError)
  deriving DecidableEq, Repr

/-- Up to the first await. -/
def beginMerge (updates : CookieMap) : MergePhase :=
  if cleanUpdates updates = [] then .returned false else .reads 3

def afterRead (updates : CookieMap) (attempts : ℕ) : Option String → MergePhase
  | none => .raised .accountNotFound
  | some cookie =>
      if changesIdentity (parseCookie cookie) updates then
        .raised (.cookieConflict "商品操作响应 Cookie 的 unb 与当前账户不一致")
      else
        let merged := serializeCookie (mergedCookies (parseCookie cookie) updates)
        if merged = cookie then .returned false else .swaps attempts cookie merged

def afterSwap (attempts : ℕ) (accepted : Bool) : MergePhase :=
  if accepted then .returned true
  else if attempts ≤ 1 then
    .raised (.cookieConflict "商品操作响应 Cookie 合并冲突，请刷新账户后重试")
  else .reads (attempts - 1)

structure MergeCall where
  updates : CookieMap
  phase : MergePhase

structure CookieWrite where
  writer : Option ℕ
  before : String
  after : String
  deriving DecidableEq, Repr

structure MergeState where
  cookie : Option String
  calls : ℕ → Option MergeCall
  writes : List CookieWrite

inductive MergeLabel
  | begins (id : ℕ) (updates : CookieMap)
  | reads (id : ℕ)
  | swaps (id : ℕ)
  | resumes (id : ℕ)
  | interrupts (id : ℕ) (className : String)
  | writes (expected new : String)

namespace MergeState

def initial (cookie : Option String) : MergeState where
  cookie := cookie
  calls := fun _ => none
  writes := []

variable (state : MergeState)

def setPhase (id : ℕ) (call : MergeCall) (phase : MergePhase) : MergeState :=
  { state with
    calls := Function.update state.calls id (some { call with phase := phase }) }

def write (writer : Option ℕ) (expected new : String) : MergeState :=
  { state with
    cookie := (compareAndSet state.cookie expected new).2
    writes :=
      if (compareAndSet state.cookie expected new).1 then
        state.writes ++ [{ writer := writer, before := expected, after := new }]
      else state.writes }

/-- The changes that a call has made. -/
def writesOf (id : ℕ) : List CookieWrite :=
  state.writes.filter fun entry => entry.writer = some id

end MergeState

/-- The call may still raise what interrupts it. -/
def MergePhase.isOpen : MergePhase → Bool
  | .reads _ | .swaps _ _ _ | .swapped _ _ => true
  | .returned _ | .raised _ => false

def applyMerge (state : MergeState) : MergeLabel → Option MergeState
  | .begins id updates =>
      if (state.calls id).isSome then none
      else
        some (state.setPhase id { updates := updates, phase := beginMerge updates }
          (beginMerge updates))
  | .reads id =>
      (state.calls id).bind fun call =>
        match call.phase with
        | .reads attempts =>
            some (state.setPhase id call (afterRead call.updates attempts state.cookie))
        | _ => none
  | .swaps id =>
      (state.calls id).bind fun call =>
        match call.phase with
        | .swaps attempts expected merged =>
            some ((state.write (some id) expected merged).setPhase id call
              (.swapped attempts (compareAndSet state.cookie expected merged).1))
        | _ => none
  | .resumes id =>
      (state.calls id).bind fun call =>
        match call.phase with
        | .swapped attempts accepted =>
            some (state.setPhase id call (afterSwap attempts accepted))
        | _ => none
  | .interrupts id className =>
      (state.calls id).bind fun call =>
        if call.phase.isOpen then
          some (state.setPhase id call (.raised (.interrupted className)))
        else none
  | .writes expected new => some (state.write none expected new)

def mergeStep : MergeState → MergeLabel → MergeState → Prop := ofPartial applyMerge

def updatesStorable (_ : MergeState) : MergeLabel → Prop
  | .begins _ updates => ∀ entry ∈ updates.entries, Storable entry
  | _ => True

def Overlays (updates : CookieMap) (write : CookieWrite) : Prop :=
  parseCookie write.after = mergedCookies (parseCookie write.before) updates ∧
    changesIdentity (parseCookie write.before) updates = false

def CallFits (call : MergeCall) (writes : List CookieWrite) : Prop :=
  match call.phase with
  | .reads _ | .swapped _ false | .returned false | .raised .accountNotFound
  | .raised (.cookieConflict _) => writes = []
  | .swaps _ expected merged =>
      writes = [] ∧
        merged = serializeCookie (mergedCookies (parseCookie expected) call.updates) ∧
        changesIdentity (parseCookie expected) call.updates = false
  | .swapped _ true | .returned true => ∃ write, writes = [write] ∧ Overlays call.updates write
  | .raised (.interrupted _) =>
      writes = [] ∨ ∃ write, writes = [write] ∧ Overlays call.updates write

/-- The changes lead from one cookie to the other. -/
def Chained : Option String → List CookieWrite → Option String → Prop
  | cookie, [], final => final = cookie
  | cookie, write :: rest, final =>
      cookie = some write.before ∧ Chained (some write.after) rest final

variable {start : Option String} {state : MergeState} {call : MergeCall}

theorem Chained.append {middle : Option String} {writes : List CookieWrite}
    (hchained : Chained start writes middle) {write : CookieWrite}
    (hbefore : middle = some write.before) :
    Chained start (writes ++ [write]) (some write.after) := by
  induction writes generalizing start with
  | nil =>
      cases hchained
      exact ⟨hbefore, rfl⟩
  | cons first rest ih => exact ⟨hchained.1, ih hchained.2⟩

structure MergesFit (start : Option String) (state : MergeState) : Prop where
  chained : Chained start state.writes state.cookie
  fresh : ∀ id, state.calls id = none → state.writesOf id = []
  storable : ∀ id call, state.calls id = some call →
    ∀ entry ∈ call.updates.entries, Storable entry
  calls : ∀ id call, state.calls id = some call → CallFits call (state.writesOf id)

theorem chained_write (hchained : Chained start state.writes state.cookie) (writer : Option ℕ)
    (expected new : String) :
    Chained start (state.write writer expected new).writes
      (state.write writer expected new).cookie := by
  unfold MergeState.write compareAndSet
  dsimp only
  split
  · rename_i hcurrent
    exact hchained.append hcurrent
  · exact hchained

theorem writesOf_write (state : MergeState) (writer : Option ℕ) (expected new : String)
    (id : ℕ) :
    (state.write writer expected new).writesOf id =
      if (compareAndSet state.cookie expected new).1 ∧ writer = some id then
        state.writesOf id ++ [{ writer := writer, before := expected, after := new }]
      else state.writesOf id := by
  unfold MergeState.writesOf MergeState.write
  cases haccepted : (compareAndSet state.cookie expected new).1 with
  | false => simp
  | true =>
      by_cases hwriter : writer = some id
      · simp [hwriter, List.filter_append]
      · simp [hwriter, List.filter_append]

theorem MergesFit.continue {changed : MergeState} (hfit : MergesFit start state) {id : ℕ}
    {phase : MergePhase} (hchained : Chained start changed.writes changed.cookie)
    (hcalls : changed.calls = state.calls)
    (hothers : ∀ other, other ≠ id → changed.writesOf other = state.writesOf other)
    (hstorable : ∀ entry ∈ call.updates.entries, Storable entry)
    (hphase : CallFits { call with phase := phase } (changed.writesOf id)) :
    MergesFit start (changed.setPhase id call phase) := by
  have hself : (changed.setPhase id call phase).calls id =
      some { call with phase := phase } := by
    simp [MergeState.setPhase]
  have hother : ∀ other, other ≠ id →
      (changed.setPhase id call phase).calls other = state.calls other := by
    intro other hid
    simp [MergeState.setPhase, hid, hcalls]
  have hwrites : ∀ other, (changed.setPhase id call phase).writesOf other =
      changed.writesOf other := fun _ => rfl
  refine ⟨hchained, fun other hnone => ?_, fun other found hfound => ?_,
    fun other found hfound => ?_⟩
  · by_cases hid : other = id
    · rw [hid, hself] at hnone
      cases hnone
    · rw [hwrites, hothers other hid]
      exact hfit.fresh other (hother other hid ▸ hnone)
  · by_cases hid : other = id
    · rw [hid, hself] at hfound
      cases hfound
      exact hstorable
    · exact hfit.storable other found (hother other hid ▸ hfound)
  · by_cases hid : other = id
    · subst hid
      rw [hself] at hfound
      cases hfound
      exact hphase
    · rw [hwrites, hothers other hid]
      exact hfit.calls other found (hother other hid ▸ hfound)

theorem MergesFit.setPhase (hfit : MergesFit start state) {id : ℕ} {phase : MergePhase}
    (hstorable : ∀ entry ∈ call.updates.entries, Storable entry)
    (hphase : CallFits { call with phase := phase } (state.writesOf id)) :
    MergesFit start (state.setPhase id call phase) :=
  hfit.continue hfit.chained rfl (fun _ _ => rfl) hstorable hphase

theorem callFits_beginMerge (updates : CookieMap) :
    CallFits { updates := updates, phase := beginMerge updates } [] := by
  unfold CallFits beginMerge
  by_cases hempty : cleanUpdates updates = []
  · simp [hempty]
  · simp [hempty]

theorem callFits_afterRead (updates : CookieMap) (attempts : ℕ) (cookie : Option String) :
    CallFits { updates := updates, phase := afterRead updates attempts cookie } [] := by
  cases cookie with
  | none => exact rfl
  | some cookie =>
      unfold CallFits afterRead
      dsimp only
      cases hidentity : changesIdentity (parseCookie cookie) updates with
      | true => simp
      | false =>
          simp only [Bool.false_eq_true, if_false]
          by_cases hsame :
              serializeCookie (mergedCookies (parseCookie cookie) updates) = cookie
          · simp [hsame]
          · simp [hsame, hidentity]

theorem MergesFit.step {next : MergeState} {label : MergeLabel} (hfit : MergesFit start state)
    (hstep : restrict mergeStep updatesStorable state label next) : MergesFit start next := by
  obtain ⟨hallowed, happly⟩ := hstep
  cases label with
  | begins id updates =>
      simp only [mergeStep, ofPartial, applyMerge] at happly
      split at happly
      · cases happly
      · rename_i hnew
        cases happly
        have hnone : state.writesOf id = [] := hfit.fresh id (by simpa using hnew)
        refine hfit.setPhase hallowed ?_
        rw [hnone]
        exact callFits_beginMerge updates
  | reads id =>
      obtain ⟨call, hcall, hread⟩ := Option.bind_eq_some_iff.mp happly
      have hnone := hfit.calls id call hcall
      unfold CallFits at hnone
      split at hread
      · rename_i attempts hphase
        rw [hphase] at hnone
        cases hread
        refine hfit.setPhase (hfit.storable id call hcall) ?_
        rw [hnone]
        exact callFits_afterRead call.updates attempts state.cookie
      · cases hread
  | swaps id =>
      obtain ⟨call, hcall, hswap⟩ := Option.bind_eq_some_iff.mp happly
      have hcallFits := hfit.calls id call hcall
      unfold CallFits at hcallFits
      split at hswap
      · rename_i attempts expected merged hphase
        rw [hphase] at hcallFits
        obtain ⟨hnone, hmerged, hidentity⟩ := hcallFits
        cases hswap
        have hstorable := hfit.storable id call hcall
        refine hfit.continue (chained_write hfit.chained _ _ _) rfl (fun other hother => ?_)
          hstorable ?_
        · rw [writesOf_write, if_neg]
          exact fun h => hother (Option.some.inj h.2).symm
        · rw [writesOf_write, hnone]
          unfold CallFits
          cases haccepted : (compareAndSet state.cookie expected merged).1 with
          | false => simp
          | true =>
              refine ⟨{ writer := some id, before := expected, after := merged }, by simp,
                ?_, hidentity⟩
              rw [hmerged]
              exact parse_serialize_merged expected hstorable
      · cases hswap
  | resumes id =>
      obtain ⟨call, hcall, hresume⟩ := Option.bind_eq_some_iff.mp happly
      have hcallFits := hfit.calls id call hcall
      unfold CallFits at hcallFits
      split at hresume
      · rename_i attempts accepted hphase
        rw [hphase] at hcallFits
        cases hresume
        refine hfit.setPhase (hfit.storable id call hcall) ?_
        unfold CallFits afterSwap
        cases accepted with
        | true => exact hcallFits
        | false =>
            by_cases hlast : attempts ≤ 1
            · simpa [hlast] using hcallFits
            · simpa [hlast] using hcallFits
      · cases hresume
  | interrupts id className =>
      obtain ⟨call, hcall, hinterrupt⟩ := Option.bind_eq_some_iff.mp happly
      have hcallFits := hfit.calls id call hcall
      split at hinterrupt
      · rename_i hopen
        cases hinterrupt
        refine hfit.setPhase (hfit.storable id call hcall) ?_
        unfold CallFits at hcallFits ⊢
        cases hphase : call.phase with
        | reads attempts =>
            rw [hphase] at hcallFits
            exact .inl hcallFits
        | swaps attempts expected merged =>
            rw [hphase] at hcallFits
            exact .inl hcallFits.1
        | swapped attempts accepted =>
            rw [hphase] at hcallFits
            cases accepted with
            | true => exact .inr hcallFits
            | false => exact .inl hcallFits
        | returned changed => simp [hphase, MergePhase.isOpen] at hopen
        | raised error => simp [hphase, MergePhase.isOpen] at hopen
      · cases hinterrupt
  | writes expected new =>
      cases happly
      have hsame : ∀ id, (state.write none expected new).writesOf id = state.writesOf id := by
        intro id
        rw [writesOf_write, if_neg]
        exact fun h => by cases h.2
      exact ⟨chained_write hfit.chained _ _ _, fun id hnone => by rw [hsame, hfit.fresh id hnone],
        hfit.storable, fun id call hcall => by rw [hsame]; exact hfit.calls id call hcall⟩

/-- What the merges of a run that began with the cookie `start` have done to it. -/
structure CookieKept (start : Option String) (state : MergeState) : Prop where
  chained : Chained start state.writes state.cookie
  /-- A call that returned `True` changed the cookie once, to the overlay of the cookie
  that was stored then. -/
  changed : ∀ id call, state.calls id = some call → call.phase = .returned true →
    ∃ write, state.writesOf id = [write] ∧
      parseCookie write.after = mergedCookies (parseCookie write.before) call.updates ∧
      ∀ name, (nonEmptyUpdates call.updates).get? name = none →
        (parseCookie write.after).get? name = (parseCookie write.before).get? name
  /-- A call that returned `False`, or raised an error of its own, changed nothing. -/
  unchanged : ∀ id call, state.calls id = some call →
    call.phase = .returned false ∨ call.phase = .raised .accountNotFound ∨
      (∃ text, call.phase = .raised (.cookieConflict text)) →
    state.writesOf id = []
  interrupted : ∀ id call className, state.calls id = some call →
    call.phase = .raised (.interrupted className) →
    state.writesOf id = [] ∨ ∃ write, state.writesOf id = [write] ∧
      parseCookie write.after = mergedCookies (parseCookie write.before) call.updates
  identity : ∀ id, ∀ write ∈ state.writesOf id, ∀ unb, unb ≠ "" →
    (parseCookie write.before).get? "unb" = some unb →
    (parseCookie write.after).get? "unb" = some unb

theorem Overlays.kept {updates : CookieMap} {write : CookieWrite}
    (hoverlays : Overlays updates write) {name : String}
    (hnone : (nonEmptyUpdates updates).get? name = none) :
    (parseCookie write.after).get? name = (parseCookie write.before).get? name := by
  rw [hoverlays.1, get?_mergedCookies_of_none hnone]

theorem CallFits.overlays {writes : List CookieWrite} (hfits : CallFits call writes) :
    ∀ write ∈ writes, Overlays call.updates write := by
  intro write hwrite
  have hsingle : (∃ other, writes = [other] ∧ Overlays call.updates other) →
      Overlays call.updates write := by
    rintro ⟨other, rfl, hoverlays⟩
    rw [List.mem_singleton.mp hwrite]
    exact hoverlays
  have hempty : writes = [] → Overlays call.updates write := by
    rintro rfl
    cases hwrite
  unfold CallFits at hfits
  split at hfits
  · exact hempty hfits
  · exact hempty hfits
  · exact hempty hfits
  · exact hempty hfits
  · exact hempty hfits
  · exact hempty hfits.1
  · exact hsingle hfits
  · exact hsingle hfits
  · exact hfits.elim hempty hsingle

theorem MergesFit.kept (hfit : MergesFit start state) : CookieKept start state where
  chained := hfit.chained
  changed := by
    intro id call hcall hphase
    have hfits := hfit.calls id call hcall
    unfold CallFits at hfits
    rw [hphase] at hfits
    obtain ⟨write, hwrites, hoverlays⟩ := hfits
    exact ⟨write, hwrites, hoverlays.1, fun name => hoverlays.kept⟩
  unchanged := by
    intro id call hcall hphase
    have hfits := hfit.calls id call hcall
    unfold CallFits at hfits
    rcases hphase with hphase | hphase | ⟨text, hphase⟩
    · rw [hphase] at hfits
      exact hfits
    · rw [hphase] at hfits
      exact hfits
    · rw [hphase] at hfits
      exact hfits
  interrupted := by
    intro id call className hcall hphase
    have hfits := hfit.calls id call hcall
    unfold CallFits at hfits
    rw [hphase] at hfits
    refine hfits.imp (fun hnone => hnone) ?_
    rintro ⟨write, hwrites, hoverlays⟩
    exact ⟨write, hwrites, hoverlays.1⟩
  identity := by
    intro id write hwrite unb hne hunb
    cases hcall : state.calls id with
    | none =>
        rw [hfit.fresh id hcall] at hwrite
        cases hwrite
    | some call =>
        obtain ⟨hafter, hidentity⟩ := (hfit.calls id call hcall).overlays write hwrite
        rw [hafter]
        exact unb_mergedCookies hidentity hne hunb

/-- In every run of merges and other writers, each merge that succeeds overlays the cookie
that is stored at that moment with its updates, one that fails changes nothing, and the
identity stays. -/
theorem cookie_kept_of_run {start : Option String} {labels : List MergeLabel}
    {final : MergeState}
    (hrun : Run (restrict mergeStep updatesStorable) (.initial start) labels final) :
    CookieKept start final := by
  have hinitial : MergesFit start (.initial start) :=
    ⟨rfl, fun _ _ => rfl, (fun _ _ h => by cases h), fun _ _ h => by cases h⟩
  exact (hrun.invariant (MergesFit start) (fun _ _ _ hfit hstep => hfit.step hstep)
    hinitial).kept

def oneUpdate : CookieMap := Dict.ofEntries [("a", "2")]

theorem stripped_singleton {char : Char} (hchar : isSpace char = false) : Stripped [char] := by
  constructor
  · intro first hfirst
    cases hfirst
    exact hchar
  · intro last hlast
    cases hlast
    exact hchar

theorem oneUpdate_storable : ∀ entry ∈ oneUpdate.entries, Storable entry := by
  intro entry hentry
  obtain rfl : entry = ("a", "2") := List.mem_singleton.mp hentry
  exact ⟨by decide, by decide, stripped_singleton (by decide), by decide,
    stripped_singleton (by decide)⟩

def mergingState (cookie : String) (writes : List CookieWrite) (phase : MergePhase) :
    MergeState where
  cookie := some cookie
  calls := Function.update (fun _ => none) 0 (some { updates := oneUpdate, phase := phase })
  writes := writes

def oneWrite : CookieWrite where
  writer := some 0
  before := "unb=1"
  after := "unb=1; a=2"

theorem afterRead_oneUpdate :
    afterRead oneUpdate 3 (some "unb=1") = .swaps 3 "unb=1" "unb=1; a=2" := by decide

theorem setPhase_mergingState (cookie : String) (writes : List CookieWrite)
    (before after : MergePhase) :
    (mergingState cookie writes before).setPhase 0 { updates := oneUpdate, phase := before }
      after = mergingState cookie writes after := by
  simp [mergingState, MergeState.setPhase]

theorem run_to_swapped :
    Run (restrict mergeStep updatesStorable) (.initial (some "unb=1"))
      [.begins 0 oneUpdate, .reads 0, .swaps 0]
      (mergingState "unb=1; a=2" [oneWrite] (.swapped 3 true)) := by
  have hbegins : applyMerge (.initial (some "unb=1")) (.begins 0 oneUpdate) =
      some (mergingState "unb=1" [] (.reads 3)) := rfl
  have hreads : applyMerge (mergingState "unb=1" [] (.reads 3)) (.reads 0) =
      some (mergingState "unb=1" [] (.swaps 3 "unb=1" "unb=1; a=2")) := by
    rw [← afterRead_oneUpdate]
    exact congrArg some (setPhase_mergingState ..)
  have hswaps : applyMerge (mergingState "unb=1" [] (.swaps 3 "unb=1" "unb=1; a=2"))
      (.swaps 0) = some (mergingState "unb=1; a=2" [oneWrite] (.swapped 3 true)) :=
    congrArg some (setPhase_mergingState ..)
  exact .cons ⟨oneUpdate_storable, hbegins⟩
    (.cons ⟨trivial, hreads⟩ (.cons ⟨trivial, hswaps⟩ (.nil _)))

/-- The call returns, and its cookie is kept. -/
theorem returned_merge_kept :
    CookieKept (some "unb=1") (mergingState "unb=1; a=2" [oneWrite] (.returned true)) := by
  have hresumes : restrict mergeStep updatesStorable
      (mergingState "unb=1; a=2" [oneWrite] (.swapped 3 true)) (.resumes 0)
      (mergingState "unb=1; a=2" [oneWrite] (.returned true)) :=
    ⟨trivial, congrArg some (setPhase_mergingState ..)⟩
  exact cookie_kept_of_run
    (run_append_iff.mpr ⟨_, run_to_swapped, .cons hresumes (.nil _)⟩)

/-- A call that is cancelled while it awaits its compare-and-set raises, and has changed the
cookie. -/
theorem cancelled_merge_changes_cookie :
    ¬ ∀ (start : Option String) (labels : List MergeLabel) (final : MergeState),
      Run (restrict mergeStep updatesStorable) (.initial start) labels final →
      ∀ id call error, final.calls id = some call → call.phase = .raised error →
        final.writesOf id = [] := by
  intro hunchanged
  have hcancelled : restrict mergeStep updatesStorable
      (mergingState "unb=1; a=2" [oneWrite] (.swapped 3 true))
      (.interrupts 0 "CancelledError")
      (mergingState "unb=1; a=2" [oneWrite] (.raised (.interrupted "CancelledError"))) :=
    ⟨trivial, congrArg some (setPhase_mergingState ..)⟩
  have hnone := hunchanged (some "unb=1") _ _
    (run_append_iff.mpr ⟨_, run_to_swapped, .cons hcancelled (.nil _)⟩)
    0 { updates := oneUpdate, phase := .raised (.interrupted "CancelledError") }
    (.interrupted "CancelledError") (by simp [mergingState]) rfl
  exact absurd hnone (by decide)

end XianyuAdmin.Cookies
