import XianyuAdmin.Core.Transition
import XianyuAdmin.Products.RepeatedSync

/-!
# The schedule of the product syncs

The scheduler lists the settings whose time has come, enqueues their runs and puts the times
off.  The settings are also written by the administrator and by the runs, and each write that
touches a schedule computes its time anew.
-/

namespace XianyuAdmin.Products

open XianyuAdmin.Python XianyuAdmin.Transition

def minutes (count : ℕ) : ℕ := seconds (60 * count)

/-- `random.randint(0, bound)`; every answer is the one to some `draw`. -/
def randint (bound draw : ℕ) : ℕ := min draw bound

/-- `_next_polish`; Shanghai is eight hours ahead of UTC. -/
def SyncSetting.nextPolish (now draw : ℕ) (setting : SyncSetting) : Option ℕ :=
  if setting.autoPolishEnabled then
    let current := now + minutes 480
    let target := current / minutes 1440 * minutes 1440 + minutes (60 * min 23 setting.polishHour) +
      minutes (randint setting.polishJitterMinutes draw)
    some ((if target ≤ current then target + minutes 1440 else target) - minutes 480)
  else none

/-- `ProductSyncSettingUpdatePayload`, with the bounds of its fields. -/
structure SyncSettingUpdate where
  syncEnabled : Option Bool := none
  syncIntervalMinutes : Option (Set.Icc 5 1440) := none
  syncJitterMinutes : Option (Set.Icc 0 120) := none
  fullSyncIntervalHours : Option (Set.Icc 1 168) := none
  publishVerifyDelaySeconds : Option (Set.Icc 10 300) := none
  autoPolishEnabled : Option Bool := none
  polishHour : Option (Set.Icc 0 23) := none
  polishJitterMinutes : Option (Set.Icc 0 180) := none

/-- The assignments of `setattr`. -/
def SyncSettingUpdate.assign (update : SyncSettingUpdate) (setting : SyncSetting) : SyncSetting :=
  { setting with
    syncEnabled := update.syncEnabled.getD setting.syncEnabled
    syncIntervalMinutes := (update.syncIntervalMinutes.map (·.1)).getD setting.syncIntervalMinutes
    syncJitterMinutes := (update.syncJitterMinutes.map (·.1)).getD setting.syncJitterMinutes
    fullSyncIntervalHours :=
      (update.fullSyncIntervalHours.map (·.1)).getD setting.fullSyncIntervalHours
    publishVerifyDelaySeconds :=
      (update.publishVerifyDelaySeconds.map (·.1)).getD setting.publishVerifyDelaySeconds
    autoPolishEnabled := update.autoPolishEnabled.getD setting.autoPolishEnabled
    polishHour := (update.polishHour.map (·.1)).getD setting.polishHour
    polishJitterMinutes := (update.polishJitterMinutes.map (·.1)).getD setting.polishJitterMinutes }

def SyncSettingUpdate.touchesSync (update : SyncSettingUpdate) : Bool :=
  update.syncEnabled.isSome || update.syncIntervalMinutes.isSome ||
    update.syncJitterMinutes.isSome || update.fullSyncIntervalHours.isSome

def SyncSettingUpdate.touchesPolish (update : SyncSettingUpdate) : Bool :=
  update.polishHour.isSome || update.polishJitterMinutes.isSome || update.autoPolishEnabled.isSome

/-- The writes to the setting of an account. -/
inductive SettingWrite
  /-- `_get_or_create_setting` of `ensure_account_settings` and of the reads -/
  | ensure
  /-- `_update_setting_sync` -/
  | updateSetting (payload : SyncSettingUpdate)
  /-- `_apply_sync_sync` -/
  | applySync (full complete : Bool)
  /-- `_fail_sync_sync` -/
  | failSync (error : String)
  /-- `_complete_polish_sync`, with the instant it is given -/
  | completePolish
  /-- `_reschedule_sync` -/
  | reschedule (sync polish : Bool)

def SettingWrite.creates : SettingWrite → Bool
  | .completePolish | .reschedule _ _ => false
  | _ => true

section Writes

variable (now draw polishDraw : ℕ)

def SyncSetting.putOff (setting : SyncSetting) : Option ℕ :=
  setting.nextSync now (randint setting.syncJitterMinutes draw)

/-- What a write assigns; `draw` and `polishDraw` are the answers of `random`. -/
def SettingWrite.assign (setting : SyncSetting) : SettingWrite → SyncSetting
  | .ensure => setting
  | .updateSetting payload =>
      let changed := payload.assign setting
      { changed with
        updatedAt := now
        nextSyncAt := if payload.touchesSync then changed.putOff now draw else setting.nextSyncAt
        nextPolishAt :=
          if payload.touchesPolish then changed.nextPolish now polishDraw
          else setting.nextPolishAt }
  | .applySync full complete =>
      setting.synced now (randint setting.syncJitterMinutes draw) full complete
  | .failSync error =>
      { setting with
        lastSyncStatus := some "failed"
        lastSyncError := some error
        nextSyncAt := setting.putOff now draw
        updatedAt := now }
  | .completePolish =>
      { setting with
        lastPolishAt := some now
        nextPolishAt := setting.nextPolish now polishDraw
        updatedAt := now }
  | .reschedule sync polish =>
      { setting with
        nextSyncAt := if sync then setting.putOff now draw else setting.nextSyncAt
        nextPolishAt := if polish then setting.nextPolish now polishDraw else setting.nextPolishAt
        updatedAt := now }

/-- A new row, with a first sync in one to five minutes. -/
def newSetting (accountId : String) : SyncSetting where
  accountId := accountId
  nextSyncAt := some (now + minutes (1 + randint 4 draw))
  createdAt := now
  updatedAt := now

/-- `_list_due_settings_sync` on the row of an enabled account with a cookie. -/
def SyncSetting.syncDue (setting : SyncSetting) : Bool :=
  setting.syncEnabled && setting.nextSyncAt.any (· ≤ now)

def SyncSetting.polishDue (setting : SyncSetting) : Bool :=
  setting.autoPolishEnabled && setting.nextPolishAt.any (· ≤ now)

end Writes

/-- The time, and the rows by their accounts. -/
structure ScheduleState where
  now : ℕ
  setting : String → Option SyncSetting := fun _ => none

inductive ScheduleEvent
  | waits (elapsed : ℕ)
  | writes (accountId : String) (write : SettingWrite) (startDraw draw polishDraw : ℕ)
  | deletes (accountId : String)

def ScheduleState.apply (state : ScheduleState) : ScheduleEvent → ScheduleState
  | .waits elapsed => { state with now := state.now + elapsed }
  | .writes accountId write startDraw draw polishDraw =>
      let row :=
        if write.creates then
          some ((state.setting accountId).getD (newSetting state.now startDraw accountId))
        else state.setting accountId
      { state with
        setting := Function.update state.setting accountId
          (row.map fun setting => write.assign state.now draw polishDraw setting) }
  | .deletes accountId =>
      { state with setting := Function.update state.setting accountId none }

/-- The steps of the service that concern the schedule, in any order. -/
def scheduleStep : ScheduleState → ScheduleEvent → ScheduleState → Prop :=
  ofFunction ScheduleState.apply

/-- What is enabled has a time, which comes within 26 hours. -/
structure SyncSetting.Scheduled (now : ℕ) (setting : SyncSetting) : Prop where
  interval : setting.syncIntervalMinutes ≤ 1440
  jitter : setting.syncJitterMinutes ≤ 120
  polishJitter : setting.polishJitterMinutes ≤ 180
  sync : setting.nextSyncAt.isSome = setting.syncEnabled
  polish : setting.nextPolishAt.isSome = setting.autoPolishEnabled
  syncSoon : ∀ next ∈ setting.nextSyncAt, next ≤ now + minutes 1560
  polishSoon : ∀ next ∈ setting.nextPolishAt, next ≤ now + minutes 1560

section Times

variable {now draw polishDraw : ℕ} {setting : SyncSetting}

@[simp]
theorem isSome_putOff : (setting.putOff now draw).isSome = setting.syncEnabled := by
  cases h : setting.syncEnabled <;> simp [SyncSetting.putOff, SyncSetting.nextSync, h]

@[simp]
theorem isSome_nextPolish : (setting.nextPolish now draw).isSome = setting.autoPolishEnabled := by
  cases h : setting.autoPolishEnabled <;> simp [SyncSetting.nextPolish, h]

/-- A sync is put off by five minutes at least. -/
theorem le_of_mem_putOff {next : ℕ} (hnext : next ∈ setting.putOff now draw) :
    now + minutes 5 ≤ next := by
  simp only [SyncSetting.putOff, SyncSetting.nextSync, Option.mem_def] at hnext
  split at hnext
  · cases hnext
    simp only [minutes, seconds]
    omega
  · cases hnext

theorem putOff_le (hinterval : setting.syncIntervalMinutes ≤ 1440)
    (hjitter : setting.syncJitterMinutes ≤ 120) :
    ∀ next ∈ setting.putOff now draw, next ≤ now + minutes 1560 := by
  intro next hnext
  simp only [SyncSetting.putOff, SyncSetting.nextSync, Option.mem_def, randint] at hnext
  split at hnext
  · cases hnext
    simp only [minutes, seconds]
    omega
  · cases hnext

theorem nextPolish_le (hjitter : setting.polishJitterMinutes ≤ 180) :
    ∀ next ∈ setting.nextPolish now draw, next ≤ now + minutes 1560 := by
  intro next hnext
  unfold SyncSetting.nextPolish at hnext
  by_cases henabled : setting.autoPolishEnabled = true
  · rw [if_pos henabled, Option.mem_some_iff] at hnext
    have hday := Nat.div_mul_le_self (now + minutes 480) (minutes 1440)
    have hdraw : randint setting.polishJitterMinutes draw ≤ 180 := (min_le_right _ _).trans hjitter
    generalize (now + minutes 480) / minutes 1440 * minutes 1440 = day at hday hnext
    generalize randint setting.polishJitterMinutes draw = drawn at hdraw hnext
    subst hnext
    split <;> simp only [minutes, seconds] at * <;> omega
  · rw [if_neg henabled] at hnext
    cases hnext

theorem getD_le {low high old : ℕ} {given : Option (Set.Icc low high)} (hold : old ≤ high) :
    (given.map (·.1)).getD old ≤ high := by
  cases given with
  | none => exact hold
  | some value => exact value.2.2

theorem SyncSetting.Scheduled.assign (hscheduled : setting.Scheduled now) (write : SettingWrite) :
    (write.assign now draw polishDraw setting).Scheduled now := by
  obtain ⟨hinterval, hjitter, hpolishJitter, hsync, hpolish, hsyncSoon, hpolishSoon⟩ := hscheduled
  cases write with
  | ensure => exact ⟨hinterval, hjitter, hpolishJitter, hsync, hpolish, hsyncSoon, hpolishSoon⟩
  | updateSetting payload =>
      have hinterval' : (payload.assign setting).syncIntervalMinutes ≤ 1440 := getD_le hinterval
      have hjitter' : (payload.assign setting).syncJitterMinutes ≤ 120 := getD_le hjitter
      have hpolishJitter' : (payload.assign setting).polishJitterMinutes ≤ 180 :=
        getD_le hpolishJitter
      refine ⟨hinterval', hjitter', hpolishJitter', ?_, ?_, ?_, ?_⟩ <;>
        simp only [SettingWrite.assign]
      · split
        · exact isSome_putOff
        · rename_i htouches
          have hsame : payload.syncEnabled = none := by
            simp_all [SyncSettingUpdate.touchesSync]
          simpa [SyncSettingUpdate.assign, hsame] using hsync
      · split
        · exact isSome_nextPolish
        · rename_i htouches
          have hsame : payload.autoPolishEnabled = none := by
            simp_all [SyncSettingUpdate.touchesPolish]
          simpa [SyncSettingUpdate.assign, hsame] using hpolish
      · split
        · exact putOff_le hinterval' hjitter'
        · exact hsyncSoon
      · split
        · exact nextPolish_le hpolishJitter'
        · exact hpolishSoon
  | applySync full complete =>
      exact ⟨hinterval, hjitter, hpolishJitter, isSome_putOff, hpolish,
        putOff_le hinterval hjitter, hpolishSoon⟩
  | failSync error =>
      exact ⟨hinterval, hjitter, hpolishJitter, isSome_putOff, hpolish,
        putOff_le hinterval hjitter, hpolishSoon⟩
  | completePolish =>
      exact ⟨hinterval, hjitter, hpolishJitter, hsync, isSome_nextPolish, hsyncSoon,
        nextPolish_le hpolishJitter⟩
  | reschedule sync polish =>
      refine ⟨hinterval, hjitter, hpolishJitter, ?_, ?_, ?_, ?_⟩ <;>
        simp only [SettingWrite.assign] <;> split
      · exact isSome_putOff
      · exact hsync
      · exact isSome_nextPolish
      · exact hpolish
      · exact putOff_le hinterval hjitter
      · exact hsyncSoon
      · exact nextPolish_le hpolishJitter
      · exact hpolishSoon

theorem scheduled_newSetting (accountId : String) :
    (newSetting now draw accountId).Scheduled now := by
  refine ⟨by simp [newSetting], by simp [newSetting], by simp [newSetting], rfl, rfl,
    fun next hnext => ?_, by rintro next ⟨⟩⟩
  cases hnext
  simp only [randint, minutes, seconds]
  omega

end Times

variable {start final : ScheduleState} {events : List ScheduleEvent} {accountId : String}

def AllScheduled (state : ScheduleState) : Prop :=
  ∀ accountId setting, state.setting accountId = some setting → setting.Scheduled state.now

theorem AllScheduled.apply (hall : AllScheduled start) (event : ScheduleEvent) :
    AllScheduled (start.apply event) := by
  intro accountId setting hsetting
  cases event with
  | waits elapsed =>
      have h := hall accountId setting hsetting
      exact { h with
        syncSoon := fun next hnext => (h.syncSoon next hnext).trans (by simp [ScheduleState.apply])
        polishSoon := fun next hnext =>
          (h.polishSoon next hnext).trans (by simp [ScheduleState.apply]) }
  | writes target write startDraw draw polishDraw =>
      simp only [ScheduleState.apply] at hsetting ⊢
      by_cases htarget : accountId = target
      · subst htarget
        rw [Function.update_self, Option.map_eq_some_iff] at hsetting
        obtain ⟨row, hrow, rfl⟩ := hsetting
        refine SyncSetting.Scheduled.assign ?_ write
        split at hrow
        · cases hrow
          cases h : start.setting accountId with
          | none => exact scheduled_newSetting accountId
          | some setting => exact hall accountId setting h
        · exact hall accountId row hrow
      · rw [Function.update_of_ne htarget] at hsetting
        exact hall accountId setting hsetting
  | deletes target =>
      simp only [ScheduleState.apply] at hsetting ⊢
      by_cases htarget : accountId = target
      · simp [htarget] at hsetting
      · rw [Function.update_of_ne htarget] at hsetting
        exact hall accountId setting hsetting

/-- In every state of every run, what is enabled in a setting is due 26 hours later at the
latest, unless the setting is written again. -/
theorem enabled_becomes_due {now : ℕ} (hrun : Run scheduleStep { now } events final)
    {setting : SyncSetting} (hsetting : final.setting accountId = some setting) :
    setting.syncDue (final.now + minutes 1560) = setting.syncEnabled ∧
      setting.polishDue (final.now + minutes 1560) = setting.autoPolishEnabled := by
  have hall : AllScheduled final :=
    hrun.invariant AllScheduled (fun _ event _ hall hstep => hstep ▸ hall.apply event)
      (by rintro accountId setting ⟨⟩)
  have h := hall accountId setting hsetting
  constructor
  · cases henabled : setting.syncEnabled with
    | false => simp [SyncSetting.syncDue, henabled]
    | true =>
        obtain ⟨next, hnext⟩ := Option.isSome_iff_exists.mp (h.sync.trans henabled)
        simp [SyncSetting.syncDue, henabled, hnext, h.syncSoon next hnext]
  · cases henabled : setting.autoPolishEnabled with
    | false => simp [SyncSetting.polishDue, henabled]
    | true =>
        obtain ⟨next, hnext⟩ := Option.isSome_iff_exists.mp (h.polish.trans henabled)
        simp [SyncSetting.polishDue, henabled, hnext, h.polishSoon next hnext]

/-- The account `a` has just got its setting. -/
def newSchedule : ScheduleState :=
  ScheduleState.apply { now := 0 } (.writes "a" .ensure 0 0 0)

theorem newSchedule_setting : newSchedule.setting "a" = some (newSetting 0 0 "a") := by
  simp [newSchedule, ScheduleState.apply, SettingWrite.creates, SettingWrite.assign]

theorem new_setting_becomes_due :
    (newSetting 0 0 "a").syncDue (0 + minutes 1560) = true ∧
      (newSetting 0 0 "a").polishDue (0 + minutes 1560) = false :=
  enabled_becomes_due (.cons rfl (.nil newSchedule)) newSchedule_setting

/-- No sync of the account is due before `time`. -/
def NotDueBefore (accountId : String) (time : ℕ) (state : ScheduleState) : Prop :=
  time ≤ state.now + minutes 5 ∧ ∃ setting, state.setting accountId = some setting ∧
    ∀ next ∈ setting.nextSyncAt, time ≤ next

theorem mem_nextSyncAt_assign {now draw polishDraw next : ℕ} {setting : SyncSetting}
    {write : SettingWrite}
    (hnext : next ∈ (write.assign now draw polishDraw setting).nextSyncAt) :
    next ∈ setting.nextSyncAt ∨ now + minutes 5 ≤ next := by
  cases write with
  | ensure => exact .inl hnext
  | updateSetting payload =>
      simp only [SettingWrite.assign] at hnext
      split at hnext
      · exact .inr (le_of_mem_putOff hnext)
      · exact .inl hnext
  | applySync full complete => exact .inr (le_of_mem_putOff hnext)
  | failSync error => exact .inr (le_of_mem_putOff hnext)
  | completePolish => exact .inl hnext
  | reschedule sync polish =>
      simp only [SettingWrite.assign] at hnext
      split at hnext
      · exact .inr (le_of_mem_putOff hnext)
      · exact .inl hnext

theorem NotDueBefore.apply {time : ℕ} (hnot : NotDueBefore accountId time start)
    {event : ScheduleEvent} (hkept : event ≠ .deletes accountId) :
    NotDueBefore accountId time (start.apply event) := by
  obtain ⟨htime, setting, hsetting, hnext⟩ := hnot
  cases event with
  | waits elapsed => exact ⟨htime.trans (by simp [ScheduleState.apply]), setting, hsetting, hnext⟩
  | writes target write startDraw draw polishDraw =>
      refine ⟨htime, ?_⟩
      simp only [ScheduleState.apply]
      by_cases htarget : accountId = target
      · subst htarget
        refine ⟨write.assign start.now draw polishDraw setting, by simp [hsetting], ?_⟩
        intro next hmem
        rcases mem_nextSyncAt_assign hmem with hold | hlater
        · exact hnext next hold
        · exact htime.trans hlater
      · exact ⟨setting, by rwa [Function.update_of_ne htarget], hnext⟩
  | deletes target =>
      have htarget : accountId ≠ target := fun h => hkept (h ▸ rfl)
      exact ⟨htime, setting, by simpa [ScheduleState.apply, htarget] using hsetting, hnext⟩

/-- Once the scheduler has put a sync off, it is not due again for five minutes, whatever else is
written to the setting in the meantime. -/
theorem syncs_apart {startDraw draw polishDraw : ℕ} {polish : Bool} {setting later : SyncSetting}
    (hsetting : start.setting accountId = some setting)
    (hrun : Run (restrict scheduleStep fun _ event => event ≠ .deletes accountId)
      (start.apply (.writes accountId (.reschedule true polish) startDraw draw polishDraw))
      events final)
    (hlater : final.setting accountId = some later) (hdue : later.syncDue final.now = true) :
    start.now + minutes 5 ≤ final.now := by
  have hstart : NotDueBefore accountId (start.now + minutes 5)
      (start.apply (.writes accountId (.reschedule true polish) startDraw draw polishDraw)) := by
    refine ⟨le_rfl, SettingWrite.assign start.now draw polishDraw setting (.reschedule true polish),
      by simp [ScheduleState.apply, SettingWrite.creates, hsetting], fun next hnext => ?_⟩
    exact le_of_mem_putOff hnext
  obtain ⟨-, setting, hfinal, hnext⟩ := hrun.invariant (NotDueBefore accountId _)
    (fun _ event _ hnot hstep => hstep.2 ▸ hnot.apply hstep.1) hstart
  rw [hlater] at hfinal
  cases hfinal
  simp only [SyncSetting.syncDue, Bool.and_eq_true, Option.any_eq_true, decide_eq_true_eq] at hdue
  obtain ⟨-, next, hmem, hle⟩ := hdue
  exact (hnext next hmem).trans hle

/-- The sync is put off by 25 minutes, and is due when they are over. -/
theorem put_off_sync_due : newSchedule.now + minutes 5 ≤ newSchedule.now + minutes 25 := by
  have hrun : Run (restrict scheduleStep fun _ event => event ≠ .deletes "a")
      (newSchedule.apply (.writes "a" (.reschedule true false) 0 5 0)) [.waits (minutes 25)] _ :=
    .cons ⟨by rintro ⟨⟩, rfl⟩ (.nil _)
  have hlater : ((newSchedule.apply (.writes "a" (.reschedule true false) 0 5 0)).apply
      (.waits (minutes 25))).setting "a" =
        some (SettingWrite.assign 0 5 0 (newSetting 0 0 "a") (.reschedule true false)) := by
    simp only [ScheduleState.apply, Function.update_self, newSchedule_setting]
    rfl
  exact syncs_apart newSchedule_setting hrun hlater (by decide)

end XianyuAdmin.Products
