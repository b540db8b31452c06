import XianyuAdmin.Chatwoot.Mirroring

/-!
# Messages are mirrored once

A task that finds no map of a message acts as if it was the first to see it.
As long as that is true of every task, a Xianyu message is copied once, its copy
is not sent back, and a message that was forwarded is not copied.
-/

namespace XianyuAdmin.Chatwoot.MirroredOnce

open XianyuAdmin.Coroutine
open XianyuAdmin.Python
open XianyuAdmin.Transition

variable {library : WebhookLibrary}

abbrev Secures (library : WebhookLibrary) {Value : Type} (thread : ℕ)
    (returns : Value → State → Prop) (raises : Failure → State → Prop)
    (coroutine : Routine Value) (state : State) : Prop :=
  Secure ((machine library).contract (discipline library) thread) returns raises coroutine state

variable {thread : ℕ} {after state : State} {op : Op} {key : String × String} {deliveryId : String}
  {view : WebhookView}

variable {before : State}

theorem rely_others {other : ℕ} (hother : other ≠ thread)
    (hrunning : after.running = before.running)
    (hnotes : Notes.Follows thread before.ghost after.ghost)
    (hfollows : Follows before.bridge after.bridge) :
    (discipline library).rely other before after :=
  ⟨⟨by rw [hrunning], hnotes.windows other hother, hfollows⟩, hnotes.contexts other hother⟩

/-- One operation, given what it does to the invariant and what it leaves. -/
theorem secures_call {returns : Answer op → State → Prop} {raises : Failure → State → Prop}
    (hdone : ∀ before answer after (env : Env), (discipline library).rely thread state before →
      Sound library before → Allowed thread op env before →
      (machine library).perform thread op env before = some (answer, after) →
      (Sound library after ∧ Follows before.bridge after.bridge) ∧
        match answer with
        | .ok value => returns value after
        | .error failure => raises failure after) :
    Secures library thread returns raises (call op) state := by
  rw [Secures, secure_perform]
  rintro before ⟨hrely, hsound⟩ answer after ⟨env, hallowed, hperform⟩
  have hend := hdone before answer after env hrely hsound hallowed hperform
  have hafter := (perform_eq_some hperform).2.2
  refine ⟨⟨hend.1.1, fun other hother => rely_others hother ?_ ?_ hend.1.2⟩, ?_⟩
  · rw [hafter]
  · rw [hafter]
    exact follows_note
  · cases answer with
    | ok value => exact hend.2
    | error failure => exact hend.2

/-- A plain operation is quiet and leaves the windows as they are. -/
theorem plain_perform {env : Env} {answer : Except Failure (Answer op)} (hop : IsPlain op)
    (hsound : Sound library before)
    (hperform : (machine library).perform thread op env before = some (answer, after)) :
    Sound library after ∧ Stays thread before after := by
  obtain ⟨hnumbered, hbridge, hafter⟩ := perform_eq_some hperform
  have hquiet : Quiet before.bridge after.bridge :=
    quiet_performOp (fun _ _ _ hcreates => by subst hcreates; exact hop) hnumbered hbridge
  have hghost : after.ghost = note library thread env before after.bridge op answer := by
    rw [hafter]
  have hnotes : after.ghost.windows = before.ghost.windows ∧
      after.ghost.forwarded = before.ghost.forwarded ∧
      after.ghost.sources = before.ghost.sources := by
    rw [hghost]
    exact note_plain thread env before after.bridge answer hop
  refine ⟨hsound.quiet hquiet hnotes.1 hnotes.2.1 hnotes.2.2, ?_, ?_, hquiet.follows⟩
  · rw [hafter]
  · rw [hnotes.1]

/-- A part of a task that performs plain operations keeps whatever the thread's own notes
and the stored rows keep. -/
theorem secures_plain {Value : Type} {coroutine : Routine Value} {fact : State → Prop}
    (huses : Uses IsPlain coroutine)
    (hstable : ∀ before after, Stays thread before after → fact before → fact after)
    (hsound : Sound library state) (hfact : fact state) :
    Secures library thread (fun _ after => Sound library after ∧ fact after)
      (fun _ after => Sound library after ∧ fact after) coroutine state := by
  refine huses.secure ?_ ?_ ⟨hsound, hfact⟩
  · rintro before after ⟨-, hbefore⟩ ⟨hrely, hafter⟩
    exact ⟨hafter, hstable before after hrely.1 hbefore⟩
  · rintro op hop before answer after ⟨hsound', hbefore⟩ ⟨env, -, hperform⟩
    have hplain := plain_perform hop hsound' hperform
    have hafter := (perform_eq_some hperform).2.2
    refine ⟨⟨hplain.1, fun other hother => rely_others hother ?_ ?_ hplain.2.follows⟩,
      hplain.1, hstable before after hplain.2 hbefore⟩
    · rw [hafter]
    · rw [hafter]
      exact follows_note

/-- A part of a task that performs plain operations. -/
theorem secures_quietly {Value : Type} {coroutine : Routine Value}
    (huses : Uses IsPlain coroutine) (hsound : Sound library state) :
    Secures library thread (fun _ after => Sound library after)
      (fun _ after => Sound library after) coroutine state := by
  have hkept := secures_plain huses
    (fun (_ _ : State) (_ : Stays thread _ _) (_ : True) => trivial) hsound trivial
  exact hkept.mono (fun _ _ hafter => hafter.1) fun _ _ hafter => hafter.1

/-- Windows may be closed at any time. -/
theorem Sound.narrow (hsound : Sound library state) (hbridge : after.bridge = state.bridge)
    (hwindows : ∀ thread key, after.ghost.windows thread = some key →
      state.ghost.windows thread = some key)
    (hforwarded : after.ghost.forwarded = state.ghost.forwarded)
    (hsources : after.ghost.sources = state.ghost.sources) : Sound library after where
  numbered := hbridge ▸ hsound.numbered
  once := hbridge ▸ hsound.once
  copied := hbridge ▸ hsound.copied
  window thread key hkey := by
    rw [hbridge, hforwarded]
    exact hsound.window thread key (hwindows thread key hkey)
  apart left right key hleft hright :=
    hsound.apart left right key (hwindows left key hleft) (hwindows right key hright)
  forwarded := by
    rw [hbridge, hforwarded]
    exact hsound.forwarded
  sources := by
    rw [hbridge, hsources]
    exact hsound.sources
  known := hbridge ▸ hsound.known

theorem window_of_closed {windows : ℕ → Option (String × String)} {other : ℕ}
    (hkey : Function.update windows thread none other = some key) :
    windows other = some key := by
  by_cases hother : other = thread
  · simp [hother] at hkey
  · rwa [Function.update_of_ne hother] at hkey

theorem leaves_harmlessly (hsound : Sound library state) (ended : Option (Except Failure Members)) :
    Machine.Harmless (discipline library) thread state
      ((machine library).leave thread ended state) := by
  refine ⟨hsound.narrow rfl (fun _ _ hkey => window_of_closed hkey) rfl rfl,
    fun other hother => ⟨⟨?_, ?_, .refl _⟩, ?_⟩⟩
  · exact Function.update_of_ne hother _ _
  · exact Function.update_of_ne hother _ _
  · exact Function.update_of_ne hother _ _

def HasWindow (thread : ℕ) (key : String × String) (state : State) : Prop :=
  state.ghost.windows thread = some key

theorem HasWindow.stays (hstays : Stays thread before after)
    (hwindow : HasWindow thread key before) :
    HasWindow thread key after :=
  hstays.window.trans hwindow

theorem Sound.create (hsound : Sound library state) (hwindow : HasWindow thread key state)
    {message : RemoteMessage} (hmirrors : message.mirrors = some key)
    (hnew : IsNew message.messageId state.bridge) :
    Sound library
      { state with
        bridge := state.bridge.post message
        ghost := { state.ghost with
          windows := Function.update state.ghost.windows thread none } } := by
  have hown := hsound.window thread key hwindow
  have hcopies : copies (state.bridge.post message) = copies state.bridge ++ [key] := by
    simp [copies, Bridge.post, hmirrors]
  have hfollows : Follows state.bridge (state.bridge.post message) :=
    { events := fun _ row hrow => ⟨row, hrow, rfl, rfl⟩
      remote := List.subset_append_left _ _
      messages := fun _ hkey => hkey }
  have hothers : ∀ other key',
      Function.update state.ghost.windows thread none other = some key' →
        state.ghost.windows other = some key' ∧ key' ≠ key := by
    intro other key' hkey
    by_cases hother : other = thread
    · simp [hother] at hkey
    · rw [Function.update_of_ne hother] at hkey
      refine ⟨hkey, fun hsame => hother ?_⟩
      exact hsound.apart other thread key' hkey (hsame ▸ hwindow)
  exact
    { numbered := by
        simp only [Bridge.post, List.map_append, List.map_cons, List.map_nil]
        refine List.nodup_append.mpr ⟨hsound.numbered, List.nodup_singleton _, ?_⟩
        intro other hother id hid
        rw [List.mem_singleton.mp hid]
        rintro rfl
        exact hnew hother
      once := by
        rw [hcopies]
        refine List.nodup_append.mpr ⟨hsound.once, List.nodup_singleton _, ?_⟩
        intro other hother id hid
        rw [List.mem_singleton.mp hid]
        rintro rfl
        exact hown.1 hother
      copied := by
        intro other hother
        rw [hcopies, List.mem_append, List.mem_singleton] at hother
        rcases hother with hold | rfl
        · exact hsound.copied other hold
        · exact hown.2.2
      window := fun other key' hkey => by
        have hopen := hothers other key' hkey
        have hkept := hsound.window other key' hopen.1
        refine ⟨?_, hkept.2⟩
        rw [hcopies, List.mem_append, List.mem_singleton]
        rintro (hold | hsame)
        · exact hkept.1 hold
        · exact hopen.2 hsame
      apart := fun left right key' hleft hright =>
        hsound.apart left right key' (hothers left key' hleft).1 (hothers right key' hright).1
      forwarded := fun other hother => by
        rw [hcopies, List.mem_append, List.mem_singleton]
        rintro (hold | rfl)
        · exact hsound.forwarded other hother hold
        · exact hown.2.1 hother
      sources := fun messageId hsource => (hsound.sources messageId hsource).follows hfollows
      known := fun row hrow messageId hid =>
        not_isNew_follows (hsound.known row hrow messageId hid) hfollows }

theorem secures_createMessage {accountId messagePk chatwootConversationId : String}
    (hwindow : HasWindow thread (accountId, messagePk) state) :
    Secures library thread (fun _ after => Sound library after)
      (fun _ after => Sound library after)
      (call (.createMessage accountId messagePk chatwootConversationId)) state := by
  refine secures_call fun before answer after env hrely hsound _ hperform => ?_
  obtain ⟨hnumbered, hbridge, hafter⟩ := perform_eq_some hperform
  have hopen := HasWindow.stays hrely.1 hwindow
  have hcreated : ∀ bridge, after.bridge = bridge → ∀ value,
      effect library.loadsText env before.bridge
        (.createMessage accountId messagePk chatwootConversationId) = some (value, bridge) →
      Sound library after ∧ Follows before.bridge after.bridge := by
    intro bridge hsame value heffect
    cases heffect
    refine ⟨?_, ?_⟩
    · rw [hafter, hsame]
      exact hsound.create hopen rfl (hnumbered rfl)
    · rw [hsame]
      exact
        { events := fun _ row hrow => ⟨row, hrow, rfl, rfl⟩
          remote := List.subset_append_left _ _
          messages := fun _ hkey => hkey }
  have hend : Sound library after ∧ Follows before.bridge after.bridge := by
    rcases performOp_cases hbridge with
      ⟨value, -, -, heffect⟩ | ⟨failure, -, -, hsame | ⟨value, heffect⟩⟩
    · exact hcreated _ rfl value heffect
    · rw [hafter, hsame]
      exact ⟨hsound.narrow rfl (fun _ _ hkey => window_of_closed hkey) rfl rfl, .refl _⟩
    · exact hcreated _ rfl value heffect
  refine ⟨hend, ?_⟩
  cases answer with
  | ok value => exact hend.1
  | error failure => exact hend.1

theorem isPlain_of_isRecall (hop : op.IsRecall) : IsPlain op := by
  cases op with
  | runtimeCommand command =>
      cases command
      · exact hop.elim
      · exact hop.elim
      · rfl
  | _ => trivial

theorem secures_createCopy {accountId messagePk : String} (chatwootConversationId : String)
    (files : ℕ) (hwindow : HasWindow thread (accountId, messagePk) state) :
    Secures library thread (fun _ after => Sound library after)
      (fun _ after => Sound library after)
      (createCopy accountId messagePk chatwootConversationId files) state := by
  rw [createCopy, Secures, secure_bind]
  refine (secures_createMessage hwindow).mono ?_ fun _ _ hafter => hafter
  intro answered created hcreated
  split
  · exact hcreated
  · refine secures_quietly ?_ hcreated
    exact Uses.bind (uses_perform trivial) fun _ =>
      Uses.bind (uses_perform trivial) fun _ => uses_pure _

theorem secures_mirrorMessage {accountId messagePk : String} (config : ConfigView)
    (context : LocalMessage) (hsound : Sound library state)
    (hwindow : HasWindow thread (accountId, messagePk) state) :
    Secures library thread (fun _ after => Sound library after)
      (fun _ after => Sound library after)
      (mirrorMessage accountId messagePk config context) state := by
  have hplain : ∀ {Value : Type} {part : Routine Value} {before : State}, Uses IsPlain part →
      Sound library before ∧ HasWindow thread (accountId, messagePk) before →
      Secures library thread
        (fun _ after => Sound library after ∧ HasWindow thread (accountId, messagePk) after)
        (fun _ after => Sound library after ∧ HasWindow thread (accountId, messagePk) after)
        part before :=
    fun huses hbefore =>
      secures_plain huses (fun _ _ hstays => HasWindow.stays hstays) hbefore.1 hbefore.2
  have hinbox : Uses IsPlain (managedConfig accountId config) := by
    unfold managedConfig
    split
    · exact uses_perform trivial
    · exact uses_pure _
  have hdownloads : ∀ urls, Uses IsPlain (downloadAll urls) :=
    fun urls => (uses_downloadAll urls).mono fun _ hop => isPlain_of_isRecall (Op.IsSnapshot.isRecall hop)
  have hconversation : Uses IsPlain
      (call (.ensureRemoteConversation accountId context.conversationId)) := uses_perform trivial
  rw [mirrorMessage, Secures, secure_bind]
  refine (hplain hinbox ⟨hsound, hwindow⟩).mono ?_ fun _ _ hafter => hafter.1
  intro config inbox hinboxed
  rw [secure_bind]
  refine (hplain hconversation hinboxed).mono ?_ fun _ _ hafter => hafter.1
  intro mapping ensured hensured
  rw [secure_bind]
  refine (hplain (hdownloads _) hensured).mono ?_ fun _ _ hafter => hafter.1
  intro images fetched hfetched
  rw [secure_bind]
  refine (hplain (hdownloads _) hfetched).mono ?_ fun _ _ hafter => hafter.1
  intro audios loaded hloaded
  dsimp only
  split
  · exact secures_createCopy _ _ hloaded.2
  split
  · exact secures_createCopy _ _ hloaded.2
  · refine (hplain ?_ hloaded).mono (fun _ _ hafter => hafter.1) fun _ _ hafter => hafter.1
    exact Uses.bind (uses_perform trivial) fun _ => uses_pure _

/-- The row of a message that is read. -/
theorem secures_getLocalMessageContext (accountId messagePk : String) :
    Secures library thread
      (fun context after => Sound library after ∧ after.ghost.contexts thread = context ∧
        (context.isSome → (after.bridge.messages.lookup (accountId, messagePk)).isSome))
      (fun _ after => Sound library after)
      (call (.getLocalMessageContext accountId messagePk)) state := by
  refine secures_call fun before answer after env hrely hsound _ hperform => ?_
  obtain ⟨-, hbridge, hafter⟩ := perform_eq_some hperform
  have hplain := plain_perform (by exact trivial) hsound hperform
  refine ⟨⟨hplain.1, hplain.2.follows⟩, ?_⟩
  rcases performOp_cases hbridge with ⟨context, rfl, -, heffect⟩ | ⟨failure, rfl, -, -⟩
  · simp only [effect, Option.some.injEq, Prod.mk.injEq] at heffect
    refine ⟨hplain.1, ?_, fun hread => ?_⟩
    · rw [hafter]
      exact Function.update_self _ _ _
    · rw [← heffect.2]
      rw [← heffect.1] at hread
      obtain ⟨row, hrow⟩ := Option.isSome_iff_exists.mp hread
      rw [(Option.filter_eq_some_iff.mp hrow).1]
      rfl
  · exact hplain.1

theorem Sound.widen (hsound : Sound library state) (hcopies : key ∉ copies state.bridge)
    (hforwarded : key ∉ state.ghost.forwarded)
    (hfree : ∀ other, state.ghost.windows other ≠ some key)
    (hstored : (state.bridge.messages.lookup key).isSome) :
    Sound library
      { state with
        ghost := { state.ghost with
          windows := Function.update state.ghost.windows thread (some key) } } := by
  have hcases : ∀ other key',
      Function.update state.ghost.windows thread (some key) other = some key' →
        (other = thread ∧ key' = key) ∨
          other ≠ thread ∧ state.ghost.windows other = some key' := by
    intro other key' hkey
    by_cases hother : other = thread
    · rw [hother, Function.update_self] at hkey
      exact .inl ⟨hother, (Option.some.inj hkey).symm⟩
    · rw [Function.update_of_ne hother] at hkey
      exact .inr ⟨hother, hkey⟩
  exact
    { numbered := hsound.numbered
      once := hsound.once
      copied := hsound.copied
      window := fun other key' hkey => by
        rcases hcases other key' hkey with ⟨-, rfl⟩ | ⟨-, hold⟩
        · exact ⟨hcopies, hforwarded, hstored⟩
        · exact hsound.window other key' hold
      apart := fun left right key' hleft hright => by
        rcases hcases left key' hleft with ⟨rfl, rfl⟩ | ⟨-, hleft'⟩
        · rcases hcases right key' hright with ⟨rfl, -⟩ | ⟨-, hright'⟩
          · rfl
          · exact absurd hright' (hfree right)
        · rcases hcases right key' hright with ⟨rfl, rfl⟩ | ⟨-, hright'⟩
          · exact absurd hleft' (hfree left)
          · exact hsound.apart left right key' hleft' hright'
      forwarded := hsound.forwarded
      sources := hsound.sources
      known := hsound.known }

theorem secures_findMessageMapByLocal {accountId messagePk : String} {context : LocalMessage}
    (hread : state.ghost.contexts thread = some context)
    (hstored : (state.bridge.messages.lookup (accountId, messagePk)).isSome) :
    Secures library thread
      (fun mapped after => Sound library after ∧
        (mapped = none → context.isMirrorable → HasWindow thread (accountId, messagePk) after))
      (fun _ after => Sound library after)
      (call (.findMessageMapByLocal accountId messagePk)) state := by
  refine secures_call fun before answer after env hrely hsound hallowed hperform => ?_
  obtain ⟨-, hbridge, hafter⟩ := perform_eq_some hperform
  have hcontext : before.ghost.contexts thread = some context := hrely.2.trans hread
  have hmessages := hrely.1.follows.messages _ hstored
  have hsame : after.bridge = before.bridge := by
    rcases performOp_cases hbridge with
      ⟨value, -, -, heffect⟩ | ⟨failure, -, -, hsame | ⟨value, heffect⟩⟩
    · exact (Prod.mk.inj (Option.some.inj heffect)).2.symm
    · exact hsame
    · exact (Prod.mk.inj (Option.some.inj heffect)).2.symm
  have hghost : after.ghost = { before.ghost with
      windows := Function.update before.ghost.windows thread
        (windowOf (some context) (accountId, messagePk) answer) } := by
    rw [hafter, ← hcontext]
    rfl
  have hclosed : windowOf (some context) (accountId, messagePk) answer = none →
      Sound library after := by
    intro hnone
    rw [hnone] at hghost
    exact hsound.narrow hsame (fun _ _ hkey => window_of_closed (hghost ▸ hkey))
      (hghost ▸ rfl) (hghost ▸ rfl)
  have hopened : windowOf (some context) (accountId, messagePk) answer ≠ none →
      Sound library after := by
    intro hsome
    have hfound : valueOf answer = some none ∧ context.isMirrorable = true := by
      unfold windowOf at hsome
      split at hsome
      · assumption
      · exact absurd rfl hsome
    obtain ⟨value, rfl, hraised, heffect⟩ | ⟨failure, rfl, -, -⟩ := performOp_cases hbridge
    · have hnone : value = none := Option.some.inj hfound.1
      subst hnone
      have hmaps : findMessageMapByLocal accountId messagePk before.bridge.maps = none :=
        (Prod.mk.inj (Option.some.inj heffect)).1
      have hfirst := hallowed hraised hmaps (by simpa [hcontext] using hfound.2)
      have hwindow : windowOf (some context) (accountId, messagePk)
          (.ok none : Except Failure (Option MessageMap)) = some (accountId, messagePk) :=
        if_pos ⟨rfl, hfound.2⟩
      have hwide : Sound library
          { before with
            ghost := { before.ghost with
              windows := Function.update before.ghost.windows thread
                (some (accountId, messagePk)) } } :=
        hsound.widen hfirst.1 hfirst.2.1 hfirst.2.2 hmessages
      rw [hwindow] at hghost
      refine hwide.narrow hsame (fun _ _ hkey => ?_) (hghost ▸ rfl) (hghost ▸ rfl)
      rwa [hghost] at hkey
    · cases hfound.1
  have hend : Sound library after := by
    by_cases hwindow : windowOf (some context) (accountId, messagePk) answer = none
    · exact hclosed hwindow
    · exact hopened hwindow
  refine ⟨⟨hend, hsame ▸ .refl _⟩, ?_⟩
  cases answer with
  | ok mapped =>
      refine ⟨hend, fun hnone hmirrorable => ?_⟩
      rw [HasWindow, hghost, hnone]
      simp [windowOf, valueOf, hmirrorable]
  | error failure => exact hend

/-- A mirror task keeps to the invariant. -/
theorem secures_executeLocalMessageTask (accountId messagePk : String)
    (hsound : Sound library state) :
    Secures library thread (fun _ after => Sound library after)
      (fun _ after => Sound library after)
      (executeLocalMessageTask accountId messagePk) state := by
  have hconfig : Uses IsPlain (getConfig (some accountId)) := uses_perform trivial
  rw [executeLocalMessageTask, Secures, secure_bind]
  refine (secures_quietly hconfig hsound).mono ?_ fun _ _ hafter => hafter
  intro found configured hconfigured
  split
  · exact hconfigured
  rename_i config _
  rw [secure_bind]
  refine (secures_getLocalMessageContext accountId messagePk).mono ?_ fun _ _ hafter => hafter
  rintro read seen ⟨hseen, hread, hstored⟩
  cases read with
  | none => exact hseen
  | some context =>
      dsimp only
      rw [secure_bind]
      refine (secures_findMessageMapByLocal hread (hstored rfl)).mono ?_
        fun _ _ hafter => hafter
      rintro mapped checked ⟨hchecked, hwindow⟩
      unfold mirrorContext
      split
      · exact secures_quietly
          ((uses_mirrorRecall _ _ _ _ _).mono fun _ => isPlain_of_isRecall) hchecked
      rename_i hstands
      split
      · exact hchecked
      rename_i hunmapped
      split
      · exact hchecked
      rename_i hsent
      have hmirrorable : context.isMirrorable := by
        simp only [LocalMessage.isMirrorable, Bool.and_eq_true, Bool.not_eq_true']
        refine ⟨by simpa using hstands, ?_⟩
        simpa using hsent
      refine secures_mirrorMessage config context hchecked (hwindow ?_ hmirrorable)
      simpa using hunmapped

def Handles (library : WebhookLibrary) (thread : ℕ) (deliveryId : String) (view : WebhookView)
    (state : State) : Prop :=
  (state.running thread).map Task.job = some (.webhook deliveryId) ∧
    ∃ row, state.bridge.events.lookup deliveryId = some row ∧
      webhookView library.loadsText row = view

theorem Handles.stays (hstays : Stays thread before after)
    (hhandles : Handles library thread deliveryId view before) :
    Handles library thread deliveryId view after := by
  obtain ⟨hrunning, row, hrow, hview⟩ := hhandles
  obtain ⟨later, hlater, hname, hpayload⟩ := hstays.follows.events deliveryId row hrow
  refine ⟨hstays.running ▸ hrunning, later, hlater, ?_⟩
  rw [← hview]
  simp only [webhookView, hname, hpayload]

theorem Handles.message (hhandles : Handles library thread deliveryId view state) :
    handledMessage library thread state = extractChatwootMessageId library view.payload := by
  obtain ⟨hrunning, row, hrow, hview⟩ := hhandles
  simp only [handledMessage, hrunning, messageOf, hrow, Option.bind_some, hview]

theorem Handles.event (hhandles : Handles library thread deliveryId view state) :
    handledEvent thread state = some view.eventName := by
  obtain ⟨hrunning, row, hrow, hview⟩ := hhandles
  simp only [handledEvent, hrunning, hrow, Option.map_some, ← hview, webhookView]

structure Forwards (library : WebhookLibrary) (thread : ℕ) (deliveryId : String)
    (view : WebhookView) (state : State) : Prop where
  handles : Handles library thread deliveryId view state
  original : ∀ messageId ∈ extractChatwootMessageId library view.payload,
    IsOriginal messageId state.bridge

theorem Forwards.stays (hstays : Stays thread before after)
    (hforwards : Forwards library thread deliveryId view before) :
    Forwards library thread deliveryId view after :=
  ⟨hforwards.handles.stays hstays, fun messageId hid =>
    (hforwards.original messageId hid).follows hstays.follows⟩

theorem mem_storedBy {env : Env} {before after : Bridge} (hkey : key ∈ storedBy env before after) :
    before.messages.lookup key = none := by
  simp only [storedBy, List.mem_filter, Bool.and_eq_true, Option.isNone_iff_eq_none] at hkey
  exact hkey.2.1

/-- A command that sends a piece keeps the invariant, when the piece was written in
Chatwoot. -/
theorem send_perform {command : Command} {env : Env}
    {answer : Except Failure (Answer (.runtimeCommand command))} (hsend : command.isSend = true)
    (hsound : Sound library before) (hforwards : Forwards library thread deliveryId view before)
    (hperform : (machine library).perform thread (.runtimeCommand command) env before =
      some (answer, after)) :
    Sound library after ∧ Stays thread before after := by
  obtain ⟨hnumbered, hbridge, hafter⟩ := perform_eq_some hperform
  have hquiet : Quiet before.bridge after.bridge :=
    quiet_performOp (fun _ _ _ hcreates => by cases hcreates) hnumbered hbridge
  have hghost : after.ghost = { before.ghost with
      forwarded := before.ghost.forwarded ++ storedBy env before.bridge after.bridge
      sources := before.ghost.sources ++ (handledMessage library thread before).toList } := by
    rw [hafter]
    exact if_pos hsend
  refine ⟨?_, ?_, ?_, hquiet.follows⟩
  · exact
      { numbered := hquiet.numbered hsound.numbered
        once := hquiet.copies ▸ hsound.once
        copied := fun key hkey =>
          hquiet.follows.messages key (hsound.copied key (hquiet.copies ▸ hkey))
        window := fun other key hkey => by
          rw [hghost] at hkey ⊢
          rw [hquiet.copies]
          have hkept := hsound.window other key hkey
          refine ⟨hkept.1, ?_, hquiet.follows.messages key hkept.2.2⟩
          rw [List.mem_append]
          rintro (hold | hnew)
          · exact hkept.2.1 hold
          · rw [mem_storedBy hnew] at hkept
            exact absurd hkept.2.2 (by simp)
        apart := by
          rw [hghost]
          exact hsound.apart
        forwarded := fun key hkey => by
          rw [hghost] at hkey
          rw [hquiet.copies]
          rcases List.mem_append.mp hkey with hold | hnew
          · exact hsound.forwarded key hold
          · intro hcopied
            have hstored := hsound.copied key hcopied
            rw [mem_storedBy hnew] at hstored
            cases hstored
        sources := fun messageId hsource => by
          rw [hghost] at hsource
          rcases List.mem_append.mp hsource with hold | hnew
          · exact (hsound.sources messageId hold).follows hquiet.follows
          · rw [hforwards.handles.message, Option.mem_toList] at hnew
            exact (hforwards.original messageId hnew).follows hquiet.follows
        known := fun later hlater messageId hid => by
          obtain ⟨row, hrow, hpayload⟩ := hquiet.payloads later hlater
          rw [payload_webhookView hpayload] at hid
          exact not_isNew_follows (hsound.known row hrow messageId hid) hquiet.follows }
  · rw [hafter]
  · rw [hghost]

/-- The pieces of a message that was written in Chatwoot are forwarded. -/
theorem secures_forwards {Value : Type} {coroutine : Routine Value}
    (huses : Uses Op.IsForward coroutine) (hsound : Sound library state)
    (hforwards : Forwards library thread deliveryId view state) :
    Secures library thread (fun _ after => Sound library after)
      (fun _ after => Sound library after) coroutine state := by
  have hstep : ∀ op, op.IsForward → ∀ (env : Env) before answer after, Sound library before →
      Forwards library thread deliveryId view before →
      (machine library).perform thread op env before = some (answer, after) →
      Sound library after ∧ Stays thread before after := by
    intro op hop env before answer after hbefore hown hperform
    cases op with
    | runtimeCommand command =>
        cases hsend : command.isSend with
        | true => exact send_perform hsend hbefore hown hperform
        | false =>
            have hplain : IsPlain (.runtimeCommand command) := hsend
            exact plain_perform hplain hbefore hperform
    | download => exact plain_perform (by exact trivial) hbefore hperform
    | recordMessageMap => exact plain_perform (by exact trivial) hbefore hperform
    | setManualTakeover => exact plain_perform (by exact trivial) hbefore hperform
    | _ => exact hop.elim
  have hkept : Secures library thread
      (fun _ after => Sound library after ∧ Forwards library thread deliveryId view after)
      (fun _ after => Sound library after ∧ Forwards library thread deliveryId view after)
      coroutine state := by
    refine huses.secure ?_ ?_ ⟨hsound, hforwards⟩
    · rintro before after ⟨-, hown⟩ ⟨hrely, hafter⟩
      exact ⟨hafter, hown.stays hrely.1⟩
    · rintro op hop before answer after ⟨hbefore, hown⟩ ⟨env, -, hperform⟩
      have hdone := hstep op hop env before answer after hbefore hown hperform
      have hafter := (perform_eq_some hperform).2.2
      refine ⟨⟨hdone.1, fun other hother => rely_others hother ?_ ?_ hdone.2.follows⟩,
        hdone.1, hown.stays hdone.2⟩
      · rw [hafter]
      · rw [hafter]
        exact follows_note
  exact hkept.mono (fun _ _ hafter => hafter.1) fun _ _ hafter => hafter.1

theorem secures_messageMaps {messageId : String} (hname : view.eventName = "message_created")
    (hid : extractChatwootMessageId library view.payload = some messageId)
    (hhandles : Handles library thread deliveryId view state) :
    Secures library thread
      (fun existing after => Sound library after ∧
        Handles library thread deliveryId view after ∧
        (existing = [] → Forwards library thread deliveryId view after))
      (fun _ after => Sound library after)
      (messageMapsByRemoteGlobal messageId) state := by
  refine secures_call fun before answer after env hrely hsound hallowed hperform => ?_
  obtain ⟨-, hbridge, -⟩ := perform_eq_some hperform
  have hplain := plain_perform (by exact trivial) hsound hperform
  have hbefore := hhandles.stays hrely.1
  refine ⟨⟨hplain.1, hplain.2.follows⟩, ?_⟩
  rcases performOp_cases hbridge with ⟨existing, rfl, hraised, heffect⟩ | ⟨failure, rfl, -, -⟩
  · refine ⟨hplain.1, hbefore.stays hplain.2, fun hnone => ?_⟩
    subst hnone
    have hmaps : findMessageMapsByRemoteGlobal messageId before.bridge.maps = [] :=
      (Prod.mk.inj (Option.some.inj heffect)).1
    have hevent : handledEvent thread before = some "message_created" := by
      rw [hbefore.event, hname]
    have horiginal := hallowed hevent hraised hmaps
    have hknown : ¬ IsNew messageId before.bridge := by
      obtain ⟨-, row, hrow, hview⟩ := hbefore
      exact hsound.known row (Table.mem_of_lookup hrow) messageId (by rw [hview, hid]; rfl)
    simp only [IsNew, not_not, List.mem_map] at hknown
    obtain ⟨message, hmessage, hsame⟩ := hknown
    have hforwards : Forwards library thread deliveryId view before :=
      ⟨hbefore, fun other hother => by
        rw [Option.mem_def, hid] at hother
        cases hother
        exact ⟨message, hmessage, hsame, horiginal message hmessage hsame⟩⟩
    exact hforwards.stays hplain.2
  · exact hplain.1

theorem secures_handleMessageCreated (hname : view.eventName = "message_created")
    (hsound : Sound library state) (hhandles : Handles library thread deliveryId view state) :
    Secures library thread (fun _ after => Sound library after)
      (fun _ after => Sound library after)
      (handleMessageCreated library deliveryId view.payload) state := by
  have hignored : Uses IsPlain (do
      finishWebhookOf deliveryId "ignored" none
      pure (.finished (skipped "account Chat disabled")) : Routine Handled) :=
    Uses.bind (uses_perform trivial) fun _ => uses_pure _
  have hrefusal : ∀ {op : Op}, op.IsRefusal → IsPlain op := by
    intro op hop
    cases op <;> trivial
  unfold handleMessageCreated
  dsimp only
  split
  swap
  · exact hsound
  split
  swap
  · exact hsound
  rename_i remoteConversationId remoteMessageId hconversation hmessage
  rw [Secures, secure_bind]
  refine (secures_messageMaps hname hmessage hhandles).mono ?_ fun _ _ hafter => hafter
  rintro existing found ⟨hfound, -, hforwards⟩
  split
  · exact hfound
  rename_i hnone
  have hown := hforwards (not_not.mp hnone)
  have hmapping : Uses IsPlain (conversationMapByRemoteGlobal remoteConversationId) :=
    uses_perform trivial
  rw [secure_bind]
  refine (secures_plain hmapping (fun _ _ hstays hfact => Forwards.stays hstays hfact) hfound
    hown).mono ?_ fun _ _ hafter => hafter.1
  rintro mapped looked ⟨hlooked, hown⟩
  cases mapped with
  | none => exact hlooked
  | some mapping =>
      have hconfig : Uses IsPlain (getConfig (some mapping.accountId)) := uses_perform trivial
      dsimp only
      rw [secure_bind]
      refine (secures_plain hconfig (fun _ _ hstays hfact => Forwards.stays hstays hfact) hlooked
        hown).mono ?_ fun _ _ hafter => hafter.1
      rintro config configured ⟨hconfigured, hown⟩
      cases config with
      | none => exact secures_quietly hignored hconfigured
      | some config =>
          dsimp only
          split
          swap
          · exact secures_quietly hignored hconfigured
          cases attachments (eventMessage view.payload) with
          | none => exact hconfigured
          | some files =>
              rw [orError_some_bind]
              cases anyAudio library files with
              | none => exact hconfigured
              | some audio =>
                  rw [orError_some_bind]
                  split
                  · refine secures_quietly (Uses.bind ?_ fun _ => uses_pure _) hconfigured
                    exact (uses_refuseAudio _ _ _ _ _).mono fun _ => hrefusal
                  · rw [secure_bind]
                    exact (secures_forwards (uses_forwardPieces _ _ _ _) hconfigured hown).mono
                      (fun _ _ hafter => hafter) fun _ _ hafter => hafter

theorem isPlain_of_isRead (hop : op.IsRead) : IsPlain op := by
  cases op <;> trivial

theorem isPlain_of_isStatus (hop : op.IsStatus) : IsPlain op := by
  cases op <;> trivial

theorem secures_dispatchEvent (platformConfig : ConfigView) (hsound : Sound library state)
    (hhandles : Handles library thread deliveryId view state) :
    Secures library thread (fun _ after => Sound library after)
      (fun _ after => Sound library after)
      (dispatchEvent library deliveryId platformConfig view) state := by
  unfold dispatchEvent
  split
  · refine secures_quietly (Uses.bind ?_ fun _ => uses_pure _) hsound
    exact (uses_handleConversationStatus _).mono fun _ => isPlain_of_isStatus
  split
  · refine secures_quietly (Uses.bind ?_ fun _ => uses_pure _) hsound
    exact (uses_handleMessageUpdated _ _).mono fun _ => isPlain_of_isRecall
  split
  · rename_i hname
    exact secures_handleMessageCreated hname hsound hhandles
  · exact hsound

theorem secures_handleEvent (platformConfig : ConfigView) (hsound : Sound library state)
    (hhandles : Handles library thread deliveryId view state) :
    Secures library thread (fun _ after => Sound library after)
      (fun _ after => Sound library after)
      (handleEvent library deliveryId platformConfig view) state := by
  have hreads : Uses IsPlain (readEvents library view.payload) :=
    (uses_readEvents _).mono fun _ => isPlain_of_isRead
  have hread := secures_plain hreads (fun _ _ hstays hfact => Handles.stays hstays hfact) hsound
    hhandles
  exact secure_handleEvent (hread.mono (fun _ _ hafter => hafter) fun _ _ hafter => hafter.1)
    fun after hafter => secures_dispatchEvent platformConfig hafter.1 hafter.2

theorem secures_getWebhook
    (hrunning : (state.running thread).map Task.job = some (.webhook deliveryId)) :
    Secures library thread
      (fun found after => Sound library after ∧
        ∀ view, found = some view → Handles library thread deliveryId view after)
      (fun _ after => Sound library after)
      (getWebhook deliveryId) state := by
  refine secures_call fun before answer after env hrely hsound _ hperform => ?_
  obtain ⟨-, hbridge, -⟩ := perform_eq_some hperform
  have hplain := plain_perform (by exact trivial) hsound hperform
  refine ⟨⟨hplain.1, hplain.2.follows⟩, ?_⟩
  rcases performOp_cases hbridge with ⟨found, rfl, -, heffect⟩ | ⟨failure, rfl, -, -⟩
  · refine ⟨hplain.1, fun view hview => ?_⟩
    have hfound := (Prod.mk.inj (Option.some.inj heffect)).1
    rw [hview, Option.map_eq_some_iff] at hfound
    have hhandles : Handles library thread deliveryId view before :=
      ⟨by rw [hrely.1.running, hrunning], hfound⟩
    exact hhandles.stays hplain.2
  · exact hplain.1

theorem isPlain_of_isFrame (hop : op.IsFrame) : IsPlain op := by
  cases op <;> trivial

theorem secures_executeWebhookTask
    (hrunning : (state.running thread).map Task.job = some (.webhook deliveryId)) :
    Secures library thread (fun _ after => Sound library after)
      (fun _ after => Sound library after)
      (executeWebhookTask library deliveryId) state := by
  have hconfig : Uses IsPlain (getConfig none) := uses_perform trivial
  refine secure_executeWebhookTask (Sound library)
    (fun view after => Sound library after ∧ Handles library thread deliveryId view after)
    ((secures_getWebhook hrunning).mono (fun found after hafter =>
      ⟨hafter.1, fun view hview => ⟨hafter.1, hafter.2 view hview⟩⟩) fun _ _ hafter => hafter)
    (fun huses hsound => secures_quietly (huses.mono fun _ => isPlain_of_isFrame) hsound)
    (fun view after hafter => ?_)
    (fun view after hafter => hafter.1)
    fun view platformConfig after hafter =>
      secures_handleEvent platformConfig hafter.1 hafter.2
  exact (secures_plain hconfig (fun _ _ hstays hfact => Handles.stays hstays hfact) hafter.1
    hafter.2).mono (fun _ _ hended => hended) fun _ _ hended => hended.1

theorem sound_start (settings : Settings) : Sound library (start settings) where
  numbered := List.nodup_nil
  once := List.nodup_nil
  copied _ hkey := by cases hkey
  window _ _ hkey := by cases hkey
  apart _ _ _ hkey := by cases hkey
  forwarded _ hkey := by cases hkey
  sources _ hsource := by cases hsource
  known _ hrow := by cases hrow

theorem quiet_storeMessage {message : LocalMessage} {bridge : Bridge}
    {messages : LocalMessageTable} (hstore : storeMessage message bridge.messages = some messages) :
    Quiet bridge { bridge with messages := messages } where
  follows :=
    { events := fun _ row hrow => ⟨row, hrow, rfl, rfl⟩
      remote := List.Subset.refl _
      messages := fun key hkey => by
        unfold storeMessage at hstore
        dsimp only at hstore
        split at hstore
        · rw [Table.lookup_of_insert? hstore]
          split
          · rfl
          · exact hkey
        · cases hstore
          simpa using hkey }
  numbered := id
  copies := rfl
  payloads later hlater := ⟨later, hlater, rfl⟩

theorem sound_accept {event : WebhookEvent} {events : EventTable} (hsound : Sound library state)
    (hinsert : state.bridge.events.insert? event = some events) (hmessage : ∀ messageId ∈
      extractChatwootMessageId library (webhookView library.loadsText event).payload,
      ¬ IsNew messageId state.bridge) :
    Sound library { state with bridge := { state.bridge with events := events } } ∧
      Follows state.bridge { state.bridge with events := events } := by
  refine ⟨⟨hsound.numbered, hsound.once, hsound.copied, hsound.window, hsound.apart,
    hsound.forwarded, hsound.sources, ?_⟩, ?_, List.Subset.refl _, fun _ hkey => hkey⟩
  · intro row hrow messageId hid
    rw [Table.rows_of_insert? hinsert, List.mem_append, List.mem_singleton] at hrow
    rcases hrow with hold | rfl
    · exact hsound.known row hold messageId hid
    · exact hmessage messageId hid
  · intro deliveryId row hrow
    have hstored := Table.lookup_eq_some_iff.mp hrow
    have hother := Table.noClash_of_insert? hinsert row hstored.1 deliveryId hstored.2
    exact ⟨row, by rw [Table.lookup_of_insert? hinsert, if_neg hother, hrow], rfl, rfl⟩

theorem sound_outside {next : State} {change : Change} (hsound : Sound library state)
    (hchange : outside library state change = some next) :
    Sound library next ∧ ∀ thread, (discipline library).rely thread state next := by
  have hquiet : ∀ bridge, Quiet state.bridge bridge →
      Sound library { state with bridge := bridge } ∧
        ∀ thread, (discipline library).rely thread state { state with bridge := bridge } :=
    fun bridge hquiet => ⟨hsound.quiet hquiet rfl rfl rfl,
      fun thread => ⟨⟨rfl, rfl, hquiet.follows⟩, rfl⟩⟩
  cases change with
  | configure settings =>
      cases hchange
      exact hquiet _ (quiet_of_eq rfl rfl rfl)
  | record message =>
      obtain ⟨messages, hstore, rfl⟩ := Option.map_eq_some_iff.mp hchange
      exact hquiet _ (quiet_storeMessage hstore)
  | revise accountId messagePk =>
      obtain ⟨message, -, rfl⟩ := Option.map_eq_some_iff.mp hchange
      refine ⟨hsound.quiet ?_ ?_ ?_ ?_, fun thread => ⟨⟨?_, ?_, ?_⟩, ?_⟩⟩ <;>
        simp only [Workers.bridge_enqueue, Workers.running_enqueue, Workers.ghost_enqueue]
      · exact .refl _
      · exact .refl _
  | write message =>
      simp only [outside] at hchange
      split at hchange
      · rename_i hnew
        cases hchange
        exact hquiet _ (quiet_post hnew.1 hnew.2)
      · cases hchange
  | accept event =>
      simp only [outside] at hchange
      split at hchange
      · rename_i hmessage
        obtain ⟨events, hinsert, rfl⟩ := Option.map_eq_some_iff.mp hchange
        have haccepted := sound_accept hsound hinsert hmessage
        refine ⟨haccepted.1.narrow ?_ ?_ ?_ ?_, fun thread => ⟨⟨?_, ?_, ?_⟩, ?_⟩⟩ <;>
          simp only [Workers.bridge_enqueue, Workers.running_enqueue, Workers.ghost_enqueue]
        · exact fun _ _ hkey => hkey
        · exact haccepted.2
      · cases hchange

theorem secures_program {task : Task} (hrunning : state.running thread = some task)
    (hsound : Sound library state) :
    Secures library thread (fun _ after => Sound library after)
      (fun _ after => Sound library after) (task.job.program library) state := by
  cases hjob : task.job with
  | webhook deliveryId =>
      refine secures_executeWebhookTask ?_
      rw [hrunning, Option.map_some, hjob]
  | localMessage accountId messagePk revision =>
      exact secures_executeLocalMessageTask accountId messagePk hsound

theorem machine_sound : (machine library).Sound (discipline library) where
  refl thread state := ⟨.refl thread state, rfl⟩
  trans thread first second third hfirst hsecond :=
    ⟨hfirst.1.trans hsecond.1, hsecond.2.trans hfirst.2⟩
  start thread task state next hsound _ hstart := by
    have hnext := Workers.claim_eq_some hstart
    subst hnext
    have hclaimed : Sound library { state with
        queue := state.queue.erase task
        running := Function.update state.running thread (some task) } :=
      hsound.narrow rfl (fun _ _ hkey => hkey) rfl rfl
    refine ⟨⟨hclaimed, fun other hother => ⟨⟨Function.update_of_ne hother _ _, rfl, .refl _⟩,
      rfl⟩⟩, ?_⟩
    exact (secures_program (Function.update_self _ _ _) hclaimed).mono
      (fun _ _ hafter => leaves_harmlessly hafter _) fun _ _ hafter => leaves_harmlessly hafter _
  crash thread state hsound _ := leaves_harmlessly hsound none
  outside change state next hsound _ hchange := sound_outside hsound hchange

/-- In every run whose tasks find no map only of messages that they are the first to see,
Xianyu messages are copied once and not sent back, and forwarded messages are not copied. -/
theorem mirrored_of_run {settings : Settings} {turns : List (Turn Task Env Change)}
    {final : Threads State Op Answer Failure Members}
    (hrun : Run
      (restrict (ofPartial (machine library).apply) (Machine.Keeps (discipline library)))
      (Machine.idle (start settings)) turns final) :
    Mirrored final.state := by
  have hsound : Sound library final.state :=
    Machine.invariant_of_run machine_sound (sound_start settings) hrun
  exact hsound.mirrored

def sampleMessage : LocalMessage := ⟨"a", "p", "c", "inbound", none, false, true, [], []⟩

def sampleLibrary : WebhookLibrary where
  loads _ := .error true
  decode _ := none
  encode _ := []
  sha256 _ := ""
  hmacSha256 _ _ := ""
  isDigit _ := false
  int _ := .error .notAnInteger
  str := Json.dumps
  decrypt _ := none
  loadsText _ := none
  epochSeconds _ := some none
  isTimestamp _ := true
  urlSuffix _ := some ""

def sampleSettings : Settings := .ofOneMap none "peer" "3"

def sampleRecorded : List (Turn Task Env Change) :=
  [.outside (.record sampleMessage), .outside (.revise "a" "p")]

def sampleAttempt (thread attempt : ℕ) : List (Turn Task Env Change) :=
  [.start thread ⟨.localMessage "a" "p" "received", attempt⟩, .resume thread {},
    .resume thread {}, .resume thread {}, .resume thread {}]

def lostResponse : Env where
  raised := some (.exception "timed out")
  committed := true
  messageId := "1"

/-- Chatwoot creates the copy and answers with its id. -/
def response (messageId : String) : Env where
  messageId := messageId
  responseId := some messageId

/-- The response to the first request is lost, and the retry finds no map. -/
theorem copied_after_lost_response :
    ∃ final, Run (ofPartial (machine sampleLibrary).apply)
        (Machine.idle (start sampleSettings))
        (sampleRecorded ++ sampleAttempt 0 0 ++ [.resume 0 lostResponse] ++
          sampleAttempt 1 1 ++ [.resume 1 (response "2")]) final ∧
      ¬ Mirrored final.state := by
  refine ⟨_, run_ofPartial_iff.mpr rfl, fun hmirrored => ?_⟩
  exact absurd (hmirrored.once ("a", "p")) (by decide)

/-- A message whose first attempt is answered is copied once. -/
theorem mirrored_after_answer :
    ∃ final, Run
        (restrict (ofPartial (machine sampleLibrary).apply)
          (Machine.Keeps (discipline sampleLibrary)))
        (Machine.idle (start sampleSettings))
        (sampleRecorded ++ sampleAttempt 0 0 ++
          [.resume 0 (response "1"), .resume 0 {}, .resume 0 {}]) final ∧
      copies final.state.bridge = [("a", "p")] ∧ Mirrored final.state := by
  have hruns : ∃ final, Run
        (restrict (ofPartial (machine sampleLibrary).apply)
          (Machine.Keeps (discipline sampleLibrary)))
        (Machine.idle (start sampleSettings))
        (sampleRecorded ++ sampleAttempt 0 0 ++
          [.resume 0 (response "1"), .resume 0 {}, .resume 0 {}]) final ∧
      copies final.state.bridge = [("a", "p")] := by
    refine ⟨_, .cons ⟨trivial, rfl⟩ (.cons ⟨trivial, rfl⟩ (.cons ⟨trivial, rfl⟩
      (.cons ⟨?_, rfl⟩ (.cons ⟨?_, rfl⟩ (.cons ⟨?_, rfl⟩ (.cons ⟨?_, rfl⟩ (.cons ⟨?_, rfl⟩
      (.cons ⟨?_, rfl⟩ (.cons ⟨?_, rfl⟩ (.nil _)))))))))), rfl⟩
    all_goals
      intro op resume hrunning
      cases hrunning
    case refine_3 =>
      intro _ _ _
      exact ⟨List.not_mem_nil, List.not_mem_nil, fun other hother => by cases hother⟩
    all_goals exact trivial
  obtain ⟨final, hrun, hcopies⟩ := hruns
  exact ⟨final, hrun, hcopies, mirrored_of_run hrun⟩

end XianyuAdmin.Chatwoot.MirroredOnce
