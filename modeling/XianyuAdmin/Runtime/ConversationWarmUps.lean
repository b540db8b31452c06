import XianyuAdmin.Pushes.ConversationListing

/-!
# Warm-ups of the conversations of an account

A warm-up goes through the conversations from the newest page on.  The first one that comes to
the last page marks the account, and after it only the newest page is fetched.  What the calls
of `sync_conversations` for one page share is left open: a warm-up may be given any fetch of its
page that has been stored, its own or that of another caller.
-/

namespace XianyuAdmin.Runtime

open XianyuAdmin.Pushes
open Transition

structure StoredPage where
  cursor : Option ℤ
  response : Members
  page : ConversationPage

/-- `not has_more or next_cursor is None` -/
def StoredPage.isLast (stored : StoredPage) : Bool :=
  !stored.page.hasMore || stored.page.nextCursor.isNone

/-- The local variables of `_warm_account_conversations`, and the pages it has been given. -/
structure WarmUp where
  fullSync : Bool
  cursor : Option ℤ := none
  pages : ℕ := 0
  failures : ℕ := 0
  walked : List StoredPage := []

/-- The account: whether it is in `_conversation_full_sync_completed`, the warm-up that has the
lock, the pages that were upserted, and the pages that each warm-up had been given which marked
the account. -/
structure Warming where
  completed : Bool := false
  active : Option WarmUp := none
  stored : List StoredPage := []
  walks : List (List StoredPage) := []

inductive WarmAct
  /-- A warm-up gets the lock. -/
  | begins
  /-- A call of `_sync_conversations_once` has listed the page at the cursor, and upserts it if
  nothing raises; `answers` are what the platform answers. -/
  | fetches (cursor : Option ℤ) (answers : ℕ → Except String Members) (upserts : Bool)
  /-- `sync_conversations` returns a fetch to the warm-up. -/
  | receives (stored : StoredPage)
  /-- `sync_conversations` raises. -/
  | raises
  | cancels

section Acts

variable (library : PushLibrary) (session : PushSession) (maxPages : ℕ)

/-- `_sync_conversations_once`, as far as it leaves a page. -/
def fetchPage (cursor : Option ℤ) (answers : ℕ → Except String Members) (upserts : Bool)
    (warming : Warming) : Warming :=
  match lastResponse library 3 answers, listConversations library session answers with
  | .ok response, .ok page =>
      if upserts then { warming with stored := warming.stored ++ [⟨cursor, response, page⟩] }
      else warming
  | _, _ => warming

def receivePage (warmUp : WarmUp) (stored : StoredPage) (warming : Warming) : Warming :=
  let walked := warmUp.walked ++ [stored]
  if !warmUp.fullSync || stored.isLast then
    if stored.isLast then
      { warming with completed := true, active := none, walks := warming.walks ++ [walked] }
    else { warming with active := none }
  else if maxPages ≤ warmUp.pages + 1 then { warming with active := none }
  else if stored.page.nextCursor = warmUp.cursor then { warming with active := none }
  else
    { warming with
      active := some
        { warmUp with
          cursor := stored.page.nextCursor
          pages := warmUp.pages + 1
          failures := 0
          walked := walked } }

def failAttempt (warmUp : WarmUp) (warming : Warming) : Warming :=
  { warming with
    active :=
      if warmUp.failures + 1 = 3 then none
      else some { warmUp with failures := warmUp.failures + 1 } }

inductive WarmStep : Warming → WarmAct → Warming → Prop
  | begins {warming : Warming} (hfree : warming.active = none) :
      WarmStep warming .begins
        { warming with active := some { fullSync := !warming.completed } }
  | fetches (warming : Warming) (cursor : Option ℤ) (answers : ℕ → Except String Members)
      (upserts : Bool) :
      WarmStep warming (.fetches cursor answers upserts)
        (fetchPage library session cursor answers upserts warming)
  | receives {warming : Warming} {warmUp : WarmUp} {stored : StoredPage}
      (hactive : warming.active = some warmUp) (hstored : stored ∈ warming.stored)
      (hcursor : stored.cursor = warmUp.cursor) :
      WarmStep warming (.receives stored) (receivePage maxPages warmUp stored warming)
  | raises {warming : Warming} {warmUp : WarmUp} (hactive : warming.active = some warmUp) :
      WarmStep warming .raises (failAttempt warmUp warming)
  | cancels {warming : Warming} {warmUp : WarmUp} (hactive : warming.active = some warmUp) :
      WarmStep warming .cancels { warming with active := none }

end Acts

variable (library : PushLibrary)

/-- The pages follow one another from the cursor to the last one, whose answer is successful. -/
def IsWalk : Option ℤ → List StoredPage → Prop
  | _, [] => False
  | cursor, stored :: rest =>
      stored.cursor = cursor ∧
        if rest = [] then
          isSuccessful library stored.response = true ∧ stored.isLast = true
        else stored.isLast = false ∧ IsWalk stored.page.nextCursor rest

/-- The account is marked only where a single warm-up was given every page from the newest to
the last, all of them upserted, and no answer with an error counts as a page. -/
structure FullSyncHonest (warming : Warming) : Prop where
  completed : warming.completed = true → ∃ walk ∈ warming.walks, IsWalk library none walk ∧
    ∀ stored ∈ walk, stored ∈ warming.stored
  successful : ∀ stored ∈ warming.stored, isSuccessful library stored.response = true

def answersReason (_ : Warming) : WarmAct → Prop
  | .fetches _ answers _ =>
      ∀ response, lastResponse library 3 answers = .ok response → GivesReason library response
  | .begins | .receives _ | .raises | .cancels => True

section Runs

variable {library} {session : PushSession} {maxPages : ℕ} {warming next : Warming}
  {warmUp : WarmUp} {stored : StoredPage}

theorem not_hasKey_reason {answers : ℕ → Except String Members} {response : Members}
    {page : ConversationPage} (hresponse : lastResponse library 3 answers = .ok response)
    (hpage : listConversations library session answers = .ok page) :
    hasKey (responseBody response) "reason" = false := by
  rw [listConversations, hresponse] at hpage
  by_contra hreason
  rw [Bool.not_eq_false] at hreason
  simp only [bind, Except.bind, hreason, if_true] at hpage
  cases hpage

/-- The pages of a warm-up follow one another to its cursor, and none of them is the last. -/
inductive Follows : List StoredPage → Option ℤ → Prop
  | nil : Follows [] none
  | snoc {walked : List StoredPage} {stored : StoredPage} {cursor : Option ℤ}
      (hwalked : Follows walked cursor) (hcursor : stored.cursor = cursor)
      (hmore : stored.isLast = false) :
      Follows (walked ++ [stored]) stored.page.nextCursor

structure Honest (library : PushLibrary) (warming : Warming) : Prop
    extends FullSyncHonest library warming where
  active : ∀ warmUp, warming.active = some warmUp →
    Follows warmUp.walked warmUp.cursor ∧ ∀ stored ∈ warmUp.walked, stored ∈ warming.stored

theorem honest_new : Honest library { } where
  completed := nofun
  successful := by simp
  active := nofun

theorem isWalk_append {walked rest : List StoredPage} {cursor : Option ℤ}
    (hwalked : Follows walked cursor) (hrest : IsWalk library cursor rest) :
    IsWalk library none (walked ++ rest) := by
  induction hwalked generalizing rest with
  | nil => exact hrest
  | @snoc walked stored cursor _ hcursor hmore ih =>
      rw [List.append_assoc]
      refine ih ⟨hcursor, ?_⟩
      have hnonEmpty : rest ≠ [] := by
        rintro rfl
        exact hrest
      have htail : [].append rest ≠ [] := hnonEmpty
      rw [if_neg htail]
      exact ⟨hmore, hrest⟩

/-- Pages are upserted, and nothing else changes. -/
theorem Honest.store (h : Honest library warming) {pages : List StoredPage}
    (hpages : ∀ stored ∈ pages, isSuccessful library stored.response = true) :
    Honest library { warming with stored := warming.stored ++ pages } where
  completed hcompleted := by
    obtain ⟨walk, hwalk, hwalks, hstored⟩ := h.completed hcompleted
    exact ⟨walk, hwalk, hwalks, fun stored hmem => List.mem_append_left _ (hstored stored hmem)⟩
  successful := List.forall_mem_append.mpr ⟨h.successful, hpages⟩
  active warmUp hactive :=
    ⟨(h.active warmUp hactive).1,
      fun stored hmem => List.mem_append_left _ ((h.active warmUp hactive).2 stored hmem)⟩

theorem Honest.fetches (h : Honest library warming) {cursor : Option ℤ}
    {answers : ℕ → Except String Members} {upserts : Bool}
    (hreason : ∀ response, lastResponse library 3 answers = .ok response →
      GivesReason library response) :
    Honest library (fetchPage library session cursor answers upserts warming) := by
  unfold fetchPage
  split
  · rename_i response page hresponse hpage
    have hnone := not_hasKey_reason hresponse hpage
    have hsuccessful : isSuccessful library response = true := by
      by_contra hfailed
      rw [Bool.not_eq_true] at hfailed
      rw [hreason response hresponse hfailed] at hnone
      cases hnone
    split
    · exact h.store (by simpa using hsuccessful)
    · exact h
  · exact h

/-- The warm-up ends, or is replaced by one that has been given stored pages in order. -/
theorem Honest.setActive (h : Honest library warming) {active : Option WarmUp}
    (hactive : ∀ warmUp, active = some warmUp → Follows warmUp.walked warmUp.cursor ∧
      ∀ stored ∈ warmUp.walked, stored ∈ warming.stored) :
    Honest library { warming with active := active } where
  completed := h.completed
  successful := h.successful
  active := hactive

theorem Honest.receives (h : Honest library warming) (hactive : warming.active = some warmUp)
    (hstored : stored ∈ warming.stored) (hcursor : stored.cursor = warmUp.cursor) :
    Honest library (receivePage maxPages warmUp stored warming) := by
  obtain ⟨hfollows, hwalked⟩ := h.active warmUp hactive
  have hall : ∀ other ∈ warmUp.walked ++ [stored], other ∈ warming.stored :=
    List.forall_mem_append.mpr ⟨hwalked, by simpa using hstored⟩
  have hends : Honest library { warming with active := none } := h.setActive nofun
  unfold receivePage
  dsimp only
  split
  · split
    · rename_i hlast
      exact
        { completed := fun _ => ⟨_, List.mem_append_right _ (List.mem_singleton_self _),
            isWalk_append hfollows ⟨hcursor, by
              rw [if_pos rfl]
              exact ⟨h.successful stored hstored, hlast⟩⟩, hall⟩
          successful := h.successful
          active := nofun }
    · exact hends
  · rename_i hmore
    split
    · exact hends
    · split
      · exact hends
      · refine h.setActive fun next hnext => ?_
        cases hnext
        have hmore : stored.isLast = false := by
          rw [Bool.or_eq_true, not_or] at hmore
          exact Bool.eq_false_iff.mpr hmore.2
        exact ⟨hfollows.snoc hcursor hmore, hall⟩

theorem Honest.step (h : Honest library warming) {act : WarmAct}
    (hreason : answersReason library warming act)
    (hstep : WarmStep library session maxPages warming act next) : Honest library next := by
  cases hstep with
  | begins =>
      refine h.setActive fun warmUp hwarmUp => ?_
      cases hwarmUp
      exact ⟨.nil, nofun⟩
  | fetches => exact h.fetches hreason
  | receives hactive hstored hcursor => exact h.receives hactive hstored hcursor
  | @raises warmUp hactive =>
      refine h.setActive fun next hnext => ?_
      split at hnext
      · cases hnext
      · cases hnext
        exact h.active warmUp hactive
  | cancels => exact h.setActive nofun

end Runs

/-- While every listing that fails says why, an account is marked as synchronised only after a
warm-up that was given every page up to the last. -/
theorem full_sync_honest (library : PushLibrary) (session : PushSession) (maxPages : ℕ)
    (acts : List WarmAct) (warming : Warming)
    (hrun : Run (restrict (WarmStep library session maxPages) (answersReason library)) { } acts
      warming) : FullSyncHonest library warming :=
  (hrun.invariant (Honest library) (fun _ _ _ honest hstep => honest.step hstep.1 hstep.2)
    honest_new).toFullSyncHonest

def listingLibrary : PushLibrary where
  loads _ := .error .jsonDecodeError
  base64Text _ := none
  decrypt _ := none
  str
    | .bool true => "True"
    | .bool false => "False"
    | _ => "None"
  isDigit _ := false
  int _ := none
  truncate _ := 0
  query _ := some []
  plainText := id
  texts := Messages.tabulated []
  recursionLimit := 900

def listingSession : PushSession where
  accountId := "account"
  myId := "2200"

def onePage : Members :=
  [("body", .obj [("userConvs", .arr []), ("hasMore", .bool false)])]

def rateLimit : Members :=
  [("body", .obj [("code", .str "400600001")])]

def emptyPage : ConversationPage where
  items := []
  hasMore := false
  nextCursor := none

/-- The account is marked after its one page. -/
theorem one_page_marked : ∃ warming,
    Run (WarmStep listingLibrary listingSession 50) { }
      [.begins, .fetches none (fun _ => .ok onePage) true, .receives ⟨none, onePage, emptyPage⟩]
      warming ∧
    warming.completed = true ∧ FullSyncHonest listingLibrary warming := by
  have hrun : ∃ warming,
      Run (restrict (WarmStep listingLibrary listingSession 50) (answersReason listingLibrary)) { }
        [.begins, .fetches none (fun _ => .ok onePage) true, .receives ⟨none, onePage, emptyPage⟩]
        warming ∧ warming.completed = true := by
    refine ⟨_, .cons ⟨trivial, .begins rfl⟩ (.cons ⟨?_, .fetches _ _ _ _⟩
      (.cons ⟨trivial, .receives rfl (List.mem_singleton_self _) rfl⟩ (.nil _))), rfl⟩
    intro response hresponse
    cases hresponse
    exact fun hfailed => absurd hfailed (by decide)
  obtain ⟨warming, hrun, hcompleted⟩ := hrun
  exact ⟨warming, hrun.forget, hcompleted, full_sync_honest _ _ _ _ _ hrun⟩

/-- Three rate limits without a reason are taken for a last page without conversations. -/
theorem rate_limit_marked : ∃ warming,
    Run (WarmStep listingLibrary listingSession 50) { }
      [.begins, .fetches none (fun _ => .ok rateLimit) true,
        .receives ⟨none, rateLimit, emptyPage⟩] warming ∧
    warming.completed = true ∧ ¬ FullSyncHonest listingLibrary warming := by
  refine ⟨_, .cons (.begins rfl) (.cons (.fetches _ _ _ _)
    (.cons (.receives rfl (List.mem_singleton_self _) rfl) (.nil _))), rfl, fun honest => ?_⟩
  exact absurd (honest.successful ⟨none, rateLimit, emptyPage⟩ (List.mem_singleton_self _))
    (by decide)

end XianyuAdmin.Runtime
