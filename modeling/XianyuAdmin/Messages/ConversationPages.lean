import XianyuAdmin.Core.KeysetPages
import XianyuAdmin.Core.Python
import XianyuAdmin.Core.StableSort
import Mathlib.Data.Prod.Lex
import Mathlib.Data.String.Basic

/-!
# Paging through the conversations of a user

`_list_conversations_for_user_sync` lists the visible conversations, the last active ones first.
The cursor of a page spells the activity time and the primary key of its last row; the same
parameter may still carry an offset of an older client.  The tables stand still here.
-/

namespace XianyuAdmin.Messages

open XianyuAdmin.Python

/-- A `datetime` of the years 1 to 9999 in UTC. -/
structure Moment where
  microseconds : ℤ
  inRange : -62135596800000000 ≤ microseconds ∧ microseconds ≤ 253402300799999999
  deriving DecidableEq

/-- A row of `xianyu_conversations`, as far as the list depends on it. -/
structure ListedConversation where
  conversationPk : Identifier
  accountId : String
  lastActivityAt : Option Moment
  lastMessageAt : Option Moment
  createdAt : Moment
  unreadCount : ℕ
  needsReply : Bool
  deriving DecidableEq

structure ListedAccount where
  enabled : Bool
  conversationVisible : Bool

/-- The rows that one list reads.  `readCounts` are the unread counts of the user's read states by
conversation. -/
structure InboxTables where
  accounts : String → Option ListedAccount
  conversations : List ListedConversation
  readCounts : Identifier → Option ℕ
  conversations_nodup : (conversations.map ListedConversation.conversationPk).Nodup

namespace ListedConversation

def activityAt (conversation : ListedConversation) : Moment :=
  (conversation.lastActivityAt.or conversation.lastMessageAt).getD conversation.createdAt

/-- What the list is ordered by, in descending order. -/
def rank (conversation : ListedConversation) : ℤ ×ₗ String :=
  toLex (conversation.activityAt.microseconds, conversation.conversationPk.text)

def Precedes (first second : ListedConversation) : Prop := second.rank < first.rank

instance : DecidableRel Precedes := fun _ _ => inferInstanceAs (Decidable (_ < _))

end ListedConversation

namespace InboxTables

variable (tables : InboxTables)

/-- The row is visible and meets the filters. -/
def shown (accountId : Option String) (status : String) (conversation : ListedConversation) :
    Bool :=
  ((tables.accounts conversation.accountId).any fun account =>
    account.enabled && account.conversationVisible) &&
    (!truthy accountId || accountId = some conversation.accountId) &&
    (if status = "unread" then
      0 < (tables.readCounts conversation.conversationPk).getD conversation.unreadCount
    else if status = "needs_reply" then conversation.needsReply
    else true)

def matching (accountId : Option String) (status : String) : List ListedConversation :=
  tables.conversations.filter (tables.shown accountId status)

end InboxTables

/-- `order_by(activity_at.desc(), conversation_pk.desc())` -/
def inOrder (conversations : List ListedConversation) : List ListedConversation :=
  conversations.insertionSort fun first second => second.rank ≤ first.rank

structure CursorLibrary where
  /-- `int(text)`; `none` is a `ValueError`. -/
  int : String → Option ℤ
  /-- `char.isdigit()` -/
  digit : Char → Bool
  /-- `datetime.fromtimestamp(microseconds / 1_000_000, UTC)`; `none` is an exception. -/
  fromTimestamp : ℤ → Option Moment
  int_zero : int (toString (0 : ℤ)) = some 0
  int_microseconds : ∀ moment : Moment,
    int (toString moment.microseconds) = some moment.microseconds
  digit_dot : digit '.' = false
  fromTimestamp_microseconds : ∀ moment : Moment,
    fromTimestamp moment.microseconds = some moment

def splitDot : List Char → Option (List Char × List Char)
  | [] => none
  | char :: rest =>
      if char = '.' then some ([], rest)
      else (splitDot rest).map fun parts => (char :: parts.1, parts.2)

/-- `str(cursor).split(".", 2)` where it has three parts. -/
def cursorParts (cursor : String) : Option (String × String × String) :=
  (splitDot cursor.toList).bind fun first =>
    (splitDot first.2).map fun second =>
      (String.ofList first.1, String.ofList second.1, String.ofList second.2)

def encodeConversationCursor (unreadPriority : ℤ) (activityAt : Moment) (conversationPk : String) :
    String :=
  toString unreadPriority ++ "." ++ toString activityAt.microseconds ++ "." ++ conversationPk

section Pages

variable (library : CursorLibrary)

/-- `_decode_conversation_cursor`; the outer `none` is an exception. -/
def decodeConversationCursor (cursor : Option String) : Option (Option (Moment × String)) :=
  match cursor.bind cursorParts with
  | none => some none
  | some (priority, microseconds, conversationPk) =>
      match library.int priority, library.int microseconds with
      | some priority, some microseconds =>
          if (priority ≠ 0 ∧ priority ≠ 1) ∨ conversationPk = "" then some none
          else (library.fromTimestamp microseconds).map fun moment => some (moment, conversationPk)
      | _, _ => some none

/-- `str(cursor).isdigit()` -/
def isOffset (cursor : String) : Bool := cursor ≠ "" && cursor.toList.all library.digit

/-- `legacy_offset`; `none` is an exception. -/
def legacyOffset (cursor : Option String) : Option ℕ :=
  match cursor with
  | none => some 0
  | some cursor =>
      if isOffset library cursor then (library.int cursor).map fun offset => (max 0 offset).toNat
      else some 0

def afterCursor (decoded : Option (Moment × String)) (conversation : ListedConversation) : Bool :=
  decoded.all fun cursor =>
    conversation.activityAt.microseconds < cursor.1.microseconds ||
      conversation.activityAt.microseconds = cursor.1.microseconds &&
        conversation.conversationPk.text < cursor.2

def rowCursor (conversation : ListedConversation) : String :=
  encodeConversationCursor 0 conversation.activityAt conversation.conversationPk.text

/-- `_list_conversations_for_user_sync`; `none` is an exception. -/
def listConversations (tables : InboxTables) (accountId : Option String) (status : String)
    (limit : ℤ) (cursor : Option String) : Option (Page ListedConversation String) :=
  let boundedLimit := (max 1 (min limit 200)).toNat
  (legacyOffset library cursor).bind fun offset =>
    (decodeConversationCursor library cursor).map fun decoded =>
      let kept := (tables.matching accountId status).filter (afterCursor decoded)
      cutPage rowCursor boundedLimit ((inOrder kept).drop offset)

end Pages

theorem splitDot_append {front : List Char} (hfront : '.' ∉ front) (back : List Char) :
    splitDot (front ++ '.' :: back) = some (front, back) := by
  induction front with
  | nil => rfl
  | cons char rest ih =>
      have hchar : char ≠ '.' := fun hsame => hfront (hsame ▸ List.mem_cons_self)
      have hrest : '.' ∉ rest := fun hmem => hfront (List.mem_cons_of_mem _ hmem)
      rw [List.cons_append, splitDot, if_neg hchar, ih hrest, Option.map_some]

theorem dot_not_mem_toString (value : ℤ) : '.' ∉ (toString value).toList := by
  have hdigits : ∀ count : ℕ, '.' ∉ Nat.toDigits 10 count := fun count hmem =>
    absurd (Nat.isDigit_of_mem_toDigits (by decide) (by decide) hmem) (by decide)
  cases value with
  | ofNat count => simpa [toString, Int.repr] using hdigits count
  | negSucc count => simpa [toString, Int.repr] using hdigits (count + 1)

theorem cursorParts_encode (unreadPriority : ℤ) (activityAt : Moment) (conversationPk : String) :
    cursorParts (encodeConversationCursor unreadPriority activityAt conversationPk) =
      some (toString unreadPriority, toString activityAt.microseconds, conversationPk) := by
  have hchars : (encodeConversationCursor unreadPriority activityAt conversationPk).toList =
      (toString unreadPriority).toList ++ '.' ::
        ((toString activityAt.microseconds).toList ++ '.' :: conversationPk.toList) := by
    simp [encodeConversationCursor]
  rw [cursorParts, hchars, splitDot_append (dot_not_mem_toString _), Option.bind_some,
    splitDot_append (dot_not_mem_toString _), Option.map_some]
  simp only [String.ofList_toList]

section Cursors

variable (library : CursorLibrary) (conversation : ListedConversation)

theorem decode_rowCursor :
    decodeConversationCursor library (some (rowCursor conversation)) =
      some (some (conversation.activityAt, conversation.conversationPk.text)) := by
  have hpk := conversation.conversationPk.ne_empty
  rw [decodeConversationCursor, Option.bind_some, rowCursor, cursorParts_encode]
  simp only [library.int_zero, library.int_microseconds, library.fromTimestamp_microseconds, hpk,
    ne_eq, not_true_eq_false, false_and, or_self, if_false, Option.map_some]

theorem legacyOffset_rowCursor : legacyOffset library (some (rowCursor conversation)) = some 0 := by
  have hdot : '.' ∈ (rowCursor conversation).toList := by
    simp [rowCursor, encodeConversationCursor]
  have hoffset : isOffset library (rowCursor conversation) = false := by
    rw [isOffset, Bool.and_eq_false_iff]
    refine .inr (List.all_eq_false.mpr ⟨'.', hdot, ?_⟩)
    rw [library.digit_dot]
    exact Bool.false_ne_true
  simp [legacyOffset, hoffset]

theorem afterCursor_iff (other : ListedConversation) :
    afterCursor (some (conversation.activityAt, conversation.conversationPk.text)) other = true ↔
      conversation.Precedes other := by
  simp [afterCursor, ListedConversation.Precedes, ListedConversation.rank, Prod.Lex.lt_iff]

end Cursors

theorem rank_injOn (tables : InboxTables) :
    Set.InjOn ListedConversation.rank {row | row ∈ tables.conversations} := by
  intro first hfirst second hsecond hrank
  have htext : first.conversationPk.text = second.conversationPk.text :=
    congrArg (fun rank => (ofLex rank).2) hrank
  have hpk : first.conversationPk = second.conversationPk := by
    cases hfirstPk : first.conversationPk
    cases hsecondPk : second.conversationPk
    rw [hfirstPk, hsecondPk] at htext
    cases htext
    rfl
  exact List.inj_on_of_nodup_map tables.conversations_nodup hfirst hsecond hpk

abbrev NotAfter (first second : ListedConversation) : Prop := second.rank ≤ first.rank

instance : Std.Total NotAfter := ⟨fun first second => le_total second.rank first.rank⟩

instance : IsTrans ListedConversation NotAfter := ⟨fun _ _ _ hfirst hsecond => hsecond.trans hfirst⟩

theorem pairwise_inOrder (tables : InboxTables) (accountId : Option String) (status : String) :
    (inOrder (tables.matching accountId status)).Pairwise ListedConversation.Precedes := by
  have hsorted : (inOrder (tables.matching accountId status)).Pairwise NotAfter :=
    List.pairwise_insertionSort NotAfter _
  have hdistinct : (inOrder (tables.matching accountId status)).Nodup :=
    (List.perm_insertionSort NotAfter _).nodup_iff.mpr
      ((List.Nodup.of_map _ tables.conversations_nodup).filter _)
  have hstored : ∀ row ∈ inOrder (tables.matching accountId status),
      row ∈ tables.conversations := fun row hmem =>
    List.mem_of_mem_filter ((List.mem_insertionSort NotAfter).mp hmem)
  refine (hsorted.and hdistinct).imp_of_mem fun hfirst hsecond hboth => ?_
  exact lt_of_le_of_ne hboth.1 fun hrank =>
    hboth.2 (rank_injOn tables (hstored _ hfirst) (hstored _ hsecond) hrank.symm)

theorem listConversations_rowCursor (library : CursorLibrary) (tables : InboxTables)
    (accountId : Option String) (status : String) (limit : ℤ)
    {front back : List ListedConversation} {row : ListedConversation}
    (hrows : inOrder (tables.matching accountId status) = front ++ row :: back) :
    listConversations library tables accountId status limit (some (rowCursor row)) =
      some (cutPage rowCursor (max 1 (min limit 200)).toNat back) := by
  have hsorted := pairwise_inOrder tables accountId status
  have hbehind : (inOrder (tables.matching accountId status)).filter
      (afterCursor (some (row.activityAt, row.conversationPk.text))) = back := by
    rw [hrows] at hsorted ⊢
    have hfilter : (front ++ row :: back).filter
        (afterCursor (some (row.activityAt, row.conversationPk.text))) =
          (front ++ row :: back).filter (fun other => row.Precedes other) :=
      List.filter_congr fun other _ => by
        rw [Bool.eq_iff_iff, afterCursor_iff, decide_eq_true_eq]
    rw [hfilter]
    exact filter_after_eq (fun _ _ hfirst hsecond => lt_asymm hfirst hsecond) hsorted
  have hkept : inOrder ((tables.matching accountId status).filter
      (afterCursor (some (row.activityAt, row.conversationPk.text)))) = back :=
    (StableSort.insertionSort_filter NotAfter _ _).trans hbehind
  rw [listConversations, legacyOffset_rowCursor, Option.bind_some, decode_rowCursor]
  simp only [Option.map_some, hkept, List.drop_zero]

end XianyuAdmin.Messages
