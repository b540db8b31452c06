import XianyuAdmin.Backfills.CardUpserts
import XianyuAdmin.Cards.CardTitles
import XianyuAdmin.Messages.Conversations
import Mathlib.Data.List.Sort

/-!
# Item contexts and cards of stored messages

`_backfill_message_contexts_sync` parses the payload of every stored message once more: it fills
in the item of the message, upserts its cards and applies the last item context of each
conversation.  A second run in a row does nothing where no parsed title was cut and no item text
was kept beside a cut item id.
-/

namespace XianyuAdmin.Backfills

open XianyuAdmin.Cards
open XianyuAdmin.Messages
open XianyuAdmin.Python
open Function (update)

/-- A row of `xianyu_conversations`, as far as the backfills read and write it. -/
structure StoredConversation where
  accountId : String
  conversationId : String
  peerUserId : Option String := none
  peerName : Option String := none
  item : ItemColumns := ⟨none, none, none, none, none, none, none⟩
  lastMessageAt : Option ℤ := none
  updatedAt : ℤ := 0
  deriving DecidableEq

/-- The unique key of `xianyu_peer_identities`. -/
structure PeerKey where
  platform : String
  accountId : String
  peerUserId : String
  deriving DecidableEq

/-- The rows that the backfills work on.  `platforms` are the platforms of the accounts. -/
@[ext]
structure BackfillStore where
  platforms : String → Option String
  messages : List StoredMessage
  conversations : List StoredConversation
  cards : List CardRow
  identities : PeerKey → Option PeerIdentity
  messages_nodup : (messages.map StoredMessage.messagePk).Nodup

/-- A message comes before another in `order_by(created_at_ms, message_pk)`. -/
def Before (first second : StoredMessage) : Prop :=
  first.createdAtMs < second.createdAtMs ∨
    first.createdAtMs = second.createdAtMs ∧ first.messagePk ≤ second.messagePk

instance : DecidableRel Before := fun _ _ => inferInstanceAs (Decidable (_ ∨ _))

def ordered (messages : List StoredMessage) : List StoredMessage := messages.insertionSort Before

section Backfill

variable (decoders : JsonDecoders) (links : Links) (orders : KeyOrders) (dumps : Members → String)

/-- `_load_raw_payload` -/
def StoredMessage.payload (message : StoredMessage) : Json :=
  match message.rawPayload with
  | none => .null
  | some text => (decoders.loads text).getD (.str text)

def StoredMessage.context (message : StoredMessage) : Option ParsedItemContext :=
  parseItemContext decoders.toDecoders links orders (message.payload decoders) none

def StoredMessage.withContext (message : StoredMessage) : StoredMessage :=
  match message.context decoders links orders with
  | none => message
  | some context => { message with itemId := some context.itemId }

def StoredMessage.parsedCards (message : StoredMessage) : List ParsedMessageCard :=
  parseMessageCards decoders.toDecoders links orders (message.payload decoders) message.content
    message.itemId

structure ContextLoop where
  cards : List CardRow
  latestContexts : String × String → Option (ℤ × ParsedItemContext) := fun _ => none
  repaired : ℕ := 0

def contextRound (loop : ContextLoop) (message : StoredMessage) : ContextLoop :=
  let context := message.context decoders links orders
  let updated := message.withContext decoders links orders
  let parsed := updated.parsedCards decoders links orders
  let cardsBefore := loop.cards.countP fun row => row.messagePk = message.messagePk
  let changed := context.any (fun context => message.itemId ≠ some context.itemId) ||
    cardsBefore < parsed.length
  { cards := upsertMessageCards dumps updated loop.cards parsed
    latestContexts := context.elim loop.latestContexts fun context =>
      update loop.latestContexts (message.accountId, message.conversationId)
        (some (message.createdAt, context))
    repaired := if changed then loop.repaired + 1 else loop.repaired }

/-- The conversation with its last context; `none` is an exception. -/
def applyLatest (latest : Option (ℤ × ParsedItemContext)) (conversation : StoredConversation) :
    Option (Bool × StoredConversation) :=
  match latest with
  | none => some (false, conversation)
  | some (observedAt, context) =>
      (applyConversationItemContext links conversation.item context observedAt).map fun applied =>
        (applied.1, { conversation with item := applied.2 })

def withContexts (messages : List StoredMessage) : List StoredMessage :=
  messages.map (StoredMessage.withContext decoders links orders)

theorem messagePk_withContext (message : StoredMessage) :
    (message.withContext decoders links orders).messagePk = message.messagePk := by
  rw [StoredMessage.withContext]
  split <;> rfl

variable {messages : List StoredMessage} {context : ParsedItemContext}

theorem nodup_withContexts (hnodup : (messages.map StoredMessage.messagePk).Nodup) :
    ((withContexts decoders links orders messages).map StoredMessage.messagePk).Nodup := by
  rw [withContexts, List.map_map]
  exact (List.map_congr_left fun message _ =>
    messagePk_withContext decoders links orders message).symm ▸ hnodup

/-- `_backfill_message_contexts_sync`: the rows afterwards and the count that is returned;
`none` is an exception, which changes nothing. -/
def backfillMessageContexts (store : BackfillStore) : Option (BackfillStore × ℕ) :=
  let loop := (ordered store.messages).foldl (contextRound decoders links orders dumps)
    { cards := store.cards }
  (store.conversations.mapM fun conversation =>
    applyLatest links (loop.latestContexts (conversation.accountId, conversation.conversationId))
      conversation).map fun applied =>
    ({ store with
        messages := withContexts decoders links orders store.messages
        conversations := applied.map Prod.snd
        cards := loop.cards
        messages_nodup := nodup_withContexts decoders links orders store.messages_nodup },
      loop.repaired + (applied.countP Prod.fst))

def StoredMessage.contextFor (key : String × String) (message : StoredMessage) :
    Option (ℤ × ParsedItemContext) :=
  if (message.accountId, message.conversationId) = key then
    (message.context decoders links orders).map fun context => (message.createdAt, context)
  else none

def latestContext (messages : List StoredMessage) (key : String × String) :
    Option (ℤ × ParsedItemContext) :=
  ((ordered messages).filterMap (StoredMessage.contextFor decoders links orders key)).getLast?

def cardsAfter (messages : List StoredMessage) (cards : List CardRow) : List CardRow :=
  messages.foldl (fun cards message => upsertMessageCards dumps message cards
    (message.parsedCards decoders links orders)) cards

theorem payload_withContext (message : StoredMessage) :
    (message.withContext decoders links orders).payload decoders = message.payload decoders := by
  rw [StoredMessage.withContext]
  split <;> rfl

theorem context_withContext (message : StoredMessage) :
    (message.withContext decoders links orders).context decoders links orders =
      message.context decoders links orders := by
  rw [StoredMessage.context, payload_withContext, ← StoredMessage.context]

theorem withContext_withContext (message : StoredMessage) :
    (message.withContext decoders links orders).withContext decoders links orders =
      message.withContext decoders links orders := by
  rw [StoredMessage.withContext, context_withContext, StoredMessage.withContext]
  cases message.context decoders links orders <;> rfl

theorem contextFor_withContext (key : String × String) (message : StoredMessage) :
    (message.withContext decoders links orders).contextFor decoders links orders key =
      message.contextFor decoders links orders key := by
  rw [StoredMessage.contextFor, context_withContext, StoredMessage.contextFor,
    StoredMessage.withContext]
  cases message.context decoders links orders <;> rfl

theorem foldl_contextRound (messages : List StoredMessage) (loop : ContextLoop)
    (key : String × String) :
    (messages.foldl (contextRound decoders links orders dumps) loop).cards =
        cardsAfter decoders links orders dumps (withContexts decoders links orders messages)
          loop.cards ∧
      (messages.foldl (contextRound decoders links orders dumps) loop).latestContexts key =
        ((messages.filterMap (StoredMessage.contextFor decoders links orders key)).getLast?.or
          (loop.latestContexts key)) := by
  induction messages generalizing loop with
  | nil => exact ⟨rfl, rfl⟩
  | cons message rest ih =>
      obtain ⟨hcards, hlatest⟩ := ih (contextRound decoders links orders dumps loop message)
      refine ⟨hcards, ?_⟩
      rw [List.foldl_cons, hlatest, List.filterMap_cons]
      have hround : (contextRound decoders links orders dumps loop message).latestContexts key =
          ((message.contextFor decoders links orders key).or (loop.latestContexts key)) := by
        simp only [contextRound, StoredMessage.contextFor]
        cases hcontext : message.context decoders links orders with
        | none => simp
        | some context =>
            by_cases hkey : (message.accountId, message.conversationId) = key
            · subst hkey
              simp
            · simp [hkey, Function.update_of_ne (Ne.symm hkey)]
      rw [hround]
      cases message.contextFor decoders links orders key with
      | none => rfl
      | some told =>
          rw [List.getLast?_cons]
          cases (rest.filterMap (StoredMessage.contextFor decoders links orders key)).getLast? <;>
            rfl

theorem ordered_withContexts (messages : List StoredMessage) :
    ordered (withContexts decoders links orders messages) =
      withContexts decoders links orders (ordered messages) := by
  refine (List.map_insertionSort Before Before _ messages ?_).symm
  intro first _ second _
  have htime : ∀ message : StoredMessage,
      (message.withContext decoders links orders).createdAtMs = message.createdAtMs := by
    intro message
    rw [StoredMessage.withContext]
    split <;> rfl
  rw [Before, Before, htime, htime, messagePk_withContext, messagePk_withContext]

theorem withContexts_withContexts (messages : List StoredMessage) :
    withContexts decoders links orders (withContexts decoders links orders messages) =
      withContexts decoders links orders messages := by
  rw [withContexts, withContexts, List.map_map]
  exact List.map_congr_left fun message _ => withContext_withContext decoders links orders message

theorem latestContext_withContexts (messages : List StoredMessage) (key : String × String) :
    latestContext decoders links orders (withContexts decoders links orders messages) key =
      latestContext decoders links orders messages key := by
  rw [latestContext, ordered_withContexts, withContexts, List.filterMap_map, latestContext]
  congr 1
  exact List.filterMap_congr fun message _ =>
    contextFor_withContext decoders links orders key message

def applyLatestContexts (messages : List StoredMessage)
    (conversations : List StoredConversation) : Option (List (Bool × StoredConversation)) :=
  conversations.mapM fun conversation =>
    applyLatest links (latestContext decoders links orders messages
      (conversation.accountId, conversation.conversationId)) conversation

def BackfillStore.backfilled (store : BackfillStore) (applied : List (Bool × StoredConversation)) :
    BackfillStore :=
  { store with
    messages := withContexts decoders links orders store.messages
    conversations := applied.map Prod.snd
    cards := cardsAfter decoders links orders dumps
      (withContexts decoders links orders (ordered store.messages)) store.cards
    messages_nodup := nodup_withContexts decoders links orders store.messages_nodup }

theorem backfillMessageContexts_eq (store : BackfillStore) :
    ∃ repaired : List (Bool × StoredConversation) → ℕ,
      backfillMessageContexts decoders links orders dumps store =
        (applyLatestContexts decoders links orders store.messages store.conversations).map
          fun applied =>
            (store.backfilled decoders links orders dumps applied, repaired applied) := by
  have hloop := foldl_contextRound decoders links orders dumps (ordered store.messages)
    { cards := store.cards }
  have hlatest : ∀ key, ((ordered store.messages).foldl
      (contextRound decoders links orders dumps) { cards := store.cards }).latestContexts key =
        latestContext decoders links orders store.messages key := fun key =>
    (hloop key).2.trans (Option.or_none)
  refine ⟨fun applied => ((ordered store.messages).foldl
    (contextRound decoders links orders dumps) { cards := store.cards }).repaired +
      applied.countP Prod.fst, ?_⟩
  simp only [backfillMessageContexts, hlatest, (hloop ("", "")).1]
  rfl

section Cards

variable {decoders links orders dumps}

theorem titled (message : StoredMessage) :
    ∀ parsed ∈ message.parsedCards decoders links orders, parsed.title ≠ some "" := by
  have hprinted : (message.payload decoders).Printed := by
    rw [StoredMessage.payload]
    split
    · exact .null
    · rename_i text _
      cases hloaded : decoders.loads text with
      | none => exact .str text
      | some value => exact decoders.printed text value hloaded
  exact fun parsed hparsed =>
    title_of_mem_parseMessageCards decoders links orders _ _ hprinted hparsed

theorem fitting_le_cardsAfter (messages : List StoredMessage) (cards : List CardRow) :
    fitting cards ≤ fitting (cardsAfter decoders links orders dumps messages cards) := by
  induction messages generalizing cards with
  | nil => rfl
  | cons message rest ih =>
      exact (fitting_le_upsertMessageCards _ cards).trans (ih _)

variable {messages : List StoredMessage}

/-- Every run cuts another title or adds another row, where a title is too long. -/
theorem fitting_lt_cardsAfter
    (hlong : ∃ message ∈ messages, ∃ parsed ∈ message.parsedCards decoders links orders,
      Fits parsed.title = false) (cards : List CardRow) :
    fitting cards < fitting (cardsAfter decoders links orders dumps messages cards) := by
  induction messages generalizing cards with
  | nil =>
      obtain ⟨message, hmem, -⟩ := hlong
      exact absurd hmem List.not_mem_nil
  | cons message rest ih =>
      by_cases hhere : ∃ parsed ∈ message.parsedCards decoders links orders,
          Fits parsed.title = false
      · exact (fitting_lt_upsertMessageCards (titled message) hhere cards).trans_le
          (fitting_le_cardsAfter rest _)
      · obtain ⟨later, hmem, hlater⟩ := hlong
        rcases List.mem_cons.mp hmem with rfl | hrest
        · exact absurd hlater hhere
        · exact (fitting_le_upsertMessageCards _ cards).trans_lt
            (ih ⟨later, hrest, hlater⟩ _)

def TitlesFit (decoders : JsonDecoders) (links : Links) (orders : KeyOrders)
    (messages : List StoredMessage) : Prop :=
  ∀ message ∈ messages, ∀ parsed ∈ message.parsedCards decoders links orders,
    Fits parsed.title = true

theorem cardKey_ne {message other : StoredMessage} (hpk : other.messagePk ≠ message.messagePk)
    (card parsed : ParsedMessageCard) : other.cardKey card ≠ message.cardKey parsed :=
  fun hsame => hpk (congrArg Prod.fst hsame)

theorem holds_cardsAfter_of_ne {other : StoredMessage} {card : ParsedMessageCard}
    (hfits : TitlesFit decoders links orders messages)
    (hother : ∀ message ∈ messages, other.messagePk ≠ message.messagePk) {cards : List CardRow}
    (hholds : Holds dumps other card cards) :
    Holds dumps other card (cardsAfter decoders links orders dumps messages cards) := by
  induction messages generalizing cards with
  | nil => exact hholds
  | cons message rest ih =>
      have hfirst := hfits message List.mem_cons_self
      have hhere : Holds dumps other card (upsertMessageCards dumps message cards
          (message.parsedCards decoders links orders)) := by
        rw [upsertMessageCards_eq hfirst (titled message)]
        exact hholds.foldl_upsertRow hfirst fun parsed _ =>
          cardKey_ne (hother message List.mem_cons_self) card parsed
      exact ih (fun later hmem => hfits later (List.mem_cons_of_mem _ hmem))
        (fun later hmem => hother later (List.mem_cons_of_mem _ hmem)) hhere

theorem holds_cardsAfter (hfits : TitlesFit decoders links orders messages)
    (hnodup : (messages.map StoredMessage.messagePk).Nodup) (cards : List CardRow) :
    ∀ message ∈ messages, ∀ parsed ∈ message.parsedCards decoders links orders,
      Holds dumps message parsed (cardsAfter decoders links orders dumps messages cards) := by
  induction messages generalizing cards with
  | nil => exact fun message hmem => absurd hmem List.not_mem_nil
  | cons first rest ih =>
      intro message hmem parsed hparsed
      have hrest : TitlesFit decoders links orders rest := fun later hlater =>
        hfits later (List.mem_cons_of_mem _ hlater)
      have hfirst := hfits first List.mem_cons_self
      rcases List.mem_cons.mp hmem with rfl | hlater
      · have hhere : Holds dumps message parsed (upsertMessageCards dumps message cards
            (message.parsedCards decoders links orders)) := by
          rw [upsertMessageCards_eq hfirst (titled message)]
          exact holds_foldl_upsertRow hfirst
            (nodup_parseMessageCards decoders links orders _ _ _) cards parsed hparsed
        have hstays : ∀ later ∈ rest, message.messagePk ≠ later.messagePk := fun later hmem hsame =>
          (List.nodup_cons.mp hnodup).1 (hsame ▸ List.mem_map_of_mem hmem)
        exact holds_cardsAfter_of_ne hrest hstays hhere
      · exact ih hrest (List.nodup_cons.mp hnodup).2 _ message hlater parsed hparsed

theorem cardsAfter_of_holds (hfits : TitlesFit decoders links orders messages)
    {cards : List CardRow}
    (hholds : ∀ message ∈ messages, ∀ parsed ∈ message.parsedCards decoders links orders,
      Holds dumps message parsed cards) :
    cardsAfter decoders links orders dumps messages cards = cards := by
  induction messages with
  | nil => rfl
  | cons message rest ih =>
      have hfirst : upsertMessageCards dumps message cards
          (message.parsedCards decoders links orders) = cards :=
        upsertMessageCards_of_holds (hfits message List.mem_cons_self) (titled message)
          (hholds message List.mem_cons_self)
      rw [cardsAfter, List.foldl_cons, hfirst]
      exact ih (fun later hmem => hfits later (List.mem_cons_of_mem _ hmem))
        fun later hmem => hholds later (List.mem_cons_of_mem _ hmem)

theorem cardsAfter_again_iff (hnodup : (messages.map StoredMessage.messagePk).Nodup)
    (cards : List CardRow) :
    cardsAfter decoders links orders dumps messages
        (cardsAfter decoders links orders dumps messages cards) =
          cardsAfter decoders links orders dumps messages cards ↔
      TitlesFit decoders links orders messages := by
  constructor
  · intro hsame message hmem parsed hparsed
    cases hfits : Fits parsed.title with
    | true => rfl
    | false =>
        have hgrows : fitting (cardsAfter decoders links orders dumps messages cards) <
            fitting (cardsAfter decoders links orders dumps messages
              (cardsAfter decoders links orders dumps messages cards)) :=
          fitting_lt_cardsAfter ⟨message, hmem, parsed, hparsed, hfits⟩ _
        rw [hsame] at hgrows
        exact absurd hgrows (lt_irrefl _)
  · intro hfits
    exact cardsAfter_of_holds hfits (holds_cardsAfter hfits hnodup cards)

end Cards

def Replaces (value column : Option String) : Prop := truthy value = true ∨ column = none

def TextsSettle (links : Links) (columns : ItemColumns) (context : ParsedItemContext)
    (observedAt : ℤ) : Prop :=
  isStale columns observedAt = true ∨ context.itemId.toList.length ≤ 128 ∨
    let cleared := clearOther columns context.itemId
    Replaces (cutText 500 context.title) cleared.itemTitle ∧
      Replaces (cutText 120 context.price) cleared.itemPrice ∧
      Replaces (cutText 1000 context.imageUrl) cleared.itemImageUrl ∧
      Replaces ((normalizeItemUrl links (ofText context.url) (.str context.itemId)).join)
        cleared.itemUrl

theorem assign_none_eq_iff {value column : Option String} :
    assign value none = assign value column ↔ Replaces value column := by
  cases htruthy : truthy value with
  | false => simp [assign, Replaces, htruthy, eq_comm]
  | true => simp [assign, Replaces, htruthy]

def told (context : ParsedItemContext) (itemUrl : Option String) (observedAt : ℤ)
    (cleared : ItemColumns) : ItemColumns where
  itemId := some (cut 128 context.itemId)
  itemTitle := assign (cutText 500 context.title) cleared.itemTitle
  itemPrice := assign (cutText 120 context.price) cleared.itemPrice
  itemImageUrl := assign (cutText 1000 context.imageUrl) cleared.itemImageUrl
  itemUrl := assign itemUrl cleared.itemUrl
  itemContextSource := some (cut 32 context.source)
  itemContextAt := some observedAt

theorem applyConversationItemContext_of_fresh {columns : ItemColumns} {observedAt : ℤ}
    (hfresh : isStale columns observedAt = false) (context : ParsedItemContext) :
    ∃ flag : Option String → Bool,
      applyConversationItemContext links columns context observedAt =
        (normalizeItemUrl links (ofText context.url) (.str context.itemId)).map fun itemUrl =>
          (flag itemUrl, told context itemUrl observedAt (clearOther columns context.itemId)) := by
  rw [applyConversationItemContext, if_neg (by rw [hfresh]; exact Bool.false_ne_true)]
  exact ⟨_, rfl⟩

theorem clearOther_told_of_whole (hwhole : context.itemId.toList.length ≤ 128)
    (itemUrl : Option String) (observedAt : ℤ) (cleared : ItemColumns) :
    clearOther (told context itemUrl observedAt cleared) context.itemId =
      told context itemUrl observedAt cleared := by
  have hcut : cut 128 context.itemId = context.itemId := by
    rw [cut, List.take_of_length_le hwhole, String.ofList_toList]
  simp [clearOther, told, hcut]

theorem clearOther_told_of_cut (hcut : ¬context.itemId.toList.length ≤ 128)
    (itemUrl : Option String) (observedAt : ℤ) (cleared : ItemColumns) :
    clearOther (told context itemUrl observedAt cleared) context.itemId =
      { told context itemUrl observedAt cleared with
        itemTitle := none, itemPrice := none, itemImageUrl := none, itemUrl := none } := by
  have hlength : (cut 128 context.itemId).toList.length = 128 := by
    rw [cut, String.toList_ofList, List.length_take]
    omega
  have htruthy : truthy (some (cut 128 context.itemId)) = true := by
    refine truthy_some.mpr fun hempty => ?_
    rw [hempty] at hlength
    cases hlength
  have hother : cut 128 context.itemId ≠ context.itemId := by
    intro hsame
    rw [hsame] at hlength
    omega
  simp [clearOther, told, htruthy, hother]

theorem told_told (context : ParsedItemContext) (itemUrl : Option String) (observedAt : ℤ)
    (cleared : ItemColumns) :
    told context itemUrl observedAt (told context itemUrl observedAt cleared) =
      told context itemUrl observedAt cleared := by
  simp [told, assign_assign]

theorem applyConversationItemContext_again_iff {columns applied : ItemColumns} {observedAt : ℤ}
    {flag : Bool} (happlied : applyConversationItemContext links columns context observedAt =
      some (flag, applied)) :
    (∃ again, applyConversationItemContext links applied context observedAt =
      some (again, applied)) ↔ TextsSettle links columns context observedAt := by
  cases hstale : isStale columns observedAt with
  | true =>
      have hsame : applied = columns := by
        rw [applyConversationItemContext, if_pos hstale] at happlied
        cases happlied
        rfl
      rw [hsame, applyConversationItemContext, if_pos hstale]
      exact iff_of_true ⟨false, rfl⟩ (.inl hstale)
  | false =>
      obtain ⟨first, hfirst⟩ := applyConversationItemContext_of_fresh links hstale context
      rw [hfirst, Option.map_eq_some_iff] at happlied
      obtain ⟨itemUrl, hurl, hupdated⟩ := happlied
      have happlied : applied = told context itemUrl observedAt
          (clearOther columns context.itemId) := (congrArg Prod.snd hupdated).symm
      have hfresh : isStale applied observedAt = false := by
        rw [happlied]
        simp [isStale, told]
      obtain ⟨second, hsecond⟩ := applyConversationItemContext_of_fresh links hfresh context
      have hagain : (∃ again, applyConversationItemContext links applied context observedAt =
          some (again, applied)) ↔
            told context itemUrl observedAt (clearOther applied context.itemId) = applied := by
        rw [hsecond, hurl, Option.map_some]
        simp
      rw [hagain, TextsSettle, hstale, hurl]
      by_cases hwhole : context.itemId.toList.length ≤ 128
      · refine iff_of_true ?_ (.inr (.inl hwhole))
        rw [happlied, clearOther_told_of_whole hwhole, told_told]
      · have hcolumns : told context itemUrl observedAt (clearOther applied context.itemId) =
            told context itemUrl observedAt
              { itemId := none, itemTitle := none, itemPrice := none, itemImageUrl := none,
                itemUrl := none, itemContextSource := none, itemContextAt := none } := by
          rw [happlied, clearOther_told_of_cut hwhole]
          rfl
        rw [hcolumns, happlied]
        simp [told, hwhole, assign_none_eq_iff]

def StoredConversation.latest (decoders : JsonDecoders) (links : Links) (orders : KeyOrders)
    (messages : List StoredMessage) (conversation : StoredConversation) :
    Option (ℤ × ParsedItemContext) :=
  latestContext decoders links orders messages
    (conversation.accountId, conversation.conversationId)

def LinksReadable (store : BackfillStore) : Prop :=
  ∀ conversation ∈ store.conversations, ∀ observedAt context,
    conversation.latest decoders links orders store.messages = some (observedAt, context) →
      isStale conversation.item observedAt = true ∨ LinkReadable links context

def ConversationsSettle (store : BackfillStore) : Prop :=
  ∀ conversation ∈ store.conversations, ∀ observedAt context,
    conversation.latest decoders links orders store.messages = some (observedAt, context) →
      TextsSettle links conversation.item context observedAt

theorem isSome_applyLatest_iff (latest : Option (ℤ × ParsedItemContext))
    (conversation : StoredConversation) :
    (applyLatest links latest conversation).isSome = true ↔
      ∀ observedAt context, latest = some (observedAt, context) →
        isStale conversation.item observedAt = true ∨ LinkReadable links context := by
  cases latest with
  | none => simp [applyLatest]
  | some told =>
      have hiff := applyConversationItemContext_isSome_iff links conversation.item told.2 told.1
      rw [applyLatest, Option.isSome_map, hiff]
      constructor
      · intro hreadable observedAt context hsame
        cases hsame
        exact hreadable
      · exact fun hreadable => hreadable told.1 told.2 rfl

theorem isSome_mapM_iff {α β : Type} {f : α → Option β} {values : List α} :
    (values.mapM f).isSome = true ↔ ∀ value ∈ values, (f value).isSome = true := by
  induction values with
  | nil => simp
  | cons value rest ih =>
      rw [List.mapM_cons]
      cases hvalue : f value with
      | none => simp [hvalue]
      | some result =>
          cases hrest : rest.mapM f with
          | none => simpa [hvalue, hrest] using ih
          | some results => simpa [hvalue, hrest] using ih

theorem isSome_applyLatestContexts_iff (store : BackfillStore) :
    (applyLatestContexts decoders links orders store.messages store.conversations).isSome = true ↔
      LinksReadable decoders links orders store := by
  rw [applyLatestContexts, isSome_mapM_iff]
  exact forall₂_congr fun conversation _ => isSome_applyLatest_iff links _ conversation

theorem applyLatest_again_iff {latest : Option (ℤ × ParsedItemContext)}
    {conversation applied : StoredConversation} {flag : Bool}
    (happlied : applyLatest links latest conversation = some (flag, applied)) :
    (∃ again, applyLatest links latest applied = some (again, applied)) ↔
      ∀ observedAt context, latest = some (observedAt, context) →
        TextsSettle links conversation.item context observedAt := by
  cases latest with
  | none =>
      cases happlied
      exact iff_of_true ⟨false, rfl⟩ fun _ _ hnone => by cases hnone
  | some told =>
      rw [applyLatest, Option.map_eq_some_iff] at happlied
      obtain ⟨columns, hcolumns, hsame⟩ := happlied
      cases hsame
      have hiff := applyConversationItemContext_again_iff links hcolumns
      have hagain : (∃ again, applyLatest links (some told)
          { conversation with item := columns.2 } =
            some (again, { conversation with item := columns.2 })) ↔
          ∃ again, applyConversationItemContext links columns.2 told.2 told.1 =
            some (again, columns.2) := by
        constructor
        · rintro ⟨again, happlied⟩
          rw [applyLatest, Option.map_eq_some_iff] at happlied
          obtain ⟨second, hsecond, hsame⟩ := happlied
          have hitem : second.2 = columns.2 :=
            congrArg (fun pair : Bool × StoredConversation => pair.2.item) hsame
          exact ⟨second.1, by rw [hsecond, ← hitem]⟩
        · rintro ⟨again, happlied⟩
          exact ⟨again, by rw [applyLatest, happlied, Option.map_some]⟩
      rw [hagain, hiff]
      constructor
      · intro hsettles observedAt context hlatest
        cases hlatest
        exact hsettles
      · exact fun hsettles => hsettles told.1 told.2 rfl

theorem latest_applyLatest {latest : Option (ℤ × ParsedItemContext)}
    {conversation : StoredConversation} {applied : Bool × StoredConversation}
    (happlied : applyLatest links latest conversation = some applied)
    (messages : List StoredMessage) :
    applied.2.latest decoders links orders messages =
      conversation.latest decoders links orders messages := by
  cases latest with
  | none =>
      cases happlied
      rfl
  | some told =>
      rw [applyLatest, Option.map_eq_some_iff] at happlied
      obtain ⟨columns, -, rfl⟩ := happlied
      rfl

theorem applyLatestContexts_again_iff {conversations : List StoredConversation}
    {applied : List (Bool × StoredConversation)}
    (happlied : applyLatestContexts decoders links orders messages conversations = some applied) :
    (∃ again, applyLatestContexts decoders links orders messages (applied.map Prod.snd) =
        some again ∧ again.map Prod.snd = applied.map Prod.snd) ↔
      ∀ conversation ∈ conversations, ∀ observedAt context,
        conversation.latest decoders links orders messages = some (observedAt, context) →
          TextsSettle links conversation.item context observedAt := by
  induction conversations generalizing applied with
  | nil =>
      cases happlied
      exact iff_of_true ⟨[], rfl, rfl⟩ fun _ hmem => absurd hmem List.not_mem_nil
  | cons conversation rest ih =>
      rw [applyLatestContexts, List.mapM_cons] at happlied
      obtain ⟨first, hfirst, hrest⟩ := Option.bind_eq_some_iff.mp happlied
      obtain ⟨later, hlater, hlist⟩ := Option.bind_eq_some_iff.mp hrest
      cases hlist
      have hsame : first.2.latest decoders links orders messages =
          conversation.latest decoders links orders messages :=
        latest_applyLatest decoders links orders hfirst messages
      have hhere : (∃ again, applyLatest links
          (first.2.latest decoders links orders messages) first.2 = some (again, first.2)) ↔
            ∀ observedAt context,
              conversation.latest decoders links orders messages = some (observedAt, context) →
                TextsSettle links conversation.item context observedAt := by
        rw [hsame]
        exact applyLatest_again_iff links hfirst
      rw [List.forall_mem_cons, ← ih hlater, ← hhere]
      constructor
      · rintro ⟨again, hagain, hrows⟩
        rw [applyLatestContexts, List.map_cons, List.mapM_cons] at hagain
        obtain ⟨second, hsecond, hmore⟩ := Option.bind_eq_some_iff.mp hagain
        obtain ⟨others, hothers, hlist⟩ := Option.bind_eq_some_iff.mp hmore
        cases hlist
        rw [List.map_cons, List.map_cons, List.cons.injEq] at hrows
        refine ⟨⟨second.1, hsecond.trans ?_⟩, others, hothers, hrows.2⟩
        rw [← hrows.1]
      · rintro ⟨⟨flag, hsecond⟩, others, hothers, hrows⟩
        refine ⟨(flag, first.2) :: others, ?_, by rw [List.map_cons, hrows, List.map_cons]⟩
        rw [applyLatestContexts, List.map_cons, List.mapM_cons]
        exact Option.bind_eq_some_iff.mpr ⟨_, hsecond,
          Option.bind_eq_some_iff.mpr ⟨others, hothers, rfl⟩⟩

/-- A run that does not raise leaves nothing for a second one: it adds no card and changes no
row. -/
def ContextsSettled (store : BackfillStore) : Prop :=
  ∀ first repaired, backfillMessageContexts decoders links orders dumps store =
      some (first, repaired) →
    ∃ again, backfillMessageContexts decoders links orders dumps first = some (first, again)

theorem mem_withContexts_ordered {message : StoredMessage} :
    message ∈ withContexts decoders links orders (ordered messages) ↔
      message ∈ withContexts decoders links orders messages := by
  simp only [withContexts, ordered, List.mem_map, List.mem_insertionSort]

theorem nodup_withContexts_ordered (hnodup : (messages.map StoredMessage.messagePk).Nodup) :
    ((withContexts decoders links orders (ordered messages)).map
      StoredMessage.messagePk).Nodup :=
  nodup_withContexts decoders links orders
    (((List.perm_insertionSort Before messages).map _).nodup_iff.mpr hnodup)

theorem applyLatestContexts_withContexts (messages : List StoredMessage)
    (conversations : List StoredConversation) :
    applyLatestContexts decoders links orders (withContexts decoders links orders messages)
        conversations =
      applyLatestContexts decoders links orders messages conversations := by
  simp only [applyLatestContexts, latestContext_withContexts]

/-- A run on the rows that a run has left. -/
theorem backfillMessageContexts_again_iff (store : BackfillStore)
    (applied : List (Bool × StoredConversation)) :
    (∃ again, backfillMessageContexts decoders links orders dumps
        (store.backfilled decoders links orders dumps applied) =
          some (store.backfilled decoders links orders dumps applied, again)) ↔
      (∃ again, applyLatestContexts decoders links orders store.messages
          (applied.map Prod.snd) = some again ∧ again.map Prod.snd = applied.map Prod.snd) ∧
        TitlesFit decoders links orders
          (withContexts decoders links orders (ordered store.messages)) := by
  let first := store.backfilled decoders links orders dumps applied
  obtain ⟨count, hrun⟩ := backfillMessageContexts_eq decoders links orders dumps first
  have hcontexts : applyLatestContexts decoders links orders first.messages first.conversations =
      applyLatestContexts decoders links orders store.messages (applied.map Prod.snd) :=
    applyLatestContexts_withContexts decoders links orders store.messages _
  have hordered : withContexts decoders links orders (ordered first.messages) =
      withContexts decoders links orders (ordered store.messages) := by
    change withContexts decoders links orders
      (ordered (withContexts decoders links orders store.messages)) = _
    rw [ordered_withContexts, withContexts_withContexts]
  have hcards : cardsAfter decoders links orders dumps
      (withContexts decoders links orders (ordered first.messages)) first.cards = first.cards ↔
        TitlesFit decoders links orders
          (withContexts decoders links orders (ordered store.messages)) := by
    rw [hordered]
    exact cardsAfter_again_iff
      (nodup_withContexts_ordered decoders links orders store.messages_nodup) store.cards
  have hrows : ∀ again, first.backfilled decoders links orders dumps again = first ↔
      again.map Prod.snd = applied.map Prod.snd ∧
        TitlesFit decoders links orders
          (withContexts decoders links orders (ordered store.messages)) := by
    intro again
    rw [← hcards]
    constructor
    · exact fun hsame => ⟨congrArg BackfillStore.conversations hsame,
        congrArg BackfillStore.cards hsame⟩
    · exact fun hsame => BackfillStore.ext rfl
        (withContexts_withContexts decoders links orders store.messages) hsame.1 hsame.2 rfl
  rw [hrun, hcontexts]
  constructor
  · rintro ⟨again, hagain⟩
    obtain ⟨second, hsecond, hsame⟩ := Option.map_eq_some_iff.mp hagain
    have hfirst := (hrows second).mp (congrArg Prod.fst hsame)
    exact ⟨⟨second, hsecond, hfirst.1⟩, hfirst.2⟩
  · rintro ⟨⟨second, hsecond, hconversations⟩, hfit⟩
    refine ⟨count second, Option.map_eq_some_iff.mpr ⟨second, hsecond, ?_⟩⟩
    rw [(hrows second).mpr ⟨hconversations, hfit⟩]

/-- Where no link raises, a second run in a row does nothing exactly if every parsed title fits
its column and the texts of every conversation settle. -/
theorem contextsSettled_iff (store : BackfillStore) :
    ContextsSettled decoders links orders dumps store ↔
      (LinksReadable decoders links orders store →
        TitlesFit decoders links orders (withContexts decoders links orders store.messages) ∧
          ConversationsSettle decoders links orders store) := by
  obtain ⟨repaired, hrun⟩ := backfillMessageContexts_eq decoders links orders dumps store
  have hreadable := isSome_applyLatestContexts_iff decoders links orders store
  cases happlied : applyLatestContexts decoders links orders store.messages
      store.conversations with
  | none =>
      rw [happlied] at hreadable hrun
      refine iff_of_true (fun first count hfirst => ?_) fun hlinks => ?_
      · rw [hrun] at hfirst
        cases hfirst
      · exact absurd (hreadable.mpr hlinks) Bool.false_ne_true
  | some applied =>
      rw [happlied] at hreadable hrun
      have hlinks := hreadable.mp rfl
      have hagain := backfillMessageContexts_again_iff decoders links orders dumps store applied
      rw [applyLatestContexts_again_iff decoders links orders happlied] at hagain
      have hfit : TitlesFit decoders links orders
          (withContexts decoders links orders (ordered store.messages)) ↔
            TitlesFit decoders links orders
              (withContexts decoders links orders store.messages) :=
        forall_congr' fun message =>
          imp_congr_left (mem_withContexts_ordered decoders links orders)
      rw [hfit] at hagain
      have hsettled : ContextsSettled decoders links orders dumps store ↔
          ∃ again, backfillMessageContexts decoders links orders dumps
            (store.backfilled decoders links orders dumps applied) =
              some (store.backfilled decoders links orders dumps applied, again) := by
        constructor
        · exact fun hsettled => hsettled _ _ hrun
        · intro hagain first count hfirst
          rw [hrun] at hfirst
          cases hfirst
          exact hagain
      rw [hsettled, hagain]
      exact ⟨fun hboth _ => hboth.symm, fun hboth => (hboth hlinks).symm⟩

end Backfill

end XianyuAdmin.Backfills
