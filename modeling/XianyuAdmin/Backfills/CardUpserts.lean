import XianyuAdmin.Cards.CardParser
import XianyuAdmin.Core.FirstMatch

/-!
# Cards of a message

`_upsert_message_cards` finds the row of a parsed card under the card's key, in which the title
stands as it was parsed, and stores the title cut to 500 characters.
-/

namespace XianyuAdmin.Backfills

open XianyuAdmin.Cards
open XianyuAdmin.Python

/-- A row of `xianyu_message_cards`. -/
structure CardRow where
  accountId : String
  conversationId : String
  messagePk : String
  cardType : String
  itemId : Option String := none
  orderId : Option String := none
  title : Option String := none
  price : Option String := none
  status : Option String := none
  imageUrl : Option String := none
  url : Option String := none
  rawSummary : Option String := none
  createdAt : ℤ
  deriving DecidableEq

abbrev CardKey := String × String × Option String × Option String × Option String

def CardRow.key (row : CardRow) : CardKey :=
  (row.messagePk, row.cardType, row.itemId, row.orderId, row.title)

/-- A row of `xianyu_messages`, as far as the backfills read and write it. -/
structure StoredMessage where
  messagePk : String
  accountId : String
  conversationId : String
  direction : String
  content : String := ""
  itemId : Option String := none
  peerUserId : Option String := none
  peerName : Option String := none
  rawPayload : Option String := none
  createdAtMs : ℤ
  createdAt : ℤ
  deriving DecidableEq

def StoredMessage.cardKey (message : StoredMessage) (parsed : ParsedMessageCard) : CardKey :=
  (message.messagePk, parsed.key)

def StoredMessage.newCard (message : StoredMessage) (parsed : ParsedMessageCard) : CardRow where
  accountId := message.accountId
  conversationId := message.conversationId
  messagePk := message.messagePk
  cardType := parsed.cardType
  itemId := parsed.itemId
  orderId := parsed.orderId
  createdAt := message.createdAt

section Upsert

variable (dumps : Members → String)

def CardRow.apply (parsed : ParsedMessageCard) (row : CardRow) : CardRow :=
  { row with
    title := (assign parsed.title row.title).map (cut 500)
    price := assign (cutText 120 parsed.price) row.price
    status := assign (cutText 120 parsed.status) row.status
    imageUrl := assign (cutText 1000 parsed.imageUrl) row.imageUrl
    url := assign (cutText 1500 parsed.url) row.url
    rawSummary := some (dumps parsed.rawSummary) }

def upsertCard (message : StoredMessage) (entries : List (CardKey × CardRow))
    (parsed : ParsedMessageCard) : List (CardKey × CardRow) :=
  let key := message.cardKey parsed
  upsertFirst Prod.fst key (fun entry => (entry.1, entry.2.apply dumps parsed))
    (key, message.newCard parsed) entries

/-- `_upsert_message_cards`, on the table; rows of other messages have other keys. -/
def upsertMessageCards (message : StoredMessage) (cards : List CardRow)
    (parsedCards : List ParsedMessageCard) : List CardRow :=
  (parsedCards.foldl (upsertCard dumps message) (cards.map fun row => (row.key, row))).map
    Prod.snd

end Upsert

def Fits (title : Option String) : Bool := title.all fun text => text.toList.length ≤ 500

theorem cut_of_fits {text : String} (hfits : text.toList.length ≤ 500) : cut 500 text = text := by
  rw [cut, List.take_of_length_le hfits, String.ofList_toList]

theorem fits_apply (dumps : Members → String) (parsed : ParsedMessageCard) (row : CardRow) :
    Fits (row.apply dumps parsed).title = true := by
  cases htitle : assign parsed.title row.title with
  | none => simp [CardRow.apply, htitle, Fits]
  | some text => simp [CardRow.apply, htitle, Fits, cut]

section Rows

variable {dumps : Members → String} {message : StoredMessage} {parsed : ParsedMessageCard}

theorem assign_assign (value column : Option String) :
    assign value (assign value column) = assign value column := by
  cases htruthy : truthy value with
  | false => simp [assign, htruthy]
  | true => simp [assign, htruthy]

theorem map_cut_assign (value column : Option String) :
    (assign value ((assign value column).map (cut 500))).map (cut 500) =
      (assign value column).map (cut 500) := by
  have hcut : ∀ text, cut 500 (cut 500 text) = cut 500 text := by
    intro text
    simp [cut, List.take_take]
  cases htruthy : truthy value with
  | false => simp [assign, htruthy, Option.map_map, Function.comp_def, hcut]
  | true => simp [assign, htruthy]

theorem title_of_key {row : CardRow} (hkey : row.key = message.cardKey parsed) :
    row.title = parsed.title := congrArg (fun key => key.2.2.2.2) hkey

theorem key_apply (hfits : Fits parsed.title = true) {row : CardRow}
    (hkey : row.key = message.cardKey parsed) : (row.apply dumps parsed).key = row.key := by
  have htitle := title_of_key hkey
  have hsame : (assign parsed.title row.title).map (cut 500) = row.title := by
    rw [htitle]
    cases hparsed : parsed.title with
    | none => rfl
    | some text =>
        rw [hparsed] at hfits
        have hcut : cut 500 text = text := cut_of_fits (by simpa [Fits] using hfits)
        rw [assign, ite_self, Option.map_some, hcut]
  rw [CardRow.key, CardRow.key, CardRow.apply, hsame]

def StoredMessage.keyedCard (message : StoredMessage) (parsed : ParsedMessageCard) : CardRow :=
  { message.newCard parsed with title := parsed.title }

theorem apply_keyedCard (htitled : parsed.title ≠ some "") :
    (message.keyedCard parsed).apply dumps parsed = (message.newCard parsed).apply dumps parsed := by
  have htitle : assign parsed.title parsed.title = assign parsed.title none := by
    cases hparsed : parsed.title with
    | none => rfl
    | some text =>
        have htruthy : truthy (some text) = true :=
          truthy_some.mpr fun hempty => htitled (by rw [hparsed, hempty])
        rw [assign, assign, if_pos htruthy, if_pos htruthy]
  simp only [CardRow.apply, StoredMessage.keyedCard, htitle]
  rfl

/-- A card is applied once. -/
theorem apply_apply (row : CardRow) :
    (row.apply dumps parsed).apply dumps parsed = row.apply dumps parsed := by
  simp only [CardRow.apply, assign_assign, map_cut_assign]

def upsertRow (dumps : Members → String) (message : StoredMessage) (cards : List CardRow)
    (parsed : ParsedMessageCard) : List CardRow :=
  upsertFirst CardRow.key (message.cardKey parsed) (CardRow.apply dumps parsed)
    (message.keyedCard parsed) cards

theorem upsertCard_keyed (hfits : Fits parsed.title = true) (htitled : parsed.title ≠ some "")
    (cards : List CardRow) :
    upsertCard dumps message (cards.map fun row => (row.key, row)) parsed =
      (upsertRow dumps message cards parsed).map fun row => (row.key, row) := by
  let keyed : CardRow → CardKey × CardRow := fun row => (row.key, row)
  let update : CardKey × CardRow → CardKey × CardRow := fun entry =>
    (entry.1, entry.2.apply dumps parsed)
  have hcarry : ∀ row : CardRow, row.key = message.cardKey parsed →
      update (keyed row) = keyed (row.apply dumps parsed) := fun row hkey => by
    simp only [keyed, update, key_apply hfits hkey]
  have hrows : upsertFirst Prod.fst (message.cardKey parsed) update
      (keyed (message.keyedCard parsed)) (cards.map keyed) =
      (upsertRow dumps message cards parsed).map keyed :=
    upsertFirst_map CardRow.key Prod.fst keyed (fun _ => rfl) hcarry rfl cards
  rw [← hrows, upsertCard, upsertFirst, upsertFirst]
  simp only [update, keyed, apply_keyedCard htitled]
  rfl

variable {parsedCards : List ParsedMessageCard} {cards : List CardRow}

theorem upsertMessageCards_eq (hfits : ∀ parsed ∈ parsedCards, Fits parsed.title = true)
    (htitled : ∀ parsed ∈ parsedCards, parsed.title ≠ some "") (cards : List CardRow) :
    upsertMessageCards dumps message cards parsedCards =
      parsedCards.foldl (upsertRow dumps message) cards := by
  have hkeyed : parsedCards.foldl (upsertCard dumps message)
      (cards.map fun row => (row.key, row)) =
        (parsedCards.foldl (upsertRow dumps message) cards).map fun row => (row.key, row) := by
    induction parsedCards generalizing cards with
    | nil => rfl
    | cons parsed rest ih =>
        rw [List.foldl_cons, List.foldl_cons,
          upsertCard_keyed (hfits parsed List.mem_cons_self) (htitled parsed List.mem_cons_self)]
        exact ih (fun later hmem => hfits later (List.mem_cons_of_mem _ hmem))
          (fun later hmem => htitled later (List.mem_cons_of_mem _ hmem)) _
  rw [upsertMessageCards, hkeyed, List.map_map]
  exact List.map_id' _

def Holds (dumps : Members → String) (message : StoredMessage) (parsed : ParsedMessageCard)
    (cards : List CardRow) : Prop :=
  ∃ row, cards.find? (fun row => row.key = message.cardKey parsed) = some row ∧
    row.apply dumps parsed = row

theorem upsertRow_of_holds (hholds : Holds dumps message parsed cards) :
    upsertRow dumps message cards parsed = cards := by
  obtain ⟨row, hfound, hfixed⟩ := hholds
  exact upsertFirst_eq_self hfound hfixed

theorem key_apply_of_key (hfits : Fits parsed.title = true) (row : CardRow)
    (hkey : row.key = message.cardKey parsed) :
    (row.apply dumps parsed).key = message.cardKey parsed := (key_apply hfits hkey).trans hkey

theorem holds_upsertRow (hfits : Fits parsed.title = true) (cards : List CardRow) :
    Holds dumps message parsed (upsertRow dumps message cards parsed) :=
  ⟨_, find?_upsertFirst_self (key_apply_of_key hfits) rfl cards, apply_apply _⟩

theorem Holds.upsertRow {other : StoredMessage} {card : ParsedMessageCard}
    (hholds : Holds dumps other card cards) (hfits : Fits parsed.title = true)
    (hother : other.cardKey card ≠ message.cardKey parsed) :
    Holds dumps other card (upsertRow dumps message cards parsed) := by
  obtain ⟨row, hfound, hfixed⟩ := hholds
  exact ⟨row, (find?_upsertFirst_of_ne (key_apply_of_key hfits) rfl hother cards).trans hfound,
    hfixed⟩

theorem Holds.foldl_upsertRow {other : StoredMessage} {card : ParsedMessageCard}
    {parsedCards : List ParsedMessageCard}
    (hfits : ∀ parsed ∈ parsedCards, Fits parsed.title = true)
    (hother : ∀ parsed ∈ parsedCards, other.cardKey card ≠ message.cardKey parsed)
    {cards : List CardRow} (hholds : Holds dumps other card cards) :
    Holds dumps other card (parsedCards.foldl (Backfills.upsertRow dumps message) cards) := by
  induction parsedCards generalizing cards with
  | nil => exact hholds
  | cons parsed rest ih =>
      exact ih (fun later hmem => hfits later (List.mem_cons_of_mem _ hmem))
        (fun later hmem => hother later (List.mem_cons_of_mem _ hmem))
        (hholds.upsertRow (hfits parsed List.mem_cons_self) (hother parsed List.mem_cons_self))

theorem holds_foldl_upsertRow {parsedCards : List ParsedMessageCard}
    (hfits : ∀ parsed ∈ parsedCards, Fits parsed.title = true)
    (hnodup : (parsedCards.map ParsedMessageCard.key).Nodup) (cards : List CardRow) :
    ∀ parsed ∈ parsedCards,
      Holds dumps message parsed (parsedCards.foldl (upsertRow dumps message) cards) := by
  induction parsedCards generalizing cards with
  | nil => exact fun parsed hmem => absurd hmem List.not_mem_nil
  | cons first rest ih =>
      have hrest : ∀ parsed ∈ rest, Fits parsed.title = true := fun later hmem =>
        hfits later (List.mem_cons_of_mem _ hmem)
      intro parsed hmem
      rcases List.mem_cons.mp hmem with rfl | hlater
      · refine (holds_upsertRow (hfits parsed List.mem_cons_self) cards).foldl_upsertRow hrest ?_
        intro later hmem hsame
        have hkey : parsed.key = later.key := congrArg Prod.snd hsame
        exact (List.nodup_cons.mp hnodup).1 (hkey ▸ List.mem_map_of_mem hmem)
      · exact ih hrest (List.nodup_cons.mp hnodup).2 _ parsed hlater

/-- Nothing changes where the row of every card holds its texts. -/
theorem upsertMessageCards_of_holds (hfits : ∀ parsed ∈ parsedCards, Fits parsed.title = true)
    (htitled : ∀ parsed ∈ parsedCards, parsed.title ≠ some "")
    (hholds : ∀ parsed ∈ parsedCards, Holds dumps message parsed cards) :
    upsertMessageCards dumps message cards parsedCards = cards := by
  rw [upsertMessageCards_eq hfits htitled]
  clear hfits htitled
  induction parsedCards with
  | nil => rfl
  | cons parsed rest ih =>
      rw [List.foldl_cons, upsertRow_of_holds (hholds parsed List.mem_cons_self)]
      exact ih fun later hmem => hholds later (List.mem_cons_of_mem _ hmem)

def fitting (cards : List CardRow) : ℕ := cards.countP fun row => Fits row.title

theorem countP_le_foldl_upsertCard (parsedCards : List ParsedMessageCard)
    (entries : List (CardKey × CardRow)) :
    entries.countP (fun entry => Fits entry.2.title) ≤
      (parsedCards.foldl (upsertCard dumps message) entries).countP
        fun entry => Fits entry.2.title := by
  induction parsedCards generalizing entries with
  | nil => rfl
  | cons parsed rest ih =>
      exact (countP_le_upsertFirst (fun entry : CardKey × CardRow => Fits entry.2.title)
        (fun _ => fits_apply dumps parsed _) entries).trans (ih _)

theorem fitting_le_upsertMessageCards (parsedCards : List ParsedMessageCard)
    (cards : List CardRow) :
    fitting cards ≤ fitting (upsertMessageCards dumps message cards parsedCards) := by
  have hentries : (cards.map fun row => (row.key, row)).countP
        (fun entry : CardKey × CardRow => Fits entry.2.title) ≤
      (parsedCards.foldl (upsertCard dumps message) (cards.map fun row => (row.key, row))).countP
        fun entry => Fits entry.2.title := countP_le_foldl_upsertCard parsedCards _
  rw [List.countP_map] at hentries
  rw [fitting, fitting, upsertMessageCards, List.countP_map]
  exact hentries

theorem fitting_lt_upsertMessageCards (htitled : ∀ parsed ∈ parsedCards, parsed.title ≠ some "")
    (hlong : ∃ parsed ∈ parsedCards, Fits parsed.title = false) (cards : List CardRow) :
    fitting cards < fitting (upsertMessageCards dumps message cards parsedCards) := by
  have hentries : (cards.map fun row => (row.key, row)).countP
        (fun entry : CardKey × CardRow => Fits entry.2.title) <
      (parsedCards.foldl (upsertCard dumps message) (cards.map fun row => (row.key, row))).countP
        fun entry => Fits entry.2.title := by
    induction parsedCards generalizing cards with
    | nil =>
        obtain ⟨parsed, hmem, -⟩ := hlong
        exact absurd hmem List.not_mem_nil
    | cons parsed rest ih =>
        rw [List.foldl_cons]
        cases hfits : Fits parsed.title with
        | false =>
            -- the dictionary's row of the card, if there is one, has the same long title
            refine (countP_lt_upsertFirst (fun entry : CardKey × CardRow => Fits entry.2.title)
              (fun _ => fits_apply dumps parsed _) ?_).trans_le (countP_le_foldl_upsertCard rest _)
            intro entry hentry hkey
            obtain ⟨row, -, rfl⟩ := List.mem_map.mp hentry
            rw [title_of_key hkey, hfits]
        | true =>
            obtain ⟨long, hmem, hlong⟩ := hlong
            have hrest : long ∈ rest := by
              rcases List.mem_cons.mp hmem with rfl | hrest
              · rw [hfits] at hlong
                cases hlong
              · exact hrest
            rw [upsertCard_keyed hfits (htitled parsed List.mem_cons_self)]
            refine lt_of_le_of_lt ?_ (ih (fun later hlater =>
              htitled later (List.mem_cons_of_mem _ hlater)) ⟨long, hrest, hlong⟩ _)
            rw [← upsertCard_keyed hfits (htitled parsed List.mem_cons_self)]
            exact countP_le_foldl_upsertCard [parsed] _
  rw [fitting, fitting, upsertMessageCards, List.countP_map]
  rwa [List.countP_map] at hentries

end Rows

end XianyuAdmin.Backfills
