import XianyuAdmin.Products.CatalogPages

/-!
# Whether a complete listing has seen the whole catalog

The platform serves its catalog in pages of the asked size.  A listing stops at the first page
with fewer products than that, which need not be the last one: cards that are no products
shorten a page as well.
-/

namespace XianyuAdmin.Products

variable (library : CardLibrary)

def pageOf (catalog : List Json) (pageSize page : ℕ) : List Json :=
  (catalog.drop (page * pageSize)).take pageSize

def servePage (catalog : List Json) (pageSize page : ℕ) : Except RunFailure Json :=
  .ok (.obj [("cardList", .arr (pageOf catalog pageSize (page - 1)))])

def CardLibrary.products (catalog : List Json) : List ManagedProduct :=
  catalog.filterMap library.parseCard

/-- The first of `remaining` pages with fewer than `pageSize` products. -/
def firstShort (catalog : List Json) (pageSize : ℕ) : ℕ → ℕ → Option ℕ
  | 0, _ => none
  | remaining + 1, page =>
      if (library.products (pageOf catalog pageSize page)).length < pageSize then some page
      else firstShort catalog pageSize remaining (page + 1)

variable {library} {catalog : List Json} {pageSize : ℕ}

theorem products_append (front back : List Json) :
    library.products (front ++ back) = library.products front ++ library.products back :=
  List.filterMap_append

theorem products_take_succ (page : ℕ) :
    library.products (catalog.take ((page + 1) * pageSize)) =
      library.products (catalog.take (page * pageSize)) ++
        library.products (pageOf catalog pageSize page) := by
  rw [← products_append, pageOf, ← List.take_add, Nat.succ_mul]

theorem listPages_servePage {remaining : ℕ} :
    ∀ {page : ℕ}, library.listPages (servePage catalog pageSize) pageSize remaining (page + 1)
        (library.products (catalog.take (page * pageSize))) =
      .ok
        { items := library.products (catalog.take
            (((firstShort library catalog pageSize remaining page).elim (page + remaining)
              (· + 1)) * pageSize))
          complete := (firstShort library catalog pageSize remaining page).isSome } := by
  induction remaining with
  | zero => exact fun {page} => rfl
  | succ remaining ih =>
      intro page
      have hparse : library.parseProductCards
          (.obj [("cardList", .arr (pageOf catalog pageSize page))]) =
          library.products (pageOf catalog pageSize page) := rfl
      rw [CardLibrary.listPages, firstShort]
      simp only [servePage, Nat.add_sub_cancel, hparse, ← products_take_succ]
      split
      · rfl
      · rw [ih, Nat.add_right_comm page 1 remaining, Nat.add_assoc]

theorem listSellingItems_servePage (maxPages : Option ℤ) :
    library.listSellingItems (servePage catalog pageSize) pageSize maxPages =
      .ok
        { items := library.products (catalog.take
            (((firstShort library catalog pageSize (pageLimit maxPages) 0).elim
              (pageLimit maxPages) (· + 1)) * pageSize))
          complete := (firstShort library catalog pageSize (pageLimit maxPages) 0).isSome } := by
  have h : library.listPages (servePage catalog pageSize) pageSize (pageLimit maxPages) (0 + 1)
      (library.products (catalog.take (0 * pageSize))) = _ := listPages_servePage
  rw [Nat.zero_mul, Nat.zero_add, Nat.zero_add] at h
  exact h

theorem firstShort_eq_some_iff {remaining : ℕ} :
    ∀ {page last : ℕ}, firstShort library catalog pageSize remaining page = some last ↔
      page ≤ last ∧ last < page + remaining ∧
        (library.products (pageOf catalog pageSize last)).length < pageSize ∧
        ∀ earlier, page ≤ earlier → earlier < last →
          pageSize ≤ (library.products (pageOf catalog pageSize earlier)).length := by
  induction remaining with
  | zero =>
      intro page last
      simp only [firstShort, reduceCtorEq, false_iff]
      omega
  | succ remaining ih =>
      intro page last
      rw [firstShort]
      split
      · rename_i hshort
        rw [Option.some.injEq]
        constructor
        · rintro rfl
          exact ⟨le_rfl, by omega, hshort, fun earlier hge hlt => absurd hge (by omega)⟩
        · rintro ⟨hle, -, -, hfull⟩
          by_contra hne
          exact absurd hshort (Nat.not_lt.mpr (hfull page le_rfl (by omega)))
      · rename_i hlong
        rw [ih]
        constructor
        · rintro ⟨hle, hlt, hshort, hfull⟩
          refine ⟨by omega, by omega, hshort, fun earlier hge hlt => ?_⟩
          rcases Nat.eq_or_lt_of_le hge with rfl | hgt
          · exact Nat.not_lt.mp hlong
          · exact hfull earlier hgt hlt
        · rintro ⟨hle, hlt, hshort, hfull⟩
          have hne : page ≠ last := by
            rintro rfl
            exact hlong hshort
          exact ⟨by omega, by omega, hshort, fun earlier hge hlt =>
            hfull earlier (by omega) hlt⟩

theorem products_eq_nil_iff {cards : List Json} :
    library.products cards = [] ↔ ∀ card ∈ cards, library.parseCard card = none :=
  List.filterMap_eq_nil_iff

/-- A page without a short count holds products only, as many as were asked for. -/
theorem length_products_ge_iff {cards : List Json} (hlength : cards.length ≤ pageSize) :
    pageSize ≤ (library.products cards).length ↔
      cards.length = pageSize ∧ ∀ card ∈ cards, library.parseCard card ≠ none := by
  have hle : (library.products cards).length ≤ cards.length := List.length_filterMap_le _ _
  have hall : (library.products cards).length = cards.length ↔
      ∀ card ∈ cards, library.parseCard card ≠ none := by
    rw [CardLibrary.products, List.filterMap_length_eq_length]
    simp only [Option.isSome_iff_ne_none]
  constructor
  · intro hge
    have heq : cards.length = pageSize := le_antisymm hlength (hge.trans hle)
    exact ⟨heq, hall.mp (le_antisymm hle (heq ▸ hge))⟩
  · rintro ⟨heq, husable⟩
    rw [hall.mpr husable, heq]

theorem length_pageOf (page : ℕ) :
    (pageOf catalog pageSize page).length = min pageSize (catalog.length - page * pageSize) := by
  rw [pageOf, List.length_take, List.length_drop]

theorem length_pageOf_le (page : ℕ) : (pageOf catalog pageSize page).length ≤ pageSize :=
  List.length_take_le _ _

def SeesWholeCatalog (library : CardLibrary) (catalog : List Json) (pageSize : ℕ)
    (maxPages : Option ℤ) : Prop :=
  ∀ result, library.listSellingItems (servePage catalog pageSize) pageSize maxPages =
      .ok result → result.complete = true →
    result.items = library.products catalog ∧
      ∀ now accountId before after,
        applySync now accountId result.items true result.complete before = some after →
        ∀ row ∈ before.products.rows, row.accountId = accountId →
          row.itemId ∈ (library.products catalog).map ManagedProduct.itemId →
          ∃ next ∈ after.products.rows, SameProduct row next ∧
            next.missingSyncCount ≤ row.missingSyncCount ∧ next.platformStatus ≠ .notSelling

theorem unharmed_of_items {now : ℕ} {accountId : String} {items : List ManagedProduct}
    {complete : Bool} {before after : CatalogDatabase}
    (happly : applySync now accountId items true complete before = some after)
    {row : ProductItem} (hrow : row ∈ before.products.rows) (haccount : row.accountId = accountId)
    (hitem : row.itemId ∈ items.map ManagedProduct.itemId) :
    ∃ next ∈ after.products.rows, SameProduct row next ∧
      next.missingSyncCount ≤ row.missingSyncCount ∧ next.platformStatus ≠ .notSelling := by
  have hsynced := synced_applySync happly
  obtain ⟨next, hnext, hsame⟩ := hsynced.kept row hrow
  have hstanding := hsynced.seen next hnext (hsame.listed_iff.mp ⟨haccount, hitem⟩)
  have hcount : next.missingSyncCount = 0 := congrArg Standing.missingSyncCount hstanding
  have hstatus : next.platformStatus = .selling := congrArg Standing.platformStatus hstanding
  refine ⟨next, hnext, hsame, by omega, ?_⟩
  rw [hstatus]
  decide

/-- A complete listing has seen everything when no product follows the first short page. -/
theorem seesWholeCatalog_iff_firstShort (maxPages : Option ℤ) :
    SeesWholeCatalog library catalog pageSize maxPages ↔
      ∀ last, firstShort library catalog pageSize (pageLimit maxPages) 0 = some last →
        ∀ card ∈ catalog.drop ((last + 1) * pageSize), library.parseCard card = none := by
  have hitems : ∀ last, library.products (catalog.take ((last + 1) * pageSize)) =
      library.products catalog ↔
        ∀ card ∈ catalog.drop ((last + 1) * pageSize), library.parseCard card = none := by
    intro last
    have hsplit : library.products catalog =
        library.products (catalog.take ((last + 1) * pageSize)) ++
          library.products (catalog.drop ((last + 1) * pageSize)) := by
      rw [← products_append, List.take_append_drop]
    rw [hsplit, ← products_eq_nil_iff]
    constructor
    · intro heq
      exact List.append_cancel_left (heq.symm.trans (List.append_nil _).symm)
    · intro heq
      rw [heq, List.append_nil]
  unfold SeesWholeCatalog
  rw [listSellingItems_servePage]
  constructor
  · intro hsees last hlast
    rw [hlast] at hsees
    exact (hitems last).mp (hsees _ rfl rfl).1
  · rintro hrest _ ⟨rfl⟩ hcomplete
    obtain ⟨last, hlast⟩ := Option.isSome_iff_exists.mp hcomplete
    have heq := (hitems last).mpr (hrest last hlast)
    simp only [hlast, Option.elim_some]
    refine ⟨heq, fun now accountId before after happly row hrow haccount hitem => ?_⟩
    rw [← heq] at hitem
    exact unharmed_of_items happly hrow haccount hitem

/-- A complete listing has seen the whole catalog just in case no product follows on a later
page after the first page, among those that may be asked for, with a card that is none. -/
theorem seesWholeCatalog_iff (library : CardLibrary) (catalog : List Json) (pageSize : ℕ)
    (maxPages : Option ℤ) :
    SeesWholeCatalog library catalog pageSize maxPages ↔
      ∀ page < pageLimit maxPages,
        (∀ earlier < page, ∀ card ∈ pageOf catalog pageSize earlier,
          library.parseCard card ≠ none) →
        (∃ card ∈ pageOf catalog pageSize page, library.parseCard card = none) →
        ∀ card ∈ catalog.drop ((page + 1) * pageSize), library.parseCard card = none := by
  rw [seesWholeCatalog_iff_firstShort]
  constructor
  · intro hrest page hpage hearlier hcard
    refine hrest page (firstShort_eq_some_iff.mpr ⟨Nat.zero_le _, by omega, ?_, ?_⟩)
    · rw [← not_le, length_products_ge_iff (length_pageOf_le page)]
      rintro ⟨-, husable⟩
      obtain ⟨card, hmem, hnone⟩ := hcard
      exact husable card hmem hnone
    · intro earlier _ hlt
      refine (length_products_ge_iff (length_pageOf_le earlier)).mpr ⟨?_, hearlier earlier hlt⟩
      obtain ⟨card, hmem, -⟩ := hcard
      have hpositive := List.length_pos_of_mem hmem
      have hbefore : (earlier + 1) * pageSize ≤ page * pageSize :=
        Nat.mul_le_mul_right pageSize hlt
      rw [length_pageOf] at hpositive ⊢
      rw [Nat.succ_mul] at hbefore
      omega
  · intro hcondition last hlast
    obtain ⟨-, hlt, hshort, hfull⟩ := firstShort_eq_some_iff.mp hlast
    by_cases hcard : ∃ card ∈ pageOf catalog pageSize last, library.parseCard card = none
    · refine hcondition last (by omega) (fun earlier hearlier => ?_) hcard
      exact ((length_products_ge_iff (length_pageOf_le earlier)).mp
        (hfull earlier (Nat.zero_le _) hearlier)).2
    · -- The page holds products only, so it is the last one.
      have husable : ∀ card ∈ pageOf catalog pageSize last, library.parseCard card ≠ none :=
        fun card hmem hnone => hcard ⟨card, hmem, hnone⟩
      have hlength : (pageOf catalog pageSize last).length ≠ pageSize := fun heq =>
        absurd ((length_products_ge_iff (length_pageOf_le last)).mpr ⟨heq, husable⟩)
          (Nat.not_le.mpr hshort)
      have hend : catalog.length ≤ (last + 1) * pageSize := by
        rw [length_pageOf] at hlength
        rw [Nat.succ_mul]
        omega
      rw [List.drop_eq_nil_of_le hend]
      exact fun card hmem => by cases hmem

def plainCards : CardLibrary where
  containerText := Json.dumps
  digit := fun char => if char.isDigit then some (char.toNat - 48) else none

def cardOf (itemId : String) : Json :=
  .obj [("cardData", .obj [("id", .str itemId)])]

def bannerCatalog : List Json :=
  .obj [("cardData", .obj [("title", .str "banner")])] ::
    ["01", "02", "03", "04", "05", "06", "07", "08", "09", "10", "11", "12", "13", "14", "15",
      "16", "17", "18", "19", "20"].map cardOf

/-- A card that is no product hides the products on later pages. -/
theorem complete_listing_misses_products :
    ¬ ∀ library catalog pageSize maxPages,
      SeesWholeCatalog library catalog pageSize maxPages := by
  intro hsees
  have hiff := (seesWholeCatalog_iff_firstShort none).mp
    (hsees plainCards bannerCatalog 20 none)
  have hbanner : plainCards.parseCard (.obj [("cardData", .obj [("title", .str "banner")])]) =
      none := by
    rfl
  have hfirst : firstShort plainCards bannerCatalog 20 (pageLimit none) 0 = some 0 := by
    refine firstShort_eq_some_iff.mpr ⟨le_rfl, by decide, ?_, fun earlier _ hlt => by omega⟩
    rw [← not_le, length_products_ge_iff (length_pageOf_le 0)]
    rintro ⟨-, husable⟩
    exact husable _ (List.mem_cons_self ..) hbanner
  have hlast := hiff 0 hfirst (cardOf "20") (by simp [bannerCatalog])
  have hparsed : (plainCards.parseCard (cardOf "20")).isSome = true := by
    decide
  rw [hlast] at hparsed
  cases hparsed

end XianyuAdmin.Products
