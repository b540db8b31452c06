import XianyuAdmin.Orders.OrderPages

/-!
# Where a listing of orders ends

A listing follows the pages that the platform serves.  Without its bookkeeping it is a walk
through positions, which goes on as long as a page announces a next one, has entries, and
passes the guards of the listing.
-/

namespace XianyuAdmin.Orders

open XianyuAdmin.Mtop
open XianyuAdmin.Python

variable {Request Order Position : Type}

def ValidPages (maxPages : Option ℤ) : Prop :=
  ∀ pages, maxPages = some pages → 1 ≤ pages

theorem validPages_none : ValidPages none := fun _ hmax => nomatch hmax

namespace Pager

variable (pager : Pager Request Order Position) (post : Request → Except Failure Json)

def announcesNext (response : Json) : Bool :=
  pager.library.asBool (Json.get (pager.listing response) "nextPage")

structure ServesFinitely : Prop where
  orderIds : {orderId | ∃ request response page, post request = .ok response ∧
    pager.readPage response = .ok page ∧ ∃ order ∈ page.orders,
      pager.orderId order = orderId}.Finite
  cursors : {cursor | ∃ request response, post request = .ok response ∧
    Json.get (pager.listing response) "lastEndRow" = cursor}.Finite

structure EndsTruthfully (listing : ℕ → Option (Listing Request Order)) : Prop where
  ends : ∃ turns run, listing turns = some run
  distinct : ∀ turns run result, listing turns = some run → run.outcome = .ok result →
    (result.items.map fun order => (pager.orderId order).text).Nodup
  truthful : ∀ turns run result, listing turns = some run → run.outcome = .ok result →
    result.complete = true → ∀ request response, run.requests.getLast? = some request →
      post request = .ok response → pager.announcesNext response = false

def served (request : Request) : Option (OrderPage Order) :=
  match post request with
  | .ok response => (pager.readPage response).toOption
  | .error _ => none

def goesOn (maxPages : Option ℤ) (position : Position) (number : ℕ) (page : OrderPage Order) :
    Bool :=
  !pager.repeats position page && page.nextPage pager.library && !page.rawItems.isEmpty &&
    !maxPages.any fun pages => pages ≤ (number : ℤ)

def walk (maxPages : Option ℤ) : ℕ → Option Position
  | 0 => some pager.start
  | turns + 1 =>
      (walk maxPages turns).bind fun position =>
        (pager.served post (pager.request (turns + 1) position)).bind fun page =>
          if pager.goesOn maxPages position (turns + 1) page then pager.advance position page
          else none

variable {pager post} {maxPages : Option ℤ}

variable {request : Request} {response : Json} {state : PagingState Request Order Position}
  {page : OrderPage Order}

theorem requestPage_of_ok (hpost : post request = .ok response) (others attempt : ℕ) :
    pager.requestPage post request others attempt = ([request], .ok response) := by
  unfold requestPage
  rw [hpost]

theorem requestPage_of_error {failure : Failure} (hpost : post request = .error failure) :
    ∀ others attempt, ∃ earlier error,
      pager.requestPage post request others attempt = (earlier ++ [request], .error error) := by
  intro others
  induction others with
  | zero =>
      intro attempt
      unfold requestPage
      rw [hpost]
      split
      · rename_i hok
        cases hok
      · split
        · rename_i hothers
          cases hothers
        · exact ⟨[], _, rfl⟩
      · exact ⟨[], _, rfl⟩
  | succ others ih =>
      intro attempt
      unfold requestPage
      rw [hpost]
      split
      · rename_i hok
        cases hok
      · split
        · rename_i hothers
          obtain rfl := Nat.succ.inj hothers
          obtain ⟨earlier, error, hlater⟩ := ih (attempt + 1)
          exact ⟨request :: earlier, error, by rw [hlater, List.cons_append]⟩
        · exact ⟨[], _, rfl⟩
      · exact ⟨[], _, rfl⟩

theorem turn_of_served_eq_none
    (hnone : pager.served post (pager.request state.page state.position) = none) :
    ∃ requests error, pager.turn post maxPages state =
      .leave { requests := requests, outcome := .error error } := by
  unfold turn
  cases hpost : post (pager.request state.page state.position) with
  | error failure =>
      obtain ⟨earlier, error, hrequest⟩ : ∃ earlier error, pager.requestPage post _ 2 1 =
          (earlier ++ [pager.request state.page state.position], .error error) :=
        requestPage_of_error hpost 2 1
      refine ⟨state.requests ++ (earlier ++ [pager.request state.page state.position]), error, ?_⟩
      rw [hrequest]
      rfl
  | ok response =>
      cases hread : pager.readPage response with
      | ok page =>
          simp only [served, hpost, hread, Except.toOption, reduceCtorEq] at hnone
      | error error =>
          refine ⟨state.requests ++ [pager.request state.page state.position], error, ?_⟩
          simp only [requestPage_of_ok hpost, Except.bind, hread]

def found (state : PagingState Request Order Position) (page : OrderPage Order) :
    List Order × List String :=
  page.orders.foldl (addOrder pager.orderId) (state.orders, state.seen)

def finish (state : PagingState Request Order Position) (page : OrderPage Order)
    (complete : Bool) : Listing Request Order where
  requests := state.requests ++ [pager.request state.page state.position]
  outcome := .ok
    { items := (pager.found state page).1
      pages := state.page
      totalCount := page.totalCount.getD state.totalCount
      complete := complete }

def goOn (state : PagingState Request Order Position) (page : OrderPage Order)
    (position : Position) : PagingState Request Order Position where
  requests := state.requests ++ [pager.request state.page state.position]
  orders := (pager.found state page).1
  seen := (pager.found state page).2
  position := position
  page := state.page + 1
  totalCount := page.totalCount.getD state.totalCount

def endsAt (position : Position) (page : OrderPage Order) : Bool :=
  !pager.repeats position page && (!page.nextPage pager.library || page.rawItems.isEmpty)

theorem turn_of_served_eq_some
    (hserved : pager.served post (pager.request state.page state.position) = some page) :
    pager.turn post maxPages state =
      if pager.goesOn maxPages state.position state.page page then
        (pager.advance state.position page).elim (.leave (pager.finish state page false))
          fun position => .again (pager.goOn state page position)
      else .leave (pager.finish state page (pager.endsAt state.position page)) := by
  cases hpost : post (pager.request state.page state.position) with
  | error failure => simp only [served, hpost, reduceCtorEq] at hserved
  | ok response =>
      have hread : pager.readPage response = .ok page := by
        cases hread : pager.readPage response with
        | error error => simp only [served, hpost, hread, Except.toOption, reduceCtorEq] at hserved
        | ok other =>
            simp only [served, hpost, hread, Except.toOption, Option.some.injEq] at hserved
            rw [hserved]
      unfold turn goesOn endsAt
      simp only [requestPage_of_ok hpost, Except.bind, hread]
      cases pager.repeats state.position page <;> cases page.nextPage pager.library <;>
        cases page.rawItems.isEmpty <;>
        cases maxPages.any (fun pages => pages ≤ (state.page : ℤ)) <;>
        cases pager.advance state.position page <;> rfl

theorem turn_eq_again_iff {next : PagingState Request Order Position} :
    pager.turn post maxPages state = .again next ↔
      ∃ page position,
        pager.served post (pager.request state.page state.position) = some page ∧
          pager.goesOn maxPages state.position state.page page = true ∧
          pager.advance state.position page = some position ∧
          pager.goOn state page position = next := by
  cases hserved : pager.served post (pager.request state.page state.position) with
  | none =>
      obtain ⟨requests, error, hturn⟩ :
          ∃ requests error, pager.turn post maxPages state = .leave ⟨requests, .error error⟩ :=
        turn_of_served_eq_none hserved
      simp only [hturn, reduceCtorEq, false_and, exists_false]
  | some page =>
      rw [turn_of_served_eq_some hserved]
      simp only [Option.some.injEq, exists_and_left, exists_eq_left']
      split
      · cases pager.advance state.position page with
        | none => simp only [Option.elim_none, reduceCtorEq, false_and, exists_false, and_false]
        | some position =>
            simp only [Option.elim_some, WhileLoop.Turn.again.injEq, Option.some.injEq, exists_eq_left',
              *, true_and]
      · simp only [reduceCtorEq, *, false_and]

theorem finish_of_turn_eq_leave {listing : Listing Request Order} {result : OrderListResult Order}
    (hturn : pager.turn post maxPages state = .leave listing)
    (hresult : listing.outcome = .ok result) :
    ∃ page, pager.served post (pager.request state.page state.position) = some page ∧
      listing = pager.finish state page result.complete ∧
      (result.complete = true → pager.endsAt state.position page = true) := by
  cases hserved : pager.served post (pager.request state.page state.position) with
  | none =>
      obtain ⟨requests, error, hfails⟩ :
          ∃ requests error, pager.turn post maxPages state = .leave ⟨requests, .error error⟩ :=
        turn_of_served_eq_none hserved
      cases hfails.symm.trans hturn
      cases hresult
  | some page =>
      have hcomplete : ∀ complete, WhileLoop.Turn.leave (pager.finish state page complete) =
          (.leave listing : WhileLoop.Turn (PagingState Request Order Position) _) →
          listing = pager.finish state page result.complete ∧ result.complete = complete := by
        intro complete hleave
        cases hleave
        cases hresult
        exact ⟨rfl, rfl⟩
      rw [turn_of_served_eq_some hserved] at hturn
      refine ⟨page, rfl, ?_⟩
      split at hturn
      · cases hadvance : pager.advance state.position page with
        | none =>
            rw [hadvance] at hturn
            obtain ⟨hlisting, hfalse⟩ := hcomplete false hturn
            exact ⟨hlisting, fun htrue => absurd (htrue.symm.trans hfalse) (by decide)⟩
        | some position =>
            rw [hadvance] at hturn
            cases hturn
      · obtain ⟨hlisting, hends⟩ := hcomplete _ hturn
        exact ⟨hlisting, fun htrue => hends.symm.trans htrue⟩

/-- A turn that reads an empty page calls the listing complete. -/
theorem turn_of_rawItems_eq_nil
    (hserved : pager.served post (pager.request state.page state.position) = some page)
    (hrepeats : pager.repeats state.position page = false) (hempty : page.rawItems = []) :
    pager.turn post maxPages state = .leave (pager.finish state page true) := by
  rw [turn_of_served_eq_some hserved]
  simp [goesOn, endsAt, hrepeats, hempty]

structure Collected (orderId : Order → Identifier) (found : List Order × List String) : Prop where
  distinct : (found.1.map fun order => (orderId order).text).Nodup
  noted : ∀ order ∈ found.1, (orderId order).text ∈ found.2

theorem collected_addOrder {orderId : Order → Identifier} {found : List Order × List String}
    (hcollected : Collected orderId found) (order : Order) :
    Collected orderId (addOrder orderId found order) := by
  unfold addOrder
  split
  · exact hcollected
  · rename_i hnew
    constructor
    · rw [List.map_append, List.map_singleton, List.nodup_append_comm, List.singleton_append,
        List.nodup_cons]
      refine ⟨fun hmem => ?_, hcollected.distinct⟩
      obtain ⟨other, hother, hsame⟩ := List.mem_map.mp hmem
      exact hnew (hsame ▸ hcollected.noted other hother)
    · intro other hother
      rcases List.mem_append.mp hother with hold | hadded
      · exact List.mem_cons_of_mem _ (hcollected.noted other hold)
      · rw [List.mem_singleton.mp hadded]
        exact List.mem_cons_self

theorem collected_foldl {orderId : Order → Identifier} (orders : List Order) :
    ∀ {found : List Order × List String}, Collected orderId found →
      Collected orderId (orders.foldl (addOrder orderId) found) := by
  induction orders with
  | nil => exact fun hcollected => hcollected
  | cons order orders ih => exact fun hcollected => ih (collected_addOrder hcollected order)

structure Tracks (pager : Pager Request Order Position) (post : Request → Except Failure Json)
    (maxPages : Option ℤ) (turns : ℕ) (state : PagingState Request Order Position) : Prop where
  walk : pager.walk post maxPages turns = some state.position
  page : state.page = turns + 1
  collected : Collected pager.orderId (state.orders, state.seen)

theorem walk_succ_eq_some_iff {turns : ℕ} {next : Position} :
    pager.walk post maxPages (turns + 1) = some next ↔
      ∃ position page, pager.walk post maxPages turns = some position ∧
        pager.served post (pager.request (turns + 1) position) = some page ∧
        pager.goesOn maxPages position (turns + 1) page = true ∧
        pager.advance position page = some next := by
  rw [walk, Option.bind_eq_some_iff]
  refine exists_congr fun position => ?_
  rw [Option.bind_eq_some_iff, ← exists_and_left]
  refine exists_congr fun page => and_congr_right fun _ => and_congr_right fun _ => ?_
  rw [Option.ite_none_right_eq_some]

theorem tracks_stateAfter {turns : ℕ}
    (hstate : WhileLoop.stateAfter (pager.turn post maxPages) turns
      { position := pager.start } = some state) : pager.Tracks post maxPages turns state := by
  induction turns generalizing state with
  | zero =>
      cases hstate
      exact ⟨rfl, rfl, List.nodup_nil, nofun⟩
  | succ turns ih =>
      obtain ⟨previous, hprevious, hagain⟩ := WhileLoop.stateAfter_succ_eq_some_iff.mp hstate
      obtain ⟨hwalk, hpage, hcollected⟩ := ih hprevious
      obtain ⟨page, position, hserved, hgoes, hadvance, rfl⟩ := turn_eq_again_iff.mp hagain
      rw [hpage] at hserved hgoes
      exact
        { walk := walk_succ_eq_some_iff.mpr ⟨_, page, hwalk, hserved, hgoes, hadvance⟩
          page := congrArg (· + 1) hpage
          collected := collected_foldl page.orders hcollected }

theorem exists_stateAfter {turns : ℕ} {position : Position}
    (hwalk : pager.walk post maxPages turns = some position) :
    ∃ state, WhileLoop.stateAfter (pager.turn post maxPages) turns
      { position := pager.start } = some state ∧ state.position = position ∧
        state.page = turns + 1 := by
  induction turns generalizing position with
  | zero => exact ⟨_, rfl, Option.some.inj hwalk, rfl⟩
  | succ turns ih =>
      obtain ⟨previous, page, hprevious, hserved, hgoes, hadvance⟩ :=
        walk_succ_eq_some_iff.mp hwalk
      obtain ⟨state, hstate, rfl, hpage⟩ := ih hprevious
      rw [← hpage] at hserved hgoes
      have hagain := turn_eq_again_iff.mpr ⟨page, position, hserved, hgoes, hadvance, rfl⟩
      exact ⟨_, WhileLoop.stateAfter_succ_eq_some_iff.mpr ⟨state, hstate, hagain⟩, rfl,
        congrArg (· + 1) hpage⟩

theorem endsTruthfully_of_error {listing : ℕ → Option (Listing Request Order)}
    {error : ListingError} (hlisting : ∀ turns, listing turns = some ⟨[], .error error⟩) :
    pager.EndsTruthfully post listing := by
  have hraises : ∀ turns run, listing turns = some run → run.outcome = .error error :=
    fun turns run hrun => by
      rw [← Option.some.inj ((hlisting turns).symm.trans hrun)]
  exact
    { ends := ⟨0, _, hlisting 0⟩
      distinct := fun turns run _ hrun hresult =>
        nomatch (hraises turns run hrun).symm.trans hresult
      truthful := fun turns run _ hrun hresult =>
        nomatch (hraises turns run hrun).symm.trans hresult }

theorem servesFinitely_const (response : Json) :
    pager.ServesFinitely fun _ => .ok response := by
  constructor
  · cases hread : pager.readPage response with
    | error error =>
        refine Set.finite_empty.subset fun orderId horder => ?_
        obtain ⟨_, other, page, hpost, hpage, -⟩ := horder
        obtain rfl : response = other := Except.ok.inj hpost
        cases hread.symm.trans hpage
    | ok page =>
        refine (page.orders.map pager.orderId).finite_toSet.subset fun orderId horder => ?_
        obtain ⟨_, other, found, hpost, hpage, order, hmem, hid⟩ := horder
        obtain rfl : response = other := Except.ok.inj hpost
        obtain rfl : page = found := Except.ok.inj (hread.symm.trans hpage)
        exact List.mem_map.mpr ⟨order, hmem, hid⟩
  · refine (Set.finite_singleton (Json.get (pager.listing response) "lastEndRow")).subset
      fun cursor hcursor => ?_
    obtain ⟨_, other, hpost, rfl⟩ := hcursor
    rw [← Except.ok.inj hpost]
    rfl

theorem readPage_eq_ok (hread : pager.readPage response = .ok page) :
    page.listing = pager.listing response ∧
      collect (parseEntry pager.parseOrder) page.rawItems = .ok page.orders := by
  obtain ⟨_, -, hlater⟩ := head_of_bind_eq_ok hread
  obtain ⟨totalCount, -, hlater⟩ := head_of_bind_eq_ok hlater
  obtain ⟨orders, horders, hpage⟩ := head_of_bind_eq_ok hlater
  cases hpage
  exact ⟨rfl, horders⟩

theorem served_eq_some_iff :
    pager.served post request = some page ↔
      ∃ response, post request = .ok response ∧ pager.readPage response = .ok page := by
  unfold served
  cases post request with
  | error failure => simp only [reduceCtorEq, false_and, exists_false]
  | ok response =>
      simp only [Except.ok.injEq, exists_eq_left']
      cases pager.readPage response with
      | error error => simp only [Except.toOption, reduceCtorEq]
      | ok other => simp only [Except.toOption, Option.some.injEq, Except.ok.injEq]

theorem orders_of_rawItems_eq_nil (hserved : pager.served post request = some page)
    (hempty : page.rawItems = []) :
    page.orders = [] := by
  obtain ⟨response, -, hread⟩ := served_eq_some_iff.mp hserved
  have horders := (readPage_eq_ok hread).2
  rw [hempty] at horders
  exact (Except.ok.inj horders).symm

theorem nextPage_eq_announcesNext (hserved : pager.served post request = some page)
    (hpost : post request = .ok response) :
    page.nextPage pager.library = pager.announcesNext response := by
  obtain ⟨other, hother, hread⟩ := served_eq_some_iff.mp hserved
  obtain rfl : response = other := Except.ok.inj (hpost.symm.trans hother)
  rw [announcesNext, ← (readPage_eq_ok hread).1, OrderPage.nextPage]

theorem announcesNext_of_finish {complete : Bool}
    (hserved : pager.served post (pager.request state.page state.position) = some page)
    (hlast : (pager.finish state page complete).requests.getLast? = some request)
    (hpost : post request = .ok response) :
    pager.announcesNext response = page.nextPage pager.library := by
  rw [finish, List.getLast?_concat, Option.some.injEq] at hlast
  subst hlast
  exact (nextPage_eq_announcesNext hserved hpost).symm

theorem list_eq_run (hpages : ValidPages maxPages) (turns : ℕ) :
    pager.list post maxPages turns =
      WhileLoop.run (pager.turn post maxPages) turns { position := pager.start } := by
  rw [list, if_neg]
  cases maxPages with
  | none => simp
  | some pages => simpa using hpages pages rfl

theorem exists_list_eq_some_iff (hpages : ValidPages maxPages) :
    (∃ turns run, pager.list post maxPages turns = some run) ↔
      ∃ turns, pager.walk post maxPages turns = none := by
  simp only [list_eq_run hpages, WhileLoop.exists_run_isSome_iff]
  refine exists_congr fun turns => ?_
  rw [Option.eq_none_iff_forall_ne_some, Option.eq_none_iff_forall_ne_some]
  constructor
  · intro hnever position hposition
    obtain ⟨state, hstate, -⟩ := exists_stateAfter hposition
    exact hnever state hstate
  · exact fun hnever state hstate => hnever _ (tracks_stateAfter hstate).walk

theorem endsTruthfully_list_iff (hpages : ValidPages maxPages)
    (hrepeats : ∀ position page, page.orders = [] → pager.repeats position page = false) :
    pager.EndsTruthfully post (pager.list post maxPages) ↔
      (∃ turns, pager.walk post maxPages turns = none) ∧
        ∀ turns position page, pager.walk post maxPages turns = some position →
          pager.served post (pager.request (turns + 1) position) = some page →
          page.rawItems = [] → page.nextPage pager.library = false := by
  constructor
  · intro hwell
    refine ⟨(exists_list_eq_some_iff hpages).mp hwell.ends,
      fun turns position page hposition hserved hempty => ?_⟩
    obtain ⟨state, hstate, rfl, hpage⟩ := exists_stateAfter hposition
    rw [← hpage] at hserved
    have hleave : pager.turn post maxPages state = .leave (pager.finish state page true) :=
      turn_of_rawItems_eq_nil hserved
        (hrepeats _ _ (orders_of_rawItems_eq_nil hserved hempty)) hempty
    obtain ⟨left, hrun⟩ := WhileLoop.exists_run_eq_some_iff.mpr ⟨turns, state, hstate, hleave⟩
    obtain ⟨response, hpost, -⟩ := served_eq_some_iff.mp hserved
    have hlast : (pager.finish state page true).requests.getLast? =
        some (pager.request state.page state.position) := List.getLast?_concat
    rw [← announcesNext_of_finish hserved hlast hpost]
    have hlisting := (list_eq_run hpages left).trans hrun
    exact hwell.truthful left _ _ hlisting rfl rfl _ response hlast hpost
  · rintro ⟨hstops, htruthful⟩
    have hleft : ∀ turns run result, pager.list post maxPages turns = some run →
        run.outcome = .ok result →
        ∃ later state page, pager.Tracks post maxPages later state ∧
          pager.served post (pager.request state.page state.position) = some page ∧
          run = pager.finish state page result.complete ∧
          (result.complete = true → pager.endsAt state.position page = true) := by
      intro turns run result hrun hresult
      obtain ⟨later, state, hstate, hleave⟩ :=
        WhileLoop.exists_run_eq_some_iff.mp ⟨turns, (list_eq_run hpages turns).symm.trans hrun⟩
      obtain ⟨page, hserved, hfinish, hcomplete⟩ := finish_of_turn_eq_leave hleave hresult
      exact ⟨later, state, page, tracks_stateAfter hstate, hserved, hfinish, hcomplete⟩
    constructor
    · exact (exists_list_eq_some_iff hpages).mpr hstops
    · intro turns run result hrun hresult
      obtain ⟨later, state, page, htracks, -, rfl, -⟩ := hleft turns run result hrun hresult
      rw [← congrArg OrderListResult.items (Except.ok.inj hresult)]
      exact (collected_foldl page.orders htracks.collected).distinct
    · intro turns run result hrun hresult hcomplete request response hlast hpost
      obtain ⟨later, state, page, htracks, hserved, rfl, hends⟩ :=
        hleft turns run result hrun hresult
      rw [announcesNext_of_finish hserved hlast hpost]
      by_contra hnext
      have hempty : page.rawItems = [] := by
        have hlastPage := hends hcomplete
        rw [endsAt, Bool.not_eq_false _ |>.mp hnext] at hlastPage
        simp only [Bool.not_true, Bool.false_or, Bool.and_eq_true, List.isEmpty_iff] at hlastPage
        exact hlastPage.2
      exact hnext (htruthful later state.position page htracks.walk
        (htracks.page ▸ hserved) hempty)

end Pager

variable {library : OrderLibrary} {code : String} {maxPages : Option ℤ}

section Sold

variable (library : OrderLibrary) (post : SoldRequest → Except Failure Json) (code : String)

def soldPage (earlier : ℕ) : Option (OrderPage SellerOrder) :=
  (soldPager library code).served post { pageNumber := earlier + 1, queryCode := code }

def SoldGoesOn (earlier : ℕ) : Prop :=
  ∃ page, soldPage library post code earlier = some page ∧ page.nextPage library = true ∧
    page.rawItems ≠ []

structure SoldPagesEnd (maxPages : Option ℤ) : Prop where
  ends : maxPages = none → ∃ earlier, ¬SoldGoesOn library post code earlier
  truthful : ∀ (earlier : ℕ) page, (∀ pages, maxPages = some pages → (earlier : ℤ) < pages) →
    (∀ before < earlier, SoldGoesOn library post code before) →
    soldPage library post code earlier = some page → page.rawItems = [] →
    page.nextPage library = false

end Sold

section Sold

variable {post : SoldRequest → Except Failure Json}

theorem goesOn_sold_iff {number : ℕ} {page : OrderPage SellerOrder} :
    (soldPager library code).goesOn maxPages () number page = true ↔
      (page.nextPage library = true ∧ page.rawItems ≠ []) ∧
        ∀ pages, maxPages = some pages → (number : ℤ) < pages := by
  have hlibrary : (soldPager library code).library = library := rfl
  have hrepeats : (soldPager library code).repeats () page = false := rfl
  rw [Pager.goesOn, hlibrary, hrepeats]
  simp only [Bool.not_false, Bool.true_and, Bool.and_eq_true, Bool.not_eq_true',
    List.isEmpty_eq_false_iff, ne_eq, and_congr_right_iff]
  intro _
  cases maxPages with
  | none => simp
  | some pages => simp

theorem walk_sold_eq_some_iff {turns : ℕ} (hpages : ValidPages maxPages) :
    (soldPager library code).walk post maxPages turns = some () ↔
      (∀ pages, maxPages = some pages → (turns : ℤ) < pages) ∧
        ∀ before < turns, SoldGoesOn library post code before := by
  induction turns with
  | zero =>
      refine iff_of_true rfl ⟨fun pages hmax => ?_, fun before hbefore => absurd hbefore (by omega)⟩
      have hpositive := hpages pages hmax
      omega
  | succ turns ih =>
      rw [Pager.walk_succ_eq_some_iff]
      constructor
      · rintro ⟨⟨⟩, page, hwalk, hserved, hgoes, -⟩
        obtain ⟨hpage, hmore⟩ := goesOn_sold_iff.mp hgoes
        refine ⟨hmore, fun before hbefore => ?_⟩
        rcases Nat.lt_succ_iff_lt_or_eq.mp hbefore with hlt | rfl
        · exact (ih.mp hwalk).2 before hlt
        · exact ⟨page, hserved, hpage⟩
      · rintro ⟨hmore, hall⟩
        obtain ⟨page, hserved, hpage⟩ := hall turns (Nat.lt_succ_self turns)
        have hwalk := ih.mpr ⟨fun pages hmax => by
          have hlater := hmore pages hmax
          omega, fun before hbefore => hall before (Nat.lt_succ_of_lt hbefore)⟩
        exact ⟨(), page, hwalk, hserved, goesOn_sold_iff.mpr ⟨hpage, hmore⟩, rfl⟩

/-- The walk through the pages of sold orders ends when there is a last one, or a number of
pages that are asked for at most. -/
theorem exists_walk_sold_eq_none_iff (hpages : ValidPages maxPages) :
    (∃ turns, (soldPager library code).walk post maxPages turns = none) ↔
      (maxPages = none → ∃ earlier, ¬SoldGoesOn library post code earlier) := by
  have hnone : ∀ turns, (soldPager library code).walk post maxPages turns = none ↔
      ¬((∀ pages, maxPages = some pages → (turns : ℤ) < pages) ∧
        ∀ before < turns, SoldGoesOn library post code before) := by
    intro turns
    rw [← walk_sold_eq_some_iff hpages]
    cases (soldPager library code).walk post maxPages turns <;> simp
  simp only [hnone]
  constructor
  · rintro ⟨turns, hstops⟩ rfl
    by_contra hall
    exact hstops ⟨nofun, fun before _ => not_not.mp (not_exists.mp hall before)⟩
  · intro hends
    cases maxPages with
    | none =>
        obtain ⟨earlier, hstops⟩ := hends rfl
        exact ⟨earlier + 1, fun hall => hstops (hall.2 earlier (Nat.lt_succ_self earlier))⟩
    | some pages =>
        refine ⟨pages.toNat, fun hall => ?_⟩
        have hless := hall.1 pages rfl
        omega

theorem endsTruthfully_sold_iff (hpages : ValidPages maxPages) :
    (soldPager library code).EndsTruthfully post
        ((soldPager library code).list post maxPages) ↔
      SoldPagesEnd library post code maxPages := by
  rw [Pager.endsTruthfully_list_iff hpages fun _ _ _ => rfl, exists_walk_sold_eq_none_iff hpages]
  constructor
  · rintro ⟨hends, htruthful⟩
    refine ⟨hends, fun earlier page hmore hbefore hserved hempty => ?_⟩
    have hwalk := (walk_sold_eq_some_iff hpages).mpr ⟨hmore, hbefore⟩
    exact htruthful earlier () page hwalk hserved hempty
  · rintro ⟨hends, htruthful⟩
    refine ⟨hends, fun turns _ page hwalk hserved hempty => ?_⟩
    obtain ⟨hmore, hbefore⟩ := (walk_sold_eq_some_iff hpages).mp hwalk
    exact htruthful turns page hmore hbefore hserved hempty

end Sold

section Bought

variable {post : BoughtRequest → Except Failure Json}

theorem repeats_bought (position : BoughtPosition) (page : OrderPage BuyerOrder)
    (horders : page.orders = []) : (boughtPager library code).repeats position page = false := by
  simp only [boughtPager, pageSignature, horders, List.map_nil, List.isEmpty_nil, Bool.not_true,
    Bool.false_and]

/-- The cursors that a walk has followed are those of answers, each of them once. -/
structure Followed (library : OrderLibrary) (post : BoughtRequest → Except Failure Json)
    (code : String) (turns : ℕ) (position : BoughtPosition) : Prop where
  distinct : position.seenCursors.Nodup
  count : position.seenCursors.length = turns
  served : ∀ key ∈ position.seenCursors, ∃ request response, post request = .ok response ∧
    library.cursorKey (Json.get ((boughtPager library code).listing response) "lastEndRow") = key

theorem followed_walk {turns : ℕ} {position : BoughtPosition}
    (hwalk : (boughtPager library code).walk post maxPages turns = some position) :
    Followed library post code turns position := by
  induction turns generalizing position with
  | zero =>
      cases hwalk
      exact ⟨List.nodup_nil, rfl, nofun⟩
  | succ turns ih =>
      obtain ⟨previous, page, hprevious, hserved, -, hadvance⟩ :=
        Pager.walk_succ_eq_some_iff.mp hwalk
      obtain ⟨hdistinct, hcount, hearlier⟩ := ih hprevious
      obtain ⟨response, hpost, hread⟩ := Pager.served_eq_some_iff.mp hserved
      have hadvance : advanceBought library previous page = some position := hadvance
      rw [advanceBought, Option.ite_none_left_eq_some, not_or] at hadvance
      obtain ⟨⟨-, hnew⟩, hposition⟩ := hadvance
      cases hposition
      rw [(Pager.readPage_eq_ok hread).1] at hnew ⊢
      refine ⟨List.nodup_cons.mpr ⟨hnew, hdistinct⟩, congrArg (· + 1) hcount, fun key hkey => ?_⟩
      rcases List.mem_cons.mp hkey with rfl | hold
      · exact ⟨_, response, hpost, rfl⟩
      · exact hearlier key hold

theorem exists_walk_bought_eq_none (hserves : (boughtPager library code).ServesFinitely post) :
    ∃ turns, (boughtPager library code).walk post maxPages turns = none := by
  refine WhileLoop.exists_none_of_finite (hserves.cursors.image library.cursorKey)
    (fun _ _ hwalk => (followed_walk hwalk).distinct)
    (fun _ _ hwalk => (followed_walk hwalk).count) fun turns position hwalk key hkey => ?_
  obtain ⟨request, response, hpost, hcursor⟩ := (followed_walk hwalk).served key hkey
  exact ⟨_, ⟨request, response, hpost, rfl⟩, hcursor⟩

def BoughtPagesTruthful (library : OrderLibrary) (post : BoughtRequest → Except Failure Json)
    (code : String) (maxPages : Option ℤ) : Prop :=
  ∀ turns position page,
    (boughtPager library code).walk post maxPages turns = some position →
    (boughtPager library code).served post
      ((boughtPager library code).request (turns + 1) position) = some page →
    page.rawItems = [] → page.nextPage library = false

theorem endsTruthfully_bought_iff (hpages : ValidPages maxPages)
    (hserves : (boughtPager library code).ServesFinitely post) :
    (boughtPager library code).EndsTruthfully post
        ((boughtPager library code).list post maxPages) ↔
      BoughtPagesTruthful library post code maxPages := by
  rw [Pager.endsTruthfully_list_iff hpages repeats_bought]
  exact and_iff_right (exists_walk_bought_eq_none hserves)

end Bought

theorem Pager.endsTruthfully_list_guarded {pager : Pager Request Order Position}
    {post : Request → Except Failure Json} {Condition : Prop}
    (hvalid : ValidPages maxPages →
      (pager.EndsTruthfully post (pager.list post maxPages) ↔ Condition)) :
    pager.EndsTruthfully post (pager.list post maxPages) ↔ (ValidPages maxPages → Condition) := by
  by_cases hpages : ValidPages maxPages
  · rw [hvalid hpages]
    exact ⟨fun hcondition _ => hcondition, fun hcondition => hcondition hpages⟩
  · have hlisting : ∀ turns, pager.list post maxPages turns =
        some ⟨[], .error (.valueError "max_pages must be positive")⟩ := by
      obtain ⟨pages, hinvalid⟩ := not_forall.mp hpages
      obtain ⟨rfl, hless⟩ := Classical.not_imp.mp hinvalid
      exact fun turns => if_pos (by simpa using hless)
    exact iff_of_true (Pager.endsTruthfully_of_error hlisting) fun hvalid => absurd hvalid hpages

/-- The orders of a platform with finitely many ids and cursors are listed to an end, with
distinct ids and a truthful `complete`, when no page without entries announces a next one, and
the pages of sold orders end or are bounded in number. -/
theorem order_listings_end_truthfully_iff (library : OrderLibrary)
    (soldPost : SoldRequest → Except Failure Json)
    (boughtPost : BoughtRequest → Except Failure Json) (queryCode orderStatus : String)
    (soldPages boughtPages : Option ℤ)
    (_hsold : (soldPager library (normalizeCode queryCode)).ServesFinitely soldPost)
    (hbought : (boughtPager library (normalizeCode orderStatus)).ServesFinitely boughtPost) :
    ((soldPager library (normalizeCode queryCode)).EndsTruthfully soldPost
        (listSoldOrders library soldPost queryCode soldPages) ↔
      (normalizeCode queryCode ∈ ["ALL", "NOT_SHIP"] → ValidPages soldPages →
        SoldPagesEnd library soldPost (normalizeCode queryCode) soldPages)) ∧
    ((boughtPager library (normalizeCode orderStatus)).EndsTruthfully boughtPost
        (listBoughtOrders library boughtPost orderStatus boughtPages) ↔
      (normalizeCode orderStatus ∈ buyerOrderStatuses → ValidPages boughtPages →
        BoughtPagesTruthful library boughtPost (normalizeCode orderStatus) boughtPages)) := by
  constructor
  · by_cases hcode : normalizeCode queryCode ∈ ["ALL", "NOT_SHIP"]
    · have hlisting : listSoldOrders library soldPost queryCode soldPages =
          (soldPager library (normalizeCode queryCode)).list soldPost soldPages := by
        funext turns
        exact if_neg (not_not.mpr hcode)
      rw [hlisting, Pager.endsTruthfully_list_guarded endsTruthfully_sold_iff]
      exact ⟨fun hends _ => hends, fun hends => hends hcode⟩
    · exact iff_of_true (Pager.endsTruthfully_of_error fun turns => if_pos hcode)
        fun hvalid => absurd hvalid hcode
  · by_cases hcode : normalizeCode orderStatus ∈ buyerOrderStatuses
    · have hlisting : listBoughtOrders library boughtPost orderStatus boughtPages =
          (boughtPager library (normalizeCode orderStatus)).list boughtPost boughtPages := by
        funext turns
        exact if_neg (not_not.mpr hcode)
      rw [hlisting, Pager.endsTruthfully_list_guarded fun hpages =>
        endsTruthfully_bought_iff hpages hbought]
      exact ⟨fun hends _ => hends, fun hends => hends hcode⟩
    · exact iff_of_true (Pager.endsTruthfully_of_error fun turns => if_pos hcode)
        fun hvalid => absurd hvalid hcode

def plainOrderLibrary : OrderLibrary where
  containerText := Json.dumps
  lower := lower
  intOfText text := (text.toInt?).elim (.error .invalid) .ok
  intOfFloat _ := .error .invalid
  instant _ _ := .error .invalid

def soldResponse (items : List Json) (nextPage : String) : Json :=
  .obj
    [("ret", .arr [.str "SUCCESS::调用成功"]),
      ("data", .obj [("module", .obj [("items", .arr items), ("nextPage", .str nextPage)])])]

def boughtResponse (items : List Json) (nextPage : Bool) : Json :=
  .obj
    [("ret", .arr [.str "SUCCESS::调用成功"]),
      ("data", .obj [("items", .arr items), ("nextPage", .bool nextPage)])]

def orderEntry : Json := .obj [("commonData", .obj [("orderId", .str "4001")])]

theorem order_listings_end_truthfully_lastPage :
    (soldPager plainOrderLibrary (normalizeCode "all")).EndsTruthfully
        (fun _ => .ok (soldResponse [orderEntry] "false"))
        (listSoldOrders plainOrderLibrary (fun _ => .ok (soldResponse [orderEntry] "false"))
          "all" none) ∧
      (boughtPager plainOrderLibrary (normalizeCode "all")).EndsTruthfully
        (fun _ => .ok (boughtResponse [orderEntry] false))
        (listBoughtOrders plainOrderLibrary (fun _ => .ok (boughtResponse [orderEntry] false))
          "all" none) := by
  have hlistings := order_listings_end_truthfully_iff plainOrderLibrary
    (fun _ => .ok (soldResponse [orderEntry] "false"))
    (fun _ => .ok (boughtResponse [orderEntry] false)) "all" "all" none none
    (Pager.servesFinitely_const _) (Pager.servesFinitely_const _)
  have hsold : (soldPager plainOrderLibrary (normalizeCode "all")).announcesNext
      (soldResponse [orderEntry] "false") = false := by decide
  have hbought : (boughtPager plainOrderLibrary (normalizeCode "all")).announcesNext
      (boughtResponse [orderEntry] false) = false := by decide
  refine ⟨hlistings.1.mpr fun _ _ => ⟨fun _ => ⟨0, ?_⟩, ?_⟩, hlistings.2.mpr fun _ _ => ?_⟩
  · rintro ⟨page, hserved, hnext, -⟩
    exact Bool.false_ne_true
      (hsold.symm.trans ((Pager.nextPage_eq_announcesNext hserved rfl).symm.trans hnext))
  · exact fun _ page _ _ hserved _ => (Pager.nextPage_eq_announcesNext hserved rfl).trans hsold
  · exact fun _ _ page _ hserved _ => (Pager.nextPage_eq_announcesNext hserved rfl).trans hbought

/-- A platform that serves its last page of sold orders again and again is asked for ever, and
an empty page of bought orders that announces a next one is taken for the end. -/
theorem repeated_page_never_ends :
    (soldPager plainOrderLibrary (normalizeCode "ALL")).ServesFinitely
        (fun _ => .ok (soldResponse [orderEntry] "true")) ∧
      (∀ turns, listSoldOrders plainOrderLibrary
        (fun _ => .ok (soldResponse [orderEntry] "true")) "ALL" none turns = none) ∧
    (boughtPager plainOrderLibrary (normalizeCode "ALL")).ServesFinitely
        (fun _ => .ok (boughtResponse [] true)) ∧
      ¬(boughtPager plainOrderLibrary (normalizeCode "ALL")).EndsTruthfully
        (fun _ => .ok (boughtResponse [] true))
        (listBoughtOrders plainOrderLibrary (fun _ => .ok (boughtResponse [] true))
          "ALL" none) := by
  have hcode : normalizeCode "ALL" = "ALL" := by decide
  have hsold : (soldPager plainOrderLibrary "ALL").announcesNext
      (soldResponse [orderEntry] "true") = true := by decide
  have hbought : (boughtPager plainOrderLibrary "ALL").announcesNext
      (boughtResponse [] true) = true := by decide
  refine ⟨Pager.servesFinitely_const _, ?_, Pager.servesFinitely_const _, ?_⟩
  · intro turns
    rw [listSoldOrders, hcode, if_neg (by decide), Option.eq_none_iff_forall_ne_some]
    intro run hrun
    obtain ⟨later, hnone⟩ := (Pager.exists_list_eq_some_iff validPages_none).mp ⟨turns, run, hrun⟩
    obtain ⟨earlier, hstops⟩ := (exists_walk_sold_eq_none_iff validPages_none).mp ⟨later, hnone⟩ rfl
    obtain ⟨page, hread⟩ : Returns ((soldPager plainOrderLibrary "ALL").readPage
        (soldResponse [orderEntry] "true")) := ⟨_, rfl⟩
    have hserved : soldPage plainOrderLibrary (fun _ => .ok (soldResponse [orderEntry] "true"))
        "ALL" earlier = some page := Pager.served_eq_some_iff.mpr ⟨_, rfl, hread⟩
    have hitems : page.rawItems = [orderEntry] := by
      rw [OrderPage.rawItems, (Pager.readPage_eq_ok hread).1]
      rfl
    exact hstops ⟨page, hserved, (Pager.nextPage_eq_announcesNext hserved rfl).trans hsold,
      hitems ▸ List.cons_ne_nil _ _⟩
  · intro hends
    have hlisting : ∀ turns, listBoughtOrders plainOrderLibrary
        (fun _ => .ok (boughtResponse [] true)) "ALL" none turns =
        (boughtPager plainOrderLibrary (normalizeCode "ALL")).list _ none turns := fun turns =>
      if_neg (by decide)
    rw [funext hlisting, hcode, endsTruthfully_bought_iff validPages_none
      (Pager.servesFinitely_const _)] at hends
    obtain ⟨page, hread⟩ : Returns ((boughtPager plainOrderLibrary "ALL").readPage
        (boughtResponse [] true)) := ⟨_, rfl⟩
    have hserved : (boughtPager plainOrderLibrary "ALL").served
        (fun _ => .ok (boughtResponse [] true))
        ((boughtPager plainOrderLibrary "ALL").request 1 {}) = some page :=
      Pager.served_eq_some_iff.mpr ⟨_, rfl, hread⟩
    have hitems : page.rawItems = [] := by
      rw [OrderPage.rawItems, (Pager.readPage_eq_ok hread).1]
      rfl
    have hnone := hends 0 {} page rfl hserved hitems
    exact Bool.false_ne_true
      (hnone.symm.trans ((Pager.nextPage_eq_announcesNext hserved rfl).trans hbought))

end XianyuAdmin.Orders
