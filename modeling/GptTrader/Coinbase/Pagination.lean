import GptTrader.Library.PagedWalk
import GptTrader.Python.Values

/-!
# Paginated listings

The three loops that read a listing page by page: `CoinbaseClientBase.paginate`,
`OrderService.list_orders` and `OrderService.list_fills`.  `paginate` stops when a
reply carries no cursor or the one it was asked with, the order service when a
reply carries no cursor or no items; neither remembers older cursors.

The client call behind a request is a function of the number of the request and of
the cursor in hand, so a server may answer the same cursor differently each time.
-/

namespace GptTrader

/-- An exception out of a request: a `BrokerageError` or any other. -/
inductive RequestError where
  | brokerage (message : String)
  | other (message : String)
  deriving DecidableEq

abbrev PageServer := ℕ → Json → Except RequestError Json

namespace Json

/-- `list(value)`. -/
def iterate : Json → Except PyError (List Json)
  | .arr items => .ok items
  | .obj fields => .ok (fields.map fun field => .str field.1)
  | .str text => .ok (text.toList.map fun char => .str char.toString)
  | _ => .error .typeError

end Json

/-- The options of `CoinbaseClientBase.paginate`; an empty name is no name. -/
structure PaginateOptions where
  paginationKey : String
  cursorField : String

section Paginate

variable (describe : PyError → String)

/-- The items `paginate` yields from a response. -/
def PaginateOptions.pageItems (options : PaginateOptions) (response : Json) :
    List Json :=
  let data :=
    match response with
    | .obj _ =>
        if options.paginationKey ≠ "" then
          (response.field? options.paginationKey).getD (.arr [])
        else
          response
    | _ => response
  match data with
  | .arr items => items
  | item => if item.truthy then [item] else []

/-- The next cursor `paginate` finds in a response; only objects carry one. -/
def PaginateOptions.nextCursor (options : PaginateOptions) (response : Json) :
    Except PyError Json :=
  match response with
  | .obj _ =>
      let named (key : String) := (response.field? key).getD .null
      let found :=
        if options.cursorField ≠ "" then
          named options.cursorField
        else if (named "cursor").truthy then
          named "cursor"
        else
          named "next_cursor"
      if !found.truthy && response.hasKey "pagination" then
        (named "pagination").getD "next_cursor" .null
      else
        .ok found
  | _ => .ok .null

/-- The request fails, or its reply has no next cursor or the one it was asked with. -/
def PaginateOptions.LastRequest (options : PaginateOptions) (server : PageServer)
    (number : ℕ) (cursor : Json) : Prop :=
  ∀ response next, server number cursor = .ok response →
    options.nextCursor response = .ok next →
      next.truthy = false ∨ next.same cursor = true

/-- One round of `paginate`. -/
def paginatePager (options : PaginateOptions) (server : PageServer) :
    Pager Json Json RequestError where
  ask := fun number cursor =>
    match server number cursor with
    | .error error => { items := [], cursor := .error error }
    | .ok response =>
        { items := options.pageItems response
          cursor := (options.nextCursor response).mapError
            fun error => .other (describe error) }
  stops := fun cursor _ next => !(next.truthy && !next.same cursor)

/-- `CoinbaseClientBase.paginate`, from the cursor among its parameters: the items
it yields and the exception, if any, it ends with. -/
def paginate (options : PaginateOptions) (server : PageServer) (fuel : ℕ)
    (cursor : Json) : Option (List Json × Option RequestError) :=
  (paginatePager describe options server).walk fuel 0 cursor

end Paginate

section OrderService

variable {ι : Type} (describe : PyError → String)

def listingPage (key : String) (convert : Json → Except RequestError ι)
    (response : Json) : Except RequestError (List ι × Json) := do
  let raised {α : Type} (value : Except PyError α) :=
    value.mapError fun error => RequestError.other (describe error)
  let page ← raised (response.getD key (.arr []))
  let items ← raised page.iterate
  let converted ← items.mapM convert
  let cursor ← raised (response.getD "cursor" .null)
  pure (converted, cursor)

/-- The request or the conversion of its page fails, or the reply has no next cursor or
no items. -/
def LastListing (key : String) (convert : Json → Except RequestError ι)
    (server : PageServer) (number : ℕ) (cursor : Json) : Prop :=
  ∀ items next,
    (server number cursor >>= listingPage describe key convert) = .ok (items, next) →
      next.truthy = false ∨ items = []

def listingPager (key : String) (convert : Json → Except RequestError ι)
    (server : PageServer) : Pager ι Json RequestError where
  ask := fun number cursor =>
    match server number cursor >>= listingPage describe key convert with
    | .error error => { items := [], cursor := .error error }
    | .ok (items, next) => { items := items, cursor := .ok next }
  stops := fun _ items next => !next.truthy || items.isEmpty

/-- A brokerage error is raised again, any other as an `OrderQueryError`. -/
def queryError (failed : String) : RequestError → RequestError
  | .brokerage message => .brokerage message
  | .other message => .brokerage (failed ++ message)

def listing (key failed : String) (convert : Json → Except RequestError ι)
    (server : PageServer) (fuel : ℕ) : Option (Except RequestError (List ι)) :=
  ((listingPager describe key convert server).walk fuel 0 .null).map fun
    | (items, none) => .ok items
    | (_, some error) => .error (queryError failed error)

/-- `OrderService.list_orders`; `toOrder` is `to_order`. -/
def listOrders (toOrder : Json → Except RequestError ι) :
    PageServer → ℕ → Option (Except RequestError (List ι)) :=
  listing describe "orders" "Failed to list orders: " toOrder

/-- `OrderService.list_fills`. -/
def listFills : PageServer → ℕ → Option (Except RequestError (List Json)) :=
  listing describe "fills" "Failed to list fills: " .ok

end OrderService

/-- A finite chain of pages: the cursors that lead to the later pages are
different from each other and from the first, and the last page has none. -/
structure PageChain {ι : Type} (pager : Pager ι Json RequestError) (first : Json)
    (items : List ι) (rest : List (Json × List ι)) : Prop where
  distinct : (first :: rest.map Prod.fst).Pairwise fun earlier later =>
    later.same earlier = false
  present : ∀ link ∈ rest, link.1.truthy = true
  served : ∃ last, last.truthy = false ∧ pager.Serves last 0 first items rest

/-- No page with items comes after an empty one. -/
def ItemsFirst {ι : Type} (pages : List (List ι)) : Prop :=
  pages.Pairwise fun earlier later => earlier = [] → later = []

/-- When a loop ends: with a final reply, within one request more than there are cursors
when none is served again, and never exactly when it comes back to a cursor, if the
server has finitely many and answers each always alike. -/
structure EndsAsServed {ι : Type} (pager : Pager ι Json RequestError) (first : Json)
    (final : ℕ → Json → Prop) (halts : ℕ → Bool) : Prop where
  ends : (∃ fuel, halts fuel = true) ↔
    ∃ number, final number (pager.cursorAt 0 first number)
  fresh : ∀ cursors : Finset Json, pager.ServesWithin cursors →
    pager.NeverServesAgain final first → halts (cursors.card + 1) = true
  cycles : ∀ cursors : Finset Json, pager.ServesWithin cursors → pager.Stationary →
    ((∀ fuel, halts fuel = false) ↔ pager.Cycles final first)

section Lemmas

variable {ι : Type} {describe : PyError → String} {server : PageServer}

theorem paginate_ends (options : PaginateOptions) :
    (paginatePager describe options server).Ends = options.LastRequest server := by
  funext number cursor
  apply propext
  unfold Pager.Ends PaginateOptions.LastRequest paginatePager
  dsimp only
  cases server number cursor with
  | error error => simp
  | ok response =>
      have reply : ∀ next, Except.mapError
          (fun error => RequestError.other (describe error))
          (options.nextCursor response) = .ok next ↔
            options.nextCursor response = .ok next := by
        intro next
        cases options.nextCursor response <;> simp [Except.mapError]
      simp only [reply]
      constructor
      · intro ends _ next same found
        obtain rfl := Except.ok.inj same
        have stopped := ends next found
        cases real : next.truthy
        · exact .inl rfl
        · simpa [real] using stopped
      · intro final next found
        rcases final response next rfl found with falsy | repeated
        · simp [falsy]
        · simp [repeated]

theorem listing_ends (key : String) (convert : Json → Except RequestError ι) :
    (listingPager describe key convert server).Ends =
      LastListing describe key convert server := by
  funext number cursor
  apply propext
  unfold Pager.Ends LastListing listingPager
  dsimp only
  cases server number cursor >>= listingPage describe key convert with
  | error error => simp
  | ok page => simp [Prod.ext_iff]

theorem endsAsServed {pager : Pager ι Json RequestError} {first : Json}
    {final : ℕ → Json → Prop} {halts : ℕ → Bool} (ends : pager.Ends = final)
    (same : ∀ fuel, halts fuel = (pager.walk fuel 0 first).isSome) :
    EndsAsServed pager first final halts := by
  subst ends
  constructor
  case ends =>
    simp only [same, Pager.walk_isSome_iff, Nat.zero_add]
    constructor
    · rintro ⟨_, number, _, ends⟩
      exact ⟨number, ends⟩
    · rintro ⟨number, ends⟩
      exact ⟨number + 1, number, by omega, ends⟩
  case fresh =>
    intro cursors within again
    rw [same]
    exact Pager.walk_isSome_of_fresh within again
  case cycles =>
    intro cursors within stationary
    simp only [same, Option.isSome_eq_false_iff, Option.isNone_iff_eq_none]
    exact Pager.walk_eq_none_iff stationary within

theorem paginate_kept {options : PaginateOptions} {rest : List (Json × List Json)}
    {asked : Json} (items : List Json)
    (distinct : (asked :: rest.map Prod.fst).Pairwise fun earlier later =>
      later.same earlier = false)
    (present : ∀ link ∈ rest, link.1.truthy = true) :
    (paginatePager describe options server).kept asked items rest =
      items ++ rest.flatMap Prod.snd := by
  induction rest generalizing asked items with
  | nil => simp [Pager.kept]
  | cons link rest induction =>
      obtain ⟨next, more⟩ := link
      rw [List.map_cons, List.pairwise_cons] at distinct
      have real : next.truthy = true := present (next, more) List.mem_cons_self
      have other : next.same asked = false := distinct.1 next List.mem_cons_self
      have later := induction more distinct.2 fun link member =>
        present link (List.mem_cons_of_mem _ member)
      have walked : (paginatePager describe options server).kept asked items
          ((next, more) :: rest) = items ++
            (paginatePager describe options server).kept next more rest := by
        simp [Pager.kept, paginatePager, real, other]
      rw [walked, later, List.flatMap_cons]

/-- The order service keeps the whole chain exactly when nothing follows an empty
page. -/
theorem listing_kept_iff {key : String} {convert : Json → Except RequestError ι}
    {rest : List (Json × List ι)} (asked : Json) (items : List ι)
    (present : ∀ link ∈ rest, link.1.truthy = true) :
    (listingPager describe key convert server).kept asked items rest =
        items ++ rest.flatMap Prod.snd ↔
      ItemsFirst (items :: rest.map Prod.snd) := by
  unfold ItemsFirst
  induction rest generalizing asked items with
  | nil => simp [Pager.kept]
  | cons link rest induction =>
      obtain ⟨next, more⟩ := link
      have real : next.truthy = true := present (next, more) List.mem_cons_self
      have later := induction next more fun link member =>
        present link (List.mem_cons_of_mem _ member)
      rw [List.pairwise_cons, List.map_cons, ← later]
      cases items with
      | nil =>
          have stopped : (listingPager describe key convert server).kept asked []
              ((next, more) :: rest) = [] := by
            simp [Pager.kept, listingPager]
          rw [stopped]
          constructor
          · intro none
            have flat : (more :: rest.map Prod.snd).flatten = [] := by
              simpa [List.flatMap_def] using none.symm
            have pages := List.flatten_eq_nil_iff.mp flat
            refine ⟨fun page member _ => pages page member, later.mpr ?_⟩
            rw [List.pairwise_iff_forall_sublist]
            intro left right sub _
            exact pages right (sub.subset (by simp))
          · rintro ⟨empty, -⟩
            have pages : ∀ page ∈ more :: rest.map Prod.snd, page = [] :=
              fun page member => empty page member rfl
            have flat : (more :: rest.map Prod.snd).flatten = [] :=
              List.flatten_eq_nil_iff.mpr pages
            simpa [List.flatMap_def] using flat.symm
      | cons item items =>
          have walked : (listingPager describe key convert server).kept asked
              (item :: items) ((next, more) :: rest) = item :: items ++
                (listingPager describe key convert server).kept next more rest := by
            simp [Pager.kept, listingPager, real]
          rw [walked, List.flatMap_cons, List.append_cancel_left_eq]
          simp

theorem listing_iff {key failed : String} {convert : Json → Except RequestError ι}
    {items : List ι} {rest : List (Json × List ι)}
    (chain : PageChain (listingPager describe key convert server) .null items rest) :
    (∃ fuel, listing describe key failed convert server fuel =
        some (.ok (items ++ rest.flatMap Prod.snd))) ↔
      ItemsFirst (items :: rest.map Prod.snd) := by
  rw [← @listing_kept_iff ι describe server key convert _ .null items chain.present]
  obtain ⟨last, falsy, served⟩ := chain.served
  have walked := @Pager.walk_of_serves _ _ _ _ _ _ _ (rest.length + 1) _ _
    (fun _ _ => by simp [listingPager, falsy]) served (by omega)
  have whole : ∀ fuel result, listing describe key failed convert server fuel =
      some result → result = .ok
        ((listingPager describe key convert server).kept .null items rest) := by
    intro fuel result found
    rw [listing, Option.map_eq_some_iff] at found
    obtain ⟨pair, reached, settled⟩ := found
    have long := Pager.walk_mono reached (rest.length + 1)
    rw [Nat.add_comm, Pager.walk_mono walked fuel, Option.some.injEq] at long
    rw [← settled, ← long]
  constructor
  · rintro ⟨fuel, found⟩
    exact (Except.ok.inj (whole fuel _ found)).symm
  · intro kept
    exact ⟨rest.length + 1, by rw [listing, walked, ← kept]; rfl⟩

end Lemmas

/-- `paginate` yields every page of every chain; `list_orders` and `list_fills`
return the pages of a chain exactly when no page with items comes after an empty
one.  Each ends exactly with a final reply, always when the server has finitely many
cursors and serves none of them again, and never when it comes back to a cursor. -/
theorem listings_complete_iff {ι : Type} (describe : PyError → String)
    (options : PaginateOptions) (toOrder : Json → Except RequestError ι)
    (server : PageServer) :
    (∀ first items rest,
      PageChain (paginatePager describe options server) first items rest →
      ∃ fuel, paginate describe options server fuel first =
        some (items ++ rest.flatMap Prod.snd, none)) ∧
    (∀ items rest,
      PageChain (listingPager describe "orders" toOrder server) .null items rest →
      ((∃ fuel, listOrders describe toOrder server fuel =
          some (.ok (items ++ rest.flatMap Prod.snd))) ↔
        ItemsFirst (items :: rest.map Prod.snd))) ∧
    (∀ items rest,
      PageChain (listingPager describe "fills" .ok server) .null items rest →
      ((∃ fuel, listFills describe server fuel =
          some (.ok (items ++ rest.flatMap Prod.snd))) ↔
        ItemsFirst (items :: rest.map Prod.snd))) ∧
    (∀ first, EndsAsServed (paginatePager describe options server) first
      (options.LastRequest server)
      fun fuel => (paginate describe options server fuel first).isSome) ∧
    EndsAsServed (listingPager describe "orders" toOrder server) .null
      (LastListing describe "orders" toOrder server)
      (fun fuel => (listOrders describe toOrder server fuel).isSome) ∧
    EndsAsServed (listingPager describe "fills" .ok server) .null
      (LastListing describe "fills" .ok server)
      (fun fuel => (listFills describe server fuel).isSome) := by
  refine ⟨?_, fun items rest chain => listing_iff chain,
    fun items rest chain => listing_iff chain,
    fun first => endsAsServed (paginate_ends options) fun _ => rfl,
    endsAsServed (listing_ends "orders" toOrder) fun fuel => ?_,
    endsAsServed (listing_ends "fills" .ok) fun fuel => ?_⟩
  · intro first items rest chain
    obtain ⟨last, falsy, served⟩ := chain.served
    refine ⟨rest.length + 1, ?_⟩
    rw [paginate, Pager.walk_of_serves (fun _ _ => by simp [paginatePager, falsy])
      served (by omega), paginate_kept items chain.distinct chain.present]
  · simp [listOrders, listing]
  · simp [listFills, listing]

def twoPages (early late : List Json) : PageServer := fun _ cursor =>
  if cursor = .str "a" then
    .ok (.obj [("orders", .arr late)])
  else
    .ok (.obj [("cursor", .str "a"), ("orders", .arr early)])

/-- Two pages are listed after each other. -/
theorem two_pages_are_listed :
    ∃ fuel, listOrders (fun _ => "") Except.ok (twoPages [.int 1] [.int 2]) fuel =
      some (.ok [.int 1, .int 2]) :=
  ((listings_complete_iff (fun _ => "") ⟨"orders", ""⟩ Except.ok
      (twoPages [.int 1] [.int 2])).2.1 [.int 1] [(.str "a", [.int 2])]
    { distinct := by decide
      present := by decide
      served := ⟨.null, by decide, rfl, rfl⟩ }).mpr (by simp [ItemsFirst])

def pingPong : PageServer := fun _ cursor =>
  if cursor = .str "a" then
    .ok (.obj [("cursor", .str "b")])
  else
    .ok (.obj [("cursor", .str "a")])

/-- An order after an empty page is lost, and `paginate` never ends between two
cursors. -/
theorem order_after_empty_page_is_lost :
    (PageChain (listingPager (fun _ => "") "orders" Except.ok
        (twoPages [] [.int 2])) .null [] [(.str "a", [.int 2])] ∧
      ∀ fuel, listOrders (fun _ => "") Except.ok (twoPages [] [.int 2]) fuel ≠
        some (.ok [.int 2])) ∧
    ∀ fuel, paginate (fun _ => "") ⟨"items", ""⟩ pingPong fuel .null = none := by
  refine ⟨⟨{ distinct := by decide
             present := by decide
             served := ⟨.null, by decide, rfl, rfl⟩ }, ?_⟩, ?_⟩
  · intro fuel
    cases fuel with
    | zero => simp [listOrders, listing, Pager.walk]
    | succ fuel =>
        have first : (listingPager (fun _ => "") "orders" Except.ok
            (twoPages [] [.int 2])).walk (fuel + 1) 0 .null = some ([], none) := rfl
        simp [listOrders, listing, first]
  · intro fuel
    let pager := paginatePager (fun _ => "") ⟨"items", ""⟩ pingPong
    have asked : ∀ number, pager.cursorAt 0 .null number = .null ∨
        pager.cursorAt 0 .null number = .str "a" ∨
        pager.cursorAt 0 .null number = .str "b" := by
      intro number
      induction number with
      | zero => exact .inl rfl
      | succ number induction =>
          rw [Pager.cursorAt_succ]
          rcases induction with null | a | b
          · rw [null]
            exact .inr (.inl rfl)
          · rw [a]
            exact .inr (.inr rfl)
          · rw [b]
            exact .inr (.inl rfl)
    rw [← Option.not_isSome_iff_eq_none, paginate, Pager.walk_isSome_iff]
    rintro ⟨number, -, ends⟩
    rcases asked number with null | a | b
    · rw [null] at ends
      have stopped : (!((Json.str "a").truthy && !(Json.str "a").same .null)) = true :=
        ends (.str "a") rfl
      exact absurd stopped (by decide)
    · rw [a] at ends
      have stopped : (!((Json.str "b").truthy &&
          !(Json.str "b").same (.str "a"))) = true := ends (.str "b") rfl
      exact absurd stopped (by decide)
    · rw [b] at ends
      have stopped : (!((Json.str "a").truthy &&
          !(Json.str "a").same (.str "b"))) = true := ends (.str "a") rfl
      exact absurd stopped (by decide)

end GptTrader
