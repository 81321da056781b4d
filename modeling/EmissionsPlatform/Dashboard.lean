import EmissionsPlatform.SiteListing

/-! The dashboard of the web client: `DashboardPage` fetches the first page of
sites, `SitesTable` the others as its Load more button is pressed. Sites are
created while it is open; a request is answered from the table as it is then,
and its reply arrives later, or the request fails. A click is handled in the
state the page shows. `dashboard_shows_every_site` says what is on the screen
after any such run. -/
namespace EmissionsPlatform.Dashboard
open ErrorEnvelopes KeysetPaging SiteListing SitesList Transition Validation
open SiteContracts (Failure)
set_option autoImplicit false

/-- The state of `SitesTable`. -/
structure View where
  sites : List (SiteResponse JsNumber)
  cursor : Option String
  loading : Bool
  error : Option String

inductive Screen
  /-- `DashboardPage` awaits its first page. -/
  | awaiting
  | failed (fetchError : String)
  | table (view : View)

/-- A request for a page: the cursor it was sent with, and the reply of the API
once it has answered. -/
structure PageRequest where
  cursor : Option String
  reply : Option Response

structure State where
  sites : SitesTable
  screen : Screen
  requests : List PageRequest

inductive Action
  | createSite (posting : Posting)
  | loadMore
  /-- The API answers a request. -/
  | answer (request : Nat) (requestId : Option String)
  | arrive (request : Nat)
  /-- A request fails before its reply is read. -/
  | fail (request : Nat) (failure : Failure)

/-- `err.message`. Of a mismatch the message goes on with the issues. -/
def failureMessage : Failure → String
  | .apiClientError error _ => error.message
  | .schemaMismatch _ _ => "Response did not match expected schema: "
  | .error message => message

/-- The error of the first fetch. -/
def fetchError : Failure → String
  | .apiClientError error status => error.code ++ ": " ++ failureMessage (.apiClientError error status)
  | .schemaMismatch issues status => "INTERNAL: " ++ failureMessage (.schemaMismatch issues status)
  | .error _ => "Failed to load sites"

/-- The end of a fetch: of `DashboardPage`'s, which has no cursor, or of
`loadMore`'s. -/
def settle (screen : Screen) (cursor : Option String) (result : Except Failure (SitesListResponse JsNumber)) : Screen :=
  match cursor, screen with
  | none, .awaiting =>
    match result with
    | .ok page => .table ⟨page.data, page.nextCursor, false, none⟩
    | .error failure => .failed (fetchError failure)
  | some _, .table view =>
    match result with
    | .ok page => .table { view with sites := view.sites ++ page.data, cursor := page.nextCursor, loading := false }
    | .error failure => .table { view with error := some (failureMessage failure), loading := false }
  | _, _ => screen

/-- The button is on the page and not disabled. -/
def View.canLoadMore (view : View) : Bool :=
  !view.sites.isEmpty && (view.cursor.filter fun text => text ≠ "").isSome && !view.loading

def step (supportedTimezones : List String) (state : State) : Action → Option State
  | .createSite posting =>
    (SiteListing.step supportedTimezones state.sites posting).map fun sites => { state with sites }
  | .loadMore =>
    match state.screen with
    | .table view =>
      if view.canLoadMore then
        some { state with
          screen := .table { view with loading := true, error := none }
          requests := state.requests ++ [⟨view.cursor, none⟩] }
      else none
    | _ => none
  | .answer index requestId =>
    match state.requests[index]? with
    | some ⟨cursor, none⟩ =>
      some { state with
        requests := state.requests.set index ⟨cursor, some (listReply requestId 50 cursor state.sites)⟩ }
    | _ => none
  | .arrive index =>
    match state.requests[index]? with
    | some ⟨cursor, some reply⟩ =>
      let result := received (sitesListResponseSchema supportedTimezones) reply
      some { state with screen := settle state.screen cursor result, requests := state.requests.eraseIdx index }
    | _ => none
  | .fail index failure =>
    match state.requests[index]? with
    | some ⟨cursor, _⟩ =>
      some { state with
        screen := settle state.screen cursor (.error failure), requests := state.requests.eraseIdx index }
    | none => none

/-- The dashboard is opened over a table of sites. -/
def opened (sites : SitesTable) : State := ⟨sites, .awaiting, [⟨none, none⟩]⟩

variable {supportedTimezones : List String} {state after : State} {action : Action} {actions : List Action}
variable {sites : SitesTable} {first : List SiteRow} {visit : Walk SiteRow Int} {view : View}

/-! ## What a request brings -/

/-- How far the pages that were fetched reach. -/
structure Reached (first : List SiteRow) (sites : SitesTable) (visit : Walk SiteRow Int) : Prop where
  covers : Covers SiteRow.id first visit
  stored : visit.rows ⊆ sites.rows
  /-- The next page begins behind the id of a site. -/
  inRange : ∀ id ∈ visit.after, bigintMin ≤ id ∧ id ≤ bigintMax
  /-- Something was listed before there is a next page. -/
  begun : visit.after.isSome → visit.rows ≠ []

/-- A reply that takes the walk one page further. -/
structure Continues (supportedTimezones : List String) (first : List SiteRow) (sites : SitesTable)
    (visit : Walk SiteRow Int) (reply : Response) (next : Walk SiteRow Int) : Prop where
  reached : Reached first sites next
  ended : next.ended = next.after.isNone
  read : ∃ rows, next.rows = visit.rows ++ rows ∧
    received (sitesListResponseSchema supportedTimezones) reply =
      .ok ⟨rows.map shown, next.after.map encodeCursor⟩

theorem Reached.mono {later : SitesTable} (reached : Reached first sites visit) (grown : sites.rows ⊆ later.rows) :
    Reached first later visit :=
  ⟨reached.covers, List.Subset.trans reached.stored grown, reached.inRange, reached.begun⟩

theorem start_reached (first : List SiteRow) (sites : SitesTable) : Reached first sites start :=
  ⟨start_covers, List.nil_subset _, nofun, nofun⟩

/-- Whenever the API answers, the reply continues the walk. -/
theorem listReply_continues (listed : Listed supportedTimezones sites) (grown : first ⊆ sites.rows)
    (reached : Reached first sites visit) (going : visit.ended = false) (requestId : Option String) :
    ∃ next, Continues supportedTimezones first sites visit
      (listReply requestId 50 (visit.after.map encodeCursor) sites) next := by
  have positive : 0 < 50 := by decide
  have within := KeysetPaging.page_subset SiteRow.id 50 visit.after sites.rows
  have stepped : KeysetPaging.step SiteRow.id 50 visit sites.rows =
      some ⟨(page SiteRow.id 50 visit.after sites.rows).2,
        visit.pages ++ [(page SiteRow.id 50 visit.after sites.rows).1],
        (page SiteRow.id 50 visit.after sites.rows).2.isNone⟩ := by
    rw [KeysetPaging.step, if_neg (by simp [going])]
  refine ⟨_, ⟨step_covers reached.covers positive sites.ids grown stepped, ?_, page_inRange positive, ?_⟩, rfl, ?_⟩
  · rw [rows_concat]
    exact List.append_subset.mpr ⟨reached.stored, within⟩
  · rw [rows_concat]
    intro more
    rcases @page_cases _ _ _ SiteRow.id 50 visit.after sites.rows positive with
      ⟨-, last⟩ | ⟨front, last, back, -, -, -, paged⟩
    · rw [last] at more
      cases more
    · rw [paged]
      simp
  · refine ⟨_, rows_concat _ _ _, ?_⟩
    rw [listReply, listSites_of_after reached.inRange, received_of_data (by decide)]
    rw [page_readsBack (fun row member => listed.rows row (within member))]

/-! ## What the page tracks -/

/-- The requests on their way: none, or the one for the page the walk goes on
with. -/
inductive Fetching (supportedTimezones : List String) (first : List SiteRow) (sites : SitesTable)
    (visit : Walk SiteRow Int) : Bool → List PageRequest → Prop
  | idle : Fetching supportedTimezones first sites visit false []
  | sent : Fetching supportedTimezones first sites visit true [⟨visit.after.map encodeCursor, none⟩]
  | answered (reply : Response) (next : Walk SiteRow Int)
      (continues : Continues supportedTimezones first sites visit reply next) :
      Fetching supportedTimezones first sites visit true [⟨visit.after.map encodeCursor, some reply⟩]

/-- The table shows what the walk has visited. -/
structure Presents (view : View) (visit : Walk SiteRow Int) : Prop where
  sites : view.sites = visit.rows.map shown
  cursor : view.cursor = visit.after.map encodeCursor
  ended : visit.ended = visit.after.isNone
  /-- Only the button fetches more. -/
  loading : view.loading = true → visit.after.isSome

inductive Tracks (supportedTimezones : List String) (first : List SiteRow) (sites : SitesTable) :
    Screen → List PageRequest → Prop
  | awaiting (requests : List PageRequest) (fetching : Fetching supportedTimezones first sites start true requests) :
      Tracks supportedTimezones first sites .awaiting requests
  | failed (message : String) : Tracks supportedTimezones first sites (.failed message) []
  | table (view : View) (requests : List PageRequest) (visit : Walk SiteRow Int) (reached : Reached first sites visit)
      (presents : Presents view visit)
      (fetching : Fetching supportedTimezones first sites visit view.loading requests) :
      Tracks supportedTimezones first sites (.table view) requests

structure Sound (supportedTimezones : List String) (first : List SiteRow) (state : State) : Prop where
  listed : Listed supportedTimezones state.sites
  grown : first ⊆ state.sites.rows
  tracks : Tracks supportedTimezones first state.sites state.screen state.requests

theorem Fetching.mono {later : SitesTable} {loading : Bool} {requests : List PageRequest}
    (fetching : Fetching supportedTimezones first sites visit loading requests) (grown : sites.rows ⊆ later.rows) :
    Fetching supportedTimezones first later visit loading requests := by
  cases fetching with
  | idle => exact .idle
  | sent => exact .sent
  | answered reply next continues =>
    exact .answered reply next ⟨continues.reached.mono grown, continues.ended, continues.read⟩

theorem Tracks.mono {later : SitesTable} {screen : Screen} {requests : List PageRequest}
    (tracks : Tracks supportedTimezones first sites screen requests) (grown : sites.rows ⊆ later.rows) :
    Tracks supportedTimezones first later screen requests := by
  cases tracks with
  | awaiting requests fetching => exact .awaiting _ (fetching.mono grown)
  | failed message => exact .failed message
  | table view requests visit reached presents fetching =>
    exact .table view _ visit (reached.mono grown) presents (fetching.mono grown)

theorem step_grows {posting : Posting} {later : SitesTable} (clock : posting.Clocked)
    (stepped : SiteListing.step supportedTimezones sites posting = some later) : sites.rows ⊆ later.rows := by
  obtain ⟨⟨next, result⟩, created, rfl⟩ := Option.map_eq_some_iff.mp stepped
  change sites.rows ⊆ next.rows
  rcases (create_created clock created).rows with same | ⟨params, row, gains⟩
  · rw [same]
    exact List.Subset.refl _
  · rw [gains.rows]
    exact List.subset_append_left _ _

/-! ## One step -/

/-- The clock of a creation shows a year of four digits. -/
def Action.Clocked : Action → Prop
  | .createSite posting => posting.Clocked
  | _ => True

/-- A request is the only one, and is for the page the walk goes on with. -/
theorem Fetching.only {loading : Bool} {requests : List PageRequest} {index : Nat} {request : PageRequest}
    (fetching : Fetching supportedTimezones first sites visit loading requests)
    (held : requests[index]? = some request) :
    index = 0 ∧ loading = true ∧ requests = [request] ∧ request.cursor = visit.after.map encodeCursor ∧
      ∀ reply ∈ request.reply, ∃ next, Continues supportedTimezones first sites visit reply next := by
  cases fetching with
  | idle => cases held
  | sent =>
    obtain ⟨rfl, same⟩ := Option.ite_none_right_eq_some.mp (List.getElem?_singleton.symm.trans held)
    cases same
    exact ⟨rfl, rfl, rfl, rfl, nofun⟩
  | answered reply next continues =>
    obtain ⟨rfl, same⟩ := Option.ite_none_right_eq_some.mp (List.getElem?_singleton.symm.trans held)
    cases same
    refine ⟨rfl, rfl, rfl, rfl, fun other same => ?_⟩
    cases same
    exact ⟨next, continues⟩

/-- A click sends the request for the next page. -/
theorem loadMore_tracks {requests : List PageRequest}
    (tracks : Tracks supportedTimezones first sites (.table view) requests)
    (can : view.canLoadMore = true) :
    Tracks supportedTimezones first sites (.table { view with loading := true, error := none })
      (requests ++ [⟨view.cursor, none⟩]) := by
  cases tracks with
  | table view requests visit reached presents fetching =>
    simp only [View.canLoadMore, Bool.and_eq_true, Bool.not_eq_eq_eq_not, Bool.not_true] at can
    obtain ⟨⟨-, more⟩, idle⟩ := can
    rw [idle] at fetching
    cases fetching
    have some : visit.after.isSome := by
      rw [presents.cursor] at more
      cases isAfter : visit.after with
      | none => simp [isAfter] at more
      | some id => rfl
    refine .table _ _ visit reached ⟨presents.sites, presents.cursor, presents.ended, fun _ => some⟩ ?_
    rw [presents.cursor]
    exact .sent

/-- A reply shows what it brought. -/
theorem arrive_tracks {screen : Screen} {requests : List PageRequest} {index : Nat} {cursor : Option String}
    {reply : Response}
    (tracks : Tracks supportedTimezones first sites screen requests)
    (held : requests[index]? = some ⟨cursor, some reply⟩) :
    Tracks supportedTimezones first sites
      (settle screen cursor (received (sitesListResponseSchema supportedTimezones) reply))
      (requests.eraseIdx index) := by
  cases tracks with
  | awaiting requests fetching =>
    obtain ⟨rfl, -, rfl, isCursor, answered⟩ := fetching.only held
    obtain ⟨next, reached, ended, rows, grown, read⟩ := answered reply rfl
    cases isCursor
    rw [read]
    refine .table _ _ next reached ⟨?_, rfl, ended, nofun⟩ .idle
    rw [grown]
    rfl
  | failed message => cases held
  | table view requests visit reached presents fetching =>
    obtain ⟨rfl, loading, rfl, isCursor, answered⟩ := fetching.only held
    obtain ⟨next, reached, ended, rows, grown, read⟩ := answered reply rfl
    obtain ⟨id, isId⟩ := Option.isSome_iff_exists.mp (presents.loading loading)
    cases isCursor
    rw [read, isId]
    refine .table _ _ next reached ⟨?_, rfl, ended, nofun⟩ .idle
    rw [grown, List.map_append, ← presents.sites]

/-- After a failure the table is what it was, and the request can be made
again. -/
theorem fail_tracks {screen : Screen} {requests : List PageRequest} {index : Nat} {request : PageRequest}
    (tracks : Tracks supportedTimezones first sites screen requests) (held : requests[index]? = some request)
    (failure : Failure) :
    Tracks supportedTimezones first sites (settle screen request.cursor (.error failure))
      (requests.eraseIdx index) := by
  cases tracks with
  | awaiting requests fetching =>
    obtain ⟨rfl, -, rfl, isCursor, -⟩ := fetching.only held
    rw [isCursor]
    exact .failed _
  | failed message => cases held
  | table view requests visit reached presents fetching =>
    obtain ⟨rfl, loading, rfl, isCursor, -⟩ := fetching.only held
    obtain ⟨id, isId⟩ := Option.isSome_iff_exists.mp (presents.loading loading)
    rw [isCursor, isId]
    exact .table _ _ visit reached ⟨presents.sites, presents.cursor, presents.ended, nofun⟩ .idle

/-- The API answers from the table as it is now. -/
theorem answer_tracks {screen : Screen} {requests : List PageRequest} {index : Nat} {cursor : Option String}
    (listed : Listed supportedTimezones sites) (grown : first ⊆ sites.rows)
    (tracks : Tracks supportedTimezones first sites screen requests) (held : requests[index]? = some ⟨cursor, none⟩)
    (requestId : Option String) :
    Tracks supportedTimezones first sites screen
      (requests.set index ⟨cursor, some (listReply requestId 50 cursor sites)⟩) := by
  cases tracks with
  | awaiting requests fetching =>
    obtain ⟨rfl, -, rfl, isCursor, -⟩ := fetching.only held
    obtain ⟨next, continues⟩ := listReply_continues listed grown (start_reached first sites) rfl requestId
    cases isCursor
    exact .awaiting _ (.answered _ next continues)
  | failed message => cases held
  | table view requests visit reached presents fetching =>
    obtain ⟨rfl, loading, rfl, isCursor, -⟩ := fetching.only held
    have going : visit.ended = false := by
      rw [presents.ended, Option.isNone_eq_false_iff]
      exact presents.loading loading
    obtain ⟨next, continues⟩ := listReply_continues listed grown reached going requestId
    cases isCursor
    refine .table view _ visit reached presents ?_
    rw [loading]
    exact .answered _ next continues

theorem step_sound (sound : Sound supportedTimezones first state) (clock : action.Clocked)
    (stepped : step supportedTimezones state action = some after) : Sound supportedTimezones first after := by
  obtain ⟨listed, grown, tracks⟩ := sound
  cases action with
  | createSite posting =>
    obtain ⟨sites, created, rfl⟩ := Option.map_eq_some_iff.mp stepped
    have more := step_grows clock created
    exact ⟨step_listed listed clock created, List.Subset.trans grown more, tracks.mono more⟩
  | loadMore =>
    simp only [step] at stepped
    split at stepped
    · rename_i view shown
      obtain ⟨can, same⟩ := Option.ite_none_right_eq_some.mp stepped
      cases same
      exact ⟨listed, grown, loadMore_tracks (shown ▸ tracks) can⟩
    · cases stepped
  | answer index requestId =>
    simp only [step] at stepped
    split at stepped
    · rename_i cursor held
      cases stepped
      exact ⟨listed, grown, answer_tracks listed grown tracks held requestId⟩
    · cases stepped
  | arrive index =>
    simp only [step] at stepped
    split at stepped
    · rename_i cursor reply held
      cases stepped
      exact ⟨listed, grown, arrive_tracks tracks held⟩
    · cases stepped
  | fail index failure =>
    simp only [step] at stepped
    split at stepped
    · rename_i cursor reply held
      cases stepped
      exact ⟨listed, grown, fail_tracks tracks held failure⟩
    · cases stepped

/-! ## A whole run -/

theorem opened_sound (listed : Listed supportedTimezones sites) : Sound supportedTimezones sites.rows (opened sites) :=
  ⟨listed, List.Subset.refl _, .awaiting _ .sent⟩

theorem run_sound (listed : Listed supportedTimezones sites) (clocked : ∀ action ∈ actions, action.Clocked)
    (ran : run (step supportedTimezones) (opened sites) actions = some state) :
    Sound supportedTimezones sites.rows state :=
  run_invariant_of_kind Action.Clocked (Sound supportedTimezones sites.rows)
    (fun sound clock stepped => step_sound sound clock stepped) clocked (opened_sound listed) ran

theorem canLoadMore_iff (reached : Reached first sites visit) (presents : Presents view visit) :
    view.canLoadMore = true ↔ view.cursor.isSome ∧ view.loading = false := by
  simp only [View.canLoadMore, Bool.and_eq_true, Bool.not_eq_eq_eq_not, Bool.not_true]
  refine and_congr_left fun _ => ?_
  rw [presents.sites, presents.cursor]
  cases isAfter : visit.after with
  | none => simp
  | some id =>
    have listed : visit.rows ≠ [] := reached.begun (by rw [isAfter]; rfl)
    simp [encodeCursor_ne_empty, listed]

theorem Fetching.requests_le {loading : Bool} {requests : List PageRequest}
    (fetching : Fetching supportedTimezones first sites visit loading requests) :
    requests.length ≤ 1 ∧ (loading = false ↔ requests = []) := by
  cases fetching with
  | idle => simp
  | sent => simp
  | answered reply next continues => simp

theorem Tracks.requests_le {screen : Screen} {requests : List PageRequest}
    (tracks : Tracks supportedTimezones first sites screen requests) : requests.length ≤ 1 := by
  cases tracks with
  | awaiting requests fetching => exact fetching.requests_le.1
  | failed message => exact Nat.zero_le _
  | table view requests visit reached presents fetching => exact fetching.requests_le.1

/-- Rows in the order of their ids, no two with one slug. -/
theorem slugs_nodup {rows : List SiteRow} (listed : Listed supportedTimezones sites) (stored : rows ⊆ sites.rows)
    (sorted : rows.Pairwise fun a b => a.id < b.id) : ((rows.map shown).map SiteResponse.slug).Nodup := by
  have slugs : (rows.map shown).map SiteResponse.slug = rows.map SiteRow.slug := by
    rw [List.map_map]
    rfl
  have distinct : rows.Nodup := sorted.imp fun before => ne_of_apply_ne SiteRow.id before.ne
  rw [slugs]
  exact distinct.map_on fun a memberA b memberB =>
    List.inj_on_of_nodup_map listed.slugs (stored memberA) (stored memberB)

/-- What the table shows of the sites that were there at first and since. -/
structure Shows (first : List SiteRow) (sites : SitesTable) (requests : List PageRequest) (view : View)
    (rows : List SiteRow) : Prop where
  stored : rows ⊆ sites.rows
  sites : view.sites = rows.map shown
  sorted : rows.Pairwise fun a b => a.id < b.id
  slugs : (view.sites.map SiteResponse.slug).Nodup
  button : view.canLoadMore = true ↔ view.cursor.isSome ∧ requests = []
  complete : view.cursor = none → first ⊆ rows

theorem Tracks.shows {requests : List PageRequest} (listed : Listed supportedTimezones sites)
    (tracks : Tracks supportedTimezones first sites (.table view) requests) :
    ∃ rows, Shows first sites requests view rows := by
  cases tracks with
  | table view requests visit reached presents fetching =>
    refine ⟨visit.rows, reached.stored, presents.sites, reached.covers.sorted, ?_, ?_, fun noCursor row member => ?_⟩
    · rw [presents.sites]
      exact slugs_nodup listed reached.stored reached.covers.sorted
    · rw [canLoadMore_iff reached presents, fetching.requests_le.2]
    · have ended : visit.ended = true := by
        rw [presents.ended, Option.isNone_iff_eq_none]
        exact Option.map_eq_none_iff.mp (presents.cursor.symm.trans noCursor)
      exact reached.covers.visited row member (Or.inl ended)

/-- **The dashboard shows every site.** In every run, whatever is created,
fails or is pressed meanwhile: no two requests are on their way at once; the
table shows sites as they are stored, in the order of their ids and no slug
twice; the Load more button is there exactly while there is a cursor and can be
pressed exactly while nothing is on its way, also after a failure; and where
there is no cursor, every site that was there when the page was opened is shown. -/
theorem dashboard_shows_every_site (listed : Listed supportedTimezones sites)
    (clocked : ∀ action ∈ actions, action.Clocked)
    (ran : run (step supportedTimezones) (opened sites) actions = some state) :
    state.requests.length ≤ 1 ∧
      ∀ view, state.screen = .table view → ∃ rows, Shows sites.rows state.sites state.requests view rows := by
  have sound := run_sound listed clocked ran
  refine ⟨sound.tracks.requests_le, fun view isTable => ?_⟩
  have tracks := sound.tracks
  rw [isTable] at tracks
  exact tracks.shows sound.listed

private theorem firstDay_dated : (IsoDatetime.toISOString (1704067200000000 / 1000)).isSome := by decide +kernel

/-- Wells along a road. -/
private def well (number : Nat) : Posting :=
  ⟨some (.object [("slug", .string ("well-" ++ toString number)), ("name", .string "Well"), ("country", .string "CA"),
      ("latitude", .number (.fraction (107 / 2) (by decide +kernel))), ("longitude", .number (.integer (-113))),
      ("timezone", .string "America/Edmonton"), ("emission_limit", .string "10")]),
    .completes ⟨number + 1, ⟨false, 535, -1⟩, ⟨true, 113, 0⟩, ⟨1704067200000000, firstDay_dated⟩⟩⟩

private theorem well_clocked (number : Nat) : (well number).Clocked :=
  (by decide +kernel : FourDigitYear ⟨1704067200000000, firstDay_dated⟩)

/-- A well is added while the first page is on its way. -/
private def addedMeanwhile : List Action := [.answer 0 none, .createSite (well 2), .arrive 0]

private def wholeTable : Screen → Option (List String × Option String)
  | .table view => some (view.sites.map SiteResponse.slug, view.cursor)
  | _ => none

theorem sites_of_the_answer_are_shown :
    ∃ sites state view rows, run (SiteListing.step ["America/Edmonton"]) noSites [well 0, well 1] = some sites ∧
      run (step ["America/Edmonton"]) (opened sites) addedMeanwhile = some state ∧ state.screen = .table view ∧
      view.sites.map SiteResponse.slug = ["well-0", "well-1"] ∧ sites.rows ⊆ rows ∧
      Shows sites.rows state.sites state.requests view rows := by
  obtain ⟨sites, created⟩ :
      ∃ sites, run (SiteListing.step ["America/Edmonton"]) noSites [well 0, well 1] = some sites :=
    Option.isSome_iff_exists.mp (by decide +kernel)
  have content : ∀ sites ∈ run (SiteListing.step ["America/Edmonton"]) noSites [well 0, well 1],
      ∃ state ∈ run (step ["America/Edmonton"]) (opened sites) addedMeanwhile,
        wholeTable state.screen = some (["well-0", "well-1"], none) := by decide +kernel
  obtain ⟨state, ran, whole⟩ := content sites created
  have listed : Listed ["America/Edmonton"] sites :=
    run_listed (List.forall_mem_cons.mpr ⟨well_clocked 0, List.forall_mem_singleton.mpr (well_clocked 1)⟩) created
  have clocked : ∀ action ∈ addedMeanwhile, action.Clocked := by simp [addedMeanwhile, Action.Clocked, well_clocked]
  cases screen : state.screen with
  | awaiting => simp [screen, wholeTable] at whole
  | failed message => simp [screen, wholeTable] at whole
  | table view =>
    simp only [screen, wholeTable, Option.some.injEq, Prod.mk.injEq] at whole
    obtain ⟨rows, shows⟩ := (dashboard_shows_every_site listed clocked ran).2 view screen
    exact ⟨sites, state, view, rows, created, ran, screen, whole.1, shows.complete whole.2, shows⟩

end EmissionsPlatform.Dashboard
