import EmissionsPlatform.Database
import EmissionsPlatform.Foundation.Encodings
import EmissionsPlatform.Foundation.IntegerLiteral
import EmissionsPlatform.Foundation.IsoDatetime
import EmissionsPlatform.Foundation.KeysetPaging

/-! `GET /sites` (`MetricsService.listSites`): a page of sites in the order of
their ids, and a cursor for the next one. The cursor is the base64 of `id:` and
the id of the page's last site; whoever sends it back may send anything else.

`page_walk_visits_every_site_once` is about clients that pass on the cursors
they get, `listSites_returns_iff` about the others: a cursor is read with
`BigInt`, which knows no bounds, and cast to a `bigint`, which has some. -/
namespace EmissionsPlatform.SitesList
open KeysetPaging Transition
set_option autoImplicit false

/-! ## The table -/

/-- A `timestamptz` that a JavaScript `Date` can hold. -/
structure Timestamp where
  microseconds : Int
  dated : (IsoDatetime.toISOString (microseconds / 1000)).isSome

/-- `toDate(…).toISOString()`. -/
def Timestamp.iso (timestamp : Timestamp) : String := (IsoDatetime.toISOString (timestamp.microseconds / 1000)).get
  timestamp.dated

/-- A row of `sites`, as the query returns it. -/
structure SiteRow where
  id : Int
  slug : String
  name : String
  country : String
  state : Option String
  city : Option String
  postalCode : Option String
  /-- `latitude::text`. -/
  latitude : String
  longitude : String
  timezone : String
  emissionLimit : Numeric
  createdAt : Timestamp
  updatedAt : Timestamp

/-- The range of a `bigint`. -/
def bigintMin : Int := -2 ^ 63
def bigintMax : Int := 2 ^ 63 - 1

/-- The primary key is a `bigserial`. -/
structure SitesTable where
  rows : List SiteRow
  ids : (rows.map SiteRow.id).Nodup
  serial : ∀ row ∈ rows, 0 < row.id ∧ row.id ≤ bigintMax

/-! ## Cursors -/

def encodeCursor (id : Int) : String :=
  String.ofList (Base64.encode (Utf8.encode ("id:" ++ toString id).toList))

/-- `Buffer.from(cursor, "base64").toString("utf8")`. -/
def rawCursor (cursor : String) : List Char := Utf8.decode (Base64.decode cursor.toList)

/-- A cursor that cannot be read is no cursor. -/
def decodeCursor (cursor : String) : Option Int :=
  match rawCursor cursor with
  | 'i' :: 'd' :: ':' :: rest => IntegerLiteral.toBigInt rest
  | _ => none

/-! ## The call -/

variable {Number : Type}

structure SiteResponse (Number : Type) where
  slug : String
  name : String
  country : String
  state : Option String
  city : Option String
  postalCode : Option String
  latitude : Number
  longitude : Number
  timezone : String
  emissionLimit : String
  createdAt : String
  updatedAt : String

structure SitesListResponse (Number : Type) where
  data : List (SiteResponse Number)
  nextCursor : Option String

/-- `number` is the conversion `Number(…)`. -/
def siteResponse (number : String → Number) (row : SiteRow) : SiteResponse Number :=
  ⟨row.slug, row.name, row.country, row.state, row.city, row.postalCode, number row.latitude,
    number row.longitude, row.timezone, row.emissionLimit.text, row.createdAt.iso, row.updatedAt.iso⟩

inductive QueryError
  /-- `value … is out of range for type bigint`. -/
  | bigintOutOfRange (value : Int)

/-- `WHERE id > …::bigint`. -/
def castCursor : Option Int → Except QueryError (Option Int)
  | none => .ok none
  | some id => if bigintMin ≤ id ∧ id ≤ bigintMax then .ok (some id) else .error (.bigintOutOfRange id)

/-- `SELECT … WHERE id > … ORDER BY id ASC LIMIT …`. -/
def selectSites (cursorId : Option Int) (fetchLimit : Nat) (table : SitesTable) :
    Except QueryError (List SiteRow) := do
  let after ← castCursor cursorId
  return ((table.rows.filter fun row => decide (∀ id ∈ after, id < row.id)).insertionSort
    fun a b => a.id ≤ b.id).take fetchLimit

def listSites (number : String → Number) (limit : Nat) (cursor : Option String) (table : SitesTable) :
    Except QueryError (SitesListResponse Number) := do
  -- An empty cursor is falsy.
  let cursorId := (cursor.filter fun text => text ≠ "").bind decodeCursor
  let rows ← selectSites cursorId (limit + 1) table
  let hasNextPage := limit < rows.length
  let pageRows := if hasNextPage then rows.take limit else rows
  let nextCursor := if hasNextPage then pageRows.getLast?.map fun lastRow => encodeCursor lastRow.id else none
  return ⟨pageRows.map (siteResponse number), nextCursor⟩

/-! ## A client that walks -/

structure SitesWalk (Number : Type) where
  cursor : Option String
  pages : List (SitesListResponse Number)
  /-- `next_cursor` was null. -/
  ended : Bool

/-- The next request of a client that passes on the cursor it got. -/
def requestPage (number : String → Number) (limit : Nat) (walk : SitesWalk Number) (table : SitesTable) :
    Option (SitesWalk Number) :=
  if walk.ended then none
  else
    match listSites number limit walk.cursor table with
    | .error _ => none
    | .ok page => some ⟨page.nextCursor, walk.pages ++ [page], page.nextCursor.isNone⟩

def firstRequest : SitesWalk Number := ⟨none, [], false⟩

variable {number : String → Number} {limit : Nat} {table first : SitesTable} {tables : List SitesTable}
variable {after : Option Int} {walk next : SitesWalk Number} {visit : Walk SiteRow Int}

/-! ## Cursors read back -/

theorem toString_ascii (id : Int) : ∀ character ∈ (toString id).toList, character.toNat < 128 := by
  have digits : ∀ number, ∀ character ∈ Nat.toDigits 10 number, character.toNat < 128 := by
    intro number character member
    have digital := DecimalText.digit_of_toDigits member
    simp only [Char.isDigit, ge_iff_le, Bool.and_eq_true, decide_eq_true_eq] at digital
    have upper : character.toNat ≤ 57 := digital.2
    omega
  cases id with
  | ofNat number =>
    rw [IntegerLiteral.toList_ofNat]
    exact digits number
  | negSucc number =>
    rw [IntegerLiteral.toList_negSucc]
    exact List.forall_mem_cons.mpr ⟨by decide, digits _⟩

theorem rawCursor_encodeCursor (id : Int) :
    rawCursor (encodeCursor id) = 'i' :: 'd' :: ':' :: (toString id).toList := by
  have text : ("id:" ++ toString id).toList = 'i' :: 'd' :: ':' :: (toString id).toList := by
    rw [String.toList_append]
    rfl
  rw [rawCursor, encodeCursor, String.toList_ofList, Base64.decode_encode, text]
  apply Utf8.decode_ascii
  simp only [List.forall_mem_cons]
  exact ⟨by decide, by decide, by decide, toString_ascii id⟩

theorem decodeCursor_encodeCursor (id : Int) : decodeCursor (encodeCursor id) = some id := by
  rw [decodeCursor, rawCursor_encodeCursor]
  exact IntegerLiteral.toBigInt_toString id

theorem encodeCursor_ne_empty (id : Int) : encodeCursor id ≠ "" := by
  intro empty
  have raw := rawCursor_encodeCursor id
  rw [empty] at raw
  cases raw

/-! ## Paging by id -/

theorem selectSites_of_cast {cursorId : Option Int} (cast : castCursor cursorId = .ok after) (fetchLimit : Nat) :
    selectSites cursorId fetchLimit table = .ok ((behind SiteRow.id after table.rows).take fetchLimit) := by
  rw [selectSites, cast]
  rfl

/-- A cursor that can be cast brings the page behind it. -/
theorem listSites_of_cast {cursor : Option String}
    (cast : castCursor ((cursor.filter fun text => text ≠ "").bind decodeCursor) = .ok after) :
    listSites number limit cursor table =
      .ok ⟨(page SiteRow.id limit after table.rows).1.map (siteResponse number),
        (page SiteRow.id limit after table.rows).2.map encodeCursor⟩ := by
  simp only [listSites, selectSites_of_cast cast, bind, Except.bind, pure, Except.pure, page]
  by_cases more : limit < ((behind SiteRow.id after table.rows).take (limit + 1)).length
  · simp only [if_pos more, Option.map_map]
    rfl
  · simp only [if_neg more, Option.map_none]

theorem castCursor_of_range (inRange : ∀ id ∈ after, bigintMin ≤ id ∧ id ≤ bigintMax) :
    castCursor after = .ok after := by
  cases after with
  | none => rfl
  | some id => exact if_pos (inRange id rfl)

theorem listSites_of_after (inRange : ∀ id ∈ after, bigintMin ≤ id ∧ id ≤ bigintMax) :
    listSites number limit (after.map encodeCursor) table =
      .ok ⟨(page SiteRow.id limit after table.rows).1.map (siteResponse number),
        (page SiteRow.id limit after table.rows).2.map encodeCursor⟩ := by
  apply listSites_of_cast
  have decoded : ((after.map encodeCursor).filter fun text => text ≠ "").bind decodeCursor = after := by
    cases after with
    | none => rfl
    | some id =>
      have kept : ((some (encodeCursor id)).filter fun text => text ≠ "") = some (encodeCursor id) :=
        Option.filter_eq_some_iff.mpr ⟨rfl, decide_eq_true (encodeCursor_ne_empty id)⟩
      rw [Option.map_some, kept, Option.bind_some, decodeCursor_encodeCursor]
  rw [decoded]
  exact castCursor_of_range inRange

/-- A walk of the client and the walk over the rows that it makes. -/
structure Follows (number : String → Number) (visit : Walk SiteRow Int) (walk : SitesWalk Number) : Prop where
  cursor : walk.cursor = visit.after.map encodeCursor
  pages : walk.pages.map SitesListResponse.data = visit.pages.map fun rows => rows.map (siteResponse number)
  ended : walk.ended = visit.ended
  /-- The walk goes on behind the id of a site. -/
  inRange : ∀ id ∈ visit.after, bigintMin ≤ id ∧ id ≤ bigintMax

theorem start_follows : Follows number start firstRequest := ⟨rfl, rfl, rfl, nofun⟩

theorem page_inRange (positive : 0 < limit) :
    ∀ id ∈ (page SiteRow.id limit after table.rows).2, bigintMin ≤ id ∧ id ≤ bigintMax := by
  rcases @page_cases _ _ _ SiteRow.id limit after table.rows positive with
    ⟨-, last⟩ | ⟨front, last, back, split, -, -, paged⟩
  · rw [last]
    exact nofun
  · rw [paged]
    intro id same
    cases Option.some.inj same
    have listed : last ∈ behind SiteRow.id after table.rows :=
      split ▸ List.mem_append_right _ List.mem_cons_self
    obtain ⟨low, high⟩ := table.serial last (mem_behind.mp listed).1
    exact ⟨by simp only [bigintMin]; omega, high⟩

/-- The client's request is a step of the walk over the rows. -/
theorem requestPage_follows (positive : 0 < limit) (follows : Follows number visit walk) :
    (walk.ended = true ∧ requestPage number limit walk table = none ∧
        KeysetPaging.step SiteRow.id limit visit table.rows = none) ∨
      walk.ended = false ∧ ∃ visited next, requestPage number limit walk table = some next ∧
        KeysetPaging.step SiteRow.id limit visit table.rows = some visited ∧ Follows number visited next := by
  have answer := @listSites_of_after _ number limit table _ follows.inRange
  unfold requestPage KeysetPaging.step
  rw [← follows.ended, follows.cursor, answer]
  cases ended : walk.ended with
  | true => exact Or.inl ⟨rfl, rfl, rfl⟩
  | false =>
    refine Or.inr ⟨rfl, _, _, rfl, rfl, rfl, ?_, ?_, page_inRange positive⟩
    · simp [follows.pages]
    · simp

theorem run_follows (positive : 0 < limit) (follows : Follows number visit walk)
    (ran : run (requestPage number limit) walk tables = some next) :
    ∃ visited, run (KeysetPaging.step SiteRow.id limit) visit (tables.map SitesTable.rows) = some visited ∧
      Follows number visited next := by
  induction tables generalizing visit walk with
  | nil =>
    cases ran
    exact ⟨visit, rfl, follows⟩
  | cons table tables ih =>
    obtain ⟨middle, requested, ran⟩ := run_cons.mp ran
    rcases @requestPage_follows _ _ _ table _ _ positive follows with
      ⟨-, refused, -⟩ | ⟨-, visited, _, page, stepped, later⟩
    · rw [refused] at requested
      cases requested
    · rw [page] at requested
      cases requested
      obtain ⟨last, ranLast, followsLast⟩ := ih later ran
      exact ⟨last, run_cons.mpr ⟨visited, stepped, ranLast⟩, followsLast⟩

theorem run_followed (positive : 0 < limit) (follows : Follows number visit walk) {visited : Walk SiteRow Int}
    (ran : run (KeysetPaging.step SiteRow.id limit) visit (tables.map SitesTable.rows) = some visited) :
    ∃ next, run (requestPage number limit) walk tables = some next ∧ Follows number visited next := by
  induction tables generalizing visit walk with
  | nil =>
    cases ran
    exact ⟨walk, rfl, follows⟩
  | cons table tables ih =>
    obtain ⟨middle, stepped, ran⟩ := run_cons.mp ran
    rcases @requestPage_follows _ _ _ table _ _ positive follows with
      ⟨-, -, refused⟩ | ⟨-, _, page, requested, went, later⟩
    · rw [refused] at stepped
      cases stepped
    · rw [went] at stepped
      cases stepped
      obtain ⟨last, ranLast, followsLast⟩ := ih later ran
      exact ⟨last, run_cons.mpr ⟨page, requested, ranLast⟩, followsLast⟩

/-- A row of any of the tables is in the last one. -/
theorem subset_last {tables : List SitesTable} (nonempty : tables ≠ [])
    (grows : tables.Pairwise fun earlier later => earlier.rows ⊆ later.rows) :
    ∀ table ∈ tables, table.rows ⊆ (tables.getLast nonempty).rows := by
  intro table member
  rw [← List.dropLast_append_getLast nonempty] at member grows
  rcases List.mem_append.mp member with earlier | last
  · exact (List.pairwise_append.mp grows).2.2 table earlier _ (List.mem_singleton_self _)
  · rw [List.mem_singleton.mp last]
    exact List.Subset.refl _

/-- What a walk visits: sites of the last table in the order of their ids. -/
structure Visits (number : String → Number) (first last : SitesTable) (walk : SitesWalk Number)
    (visited : List SiteRow) : Prop where
  data : walk.pages.flatMap SitesListResponse.data = visited.map (siteResponse number)
  stored : visited ⊆ last.rows
  increasing : visited.Pairwise fun a b => a.id < b.id
  /-- Where no slug names two sites, none is listed twice. -/
  slugs : (last.rows.map SiteRow.slug).Nodup →
    ((walk.pages.flatMap SitesListResponse.data).map SiteResponse.slug).Nodup
  complete : walk.ended = true → first.rows ⊆ visited

/-- Different rows of a table have different slugs. -/
theorem slugs_nodup {last : SitesTable} {visited : List SiteRow} (stored : visited ⊆ last.rows)
    (increasing : visited.Pairwise fun a b => a.id < b.id) (unique : (last.rows.map SiteRow.slug).Nodup) :
    ((visited.map (siteResponse number)).map SiteResponse.slug).Nodup := by
  rw [List.map_map]
  refine List.Nodup.map_on ?_ (increasing.imp fun before => ne_of_apply_ne SiteRow.id before.ne)
  intro row member other otherMember same
  exact List.inj_on_of_nodup_map unique (stored member) (stored otherMember) same

/-- What the pages of a walk over a growing table list, and that no request of
it fails. -/
theorem run_visits {first : SitesTable} {tables : List SitesTable} (positive : 0 < limit)
    (grows : (first :: tables).Pairwise fun earlier later => earlier.rows ⊆ later.rows)
    (ran : run (requestPage number limit) firstRequest (first :: tables) = some walk) :
    (∃ visited, Visits number first ((first :: tables).getLast (List.cons_ne_nil _ _)) walk visited) ∧
      (walk.ended = false → ∀ table, (requestPage number limit walk table).isSome) := by
  obtain ⟨visited, ranRows, follows⟩ := run_follows positive start_follows ran
  have grown : ∀ rows ∈ (first :: tables).map SitesTable.rows, first.rows ⊆ rows := by
    refine List.forall_mem_map.mpr (List.forall_mem_cons.mpr ⟨List.Subset.refl _, fun table member => ?_⟩)
    exact (List.pairwise_cons.mp grows).1 table member
  have distinct : ∀ rows ∈ (first :: tables).map SitesTable.rows, (rows.map SiteRow.id).Nodup :=
    List.forall_mem_map.mpr fun table _ => table.ids
  have covers := run_covers positive distinct grown ranRows
  have stored : visited.rows ⊆ ((first :: tables).getLast (List.cons_ne_nil _ _)).rows :=
    run_subset (List.forall_mem_map.mpr (subset_last _ grows)) ranRows
  have data : walk.pages.flatMap SitesListResponse.data = visited.rows.map (siteResponse number) := by
    rw [List.flatMap_def, follows.pages, Walk.rows, List.map_flatten]
  constructor
  · refine ⟨visited.rows, data, stored, covers.sorted, fun unique => ?_, fun ended site member => ?_⟩
    · rw [data]
      exact slugs_nodup stored covers.sorted unique
    · exact covers.visited site member (Or.inl (follows.ended ▸ ended))
  · intro going table
    rcases @requestPage_follows _ _ _ table _ _ positive follows with ⟨finished, -, -⟩ | ⟨-, _, page, requested, -, -⟩
    · rw [going] at finished
      cases finished
    · rw [requested]
      rfl

/-- How many requests a walk over one table takes. -/
theorem run_ends_iff (positive : 0 < limit) (table : SitesTable) (count : Nat) :
    (∃ walk, run (requestPage number limit) firstRequest (List.replicate count table) = some walk ∧
        walk.ended = true) ↔
      count = max 1 ((table.rows.length + limit - 1) / limit) := by
  rw [← ends_iff positive table.ids]
  have rows : (List.replicate count table).map SitesTable.rows = List.replicate count table.rows :=
    List.map_replicate
  constructor
  · rintro ⟨walk, ran, ended⟩
    obtain ⟨visited, ranRows, follows⟩ := run_follows positive start_follows ran
    exact ⟨visited, rows ▸ ranRows, follows.ended ▸ ended⟩
  · rintro ⟨visited, ranRows, ended⟩
    obtain ⟨walk, ran, follows⟩ := @run_followed _ _ _ (List.replicate count table) _ _ positive start_follows _
      (rows ▸ ranRows)
    exact ⟨walk, ran, follows.ended.trans ended⟩

/-- **A page walk visits every site once.** Over tables to which sites are only
added, the pages of a walk list stored sites in the order of their ids, none of
them twice, and no request fails; once the walk has ended, every site of the
first table is among them. On a table that stays as it is a walk ends with exactly
`max 1 ⌈n / limit⌉` requests. -/
theorem page_walk_visits_every_site_once (number : String → Number) (limit : Nat) (valid : 1 ≤ limit ∧ limit ≤ 200) :
    (∀ (first : SitesTable) (tables : List SitesTable) (walk : SitesWalk Number),
        (first :: tables).Pairwise (fun earlier later => earlier.rows ⊆ later.rows) →
          run (requestPage number limit) firstRequest (first :: tables) = some walk →
            (∃ visited, Visits number first ((first :: tables).getLast (List.cons_ne_nil _ _)) walk visited) ∧
              (walk.ended = false → ∀ table, (requestPage number limit walk table).isSome)) ∧
      (∀ (table : SitesTable) (count : Nat),
        (∃ walk, run (requestPage number limit) firstRequest (List.replicate count table) = some walk ∧
            walk.ended = true) ↔
          count = max 1 ((table.rows.length + limit - 1) / limit)) ∧
        ∀ id, 0 < id → decodeCursor (encodeCursor id) = some id := by
  refine ⟨?_, ?_, ?_⟩
  · intro first tables walk grows ran
    exact run_visits valid.1 grows ran
  · intro table count
    exact run_ends_iff valid.1 table count
  · intro id _
    exact decodeCursor_encodeCursor id

private def longAgo : Timestamp := ⟨1704067200000000, by decide⟩

private def siteWithId (id : Int) : SiteRow :=
  ⟨id, "plant-" ++ toString id, "Plant", "CA", none, none, none, "53.546100", "-113.493800", "America/Edmonton",
    Numeric.zero, longAgo, longAgo⟩

private def threeSites : SitesTable := ⟨[siteWithId 3, siteWithId 1, siteWithId 2], by decide, by decide⟩

theorem three_sites_in_two_pages :
    ∃ walk, run (requestPage id 2) firstRequest (List.replicate 2 threeSites) = some walk ∧ walk.ended = true :=
  ((page_walk_visits_every_site_once id 2 (by decide)).2.1 threeSites 2).mpr (by decide)

/-! ## Cursors from elsewhere -/

/-- The cursor is some base64 of `id:` and a literal of the integer. -/
def Denotes (cursor : String) (value : Int) : Prop :=
  ∃ rest, rawCursor cursor = 'i' :: 'd' :: ':' :: rest ∧ IntegerLiteral.Reads rest value

theorem decodeCursor_eq_some_iff {cursor : String} {value : Int} :
    decodeCursor cursor = some value ↔ Denotes cursor value := by
  unfold decodeCursor Denotes
  split
  · rename_i rest raw
    rw [IntegerLiteral.toBigInt_eq_some_iff]
    constructor
    · exact fun reads => ⟨rest, raw, reads⟩
    · rintro ⟨other, same, reads⟩
      cases raw.symm.trans same
      exact reads
  · rename_i otherwise
    refine ⟨nofun, ?_⟩
    rintro ⟨rest, raw, -⟩
    exact absurd raw (otherwise rest)

theorem decodeCursor_eq_none_iff {cursor : String} :
    decodeCursor cursor = none ↔ ∀ value, ¬ Denotes cursor value := by
  simp only [Option.eq_none_iff_forall_ne_some, ne_eq, decodeCursor_eq_some_iff]

/-- The empty cursor is falsy, and would denote nothing. -/
theorem cursorId_eq (cursor : String) :
    ((some cursor).filter fun text => text ≠ "").bind decodeCursor = decodeCursor cursor := by
  by_cases empty : cursor = ""
  · rw [empty]
    rfl
  · have kept : ((some cursor).filter fun text => text ≠ "") = some cursor :=
      Option.filter_eq_some_iff.mpr ⟨rfl, decide_eq_true empty⟩
    rw [kept, Option.bind_some]

theorem castCursor_returns_iff {cursorId : Option Int} :
    (∃ after, castCursor cursorId = .ok after) ↔ ∀ id ∈ cursorId, bigintMin ≤ id ∧ id ≤ bigintMax := by
  cases cursorId with
  | none => exact iff_of_true ⟨none, rfl⟩ nofun
  | some id =>
    simp only [castCursor, Option.mem_some_iff, forall_eq']
    split_ifs with inRange
    · exact iff_of_true ⟨_, rfl⟩ inRange
    · exact iff_of_false nofun inRange

theorem listSites_of_no_cast {cursor : Option String} {error : QueryError}
    (refused : castCursor ((cursor.filter fun text => text ≠ "").bind decodeCursor) = .error error) :
    listSites number limit cursor table = .error error := by
  rw [listSites, selectSites, refused]
  rfl

/-- **Whose cursors are served.** A client gets a page, the first one for a
cursor that denotes nothing, exactly when what its cursor denotes, if anything,
is in the range of a `bigint`. -/
theorem listSites_returns_iff (number : String → Number) (limit : Nat) (cursor : String) (table : SitesTable) :
    (∃ page, listSites number limit (some cursor) table = .ok page ∧
        ((∀ value, ¬ Denotes cursor value) → listSites number limit none table = .ok page)) ↔
      ∀ value, Denotes cursor value → bigintMin ≤ value ∧ value ≤ bigintMax := by
  have returns := @castCursor_returns_iff (decodeCursor cursor)
  simp only [Option.mem_def, decodeCursor_eq_some_iff] at returns
  rw [← returns]
  constructor
  · rintro ⟨page, returned, -⟩
    cases cast : castCursor (decodeCursor cursor) with
    | ok after => exact ⟨after, rfl⟩
    | error error =>
      rw [listSites_of_no_cast (by rw [cursorId_eq, cast])] at returned
      cases returned
  · rintro ⟨after, cast⟩
    refine ⟨_, listSites_of_cast (by rw [cursorId_eq, cast]), fun nothing => ?_⟩
    rw [decodeCursor_eq_none_iff.mpr nothing] at cast
    cases cast
    exact listSites_of_cast rfl

/-- `id:99999999999999999999` fits no `bigint`. -/
theorem oversized_cursor_fails :
    ¬ ∀ (number : String → String) (limit : Nat) (cursor : String) (table : SitesTable), 1 ≤ limit ∧ limit ≤ 200 →
      ∃ page, listSites number limit (some cursor) table = .ok page := by
  intro always
  obtain ⟨page, returned⟩ := always id 50 "aWQ6OTk5OTk5OTk5OTk5OTk5OTk5OTk=" threeSites (by decide)
  rw [@listSites_of_no_cast _ _ _ _ _ (.bigintOutOfRange 99999999999999999999) (by rfl)] at returned
  cases returned

end EmissionsPlatform.SitesList
