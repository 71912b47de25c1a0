import MediaSearch.Proofs.Library.Requests
import MediaSearch.Proofs.Query.Form

/-!
# Page sizes

Every request for items names the size of its page. A search by a text asks for pages of the size
that is given with it, or else of the library's. A structured search asks for pages of the size in
its filter, or else of a size that is fixed: what the library holds for it is never asked.
-/

set_option autoImplicit false

namespace MediaSearch

/-- The size of the page that a request is for. -/
def Request.pageSize? (request : Request) : Option Scalar :=
  request.parameters.bind fun parameters => parameters.lookup "X-Plex-Container-Size"

/-- The name of the size is not among the parameters of a compiled query, so that the page that is
put behind them is found. -/
theorem Client.pageSize?_itemsRequest (client : Client) {filter : Filter}
    {sections : List Section} {now : Moment} {query : Query}
    (compiled : Query.ofFilter filter sections now = .ok query) :
    (client.itemsRequest query.sectionId
      (query.parameters ++ pageParameters query.window)).pageSize? =
        some (.int query.window.size) := by
  have named : "X-Plex-Container-Size" ∈ (pageParameters query.window).map (·.1) := by
    simp [pageParameters]
  have fresh : "X-Plex-Container-Size" ∉ query.parameters.map (·.1) :=
    (Query.wellFormed_of_ofFilter compiled).page_fresh named
  have absent := Keyed.lookup_eq_none_of_fresh fresh
  rw [Request.pageSize?, itemsRequest, Option.bind_some, List.lookup_append, absent]
  rfl

namespace Library.Search

/-- All pages that a search asks for are of one size, wherever it starts. It asks for one unless it
is stopped before. -/
def AsksForPagesOf (library : Library) (search : Search) (size : Int) : Prop :=
  ∀ session, ∃ sent,
    ((search.action library).runIn session).2.requests = session.requests ++ sent ∧
      (∀ request ∈ sent,
        request = library.client.directoryRequest ∨ request.pageSize? = some (.int size)) ∧
      (search.Stopped library session ∨ ∃ request ∈ sent, request.pageSize? = some (.int size))

variable {library : Library} {search : Search}

theorem exists_ofFilter_of_query {session : Session} {query : Query}
    (compiled : search.query library session = .ok query) :
    ∃ filter sections, search.filter = .ok filter ∧
      Query.ofFilter (search.resolved library filter) sections session.now = .ok query := by
  obtain ⟨filter, read, compiled⟩ := Result.bind_eq_ok_iff.mp compiled
  obtain ⟨sections, -, compiled⟩ := Result.bind_eq_ok_iff.mp compiled
  exact ⟨filter, sections, read, Result.mapError_eq_ok_iff.mp compiled⟩

/-- The size that its filter is resolved to is the size of all pages of a search. -/
theorem asksForPagesOf_of_resolved {size : Int}
    (sized : ∀ filter, search.filter = .ok filter →
      (search.resolved library filter).limit = some size) :
    search.AsksForPagesOf library size := by
  intro session
  obtain ⟨listings, searches, blocks⟩ : ∃ listings searches,
      search.Blocks library session listings searches := by
    cases read : search.filter with
    | error failure => exact ⟨0, 0, search.blocks_of_unread library session read⟩
    | ok filter => exact search.exists_blocks_of_read library session read
  obtain ⟨request, sent, asked⟩ := blocks.sent
  rw [List.append_assoc] at sent
  refine ⟨_, sent, ?_⟩
  by_cases stopped : search.Stopped library session
  · obtain rfl := blocks.unsearched_iff.mpr stopped
    refine ⟨fun other member => .inl ?_, .inl stopped⟩
    rw [List.replicate_zero, List.append_nil] at member
    exact List.eq_of_mem_replicate member
  · -- What is not stopped comes to a query, whose window has the size.
    have unstopped := mt stopped_iff.mpr stopped
    cases compiled : search.query library session with
    | error failure => exact absurd ⟨failure, compiled⟩ unstopped
    | ok query =>
        obtain ⟨filter, sections, read, ofFilter⟩ := exists_ofFilter_of_query compiled
        have windowed : query.window.size = size := by
          obtain ⟨sectionId, since, -, -, rfl⟩ := Query.ofFilter_eq_ok_iff.mp ofFilter
          simp [sized filter read]
        have sizeAsked : request.pageSize? = some (.int size) := by
          rw [asked query compiled, library.client.pageSize?_itemsRequest ofFilter, windowed]
        have some_search : searches ≠ 0 := fun unsearched => stopped (blocks.unsearched_iff.mp unsearched)
        refine ⟨fun other member => ?_, .inr ⟨request, ?_, sizeAsked⟩⟩
        · cases List.mem_append.mp member with
          | inl listing => exact .inl (List.eq_of_mem_replicate listing)
          | inr found =>
              rw [List.eq_of_mem_replicate found]
              exact .inr sizeAsked
        · exact List.mem_append_right _ (List.mem_replicate.mpr ⟨some_search, rfl⟩)

/-!
## Sizes in structured filters
-/

theorem eq_limit_of_fieldOfKey? {name : String} (named : Filter.fieldOfKey? name = some .limit) :
    name = "limit" := by
  simpa [Filter.structuredKeys] using Filter.mem_structuredKeys_of_fieldOfKey? named

/-- An accepted filter has the last size that is given for it, or else the fixed one. -/
theorem limit_of_structured {entries : Entries} {filter : Filter}
    (read : (structured (.object entries)).filter = .ok filter) :
    filter.limit.map Scalar.int =
      (Filter.lastGiven? entries .limit).or (some (.int 25)) := by
  cases Filter.ofValue_eq_iff_reading.mp (Result.mapError_eq_ok_iff.mp read) with
  | accepted acceptable holds => exact holds .limit

theorem lastGiven?_limit_of_null {entries : Entries}
    (null : ∀ value, ("limit", value) ∈ entries → value.isNull = true) :
    Filter.lastGiven? entries .limit = none := by
  have nothing : Filter.given entries .limit = [] := by
    rw [List.eq_nil_iff_forall_not_mem]
    intro entry member
    obtain ⟨present, named, filled⟩ := Filter.mem_given.mp member
    obtain ⟨name, value⟩ := entry
    obtain rfl := eq_limit_of_fieldOfKey? named
    rw [null value present] at filled
    cases filled
  rw [Filter.lastGiven?, nothing]
  rfl

theorem lastGiven?_limit_of_int {entries : Entries} {size : Int}
    (present : ("limit", .int size) ∈ entries)
    (only : ∀ value, ("limit", value) ∈ entries → value = .int size ∨ value.isNull = true) :
    Filter.lastGiven? entries .limit = some (.int size) := by
  have member : ("limit", .int size) ∈ Filter.given entries .limit :=
    Filter.mem_given.mpr ⟨present, rfl, rfl⟩
  unfold Filter.lastGiven?
  cases last : (Filter.given entries .limit).getLast? with
  | none =>
      rw [List.getLast?_eq_none_iff.mp last] at member
      exact absurd member List.not_mem_nil
  | some entry =>
      obtain ⟨lastPresent, named, filled⟩ := Filter.mem_given.mp (List.mem_of_getLast? last)
      obtain ⟨name, value⟩ := entry
      obtain rfl := eq_limit_of_fieldOfKey? named
      cases only value lastPresent with
      | inl same =>
          obtain rfl := same
          rfl
      | inr null =>
          rw [null] at filled
          cases filled

theorem limit_resolved_structured (library : Library) (value : Value) {filter : Filter}
    {size : Int} (held : filter.limit.map Scalar.int = some (.int size)) :
    ((structured value).resolved library filter).limit = some size := by
  obtain ⟨limit, set, same⟩ := Option.map_eq_some_iff.mp held
  obtain rfl := Scalar.int_inj.mp same
  simp [resolved, Filter.resolve, Filter.overlay, Filter.withDefaults, set]

theorem limit_resolved_text (library : Library) (words : String) (limit : Option Int)
    {filter : Filter} (read : (text words limit).filter = .ok filter) :
    ((text words limit).resolved library filter).limit = some (limit.getD library.limit) := by
  obtain ⟨signals, -, rfl⟩ := Filter.ofText_eq_ok_iff.mp (Result.mapError_eq_ok_iff.mp read)
  simp [resolved, limitOr, Filter.resolve, Filter.withDefaults, signals.toFilter_limit]

end Library.Search

namespace Library

/-- A size that is given with a search is the size of its pages. Without one, a text is searched for
in pages of the library's size, and a structured filter in pages of a fixed size. -/
theorem pageSize_of_search (library : Library) :
    (∀ words limit,
      (Search.text words limit).AsksForPagesOf library (limit.getD library.limit)) ∧
    (∀ entries : Entries, (∀ value, ("limit", value) ∈ entries → value.isNull = true) →
      (Search.structured (.object entries)).AsksForPagesOf library 25) ∧
    ∀ (entries : Entries) (size : Int), ("limit", .int size) ∈ entries →
      (∀ value, ("limit", value) ∈ entries → value = .int size ∨ value.isNull = true) →
      (Search.structured (.object entries)).AsksForPagesOf library size := by
  refine ⟨fun words limit => ?_, fun entries null => ?_, fun entries size present only => ?_⟩
  · apply Search.asksForPagesOf_of_resolved
    intro filter read
    exact Search.limit_resolved_text library words limit read
  · apply Search.asksForPagesOf_of_resolved
    intro filter read
    apply Search.limit_resolved_structured
    rw [Search.limit_of_structured read, Search.lastGiven?_limit_of_null null]
    rfl
  · apply Search.asksForPagesOf_of_resolved
    intro filter read
    apply Search.limit_resolved_structured
    rw [Search.limit_of_structured read, Search.lastGiven?_limit_of_int present only]
    rfl

theorem pageSize_of_search_forty :
    let library : Library :=
      { client := ⟨Client.defaultUrl, "token", Client.defaultTimeout⟩, limit := 40 }
    let unsized : Entries := [("limit", .null), ("type", .text "movie"), ("sectionId", .text "1")]
    let sized : Entries := [("limit", .null), ("type", .text "movie"), ("limit", .int 5)]
    (∀ value, ("limit", value) ∈ unsized → value.isNull = true) ∧
      (Search.structured (.object unsized)).AsksForPagesOf library 25 ∧
      ("limit", .int 5) ∈ sized ∧
      (∀ value, ("limit", value) ∈ sized → value = .int 5 ∨ value.isNull = true) ∧
      (Search.structured (.object sized)).AsksForPagesOf library 5 := by
  intro library unsized sized
  obtain ⟨-, withoutSize, withSize⟩ := library.pageSize_of_search
  have null : ∀ value, ("limit", value) ∈ unsized → value.isNull = true := by
    intro value member
    simp only [unsized, List.mem_cons, Prod.mk.injEq, true_and, String.reduceEq, false_and,
      List.not_mem_nil, or_false] at member
    subst member
    rfl
  have present : ("limit", .int 5) ∈ sized := by
    simp [sized]
  have only : ∀ value, ("limit", value) ∈ sized → value = .int 5 ∨ value.isNull = true := by
    intro value member
    simp only [sized, List.mem_cons, Prod.mk.injEq, true_and, String.reduceEq, false_and,
      false_or, List.not_mem_nil, or_false] at member
    cases member with
    | inl null =>
        subst null
        exact .inr rfl
    | inr same => exact .inl same
  exact ⟨null, withoutSize unsized null, present, only, withSize sized 5 present only⟩

/-- A library of pages of forty is searched for the same things in two ways. -/
theorem structured_search_ignores_library_limit :
    let client : Client := ⟨Client.defaultUrl, "token", Client.defaultTimeout⟩
    let session : Session := {
      server := { directory := .list [.object [("key", .text "1"), ("type", .text "movie")]] }
      now := ⟨⟨2026, 10, 18⟩, 12, 0, 0, 0, some 0⟩ }
    let library : Library := { client, limit := 40 }
    (((library.searchText "movies" none).runIn session).2.requests.map Request.pageSize? =
      [none, some (.int 40)]) ∧
    ((library.searchStructured (.object [("type", .text "movie")])).runIn
      session).2.requests.map Request.pageSize? = [none, some (.int 25)] := by
  decide +kernel

end Library

end MediaSearch
