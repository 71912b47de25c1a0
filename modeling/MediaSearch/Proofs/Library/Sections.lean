import MediaSearch.Proofs.Client.Attempts
import MediaSearch.Proofs.Library.Requests
import MediaSearch.Proofs.Settings.Paths
import MediaSearch.Proofs.Value.Blank

/-!
# Sections of a directory

A server may answer with a body of any shape. The objects with a key in its directory are its sections,
and of them the first at home in the filter's type is searched. Whatever else the directory lists makes
no difference.
-/

set_option autoImplicit false

namespace MediaSearch

/-- The items of the directory in a body. There are none unless a list stands where it should be. -/
def Value.directory (body : Value) : List Value :=
  match body.under? ["MediaContainer", "Directory"] with
  | some (.list items) => items
  | _ => []

namespace Section

/-- An item is described by a section if it is an object with a key that is not blank. -/
inductive Describes : Value → Section → Prop where
  | keyed {entries : Entries} (keyed : ¬ (entries.get "key").IsBlank) :
      Describes (.object entries)
        ⟨(entries.get "key").trimmedText, (entries.get "type").trimmedText,
          (entries.get "title").trimmedText⟩

/-- One section for each item that has one, in order, and no others. -/
inductive Lists : List Value → List Section → Prop where
  | done : Lists [] []
  | passed {item : Value} {items : List Value} {sections : List Section} :
      (∀ described, ¬ Describes item described) → Lists items sections →
      Lists (item :: items) sections
  | listed {item : Value} {items : List Value} {described : Section} {sections : List Section} :
      Describes item described → Lists items sections →
      Lists (item :: items) (described :: sections)

/-- The types of sections for a type of filter. An unknown or missing type counts as movie. -/
def family : Option String → List String
  | some "show" | some "episode" => ["show"]
  | some "artist" | some "album" | some "track" => ["artist", "music"]
  | _ => ["movie"]

/-- The item is a section for a type of filter. -/
def IsHome (type : Option String) (item : Value) : Prop :=
  ∃ described, Describes item described ∧ described.type ∈ family type

/-- The first item that is a section for a type of filter has this key. -/
def FirstHome (type : Option String) (items : List Value) (id : String) : Prop :=
  ∃ before item described after, items = before ++ item :: after ∧
    (∀ earlier ∈ before, ¬ IsHome type earlier) ∧
    Describes item described ∧ described.type ∈ family type ∧ described.id = id

/-!
## Items
-/

def ofItem? : Value → Option Section
  | .object entries => ofEntry? entries
  | _ => none

theorem ofItem?_eq_some_iff {item : Value} {described : Section} :
    ofItem? item = some described ↔ Describes item described := by
  constructor
  · intro read
    cases item with
    | object entries =>
        simp only [ofItem?, ofEntry?, Option.ite_none_left_eq_some, Option.some.injEq,
          String.isEmpty_iff, Value.trimmedText_eq_empty_iff] at read
        obtain ⟨keyed, rfl⟩ := read
        exact .keyed keyed
    | _ => cases read
  · rintro ⟨keyed⟩
    simpa [ofItem?, ofEntry?, Value.trimmedText_eq_empty_iff] using keyed

theorem id_ne_empty_of_describes {item : Value} {described : Section}
    (describes : Describes item described) : described.id ≠ "" := by
  obtain ⟨keyed⟩ := describes
  exact mt Value.trimmedText_eq_empty_iff.mp keyed

theorem lists_filterMap (items : List Value) : Lists items (items.filterMap ofItem?) := by
  induction items with
  | nil => exact .done
  | cons item items ih =>
      cases read : ofItem? item with
      | none =>
          rw [List.filterMap_cons_none read]
          apply Lists.passed _ ih
          intro described describes
          rw [ofItem?_eq_some_iff.mpr describes] at read
          cases read
      | some described =>
          rw [List.filterMap_cons_some read]
          exact .listed (ofItem?_eq_some_iff.mp read) ih

/-- Only the objects of a directory are looked at. -/
theorem ofEntries_entriesOf (body : Value) :
    ofEntries (Client.entriesOf "Directory" body) = body.directory.filterMap ofItem? := by
  have held (value : Value) (key : String) :
      Client.member key value = (value.under? [key]).getD .null := by
    cases value with
    | object entries => simp [Client.member, Entries.get, Value.under?]
    | _ => rfl
  have reached : Client.member "Directory" (Client.member "MediaContainer" body) =
      (body.under? ["MediaContainer", "Directory"]).getD .null := by
    have path := body.under?_append ["MediaContainer"] ["Directory"]
    rw [List.cons_append, List.nil_append] at path
    rw [held, held, path]
    cases body.under? ["MediaContainer"] <;> rfl
  unfold Client.entriesOf Value.directory
  rw [reached]
  cases body.under? ["MediaContainer", "Directory"] with
  | none => rfl
  | some listed =>
      cases listed with
      | list items =>
          unfold ofEntries
          rw [Option.getD_some, Client.objects, List.filterMap_filterMap]
          apply List.filterMap_congr
          intro item _
          cases item <;> rfl
      | _ => rfl

/-!
## The choice
-/

theorem sectionTypes_ofType (type : Option String) :
    (MediaKind.ofType type).sectionTypes = family type := by
  unfold family
  split
  · rfl
  · rfl
  · rfl
  · rfl
  · rfl
  · rename_i others
    cases type with
    | none => rfl
    | some name =>
        rw [MediaKind.ofType, Option.bind_some]
        cases known : MediaKind.ofName? name with
        | none => rfl
        | some kind =>
            have named : kind.name = name := by
              simpa using List.find?_some known
            subst named
            cases kind <;> simp_all [MediaKind.name, MediaKind.sectionTypes]

/-- Whether an item is a section for a type of filter. -/
def isHome (type : Option String) (item : Value) : Bool :=
  (ofItem? item).any (suits (MediaKind.ofType type))

theorem isHome_iff {type : Option String} {item : Value} :
    isHome type item = true ↔ IsHome type item := by
  simp only [isHome, Option.any_eq_true, ofItem?_eq_some_iff, suits, List.contains_iff_mem,
    sectionTypes_ofType, IsHome]

section Choice

variable {filter : Filter} (unplaced : filter.Unplaced)
include unplaced

theorem choose?_filterMap (items : List Value) :
    choose? filter (items.filterMap ofItem?) =
      ((items.find? (isHome filter.type)).bind ofItem?).map (·.id) := by
  have first (sections : List Section) : choose? filter sections =
      (sections.find? (suits (MediaKind.ofType filter.type))).map (·.id) := by
    unfold choose?
    split
    · rename_i id named
      rw [unplaced id named]
      rfl
    · rfl
  rw [first, List.find?_filterMap]
  rfl

theorem choose?_filterMap_eq_some_iff {items : List Value} {id : String} :
    choose? filter (items.filterMap ofItem?) = some id ↔ FirstHome filter.type items id := by
  rw [choose?_filterMap unplaced, Option.map_eq_some_iff]
  simp only [Option.bind_eq_some_iff, List.find?_eq_some_iff_append, isHome_iff, Bool.not_eq_true',
    ← Bool.not_eq_true, ofItem?_eq_some_iff]
  constructor
  · rintro ⟨described, ⟨item, ⟨⟨other, describes, suitable⟩, before, after, rfl, clean⟩, same⟩, rfl⟩
    have identical : some other = some described :=
      (ofItem?_eq_some_iff.mpr describes).symm.trans (ofItem?_eq_some_iff.mpr same)
    obtain rfl := Option.some.inj identical
    exact ⟨before, item, other, after, rfl, clean, describes, suitable, rfl⟩
  · rintro ⟨before, item, described, after, rfl, clean, describes, suitable, rfl⟩
    exact ⟨described, ⟨item, ⟨⟨described, describes, suitable⟩, before, after, rfl, clean⟩,
      describes⟩, rfl⟩

theorem choose?_filterMap_eq_none_iff {items : List Value} :
    choose? filter (items.filterMap ofItem?) = none ↔
      ∀ item ∈ items, ¬ IsHome filter.type item := by
  rw [choose?_filterMap unplaced, Option.map_eq_none_iff]
  constructor
  · intro homeless item member home
    obtain ⟨found, first⟩ : ∃ found, items.find? (isHome filter.type) = some found :=
      Option.isSome_iff_exists.mp (List.find?_isSome.mpr ⟨item, member, isHome_iff.mpr home⟩)
    obtain ⟨described, describes, -⟩ := isHome_iff.mp (List.find?_some first)
    rw [first, Option.bind_some, ofItem?_eq_some_iff.mpr describes] at homeless
    cases homeless
  · intro homeless
    have missing : items.find? (isHome filter.type) = none := by
      rw [List.find?_eq_none]
      exact fun item member home => homeless item member (isHome_iff.mp home)
    rw [missing, Option.bind_none]

/-- Items that are no section for the filter can stand anywhere. -/
theorem choose?_append_append {before added after : List Value}
    (foreign : ∀ item ∈ added, ¬ IsHome filter.type item) :
    choose? filter ((before ++ added ++ after).filterMap ofItem?) =
      choose? filter ((before ++ after).filterMap ofItem?) := by
  have homeless : added.find? (isHome filter.type) = none := by
    rw [List.find?_eq_none]
    exact fun item member home => foreign item member (isHome_iff.mp home)
  rw [choose?_filterMap unplaced, choose?_filterMap unplaced, List.find?_append, List.find?_append,
    List.find?_append, homeless, Option.or_none]

end Choice

end Section

/-!
## Answers with a directory
-/

/-- The call for the sections is answered with a body, at once or after failures in passing. -/
def Client.Answers (client : Client) (session : Session) (body : Value) : Prop :=
  ∃ failed < maxAttempts, ∃ reason,
    (∀ earlier < failed, (session.server.outcome client.directoryRequest earlier).MayPass) ∧
    session.server.outcome client.directoryRequest failed = .response 200 reason (.ok body)

theorem Client.runIn_sectionEntries_of_answers {client : Client} {session : Session} {body : Value}
    (answers : client.Answers session body) :
    (client.sectionEntries.runIn session).1 = .ok (entriesOf "Directory" body) := by
  obtain ⟨failed, within, reason, passing, answered⟩ := answers
  obtain ⟨last, served⟩ := client.exists_served .sections session
  have settles : Settles (session.server.outcome client.directoryRequest) 4 failed := by
    refine ⟨within, passing, fun _ => ?_⟩
    rw [answered]
    exact (by decide : (200 : Int) ∉ ([429, 500, 502, 503, 504] : List Int))
  obtain rfl := served.settles.unique settles
  have concluded := served.concluded
  have request : Call.sections.request client = client.directoryRequest := rfl
  rw [request, answered] at concluded
  exact concluded

theorem Library.runIn_sections_of_answers {library : Library} {session : Session} {body : Value}
    (answers : library.client.Answers session body) :
    (library.sections.runIn session).1 = .ok (body.directory.filterMap Section.ofItem?) := by
  have listed := Client.runIn_sectionEntries_of_answers answers
  cases ran : library.client.sectionEntries.runIn session with
  | mk result later =>
      rw [ran] at listed
      obtain rfl : result = _ := listed
      rw [sections, Action.runIn_bind_of_ok ran, Action.runIn_pure, Section.ofEntries_entriesOf]

/-- Whatever body the call for the sections is answered with, its sections are those of its directory.
A filter without a place is searched for in the first of them for its type, which has a key, and in
none exactly if there is none. A directory with more items gives the same choice if none of them is a
section for the filter. -/
theorem Library.sections_of_directory {library : Library} {session : Session} {body : Value}
    (answers : library.client.Answers session body) :
    ∃ sections, (library.sections.runIn session).1 = .ok sections ∧
      Section.Lists body.directory sections ∧
      ∀ filter : Filter, filter.Unplaced →
        (∀ id, Section.choose? filter sections = some id ↔
          Section.FirstHome filter.type body.directory id) ∧
        (∀ id, Section.choose? filter sections = some id → id ≠ "") ∧
        (Section.choose? filter sections = none ↔
          ∀ item ∈ body.directory, ¬ Section.IsHome filter.type item) ∧
        ∀ (before added after : List Value) (other : Session) (more : Value),
          body.directory = before ++ after → more.directory = before ++ added ++ after →
          (∀ item ∈ added, ¬ Section.IsHome filter.type item) →
          library.client.Answers other more →
          ∃ others, (library.sections.runIn other).1 = .ok others ∧
            Section.choose? filter others = Section.choose? filter sections := by
  refine ⟨_, runIn_sections_of_answers answers, Section.lists_filterMap _, ?_⟩
  intro filter unplaced
  refine ⟨fun id => Section.choose?_filterMap_eq_some_iff unplaced, ?_,
    Section.choose?_filterMap_eq_none_iff unplaced, ?_⟩
  · intro id chosen
    obtain ⟨_, _, described, _, _, _, describes, _, rfl⟩ :=
      (Section.choose?_filterMap_eq_some_iff unplaced).mp chosen
    exact Section.id_ne_empty_of_describes describes
  · intro before added after other more fewer enlarged foreign answered
    refine ⟨_, runIn_sections_of_answers answered, ?_⟩
    rw [fewer, enlarged]
    exact Section.choose?_append_append unplaced foreign

/-- The key of the only section for movies, which stands behind much that is none, without its
blanks. -/
theorem Library.sections_of_mixed_directory :
    let client : Client := ⟨Client.defaultUrl, "token", Client.defaultTimeout⟩
    let listed : Value := .list [.int 7, .list [],
      .object [("key", .text "1"), ("type", .text "show")],
      .object [("key", .text " "), ("type", .text "movie")],
      .object [("key", .text " 2 "), ("type", .text "movie "), ("title", .null)]]
    let body : Value := .object [("MediaContainer", .object [("Directory", listed)])]
    let session : Session :=
      { now := ⟨⟨2026, 10, 18⟩, 12, 0, 0, 0, some 0⟩
        server := { planned := [.response 503 "Busy" none, .response 200 "OK" (some (.ok body))] } }
    client.Answers session body ∧ Filter.Unplaced {} ∧
      ∃ sections, ((Library.sections { client }).runIn session).1 = .ok sections ∧
        Section.choose? {} sections = some "2" := by
  intro client listed body session
  have answers : client.Answers session body := by
    refine ⟨1, by decide, "OK", ?_, rfl⟩
    intro earlier before
    obtain rfl := Nat.lt_one_iff.mp before
    exact (by decide : (503 : Int) ∈ ([429, 500, 502, 503, 504] : List Int))
  have unplaced : Filter.Unplaced {} := by decide
  obtain ⟨sections, ran, lists, chosen⟩ :=
    @sections_of_directory { client } session body answers
  refine ⟨answers, unplaced, sections, ran, ?_⟩
  have foreign : (body.directory.take 4).all (fun item => !Section.isHome none item) = true := by
    rfl
  have describes : Section.Describes
      (.object [("key", .text " 2 "), ("type", .text "movie "), ("title", .null)])
      ⟨"2", "movie", ""⟩ := Section.ofItem?_eq_some_iff.mp rfl
  refine ((chosen {} unplaced).1 "2").mpr
    ⟨body.directory.take 4, _, _, [], rfl, ?_, describes, List.mem_singleton_self _, rfl⟩
  intro earlier member home
  have away := List.all_eq_true.mp foreign earlier member
  rw [Section.isHome_iff.mpr home] at away
  cases away

end MediaSearch
