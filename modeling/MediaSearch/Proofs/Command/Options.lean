import MediaSearch.Command
import MediaSearch.Proofs.Filter.Written
import MediaSearch.Proofs.Result

/-!
# Options of a structured search

Every option of a structured search stands for one field of a filter. What is set on the command
line reaches its field as it is, zero and the empty text included, and what is not set leaves its
field open.
-/

set_option autoImplicit false

namespace MediaSearch

open Command (OptionKind OptionSpec)

/-- The option that a field is asked for with. -/
def Filter.Field.option : Field → OptionSpec
  | .type => ⟨"type", .choice Vocabulary.mediaTypes, true⟩
  | .minMinutes => ⟨"min_duration", .integer, false⟩
  | .maxMinutes => ⟨"max_duration", .integer, false⟩
  | .addedWithinDays => ⟨"added_within", .integer, false⟩
  | .resolution => ⟨"resolution", .choice Vocabulary.resolutions, false⟩
  | .sort => ⟨"sort", .choice Vocabulary.sortFields, false⟩
  | .sortOrder => ⟨"sort_order", .choice Vocabulary.sortOrders, false⟩
  | .minRating => ⟨"min_rating", .real, false⟩
  | .maxRating => ⟨"max_rating", .real, false⟩
  | .year => ⟨"year", .integer, false⟩
  | .minYear => ⟨"min_year", .integer, false⟩
  | .maxYear => ⟨"max_year", .integer, false⟩
  | .decade => ⟨"decade", .integer, false⟩
  | .limit => ⟨"limit", .integer, false⟩
  | .unwatched => ⟨"unwatched", .flag, false⟩
  | .watched => ⟨"watched", .flag, false⟩
  | .inProgress => ⟨"in_progress", .flag, false⟩
  | field => ⟨field.name, .text, false⟩

namespace Command

open MediaSearch.Filter (Field)

/-- A value is of the kind that an option declares. -/
inductive OptionKind.Holds : OptionKind → Scalar → Prop where
  | flag {value : Bool} : Holds .flag (.bool value)
  | text {value : String} : Holds .text (.text value)
  | integer {value : Int} : Holds .integer (.int value)
  | real {value : Binary64} : Holds .real (.number (.real value))
  | choice {allowed : List String} {word : String} :
      word ∈ allowed → Holds (.choice allowed) (.text word)

/-- The values that an option may have: null unless it is required, and those of its kind. -/
def OptionSpec.Admits (spec : OptionSpec) (value : Scalar) : Prop :=
  (value = .null ∧ spec.required = false) ∨ spec.kind.Holds value

/-- A named value is one for an option. -/
def OptionSpec.Gives (spec : OptionSpec) (named : NamedScalar) : Prop :=
  named.1 = spec.name ∧ spec.Admits named.2

/-- What is asked of a reader of command lines: every option is given a value that it may have, in
the order of the options. -/
def Reader.HonoursOptions (read : Reader) : Prop :=
  ∀ specs mixed words arguments, read specs mixed words = .ok arguments →
    List.Forall₂ OptionSpec.Gives specs arguments.values

/-- Values for the options of a structured search: each is null or of the declared kind, and there
is a type. -/
structure Assigned (values : Field → Scalar) : Prop where
  declared : ∀ field, values field = .null ∨ field.option.kind.Holds (values field)
  typed : values .type ≠ .null

/-- The options of a structured search with their values, in the order of the options. -/
def assignment (values : Field → Scalar) : List NamedScalar :=
  Field.all.map fun field => (field.option.name, values field)

/-- What an option is set to. A flag that is off is not set. -/
def setting? : Scalar → Option Scalar
  | .null | .bool false => none
  | value => some value

theorem setting?_eq_some_iff {value set : Scalar} :
    setting? value = some set ↔ isSet value = true ∧ value = set := by
  cases value with
  | bool flag => cases flag <;> simp [setting?, isSet]
  | _ => simp [setting?, isSet]

theorem map_option_all : Field.all.map Field.option = advancedOptions := by
  rfl

/-!
## From options to fields
-/

theorem fieldOfKey?_keyOf_option (field : Field) :
    Filter.fieldOfKey? (Filter.keyOf field.option.name) = some field := by
  cases field <;> rfl

/-- A field admits what its option declares. Only the identifier of a section would be changed by
being admitted, if it were an integer. -/
theorem OptionKind.Holds.admitted? {field : Field} {value : Scalar}
    (holds : field.option.kind.Holds value) : field.admitted? value.toValue = some value := by
  cases field
  case type | resolution | sort | sortOrder =>
    cases holds with
    | choice allowed => simp [Field.admitted?, Field.kind, Field.choices?, Scalar.toValue, allowed]
  case sectionId | title | genre | contentRating | director | actor | studio =>
    cases holds
    simp [Field.admitted?, Field.kind, Field.choices?, Scalar.toValue]
  all_goals
    cases holds
    rfl

theorem Assigned.holds_of_setting? {values : Field → Scalar} (assigned : Assigned values)
    {field : Field} {set : Scalar} (asked : setting? (values field) = some set) :
    field.option.kind.Holds set := by
  obtain ⟨given, rfl⟩ := setting?_eq_some_iff.mp asked
  rcases assigned.declared field with null | holds
  · rw [null] at given
    cases given
  · exact holds

theorem Assigned.setting?_type {values : Field → Scalar} (assigned : Assigned values) :
    (setting? (values .type)).isSome = true := by
  rcases assigned.declared .type with null | holds
  · exact absurd null assigned.typed
  · generalize values .type = value at holds
    cases holds
    rfl

theorem mem_filterOf_assignment {values : Field → Scalar} {entry : String × Value} :
    entry ∈ filterOf (assignment values) ↔ ∃ field set, setting? (values field) = some set ∧
      entry = (Filter.keyOf field.option.name, set.toValue) := by
  constructor
  · intro member
    obtain ⟨named, kept, rfl⟩ := List.mem_map.mp member
    obtain ⟨present, given⟩ := List.mem_filter.mp kept
    obtain ⟨field, -, rfl⟩ := List.mem_map.mp present
    exact ⟨field, values field, setting?_eq_some_iff.mpr ⟨given, rfl⟩, rfl⟩
  · rintro ⟨field, set, asked, rfl⟩
    obtain ⟨given, rfl⟩ := setting?_eq_some_iff.mp asked
    have present : (field.option.name, values field) ∈ assignment values :=
      List.mem_map.mpr ⟨field, field.mem_all, rfl⟩
    exact List.mem_map.mpr ⟨_, List.mem_filter.mpr ⟨present, given⟩, rfl⟩

theorem writes_filterOf {values : Field → Scalar} (assigned : Assigned values) :
    Filter.Writes (filterOf (assignment values)) (fun field => Filter.keyOf field.option.name)
      (fun field => setting? (values field)) where
  known := fieldOfKey?_keyOf_option
  admitted := fun _ _ asked => (assigned.holds_of_setting? asked).admitted?
  mem_iff := fun _ => mem_filterOf_assignment

/-!
## From words to options
-/

theorem holds_of_valueOf? {kind : OptionKind} {word : String} {value : Scalar}
    (read : valueOf? kind word = some value) : kind.Holds value := by
  cases kind with
  | flag =>
      cases read
      exact .flag
  | text =>
      cases read
      exact .text
  | integer =>
      obtain ⟨number, -, rfl⟩ := Option.map_eq_some_iff.mp read
      exact .integer
  | real =>
      obtain ⟨number, -, rfl⟩ := Option.map_eq_some_iff.mp read
      exact .real
  | choice allowed =>
      obtain ⟨member, same⟩ := Option.ite_none_right_eq_some.mp read
      cases same
      exact .choice member

/-- What is read for an option is null, which a required option never is, or of its kind. -/
theorem admits_of_optionValue {written : Written} {spec : OptionSpec} {value : Scalar}
    (read : optionValue written spec = .ok value) : spec.Admits value := by
  unfold optionValue at read
  split at read
  · split at read
    · cases read
    · rename_i free
      cases read
      exact .inl ⟨rfl, by simpa using free⟩
  · split at read
    · rename_i _ understood
      cases read
      exact .inr (holds_of_valueOf? understood)
    · cases read

theorem forall₂_gives_of_optionValues {written : Written} {specs : List OptionSpec}
    {values : List NamedScalar} (read : optionValues written specs = .ok values) :
    List.Forall₂ OptionSpec.Gives specs values := by
  induction specs generalizing values with
  | nil =>
      cases read
      exact .nil
  | cons spec specs ih =>
      obtain ⟨value, first, others⟩ := Result.bind_eq_ok_iff.mp read
      obtain ⟨rest, remaining, last⟩ := Result.bind_eq_ok_iff.mp others
      obtain rfl := Result.pure_eq_ok_iff.mp last
      exact .cons ⟨rfl, admits_of_optionValue first⟩ (ih remaining)

theorem readWords_honoursOptions : readWords.HonoursOptions := by
  intro specs mixed words arguments read
  obtain ⟨written, -, rest⟩ := Result.bind_eq_ok_iff.mp read
  obtain ⟨values, found, last⟩ := Result.bind_eq_ok_iff.mp rest
  obtain rfl := Result.pure_eq_ok_iff.mp last
  exact forall₂_gives_of_optionValues found

/-- The value under the name of an option, null if there is none. -/
def valueUnder (values : List NamedScalar) (spec : OptionSpec) : Scalar :=
  (values.lookup spec.name).getD .null

/-- Where no two options share a name, what they are given is found again by their names. -/
theorem eq_map_valueUnder {specs : List OptionSpec} {values : List NamedScalar}
    (distinct : (specs.map (·.name)).Nodup) (gives : List.Forall₂ OptionSpec.Gives specs values) :
    (∀ spec ∈ specs, spec.Admits (valueUnder values spec)) ∧
      values = specs.map fun spec => (spec.name, valueUnder values spec) := by
  induction gives with
  | nil => exact ⟨fun _ absent => absurd absent List.not_mem_nil, rfl⟩
  | @cons spec named specs values here _ ih =>
      obtain ⟨fresh, distinct⟩ := List.nodup_cons.mp distinct
      obtain ⟨each, same⟩ := ih distinct
      obtain ⟨name, value⟩ := named
      obtain ⟨rfl, admits⟩ : name = spec.name ∧ spec.Admits value := here
      have first : valueUnder ((spec.name, value) :: values) spec = value := by
        rw [valueUnder, List.lookup_cons_self]
        rfl
      have later : ∀ other ∈ specs,
          valueUnder ((spec.name, value) :: values) other = valueUnder values other := by
        intro other member
        have different : (other.name == spec.name) = false :=
          beq_false_of_ne fun equal => fresh (List.mem_map.mpr ⟨other, member, equal⟩)
        simp only [valueUnder, List.lookup_cons, different]
      constructor
      · intro other member
        cases member with
        | head =>
            rw [first]
            exact admits
        | tail _ member =>
            rw [later other member]
            exact each other member
      · rw [List.map_cons, first,
          List.map_congr_left fun other member => by rw [later other member], ← same]

theorem nodup_optionNames (command : Name) : (command.options.map (·.name)).Nodup := by
  cases command <;> decide +kernel

theorem assigned_of_ofWords {read : Reader} (honours : read.HonoursOptions) {words : List String}
    {command : Command} (understood : ofWords read .advanced words = .ok command) :
    ∃ values, Assigned values ∧ command = .advanced (filterOf (assignment values)) := by
  obtain ⟨arguments, found, rest⟩ := Result.bind_eq_ok_iff.mp understood
  obtain ⟨-, -, last⟩ := Result.bind_eq_ok_iff.mp rest
  obtain rfl := Result.pure_eq_ok_iff.mp last
  obtain ⟨admits, same⟩ :=
    eq_map_valueUnder (nodup_optionNames .advanced) (honours _ _ _ _ found)
  rw [Name.options, ← map_option_all, List.map_map] at same
  have each : ∀ field : Field, field.option.Admits (valueUnder arguments.values field.option) := by
    intro field
    refine admits _ ?_
    rw [Name.options, ← map_option_all]
    exact List.mem_map_of_mem field.mem_all
  refine ⟨fun field => valueUnder arguments.values field.option, ⟨?_, ?_⟩, ?_⟩
  · exact fun field => (each field).imp_left And.left
  · intro null
    rcases each .type with ⟨-, free⟩ | holds
    · cases free
    · rw [null] at holds
      cases holds
  · exact congrArg (fun values => Command.advanced (filterOf values)) same

/-- A structured search loses no option. Its options are those of the fields; whatever they are set
to, the filter that they make is accepted and holds in each field what its option is set to, but for
the defaults of fields that are open; and words that are understood set the options so, whoever reads
them, if options are honoured. -/
theorem structured_options_reach_fields :
    advancedOptions = Field.all.map Field.option ∧
    (∀ (values : Field → Scalar) (key : String), Assigned values →
      ∃ filter, Filter.ofValue key (.object (filterOf (assignment values))) = .ok filter ∧
        ∀ field, filter.get field =
          (setting? (values field)).or (Filter.structuredDefault? field)) ∧
    ∀ read : Reader, read.HonoursOptions →
      ∀ words command, ofWords read .advanced words = .ok command →
        ∃ values, Assigned values ∧ command = .advanced (filterOf (assignment values)) := by
  refine ⟨map_option_all.symm, ?_, fun read honours words command => assigned_of_ofWords honours⟩
  intro values key assigned
  exact (writes_filterOf assigned).exists_ofValue assigned.setting?_type key

/-- An assignment with all that is easily lost: zeros, an empty text and a flag that is off. -/
def emptyHanded : Field → Scalar
  | .type => .text "movie"
  | .title => .text ""
  | .year => .int 0
  | .minRating => .number (.real (Binary64.zero false))
  | .unwatched => .bool false
  | .watched => .bool true
  | .limit => .int 0
  | _ => .null

def emptyHandedWords : List String :=
  ["--type", "movie", "--title", "", "--year=0", "--min-rating", "0", "--watched", "--limit", "0"]

theorem emptyHanded_reaches_fields :
    Assigned emptyHanded ∧
      (∃ filter, Filter.ofValue "filter" (.object (filterOf (assignment emptyHanded))) = .ok filter ∧
        filter.get .title = some (.text "") ∧ filter.get .year = some (.int 0) ∧
        filter.get .minRating = some (.number (.real (Binary64.zero false))) ∧
        filter.get .unwatched = none ∧ filter.get .watched = some (.bool true) ∧
        filter.get .limit = some (.int 0) ∧ filter.get .sortOrder = some (.text "desc")) ∧
      readWords.HonoursOptions ∧
      ofWords readWords .advanced emptyHandedWords =
        .ok (.advanced (filterOf (assignment emptyHanded))) ∧
      ∃ values, Assigned values ∧
        filterOf (assignment emptyHanded) = filterOf (assignment values) := by
  have assigned : Assigned emptyHanded := by
    constructor
    · intro field
      cases field
      case type => exact .inr (.choice (by decide))
      case title => exact .inr .text
      case year | limit => exact .inr .integer
      case minRating => exact .inr .real
      case unwatched | watched => exact .inr .flag
      all_goals exact .inl rfl
    · exact Scalar.noConfusion
  obtain ⟨-, reaches, reads⟩ := structured_options_reach_fields
  obtain ⟨filter, read, holds⟩ := reaches emptyHanded "filter" assigned
  have understood : ofWords readWords .advanced emptyHandedWords =
      .ok (.advanced (filterOf (assignment emptyHanded))) := rfl
  obtain ⟨values, others, same⟩ := reads readWords readWords_honoursOptions _ _ understood
  exact ⟨assigned, ⟨filter, read, holds _, holds _, holds _, holds _, holds _, holds _, holds _⟩,
    readWords_honoursOptions, understood, values, others, Command.advanced.inj same⟩

end Command

end MediaSearch
