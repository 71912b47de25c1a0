import MediaSearch.Proofs.Filter.Admission
import MediaSearch.Proofs.Result

/-!
# Which structured filters are accepted

An object is accepted as a structured filter if all of its keys are known, every field admits what
its entries give, and a type is given. The last entry that gives a field something counts, so the
order of the entries matters only among the keys of one field, and nulls do not matter at all.
Everything else is refused, for the first of a fixed list of reasons that applies.
-/

set_option autoImplicit false

namespace MediaSearch

def Value.isNull : Value → Bool
  | .null => true
  | _ => false

namespace Filter

/-!
## Entries and what they give
-/

/-- The entries that give something to a field: those under its keys, but for nulls. -/
def given (entries : Entries) (field : Field) : Entries :=
  entries.filter fun entry => fieldOfKey? entry.1 == some field && !entry.2.isNull

/-- What a field holds by the last entry that gives something to it. -/
def lastGiven? (entries : Entries) (field : Field) : Option Scalar :=
  (given entries field).getLast?.bind fun entry => field.admitted? entry.2

/-- What a field holds if no entry gives anything to it. -/
def structuredDefault? : Field → Option Scalar
  | .sortOrder => some (.text "desc")
  | .limit => some (.int 25)
  | _ => none

def Known (entries : Entries) : Prop :=
  ∀ entry ∈ entries, (fieldOfKey? entry.1).isSome = true

/-- What the entries give is admitted by the fields that they give it to. -/
def Admitted (entries : Entries) : Prop :=
  ∀ field, ∀ entry ∈ given entries field, (field.admitted? entry.2).isSome = true

/-- An object with these entries is accepted as a structured filter. -/
structure Acceptable (entries : Entries) : Prop where
  known : Known entries
  admitted : Admitted entries
  typed : ∃ value, ("type", value) ∈ entries ∧ value.isNull = false

/-- What an object is read as. The reasons for which it is refused come in this order: what is read
is no object; some keys are unknown; an entry is not admitted, the first in the order of the
entries; the type is missing. -/
inductive Reading (key : String) : Value → Except StructureError Filter → Prop where
  | noObject {value : Value} :
      (∀ entries, value ≠ .object entries) →
      Reading key value (.error (.value (.wrongKind key .object)))
  | unknown {entries : Entries} {names : List String} :
      names ≠ [] →
      names.Perm ((entries.map (·.1)).filter fun name => (fieldOfKey? name).isNone) →
      names.Pairwise (· ≤ ·) →
      Reading key (.object entries) (.error (.unknownFields key names))
  | refused {before after : Entries} {name : String} {value : Value} {field : Field} :
      Known (before ++ (name, value) :: after) → Admitted before →
      fieldOfKey? name = some field → value.isNull = false → field.admitted? value = none →
      Reading key (.object (before ++ (name, value) :: after))
        (.error (.value (field.complaint (key ++ "." ++ name) value)))
  | untyped {entries : Entries} :
      Known entries → Admitted entries →
      (∀ value, ("type", value) ∈ entries → value.isNull = true) →
      Reading key (.object entries) (.error (.missingType key))
  | accepted {entries : Entries} {filter : Filter} :
      Acceptable entries →
      (∀ field, filter.get field = (lastGiven? entries field).or (structuredDefault? field)) →
      Reading key (.object entries) (.ok filter)

theorem mem_given {entries : Entries} {field : Field} {entry : String × Value} :
    entry ∈ given entries field ↔
      entry ∈ entries ∧ fieldOfKey? entry.1 = some field ∧ entry.2.isNull = false := by
  simp [given, List.mem_filter]

theorem isNull_of_admitted? {field : Field} {value : Value} {scalar : Scalar}
    (admitted : field.admitted? value = some scalar) : value.isNull = false := by
  cases value with
  | null => cases admitted
  | _ => rfl

theorem given_append (first second : Entries) (field : Field) :
    given (first ++ second) field = given first field ++ given second field :=
  List.filter_append _ _

theorem admitted_append_iff {first second : Entries} :
    Admitted (first ++ second) ↔ Admitted first ∧ Admitted second := by
  simp only [Admitted, given_append, List.mem_append, or_imp, forall_and]

theorem admitted_singleton_iff {name : String} {value : Value} {field : Field}
    (named : fieldOfKey? name = some field) :
    Admitted [(name, value)] ↔
      (value.isNull = false → (field.admitted? value).isSome = true) := by
  constructor
  · intro admitted filled
    exact admitted field (name, value) (mem_given.mpr ⟨.head _, named, filled⟩)
  · intro held other entry member
    obtain ⟨present, otherNamed, filled⟩ := mem_given.mp member
    obtain rfl := List.mem_singleton.mp present
    obtain rfl := Option.some.inj (named.symm.trans otherNamed)
    exact held filled

theorem lastGiven?_append {first second : Entries} (admitted : Admitted second) (field : Field) :
    lastGiven? (first ++ second) field =
      (lastGiven? second field).or (lastGiven? first field) := by
  unfold lastGiven?
  rw [given_append, List.getLast?_append]
  cases last : (given second field).getLast? with
  | none => rfl
  | some entry =>
      have held := admitted field entry (List.mem_of_getLast? last)
      obtain ⟨scalar, held⟩ := Option.isSome_iff_exists.mp held
      simp [held]

theorem lastGiven?_isSome_iff {entries : Entries} (admitted : Admitted entries) (field : Field) :
    (lastGiven? entries field).isSome = true ↔
      ∃ entry ∈ entries, fieldOfKey? entry.1 = some field ∧ entry.2.isNull = false := by
  constructor
  · intro held
    obtain ⟨scalar, held⟩ := Option.isSome_iff_exists.mp held
    obtain ⟨entry, last, _⟩ := Option.bind_eq_some_iff.mp held
    exact ⟨entry, mem_given.mp (List.mem_of_getLast? last)⟩
  · rintro ⟨entry, present⟩
    have member := mem_given.mpr present
    cases last : (given entries field).getLast? with
    | none =>
        rw [List.getLast?_eq_none_iff.mp last] at member
        exact absurd member List.not_mem_nil
    | some final =>
        rw [lastGiven?, last]
        exact admitted field final (List.mem_of_getLast? last)

theorem mem_structuredKeys_of_fieldOfKey? {name : String} {field : Field}
    (named : fieldOfKey? name = some field) : (name, field) ∈ structuredKeys := by
  obtain ⟨before, after, split, _⟩ := List.lookup_eq_some_iff.mp named
  rw [split]
  simp

theorem eq_type_of_fieldOfKey? {name : String} (named : fieldOfKey? name = some .type) :
    name = "type" := by
  simpa [structuredKeys] using mem_structuredKeys_of_fieldOfKey? named

theorem lastGiven?_type_isSome_iff {entries : Entries} (admitted : Admitted entries) :
    (lastGiven? entries .type).isSome = true ↔
      ∃ value, ("type", value) ∈ entries ∧ value.isNull = false := by
  rw [lastGiven?_isSome_iff admitted]
  constructor
  · rintro ⟨⟨name, value⟩, member, named, filled⟩
    obtain rfl := eq_type_of_fieldOfKey? named
    exact ⟨value, member, filled⟩
  · rintro ⟨value, member, filled⟩
    exact ⟨("type", value), member, rfl, filled⟩

/-!
## Assignments
-/

theorem assignments_cons_eq {key name : String} {value : Value} {field : Field}
    (named : fieldOfKey? name = some field) (filled : value.isNull = false) (rest : Entries) :
    assignments key ((name, value) :: rest) =
      match field.admitted? value with
      | some scalar => (assignments key rest).map ((field, scalar) :: ·)
      | none => .error (field.complaint (key ++ "." ++ name) value) := by
  rw [assignments, named]
  · dsimp only
    rw [checkField_eq]
    cases field.admitted? value <;> rfl
  · rintro rfl
    cases filled

/-- Entries that are admitted assign what they give and hand over to the entries behind them. -/
theorem exists_assigned (key : String) {before : Entries} (known : Known before)
    (admitted : Admitted before) :
    ∃ assigned, (∀ rest, assignments key (before ++ rest) =
        (assignments key rest).map (assigned ++ ·)) ∧
      (∀ assignment ∈ assigned, assignment.1.Takes assignment.2) ∧
      ∀ field, assigned.reverse.lookup field = lastGiven? before field := by
  induction before with
  | nil =>
      refine ⟨[], fun rest => ?_, by simp, fun field => rfl⟩
      cases accepted : assignments key rest <;> simp [Except.map, accepted]
  | cons entry before ih =>
      obtain ⟨name, value⟩ := entry
      have whole : Admitted ([(name, value)] ++ before) := admitted
      obtain ⟨hereAdmitted, laterAdmitted⟩ := admitted_append_iff.mp whole
      obtain ⟨assigned, continues, taken, tells⟩ :=
        ih (fun later member => known later (.tail _ member)) laterAdmitted
      obtain ⟨field, named⟩ := Option.isSome_iff_exists.mp (known _ (.head _))
      have split : ∀ other, lastGiven? ([(name, value)] ++ before) other =
          (lastGiven? before other).or (lastGiven? [(name, value)] other) :=
        lastGiven?_append laterAdmitted
      rw [List.singleton_append] at split
      -- A null gives nothing and is passed over; all else is assigned in front of the rest.
      cases null : value.isNull with
      | true =>
          cases value with
          | null =>
              refine ⟨assigned, fun rest => ?_, taken, fun other => ?_⟩
              · rw [List.cons_append, assignments, continues]
              · rw [tells]
                have nothing : lastGiven? [(name, .null)] other = none := by
                  simp [lastGiven?, given, Value.isNull]
                rw [split, nothing, Option.or_none]
          | _ => cases null
      | false =>
          have held := (admitted_singleton_iff named).mp hereAdmitted null
          obtain ⟨scalar, held⟩ := Option.isSome_iff_exists.mp held
          refine ⟨(field, scalar) :: assigned, fun rest => ?_, ?_, fun other => ?_⟩
          · rw [List.cons_append, assignments_cons_eq named null, held, continues]
            cases assignments key rest <;> rfl
          · intro assignment member
            rcases List.mem_cons.mp member with rfl | later
            · exact Field.takes_of_admitted? held
            · exact taken assignment later
          · have here : lastGiven? [(name, value)] other = [(field, scalar)].lookup other := by
              by_cases same : other = field
              · subst same
                simp [lastGiven?, given, named, null, held]
              · have different : field ≠ other := fun same' => same same'.symm
                simp [lastGiven?, given, named, different, List.lookup_cons, beq_false_of_ne same]
            rw [split, here, List.reverse_cons, List.lookup_append, tells]

/-!
## Readings
-/

/-- What a structured filter takes for a sort order and a page size that are not given. -/
def withStructuredDefaults (filter : Filter) : Filter :=
  { filter with
    sortOrder := filter.sortOrder.or (some Vocabulary.structuredSortOrder)
    limit := filter.limit.or (some Vocabulary.defaultLimit) }

theorem get_withStructuredDefaults (filter : Filter) (field : Field) :
    filter.withStructuredDefaults.get field = (filter.get field).or (structuredDefault? field) := by
  cases field
  case sortOrder => cases held : filter.sortOrder <;> simp [withStructuredDefaults, get, held,
    structuredDefault?, Vocabulary.structuredSortOrder]
  case limit => cases held : filter.limit <;> simp [withStructuredDefaults, get, held,
    structuredDefault?, Vocabulary.defaultLimit]
  all_goals simp [withStructuredDefaults, get, structuredDefault?]

theorem unknownKeys_eq_nil {entries : Entries} (known : Known entries) :
    unknownKeys entries = [] := by
  have kept : (entries.map (·.1)).filter (fun name => (fieldOfKey? name).isNone) = [] := by
    rw [List.filter_eq_nil_iff]
    intro name member
    obtain ⟨entry, present, rfl⟩ := List.mem_map.mp member
    rw [Option.isNone_iff_eq_none]
    exact Option.isSome_iff_ne_none.mp (known entry present)
  rw [unknownKeys, kept, List.mergeSort_nil]

theorem unknownKeys_eq_iff {entries : Entries} {names : List String} :
    unknownKeys entries = names ↔
      names.Perm ((entries.map (·.1)).filter fun name => (fieldOfKey? name).isNone) ∧
        names.Pairwise (· ≤ ·) := by
  have permuted : (unknownKeys entries).Perm
      ((entries.map (·.1)).filter fun name => (fieldOfKey? name).isNone) :=
    List.mergeSort_perm _ _
  have inOrder (left right : String) : (!decide (right < left)) = true ↔ left ≤ right := by
    rw [Bool.not_eq_true', decide_eq_false_iff_not, String.not_lt]
  have sorted : (unknownKeys entries).Pairwise (· ≤ ·) := by
    refine (List.pairwise_mergeSort ?_ ?_ _).imp (inOrder _ _).mp
    · intro first second third
      rw [inOrder, inOrder, inOrder]
      exact String.le_trans
    · intro left right
      rw [Bool.or_eq_true, inOrder, inOrder]
      exact String.le_total left right
  constructor
  · rintro rfl
    exact ⟨permuted, sorted⟩
  · rintro ⟨otherPermuted, otherSorted⟩
    exact (permuted.trans otherPermuted.symm).eq_of_pairwise
      (fun _ _ _ _ => String.le_antisymm) sorted otherSorted

theorem ofValue_of_known (key : String) {entries : Entries} (known : Known entries) :
    ofValue key (.object entries) =
      match assignments key entries with
      | .error error => .error (.value error)
      | .ok assigned =>
          if (ofAssignments assigned).type.isNone then .error (.missingType key)
          else .ok (ofAssignments assigned).withStructuredDefaults := by
  have allKnown : unknownKeys entries = [] := unknownKeys_eq_nil known
  simp only [ofValue, Value.expectObject, Result.mapError_ok, bind, Except.bind, allKnown]
  cases assignments key entries with
  | error error => rfl
  | ok assigned =>
      cases (ofAssignments assigned).type <;> rfl

theorem ofValue_of_unknown (key : String) {entries : Entries} (unknown : unknownKeys entries ≠ []) :
    ofValue key (.object entries) = .error (.unknownFields key (unknownKeys entries)) := by
  have someUnknown : (unknownKeys entries).isEmpty = false := by simpa using unknown
  simp only [ofValue, Value.expectObject, Result.mapError_ok, bind, Except.bind, someUnknown]
  rfl

/-- If all entries are admitted, a filter with the last things that they give is read, or its type is
missing. -/
theorem exists_ofValue_of_admitted (key : String) {entries : Entries} (known : Known entries)
    (admitted : Admitted entries) :
    ∃ filter : Filter, (∀ field, filter.get field = lastGiven? entries field) ∧
      ofValue key (.object entries) =
        if filter.type.isNone then .error (.missingType key)
        else .ok filter.withStructuredDefaults := by
  obtain ⟨assigned, continues, taken, tells⟩ := exists_assigned key known admitted
  have accepted : assignments key entries = .ok assigned := by
    have whole := continues []
    rw [List.append_nil] at whole
    rw [whole]
    simp [assignments, Except.map]
  refine ⟨ofAssignments assigned, fun field => ?_, ?_⟩
  · rw [get_ofAssignments taken, tells]
  · rw [ofValue_of_known key known, accepted]

theorem type_isNone_iff {entries : Entries} (admitted : Admitted entries) {filter : Filter}
    (holds : ∀ field, filter.get field = lastGiven? entries field) :
    filter.type.isNone = true ↔ ∀ value, ("type", value) ∈ entries → value.isNull = true := by
  have given := lastGiven?_type_isSome_iff admitted
  rw [← holds .type] at given
  have same : (filter.get .type).isSome = filter.type.isSome := Option.isSome_map
  rw [same] at given
  rw [← Option.not_isSome, Bool.not_eq_true', ← Bool.not_eq_true, given]
  simp

theorem ofValue_of_reading {key : String} {value : Value} {result : Except StructureError Filter}
    (reading : Reading key value result) : ofValue key value = result := by
  cases reading with
  | noObject foreign =>
      cases value with
      | object entries => exact absurd rfl (foreign entries)
      | _ => rfl
  | unknown nonempty permuted sorted =>
      have names := unknownKeys_eq_iff.mpr ⟨permuted, sorted⟩
      rw [ofValue_of_unknown key (names ▸ nonempty), names]
  | refused known admitted named filled refused =>
      obtain ⟨assigned, continues, _, _⟩ :=
        exists_assigned key (fun entry member => known entry (List.mem_append_left _ member)) admitted
      rw [ofValue_of_known key known, continues, assignments_cons_eq named filled, refused]
      rfl
  | untyped known admitted missing =>
      obtain ⟨filter, holds, read⟩ := exists_ofValue_of_admitted key known admitted
      rw [read, if_pos ((type_isNone_iff admitted holds).mpr missing)]
  | @accepted entries filter acceptable holds =>
      obtain ⟨found, held, read⟩ :=
        exists_ofValue_of_admitted key acceptable.known acceptable.admitted
      have typed : ¬ found.type.isNone = true := by
        rw [type_isNone_iff acceptable.admitted held]
        obtain ⟨value, member, filled⟩ := acceptable.typed
        intro missing
        simp [missing value member] at filled
      have same : found.withStructuredDefaults = filter := by
        apply ext_get
        intro field
        rw [get_withStructuredDefaults, held, holds]
      rw [read, if_neg typed, same]

theorem admitted_or_exists_refused {entries : Entries} (known : Known entries) :
    Admitted entries ∨ ∃ before name value after field, entries = before ++ (name, value) :: after ∧
      Admitted before ∧ fieldOfKey? name = some field ∧ value.isNull = false ∧
      field.admitted? value = none := by
  induction entries with
  | nil => exact .inl fun field entry member => absurd member List.not_mem_nil
  | cons entry rest ih =>
      obtain ⟨name, value⟩ := entry
      obtain ⟨field, named⟩ := Option.isSome_iff_exists.mp (known _ (.head _))
      by_cases here : Admitted [(name, value)]
      · rcases ih fun later member => known later (.tail _ member) with
          admitted | ⟨before, other, refused, after, place, rfl, admitted, found⟩
        · exact .inl (admitted_append_iff.mpr ⟨here, admitted⟩)
        · refine .inr ⟨(name, value) :: before, other, refused, after, place, rfl, ?_, found⟩
          have whole : Admitted ([(name, value)] ++ before) :=
            admitted_append_iff.mpr ⟨here, admitted⟩
          exact whole
      · rw [admitted_singleton_iff named] at here
        refine .inr ⟨[], name, value, rest, field, rfl, ?_, named, ?_⟩
        · exact fun field entry member => absurd member List.not_mem_nil
        · simpa using here

theorem known_of_unknownKeys_eq_nil {entries : Entries} (allKnown : unknownKeys entries = []) :
    Known entries := by
  obtain ⟨permuted, -⟩ := unknownKeys_eq_iff.mp allKnown
  intro entry member
  have kept := List.filter_eq_nil_iff.mp permuted.nil_eq.symm
  have found := kept entry.1 (List.mem_map_of_mem member)
  rwa [Option.isNone_iff_eq_none, ← ne_eq, ← Option.isSome_iff_ne_none] at found

theorem exists_reading (key : String) (value : Value) : ∃ result, Reading key value result := by
  by_cases object : ∃ entries, value = .object entries
  · obtain ⟨entries, rfl⟩ := object
    by_cases unknown : unknownKeys entries = []
    · have known := known_of_unknownKeys_eq_nil unknown
      rcases admitted_or_exists_refused known with
        admitted | ⟨before, name, value, after, field, rfl, admitted, named, filled, refused⟩
      · by_cases missing : ∀ value, ("type", value) ∈ entries → value.isNull = true
        · exact ⟨_, .untyped known admitted missing⟩
        · obtain ⟨filter, holds, _⟩ := exists_ofValue_of_admitted key known admitted
          have typed : ∃ value, ("type", value) ∈ entries ∧ value.isNull = false := by
            simpa using missing
          refine ⟨.ok filter.withStructuredDefaults, .accepted ⟨known, admitted, typed⟩ ?_⟩
          intro field
          rw [get_withStructuredDefaults, holds]
      · exact ⟨_, .refused known admitted named filled refused⟩
    · obtain ⟨permuted, sorted⟩ := unknownKeys_eq_iff.mp (rfl : unknownKeys entries = _)
      exact ⟨_, .unknown unknown permuted sorted⟩
  · exact ⟨_, .noObject fun entries same => object ⟨entries, same⟩⟩

/-- An object is read in exactly one way, and that is what it is taken for. -/
theorem ofValue_eq_iff_reading {key : String} {value : Value}
    {result : Except StructureError Filter} :
    ofValue key value = result ↔ Reading key value result := by
  constructor
  · rintro rfl
    obtain ⟨result, reading⟩ := exists_reading key value
    rwa [ofValue_of_reading reading]
  · exact ofValue_of_reading

theorem exists_ofValue_eq_ok_iff {key : String} {value : Value} :
    (∃ filter, ofValue key value = .ok filter) ↔
      ∃ entries, value = .object entries ∧ Acceptable entries := by
  constructor
  · rintro ⟨filter, read⟩
    cases ofValue_eq_iff_reading.mp read with
    | accepted acceptable holds => exact ⟨_, rfl, acceptable⟩
  · rintro ⟨entries, rfl, acceptable⟩
    obtain ⟨filter, holds, _⟩ :=
      exists_ofValue_of_admitted key acceptable.known acceptable.admitted
    refine ⟨filter.withStructuredDefaults, ofValue_of_reading (.accepted acceptable fun field => ?_)⟩
    rw [get_withStructuredDefaults, holds]

/-!
## Other entries that are read alike
-/

theorem ofValue_congr {key : String} {entries other : Entries} {filter : Filter}
    (read : ofValue key (.object entries) = .ok filter) (known : Known other)
    (same : ∀ field, given other field = given entries field) :
    ofValue key (.object other) = .ok filter := by
  cases ofValue_eq_iff_reading.mp read with
  | accepted acceptable holds =>
      apply ofValue_of_reading
      refine .accepted ⟨known, fun field => ?_, ?_⟩ fun field => ?_
      · rw [same]
        exact acceptable.admitted field
      · obtain ⟨value, member, filled⟩ := acceptable.typed
        have typed : ("type", value) ∈ given other .type := by
          rw [same]
          exact mem_given.mpr ⟨member, rfl, filled⟩
        exact ⟨value, (mem_given.mp typed).1, filled⟩
      · rw [holds, lastGiven?, lastGiven?, same]

theorem given_filter {entries : Entries} {keeps : String × Value → Bool}
    (dropped : ∀ entry ∈ entries, keeps entry = false → entry.2.isNull = true) (field : Field) :
    given (entries.filter keeps) field = given entries field := by
  unfold given
  rw [List.filter_filter]
  apply List.filter_congr
  intro entry member
  cases kept : keeps entry with
  | true => rw [Bool.and_true]
  | false => simp [dropped entry member kept]

/-- Every value is read as `Reading` says, so that exactly the acceptable objects are accepted. What
is read does not change with nulls that are left out, nor with another order of the entries in which
those that give something to one field stand as before. -/
theorem ofValue_reads_acceptable (key : String) :
    (∀ value result, ofValue key value = result ↔ Reading key value result) ∧
    (∀ value, (∃ filter, ofValue key value = .ok filter) ↔
      ∃ entries, value = .object entries ∧ Acceptable entries) ∧
    (∀ (field : Field) path value,
      ∃ demand, (field.complaint path value).message = path ++ " must be " ++ demand) ∧
    ∀ entries filter, ofValue key (.object entries) = .ok filter →
      (∀ keeps : String × Value → Bool,
        (∀ entry ∈ entries, keeps entry = false → entry.2.isNull = true) →
        ofValue key (.object (entries.filter keeps)) = .ok filter) ∧
      ∀ reordered : Entries, reordered.Perm entries →
        (∀ field, given reordered field = given entries field) →
        ofValue key (.object reordered) = .ok filter := by
  refine ⟨fun _ _ => ofValue_eq_iff_reading, fun _ => exists_ofValue_eq_ok_iff,
    Field.exists_message_complaint, fun entries filter read => ?_⟩
  have known : Known entries := by
    cases ofValue_eq_iff_reading.mp read with
    | accepted acceptable holds => exact acceptable.known
  constructor
  · intro keeps dropped
    refine ofValue_congr read (fun entry member => ?_) (given_filter dropped)
    exact known entry (List.mem_of_mem_filter member)
  · intro reordered permuted same
    exact ofValue_congr read (fun entry member => known entry (permuted.mem_iff.mp member)) same

/-- Entries that name one field twice. -/
def entriesForLength : Entries :=
  [("minDuration", .int 90), ("type", .text "show"), ("minDurationMinutes", .int 45)]

def entriesForPlace : Entries :=
  [("genre", .null), ("sectionId", .int 4), ("limit", .null), ("unwatched", .bool false)]

def wishForShorter : Filter where
  type := some "show"
  sectionId := some "4"
  unwatched := some false
  minMinutes := some (.int 45)
  sortOrder := some "desc"
  limit := some 25

theorem ofValue_reads_acceptable_reordered :
    let entries := entriesForLength ++ entriesForPlace
    let reordered := entriesForPlace ++ entriesForLength
    let keeps := fun entry : String × Value => !entry.2.isNull
    ofValue "filter" (.object entries) = .ok wishForShorter ∧
      (∀ entry ∈ entries, keeps entry = false → entry.2.isNull = true) ∧
      ofValue "filter" (.object (entries.filter keeps)) = .ok wishForShorter ∧
      reordered.Perm entries ∧ (∀ field, given reordered field = given entries field) ∧
      ofValue "filter" (.object reordered) = .ok wishForShorter := by
  intro entries reordered keeps
  have read : ofValue "filter" (.object entries) = .ok wishForShorter := by
    decide +kernel
  have dropped : ∀ entry ∈ entries, keeps entry = false → entry.2.isNull = true := by
    simp [keeps]
  have permuted : reordered.Perm entries := List.perm_append_comm
  have same : ∀ field, given reordered field = given entries field := by
    intro field
    cases field <;> rfl
  obtain ⟨left, moved⟩ := (ofValue_reads_acceptable "filter").2.2.2 entries wishForShorter read
  exact ⟨read, dropped, left keeps dropped, permuted, same, moved reordered permuted same⟩

end Filter

end MediaSearch
