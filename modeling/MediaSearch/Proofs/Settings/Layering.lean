import MediaSearch.Proofs.Settings.Fields
import MediaSearch.Proofs.Settings.Layers

/-!
# Layers of settings

Where one layer of settings is laid over another, each setting is taken from the top layer if it
stands there, and else from the base. Sections do not bear on each other, and nothing bears on the
settings but what stands at the places of fields.
-/

set_option autoImplicit false

namespace MediaSearch

theorem Value.exists_laidOver_object (entries : Entries) (below : Option Value) :
    ∃ merged, (Value.object entries).laidOver below = .object merged := by
  unfold laidOver
  split
  · exact ⟨_, rfl⟩
  · exact ⟨_, rfl⟩

/-- What is below shows only inside an object. -/
theorem Value.outside_laidOver (value : Value) (below : Option Value) :
    (value.laidOver below).outside = value.outside := by
  cases value with
  | object entries =>
      obtain ⟨merged, laid⟩ := exists_laidOver_object entries below
      rw [laid]
      rfl
  | _ => rfl

namespace Settings

/-- Entries in which each section is left out or an object. -/
structure IsLayer (root : Entries) : Prop where
  distinct : root.Distinct
  sections : ∀ name ∈ sectionNames, ∀ value, root.lookup name = some value →
    ∃ entries : Entries, value = .object entries ∧ entries.Distinct

/-- The entries that hold each field as the top layer does, or else as the base does. -/
def picked (base top : Entries) : Entries :=
  sectionNames.map fun name =>
    (name, .object ((Field.all.filter (·.sectionName = name)).filterMap fun field =>
      ((held? top field).or (held? base field)).map (field.key, ·)))

/-- The entries with no section but one. -/
def only (name : String) (root : Entries) : Entries :=
  ((root.lookup name).map (name, ·)).toList

/-- The value that a field has got. -/
def get (settings : Settings) : Field → Value
  | .level => .text settings.notes.level
  | .toFile => .bool settings.notes.toFile
  | .noteDirectory => .text settings.notes.directory
  | .url => .text settings.server.url
  | .tokenVariable => .text settings.server.tokenVariable
  | .timeout => .real settings.server.timeout
  | .limit => .int settings.search.limit
  | .resultDirectory => .text settings.output.directory
  | .formats => .list (settings.output.formats.map .text)

/-!
## Fields in layers
-/

section Overlay

variable {base top : Entries}

theorem IsLayer.opens {root : Entries} (layer : IsLayer root) :
    ∀ name ∈ sectionNames, Opens root name := by
  intro name member
  rw [Opens, Entries.get]
  cases held : root.lookup name with
  | none => exact .inl rfl
  | some value =>
      obtain ⟨entries, rfl, -⟩ := layer.sections name member value held
      exact .inr ⟨entries, rfl⟩

theorem sectionEntries_eq {root entries : Entries} {name : String}
    (held : root.lookup name = some (.object entries)) : sectionEntries root name = entries := by
  rw [sectionEntries, Entries.get, held]
  rfl

theorem sectionEntries_eq_nil {root : Entries} {name : String}
    (absent : root.lookup name = none) : sectionEntries root name = [] := by
  rw [sectionEntries, Entries.get, absent]
  rfl

theorem lookup_sectionEntries_overlay (baseLayer : IsLayer base) (topLayer : IsLayer top)
    {name : String} (member : name ∈ sectionNames) (key : String) :
    (sectionEntries (base.overlay top) name).lookup key =
      match (sectionEntries top name).lookup key with
      | some value => some (value.laidOver ((sectionEntries base name).lookup key))
      | none => (sectionEntries base name).lookup key := by
  have merged := Entries.lookup_overlay topLayer.distinct base name
  cases held : top.lookup name with
  | none =>
      rw [held] at merged
      rw [sectionEntries_eq_nil held, List.lookup_nil, sectionEntries, Entries.get, merged]
      rfl
  | some value =>
      obtain ⟨entries, rfl, distinct⟩ := topLayer.sections name member value held
      rw [held] at merged
      rw [sectionEntries_eq held]
      cases below : base.lookup name with
      | none =>
          rw [below] at merged
          rw [sectionEntries_eq merged, sectionEntries_eq_nil below, List.lookup_nil]
          cases entries.lookup key with
          | none => rfl
          | some value => exact congrArg some value.laidOver_none.symm
      | some lower =>
          obtain ⟨lowerEntries, rfl, -⟩ := baseLayer.sections name member lower below
          rw [below] at merged
          rw [sectionEntries_eq merged, sectionEntries_eq below]
          exact Entries.lookup_overlay distinct lowerEntries key

theorem held?_overlay (baseLayer : IsLayer base) (topLayer : IsLayer top) (field : Field) :
    held? (base.overlay top) field =
      match held? top field with
      | some value => some (value.laidOver (held? base field))
      | none => held? base field :=
  lookup_sectionEntries_overlay baseLayer topLayer field.sectionName_mem field.key

theorem opens_overlay (baseLayer : IsLayer base) (topLayer : IsLayer top) :
    ∀ name ∈ sectionNames, Opens (base.overlay top) name := by
  intro name member
  rw [Opens, Entries.get, Entries.lookup_overlay topLayer.distinct]
  cases held : top.lookup name with
  | none => exact baseLayer.opens name member
  | some value =>
      obtain ⟨entries, rfl, -⟩ := topLayer.sections name member value held
      obtain ⟨merged, laid⟩ := Value.exists_laidOver_object entries (base.lookup name)
      exact .inr ⟨merged, laid⟩

theorem lookup_picked (base top : Entries) {name : String} (member : name ∈ sectionNames) :
    (picked base top).lookup name =
      some (.object ((Field.all.filter (·.sectionName = name)).filterMap fun field =>
        ((held? top field).or (held? base field)).map (field.key, ·))) := by
  obtain rfl | rfl | rfl | rfl : name = "log" ∨ name = "server" ∨ name = "search" ∨
      name = "output" := by
    simpa [sectionNames] using member
  all_goals rfl

theorem opens_picked (base top : Entries) :
    ∀ name ∈ sectionNames, Opens (picked base top) name := by
  intro name member
  exact .inr ⟨_, congrArg (·.getD .null) (lookup_picked base top member)⟩

/-- No two fields of a section have one key. -/
theorem nodup_keys {name : String} (member : name ∈ sectionNames) :
    ((Field.all.filter (·.sectionName = name)).map Field.key).Nodup := by
  revert name
  decide

theorem held?_picked (base top : Entries) (field : Field) :
    held? (picked base top) field = (held? top field).or (held? base field) := by
  have member := field.sectionName_mem
  rw [held?, sectionEntries_eq (lookup_picked base top member)]
  apply Keyed.lookup_filterMap (nodup_keys member)
  rw [List.mem_filter]
  exact ⟨field.mem_all, decide_eq_true rfl⟩

/-- A layer over a base is read as the entries that hold each field as the upper one of the two that
have it. -/
theorem ofEntries_overlay_eq_picked (baseLayer : IsLayer base) (topLayer : IsLayer top)
    (environment : Environment) :
    Settings.ofEntries (base.overlay top) environment =
      Settings.ofEntries (picked base top) environment := by
  apply ofEntries_congr (opens_overlay baseLayer topLayer) (opens_picked base top)
  intro field
  apply outside_given_congr
  rw [held?_overlay baseLayer topLayer, held?_picked]
  cases held? top field with
  | none => rfl
  | some value => exact value.outside_laidOver _

end Overlay

/-!
## Fields by themselves
-/

theorem Field.Reads.get_eq {field : Field} {value : Value} {left right : Settings}
    (leftReads : field.Reads left value) (rightReads : field.Reads right value) :
    left.get field = right.get field := by
  cases field with
  | level =>
      obtain ⟨written, rfl, leftLevel⟩ := leftReads
      obtain ⟨_, same, rightLevel⟩ := rightReads
      cases same
      rw [get, get, leftLevel, rightLevel]
  | formats =>
      obtain ⟨written, rfl, leftFormats⟩ := leftReads
      obtain ⟨others, same, rightFormats⟩ := rightReads
      obtain rfl := List.map_injective_iff.mpr (fun _ _ => Value.text.inj) (Value.list.inj same)
      rw [get, get, leftFormats, rightFormats]
  | timeout =>
      rcases leftReads with rfl | ⟨whole, rfl, leftNearest⟩
      · rcases rightReads with same | ⟨_, other, -⟩
        · exact same
        · cases other
      · rcases rightReads with other | ⟨_, same, rightNearest⟩
        · cases other
        · cases same
          rw [leftNearest] at rightNearest
          exact congrArg Value.real (Option.some.inj rightNearest)
  | _ => exact leftReads.symm.trans rightReads

theorem token_eq_of_get_eq {left right : Entries} {environment : Environment}
    {leftSettings rightSettings : Settings} (leftReflects : Reflects left environment leftSettings)
    (rightReflects : Reflects right environment rightSettings)
    (same : leftSettings.get .tokenVariable = rightSettings.get .tokenVariable) :
    leftSettings.server.token = rightSettings.server.token := by
  rw [leftReflects.token, rightReflects.token, Value.text.inj same]

/-!
## Sections by themselves
-/

section Sections

variable {root left right : Entries} {environment : Environment}

theorem get_only (name : String) (root : Entries) : (only name root).get name = root.get name := by
  unfold only Entries.get
  cases root.lookup name with
  | none => rfl
  | some value =>
      rw [Option.map_some, Option.toList_some, List.lookup_cons_self]

theorem get_only_of_ne {other : String} (name : String) (different : other ≠ name)
    (root : Entries) :
    (only name root).get other = .null := by
  unfold only Entries.get
  cases root.lookup name with
  | none => rfl
  | some value =>
      rw [Option.map_some, Option.toList_some, List.lookup_cons, beq_false_of_ne different]
      rfl

theorem sectionOf_congr {name : String} (same : left.get name = right.get name) :
    sectionOf name false left = sectionOf name false right := by
  rw [sectionOf, sectionOf, same]

def checkedNotes (root : Entries) : Except Error Notes :=
  Result.checked (Notes.ofEntries root) Notes.check

def checkedServer (root : Entries) (environment : Environment) : Except Error Server :=
  Result.checked (Server.ofEntries root environment) Server.check

def checkedSearch (root : Entries) : Except Error Search :=
  Result.checked (Search.ofEntries root) Search.check

def checkedOutput (root : Entries) : Except Error Output :=
  Result.checked (Output.ofEntries root) Output.check

theorem checkedNotes_congr (same : left.get "log" = right.get "log") :
    checkedNotes left = checkedNotes right := by
  rw [checkedNotes, checkedNotes, Notes.ofEntries, Notes.ofEntries, sectionOf_congr same]

theorem checkedServer_congr (same : left.get "server" = right.get "server")
    (environment : Environment) :
    checkedServer left environment = checkedServer right environment := by
  rw [checkedServer, checkedServer, Server.ofEntries, Server.ofEntries, sectionOf_congr same]

theorem checkedSearch_congr (same : left.get "search" = right.get "search") :
    checkedSearch left = checkedSearch right := by
  rw [checkedSearch, checkedSearch, Search.ofEntries, Search.ofEntries, sectionOf_congr same]

theorem checkedOutput_congr (same : left.get "output" = right.get "output") :
    checkedOutput left = checkedOutput right := by
  rw [checkedOutput, checkedOutput, Output.ofEntries, Output.ofEntries, sectionOf_congr same]

theorem ofEntries_eq_ok_iff_checked {settings : Settings} :
    Settings.ofEntries root environment = .ok settings ↔
      checkedNotes root = .ok settings.notes ∧
      checkedServer root environment = .ok settings.server ∧
      checkedSearch root = .ok settings.search ∧ checkedOutput root = .ok settings.output := by
  rw [ofEntries_eq_ok_iff_sections, checkedNotes, checkedServer, checkedSearch, checkedOutput,
    Result.checked_eq_ok_iff, Result.checked_eq_ok_iff, Result.checked_eq_ok_iff,
    Result.checked_eq_ok_iff]

/-- All sections are read before the first of them is checked, so a section may hide what is wrong
with another one. What is found is wrong with one section. -/
theorem checked_of_ofEntries_eq_error {error : Error}
    (refused : Settings.ofEntries root environment = .error error) :
    checkedNotes root = .error error ∨ checkedServer root environment = .error error ∨
      checkedSearch root = .error error ∨ checkedOutput root = .error error := by
  rw [checkedNotes, checkedServer, checkedSearch, checkedOutput, Result.checked_eq_error_iff,
    Result.checked_eq_error_iff, Result.checked_eq_error_iff, Result.checked_eq_error_iff]
  simp only [Settings.ofEntries, Result.bind_eq_error_iff, Result.pure_ne_error, and_false,
    exists_false, or_false] at refused
  rcases refused with notes | ⟨notes, notesRead, server | ⟨server, serverRead, search |
    ⟨search, searchRead, output | ⟨output, outputRead, checked⟩⟩⟩⟩
  · exact .inl (.inl notes)
  · exact .inr (.inl (.inl server))
  · exact .inr (.inr (.inl (.inl search)))
  · exact .inr (.inr (.inr (.inl output)))
  · rcases checked with refused | ⟨_, -, refused | ⟨_, -, refused | ⟨_, -, refused⟩⟩⟩
    · exact .inl (.inr ⟨notes, notesRead, refused⟩)
    · exact .inr (.inl (.inr ⟨server, serverRead, refused⟩))
    · exact .inr (.inr (.inl (.inr ⟨search, searchRead, refused⟩)))
    · exact .inr (.inr (.inr (.inr ⟨output, outputRead, refused⟩)))

/-!
A section that is left out is read, and what is read of it is right.
-/

theorem exists_checkedNotes (null : root.get "log" = .null) :
    ∃ notes, checkedNotes root = .ok notes := by
  have empty : checkedNotes root = checkedNotes [] := checkedNotes_congr null
  rw [empty]
  exact ⟨⟨"INFO", false, "log"⟩, by decide +kernel⟩

theorem exists_checkedServer (null : root.get "server" = .null) (environment : Environment) :
    ∃ server, checkedServer root environment = .ok server := by
  have empty : checkedServer root environment = checkedServer [] environment :=
    checkedServer_congr null environment
  rw [empty]
  let server (token : String) : Server :=
    ⟨"http://localhost:32400", "PLEX_TOKEN", token, Binary64.ofInt 30⟩
  have nearest : Binary64.ofInt? 30 = some (Binary64.ofInt 30) := by decide +kernel
  -- The token has no part in the check.
  have passes (token : String) : (server token).check = .ok () :=
    (rfl : _ = (server "").check).trans (by decide +kernel)
  refine ⟨server (Text.trim ((environment.lookup "PLEX_TOKEN").getD "")),
    Result.checked_eq_ok_iff.mpr ⟨Server.ofEntries_eq_ok_iff.mpr ?_, passes _⟩⟩
  exact ⟨.inl rfl, rfl, rfl, .inr ⟨30, rfl, nearest⟩, rfl⟩

theorem exists_checkedSearch (null : root.get "search" = .null) :
    ∃ search, checkedSearch root = .ok search := by
  have empty : checkedSearch root = checkedSearch [] := checkedSearch_congr null
  rw [empty]
  exact ⟨⟨25⟩, by decide +kernel⟩

theorem exists_checkedOutput (null : root.get "output" = .null) :
    ∃ output, checkedOutput root = .ok output := by
  have empty : checkedOutput root = checkedOutput [] := checkedOutput_congr null
  rw [empty]
  exact ⟨⟨"output", ["console"]⟩, by decide +kernel⟩

/-!
What one section makes of the settings, or what is wrong with it, is found without the others.
-/

theorem map_notes_ofEntries_only (root : Entries) (environment : Environment) :
    (Settings.ofEntries (only "log" root) environment).map (·.notes) = checkedNotes root := by
  obtain ⟨server, serverOk⟩ :=
    exists_checkedServer (get_only_of_ne "log" (by decide) root) environment
  obtain ⟨search, searchOk⟩ :=
    exists_checkedSearch (get_only_of_ne "log" (by decide) root)
  obtain ⟨output, outputOk⟩ :=
    exists_checkedOutput (get_only_of_ne "log" (by decide) root)
  rw [← checkedNotes_congr (get_only "log" root)]
  apply Result.map_eq_of
  · intro settings accepted
    exact (ofEntries_eq_ok_iff_checked.mp accepted).1
  · intro error refused
    simpa [serverOk, searchOk, outputOk] using checked_of_ofEntries_eq_error refused

theorem map_server_ofEntries_only (root : Entries) (environment : Environment) :
    (Settings.ofEntries (only "server" root) environment).map (·.server) =
      checkedServer root environment := by
  obtain ⟨notes, notesOk⟩ :=
    exists_checkedNotes (get_only_of_ne "server" (by decide) root)
  obtain ⟨search, searchOk⟩ :=
    exists_checkedSearch (get_only_of_ne "server" (by decide) root)
  obtain ⟨output, outputOk⟩ :=
    exists_checkedOutput (get_only_of_ne "server" (by decide) root)
  rw [← checkedServer_congr (get_only "server" root)]
  apply Result.map_eq_of
  · intro settings accepted
    exact (ofEntries_eq_ok_iff_checked.mp accepted).2.1
  · intro error refused
    simpa [notesOk, searchOk, outputOk] using checked_of_ofEntries_eq_error refused

theorem map_search_ofEntries_only (root : Entries) (environment : Environment) :
    (Settings.ofEntries (only "search" root) environment).map (·.search) = checkedSearch root := by
  obtain ⟨notes, notesOk⟩ :=
    exists_checkedNotes (get_only_of_ne "search" (by decide) root)
  obtain ⟨server, serverOk⟩ :=
    exists_checkedServer (get_only_of_ne "search" (by decide) root) environment
  obtain ⟨output, outputOk⟩ :=
    exists_checkedOutput (get_only_of_ne "search" (by decide) root)
  rw [← checkedSearch_congr (get_only "search" root)]
  apply Result.map_eq_of
  · intro settings accepted
    exact (ofEntries_eq_ok_iff_checked.mp accepted).2.2.1
  · intro error refused
    simpa [notesOk, serverOk, outputOk] using checked_of_ofEntries_eq_error refused

theorem map_output_ofEntries_only (root : Entries) (environment : Environment) :
    (Settings.ofEntries (only "output" root) environment).map (·.output) = checkedOutput root := by
  obtain ⟨notes, notesOk⟩ :=
    exists_checkedNotes (get_only_of_ne "output" (by decide) root)
  obtain ⟨server, serverOk⟩ :=
    exists_checkedServer (get_only_of_ne "output" (by decide) root) environment
  obtain ⟨search, searchOk⟩ :=
    exists_checkedSearch (get_only_of_ne "output" (by decide) root)
  rw [← checkedOutput_congr (get_only "output" root)]
  apply Result.map_eq_of
  · intro settings accepted
    exact (ofEntries_eq_ok_iff_checked.mp accepted).2.2.2
  · intro error refused
    simpa [notesOk, serverOk, searchOk] using checked_of_ofEntries_eq_error refused

theorem ofEntries_eq_ok_iff_only {settings : Settings} :
    Settings.ofEntries root environment = .ok settings ↔
      (Settings.ofEntries (only "log" root) environment).map (·.notes) = .ok settings.notes ∧
      (Settings.ofEntries (only "server" root) environment).map (·.server) = .ok settings.server ∧
      (Settings.ofEntries (only "search" root) environment).map (·.search) = .ok settings.search ∧
      (Settings.ofEntries (only "output" root) environment).map (·.output) =
        .ok settings.output := by
  rw [ofEntries_eq_ok_iff_checked, map_notes_ofEntries_only, map_server_ofEntries_only,
    map_search_ofEntries_only, map_output_ofEntries_only]

theorem exists_only_eq_error {error : Error}
    (refused : Settings.ofEntries root environment = .error error) :
    ∃ name ∈ sectionNames, Settings.ofEntries (only name root) environment = .error error := by
  rcases checked_of_ofEntries_eq_error refused with notes | server | search | output
  · rw [← map_notes_ofEntries_only root environment, Result.map_eq_error_iff] at notes
    exact ⟨"log", by decide, notes⟩
  · rw [← map_server_ofEntries_only, Result.map_eq_error_iff] at server
    exact ⟨"server", by decide, server⟩
  · rw [← map_search_ofEntries_only root environment, Result.map_eq_error_iff] at search
    exact ⟨"search", by decide, search⟩
  · rw [← map_output_ofEntries_only root environment, Result.map_eq_error_iff] at output
    exact ⟨"output", by decide, output⟩

end Sections

/-- Layers are read field by field: as the entries that hold what the top layer has for a field, or
else what the base has. So fields that the top layer leaves out keep what the base alone gives, each
section is read as if it stood alone, and all other keys are passed over. -/
theorem ofEntries_overlay {base top : Entries} (baseLayer : IsLayer base) (topLayer : IsLayer top)
    (environment : Environment) :
    (Settings.ofEntries (base.overlay top) environment =
      Settings.ofEntries (picked base top) environment) ∧
    (∀ merged, Settings.ofEntries (base.overlay top) environment = .ok merged →
      (∀ field, held? top field = none → field.Reads merged (given base field)) ∧
      ∀ alone, Settings.ofEntries base environment = .ok alone →
        (∀ field, held? top field = none → merged.get field = alone.get field) ∧
        (held? top .tokenVariable = none → merged.server.token = alone.server.token)) ∧
    (∀ root settings, Settings.ofEntries root environment = .ok settings ↔
      (Settings.ofEntries (only "log" root) environment).map (·.notes) = .ok settings.notes ∧
      (Settings.ofEntries (only "server" root) environment).map (·.server) = .ok settings.server ∧
      (Settings.ofEntries (only "search" root) environment).map (·.search) = .ok settings.search ∧
      (Settings.ofEntries (only "output" root) environment).map (·.output) =
        .ok settings.output) ∧
    (∀ root error, Settings.ofEntries root environment = .error error →
      ∃ name ∈ sectionNames, Settings.ofEntries (only name root) environment = .error error) ∧
    ∀ other, IsLayer other → (∀ field, given other field = given base field) →
      Settings.ofEntries other environment = Settings.ofEntries base environment := by
  refine ⟨ofEntries_overlay_eq_picked baseLayer topLayer environment, ?kept,
    fun root settings => ofEntries_eq_ok_iff_only, fun root error => exists_only_eq_error, ?other⟩
  case kept =>
    intro merged mergedRead
    have mergedReflects := (ofEntries_eq_ok_iff.mp mergedRead).1
    have reads : ∀ field, held? top field = none → field.Reads merged (given base field) := by
      intro field absent
      have same : held? (base.overlay top) field = held? base field := by
        rw [held?_overlay baseLayer topLayer, absent]
      rw [← given_congr same]
      exact mergedReflects.reads field
    refine ⟨reads, fun alone aloneRead => ?_⟩
    have aloneReflects := (ofEntries_eq_ok_iff.mp aloneRead).1
    have kept : ∀ field, held? top field = none → merged.get field = alone.get field :=
      fun field absent => (reads field absent).get_eq (aloneReflects.reads field)
    exact ⟨kept, fun absent =>
      token_eq_of_get_eq mergedReflects aloneReflects (kept .tokenVariable absent)⟩
  case other =>
    intro other otherLayer same
    apply ofEntries_congr otherLayer.opens baseLayer.opens
    intro field
    rw [same field]

theorem ofEntries_overlay_passes_over_token :
    let base : Entries := [
      ("log", .object [("level", .text "debug"), ("colour", .bool true)]),
      ("server", .object [("url", .text "http://plex.lan"), ("timeout", .int 10),
        ("token", .text "secret")]),
      ("version", .int 2)]
    let top : Entries := [
      ("version", .object []),
      ("server", .object [("timeout", .null), ("token", .list [])]),
      ("output", .object [("formats", .list [.text "JSON"])])]
    let server (seconds : Int) : Server :=
      ⟨"http://plex.lan", "PLEX_TOKEN", "", Binary64.ofInt seconds⟩
    let alone : Settings :=
      ⟨⟨"DEBUG", false, "log"⟩, server 10, ⟨25⟩, ⟨"output", ["console"]⟩⟩
    let merged : Settings := ⟨⟨"DEBUG", false, "log"⟩, server 30, ⟨25⟩, ⟨"output", ["json"]⟩⟩
    IsLayer base ∧ IsLayer top ∧
      Settings.ofEntries base [] = .ok alone ∧
      Settings.ofEntries (base.overlay top) [] = .ok merged ∧
      Settings.ofEntries (picked base top) [] = .ok merged ∧
      held? top .url = none ∧ merged.get .url = alone.get .url ∧
      (Settings.ofEntries (only "server" (base.overlay top)) []).map (·.server) =
        .ok merged.server := by
  intro base top server alone merged
  have baseLayer : IsLayer base := by
    refine ⟨by decide, fun name member value held => ?_⟩
    simp only [sectionNames, List.mem_cons, List.not_mem_nil, or_false] at member
    rcases member with rfl | rfl | rfl | rfl <;> cases held <;> exact ⟨_, rfl, by decide⟩
  have topLayer : IsLayer top := by
    refine ⟨by decide, fun name member value held => ?_⟩
    simp only [sectionNames, List.mem_cons, List.not_mem_nil, or_false] at member
    rcases member with rfl | rfl | rfl | rfl <;> cases held <;> exact ⟨_, rfl, by decide⟩
  have aloneRead : Settings.ofEntries base [] = .ok alone := by
    decide +kernel
  have mergedRead : Settings.ofEntries (base.overlay top) [] = .ok merged := by
    decide +kernel
  obtain ⟨same, kept, sections, -⟩ := ofEntries_overlay baseLayer topLayer []
  exact ⟨baseLayer, topLayer, aloneRead, mergedRead, same.symm.trans mergedRead, rfl,
    ((kept merged mergedRead).2 alone aloneRead).1 .url rfl,
    ((sections (base.overlay top) merged).mp mergedRead).2.1⟩

end Settings

end MediaSearch
