import MediaSearch.Folder

/-!
# Writing files

Making folders leaves every file as it was, and writing a file leaves every other one. What was
written is what is read again, as long as nothing else is written to the same place. Where writing
breaks off, a front part of the text is there.
-/

set_option autoImplicit false

namespace MediaSearch

namespace Folder

theorem read_eq_ok_iff {folder : Folder} {path : Path} {text : String} :
    folder.read path = .ok text ↔
      ∃ location, folder.locate path = .ok location ∧ folder.file? location = some text := by
  unfold read
  cases folder.locate path with
  | error problem => simp
  | ok location => cases held : folder.file? location <;> simp [held]

/-!
## Growth
-/

/-- A folder comes from another by making folders and writing files: what was a folder is one, and
what stood in the place of a folder stands there. So paths that led to something still do. -/
structure Grows (before after : Folder) : Prop where
  home : after.home = before.home
  breaksOff : after.breaksOff = before.breaksOff
  folders : ∀ location, before.isFolder location = true → after.isFolder location = true
  files : ∀ location, before.isFolder location = true → after.file? location = before.file? location

namespace Grows

variable {before middle after : Folder}

theorem refl (folder : Folder) : Grows folder folder :=
  ⟨rfl, rfl, fun _ => id, fun _ _ => rfl⟩

theorem trans (first : Grows before middle) (second : Grows middle after) :
    Grows before after where
  home := second.home.trans first.home
  breaksOff := second.breaksOff.trans first.breaksOff
  folders := fun location kept => second.folders location (first.folders location kept)
  files := fun location kept =>
    (second.files location (first.folders location kept)).trans (first.files location kept)

theorem walk (grows : Grows before after) {here location : Location} {names : List String}
    (leads : before.walk here names = .ok location) : after.walk here names = .ok location := by
  induction names generalizing here with
  | nil => exact leads
  | cons name names ih =>
      unfold Folder.walk at leads ⊢
      by_cases filed : (before.file? here).isSome = true
      · rw [if_pos filed] at leads
        cases leads
      · rw [if_neg filed] at leads
        cases kept : before.isFolder here with
        | false =>
            rw [kept] at leads
            cases leads
        | true =>
            rw [kept] at leads
            rw [grows.files here kept, if_neg filed, grows.folders here kept]
            exact ih leads

theorem locate (grows : Grows before after) {path : Path} {location : Location}
    (leads : before.locate path = .ok location) : after.locate path = .ok location := by
  have same : after.start path = before.start path := by rw [start, start, grows.home]
  rw [Folder.locate, same]
  exact grows.walk leads

end Grows

/-!
## Making folders
-/

theorem isFolder_eq (folder : Folder) (location : Location) :
    folder.isFolder location =
      (location.isPrefixOf folder.home || folder.made.any location.isPrefixOf ||
        (folder.files.map (·.1)).any fun other =>
          location.isPrefixOf other && location ≠ other) := by
  rw [isFolder, List.any_map]
  rfl

theorem make_eq_ok {before after : Folder} {path : Path} (made : before.make path = .ok after) :
    Grows before after ∧ ∀ location, after.file? location = before.file? location := by
  obtain ⟨way, rfl⟩ : ∃ way, after = { before with made := before.made ++ way } := by
    dsimp only [make] at made
    split at made
    · cases made
    · split at made <;> cases made
      exact ⟨_, rfl⟩
  refine ⟨⟨rfl, rfl, fun location kept => ?_, fun _ _ => rfl⟩, fun _ => rfl⟩
  rw [isFolder_eq] at kept ⊢
  rw [List.any_append]
  grind

/-!
## Changing files
-/

/-- A folder after one file was changed to a text. -/
structure Changed (before : Folder) (location : Location) (text : String) (after : Folder) :
    Prop where
  grows : Grows before after
  there : after.file? location = some text
  others : ∀ other, other ≠ location → after.file? other = before.file? other

theorem file?_put (folder : Folder) (location other : Location) (text : String) :
    (folder.put location text).file? other =
      if other == location then some text else folder.file? other :=
  Keyed.lookup_put folder.files location other text

/-- A file that is written where no folder is leaves all folders. -/
theorem changed_put {folder : Folder} {location : Location} (text : String)
    (free : folder.isFolder location = false) :
    Changed folder location text (folder.put location text) where
  grows := {
    home := rfl
    breaksOff := rfl
    folders := by
      intro other kept
      rw [isFolder_eq] at kept ⊢
      rw [put, Keyed.map_fst_put]
      split
      · exact kept
      · rw [List.any_append]
        grind
    files := by
      intro other kept
      rw [file?_put, if_neg]
      intro same
      rw [eq_of_beq same, free] at kept
      cases kept }
  there := by rw [file?_put, if_pos (beq_self_eq_true location)]
  others := by
    intro other different
    rw [file?_put, if_neg fun same => different (eq_of_beq same)]

theorem target_eq_ok_iff {folder : Folder} {path : Path} {location : Location} :
    folder.target path = .ok location ↔
      folder.locate path = .ok location ∧ folder.isFolder location = false := by
  unfold target
  cases folder.locate path with
  | error problem => simp
  | ok place =>
      dsimp only
      by_cases taken : folder.isFolder place = true
      · rw [if_pos taken]
        constructor
        · intro refused
          cases refused
        · rintro ⟨same, free⟩
          cases same
          rw [taken] at free
          cases free
      · rw [if_neg taken]
        constructor
        · intro found
          cases found
          exact ⟨rfl, Bool.eq_false_iff.mpr taken⟩
        · rintro ⟨same, -⟩
          cases same
          rfl

theorem append_eq_ok_iff {before after : Folder} {path : Path} {text : String} :
    before.append path text = .ok after ↔ ∃ location, before.target path = .ok location ∧
      after = before.put location ((before.file? location).getD "" ++ text) := by
  unfold append
  cases before.target path with
  | error error => simp [bind, Except.bind]
  | ok location => simp [bind, Except.bind, pure, Except.pure, eq_comm]

theorem changed_of_append {before after : Folder} {path : Path} {text : String}
    (appended : before.append path text = .ok after) :
    ∃ location, before.locate path = .ok location ∧
      Changed before location ((before.file? location).getD "" ++ text) after := by
  obtain ⟨location, target, rfl⟩ := append_eq_ok_iff.mp appended
  obtain ⟨leads, free⟩ := target_eq_ok_iff.mp target
  exact ⟨location, leads, changed_put _ free⟩

/-- Writing a file does it, or breaks off behind a front part of the text, or fails before. -/
theorem write_cases (folder : Folder) (path : Path) (text : String) :
    (∃ location, folder.locate path = .ok location ∧
      (folder.write path text).1 = .ok () ∧
      Changed folder location text (folder.write path text).2) ∨
    (∃ location kept reason, folder.locate path = .ok location ∧
      folder.breaksOff location text = some (kept, reason) ∧
      (folder.write path text).1 = .error ⟨.brokenOff reason, path⟩ ∧
      Changed folder location (String.ofList (text.toList.take kept))
        (folder.write path text).2) ∨
    ∃ error, folder.write path text = (.error error, folder) := by
  unfold write
  cases target : folder.target path with
  | error error => exact .inr (.inr ⟨error, rfl⟩)
  | ok location =>
      obtain ⟨leads, free⟩ := target_eq_ok_iff.mp target
      dsimp only
      cases breaks : folder.breaksOff location text with
      | none => exact .inl ⟨location, leads, rfl, changed_put text free⟩
      | some broken =>
          obtain ⟨kept, reason⟩ := broken
          exact .inr (.inl ⟨location, kept, reason, leads, breaks, rfl, changed_put _ free⟩)

/-- Every file stands as it stood, but for those that some paths lead to. -/
def SameBut (paths : List Path) (before after : Folder) : Prop :=
  ∀ location, (∀ path ∈ paths, after.locate path ≠ .ok location) →
    after.file? location = before.file? location

namespace SameBut

variable {paths more : List Path} {before middle after : Folder}

theorem of_same (same : ∀ location, after.file? location = before.file? location) :
    SameBut paths before after :=
  fun location _ => same location

theorem refl (folder : Folder) : SameBut paths folder folder := of_same fun _ => rfl

theorem weaken (sameBut : SameBut paths before after) (fewer : paths ⊆ more) :
    SameBut more before after :=
  fun location elsewhere => sameBut location fun path member => elsewhere path (fewer member)

/-- A path that leads to a place still does when the folder has grown. -/
theorem trans (first : SameBut paths before middle) (grows : Grows middle after)
    (second : SameBut paths middle after) : SameBut paths before after :=
  fun location elsewhere => (second location elsewhere).trans
    (first location fun path member leads => elsewhere path member (grows.locate leads))

theorem of_changed {path : Path} {location : Location} {text : String}
    (leads : before.locate path = .ok location) (changed : Changed before location text after) :
    SameBut [path] before after := by
  intro other elsewhere
  refine changed.others other ?_
  rintro rfl
  exact elsewhere path (List.mem_singleton_self path) (changed.grows.locate leads)

end SameBut

end Folder

/-!
## Names
-/

/-- A text without slashes that is too long for one or two dots: a single name in a path. -/
structure Path.IsName (name : String) : Prop where
  unbroken : '/' ∉ name.toList
  long : 2 < name.toList.length

namespace Path.IsName

variable {name : String}

theorem ne_of_length_le (isName : IsName name) {other : String} (short : other.toList.length ≤ 2) :
    name ≠ other := by
  rintro rfl
  exact absurd isName.long (Nat.not_lt.mpr short)

theorem anchorOf_eq (isName : IsName name) : anchorOf name.toList = "" := by
  have unbroken := isName.unbroken
  unfold anchorOf
  split
  case h_4 => rfl
  all_goals
    rename_i same
    rw [same] at unbroken
    exact absurd List.mem_cons_self unbroken

theorem ofText_eq (isName : IsName name) : ofText name = ⟨"", [name]⟩ := by
  have kept : (decide (name ≠ "") && decide (name ≠ ".")) = true := by
    rw [Bool.and_eq_true, decide_eq_true_iff, decide_eq_true_iff]
    exact ⟨isName.ne_of_length_le (by decide), isName.ne_of_length_le (by decide)⟩
  rw [ofText, isName.anchorOf_eq, namesOf, Text.parts_of_not_mem isName.unbroken,
    List.map_singleton, String.ofList_toList, List.filter_cons, if_pos kept, List.filter_nil]

theorem join_eq (isName : IsName name) (path : Path) :
    path.join name = ⟨path.anchor, path.names ++ [name]⟩ := by
  rw [join, isName.ofText_eq]
  rfl

end Path.IsName

namespace Folder

theorem getLast?_of_walk {folder : Folder} {name : String} (forward : name ≠ "..")
    {names : List String} {here location : Location}
    (leads : folder.walk here (names ++ [name]) = .ok location) :
    location.getLast? = some name := by
  induction names generalizing here with
  | nil =>
      rw [List.nil_append, walk] at leads
      split at leads
      · cases leads
      · split at leads
        · cases leads
        · cases leads
          rw [follow, if_neg forward, List.getLast?_concat]
  | cons first names ih =>
      rw [List.cons_append, walk] at leads
      split at leads
      · cases leads
      · split at leads
        · cases leads
        · exact ih leads

/-- A path that ends in a name leads to a place of that name. -/
theorem getLast?_of_locate {folder : Folder} {path : Path} {name : String}
    (isName : Path.IsName name) {location : Location}
    (leads : folder.locate (path.join name) = .ok location) : location.getLast? = some name := by
  rw [locate, isName.join_eq] at leads
  exact getLast?_of_walk (isName.ne_of_length_le (by decide)) leads

end Folder

end MediaSearch
