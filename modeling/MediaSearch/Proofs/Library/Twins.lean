import MediaSearch.Library
import MediaSearch.Proofs.Session.Runs

/-!
# Twins

Two clients are twins in sessions that differ in something if neither the difference between the
sessions nor that between the clients has a bearing on replies, notes and pauses. A library does the
same with either of them.
-/

set_option autoImplicit false

namespace MediaSearch

open MediaSearch.Action (Agree)

/-- What it takes for a client to stand for another in sessions that are alike. -/
structure Client.Twins (alike : Session → Session → Prop) (left right : Client) : Prop where
  url : left.baseUrl = right.baseUrl
  now : ∀ {first second}, alike first second → first.now = second.now
  jitter : ∀ {first second}, alike first second → first.jitter = second.jitter
  note : ∀ level text, Agree alike (Action.note level text) (Action.note level text)
  pause : ∀ delay, Agree alike (Action.pause delay) (Action.pause delay)
  exchange : ∀ path parameters, Agree alike
    (Action.exchange ⟨left.baseUrl ++ path, parameters, left.timeout, left.headers⟩)
    (Action.exchange ⟨right.baseUrl ++ path, parameters, right.timeout, right.headers⟩)

variable {alike : Session → Session → Prop}

namespace Client

variable {left right : Client}

theorem Twins.verdict_eq (twins : Twins alike left right) (more : Bool) (reply : Reply) :
    left.verdict more reply = right.verdict more reply := by
  unfold verdict
  rw [twins.url]

theorem Twins.agree_waitAfter (twins : Twins alike left right) (attempt : Nat) (cause : String) :
    Agree alike (waitAfter attempt cause) (waitAfter attempt cause) := by
  refine Action.agree_get_bind fun first second related => ?_
  rw [twins.jitter related]
  exact (twins.note _ _).bind fun _ => twins.pause _

theorem Twins.agree_send (twins : Twins alike left right) (path : String)
    (parameters : Option (List NamedScalar)) (attempts : Nat) (cause : Option String) :
    Agree alike
      (left.send ⟨left.baseUrl ++ path, parameters, left.timeout, left.headers⟩ attempts cause)
      (right.send ⟨right.baseUrl ++ path, parameters, right.timeout, right.headers⟩ attempts
        cause) := by
  induction attempts generalizing cause with
  | zero =>
      cases cause with
      | none => exact Action.agree_throw _
      | some cause => exact Action.agree_throw _
  | succ attempts ih =>
      refine (twins.exchange path parameters).bind fun reply => ?_
      rw [twins.verdict_eq]
      cases right.verdict (0 < attempts) reply with
      | answered body => exact Action.agree_pure body
      | failed failure => exact Action.agree_throw failure
      | passing cause =>
          by_cases more : 0 < attempts
          · simp only [if_pos more]
            exact (twins.agree_waitAfter _ cause).bind fun _ => ih (some cause)
          · simp only [if_neg more]
            exact (Action.agree_pure ()).bind fun _ => ih (some cause)

theorem Twins.agree_get (twins : Twins alike left right) (path : String)
    (parameters : Option (List NamedScalar)) :
    Agree alike (left.get path parameters) (right.get path parameters) :=
  (twins.agree_send _ _ _ none).bind fun _ => Action.agree_ofExcept _ _

theorem Twins.agree_sectionEntries (twins : Twins alike left right) :
    Agree alike left.sectionEntries right.sectionEntries :=
  (twins.agree_get _ none).bind fun _ => Action.agree_pure _

section Libraries

variable (limit : Int) (readDate : Moment.Reader)

theorem Twins.agree_sections (twins : Twins alike left right) :
    Agree alike (Library.sections ⟨left, limit, readDate⟩)
      (Library.sections ⟨right, limit, readDate⟩) :=
  twins.agree_sectionEntries.bind fun _ => Action.agree_pure _

theorem Twins.agree_candidates (twins : Twins alike left right) (filter : Filter) :
    Agree alike (Library.candidates ⟨left, limit, readDate⟩ filter)
      (Library.candidates ⟨right, limit, readDate⟩ filter) := by
  unfold Library.candidates
  by_cases unnamed : (filter.sectionId.getD "").isEmpty
  · rw [if_pos unnamed, if_pos unnamed]
    exact twins.agree_sections limit readDate
  · rw [if_neg unnamed, if_neg unnamed]
    exact Action.agree_pure []

theorem Twins.agree_compile (twins : Twins alike left right) (filter : Filter) :
    Agree alike (Library.compile ⟨left, limit, readDate⟩ filter)
      (Library.compile ⟨right, limit, readDate⟩ filter) := by
  refine (twins.agree_candidates limit readDate filter).bind fun sections => ?_
  refine Action.agree_get_bind fun first second related => ?_
  rw [twins.now related]
  refine (Action.agree_ofExcept _ _).bind fun query => ?_
  exact (Action.agree_forM fun _ => twins.note _ _).bind fun _ => Action.agree_pure query

end Libraries

end Client

/-!
## Notes
-/

open Session (AlikeButNotes)

/-- What was noted before has no bearing on what a client does. -/
theorem Client.twins_alikeButNotes (client : Client) : client.Twins AlikeButNotes client where
  url := rfl
  now := AlikeButNotes.now_eq
  jitter := AlikeButNotes.jitter_eq
  note := AlikeButNotes.agree_note
  pause := AlikeButNotes.agree_pause
  exchange := fun _ _ => AlikeButNotes.agree_exchange _

end MediaSearch
