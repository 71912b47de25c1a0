import MediaSearch.Library
import MediaSearch.Proofs.Session.Runs

/-!
# What a library leaves alone

Whatever a library is asked, and however it ends, it touches neither the clocks nor the payloads that
were kept, nor files, nor what was printed. All that it leaves behind is traffic and notes.
-/

set_option autoImplicit false

namespace MediaSearch

/-- What a session has apart from its server, its traffic and its notes. -/
structure Session.Holdings where
  now : Moment
  zone : Moment.Zone
  payloads : List Value
  folder : Folder
  printed : String

def Session.holdings (session : Session) : Holdings :=
  ⟨session.now, session.zone, session.payloads, session.folder, session.printed⟩

open Session (holdings)

namespace Action

theorem holdings_note (level : Int) (text : String) : (note level text).Keeps holdings :=
  fun _ => rfl

theorem holdings_exchange (request : Request) : (exchange request).Keeps holdings :=
  fun _ => rfl

theorem holdings_pause (delay : Binary64) : (pause delay).Keeps holdings := fun _ => rfl

end Action

namespace Client

theorem holdings_waitAfter (attempt : Nat) (cause : String) :
    (waitAfter attempt cause).Keeps holdings :=
  Action.keeps_get.bind fun _ => (Action.holdings_note _ _).bind fun _ => Action.holdings_pause _

theorem holdings_send (client : Client) (request : Request) (left : Nat) (cause : Option String) :
    (client.send request left cause).Keeps holdings := by
  induction left generalizing cause with
  | zero =>
      cases cause with
      | none => exact Action.keeps_throw _
      | some cause => exact Action.keeps_throw _
  | succ left ih =>
      refine (Action.holdings_exchange request).bind fun reply => ?_
      cases client.verdict (0 < left) reply with
      | answered body => exact Action.keeps_pure body
      | failed failure => exact Action.keeps_throw failure
      | passing cause =>
          by_cases more : 0 < left
          · simp only [if_pos more]
            exact (holdings_waitAfter _ cause).bind fun _ => ih (some cause)
          · simp only [if_neg more]
            exact (Action.keeps_pure ()).bind fun _ => ih (some cause)

theorem holdings_get (client : Client) (path : String)
    (parameters : Option (List NamedScalar)) : (client.get path parameters).Keeps holdings :=
  (client.holdings_send _ _ none).bind fun _ => Action.keeps_ofExcept _ _

theorem holdings_sectionEntries (client : Client) : client.sectionEntries.Keeps holdings :=
  (client.holdings_get _ none).bind fun _ => Action.keeps_pure _

theorem holdings_itemEntries (client : Client) (query : Query) :
    (client.itemEntries query).Keeps holdings :=
  (client.holdings_get _ _).bind fun _ => Action.keeps_pure _

end Client

namespace Library

theorem holdings_sections (library : Library) : library.sections.Keeps holdings :=
  library.client.holdings_sectionEntries.bind fun _ => Action.keeps_pure _

theorem holdings_candidates (library : Library) (filter : Filter) :
    (library.candidates filter).Keeps holdings := by
  unfold candidates
  split
  · exact library.holdings_sections
  · exact Action.keeps_pure []

theorem holdings_compile (library : Library) (filter : Filter) :
    (library.compile filter).Keeps holdings :=
  (library.holdings_candidates filter).bind fun _ => Action.keeps_get.bind fun _ =>
    (Action.keeps_ofExcept _ _).bind fun _ =>
      (Action.keeps_forM fun _ => Action.holdings_note _ _).bind fun _ => Action.keeps_pure _

theorem holdings_search (library : Library) (filter : Filter) :
    (library.search filter).Keeps holdings :=
  (library.holdings_compile filter).bind fun query =>
    (library.client.holdings_itemEntries query).bind fun _ =>
      (Action.holdings_note _ _).bind fun _ => Action.keeps_ofExcept _ _

theorem holdings_extract (text : String) : (extract text).Keeps holdings :=
  (Action.keeps_ofExcept _ _).bind fun _ =>
    (Action.holdings_note _ _).bind fun _ => Action.keeps_pure _

theorem holdings_resolveText (library : Library) (text : String) (sectionId : Option String)
    (limit : Option Int) : (library.resolveText text sectionId limit).Keeps holdings :=
  (holdings_extract text).bind fun _ => Action.keeps_pure _

theorem holdings_compileText (library : Library) (text : String) (sectionId : Option String)
    (limit : Option Int) : (library.compileText text sectionId limit).Keeps holdings :=
  (library.holdings_resolveText text sectionId limit).bind library.holdings_compile

theorem holdings_searchText (library : Library) (text : String) (limit : Option Int) :
    (library.searchText text limit).Keeps holdings :=
  (holdings_extract text).bind fun _ => (Action.holdings_note _ _).bind fun _ =>
    (library.holdings_search _).bind fun _ => Action.keeps_pure _

theorem holdings_searchStructured (library : Library) (value : Value) :
    (library.searchStructured value).Keeps holdings :=
  (Action.keeps_ofExcept _ _).bind fun _ => (Action.holdings_note _ _).bind fun _ =>
    (library.holdings_search _).bind fun _ => Action.keeps_pure _

end Library

end MediaSearch
