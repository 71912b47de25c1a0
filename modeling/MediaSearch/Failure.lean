import MediaSearch.Filter.Structured
import MediaSearch.Query
import MediaSearch.Record.Card
import MediaSearch.Settings
import MediaSearch.Folder
import MediaSearch.Transport

/-!
# Failures

Everything that can stop an action.
-/

set_option autoImplicit false

namespace MediaSearch

inductive Failure where
  | numeral (error : Integer.TooManyDigits)
  | structured (error : Filter.StructureError)
  | query (error : Query.Error)
  | record (error : Record.Error)
  | card (error : Record.CardError)
  | settings (error : Settings.Error)
  | noToken
  | refused (status : Int) (reason : String)
  | unreachable (baseUrl : String)
  | exhausted (message : String)
  /-- No attempt is left, and none is known to have failed. -/
  | unexplained
  | fault (fault : Fault) (message : String)
  | undecodable (error : BodyError)
  /-- No format is named in which results can be written. -/
  | noFormats
  | document
  | folder (error : Folder.Error)
  deriving DecidableEq

def Failure.message : Failure → String
  | .numeral error => error.message
  | .structured error => error.message
  | .query error => error.message
  | .record error => error.message
  | .card error => error.message
  | .settings error => error.message
  | .noToken => "Plex token is required"
  | .refused status reason =>
      "Plex API error: " ++ Integer.text status ++ " - " ++ reason
  | .unreachable baseUrl =>
      "Cannot connect to Plex server at " ++ baseUrl ++ ". Is Plex running?"
  | .exhausted message => "Network error: " ++ message
  | .unexplained => ""
  | .fault _ message => message
  | .undecodable error => error.message
  | .noFormats => "No output writers configured"
  | .document => Integer.WriteError.tooManyDigits.message
  | .folder error => error.message

end MediaSearch
