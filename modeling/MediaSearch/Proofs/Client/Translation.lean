import MediaSearch.Proofs.Client.Attempts
import MediaSearch.Proofs.Result

/-!
# Failures in the words of a client

A client knows faults of the connection, timeouts and broken answers, and has words of its own for
them, as it has for a refusal by the server. A fault of any other class it hands on as it came, and
so it does with what keeps a body from being read. So a call fails in the client's words exactly if
the outcome that settles it is neither.
-/

set_option autoImplicit false

namespace MediaSearch

/-- A failure that is told in the words of a client. -/
inductive Failure.Translated : Failure → Prop where
  | refused {status : Int} {reason : String} : Translated (.refused status reason)
  | unreachable {baseUrl : String} : Translated (.unreachable baseUrl)
  | exhausted {message : String} : Translated (.exhausted message)

/-- A fault of a class that no client has words for. -/
inductive Fault.Foreign : Fault → Prop where
  | brokenChunk : Foreign .brokenChunk
  | undecodable : Foreign .undecodable
  | tooManyRedirects : Foreign .tooManyRedirects
  | invalidAddress : Foreign .invalidAddress
  | missingScheme : Foreign .missingScheme
  | retriesExhausted : Foreign .retriesExhausted
  | unspecified : Foreign .unspecified
  | invalidHeader : Foreign .invalidHeader
  | unencodableHeader : Foreign .unencodableHeader

theorem Fault.foreign_iff {kind : Fault} :
    kind.Foreign ↔
      kind.isConnectionFault = false ∧ kind.isTimeout = false ∧ kind.isBadResponse = false := by
  constructor
  · intro foreign
    cases foreign <;> exact ⟨rfl, rfl, rfl⟩
  · intro unknown
    cases kind
    case brokenChunk => exact .brokenChunk
    case undecodable => exact .undecodable
    case tooManyRedirects => exact .tooManyRedirects
    case invalidAddress => exact .invalidAddress
    case missingScheme => exact .missingScheme
    case retriesExhausted => exact .retriesExhausted
    case unspecified => exact .unspecified
    case invalidHeader => exact .invalidHeader
    case unencodableHeader => exact .unencodableHeader
    -- The other classes are among those that are tested for.
    all_goals simp [Fault.isConnectionFault, Fault.isTimeout, Fault.isBadResponse] at unknown

namespace Client

/-- An answer fails a call if it refuses, in words of the client, or if its body cannot be read. -/
theorem conclusion_response_eq_error_iff {client : Client} {status : Int} {reason : String}
    {body : Body} {failure : Failure} :
    client.conclusion (.response status reason body) = .error failure ↔
      (400 ≤ status ∧ failure = .refused status reason) ∨
      (status < 400 ∧ ∃ error, body = .error error ∧ failure = .undecodable error) := by
  rcases Int.lt_or_le status 400 with answered | refused
  · rw [conclusion_response_of_lt answered, Result.mapError_eq_error_iff]
    constructor
    · rintro ⟨error, unread, rfl⟩
      exact .inr ⟨answered, error, unread, rfl⟩
    · rintro (⟨refused, -⟩ | ⟨-, error, unread, rfl⟩)
      · exact absurd answered (Int.not_lt.mpr refused)
      · exact ⟨error, unread, rfl⟩
  · rw [conclusion_response_of_le refused, Except.error.injEq, eq_comm]
    constructor
    · rintro rfl
      exact .inl ⟨refused, rfl⟩
    · rintro (⟨-, rfl⟩ | ⟨answered, -⟩)
      · rfl
      · exact absurd answered (Int.not_lt.mpr refused)

/-- A fault fails a call: in words of the client, unless it is foreign. -/
theorem conclusion_fault (client : Client) (kind : Fault) (message : String) :
    ∃ failure, client.conclusion (.fault kind message) = .error failure ∧
      (kind.Foreign ∧ failure = .fault kind message ∨ ¬ kind.Foreign ∧ failure.Translated) := by
  rw [Fault.foreign_iff, conclusion_fault_eq]
  refine ⟨_, rfl, ?_⟩
  by_cases connection : kind.isConnectionFault = true
  · rw [if_pos connection]
    refine .inr ⟨fun foreign => ?_, .unreachable⟩
    rw [connection] at foreign
    cases foreign.1
  · rw [if_neg connection]
    by_cases passing : kind.isTimeout = true ∨ kind.isBadResponse = true
    · rw [if_pos passing]
      refine .inr ⟨fun foreign => ?_, .exhausted⟩
      rw [foreign.2.1, foreign.2.2] at passing
      simp at passing
    · rw [if_neg passing]
      simp only [not_or, Bool.not_eq_true] at connection passing
      exact .inl ⟨⟨connection, passing⟩, rfl⟩

theorem conclusion_eq_fault_iff {client : Client} {reply : Reply} {kind : Fault}
    {message : String} :
    client.conclusion reply = .error (.fault kind message) ↔
      kind.Foreign ∧ reply = .fault kind message := by
  cases reply with
  | response status reason body =>
      rw [conclusion_response_eq_error_iff]
      simp
  | fault other text =>
      obtain ⟨failure, failed, cause⟩ := client.conclusion_fault other text
      rw [failed]
      rcases cause with ⟨foreign, rfl⟩ | ⟨known, translated⟩
      · constructor
        · intro same
          cases same
          exact ⟨foreign, rfl⟩
        · intro same
          cases same.2
          rfl
      · constructor
        · intro same
          cases same
          cases translated
        · intro same
          cases same.2
          exact absurd same.1 known

theorem conclusion_eq_undecodable_iff {client : Client} {reply : Reply} {error : BodyError} :
    client.conclusion reply = .error (.undecodable error) ↔
      ∃ status reason, status < 400 ∧ reply = .response status reason (.error error) := by
  cases reply with
  | response status reason body =>
      rw [conclusion_response_eq_error_iff]
      constructor
      · rintro (⟨-, same⟩ | ⟨answered, _, unread, same⟩)
        · cases same
        · cases same
          exact ⟨status, reason, answered, by rw [unread]⟩
      · rintro ⟨_, _, answered, same⟩
        cases same
        exact .inr ⟨answered, error, rfl, rfl⟩
  | fault kind message =>
      obtain ⟨failure, failed, cause⟩ := client.conclusion_fault kind message
      rw [failed]
      constructor
      · intro same
        cases same
        rcases cause with ⟨-, same⟩ | ⟨-, translated⟩
        · cases same
        · cases translated
      · rintro ⟨status, reason, -, same⟩
        cases same

theorem cause_of_conclusion {client : Client} {reply : Reply} {failure : Failure}
    (failed : client.conclusion reply = .error failure) :
    failure.Translated ∨ (∃ kind message, failure = .fault kind message) ∨
      ∃ error, failure = .undecodable error := by
  cases reply with
  | response status reason body =>
      rcases conclusion_response_eq_error_iff.mp failed with ⟨-, rfl⟩ | ⟨-, error, -, rfl⟩
      · exact .inl .refused
      · exact .inr (.inr ⟨error, rfl⟩)
  | fault kind message =>
      obtain ⟨found, concluded, cause⟩ := client.conclusion_fault kind message
      cases failed.symm.trans concluded
      rcases cause with ⟨-, rfl⟩ | ⟨-, translated⟩
      · exact .inr (.inl ⟨kind, message, rfl⟩)
      · exact .inl translated

/-- A call that fails does so in words of the client, with a fault as it came, or with what keeps a
body from being read. A fault is handed on exactly if it is foreign and settles the call, and the
other exactly if an answer with such a body does. So a server with neither ahead is always spoken of
in words of the client. -/
theorem call_fails_translated (client : Client) (call : Call) (session : Session) :
    let outcome := session.server.outcome (call.request client)
    let result := ((call.action client).runIn session).1
    (∀ failure, result = .error failure →
      failure.Translated ∨ (∃ kind message, failure = .fault kind message) ∨
        ∃ error, failure = .undecodable error) ∧
    (∀ kind message, result = .error (.fault kind message) ↔
      kind.Foreign ∧ ∃ failed, Settles outcome 4 failed ∧ outcome failed = .fault kind message) ∧
    (∀ error, result = .error (.undecodable error) ↔
      ∃ failed status reason, Settles outcome 4 failed ∧ status < 400 ∧
        outcome failed = .response status reason (.error error)) ∧
    ((∀ attempt kind message, outcome attempt = .fault kind message → ¬ kind.Foreign) →
      (∀ attempt status reason error, outcome attempt ≠ .response status reason (.error error)) →
      ∀ failure, result = .error failure → failure.Translated) := by
  intro outcome result
  obtain ⟨failed, served⟩ := client.exists_served call session
  have concludes : ∀ failure, result = .error failure ↔
      client.conclusion (outcome failed) = .error failure := by
    intro failure
    have concluded : result = _ := served.concluded
    rw [concluded, Result.map_eq_error_iff]
  have words : ∀ failure, result = .error failure →
      failure.Translated ∨ (∃ kind message, failure = .fault kind message) ∨
        ∃ error, failure = .undecodable error :=
    fun failure unsuccessful => cause_of_conclusion ((concludes failure).mp unsuccessful)
  have foreign : ∀ kind message, result = .error (.fault kind message) ↔
      kind.Foreign ∧ outcome failed = .fault kind message :=
    fun kind message => (concludes _).trans conclusion_eq_fault_iff
  have unread : ∀ error, result = .error (.undecodable error) ↔
      ∃ status reason, status < 400 ∧ outcome failed = .response status reason (.error error) :=
    fun error => (concludes _).trans conclusion_eq_undecodable_iff
  refine ⟨words, fun kind message => ?_, fun error => ?_, fun known legible failure unsuccessful => ?_⟩
  · rw [foreign]
    constructor
    · intro settled
      exact ⟨settled.1, failed, served.settles, settled.2⟩
    · rintro ⟨unknown, other, settles, handed⟩
      -- Only one attempt settles a call.
      obtain rfl := settles.unique served.settles
      exact ⟨unknown, handed⟩
  · rw [unread]
    constructor
    · rintro ⟨status, reason, answered, illegible⟩
      exact ⟨failed, status, reason, served.settles, answered, illegible⟩
    · rintro ⟨other, status, reason, settles, answered, illegible⟩
      obtain rfl := settles.unique served.settles
      exact ⟨status, reason, answered, illegible⟩
  · rcases words failure unsuccessful with translated | ⟨kind, message, rfl⟩ | ⟨error, rfl⟩
    · exact translated
    · obtain ⟨unknown, settled⟩ := (foreign kind message).mp unsuccessful
      exact absurd unknown (known failed kind message settled)
    · obtain ⟨status, reason, -, illegible⟩ := (unread error).mp unsuccessful
      exact absurd illegible (legible failed status reason error)

/-- A call that meets a late answer, a busy server and a connection that does not stand. -/
theorem call_fails_translated_unreachable :
    let client : Client := ⟨defaultUrl, "token", defaultTimeout⟩
    let session : Session := {
      server := {
        planned := [.fault .readTimeout "too late", .response 503 "Service Unavailable" none,
          .fault .connectTimeout "no connection in time"] }
      now := ⟨⟨2026, 10, 18⟩, 12, 0, 0, 0, some 0⟩ }
    let outcome := session.server.outcome (Call.sections.request client)
    let result := ((Call.sections.action client).runIn session).1
    (∀ attempt kind message, outcome attempt = .fault kind message → ¬ kind.Foreign) ∧
      (∀ attempt status reason error, outcome attempt ≠ .response status reason (.error error)) ∧
      result = .error (.unreachable defaultUrl) ∧
      ∀ failure, result = .error failure → failure.Translated := by
  intro client session outcome result
  have known : ∀ attempt kind message, outcome attempt = .fault kind message →
      ¬ kind.Foreign := by
    intro attempt kind message met foreign
    match attempt with
    | 0 | 2 =>
        cases met
        cases foreign
    | 1 | _ + 3 => cases met
  have legible : ∀ attempt status reason error,
      outcome attempt ≠ .response status reason (.error error) := by
    intro attempt status reason error met
    match attempt with
    | 0 | 1 | 2 | _ + 3 => cases met
  exact ⟨known, legible, rfl,
    (call_fails_translated client .sections session).2.2.2 known legible⟩

/-- Redirections without end are told to the caller as they came. -/
theorem call_hands_on_tooManyRedirects :
    let client : Client := ⟨defaultUrl, "token", defaultTimeout⟩
    let session : Session := {
      server := { planned := [.fault .tooManyRedirects "Exceeded 30 redirects."] }
      now := ⟨⟨2026, 10, 18⟩, 12, 0, 0, 0, some 0⟩ }
    ∃ failure, ((Call.sections.action client).runIn session).1 = .error failure ∧
      ¬ failure.Translated := by
  intro client session
  refine ⟨.fault .tooManyRedirects "Exceeded 30 redirects.", rfl, ?_⟩
  intro translated
  cases translated

/-- A page where a document is expected is told of in the words of the reader of documents. -/
example :
    let client : Client := ⟨defaultUrl, "token", defaultTimeout⟩
    let unread : BodyError := .malformed "Expecting value: line 1 column 1 (char 0)"
    let session : Session := {
      server := { planned := [.response 200 "OK" (some (.error unread))] }
      now := ⟨⟨2026, 10, 18⟩, 12, 0, 0, 0, some 0⟩ }
    ((Call.sections.action client).runIn session).1 = .error (.undecodable unread) := rfl

end Client

end MediaSearch
