import MediaSearch.Session

/-!
# Runs of actions

What an action does in a session, step by step: which requests it sends, and what two actions have
in common that run in sessions with a difference that neither of them looks at.
-/

set_option autoImplicit false

namespace MediaSearch.Action

variable {α β ρ : Type}

/-- The result of an action in a session, and the session that it leaves. -/
def runIn (action : Action α) (session : Session) : Except Failure α × Session :=
  ExceptT.run action session

@[simp] theorem runIn_pure (value : α) (session : Session) :
    runIn (pure value) session = (.ok value, session) := rfl

@[simp] theorem runIn_throw (failure : Failure) (session : Session) :
    runIn (throw failure : Action α) session = (.error failure, session) := rfl

@[simp] theorem runIn_get (session : Session) :
    runIn (get : Action Session) session = (.ok session, session) := rfl

theorem runIn_bind (first : Action α) (next : α → Action β) (session : Session) :
    (first >>= next).runIn session =
      match first.runIn session with
      | (.ok value, later) => (next value).runIn later
      | (.error failure, later) => (.error failure, later) := by
  change (ExceptT.bindCont next (first.runIn session).1).run (first.runIn session).2 = _
  cases first.runIn session with
  | mk result later =>
      cases result with
      | ok value => rfl
      | error failure => rfl

theorem runIn_bind_of_ok {first : Action α} {next : α → Action β} {session later : Session}
    {value : α} (ran : first.runIn session = (.ok value, later)) :
    (first >>= next).runIn session = (next value).runIn later := by
  rw [runIn_bind, ran]

theorem runIn_bind_of_error {first : Action α} {next : α → Action β} {session later : Session}
    {failure : Failure} (ran : first.runIn session = (.error failure, later)) :
    (first >>= next).runIn session = (.error failure, later) := by
  rw [runIn_bind, ran]

theorem exists_of_runIn_bind_ok {first : Action α} {next : α → Action β} {session last : Session}
    {value : β} (ran : (first >>= next).runIn session = (.ok value, last)) :
    ∃ middle later, first.runIn session = (.ok middle, later) ∧
      (next middle).runIn later = (.ok value, last) := by
  rw [runIn_bind] at ran
  cases start : first.runIn session with
  | mk result later =>
      rw [start] at ran
      cases result with
      | ok middle => exact ⟨middle, later, rfl, ran⟩
      | error failure => cases ran

theorem eq_ok_of_runIn_ofExcept {ε : Type} {failure : ε → Failure} {result : Except ε α}
    {session later : Session} {value : α}
    (ran : runIn (ofExcept failure result) session = (.ok value, later)) :
    result = .ok value := by
  cases result with
  | ok found =>
      cases ran
      rfl
  | error error => cases ran

theorem runIn_eq_ok_of_toBool {action : Action Unit} {session : Session}
    (succeeds : (action.runIn session).1.toBool = true) :
    action.runIn session = (.ok (), (action.runIn session).2) := by
  cases ran : action.runIn session with
  | mk result later =>
      rw [ran] at succeeds
      cases result with
      | ok _ => rfl
      | error failure => cases succeeds

/-- Visits that cannot fail get to the end. -/
theorem exists_runIn_forM {items : List ρ} {visit : ρ → Action Unit}
    (succeeds : ∀ item session, ∃ later, (visit item).runIn session = (.ok (), later))
    (session : Session) : ∃ later, (items.forM visit).runIn session = (.ok (), later) := by
  induction items generalizing session with
  | nil => exact ⟨session, rfl⟩
  | cons item items ih =>
      obtain ⟨visited, ran⟩ := succeeds item session
      obtain ⟨later, rest⟩ := ih visited
      exact ⟨later, (runIn_bind_of_ok ran).trans rest⟩

/-!
## What is kept
-/

/-- Wherever an action starts, it leaves a part of the session as it was, also where it fails. -/
def Keeps {ν : Type} (part : Session → ν) (action : Action α) : Prop :=
  ∀ session, part (action.runIn session).2 = part session

section Keeps

variable {ν : Type} {part : Session → ν}

theorem keeps_pure (value : α) : (pure value : Action α).Keeps part := fun _ => rfl

theorem keeps_throw (failure : Failure) : (throw failure : Action α).Keeps part := fun _ => rfl

theorem keeps_get : (get : Action Session).Keeps part := fun _ => rfl

theorem keeps_ofExcept {ε : Type} (failure : ε → Failure) (result : Except ε α) :
    (ofExcept failure result).Keeps part := by
  cases result with
  | ok value => exact keeps_pure value
  | error error => exact keeps_throw (failure error)

/-- Where all that comes next keeps a part, the first action decides about it. -/
theorem part_bind {first : Action α} {next : α → Action β} (rest : ∀ value, (next value).Keeps part)
    (session : Session) :
    part ((first >>= next).runIn session).2 = part (first.runIn session).2 := by
  rw [runIn_bind]
  rcases first.runIn session with ⟨value | failure, later⟩
  · rfl
  · exact rest _ later

theorem Keeps.bind {first : Action α} {next : α → Action β} (start : first.Keeps part)
    (rest : ∀ value, (next value).Keeps part) : (first >>= next).Keeps part := by
  intro session
  rw [part_bind rest, start]

theorem keeps_forM {items : List ρ} {visit : ρ → Action Unit}
    (keeps : ∀ item, (visit item).Keeps part) : (items.forM visit).Keeps part := by
  induction items with
  | nil => exact keeps_pure ()
  | cons item items ih => exact (keeps item).bind fun _ => ih

/-- Wherever an action fails, it leaves a part of the session as it was. -/
def FailsKeeping (part : Session → ν) (action : Action α) : Prop :=
  ∀ {session later failure}, action.runIn session = (.error failure, later) →
    part later = part session

theorem Keeps.failsKeeping {action : Action α} (keeps : action.Keeps part) :
    action.FailsKeeping part := by
  intro session later failure ran
  have kept := keeps session
  rwa [ran] at kept

/-- Before an action that fails keeping a part, others may keep it in any case. -/
theorem Keeps.bind_failsKeeping {first : Action α} {next : α → Action β} (start : first.Keeps part)
    (rest : ∀ value, (next value).FailsKeeping part) : (first >>= next).FailsKeeping part := by
  intro session later failure ran
  have kept := start session
  rw [runIn_bind] at ran
  cases begun : first.runIn session with
  | mk result middle =>
      rw [begun] at ran kept
      cases result with
      | ok value => exact (rest value ran).trans kept
      | error first =>
          cases ran
          exact kept

end Keeps

/-!
## Requests
-/

/-- Wherever an action starts, it sends no request. -/
def Silent (action : Action α) : Prop :=
  ∀ session, (action.runIn session).2.requests = session.requests

theorem silent_pure (value : α) : Silent (pure value) := keeps_pure value

theorem silent_throw (failure : Failure) : Silent (throw failure : Action α) := keeps_throw failure

theorem silent_get : Silent (get : Action Session) := keeps_get

theorem silent_note (level : Int) (text : String) : Silent (note level text) := fun _ => rfl

theorem silent_pause (delay : Binary64) : Silent (pause delay) := by
  intro session
  change (session.traffic ++ [Session.Step.pause delay]).filterMap Session.Step.request? =
    session.requests
  rw [List.filterMap_append]
  exact List.append_nil _

theorem silent_ofExcept {ε : Type} (failure : ε → Failure) (result : Except ε α) :
    Silent (ofExcept failure result) :=
  keeps_ofExcept failure result

theorem requests_bind {first : Action α} {next : α → Action β}
    (silent : ∀ value, (next value).Silent) (session : Session) :
    ((first >>= next).runIn session).2.requests = (first.runIn session).2.requests :=
  part_bind silent session

theorem Silent.bind {first : Action α} {next : α → Action β} (start : first.Silent)
    (rest : ∀ value, (next value).Silent) : (first >>= next).Silent :=
  Keeps.bind start rest

theorem silent_forM {items : List ρ} {visit : ρ → Action Unit}
    (silent : ∀ item, (visit item).Silent) : (items.forM visit).Silent :=
  keeps_forM silent

/-- Wherever an action starts, it sends one request over and over, so many times at least and at
most. -/
def Asks (action : Action α) (request : Request) (least most : Nat) : Prop :=
  ∀ session, ∃ attempts, least ≤ attempts ∧ attempts ≤ most ∧
    (action.runIn session).2.requests = session.requests ++ List.replicate attempts request

theorem asks_exchange (request : Request) : (exchange request).Asks request 1 1 := by
  intro session
  refine ⟨1, Nat.le_refl 1, Nat.le_refl 1, ?_⟩
  change (session.traffic ++ [Session.Step.request request]).filterMap Session.Step.request? = _
  exact List.filterMap_append

theorem Silent.asks {action : Action α} (silent : action.Silent) (request : Request) (most : Nat) :
    action.Asks request 0 most := by
  intro session
  refine ⟨0, Nat.le_refl 0, Nat.zero_le most, ?_⟩
  rw [silent, List.replicate_zero, List.append_nil]

theorem Asks.weaken {action : Action α} {request : Request} {least most : Nat}
    (asks : action.Asks request least most) : action.Asks request 0 most := by
  intro session
  obtain ⟨attempts, -, bounded, sent⟩ := asks session
  exact ⟨attempts, Nat.zero_le attempts, bounded, sent⟩

/-- What comes next may be left out by a failure, so that only its most counts. -/
theorem Asks.bind {first : Action α} {next : α → Action β} {request : Request}
    {least most more : Nat} (start : first.Asks request least most)
    (rest : ∀ value, (next value).Asks request 0 more) :
    (first >>= next).Asks request least (most + more) := by
  intro session
  obtain ⟨attempts, enough, bounded, sent⟩ := start session
  rw [runIn_bind]
  cases ran : first.runIn session with
  | mk result later =>
      rw [ran] at sent
      cases result with
      | error failure => exact ⟨attempts, enough, Nat.le_add_right_of_le bounded, sent⟩
      | ok value =>
          obtain ⟨others, -, othersBounded, othersSent⟩ := rest value later
          refine ⟨attempts + others, Nat.le_add_right_of_le enough,
            Nat.add_le_add bounded othersBounded, ?_⟩
          rw [othersSent, sent, List.append_assoc, List.replicate_append_replicate]

theorem Asks.bind_silent {first : Action α} {next : α → Action β} {request : Request}
    {least most : Nat} (asks : first.Asks request least most)
    (silent : ∀ value, (next value).Silent) : (first >>= next).Asks request least most :=
  asks.bind fun value => (silent value).asks request 0

theorem Silent.bind_asks {first : Action α} {next : α → Action β} {request : Request} {most : Nat}
    (silent : first.Silent) (asks : ∀ value, (next value).Asks request 0 most) :
    (first >>= next).Asks request 0 most := by
  have both := (silent.asks request 0).bind asks
  rwa [Nat.zero_add] at both

/-!
## Sessions alike
-/

/-- Two actions give the same result in sessions that are alike, and leave sessions alike. -/
def Agree (alike : Session → Session → Prop) (left right : Action α) : Prop :=
  ∀ first second, alike first second →
    (left.runIn first).1 = (right.runIn second).1 ∧
      alike (left.runIn first).2 (right.runIn second).2

section Agree

variable {alike : Session → Session → Prop}

theorem agree_pure (value : α) : Agree alike (pure value) (pure value) :=
  fun _ _ related => ⟨rfl, related⟩

theorem agree_throw (failure : Failure) :
    Agree alike (throw failure : Action α) (throw failure) :=
  fun _ _ related => ⟨rfl, related⟩

theorem agree_ofExcept {ε : Type} (failure : ε → Failure) (result : Except ε α) :
    Agree alike (ofExcept failure result) (ofExcept failure result) := by
  cases result with
  | ok value => exact agree_pure value
  | error error => exact agree_throw (failure error)

theorem Agree.bind {left right : Action α} {leftNext rightNext : α → Action β}
    (start : Agree alike left right)
    (rest : ∀ value, Agree alike (leftNext value) (rightNext value)) :
    Agree alike (left >>= leftNext) (right >>= rightNext) := by
  intro first second related
  obtain ⟨sameResult, relatedLater⟩ := start first second related
  rw [runIn_bind, runIn_bind]
  generalize left.runIn first = leftRun at *
  generalize right.runIn second = rightRun at *
  obtain ⟨result, firstLater⟩ := leftRun
  obtain ⟨otherResult, secondLater⟩ := rightRun
  obtain rfl : result = otherResult := sameResult
  cases result with
  | ok value => exact rest value firstLater secondLater relatedLater
  | error failure => exact ⟨rfl, relatedLater⟩

/-- What comes next may look at the session, where it agrees for sessions that are alike. -/
theorem agree_get_bind {leftNext rightNext : Session → Action β}
    (rest : ∀ first second, alike first second →
      Agree alike (leftNext first) (rightNext second)) :
    Agree alike (get >>= leftNext) (get >>= rightNext) := by
  intro first second related
  rw [runIn_bind_of_ok (runIn_get first), runIn_bind_of_ok (runIn_get second)]
  exact rest first second related first second related

theorem agree_forM {items : List ρ} {leftVisit rightVisit : ρ → Action Unit}
    (agree : ∀ item, Agree alike (leftVisit item) (rightVisit item)) :
    Agree alike (items.forM leftVisit) (items.forM rightVisit) := by
  induction items with
  | nil => exact agree_pure ()
  | cons item items ih => exact (agree item).bind fun _ => ih

end Agree

end MediaSearch.Action

namespace MediaSearch.Session

/-- Two sessions have all in common but what was noted. -/
def AlikeButNotes (first second : Session) : Prop :=
  ∃ notes, second = { first with notes }

namespace AlikeButNotes

theorem now_eq {first second : Session} (alike : AlikeButNotes first second) :
    first.now = second.now := by
  obtain ⟨notes, rfl⟩ := alike
  rfl

theorem jitter_eq {first second : Session} (alike : AlikeButNotes first second) :
    first.jitter = second.jitter := by
  obtain ⟨notes, rfl⟩ := alike
  rfl

theorem requests_eq {first second : Session} (alike : AlikeButNotes first second) :
    first.requests = second.requests := by
  obtain ⟨notes, rfl⟩ := alike
  rfl

theorem after_note (level : Int) (text : String) (session : Session) :
    AlikeButNotes session ((Action.note level text).runIn session).2 :=
  ⟨_, rfl⟩

theorem agree_note (level : Int) (text : String) :
    Action.Agree AlikeButNotes (Action.note level text) (Action.note level text) := by
  rintro first second ⟨notes, rfl⟩
  exact ⟨rfl, _, rfl⟩

theorem agree_pause (delay : Binary64) :
    Action.Agree AlikeButNotes (Action.pause delay) (Action.pause delay) := by
  rintro first second ⟨notes, rfl⟩
  exact ⟨rfl, _, rfl⟩

theorem agree_exchange (request : Request) :
    Action.Agree AlikeButNotes (Action.exchange request) (Action.exchange request) := by
  rintro first second ⟨notes, rfl⟩
  exact ⟨rfl, _, rfl⟩

end AlikeButNotes

end MediaSearch.Session
