import GptTrader.TradeIdeas.Autonomy

/-!
# What the autonomy reader accepts

A contiguous history is a list of lines whose entries decode and count up from
version one.  The reader accepts exactly these.  Of the other contents it fails
closed on all but those whose first bad line raises an exception it does not
catch.
-/

namespace GptTrader

namespace AutonomyLog

variable (formats : TextFormats)

/-- The entries of a contiguous, well-formed history. -/
inductive Contiguous : List StoredLine → List AutonomyStateEntry → Prop where
  | nil : Contiguous [] []
  | blank {lines : List StoredLine} {entries : List AutonomyStateEntry}
      (earlier : Contiguous lines entries) :
      Contiguous (lines ++ [.blank]) entries
  | entry {lines : List StoredLine} {entries : List AutonomyStateEntry}
      {payload : Json} {entry : AutonomyStateEntry}
      (earlier : Contiguous lines entries)
      (decoded : AutonomyStateEntry.fromDict formats payload = .ok entry)
      (next : entry.version = (entries.length + 1 : ℕ)) :
      Contiguous (lines ++ [.json payload]) (entries ++ [entry])

/-- `int` of an infinite float overflows. -/
def InfiniteVersion (payload : Json) : Prop :=
  ∃ negative, payload.field? "version" = some (.float (.infinity negative))

/-- Every field converts and the version is positive, but the reason is not a
string and so has no `strip`. -/
def UnstrippableReason (payload : Json) : Prop :=
  ∃ version timestamp mode actorType actorId reason evidence,
    (payload.getItem "version" >>= formats.toInt) = .ok version ∧
      (payload.getItem "timestamp" >>= formats.toDateTime) = .ok timestamp ∧
      (payload.getItem "mode" >>= AutonomyMode.parse) = .ok mode ∧
      (payload.getItem "actor_type" >>= ActorType.parse) = .ok actorType ∧
      payload.getItem "actor_id" = .ok actorId ∧
      payload.getItem "reason" = .ok reason ∧
      (payload.getD "evidence" (.arr []) >>=
        AutonomyStateEntry.evidenceItems) = .ok evidence ∧
      1 ≤ version ∧ ∀ text, reason ≠ .str text

/-- A line whose decoding raises what the reader does not catch. -/
inductive Unreported : StoredLine → Prop where
  | loading {error : PyError} (uncaught : error.autonomyCaught = false) :
      Unreported (.malformed error)
  | version {payload : Json} (infinite : InfiniteVersion payload) :
      Unreported (.json payload)
  | reason {payload : Json} (unstrippable : UnstrippableReason formats payload) :
      Unreported (.json payload)

variable {formats} {payload : Json}

theorem getItem_caught {key : String} {error : PyError}
    (raised : payload.getItem key = .error error) :
    error.autonomyCaught = true := by
  unfold Json.getItem at raised
  split at raised
  · split at raised
    · cases raised
    · cases raised
      rfl
  · cases raised
    rfl

theorem field_caught {α : Type} {key : String} {convert : Json → Except PyError α}
    {error : PyError}
    (caught : ∀ value error, convert value = .error error →
      error.autonomyCaught = true)
    (raised : (payload.getItem key >>= convert) = .error error) :
    error.autonomyCaught = true := by
  rcases Outcome.bind_eq_error.mp raised with missing | ⟨value, _, failed⟩
  · exact getItem_caught missing
  · exact caught value error failed

section

variable (value : Json) (error : PyError)

include value error

theorem toDateTime_caught (raised : formats.toDateTime value = .error error) :
    error.autonomyCaught = true := by
  unfold TextFormats.toDateTime at raised
  split at raised
  · split at raised
    · cases raised
    · cases raised
      rfl
  · cases raised
    rfl

theorem parseMode_caught (raised : AutonomyMode.parse value = .error error) :
    error.autonomyCaught = true := by
  cases value with
  | str text =>
      simp only [AutonomyMode.parse] at raised
      split at raised
      · cases raised
      · split at raised
        · cases raised
        · split at raised
          · cases raised
          · cases raised
            rfl
  | _ =>
      cases raised
      rfl

theorem parseActor_caught (raised : ActorType.parse value = .error error) :
    error.autonomyCaught = true := by
  cases value with
  | str text =>
      simp only [ActorType.parse] at raised
      split at raised
      · cases raised
      · split at raised
        · cases raised
        · split at raised
          · cases raised
          · split at raised
            · cases raised
            · cases raised
              rfl
  | _ =>
      cases raised
      rfl

theorem evidenceItems_caught
    (raised : AutonomyStateEntry.evidenceItems value = .error error) :
    error.autonomyCaught = true := by
  cases value with
  | arr items => cases raised
  | str text => cases raised
  | obj fields => cases raised
  | _ =>
      cases raised
      rfl

end

/-- `int(value)` raises nothing uncaught but on an infinite float. -/
theorem toInt_uncaught {value : Json} {error : PyError}
    (raised : formats.toInt value = .error error)
    (uncaught : error.autonomyCaught = false) :
    ∃ negative, value = .float (.infinity negative) := by
  cases value with
  | float float =>
      cases float with
      | finite number => cases raised
      | infinity negative => exact ⟨negative, rfl⟩
      | nan =>
          cases raised
          cases uncaught
  | str text =>
      simp only [TextFormats.toInt] at raised
      split at raised
      · cases raised
      · cases raised
        cases uncaught
  | bool flag => cases raised
  | int number => cases raised
  | null =>
      cases raised
      cases uncaught
  | arr items =>
      cases raised
      cases uncaught
  | obj fields =>
      cases raised
      cases uncaught

theorem fromDict_uncaught {error : PyError}
    (raised : AutonomyStateEntry.fromDict formats payload = .error error)
    (uncaught : error.autonomyCaught = false) :
    InfiniteVersion payload ∨ UnstrippableReason formats payload := by
  have never : error.autonomyCaught ≠ true := by simp [uncaught]
  unfold AutonomyStateEntry.fromDict at raised
  rcases Outcome.bind_eq_error.mp raised with first | ⟨version, versioned, raised⟩
  · rcases Outcome.bind_eq_error.mp first with missing | ⟨value, found, failed⟩
    · exact absurd (getItem_caught missing) never
    · obtain ⟨negative, rfl⟩ := toInt_uncaught failed uncaught
      exact .inl ⟨negative, Json.getItem_eq_ok.mp found⟩
  rcases Outcome.bind_eq_error.mp raised with failed | ⟨timestamp, timed, raised⟩
  · exact absurd (field_caught toDateTime_caught failed) never
  rcases Outcome.bind_eq_error.mp raised with failed | ⟨mode, moded, raised⟩
  · exact absurd (field_caught parseMode_caught failed) never
  rcases Outcome.bind_eq_error.mp raised with failed | ⟨actorType, typed, raised⟩
  · exact absurd (field_caught parseActor_caught failed) never
  rcases Outcome.bind_eq_error.mp raised with failed | ⟨actorId, named, raised⟩
  · exact absurd (getItem_caught failed) never
  rcases Outcome.bind_eq_error.mp raised with failed | ⟨reason, given, raised⟩
  · exact absurd (getItem_caught failed) never
  rcases Outcome.bind_eq_error.mp raised with failed | ⟨evidence, listed, raised⟩
  · rcases Outcome.bind_eq_error.mp failed with missing | ⟨value, _, failed⟩
    · cases payload with
      | obj fields => cases missing
      | _ => cases named
    · exact absurd (evidenceItems_caught value error failed) never
  right
  unfold AutonomyStateEntry.make at raised
  split at raised
  · next positive =>
      refine ⟨version, timestamp, mode, actorType, actorId, reason, evidence,
        versioned, timed, moded, typed, named, given, listed, positive, ?_⟩
      rintro text rfl
      simp only at raised
      split at raised
      · cases raised
      · cases raised
        cases uncaught
  · cases raised
    cases uncaught

theorem fromDict_of_infiniteVersion (infinite : InfiniteVersion payload) :
    AutonomyStateEntry.fromDict formats payload = .error .overflowError := by
  obtain ⟨negative, found⟩ := infinite
  unfold AutonomyStateEntry.fromDict
  rw [Json.getItem_eq_ok.mpr found]
  rfl

theorem fromDict_of_unstrippableReason
    (unstrippable : UnstrippableReason formats payload) :
    AutonomyStateEntry.fromDict formats payload = .error .attributeError := by
  obtain ⟨version, timestamp, mode, actorType, actorId, reason, evidence,
    versioned, timed, moded, typed, named, given, listed, positive, notText⟩ :=
      unstrippable
  have made : AutonomyStateEntry.make version timestamp mode actorType actorId
      reason evidence = .error .attributeError := by
    unfold AutonomyStateEntry.make
    rw [dif_pos positive]
    cases reason with
    | str text => exact absurd rfl (notText text)
    | _ => rfl
  unfold AutonomyStateEntry.fromDict
  rw [versioned, timed, moded, typed, named, given, listed]
  exact made

theorem decodeLine_uncaught {line : StoredLine} :
    (∃ error, decodeLine formats line = .error error ∧
        error.autonomyCaught = false) ↔ Unreported formats line := by
  constructor
  · rintro ⟨error, raised, uncaught⟩
    cases line with
    | blank => cases raised
    | malformed other =>
        cases raised
        exact .loading uncaught
    | json payload =>
        simp only [decodeLine] at raised
        match decoded : AutonomyStateEntry.fromDict formats payload with
        | .ok entry =>
            rw [decoded] at raised
            cases raised
        | .error other =>
            rw [decoded] at raised
            cases raised
            rcases fromDict_uncaught decoded uncaught with infinite | reason
            · exact .version infinite
            · exact .reason reason
  · intro unreported
    cases unreported with
    | loading uncaught => exact ⟨_, rfl, uncaught⟩
    | version infinite =>
        refine ⟨.overflowError, ?_, rfl⟩
        rw [decodeLine, fromDict_of_infiniteVersion infinite]
        rfl
    | reason unstrippable =>
        refine ⟨.attributeError, ?_, rfl⟩
        rw [decodeLine, fromDict_of_unstrippableReason unstrippable]
        rfl

def Reading.start : Reading :=
  { line := 0
    entries := [] }

theorem history_eq_ok {lines : List StoredLine}
    {entries : List AutonomyStateEntry} :
    history formats lines = .ok entries ↔
      ∃ reading, replay (readLine formats) .start lines = .ok reading ∧
        reading.entries = entries :=
  Outcome.map_eq_ok

theorem history_eq_error {lines : List StoredLine} {error : ServiceError} :
    history formats lines = .error error ↔
      replay (readLine formats) .start lines = .error error := by
  unfold history
  change Except.map _ (replay (readLine formats) .start lines) = _ ↔ _
  cases replay (readLine formats) .start lines with
  | ok reading => simp [Except.map]
  | error other => simp [Except.map]

theorem readLine_entry {reading : Reading} {line : StoredLine}
    {entry : AutonomyStateEntry}
    (decoded : decodeLine formats line = .ok (some entry))
    (next : entry.version = (reading.entries.length + 1 : ℕ)) :
    readLine formats reading line =
      .ok
        { line := reading.line + 1
          entries := reading.entries ++ [entry] } := by
  unfold readLine
  rw [decoded]
  exact if_pos next

theorem readLine_eq_ok {reading next : Reading} {line : StoredLine}
    (accepted : readLine formats reading line = .ok next) :
    (line = .blank ∧ next.entries = reading.entries) ∨
      ∃ payload entry, line = .json payload ∧
        AutonomyStateEntry.fromDict formats payload = .ok entry ∧
        entry.version = (reading.entries.length + 1 : ℕ) ∧
        next.entries = reading.entries ++ [entry] := by
  cases line with
  | blank =>
      cases accepted
      exact .inl ⟨rfl, rfl⟩
  | malformed error =>
      simp only [readLine, decodeLine] at accepted
      split at accepted <;> cases accepted
  | json payload =>
      simp only [readLine, decodeLine] at accepted
      match decoded : AutonomyStateEntry.fromDict formats payload with
      | .error error =>
          rw [decoded] at accepted
          simp only [Except.map] at accepted
          split at accepted <;> cases accepted
      | .ok entry =>
          rw [decoded] at accepted
          simp only [Except.map] at accepted
          split at accepted
          · next version =>
              cases accepted
              exact .inr ⟨payload, entry, rfl, decoded, version, rfl⟩
          · cases accepted

theorem history_iff_contiguous {lines : List StoredLine}
    {entries : List AutonomyStateEntry} :
    history formats lines = .ok entries ↔ Contiguous formats lines entries := by
  rw [history_eq_ok]
  constructor
  · rintro ⟨reading, read, rfl⟩
    refine Replay.replay_induction
      (fun lines reading => Contiguous formats lines reading.entries) .nil ?_ read
    intro lines reading line next _ contiguous accepted
    rcases readLine_eq_ok accepted with
      ⟨rfl, same⟩ | ⟨payload, entry, rfl, decoded, version, appended⟩
    · rw [same]
      exact .blank contiguous
    · rw [appended]
      exact .entry contiguous decoded version
  · intro contiguous
    induction contiguous with
    | nil => exact ⟨.start, rfl, rfl⟩
    | blank earlier induction =>
        obtain ⟨reading, read, rfl⟩ := induction
        exact ⟨_, Replay.replay_snoc_eq_ok.mpr ⟨reading, read, rfl⟩, rfl⟩
    | entry earlier decoded version induction =>
        obtain ⟨reading, read, rfl⟩ := induction
        refine ⟨_, Replay.replay_snoc_eq_ok.mpr ⟨reading, read,
          readLine_entry ?_ version⟩, rfl⟩
        rw [decodeLine, decoded]
        rfl

def Escapes (formats : TextFormats) (lines : List StoredLine) : Prop :=
  ∃ earlier line later entries, lines = earlier ++ line :: later ∧
    Contiguous formats earlier entries ∧ Unreported formats line

/-- Refused lines raise an `AutonomyIntegrityError` or what their decoding
raised. -/
theorem readLine_eq_error {reading : Reading} {line : StoredLine}
    {error : ServiceError}
    (refused : readLine formats reading line = .error error) :
    error.kind = .autonomyIntegrity ↔ ¬Unreported formats line := by
  rw [← decodeLine_uncaught]
  unfold readLine at refused
  match decoded : decodeLine formats line with
  | .ok none =>
      rw [decoded] at refused
      cases refused
  | .ok (some entry) =>
      simp only [decoded] at refused
      split at refused
      · cases refused
      · cases refused
        simp [ServiceError.about]
  | .error thrown =>
      simp only [decoded] at refused
      split at refused
      · next caught =>
          cases refused
          simp [ServiceError.about, caught]
      · next uncaught =>
          cases refused
          simpa [ServiceError.escaped, ServiceError.plain] using uncaught

theorem readLine_unreported {reading : Reading} {line : StoredLine}
    (unreported : Unreported formats line) :
    ∃ error, readLine formats reading line = .error error := by
  obtain ⟨error, decoded, uncaught⟩ := decodeLine_uncaught.mpr unreported
  refine ⟨.escaped error, ?_⟩
  simp only [readLine, decoded, uncaught, Bool.false_eq_true, if_false]

theorem history_kind {lines : List StoredLine} {error : ServiceError}
    (refused : history formats lines = .error error) :
    error.kind = .autonomyIntegrity ↔ ¬Escapes formats lines := by
  rw [history_eq_error] at refused
  constructor
  · rintro reported ⟨earlier, line, later, entries, rfl, contiguous, unreported⟩
    obtain ⟨reading, read, _⟩ :=
      history_eq_ok.mp (history_iff_contiguous.mpr contiguous)
    obtain ⟨thrown, stopped⟩ := readLine_unreported unreported
    rw [Replay.replay_eq_error.mpr ⟨earlier, line, later, reading, rfl, read,
      stopped⟩] at refused
    cases refused
    exact (readLine_eq_error stopped).mp reported unreported
  · intro inside
    obtain ⟨earlier, line, later, reading, rfl, read, stopped⟩ :=
      Replay.replay_eq_error.mp refused
    have contiguous := history_iff_contiguous.mp
      (history_eq_ok.mpr ⟨reading, read, rfl⟩)
    refine (readLine_eq_error stopped).mpr fun unreported => inside ?_
    exact ⟨earlier, line, later, reading.entries, rfl, contiguous, unreported⟩

/-- Resolution answers `research_only` and reports the broken log. -/
def FailsClosed (formats : TextFormats) (lines : List StoredLine) : Prop :=
  ∃ message, resolveAutonomy formats lines =
    .ok
      { mode := .researchOnly
        version := none
        source := .failClosed
        error := some message }

/-- Resolution fails closed on a log that is no contiguous history exactly when
its first bad line does not escape. -/
theorem failsClosed_iff {lines : List StoredLine}
    (broken : ¬∃ entries, Contiguous formats lines entries) :
    FailsClosed formats lines ↔ ¬Escapes formats lines := by
  match outcome : history formats lines with
  | .ok entries =>
      exact absurd ⟨entries, history_iff_contiguous.mp outcome⟩ broken
  | .error error =>
      rw [← history_kind outcome]
      have found : current formats lines = .error error := by
        unfold current
        rw [outcome]
        rfl
      unfold FailsClosed resolveAutonomy
      rw [found]
      constructor
      · rintro ⟨message, resolved⟩
        by_contra escaped
        simp [escaped] at resolved
      · intro reported
        exact ⟨error.message, by simp [reported, failClosedAutonomyMode]⟩

end AutonomyLog

end GptTrader
