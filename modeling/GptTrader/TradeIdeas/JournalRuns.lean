import GptTrader.Python.TableFormats
import GptTrader.TradeIdeas.JournalReading

/-!
# Runs of the journal writers

A run is any sequence of writer calls, each in its own transaction, starting
from an empty journal.  Every writer but `record_intent` relies on its own checks
to append a line the reader accepts; a call is `Sound` when these checks are
enough in the state it finds.
-/

namespace GptTrader

namespace ExecutionJournal

variable (context : JournalContext)

/-- The calls on the journal. -/
inductive JournalCall where
  | recordIntent (decisionId recordHash : String) (intent : Payload)
  | recordReceipt (decisionId : String) (receipt : Payload)
  | markReconciled (decisionId : String)
  | recordSimulatedResolution (payload : Payload)

namespace JournalCall

def body : JournalCall → JournalTx Unit
  | .recordIntent decisionId recordHash intent =>
      ExecutionJournal.recordIntent context decisionId recordHash intent
  | .recordReceipt decisionId receipt =>
      ExecutionJournal.recordReceipt context decisionId receipt
  | .markReconciled decisionId =>
      ExecutionJournal.markReconciled context decisionId
  | .recordSimulatedResolution payload =>
      ExecutionJournal.recordSimulatedResolution context payload

/-- One call on the journal. -/
def perform (call : JournalCall) (lines : List StoredLine) : List StoredLine :=
  (Tx.transaction (fun before _ => before) (call.body context) lines).2

/-- The journal after a list of calls. -/
def run (calls : List JournalCall) (lines : List StoredLine) :
    List StoredLine :=
  calls.foldl (fun reached call => call.perform context reached) lines

def Faithful (payload : Payload) : Prop :=
  payload.digest = context.payloadHash payload.value

/-- What the reader checks and the writer does not: what is stored hashes like its
stored value, and an operation identity is not the decision id of an intent. -/
def Sound (lines : List StoredLine) : JournalCall → Prop
  | .recordReceipt decisionId receipt =>
      ∀ found entry, entries context lines = .ok found →
        found.get? decisionId = some entry → entry.receipt = none →
        validateReceipt context entry receipt.value = .ok () →
        Faithful context receipt
  | .recordSimulatedResolution payload =>
      ∀ operation,
        validateSimulatedResolution context (simulatedEvent payload)
          payload.digest = .ok operation →
        simulatedIdentity operation ∉ simulatedIds lines →
        Faithful context payload ∧
          simulatedIdentity operation ∉ intentIds lines
  | _ => True

/-- Every call is sound at its lines. -/
def RunsSound : List JournalCall → List StoredLine → Prop
  | [], _ => True
  | call :: rest, lines =>
      call.Sound context lines ∧ RunsSound rest (call.perform context lines)

end JournalCall

section Appending

variable {context} {lines reached : List StoredLine} {reading : JournalReading}

theorem getItem_of_field {payload value : Json} {key : String}
    (found : payload.field? key = some value) :
    python (payload.getItem key) = .ok value := by
  rw [python_eq_ok, Json.getItem_eq_ok, found]

theorem same_text (text : String) : (Json.str text).same (.str text) = true :=
  Json.same_str.mpr rfl

theorem readEvent_receiptEvent {id : String} {entry : ExecutionJournalEntry}
    {receipt : Payload} (found : reading.entries.get? id = some entry)
    (pending : entry.receipt = none) (unsettled : entry.reconciled = false)
    (faithful : JournalCall.Faithful context receipt)
    (valid : validateReceipt context entry receipt.value = .ok ()) :
    readEvent context reading (receiptEvent context id entry receipt) =
      .ok
        { reading with
          entries := reading.entries.set entry.decisionId
            { entry with receipt := some receipt.value } } := by
  have intentHash : Json.same (.str (context.payloadHash entry.intent))
      (.str (context.payloadHash entry.intent)) = true := same_text _
  have receiptHash : Json.same (.str receipt.digest)
      (.str (context.payloadHash receipt.value)) = true := by
    rw [faithful]
    exact same_text _
  simp [readEvent, receiptEvent, Json.getItem, Json.field?, journalKey,
    readReceipt, JournalReading.current, found, pending, unsettled, intentHash,
    receiptHash, valid, bind, Except.bind]

theorem readEvent_reconciledEvent {id : String}
    {entry : ExecutionJournalEntry} {receipt : Json}
    (found : reading.entries.get? id = some entry)
    (received : entry.receipt = some receipt)
    (filled : isFilled receipt = .ok true)
    (unsettled : entry.reconciled = false) :
    readEvent context reading (reconciledEvent context id receipt) =
      .ok
        { reading with
          entries := reading.entries.set entry.decisionId
            { entry with reconciled := true } } := by
  have receiptHash : Json.same (.str (context.payloadHash receipt))
      (.str (context.payloadHash receipt)) = true := same_text _
  simp [readEvent, reconciledEvent, Json.getItem, Json.field?, journalKey,
    readReconciled, JournalReading.current, found, received, filled, unsettled,
    receiptHash, bind, Except.bind]

theorem readEvent_simulatedEvent {payload : Payload}
    {operation : PositionOperation}
    (faithful : JournalCall.Faithful context payload)
    (valid : validateSimulatedResolution context (simulatedEvent payload)
      payload.digest = .ok operation)
    (fresh : reading.entries.get? (simulatedIdentity operation) = none)
    (unused : simulatedIdentity operation ∉ reading.simulated) :
    readEvent context reading (simulatedEvent payload) =
      .ok
        { reading with
          simulated := reading.simulated ++ [simulatedIdentity operation] } := by
  have stored : (simulatedEvent payload).field? "resolution" =
      some payload.value := rfl
  have kind : (simulatedEvent payload).field? "kind" =
      some (.str "simulated_resolution") := rfl
  unfold readEvent readSimulated
  rw [getItem_of_field kind, getItem_of_field stored]
  rw [faithful] at valid
  simp [valid, fresh, unused, bind, Except.bind]

theorem readLines_snoc {line : StoredLine}
    {next : JournalReading} (read : readLines context lines = .ok reading)
    (accepted : readLine context reading line = .ok next) :
    readLines context (lines ++ [line]) = .ok next := by
  unfold readLines at read ⊢
  rw [Outcome.mapError_eq_ok] at read ⊢
  exact Replay.replay_snoc_eq_ok.mpr ⟨reading, read, accepted⟩

theorem entries_eq_ok {found : Dict String ExecutionJournalEntry} :
    entries context lines = .ok found ↔
      ∃ reading, readLines context lines = .ok reading ∧
        reading.entries = found :=
  Outcome.map_eq_ok

end Appending

section Resolutions

variable {context} {lines : List StoredLine}

def Collects (lines : List StoredLine) (records : Dict Json Json) : Prop :=
  ∀ id ∈ simulatedIds lines, ∃ payload,
    (Json.str id, payload) ∈ records.entries ∧
      payload.field? "operation_id" = some (.str id)

theorem collects {records : Dict Json Json}
    (collected : replay collectResolution Dict.empty lines = .ok records) :
    Collects lines records := by
  refine Replay.replay_induction Collects ?_ ?_ collected
  · simp [Collects, simulatedIds]
  intro lines records line next _ known accepted id member
  rw [simulatedIds_snoc, List.mem_append, Option.mem_toList] at member
  cases line with
  | blank =>
      cases accepted
      simp only [simulatedId?, reduceCtorEq, or_false] at member
      exact known id member
  | malformed error => cases accepted
  | json event =>
      unfold collectResolution at accepted
      rw [Outcome.bind_eq_ok] at accepted
      obtain ⟨kind, found, accepted⟩ := accepted
      rw [python_eq_ok, Json.getItem_eq_ok] at found
      split at accepted
      · next simulated =>
          subst simulated
          simp only [Outcome.bind_eq_ok, python_eq_ok, Json.getItem_eq_ok,
            demand_eq_ok, Option.isNone_iff_eq_none] at accepted
          obtain ⟨payload, stored, operationId, identity, _, absent,
            returned⟩ := accepted
          cases returned
          rcases member with earlier | last
          · obtain ⟨other, collected, named⟩ := known id earlier
            refine ⟨other, Dict.mem_entries_set.mpr (.inr ⟨?_, collected⟩),
              named⟩
            rintro rfl
            rw [Dict.get?_eq_some_iff.mpr collected] at absent
            cases absent
          · obtain ⟨_, other, located, named⟩ := simulatedId?_eq_some last
            obtain rfl : payload = other := by
              rw [stored] at located
              simpa using located
            obtain rfl : operationId = .str id := by
              rw [identity] at named
              simpa using named
            exact ⟨payload, Dict.mem_entries_set.mpr (.inl ⟨rfl, rfl⟩), named⟩
      · next different =>
          cases accepted
          rcases member with earlier | last
          · exact known id earlier
          · obtain ⟨simulated, _⟩ := simulatedId?_eq_some last
            rw [found, Option.some.injEq] at simulated
            exact absurd simulated different

theorem sameOperation_none {payload : Json} {stored : List Json} {id : String}
    (absent : sameOperation payload stored = .ok none)
    (named : payload.field? "operation_id" = some (.str id)) :
    ∀ existing ∈ stored,
      existing.field? "operation_id" ≠ some (.str id) := by
  induction stored with
  | nil => simp
  | cons first rest induction =>
      simp only [sameOperation, Outcome.bind_eq_ok, Json.getItem_eq_ok,
        named, Option.some.injEq] at absent
      obtain ⟨operationId, found, given, rfl, absent⟩ := absent
      split at absent
      · cases absent
      · next different =>
          intro existing member
          rcases List.mem_cons.mp member with rfl | later
          · rw [found]
            intro same
            cases same
            exact different (same_text id)
          · exact induction absent existing later

theorem unused_identity {payload : Json} {stored : List Json} {id : String}
    (read : simulatedResolutions context lines = .ok stored)
    (absent : sameOperation payload stored = .ok none)
    (named : payload.field? "operation_id" = some (.str id)) :
    id ∉ simulatedIds lines := by
  unfold simulatedResolutions at read
  simp only [Outcome.bind_eq_ok] at read
  obtain ⟨_, _, records, collected, returned⟩ := read
  cases returned
  intro member
  obtain ⟨existing, stored, same⟩ := collects collected id member
  exact sameOperation_none absent named existing
    (List.mem_map.mpr ⟨_, stored, rfl⟩) same

end Resolutions

section Runs

variable {context} {lines reached : List StoredLine} {reading : JournalReading}

/-- The journal can be read. -/
def Readable (context : JournalContext) (lines : List StoredLine) : Prop :=
  ∃ reading, readLines context lines = .ok reading

theorem Readable.intent {decisionId recordHash : String} {intent : Payload}
    (returned : recordIntent context decisionId recordHash intent lines =
      (.ok (), reached)) : Readable context reached := by
  unfold recordIntent at returned
  simp only [Tx.bind_eq_ok] at returned
  obtain ⟨_, _, _, _, _, _, _, _, _, _, _, checked, finished⟩ := returned
  obtain ⟨accepted, rfl⟩ := Tx.read_eq_ok.mp checked
  obtain ⟨_, rfl⟩ := Tx.pure_eq_ok.mp finished
  obtain ⟨reading, read, _⟩ := entries_eq_ok.mp accepted
  exact ⟨reading, read⟩

theorem Readable.receipt {decisionId : String} {receipt : Payload}
    (readable : Readable context lines)
    (sound : (JournalCall.recordReceipt decisionId receipt).Sound context lines)
    (returned : recordReceipt context decisionId receipt lines =
      (.ok (), reached)) : Readable context reached := by
  unfold recordReceipt at returned
  obtain ⟨current, middle, found, returned⟩ := Tx.bind_eq_ok.mp returned
  obtain ⟨accepted, rfl⟩ := Tx.read_eq_ok.mp found
  cases located : current.get? decisionId with
  | none => simp [located] at returned
  | some entry =>
      cases pending : entry.receipt with
      | some stored =>
          simp only [located, pending] at returned
          obtain ⟨_, rfl⟩ := Tx.require_eq_ok.mp returned
          exact readable
      | none =>
          simp only [located, pending] at returned
          obtain ⟨_, _, checked, returned⟩ := Tx.bind_eq_ok.mp returned
          obtain ⟨valid, rfl⟩ := Tx.read_eq_ok.mp checked
          rw [append, Tx.modify_eq_ok] at returned
          subst returned
          have faithful := sound current entry accepted located pending valid
          obtain ⟨reading, read, rfl⟩ := entries_eq_ok.mp accepted
          have unsettled := (reading_reflects read).unsettled located pending
          exact ⟨_, readLines_snoc read
            (readEvent_receiptEvent located pending unsettled faithful valid)⟩

theorem Readable.reconciled {decisionId : String}
    (readable : Readable context lines)
    (returned : markReconciled context decisionId lines = (.ok (), reached)) :
    Readable context reached := by
  unfold markReconciled at returned
  obtain ⟨current, middle, found, returned⟩ := Tx.bind_eq_ok.mp returned
  obtain ⟨accepted, rfl⟩ := Tx.read_eq_ok.mp found
  cases located : current.get? decisionId with
  | none => simp [located] at returned
  | some entry =>
      simp only [located] at returned
      split at returned
      · obtain ⟨_, rfl⟩ := Tx.pure_eq_ok.mp returned
        exact readable
      · next unsettled =>
          cases received : entry.receipt with
          | none => simp [received] at returned
          | some receipt =>
              simp only [received] at returned
              obtain ⟨filled, _, checked, returned⟩ :=
                Tx.bind_eq_ok.mp returned
              obtain ⟨isFilled, rfl⟩ := Tx.read_eq_ok.mp checked
              obtain ⟨_, _, required, returned⟩ := Tx.bind_eq_ok.mp returned
              obtain ⟨rfl, rfl⟩ := Tx.require_eq_ok.mp required
              rw [append, Tx.modify_eq_ok] at returned
              subst returned
              obtain ⟨reading, read, rfl⟩ := entries_eq_ok.mp accepted
              exact ⟨_, readLines_snoc read
                (readEvent_reconciledEvent located received
                  (python_eq_ok.mp isFilled) (by simpa using unsettled))⟩

theorem Readable.simulated {payload : Payload}
    (readable : Readable context lines)
    (sound : (JournalCall.recordSimulatedResolution payload).Sound context lines)
    (returned : recordSimulatedResolution context payload lines =
      (.ok (), reached)) : Readable context reached := by
  unfold recordSimulatedResolution at returned
  obtain ⟨stored, middle, found, returned⟩ := Tx.bind_eq_ok.mp returned
  obtain ⟨collected, rfl⟩ := Tx.read_eq_ok.mp found
  obtain ⟨existing, _, searched, returned⟩ := Tx.bind_eq_ok.mp returned
  obtain ⟨search, rfl⟩ := Tx.read_eq_ok.mp searched
  cases existing with
  | some existing =>
      obtain ⟨_, rfl⟩ := Tx.require_eq_ok.mp returned
      exact readable
  | none =>
      obtain ⟨operation, _, checked, returned⟩ := Tx.bind_eq_ok.mp returned
      obtain ⟨valid, rfl⟩ := Tx.read_eq_ok.mp checked
      rw [append, Tx.modify_eq_ok] at returned
      subst returned
      have named := validateSimulatedResolution_identity rfl valid
      have unused := unused_identity collected (python_eq_ok.mp search) named
      obtain ⟨faithful, notIntent⟩ := sound operation valid unused
      obtain ⟨reading, read⟩ := readable
      have reflects := reading_reflects read
      have fresh : reading.entries.get? (simulatedIdentity operation) = none := by
        rw [reflects.intents, Option.not_isSome_iff_eq_none] at notIntent
        exact notIntent
      exact ⟨_, readLines_snoc read (readEvent_simulatedEvent faithful valid
        fresh (by rwa [reflects.resolutions]))⟩

namespace JournalCall

theorem perform_cases (call : JournalCall) :
    call.body context lines = (.ok (), call.perform context lines) ∨
      call.perform context lines = lines := by
  unfold perform
  match outcome : Tx.transaction (fun before _ => before) (call.body context)
      lines with
  | (.ok (), reached) => exact .inl (Tx.transaction_eq_ok.mp outcome)
  | (.error error, reached) =>
      obtain ⟨_, _, restored⟩ := Tx.transaction_eq_error outcome
      exact .inr restored

theorem perform_readable (call : JournalCall)
    (readable : Readable context lines) (sound : call.Sound context lines) :
    Readable context (call.perform context lines) := by
  rcases perform_cases call with returned | unchanged
  · cases call with
    | recordIntent decisionId recordHash intent => exact .intent returned
    | recordReceipt decisionId receipt =>
        exact readable.receipt sound returned
    | markReconciled decisionId => exact readable.reconciled returned
    | recordSimulatedResolution payload =>
        exact readable.simulated sound returned
  · rwa [unchanged]

theorem run_readable (calls : List JournalCall)
    (readable : Readable context lines)
    (sound : RunsSound context calls lines) :
    Readable context (run context calls lines) := by
  induction calls generalizing lines with
  | nil => exact readable
  | cons call rest induction =>
      exact induction (call.perform_readable readable sound.1) sound.2

end JournalCall

/-- Along every sound run the reader accepts what the writers stored, and the
journal is well formed. -/
theorem sound_runs_stay_readable (context : JournalContext)
    (calls : List JournalCall) (sound : JournalCall.RunsSound context calls []) :
    (∃ found, entries context (JournalCall.run context calls []) = .ok found) ∧
      WellFormed (JournalCall.run context calls []) := by
  obtain ⟨reading, read⟩ :=
    JournalCall.run_readable calls ⟨.empty, rfl⟩ sound
  have accepted := entries_eq_ok.mpr ⟨reading, read, rfl⟩
  exact ⟨⟨reading.entries, accepted⟩, wellFormed_of_entries accepted⟩

end Runs

section Examples

/-- Two decimals and one moment have spellings; intents, receipts and
resolutions have one digest each. -/
def paperContext : JournalContext :=
  { formats := tableFormats
      { entries := [("1", .finite 1), ("100", .finite 100)]
        nodup := by decide
        unmarked := by decide }
      { entries := [("2026-01-01T00:00:00+00:00", .utc 0)]
        nodup := Spelling.newYear_nodup
        unmarked := Spelling.newYear_unmarked }
    payloadHash := fun payload =>
      if payload.hasKey "order_id" then "receipt"
      else if payload.hasKey "operation_id" then "resolution"
      else "intent" }

def paperPayload (value : Json) : Payload :=
  { value := value
    digest := paperContext.payloadHash value }

def paperIntent (decisionId : String) : Payload :=
  paperPayload (.obj
    [("client_order_id", .str decisionId), ("symbol", .str "BTC-USD"),
      ("side", .str "buy"), ("order_type", .str "market"),
      ("quantity", .str "1"), ("reduce_only", .bool false)])

def paperReceipt (decisionId : String) : Payload :=
  paperPayload (.obj
    [("client_order_id", .str decisionId), ("decision_id", .str decisionId),
      ("symbol", .str "BTC-USD"), ("side", .str "buy"),
      ("order_id", .str "order-1"), ("status", .str "filled"),
      ("quantity", .str "1"), ("price", .str "100"),
      ("filled_at", .str "2026-01-01T00:00:00+00:00")])

def paperHash : String :=
  "aaaaaaaaaaaaaaaaaaaaaaaaaaaaaaaaaaaaaaaaaaaaaaaaaaaaaaaaaaaaaaaa"

def paperResolution : Payload :=
  paperPayload (.obj
    [("operation_id", .str ("simulated-close-" ++ paperHash)),
      ("target_decision_id", .str "entry-1"),
      ("target_record_hash", .str paperHash), ("quantity", .str "1"),
      ("price", .str "100"), ("resolved_at", .str "2026-01-01T00:00:00+00:00"),
      ("observed_at", .str "2026-01-01T00:00:00+00:00"),
      ("resolution", .str "expiry"),
      ("source", .str "simulated_candle_resolution"),
      ("evidence", .arr [.str "candle"])])

def paperRun : List JournalCall :=
  [.recordIntent "entry-1" paperHash (paperIntent "entry-1"),
    .recordReceipt "entry-1" (paperReceipt "entry-1"),
    .markReconciled "entry-1", .recordSimulatedResolution paperResolution]

theorem paper_run_sound : JournalCall.RunsSound paperContext paperRun [] := by
  refine ⟨trivial, fun _ _ _ _ _ _ => rfl, trivial, ?_, trivial⟩
  intro operation valid _
  refine ⟨rfl, ?_⟩
  have named := validateSimulatedResolution_identity rfl valid
  obtain identity : "simulated-close-" ++ paperHash =
      simulatedIdentity operation := by
    simpa [paperResolution, paperPayload, Json.field?] using named
  rw [← identity]
  decide +kernel

/-- An intent, its receipt and a simulated closing. -/
theorem paper_run_stays_readable :
    (∃ found, entries paperContext
        (JournalCall.run paperContext paperRun []) = .ok found) ∧
      WellFormed (JournalCall.run paperContext paperRun []) :=
  sound_runs_stay_readable paperContext paperRun paper_run_sound

def collidingRun : List JournalCall :=
  [.recordIntent ("simulated-close-" ++ paperHash) paperHash
      (paperIntent ("simulated-close-" ++ paperHash)),
    .recordSimulatedResolution paperResolution]

/-- A decision named like a simulated closing. -/
theorem colliding_run_unreadable :
    ¬((∃ found, entries paperContext
          (JournalCall.run paperContext collidingRun []) = .ok found) ∧
        WellFormed (JournalCall.run paperContext collidingRun [])) := by
  rintro ⟨⟨found, accepted⟩, _⟩
  have refused : (entries paperContext
      (JournalCall.run paperContext collidingRun [])).isOk = false := by
    decide +kernel
  rw [accepted] at refused
  cases refused

end Examples

end ExecutionJournal

end GptTrader
