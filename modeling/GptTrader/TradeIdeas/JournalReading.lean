import GptTrader.TradeIdeas.ExecutionJournal

/-!
# What the journal reader accepts

`Accepts` says once, for each kind of line, what the reader checked and what it
then knows.  From it follows by induction over the lines that every journal the
reader accepts is well formed: the operation identities differ, an intent has at
most one receipt, and a reconciled intent an earlier filled receipt.
-/

namespace GptTrader

namespace ExecutionJournal

def StoredLine.IsEvent (kind id : String) : StoredLine → Prop
  | .json event =>
      event.field? "kind" = some (.str kind) ∧
        event.field? "decision_id" = some (.str id)
  | _ => False

instance (kind id : String) (line : StoredLine) :
    Decidable (StoredLine.IsEvent kind id line) := by
  cases line with
  | blank => exact inferInstanceAs (Decidable False)
  | malformed error => exact inferInstanceAs (Decidable False)
  | json event => exact inferInstanceAs (Decidable (_ ∧ _))

def StoredLine.IsFilledReceipt (id : String) (line : StoredLine) : Prop :=
  StoredLine.IsEvent "receipt" id line ∧
    ∃ event receipt, line = .json event ∧
      event.field? "receipt" = some receipt ∧ isFilled receipt = .ok true

/-- The decision an intent line is about. -/
def intentId? : StoredLine → Option String
  | .json event =>
      if event.field? "kind" = some (.str "intent") then
        match event.field? "decision_id" with
        | some (.str id) => some id
        | _ => none
      else none
  | _ => none

def simulatedId? : StoredLine → Option String
  | .json event =>
      if event.field? "kind" = some (.str "simulated_resolution") then
        match (event.field? "resolution").bind fun payload =>
            payload.field? "operation_id" with
        | some (.str id) => some id
        | _ => none
      else none
  | _ => none

def operationId? (line : StoredLine) : Option String :=
  (intentId? line).or (simulatedId? line)

def intentIds (lines : List StoredLine) : List String :=
  lines.filterMap intentId?

def simulatedIds (lines : List StoredLine) : List String :=
  lines.filterMap simulatedId?

def operationIds (lines : List StoredLine) : List String :=
  lines.filterMap operationId?

/-- A journal as it should be, said without its reader. -/
structure WellFormed (lines : List StoredLine) : Prop where
  /-- No two lines introduce operations of one identity. -/
  operations : (operationIds lines).Nodup
  oneReceipt : ∀ id,
    (lines.filter fun line => decide (StoredLine.IsEvent "receipt" id line)).length ≤ 1
  reconciled : ∀ earlier line later id, lines = earlier ++ line :: later →
    StoredLine.IsEvent "reconciled" id line →
    ∃ receipt ∈ earlier, StoredLine.IsFilledReceipt id receipt

variable (context : JournalContext)

/-- The lines the reader accepts, by kind. -/
inductive Accepts (reading : JournalReading) (event : Json) :
    JournalReading → Prop where
  | intent {id : String} {intent recordHash intentHash : Json}
      (kind : event.field? "kind" = some (.str "intent"))
      (decision : event.field? "decision_id" = some (.str id))
      (stored : event.field? "intent" = some intent)
      (fresh : reading.entries.get? id = none)
      (unused : id ∉ reading.simulated)
      (valid : validateIntent context (some id) intent = .ok id)
      (hash : event.field? "intent_hash" = some intentHash)
      (pinned : intentHash.same (.str (context.payloadHash intent)) = true)
      (record : event.field? "record_hash" = some recordHash) :
      Accepts reading event
        { reading with
          entries := reading.entries.set id
            { decisionId := id
              recordHash := recordHash
              intent := intent
              receipt := none
              reconciled := false } }
  | receipt {id : String} {entry : ExecutionJournalEntry} {receipt : Json}
      (kind : event.field? "kind" = some (.str "receipt"))
      (decision : event.field? "decision_id" = some (.str id))
      (stored : event.field? "receipt" = some receipt)
      (found : reading.entries.get? id = some entry)
      (pending : entry.receipt = none)
      (unsettled : entry.reconciled = false)
      (valid : validateReceipt context entry receipt = .ok ()) :
      Accepts reading event
        { reading with
          entries := reading.entries.set entry.decisionId
            { entry with receipt := some receipt } }
  | reconciled {id : String} {entry : ExecutionJournalEntry} {receipt : Json}
      (kind : event.field? "kind" = some (.str "reconciled"))
      (decision : event.field? "decision_id" = some (.str id))
      (found : reading.entries.get? id = some entry)
      (received : entry.receipt = some receipt)
      (filled : isFilled receipt = .ok true)
      (unsettled : entry.reconciled = false) :
      Accepts reading event
        { reading with
          entries := reading.entries.set entry.decisionId
            { entry with reconciled := true } }
  | simulated {payload : Json} {operation : PositionOperation}
      (kind : event.field? "kind" = some (.str "simulated_resolution"))
      (stored : event.field? "resolution" = some payload)
      (valid : validateSimulatedResolution context event
        (context.payloadHash payload) = .ok operation)
      (fresh : reading.entries.get? (simulatedIdentity operation) = none)
      (unused : simulatedIdentity operation ∉ reading.simulated) :
      Accepts reading event
        { reading with
          simulated := reading.simulated ++ [simulatedIdentity operation] }

variable {context} {reading next : JournalReading} {event : Json}

theorem current_some {id : String} :
    reading.current (some id) = reading.entries.get? id :=
  rfl

theorem journalKey_eq_ok {decisionId : Json} {key : Option String}
    (converted : journalKey decisionId = .ok key) (id : String)
    (present : key = some id) : decisionId = .str id := by
  subst present
  cases decisionId <;> simp_all [journalKey]

theorem validateIntent_some {key : Option String} {intent : Json}
    {id : String} (valid : validateIntent context key intent = .ok id) :
    key = some id := by
  unfold validateIntent at valid
  rw [Outcome.bind_eq_ok] at valid
  obtain ⟨_, _, valid⟩ := valid
  rw [Outcome.bind_eq_ok] at valid
  obtain ⟨_, _, valid⟩ := valid
  cases key with
  | none => simp at valid
  | some given =>
      iterate 12
        rw [Outcome.bind_eq_ok] at valid
        obtain ⟨_, _, valid⟩ := valid
      simpa using valid

theorem readIntent_accepts {key : Option String} {decisionId : Json}
    (kind : event.field? "kind" = some (.str "intent"))
    (decision : event.field? "decision_id" = some decisionId)
    (converted : journalKey decisionId = .ok key)
    (accepted : readIntent context reading key event = .ok next) :
    Accepts context reading event next := by
  unfold readIntent at accepted
  rw [Outcome.bind_eq_ok] at accepted
  obtain ⟨_, fresh, accepted⟩ := accepted
  rw [Outcome.bind_eq_ok] at accepted
  obtain ⟨intent, stored, accepted⟩ := accepted
  rw [Outcome.bind_eq_ok] at accepted
  obtain ⟨id, valid, accepted⟩ := accepted
  rw [Outcome.bind_eq_ok] at accepted
  obtain ⟨intentHash, hash, accepted⟩ := accepted
  rw [Outcome.bind_eq_ok] at accepted
  obtain ⟨_, pinned, accepted⟩ := accepted
  rw [Outcome.bind_eq_ok] at accepted
  obtain ⟨recordHash, record, accepted⟩ := accepted
  have named := validateIntent_some valid
  have same := journalKey_eq_ok converted id named
  subst named same
  cases accepted
  simp only [demand_eq_ok, Bool.and_eq_true, Option.isNone_iff_eq_none,
    current_some, Option.all_some, decide_eq_true_eq] at fresh
  rw [python_eq_ok, Json.getItem_eq_ok] at stored hash record
  exact .intent kind decision stored fresh.1 fresh.2 valid hash
    (demand_eq_ok.mp pinned) record

theorem readReceipt_accepts {key : Option String} {decisionId : Json}
    (kind : event.field? "kind" = some (.str "receipt"))
    (decision : event.field? "decision_id" = some decisionId)
    (converted : journalKey decisionId = .ok key)
    (accepted : readReceipt context reading key event = .ok next) :
    Accepts context reading event next := by
  unfold readReceipt at accepted
  match key, converted, accepted with
  | none, _, accepted => simp [JournalReading.current] at accepted
  | some id, converted, accepted =>
      have same := journalKey_eq_ok converted id rfl
      subst same
      rw [current_some] at accepted
      split at accepted
      · simp at accepted
      · next entry found =>
          rw [Outcome.bind_eq_ok] at accepted
          obtain ⟨_, pending, accepted⟩ := accepted
          rw [Outcome.bind_eq_ok] at accepted
          obtain ⟨receipt, stored, accepted⟩ := accepted
          rw [Outcome.bind_eq_ok] at accepted
          obtain ⟨_, _, accepted⟩ := accepted
          rw [Outcome.bind_eq_ok] at accepted
          obtain ⟨_, _, accepted⟩ := accepted
          rw [Outcome.bind_eq_ok] at accepted
          obtain ⟨_, _, accepted⟩ := accepted
          rw [Outcome.bind_eq_ok] at accepted
          obtain ⟨_, _, accepted⟩ := accepted
          rw [Outcome.bind_eq_ok] at accepted
          obtain ⟨_, valid, accepted⟩ := accepted
          cases accepted
          simp only [demand_eq_ok, Bool.and_eq_true,
            Option.isNone_iff_eq_none, Bool.not_eq_true'] at pending
          rw [python_eq_ok, Json.getItem_eq_ok] at stored
          exact .receipt kind decision stored found pending.1 pending.2 valid

theorem readReconciled_accepts {key : Option String} {decisionId : Json}
    (kind : event.field? "kind" = some (.str "reconciled"))
    (decision : event.field? "decision_id" = some decisionId)
    (converted : journalKey decisionId = .ok key)
    (accepted : readReconciled context reading key event = .ok next) :
    Accepts context reading event next := by
  unfold readReconciled at accepted
  match key, converted, accepted with
  | none, _, accepted => simp [JournalReading.current] at accepted
  | some id, converted, accepted =>
      have same := journalKey_eq_ok converted id rfl
      subst same
      rw [current_some] at accepted
      split at accepted
      · simp at accepted
      · next entry found =>
          split at accepted
          · simp at accepted
          · next receipt received =>
              rw [Outcome.bind_eq_ok] at accepted
              obtain ⟨filled, isFilled, accepted⟩ := accepted
              rw [Outcome.bind_eq_ok] at accepted
              obtain ⟨_, pending, accepted⟩ := accepted
              rw [Outcome.bind_eq_ok] at accepted
              obtain ⟨_, _, accepted⟩ := accepted
              rw [Outcome.bind_eq_ok] at accepted
              obtain ⟨_, _, accepted⟩ := accepted
              cases accepted
              simp only [demand_eq_ok, Bool.and_eq_true,
                Bool.not_eq_true'] at pending
              rw [python_eq_ok, pending.1] at isFilled
              exact .reconciled kind decision found received isFilled pending.2

theorem readSimulated_accepts
    (kind : event.field? "kind" = some (.str "simulated_resolution"))
    (accepted : readSimulated context reading event = .ok next) :
    Accepts context reading event next := by
  unfold readSimulated at accepted
  rw [Outcome.bind_eq_ok] at accepted
  obtain ⟨payload, stored, accepted⟩ := accepted
  rw [Outcome.bind_eq_ok] at accepted
  obtain ⟨operation, valid, accepted⟩ := accepted
  rw [Outcome.bind_eq_ok] at accepted
  obtain ⟨_, unused, accepted⟩ := accepted
  cases accepted
  simp only [demand_eq_ok, Bool.and_eq_true, decide_eq_true_eq,
    Option.isNone_iff_eq_none] at unused
  rw [python_eq_ok, Json.getItem_eq_ok] at stored
  exact .simulated kind stored valid unused.2 unused.1

theorem readEvent_accepts
    (accepted : readEvent context reading event = .ok next) :
    Accepts context reading event next := by
  unfold readEvent at accepted
  rw [Outcome.bind_eq_ok] at accepted
  obtain ⟨kind, found, accepted⟩ := accepted
  rw [python_eq_ok, Json.getItem_eq_ok] at found
  split at accepted
  · next simulated =>
      subst simulated
      exact readSimulated_accepts found accepted
  · rw [Outcome.bind_eq_ok] at accepted
    obtain ⟨decisionId, decision, accepted⟩ := accepted
    rw [Outcome.bind_eq_ok] at accepted
    obtain ⟨key, converted, accepted⟩ := accepted
    rw [python_eq_ok, Json.getItem_eq_ok] at decision
    rw [python_eq_ok] at converted
    split at accepted
    · next intent =>
        subst intent
        exact readIntent_accepts found decision converted accepted
    · split at accepted
      · next receipt =>
          subst receipt
          exact readReceipt_accepts found decision converted accepted
      · split at accepted
        · next reconciled =>
            subst reconciled
            exact readReconciled_accepts found decision converted accepted
        · simp at accepted

/-- What the reader knows of the lines it has read. -/
structure Reflects (lines : List StoredLine) (reading : JournalReading) :
    Prop where
  identified : ∀ id entry, reading.entries.get? id = some entry →
    entry.decisionId = id
  settled : ∀ id entry, reading.entries.get? id = some entry →
    entry.reconciled = true →
    ∃ receipt, entry.receipt = some receipt ∧ isFilled receipt = .ok true
  intents : ∀ id, id ∈ intentIds lines ↔ (reading.entries.get? id).isSome
  resolutions : reading.simulated = simulatedIds lines
  wellFormed : WellFormed lines
  unreceived : ∀ id, (∀ entry, reading.entries.get? id = some entry →
      entry.receipt = none) →
    ∀ line ∈ lines, ¬StoredLine.IsEvent "receipt" id line
  received : ∀ id entry receipt, reading.entries.get? id = some entry →
    entry.receipt = some receipt →
    ∃ line ∈ lines, ∃ event, line = .json event ∧
      StoredLine.IsEvent "receipt" id line ∧
      event.field? "receipt" = some receipt

theorem mem_intentIds_snoc {lines : List StoredLine} {line : StoredLine}
    {id : String} :
    id ∈ intentIds (lines ++ [line]) ↔
      id ∈ intentIds lines ∨ intentId? line = some id := by
  unfold intentIds
  simp [List.filterMap_append, List.mem_filterMap]

theorem simulatedIds_snoc (lines : List StoredLine) (line : StoredLine) :
    simulatedIds (lines ++ [line]) =
      simulatedIds lines ++ (simulatedId? line).toList := by
  unfold simulatedIds
  rw [List.filterMap_append]
  congr 1

theorem mem_operationIds {lines : List StoredLine} {id : String}
    (member : id ∈ operationIds lines) :
    id ∈ intentIds lines ∨ id ∈ simulatedIds lines := by
  obtain ⟨line, stored, named⟩ := List.mem_filterMap.mp member
  rcases Option.or_eq_some_iff.mp named with intent | ⟨_, simulated⟩
  · exact .inl (List.mem_filterMap.mpr ⟨line, stored, intent⟩)
  · exact .inr (List.mem_filterMap.mpr ⟨line, stored, simulated⟩)

theorem operationIds_snoc (lines : List StoredLine) (line : StoredLine) :
    operationIds (lines ++ [line]) =
      operationIds lines ++ (operationId? line).toList := by
  unfold operationIds
  rw [List.filterMap_append]
  congr 1

section Appending

variable {lines : List StoredLine} {line : StoredLine}

/-- An earlier journal with a line that is no receipt and reconciles nothing
stays well formed when the line's operation is new. -/
theorem WellFormed.snoc (wellFormed : WellFormed lines)
    (fresh : ∀ id, operationId? line = some id → id ∉ operationIds lines)
    (receipts : ∀ id, StoredLine.IsEvent "receipt" id line →
      ∀ earlier ∈ lines, ¬StoredLine.IsEvent "receipt" id earlier)
    (reconciles : ∀ id, StoredLine.IsEvent "reconciled" id line →
      ∃ receipt ∈ lines, StoredLine.IsFilledReceipt id receipt) :
    WellFormed (lines ++ [line]) := by
  constructor
  · rw [operationIds_snoc, List.nodup_append]
    refine ⟨wellFormed.operations, ?_, ?_⟩
    · cases operationId? line with
      | none => exact List.nodup_nil
      | some id => exact List.nodup_singleton id
    · intro known member other last
      rintro rfl
      exact fresh known (by simpa using last) member
  · intro id
    rw [List.filter_append, List.length_append]
    by_cases received : StoredLine.IsEvent "receipt" id line
    · have none : lines.filter (fun earlier =>
          decide (StoredLine.IsEvent "receipt" id earlier)) = [] := by
        rw [List.filter_eq_nil_iff]
        intro earlier member
        simpa using receipts id received earlier member
      rw [none]
      simp [received]
    · simpa [received] using wellFormed.oneReceipt id
  · intro earlier other later id split reconciled
    rcases List.eq_nil_or_concat later with rfl | ⟨before, last, rfl⟩
    · obtain ⟨rfl, same⟩ := List.append_inj' split rfl
      cases same
      exact reconciles id reconciled
    · have shape : lines ++ [line] = (earlier ++ other :: before) ++ [last] := by
        rw [split]
        simp
      obtain ⟨same, _⟩ := List.append_inj' shape rfl
      exact wellFormed.reconciled earlier other before id same reconciled

end Appending

section Kinds

variable {kind : String}

section

variable (found : event.field? "kind" = some (.str kind))

include found

theorem isEvent_kind {other id : String}
    (isEvent : StoredLine.IsEvent other id (.json event)) :
    kind = other := by
  have same := isEvent.1
  rw [found] at same
  simpa using same

theorem intentId?_of_kind (different : kind ≠ "intent") : intentId? (.json event) = none := by
  simp [intentId?, found, different]

theorem simulatedId?_of_kind (different : kind ≠ "simulated_resolution") :
    simulatedId? (.json event) = none := by
  simp [simulatedId?, found, different]

end

theorem simulatedId?_eq_some {id : String}
    (resolves : simulatedId? (.json event) = some id) :
    event.field? "kind" = some (.str "simulated_resolution") ∧
      ∃ payload, event.field? "resolution" = some payload ∧
        payload.field? "operation_id" = some (.str id) := by
  simp only [simulatedId?] at resolves
  split at resolves
  · next simulated =>
      refine ⟨simulated, ?_⟩
      split at resolves
      · next text identity =>
          cases resolves
          obtain ⟨payload, stored, named⟩ := Option.bind_eq_some_iff.mp identity
          exact ⟨payload, stored, named⟩
      · cases resolves
  · cases resolves

theorem operationId?_of_kind (found : event.field? "kind" = some (.str kind))
    (notIntent : kind ≠ "intent")
    (notSimulated : kind ≠ "simulated_resolution") :
    operationId? (.json event) = none := by
  rw [operationId?, intentId?_of_kind found notIntent,
    simulatedId?_of_kind found notSimulated]
  rfl

end Kinds

theorem validateSimulatedResolution_identity {digest : String} {payload : Json}
    {operation : PositionOperation}
    (stored : event.field? "resolution" = some payload)
    (valid : validateSimulatedResolution context event digest = .ok operation) :
    payload.field? "operation_id" =
      some (.str (simulatedIdentity operation)) := by
  unfold validateSimulatedResolution at valid
  rw [Outcome.bind_eq_ok] at valid
  obtain ⟨found, located, valid⟩ := valid
  rw [python_eq_ok, Json.getItem_eq_ok, stored, Option.some.injEq] at located
  subst located
  simp only [Outcome.bind_eq_ok, python_eq_ok, Json.getItem_eq_ok,
    demand_eq_ok, Json.same_str] at valid
  obtain ⟨_, _, _, _, pinned, _, _, _, _, _, operationId, identity, _, _, _, _,
    _, _, _, same, _, _, _, _, _, _, _, _, _, _, _, _, returned⟩ := valid
  cases returned
  rw [identity, same]

namespace Reflects

variable {lines : List StoredLine} {id : String}

section

variable (reflects : Reflects lines reading)

include reflects

theorem blank :
    Reflects (lines ++ [.blank]) reading := by
  constructor
  · exact reflects.identified
  · exact reflects.settled
  · intro id
    rw [mem_intentIds_snoc, reflects.intents id]
    simp [intentId?]
  · rw [simulatedIds_snoc, reflects.resolutions]
    simp [simulatedId?]
  · apply reflects.wellFormed.snoc
    · simp [operationId?, intentId?, simulatedId?]
    · simp [StoredLine.IsEvent]
    · simp [StoredLine.IsEvent]
  · intro id pending line member
    rcases List.mem_append.mp member with earlier | last
    · exact reflects.unreceived id pending line earlier
    · rw [List.mem_singleton.mp last]
      exact fun received => received
  · intro id entry receipt found received
    obtain ⟨line, member, rest⟩ := reflects.received id entry receipt found received
    exact ⟨line, List.mem_append_left _ member, rest⟩

/-- A line that introduces no operation and is no receipt, over entries that
keep their keys and receipts. -/
theorem update {line : StoredLine} {entries : Dict String ExecutionJournalEntry}
    (noIntent : intentId? line = none) (noResolution : simulatedId? line = none)
    (noReceipt : ∀ id, ¬StoredLine.IsEvent "receipt" id line)
    (reconciles : ∀ id, StoredLine.IsEvent "reconciled" id line →
      ∃ receipt ∈ lines, StoredLine.IsFilledReceipt id receipt)
    (known : ∀ id, (entries.get? id).isSome ↔ (reading.entries.get? id).isSome)
    (entriesKept : ∀ id entry, entries.get? id = some entry →
      ∃ earlier, reading.entries.get? id = some earlier ∧
        entry.decisionId = id ∧ entry.receipt = earlier.receipt)
    (settled : ∀ id entry, entries.get? id = some entry →
      entry.reconciled = true →
      ∃ receipt, entry.receipt = some receipt ∧ isFilled receipt = .ok true) :
    Reflects (lines ++ [line]) { reading with entries := entries } := by
  constructor
  · intro id entry found
    obtain ⟨_, _, same, _⟩ := entriesKept id entry found
    exact same
  · exact settled
  · intro id
    rw [mem_intentIds_snoc, reflects.intents id, noIntent, known id]
    simp
  · rw [simulatedIds_snoc, noResolution, reflects.resolutions]
    simp
  · apply reflects.wellFormed.snoc
    · simp [operationId?, noIntent, noResolution]
    · exact fun id received => absurd received (noReceipt id)
    · exact reconciles
  · intro id pending other member
    rcases List.mem_append.mp member with earlier | last
    · refine reflects.unreceived id ?_ other earlier
      intro entry found
      obtain ⟨after, present⟩ := Option.isSome_iff_exists.mp
        ((known id).mpr (by rw [found]; rfl))
      obtain ⟨before, located, _, same⟩ := entriesKept id after present
      rw [found, Option.some.injEq] at located
      rw [located, ← same]
      exact pending after present
    · rw [List.mem_singleton.mp last]
      exact noReceipt id
  · intro id entry receipt found received
    obtain ⟨before, located, _, same⟩ := entriesKept id entry found
    obtain ⟨other, member, rest⟩ :=
      reflects.received id before receipt located (by rw [← same, received])
    exact ⟨other, List.mem_append_left _ member, rest⟩

theorem reconciled {entry : ExecutionJournalEntry} {receipt : Json}
    (kind : event.field? "kind" = some (.str "reconciled"))
    (decision : event.field? "decision_id" = some (.str id))
    (found : reading.entries.get? id = some entry)
    (received : entry.receipt = some receipt) (filled : isFilled receipt = .ok true) :
    Reflects (lines ++ [.json event])
      { reading with
        entries := reading.entries.set entry.decisionId
          { entry with reconciled := true } } := by
  have identity := reflects.identified id entry found
  rw [identity]
  apply reflects.update
  · exact intentId?_of_kind kind (by decide)
  · exact simulatedId?_of_kind kind (by decide)
  · intro other isEvent
    exact absurd (isEvent_kind kind isEvent) (by decide)
  · rintro other ⟨_, named⟩
    obtain rfl : id = other := by simpa [decision] using named
    obtain ⟨line, member, event, rfl, isEvent, stored⟩ :=
      reflects.received id entry receipt found received
    exact ⟨.json event, member, isEvent, event, receipt, rfl, stored, filled⟩
  · intro other
    rw [Dict.get?_set]
    split
    · next same => simp [same, found]
    · exact Iff.rfl
  · exact Dict.forall_set ⟨entry, found, rfl, rfl⟩ fun other after present =>
      ⟨after, present, reflects.identified other after present, rfl⟩
  · exact Dict.forall_set (fun _ => ⟨receipt, received, filled⟩) reflects.settled

theorem unused_operation {line : StoredLine}
    (fresh : reading.entries.get? id = none) (unused : id ∉ reading.simulated)
    (names : operationId? line = some id) :
    ∀ other, operationId? line = some other → other ∉ operationIds lines := by
  rintro other named member
  obtain rfl : id = other := by simpa [names] using named
  rcases mem_operationIds member with known | known
  · have present := (reflects.intents id).mp known
    simp [fresh] at present
  · exact unused (by rwa [reflects.resolutions])

theorem receipt {entry : ExecutionJournalEntry} {receipt : Json}
    (kind : event.field? "kind" = some (.str "receipt"))
    (decision : event.field? "decision_id" = some (.str id))
    (stored : event.field? "receipt" = some receipt)
    (found : reading.entries.get? id = some entry) (pending : entry.receipt = none)
    (unsettled : entry.reconciled = false) :
    Reflects (lines ++ [.json event])
      { reading with
        entries := reading.entries.set entry.decisionId
          { entry with receipt := some receipt } } := by
  have identity := reflects.identified id entry found
  rw [identity]
  constructor
  · exact Dict.forall_set rfl reflects.identified
  · exact Dict.forall_set (by simp [unsettled]) reflects.settled
  · intro other
    rw [mem_intentIds_snoc, reflects.intents other,
      intentId?_of_kind kind (by decide), Dict.get?_set]
    split
    · next same => simp [same, found]
    · simp
  · rw [simulatedIds_snoc, simulatedId?_of_kind kind (by decide),
      reflects.resolutions]
    simp
  · apply reflects.wellFormed.snoc
    · simp [operationId?_of_kind kind (by decide) (by decide)]
    · rintro other ⟨_, named⟩
      obtain rfl : id = other := by simpa [decision] using named
      apply reflects.unreceived id
      intro before located
      rw [found, Option.some.injEq] at located
      rw [← located, pending]
    · intro other isEvent
      exact absurd (isEvent_kind kind isEvent) (by decide)
  · intro other unreceived line member
    rcases List.mem_append.mp member with earlier | last
    · refine reflects.unreceived other ?_ line earlier
      intro before located
      by_cases same : other = id
      · rw [same, found, Option.some.injEq] at located
        rw [← located, pending]
      · exact unreceived before (by rw [Dict.get?_set_of_ne _ _ same, located])
    · rw [List.mem_singleton.mp last]
      rintro ⟨_, named⟩
      obtain rfl : id = other := by simpa [decision] using named
      have none := unreceived _ (Dict.get?_set_self reading.entries id _)
      simp at none
  · intro other after given present received
    rw [Dict.get?_set] at present
    split at present
    · next same =>
        subst same
        cases present
        cases received
        exact ⟨.json event, by simp, event, rfl, ⟨kind, decision⟩, stored⟩
    · obtain ⟨line, member, rest⟩ :=
        reflects.received other after given present received
      exact ⟨line, List.mem_append_left _ member, rest⟩

theorem intent {intent recordHash : Json}
    (kind : event.field? "kind" = some (.str "intent"))
    (decision : event.field? "decision_id" = some (.str id))
    (fresh : reading.entries.get? id = none) (unused : id ∉ reading.simulated) :
    Reflects (lines ++ [.json event])
      { reading with
        entries := reading.entries.set id
          { decisionId := id
            recordHash := recordHash
            intent := intent
            receipt := none
            reconciled := false } } := by
  have introduces : intentId? (.json event) = some id := by
    simp [intentId?, kind, decision]
  have names : operationId? (.json event) = some id := by
    simp [operationId?, introduces]
  constructor
  · exact Dict.forall_set rfl reflects.identified
  · exact Dict.forall_set (by simp) reflects.settled
  · intro other
    rw [mem_intentIds_snoc, reflects.intents other, introduces, Dict.get?_set]
    split
    · next same => simp [same]
    · next different => simp [Ne.symm different]
  · rw [simulatedIds_snoc, simulatedId?_of_kind kind (by decide),
      reflects.resolutions]
    simp
  · apply reflects.wellFormed.snoc
    · exact reflects.unused_operation fresh unused names
    · intro other isEvent
      exact absurd (isEvent_kind kind isEvent) (by decide)
    · intro other isEvent
      exact absurd (isEvent_kind kind isEvent) (by decide)
  · intro other unreceived line member
    rcases List.mem_append.mp member with earlier | last
    · refine reflects.unreceived other ?_ line earlier
      intro before located
      have different : other ≠ id := by
        rintro rfl
        rw [fresh] at located
        cases located
      exact unreceived before
        (by rw [Dict.get?_set_of_ne _ _ different, located])
    · rw [List.mem_singleton.mp last]
      intro isEvent
      exact absurd (isEvent_kind kind isEvent) (by decide)
  · intro other after given present received
    rw [Dict.get?_set] at present
    split at present
    · cases present
      cases received
    · obtain ⟨line, member, rest⟩ :=
        reflects.received other after given present received
      exact ⟨line, List.mem_append_left _ member, rest⟩

theorem simulated {payload : Json}
    (kind : event.field? "kind" = some (.str "simulated_resolution"))
    (stored : event.field? "resolution" = some payload)
    (identity : payload.field? "operation_id" = some (.str id))
    (fresh : reading.entries.get? id = none) (unused : id ∉ reading.simulated) :
    Reflects (lines ++ [.json event])
      { reading with simulated := reading.simulated ++ [id] } := by
  have introduces := intentId?_of_kind kind (by decide)
  have resolves : simulatedId? (.json event) = some id := by
    simp [simulatedId?, kind, stored, identity]
  have names : operationId? (.json event) = some id := by
    simp [operationId?, introduces, resolves]
  constructor
  · exact reflects.identified
  · exact reflects.settled
  · intro other
    rw [mem_intentIds_snoc, reflects.intents other, introduces]
    simp
  · rw [simulatedIds_snoc, resolves, reflects.resolutions]
    rfl
  · apply reflects.wellFormed.snoc
    · exact reflects.unused_operation fresh unused names
    · intro other isEvent
      exact absurd (isEvent_kind kind isEvent) (by decide)
    · intro other isEvent
      exact absurd (isEvent_kind kind isEvent) (by decide)
  · intro other unreceived line member
    rcases List.mem_append.mp member with earlier | last
    · exact reflects.unreceived other unreceived line earlier
    · rw [List.mem_singleton.mp last]
      intro isEvent
      exact absurd (isEvent_kind kind isEvent) (by decide)
  · intro other entry given found received
    obtain ⟨line, member, rest⟩ :=
      reflects.received other entry given found received
    exact ⟨line, List.mem_append_left _ member, rest⟩

end

theorem empty : Reflects [] .empty := by
  constructor
  · intro id entry found
    cases found
  · intro id entry found
    cases found
  · simp [intentIds, JournalReading.empty]
  · rfl
  · constructor
    · exact List.nodup_nil
    · simp
    · intro earlier line later id split
      simp at split
  · simp
  · intro id entry receipt found
    cases found

theorem step (reflects : Reflects lines reading)
    (accepts : Accepts context reading event next) :
    Reflects (lines ++ [.json event]) next := by
  cases accepts with
  | intent kind decision stored fresh unused valid hash pinned record =>
      exact reflects.intent kind decision fresh unused
  | receipt kind decision stored found pending unsettled valid =>
      exact reflects.receipt kind decision stored found pending unsettled
  | reconciled kind decision found received filled unsettled =>
      exact reflects.reconciled kind decision found received filled
  | simulated kind stored valid fresh unused =>
      exact reflects.simulated kind stored
        (validateSimulatedResolution_identity stored valid) fresh unused

theorem unsettled (reflects : Reflects lines reading)
    {entry : ExecutionJournalEntry}
    (found : reading.entries.get? id = some entry)
    (pending : entry.receipt = none) : entry.reconciled = false := by
  cases settled : entry.reconciled with
  | false => rfl
  | true =>
      obtain ⟨_, received, _⟩ := reflects.settled id entry found settled
      rw [pending] at received
      cases received

end Reflects

theorem reading_reflects {lines : List StoredLine}
    (accepted : readLines context lines = .ok next) : Reflects lines next := by
  unfold readLines at accepted
  rw [Outcome.mapError_eq_ok] at accepted
  refine Replay.replay_induction Reflects Reflects.empty ?_ accepted
  intro lines current line after read reflects accepts
  cases line with
  | blank =>
      cases accepts
      exact reflects.blank
  | malformed error => cases accepts
  | json event => exact reflects.step (readEvent_accepts accepts)

/-- Every journal `entries()` accepts is well formed. -/
theorem wellFormed_of_entries {lines : List StoredLine}
    {found : Dict String ExecutionJournalEntry}
    (accepted : entries context lines = .ok found) : WellFormed lines := by
  obtain ⟨read, isRead, rfl⟩ := Outcome.map_eq_ok.mp accepted
  exact (reading_reflects isRead).wellFormed

end ExecutionJournal

end GptTrader
