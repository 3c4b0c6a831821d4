import GptTrader.LiveTrade.SubmittedRows
import GptTrader.Python.TableFormats

/-!
# Concurrent submissions of one identifier

Any number of calls of `submit_order_with_result` name one client order
identifier.  Each call of the store and of the broker is one step; the steps of
the calls interleave in any order, and a call may crash between two of its own.
-/

namespace GptTrader

/-! ## What was performed -/

section Performed

variable {ι : Type}

abbrev Performed (ι : Type) : Type :=
  List (ι × (op : SubmissionOp) × SubmissionReply op)

/-- A call of the broker and what it replied. -/
structure Placement (ι : Type) where
  caller : ι
  intent : OrderIntent
  reply : BrokerReply

def placement? : ι × (op : SubmissionOp) × SubmissionReply op →
    Option (Placement ι)
  | (caller, ⟨.place intent, reply⟩) =>
      some { caller := caller, intent := intent, reply := reply }
  | _ => none

/-- The orders the broker was sent. -/
def placements (history : Performed ι) : List (Placement ι) :=
  history.filterMap placement?

/-- The row an operation answers with. -/
def rowAnswer : (op : SubmissionOp) → SubmissionReply op →
    Option (Except StoreError (Option OrderRecord))
  | .lookup _, reply => some reply
  | .reserve _, reply => some reply
  | _, _ => none

/-- The operation created the row it answers. -/
def CreatesRow : (op : SubmissionOp) × SubmissionReply op → Prop
  | ⟨.reserve record, reply⟩ =>
      rowAnswer (.reserve record) reply = some (.ok none)
  | _ => False

theorem placements_snoc (history : Performed ι)
    (entry : ι × (op : SubmissionOp) × SubmissionReply op) :
    placements (history ++ [entry]) =
      placements history ++ (placement? entry).toList := by
  unfold placements
  rw [List.filterMap_append]
  cases found : placement? entry <;> simp [found]

end Performed

/-! ## What concurrent submissions promise -/

section Promises

variable {ι : Type} (context : OrdersContext) (submissions : ι → Submission)
variable (submitId : String)

/-- The store serves one operation. -/
def ServesSubmissions (database : OrdersDatabase) (op : SubmissionOp)
    (reply : SubmissionReply op) (reached : OrdersDatabase) : Prop :=
  ∃ broker, performSubmission context broker op database = (reply, reached)

abbrev SubmissionSystem (ι : Type) : Type :=
  System ι OrdersDatabase SubmissionOp SubmissionReply SubmissionError
    SubmissionOutcome

def beforeSubmissions (database : OrdersDatabase) : SubmissionSystem ι :=
  System.start database fun caller => (submissions caller).program context

/-- One call created the row, and only it called the broker, with its intent,
as often as it may, until the broker returned. -/
structure PlacedBy (history : Performed ι) (owner : ι) (intent : OrderIntent) :
    Prop where
  intends : (submissions owner).Intends submitId intent
  identified : intent.clientOrderId = submitId
  creator : ∀ caller performed, (caller, performed) ∈ history →
    CreatesRow performed → caller = owner
  created : ∃ earlier performed later,
    history = earlier ++ (owner, performed) :: later ∧
      CreatesRow performed ∧ placements earlier = []
  own : ∀ placement ∈ placements history,
    placement.caller = owner ∧ placement.intent = intent
  bounded : (placements history).length ≤
    (submissions owner).submitter.maxAttempts
  last : ∀ earlier placement later order,
    placements history = earlier ++ placement :: later →
      placement.reply = .returned order → later = []

/-- The intent is stored and waits for its order. -/
def StoredPending (intent : OrderIntent) (database : OrdersDatabase) : Prop :=
  ∃ row payload, database.rowsOfClient submitId = [row] ∧
    row.status = .pending ∧ row.intent? = some payload ∧
    OrderIntent.fromDict context.formats payload = .ok intent

/-- The stored intent is another one. -/
def DiffersFromStored (intent : OrderIntent) (database : OrdersDatabase) :
    Prop :=
  ∃ row payload stored, database.rowsOfClient submitId = [row] ∧
    row.intent? = some payload ∧
    OrderIntent.fromDict context.formats payload = .ok stored ∧
    OrderSubmitter.sameIntent stored intent = false

/-- The store refused to answer the caller, or answered with a row that is no
receipt of the intent it carries. -/
def AnsweredUnsoundly (caller : ι) (history : Performed ι) : Prop :=
  ∃ op reply, (caller, ⟨op, reply⟩) ∈ history ∧
    ((∃ error, rowAnswer op reply = some (.error error)) ∨
      ∃ record, rowAnswer op reply = some (.ok (some record)) ∧
        OrderSubmitter.isOwnReceipt context record = false)

/-- What holds of the calls in every state they reach. -/
structure SubmitsOnce (system : SubmissionSystem ι) : Prop where
  placed : placements system.history = [] ∨
    ∃ owner intent,
      PlacedBy submissions submitId system.history owner intent
  pending : ∀ caller intent next,
    system.callers caller = some (.perform (.place intent) next) →
      StoredPending context submitId intent system.shared
  refused : ∀ caller outcome intent,
    system.callers caller = some (.done outcome) →
    (submissions caller).Intends submitId intent →
    DiffersFromStored context submitId intent system.shared →
      (∀ placement ∈ placements system.history, placement.caller ≠ caller) ∧
      (outcome = .ok .payloadConflict ∨
        (∃ message, outcome = .ok (.uncertain message)) ∧
          ((submissions caller).submitter.storeInitialized = false ∨
            AnsweredUnsoundly context caller system.history))

end Promises

/-! ## Comparing intents -/

section Intents

variable {context : OrdersContext} {submission : Submission}
variable {submitId : String} {intent : OrderIntent}

theorem sameIntent_self (intends : submission.Intends submitId intent) :
    OrderSubmitter.sameIntent intent intent = true := by
  obtain ⟨_, tif, leverage, _⟩ := fields_of_intends intends
  have sameTif : intent.tif.same intent.tif = true := by
    rw [tif]
    cases submission.request.tif with
    | none => rfl
    | some text => exact Json.same_str.mpr rfl
  have sameLeverage : intent.leverage.same intent.leverage = true := by
    rw [leverage]
    cases submission.request.leverage with
    | none => rfl
    | some value => simp [Json.same, Json.canonical, Json.hasNan]
  unfold OrderSubmitter.sameIntent
  simp [sameTif, sameLeverage]

theorem intentMatches_of_differs {record : OrderRecord} {payload : Json}
    {stored : OrderIntent} (carried : record.intent? = some payload)
    (decoded : OrderIntent.fromDict context.formats payload = .ok stored)
    (differs : OrderSubmitter.sameIntent stored intent = false) :
    OrderSubmitter.intentMatches context record intent = .ok false := by
  have compared : OrderSubmitter.matchesStored context record payload intent =
      .ok false := by
    unfold OrderSubmitter.matchesStored
    rw [decoded]
    simp [bind, Except.bind, differs]
  unfold OrderSubmitter.intentMatches
  rw [carried]
  dsimp only
  rw [compared]

theorem pendingRecord_intent? (context : OrdersContext)
    (submission : Submission) (submitId : String) (intent : OrderIntent) :
    (submission.submitter.pendingRecord context submission.request
      submission.now submitId intent).intent? =
        some (intent.toDict context.formats) := by
  change (OrderSubmitter.submissionMetadata _ _).get? "intent" = _
  rw [submissionMetadata_intent]
  rfl

end Intents

/-! ## The invariant -/

section Invariant

variable {ι : Type} (context : OrdersContext) (submissions : ι → Submission)
variable (submitId : String)

/-- What a refused call was told of the row. -/
structure Told (database : OrdersDatabase) (phases : ι → SubmissionPhase)
    (history : Performed ι) : Prop where
  failed : ∀ caller, phases caller = .refused none →
    ∃ op reply error, (caller, ⟨op, reply⟩) ∈ history ∧
      rowAnswer op reply = some (.error error)
  found : ∀ caller record, phases caller = .refused (some record) →
    (∃ op reply, (caller, ⟨op, reply⟩) ∈ history ∧
      rowAnswer op reply = some (.ok (some record))) ∧
    ∃ row, database.rowsOfClient submitId = [row] ∧
      record.intent? = row.intent?

/-- No call created the row. -/
structure Unclaimed (phases : ι → SubmissionPhase) (history : Performed ι) :
    Prop where
  nobody : ∀ caller, (phases caller).owns = false
  uncreated : ∀ caller performed, (caller, performed) ∈ history →
    ¬CreatesRow performed
  unplaced : placements history = []

/-- What a phase says about the row and the orders. -/
def Progress (payload : Json) (placed : List (Placement ι)) :
    SubmissionPhase → OrderRecord → Prop
  | .placing count, row =>
      placed.length = count ∧ row.status = .pending ∧
        ∀ placement ∈ placed, ∃ error, placement.reply = .raised error
  | .settling seen, _ =>
      ∀ given, seen.bind OrderRecord.intent? = some given → given = payload
  | _, _ => False

/-- One call created the row, which keeps its intent. -/
structure Claimed (database : OrdersDatabase) (phases : ι → SubmissionPhase)
    (history : Performed ι) (owner : ι) (intent : OrderIntent) : Prop where
  placed : PlacedBy submissions submitId history owner intent
  others : ∀ caller, caller ≠ owner → (phases caller).owns = false
  row : ∃ row, database.rowsOfClient submitId = [row] ∧
    row.intent? = some (intent.toDict context.formats) ∧
    Progress (intent.toDict context.formats) (placements history)
      (phases owner) row

/-- What holds in every interleaving. -/
structure SubmissionInvariant (database : OrdersDatabase)
    (phases : ι → SubmissionPhase) (history : Performed ι) : Prop where
  told : Told submitId database phases history
  claim : Unclaimed phases history ∨
    ∃ owner intent,
      Claimed context submissions submitId database phases history owner intent

end Invariant

section Steps

variable {ι : Type} {context : OrdersContext}
variable {submissions : ι → Submission} {submitId : String}
variable {database reached : OrdersDatabase} {phases : ι → SubmissionPhase}
variable {history : Performed ι} {caller owner : ι} {intent : OrderIntent}
variable {op : SubmissionOp} {reply : SubmissionReply op}
variable {phase : SubmissionPhase}

theorem PlacedBy.passive
    (placed : PlacedBy submissions submitId history owner intent)
    (unplaced : placement? (caller, ⟨op, reply⟩) = none)
    (uncreated : ¬CreatesRow ⟨op, reply⟩) :
    PlacedBy submissions submitId (history ++ [(caller, ⟨op, reply⟩)]) owner
      intent := by
  have same : placements (history ++ [(caller, ⟨op, reply⟩)]) =
      placements history := by
    rw [placements_snoc, unplaced]
    simp
  obtain ⟨earlier, performed, later, shape, creates, before⟩ := placed.created
  exact
    { intends := placed.intends
      identified := placed.identified
      creator := by
        intro other performed member creates
        rcases List.mem_append.mp member with old | new
        · exact placed.creator other performed old creates
        · cases List.mem_singleton.mp new
          exact absurd creates uncreated
      created := ⟨earlier, performed, later ++ [(caller, ⟨op, reply⟩)],
        by rw [shape]; simp, creates, before⟩
      own := by rw [same]; exact placed.own
      bounded := by rw [same]; exact placed.bounded
      last := by rw [same]; exact placed.last }

/-- The owner of the row places the next order. -/
theorem PlacedBy.place {answer : BrokerReply}
    (placed : PlacedBy submissions submitId history owner intent)
    (raised : ∀ placement ∈ placements history,
      ∃ error, placement.reply = .raised error)
    (fewer : (placements history).length <
      (submissions owner).submitter.maxAttempts) :
    PlacedBy submissions submitId
      (history ++ [(owner, ⟨.place intent, answer⟩)]) owner intent := by
  have grown : placements (history ++ [(owner, ⟨.place intent, answer⟩)]) =
      placements history ++
        [{ caller := owner, intent := intent, reply := answer }] := by
    rw [placements_snoc]
    rfl
  obtain ⟨earlier, performed, later, shape, creates, before⟩ := placed.created
  exact
    { intends := placed.intends
      identified := placed.identified
      creator := by
        intro other performed member creates
        rcases List.mem_append.mp member with old | new
        · exact placed.creator other performed old creates
        · cases List.mem_singleton.mp new
          exact creates.elim
      created := ⟨earlier, performed,
        later ++ [(owner, ⟨.place intent, answer⟩)],
        by rw [shape]; simp, creates, before⟩
      own := by
        rw [grown]
        intro placement member
        rcases List.mem_append.mp member with old | new
        · exact placed.own placement old
        · cases List.mem_singleton.mp new
          exact ⟨rfl, rfl⟩
      bounded := by
        rw [grown, List.length_append]
        exact fewer
      last := by
        rw [grown]
        intro earlier placement later order split returned
        rcases List.eq_nil_or_concat later with rfl | ⟨between, final, rfl⟩
        · rfl
        · have shape : placements history ++
              [{ caller := owner, intent := intent, reply := answer }] =
              (earlier ++ placement :: between) ++ [final] := by
            rw [split]
            simp
          obtain ⟨same, _⟩ := List.append_inj' shape rfl
          obtain ⟨error, failed⟩ := raised placement (by rw [same]; simp)
          rw [failed] at returned
          cases returned }

theorem Progress.owns {payload : Json} {placed : List (Placement ι)}
    {row : OrderRecord} (progress : Progress payload placed phase row) :
    phase.owns = true := by
  cases phase with
  | placing count => rfl
  | settling seen => rfl
  | looking => exact progress.elim
  | reserving => exact progress.elim
  | refused found => exact progress.elim

theorem SubmissionInvariant.claimant
    (holds : SubmissionInvariant context submissions submitId database phases
      history) (owns : (phases caller).owns = true) :
    ∃ intent, Claimed context submissions submitId database phases history
      caller intent := by
  rcases holds.claim with unclaimed | ⟨owner, intent, claimed⟩
  · rw [unclaimed.nobody caller] at owns
    cases owns
  · by_cases same : caller = owner
    · subst same
      exact ⟨intent, claimed⟩
    · rw [claimed.others caller same] at owns
      cases owns

variable [DecidableEq ι]

theorem Told.step (told : Told submitId database phases history)
    (kept : ∀ row, database.rowsOfClient submitId = [row] →
      ∃ kept, reached.rowsOfClient submitId = [kept] ∧
        kept.intent? = row.intent?)
    (failed : phase = .refused none →
      ∃ error, rowAnswer op reply = some (.error error))
    (found : ∀ record, phase = .refused (some record) →
      rowAnswer op reply = some (.ok (some record)) ∧
        ∃ row, reached.rowsOfClient submitId = [row] ∧
          record.intent? = row.intent?) :
    Told submitId reached (Function.update phases caller phase)
      (history ++ [(caller, ⟨op, reply⟩)]) := by
  constructor
  · intro other refused
    by_cases same : other = caller
    · subst same
      rw [Function.update_self] at refused
      obtain ⟨error, answered⟩ := failed refused
      exact ⟨op, reply, error, by simp, answered⟩
    · rw [Function.update_of_ne same] at refused
      obtain ⟨asked, answer, error, performed, answered⟩ :=
        told.failed other refused
      exact ⟨asked, answer, error, List.mem_append_left _ performed, answered⟩
  · intro other record refused
    by_cases same : other = caller
    · subst same
      rw [Function.update_self] at refused
      obtain ⟨answered, row⟩ := found record refused
      exact ⟨⟨op, reply, by simp, answered⟩, row⟩
    · rw [Function.update_of_ne same] at refused
      obtain ⟨⟨asked, answer, performed, answered⟩, row, single, intent⟩ :=
        told.found other record refused
      obtain ⟨stored, alone, carried⟩ := kept row single
      exact ⟨⟨asked, answer, List.mem_append_left _ performed, answered⟩, stored,
        alone, intent.trans carried.symm⟩

theorem Unclaimed.passive (unclaimed : Unclaimed phases history)
    (waits : phase.owns = false)
    (unplaced : placement? (caller, ⟨op, reply⟩) = none)
    (uncreated : ¬CreatesRow ⟨op, reply⟩) :
    Unclaimed (Function.update phases caller phase)
      (history ++ [(caller, ⟨op, reply⟩)]) := by
  constructor
  · intro other
    by_cases same : other = caller
    · subst same
      rwa [Function.update_self]
    · rw [Function.update_of_ne same]
      exact unclaimed.nobody other
  · intro other performed member
    rcases List.mem_append.mp member with old | new
    · exact unclaimed.uncreated other performed old
    · cases List.mem_singleton.mp new
      exact uncreated
  · rw [placements_snoc, unclaimed.unplaced, unplaced]
    rfl

theorem Claimed.passive
    (claimed : Claimed context submissions submitId database phases history owner
      intent)
    (other : caller ≠ owner) (waits : phase.owns = false)
    (unplaced : placement? (caller, ⟨op, reply⟩) = none)
    (uncreated : ¬CreatesRow ⟨op, reply⟩) :
    Claimed context submissions submitId database
      (Function.update phases caller phase)
      (history ++ [(caller, ⟨op, reply⟩)]) owner intent := by
  obtain ⟨row, single, carried, progress⟩ := claimed.row
  refine
    { placed := claimed.placed.passive unplaced uncreated
      others := ?_
      row := ⟨row, single, carried, ?_⟩ }
  · intro another different
    by_cases same : another = caller
    · subst same
      rwa [Function.update_self]
    · rw [Function.update_of_ne same]
      exact claimed.others another different
  · rw [placements_snoc, unplaced, Function.update_of_ne other.symm]
    simpa using progress

theorem Claimed.advance {extended : Performed ι}
    (claimed : Claimed context submissions submitId database phases history owner
      intent)
    (placed : PlacedBy submissions submitId extended owner intent)
    (row : ∃ row, reached.rowsOfClient submitId = [row] ∧
      row.intent? = some (intent.toDict context.formats) ∧
      Progress (intent.toDict context.formats) (placements extended) phase row) :
    Claimed context submissions submitId reached
      (Function.update phases owner phase) extended owner intent := by
  refine
    { placed := placed
      others := ?_
      row := by rwa [Function.update_self] }
  intro another different
  rw [Function.update_of_ne different]
  exact claimed.others another different

theorem SubmissionInvariant.advance
    (holds : SubmissionInvariant context submissions submitId database phases
      history)
    (claimed : Claimed context submissions submitId database phases history
      caller intent)
    (placed : PlacedBy submissions submitId
      (history ++ [(caller, ⟨op, reply⟩)]) caller intent)
    (row : ∃ row, reached.rowsOfClient submitId = [row] ∧
      row.intent? = some (intent.toDict context.formats) ∧
      Progress (intent.toDict context.formats)
        (placements (history ++ [(caller, ⟨op, reply⟩)])) phase row) :
    SubmissionInvariant context submissions submitId reached
      (Function.update phases caller phase)
      (history ++ [(caller, ⟨op, reply⟩)]) := by
  obtain ⟨before, alone, carriedBefore, _⟩ := claimed.row
  obtain ⟨after, single, carried, progress⟩ := row
  have owns := progress.owns
  refine
    { told := holds.told.step ?_ ?_ ?_
      claim := .inr ⟨caller, intent,
        claimed.advance placed ⟨after, single, carried, progress⟩⟩ }
  · intro stored same
    rw [alone] at same
    cases same
    exact ⟨after, single, carried.trans carriedBefore.symm⟩
  · rintro rfl
    cases owns
  · rintro record rfl
    cases owns

theorem SubmissionInvariant.read
    {answer : Except StoreError (Option OrderRecord)}
    (holds : SubmissionInvariant context submissions submitId database phases
      history)
    (waiting : (phases caller).owns = false)
    (answered : rowAnswer op reply = some answer)
    (unplaced : placement? (caller, ⟨op, reply⟩) = none)
    (uncreated : ¬CreatesRow ⟨op, reply⟩)
    (shape : phase = SubmissionPhase.afterRead .reserving answer)
    (row : ∀ record, answer = .ok (some record) →
      ∃ row, database.rowsOfClient submitId = [row] ∧ record = .ofRow row) :
    SubmissionInvariant context submissions submitId database
      (Function.update phases caller phase)
      (history ++ [(caller, ⟨op, reply⟩)]) := by
  have waits : phase.owns = false := by
    rw [shape]
    match answer with
    | .ok none => rfl
    | .ok (some record) => rfl
    | .error error => rfl
  refine
    { told := holds.told.step (fun row single => ⟨row, single, rfl⟩) ?_ ?_
      claim := ?_ }
  · intro refused
    rw [shape] at refused
    match answer with
    | .ok none => cases refused
    | .ok (some record) => cases refused
    | .error error => exact ⟨error, answered⟩
  · intro record refused
    rw [shape] at refused
    match answer with
    | .ok none => cases refused
    | .error error => cases refused
    | .ok (some other) =>
        cases refused
        obtain ⟨stored, single, rfl⟩ := row _ rfl
        exact ⟨answered, stored, single, rfl⟩
  · rcases holds.claim with unclaimed | ⟨owner, intent, claimed⟩
    · exact .inl (unclaimed.passive waits unplaced uncreated)
    · have other : caller ≠ owner := by
        rintro rfl
        obtain ⟨_, _, _, progress⟩ := claimed.row
        rw [progress.owns] at waiting
        cases waiting
      exact .inr ⟨owner, intent,
        claimed.passive other waits unplaced uncreated⟩

/-- A call creates the row. -/
theorem SubmissionInvariant.reserve {record : OrderRecord} {checksum : String}
    (holds : SubmissionInvariant context submissions submitId database phases
      history)
    (intends : (submissions caller).Intends submitId intent)
    (reserved : record = (submissions caller).submitter.pendingRecord context
      (submissions caller).request (submissions caller).now submitId intent)
    (empty : database.rowsOfClient submitId = []) :
    SubmissionInvariant context submissions submitId
      (database.save (record.stored checksum))
      (Function.update phases caller (.placing 0))
      (history ++ [(caller, ⟨.reserve record,
        (Except.ok none : Except StoreError (Option OrderRecord))⟩)]) := by
  have client : (record.stored checksum).clientOrderId = submitId := by
    rw [reserved]
    rfl
  have single : (database.save (record.stored checksum)).rowsOfClient
      submitId = [record.stored checksum] := by
    rw [← client]
    exact rowsOfClient_save (by rw [client]; exact empty)
  have carried : (record.stored checksum).intent? =
      some (intent.toDict context.formats) := by
    unfold OrderRecord.intent?
    rw [facts_stored, reserved]
    exact pendingRecord_intent? context (submissions caller) submitId intent
  rcases holds.claim with unclaimed | ⟨owner, other, claimed⟩
  · have unplaced : placements (history ++ [(caller, ⟨.reserve record,
        (Except.ok none : Except StoreError (Option OrderRecord))⟩)]) = [] := by
      rw [placements_snoc, unclaimed.unplaced]
      rfl
    refine
      { told := holds.told.step ?_ (fun refused => nomatch refused)
          (fun _ refused => nomatch refused)
        claim := .inr ⟨caller, intent,
          { placed :=
              { intends := intends
                identified := clientOrderId_of_intends intends
                creator := ?_
                created := ⟨history, _, [], rfl, rfl, unclaimed.unplaced⟩
                own := by simp [unplaced]
                bounded := by simp [unplaced]
                last := by simp [unplaced] }
            others := ?_
            row := ⟨_, single, carried, ?_⟩ }⟩ }
    · intro row present
      rw [empty] at present
      cases present
    · intro another performed member creates
      rcases List.mem_append.mp member with old | new
      · exact absurd creates (unclaimed.uncreated another performed old)
      · cases List.mem_singleton.mp new
        rfl
    · intro another different
      rw [Function.update_of_ne different]
      exact unclaimed.nobody another
    · rw [Function.update_self, unplaced]
      refine ⟨rfl, ?_, by simp⟩
      rw [reserved]
      rfl
  · obtain ⟨row, present, _⟩ := claimed.row
    rw [empty] at present
    cases present

theorem afterRead_of_present {answer : Except StoreError (Option OrderRecord)}
    (present : answer ≠ .ok none) (absent other : SubmissionPhase) :
    SubmissionPhase.afterRead absent answer =
      SubmissionPhase.afterRead other answer := by
  match answer with
  | .ok none => exact absurd rfl present
  | .ok (some record) => rfl
  | .error error => rfl

theorem seenIn_lookup {row : OrderRecord} {payload given : Json}
    (single : database.rowsOfClient submitId = [row])
    (carried : row.intent? = some payload)
    (found : (SubmissionPhase.seenIn
      (database.getOrderByClientOrderId context submitId)).bind
        OrderRecord.intent? = some given) : given = payload := by
  match answer : database.getOrderByClientOrderId context submitId with
  | .error error =>
      rw [answer] at found
      cases found
  | .ok none =>
      rw [answer] at found
      cases found
  | .ok (some record) =>
      obtain ⟨other, alone, rfl⟩ := getOrderByClientOrderId_eq_some answer
      rw [single] at alone
      cases alone
      rw [answer] at found
      exact Option.some.inj (found.symm.trans carried)

section Operations

variable (holds : SubmissionInvariant context submissions submitId database
  phases history)
include holds

theorem invariant_lookup {clientOrderId : String}
    (allowed : (submissions caller).allows context submitId (phases caller)
      (.lookup clientOrderId)) :
    SubmissionInvariant context submissions submitId database
      (Function.update phases caller
        ((phases caller).after (.lookup clientOrderId)
          (database.getOrderByClientOrderId context clientOrderId)))
      (history ++ [(caller, ⟨.lookup clientOrderId,
        database.getOrderByClientOrderId context clientOrderId⟩)]) := by
  by_cases owns : (phases caller).owns = true
  · obtain ⟨intent, claimed⟩ := holds.claimant owns
    obtain ⟨row, single, carried, _⟩ := claimed.row
    have next : clientOrderId = submitId ∧
        (phases caller).after (.lookup clientOrderId)
          (database.getOrderByClientOrderId context clientOrderId) =
            .settling (SubmissionPhase.seenIn
              (database.getOrderByClientOrderId context clientOrderId)) := by
      cases current : phases caller <;> rw [current] at allowed owns
      case placing => exact ⟨allowed, rfl⟩
      case settling => exact ⟨allowed, rfl⟩
      all_goals cases owns
    obtain ⟨rfl, settles⟩ := next
    rw [settles]
    exact holds.advance claimed (claimed.placed.passive rfl id)
      ⟨row, single, carried, fun given => seenIn_lookup single carried⟩
  · cases current : phases caller <;> rw [current] at allowed owns
    case looking =>
      obtain rfl : clientOrderId = submitId := allowed
      exact holds.read (by rw [current]; rfl) rfl rfl id rfl
        fun record => getOrderByClientOrderId_eq_some
    all_goals first | exact allowed.elim | exact absurd rfl owns

theorem invariant_reserve {record : OrderRecord}
    (allowed : (submissions caller).allows context submitId (phases caller)
      (.reserve record)) :
    SubmissionInvariant context submissions submitId
      (committed (OrdersStore.reserveSubmission context record) database).2
      (Function.update phases caller
        ((phases caller).after (.reserve record)
          (committed (OrdersStore.reserveSubmission context record) database).1))
      (history ++ [(caller, ⟨.reserve record,
        (committed (OrdersStore.reserveSubmission context record)
          database).1⟩)]) := by
  cases current : phases caller <;> rw [current] at allowed
  case reserving =>
    obtain ⟨intent, intends, reserved⟩ := allowed
    have client : record.clientOrderId = submitId := by
      rw [reserved]
      rfl
    rcases reserve_cases context record database with
      ⟨checksum, empty, _, created⟩ | ⟨answer, left, present, found⟩
    · rw [created]
      rw [client] at empty
      exact holds.reserve intends reserved empty
    · rw [left]
      rw [client] at found
      exact holds.read (by rw [current]; rfl) rfl rfl
        (fun created => present (Option.some.inj created))
        (afterRead_of_present present _ _) found
  all_goals exact allowed.elim

theorem invariant_place {asked : OrderIntent} (broker : BrokerReply)
    (allowed : (submissions caller).allows context submitId (phases caller)
      (.place asked)) :
    SubmissionInvariant context submissions submitId database
      (Function.update phases caller ((phases caller).after (.place asked) broker))
      (history ++ [(caller, ⟨.place asked, broker⟩)]) := by
  cases current : phases caller <;> rw [current] at allowed
  case placing count =>
    obtain ⟨intends, fewer⟩ := allowed
    obtain ⟨intent, claimed⟩ := holds.claimant (by rw [current]; rfl)
    obtain ⟨row, single, carried, progress⟩ := claimed.row
    rw [current] at progress
    obtain ⟨length, pending, raised⟩ := progress
    obtain rfl : asked = intent :=
      Except.ok.inj (intends.symm.trans claimed.placed.intends)
    refine holds.advance claimed
      (claimed.placed.place raised (by rw [length]; exact fewer))
      ⟨row, single, carried, ?_⟩
    rw [placements_snoc]
    cases broker with
    | raised error =>
        refine ⟨by rw [List.length_append, length]; rfl, pending, ?_⟩
        intro placement member
        rcases List.mem_append.mp member with old | new
        · exact raised placement old
        · cases List.mem_singleton.mp new
          exact ⟨error, rfl⟩
    | returned order => exact fun given found => nomatch found
  all_goals exact allowed.elim

theorem invariant_persist {record : OrderRecord}
    (allowed : (submissions caller).allows context submitId (phases caller)
      (.persist record)) :
    SubmissionInvariant context submissions submitId
      (committed (OrdersStore.upsertByClientId context record true) database).2
      (Function.update phases caller
        ((phases caller).after (.persist record)
          (committed (OrdersStore.upsertByClientId context record true)
            database).1))
      (history ++ [(caller, ⟨.persist record,
        (committed (OrdersStore.upsertByClientId context record true)
          database).1⟩)]) := by
  cases current : phases caller <;> rw [current] at allowed
  case settling seen =>
    have writes : WritesOwn context submitId seen record := allowed
    obtain ⟨intent, claimed⟩ := holds.claimant (by rw [current]; rfl)
    obtain ⟨row, single, carried, progress⟩ := claimed.row
    rw [current] at progress
    obtain ⟨kept, alone, same⟩ := persist_keeps context single carried
      writes.client fun given found =>
        progress given (writes.intent.symm.trans found)
    exact holds.advance claimed (claimed.placed.passive rfl id)
      ⟨kept, alone, same, progress⟩
  all_goals exact allowed.elim

theorem invariant_step
    (allowed : (submissions caller).allows context submitId (phases caller) op)
    (served : ServesSubmissions context database op reply reached) :
    SubmissionInvariant context submissions submitId reached
      (Function.update phases caller ((phases caller).after op reply))
      (history ++ [(caller, ⟨op, reply⟩)]) := by
  obtain ⟨broker, performed⟩ := served
  cases op with
  | lookup clientOrderId =>
      cases performed
      exact invariant_lookup holds allowed
  | reserve record =>
      cases performed
      exact invariant_reserve holds allowed
  | persist record =>
      cases performed
      exact invariant_persist holds allowed
  | place asked =>
      cases performed
      exact invariant_place holds broker allowed

end Operations

end Steps

/-! ## Every state of the calls -/

section Runs

variable {ι : Type} {context : OrdersContext}
variable {submissions : ι → Submission} {submitId : String}
variable {database : OrdersDatabase} {history : Performed ι}
variable {phases : ι → SubmissionPhase} {caller : ι} {intent : OrderIntent}
variable {system : SubmissionSystem ι}

theorem unplaced_of_waiting
    (holds : SubmissionInvariant context submissions submitId database phases
      history)
    (waiting : (phases caller).owns = false) :
    ∀ placement ∈ placements history, placement.caller ≠ caller := by
  intro placement member same
  rcases holds.claim with unclaimed | ⟨owner, intent, claimed⟩
  · rw [unclaimed.unplaced] at member
    cases member
  · obtain ⟨row, _, _, progress⟩ := claimed.row
    rw [← same, (claimed.placed.own placement member).1, progress.owns]
      at waiting
    cases waiting

theorem not_differs_of_owns (maps : context.formats.MapsAscii)
    (holds : SubmissionInvariant context submissions submitId database phases
      history)
    (owns : (phases caller).owns = true)
    (intends : (submissions caller).Intends submitId intent) :
    ¬DiffersFromStored context submitId intent database := by
  rintro ⟨row, payload, stored, single, carried, decoded, differs⟩
  obtain ⟨owned, claimed⟩ := holds.claimant owns
  obtain ⟨other, alone, same, _⟩ := claimed.row
  obtain rfl : intent = owned :=
    Except.ok.inj (intends.symm.trans claimed.placed.intends)
  rw [single] at alone
  cases alone
  rw [carried] at same
  cases same
  rw [fromDict_toDict maps (fields_of_intends intends).2.2.2] at decoded
  cases decoded
  rw [sameIntent_self intends] at differs
  cases differs

abbrev FollowingSessions (context : OrdersContext)
    (submissions : ι → Submission) (submitId : String)
    (phases : ι → SubmissionPhase) (system : SubmissionSystem ι) : Prop :=
  System.Following
    (fun caller => (submissions caller).session context submitId)
    (fun caller => (submissions caller).Ends context submitId) phases system

theorem storedPending_of_place {next}
    (maps : context.formats.MapsAscii)
    (holds : SubmissionInvariant context submissions submitId system.shared
      phases system.history)
    (following :
      FollowingSessions context submissions submitId phases system)
    (placing : system.callers caller = some (.perform (.place intent) next)) :
    StoredPending context submitId intent system.shared := by
  obtain ⟨allowed, _⟩ := following caller _ placing
  change (submissions caller).allows context submitId (phases caller)
    (.place intent) at allowed
  cases current : phases caller <;> rw [current] at allowed
  case placing count =>
    obtain ⟨intends, _⟩ := allowed
    obtain ⟨owned, claimed⟩ := holds.claimant (by rw [current]; rfl)
    obtain ⟨row, single, carried, progress⟩ := claimed.row
    rw [current] at progress
    obtain rfl : intent = owned :=
      Except.ok.inj (intends.symm.trans claimed.placed.intends)
    exact ⟨row, _, single, progress.2.1, carried,
      fromDict_toDict maps (fields_of_intends intends).2.2.2⟩
  all_goals exact allowed.elim

theorem refused_of_differs
    (holds : SubmissionInvariant context submissions submitId system.shared
      phases system.history)
    (waiting : (phases caller).owns = false)
    {outcome : Except SubmissionError SubmissionOutcome}
    (ends : (submissions caller).Ends context submitId (phases caller) outcome)
    (intends : (submissions caller).Intends submitId intent)
    (differs : DiffersFromStored context submitId intent system.shared) :
    outcome = .ok .payloadConflict ∨
      (∃ message, outcome = .ok (.uncertain message)) ∧
        ((submissions caller).submitter.storeInitialized = false ∨
          AnsweredUnsoundly context caller system.history) := by
  cases current : phases caller <;> rw [current] at ends waiting
  case looking =>
    rcases ends with ⟨missing, uncertain⟩ | ⟨error, invalid⟩
    · exact .inr ⟨uncertain, .inl missing⟩
    · rw [Submission.Intends, invalid] at intends
      cases intends
  case reserving => exact ends.elim
  case refused found =>
    cases found with
    | none =>
        obtain ⟨op, reply, error, performed, answered⟩ :=
          holds.told.failed caller current
        exact .inr ⟨ends, .inr ⟨op, reply, performed, .inl ⟨error, answered⟩⟩⟩
    | some record =>
        obtain ⟨row, payload, stored, single, carried, decoded, different⟩ :=
          differs
        obtain ⟨⟨op, reply, performed, answered⟩, other, alone, same⟩ :=
          holds.told.found caller record current
        rw [single] at alone
        cases alone
        rcases ends intent intends (intentMatches_of_differs
          (same.trans carried) decoded different) with
          conflict | ⟨foreign, uncertain⟩
        · exact .inl conflict
        · exact .inr ⟨uncertain, .inr ⟨op, reply, performed,
            .inr ⟨record, answered, foreign⟩⟩⟩
  all_goals cases waiting

variable [DecidableEq ι]

theorem submissions_follow (maps : context.formats.MapsAscii)
    (identified : ∀ caller,
      (submissions caller).request.decisionId = some submitId)
    (reaches : System.Reaches (ServesSubmissions context)
      (beforeSubmissions context submissions database) system) :
    ∃ phases,
      SubmissionInvariant context submissions submitId system.shared phases
        system.history ∧
      FollowingSessions context submissions submitId phases system := by
  refine System.follows (SubmissionInvariant context submissions submitId)
    (fun caller => program_follows context (submissions caller) submitId maps
      (identified caller)) ?_ ?_ reaches
  · refine
      { told :=
          { failed := fun _ refused => nomatch refused
            found := fun _ _ refused => nomatch refused }
        claim := .inl
          { nobody := fun _ => rfl
            uncreated := fun _ _ member => nomatch member
            unplaced := rfl } }
  · intro state phases history caller op reply reached holds allowed served
    exact invariant_step holds allowed served

/-- At most one call places orders, for the row it created; a call that asks
for something else is refused. -/
theorem submissions_submit_once (context : OrdersContext)
    (maps : context.formats.MapsAscii) (submissions : ι → Submission)
    (submitId : String)
    (identified : ∀ caller,
      (submissions caller).request.decisionId = some submitId)
    (database : OrdersDatabase) (system : SubmissionSystem ι)
    (reaches : System.Reaches (ServesSubmissions context)
      (beforeSubmissions context submissions database) system) :
    SubmitsOnce context submissions submitId system := by
  obtain ⟨phases, holds, following⟩ :=
    submissions_follow maps identified reaches
  refine
    { placed := ?_
      pending := fun caller intent next placing =>
        storedPending_of_place maps holds following placing
      refused := ?_ }
  · rcases holds.claim with unclaimed | ⟨owner, intent, claimed⟩
    · exact .inl unclaimed.unplaced
    · exact .inr ⟨owner, intent, claimed.placed⟩
  · intro caller outcome intent ended intends differs
    have waiting : (phases caller).owns = false := by
      cases owns : (phases caller).owns with
      | false => rfl
      | true => exact absurd differs (not_differs_of_owns maps holds owns intends)
    exact ⟨unplaced_of_waiting holds waiting,
      refused_of_differs holds waiting (following caller _ ended) intends
        differs⟩

end Runs

/-! ## Two orders under one identifier -/

section Samples

def submissionContext : OrdersContext :=
  { formats := tableFormats
      { entries := [("1", .finite 1), ("2", .finite 2)]
        nodup := by decide
        unmarked := by decide }
      { entries := []
        nodup := List.nodup_nil
        unmarked := by simp }
    digest := fun _ => "digest"
    observationDigest := fun _ => "digest" }

theorem submissionContext_mapsAscii :
    submissionContext.formats.MapsAscii :=
  ⟨fun _ _ => rfl, fun _ _ => rfl⟩

def btcOrder (quantity : ℚ) : Submission :=
  { submitter :=
      { botId := "bot"
        enableRetries := true
        storeInitialized := true }
    request :=
      { symbol := "BTC-USD"
        side := .buy
        orderType := .market
        quantity := .finite quantity
        price := none
        stopPrice := none
        tif := none
        reduceOnly := false
        leverage := none
        clientOrderId := some "order-a" }
    now := .utc 0 }

def btcIntent (quantity : ℚ) (positive : 0 < quantity) : OrderIntent :=
  { clientOrderId := "order-a"
    symbol := "BTC-USD"
    side := .buy
    orderType := .market
    quantity := quantity
    price := none
    stopPrice := none
    tif := .null
    reduceOnly := false
    leverage := .null
    positionOperation := none
    identified := by decide +kernel
    positive := positive
    reducing := fun some => nomatch some
    pricesPositive := OrderIntent.unpriced }

theorem one_coin : (0 : ℚ) < 1 := by
  norm_num

def unreadableRow : OrderRecord :=
  (btcOrder 1).submitter.pendingRecord submissionContext (btcOrder 1).request
    (btcOrder 1).now "order-a" (btcIntent 1 one_coin)

def unreadableDatabase : OrdersDatabase :=
  { OrdersDatabase.empty with
    orders :=
      { rows := [unreadableRow]
        unique := List.nodup_singleton _ } }

/-- A row that fails its checksum is not compared: the call ends uncertain. -/
theorem unreadable_row_not_rejected :
    ∃ system : SubmissionSystem Unit,
      System.Reaches (ServesSubmissions submissionContext)
        (beforeSubmissions submissionContext (fun _ => btcOrder 2)
          unreadableDatabase) system ∧
      (btcOrder 2).Intends "order-a" (btcIntent 2 (by decide)) ∧
      DiffersFromStored submissionContext "order-a" (btcIntent 2 (by decide))
        system.shared ∧
      system.callers () = some (.done (.ok (.uncertain
        "Orders store lookup unavailable; never resend"))) := by
  have serves : ∀ op state, ServesSubmissions submissionContext state op
      (performSubmission submissionContext (.returned none) op state).1
      (performSubmission submissionContext (.returned none) op state).2 :=
    fun op state => ⟨_, rfl⟩
  have starts : (beforeSubmissions submissionContext (fun _ : Unit => btcOrder 2)
      unreadableDatabase).callers () =
        some ((btcOrder 2).program submissionContext) := rfl
  obtain ⟨history, reaches⟩ := System.reaches_run serves starts
  refine ⟨_, reaches, ?_, ?_, ?_⟩
  · unfold Submission.Intends
    decide +kernel
  · refine ⟨unreadableRow, _, btcIntent 1 (by decide), rfl, rfl, ?_, ?_⟩
    · decide +kernel
    · decide +kernel
  · have ended : (((btcOrder 2).program submissionContext).run
        (performSubmission submissionContext (.returned none))
        unreadableDatabase).1 = .ok (.uncertain
          "Orders store lookup unavailable; never resend") := by
      decide +kernel
    exact congrArg (fun outcome => some (Program.done outcome)) ended

def btcOrders (first : Bool) : Submission :=
  btcOrder (if first then 1 else 2)

def timingOut (op : SubmissionOp) (database : OrdersDatabase) :
    SubmissionReply op × OrdersDatabase :=
  performSubmission submissionContext
    (.raised { retryable := true, message := "timeout" }) op database

def firstLeaves : Except SubmissionError SubmissionOutcome × OrdersDatabase :=
  ((btcOrder 1).program submissionContext).run timingOut .empty

/-- The second order meets the row of the first one. -/
theorem btc_orders_submit_once :
    ∃ system : SubmissionSystem Bool,
      System.Reaches (ServesSubmissions submissionContext)
        (beforeSubmissions submissionContext btcOrders .empty) system ∧
      system.callers false = some (.done (.ok .payloadConflict)) ∧
      SubmitsOnce submissionContext btcOrders "order-a" system := by
  have serves : ∀ op state, ServesSubmissions submissionContext state op
      (timingOut op state).1 (timingOut op state).2 := fun op state => ⟨_, rfl⟩
  have starts : (beforeSubmissions submissionContext btcOrders .empty).callers
      true = some ((btcOrder 1).program submissionContext) := rfl
  obtain ⟨earlier, first⟩ := System.reaches_run serves starts
  let halfway : SubmissionSystem Bool :=
    { shared := firstLeaves.2
      callers := Function.update
        (fun caller => some ((btcOrders caller).program submissionContext)) true
        (some (.done firstLeaves.1))
      history := earlier }
  have waiting : halfway.callers false =
      some ((btcOrder 2).program submissionContext) := rfl
  obtain ⟨history, second⟩ := System.reaches_run serves waiting
  have reaches := first.trans second
  refine ⟨_, reaches, ?_, ?_⟩
  · have ended : (((btcOrder 2).program submissionContext).run timingOut
        firstLeaves.2).1 = .ok .payloadConflict := by
      decide +kernel
    exact congrArg (fun outcome => some (Program.done outcome)) ended
  · exact submissions_submit_once submissionContext submissionContext_mapsAscii
      btcOrders "order-a" (by decide +kernel) .empty _ reaches

end Samples

end GptTrader
