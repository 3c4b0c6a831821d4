import GptTrader.Library.Outcome
import GptTrader.LiveTrade.OrderSubmission

/-!
# What one submission may do next

A submission looks its identifier up, reserves it, and only the one that
reserved it calls the broker, at most as often as it may retry, until the broker
returns.  This holds of the program whatever the store and the broker reply.
-/

namespace GptTrader

/-! ## ASCII texts -/

def isAscii (text : String) : Bool :=
  text.toList.all fun char => decide (char.toNat < 128)

/-- The case mappings of Python on ASCII texts. -/
structure TextFormats.MapsAscii (formats : TextFormats) : Prop where
  lower : ∀ text, isAscii text = true →
    formats.lower text = .ofList (text.toList.map Char.toLower)
  upper : ∀ text, isAscii text = true →
    formats.upper text = .ofList (text.toList.map Char.toUpper)

theorem OrderSide.value_injective : Function.Injective OrderSide.value := by
  intro left right same
  cases left <;> cases right <;> first | rfl | exact absurd same (by decide)

theorem OrderType.value_injective : Function.Injective OrderType.value := by
  intro left right same
  cases left <;> cases right <;> first | rfl | exact absurd same (by decide)

namespace TextFormats.MapsAscii

variable {formats : TextFormats}

theorem upper_side (maps : formats.MapsAscii) (side : OrderSide) :
    formats.upper side.value = side.value := by
  cases side <;> rw [maps.upper _ (by decide +kernel)] <;> decide +kernel

section

variable (maps : formats.MapsAscii)

include maps

theorem upper_type (type : OrderType) :
    formats.upper type.value = type.value := by
  cases type <;> rw [maps.upper _ (by decide +kernel)] <;> decide +kernel

theorem upper_lower_side (side : OrderSide) :
    formats.upper (formats.lower side.value) = side.value := by
  cases side <;>
    rw [maps.lower _ (by decide +kernel), maps.upper _ (by decide +kernel)] <;>
    decide +kernel

theorem upper_lower_type (type : OrderType) :
    formats.upper (formats.lower type.value) = type.value := by
  cases type <;>
    rw [maps.lower _ (by decide +kernel), maps.upper _ (by decide +kernel)] <;>
    decide +kernel

theorem upper_status (status : BrokerOrderStatus) :
    formats.upper status.value = status.value := by
  cases status <;> rw [maps.upper _ (by decide +kernel)] <;> decide +kernel

theorem rejection_reason (status : BrokerOrderStatus) :
    normalizeRejectionReason formats
        ("Order rejected by broker: " ++ status.value) =
      ("broker_status", some status.value) := by
  unfold normalizeRejectionReason
  dsimp only
  cases status <;> rw [maps.lower _ (by decide +kernel)] <;> decide +kernel

end

def storeStatus : BrokerOrderStatus → OrderStatus
  | .pending => .pending
  | .submitted => .open
  | .partiallyFilled => .partiallyFilled
  | .filled => .filled
  | .cancelled => .cancelled
  | .rejected => .rejected
  | .expired => .expired
  | .failed => .failed

theorem store_status (maps : formats.MapsAscii) (status : BrokerOrderStatus) :
    executionStatusForStore formats status.value = .ok (storeStatus status) := by
  unfold executionStatusForStore
  dsimp only
  cases status <;> rw [maps.lower _ (by decide +kernel)] <;> rfl

end TextFormats.MapsAscii

/-! ## Phases -/

/-- Where a submission stands: it looks, reserves, has placed the order some
times without an answer, settles what the broker returned, or was refused by
what the store has, or by the store itself. -/
inductive SubmissionPhase where
  | looking
  | reserving
  | placing (placed : ℕ)
  | settling (seen : Option OrderRecord)
  | refused (found : Option OrderRecord)

namespace SubmissionPhase

/-- The phase after a row was read. -/
def afterRead (absent : SubmissionPhase) :
    Except StoreError (Option OrderRecord) → SubmissionPhase
  | .ok none => absent
  | .ok (some record) => .refused (some record)
  | .error _ => .refused none

def seenIn : Except StoreError (Option OrderRecord) → Option OrderRecord
  | .ok found => found
  | .error _ => none

/-- The phase after an order was sent. -/
def afterPlace (placed : ℕ) : BrokerReply → SubmissionPhase
  | .raised _ => .placing (placed + 1)
  | .returned _ => .settling none

/-- The phase after an operation. -/
def after : SubmissionPhase → (op : SubmissionOp) → SubmissionReply op →
    SubmissionPhase
  | .looking, .lookup _, reply => afterRead .reserving reply
  | .reserving, .reserve _, reply => afterRead (.placing 0) reply
  | .placing _, .lookup _, reply => .settling (seenIn reply)
  | .placing placed, .place _, reply => afterPlace placed reply
  | .settling _, .lookup _, reply => .settling (seenIn reply)
  | phase, _, _ => phase

/-- The submission created the row. -/
def owns : SubmissionPhase → Bool
  | .placing _ => true
  | .settling _ => true
  | _ => false

end SubmissionPhase

/-- A record of the own submission: its identifier, spelled as requested, with
the intent that was seen. -/
structure WritesOwn (context : OrdersContext) (submitId : String)
    (seen : Option OrderRecord) (record : OrderRecord) : Prop where
  client : record.clientOrderId = submitId
  side : ∃ side : OrderSide, record.side = context.formats.lower side.value
  orderType : ∃ type : OrderType,
    record.orderType = context.formats.lower type.value
  intent : record.intent? = seen.bind OrderRecord.intent?

/-- One call of `submit_order_with_result`. -/
structure Submission where
  submitter : OrderSubmitter
  request : SubmissionRequest
  now : DateTime

namespace Submission

variable (context : OrdersContext) (submission : Submission) (submitId : String)

def program : SubmissionTx SubmissionOutcome :=
  submission.submitter.submitOrderWithResult context submission.request
    submission.now

/-- The request stands for this intent. -/
def Intends (intent : OrderIntent) : Prop :=
  submission.request.intent submitId = .ok intent

/-- The operations of a phase. -/
def allows : SubmissionPhase → SubmissionOp → Prop
  | .looking, .lookup clientOrderId => clientOrderId = submitId
  | .reserving, .reserve record => ∃ intent,
      submission.Intends submitId intent ∧
        record = submission.submitter.pendingRecord context submission.request
          submission.now submitId intent
  | .placing _, .lookup clientOrderId => clientOrderId = submitId
  | .placing placed, .place intent =>
      submission.Intends submitId intent ∧
        placed < submission.submitter.maxAttempts
  | .settling _, .lookup clientOrderId => clientOrderId = submitId
  | .settling seen, .persist record => WritesOwn context submitId seen record
  | _, _ => False

def session : Session SubmissionOp SubmissionReply SubmissionPhase :=
  { allows := submission.allows context submitId
    after := SubmissionPhase.after }

def Ends : SubmissionPhase → Except SubmissionError SubmissionOutcome → Prop
  | .looking, outcome =>
      (submission.submitter.storeInitialized = false ∧
        ∃ message, outcome = .ok (.uncertain message)) ∨
      ∃ error, submission.request.intent submitId = .error error
  | .refused none, outcome => ∃ message, outcome = .ok (.uncertain message)
  | .refused (some record), outcome => ∀ intent,
      submission.Intends submitId intent →
      OrderSubmitter.intentMatches context record intent = .ok false →
        outcome = .ok .payloadConflict ∨
          OrderSubmitter.isOwnReceipt context record = false ∧
            ∃ message, outcome = .ok (.uncertain message)
  | .reserving, _ => False
  | _, _ => True

end Submission

/-! ## Submissions follow their session -/

section Follows

variable {context : OrdersContext} {submission : Submission}
variable {submitId : String} {phase : SubmissionPhase} {intent : OrderIntent}

theorem getExistingRecord_follows
    {ends : SubmissionPhase → Except SubmissionError (Option OrderRecord) → Prop}
    (initialized : submission.submitter.storeInitialized = true)
    (allowed : submission.allows context submitId phase (.lookup submitId))
    (found : ∀ record : Option OrderRecord,
      record.all (OrderSubmitter.isOwnReceipt context) = true →
        ends (phase.after (.lookup submitId) (.ok record)) (.ok record))
    (failed : ∀ (reply : Except StoreError (Option OrderRecord)) message,
      (∀ record, reply = .ok record →
        record.all (OrderSubmitter.isOwnReceipt context) = false) →
        ends (phase.after (.lookup submitId) reply)
          (.error (.persistence message))) :
    (submission.submitter.getExistingRecord context submitId).Follows
      (submission.session context submitId) phase ends := by
  unfold OrderSubmitter.getExistingRecord
  rw [if_pos initialized]
  refine Program.follows_bind (Program.follows_request allowed fun reply => ?_)
  match reply with
  | .error error => exact failed (.error error) _ (by simp)
  | .ok record =>
      dsimp only
      split
      · next own => exact found record own
      · next foreign =>
          refine failed (.ok record) _ fun other same => ?_
          cases same
          simpa using foreign

theorem persistOrder_follows {record : OrderRecord}
    {seen : Option OrderRecord}
    {ends : SubmissionPhase → Except SubmissionError Unit → Prop}
    (writes : WritesOwn context submitId seen record)
    (written : ends (.settling seen) (.ok ()))
    (failed : ∀ message,
      ends (.settling seen) (.error (.persistence message))) :
    (OrderSubmitter.persistOrder record).Follows
      (submission.session context submitId) (.settling seen) ends := by
  unfold OrderSubmitter.persistOrder
  refine Program.follows_bind (Program.follows_request writes fun reply => ?_)
  match reply with
  | .ok .ok => exact written
  | .ok (.fail error) => exact failed _
  | .error error => exact failed _

theorem submissionMetadata_intent (request : SubmissionRequest)
    (metadata : Dict String Json) :
    (OrderSubmitter.submissionMetadata request metadata).get? "intent" =
      metadata.get? "intent" := by
  unfold OrderSubmitter.submissionMetadata
  dsimp only
  split
  · exact Dict.get?_set_of_ne _ _ (by decide)
  · rw [Dict.get?_set_of_ne _ _ (by decide),
      Dict.get?_set_of_ne _ _ (by decide)]

theorem intent?_submissionMetadata (request : SubmissionRequest)
    (previous : Option OrderRecord) :
    (OrderSubmitter.submissionMetadata request
        (OrderSubmitter.previousMetadata previous)).get? "intent" =
      previous.bind OrderRecord.intent? := by
  rw [submissionMetadata_intent]
  cases previous <;> rfl

theorem owns_lookup (context : OrdersContext) (submission : Submission)
    (submitId : String) (owns : phase.owns = true)
    (reply : Except StoreError (Option OrderRecord)) :
    submission.allows context submitId phase (.lookup submitId) ∧
      phase.after (.lookup submitId) reply =
        .settling (SubmissionPhase.seenIn reply) := by
  cases phase with
  | placing placed => exact ⟨rfl, rfl⟩
  | settling seen => exact ⟨rfl, rfl⟩
  | looking => cases owns
  | reserving => cases owns
  | refused found => cases owns

theorem rewrite_follows {record : Option OrderRecord → OrderRecord}
    {ends : SubmissionPhase → Except SubmissionError Unit → Prop}
    (initialized : submission.submitter.storeInitialized = true)
    (owns : phase.owns = true)
    (writes : ∀ seen, WritesOwn context submitId seen (record seen))
    (written : ∀ seen, ends (.settling seen) (.ok ()))
    (failed : ∀ seen message,
      ends (.settling seen) (.error (.persistence message))) :
    (submission.submitter.getExistingRecord context submitId >>=
        fun previous => OrderSubmitter.persistOrder (record previous)).Follows
      (submission.session context submitId) phase ends := by
  have looks := owns_lookup context submission submitId owns
  refine Program.follows_bind (getExistingRecord_follows initialized
    (looks (.ok none)).1 (fun found _ => ?_) fun reply message _ => ?_)
  · rw [(looks _).2]
    exact persistOrder_follows (writes found) (written found) (failed found)
  · rw [(looks _).2]
    exact failed _ message

theorem recordFailedSubmission_follows {status : OrderStatus}
    {ends : SubmissionPhase → Except SubmissionError Unit → Prop}
    (initialized : submission.submitter.storeInitialized = true)
    (owns : phase.owns = true)
    (written : ∀ seen, ends (.settling seen) (.ok ()))
    (failed : ∀ seen message,
      ends (.settling seen) (.error (.persistence message))) :
    (submission.submitter.recordFailedSubmission context submission.request
        submission.now submitId status).Follows
      (submission.session context submitId) phase ends :=
  rewrite_follows initialized owns
    (fun seen =>
      { client := rfl
        side := ⟨_, rfl⟩
        orderType := ⟨_, rfl⟩
        intent := intent?_submissionMetadata _ seen })
    written failed

theorem clientId_of_receipt {order : BrokerOrder}
    (receipt : intent.validateReceipt context.formats order.observed = .ok ())
    (identified : intent.clientOrderId = submitId) :
    (order.clientId.filter (· ≠ "")).getD submitId = submitId := by
  unfold OrderIntent.validateReceipt at receipt
  obtain ⟨_, agrees, _⟩ := Outcome.bind_eq_ok.mp receipt
  unfold OrderIntent.agrees BrokerOrder.observed at agrees
  dsimp only at agrees
  split at agrees
  · next same =>
      cases named : order.clientId with
      | none => rfl
      | some client =>
          rw [named] at same
          by_cases blank : client = ""
          · subst blank
            rfl
          · have kept : (some client).filter (· ≠ "") = some client :=
              Option.filter_eq_some_iff.mpr ⟨rfl, by simpa using blank⟩
            rw [kept]
            simpa [blank, identified] using same
  · cases agrees

theorem recordFinalSubmission_follows {order : BrokerOrder}
    {status : OrderStatus}
    {ends : SubmissionPhase → Except SubmissionError Unit → Prop}
    (initialized : submission.submitter.storeInitialized = true)
    (owns : phase.owns = true)
    (client : (order.clientId.filter (· ≠ "")).getD submitId = submitId)
    (written : ∀ seen, ends (.settling seen) (.ok ()))
    (failed : ∀ seen message,
      ends (.settling seen) (.error (.persistence message))) :
    (submission.submitter.recordFinalSubmission context submission.request
        submission.now submitId order status).Follows
      (submission.session context submitId) phase ends :=
  rewrite_follows initialized owns
    (fun seen =>
      { client := client
        side := ⟨_, rfl⟩
        orderType := ⟨_, rfl⟩
        intent := intent?_submissionMetadata _ seen })
    written failed

/-- The error admits no retry. -/
def Final (formats : TextFormats) (error : BrokerError) : Prop :=
  isTransientSubmissionError error
    (normalizeRejectionReason formats error.message).1 = false

theorem final_rejection (maps : context.formats.MapsAscii)
    (status : BrokerOrderStatus) :
    Final context.formats
      { retryable := false
        message := "Order rejected by broker: " ++ status.value } := by
  unfold Final
  rw [maps.rejection_reason]
  rfl

theorem handleOrderResult_follows {order : Option BrokerOrder}
    {ends : SubmissionPhase → Except SubmissionError (Option String) → Prop}
    (maps : context.formats.MapsAscii)
    (initialized : submission.submitter.storeInitialized = true)
    (owns : phase.owns = true)
    (client : ∀ found ∈ order,
      (found.clientId.filter (· ≠ "")).getD submitId = submitId)
    (handled : ∀ seen result, ends (.settling seen) (.ok result))
    (failed : ∀ seen message,
      ends (.settling seen) (.error (.persistence message)))
    (rejected : ∀ seen error, Final context.formats error →
      ends (.settling seen) (.error (.exception error))) :
    (submission.submitter.handleOrderResult context submission.request
        submission.now submitId order).Follows
      (submission.session context submitId) phase ends := by
  unfold OrderSubmitter.handleOrderResult
  split
  · exact Program.follows_bind (recordFailedSubmission_follows initialized owns
      (fun seen => handled seen none) failed)
  · next found kept =>
      have same := client found (Option.eq_some_of_filter_eq_some kept)
      refine Program.follows_bind ?_
      rw [maps.store_status]
      change (if _ then _ else _ : SubmissionTx (Option String)).Follows _ _ _
      split
      · unfold OrderSubmitter.processRejection
        exact Program.follows_bind (recordFinalSubmission_follows initialized
          owns same
          (fun seen => rejected seen _ (final_rejection maps found.status))
          failed)
      · exact Program.follows_bind (recordFinalSubmission_follows initialized
          owns same (fun seen => handled seen (some found.id)) failed)

theorem fields_of_intends (intends : submission.Intends submitId intent) :
    intent.clientOrderId = submitId ∧
      intent.tif = (submission.request.tif.map Json.str).getD .null ∧
      intent.leverage =
        (submission.request.leverage.map Json.int).getD .null ∧
      intent.positionOperation = none := by
  unfold Submission.Intends SubmissionRequest.intent OrderIntent.make at intends
  split at intends
  · obtain ⟨_, _, intends⟩ := Outcome.bind_eq_ok.mp intends
    dsimp only at intends
    split at intends
    · obtain ⟨_, _, intends⟩ := Outcome.bind_eq_ok.mp intends
      obtain ⟨_, _, intends⟩ := Outcome.bind_eq_ok.mp intends
      cases intends
      exact ⟨rfl, rfl, rfl, rfl⟩
    · cases intends
  · cases intends

theorem clientOrderId_of_intends
    (intends : submission.Intends submitId intent) :
    intent.clientOrderId = submitId :=
  (fields_of_intends intends).1

/-- An attempt follows the session of its submission. -/
theorem attempt_follows {placed : ℕ}
    {ends : SubmissionPhase → Except SubmissionError SubmissionOutcome → Prop}
    (maps : context.formats.MapsAscii)
    (initialized : submission.submitter.storeInitialized = true)
    (intends : submission.Intends submitId intent)
    (allowed : placed < submission.submitter.maxAttempts)
    (retried : ∀ error,
      ends (.placing (placed + 1)) (.error (.exception error)))
    (returned : ∀ seen outcome, ends (.settling seen) (.ok outcome))
    (failed : ∀ seen message,
      ends (.settling seen) (.error (.persistence message)))
    (conflicting : ∀ seen message,
      ends (.settling seen) (.error (.receiptConflict message)))
    (rejected : ∀ seen error, Final context.formats error →
      ends (.settling seen) (.error (.exception error))) :
    (submission.submitter.attempt context submission.request submission.now
        submitId intent).Follows
      (submission.session context submitId) (.placing placed) ends := by
  unfold OrderSubmitter.attempt OrderSubmitter.executeBrokerOrder
  have handled : ∀ (order : Option BrokerOrder)
      (next : Option String → SubmissionTx SubmissionOutcome),
      (∀ found ∈ order,
        (found.clientId.filter (· ≠ "")).getD submitId = submitId) →
      (∀ orderId, next (some orderId) = pure (.success orderId)) →
      next none = pure .brokerRejected →
      (submission.submitter.handleOrderResult context submission.request
          submission.now submitId order >>= next).Follows
        (submission.session context submitId) (.settling none) ends := by
    intro order next client succeeds refuses
    refine Program.follows_bind (handleOrderResult_follows maps initialized rfl
      client (fun seen result => ?_) failed rejected)
    cases result with
    | none =>
        dsimp only
        rw [refuses]
        exact returned seen _
    | some orderId =>
        dsimp only
        rw [succeeds]
        exact returned seen _
  refine Program.follows_bind (Program.follows_bind
    (Program.follows_request ⟨intends, allowed⟩ fun reply => ?_))
  rcases reply with error | _ | order
  · exact retried error
  · exact handled none _ (by simp) (fun _ => rfl) rfl
  · change (OrderSubmitter.validateReceipt context (some order) intent >>=
      _).Follows _ (SubmissionPhase.settling none) _
    unfold OrderSubmitter.validateReceipt
    dsimp only
    cases receipt : intent.validateReceipt context.formats order.observed with
    | error error => exact conflicting none _
    | ok _ =>
        refine handled (some order) _ (fun found same => ?_) (fun _ => rfl) rfl
        cases same
        exact clientId_of_receipt receipt (clientOrderId_of_intends intends)

def AnyEnd
    (ends : SubmissionPhase → Except SubmissionError SubmissionOutcome → Prop) :
    Prop :=
  ∀ phase outcome, phase.owns = true → ends phase outcome

theorem failSubmission_follows {error : BrokerError}
    {ends : SubmissionPhase → Except SubmissionError SubmissionOutcome → Prop}
    (initialized : submission.submitter.storeInitialized = true)
    (owns : phase.owns = true) (any : AnyEnd ends) :
    (submission.submitter.failSubmission context submission.request
        submission.now submitId error).Follows
      (submission.session context submitId) phase ends := by
  unfold OrderSubmitter.failSubmission
  dsimp only
  exact Program.follows_handle (Program.follows_bind
    (recordFailedSubmission_follows initialized owns
      (fun seen => any (.settling seen) _ rfl)
      fun seen message => any (.settling seen) _ rfl))

/-- The order is placed at most as often as attempts are left, and not again
after the broker returned. -/
theorem attempts_follows {left placed : ℕ}
    {ends : SubmissionPhase → Except SubmissionError SubmissionOutcome → Prop}
    (maps : context.formats.MapsAscii)
    (initialized : submission.submitter.storeInitialized = true)
    (intends : submission.Intends submitId intent)
    (bounded : placed + left ≤ submission.submitter.maxAttempts)
    (any : AnyEnd ends) :
    (submission.submitter.attempts context submission.request submission.now
        submitId intent left).Follows
      (submission.session context submitId) (.placing placed) ends := by
  induction left generalizing placed with
  | zero => exact any (.placing placed) _ rfl
  | succ left induction =>
      unfold OrderSubmitter.attempts
      refine Program.follows_handle (attempt_follows maps initialized intends
        (by omega) (fun error => ?_) (fun seen outcome => ?_)
        (fun seen message => ?_) (fun seen message => ?_)
        fun seen error final => ?_)
      · dsimp only
        split
        · exact induction (by omega)
        · exact failSubmission_follows initialized rfl any
      · exact any (.settling seen) _ rfl
      · exact any (.settling seen) _ rfl
      · exact any (.settling seen) _ rfl
      · dsimp only
        rw [if_neg (by simp [Final] at final; simp [final])]
        exact failSubmission_follows initialized rfl any

theorem anyEnd_ends (context : OrdersContext) (submission : Submission)
    (submitId : String) : AnyEnd (submission.Ends context submitId) := by
  intro phase outcome owns
  cases phase with
  | placing placed => trivial
  | settling seen => trivial
  | looking => cases owns
  | reserving => cases owns
  | refused found => cases owns

theorem existing_follows (intends : submission.Intends submitId intent)
    (record : OrderRecord) :
    (do
      let same ← (Program.lift ((OrderSubmitter.intentMatches context record
        intent).mapError .python) : SubmissionTx Bool)
      if same then
        pure (OrderSubmitter.handleExistingSubmissionOutcome context record
          submitId)
      else pure .payloadConflict : SubmissionTx SubmissionOutcome).Follows
      (submission.session context submitId) (.refused (some record))
      (submission.Ends context submitId) := by
  refine Program.follows_bind ?_
  have only : ∀ other, submission.Intends submitId other → other = intent :=
    fun other same => Except.ok.inj (same.symm.trans intends)
  cases compared : OrderSubmitter.intentMatches context record intent with
  | error error =>
      intro other intended mismatch
      rw [only other intended, compared] at mismatch
      cases mismatch
  | ok same =>
      cases same with
      | true =>
          intro other intended mismatch
          rw [only other intended, compared] at mismatch
          cases mismatch
      | false => exact fun _ _ _ => .inl rfl

theorem submitOrderInner_follows (maps : context.formats.MapsAscii)
    (intends : submission.Intends submitId intent) :
    (submission.submitter.submitOrderInner context submission.request
        submission.now submitId intent).Follows
      (submission.session context submitId) .looking
      (submission.Ends context submitId) := by
  unfold OrderSubmitter.submitOrderInner
  refine Program.follows_andThen.mpr ?_
  unfold OrderSubmitter.existingRecord
  cases initialized : submission.submitter.storeInitialized with
  | false =>
      unfold OrderSubmitter.getExistingRecord
      rw [if_neg (by simp [initialized])]
      exact .inl ⟨initialized, _, rfl⟩
  | true =>
      refine Program.follows_bind (getExistingRecord_follows initialized rfl
        (fun found own => ?_) fun reply message foreign => ?_)
      · match found with
        | some record => exact existing_follows intends record
        | none =>
            dsimp only
            unfold OrderSubmitter.recordPendingSubmission
            refine Program.follows_bind (Program.follows_request
              ⟨intent, intends, rfl⟩ fun reply => ?_)
            match reply with
            | .error error => exact ⟨_, rfl⟩
            | .ok none =>
                exact attempts_follows maps initialized intends (by omega)
                  (anyEnd_ends context submission submitId)
            | .ok (some record) => exact existing_follows intends record
      · match reply with
        | .error error => exact ⟨message, rfl⟩
        | .ok none => exact absurd (foreign none rfl) (by simp)
        | .ok (some record) =>
            exact fun _ _ _ => .inr ⟨foreign (some record) rfl, message, rfl⟩

theorem program_follows (context : OrdersContext) (submission : Submission)
    (submitId : String) (maps : context.formats.MapsAscii)
    (identified : submission.request.decisionId = some submitId) :
    (submission.program context).Follows
      (submission.session context submitId) .looking
      (submission.Ends context submitId) := by
  unfold Submission.program OrderSubmitter.submitOrderWithResult
  rw [identified]
  refine Program.follows_bind ?_
  cases intended : submission.request.intent submitId with
  | error error => exact .inr ⟨error, intended⟩
  | ok intent => exact submitOrderInner_follows maps intended

end Follows

end GptTrader
