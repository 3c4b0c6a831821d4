import GptTrader.Library.Outcome
import GptTrader.Persistence.OrderRecords

/-!
# How a stored order may grow

`Grows` says what an update of a stored order preserves: the client identity,
the observed fills, the receipt of a terminal order and the admitted intent with
its receipt.  `preserveIntent` accepts only updates which are growths, whatever
the update asks for.
-/

namespace GptTrader

def NotLess (before after : Decimal) : Prop :=
  after = before ∨ after.lt before = .ok false

theorem NotLess.refl (quantity : Decimal) : NotLess quantity quantity :=
  .inl rfl

theorem NotLess.trans {first second third : Decimal}
    (earlier : NotLess first second) (later : NotLess second third) :
    NotLess first third := by
  rcases earlier with rfl | earlier
  · exact later
  · rcases later with rfl | later
    · exact .inr earlier
    · right
      cases first <;> cases second <;> cases third <;>
        simp [Decimal.lt] at earlier later ⊢
      · exact le_trans earlier later
      all_goals grind

theorem Decimal.eq_of_eq {left right : Decimal}
    (equal : left.eq right = .ok true) : left = right := by
  unfold Decimal.eq at equal
  split at equal <;> simp_all

/-- A receipt of an intent: identity, side, quantity and a fill within it. -/
structure ValidReceipt (formats : TextFormats) (intent : OrderIntent)
    (record : OrderRecord) : Prop where
  identity : record.clientOrderId = intent.clientOrderId ∧
    record.symbol = intent.symbol
  side : formats.upper record.side = intent.side.value
  quantity : record.quantity = .finite intent.quantity
  filled : ∃ filled : ℚ, record.filledQuantity = .finite filled ∧
    0 ≤ filled ∧ filled ≤ intent.quantity

def AdmittedReceipt (formats : TextFormats) (payload : Json)
    (record : OrderRecord) : Prop :=
  ∃ stored intent, stored.canonical = payload.canonical ∧
    OrderIntent.fromDict formats stored = .ok intent ∧
    ValidReceipt formats intent record

/-- The facts of a terminal receipt, its average price if known. -/
structure SameReceipt (formats : TextFormats) (before after : OrderRecord) :
    Prop where
  status : after.status = before.status
  orderId : after.orderId = before.orderId
  symbol : after.symbol = before.symbol
  side : formats.lower after.side = formats.lower before.side
  quantity : after.quantity = before.quantity
  filledQuantity : after.filledQuantity = before.filledQuantity
  averageFillPrice : ∀ price,
    OrderRecord.nonzero before.averageFillPrice = some price →
      OrderRecord.nonzero after.averageFillPrice = some price

/-- What an update of a stored order preserves. -/
structure Grows (formats : TextFormats) (before after : OrderRecord) : Prop where
  client : after.clientOrderId = before.clientOrderId
  filled : NotLess before.filledQuantity after.filledQuantity
  frozen : before.status.venueTerminal = true →
    SameReceipt formats before after
  intent : ∀ payload, before.intent? = some payload →
    ∃ kept, after.intent? = some kept ∧
      kept.canonical = payload.canonical ∧
      (AdmittedReceipt formats payload before →
        AdmittedReceipt formats kept after)

variable {formats : TextFormats}

theorem SameReceipt.refl (record : OrderRecord) :
    SameReceipt formats record record :=
  { status := rfl
    orderId := rfl
    symbol := rfl
    side := rfl
    quantity := rfl
    filledQuantity := rfl
    averageFillPrice := fun _ known => known }

theorem SameReceipt.trans {first second third : OrderRecord}
    (earlier : SameReceipt formats first second)
    (later : SameReceipt formats second third) :
    SameReceipt formats first third :=
  { status := later.status.trans earlier.status
    orderId := later.orderId.trans earlier.orderId
    symbol := later.symbol.trans earlier.symbol
    side := later.side.trans earlier.side
    quantity := later.quantity.trans earlier.quantity
    filledQuantity := later.filledQuantity.trans earlier.filledQuantity
    averageFillPrice := fun price known =>
      later.averageFillPrice price (earlier.averageFillPrice price known) }

theorem Grows.refl (record : OrderRecord) : Grows formats record record :=
  { client := rfl
    filled := .refl _
    frozen := fun _ => .refl record
    intent := fun payload carried => ⟨payload, carried, rfl, id⟩ }

theorem Grows.trans {first second third : OrderRecord}
    (earlier : Grows formats first second)
    (later : Grows formats second third) : Grows formats first third :=
  { client := later.client.trans earlier.client
    filled := earlier.filled.trans later.filled
    frozen := fun terminal => by
      have held := earlier.frozen terminal
      exact held.trans (later.frozen (by rw [held.status]; exact terminal))
    intent := fun payload carried => by
      obtain ⟨middle, carriedMiddle, sameMiddle, validMiddle⟩ :=
        earlier.intent payload carried
      obtain ⟨kept, carriedKept, sameKept, validKept⟩ :=
        later.intent middle carriedMiddle
      exact ⟨kept, carriedKept, sameKept.trans sameMiddle,
        validKept ∘ validMiddle⟩ }

theorem agrees_eq_ok {field : String} {agreement : Bool} {value : Unit} :
    OrderIntent.agrees field agreement = .ok value ↔ agreement = true := by
  unfold OrderIntent.agrees
  split <;> simp_all

theorem quantityAgrees_eq_ok {intent : OrderIntent} {observed : Decimal}
    (agreed : intent.quantityAgrees (some observed) = .ok ()) :
    observed = .finite intent.quantity := by
  simp only [OrderIntent.quantityAgrees] at agreed
  split at agreed
  · next agreement compared =>
      rw [agrees_eq_ok] at agreed
      exact Decimal.eq_of_eq (agreed ▸ compared)
  · simp at agreed

theorem fillAgrees_eq_ok {intent : OrderIntent} {isFilled : Bool}
    {observed : Decimal}
    (agreed : intent.fillAgrees isFilled (some observed) = .ok ()) :
    ∃ filled : ℚ, observed = .finite filled ∧ 0 ≤ filled ∧
      filled ≤ intent.quantity := by
  cases observed with
  | finite filled =>
      simp only [OrderIntent.fillAgrees, Outcome.guard_eq_ok, not_or, not_lt]
        at agreed
      exact ⟨filled, rfl, agreed.1.1, agreed.1.2.1⟩
  | infinity negative => simp [OrderIntent.fillAgrees] at agreed
  | nan signaling => simp [OrderIntent.fillAgrees] at agreed

theorem validReceipt_of_validateReceipt {intent : OrderIntent}
    {record : OrderRecord}
    (checked : intent.validateReceipt formats record.observed = .ok ())
    (identified : record.clientOrderId ≠ "") :
    ValidReceipt formats intent record := by
  simp only [OrderIntent.validateReceipt, OrderRecord.observed,
    Outcome.bind_eq_ok, agrees_eq_ok] at checked
  obtain ⟨⟨⟩, client, ⟨⟩, symbol, ⟨⟩, side, ⟨⟩, _, ⟨⟩, quantity, ⟨⟩, _, ⟨⟩,
    filled, _⟩ := checked
  simp only [Option.all_some, decide_eq_true_eq] at client symbol side
  exact
    { identity := ⟨client.resolve_left identified, symbol⟩
      side := side
      quantity := quantityAgrees_eq_ok quantity
      filled := fillAgrees_eq_ok filled }

theorem ValidReceipt.identified {intent : OrderIntent} {record : OrderRecord}
    (valid : ValidReceipt formats intent record) :
    record.clientOrderId ≠ "" := by
  intro blank
  have stable := intent.identified.1
  rw [← valid.identity.1, blank] at stable
  simp [isBlank] at stable

variable {context : OrdersContext}

theorem immutableKey_eq_ok {original metadata : Dict String Json} {key : String}
    {value : Json} (carried : original.get? key = some value)
    (unchanged : immutableKey original metadata key = .ok ()) :
    ∃ kept, (original.merge metadata).get? key = some kept ∧
      kept.canonical = value.canonical := by
  rw [Dict.get?_merge]
  unfold immutableKey at unchanged
  split at unchanged
  · next absent => exact ⟨value, by simp [absent, carried], rfl⟩
  · next given found =>
      rw [Outcome.branch_eq_ok, carried] at unchanged
      simp only [Option.getD_some, Json.same, Bool.and_eq_true,
        decide_eq_true_eq] at unchanged
      exact ⟨given, by simp [found], unchanged.1.1⟩

theorem keepIntent_frame {existing order updated : OrderRecord}
    (accepted : keepIntent context existing order = .ok updated) :
    updated =
      { order with
        metadata := updated.metadata
        createdAt := updated.createdAt } := by
  unfold keepIntent at accepted
  split at accepted
  · simp only [Outcome.bind_eq_ok] at accepted
    obtain ⟨_, _, _, _, _, _, _, _, _, _, _, _, returned⟩ := accepted
    simp only [Except.ok.injEq] at returned
    rw [← returned]
  · split at accepted <;>
      · simp only [Except.ok.injEq] at accepted
        rw [← accepted]

theorem keepIntent_intent {existing order updated : OrderRecord}
    {payload : Json} (carried : existing.intent? = some payload)
    (accepted : keepIntent context existing order = .ok updated) :
    (∃ kept, updated.intent? = some kept ∧
      kept.canonical = payload.canonical) ∧
      ∃ intent, OrderIntent.fromDict context.formats payload = .ok intent ∧
        intent.validateReceipt context.formats updated.observed = .ok () := by
  unfold keepIntent at accepted
  rw [OrderRecord.intent?] at carried
  rw [carried] at accepted
  simp only [Outcome.bind_eq_ok, Outcome.mapError_eq_ok] at accepted
  obtain ⟨⟨⟩, intentKept, ⟨⟩, _, ⟨⟩, _, ⟨⟩, _, intent, decoded, ⟨⟩, checked,
    returned⟩ := accepted
  simp only [Except.ok.injEq] at returned
  rw [← returned]
  obtain ⟨kept, found, same⟩ := immutableKey_eq_ok carried intentKept
  exact ⟨⟨kept, found, same⟩, intent, decoded, checked⟩

theorem fillAdvances_eq_ok {existing order : OrderRecord}
    (accepted : fillAdvances existing order = .ok ()) :
    NotLess existing.filledQuantity order.filledQuantity := by
  unfold fillAdvances at accepted
  rw [Outcome.guard_eq_ok] at accepted
  obtain ⟨_, accepted⟩ := accepted
  simp only [Outcome.bind_eq_ok, Outcome.mapError_eq_ok,
    Outcome.guard_eq_ok] at accepted
  obtain ⟨_, _, _, less, compared, notLess, _⟩ := accepted
  right
  simpa [notLess] using compared

theorem nonzero_nonzero (price : Option Decimal) :
    OrderRecord.nonzero (OrderRecord.nonzero price) =
      OrderRecord.nonzero price := by
  simp [OrderRecord.nonzero, Option.filter_filter]

theorem stored_facts (record : OrderRecord) (checksum : String) :
    (record.stored checksum).facts = record.facts := by
  unfold OrderRecord.facts OrderRecord.stored
  cases record.metadata with
  | none => rfl
  | some metadata =>
      by_cases blank : metadata.entries = []
      · have empty : metadata = Dict.empty := by
          cases metadata
          cases blank
          rfl
        rw [empty]
        rfl
      · simp [Option.filter, blank]

theorem facts_stored (record : OrderRecord) (checksum key : String) :
    (record.stored checksum).facts.get? key = record.facts.get? key := by
  rw [stored_facts]

theorem sameReceipt_eq_ok {existing order : OrderRecord} {checksum : String}
    (same : sameReceipt context existing order = .ok true) :
    SameReceipt context.formats existing (order.stored checksum) := by
  unfold sameReceipt at same
  split at same
  · next kept =>
      obtain ⟨status, orderId, _, symbol, side⟩ := kept
      simp only [Outcome.bind_eq_ok] at same
      obtain ⟨quantityKept, quantity, same⟩ := same
      cases quantityKept with
      | false => simp at same
      | true =>
          simp only [if_true, Outcome.bind_eq_ok] at same
          obtain ⟨filledKept, filled, same⟩ := same
          cases filledKept with
          | false => simp at same
          | true =>
              refine
                { status := status
                  orderId := orderId
                  symbol := symbol
                  side := side
                  quantity := Decimal.eq_of_eq quantity
                  filledQuantity := Decimal.eq_of_eq filled
                  averageFillPrice := ?_ }
              intro price known
              simp only [OrderRecord.stored, nonzero_nonzero]
              match existingPrice : existing.averageFillPrice with
              | none =>
                  rw [existingPrice] at known
                  simp [OrderRecord.nonzero] at known
              | some recorded =>
                  rw [existingPrice] at known same
                  match orderPrice : order.averageFillPrice with
                  | none => simp [orderPrice] at same
                  | some reported =>
                      simp only [orderPrice, if_true] at same
                      rw [Decimal.eq_of_eq same]
                      exact known
  · simp at same

theorem preserveIntent_eq_ok {existing order updated : OrderRecord}
    (accepted : preserveIntent context existing order = .ok updated) :
    keepIntent context existing order = .ok updated ∧
      fillAdvances existing updated = .ok () ∧
      (existing.status.venueTerminal = true →
        sameReceipt context existing updated = .ok true) := by
  simp only [preserveIntent, Outcome.bind_eq_ok] at accepted
  obtain ⟨kept, keeping, ⟨⟩, advancing, accepted⟩ := accepted
  split at accepted
  · next terminal =>
      simp only [Outcome.bind_eq_ok, Outcome.mapError_eq_ok,
        Outcome.branch_eq_ok, Except.ok.injEq] at accepted
      obtain ⟨same, compared, rfl, rfl⟩ := accepted
      exact ⟨keeping, advancing, fun _ => compared⟩
  · next unfinished =>
      obtain rfl : kept = updated := by simpa using accepted
      exact ⟨keeping, advancing, fun terminal => absurd terminal unfinished⟩

/-- The specification of `preserveIntent`: what it accepts is a growth. -/
theorem preserveIntent_grows {existing order updated : OrderRecord}
    (client : order.clientOrderId = existing.clientOrderId)
    (accepted : preserveIntent context existing order = .ok updated)
    (checksum : String) :
    Grows context.formats existing (updated.stored checksum) := by
  obtain ⟨keeping, advancing, same⟩ := preserveIntent_eq_ok accepted
  have frame := keepIntent_frame keeping
  have keptClient : updated.clientOrderId = existing.clientOrderId := by
    rw [frame]
    exact client
  refine
    { client := keptClient
      filled := fillAdvances_eq_ok advancing
      frozen := ?_
      intent := ?_ }
  · intro terminal
    exact sameReceipt_eq_ok (same terminal)
  · intro payload carried
    obtain ⟨⟨retained, found, canonical⟩, intent, decoded, checked⟩ :=
      keepIntent_intent carried keeping
    refine ⟨retained, ?_, canonical, ?_⟩
    · rw [OrderRecord.intent?, facts_stored]
      exact found
    · rintro ⟨stored, admitted, sameStored, _, valid⟩
      have identified : updated.clientOrderId ≠ "" := by
        rw [keptClient]
        exact valid.identified
      have receipt := validReceipt_of_validateReceipt checked identified
      exact ⟨payload, intent, canonical.symm, decoded,
        { identity := receipt.identity
          side := receipt.side
          quantity := receipt.quantity
          filled := receipt.filled }⟩

end GptTrader
