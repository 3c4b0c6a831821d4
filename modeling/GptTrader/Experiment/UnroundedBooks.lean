import GptTrader.Experiment.BarTrades
import GptTrader.Experiment.ReconciledRuns

/-!
# Books of which nothing is rounded

As long as a decimal context returns every amount that a fill enters and that a
close values as it is, the engine and reconciliation compute what they compute
in exact arithmetic.
-/

namespace GptTrader

/-- None of these values is rounded. -/
def DecimalContext.Keeps (context : DecimalContext) (values : List ℚ) : Prop :=
  ∀ value ∈ values, context.round value = value

instance (context : DecimalContext) (values : List ℚ) :
    Decidable (context.Keeps values) := by
  unfold DecimalContext.Keeps
  infer_instance

/-! ## Amounts -/

def feeAmounts (settings : ExperimentSettings) (notional : ℚ) : List ℚ :=
  [notional, notional * settings.feeBps, notional * settings.feeBps / 10000]

def purchaseAmounts (books : CashBooks) (quantity price fee : ℚ) : List ℚ :=
  let notional := quantity * price
  [quantity, price, fee, -notional, -notional - fee, notional + fee,
    books.cash - notional, books.cash - notional - fee, books.fees + fee]

def saleAmounts (books : CashBooks) (inventory : Inventory)
    (price fee : ℚ) : List ℚ :=
  let notional := inventory.quantity * price
  let gain := inventory.quantity * (price - inventory.entry)
  let realizedNet := inventory.realized - books.realizedFees
  let costBasis := inventory.quantity * inventory.entry + books.entryFees
  [inventory.quantity, -inventory.quantity, notional - fee,
    books.cash + notional, books.cash + notional - fee, books.fees + fee,
    books.entryFees + fee, books.realizedFees + (books.entryFees + fee),
    price - inventory.entry, gain, inventory.realized + gain,
    realizedNet + notional, realizedNet + notional - fee,
    realizedNet + notional - fee - costBasis]

def closeAmounts (books : CashBooks) (inventory : Inventory)
    (mark initialCash : ℚ) : List ℚ :=
  let held := inventory.quantity * mark
  let gain := inventory.quantity * (mark - inventory.entry)
  let realizedNet := inventory.realized - books.realizedFees
  let costBasis := inventory.quantity * inventory.entry + books.entryFees
  [held, books.cash + held, books.cash + held - initialCash,
    inventory.quantity * inventory.entry, costBasis, held - costBasis,
    realizedNet, realizedNet + (held - costBasis), mark - inventory.entry, gain,
    inventory.realized + gain, inventory.realized + gain - books.fees]

section Unrounded

variable (context : DecimalContext) (source : ExperimentInput)

/-- No amount of the fill is rounded. -/
def UnroundedFill (earlier : List FillFact) (fill : FillFact) : Prop :=
  match (CashBooks.opening source).enterAll .exact earlier with
  | .error _ => True
  | .ok books =>
      let fee := fillFee .exact source.settings fill.quantity fill.price
      context.Keeps (feeAmounts source.settings (fill.quantity * fill.price)) ∧
        if fill.side = "buy" then
          context.Keeps
              (purchaseAmounts books fill.quantity fill.price fee) ∧
            fill.quantity * fill.price + fee ≤ books.cash
        else
          context.Keeps (saleAmounts books
            (inventoryAfter .exact source earlier) fill.price fee)

/-- No amount of any fill is rounded. -/
def UnroundedFills (earlier : List FillFact) : List FillFact → Prop
  | [] => True
  | fill :: rest =>
      UnroundedFill context source earlier fill ∧
        UnroundedFills (earlier ++ [fill]) rest

/-- No amount of the close is rounded. -/
def UnroundedClose (fills : List FillFact) (mark : ℚ) : Prop :=
  match (CashBooks.opening source).enterAll .exact fills with
  | .error _ => True
  | .ok books =>
      context.Keeps (closeAmounts books (inventoryAfter .exact source fills)
        mark source.settings.initialCash)

instance (earlier : List FillFact) (fill : FillFact) :
    Decidable (UnroundedFill context source earlier fill) := by
  unfold UnroundedFill
  split <;> infer_instance

instance decidableUnroundedFills (earlier : List FillFact) :
    ∀ fills, Decidable (UnroundedFills context source earlier fills)
  | [] => inferInstanceAs (Decidable True)
  | fill :: rest =>
      have := decidableUnroundedFills (earlier ++ [fill]) rest
      inferInstanceAs (Decidable (_ ∧ _))

instance (fills : List FillFact) (mark : ℚ) :
    Decidable (UnroundedClose context source fills mark) := by
  unfold UnroundedClose
  split <;> infer_instance

end Unrounded

/-! ## Fills of which nothing is rounded -/

section Kept

variable {context : DecimalContext} {settings : ExperimentSettings}
variable {quantity price : ℚ} {fact : FillFact} {books : CashBooks}

theorem fillFee_kept
    (keeps : context.Keeps (feeAmounts settings (quantity * price))) :
    context.mul quantity price = quantity * price ∧
      fillFee context settings quantity price =
        fillFee .exact settings quantity price := by
  have notional := keeps (quantity * price) (by simp [feeAmounts])
  have charged := keeps (quantity * price * settings.feeBps)
    (by simp [feeAmounts])
  have fee := keeps (quantity * price * settings.feeBps / 10000)
    (by simp [feeAmounts])
  refine ⟨notional, ?_⟩
  change context.round (context.round (context.round (quantity * price) *
    settings.feeBps) / 10000) = quantity * price * settings.feeBps / 10000
  rw [notional, charged, fee]

theorem FillFact.Settles.exact {side : FillSide}
    (settles : fact.Settles context settings side quantity price)
    (keeps : context.Keeps (feeAmounts settings (quantity * price))) :
    fact.Settles .exact settings side quantity price :=
  { settles with
    charged := by
      rw [settles.charged, (fillFee_kept keeps).2] }

theorem settle_buy_kept {state : AccountState}
    (cash : books.cash = state.cash) (fees : books.fees = state.fees)
    (charged : context.Keeps (feeAmounts settings (quantity * price)))
    (keeps : context.Keeps (purchaseAmounts books quantity price
      (fillFee .exact settings quantity price))) :
    state.settle context settings .buy quantity price =
      state.settle .exact settings .buy quantity price := by
  obtain ⟨notional, fee⟩ := fillFee_kept charged
  unfold AccountState.settle
  dsimp only
  rw [notional, fee]
  generalize fillFee .exact settings quantity price = fee at keeps
  have spent := keeps (books.cash - quantity * price)
    (by simp [purchaseAmounts])
  have left := keeps (books.cash - quantity * price - fee)
    (by simp [purchaseAmounts])
  have cost := keeps (quantity * price + fee) (by simp [purchaseAmounts])
  have total := keeps (books.fees + fee) (by simp [purchaseAmounts])
  rw [cash] at spent left
  rw [fees] at total
  unfold DecimalContext.sub DecimalContext.add
  rw [spent, left, cost, total]
  rfl

theorem afterBuy_kept (unopened : books.entryFees = 0) {fee : ℚ}
    (keeps : context.Keeps (purchaseAmounts books quantity price fee)) :
    books.afterBuy context (quantity * price) fee =
      books.afterBuy .exact (quantity * price) fee := by
  have paid := keeps (-(quantity * price)) (by simp [purchaseAmounts])
  have cost := keeps (-(quantity * price) - fee) (by simp [purchaseAmounts])
  have left := keeps (books.cash - quantity * price - fee)
    (by simp [purchaseAmounts])
  have total := keeps (books.fees + fee) (by simp [purchaseAmounts])
  have charged := keeps fee (by simp [purchaseAmounts])
  have cash : books.cash + (-(quantity * price) - fee) =
      books.cash - quantity * price - fee := by ring
  have cashKept : context.add books.cash
      (context.sub (context.mul (quantity * price) (-1)) fee) =
        books.cash - quantity * price - fee := by
    unfold DecimalContext.add DecimalContext.sub DecimalContext.mul
    rw [mul_neg_one, paid, cost, cash, left]
  have feesKept : context.add books.fees fee = books.fees + fee := total
  have entryKept : context.add books.entryFees fee = fee := by
    unfold DecimalContext.add
    rw [unopened, zero_add, charged]
  have cashExact : DecimalContext.exact.add books.cash (DecimalContext.exact.sub
      (DecimalContext.exact.mul (quantity * price) (-1)) fee) =
        books.cash - quantity * price - fee := by
    change books.cash + (quantity * price * -1 - fee) = _
    ring
  have entryExact : DecimalContext.exact.add books.entryFees fee = fee := by
    change books.entryFees + fee = fee
    rw [unopened, zero_add]
  unfold CashBooks.afterBuy
  rw [cashKept, feesKept, entryKept, cashExact, entryExact]
  rfl

theorem inventory_buy_kept (zero : context.round 0 = 0)
    {inventory : Inventory} (flat : inventory.quantity = 0)
    (bought : quantity ≠ 0)
    (settles : fact.Settles context settings .buy quantity price)
    (charged : context.Keeps (feeAmounts settings (quantity * price)))
    (keeps : context.Keeps (purchaseAmounts books quantity price
      (fillFee .exact settings quantity price))) :
    inventory.applyIn context fact = inventory.applyIn .exact fact := by
  have notional := charged (quantity * price) (by simp [feeAmounts])
  have size := keeps quantity (by simp [purchaseAmounts])
  have entry := keeps price (by simp [purchaseAmounts])
  have buys : fact.side = "buy" := settles.sided
  have signed : fact.signedSize context = quantity := by
    unfold FillFact.signedSize
    rw [if_pos buys, settles.sized]
  rw [inventory_buy flat bought (settles.exact charged)]
  unfold Inventory.applyIn Inventory.settleIn
  dsimp only
  rw [signed, flat, if_pos (.inl rfl), settles.sized, settles.priced]
  unfold DecimalContext.add DecimalContext.div DecimalContext.mul
    DecimalContext.abs
  rw [abs_zero, zero, zero_mul, zero, notional, zero_add, zero_add, notional,
    size, mul_div_cancel_left₀ _ bought, entry]

theorem settle_sell_kept {state : AccountState} {inventory : Inventory}
    (held : inventory.quantity = state.quantity)
    (cash : books.cash = state.cash) (fees : books.fees = state.fees)
    (costBasis : state.costBasis =
      inventory.quantity * inventory.entry + books.entryFees)
    (realizedNet : state.realizedNet =
      inventory.realized - books.realizedFees)
    (charged : context.Keeps (feeAmounts settings (state.quantity * price)))
    (keeps : context.Keeps (saleAmounts books inventory price
      (fillFee .exact settings state.quantity price))) :
    state.settle context settings .sell state.quantity price =
      state.settle .exact settings .sell state.quantity price := by
  obtain ⟨notional, fee⟩ := fillFee_kept charged
  unfold AccountState.settle
  dsimp only
  rw [notional, fee]
  generalize fillFee .exact settings state.quantity price = fee at keeps
  unfold saleAmounts at keeps
  dsimp only at keeps
  rw [← costBasis, ← realizedNet, cash, fees, held] at keeps
  have earned := keeps (state.cash + state.quantity * price) (by simp)
  have left := keeps (state.cash + state.quantity * price - fee) (by simp)
  have total := keeps (state.fees + fee) (by simp)
  have realized := keeps (state.realizedNet + state.quantity * price) (by simp)
  have charged := keeps (state.realizedNet + state.quantity * price - fee)
    (by simp)
  have net := keeps
    (state.realizedNet + state.quantity * price - fee - state.costBasis)
    (by simp)
  unfold DecimalContext.sub DecimalContext.add
  rw [earned, left, total, realized, charged, net]
  rfl

theorem afterSell_kept {inventory : Inventory} {fee : ℚ}
    (notional : context.round (inventory.quantity * price) =
      inventory.quantity * price)
    (keeps : context.Keeps (saleAmounts books inventory price fee)) :
    books.afterSell context (inventory.quantity * price) fee =
      books.afterSell .exact (inventory.quantity * price) fee := by
  unfold saleAmounts at keeps
  dsimp only at keeps
  have net := keeps (inventory.quantity * price - fee) (by simp)
  have left := keeps (books.cash + inventory.quantity * price - fee) (by simp)
  have total := keeps (books.fees + fee) (by simp)
  have charged := keeps (books.entryFees + fee) (by simp)
  have realized := keeps (books.realizedFees + (books.entryFees + fee))
    (by simp)
  have cashKept : context.add books.cash (context.sub
      (context.mul (inventory.quantity * price) 1) fee) =
        books.cash + (inventory.quantity * price * 1 - fee) := by
    unfold DecimalContext.add DecimalContext.sub DecimalContext.mul
    rw [mul_one, notional, net, ← add_sub_assoc, left]
  unfold CashBooks.afterSell
  rw [cashKept]
  unfold DecimalContext.add
  rw [total, charged, realized]
  rfl

theorem inventory_sell_kept {inventory : Inventory} (zero : context.round 0 = 0)
    (held : inventory.quantity = quantity) (positive : 0 < quantity)
    (settles : fact.Settles context settings .sell quantity price)
    (charged : context.Keeps (feeAmounts settings (quantity * price)))
    (keeps : context.Keeps (saleAmounts books inventory price
      (fillFee .exact settings quantity price))) :
    inventory.applyIn context fact = inventory.applyIn .exact fact := by
  unfold saleAmounts at keeps
  dsimp only at keeps
  rw [held] at keeps
  have size := keeps quantity (by simp)
  have opposite := keeps (-quantity) (by simp)
  have spread := keeps (price - inventory.entry) (by simp)
  have gain := keeps (quantity * (price - inventory.entry)) (by simp)
  have realized := keeps
    (inventory.realized + quantity * (price - inventory.entry)) (by simp)
  have sells : fact.side = "sell" := settles.sided
  have signed : fact.signedSize context = -quantity := by
    unfold FillFact.signedSize
    rw [if_neg (by rw [sells]; decide), settles.sized]
    exact opposite
  have closes : ¬(quantity = 0 ∨ (0 < quantity ↔ 0 < -quantity)) := by
    rintro (none | same)
    · exact positive.ne' none
    · have negative := same.mp positive
      linarith
  rw [inventory_sell held positive (settles.exact charged)]
  unfold Inventory.applyIn Inventory.settleIn
  dsimp only
  rw [signed, held, if_neg closes, settles.sized, settles.priced,
    if_pos positive]
  unfold DecimalContext.add DecimalContext.sub DecimalContext.mul
    DecimalContext.abs
  rw [abs_of_pos positive, size, if_neg (lt_irrefl _), if_pos rfl, min_self,
    mul_one, spread, gain, gain, realized, add_neg_cancel, zero]

end Kept

/-! ## Books of a context -/

/-- Fills and the state they lead to, with books that are the exact ones. -/
structure KeptBooks (context : DecimalContext) (source : ExperimentInput)
    (fills : List FillFact) (state : AccountState) (books : CashBooks)
    (now : ℤ) : Prop where
  accounted : Accounted source fills state books
  entered : (CashBooks.opening source).enterAll context fills = .ok books
  inventory : inventoryAfter context source fills =
    inventoryAfter .exact source fills
  recorded : RecordedFills source fills now
  holding : state.position.isSome = true → 0 < state.quantity
  flat : state.position = none → state.quantity = 0

theorem Accounted.of_holdings {source : ExperimentInput}
    {fills : List FillFact} {state after : AccountState} {books : CashBooks}
    (accounted : Accounted source fills state books)
    (same : after.holdings = state.holdings) :
    Accounted source fills after books := by
  have cash : after.cash = state.cash := congrArg Holdings.cash same
  have quantity : after.quantity = state.quantity :=
    congrArg Holdings.quantity same
  have costBasis : after.costBasis = state.costBasis :=
    congrArg Holdings.costBasis same
  have realizedNet : after.realizedNet = state.realizedNet :=
    congrArg Holdings.realizedNet same
  have fees : after.fees = state.fees := congrArg Holdings.fees same
  exact
    { accounted with
      cash := accounted.cash.trans cash.symm
      fees := accounted.fees.trans fees.symm
      quantity := accounted.quantity.trans quantity.symm
      costBasis := costBasis.trans accounted.costBasis
      realizedNet := realizedNet.trans accounted.realizedNet
      unopened := fun none => accounted.unopened (quantity.symm.trans none)
      solvent := cash.symm ▸ accounted.solvent
      long := quantity.symm ▸ accounted.long }

namespace KeptBooks

variable {context : DecimalContext} {source : ExperimentInput}
variable {fills : List FillFact} {state after : AccountState}
variable {books : CashBooks} {now later : ℤ}

theorem of_holdings (kept : KeptBooks context source fills state books now)
    (same : after.holdings = state.holdings) (le : now ≤ later) :
    KeptBooks context source fills after books later := by
  have quantity : after.quantity = state.quantity :=
    congrArg Holdings.quantity same
  have position : after.position = state.position :=
    congrArg Holdings.position same
  exact
    { kept with
      accounted := kept.accounted.of_holdings same
      recorded := kept.recorded.later le
      holding := by
        rw [position, quantity]
        exact kept.holding
      flat := by
        rw [position, quantity]
        exact kept.flat }

variable {sequence : ℕ} {bar : RecordedBar} {fact : FillFact}
variable {quantity price : ℚ}

theorem appended (kept : KeptBooks context source fills state books now)
    {entered : CashBooks}
    (accounted : Accounted source (fills ++ [fact]) after entered)
    (enters : books.enter context fact = books.enter .exact fact)
    (applies : (inventoryAfter .exact source fills).applyIn context fact =
      (inventoryAfter .exact source fills).applyIn .exact fact)
    {side : FillSide} (recorded : fact.RecordedOn source sequence side)
    (soon : now ≤ fact.executedAt) (next : fact.executedAt + 1 ≤ later)
    (holding : after.position.isSome = true → 0 < after.quantity)
    (flat : after.position = none → after.quantity = 0) :
    KeptBooks context source (fills ++ [fact]) after entered later := by
  constructor
  case accounted => exact accounted
  case entered =>
    have exactly := accounted.entered
    rw [CashBooks.enterAll_append_singleton kept.accounted.entered] at exactly
    rw [CashBooks.enterAll_append_singleton kept.entered, enters, exactly]
  case inventory =>
    rw [inventoryAfter_append, inventoryAfter_append, kept.inventory, applies]
  case recorded => exact (kept.recorded.append recorded soon).later next
  case holding => exact holding
  case flat => exact flat

theorem buy (zero : context.round 0 = 0)
    (kept : KeptBooks context source fills state books now)
    (free : state.position = none)
    (filled : BarFill context source sequence bar .buy quantity price fact)
    (soon : now ≤ bar.ts.instant + 1)
    (unrounded : UnroundedFill context source fills fact) (plan : EntryPlan) :
    ∃ entered, KeptBooks context source (fills ++ [fact])
      { state.settle context source.settings .buy quantity price with
        position := some plan } entered (bar.ts.instant + 2) := by
  have settles := filled.settles
  have flat := kept.flat free
  have buys : fact.side = "buy" := settles.sided
  have time : fact.executedAt = bar.ts.instant + 1 := filled.timed
  unfold UnroundedFill at unrounded
  rw [kept.accounted.entered] at unrounded
  dsimp only at unrounded
  rw [if_pos buys, settles.sized, settles.priced] at unrounded
  obtain ⟨charged, keeps, paid⟩ := unrounded
  obtain ⟨notional, fee⟩ := fillFee_kept charged
  have unopened := kept.accounted.unopened flat
  have exactly := settles.exact charged
  have nonneg := Accounted.fillFee_exact_nonneg source.settings filled.sized
    filled.priced
  rw [kept.accounted.cash] at paid
  obtain ⟨entered, accounted⟩ := kept.accounted.buy flat filled.sized
    filled.priced exactly paid
  rw [settle_buy_kept kept.accounted.cash kept.accounted.fees charged keeps]
  refine ⟨entered, kept.appended { accounted with } ?_ ?_ filled.recorded ?_ ?_
    (fun _ => filled.sized) (fun none => nomatch none)⟩
  · rw [CashBooks.enter_buy settles (fee ▸ nonneg),
      CashBooks.enter_buy exactly nonneg, fee, notional,
      afterBuy_kept unopened keeps]
    rfl
  · exact inventory_buy_kept zero (kept.accounted.quantity.trans flat)
      filled.sized.ne' settles charged keeps
  · omega
  · omega

theorem sell (zero : context.round 0 = 0)
    (kept : KeptBooks context source fills state books now)
    (filled : BarFill context source sequence bar .sell state.quantity price
      fact)
    (soon : now ≤ bar.ts.instant + (hour - 1))
    (unrounded : UnroundedFill context source fills fact) :
    ∃ entered, KeptBooks context source (fills ++ [fact])
      (state.settle context source.settings .sell state.quantity price)
        entered (bar.ts.instant + hour) := by
  have settles := filled.settles
  have held := kept.accounted.quantity
  have sells : fact.side = "sell" := settles.sided
  have time : fact.executedAt = bar.ts.instant + (hour - 1) := filled.timed
  unfold UnroundedFill at unrounded
  rw [kept.accounted.entered] at unrounded
  dsimp only at unrounded
  rw [if_neg (by rw [sells]; decide), settles.sized, settles.priced]
    at unrounded
  obtain ⟨charged, keeps⟩ := unrounded
  obtain ⟨notional, fee⟩ := fillFee_kept charged
  have exactly := settles.exact charged
  have nonneg := Accounted.fillFee_exact_nonneg source.settings filled.sized
    filled.priced
  obtain ⟨entered, accounted⟩ := kept.accounted.sell filled.sized filled.priced
    exactly
  rw [settle_sell_kept held kept.accounted.cash kept.accounted.fees
    kept.accounted.costBasis kept.accounted.realizedNet charged keeps]
  refine ⟨entered, kept.appended accounted ?_ ?_ filled.recorded ?_ ?_
    (fun some => absurd some Bool.false_ne_true) (fun _ => rfl)⟩
  · have entry := afterSell_kept (held ▸ notional) keeps
    rw [held] at entry
    rw [CashBooks.enter_sell settles (fee ▸ nonneg),
      CashBooks.enter_sell exactly nonneg, fee, notional, entry]
    rfl
  · exact inventory_sell_kept zero held filled.sized settles charged keeps
  · omega
  · omega

theorem reconciles {events : List ExperimentEvent}
    (kept : KeptBooks context source (allFills events)
      (stateAfter source events) books now)
    (unrounded : UnroundedClose context source (allFills events)
      (markAfter source events.length)) :
    ∃ report, reconcile context source events = .ok report := by
  unfold UnroundedClose at unrounded
  rw [kept.accounted.entered] at unrounded
  dsimp only at unrounded
  have agrees := kept.accounted.agrees (markAfter source events.length)
    (allFills events).length
  have costBasis := kept.accounted.costBasis
  have realizedNet := kept.accounted.realizedNet
  apply reconcile_of_agrees kept.recorded kept.entered
  rw [kept.inventory]
  generalize inventoryAfter .exact source (allFills events) = inventory
    at unrounded agrees costBasis realizedNet
  generalize markAfter source events.length = mark at unrounded agrees
  generalize stateAfter source events = state at agrees costBasis realizedNet
  unfold closeAmounts at unrounded
  dsimp only at unrounded
  rw [← costBasis, ← realizedNet] at unrounded
  have held := unrounded (inventory.quantity * mark) (by simp)
  have equity := unrounded (books.cash + inventory.quantity * mark) (by simp)
  have net := unrounded (books.cash + inventory.quantity * mark -
    source.settings.initialCash) (by simp)
  have cost := unrounded (inventory.quantity * inventory.entry) (by simp)
  have open_ := unrounded state.costBasis (by simp)
  have unrealized := unrounded (inventory.quantity * mark - state.costBasis)
    (by simp)
  have realized := unrounded state.realizedNet (by simp)
  have total := unrounded (state.realizedNet +
    (inventory.quantity * mark - state.costBasis)) (by simp)
  have spread := unrounded (mark - inventory.entry) (by simp)
  have gain := unrounded (inventory.quantity * (mark - inventory.entry))
    (by simp)
  have gained := unrounded (inventory.realized +
    inventory.quantity * (mark - inventory.entry)) (by simp)
  have projected := unrounded (inventory.realized +
    inventory.quantity * (mark - inventory.entry) - books.fees) (by simp)
  have report : accountReport context state books inventory mark
      (allFills events).length = accountReport .exact state books inventory mark
        (allFills events).length := by
    unfold accountReport DecimalContext.add DecimalContext.sub
      DecimalContext.mul
    dsimp only
    rw [held, equity, unrealized, spread, gain, gained, projected]
    rfl
  rw [report]
  obtain ⟨cash, quantity, fees, basis, realizes, solvent, long, nets, sums⟩ :=
    agrees
  refine ⟨cash, quantity, fees, ?_, ?_, solvent, long, ?_, ?_⟩
  · unfold DecimalContext.add DecimalContext.mul
    rw [cost, ← costBasis, open_]
  · unfold DecimalContext.sub
    rw [← realizedNet, realized]
  · rw [nets]
    exact net.symm
  · rw [← sums]
    exact total

end KeptBooks

end GptTrader
