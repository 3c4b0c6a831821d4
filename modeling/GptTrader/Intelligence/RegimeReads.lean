import GptTrader.Intelligence.RegimeDetector
import GptTrader.Library.QuietReads

/-!
# Reading the regime

The methods named `get_` classify the symbol anew, update its trend strength with the
price it already has and add that price to its bands again.  A read is quiet as long as
none of these is ready, and an update adds its price once as long as it classifies
nothing that is.
-/

namespace GptTrader

namespace Regime

variable {δ φ : Type} [DecimalOps δ] [FloatOps φ] [NumberConversions δ φ]

/-- What may be asked of the detector between updates; `size` is
`PositionSizer.calculate_size`, as far as it reads the detector, with its volatility
scaling. -/
inductive RegimeQuestion where
  | regime
  | indicators
  | adx
  | squeeze
  | size (enableVolatilityScaling : Bool)

namespace Detector

def read (detector : Detector δ φ) (symbol : String) :
    RegimeQuestion → Detector δ φ
  | .regime => (detector.getRegime symbol).1
  | .indicators => (detector.getIndicatorValues symbol).1
  | .adx => (detector.getAdx symbol).1
  | .squeeze => (detector.getSqueezeScore symbol).1
  | .size enableVolatilityScaling =>
      let regimeRead := (detector.getRegime symbol).1
      let scaled :=
        if enableVolatilityScaling then (regimeRead.getIndicatorValues symbol).1
        else regimeRead
      (scaled.getIndicatorValues symbol).1

/-- Updates write, questions read. -/
def machine : ReadWrite (Detector δ φ) (String × δ) (String × RegimeQuestion)
    (RegimeState φ) where
  write := fun detector update => detector.update update.1 update.2
  read := fun detector question => detector.read question.1 question.2

end Detector

abbrev DetectorStep (δ : Type) :=
  ReadWriteStep (String × δ) (String × RegimeQuestion)

/-! ## Conditions on steps -/

namespace SymbolState

/-- The trend strength is not ready to be read, so that `get_adx` returns at once. -/
def StrengthIdle (state : SymbolState δ φ) : Prop :=
  state.trendStrength.isReady = false

/-- The bands are not ready to be read, so that `get_squeeze_score` returns at once. -/
def BandsIdle (state : SymbolState δ φ) : Prop :=
  state.bollinger.isReady = false

/-- Not enough data for a regime, so that `get_regime` returns at once. -/
def Cold (state : SymbolState δ φ) : Prop :=
  state.isWarmedUp = false

instance (state : SymbolState δ φ) : Decidable state.StrengthIdle :=
  inferInstanceAs (Decidable (_ = false))

instance (state : SymbolState δ φ) : Decidable state.BandsIdle :=
  inferInstanceAs (Decidable (_ = false))

instance (state : SymbolState δ φ) : Decidable state.Cold :=
  inferInstanceAs (Decidable (state.isWarmedUp = false))

/-- A read that finds nothing to classify. -/
def Unclassified (state : SymbolState δ φ) : RegimeQuestion → Prop
  | .regime => state.Cold
  | .indicators => True
  | .adx => True
  | .squeeze => True
  | .size _ => state.Cold

/-- A read that enters no price. -/
def EntersNothing (state : SymbolState δ φ) : RegimeQuestion → Prop
  | .regime => state.Cold ∨ state.StrengthIdle ∧ state.BandsIdle
  | .indicators => state.StrengthIdle ∧ state.BandsIdle
  | .adx => state.StrengthIdle
  | .squeeze => state.BandsIdle
  | .size _ => state.StrengthIdle ∧ state.BandsIdle

instance (state : SymbolState δ φ) :
    (question : RegimeQuestion) → Decidable (state.Unclassified question)
  | .regime | .size _ => inferInstanceAs (Decidable state.Cold)
  | .indicators | .adx | .squeeze => inferInstanceAs (Decidable True)

instance (state : SymbolState δ φ) :
    (question : RegimeQuestion) → Decidable (state.EntersNothing question)
  | .regime => inferInstanceAs (Decidable (state.Cold ∨ _ ∧ _))
  | .indicators | .size _ => inferInstanceAs (Decidable (_ ∧ _))
  | .adx => inferInstanceAs (Decidable state.StrengthIdle)
  | .squeeze => inferInstanceAs (Decidable state.BandsIdle)

end SymbolState

namespace Detector

def stateOf (detector : Detector δ φ) (symbol : String) : SymbolState δ φ :=
  (detector.getOrCreateState symbol).2

def Unclassified (detector : Detector δ φ) : DetectorStep δ → Prop
  | .write _ => True
  | .read (symbol, question) =>
      ∀ state ∈ detector.symbolStates.get? symbol, state.Unclassified question

/-- The step takes no branch that enters a price again: the read does not, and the
update does not classify, or finds neither indicator ready. -/
def EntersOnce (detector : Detector δ φ) : DetectorStep δ → Prop
  | .write (symbol, price) =>
      let entered := (detector.stateOf symbol).update price
      entered.Cold ∨ entered.StrengthIdle ∧ entered.BandsIdle
  | .read (symbol, question) =>
      ∀ state ∈ detector.symbolStates.get? symbol, state.EntersNothing question

/-- A step that leaves no trace of a read. -/
def Quiet (detector : Detector δ φ) : DetectorStep δ → Prop
  | .write _ => True
  | .read (symbol, question) =>
      ∀ state ∈ detector.symbolStates.get? symbol,
        state.Unclassified question ∧ state.EntersNothing question

instance (detector : Detector δ φ) :
    (taken : DetectorStep δ) → Decidable (detector.Unclassified taken)
  | .write _ => inferInstanceAs (Decidable True)
  | .read _ => inferInstanceAs (Decidable (∀ state ∈ Dict.get? _ _, _))

instance (detector : Detector δ φ) :
    (taken : DetectorStep δ) → Decidable (detector.EntersOnce taken)
  | .write _ => inferInstanceAs (Decidable (SymbolState.Cold _ ∨ _ ∧ _))
  | .read _ => inferInstanceAs (Decidable (∀ state ∈ Dict.get? _ _, _))

instance (detector : Detector δ φ) :
    (taken : DetectorStep δ) → Decidable (detector.Quiet taken)
  | .write _ => inferInstanceAs (Decidable True)
  | .read _ => inferInstanceAs (Decidable (∀ state ∈ Dict.get? _ _, _ ∧ _))

end Detector

/-! ## What a question leaves -/

namespace SymbolState

theorem getAdx_idle {state : SymbolState δ φ} (idle : state.StrengthIdle) :
    state.getAdx = (state, none) := by
  unfold getAdx
  rw [show state.trendStrength.isReady = false from idle]
  rfl

theorem getSqueezeScore_idle {state : SymbolState δ φ} (idle : state.BandsIdle) :
    state.getSqueezeScore = (state, FloatOps.literal (1 / 2)) := by
  unfold getSqueezeScore
  rw [show state.bollinger.isReady = false from idle]
  rfl

end SymbolState

namespace Detector

variable {detector : Detector δ φ} {symbol : String}

omit [DecimalOps δ] [FloatOps φ] [NumberConversions δ φ] in
theorem set_same {state : SymbolState δ φ}
    (found : detector.symbolStates.get? symbol = some state) :
    { detector with symbolStates := detector.symbolStates.set symbol state } =
      detector := by
  rw [Dict.set_of_get? found]

theorem getRegime_cold (cold : ∀ state ∈ detector.symbolStates.get? symbol,
    state.Cold) : (detector.getRegime symbol).1 = detector := by
  unfold getRegime
  cases found : detector.symbolStates.get? symbol with
  | none => rfl
  | some state =>
      dsimp only
      rw [show state.isWarmedUp = false from cold state found]
      rfl

theorem getAdx_quiet (idle : ∀ state ∈ detector.symbolStates.get? symbol,
    state.StrengthIdle) : (detector.getAdx symbol).1 = detector := by
  unfold getAdx
  cases found : detector.symbolStates.get? symbol with
  | none => rfl
  | some state =>
      dsimp only
      rw [SymbolState.getAdx_idle (idle state found)]
      exact set_same found

theorem getSqueezeScore_quiet (idle : ∀ state ∈ detector.symbolStates.get? symbol,
    state.BandsIdle) : (detector.getSqueezeScore symbol).1 = detector := by
  unfold getSqueezeScore
  cases found : detector.symbolStates.get? symbol with
  | none => rfl
  | some state =>
      dsimp only
      rw [SymbolState.getSqueezeScore_idle (idle state found)]
      exact set_same found

theorem getIndicatorValues_quiet
    (idle : ∀ state ∈ detector.symbolStates.get? symbol,
      state.StrengthIdle ∧ state.BandsIdle) :
    (detector.getIndicatorValues symbol).1 = detector := by
  unfold getIndicatorValues
  cases found : detector.symbolStates.get? symbol with
  | none => rfl
  | some state =>
      obtain ⟨strength, bands⟩ := idle state found
      dsimp only
      rw [SymbolState.getAdx_idle strength]
      dsimp only
      rw [SymbolState.getSqueezeScore_idle bands]
      exact set_same found

theorem read_quiet (detector : Detector δ φ) (question : String × RegimeQuestion)
    (quiet : detector.Quiet (.read question)) :
    machine.read detector question = detector := by
  obtain ⟨symbol, question⟩ := question
  change detector.read symbol question = detector
  cases question with
  | regime => exact getRegime_cold fun state found => (quiet state found).1
  | indicators =>
      exact getIndicatorValues_quiet fun state found => (quiet state found).2
  | adx => exact getAdx_quiet fun state found => (quiet state found).2
  | squeeze => exact getSqueezeScore_quiet fun state found => (quiet state found).2
  | size enableVolatilityScaling =>
      have regime : (detector.getRegime symbol).1 = detector :=
        getRegime_cold fun state found => (quiet state found).1
      have values : (detector.getIndicatorValues symbol).1 = detector :=
        getIndicatorValues_quiet fun state found => (quiet state found).2
      unfold Detector.read
      dsimp only
      rw [regime, values, ite_self, values]

end Detector

/-! ## What a step does to the state of a symbol -/

namespace SymbolState

/-- The state after a question. -/
def asked (state : SymbolState δ φ) : RegimeQuestion → SymbolState δ φ
  | .regime => if state.isWarmedUp then (classifyRegime state none).1 else state
  | .indicators => state.getAdx.1.getSqueezeScore.1
  | .adx => state.getAdx.1
  | .squeeze => state.getSqueezeScore.1
  | .size enableVolatilityScaling =>
      let regimeRead :=
        if state.isWarmedUp then (classifyRegime state none).1 else state
      let scaled :=
        if enableVolatilityScaling then regimeRead.getAdx.1.getSqueezeScore.1
        else regimeRead
      scaled.getAdx.1.getSqueezeScore.1

def updated (state : SymbolState δ φ) (matrix : RegimeTransitionMatrix) (price : δ) :
    SymbolState δ φ :=
  let entered := state.update price
  if entered.isWarmedUp then (classifyRegime entered (some matrix)).1 else entered

end SymbolState

namespace Detector

/-- A step that moves the state of one symbol, if there is one. -/
structure Moved (before after : Detector δ φ) (symbol : String)
    (move : SymbolState δ φ → SymbolState δ φ) : Prop where
  config : after.config = before.config
  own : after.symbolStates.get? symbol = (before.symbolStates.get? symbol).map move
  others : ∀ other, other ≠ symbol →
    after.symbolStates.get? other = before.symbolStates.get? other

section Moved

omit [DecimalOps δ] [FloatOps φ] [NumberConversions δ φ]

variable {before middle after : Detector δ φ} {symbol : String}
  {move next : SymbolState δ φ → SymbolState δ φ}

theorem Moved.trans (first : Moved before middle symbol move)
    (second : Moved middle after symbol next) :
    Moved before after symbol fun state => next (move state) where
  config := second.config.trans first.config
  own := by
    rw [second.own, first.own, Option.map_map]
    rfl
  others := fun other differs =>
    (second.others other differs).trans (first.others other differs)

theorem moved_set (move : SymbolState δ φ → SymbolState δ φ)
    {state : SymbolState δ φ}
    (found : before.symbolStates.get? symbol = some state) :
    Moved before
      { before with symbolStates := before.symbolStates.set symbol (move state) }
      symbol move where
  config := rfl
  own := by
    rw [found]
    exact Dict.get?_set_self _ _ _
  others := fun other differs => Dict.get?_set_of_ne _ _ differs

theorem moved_none (unknown : before.symbolStates.get? symbol = none) :
    Moved before before symbol move where
  config := rfl
  own := by
    rw [unknown]
    rfl
  others := fun _ _ => rfl

end Moved

theorem getRegime_moved (detector : Detector δ φ) (symbol : String) :
    Moved detector (detector.getRegime symbol).1 symbol
      fun state => state.asked .regime := by
  unfold getRegime
  cases found : detector.symbolStates.get? symbol with
  | none => exact moved_none found
  | some state =>
      have moves : Moved detector { detector with
            symbolStates := detector.symbolStates.set symbol (state.asked .regime) }
          symbol fun state => state.asked .regime :=
        moved_set (fun state => state.asked .regime) found
      dsimp only
      cases warm : state.isWarmedUp with
      | false =>
          have same : state.asked .regime = state := by
            simp only [SymbolState.asked, warm, Bool.false_eq_true, if_false]
          rw [same, set_same found] at moves
          exact moves
      | true =>
          have classified :
              state.asked .regime = (classifyRegime state none).1 := by
            simp only [SymbolState.asked, warm, if_true]
          rw [classified] at moves
          exact moves

section

variable (detector : Detector δ φ) (symbol : String)

include detector symbol

theorem getAdx_moved :
    Moved detector (detector.getAdx symbol).1 symbol fun state => state.asked .adx := by
  unfold getAdx
  cases found : detector.symbolStates.get? symbol with
  | none => exact moved_none found
  | some state => exact moved_set (fun state => state.asked .adx) found

theorem getSqueezeScore_moved :
    Moved detector (detector.getSqueezeScore symbol).1 symbol
      fun state => state.asked .squeeze := by
  unfold getSqueezeScore
  cases found : detector.symbolStates.get? symbol with
  | none => exact moved_none found
  | some state => exact moved_set (fun state => state.asked .squeeze) found

theorem getIndicatorValues_moved :
    Moved detector (detector.getIndicatorValues symbol).1 symbol
      fun state => state.asked .indicators := by
  unfold getIndicatorValues
  cases found : detector.symbolStates.get? symbol with
  | none => exact moved_none found
  | some state =>
      exact moved_set (fun state => state.asked .indicators) found

theorem read_moved (question : RegimeQuestion) :
    Moved detector (detector.read symbol question) symbol
      fun state => state.asked question := by
  cases question with
  | regime => exact getRegime_moved detector symbol
  | indicators => exact getIndicatorValues_moved detector symbol
  | adx => exact getAdx_moved detector symbol
  | squeeze => exact getSqueezeScore_moved detector symbol
  | size enableVolatilityScaling =>
      have regime := getRegime_moved detector symbol
      cases enableVolatilityScaling with
      | false =>
          exact regime.trans (getIndicatorValues_moved _ symbol)
      | true =>
          exact (regime.trans (getIndicatorValues_moved _ symbol)).trans
            (getIndicatorValues_moved _ symbol)

end

omit [NumberConversions δ φ] in
theorem stateOf_eq (detector : Detector δ φ) (symbol : String) :
    detector.stateOf symbol =
      (detector.symbolStates.get? symbol).getD (.fresh detector.config) := by
  unfold stateOf getOrCreateState
  cases detector.symbolStates.get? symbol with
  | none => rfl
  | some state => rfl

theorem read_stateOf (detector : Detector δ φ) (symbol : String)
    (question : RegimeQuestion) (other : String) :
    (detector.read symbol question).stateOf other = detector.stateOf other ∨
      other = symbol ∧
        detector.symbolStates.get? symbol = some (detector.stateOf symbol) ∧
        (detector.read symbol question).stateOf symbol =
          (detector.stateOf symbol).asked question := by
  have moves := read_moved detector symbol question
  by_cases same : other = symbol
  · subst same
    cases found : detector.symbolStates.get? other with
    | none =>
        left
        rw [stateOf_eq, stateOf_eq, moves.own, found, moves.config]
        rfl
    | some state =>
        right
        refine ⟨rfl, ?_, ?_⟩
        · rw [stateOf_eq, found]
          rfl
        · rw [stateOf_eq, stateOf_eq, moves.own, found]
          rfl
  · left
    rw [stateOf_eq, stateOf_eq, moves.others other same, moves.config]

/-- What an update leaves and reports. -/
structure Updated (before after : Detector δ φ) (symbol : String) (price : δ)
    (reported : RegimeState φ) : Prop where
  config : after.config = before.config
  own : ∃ matrix, after.symbolStates.get? symbol =
      some ((before.stateOf symbol).updated matrix price) ∧
    reported = if ((before.stateOf symbol).update price).isWarmedUp then
      (classifyRegime ((before.stateOf symbol).update price) (some matrix)).2.2
      else .unknown
  others : ∀ other, other ≠ symbol →
    after.symbolStates.get? other = before.symbolStates.get? other

omit [NumberConversions δ φ] in
theorem getOrCreateState_others (detector : Detector δ φ) {symbol other : String}
    (differs : other ≠ symbol) :
    (detector.getOrCreateState symbol).1.symbolStates.get? other =
      detector.symbolStates.get? other := by
  unfold getOrCreateState
  cases detector.symbolStates.get? symbol with
  | none => exact Dict.get?_set_of_ne _ _ differs
  | some state => rfl

omit [NumberConversions δ φ] in
theorem getOrCreateState_config (detector : Detector δ φ) (symbol : String) :
    (detector.getOrCreateState symbol).1.config = detector.config := by
  unfold getOrCreateState
  cases detector.symbolStates.get? symbol with
  | none => rfl
  | some state => rfl

theorem update_updated (detector : Detector δ φ) (symbol : String) (price : δ) :
    Updated detector (detector.update symbol price).1 symbol price
      (detector.update symbol price).2 := by
  have others := fun other (differs : other ≠ symbol) =>
    detector.getOrCreateState_others differs
  have config := detector.getOrCreateState_config symbol
  have own : (detector.getOrCreateState symbol).2 = detector.stateOf symbol := rfl
  unfold Detector.update
  generalize detector.getOrCreateState symbol = pair at own others config ⊢
  obtain ⟨created, state⟩ := pair
  dsimp only at own others config ⊢
  subst own
  cases warm : ((detector.stateOf symbol).update price).isWarmedUp with
  | false =>
      refine ⟨config, ⟨.fresh, ?_, ?_⟩, ?_⟩
      · refine (Dict.get?_set_self _ _ _).trans ?_
        simp only [SymbolState.updated, warm, Bool.false_eq_true, if_false]
      · simp only [Bool.not_false, if_true, warm, Bool.false_eq_true, if_false]
      · intro other differs
        exact (Dict.get?_set_of_ne _ _ differs).trans (others other differs)
  | true =>
      refine ⟨config, ⟨created.getTransitionMatrix symbol, ?_, ?_⟩, ?_⟩
      · refine (Dict.get?_set_self _ _ _).trans ?_
        simp only [SymbolState.updated, warm, if_true]
      · simp only [Bool.not_true, Bool.false_eq_true, if_false, warm, if_true]
      · intro other differs
        exact (Dict.get?_set_of_ne _ _ differs).trans (others other differs)

theorem update_stateOf (detector : Detector δ φ) (symbol : String) (price : δ) :
    ∃ matrix,
      (detector.update symbol price).1.stateOf symbol =
        (detector.stateOf symbol).updated matrix price ∧
      (detector.update symbol price).2 =
        (if ((detector.stateOf symbol).update price).isWarmedUp then
          (classifyRegime ((detector.stateOf symbol).update price) (some matrix)).2.2
        else .unknown) ∧
      ∀ other, other ≠ symbol →
        (detector.update symbol price).1.stateOf other = detector.stateOf other := by
  obtain ⟨config, ⟨matrix, found, reported⟩, others⟩ :=
    detector.update_updated symbol price
  refine ⟨matrix, ?_, reported, ?_⟩
  · rw [stateOf_eq, found]
    rfl
  · intro other differs
    rw [stateOf_eq, stateOf_eq, others other differs, config]

end Detector

/-! ## Prices entered once -/

theorem readScores_state (state : SymbolState δ φ) :
    ∃ strength bands, (readScores state).1 =
      { state with trendStrength := strength, bollinger := bands } := by
  unfold readScores SymbolState.getAdx
  dsimp only
  split
  · unfold SymbolState.getSqueezeScore
    split
    · exact ⟨_, _, rfl⟩
    · exact ⟨_, _, rfl⟩
  · unfold SymbolState.getSqueezeScore
    split
    · exact ⟨_, _, rfl⟩
    · exact ⟨_, _, rfl⟩

theorem readScores_idle {state : SymbolState δ φ} (strength : state.StrengthIdle)
    (bands : state.BandsIdle) : (readScores state).1 = state := by
  unfold readScores
  rw [SymbolState.getAdx_idle strength]
  dsimp only
  rw [SymbolState.getSqueezeScore_idle bands]

omit [DecimalOps δ] [FloatOps φ] [NumberConversions δ φ] in
theorem applyPersistence_state (state : SymbolState δ φ) (newRegime : RegimeType) :
    ∃ current ticks pending pendingTicks, (applyPersistence state newRegime).1 =
      { state with
        currentRegime := current
        regimeTicks := ticks
        pendingRegime := pending
        pendingTicks := pendingTicks } := by
  unfold applyPersistence
  dsimp only
  by_cases same : newRegime = state.currentRegime
  · rw [if_pos same]
    exact ⟨_, _, _, _, rfl⟩
  · rw [if_neg same]
    split
    · exact ⟨_, _, _, _, rfl⟩
    · exact ⟨_, _, _, _, rfl⟩

/-- The two states were entered the same prices. -/
def SameEntries (state other : SymbolState δ φ) : Prop :=
  state.bollinger = other.bollinger ∧ state.trendStrength = other.trendStrength

theorem classifyRegime_entries {state : SymbolState δ φ}
    (strength : state.StrengthIdle) (bands : state.BandsIdle)
    (matrix : Option RegimeTransitionMatrix) :
    SameEntries (classifyRegime state matrix).1 state := by
  have read := readScores_idle strength bands
  obtain ⟨_, _, _, _, persisted⟩ := applyPersistence_state (readScores state).1
    (newRegimeOf (readScores state).1 (readScores state).2).1
  change SameEntries (applyPersistence (readScores state).1
    (newRegimeOf (readScores state).1 (readScores state).2).1).1 state
  rw [persisted, read]
  exact ⟨rfl, rfl⟩

theorem asked_entries {state : SymbolState δ φ} {question : RegimeQuestion}
    (nothing : state.EntersNothing question) :
    SameEntries (state.asked question) state := by
  have values : ∀ other : SymbolState δ φ, SameEntries other state →
      state.StrengthIdle ∧ state.BandsIdle →
        SameEntries other.getAdx.1.getSqueezeScore.1 state := by
    intro other same idle
    have strength : other.StrengthIdle := by
      unfold SymbolState.StrengthIdle
      rw [same.2]
      exact idle.1
    have bands : other.BandsIdle := by
      unfold SymbolState.BandsIdle
      rw [same.1]
      exact idle.2
    rw [SymbolState.getAdx_idle strength]
    dsimp only
    rw [SymbolState.getSqueezeScore_idle bands]
    exact same
  have regime : state.EntersNothing .regime →
      SameEntries (state.asked .regime) state := by
    intro nothing
    unfold SymbolState.asked
    dsimp only
    split
    next warm =>
      obtain cold | ⟨strength, bands⟩ := nothing
      · rw [show state.isWarmedUp = false from cold] at warm
        cases warm
      · exact classifyRegime_entries strength bands none
    · exact ⟨rfl, rfl⟩
  cases question with
  | regime => exact regime nothing
  | indicators => exact values state ⟨rfl, rfl⟩ nothing
  | adx =>
      unfold SymbolState.asked
      rw [SymbolState.getAdx_idle nothing]
      exact ⟨rfl, rfl⟩
  | squeeze =>
      unfold SymbolState.asked
      rw [SymbolState.getSqueezeScore_idle nothing]
      exact ⟨rfl, rfl⟩
  | size enableVolatilityScaling =>
      have classified := regime (.inr nothing)
      cases enableVolatilityScaling with
      | false => exact values _ classified nothing
      | true => exact values _ (values _ classified nothing) nothing

/-- The prices written for the symbol. -/
def pricesOf (symbol : String) (steps : List (DetectorStep δ)) : List δ :=
  steps.filterMap fun
    | .write (updated, price) => if updated = symbol then some price else none
    | .read _ => none

def enteredBands (config : RegimeConfig φ) (prices : List δ) :
    OnlineBollingerBands δ φ :=
  prices.foldl (fun bands price => (bands.update price).1) (.fresh config.shortEmaPeriod)

def enteredStrength (config : RegimeConfig φ) (prices : List δ) :
    OnlineTrendStrength δ :=
  prices.foldl (fun strength price => (strength.update φ price).1)
    (.fresh config.atrPeriod)

def EnteredOnce (config : RegimeConfig φ) (steps : List (DetectorStep δ))
    (detector : Detector δ φ) : Prop :=
  ∀ symbol,
    (detector.stateOf symbol).bollinger = enteredBands config (pricesOf symbol steps) ∧
      (detector.stateOf symbol).trendStrength =
        enteredStrength config (pricesOf symbol steps)

/-- A step that enters once keeps every price entered once. -/
theorem enteredOnce_step (config : RegimeConfig φ) (before : List (DetectorStep δ))
    (detector : Detector δ φ) (taken : DetectorStep δ)
    (entered : EnteredOnce config before detector) (once : detector.EntersOnce taken) :
    EnteredOnce config (before ++ [taken]) (Detector.machine.step detector taken) := by
  intro symbol
  obtain ⟨bands, strength⟩ := entered symbol
  cases taken with
  | write update =>
      obtain ⟨updated, price⟩ := update
      obtain ⟨matrix, own, _, others⟩ := detector.update_stateOf updated price
      change ((detector.update updated price).1.stateOf symbol).bollinger = _ ∧
        ((detector.update updated price).1.stateOf symbol).trendStrength = _
      by_cases same : symbol = updated
      · subst same
        have prices : pricesOf symbol
            (before ++ [(.write (symbol, price) : DetectorStep δ)]) =
              pricesOf symbol before ++ [price] := by
          unfold pricesOf
          rw [List.filterMap_append]
          simp
        have entries : SameEntries ((detector.stateOf symbol).updated matrix price)
            ((detector.stateOf symbol).update price) := by
          unfold SymbolState.updated
          dsimp only
          split
          next warm =>
            obtain cold | ⟨idle, still⟩ := once
            · rw [show _ = false from cold] at warm
              cases warm
            · exact classifyRegime_entries idle still (some matrix)
          · exact ⟨rfl, rfl⟩
        rw [own, entries.1, entries.2, prices]
        unfold enteredBands enteredStrength
        rw [List.foldl_append, List.foldl_append]
        constructor
        · exact congrArg (fun bands => (OnlineBollingerBands.update bands price).1) bands
        · exact congrArg
            (fun strength => (OnlineTrendStrength.update φ strength price).1) strength
      · have prices : pricesOf symbol
            (before ++ [(.write (updated, price) : DetectorStep δ)]) =
              pricesOf symbol before := by
          unfold pricesOf
          rw [List.filterMap_append]
          simp [Ne.symm same]
        rw [others symbol same, prices]
        exact ⟨bands, strength⟩
  | read question =>
      obtain ⟨asked, question⟩ := question
      have prices : pricesOf symbol
          (before ++ [(.read (asked, question) : DetectorStep δ)]) =
            pricesOf symbol before := by
        unfold pricesOf
        rw [List.filterMap_append]
        simp
      rw [prices]
      change ((detector.read asked question).stateOf symbol).bollinger = _ ∧
        ((detector.read asked question).stateOf symbol).trendStrength = _
      obtain same | ⟨rfl, found, answered⟩ :=
        detector.read_stateOf asked question symbol
      · rw [same]
        exact ⟨bands, strength⟩
      · have entries := asked_entries (once _ found)
        rw [answered, entries.1, entries.2]
        exact ⟨bands, strength⟩

end Regime

end GptTrader
