import GptTrader.Intelligence.RegimeReads

/-!
# Changes of the regime

A regime is reported once it was classified for `min_regime_ticks` ticks in a row.  The
ticks are counted where the regime is classified, so they are updates only as long as no
read classifies.
-/

namespace GptTrader

namespace Regime

variable {δ φ : Type} [DecimalOps δ] [FloatOps φ] [NumberConversions δ φ]

/-! ## Regimes that persist -/

/-- Two states have the same regime, with its counters, and data for one or not. -/
structure SameRegime (state other : SymbolState δ φ) : Prop where
  config : state.config = other.config
  current : state.currentRegime = other.currentRegime
  pending : state.pendingRegime = other.pendingRegime
  ticks : state.pendingTicks = other.pendingTicks
  warm : state.isWarmedUp = other.isWarmedUp

omit [DecimalOps δ] [FloatOps φ] [NumberConversions δ φ] in
theorem SameRegime.trans {first second third : SymbolState δ φ}
    (one : SameRegime first second) (other : SameRegime second third) :
    SameRegime first third where
  config := one.config.trans other.config
  current := one.current.trans other.current
  pending := one.pending.trans other.pending
  ticks := one.ticks.trans other.ticks
  warm := one.warm.trans other.warm

omit [DecimalOps δ] [FloatOps φ] [NumberConversions δ φ] in
theorem SameRegime.refl (state : SymbolState δ φ) : SameRegime state state :=
  ⟨rfl, rfl, rfl, rfl, rfl⟩

theorem getAdx_sameRegime (state : SymbolState δ φ) :
    SameRegime state.getAdx.1 state := by
  unfold SymbolState.getAdx
  split
  · exact SameRegime.refl state
  · exact ⟨rfl, rfl, rfl, rfl, rfl⟩

theorem getSqueezeScore_sameRegime (state : SymbolState δ φ) :
    SameRegime state.getSqueezeScore.1 state := by
  unfold SymbolState.getSqueezeScore
  split
  · exact SameRegime.refl state
  · exact ⟨rfl, rfl, rfl, rfl, rfl⟩

theorem values_sameRegime (state : SymbolState δ φ) :
    SameRegime state.getAdx.1.getSqueezeScore.1 state :=
  (getSqueezeScore_sameRegime _).trans (getAdx_sameRegime state)

theorem readScores_sameRegime (state : SymbolState δ φ) :
    SameRegime (readScores state).1 state := by
  obtain ⟨strength, bands, read⟩ := readScores_state state
  rw [read]
  exact ⟨rfl, rfl, rfl, rfl, rfl⟩

theorem asked_sameRegime {state : SymbolState δ φ} {question : RegimeQuestion}
    (unclassified : state.Unclassified question) :
    SameRegime (state.asked question) state := by
  cases question with
  | regime =>
      have same : state.asked .regime = state := by
        simp only [SymbolState.asked, show state.isWarmedUp = false from unclassified,
          Bool.false_eq_true, if_false]
      rw [same]
      exact SameRegime.refl state
  | indicators => exact values_sameRegime state
  | adx => exact getAdx_sameRegime state
  | squeeze => exact getSqueezeScore_sameRegime state
  | size enableVolatilityScaling =>
      unfold SymbolState.asked
      simp only [show state.isWarmedUp = false from unclassified, Bool.false_eq_true,
        if_false]
      cases enableVolatilityScaling with
      | false => exact values_sameRegime state
      | true => exact (values_sameRegime _).trans (values_sameRegime state)

/-- What persistence does with a regime. -/
inductive Persistence (state after : SymbolState δ φ) (newRegime : RegimeType) : Prop
  | stays (same : newRegime = state.currentRegime)
      (current : after.currentRegime = state.currentRegime)
      (pending : after.pendingRegime = none)
  | changes (differs : newRegime ≠ state.currentRegime)
      (long : state.config.minRegimeTicks ≤ pendingTicksFor state newRegime)
      (current : after.currentRegime = newRegime)
      (pending : after.pendingRegime = none)
  | waits (current : after.currentRegime = state.currentRegime)
      (pending : after.pendingRegime = some newRegime)
      (ticks : after.pendingTicks = pendingTicksFor state newRegime)

omit [DecimalOps δ] [FloatOps φ] [NumberConversions δ φ] in
theorem applyPersistence_persistence (state : SymbolState δ φ)
    (newRegime : RegimeType) :
    Persistence state (applyPersistence state newRegime).1 newRegime ∧
      (applyPersistence state newRegime).2.1 =
        (applyPersistence state newRegime).1.currentRegime ∧
      (applyPersistence state newRegime).1.config = state.config ∧
      (applyPersistence state newRegime).1.isWarmedUp = state.isWarmedUp := by
  unfold applyPersistence
  by_cases same : newRegime = state.currentRegime
  · rw [if_pos same]
    exact ⟨.stays same rfl rfl, rfl, rfl, rfl⟩
  · rw [if_neg same]
    by_cases long : state.config.minRegimeTicks ≤ pendingTicksFor state newRegime
    · dsimp only
      rw [if_pos long]
      exact ⟨.changes same long rfl rfl, rfl, rfl, rfl⟩
    · dsimp only
      rw [if_neg long]
      exact ⟨.waits rfl rfl rfl, rfl, rfl, rfl⟩

/-! ### Data that stays enough -/

theorem length_le_add (window : RollingWindow δ) (value : δ) :
    window.values.length ≤ (window.add value).values.length := by
  unfold RollingWindow.add
  cases listed : window.values with
  | nil => exact Nat.zero_le _
  | cons oldest rest =>
      dsimp only
      split
      · simp
      · simp

theorem initialized_update {ema : OnlineEMA δ} (seeded : ema.initialized = true)
    (price : δ) : (ema.update price).1.initialized = true := by
  unfold OnlineEMA.update
  rw [seeded]
  rfl

theorem isWarmedUp_update {state : SymbolState δ φ} (warm : state.isWarmedUp = true)
    (price : δ) : (state.update price).isWarmedUp = true := by
  unfold SymbolState.isWarmedUp at warm ⊢
  rw [Bool.and_eq_true, Bool.and_eq_true, decide_eq_true_iff, decide_eq_true_iff]
    at warm ⊢
  obtain ⟨⟨seeded, history⟩, counted⟩ := warm
  refine ⟨⟨initialized_update seeded price, history.trans ?_⟩,
    counted.trans (Nat.le_succ _)⟩
  change state.volatilityHistory.values.length ≤
    (SymbolState.addSome state.volatilityHistory
      ((SymbolState.returnOn state.prevPrice price).map
        DecimalOps.abs)).values.length
  unfold SymbolState.addSome
  split
  · exact le_refl _
  · exact length_le_add _ _

/-! ### The regimes of a run -/

/-- The regime one update classifies. -/
def classificationOf (detector : Detector δ φ) (symbol : String) (price : δ) :
    Option RegimeType :=
  let entered := (detector.stateOf symbol).update price
  if entered.isWarmedUp then
    some (newRegimeOf (readScores entered).1 (readScores entered).2).1
  else none

/-- What each update of a run classifies. -/
def classifications (symbol : String) :
    Detector δ φ → List (DetectorStep δ) → List (Option RegimeType)
  | _, [] => []
  | detector, .write (updated, price) :: rest =>
      let later := classifications symbol (detector.update updated price).1 rest
      if updated = symbol then classificationOf detector symbol price :: later
      else later
  | detector, .read (asked, question) :: rest =>
      classifications symbol (detector.read asked question) rest

def reportedRegimes (symbol : String) (detector : Detector δ φ)
    (steps : List (DetectorStep δ)) : List RegimeType :=
  ((Detector.machine.answers detector steps).filter fun answer =>
    decide (answer.1.1 = symbol)).map fun answer => answer.2.regime

theorem classifications_append (symbol : String) (detector : Detector δ φ)
    (first second : List (DetectorStep δ)) :
    classifications symbol detector (first ++ second) =
      classifications symbol detector first ++
        classifications symbol (Detector.machine.run detector first) second := by
  induction first generalizing detector with
  | nil => rfl
  | cons taken rest induction =>
      cases taken with
      | write update =>
          obtain ⟨updated, price⟩ := update
          rw [List.cons_append, classifications, classifications, induction]
          split
          · rfl
          · rfl
      | read question =>
          obtain ⟨asked, question⟩ := question
          rw [List.cons_append, classifications, classifications, induction]
          rfl

theorem reportedRegimes_append (symbol : String) (detector : Detector δ φ)
    (first second : List (DetectorStep δ)) :
    reportedRegimes symbol detector (first ++ second) =
      reportedRegimes symbol detector first ++
        reportedRegimes symbol (Detector.machine.run detector first) second := by
  unfold reportedRegimes
  rw [ReadWrite.answers_append, List.filter_append, List.map_append]

/-- What a state knows of the updates before it. -/
structure Persists (config : RegimeConfig φ) (classified : List (Option RegimeType))
    (reported : List RegimeType) (state : SymbolState δ φ) : Prop where
  config : state.config = config
  current : state.currentRegime = reported.getLast?.getD .unknown
  pending : ∀ regime ∈ state.pendingRegime, classified.rtake state.pendingTicks =
    List.replicate state.pendingTicks (some regime)
  cold : state.isWarmedUp = false →
    state.currentRegime = .unknown ∧ state.pendingRegime = none

variable {config : RegimeConfig φ} {classified : List (Option RegimeType)}
  {reported : List RegimeType} {state : SymbolState δ φ}

omit [DecimalOps δ] [FloatOps φ] [NumberConversions δ φ] in
theorem Persists.of_same {other : SymbolState δ φ}
    (persists : Persists config classified reported other)
    (same : SameRegime state other) : Persists config classified reported state where
  config := same.config.trans persists.config
  current := same.current.trans persists.current
  pending := by
    rw [same.pending, same.ticks]
    exact persists.pending
  cold := by
    rw [same.warm, same.current, same.pending]
    exact persists.cold

omit [DecimalOps δ] [FloatOps φ] [NumberConversions δ φ] in
theorem Persists.pendingTicksFor (persists : Persists config classified reported state)
    (newRegime : RegimeType) :
    0 < Regime.pendingTicksFor state newRegime ∧
      (classified ++ [some newRegime]).rtake (Regime.pendingTicksFor state newRegime) =
        List.replicate (Regime.pendingTicksFor state newRegime) (some newRegime) := by
  unfold Regime.pendingTicksFor
  split
  next again =>
    refine ⟨Nat.succ_pos _, ?_⟩
    rw [List.rtake_concat_succ, persists.pending newRegime again]
    exact List.replicate_succ'.symm
  · refine ⟨Nat.one_pos, ?_⟩
    rw [List.rtake_concat_succ, List.rtake_zero]
    rfl

/-- What an update of a state classifies and reports. -/
structure UpdateKnown (config : RegimeConfig φ) (classified : List (Option RegimeType))
    (reported : List RegimeType) (after : SymbolState δ φ)
    (classification : Option RegimeType) (regime : RegimeType) : Prop where
  persists : Persists config (classified ++ [classification]) (reported ++ [regime]) after
  confirmed : regime ≠ reported.getLast?.getD .unknown →
    ∃ ticks : ℕ, 0 < ticks ∧ config.minRegimeTicks ≤ ticks ∧
      (classified ++ [classification]).rtake ticks =
        List.replicate ticks (some regime)

omit [DecimalOps δ] [FloatOps φ] [NumberConversions δ φ] in
theorem Persists.classify {read : SymbolState δ φ}
    (persists : Persists config classified reported read) (newRegime : RegimeType)
    (warm : read.isWarmedUp = true) :
    UpdateKnown config classified reported (applyPersistence read newRegime).1
      (some newRegime) (applyPersistence read newRegime).2.1 := by
  obtain ⟨outcome, final, kept, still⟩ := applyPersistence_persistence read newRegime
  obtain ⟨positive, classifiedAlike⟩ := persists.pendingTicksFor newRegime
  rw [final]
  have current : (reported ++
      [(applyPersistence read newRegime).1.currentRegime]).getLast?.getD .unknown =
        (applyPersistence read newRegime).1.currentRegime := by
    rw [List.getLast?_append]
    rfl
  have warmed : (applyPersistence read newRegime).1.isWarmedUp = false →
      (applyPersistence read newRegime).1.currentRegime = .unknown ∧
        (applyPersistence read newRegime).1.pendingRegime = none := by
    intro cold
    rw [still, warm] at cold
    cases cold
  refine ⟨⟨kept.trans persists.config, current.symm, ?_, warmed⟩, ?_⟩
  · intro regime pending
    cases outcome with
    | stays same current none_ =>
        rw [none_] at pending
        cases pending
    | changes differs long current none_ =>
        rw [none_] at pending
        cases pending
    | waits current waiting ticks =>
        rw [waiting] at pending
        cases pending
        rw [ticks]
        exact classifiedAlike
  · intro differs
    rw [← persists.current] at differs
    cases outcome with
    | stays same current none_ => exact absurd current differs
    | changes newer long current none_ =>
        rw [persists.config] at long
        rw [current]
        exact ⟨_, positive, long, classifiedAlike⟩
    | waits current waiting ticks => exact absurd current differs

theorem Persists.update (persists : Persists config classified reported state)
    (matrix : RegimeTransitionMatrix) (price : δ) :
    UpdateKnown config classified reported (state.updated matrix price)
      (if (state.update price).isWarmedUp then
        some (newRegimeOf (readScores (state.update price)).1
          (readScores (state.update price)).2).1
      else none)
      (if (state.update price).isWarmedUp then
        (classifyRegime (state.update price) (some matrix)).2.2
      else .unknown : RegimeState φ).regime := by
  have monotone : (state.update price).isWarmedUp = false →
      state.isWarmedUp = false := by
    intro still
    by_contra warm
    rw [isWarmedUp_update (Bool.eq_true_of_not_eq_false warm) price] at still
    cases still
  cases warm : (state.update price).isWarmedUp with
  | false =>
      obtain ⟨unknown, none_⟩ := persists.cold (monotone warm)
      simp only [SymbolState.updated, warm, Bool.false_eq_true, if_false]
      refine ⟨⟨persists.config, ?_, ?_, ?_⟩, ?_⟩
      · rw [List.getLast?_append]
        exact unknown
      · intro regime pending
        change state.pendingRegime = some regime at pending
        rw [none_] at pending
        cases pending
      · intro _
        exact ⟨unknown, none_⟩
      · intro differs
        rw [← persists.current, unknown] at differs
        exact absurd rfl differs
  | true =>
      simp only [SymbolState.updated, warm, if_true]
      have same := readScores_sameRegime (state.update price)
      have entering : Persists config classified reported
          (readScores (state.update price)).1 := by
        refine ⟨same.config.trans persists.config, same.current.trans persists.current,
          ?_, ?_⟩
        · rw [same.pending, same.ticks]
          exact persists.pending
        · intro cold
          rw [same.warm, warm] at cold
          cases cold
      exact entering.classify _ (same.warm.trans warm)

/-! ### The regimes of every run -/

/-- Every change of a run was confirmed. -/
def RunPersists (config : RegimeConfig φ) (steps : List (DetectorStep δ))
    (detector : Detector δ φ) : Prop :=
  detector = Detector.machine.run (.fresh config) steps ∧
    ∀ symbol, Persists config (classifications symbol (.fresh config) steps)
      (reportedRegimes symbol (.fresh config) steps) (detector.stateOf symbol)

theorem runPersists_fresh (config : RegimeConfig φ) :
    RunPersists config [] (.fresh config : Detector δ φ) := by
  refine ⟨rfl, ?_⟩
  intro symbol
  exact ⟨rfl, rfl, fun _ pending => (nomatch pending), fun _ => ⟨rfl, rfl⟩⟩

theorem RunPersists.update {before : List (DetectorStep δ)} {detector : Detector δ φ}
    (persists : RunPersists config before detector) (symbol : String) (price : δ) :
    UpdateKnown config (classifications symbol (.fresh config) before)
      (reportedRegimes symbol (.fresh config) before)
      ((detector.update symbol price).1.stateOf symbol)
      (classificationOf detector symbol price)
      (detector.update symbol price).2.regime := by
  obtain ⟨matrix, own, answer, _⟩ := detector.update_stateOf symbol price
  rw [own, answer]
  exact (persists.2 symbol).update matrix price

/-- An unclassified read keeps the changes confirmed. -/
theorem runPersists_step (config : RegimeConfig φ) (before : List (DetectorStep δ))
    (detector : Detector δ φ) (taken : DetectorStep δ)
    (persists : RunPersists config before detector)
    (unclassified : detector.Unclassified taken) :
    RunPersists config (before ++ [taken]) (Detector.machine.step detector taken) := by
  obtain ⟨reached, known⟩ := persists
  have run : Detector.machine.step detector taken =
      Detector.machine.run (.fresh config) (before ++ [taken]) := by
    rw [ReadWrite.run_append, ← reached]
    rfl
  refine ⟨run, ?_⟩
  intro symbol
  rw [classifications_append, reportedRegimes_append, ← reached]
  cases taken with
  | write update =>
      obtain ⟨updated, price⟩ := update
      by_cases same : updated = symbol
      · subst same
        have next := (RunPersists.update ⟨reached, known⟩ updated price).persists
        have classified : classifications updated detector
            [(.write (updated, price) : DetectorStep δ)] =
              [classificationOf detector updated price] :=
          if_pos rfl
        have answered : reportedRegimes updated detector
            [(.write (updated, price) : DetectorStep δ)] =
              [(detector.update updated price).2.regime] := by
          simp [reportedRegimes, ReadWrite.answers, Detector.machine]
        rw [classified, answered]
        exact next
      · have classified : classifications symbol detector
            [(.write (updated, price) : DetectorStep δ)] = [] :=
          if_neg same
        have answered : reportedRegimes symbol detector
            [(.write (updated, price) : DetectorStep δ)] = [] := by
          simp [reportedRegimes, ReadWrite.answers, same]
        obtain ⟨_, _, _, others⟩ := detector.update_stateOf updated price
        rw [classified, answered, List.append_nil, List.append_nil]
        change Persists _ _ _ ((detector.update updated price).1.stateOf symbol)
        rw [others symbol (Ne.symm same)]
        exact known symbol
  | read question =>
      obtain ⟨asked, question⟩ := question
      have classified : classifications symbol detector
          [(.read (asked, question) : DetectorStep δ)] = [] := rfl
      have answered : reportedRegimes symbol detector
          [(.read (asked, question) : DetectorStep δ)] = [] := rfl
      rw [classified, answered, List.append_nil, List.append_nil]
      change Persists _ _ _ ((detector.read asked question).stateOf symbol)
      obtain same | ⟨rfl, found, answer⟩ := detector.read_stateOf asked question symbol
      · rw [same]
        exact known symbol
      · rw [answer]
        exact (known symbol).of_same (asked_sameRegime (unclassified _ found))

open Detector (machine)

/-- In runs of quiet reads the updates answer as without the reads, and in runs without
reads that classify the regime changes after enough updates classified alike. -/
theorem regime_reads_leave_no_trace (config : RegimeConfig φ) :
    (∀ steps : List (DetectorStep δ),
      machine.Along Detector.Quiet (.fresh config) steps →
        machine.answers (.fresh config) steps =
          machine.answers (.fresh config) (ReadWrite.writes steps)) ∧
      (∀ steps : List (DetectorStep δ),
        machine.Along Detector.EntersOnce (.fresh config) steps →
          EnteredOnce config steps (machine.run (.fresh config) steps)) ∧
      ∀ (steps : List (DetectorStep δ)) (symbol : String) (price : δ),
        machine.Along Detector.Unclassified (.fresh config) steps →
          let answer := ((machine.run (.fresh config) steps).update symbol price).2
          answer.regime ≠
              (reportedRegimes symbol (.fresh config) steps).getLast?.getD .unknown →
            ∃ ticks : ℕ, 0 < ticks ∧ config.minRegimeTicks ≤ ticks ∧
              (classifications symbol (.fresh config)
                  (steps ++ [.write (symbol, price)])).rtake ticks =
                List.replicate ticks (some answer.regime) := by
  refine ⟨?_, ?_, ?_⟩
  · intro steps quiet
    exact ReadWrite.answers_writes Detector.read_quiet (.fresh config) steps quiet
  · intro steps once
    apply ReadWrite.run_keeps _ (enteredOnce_step config) steps once
    intro symbol
    exact ⟨rfl, rfl⟩
  · intro steps symbol price unclassified answer differs
    have persists : RunPersists config steps (machine.run (.fresh config) steps) :=
      ReadWrite.run_keeps (runPersists_fresh config) (runPersists_step config) steps
        unclassified
    have classified : classifications symbol (machine.run (.fresh config) steps)
        [(.write (symbol, price) : DetectorStep δ)] =
          [classificationOf (machine.run (.fresh config) steps) symbol price] :=
      if_pos rfl
    rw [classifications_append, classified]
    exact (persists.update symbol price).confirmed differs

/-! ## A read between two updates -/

section Example

open ExactNumbers

def shortConfig : RegimeConfig ℚ :=
  { shortEmaPeriod := 2
    longEmaPeriod := 21
    atrPeriod := 2
    volatilityLookback := 20
    momentumPeriod := 2
    trendThreshold := 2 / 100
    volatilityHighPercentile := 7 / 10
    volatilityLowPercentile := 3 / 10
    crisisVolatilityMultiplier := 3
    crisisDrawdownThreshold := 1 / 10
    minRegimeTicks := 3
    transitionSmoothing := 7 / 10
    crisisPositionMultiplier := 2 / 10 }

def levelUpdates (count : ℕ) : List (DetectorStep ℚ) :=
  List.replicate count (.write ("BTC-USD", 100))

def regimeRead : DetectorStep ℚ :=
  .read ("BTC-USD", .regime)

def coinRegimes (steps : List (DetectorStep ℚ)) : List RegimeType :=
  reportedRegimes "BTC-USD" (.fresh shortConfig) steps

/-- The bands and the trend strength are ready later than the regime. -/
def slowConfig : RegimeConfig ℚ :=
  { shortConfig with
    shortEmaPeriod := 30
    atrPeriod := 30 }

/-- Reads after the long average is warm. -/
def warmReads : List (DetectorStep ℚ) :=
  levelUpdates 21 ++
    [.read ("BTC-USD", .adx), .read ("BTC-USD", .squeeze), .write ("BTC-USD", 100)]

/-- Reads of a warmed-up symbol that come before its indicators are ready leave no
trace, and the regime changes after three updates classified alike. -/
theorem early_reads_leave_no_trace :
    ((machine.run (.fresh slowConfig) (levelUpdates 21)).stateOf "BTC-USD").isWarmedUp =
        true ∧
      machine.answers (.fresh slowConfig) warmReads =
        machine.answers (.fresh slowConfig) (levelUpdates 21 ++ levelUpdates 1) ∧
      EnteredOnce slowConfig warmReads (machine.run (.fresh slowConfig) warmReads) ∧
      ∃ ticks : ℕ, 0 < ticks ∧ 3 ≤ (ticks : ℤ) ∧
        (classifications "BTC-USD" (.fresh slowConfig)
            (warmReads ++ [.write ("BTC-USD", 100)])).rtake ticks =
          List.replicate ticks (some .sidewaysQuiet) := by
  obtain ⟨quiet, once, confirmed⟩ := @regime_reads_leave_no_trace ℚ _ _ _ _ slowConfig
  refine ⟨by decide +kernel, quiet warmReads (by decide +kernel),
    once warmReads (by decide +kernel), ?_⟩
  have reported : (((machine.run (.fresh slowConfig) warmReads).update
      "BTC-USD" (100 : ℚ)).2).regime = .sidewaysQuiet := by
    decide +kernel
  have answer := confirmed warmReads "BTC-USD" 100 (by decide +kernel)
    (by rw [reported]; decide +kernel)
  rw [reported] at answer
  exact answer

/-- A read after the first classified update changes the regime an update earlier, and
the score of a squeeze enters a price again. -/
theorem regime_read_hastens_change :
    (coinRegimes (levelUpdates 22)).getLast? = some .unknown ∧
      (coinRegimes (levelUpdates 21 ++ [regimeRead] ++ levelUpdates 1)).getLast? =
        some .sidewaysQuiet ∧
      (¬ ∃ ticks : ℕ, shortConfig.minRegimeTicks ≤ ticks ∧
        (classifications "BTC-USD" (.fresh shortConfig)
            (levelUpdates 21 ++ [regimeRead] ++ levelUpdates 1)).rtake ticks =
          List.replicate ticks (some .sidewaysQuiet)) ∧
      ((machine.run (.fresh shortConfig)
        [.write ("BTC-USD", (1 : ℚ)), .write ("BTC-USD", 2),
          .read ("BTC-USD", .squeeze)]).stateOf "BTC-USD").bollinger.prices.values =
        [2, 2] := by
  refine ⟨by decide +kernel, by decide +kernel, ?_, by decide +kernel⟩
  rintro ⟨ticks, enough, alike⟩
  have counted : (classifications "BTC-USD" (.fresh shortConfig)
      (levelUpdates 21 ++ [regimeRead] ++ levelUpdates 1)).count
        (some .sidewaysQuiet) = 2 := by
    decide +kernel
  have within : ((classifications "BTC-USD" (.fresh shortConfig)
      (levelUpdates 21 ++ [regimeRead] ++ levelUpdates 1)).rtake ticks).Sublist
        (classifications "BTC-USD" (.fresh shortConfig)
          (levelUpdates 21 ++ [regimeRead] ++ levelUpdates 1)) :=
    List.drop_sublist _ _
  have fewer := within.count_le (some .sidewaysQuiet)
  rw [alike, List.count_replicate_self, counted] at fewer
  change (3 : ℤ) ≤ ticks at enough
  omega

end Example

end Regime

end GptTrader
