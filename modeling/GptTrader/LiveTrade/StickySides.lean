import GptTrader.Library.LastValues
import GptTrader.LiveTrade.RegimeSwitcher
import GptTrader.Python.TableFormats

/-!
# Which side controls a position

The switcher records the side of an entry that is asked for, and drops the record when a
side asks to close.  The record is compared with the side whose entry opened the position
that is seen, whether or not what was asked for was filled.
-/

namespace GptTrader

namespace RegimeSwitcher

variable {σ ι φ ν : Type}

/-- A decision or an error. -/
abbrev Answer (φ ν : Type) :=
  Except PyError (Decision φ ν)

/-- The strategy a decision names. -/
def selectedBy (decision : Decision φ ν) : Option StrategyKind :=
  match (decision.indicators.getD .empty).get? "regime_switcher_selected" with
  | some (.side selected) => selected
  | _ => none

/-- The decision came from this strategy. -/
def DelegatedTo (side : StrategyKind) (decision : Decision φ ν) : Prop :=
  selectedBy decision = some side

instance (side : StrategyKind) (decision : Decision φ ν) :
    Decidable (DelegatedTo side decision) :=
  inferInstanceAs (Decidable (selectedBy decision = some side))

/-- The answer asks for a position. -/
def AsksEntry (side : StrategyKind) (answer : Answer φ ν) : Prop :=
  ∃ decision, answer = .ok decision ∧ DelegatedTo side decision ∧
    (decision.action = .buy ∨ decision.action = .sell)

def AsksClose (answer : Answer φ ν) : Prop :=
  ∃ side decision, answer = .ok decision ∧ DelegatedTo side decision ∧
    decision.action = .close

/-! ## What a call does to the record -/

@[simp] theorem selectedBy_withRegimeIndicators (decision : Decision φ ν)
    (regimeState : Regime.RegimeState φ) (selected : Option StrategyKind)
    (stickyUsed : Bool) (active : Option StrategyKind) :
    selectedBy (withRegimeIndicators decision regimeState selected stickyUsed active) =
      selected := by
  unfold selectedBy withRegimeIndicators
  simp only [Option.getD_some, Dict.setAll, List.foldl_cons, List.foldl_nil]
  rw [Dict.get?_set_of_ne _ _ (by decide), Dict.get?_set_of_ne _ _ (by decide),
    Dict.get?_set_self]

/-- What an answer writes into the record: a side's entry that is asked for without a
position, or nothing on a side's request to close a position. -/
def recordWrite (positionOpen : Bool) :
    Answer φ ν → Option (Option StrategyKind)
  | .error _ => none
  | .ok decision =>
      match selectedBy decision with
      | none => none
      | some side =>
          if positionOpen = false ∧ (decision.action = .buy ∨ decision.action = .sell) then
            some (some side)
          else if positionOpen = true ∧ decision.action = .close then some none
          else none

theorem recordWrite_eq_entry {positionOpen : Bool} {answer : Answer φ ν}
    {side : StrategyKind} :
    recordWrite positionOpen answer = some (some side) ↔
      positionOpen = false ∧ AsksEntry side answer := by
  cases answer with
  | error error => simp [recordWrite, AsksEntry]
  | ok decision =>
      unfold recordWrite AsksEntry DelegatedTo
      dsimp only
      cases named : selectedBy decision with
      | none => simp [named]
      | some selected =>
          dsimp only
          split
          next entry =>
            simp [named, entry.1, entry.2]
          next other =>
            have unasked : ¬ (positionOpen = false ∧ ∃ answered,
                (Except.ok decision : Answer φ ν) = .ok answered ∧
                  selectedBy answered = some side ∧
                  (answered.action = .buy ∨ answered.action = .sell)) := by
              rintro ⟨closed, answered, same, _, entry⟩
              cases same
              exact other ⟨closed, entry⟩
            simp only [unasked, iff_false]
            split
            · simp
            · simp

theorem recordWrite_eq_close {positionOpen : Bool} {answer : Answer φ ν} :
    recordWrite positionOpen answer = some none ↔
      positionOpen = true ∧ AsksClose answer := by
  cases answer with
  | error error => simp [recordWrite, AsksClose]
  | ok decision =>
      unfold recordWrite AsksClose DelegatedTo
      dsimp only
      cases named : selectedBy decision with
      | none => simp [named]
      | some selected =>
          dsimp only
          split
          next entry =>
            simp [entry.1]
          · split
            next close => simp [named, close.1, close.2]
            next other =>
              have unasked : ¬ (positionOpen = true ∧ ∃ side answered,
                  (Except.ok decision : Answer φ ν) = .ok answered ∧
                    selectedBy answered = some side ∧ answered.action = .close) := by
                rintro ⟨opened, _, answered, same, _, close⟩
                cases same
                exact other ⟨opened, close⟩
              simp only [unasked, iff_false]
              simp

variable [FloatOps φ] (formats : TextFormats) (settings : Settings σ ι φ ν)

/-- The strategy on record for a symbol. -/
def Switcher.record (switcher : Switcher σ) (symbol : String) : Option StrategyKind :=
  switcher.activeBySymbol.get? symbol

theorem delegate_active (switcher : Switcher σ) (symbol : String) (call : Call ι φ)
    (side : StrategyKind) :
    (delegate formats settings switcher symbol call side).1.activeBySymbol =
      switcher.activeBySymbol := by
  cases side with
  | trend =>
      unfold delegate
      dsimp only
      split
      · rfl
      · rfl
  | meanReversion => rfl

omit [FloatOps φ] in
theorem track_record (activeBySymbol : Dict String StrategyKind) (symbol : String)
    (positionOpen : Bool) (selected : StrategyKind) (decision : Decision φ ν)
    (named : selectedBy decision = some selected) :
    (track activeBySymbol symbol positionOpen selected decision.action).get? symbol =
      (recordWrite positionOpen (.ok decision)).getD (activeBySymbol.get? symbol) := by
  unfold track recordWrite
  dsimp only
  rw [named]
  dsimp only
  split
  · rw [Dict.get?_set_self]
    rfl
  · split
    · rw [Dict.get?_erase, if_pos rfl]
      rfl
    · rfl

/-- A decision writes the record its answer says. -/
theorem decide_record (switcher : Switcher σ) (symbol : String) (call : Call ι φ) :
    (decide formats settings switcher symbol call).1.record symbol =
      (recordWrite (isPositionOpen formats call.positionState)
        (decide formats settings switcher symbol call).2).getD
        (switcher.record symbol) := by
  have unnamed : ∀ decision : Decision φ ν, selectedBy decision = none →
      recordWrite (isPositionOpen formats call.positionState) (.ok decision) = none := by
    intro decision named
    unfold recordWrite
    dsimp only
    rw [named]
  unfold decide
  dsimp only
  cases bucketForRegime call.regimeState.regime with
  | crisis =>
      rw [unnamed _ (selectedBy_withRegimeIndicators _ _ _ _ _)]
      rfl
  | unknown =>
      rw [unnamed _ (selectedBy_withRegimeIndicators _ _ _ _ _)]
      rfl
  | side kind =>
      dsimp only
      generalize select settings.stickyPositions
        (isPositionOpen formats call.positionState)
        (switcher.activeBySymbol.get? symbol) kind = choice
      obtain ⟨selected, stickyUsed⟩ := choice
      have same := delegate_active formats settings switcher symbol call selected
      dsimp only
      generalize delegate formats settings switcher symbol call selected = pair at same ⊢
      obtain ⟨asked, answer⟩ := pair
      dsimp only at same
      cases answer with
      | error error =>
          change asked.activeBySymbol.get? symbol = switcher.activeBySymbol.get? symbol
          rw [same]
      | ok decision =>
          dsimp only
          rw [show switcher.record symbol = asked.activeBySymbol.get? symbol by
            rw [same]
            rfl]
          exact track_record asked.activeBySymbol symbol _ selected
            (withRegimeIndicators decision call.regimeState (some selected) stickyUsed _)
            (selectedBy_withRegimeIndicators _ _ _ _ _)

theorem decide_selected {switcher : Switcher σ} {symbol : String} {call : Call ι φ}
    {decision : Decision φ ν} {kind : StrategyKind}
    (normal : bucketForRegime call.regimeState.regime = .side kind)
    (taken : (decide formats settings switcher symbol call).2 = .ok decision) :
    selectedBy decision = some (select settings.stickyPositions
      (isPositionOpen formats call.positionState) (switcher.record symbol) kind).1 := by
  unfold decide at taken
  rw [normal] at taken
  dsimp only at taken
  change selectedBy decision = some (select settings.stickyPositions
    (isPositionOpen formats call.positionState)
    (switcher.activeBySymbol.get? symbol) kind).1
  generalize select settings.stickyPositions
    (isPositionOpen formats call.positionState)
    (switcher.activeBySymbol.get? symbol) kind = choice at taken ⊢
  obtain ⟨selected, stickyUsed⟩ := choice
  dsimp only at taken
  generalize delegate formats settings switcher symbol call selected = pair at taken
  obtain ⟨asked, answer⟩ := pair
  cases answer with
  | error error => cases taken
  | ok answered =>
      cases taken
      exact selectedBy_withRegimeIndicators _ _ _ _ _

/-! ## Runs -/

/-- The switcher after a list of calls. -/
def after (symbol : String) (switcher : Switcher σ) (calls : List (Call ι φ)) :
    Switcher σ :=
  calls.foldl (fun switcher call => (decide formats settings switcher symbol call).1)
    switcher

/-- Each call with its answer. -/
def answered (symbol : String) :
    Switcher σ → List (Call ι φ) → List (Call ι φ × Answer φ ν)
  | _, [] => []
  | switcher, call :: rest =>
      let taken := decide formats settings switcher symbol call
      (call, taken.2) :: answered symbol taken.1 rest

/-- The call shows an open position. -/
def SeesPosition (call : Call ι φ) : Prop :=
  isPositionOpen formats call.positionState = true

instance (call : Call ι φ) : Decidable (SeesPosition formats call) :=
  inferInstanceAs (Decidable (isPositionOpen formats call.positionState = true))

/-- The side was the last to ask for an entry without a position, and no side has asked
to close a position since. -/
def LastAsked (side : StrategyKind) (asked : List (Call ι φ × Answer φ ν)) : Prop :=
  ∃ earlier entry later, asked = earlier ++ entry :: later ∧
    ¬ SeesPosition formats entry.1 ∧ AsksEntry side entry.2 ∧
    ∀ other ∈ later,
      (SeesPosition formats other.1 → ¬ AsksClose other.2) ∧
        (¬ SeesPosition formats other.1 → ∀ side, ¬ AsksEntry side other.2)

def recordWrites (asked : List (Call ι φ × Answer φ ν)) :
    List (Option (Option StrategyKind)) :=
  asked.map fun entry => recordWrite (isPositionOpen formats entry.1.positionState) entry.2

variable {formats settings} {symbol : String}

theorem after_record (switcher : Switcher σ) (calls : List (Call ι φ)) :
    (after formats settings symbol switcher calls).record symbol =
      afterWrites (switcher.record symbol)
        (recordWrites formats (answered formats settings symbol switcher calls)) := by
  induction calls generalizing switcher with
  | nil => rfl
  | cons call rest induction =>
      change (after formats settings symbol
        (decide formats settings switcher symbol call).1 rest).record symbol = _
      rw [induction, decide_record]
      rfl

theorem answered_call {switcher : Switcher σ} {calls : List (Call ι φ)}
    {asked : Call ι φ × Answer φ ν}
    (member : asked ∈ answered formats settings symbol switcher calls) :
    asked.1 ∈ calls := by
  induction calls generalizing switcher with
  | nil => cases member
  | cons call rest induction =>
      rcases List.mem_cons.mp member with rfl | later
      · exact List.mem_cons_self
      · exact List.mem_cons_of_mem call (induction later)

omit [FloatOps φ] in
theorem recordWrite_eq_none {asked : Call ι φ × Answer φ ν} :
    recordWrite (isPositionOpen formats asked.1.positionState) asked.2 = none ↔
      (SeesPosition formats asked.1 → ¬ AsksClose asked.2) ∧
        (¬ SeesPosition formats asked.1 → ∀ side, ¬ AsksEntry side asked.2) := by
  have entry := @recordWrite_eq_entry φ ν
    (isPositionOpen formats asked.1.positionState) asked.2
  have close := @recordWrite_eq_close φ ν
    (isPositionOpen formats asked.1.positionState) asked.2
  unfold SeesPosition
  constructor
  · intro unwritten
    rw [unwritten] at close entry
    constructor
    · intro opened asks
      cases close.mpr ⟨opened, asks⟩
    · intro closed side asks
      cases entry.mpr ⟨Bool.eq_false_iff.mpr closed, asks⟩
  · rintro ⟨noClose, noEntry⟩
    cases written : recordWrite (isPositionOpen formats asked.1.positionState) asked.2 with
    | none => rfl
    | some value =>
        cases value with
        | none =>
            obtain ⟨opened, asks⟩ := close.mp written
            exact absurd asks (noClose opened)
        | some side =>
            obtain ⟨closed, asks⟩ := entry.mp written
            exact absurd asks (noEntry (Bool.eq_false_iff.mp closed) side)

omit [FloatOps φ] in
theorem lastWrite_recordWrites {side : StrategyKind}
    {asked : List (Call ι φ × Answer φ ν)} :
    LastWrite (some side) (recordWrites formats asked) ↔ LastAsked formats side asked := by
  constructor
  · rintro ⟨earlier, later, split, unwritten⟩
    obtain ⟨before, rest, rfl, rfl, written⟩ := List.map_eq_append_iff.mp split
    obtain ⟨entry, since, rfl, wrote, rfl⟩ := List.map_eq_cons_iff.mp written
    obtain ⟨closed, asks⟩ := recordWrite_eq_entry.mp wrote
    refine ⟨before, entry, since, rfl, Bool.eq_false_iff.mp closed, asks, ?_⟩
    intro other member
    exact recordWrite_eq_none.mp (unwritten _ (List.mem_map_of_mem member))
  · rintro ⟨earlier, entry, later, rfl, closed, asks, quiet⟩
    refine ⟨recordWrites formats earlier, recordWrites formats later, ?_, ?_⟩
    · have wrote := recordWrite_eq_entry.mpr ⟨Bool.eq_false_iff.mpr closed, asks⟩
      unfold recordWrites
      rw [List.map_append, List.map_cons, wrote]
    · intro write member
      obtain ⟨other, listed, rfl⟩ := List.mem_map.mp member
      exact recordWrite_eq_none.mpr (quiet other listed)

theorem after_record_eq_some {side : StrategyKind} (calls : List (Call ι φ)) :
    (after formats settings symbol .fresh calls).record symbol = some side ↔
      LastAsked formats side (answered formats settings symbol .fresh calls) := by
  rw [after_record, afterWrites_eq_iff, lastWrite_recordWrites]
  have fresh : (Switcher.fresh : Switcher σ).record symbol ≠ some side := by
    intro found
    cases found
  simp [fresh]

theorem lastAsked_append_open {side : StrategyKind} {before : List (Call ι φ)}
    {during : List (Call ι φ)} (opened : ∀ call ∈ during, SeesPosition formats call) :
    LastAsked formats side
        (answered formats settings symbol .fresh (before ++ during)) ↔
      LastAsked formats side (answered formats settings symbol .fresh before) ∧
        ∀ asked ∈ answered formats settings symbol
          (after formats settings symbol .fresh before) during,
          ¬ AsksClose asked.2 := by
  have writes : ∀ asked ∈ answered formats settings symbol
      (after formats settings symbol .fresh before) during,
      recordWrite (isPositionOpen formats asked.1.positionState) asked.2 = none ↔
        ¬ AsksClose asked.2 := by
    intro asked member
    have seen := opened asked.1 (answered_call member)
    rw [recordWrite_eq_none]
    exact ⟨fun quiet => quiet.1 seen, fun noClose => ⟨fun _ => noClose, (absurd seen ·)⟩⟩
  have noEntry : ¬ LastWrite (some side) (recordWrites formats
      (answered formats settings symbol
        (after formats settings symbol .fresh before) during)) := by
    rintro ⟨earlier, later, split, _⟩
    have written : some (some side) ∈ recordWrites formats
        (answered formats settings symbol
          (after formats settings symbol .fresh before) during) := by
      rw [split]
      simp
    obtain ⟨asked, member, wrote⟩ := List.mem_map.mp written
    have closed := (recordWrite_eq_entry.mp wrote).1
    rw [show isPositionOpen formats asked.1.positionState = true from
      opened asked.1 (answered_call member)] at closed
    cases closed
  have runs : after formats settings symbol .fresh (before ++ during) =
      after formats settings symbol
        (after formats settings symbol .fresh before) during :=
    List.foldl_append
  rw [← after_record_eq_some, runs, after_record, afterWrites_eq_iff,
    after_record_eq_some]
  simp only [noEntry, false_or]
  refine and_congr_right fun _ => ⟨?_, ?_⟩
  · intro unwritten asked member
    exact (writes asked member).mp (unwritten _ (List.mem_map_of_mem member))
  · intro noClose write member
    obtain ⟨asked, listed, rfl⟩ := List.mem_map.mp member
    exact (writes asked listed).mpr (noClose asked listed)

/-! ## The side that opened a position -/

variable (formats settings symbol) in
/-- Calls that see a position from the first that sees it until now, after the entry
that opened it. -/
structure Episode (opener : StrategyKind) (before during : List (Call ι φ))
    (now : Call ι φ) : Prop where
  flat : ∃ earlier last, before = earlier ++ [last] ∧ ¬ SeesPosition formats last
  opened : ∃ asked ∈ answered formats settings symbol .fresh before,
    AsksEntry opener asked.2
  seen : ∀ call ∈ during, SeesPosition formats call
  seenNow : SeesPosition formats now

/-- A decision outside the crisis and unknown buckets is delegated to the side whose entry
opened the position exactly when that side is on record, or no side is and it is the side
of the regime. -/
theorem opener_controls_iff (sticky : settings.stickyPositions = true)
    {opener kind : StrategyKind} {before during : List (Call ι φ)} {now : Call ι φ}
    (episode : Episode formats settings symbol opener before during now)
    (normal : bucketForRegime now.regimeState.regime = .side kind)
    {decision : Decision φ ν}
    (taken : (decide formats settings
      (after formats settings symbol .fresh (before ++ during)) symbol now).2 =
        .ok decision) :
    (DelegatedTo opener decision ↔
      (after formats settings symbol .fresh (before ++ during)).record symbol =
          some opener ∨
        (after formats settings symbol .fresh (before ++ during)).record symbol = none ∧
          kind = opener) ∧
      ∀ side,
        (after formats settings symbol .fresh (before ++ during)).record symbol =
            some side ↔
          LastAsked formats side (answered formats settings symbol .fresh before) ∧
            ∀ asked ∈ answered formats settings symbol
              (after formats settings symbol .fresh before) during,
              ¬ AsksClose asked.2 := by
  constructor
  · have selected := decide_selected formats settings normal taken
    rw [sticky, show isPositionOpen formats now.positionState = true from
      episode.seenNow] at selected
    unfold DelegatedTo
    rw [selected]
    cases (after formats settings symbol .fresh (before ++ during)).record symbol with
    | none => simp [select]
    | some side => simp [select]
  · intro side
    rw [after_record_eq_some, lastAsked_append_open episode.seen]

section Example

open Regime.RegimeType (sidewaysQuiet bullQuiet)
open ExactNumbers

def quantityFormats : TextFormats :=
  tableFormats
    { entries := [("0", .finite 0), ("1", .finite 1)]
      nodup := by decide
      unmarked := by decide }
    { entries := []
      nodup := List.nodup_nil
      unmarked := Spelling.unmarked_nil }

def scripted : TradingStrategy Unit Action ℚ Unit :=
  { create := ()
    decide := fun _ _ _ action =>
      ((), .ok
        { action := action, reason := "scripted", confidence := 1, indicators := none }) }

def scriptedSettings : Settings Unit Action ℚ Unit :=
  { trendStrategy := scripted
    meanReversionStrategy := scripted
    stickyPositions := true
    closeOnCrisis := true
    trendMode := .delegate
    enableShorts := true }

def scriptedCall (regime : Regime.RegimeType) (positionOpen : Bool) (action : Action) :
    Call Action ℚ :=
  { regimeState := { (Regime.RegimeState.unknown : Regime.RegimeState ℚ) with
      regime := regime }
    positionState :=
      if positionOpen then
        some (.ofList [("quantity", { text := "1", truthy := true }),
          ("side", { text := "long", truthy := true })])
      else none
    market := action }

def selectedAfter (before : List (Call Action ℚ)) (now : Call Action ℚ) :
    Option StrategyKind :=
  match (decide quantityFormats scriptedSettings
    (after quantityFormats scriptedSettings "BTC-USD" .fresh before) "BTC-USD" now).2 with
  | .ok decision => selectedBy decision
  | .error _ => none

theorem scripted_episode (during : List (Call Action ℚ))
    (seen : ∀ call ∈ during, SeesPosition quantityFormats call) :
    Episode quantityFormats scriptedSettings "BTC-USD" .meanReversion
      [scriptedCall sidewaysQuiet false .buy] during
      (scriptedCall bullQuiet true .hold) where
  flat := ⟨[], _, rfl, by decide +kernel⟩
  opened := ⟨_, List.mem_singleton_self _, _, rfl, by decide +kernel, .inl rfl⟩
  seen := seen
  seenNow := by decide +kernel

/-- Mean reversion keeps control of the position that it opened in a bull regime, since
it is the side on record. -/
theorem meanReversion_keeps_control :
    selectedAfter [scriptedCall sidewaysQuiet false .buy]
      (scriptedCall bullQuiet true .hold) = some .meanReversion := by
  have episode := scripted_episode [] fun _ member => nomatch member
  have controls := (opener_controls_iff rfl episode rfl rfl).1
  exact controls.mpr (.inl rfl)

/-- A close that mean reversion asked for is not filled; the position that it opened is
then controlled by the trend side. -/
theorem refused_close_changes_side :
    Episode quantityFormats scriptedSettings "BTC-USD" .meanReversion
        [scriptedCall sidewaysQuiet false .buy] [scriptedCall bullQuiet true .close]
        (scriptedCall bullQuiet true .hold) ∧
      selectedAfter
          ([scriptedCall sidewaysQuiet false .buy] ++
            [scriptedCall bullQuiet true .close])
          (scriptedCall bullQuiet true .hold) = some .trend := by
  refine ⟨scripted_episode _ ?_, by decide +kernel⟩
  intro call member
  rw [List.mem_singleton.mp member]
  decide +kernel

end Example

end RegimeSwitcher

end GptTrader
