import GptTrader.Experiment.InputRows
import GptTrader.Library.Dict

/-!
# Schedules of rulebooks

`parse_rulebook` and `parse_versions` (`features/experiment/rulebook.py`): the
versions of an input, and what they are stored as.
-/

namespace GptTrader

/-- `Rulebook`, with its decimals as they are spelled. -/
structure RulebookText where
  version : ℕ
  entry : EntryRule
  fastBars : ℕ
  slowBars : ℕ
  reversionBars : ℕ
  entryZ : SpelledDecimal
  trendFilterBars : ℕ
  exposureFraction : SpelledDecimal
  stopFraction : SpelledDecimal
  targetFraction : SpelledDecimal
  expiryHours : ℕ
  exitOnSignal : Bool
  versioned : 1 ≤ version ∧ version ≤ 10000
  fastBounds : 1 ≤ fastBars ∧ fastBars ≤ 499
  slowBounds : 2 ≤ slowBars ∧ slowBars ≤ 500
  faster : fastBars < slowBars
  reversion : 2 ≤ reversionBars ∧ reversionBars ≤ 500
  filter : 0 ≤ trendFilterBars ∧ trendFilterBars ≤ 500
  expiry : 1 ≤ expiryHours ∧ expiryHours ≤ 720
  z : 0 < entryZ.value ∧ entryZ.value ≤ 10
  exposure : 0 < exposureFraction.value
  stop : 0 < stopFraction.value ∧ stopFraction.value ≤ 95 / 100
  target : 0 < targetFraction.value ∧ targetFraction.value ≤ 100

namespace RulebookText

variable (rule : RulebookText)

def toDict (formats : InputFormats) : Json :=
  .obj [
    ("schema_version", .int 1),
    ("version", .int rule.version),
    ("entry", .str rule.entry.value),
    ("fast_bars", .int rule.fastBars),
    ("slow_bars", .int rule.slowBars),
    ("reversion_bars", .int rule.reversionBars),
    ("entry_z", .str (formats.showDecimal rule.entryZ)),
    ("trend_filter_bars", .int rule.trendFilterBars),
    ("exposure_fraction", .str (formats.showDecimal rule.exposureFraction)),
    ("stop_fraction", .str (formats.showDecimal rule.stopFraction)),
    ("target_fraction", .str (formats.showDecimal rule.targetFraction)),
    ("expiry_hours", .int rule.expiryHours),
    ("exit_on_signal", .bool rule.exitOnSignal)]

end RulebookText

/-- `STARTING_RULEBOOK.to_dict()`. -/
def startingRulebook : Json :=
  .obj [
    ("schema_version", .int 1),
    ("version", .int 1),
    ("entry", .str "trend"),
    ("fast_bars", .int 10),
    ("slow_bars", .int 50),
    ("reversion_bars", .int 20),
    ("entry_z", .str "2"),
    ("trend_filter_bars", .int 0),
    ("exposure_fraction", .str "0.20"),
    ("stop_fraction", .str "0.04"),
    ("target_fraction", .str "0.08"),
    ("expiry_hours", .int 48),
    ("exit_on_signal", .bool true)]

/-- The fields of `Rulebook`. -/
def rulebookFields : List String :=
  ["schema_version", "version", "entry", "fast_bars", "slow_bars",
    "reversion_bars", "entry_z", "trend_filter_bars", "exposure_fraction",
    "stop_fraction", "target_fraction", "expiry_hours", "exit_on_signal"]

section Rulebooks

variable (formats : InputFormats)

/-- An integer field between its bounds. -/
def rulebookInt (raw : Json) (name : String) (lower upper : ℕ) :
    Except InputError { value : ℕ // lower ≤ value ∧ value ≤ upper } :=
  match raw.item name with
  | .int (.ofNat value) =>
      if within : lower ≤ value ∧ value ≤ upper then .ok ⟨value, within⟩
      else .error (.valueError ("Rulebook " ++ name ++
        " must be an integer from " ++ toString lower ++ " to " ++ toString upper))
  | _ => .error (.valueError ("Rulebook " ++ name ++
      " must be an integer from " ++ toString lower ++ " to " ++ toString upper))

def rulebookDecimal (raw : Json) (name : String) (ceiling : SpelledDecimal) :
    Except InputError
      { number : SpelledDecimal //
        0 < number.value ∧ number.value ≤ ceiling.value } :=
  match raw.item name with
  | .str text =>
      match formats.parseDecimal text with
      | none => .error (.valueError ("Invalid rulebook " ++ name))
      | some (.finite number) =>
          if within : 0 < number.value ∧ number.value ≤ ceiling.value then
            .ok ⟨number, within⟩
          else .error (.valueError ("Rulebook " ++ name ++ " must be in (0, " ++
            formats.showDecimal ceiling ++ "]"))
      | some _ => .error (.valueError ("Rulebook " ++ name ++
          " must be in (0, " ++ formats.showDecimal ceiling ++ "]"))
  | _ => .error (.valueError ("Rulebook " ++ name ++
      " must be a decimal string"))

/-- `rule.entry in ENTRY_RULES`. -/
def entryRule : Json → Except InputError EntryRule
  | .str "trend" => .ok .trend
  | .str "mean-reversion" => .ok .meanReversion
  | .str "hold" => .ok .hold
  | .str "cash" => .ok .cash
  | _ => .error (.valueError "Unknown rulebook entry rule")

/-- `type(rule.exit_on_signal) is bool`. -/
def exitFlag : Json → Except InputError Bool
  | .bool value => .ok value
  | _ => .error (.valueError "Rulebook exit_on_signal must be boolean")

def zCeiling : SpelledDecimal :=
  { negative := false, coefficient := 10, exponent := 0 }

def stopCeiling : SpelledDecimal :=
  { negative := false, coefficient := 95, exponent := -2 }

def targetCeiling : SpelledDecimal :=
  { negative := false, coefficient := 100, exponent := 0 }

def parseRulebook (raw : Json) (cap : SpelledDecimal) :
    Except InputError
      { rule : RulebookText // rule.exposureFraction.value ≤ cap.value } := do
  let _ ← checked (raw.keysAre rulebookFields = true)
    "Rulebook requires exactly the schema fields"
  let _ ← rulebookInt raw "schema_version" 1 1
  let ⟨version, versioned⟩ ← rulebookInt raw "version" 1 10000
  let ⟨fastBars, fastBounds⟩ ← rulebookInt raw "fast_bars" 1 499
  let ⟨slowBars, slowBounds⟩ ← rulebookInt raw "slow_bars" 2 500
  let ⟨reversionBars, reversion⟩ ← rulebookInt raw "reversion_bars" 2 500
  let ⟨trendFilterBars, filter⟩ ← rulebookInt raw "trend_filter_bars" 0 500
  let ⟨expiryHours, expiry⟩ ← rulebookInt raw "expiry_hours" 1 720
  let ⟨faster⟩ ← checked (fastBars < slowBars)
    "Rulebook fast_bars must be below slow_bars"
  let entry ← entryRule (raw.item "entry")
  let exitOnSignal ← exitFlag (raw.item "exit_on_signal")
  let ⟨entryZ, z⟩ ← rulebookDecimal formats raw "entry_z" zCeiling
  let ⟨exposureFraction, exposure⟩ ←
    rulebookDecimal formats raw "exposure_fraction" cap
  let ⟨stopFraction, stop⟩ ←
    rulebookDecimal formats raw "stop_fraction" stopCeiling
  let ⟨targetFraction, target⟩ ←
    rulebookDecimal formats raw "target_fraction" targetCeiling
  .ok
    ⟨{ version := version
       entry := entry
       fastBars := fastBars
       slowBars := slowBars
       reversionBars := reversionBars
       entryZ := entryZ
       trendFilterBars := trendFilterBars
       exposureFraction := exposureFraction
       stopFraction := stopFraction
       targetFraction := targetFraction
       expiryHours := expiryHours
       exitOnSignal := exitOnSignal
       versioned := versioned
       fastBounds := fastBounds
       slowBounds := slowBounds
       faster := faster
       reversion := reversion
       filter := filter
       expiry := expiry
       z := ⟨z.1, z.2.trans (by decide +kernel)⟩
       exposure := exposure.1
       stop := ⟨stop.1, stop.2.trans (by decide +kernel)⟩
       target := ⟨target.1, target.2.trans (by decide +kernel)⟩ }, exposure.2⟩

/-- A version of the schedule, with the time of its bar as it is written. -/
structure VersionText where
  effectiveFrom : Json
  rules : RulebookText

/-- `{"effective_from": ..., "rules": rule.to_dict()}`. -/
def VersionText.toDict (version : VersionText) : Json :=
  .obj [
    ("effective_from", version.effectiveFrom),
    ("rules", version.rules.toDict formats)]

/-- The bars by the moment they start. -/
def barTimes (bars : List CandleText) : Dict ℤ (ℕ × CandleText) :=
  Dict.ofList (bars.zipIdx.map fun entry =>
    (entry.1.ts.instant, (entry.2, entry.1)))

def parseVersionItems (bars : List CandleText) (scoredIndex : ℕ)
    (cap : SpelledDecimal) :
    ℕ → ℤ → List Json → Except InputError (List VersionText)
  | _, _, [] => .ok []
  | version, previousIndex, item :: rest => do
      let _ ← checked (item.keysAre ["effective_from", "rules"] = true)
        "Rulebook version requires effective_from and rules"
      let time ← awareTime formats (item.item "effective_from")
      match (barTimes bars).get? time.instant with
      | none => .error (.valueError
          "Rulebook versions must start at scored_from and increase on scored bars")
      | some (index, bar) => do
          let _ ← checked (previousIndex < index ∧
              (version = 1 → index = scoredIndex))
            "Rulebook versions must start at scored_from and increase on scored bars"
          let rule ← parseRulebook formats (item.item "rules") cap
          let _ ← checked (rule.1.version = version)
            "Rulebook versions must be consecutive starting at 1"
          let later ← parseVersionItems bars scoredIndex cap (version + 1) index rest
          .ok ({ effectiveFrom := bar.written, rules := rule.1 } :: later)

/-- The schedule of a whole run. -/
def parseVersions (raw : Json) (bars : List CandleText) (scoredIndex : ℕ)
    (cap : SpelledDecimal) : Except InputError (List VersionText) :=
  match raw with
  | .arr items => do
      let _ ← checked (1 ≤ items.length ∧ items.length ≤ 2000)
        "Supply 1 to 2000 rulebook versions"
      parseVersionItems formats bars scoredIndex cap 1 (scoredIndex - 1) items
  | _ => .error (.valueError "Supply 1 to 2000 rulebook versions")

end Rulebooks

section Stored

variable {formats : InputFormats}

theorem rulebookInt_of {raw : Json} {name : String} {lower upper value : ℕ}
    (held : raw.item name = .int value)
    (within : lower ≤ value ∧ value ≤ upper) :
    rulebookInt raw name lower upper = .ok ⟨value, within⟩ := by
  unfold rulebookInt
  rw [held]
  exact dif_pos within

theorem rulebookDecimal_of {raw : Json} {name : String}
    {ceiling number : SpelledDecimal}
    (held : raw.item name = .str (formats.showDecimal number))
    (within : 0 < number.value ∧ number.value ≤ ceiling.value) :
    rulebookDecimal formats raw name ceiling = .ok ⟨number, within⟩ := by
  unfold rulebookDecimal
  rw [held]
  dsimp only
  rw [formats.parseDecimal_show]
  exact dif_pos within

theorem entryRule_value (entry : EntryRule) :
    entryRule (.str entry.value) = .ok entry := by
  cases entry <;> rfl

theorem parseRulebook_toDict (rule : RulebookText) {cap : SpelledDecimal}
    (capped : rule.exposureFraction.value ≤ cap.value) :
    parseRulebook formats (rule.toDict formats) cap = .ok ⟨rule, capped⟩ := by
  have ten : zCeiling.value = 10 := by decide +kernel
  have most : stopCeiling.value = 95 / 100 := by decide +kernel
  have hundred : targetCeiling.value = 100 := by decide +kernel
  have schema : rulebookInt (rule.toDict formats) "schema_version" 1 1 =
      .ok ⟨1, by decide⟩ := rulebookInt_of rfl (by decide)
  unfold parseRulebook
  rw [checked_of (by rfl), schema, rulebookInt_of rfl rule.versioned,
    rulebookInt_of rfl rule.fastBounds, rulebookInt_of rfl rule.slowBounds,
    rulebookInt_of rfl rule.reversion, rulebookInt_of rfl rule.filter,
    rulebookInt_of rfl rule.expiry]
  dsimp only [bind, Except.bind]
  rw [checked_of rule.faster]
  have entry : entryRule ((rule.toDict formats).item "entry") = .ok rule.entry :=
    entryRule_value rule.entry
  have flag : exitFlag ((rule.toDict formats).item "exit_on_signal") =
      .ok rule.exitOnSignal := rfl
  rw [entry, flag, rulebookDecimal_of rfl (ten ▸ rule.z),
    rulebookDecimal_of rfl ⟨rule.exposure, capped⟩,
    rulebookDecimal_of rfl (most ▸ rule.stop),
    rulebookDecimal_of rfl (hundred ▸ rule.target)]

variable {bars : List CandleText} {scoredIndex : ℕ} {cap : SpelledDecimal}

theorem barTimes_eq_some {instant : ℤ} {index : ℕ} {bar : CandleText}
    (found : (barTimes bars).get? instant = some (index, bar)) :
    bars[index]? = some bar ∧ bar.ts.instant = instant := by
  have member := Dict.mem_of_get?_ofList found
  obtain ⟨⟨other, place⟩, listed, same⟩ := List.mem_map.mp member
  cases same
  exact ⟨List.mem_zipIdx_iff_getElem?.mp listed, rfl⟩

/-- What accepted versions establish. -/
inductive ReadsVersions (formats : InputFormats) (bars : List CandleText)
    (scoredIndex : ℕ) (cap : SpelledDecimal) :
    ℕ → ℤ → List VersionText → Prop where
  | nil {version : ℕ} {previous : ℤ} :
      ReadsVersions formats bars scoredIndex cap version previous []
  | cons {version index : ℕ} {previous : ℤ} {bar : CandleText}
      {rules : RulebookText} {later : List VersionText}
      (found : (barTimes bars).get? bar.ts.instant = some (index, bar))
      (ordered : previous < index ∧ (version = 1 → index = scoredIndex))
      (capped : rules.exposureFraction.value ≤ cap.value)
      (numbered : rules.version = version)
      (others : ReadsVersions formats bars scoredIndex cap (version + 1) index
        later) :
      ReadsVersions formats bars scoredIndex cap version previous
        ({ effectiveFrom := bar.written, rules := rules } :: later)

theorem parseVersionItems_eq_ok {items : List Json} {version : ℕ}
    {previous : ℤ} {versions : List VersionText}
    (parsed : parseVersionItems formats bars scoredIndex cap version previous
      items = .ok versions) :
    ReadsVersions formats bars scoredIndex cap version previous versions ∧
      versions.length = items.length := by
  induction items generalizing version previous versions with
  | nil =>
      cases parsed
      exact ⟨.nil, rfl⟩
  | cons item rest induction =>
      unfold parseVersionItems at parsed
      obtain ⟨_, _, parsed⟩ := Outcome.bind_eq_ok.mp parsed
      obtain ⟨time, _, parsed⟩ := Outcome.bind_eq_ok.mp parsed
      split at parsed
      · cases parsed
      · next index bar found =>
          obtain ⟨⟨ordered⟩, _, parsed⟩ := Outcome.bind_eq_ok.mp parsed
          obtain ⟨⟨rules, capped⟩, _, parsed⟩ := Outcome.bind_eq_ok.mp parsed
          obtain ⟨⟨numbered⟩, _, parsed⟩ := Outcome.bind_eq_ok.mp parsed
          obtain ⟨later, others, parsed⟩ := Outcome.bind_eq_ok.mp parsed
          cases parsed
          obtain ⟨reads, length⟩ := induction others
          rw [← (barTimes_eq_some found).2] at found
          exact ⟨.cons found ordered capped numbered reads,
            congrArg Nat.succ length⟩

theorem ReadsVersions.stored {version : ℕ} {previous : ℤ}
    {versions : List VersionText}
    (written : ∀ bar ∈ bars, awareTime formats bar.written = .ok bar.ts)
    (reads : ReadsVersions formats bars scoredIndex cap version previous
      versions) :
    parseVersionItems formats bars scoredIndex cap version previous
      (versions.map (VersionText.toDict formats)) = .ok versions := by
  induction reads with
  | nil => rfl
  | cons found ordered capped numbered others induction =>
      rename_i version index previous bar rules later
      have member := List.mem_of_getElem? (barTimes_eq_some found).1
      have time : awareTime formats
          ((VersionText.toDict formats ⟨bar.written, rules⟩).item
            "effective_from") = .ok bar.ts :=
        written bar member
      rw [List.map_cons, parseVersionItems, checked_of (by rfl), time]
      dsimp only [bind, Except.bind]
      rw [found]
      dsimp only
      rw [checked_of ordered]
      have read : parseRulebook formats
          ((VersionText.toDict formats ⟨bar.written, rules⟩).item "rules") cap =
          .ok ⟨rules, capped⟩ :=
        parseRulebook_toDict rules capped
      rw [read]
      dsimp only
      rw [checked_of numbered, induction]

theorem parseVersions_stored {raw : Json} {versions : List VersionText}
    (written : ∀ bar ∈ bars, awareTime formats bar.written = .ok bar.ts)
    (parsed : parseVersions formats raw bars scoredIndex cap = .ok versions) :
    parseVersions formats (.arr (versions.map (VersionText.toDict formats))) bars
      scoredIndex cap = .ok versions := by
  unfold parseVersions at parsed
  split at parsed
  · obtain ⟨⟨counted⟩, _, parsed⟩ := Outcome.bind_eq_ok.mp parsed
    obtain ⟨reads, length⟩ := parseVersionItems_eq_ok parsed
    unfold parseVersions
    dsimp only
    rw [checked_of (by rwa [List.length_map, length])]
    exact reads.stored written
  · cases parsed

end Stored

end GptTrader
