import Mathlib.Data.List.Forall2
import GptTrader.Experiment.AuthorEstimate

/-!
# The bytes of an estimated turn

The request of a due turn takes no more bytes than the context that was priced
for its bar, as long as the header of the run's first source is not longer than
the estimated one by more than the slack that the byte cap leaves.
-/

namespace GptTrader

namespace Json

variable {showFloat : PyFloat → String}

theorem bytes_obj_perm (showFloat : PyFloat → String)
    {fields others : List (String × Json)}
    (permuted : fields.Perm others) :
    bytes showFloat (.obj fields) = bytes showFloat (.obj others) := by
  by_cases empty : fields = []
  · subst empty
    rw [List.nil_perm.mp permuted]
  · have some : others ≠ [] := by
      intro none
      subst none
      exact empty (List.perm_nil.mp permuted)
    rw [bytes_obj fields empty, bytes_obj others some,
      (permuted.map (fieldBytes showFloat)).sum_eq]

theorem bytes_plain (count : ℕ) :
    bytes showFloat (.str (String.ofList (List.replicate count 'X'))) =
      count + 2 := by
  have escaped : (escapeChars (List.replicate count 'X')).utf8ByteSize =
      count := by
    induction count with
    | zero => rfl
    | succ count induction =>
        rw [List.replicate_succ, escapeChars, String.utf8ByteSize_append,
          induction]
        have single : (escapeChar 'X').utf8ByteSize = 1 := by decide
        omega
  unfold bytes encode quoted
  rw [String.utf8ByteSize_append, String.utf8ByteSize_append,
    String.toList_ofList, escaped]
  have quote : "\"".utf8ByteSize = 1 := by decide
  omega

end Json

section Bars

variable {start stop step bar : ℕ}

theorem mem_stepRange (positive : 0 < step) :
    bar ∈ stepRange start stop step ↔
      start ≤ bar ∧ bar < stop ∧ (bar - start) % step = 0 := by
  unfold stepRange
  rw [List.mem_map]
  constructor
  · rintro ⟨turn, listed, rfl⟩
    have before := (Nat.le_div_iff_mul_le positive).mp (List.mem_range.mp listed)
    rw [Nat.succ_mul] at before
    refine ⟨Nat.le_add_right _ _, by omega, ?_⟩
    rw [Nat.add_sub_cancel_left, Nat.mul_mod_left]
  · rintro ⟨after, before, multiple⟩
    have whole : (bar - start) / step * step = bar - start := by
      have divided := Nat.div_add_mod (bar - start) step
      rw [multiple, Nat.add_zero, Nat.mul_comm] at divided
      exact divided
    refine ⟨(bar - start) / step, List.mem_range.mpr ?_, by omega⟩
    apply (Nat.le_div_iff_mul_le positive).mpr
    rw [Nat.succ_mul, whole]
    omega

theorem stepRange_sorted (positive : 0 < step) :
    (stepRange start stop step).Pairwise (· < ·) := by
  unfold stepRange
  rw [List.pairwise_map]
  refine List.pairwise_lt_range.imp ?_
  intro first second before
  have scaled := Nat.mul_lt_mul_of_pos_right before positive
  omega

theorem mem_authorBars {first : ParsedInput} {settings : AuthorSettings} :
    bar ∈ authorBars first settings ↔
      authorDue first settings bar = true ∧ bar < first.candles.length := by
  unfold authorBars authorDue
  rw [mem_stepRange settings.cadence.1, Bool.and_eq_true, decide_eq_true_eq,
    decide_eq_true_eq]
  constructor
  · rintro ⟨after, before, due⟩
    exact ⟨⟨after, due⟩, before⟩
  · rintro ⟨⟨after, due⟩, before⟩
    exact ⟨after, before, due⟩

end Bars

/-- The bytes of the header before the coins. -/
def headerBytes (formats : AuthorFormats) (first : ParsedInput) (sequence : ℕ) :
    ℕ :=
  (windowText formats.toInputFormats first).bytes formats.showFloat +
    (barTimeText formats.toInputFormats first sequence hour).bytes
      formats.showFloat +
    (costsText formats.toInputFormats first.settings).bytes formats.showFloat +
    (first.settings.toDict formats.toInputFormats).bytes formats.showFloat

section Contexts

variable {formats : AuthorFormats} {first other : ParsedInput}
variable {sources given : List ParsedInput} {settings : AuthorSettings}
variable {sequence : ℕ} {rules : List (String × RulebookText)}

theorem bytes_context (symbol window time costs limits accounts rulebooks next
      bars : Json) :
    Json.bytes formats.showFloat (.obj [
      ("schema", .str "rulebook-author/2"),
      ("symbol", symbol),
      ("window", window),
      ("decision_time", time),
      ("costs", costs),
      ("limits", limits),
      ("accounts", accounts),
      ("rulebooks", rulebooks),
      ("next_versions", next),
      ("daily_bars", bars)]) =
      symbol.bytes formats.showFloat + (window.bytes formats.showFloat +
        time.bytes formats.showFloat + costs.bytes formats.showFloat +
        limits.bytes formats.showFloat) + accounts.bytes formats.showFloat +
        rulebooks.bytes formats.showFloat + next.bytes formats.showFloat +
        bars.bytes formats.showFloat + 142 := by
  rw [Json.bytes_obj _ (List.cons_ne_nil _ _)]
  have schema : Json.fieldBytes formats.showFloat
      ("schema", .str "rulebook-author/2") = 29 := by rfl
  simp only [List.map_cons, List.map_nil, List.sum_cons, List.sum_nil, schema]
  unfold Json.fieldBytes
  have sizes : (quoted "symbol").utf8ByteSize = 8 ∧
      (quoted "window").utf8ByteSize = 8 ∧
      (quoted "decision_time").utf8ByteSize = 15 ∧
      (quoted "costs").utf8ByteSize = 7 ∧ (quoted "limits").utf8ByteSize = 8 ∧
      (quoted "accounts").utf8ByteSize = 10 ∧
      (quoted "rulebooks").utf8ByteSize = 11 ∧
      (quoted "next_versions").utf8ByteSize = 15 ∧
      (quoted "daily_bars").utf8ByteSize = 12 := by decide
  dsimp only
  omega

theorem bytes_dynamicContext {world : AuthorWorld} {accounts : Json} :
    (dynamicContext world accounts rules).bytes world.formats.showFloat =
      accounts.bytes world.formats.showFloat +
        (rulesText world.formats.toInputFormats rules).bytes
          world.formats.showFloat + 26 := by
  unfold dynamicContext
  rw [Json.bytes_obj _ (List.cons_ne_nil _ _)]
  simp only [List.map_cons, List.map_nil, List.sum_cons, List.sum_nil]
  unfold Json.fieldBytes
  have sizes : (quoted "accounts").utf8ByteSize = 10 ∧
      (quoted "rulebooks").utf8ByteSize = 11 := by decide
  dsimp only
  omega

theorem sorted_names {names others : List String} (alike : names.Perm others) :
    names.insertionSort (· ≤ ·) = others.insertionSort (· ≤ ·) := by
  refine List.Perm.eq_of_pairwise' (List.pairwise_insertionSort _ _)
    (List.pairwise_insertionSort _ _) ?_
  exact ((List.perm_insertionSort _ names).trans alike).trans
    (List.perm_insertionSort _ others).symm

theorem bytes_nextVersions (formats : AuthorFormats)
    {starting : List (String × RulebookText)}
    (alike : (rules.map Prod.fst).Perm (starting.map Prod.fst)) :
    (nextVersions rules).bytes formats.showFloat ≤
      (Json.obj (starting.map fun entry => (entry.1, .int 10000))).bytes
        formats.showFloat := by
  have named : ∀ entries : List (String × RulebookText),
      (entries.map fun entry => (entry.1, Json.int 10000)) =
        (entries.map Prod.fst).map fun name => (name, Json.int 10000) := by
    intro entries
    rw [List.map_map]
    rfl
  have five : (Json.int 10000).bytes formats.showFloat = 5 := by rfl
  have same := Json.bytes_obj_perm formats.showFloat
    (alike.map fun name => (name, Json.int 10000))
  rw [named starting, ← same, ← named rules]
  refine Json.bytes_obj_le ?_
  rw [List.forall₂_map_left_iff, List.forall₂_map_right_iff, List.forall₂_same]
  intro entry _
  have most := entry.2.versioned.2
  have short : (Json.int (entry.2.version + 1 : ℕ)).bytes formats.showFloat ≤ 5 :=
    Json.bytes_int_le (by decide) (by omega)
  unfold Json.fieldBytes
  dsimp only
  omega

theorem bytes_estimatedVersions (formats : AuthorFormats)
    {starting : List (String × RulebookText)}
    (alike : (rules.map Prod.fst).Perm (starting.map Prod.fst)) :
    (Json.obj (starting.map fun entry => (entry.1, .int 10000))).bytes
        formats.showFloat ≤
      (nextVersions rules).bytes formats.showFloat + 5 * rules.length := by
  have named : ∀ entries : List (String × RulebookText),
      (entries.map fun entry => (entry.1, Json.int 10000)) =
        (entries.map Prod.fst).map fun name => (name, Json.int 10000) := by
    intro entries
    rw [List.map_map]
    rfl
  have five : (Json.int 10000).bytes formats.showFloat = 5 := by rfl
  have same := Json.bytes_obj_perm formats.showFloat
    (alike.map fun name => (name, Json.int 10000))
  rw [named starting, ← same, ← named rules]
  unfold nextVersions
  by_cases none : rules = []
  · rw [none]
    exact Nat.le_add_right _ _
  have some : ∀ version : String × RulebookText → Json,
      rules.map (fun entry => (entry.1, version entry)) ≠ [] := by
    intro version
    rwa [ne_eq, List.map_eq_nil_iff]
  rw [Json.bytes_obj _ (some _), Json.bytes_obj _ (some _), List.map_map,
    List.map_map]
  have most : (rules.map (Json.fieldBytes formats.showFloat ∘
        fun entry => (entry.1, .int 10000))).sum ≤
      (rules.map fun entry => Json.fieldBytes formats.showFloat
        (entry.1, .int (entry.2.version + 1 : ℕ)) + 5).sum := by
    apply List.sum_le_sum
    intro entry _
    rw [Function.comp_apply]
    unfold Json.fieldBytes
    dsimp only
    omega
  rw [List.sum_map_add, List.map_const', List.sum_replicate_nat] at most
  have total : (rules.map fun entry => Json.fieldBytes formats.showFloat
        (entry.1, Json.int (entry.2.version + 1 : ℕ))).sum =
      (rules.map (Json.fieldBytes formats.showFloat ∘ fun entry =>
        (entry.1, .int (entry.2.version + 1 : ℕ)))).sum := rfl
  omega

theorem estimatedContext_eq :
    estimatedContext formats first sources settings sequence = .obj [
      ("schema", .str "rulebook-author/2"),
      ("symbol", .str ("portfolio:" ++ commaJoined
        (((startingRules sources).map Prod.fst).insertionSort (· ≤ ·)))),
      ("window", windowText formats.toInputFormats first),
      ("decision_time", barTimeText formats.toInputFormats first sequence hour),
      ("costs", costsText formats.toInputFormats first.settings),
      ("limits", first.settings.toDict formats.toInputFormats),
      ("accounts",
        .str (String.ofList (List.replicate maxDynamicBytes 'X'))),
      ("rulebooks", .obj []),
      ("next_versions", .obj ((startingRules sources).map fun entry =>
        (entry.1, .int 10000))),
      ("daily_bars", .obj (sources.map fun source =>
        (source.symbol, dailyBarTexts formats.toInputFormats source sequence
          settings.historyDays)))] := by
  unfold estimatedContext buildAuthorRequest Json.setField
  simp [Json.setEntry]

theorem AskedTurn.bytes_le {world : AuthorWorld} {leader : ParsedInput}
    {request : AuthorRequest}
    (asked : AskedTurn world leader sources settings sequence request)
    (alike : sources.Perm given)
    (named : (startingRules given).map Prod.fst = given.map (·.symbol))
    (header : headerBytes world.formats leader sequence ≤
      headerBytes world.formats first sequence + 30) :
    request.context.bytes world.formats.showFloat ≤
      (estimatedContext world.formats first given settings sequence).bytes
        world.formats.showFloat := by
  obtain ⟨accounts, rules, symbols, within, rfl⟩ := asked.built
  have names : (rules.map Prod.fst).Perm ((startingRules given).map Prod.fst) := by
    rw [symbols, named]
    exact alike.map _
  have versions := bytes_nextVersions world.formats names
  have bars := Json.bytes_obj_perm world.formats.showFloat
    (alike.map fun source => (source.symbol, dailyBarTexts
      world.formats.toInputFormats source sequence settings.historyDays))
  rw [bytes_dynamicContext] at within
  unfold maxDynamicBytes at within
  rw [estimatedContext_eq]
  unfold buildAuthorRequest
  dsimp only
  rw [bytes_context, bytes_context, sorted_names names, bars, Json.bytes_plain]
  have none : (Json.obj []).bytes world.formats.showFloat = 2 := by rfl
  rw [none]
  unfold headerBytes at header
  unfold maxDynamicBytes
  omega

variable (first) in
/-- The context that was priced exceeds the request of a due turn by no more than
what stands for its accounts and versions, beside their headers. -/
theorem AskedTurn.le_bytes {world : AuthorWorld} {leader : ParsedInput}
    {request : AuthorRequest}
    (asked : AskedTurn world leader sources settings sequence request)
    (alike : sources.Perm given)
    (named : (startingRules given).map Prod.fst = given.map (·.symbol)) :
    (estimatedContext world.formats first given settings sequence).bytes
        world.formats.showFloat + headerBytes world.formats leader sequence ≤
      request.context.bytes world.formats.showFloat +
        headerBytes world.formats first sequence + 16004 + 5 * given.length := by
  obtain ⟨accounts, rules, symbols, _, rfl⟩ := asked.built
  have names : (rules.map Prod.fst).Perm ((startingRules given).map Prod.fst) := by
    rw [symbols, named]
    exact alike.map _
  have versions := bytes_estimatedVersions world.formats names
  have counted : rules.length = given.length := by
    have lengths := congrArg List.length symbols
    rw [List.length_map, List.length_map] at lengths
    exact lengths.trans alike.length_eq
  have bars := Json.bytes_obj_perm world.formats.showFloat
    (alike.map fun source => (source.symbol, dailyBarTexts
      world.formats.toInputFormats source sequence settings.historyDays))
  rw [estimatedContext_eq]
  unfold buildAuthorRequest
  dsimp only
  rw [bytes_context, bytes_context, sorted_names names, bars, Json.bytes_plain]
  have none : (Json.obj []).bytes world.formats.showFloat = 2 := by rfl
  rw [none]
  unfold headerBytes
  unfold maxDynamicBytes
  omega

theorem AskedTurn.exceeds {world : AuthorWorld} {leader : ParsedInput}
    {request : AuthorRequest} {short long : ℕ}
    (asked : AskedTurn world leader sources settings sequence request)
    (alike : sources.Perm given)
    (named : (startingRules given).map Prod.fst = given.map (·.symbol))
    (most : headerBytes world.formats first sequence ≤ short)
    (least : long ≤ headerBytes world.formats leader sequence)
    (longer : short + 16004 + 5 * given.length < long) :
    (estimatedContext world.formats first given settings sequence).bytes
        world.formats.showFloat <
      request.context.bytes world.formats.showFloat := by
  have above := asked.le_bytes first alike named
  omega

end Contexts

end GptTrader
