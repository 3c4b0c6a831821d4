import GptTrader.Experiment.Reconciliation

/-!
# The fills of a run

Fills are identified by bar and side and come in the order of their times, so
their identifiers are unique and no group of them is ambiguous: the projection
replays them as they were recorded.
-/

namespace GptTrader

/-! ## Identifiers -/

theorem isDigit_of_mem_toString {number : ℕ} {char : Char}
    (member : char ∈ (toString number).toList) : char.isDigit = true := by
  rw [Nat.toString_eq_ofList_toDigits, String.toList_ofList] at member
  exact Nat.isDigit_of_mem_toDigits (by norm_num) le_rfl member

theorem toString_nat_injective :
    Function.Injective fun number : ℕ => toString number := by
  intro left right same
  have letters := congrArg String.toList same
  dsimp only at letters
  rw [Nat.toString_eq_ofList_toDigits, Nat.toString_eq_ofList_toDigits,
    String.toList_ofList, String.toList_ofList] at letters
  have read := congrArg (fun chars => Nat.ofDigitChars 10 chars 0) letters
  rwa [Nat.ofDigitChars_ten_toDigits, Nat.ofDigitChars_ten_toDigits] at read

theorem digits_before_dash {left right : ℕ} (more rest : List Char)
    (same : (toString left).toList ++ '-' :: more =
      (toString right).toList ++ '-' :: rest) :
    left = right ∧ more = rest := by
  have digits := congrArg (List.takeWhile Char.isDigit) same
  rw [List.takeWhile_append_of_pos fun _ => isDigit_of_mem_toString,
    List.takeWhile_append_of_pos fun _ => isDigit_of_mem_toString,
    List.takeWhile_cons_of_neg (by decide),
    List.takeWhile_cons_of_neg (by decide), List.append_nil,
    List.append_nil] at digits
  have numbers := toString_nat_injective (String.toList_inj.mp digits)
  subst numbers
  exact ⟨rfl, List.tail_eq_of_cons_eq (List.append_cancel_left same)⟩

theorem FillSide.value_injective : Function.Injective FillSide.value := by
  intro left right same
  cases left <;> cases right <;> first | rfl | exact absurd same (by decide)

theorem fillIdentity_injective (source : ExperimentInput)
    {left right : ℕ} {side other : FillSide}
    (same : fillIdentity source left side = fillIdentity source right other) :
    left = right ∧ side = other := by
  have letters := congrArg String.toList same
  unfold fillIdentity at letters
  simp only [String.toList_append, List.append_assoc] at letters
  have numbered := List.append_cancel_left (List.append_cancel_left letters)
  obtain ⟨numbers, sides⟩ := digits_before_dash side.value.toList
    other.value.toList numbered
  exact ⟨numbers, FillSide.value_injective (String.toList_inj.mp sides)⟩

/-! ## Times -/

theorem ExperimentInput.ts_eq (source : ExperimentInput) {index : ℕ}
    {bar : RecordedBar} (found : source.candles[index]? = some bar) :
    bar.ts.instant = source.opensAt + hour * index := by
  induction index generalizing bar with
  | zero =>
      have first : source.candles.head? = some bar := by
        rw [List.head?_eq_getElem?]
        exact found
      unfold opensAt
      rw [first, Nat.cast_zero, mul_zero, add_zero]
      rfl
  | succ index induction =>
      obtain ⟨bound, _⟩ := List.getElem?_eq_some_iff.mp found
      have before := List.getElem?_eq_getElem
        (show index < source.candles.length by omega)
      rw [source.ts_succ before found, induction before]
      push_cast
      ring

/-- A fill was recorded on a bar. -/
structure FillFact.RecordedOn (source : ExperimentInput) (fill : FillFact)
    (index : ℕ) (side : FillSide) : Prop where
  named : fill.fillId = fillIdentity source index side
  traded : fill.symbol = source.symbol
  sided : fill.side = side.value
  timed : ∃ bar, source.candles[index]? = some bar ∧
    fill.executedAt = fillTime bar side

/-- Fills as a run records them, before a time. -/
structure RecordedFills (source : ExperimentInput) (fills : List FillFact)
    (now : ℤ) : Prop where
  recorded : ∀ fill ∈ fills, ∃ index side, fill.RecordedOn source index side
  ordered : fills.Pairwise fun fill later =>
    fill.executedAt < later.executedAt
  before : ∀ fill ∈ fills, fill.executedAt < now

namespace RecordedFills

variable {source : ExperimentInput} {fills : List FillFact} {now : ℤ}

theorem nil (source : ExperimentInput) (now : ℤ) :
    RecordedFills source [] now :=
  { recorded := fun _ member => absurd member List.not_mem_nil
    ordered := .nil
    before := fun _ member => absurd member List.not_mem_nil }

theorem later {after : ℤ} (fills' : RecordedFills source fills now)
    (le : now ≤ after) : RecordedFills source fills after :=
  { fills' with
    before := fun fill member => (fills'.before fill member).trans_le le }

theorem append (before : RecordedFills source fills now) {fill : FillFact}
    {index : ℕ} {side : FillSide}
    (recorded : fill.RecordedOn source index side)
    (after : now ≤ fill.executedAt) :
    RecordedFills source (fills ++ [fill]) (fill.executedAt + 1) := by
  constructor
  · intro other member
    rcases List.mem_append.mp member with old | new
    · exact before.recorded other old
    · rw [List.mem_singleton.mp new]
      exact ⟨index, side, recorded⟩
  · rw [List.pairwise_append]
    refine ⟨before.ordered, List.pairwise_singleton .., ?_⟩
    intro other old new member
    rw [List.mem_singleton.mp member]
    exact (before.before other old).trans_le after
  · intro other member
    rcases List.mem_append.mp member with old | new
    · have earlier := before.before other old
      omega
    · rw [List.mem_singleton.mp new]
      omega

theorem ids_nodup (recorded : RecordedFills source fills now) :
    (fills.map (·.fillId)).Nodup := by
  unfold List.Nodup
  rw [List.pairwise_map]
  apply recorded.ordered.imp_of_mem
  intro fill later member laterMember earlier same
  obtain ⟨index, side, here⟩ := recorded.recorded fill member
  obtain ⟨index', side', there⟩ := recorded.recorded later laterMember
  rw [here.named, there.named] at same
  obtain ⟨rfl, rfl⟩ := fillIdentity_injective source same
  obtain ⟨bar, found, time⟩ := here.timed
  obtain ⟨bar', found', time'⟩ := there.timed
  rw [found] at found'
  cases found'
  omega

section

variable (recorded : RecordedFills source fills now)

include recorded

theorem traded :
    fills.any (fun fill => fill.symbol ≠ source.symbol) = false := by
  rw [List.any_eq_false]
  intro fill member
  obtain ⟨_, _, here⟩ := recorded.recorded fill member
  simp [here.traded]

theorem after_opening {fill : FillFact} (member : fill ∈ fills) :
    (openingBaseline source).effectiveAt < fill.executedAt := by
  obtain ⟨index, side, here⟩ := recorded.recorded fill member
  obtain ⟨bar, found, time⟩ := here.timed
  have opens := source.ts_eq found
  unfold openingBaseline hour at *
  rw [time]
  unfold fillTime hour
  cases side with
  | buy => dsimp only; omega
  | sell => dsimp only; omega

theorem relevantFills_eq :
    relevantFills (openingBaseline source) fills = fills := by
  unfold relevantFills
  rw [List.filter_eq_self.mpr fun fill member =>
    decide_eq_true (recorded.after_opening member)]
  apply List.mergeSort_of_pairwise
  exact recorded.ordered.imp fun earlier => decide_eq_true (.inl earlier)

theorem group_small {group : List FillFact} (member : group ∈ fillsByTime fills) :
    group.length ≤ 1 := by
  unfold fillsByTime at member
  obtain ⟨moment, _, rfl⟩ := List.mem_map.mp member
  by_contra several
  have apart := recorded.ordered.sublist
    (List.filter_sublist (p := fun fill => decide (fill.executedAt = moment)))
  generalize kept : fills.filter
    (fun fill => decide (fill.executedAt = moment)) = group at several apart
  match group, kept with
  | [], _ => exact several (by simp)
  | [_], _ => exact several (by simp)
  | first :: second :: rest, kept =>
      have ordered := List.rel_of_pairwise_cons apart (List.mem_cons_self ..)
      have times : ∀ fill ∈ first :: second :: rest,
          fill.executedAt = moment := by
        intro fill member
        rw [← kept] at member
        exact of_decide_eq_true (List.mem_filter.mp member).2
      have here := times first (by simp)
      have there := times second (by simp)
      omega

end

end RecordedFills

theorem ambiguousFromIn_of_small (context : DecimalContext) (inventory : ℚ)
    (groups : List (List FillFact))
    (small : ∀ group ∈ groups, group.length ≤ 1) :
    ambiguousFromIn context inventory groups = false := by
  induction groups generalizing inventory with
  | nil => rfl
  | cons group rest induction =>
      have kinds : ∀ {α : Type} [BEq α] [LawfulBEq α] (f : FillFact → α),
          ¬1 < (group.map f).eraseDups.length := by
        intro α _ _ f
        have few := small group (List.mem_cons_self ..)
        match group, few with
        | [], _ => simp
        | [_], _ => simp [List.eraseDups_cons]
      unfold ambiguousFromIn
      dsimp only
      rw [induction _ fun other member => small other (.tail _ member),
        Bool.or_false, decide_eq_false]
      rintro (sides | ⟨_, _, prices⟩)
      · exact kinds FillFact.side sides
      · exact kinds FillFact.price prices

theorem RecordedFills.projectBooks_eq {source : ExperimentInput}
    {fills : List FillFact} {now : ℤ}
    (recorded : RecordedFills source fills now) (context : DecimalContext) :
    projectBooks context fills (openingBaseline source) =
      some (fills.foldl (Inventory.applyIn context)
        (.opening (openingBaseline source))) := by
  unfold projectBooks
  dsimp only
  rw [recorded.relevantFills_eq, ambiguousFromIn_of_small context _ _
    fun group member => recorded.group_small member]
  rfl

end GptTrader
