import GptTrader.Experiment.Engine
import GptTrader.Library.Outcome

/-!
# What a decision may change

Whatever a channel decides on a bar, it leaves the account as it is: only the
entry and the exit at the next open and the channel's own record change.  An
entry is decided while flat and not halted, within the exposure cap; an exit is
decided while holding.
-/

namespace GptTrader

/-! ## Replies -/

def DecisionAction.fits (holding : Bool) : DecisionAction → Prop
  | .hold => True
  | .enter .. => holding = false
  | .exit => holding = true

section Replies

variable {formats : TextFormats} {reply : Json} {holding : Bool}
variable {lastClose : ℚ}

theorem replyEntry_fits {action : DecisionAction}
    (read : replyEntry formats reply holding lastClose = .ok action) :
    action.fits holding := by
  unfold replyEntry at read
  rw [Outcome.guard_eq_ok] at read
  obtain ⟨flat, read⟩ := read
  split at read
  · obtain ⟨⟨size, _⟩, _, read⟩ := Outcome.bind_eq_ok.mp read
    obtain ⟨⟨stop, guarded⟩, _, read⟩ := Outcome.bind_eq_ok.mp read
    obtain ⟨⟨target, _⟩, _, read⟩ := Outcome.bind_eq_ok.mp read
    dsimp only at read
    split at read
    · obtain ⟨hours, _, read⟩ := Outcome.bind_eq_ok.mp read
      cases read
      exact Bool.eq_false_iff.mpr flat
    · cases read
  · cases read

theorem replyAction_fits {name : String} {action : DecisionAction}
    (read : replyAction formats reply name holding lastClose = .ok action) :
    action.fits holding := by
  unfold replyAction at read
  split at read
  · exact replyEntry_fits read
  · rw [Outcome.guard_eq_ok] at read
    obtain ⟨_, read⟩ := read
    split at read
    · cases read
      exact trivial
    · rw [Outcome.branch_eq_ok] at read
      obtain ⟨holds, read⟩ := read
      cases read
      exact holds

theorem readReply_fits {decision : Decision}
    (read : readReply formats reply holding lastClose = .ok decision) :
    decision.action.fits holding := by
  unfold readReply at read
  split at read
  · rw [Outcome.branch_eq_ok] at read
    obtain ⟨_, read⟩ := read
    split at read
    · rw [Outcome.branch_eq_ok] at read
      obtain ⟨_, read⟩ := read
      obtain ⟨reason, _, read⟩ := Outcome.bind_eq_ok.mp read
      obtain ⟨rulebook, _, read⟩ := Outcome.bind_eq_ok.mp read
      obtain ⟨action, acted, read⟩ := Outcome.bind_eq_ok.mp read
      cases read
      exact replyAction_fits acted
    · cases read
  · cases read

theorem readTurn_fits {world : EngineWorld} {outcome : TransportOutcome}
    {reading : TurnReading} {decision : Decision}
    (read : readTurn world holding lastClose outcome = .ok reading)
    (decided : reading.decision = some decision) :
    decision.action.fits holding := by
  unfold readTurn at read
  split at read
  · cases read
  · cases read
    cases decided
  · split at read
    · cases read
      cases decided
    · split at read
      · next accepted =>
          cases read
          cases decided
          unfold parseReply at accepted
          split at accepted
          · cases accepted
          · cases accepted
          · cases accepted
          · exact readReply_fits accepted
      · cases read
        cases decided
      · cases read

end Replies

/-! ## Effects -/

/-- The state after a decision, compared with the marked account. -/
structure AccountState.DecidedFrom (source : ExperimentInput)
    (marked decided : AccountState) : Prop where
  kept : decided =
    { marked with
      pending := decided.pending
      manager := decided.manager
      rulebook := decided.rulebook }
  entered : ∀ plan, decided.pending = some plan → marked.pending = some plan ∨
    marked.position = none ∧ marked.halted = false ∧
      ∀ size ∈ plan.sizeFraction, size ≤ source.settings.exposureFraction
  left : decided.exitPending source.benchmark = true →
    marked.exitPending source.benchmark = true ∨
      marked.position.isSome = true
  controlled : (marked.manager.isSome = true → decided.manager.isSome = true) ∧
    (marked.rulebook.isSome = true → decided.rulebook.isSome = true)

namespace AccountState.DecidedFrom

variable {world : EngineWorld} {source : ExperimentInput} {sequence : ℕ}
variable {bar : RecordedBar} {marked : AccountState}

theorem refl (source : ExperimentInput) (marked : AccountState) :
    marked.DecidedFrom source marked :=
  { kept := rfl
    entered := fun _ pending => .inl pending
    left := fun pending => .inl pending
    controlled := ⟨id, id⟩ }

theorem activeVersion_mem {versions : List RulebookVersion} {ts : ℤ}
    {active : RulebookVersion} (found : activeVersion versions ts = some active) :
    active ∈ versions := by
  cases versions with
  | nil => cases found
  | cons first later =>
      cases found
      rw [List.getLastD_eq_getLast?]
      cases last : (later.takeWhile fun version =>
          decide (version.effectiveFrom.instant ≤ ts)).getLast? with
      | none => exact List.mem_cons_self ..
      | some version =>
          exact .tail _ ((List.takeWhile_sublist _).mem
            (List.mem_of_getLast? last))

theorem evaluateRulebook_decides (ruled : source.benchmark = .aiRulebook)
    {label : String} {plan : Option EntryPlan}
    {activation : Option RulebookVersion} {decided : AccountState}
    (evaluated : evaluateRulebook world source sequence bar marked =
      .ok (label, plan, activation, decided)) :
    marked.DecidedFrom source decided := by
  have control : ∀ state : AccountState,
      state.exitPending source.benchmark =
        state.rulebook.any (·.exitPending) := fun state => by
    unfold exitPending
    rw [ruled, if_neg (by decide)]
  unfold evaluateRulebook at evaluated
  split at evaluated
  · next active kept found known =>
      have knows : ∀ decided : AccountState,
          decided = { marked with
            rulebook := some { kept with version := active.rules.version } } →
          marked.DecidedFrom source decided := by
        intro decided same
        subst same
        refine ⟨rfl, fun _ pending => .inl pending, fun pending => .inl ?_,
          id, fun _ => rfl⟩
        rw [control] at pending ⊢
        rw [known]
        exact pending
      dsimp only at evaluated
      split at evaluated
      · cases evaluated
        exact knows _ rfl
      · split at evaluated
        · next holding =>
            split at evaluated
            · cases evaluated
              exact ⟨rfl, fun _ pending => .inl pending,
                fun _ => .inr holding, id, fun _ => rfl⟩
            · cases evaluated
              exact knows _ rfl
        · next flat =>
            split at evaluated
            · cases evaluated
              exact knows _ rfl
            · next running =>
                split at evaluated
                · cases evaluated
                  exact knows _ rfl
                · cases evaluated
                  have base := knows _ rfl
                  refine ⟨rfl, ?_, base.left, id, fun _ => rfl⟩
                  rintro plan ⟨⟩
                  refine .inr ⟨Option.not_isSome_iff_eq_none.mp flat,
                    Bool.eq_false_iff.mpr running, ?_⟩
                  rintro size ⟨⟩
                  have schedule := source.ruled
                  rw [if_pos ruled] at schedule
                  exact schedule.capped active (activeVersion_mem found)
  · cases evaluated
  · cases evaluated

theorem applyDecision_decides (managed : source.benchmark = .aiTradeManager)
    {formats : TextFormats} {decision : Decision} {control : ManagerState}
    (known : marked.manager = some control) (running : marked.halted = false)
    (fits : decision.action.fits marked.position.isSome) :
    marked.DecidedFrom source (applyDecision formats source sequence bar
      decision control marked).2.2.2 := by
  have controlled : ∀ state : AccountState,
      state.exitPending source.benchmark =
        state.manager.any (·.exitPending) := fun state => by
    unfold exitPending
    rw [if_pos managed]
  have rewritten : (control.rewrite (decision.rewritten control)).exitPending =
      control.exitPending := by
    cases decision.rewritten control <;> rfl
  have left : ∀ pending, ({ marked with
        manager := some (control.rewrite (decision.rewritten control))
        pending := pending } : AccountState).exitPending source.benchmark =
      marked.exitPending source.benchmark := by
    intro pending
    rw [controlled, controlled, known]
    exact rewritten
  unfold applyDecision
  dsimp only
  cases acted : decision.action with
  | hold =>
      exact ⟨rfl, fun _ pending => .inl pending,
        fun pending => .inl ((left marked.pending).symm.trans pending),
        fun _ => rfl, id⟩
  | exit =>
      rw [acted] at fits
      exact ⟨rfl, fun _ pending => .inl pending, fun _ => .inr fits,
        fun _ => rfl, id⟩
  | enter sizeFraction stop target expiresInHours guarded =>
      rw [acted] at fits
      refine ⟨rfl, ?_, fun pending => .inl ((left _).symm.trans pending),
        fun _ => rfl, id⟩
      rintro plan ⟨⟩
      refine .inr ⟨Option.not_isSome_iff_eq_none.mp (Bool.eq_false_iff.mp fits),
        running, ?_⟩
      rintro size ⟨⟩
      exact min_le_right _ _

theorem manage_decides (managed : source.benchmark = .aiTradeManager)
    (running : marked.halted = false) {transport : Option DecisionTransport}
    {filled : Bool} {decided : ManagerDecision}
    (manages : manage world source sequence bar transport filled marked =
      .ok decided) : marked.DecidedFrom source decided.state := by
  unfold manage at manages
  split at manages
  · next known =>
      split at manages
      · split at manages
        · cases manages
        · obtain ⟨reading, read, settled⟩ := Outcome.map_eq_ok.mp manages
          subst settled
          unfold settleTurn
          cases decision : reading.decision with
          | none => exact refl source marked
          | some decision =>
              exact applyDecision_decides managed known running
                (readTurn_fits read ‹_›)
      · cases manages
        exact refl source marked
  · cases manages
  · cases manages

theorem decideByRule_decides (flat : marked.position = none)
    (running : marked.halted = false) {decided : ChannelDecision}
    (decides : decideByRule world source sequence bar marked = .ok decided) :
    marked.DecidedFrom source decided.state := by
  unfold decideByRule at decides
  dsimp only at decides
  split at decides
  · cases decides
  · cases decides
    refine ⟨rfl, ?_, fun pending => .inl pending, id, id⟩
    rintro plan ⟨⟩
    exact .inr ⟨flat, running, fun _ given => by cases given⟩
  · cases decides
    exact refl source marked
  · split at decides
    · cases decides
      exact refl source marked
    · cases decides
      exact refl source marked

theorem of_decideChannel {transport : Option DecisionTransport} {filled : Bool}
    {decided : ChannelDecision}
    (decides : decideChannel world source sequence bar transport filled marked =
      .ok decided) : marked.DecidedFrom source decided.state := by
  unfold decideChannel at decides
  split at decides
  · next ruled =>
      obtain ⟨⟨label, plan, activation, state⟩, evaluated, made⟩ :=
        Outcome.map_eq_ok.mp decides
      subst made
      exact evaluateRulebook_decides ruled.1 evaluated
  · split at decides
    · cases decides
      exact refl source marked
    · next running =>
        have running := Bool.eq_false_iff.mpr running
        split at decides
        · next managed =>
            obtain ⟨made, manages, same⟩ := Outcome.map_eq_ok.mp decides
            subst same
            exact manage_decides managed.1 running manages
        · split at decides
          · cases decides
            exact refl source marked
          · next flat =>
              split at decides
              · cases decides
                exact refl source marked
              · exact decideByRule_decides
                  (Option.not_isSome_iff_eq_none.mp flat) running decides

end AccountState.DecidedFrom

end GptTrader
