import GptTrader.TradeIdeas.ReconciliationEffects

/-!
# Reconciling the same fills again

A pass only moves waiting ideas to filled and only adds order ids it has seen.
So what an earlier pass could not match for want of a candidate, or found
recorded, a later pass finds so again.  Only an id-less fill that had several
candidates may find a single one left.
-/

namespace GptTrader

namespace PaperReconciliation

/-- A view now and later: an idea only moves from waiting to filled. -/
structure Later (earlier later : TradeIdeaView) : Prop where
  idea : later.idea = earlier.idea
  events : earlier.events <+: later.events
  moved : later = earlier ∨ (later.state = .filled ∧ recordable earlier = true)

/-- A pass now and later. -/
structure Advances (earlier later : Pass) : Prop where
  views : Dict.Aligned Later earlier.views later.views
  audited : earlier.auditedOrderIds ⊆ later.auditedOrderIds

section Order

variable {first second third : TradeIdeaView}

theorem recordable_of_filled (filled : first.state = .filled) :
    recordable first = false := by
  unfold recordable
  rw [filled]
  rfl

theorem Later.refl (view : TradeIdeaView) : Later view view :=
  ⟨rfl, List.prefix_refl _, .inl rfl⟩

theorem Later.trans (earlier : Later first second) (later : Later second third) :
    Later first third := by
  refine ⟨later.idea.trans earlier.idea, earlier.events.trans later.events, ?_⟩
  rcases later.moved with rfl | ⟨filled, waiting⟩
  · exact earlier.moved
  · rcases earlier.moved with rfl | ⟨ended, _⟩
    · exact .inr ⟨filled, waiting⟩
    · rw [recordable_of_filled ended] at waiting
      cases waiting

theorem Later.eq_of_recordable (later : Later first second)
    (waiting : recordable second = true) : second = first := by
  rcases later.moved with same | ⟨filled, _⟩
  · exact same
  · rw [recordable_of_filled filled] at waiting
    cases waiting

theorem Advances.refl (pass : Pass) : Advances pass pass :=
  ⟨.refl Later.refl _, List.Subset.refl _⟩

theorem Advances.trans {start middle last : Pass}
    (earlier : Advances start middle) (later : Advances middle last) :
    Advances start last := by
  refine ⟨earlier.views.trans ?_ later.views,
    List.Subset.trans earlier.audited later.audited⟩
  intro first second third moved again
  exact moved.trans again

end Order

/-- The pass shows the views of the store, remembers recorded order ids and
previews nothing. -/
structure Tracks (env : TradeEnv) (pass : Pass) (store : TradeState) : Prop where
  keys : pass.views.keys = store.decisionIds
  viewed : ∀ decisionId view, pass.views.get? decisionId = some view →
    store.view env decisionId = .ok view
  audited : ∀ orderId ∈ pass.auditedOrderIds, ∃ view ∈ pass.views.values,
    ∃ audited ∈ view.events, audited.action = .filled ∧
      audited.externalOrderId = orderId ∧ orderId ≠ ""
  unpreviewed : pass.previewFilled = []

section Matching

variable {env : TradeEnv} {pass later : Pass} {store : TradeState}
variable {event : PaperFillEvent} {decisionId : String} {view : TradeIdeaView}
variable {method : MatchMethod} {reason : String}

theorem Tracks.named (tracks : Tracks env pass store)
    (found : pass.views.get? decisionId = some view) :
    view.idea.decisionId = decisionId :=
  (TradeState.requireIdea_eq_ok
    (TradeState.view_eq_ok (tracks.viewed _ _ found)).1).1

theorem Tracks.get?_of_mem (tracks : Tracks env pass store)
    (member : view ∈ pass.views.values) :
    pass.views.get? view.idea.decisionId = some view := by
  obtain ⟨⟨key, value⟩, found, rfl⟩ := List.mem_map.mp member
  have stored := Dict.get?_eq_some_iff.mpr found
  rw [tracks.named stored]
  exact stored

/-- How an event is matched: by the keys alone, or without ids by the candidates. -/
theorem matchEvent_cases (env : TradeEnv) (pass : Pass) (event : PaperFillEvent) :
    (∀ other : Pass, other.views.keys = pass.views.keys →
      matchEvent env other event = matchEvent env pass event ∧
        ∀ decisionId method reason,
          matchEvent env pass event = .found decisionId method reason →
            method ≠ .symbolSide ∧ decisionId ∈ pass.views.keys) ∨
      ∀ other : Pass, matchEvent env other event =
        match symbolSideMatches env other event with
        | [] => .missing "no approved idea matched fill"
        | [view] => .found view.idea.decisionId .symbolSide
            "matched unique approved symbol/side"
        | _ => .missing ambiguousReason := by
  cases explicit : event.decisionId.bind safeText with
  | some named =>
      left
      intro other same
      have present : (other.views.get? named).isSome =
          (pass.views.get? named).isSome := by
        rw [Bool.eq_iff_iff, Dict.get?_isSome_iff, Dict.get?_isSome_iff, same]
      unfold matchEvent
      rw [explicit]
      dsimp only
      refine ⟨by rw [present], ?_⟩
      intro decisionId method reason found
      split at found
      · next stored =>
          cases found
          exact ⟨by rintro ⟨⟩, Dict.get?_isSome_iff.mp stored⟩
      · cases found
  | none =>
      cases client : safeText event.clientOrderId with
      | some clientOrderId =>
          left
          intro other same
          unfold matchEvent
          rw [explicit, client]
          dsimp only
          rw [same]
          refine ⟨rfl, ?_⟩
          intro decisionId method reason found
          split at found
          · next matched =>
              cases found
              refine ⟨by rintro ⟨⟩, ?_⟩
              unfold matchClientOrderId at matched
              split at matched
              · cases matched
              · split at matched
                · next known =>
                    cases matched
                    exact known.2
                · split at matched
                  · next only =>
                      cases matched
                      have member : decisionId ∈ pass.views.keys.filter
                          (clientOrderIdContains event.clientOrderId) := by
                        rw [only]
                        exact .head _
                      exact (List.mem_filter.mp member).1
                  · cases matched
          · cases found
      | none =>
          right
          intro other
          unfold matchEvent
          split
          · next known => cases explicit.symm.trans known
          · split
            · next known => cases client.symm.trans known
            · rfl

theorem Tracks.found (tracks : Tracks env pass store)
    (matched : matchEvent env pass event = .found decisionId method reason) :
    ∃ view, pass.views.get? decisionId = some view ∧
      (method = .symbolSide → symbolSideMatches env pass event = [view]) := by
  rcases matchEvent_cases env pass event with keyed | legacy
  · obtain ⟨_, shape⟩ := keyed pass rfl
    obtain ⟨identified, known⟩ := shape _ _ _ matched
    obtain ⟨view, found⟩ :=
      Option.isSome_iff_exists.mp (Dict.get?_isSome_iff.mpr known)
    exact ⟨view, found, fun same => absurd same identified⟩
  · rw [legacy] at matched
    split at matched
    · cases matched
    · next view only =>
        cases matched
        have member : view ∈ symbolSideMatches env pass event := by
          rw [only]
          exact .head _
        have shown := (List.mem_filter.mp (List.mem_filter.mp member).1).1
        exact ⟨view, tracks.get?_of_mem shown, fun _ => only⟩
    · cases matched

theorem Advances.candidates (advances : Advances pass later)
    (unpreviewed : pass.previewFilled = []) :
    (symbolSideMatches env later event).Sublist
      (symbolSideMatches env pass event) := by
  unfold symbolSideMatches recordableViews
  rw [List.filter_filter, List.filter_filter]
  refine filter_sublist_of_forall₂ advances.views.values ?_
  intro first second moved kept
  simp only [Bool.and_eq_true] at kept
  obtain ⟨⟨⟨symbol, side⟩, order⟩, waiting, _⟩ := kept
  obtain rfl := moved.eq_of_recordable waiting
  refine ⟨rfl, ?_⟩
  rw [unpreviewed]
  simp [symbol, side, order, waiting]

theorem Advances.matched (advances : Advances pass later)
    (unpreviewed : pass.previewFilled = [])
    (matched : matchEvent env later event = .found decisionId method reason) :
    matchEvent env pass event = .found decisionId method reason ∨
      matchEvent env pass event = .missing ambiguousReason := by
  rcases matchEvent_cases env pass event with keyed | legacy
  · rw [← (keyed later advances.views.keys).1]
    exact .inl matched
  · rw [legacy] at matched ⊢
    have candidates : (symbolSideMatches env later event).Sublist
        (symbolSideMatches env pass event) := advances.candidates unpreviewed
    split at matched
    · cases matched
    · next view only =>
        cases matched
        rw [only] at candidates
        cases before : symbolSideMatches env pass event with
        | nil =>
            rw [before] at candidates
            cases candidates
        | cons first rest =>
            cases rest with
            | nil =>
                rw [before] at candidates
                rw [List.singleton_sublist, List.mem_singleton] at candidates
                rw [candidates]
                exact .inl rfl
            | cons second others => exact .inr rfl
    · cases matched

end Matching

section Settling

variable {env : TradeEnv} {pass later : Pass} {store : TradeState}
variable {event : PaperFillEvent} {decisionId : String}
variable {view : TradeIdeaView} {method : MatchMethod}

theorem settle_eq_none :
    settle env pass event decisionId method view = none ↔
      (method ≠ .symbolSide → matchedPayloadConflict env view event = none) ∧
        decisionId ∉ pass.previewFilled ∧
        alreadyReconciled pass view event method = false ∧
        recordable view = true := by
  have waiting : recordable view = true → view.state ≠ .filled := by
    intro waiting filled
    rw [recordable_of_filled filled] at waiting
    cases waiting
  unfold settle
  by_cases legacy : method = .symbolSide
  · simp only [legacy, if_true]
    split_ifs <;> simp_all
  · simp only [legacy, if_false]
    cases matchedPayloadConflict env view event with
    | some conflict => simp [legacy]
    | none =>
        dsimp only
        split_ifs <;> simp_all

theorem Advances.settled (advances : Advances pass later)
    (unpreviewed : pass.previewFilled = [])
    (open' : settle env later event decisionId method view = none) :
    settle env pass event decisionId method view = none := by
  rw [settle_eq_none] at open' ⊢
  obtain ⟨conflict, _, unaudited, waiting⟩ := open'
  refine ⟨conflict, by rw [unpreviewed]; exact nofun, ?_, waiting⟩
  unfold alreadyReconciled at unaudited ⊢
  split
  · next blank =>
      rw [if_pos blank] at unaudited
      exact unaudited
  · next named =>
      rw [if_neg named] at unaudited
      split
      · next legacy =>
          rw [if_pos legacy, decide_eq_false_iff_not] at unaudited
          rw [decide_eq_false_iff_not]
          exact fun member => unaudited (advances.audited member)
      · next identified =>
          rw [if_neg identified] at unaudited
          exact unaudited

theorem settle_eq_some {entry : Entry}
    (settled : settle env pass event decisionId method view = some entry) :
    ∃ status reason state context,
      entry = .settled event status reason decisionId method state context ∧
        status ≠ .matched := by
  unfold settle at settled
  dsimp only at settled
  split at settled
  · cases settled
    exact ⟨_, _, _, _, rfl, nofun⟩
  · split_ifs at settled <;>
      (cases settled; exact ⟨_, _, _, _, rfl, nofun⟩)

end Settling

section Steps

variable {env : TradeEnv} {reconciler : Reconciler} {event : PaperFillEvent}
variable {pass next : Pass} {entry : Entry} {state reached : ServiceState}
variable {decisionId : String} {view filled : TradeIdeaView}

/-- Recording a matched fill moves its idea to filled. -/
theorem Tracks.filling (tracks : Tracks env pass state.store)
    (found : pass.views.get? decisionId = some view)
    (waiting : recordable view = true)
    (fills : Fills env event decisionId view filled state.store reached.store) :
    Tracks env (pass.filling event decisionId filled) reached.store ∧
      Advances pass (pass.filling event decisionId filled) := by
  have later : Later view filled :=
    ⟨fills.grown.idea, fills.grown.events, .inr ⟨fills.state, waiting⟩⟩
  have aligned : Dict.Aligned Later pass.views
      (pass.views.set decisionId filled) :=
    Dict.aligned_set Later.refl found later
  have added : ∀ orderId ∈ (pass.filling event decisionId filled).auditedOrderIds,
      orderId ∈ pass.auditedOrderIds ∨
        (orderId = event.externalOrderId ∧ orderId ≠ "") := by
    intro orderId member
    change orderId ∈ (if event.externalOrderId = "" then pass.auditedOrderIds
      else event.externalOrderId :: pass.auditedOrderIds) at member
    split at member
    · exact .inl member
    · next named =>
        rcases List.mem_cons.mp member with rfl | earlier
        · exact .inr ⟨rfl, named⟩
        · exact .inl earlier
  have stored : (decisionId, filled) ∈ (pass.views.set decisionId filled).entries :=
    Dict.mem_entries_set.mpr (.inl ⟨rfl, rfl⟩)
  refine ⟨⟨?_, ?_, ?_, tracks.unpreviewed⟩, aligned, ?_⟩
  · change (pass.views.set decisionId filled).keys = _
    rw [aligned.keys, fills.grown.decisions]
    exact tracks.keys
  · intro other shown located
    change (pass.views.set decisionId filled).get? other = some shown at located
    rw [Dict.get?_set] at located
    split at located
    · next same =>
        cases located
        rw [same]
        exact fills.grown.viewed
    · next apart =>
        rw [fills.grown.others other (Ne.symm apart)]
        exact tracks.viewed other shown located
  · intro orderId member
    rcases added orderId member with earlier | ⟨rfl, named⟩
    · obtain ⟨known, shown, audited, recorded, action, order, named⟩ :=
        tracks.audited orderId earlier
      -- The view that shows the order id may be the one that grew.
      obtain ⟨⟨key, value⟩, entered, rfl⟩ := List.mem_map.mp shown
      by_cases same : key = decisionId
      · subst same
        have held := (Dict.get?_eq_some_iff.mpr entered).symm.trans found
        obtain rfl : value = view := Option.some.inj held
        exact ⟨filled, List.mem_map.mpr ⟨_, stored, rfl⟩, audited,
          later.events.subset recorded, action, order, named⟩
      · exact ⟨value, List.mem_map.mpr ⟨_, Dict.mem_entries_set.mpr
          (.inr ⟨same, entered⟩), rfl⟩, audited, recorded, action, order, named⟩
    · obtain ⟨audited, recorded, action, order⟩ := fills.audited
      exact ⟨filled, List.mem_map.mpr ⟨_, stored, rfl⟩, audited, recorded, action,
        order, named⟩
  · intro orderId member
    change orderId ∈ if event.externalOrderId = "" then pass.auditedOrderIds
      else event.externalOrderId :: pass.auditedOrderIds
    split
    · exact member
    · exact .tail _ member

/-- What one event does to an applied pass. -/
inductive EventOutcome (env : TradeEnv) (pass : Pass) (event : PaperFillEvent)
    (state : ServiceState) : Pass → Entry → ServiceState → Prop where
  | missing {reason : String}
      (unmatched : matchEvent env pass event = .missing reason) :
      EventOutcome env pass event state pass (.missing event reason) state
  | settled {decisionId : String} {method : MatchMethod} {reason : String}
      {view : TradeIdeaView} {entry : Entry}
      (matched : matchEvent env pass event = .found decisionId method reason)
      (found : pass.views.get? decisionId = some view)
      (settled : settle env pass event decisionId method view = some entry) :
      EventOutcome env pass event state pass entry state
  | recorded {decisionId : String} {method : MatchMethod} {reason : String}
      {view filled : TradeIdeaView} {reached : ServiceState}
      (matched : matchEvent env pass event = .found decisionId method reason)
      (found : pass.views.get? decisionId = some view)
      (unsettled : settle env pass event decisionId method view = none)
      (fills : Fills env event decisionId view filled state.store reached.store) :
      EventOutcome env pass event state (pass.filling event decisionId filled)
        (matchedEntry event decisionId method (decide (view.state = .approved))
          true .filled) reached

theorem reconcileEvent_outcome (tracks : Tracks env pass state.store)
    (returned : reconcileEvent env reconciler true pass event state =
      (.ok (next, entry), reached)) :
    EventOutcome env pass event state next entry reached := by
  unfold reconcileEvent at returned
  cases matched : matchEvent env pass event with
  | missing reason =>
      rw [matched] at returned
      cases returned
      exact .missing matched
  | found decisionId method reason =>
      rw [matched] at returned
      obtain ⟨view, found, _⟩ := tracks.found matched
      dsimp only at returned
      rw [found] at returned
      dsimp only at returned
      cases settled : settle env pass event decisionId method view with
      | some settlement =>
          rw [settled] at returned
          cases returned
          exact .settled matched found settled
      | none =>
          rw [settled] at returned
          have waiting := (settle_eq_none.mp settled).2.2.2
          obtain ⟨filled, fills, rfl, rfl⟩ := recordMatch_eq_ok
            (tracks.viewed _ _ found) waiting returned
          exact .recorded matched found settled fills

theorem EventOutcome.advances (tracks : Tracks env pass state.store)
    (outcome : EventOutcome env pass event state next entry reached) :
    Tracks env next reached.store ∧ Advances pass next := by
  cases outcome with
  | missing _ => exact ⟨tracks, .refl pass⟩
  | settled _ _ _ => exact ⟨tracks, .refl pass⟩
  | recorded matched found unsettled fills =>
      exact tracks.filling found (settle_eq_none.mp unsettled).2.2.2 fills

/-- A fill that was handled is not matched again. -/
theorem EventOutcome.again (reconciler : Reconciler) {again : Pass}
    {other : ServiceState}
    (tracks : Tracks env pass state.store)
    (outcome : EventOutcome env pass event state next entry reached)
    (unambiguous : matchEvent env pass event ≠ .missing ambiguousReason)
    (advances : Advances next again)
    (tracksAgain : Tracks env again other.store) :
    ∃ repeated, reconcileEvent env reconciler true again event other =
        (.ok (again, repeated), other) ∧ repeated.status ≠ .matched := by
  have onwards : Advances pass again := (outcome.advances tracks).2.trans advances
  cases matched : matchEvent env again event with
  | missing reason =>
      refine ⟨.missing event reason, ?_, nofun⟩
      unfold reconcileEvent
      rw [matched]
      rfl
  | found decisionId method reason =>
      obtain ⟨view, found, only⟩ := tracksAgain.found matched
      cases settled : settle env again event decisionId method view with
      | some repeated =>
          refine ⟨repeated, ?_, ?_⟩
          · unfold reconcileEvent
            rw [matched]
            dsimp only
            rw [found]
            dsimp only
            rw [settled]
            rfl
          · obtain ⟨_, _, _, _, rfl, unmatched⟩ := settle_eq_some settled
            exact unmatched
      | none =>
          -- It would have been recorded before, and then it is filled by now.
          have waiting := (settle_eq_none.mp settled).2.2.2
          obtain ⟨moved, known, later⟩ := advances.views.get? found
          obtain rfl := later.eq_of_recordable waiting
          have before := (onwards.matched tracks.unpreviewed matched).resolve_right
            unambiguous
          obtain ⟨earlier, located, grown⟩ := onwards.views.get? found
          obtain rfl := grown.eq_of_recordable waiting
          have unsettled := onwards.settled tracks.unpreviewed settled
          cases outcome with
          | missing unmatched =>
              rw [before] at unmatched
              cases unmatched
          | settled matched' found' settled' =>
              rw [before] at matched'
              cases matched'
              rw [located] at found'
              cases found'
              rw [unsettled] at settled'
              cases settled'
          | recorded matched' found' unsettled' fills =>
              rw [before] at matched'
              cases matched'
              change (pass.views.set decisionId _).get? decisionId = some view
                at known
              rw [Dict.get?_set, if_pos rfl] at known
              cases known
              rw [recordable_of_filled fills.state] at waiting
              cases waiting

end Steps

end PaperReconciliation

end GptTrader
