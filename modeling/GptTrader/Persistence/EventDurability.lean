import GptTrader.Persistence.EventStore
import GptTrader.Python.TableCodecs

/-!
# Events that a persistent store keeps

The reads of a persistent store are compared with those of a store in memory that was
given the same calls.  Each call leaves a row or none; the reads agree when every call
leaves a row that holds its event.

A call whose write fails returns normally, and its event stays in the cache only.
-/

namespace GptTrader

namespace Events

section Reads

variable (formats : EventFormats)

/-! ## Rows that hold events -/

/-- The row holds the event. -/
structure Holds (event : PyEvent) (row : Row) : Prop where
  type : event.type = .str row.eventType
  accepted : formats.accepted row.payload = true
  data : ∃ json, event.data.toJson = .ok json ∧ formats.loads row.payload = .ok json

/-- The two events have one spelling. -/
def SameEvent (event other : PyEvent) : Prop :=
  ∃ seen, event.toJson = .ok seen ∧ other.toJson = .ok seen

/-- The two reads agree event by event. -/
def SameRead (read other : Except PyError (List PyEvent)) : Prop :=
  ∃ events others, read = .ok events ∧ other = .ok others ∧
    List.Forall₂ SameEvent events others

variable {formats}

theorem readRow_holds {event : PyEvent} {row : Row} (holds : Holds formats event row) :
    ∃ read, readRow formats row = .ok read ∧ SameEvent read event := by
  obtain ⟨json, value, loaded⟩ := holds.data
  refine ⟨{ type := .str row.eventType, data := .ofJson json }, ?_, ?_⟩
  · unfold readRow
    rw [loaded]
    rfl
  · refine ⟨(.str row.eventType, json), ?_, ?_⟩
    · unfold PyEvent.toJson
      rw [PyValue.toJson_ofJson json (PyValue.toJson_distinct event.data value)]
      rfl
    · unfold PyEvent.toJson
      rw [holds.type, value]
      rfl

theorem sameRead_rows {events : List PyEvent} {rows : List Row}
    (held : List.Forall₂ (Holds formats) events rows) :
    SameRead (rows.mapM (readRow formats)) (.ok events) := by
  induction held with
  | nil => exact ⟨[], [], rfl, rfl, .nil⟩
  | cons holds rest induction =>
      obtain ⟨read, others, traversed, same, alike⟩ := induction
      cases same
      obtain ⟨first, found, seen⟩ := readRow_holds holds
      refine ⟨first :: read, _, ?_, rfl, .cons seen alike⟩
      rw [List.mapM_cons, found, traversed]
      rfl

theorem lastRows_eq (rows : List Row) (count : ℤ) :
    lastRows rows count = rows.drop (rows.length - count.toNat) := by
  unfold lastRows
  rw [List.take_reverse, List.reverse_reverse]

theorem sameRead_last {events : List PyEvent} {rows : List Row}
    (held : List.Forall₂ (Holds formats) events rows) (count : ℤ) :
    SameRead ((lastRows rows count).mapM (readRow formats))
      (.ok (lastEvents events count)) := by
  rw [lastRows_eq]
  unfold lastEvents
  rw [held.length_eq]
  exact sameRead_rows (List.forall₂_drop _ held)

theorem bindInt_count {count : ℤ} (positive : ¬ count ≤ 0) (bound : count < 2 ^ 63) :
    bindInt count = .ok count := by
  unfold bindInt
  rw [if_pos]
  omega

theorem holds_ofType {events : List PyEvent} {rows : List Row}
    (held : List.Forall₂ (Holds formats) events rows) (eventType : String) :
    List.Forall₂ (Holds formats)
      (events.filter fun event => event.type.isText eventType)
      (rows.filter fun row => decide (row.eventType = eventType)) := by
  refine List.rel_filter ?_ held
  intro event row holds
  dsimp only
  rw [holds.type]
  rfl

/-! ## Symbols -/

/-- A value that `json_extract` returns as the text of JSON. -/
def IsContainer (value : PyValue) : Prop :=
  (∃ items, value = .list items) ∨ (∃ items, value = .tuple items) ∨
    ∃ entries, value = .dict entries

def PlainSymbol (data : PyValue) : Prop :=
  ∃ entries, data = .dict entries ∧
    ∀ value, PyValue.lookup entries "symbol" = some value → ¬ IsContainer value

def symbolIs (symbol : String) (event : PyEvent) : Bool :=
  match event.data with
  | .dict entries => ((PyValue.lookup entries "symbol").getD .none).isText symbol
  | _ => false

theorem eventsOfSymbol_eq {events : List PyEvent}
    (plain : ∀ event ∈ events, PlainSymbol event.data) (symbol : String) :
    eventsOfSymbol symbol events = .ok (events.filter (symbolIs symbol)) := by
  induction events with
  | nil => rfl
  | cons event rest induction =>
      obtain ⟨entries, dict, _⟩ := plain event List.mem_cons_self
      have others := induction fun other member =>
        plain other (List.mem_cons_of_mem event member)
      have found : event.data.get "symbol" =
          .ok ((PyValue.lookup entries "symbol").getD .none) := by
        rw [dict]
        rfl
      have is : symbolIs symbol event =
          ((PyValue.lookup entries "symbol").getD .none).isText symbol := by
        unfold symbolIs
        rw [dict]
      rw [eventsOfSymbol, found, others, List.filter_cons, is]
      rfl

theorem related_find {α β : Type} {related : α → β → Prop} {p : α → Bool} {q : β → Bool}
    (alike : ∀ first second, related first second → p first = q second)
    {firsts : List α} {seconds : List β}
    (lists : List.Forall₂ related firsts seconds) :
    Option.Rel related (firsts.find? p) (seconds.find? q) := by
  induction lists with
  | nil => exact .none
  | @cons first second firsts seconds one rest induction =>
      have same := alike first second one
      rw [List.find?_cons, List.find?_cons, ← same]
      cases p first with
      | true => exact .some one
      | false => exact induction

theorem text_symbol {key : PyKey} {text : String} (named : key.text = .ok text) :
    (key = .str "symbol" ↔ text = "symbol") := by
  cases key with
  | str key =>
      cases named
      simp
  | scalar key =>
      cases named
      obtain ⟨text, first, listed, head⟩ := key
      constructor
      · intro same
        cases same
      · rintro rfl
        have letter : first = 's' := by
          simpa using head.symm
        subst letter
        exact absurd listed (by decide)
  | other => cases named

theorem entriesToJson_related {entries : List (PyKey × PyValue)}
    {fields : List (String × Json)}
    (traversed : PyValue.entriesToJson entries = .ok fields) :
    List.Forall₂ (fun entry field => entry.1.text = .ok field.1 ∧
      entry.2.toJson = .ok field.2) entries fields := by
  induction entries generalizing fields with
  | nil =>
      cases traversed
      exact .nil
  | cons entry rest induction =>
      obtain ⟨key, value⟩ := entry
      rw [PyValue.entriesToJson] at traversed
      obtain ⟨text, named, later⟩ := Outcome.bind_eq_ok.mp traversed
      obtain ⟨json, read, later⟩ := Outcome.bind_eq_ok.mp later
      obtain ⟨others, readRest, finish⟩ := Outcome.bind_eq_ok.mp later
      cases finish
      exact .cons ⟨named, read⟩ (induction readRest)

theorem ofList_get? (pairs : List (String × Json)) (key : String) :
    (Dict.ofList pairs).get? key =
      (pairs.reverse.find? fun pair => decide (pair.1 = key)).map Prod.snd := by
  induction pairs using List.reverseRecOn with
  | nil => rfl
  | append_singleton pairs last induction =>
      have set : Dict.ofList (pairs ++ [last]) =
          (Dict.ofList pairs).set last.1 last.2 :=
        List.foldl_append
      rw [set, Dict.get?_set, List.reverse_append, induction]
      by_cases same : key = last.1
      · simp [same]
      · simp [same, Ne.symm same]

theorem field?_symbol {entries : List (PyKey × PyValue)} {json : Json}
    (read : (PyValue.dict entries).toJson = .ok json) :
    Option.Rel (fun value json => PyValue.toJson value = .ok json)
      (PyValue.lookup entries "symbol") (json.field? "symbol") := by
  rw [PyValue.toJson] at read
  obtain ⟨fields, traversed, rfl⟩ := Outcome.map_eq_ok.mp read
  have symbol : (Json.obj (Dict.ofList fields).entries).field? "symbol" =
      (Dict.ofList fields).get? "symbol" :=
    rfl
  rw [symbol, ofList_get?]
  have related := List.forall₂_reverse_iff.mpr (entriesToJson_related traversed)
  have found := related_find (p := fun entry => decide (entry.1 = .str "symbol"))
    (q := fun field => decide (field.1 = "symbol"))
    (fun entry field one => decide_eq_decide.mpr (text_symbol one.1)) related
  unfold PyValue.lookup
  generalize entries.reverse.find? _ = first at found ⊢
  generalize fields.reverse.find? _ = second at found ⊢
  cases found with
  | none => exact .none
  | some one => exact .some one.2

theorem holds_symbol {event : PyEvent} {row : Row} (holds : Holds formats event row)
    (plain : PlainSymbol event.data) (symbol : String) :
    formats.jsonExtract row.payload = .text symbol ↔ symbolIs symbol event = true := by
  obtain ⟨entries, dict, noContainer⟩ := plain
  obtain ⟨json, value, loaded⟩ := holds.data
  rw [dict] at value
  have found := field?_symbol value
  rw [formats.extract_symbol holds.accepted loaded]
  unfold symbolIs symbolValue
  rw [dict]
  dsimp only
  generalize PyValue.lookup entries "symbol" = symbolFound at found noContainer ⊢
  generalize json.field? "symbol" = field at found ⊢
  cases found with
  | none => simp [PyValue.isText]
  | @some value json read =>
      have plain := noContainer value rfl
      cases value with
      | none =>
          cases read
          simp [PyValue.isText]
      | bool value =>
          cases read
          simp [PyValue.isText]
      | int value =>
          cases read
          simp [PyValue.isText]
      | float value =>
          cases read
          simp [PyValue.isText]
      | str text =>
          cases read
          simp [PyValue.isText]
      | list items => exact absurd (.inl ⟨items, rfl⟩) plain
      | tuple items => exact absurd (.inr (.inl ⟨items, rfl⟩)) plain
      | dict entries => exact absurd (.inr (.inr ⟨entries, rfl⟩)) plain
      | object => cases read

theorem sameRead_symbol {events : List PyEvent} {rows : List Row}
    (held : List.Forall₂ (fun event row => Holds formats event row ∧
      PlainSymbol event.data) events rows) (symbol : String) :
    SameRead (readEventsBySymbol formats rows symbol) (eventsOfSymbol symbol events) := by
  have plain : ∀ event ∈ events, PlainSymbol event.data := by
    intro event member
    clear symbol
    induction held with
    | nil => cases member
    | cons one rest induction =>
        rcases List.mem_cons.mp member with rfl | later
        · exact one.2
        · exact induction later
  rw [eventsOfSymbol_eq plain]
  have filtered : List.Forall₂ (fun event row => Holds formats event row ∧
      PlainSymbol event.data) (events.filter (symbolIs symbol))
      (rows.filter fun row => decide (formats.jsonExtract row.payload = .text symbol)) := by
    refine List.rel_filter ?_ held
    intro event row one
    dsimp only
    rw [decide_eq_true_iff, holds_symbol one.1 one.2]
  exact sameRead_rows (filtered.imp fun _ _ one => one.1)

end Reads

section Runs

variable {formats : EventFormats}

/-! ## What a call leaves -/

/-- The event reaches the table. -/
def Writes (formats : EventFormats) (event : PyEvent) (insertFails : Bool) : Prop :=
  ∃ text payload, event.type = .str text ∧ formats.dumps event.data = .ok payload ∧
    formats.accepted payload = true ∧ insertFails = false

def Kept (formats : EventFormats) (taken : Call × Bool) : Prop :=
  ∃ event, taken.1.event = .ok event ∧ Writes formats event taken.2

def Plain (taken : Call × Bool) : Prop :=
  ∃ event, taken.1.event = .ok event ∧ PlainSymbol event.data

/-- A row that was written of an event. -/
structure Written (formats : EventFormats) (event : PyEvent) (insertFails : Bool)
    (row : Row) : Prop where
  payload : formats.dumps event.data = .ok row.payload
  accepted : formats.accepted row.payload = true
  inserted : insertFails = false
  column : columnText formats event.type = .ok (some row.eventType)

/-- The event of a call, and the row that it leaves if it leaves one. -/
structure Left (formats : EventFormats) (taken : Call × Bool)
    (left : PyEvent × Option Row) : Prop where
  event : taken.1.event = .ok left.1
  written : ∀ row, left.2 = some row → Written formats left.1 taken.2 row
  lost : left.2 = none → ¬ Writes formats left.1 taken.2

/-- A write adds the event's row or none. -/
theorem writeEvent_left {insertFails : Bool} {rows : List Row} {event : PyEvent}
    {botId : Option String} {written : List Row × Bool}
    (returned : writeEvent formats insertFails rows event botId = .ok written) :
    ∃ added : Option Row, written.1 = rows ++ added.toList ∧
      (∀ row, added = some row → Written formats event insertFails row) ∧
      (added = none → ¬ Writes formats event insertFails) := by
  have lost : (¬ Writes formats event insertFails) → written.1 = rows →
      ∃ added : Option Row, written.1 = rows ++ added.toList ∧
        (∀ row, added = some row → Written formats event insertFails row) ∧
        (added = none → ¬ Writes formats event insertFails) := by
    intro fails same
    refine ⟨none, ?_, fun _ found => (nomatch found), fun _ => fails⟩
    rw [same]
    exact (List.append_nil rows).symm
  unfold writeEvent at returned
  split at returned
  next unserialised =>
    cases returned
    refine lost ?_ rfl
    rintro ⟨text, payload, _, dumped, _⟩
    rw [unserialised] at dumped
    cases dumped
  next unserialised =>
    cases returned
    refine lost ?_ rfl
    rintro ⟨text, payload, _, dumped, _⟩
    rw [unserialised] at dumped
    cases dumped
  · cases returned
  next payload dumped =>
    obtain ⟨column, bound, returned⟩ := Outcome.bind_eq_ok.mp returned
    cases column with
    | none =>
        cases returned
        refine lost ?_ rfl
        rintro ⟨text, _, type, _⟩
        rw [type] at bound
        cases bound
    | some eventType =>
        dsimp only at returned
        split at returned
        next refused =>
          cases returned
          refine lost ?_ rfl
          rintro ⟨text, other, _, dumpedToo, accepted, inserted⟩
          rw [dumped] at dumpedToo
          cases dumpedToo
          rw [accepted, inserted] at refused
          cases refused
        next taken =>
          cases returned
          rw [Bool.or_eq_true, Bool.not_eq_true', not_or, Bool.not_eq_true,
            Bool.not_eq_false] at taken
          refine ⟨some { eventType, payload, botId }, rfl, ?_, fun found => (nomatch found)⟩
          intro row same
          cases same
          exact
            { payload := dumped
              accepted := taken.2
              inserted := taken.1
              column := bound }

theorem append_persistent {insertFails : Bool} {store next : EventStore} {event : PyEvent}
    {rows : List Row} (persistent : store.database = some rows)
    (returned : append formats insertFails store event = .ok next) :
    ∃ added : Option Row, next.database = some (rows ++ added.toList) ∧
      (∀ row, added = some row → Written formats event insertFails row) ∧
      (added = none → ¬ Writes formats event insertFails) := by
  unfold append at returned
  rw [persistent] at returned
  dsimp only at returned
  obtain ⟨botId, _, returned⟩ := Outcome.bind_eq_ok.mp returned
  obtain ⟨result, wrote, finish⟩ := Outcome.bind_eq_ok.mp returned
  cases finish
  obtain ⟨added, same, facts⟩ := writeEvent_left wrote
  exact ⟨added, congrArg some same, facts⟩

theorem run_persistent {store finish : EventStore} {rows : List Row}
    (persistent : store.database = some rows) {calls : List (Call × Bool)}
    (returned : run formats store calls = .ok finish) :
    ∃ left : List (PyEvent × Option Row),
      List.Forall₂ (Left formats) calls left ∧
        finish.database = some (rows ++ left.filterMap Prod.snd) := by
  induction calls generalizing store rows with
  | nil =>
      cases returned
      exact ⟨[], .nil, by rw [persistent, List.filterMap_nil, List.append_nil]⟩
  | cons taken rest induction =>
      unfold run at returned
      rw [List.foldlM_cons] at returned
      obtain ⟨next, first, later⟩ := Outcome.bind_eq_ok.mp returned
      obtain ⟨event, made, appended⟩ := Outcome.bind_eq_ok.mp first
      obtain ⟨added, database, written, lost⟩ := append_persistent persistent appended
      obtain ⟨left, each, found⟩ := induction database later
      refine ⟨(event, added) :: left, .cons ⟨made, written, lost⟩ each, ?_⟩
      rw [found, List.append_assoc]
      cases added with
      | none => rfl
      | some row => rfl

theorem run_memory {store : EventStore} (memory : store.database = none)
    {calls : List (Call × Bool)} {left : List (PyEvent × Option Row)}
    (each : List.Forall₂ (Left formats) calls left)
    (enough : store.events.length + calls.length ≤ store.maxCacheSize) :
    ∃ finish, run formats store calls = .ok finish ∧ finish.database = none ∧
      finish.events = store.events ++ left.map Prod.fst := by
  induction each generalizing store with
  | nil => exact ⟨store, rfl, memory, (List.append_nil _).symm⟩
  | @cons taken one calls left first rest induction =>
      rw [List.length_cons] at enough
      have kept : (store.events ++ [one.1]).rtake store.maxCacheSize =
          store.events ++ [one.1] := by
        have fits : (store.events ++ [one.1]).length ≤ store.maxCacheSize := by
          rw [List.length_append, List.length_singleton]
          omega
        unfold List.rtake
        rw [Nat.sub_eq_zero_of_le fits, List.drop_zero]
      have appended : append formats taken.2 store one.1 =
          .ok { store with events := store.events ++ [one.1] } := by
        unfold append
        rw [memory, kept]
        rfl
      obtain ⟨finish, returned, database, events⟩ :=
        @induction { store with events := store.events ++ [one.1] } memory (by
          change (store.events ++ [one.1]).length + calls.length ≤ store.maxCacheSize
          rw [List.length_append, List.length_singleton]
          omega)
      refine ⟨finish, ?_, database, ?_⟩
      · unfold run
        rw [List.foldlM_cons, first.event]
        change append formats taken.2 store one.1 >>= _ = _
        rw [appended]
        exact returned
      · rw [events, List.append_assoc]
        rfl

/-! ## Rows and events of a run -/

variable {calls : List (Call × Bool)} {left : List (PyEvent × Option Row)}

theorem Written.holds {event : PyEvent} {insertFails : Bool} {row : Row}
    (written : Written formats event insertFails row) {text : String}
    (type : event.type = .str text) : Holds formats event row := by
  have column := written.column
  rw [type] at column
  cases column
  exact
    { type := type
      accepted := written.accepted
      data := formats.loads_dumps written.payload }

theorem Left.holds {taken : Call × Bool} {one : PyEvent × Option Row}
    (left : Left formats taken one) (kept : Kept formats taken) :
    ∃ row, one.2 = some row ∧ Holds formats one.1 row := by
  obtain ⟨event, made, writes⟩ := kept
  rw [left.event] at made
  cases made
  cases found : one.2 with
  | none => exact absurd writes (left.lost found)
  | some row =>
      obtain ⟨text, _, type, _⟩ := writes
      exact ⟨row, rfl, (left.written row found).holds type⟩

theorem held_of_kept (each : List.Forall₂ (Left formats) calls left)
    (kept : ∀ taken ∈ calls, Kept formats taken) :
    List.Forall₂ (Holds formats) (left.map Prod.fst) (left.filterMap Prod.snd) := by
  induction each with
  | nil => exact .nil
  | @cons taken one calls left first rest induction =>
      have others := induction fun other member =>
        kept other (List.mem_cons_of_mem taken member)
      obtain ⟨row, found, holds⟩ := first.holds (kept taken List.mem_cons_self)
      rw [List.map_cons, List.filterMap_cons, found]
      exact .cons holds others

theorem plain_of_kept (each : List.Forall₂ (Left formats) calls left)
    (kept : ∀ taken ∈ calls, Kept formats taken ∧ Plain taken) :
    List.Forall₂ (fun event row => Holds formats event row ∧ PlainSymbol event.data)
      (left.map Prod.fst) (left.filterMap Prod.snd) := by
  induction each with
  | nil => exact .nil
  | @cons taken one calls left first rest induction =>
      have others := induction fun other member =>
        kept other (List.mem_cons_of_mem taken member)
      obtain ⟨holdsKept, event, made, plain⟩ := kept taken List.mem_cons_self
      obtain ⟨row, found, holds⟩ := first.holds holdsKept
      rw [first.event] at made
      cases made
      rw [List.map_cons, List.filterMap_cons, found]
      exact .cons ⟨holds, plain⟩ others

theorem str_of_toJson {value : PyValue} {text : String}
    (read : value.toJson = .ok (.str text)) : value = .str text := by
  cases value with
  | none => cases read
  | bool value => cases read
  | int value => cases read
  | float value => cases read
  | str value =>
      cases read
      rfl
  | list items =>
      obtain ⟨_, _, same⟩ := Outcome.map_eq_ok.mp read
      cases same
  | tuple items =>
      obtain ⟨_, _, same⟩ := Outcome.map_eq_ok.mp read
      cases same
  | dict entries =>
      obtain ⟨_, _, same⟩ := Outcome.map_eq_ok.mp read
      cases same
  | object => cases read

theorem type_of_same {row : Row} {read event : PyEvent}
    (found : readRow formats row = .ok read) (same : SameEvent read event) :
    event.type = .str row.eventType := by
  obtain ⟨json, _, rfl⟩ := Outcome.map_eq_ok.mp found
  obtain ⟨seen, first, second⟩ := same
  unfold PyEvent.toJson at first second
  obtain ⟨type, typed, first⟩ := Outcome.bind_eq_ok.mp first
  obtain ⟨data, _, first⟩ := Outcome.bind_eq_ok.mp first
  obtain ⟨other, otherTyped, second⟩ := Outcome.bind_eq_ok.mp second
  obtain ⟨otherData, _, second⟩ := Outcome.bind_eq_ok.mp second
  cases typed
  cases first
  cases second
  exact str_of_toJson otherTyped

theorem kept_of_same (each : List.Forall₂ (Left formats) calls left)
    (stored : ∀ one ∈ left, one.2.isSome)
    (same : SameRead ((left.filterMap Prod.snd).mapM (readRow formats))
      (.ok (left.map Prod.fst))) : ∀ taken ∈ calls, Kept formats taken := by
  induction each with
  | nil => exact fun _ member => nomatch member
  | @cons taken one calls left first rest induction =>
      obtain ⟨row, found⟩ := Option.isSome_iff_exists.mp (stored one List.mem_cons_self)
      obtain ⟨events, others, read, listed, alike⟩ := same
      rw [List.filterMap_cons, found] at read
      rw [List.map_cons] at listed
      cases listed
      obtain ⟨event, readFirst, read⟩ :=
        Outcome.bind_eq_ok.mp (List.mapM_cons.symm.trans read)
      obtain ⟨later, readRest, finish⟩ := Outcome.bind_eq_ok.mp read
      cases finish
      cases alike with
      | cons sameFirst sameRest =>
          intro taken member
          rcases List.mem_cons.mp member with rfl | rest
          · have written := first.written row found
            exact ⟨one.1, first.event, row.eventType, row.payload,
              type_of_same readFirst sameFirst, written.payload, written.accepted,
              written.inserted⟩
          · exact induction
              (fun one member => stored one (List.mem_cons_of_mem _ member))
              ⟨later, _, readRest, rfl, sameRest⟩ taken rest

theorem readable (each : List.Forall₂ (Left formats) calls left) :
    ∀ row ∈ left.filterMap Prod.snd, ∃ event, readRow formats row = .ok event := by
  intro row member
  obtain ⟨one, listed, found⟩ := List.mem_filterMap.mp member
  clear member
  induction each with
  | nil => cases listed
  | @cons taken other calls left first rest induction =>
      rcases List.mem_cons.mp listed with rfl | later
      · obtain ⟨json, _, loaded⟩ := formats.loads_dumps (first.written row found).payload
        unfold readRow
        rw [loaded]
        exact ⟨_, rfl⟩
      · exact induction later

/-! ## Reads of a run -/

/-- The reads of two stores agree; SQLite binds counts below its largest integer. -/
structure ReadsAgree (formats : EventFormats) (store memory : EventStore) : Prop where
  listed : SameRead (listEvents formats store none) (listEvents formats memory none)
  recent : ∀ count < 2 ^ 63, SameRead (getRecent formats store count)
    (getRecent formats memory count)
  typed : ∀ eventType, ∀ count < 2 ^ 63,
    SameRead (getRecentByType formats store eventType count)
      (getRecentByType formats memory eventType count)

/-- Reads by symbol agree. -/
def SymbolReadsAgree (formats : EventFormats) (store memory : EventStore) : Prop :=
  ∀ symbol, SameRead (listEventsBySymbol formats store symbol)
    (listEventsBySymbol formats memory symbol)

section Reads

variable {store memory : EventStore} {rows : List Row}
  (persistent : store.database = some rows) (cached : memory.database = none)

include persistent cached

theorem readsAgree_of_held (held : List.Forall₂ (Holds formats) memory.events rows) :
    ReadsAgree formats store memory where
  listed := by
    unfold listEvents
    rw [persistent, cached]
    exact sameRead_rows held
  recent := by
    intro count bound
    unfold getRecent readRecentEvents
    rw [persistent, cached]
    split
    · exact ⟨[], [], rfl, rfl, .nil⟩
    next positive =>
      dsimp only
      rw [bindInt_count positive bound]
      exact sameRead_last held count
  typed := by
    intro eventType count bound
    unfold getRecentByType readRecentEventsByType
    rw [persistent, cached]
    split
    · exact ⟨[], [], rfl, rfl, .nil⟩
    next positive =>
      dsimp only
      rw [bindInt_count positive bound]
      exact sameRead_last (holds_ofType held eventType) count

theorem listed_iff : SameRead (listEvents formats store none)
      (listEvents formats memory none) ↔
    SameRead (rows.mapM (readRow formats)) (.ok memory.events) := by
  unfold listEvents
  rw [persistent, cached]
  rfl

end Reads

/-- After any calls that return, the reads of the persistent store, and of every store
opened on its database later, agree with those in memory exactly when every call was
kept. -/
theorem persistent_reads_agree {size memorySize : ℕ} {opened store : EventStore}
    (fresh : openStore formats [] size = .ok opened)
    (returned : run formats opened calls = .ok store)
    (enough : calls.length ≤ memorySize) :
    ∃ memory rows, run formats (inMemory memorySize) calls = .ok memory ∧
      store.database = some rows ∧
      (∀ again : ℕ, (again : ℤ) < 2 ^ 63 →
        ∃ reopened, openStore formats rows again = .ok reopened) ∧
      ∀ reader,
        reader = store ∨ (∃ again, openStore formats rows again = .ok reader) →
          (ReadsAgree formats reader memory ↔ ∀ taken ∈ calls, Kept formats taken) ∧
            ((∀ taken ∈ calls, Kept formats taken ∧ Plain taken) →
              SymbolReadsAgree formats reader memory) := by
  have start : opened.database = some [] := by
    obtain ⟨_, _, finish⟩ := Outcome.bind_eq_ok.mp fresh
    cases finish
    rfl
  obtain ⟨left, each, database⟩ := run_persistent start returned
  rw [List.nil_append] at database
  have memoryEmpty : (inMemory memorySize).database = none := rfl
  obtain ⟨memory, ran, cached, events⟩ := run_memory memoryEmpty each (by
    change 0 + calls.length ≤ memorySize
    omega)
  change memory.events = left.map Prod.fst at events
  refine ⟨memory, left.filterMap Prod.snd, ran, database, ?_, ?_⟩
  · intro again bound
    have bounded : bindInt again = .ok (again : ℤ) := by
      unfold bindInt
      rw [if_pos]
      omega
    have each : ∀ row ∈ lastRows (left.filterMap Prod.snd) again,
        ∃ event, readRow formats row = .ok event := by
      intro row member
      rw [lastRows_eq] at member
      exact readable each row (List.mem_of_mem_drop member)
    obtain ⟨recent, read⟩ := Outcome.exists_mapM.mpr each
    unfold openStore readRecentEvents
    rw [bounded]
    change ∃ reopened, ((lastRows _ _).mapM _ >>= _) = _
    rw [read]
    exact ⟨_, rfl⟩
  · intro reader which
    have readerRows : reader.database = some (left.filterMap Prod.snd) := by
      rcases which with rfl | ⟨again, reopened⟩
      · exact database
      · obtain ⟨_, _, finish⟩ := Outcome.bind_eq_ok.mp reopened
        cases finish
        rfl
    refine ⟨⟨?_, ?_⟩, ?_⟩
    · intro agree
      have same := (listed_iff readerRows cached).mp agree.listed
      rw [events] at same
      refine kept_of_same each ?_ same
      obtain ⟨stored, others, read, listed, alike⟩ := same
      cases listed
      have rowsRead := (Outcome.mapM_eq_ok.mp read).length_eq
      have eventsRead := alike.length_eq
      rw [List.length_map] at eventsRead
      exact List.filterMap_length_eq_length.mp (rowsRead.trans eventsRead)
    · intro kept
      refine readsAgree_of_held readerRows cached ?_
      rw [events]
      exact held_of_kept each kept
    · intro kept symbol
      unfold listEventsBySymbol
      rw [readerRows, cached, events]
      exact sameRead_symbol (plain_of_kept each kept) symbol

/-! ## A trade that is kept and one that is lost -/

section Example

def tradeSpelling : Spelling Json where
  entries := [("\x7b\"symbol\": \"BTC-USD\"\x7d", .obj [("symbol", .str "BTC-USD")])]
  nodup := List.nodup_singleton _
  unmarked := by decide

/-- Formats that spell the payload of a trade; every text is accepted. -/
def tradeFormats : EventFormats where
  str := fun
    | .str text => text
    | _ => ""
  dumps := fun value => value.toJson.map tradeSpelling.toText
  loads := fun text =>
    match tradeSpelling.ofText text with
    | some json => .ok json
    | none => .error .valueError
  realText := fun _ => ""
  accepted := fun _ => true
  jsonExtract := fun text =>
    match tradeSpelling.ofText text with
    | some json => symbolValue tradeSpelling.toText json
    | none => .null
  render := tradeSpelling.toText
  loads_dumps := by
    intro value text dumped
    obtain ⟨json, read, rfl⟩ := Outcome.map_eq_ok.mp dumped
    refine ⟨json, read, ?_⟩
    rw [tradeSpelling.ofText_toText]
  extract_symbol := by
    intro text json _ loaded
    split at loaded
    · cases loaded
      rfl
    · cases loaded

def plainTrade : Call × Bool :=
  (.append (.str "trade") (dictOf [("symbol", .str "BTC-USD")]), false)

/-- A trade with a `Decimal` among its payload. -/
def decimalTrade : Call × Bool :=
  (.append (.str "trade") (dictOf [("symbol", .str "BTC-USD"), ("price", .object)]), false)

def newStore : EventStore :=
  { maxCacheSize := 10, events := [], database := some [] }

/-- The row of a trade is read by the store and by one that is opened later. -/
theorem plainTrade_read_back :
    ∃ store memory reopened,
      run tradeFormats newStore [plainTrade] = .ok store ∧
        run tradeFormats (inMemory 10) [plainTrade] = .ok memory ∧
        store.database = some [{
          eventType := "trade"
          payload := "\x7b\"symbol\": \"BTC-USD\"\x7d"
          botId := none }] ∧
        openStore tradeFormats (store.database.getD []) 10 = .ok reopened ∧
        ReadsAgree tradeFormats reopened memory ∧
        SymbolReadsAgree tradeFormats reopened memory := by
  have kept : ∀ taken ∈ [plainTrade], Kept tradeFormats taken ∧ Plain taken := by
    intro taken member
    rw [List.mem_singleton.mp member]
    refine ⟨⟨_, rfl, "trade", _, rfl, rfl, rfl, rfl⟩, _, rfl, _, rfl, ?_⟩
    intro value found
    cases found
    rintro (⟨items, same⟩ | ⟨items, same⟩ | ⟨entries, same⟩)
    · cases same
    · cases same
    · cases same
  obtain ⟨memory, rows, ran, database, reopens, agree⟩ :=
    @persistent_reads_agree tradeFormats [plainTrade] 10 10 newStore _ rfl rfl (by decide)
  obtain ⟨reopened, opens⟩ := reopens 10 (by decide)
  obtain ⟨reads, symbols⟩ := agree reopened (.inr ⟨10, opens⟩)
  cases database
  exact ⟨_, memory, reopened, rfl, ran, rfl, opens,
    reads.mpr fun taken member => (kept taken member).1, symbols kept⟩

/-- The write of a trade with a `Decimal` fails: the call returns, and the persistent
store lists no event where the store in memory lists one. -/
theorem decimalTrade_lost :
    ∃ store memory event,
      run tradeFormats newStore [decimalTrade] = .ok store ∧
        run tradeFormats (inMemory 10) [decimalTrade] = .ok memory ∧
        listEvents tradeFormats store none = .ok [] ∧
        listEvents tradeFormats memory none = .ok [event] ∧
        ¬ ReadsAgree tradeFormats store memory := by
  refine ⟨{ newStore with events := [_] }, { inMemory 10 with events := [_] }, _, rfl, rfl,
    rfl, rfl, ?_⟩
  intro agree
  obtain ⟨events, others, read, listed, alike⟩ := agree.listed
  cases read
  cases listed
  cases alike

end Example

end Runs

end Events

end GptTrader
