import Mathlib.Data.List.Chain
import Mathlib.Logic.Relation
import GptTrader.TradeIdeas.AutonomyReading

/-!
# How the autonomy log grows

An operation appends an entry for one of three reasons: it seeds an empty log,
it lowers the level as the system, or it makes a change that the transition
policy allows.  In a log grown so from a readable one only a human raises the
level.
-/

namespace GptTrader

namespace AutonomyLog

variable {formats : TextFormats} {lines grown : List StoredLine}
variable {entries : List AutonomyStateEntry} {entry : AutonomyStateEntry}

theorem current_eq_ok {found : Option AutonomyStateEntry} :
    current formats lines = .ok found ↔
      ∃ entries, history formats lines = .ok entries ∧
        entries.getLast? = found :=
  Outcome.map_eq_ok

theorem Contiguous.last_version (contiguous : Contiguous formats lines entries) :
    (entries.getLast?.map AutonomyStateEntry.version).getD 0 =
      (entries.length : ℤ) := by
  induction contiguous with
  | nil => rfl
  | blank earlier induction => exact induction
  | entry earlier decoded next induction =>
      simp [next]

theorem append_eq_ok :
    append formats lines entry = .ok grown ↔
      ∃ entries, history formats lines = .ok entries ∧
        entry.version = (entries.length + 1 : ℕ) ∧
        grown = lines ++ [.json (entry.toDict formats)] := by
  unfold append
  rw [Outcome.bind_eq_ok]
  constructor
  · rintro ⟨found, read, accepted⟩
    obtain ⟨entries, history, rfl⟩ := current_eq_ok.mp read
    rw [Outcome.branch_eq_ok] at accepted
    obtain ⟨version, returned⟩ := accepted
    rw [(history_iff_contiguous.mp history).last_version] at version
    cases returned
    exact ⟨entries, history, by push_cast; exact version, rfl⟩
  · rintro ⟨entries, history, version, rfl⟩
    refine ⟨entries.getLast?, current_eq_ok.mpr ⟨entries, history, rfl⟩, ?_⟩
    rw [Outcome.branch_eq_ok, (history_iff_contiguous.mp history).last_version]
    exact ⟨by push_cast at version; exact version, rfl⟩

theorem history_append (appended : append formats lines entry = .ok grown)
    (read : history formats lines = .ok entries) :
    history formats grown = .ok (entries ++ [entry]) := by
  obtain ⟨others, history, version, rfl⟩ := append_eq_ok.mp appended
  obtain rfl : others = entries := Except.ok.inj (history.symm.trans read)
  exact history_iff_contiguous.mpr
    (.entry (history_iff_contiguous.mp history)
      (AutonomyStateEntry.fromDict_toDict formats entry) version)

/-- Why an operation appends an entry. -/
inductive Justified (formats : TextFormats) (lines : List StoredLine)
    (entry : AutonomyStateEntry) : Prop where
  | seed (empty : current formats lines = .ok none)
      (system : entry.actorType = .system)
      (default : entry.mode = defaultAutonomyMode)
  | ratchet {active : AutonomyStateEntry}
      (read : current formats lines = .ok (some active))
      (lower : entry.mode.rank < active.mode.rank)
      (system : entry.actorType = .system)
      (actor : entry.actorId = .str ratchetActorId)
  | change {active : AutonomyStateEntry}
      (read : current formats lines = .ok (some active))
      (allowed : autonomyTransitionViolations active.mode entry.mode
        entry.actorType = [])

/-- The log grew by one entry. -/
def Grows (formats : TextFormats) (lines grown : List StoredLine) : Prop :=
  ∃ entry, append formats lines entry = .ok grown ∧
    Justified formats lines entry

/-- Only a person raises the mode. -/
def Lowers (before entry : AutonomyStateEntry) : Prop :=
  entry.actorType ≠ .human → entry.mode.rank < before.mode.rank

def Disciplined (entries : List AutonomyStateEntry) : Prop :=
  entries.IsChain Lowers

theorem disciplined_snoc :
    Disciplined (entries ++ [entry]) ↔
      Disciplined entries ∧ ∀ before ∈ entries.getLast?, Lowers before entry := by
  unfold Disciplined
  rw [List.isChain_append]
  simp

theorem disciplined_append {later : List AutonomyStateEntry}
    (added : Disciplined (entries.getLast?.toList ++ later)) :
    Disciplined (entries ++ later) ↔ Disciplined entries := by
  constructor
  · exact List.IsChain.left_of_append
  · intro disciplined
    rcases List.eq_nil_or_concat entries with rfl | ⟨earlier, last, rfl⟩
    · exact added
    · have joined := List.isChain_append.mp added
      simp only [List.concat_eq_append, List.getLast?_append, List.getLast?_singleton,
        Option.some_or, Option.toList_some] at joined
      refine List.isChain_append.mpr ⟨disciplined, joined.2.1, ?_⟩
      simpa using joined.2.2

theorem Justified.lowers (justified : Justified formats lines entry)
    (read : history formats lines = .ok entries)
    {before : AutonomyStateEntry} (last : before ∈ entries.getLast?) :
    Lowers before entry := by
  intro machine
  have found : current formats lines = .ok (some before) :=
    current_eq_ok.mpr ⟨entries, read, last⟩
  cases justified with
  | seed empty system default =>
      rw [found] at empty
      cases empty
  | ratchet active lower system actor =>
      rw [found] at active
      cases active
      exact lower
  | change active allowed =>
      rw [found] at active
      cases active
      rcases autonomyTransitionViolations_eq_nil.mp allowed with lower | human
      · exact lower
      · exact absurd human machine

theorem Grows.history (grows : Grows formats lines grown)
    (read : history formats lines = .ok entries) :
    ∃ entry, AutonomyLog.history formats grown = .ok (entries ++ [entry]) ∧
      ∀ before ∈ entries.getLast?, Lowers before entry := by
  obtain ⟨entry, appended, justified⟩ := grows
  exact ⟨entry, history_append appended read, fun before last =>
    justified.lowers read last⟩

theorem getLast?_since {later : List AutonomyStateEntry} :
    (entries.getLast?.toList ++ later).getLast? =
      (entries ++ later).getLast? := by
  rcases List.eq_nil_or_concat entries with rfl | ⟨earlier, last, rfl⟩
  · rfl
  · simp [List.getLast?_append, List.getLast?_cons]

theorem history_of_grows (runs : Relation.ReflTransGen (Grows formats) lines grown)
    (read : history formats lines = .ok entries) :
    ∃ later, AutonomyLog.history formats grown = .ok (entries ++ later) ∧
      Disciplined (entries.getLast?.toList ++ later) := by
  induction runs with
  | refl =>
      refine ⟨[], by simpa using read, ?_⟩
      cases entries.getLast? with
      | none => exact .nil
      | some last => exact .singleton last
  | tail _ grows induction =>
      obtain ⟨later, reached, disciplined⟩ := induction
      obtain ⟨entry, next, lowers⟩ := grows.history reached
      refine ⟨later ++ [entry], by simpa using next, ?_⟩
      rw [← List.append_assoc, disciplined_snoc, getLast?_since]
      exact ⟨disciplined, lowers⟩

theorem Disciplined.bounded {earlier later : List AutonomyStateEntry}
    (disciplined : Disciplined (earlier ++ entry :: later))
    (machine : ∀ other ∈ later, other.actorType ≠ .human) :
    ∀ last ∈ (entry :: later).getLast?, last.mode.rank ≤ entry.mode.rank := by
  have chained : Disciplined (entry :: later) :=
    List.IsChain.right_of_append disciplined
  clear disciplined
  induction later generalizing entry with
  | nil =>
      intro last found
      obtain rfl : entry = last := by simpa using found
      exact le_rfl
  | cons next rest induction =>
      intro last found
      obtain ⟨lowers, remaining⟩ := List.isChain_cons_cons.mp chained
      have lower := lowers (machine next (by simp))
      have below := induction (fun other member => machine other (by simp [member]))
        remaining last (by simpa using found)
      omega

theorem resolveAutonomy_of_history (read : history formats lines = .ok entries) :
    resolveAutonomy formats lines =
      match entries.getLast? with
      | none =>
          .ok
            { mode := defaultAutonomyMode
              version := none
              source := .seededDefault
              error := none }
      | some entry =>
          .ok
            { mode := entry.mode
              version := some entry.version
              source := .log
              error := none } := by
  have found : current formats lines = .ok entries.getLast? :=
    current_eq_ok.mpr ⟨entries, read, rfl⟩
  unfold resolveAutonomy
  rw [found]
  cases entries.getLast? <;> rfl

end AutonomyLog

end GptTrader
