import GptTrader.Persistence.OrderGrowth
import GptTrader.Persistence.OrdersStore

/-!
# Stored rows

What writing a record keeps of it, and the one row of a client identifier: an
update under the venue's identifier replaces it and touches no other row.
-/

namespace GptTrader

section Checksums

variable {context : OrdersContext} {record row : OrderRecord}
variable {checksum : String}

theorem ofRow_spelled (row : OrderRecord) :
    (OrderRecord.ofRow row).timeInForce ≠ "" := by
  unfold OrderRecord.ofRow
  dsimp only
  split
  · decide
  · assumption

theorem ofRow_of_spelled (spelled : record.timeInForce ≠ "") :
    OrderRecord.ofRow record = record := by
  unfold OrderRecord.ofRow
  rw [if_neg spelled]

theorem metadata_written {key : String} {value : Json}
    (found : record.facts.get? key = some value) :
    record.metadata.filter (fun metadata => !metadata.entries.isEmpty) =
      record.metadata := by
  cases present : record.metadata with
  | none => rfl
  | some metadata =>
      have nonempty : metadata.entries ≠ [] := by
        intro empty
        simp [OrderRecord.facts, present, Dict.get?, empty] at found
      simp [Option.filter, nonempty]

theorem checksumVersion_stored (record : OrderRecord) (checksum : String) :
    (record.stored checksum).checksumVersion = record.checksumVersion := by
  unfold OrderRecord.checksumVersion
  rw [stored_facts]

theorem computeChecksum_stored (record : OrderRecord) (checksum : String) :
    (record.stored checksum).computeChecksum context =
      record.computeChecksum context := by
  unfold OrderRecord.computeChecksum
  rw [checksumVersion_stored]
  by_cases full : record.checksumVersion = .int 2
  · have versioned : record.facts.get? "record_checksum_version" =
        some (.int 2) := by
      unfold OrderRecord.checksumVersion at full
      cases found : record.facts.get? "record_checksum_version" with
      | none => simp [found] at full
      | some version => simpa [found] using full
    rw [if_pos full, if_pos full]
    simp only [OrderRecord.stored, nonzero_nonzero, metadata_written versioned]
  · rw [if_neg full, if_neg full]
    simp only [OrderRecord.stored, nonzero_nonzero]

theorem checksumIsValid_of_computed (nonempty : checksum ≠ "")
    (computed : record.computeChecksum context = .ok checksum)
    (bound : record.intent?.isSome = true →
      record.checksumVersion = .int 2) :
    (record.stored checksum).checksumIsValid context = true := by
  have versioned : record.checksumVersion = .int 1 ∨
      record.checksumVersion = .int 2 := by
    unfold OrderRecord.computeChecksum at computed
    split at computed
    · next full => exact .inr full
    · exact .inl (Outcome.branch_eq_ok.mp computed).1
  have intent : (record.stored checksum).intent? = record.intent? := by
    unfold OrderRecord.intent?
    rw [stored_facts]
  have written : (record.stored checksum).checksum = some checksum := rfl
  unfold OrderRecord.checksumIsValid
  rw [computeChecksum_stored, checksumVersion_stored, intent, computed,
    if_pos versioned, if_neg fun conflict => conflict.2 (bound conflict.1),
    written]
  dsimp only
  rw [if_neg nonempty]
  exact decide_eq_true rfl

theorem exists_checksum (digest : ∀ payload, context.digest payload ≠ "")
    (checked : row.checksumIsValid context = true)
    (facts : record.facts = row.facts) :
    ∃ checksum, record.computeChecksum context = .ok checksum ∧
      (record.stored checksum).checksumIsValid context = true := by
  have version : record.checksumVersion = row.checksumVersion := by
    unfold OrderRecord.checksumVersion
    rw [facts]
  have intent : record.intent? = row.intent? := by
    unfold OrderRecord.intent?
    rw [facts]
  unfold OrderRecord.checksumIsValid at checked
  split at checked
  · next versioned =>
      split at checked
      · cases checked
      · next unbound =>
          have bound : record.intent?.isSome = true →
              record.checksumVersion = .int 2 := by
            rw [intent, version]
            intro carried
            by_contra other
            exact unbound ⟨carried, other⟩
          obtain ⟨checksum, nonempty, computed⟩ : ∃ checksum, checksum ≠ "" ∧
              record.computeChecksum context = .ok checksum := by
            unfold OrderRecord.computeChecksum
            rw [version]
            rcases versioned with short | full
            · rw [if_neg (by simp [short]), if_pos short]
              exact ⟨_, digest _, rfl⟩
            · rw [if_pos full]
              exact ⟨_, digest _, rfl⟩
          exact ⟨checksum, computed,
            checksumIsValid_of_computed nonempty computed bound⟩
  · cases checked

end Checksums

/-- The client identifier has one row, and no other row the venue's. -/
structure OnlyRow (clientId venueId : String) (row : OrderRecord)
    (database : OrdersDatabase) : Prop where
  row : database.rowsOfClient clientId = [row]
  sole : ∀ other ∈ database.orders.rows, other.orderId = venueId →
    other.clientOrderId = clientId

namespace OnlyRow

variable {context : OrdersContext} {clientId venueId : String}
variable {row record : OrderRecord} {database changed : OrdersDatabase}

section

variable (sole : OnlyRow clientId venueId row database)

include sole

theorem stored :
    row ∈ database.orders.rows ∧ row.clientOrderId = clientId := by
  have member : row ∈ database.rowsOfClient clientId := by
    rw [sole.row]
    exact List.mem_singleton_self row
  rw [OrdersDatabase.rowsOfClient, List.mem_filter, decide_eq_true_eq]
    at member
  exact member

theorem eq {other : OrderRecord} (stored : other ∈ database.orders.rows)
    (client : other.clientOrderId = clientId) : other = row := by
  have member : other ∈ database.rowsOfClient clientId := by
    rw [OrdersDatabase.rowsOfClient, List.mem_filter]
    exact ⟨stored, by simpa using client⟩
  rw [sole.row] at member
  exact List.mem_singleton.mp member

theorem of_orders (orders : changed.orders = database.orders) :
    OnlyRow clientId venueId row changed := by
  refine ⟨?_, ?_⟩
  · unfold OrdersDatabase.rowsOfClient
    rw [orders]
    exact sole.row
  · rw [orders]
    exact sole.sole

end

/-- Writing the row of a client identifier under the venue's identifier. -/
theorem upsert (record : OrderRecord)
    (sole : OnlyRow clientId venueId row database)
    (client : record.clientOrderId = clientId)
    (venue : record.orderId = venueId)
    (created : record.createdAt = row.createdAt) :
    ∃ changed, database.upsert record = .ok changed ∧
      OnlyRow clientId venueId record changed := by
  have written : OrdersDatabase.updateColumns record row = record := by
    unfold OrdersDatabase.updateColumns
    rw [sole.stored.2, ← client, ← created]
  let change := fun old : OrderRecord =>
    if decide (old.clientOrderId = record.clientOrderId) = true then
      OrdersDatabase.updateColumns record old
    else old
  have keeps : ∀ old, (change old).clientOrderId = old.clientOrderId := by
    intro old
    dsimp only [change]
    split <;> rfl
  have selected : ∀ old ∈ database.orders.rows,
      old.clientOrderId = clientId → old = row ∧ change old = record := by
    intro old stored same
    have equal := sole.eq stored same
    refine ⟨equal, ?_⟩
    dsimp only [change]
    rw [if_pos (by simp [same, client]), equal, written]
  have others : ∀ old, old.clientOrderId ≠ clientId → change old = old := by
    intro old different
    dsimp only [change]
    rw [if_neg (by simp [client, different])]
  have unique :
      ((database.orders.rows.map change).map OrderRecord.orderId).Nodup := by
    rw [List.map_map]
    refine List.Nodup.map_on ?_ database.orders.unique.of_map
    intro left leftStored right rightStored same
    simp only [Function.comp_apply] at same
    by_cases leftClient : left.clientOrderId = clientId
    · by_cases rightClient : right.clientOrderId = clientId
      · rw [(selected left leftStored leftClient).1,
          (selected right rightStored rightClient).1]
      · rw [(selected left leftStored leftClient).2, others right rightClient,
          venue] at same
        exact absurd (sole.sole right rightStored same.symm) rightClient
    · by_cases rightClient : right.clientOrderId = clientId
      · rw [(selected right rightStored rightClient).2, others left leftClient,
          venue] at same
        exact absurd (sole.sole left leftStored same) leftClient
      · rw [others left leftClient, others right rightClient] at same
        exact database.orders.eq_of_key_eq leftStored rightStored same
  refine ⟨{ database with
    orders := { rows := database.orders.rows.map change, unique := unique } },
    ?_, ?_, ?_⟩
  · have present : (database.rowsOfClient record.clientOrderId).isEmpty =
        false := by
      rw [client, sole.row]
      rfl
    unfold OrdersDatabase.upsert
    rw [present]
    simp only [Bool.false_eq_true, if_false]
    unfold Table.update
    rw [dif_pos unique]
  · unfold OrdersDatabase.rowsOfClient
    dsimp only
    rw [List.filter_map]
    have same : ((fun old : OrderRecord =>
        decide (old.clientOrderId = clientId)) ∘ change) =
          fun old => decide (old.clientOrderId = clientId) := by
      funext old
      simp only [Function.comp_apply, keeps]
    rw [same]
    have rows := sole.row
    unfold OrdersDatabase.rowsOfClient at rows
    rw [rows, List.map_singleton,
      (selected row sole.stored.1 sole.stored.2).2]
  · intro other stored known
    obtain ⟨old, member, rfl⟩ := List.mem_map.mp stored
    rw [keeps]
    by_contra different
    rw [others old different] at known
    exact different (sole.sole old member known)

section

variable (sole : OnlyRow clientId venueId row database)

include sole

theorem getOrder_of_known (known : row.orderId = venueId) :
    database.getOrder venueId = some (OrderRecord.ofRow row) := by
  unfold OrdersDatabase.getOrder
  rw [Table.find?_eq_some_iff.mpr ⟨sole.stored.1, known⟩]
  rfl

theorem getOrder_of_unknown (unknown : row.orderId ≠ venueId) :
    database.getOrder venueId = none := by
  unfold OrdersDatabase.getOrder
  rw [Option.map_eq_none_iff, Table.find?_eq_none_iff]
  intro other stored known
  rw [sole.eq stored (sole.sole other stored known)] at known
  exact unknown known

theorem getOrderByClientOrderId
    (checked : (OrderRecord.ofRow row).checksumIsValid context = true) :
    database.getOrderByClientOrderId context clientId =
      .ok (some (OrderRecord.ofRow row)) := by
  unfold OrdersDatabase.getOrderByClientOrderId OrdersDatabase.clientRow
  rw [sole.row]
  change (if (OrderRecord.ofRow row).checksumIsValid context then _ else _) = _
  rw [checked]
  rfl

end

end OnlyRow

end GptTrader
