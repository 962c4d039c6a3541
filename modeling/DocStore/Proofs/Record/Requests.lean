import DocStore.Proofs.Outcome
import DocStore.Proofs.Store.Access
import DocStore.Record.Basic

/-!
# Requests for records

The operations on records of a type as data. Each of them comes down to a request for
documents of their entity: it does to the store what this request does, and it fails where this
request fails. It can also fail afterwards, when the answer cannot be read as records.
-/

namespace DocStore

/-- An operation on the records of a type. -/
inductive RecordRequest (R : Type) where
  /-- Store a record. -/
  | insert (record : R)
  /-- Store a record that shares no unique value. -/
  | insertUnique (record : R)
  /-- Return records. -/
  | select (filter : Filter) (options : Selection)
  /-- Return the first record. -/
  | first (filter : Filter)
  /-- Count records. -/
  | count (filter : Filter)
  /-- Change records. -/
  | update (filter : Filter) (patch : Patch) (options : UpdateMode)
  /-- Remove records. -/
  | remove (filter : Filter)
  /-- Return a page of records. -/
  | page (filter : Filter) (order : Option SortOrder) (request : PageRequest)

/-- What a request for records returns. -/
inductive RecordAnswer (R : Type) where
  /-- The record as it was stored. -/
  | stored (record : R)
  /-- The records returned, changed or removed. -/
  | records (records : List R)
  /-- The first record, if there is one. -/
  | first (record : Option R)
  /-- The number of records. -/
  | count (n : UInt64)
  /-- A page of records. -/
  | page (page : Page R)

/-- What fails for documents fails in the same way where the documents would be read as records. -/
theorem RecordType.fst_map_read_of_error {α β γ δ : Type} (reader : α → Outcome β)
    {outcome : Outcome α × Store} {plain : α → γ} {typed : β → δ} {e : Failure}
    (hfails : (outcome.map (·.map plain) id).1 = .error e) :
    ((RecordType.read reader outcome).map (·.map typed) id).1 = .error e := by
  have houtcome : outcome.1 = .error e := Outcome.map_eq_error_iff.mp hfails
  simp only [RecordType.read, Prod.map, houtcome]
  rfl

namespace RecordRequest

variable {R : Type}

/-- Carry out a request. -/
def perform (request : RecordRequest R) (type : RecordType R) (store : Store) (now : Instant) :
    Outcome (RecordAnswer R) × Store :=
  match request with
  | insert record => (type.insert store now record).map (·.map .stored) id
  | insertUnique record => (type.insertUnique store now record).map (·.map .stored) id
  | select filter options => (type.select store now filter options).map (·.map .records) id
  | first filter => (type.first store now filter).map (·.map .first) id
  | count filter => (type.count store now filter).map (fun n => .ok (.count n)) id
  | update filter patch options =>
      (type.update store now filter patch options).map (·.map .records) id
  | remove filter => (type.remove store now filter).map (·.map .records) id
  | page filter order request => (type.page store now filter order request).map (·.map .page) id

/-- The request for documents that a request for records comes down to, unless it has a record
that is not written as a document. -/
def onDocuments (request : RecordRequest R) (type : RecordType R) : Outcome Request :=
  match request with
  | insert record => (type.toDocument record).map .insert
  | insertUnique record => (type.toDocument record).map .insertUnique
  | select filter options => .ok (.select filter options)
  | first filter => .ok (.first filter)
  | count filter => .ok (.count filter)
  | update filter patch options => .ok (.update filter patch options)
  | remove filter => .ok (.remove filter)
  | page filter order request => .ok (.page filter order request)

variable {type : RecordType R} {store : Store} {now : Instant}

/-- Without a document the store is not reached. -/
theorem perform_of_onDocuments_error {request : RecordRequest R} {e : Failure}
    (hplain : request.onDocuments type = .error e) :
    request.perform type store now = (.error e, store) := by
  cases request with
  | insert record | insertUnique record =>
      have hrecord := Outcome.map_eq_error_iff.mp hplain
      simp only [perform, RecordType.insert, RecordType.insertUnique, hrecord]
      rfl
  | _ => cases hplain

theorem snd_perform {request : RecordRequest R} {plain : Request}
    (hplain : request.onDocuments type = .ok plain) :
    (request.perform type store now).2 = (plain.perform type.entity store now).2 := by
  cases request with
  | insert record | insertUnique record =>
      obtain ⟨d, hrecord, rfl⟩ := Outcome.map_eq_ok_iff.mp hplain
      simp only [perform, RecordType.insert, RecordType.insertUnique, hrecord]
      rfl
  | _ =>
      cases hplain
      rfl

/-- What fails for documents fails for records, with the same error. -/
theorem fst_perform_of_error {request : RecordRequest R} {plain : Request} {e : Failure}
    (hplain : request.onDocuments type = .ok plain)
    (hfails : (plain.perform type.entity store now).1 = .error e) :
    (request.perform type store now).1 = .error e := by
  cases request with
  | insert record | insertUnique record =>
      obtain ⟨d, hrecord, rfl⟩ := Outcome.map_eq_ok_iff.mp hplain
      simp only [perform, RecordType.insert, RecordType.insertUnique, hrecord]
      exact RecordType.fst_map_read_of_error _ hfails
  | count filter | remove filter =>
      cases hplain
      cases hfails
  | _ =>
      cases hplain
      exact RecordType.fst_map_read_of_error _ hfails

end RecordRequest

end DocStore
