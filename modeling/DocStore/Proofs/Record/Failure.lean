import DocStore.Proofs.Database.Steps
import DocStore.Proofs.Record.Requests
import DocStore.Proofs.Store.Failure
import DocStore.Record.Item

/-!
# Operations that fail

An operation that fails leaves the documents of every entity as they were, with two
exceptions. An update that halts has patched the documents before the one it halts at. A write
of records whose answer cannot be read as records has been carried out all the same.
-/

namespace DocStore

/-! ## Requests for documents -/

namespace Entity

variable {entity : Entity} {store : Store} {now : Instant} {e : Failure}

theorem insert_fails {d : Document} (hfails : (entity.insert store now d).1 = .error e) :
    store.Intact entity now (entity.insert store now d).2 := by
  unfold insert at hfails ⊢
  cases hprepare : entity.schema.prepare now d with
  | error fault => exact Store.intact_refl
  | ok prepared =>
      rw [hprepare] at hfails
      exact Store.insert_fails hfails

theorem checkUnique_intact (d : Document) :
    store.Intact entity now (entity.checkUnique store now d).2 := by
  rcases entity.checkUnique_snd store now d with hsame | henter
  · rw [hsame]
    exact Store.intact_refl
  · rw [henter]
    exact Store.intact_enter

theorem page_intact (filter : Filter) (order : Option SortOrder) (request : PageRequest) :
    store.Intact entity now (entity.page store now filter order request).2 := by
  rw [snd_page]
  exact Store.intact_enter

theorem insertUnique_fails {d : Document}
    (hfails : (entity.insertUnique store now d).1 = .error e) :
    store.Intact entity now (entity.insertUnique store now d).2 := by
  unfold insertUnique at hfails ⊢
  cases hprepare : entity.schema.prepare now d with
  | error fault => exact Store.intact_refl
  | ok prepared =>
      rw [hprepare] at hfails
      dsimp only at hfails ⊢
      have hintact : store.Intact entity now (entity.checkUnique store now prepared).2 :=
        entity.checkUnique_intact prepared
      have hchecked := entity.checkUnique_snd store now prepared
      generalize entity.checkUnique store now prepared = checked at hfails hintact hchecked ⊢
      obtain ⟨outcome, middle⟩ := checked
      cases outcome with
      | error fault => exact hintact
      | ok _ =>
          -- The check may have been the first use of the entity.
          have hinsert : middle.Intact entity now (middle.insert now entity prepared).2 :=
            Store.insert_fails hfails
          rcases hchecked with rfl | rfl
          · exact hinsert
          · exact hinsert.of_enter

theorem update_fails {filter : Filter} {patch : Patch} {options : UpdateMode}
    (hfails : (entity.update store now filter patch options).1 = .error e) :
    store.Intact entity now (entity.update store now filter patch options).2 ∨
      ∃ checked, entity.schema.checkPatch patch = .ok checked ∧
        store.Halted entity now filter checked e
          (entity.update store now filter patch options).2 := by
  unfold update at hfails ⊢
  cases hcheck : entity.schema.checkPatch patch with
  | error fault => exact .inl Store.intact_refl
  | ok checked =>
      rw [hcheck] at hfails
      exact (Store.update_fails hfails).imp_right fun hhalted => ⟨checked, rfl, hhalted⟩

end Entity

namespace Request

/-- Does a request leave the documents alone? -/
def isRead : Request → Bool
  | checkUnique _ | select _ _ | first _ | count _ | page _ _ _ => true
  | _ => false

variable {entity : Entity} {store : Store} {now : Instant}

theorem perform_intact_of_isRead {request : Request} (hread : request.isRead = true) :
    store.Intact entity now (request.perform entity store now).2 := by
  cases request with
  | checkUnique d => exact entity.checkUnique_intact d
  | select filter options => exact Store.intact_enter
  | first filter => exact Store.intact_enter
  | count filter => exact Store.intact_enter
  | page filter order request => exact entity.page_intact filter order request
  | _ => cases hread

theorem perform_fails {request : Request} {e : Failure}
    (hfails : (request.perform entity store now).1 = .error e) :
    store.Intact entity now (request.perform entity store now).2 ∨
      ∃ filter patch options checked, request = .update filter patch options ∧
        entity.schema.checkPatch patch = .ok checked ∧
        store.Halted entity now filter checked e (request.perform entity store now).2 := by
  cases request with
  | insert d => exact .inl (entity.insert_fails (Outcome.map_eq_error_iff.mp hfails))
  | insertUnique d => exact .inl (entity.insertUnique_fails (Outcome.map_eq_error_iff.mp hfails))
  | update filter patch options =>
      rcases entity.update_fails (Outcome.map_eq_error_iff.mp hfails) with hintact | hhalted
      · exact .inl hintact
      · obtain ⟨checked, hcheck, hhalted⟩ := hhalted
        exact .inr ⟨filter, patch, options, checked, rfl, hcheck, hhalted⟩
  | remove filter => cases hfails
  | _ => exact .inl (perform_intact_of_isRead rfl)

end Request

/-! ## Requests for documents and for records -/

/-- A request for the documents of an entity or for the records of a type. -/
inductive Operation (R : Type) where
  | onDocuments (entity : Entity) (request : Request)
  | onRecords (type : RecordType R) (request : RecordRequest R)

namespace Operation

variable {R : Type}

/-- The entity that an operation works on. -/
def entity : Operation R → Entity
  | onDocuments entity _ => entity
  | onRecords type _ => type.entity

/-- What an operation asks of the documents. -/
def request : Operation R → Outcome Request
  | onDocuments _ request => .ok request
  | onRecords type request => request.onDocuments type

/-- Carry out an operation. -/
def perform (operation : Operation R) (store : Store) (now : Instant) :
    Outcome (Answer ⊕ RecordAnswer R) × Store :=
  match operation with
  | onDocuments entity request => (request.perform entity store now).map (·.map .inl) id
  | onRecords type request => (request.perform type store now).map (·.map .inr) id

/-- An operation that fails, in whatever state, leaves the documents of every entity as they
were, apart from expired ones. Otherwise it is an update that has halted, or a write of records
that has succeeded on the documents. -/
theorem failed_operation_keeps_documents (operation : Operation R) (store : Store)
    (now : Instant) (e : Failure) (hfails : (operation.perform store now).1 = .error e) :
    store.Intact operation.entity now (operation.perform store now).2 ∨
      (∃ filter patch options checked, operation.request = .ok (.update filter patch options) ∧
        operation.entity.schema.checkPatch patch = .ok checked ∧
        store.Halted operation.entity now filter checked e (operation.perform store now).2) ∨
      ∃ type request plain answer, operation = .onRecords type request ∧
        operation.request = .ok plain ∧ plain.isRead = false ∧
        plain.perform type.entity store now = (.ok answer, (operation.perform store now).2) := by
  cases operation with
  | onDocuments entity request =>
      rcases Request.perform_fails (Outcome.map_eq_error_iff.mp hfails) with hintact | hhalted
      · exact .inl hintact
      · obtain ⟨filter, patch, options, checked, rfl, hcheck, hhalted⟩ := hhalted
        exact .inr (.inl ⟨filter, patch, options, checked, rfl, hcheck, hhalted⟩)
  | onRecords type request =>
      have hfails : (request.perform type store now).1 = .error e :=
        Outcome.map_eq_error_iff.mp hfails
      change store.Intact type.entity now (request.perform type store now).2 ∨ _
      dsimp only [entity, Operation.request, perform, Prod.map, id]
      cases hplain : request.onDocuments type with
      | error fault =>
          rw [RecordRequest.perform_of_onDocuments_error hplain]
          exact .inl Store.intact_refl
      | ok plain =>
          rw [RecordRequest.snd_perform hplain]
          cases hanswer : (plain.perform type.entity store now).1 with
          | error fault =>
              have hfault := RecordRequest.fst_perform_of_error hplain hanswer
              obtain rfl : fault = e := Except.error.inj (hfault.symm.trans hfails)
              rcases Request.perform_fails hanswer with hintact | hhalted
              · exact .inl hintact
              · obtain ⟨filter, patch, options, checked, rfl, hcheck, hhalted⟩ := hhalted
                exact .inr (.inl ⟨filter, patch, options, checked, rfl, hcheck, hhalted⟩)
          | ok answer =>
              -- The documents were there; it is the records that could not be made of them.
              cases hread : plain.isRead with
              | true => exact .inl (Request.perform_intact_of_isRead hread)
              | false =>
                  exact .inr (.inr ⟨type, request, plain, answer, rfl, rfl, hread,
                    Prod.ext hanswer rfl⟩)

end Operation

/-! ## Failures that leave traces -/

namespace Store

/-- Accounts with unique addresses. -/
def accounts : Entity where
  name := "accounts"
  schema := OrderedMap.ofList [("mail", { FieldRule.ofType .string with unique := true })]

/-- An account with an address. -/
def account (mail : String) : Document :=
  OrderedMap.ofList [("mail", .string mail)]

/-- A store with two accounts and an item without a year. -/
def collection : Store :=
  empty.afterAll
    [⟨0, accounts, .insert (account "a")⟩, ⟨0, accounts, .insert (account "b")⟩,
      ⟨0, Item.entity, .insert (OrderedMap.ofList [("title", .string "Dune")])⟩]

/-- Give all accounts the same address. -/
def merging : Operation Item :=
  .onDocuments accounts (.update .all ⟨account "c", [], ∅⟩ ⟨false⟩)

/-- Take all items out. -/
def clearing : Operation Item :=
  .onRecords Item.recordType (.remove .all)

/-- The first account has another address, and it has not expired. -/
theorem not_intact_merging : ¬ collection.Intact accounts 0 (merging.perform collection 0).2 := by
  intro hintact
  have hmail : some (Value.string "c") = some (Value.string "a") := by
    rcases hintact.own with hsame | hfiltered
    · exact congrArg (fun table => table.head?.bind fun d => d.get? "mail") hsame
    · exact congrArg (fun table => table.head?.bind fun d => d.get? "mail") hfiltered
  exact absurd (Value.string.inj (Option.some.inj hmail)) (by decide)

/-- The update that gives all accounts one address halts at the second account. -/
theorem failed_operation_keeps_documents_merging :
    (merging.perform collection 0).1 =
        .error (.store (.duplicateKey "accounts" "mail" (.string "c"))) ∧
      ∃ checked, collection.Halted accounts 0 .all checked
        (.store (.duplicateKey "accounts" "mail" (.string "c")))
        (merging.perform collection 0).2 := by
  have hfails : (merging.perform collection 0).1 =
      .error (.store (.duplicateKey "accounts" "mail" (.string "c"))) := rfl
  refine ⟨hfails, ?_⟩
  rcases merging.failed_operation_keeps_documents collection 0 _ hfails with
    hintact | ⟨filter, patch, options, checked, hrequest, _, hhalted⟩ | ⟨_, _, _, _, hrecords, _⟩
  · exact absurd hintact not_intact_merging
  · cases hrequest
    exact ⟨checked, hhalted⟩
  · cases hrecords

/-- The failed update has changed the first account, and the removal that fails for the missing
year has taken the item out. No document has expired. -/
theorem failures_leave_traces :
    ((merging.perform collection 0).1 =
          .error (.store (.duplicateKey "accounts" "mail" (.string "c"))) ∧
        (merging.perform collection 0).2.table "accounts" = [account "c", account "b"] ∧
        ¬ collection.Intact accounts 0 (merging.perform collection 0).2) ∧
      (clearing.perform collection 0).1 = .error (.serialization .unfit) ∧
        (clearing.perform collection 0).2.table "items" = [] ∧
        ¬ collection.Intact Item.entity 0 (clearing.perform collection 0).2 := by
  refine ⟨⟨rfl, rfl, not_intact_merging⟩, rfl, rfl, ?_⟩
  intro hintact
  have hcount : 0 = 1 := by
    rcases hintact.own with hsame | hfiltered
    · exact congrArg List.length hsame
    · exact congrArg List.length hfiltered
  exact absurd hcount (by decide)

end Store

end DocStore
