import CallingAgent.Services.Suppression

/-!
# Opt-out durability — what a suppressing operation leaves behind

Success of an operation does not by itself mean that the number was
recorded: the table has two unique constraints and the insert ignores
conflicts on either. Only the manual add looks again; the two opt-out
writers record nothing when the contact already has a row under another
number.
-/

namespace CallingAgent

open Lib

/-- An operation that is meant to put a number on the do-not-call list. -/
inductive SuppressingOp where
  /-- a webhook whose disposition is a configured opt-out code -/
  | webhookOptOut (contact : ContactId)
  /-- an opt-out detected during an AI conversation -/
  | inConversation (contact : ContactId)
  | manualAdd (raw : String) (reason : Option String)
      (contact : Option ContactId) (actor : String)
  /-- an erasure with `suppress` -/
  | erasure (subject : ErasureSubject) (actor : String) (now : Instant)

namespace SuppressingOp

variable (env : Env) (fingerprint : String → String)

/-- The operation, on the state it finds. -/
def run (db : Db) : SuppressingOp → Except AppError Db
  | .webhookOptOut c =>
      match db.contact c with
      | none => .error (contactNotFound c)
      | some contact => .ok (suppressForOptOut env db c contact)
  | .inConversation c =>
      match db.contact c with
      | none => .error (contactNotFound c)
      | some contact => .ok (applySuppression env db c contact)
  | .manualAdd raw reason contact actor =>
      addSuppression env db raw reason contact actor
  | .erasure subject actor now =>
      erase env fingerprint db subject true actor now

/-- The number the operation is about: the contact's, or the one given,
as it is stored before the operation. -/
def number (db : Db) : SuppressingOp → Option String
  | .webhookOptOut c | .inConversation c
  | .erasure (.contact c) _ _ => (db.contact c).map (·.normalizedPhoneNumber)
  | .manualAdd raw _ _ _ | .erasure (.phone raw) _ _ =>
      match normalizePhone env raw env.settings.defaultRegion with
      | .error _ => none
      | .ok n => some n.e164

/-- When the operation really records the number. The opt-out writers need
a number that is suppressed already or a contact without a row of its own;
an erasure needs a contact that was not erased before. -/
def recordsNumber (db : Db) (number : String) : SuppressingOp → Prop
  | .webhookOptOut c | .inConversation c =>
      db.suppressions.isSuppressed env number = true
        ∨ db.suppressions.hasContact c = false
  | .manualAdd .. | .erasure (.phone _) _ _ => True
  | .erasure (.contact c) _ _ =>
      db.suppressions.isSuppressed env number = true
        ∨ (db.contact c).map Contact.alreadyErased = some false

end SuppressingOp

/-! ## Manual add and erasure -/

/-- The second insert of a manual add closes the gap the first leaves. -/
theorem isSuppressed_addSuppressionRow (env : Env) (t : SuppressionTable)
    (e164 : String) (reason : Option String) (contactId : Option ContactId)
    (actor : String) :
    (addSuppressionRow env t e164 reason contactId actor).isSuppressed env e164
      = true := by
  simp only [addSuppressionRow]
  split
  · rw [isSuppressed_insertIfAbsent]
    exact .inr rfl
  · next h =>
    simp only [Bool.and_eq_true, Bool.not_eq_true', not_and,
      Bool.not_eq_false] at h
    cases hins : (t.insertIfAbsent env e164 .manualApi reason contactId
        (some actor)).2 with
    | false => exact h hins
    | true =>
        rw [isSuppressed_insertIfAbsent]
        by_cases hl : t.hasLink contactId = true
        · unfold SuppressionTable.insertIfAbsent at hins
          rw [SuppressionTable.insertRow_conflict t (.inr hl)] at hins
          cases hins
        · exact .inr (by simpa using hl)

theorem addSuppression_ok {env : Env} {db db' : Db} {raw : String}
    {reason : Option String} {contactId : Option ContactId} {actor : String}
    (h : addSuppression env db raw reason contactId actor = .ok db') :
    ∃ n, normalizePhone env raw env.settings.defaultRegion = .ok n ∧
      db'.suppressions.isSuppressed env n.e164 = true := by
  unfold addSuppression at h
  cases hn : normalizePhone env raw env.settings.defaultRegion with
  | error e => rw [hn] at h; cases h
  | ok n =>
      rw [hn] at h
      refine ⟨n, rfl, ?_⟩
      cases hc : checkAddContact db n.e164 contactId with
      | error e => simp [hc] at h
      | ok u =>
          simp only [hc, isSuppressed_addSuppressionRow, if_true,
            Except.ok.injEq] at h
          rw [← h]
          exact isSuppressed_addSuppressionRow ..

/-- What a successful erasure with `suppress` recorded: the covered
number, unless there was nothing left to erase. -/
theorem erase_ok {env : Env} {fingerprint : String → String} {db db' : Db}
    {subject : ErasureSubject} {actor : String} {now : Instant}
    (h : erase env fingerprint db subject true actor now = .ok db') :
    (erasureNumber env db subject = .ok none ∧ db' = db) ∨
    ∃ e164, erasureNumber env db subject = .ok (some e164) ∧
      db'.suppressions = (db.suppressions.insertIfAbsent env e164 .manualApi
        (some "erasure_request") none (some actor)).1 := by
  unfold erase at h
  cases hn : erasureNumber env db subject with
  | error e => rw [hn] at h; cases h
  | ok o =>
      rw [hn] at h
      cases o with
      | none =>
          cases h
          exact .inl ⟨rfl, rfl⟩
      | some e164 =>
          refine .inr ⟨e164, rfl, ?_⟩
          simp only at h
          split at h
          · cases h
          · cases h; rfl

theorem erasureNumber_contact (env : Env) {db : Db} {c : ContactId}
    {contact : Contact} (h : db.contact c = some contact) :
    erasureNumber env db (.contact c) = .ok (if contact.alreadyErased then none
      else some (canonicalNumber env contact.normalizedPhoneNumber)) := by
  simp only [erasureNumber, h]
  split <;> rfl

/-! ## The four operations -/

/-- The number an erasure covers is recorded under itself. -/
theorem erase_isSuppressed {env : Env} {fingerprint : String → String}
    {db db' : Db} {subject : ErasureSubject} {actor : String} {now : Instant}
    {e164 : String}
    (h : erase env fingerprint db subject true actor now = .ok db')
    (hn : erasureNumber env db subject = .ok (some e164)) :
    db'.suppressions.isSuppressed env e164 = true := by
  rcases erase_ok h with ⟨hnone, _⟩ | ⟨e, hsome, hs⟩
  · rw [hn] at hnone; cases hnone
  · rw [hn] at hsome
    cases hsome
    rw [hs, isSuppressed_insertIfAbsent]
    exact .inr rfl

/-- **Opt-out durability, exactly.** After a suppressing operation returns
successfully, the suppression check on the number it is about answers yes
if and only if the operation's condition held when it started. -/
theorem suppressingOp_durable_iff {env : Env} {fingerprint : String → String}
    (laws : PhoneLaws env) {db db' : Db} {op : SuppressingOp}
    (h : op.run env fingerprint db = .ok db') :
    ∃ number, op.number env db = some number ∧
      (db'.suppressions.isSuppressed env number = true ↔
        op.recordsNumber env db number) := by
  cases op with
  | webhookOptOut c =>
      simp only [SuppressingOp.run] at h
      cases hc : db.contact c with
      | none => rw [hc] at h; cases h
      | some contact =>
          rw [hc] at h
          cases h
          exact ⟨contact.normalizedPhoneNumber,
            by simp [SuppressingOp.number, hc], isSuppressed_insertIfAbsent ..⟩
  | inConversation c =>
      simp only [SuppressingOp.run] at h
      cases hc : db.contact c with
      | none => rw [hc] at h; cases h
      | some contact =>
          rw [hc] at h
          cases h
          exact ⟨contact.normalizedPhoneNumber,
            by simp [SuppressingOp.number, hc], isSuppressed_insertIfAbsent ..⟩
  | manualAdd raw reason contact actor =>
      simp only [SuppressingOp.run] at h
      obtain ⟨n, hn, hs⟩ := addSuppression_ok h
      exact ⟨n.e164, by simp [SuppressingOp.number, hn],
        by simp [SuppressingOp.recordsNumber, hs]⟩
  | erasure subject actor now =>
      simp only [SuppressingOp.run] at h
      cases subject with
      | phone raw =>
          cases hn : normalizePhone env raw env.settings.defaultRegion with
          | error e => simp [erase, erasureNumber, hn] at h
          | ok n =>
              have hs : db'.suppressions.isSuppressed env n.e164 = true :=
                erase_isSuppressed h (by simp [erasureNumber, hn])
              exact ⟨n.e164, by simp [SuppressingOp.number, hn],
                by simp [SuppressingOp.recordsNumber, hs]⟩
      | contact c =>
          cases hc : db.contact c with
          | none => simp [erase, erasureNumber, hc] at h
          | some contact =>
              refine ⟨contact.normalizedPhoneNumber,
                by simp [SuppressingOp.number, hc], ?_⟩
              simp only [SuppressingOp.recordsNumber, hc, Option.map_some,
                Option.some.injEq]
              have hnum := erasureNumber_contact env hc
              cases he : contact.alreadyErased with
              | true =>
                  rw [he, if_pos rfl] at hnum
                  rcases erase_ok h with ⟨_, rfl⟩ | ⟨e, hsome, _⟩
                  · simp
                  · rw [hnum] at hsome; cases hsome
              | false =>
                  rw [he, if_neg Bool.false_ne_true] at hnum
                  have hs := erase_isSuppressed h hnum
                  -- the check canonicalizes again, which changes nothing
                  unfold SuppressionTable.isSuppressed at hs ⊢
                  rw [canonicalNumber_idem laws] at hs
                  simp [hs]

/-! ### A contact with a row under its former number -/

/-- Contact 1 was suppressed under its former number. -/
def renumberedDb : Db where
  contacts := AList.insert 1
    { campaignId := 1
      normalizedPhoneNumber := "+919876543210"
      status := .dialing } ∅
  suppressions :=
    { rows := [⟨some 1, "+911111111111", none, .manualApi, some "admin"⟩] }

/-- The number on the contact is recorded nowhere by its opt-out. -/
theorem webhookOptOut_not_recorded :
    ((SuppressingOp.webhookOptOut 1).run (plainEnv {}) id renumberedDb).map
        (fun db' => db'.suppressions.isSuppressed (plainEnv {}) "+919876543210")
      = .ok false ∧
    (SuppressingOp.webhookOptOut 1).number (plainEnv {}) renumberedDb
      = some "+919876543210" := by
  decide

/-- The manual add of the same number does record it. -/
theorem manualAdd_records :
    ∃ db' number,
      (SuppressingOp.manualAdd "+919876543210" none (some 1) "admin").run
        (plainEnv {}) id renumberedDb = .ok db' ∧
      (SuppressingOp.manualAdd "+919876543210" none (some 1) "admin").number
        (plainEnv {}) renumberedDb = some number ∧
      (db'.suppressions.isSuppressed (plainEnv {}) number = true ↔
        (SuppressingOp.manualAdd "+919876543210" none (some 1)
          "admin").recordsNumber (plainEnv {}) renumberedDb number) := by
  have hrun : (SuppressingOp.manualAdd "+919876543210" none (some 1)
      "admin").run (plainEnv {}) id renumberedDb = .ok
        { renumberedDb with
          suppressions := addSuppressionRow (plainEnv {})
            renumberedDb.suppressions "+919876543210" none (some 1) "admin" } :=
    rfl
  obtain ⟨number, hn, hiff⟩ :=
    suppressingOp_durable_iff (plainEnv_laws {}) hrun
  exact ⟨_, number, hrun, hn, hiff⟩

end CallingAgent
