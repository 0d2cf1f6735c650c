import CallingAgent.Model.Database
import CallingAgent.Model.Errors

/-!
# Suppressing operations — the four writers of the do-not-call table

A webhook opt-out, an opt-out during an AI conversation, a manual add and
a data-subject erasure all insert through `insert_if_absent`. They differ
in the row they offer and in what they do when nothing was inserted.
-/

namespace CallingAgent

open Lib

section Operations

variable (env : Env)

/-- `_suppress_for_opt_out`: the webhook's opt-out. Whether a row was
inserted only decides about the audit row. -/
def suppressForOptOut (db : Db) (contactId : ContactId) (contact : Contact) :
    Db :=
  (db.setSuppressions (db.suppressions.insertIfAbsent env
      contact.normalizedPhoneNumber .agentInCall
      (some "opt-out via Dograh call disposition") (some contactId)).1)
    |>.modifyContact contactId fun c => { c with status := .closed }

/-- `ConversationOrchestrator._apply_suppression` -/
def applySuppression (db : Db) (contactId : ContactId) (contact : Contact) :
    Db :=
  (db.setSuppressions (db.suppressions.insertIfAbsent env
      contact.normalizedPhoneNumber .agentInCall
      (some "opt-out during AI conversation") (some contactId)).1)
    |>.modifyContact contactId fun c => { c with status := .closed }

/-- The check of `SuppressionService.add` on the contact it was given. -/
def checkAddContact (db : Db) (e164 : String) :
    Option ContactId → Except AppError Unit
  | none => .ok ()
  | some c =>
      match db.contact c with
      | none => .error (contactNotFound c)
      | some contact =>
          if contact.normalizedPhoneNumber ≠ e164 then
            .error (.validation "contact_id does not belong to this phone number")
          else .ok ()

/-- The two inserts of `SuppressionService.add`: when the first recorded
nothing and the number has no row, the contact already had a row under
another number, and the number is recorded without the contact. -/
def addSuppressionRow (t : SuppressionTable) (e164 : String)
    (reason : Option String) (contactId : Option ContactId)
    (actor : String) : SuppressionTable :=
  let first := t.insertIfAbsent env e164 .manualApi reason contactId (some actor)
  if !first.2 && !first.1.isSuppressed env e164 then
    (first.1.insertIfAbsent env e164 .manualApi reason none (some actor)).1
  else first.1

/-- `SuppressionService.add` -/
def addSuppression (db : Db) (rawNumber : String) (reason : Option String)
    (contactId : Option ContactId) (actor : String) : Except AppError Db :=
  match normalizePhone env rawNumber env.settings.defaultRegion with
  | .error code => .error (invalidPhone code)
  | .ok n =>
      match checkAddContact db n.e164 contactId with
      | .error e => .error e
      | .ok () =>
          let t := addSuppressionRow env db.suppressions n.e164 reason
            contactId actor
          if t.isSuppressed env n.e164 then .ok (db.setSuppressions t)
          else .error .assertion

/-! ### Erasure -/

/-- `PLACEHOLDER_PREFIX` -/
def placeholderPrefix : String := "purged:"

/-- `purge_placeholder` -/
def purgePlaceholder (c : ContactId) : String :=
  placeholderPrefix ++ toString c

/-- The contact rows `erase` treats as scrubbed already. -/
def Contact.alreadyErased (c : Contact) : Bool :=
  c.purgedAt.isSome
    || placeholderPrefix.toList.isPrefixOf c.normalizedPhoneNumber.toList

/-- `scrub_contacts` followed by the closing of what is not terminal:
one covered row. -/
def scrubContact (now : Instant) (id : ContactId) (c : Contact) : Contact :=
  { c with
    normalizedPhoneNumber := purgePlaceholder id
    purgedAt := some now
    status :=
      match c.status with
      | .completed => .completed
      | .completedPartial => .completedPartial
      | _ => .closed }

/-- `_held`: a covered contact, or its campaign, is under legal hold. -/
def erasureHeld (db : Db) (e164 : String) : Bool :=
  db.contacts.any fun _ c => c.normalizedPhoneNumber == e164
    && (c.legalHold
      || ((db.campaign c.campaignId).map (·.legalHold)).getD false)

/-- The number of covered records under legal hold. -/
def erasureHeldCount (db : Db) (e164 : String) : Nat :=
  db.contacts.count fun _ c => c.normalizedPhoneNumber == e164
    && (c.legalHold
      || ((db.campaign c.campaignId).map (·.legalHold)).getD false)

/-- Who is to be erased. -/
inductive ErasureSubject where
  | phone (raw : String)
  | contact (id : ContactId)

/-- The number an erasure covers; `none` when the contact was erased
before. -/
def erasureNumber (db : Db) : ErasureSubject → Except AppError (Option String)
  | .phone raw =>
      match normalizePhone env raw env.settings.defaultRegion with
      | .error code => .error (invalidPhone code)
      | .ok n => .ok (some n.e164)
  | .contact id =>
      match db.contact id with
      | none => .error (contactNotFound id)
      | some c =>
          if c.alreadyErased then .ok none
          else .ok (some (canonicalNumber env c.normalizedPhoneNumber))

/-- `erase`, as far as contact rows and the do-not-call table are
concerned. -/
def erase (fingerprint : String → String) (db : Db) (subject : ErasureSubject)
    (suppress : Bool) (actor : String) (now : Instant) : Except AppError Db :=
  match erasureNumber env db subject with
  | .error e => .error e
  | .ok none => .ok db
  | .ok (some e164) =>
      if erasureHeld db e164 then
        .error (.conflict ("Erasure refused: "
          ++ toString (erasureHeldCount db e164)
          ++ " covered record(s) are under legal hold. "
          ++ "Clear the hold deliberately, then retry. Nothing was changed."))
      else
        let t := if suppress then
            (db.suppressions.insertIfAbsent env e164 .manualApi
              (some "erasure_request") none (some actor)).1
          else db.suppressions
        .ok { db with
          contacts := db.contacts.mapRows fun id c =>
            if c.normalizedPhoneNumber == e164 then scrubContact now id c
            else c
          suppressions := t
          erasureLog := fingerprint e164 :: db.erasureLog }

end Operations

end CallingAgent
