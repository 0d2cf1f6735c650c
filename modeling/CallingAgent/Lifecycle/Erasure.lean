import CallingAgent.Lifecycle.Retention

/-!
# Erasure — one person's data, and its re-application after a restore

`erase` selects the contacts that store the number, refuses when a hold
covers one of them, and otherwise clears their content and their rows.
`reapply_erasures` selects by the fingerprint of the canonical number and
skips what is held.
-/

namespace CallingAgent

open Lib

namespace LifecycleDb

/-! ## Content -/

/-- The attempt was made to one of these contacts. -/
def attemptOf (db : LifecycleDb) (ids : List ContactId) (a : AttemptId) : Bool :=
  (db.core.attempt a).any fun row => ids.contains row.contactId

/-- The session is of such an attempt. -/
def sessionOf (db : LifecycleDb) (ids : List ContactId) (s : SessionId) : Bool :=
  (AList.lookup s db.sessions).any fun row => db.attemptOf ids row.callAttemptId

/-- `_scrub_content` -/
def scrubContent (db : LifecycleDb) (ids : List ContactId) : LifecycleDb :=
  { db with
    messages := db.messages.deleteIn
      (db.messages.select fun _ m => db.sessionOf ids m.sessionId)
    sessions := db.sessions.updateIn
      (db.sessions.select fun _ s => db.attemptOf ids s.callAttemptId)
      fun s => { s with transcriptUrl := none }
    snapshots := db.snapshots.updateIn
      (db.snapshots.select fun _ s => db.attemptOf ids s.attemptId)
      WorkingMemorySnapshot.cleared
    analyses := db.analyses.updateIn
      (db.analyses.select fun _ a => ids.contains a.row.call.contactId)
      StoredAnalysis.cleared }

/-- `_scrub_contact_rows` -/
def scrubContactRows (db : LifecycleDb) (ids : List ContactId) (now : Instant) :
    LifecycleDb :=
  { db with
    core := { db.core with
      contacts := db.core.contacts.mapRows fun id c =>
        if ids.contains id then scrubContact now id c else c } }

/-- The contacts an erasure of this number covers. -/
def covered (db : LifecycleDb) (e164 : String) : List ContactId :=
  db.core.contacts.select fun _ c => c.normalizedPhoneNumber == e164

end LifecycleDb

section Erase

variable (env : Env) (fingerprint : String → String)

/-- `erase` with the content of the covered contacts: what it refuses, it
leaves as it was. -/
def eraseData (db : LifecycleDb) (subject : ErasureSubject) (suppress : Bool)
    (actor : String) (now : Instant) : Except AppError LifecycleDb :=
  match erase env fingerprint db.core subject suppress actor now with
  | .error e => .error e
  | .ok core =>
      match erasureNumber env db.core subject with
      | .ok (some e164) =>
          let scrubbed := db.scrubContent (db.covered e164)
          .ok ({ scrubbed with core }.audit
            { actor, action := "data.erasure"
              entity := some (.erasureLog (fingerprint e164))
              createdAt := now })
      | _ => .ok db

/-! ## Re-application -/

/-- `ReapplyReport`, with the contacts that matched. -/
structure ReapplyReport where
  fingerprints : Nat := 0
  contactsScanned : Nat := 0
  matched : List ContactId := []
  contactsScrubbed : Nat := 0
  skippedLegalHold : Nat := 0
  erasedMissingFromDnc : Nat := 0
  applied : Bool := false

/-- The un-purged contacts by id, and their numbers. -/
def unpurged (db : LifecycleDb) : List ContactId :=
  (db.core.contacts.filter fun _ c => c.purgedAt.isNone).sortedKeys

/-- The pages `_contact_pages` goes through. What an earlier page scrubs lies
before the next one, so the contacts are read once. -/
def contactPages (page : Nat) : Nat → List ContactId → List (List ContactId)
  | 0, _ => []
  | fuel + 1, ids =>
      if (ids.take page).isEmpty then []
      else ids.take page :: contactPages page fuel (ids.drop page)

/-- The number of the contact has this canonical fingerprint. -/
def matchesErased (db : LifecycleDb) (prints : List String) (c : ContactId) :
    Bool :=
  (db.core.contact c).any fun row =>
    prints.contains (fingerprint (canonicalNumber env row.normalizedPhoneNumber))

/-- One page of `reapply_erasures`. -/
def reapplyPage (now : Instant) (apply : Bool) (prints : List String)
    (x : LifecycleDb × ReapplyReport) (ids : List ContactId) :
    LifecycleDb × ReapplyReport :=
  let db := x.1
  let matched := ids.filter (matchesErased env fingerprint db prints)
  let free := matched.filter fun c => !db.contactHeld c
  let report := { x.2 with
    contactsScanned := x.2.contactsScanned + ids.length
    matched := x.2.matched ++ matched
    contactsScrubbed := x.2.contactsScrubbed + free.length
    skippedLegalHold := x.2.skippedLegalHold + (matched.length - free.length) }
  (if apply && !free.isEmpty then
      (db.scrubContent free).scrubContactRows free now
    else db, report)

/-- `reapply_erasures` -/
def reapplyErasures (db : LifecycleDb) (now : Instant) (apply : Bool)
    (page : Nat) : LifecycleDb × ReapplyReport :=
  let prints := db.core.erasureLog.eraseDups
  let report : ReapplyReport := { fingerprints := prints.length, applied := apply }
  if prints.isEmpty then (db, report)
  else
    let ids := unpurged db
    let x := (contactPages page ids.length ids).foldl
      (reapplyPage env fingerprint now apply prints) (db, report)
    let inDnc := x.1.core.suppressions.rows.map fun r =>
      fingerprint (canonicalNumber env r.phoneNumber)
    (x.1, { x.2 with
      erasedMissingFromDnc :=
        (prints.filter fun p => !inDnc.contains p).length })

end Erase

end CallingAgent
