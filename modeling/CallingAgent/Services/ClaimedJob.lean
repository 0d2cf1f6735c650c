import CallingAgent.Services.DialGates
import CallingAgent.Services.Dispatch

/-!
# Claimed jobs — one delivery from the stream

A delivered job is gated once before it is admitted; then the dialer runs,
and what came of it decides whether its message is settled, acknowledged or
left pending.
-/

namespace CallingAgent

open Lib

/-! ## Processing one delivery -/

/-- What the world answers around one run of the dialer. -/
structure WorkWorld extends DialWorld where
  /-- the gate as read before admission -/
  earlyGate : GateReads
  /-- the clock before admission -/
  arrivedAt : Instant
  /-- the concurrency slot was granted -/
  admitted : Bool
  /-- the clock after the run -/
  settledAt : Instant

/-- `_gate_outcome` -/
def gateOutcome (reason : BlockReason) : JobOutcome :=
  if reason.isBudget then .budgetBlocked else .outboundBlocked

/-- What follows the run: the message is settled, acknowledged, or left
pending. -/
def settleRun (env : Env) (r : Redis) (m : MessageId) (job : DialJob)
    (settledAt : Instant) (run : DialRun) : DialRun × Redis :=
  let r := r.scheduleRetry run.entry
  match run.outcome with
  | none => (run, r)
  | some .campaignPaused =>
      let s := settlePaused run.db r m job
      ({ run with outcome := some s.1 }, s.2)
  | some .outsideWindow =>
      match closedWindow env run.db job settledAt with
      | none => ({ run with outcome := none }, r)
      | some (_, due) =>
          let s := settleOutsideWindow run.db r m job due
          ({ run with outcome := some s.1 }, s.2)
  | some o => (run, if o.leftUnacked then r else r.ack m)

/-- `_process_claimed_job` -/
def processClaimedJob (env : Env) (db : Db) (r : Redis) (m : MessageId)
    (job : DialJob) (w : WorkWorld) : DialRun × Redis :=
  match outboundGate env.settings w.earlyGate with
  | .raised => (⟨none, db, [], none⟩, r)
  | .blocked reason => (⟨some (gateOutcome reason), db, [], none⟩, r)
  | .open =>
      if (db.campaign job.campaignId).any (·.status = .paused) then
        let s := settlePaused db r m job
        (⟨some s.1, db, [], none⟩, s.2)
      else
        match closedWindow env db job w.arrivedAt with
        | none => (⟨none, db, [], none⟩, r)
        | some (true, due) =>
            let s := settleOutsideWindow db r m job due
            (⟨some s.1, db, [], none⟩, s.2)
        | some (false, _) =>
            if w.admitted then
              settleRun env r m job w.settledAt (dial env db job w.toDialWorld)
            else (⟨some .notAdmitted, db, [], none⟩, r)

/-! ## A queued contact -/

/-- 12:00 on a campaign's wall clock in India. -/
def noon : Instant := 23400 * second

def quietGate : GateReads where
  killSwitch := .value {}
  providerHalt := .value {}
  budget := .value { dials := 0, dialCap := 1000 }

/-- Every gate open, and the provider accepts the trigger as run 501. -/
def acceptingWorld : WorkWorld where
  startedAt := noon
  checkedAt := noon
  sentAt := noon
  answeredAt := noon
  gate := quietGate
  firstLookup := .failed
  secondLookup := .failed
  trigger := .accepted 501
  streak := 0
  haltWritable := true
  providerName := "mock"
  createCall := none
  findCall := none
  conversationStarts := false
  earlyGate := quietGate
  arrivedAt := noon
  admitted := true
  settledAt := noon

/-- Contact 1 waits in the active campaign 1; campaign 2 is a draft. -/
def twoCampaigns : Db where
  campaigns := AList.insert 1 { status := .active }
    (AList.insert 2 { status := .draft } ∅)
  contacts := AList.insert 1
    { campaignId := 1, normalizedPhoneNumber := "+919876543210" } ∅

def dograhEnv : Env := plainEnv { callingEngine := .dograh }

end CallingAgent
