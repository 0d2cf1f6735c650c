import CallingAgent.Services.CallingWindow
import CallingAgent.Model.Errors

/-!
# Eligibility — membership of a campaign, and the final check before a dial
-/

namespace CallingAgent

open Lib

/-- Why a contact may not be dialed, as the final check reports it. -/
inductive IneligibleReason where
  | campaignNotActive (status : CampaignStatus)
  | purged
  | contactStatus (status : ContactStatus)
  | suppressed
  /-- code `region_not_allowed` -/
  | regionNotAllowed
  /-- code `outside_calling_window`: the one transient reason -/
  | outsideWindow
  deriving DecidableEq, Repr

inductive EligibilityResult where
  | eligible
  | ineligible (reason : IneligibleReason)
  /-- the window arithmetic raised `ValueError` -/
  | raised
  deriving DecidableEq, Repr

/-- `EligibilityResult.transient` -/
def IneligibleReason.transient : IneligibleReason → Bool
  | .outsideWindow => true
  | _ => false

/-- The statuses a contact may be dialed from. -/
def ContactStatus.dialable : ContactStatus → Bool
  | .pending | .dialing | .retryScheduled => true
  | _ => false

section

variable (env : Env) (db : Db)

/-- `DialEligibilityService.check`, against the effective policy of the
campaign. -/
def dialEligibility (contact : Contact) (campaignId : CampaignId)
    (campaign : Campaign) (now : Instant) : EligibilityResult :=
  if campaign.status ≠ .active then
    .ineligible (.campaignNotActive campaign.status)
  else if contact.purgedAt.isSome then .ineligible .purged
  else if !contact.status.dialable then
    .ineligible (.contactStatus contact.status)
  else if db.suppressions.isSuppressed env contact.normalizedPhoneNumber then
    .ineligible .suppressed
  else if !isDialableRegion env contact.normalizedPhoneNumber
      env.settings.allowedDialRegions then
    .ineligible .regionNotAllowed
  else
    match windowIsOpen env campaign
        (db.effectivePolicy env.settings campaignId) now with
    | .ok true => .eligible
    | .ok false => .ineligible .outsideWindow
    -- a corrupt zone is never guessed at
    | .error .invalidTimezone => .ineligible .outsideWindow
    | .error _ => .raised

/-- Everything the final check must have found for a dial. -/
structure Eligible (contact : Contact) (campaignId : CampaignId)
    (campaign : Campaign) (now : Instant) : Prop where
  campaignActive : campaign.status = .active
  notPurged : contact.purgedAt = none
  dialable : contact.status.dialable = true
  notSuppressed :
    db.suppressions.isSuppressed env contact.normalizedPhoneNumber = false
  regionAllowed : isDialableRegion env contact.normalizedPhoneNumber
    env.settings.allowedDialRegions = true
  windowOpen : windowIsOpen env campaign
    (db.effectivePolicy env.settings campaignId) now = .ok true

end

/-- **The final check is complete**: it passes exactly when each of its
conditions holds. -/
theorem dialEligibility_eligible_iff {env : Env} {db : Db} {contact : Contact}
    {campaignId : CampaignId} {campaign : Campaign} {now : Instant} :
    dialEligibility env db contact campaignId campaign now = .eligible ↔
      Eligible env db contact campaignId campaign now := by
  constructor
  · intro h
    unfold dialEligibility at h
    exact
      { campaignActive := by grind
        notPurged := by grind [Option.isSome_iff_ne_none]
        dialable := by grind
        notSuppressed := by grind
        regionAllowed := by grind
        windowOpen := by grind }
  · rintro ⟨h1, h2, h3, h4, h5, h6⟩
    simp [dialEligibility, h1, h2, h3, h4, h5, h6]

/-- `CampaignEligibilityService.check`: may a campaign take this contact
as a member. -/
def membershipCheck (env : Env) (db : Db) (contact : Contact)
    (campaign : Campaign) : Except AppError Unit :=
  if campaign.status = .completed then
    .error (.conflict "Campaign is completed and not accepting members")
  else if contact.status = .closed then
    .error (.conflict "Contact is closed/deactivated")
  else if db.suppressions.isSuppressed env contact.normalizedPhoneNumber then
    .error (.conflict "Contact is suppressed")
  else .ok ()

end CallingAgent
