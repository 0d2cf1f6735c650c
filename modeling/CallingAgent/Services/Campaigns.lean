import CallingAgent.Services.Eligibility

/-!
# Campaigns and their contacts — lifecycle, membership, import

The operations of the API on campaigns and contacts. Each is one
transaction; a refused one leaves the database as it was.
-/

namespace CallingAgent

open Lib

/-! ## Campaign lifecycle -/

/-- `_ALLOWED_TRANSITIONS`: forward progress, pause and resume, and a
one-way move to completed. -/
def CampaignStatus.allowed : CampaignStatus → List CampaignStatus
  | .draft => [.active]
  | .active => [.paused, .completed]
  | .paused => [.active, .completed]
  | .completed => []

/-- The fields of an update that the calling paths read; `none` leaves a
field as it is. -/
structure CampaignUpdate where
  timezone : Option String := none
  status : Option CampaignStatus := none

/-- `_transition_status` -/
def transitionStatus (c : Campaign) (new : CampaignStatus) :
    Except AppError Campaign :=
  if new ∈ c.status.allowed then .ok { c with status := new }
  else .error (.validation ("Cannot transition campaign from "
    ++ c.status.value ++ " to " ++ new.value))

/-- `update_campaign`, under a lock of the row. -/
def updateCampaign (db : Db) (id : CampaignId) (data : CampaignUpdate) :
    Except AppError Db :=
  match db.campaign id with
  | none => .error (campaignNotFound id)
  | some campaign =>
      let zoned := { campaign with
        timezone := data.timezone.getD campaign.timezone }
      match data.status with
      | none => .ok (db.modifyCampaign id fun _ => zoned)
      | some new =>
          if new = campaign.status then .ok (db.modifyCampaign id fun _ => zoned)
          else
            match transitionStatus zoned new with
            | .error e => .error e
            | .ok c => .ok (db.modifyCampaign id fun _ => c)

/-- The row an update leaves. -/
def CampaignUpdate.applied (data : CampaignUpdate) (row : Campaign) :
    Campaign :=
  { row with
    timezone := data.timezone.getD row.timezone
    status := data.status.getD row.status }

/-- An accepted update rewrites one row. -/
theorem updateCampaign_ok {db db' : Db} {id : CampaignId}
    {data : CampaignUpdate} (h : updateCampaign db id data = .ok db') :
    ∃ row, db.campaign id = some row ∧
      db' = db.modifyCampaign id fun _ => data.applied row := by
  unfold updateCampaign at h
  cases hrow : db.campaign id with
  | none => simp [hrow] at h
  | some row =>
      refine ⟨row, rfl, ?_⟩
      simp only [hrow] at h
      cases hnew : data.status with
      | none =>
          simp only [hnew, Except.ok.injEq] at h
          rw [← h, CampaignUpdate.applied, hnew]
          rfl
      | some new =>
          simp only [hnew] at h
          rw [CampaignUpdate.applied, hnew]
          split at h
          · next hsame =>
            cases h
            rw [hsame]
            rfl
          · unfold transitionStatus at h
            split at h
            · cases h
            · next hc =>
              split at hc
              · cases hc
                cases h
                rfl
              · cases hc

/-- A completed campaign stays completed. -/
theorem transitionStatus_completed {c c' : Campaign} {new : CampaignStatus}
    (h : transitionStatus c new = .ok c') : c.status ≠ .completed := by
  intro hc
  unfold transitionStatus at h
  rw [hc] at h
  cases h

/-! ## Membership -/

section

variable (env : Env) (db : Db)

/-- `associate`, on a contact of another campaign: its number is validated
against the target, and it is pending there. -/
def moveContact (campaignId : CampaignId) (campaign : Campaign)
    (contactId : ContactId) (contact : Contact) : Except AppError Db :=
  match normalizePhone env contact.normalizedPhoneNumber
      campaign.defaultRegion (some env.settings.allowedDialRegions) with
  | .error code => .error (.conflict
      ("Contact phone number is not dialable (" ++ code.code ++ ")"))
  | .ok canonical =>
      if (db.contactByCampaignAndPhone campaignId canonical.e164).any
          (· ≠ contactId) then
        .error (.conflict ("A contact with this phone number already exists "
          ++ "in campaign " ++ toString campaignId))
      else .ok (db.modifyContact contactId fun c =>
        { c with campaignId, status := .pending,
                 normalizedPhoneNumber := canonical.e164 })

/-- `CampaignContactService.associate` -/
def associate (campaignId : CampaignId) (contactId : ContactId) :
    Except AppError Db :=
  match db.campaign campaignId, db.contact contactId with
  | none, _ => .error (campaignNotFound campaignId)
  | _, none => .error (contactNotFound contactId)
  | some campaign, some contact =>
      match membershipCheck env db contact campaign with
      | .error e => .error e
      | .ok () =>
          if contact.campaignId = campaignId then .ok db
          else moveContact env db campaignId campaign contactId contact

/-- `CampaignContactService.remove` -/
def removeContact (campaignId : CampaignId) (contactId : ContactId) :
    Except AppError Db :=
  match db.campaign campaignId, db.contact contactId with
  | none, _ => .error (campaignNotFound campaignId)
  | _, none => .error (contactNotFound contactId)
  | some _, some contact =>
      if contact.campaignId ≠ campaignId then
        .error (.notFound ("Contact " ++ toString contactId
          ++ " is not associated with campaign " ++ toString campaignId))
      else .ok (db.modifyContact contactId fun c =>
        { c with status := .closed })

/-- `deactivate_contact` -/
def deactivateContact (contactId : ContactId) : Except AppError Db :=
  match db.contact contactId with
  | none => .error (contactNotFound contactId)
  | some _ => .ok (db.modifyContact contactId fun c =>
      { c with status := .closed })

/-! ## Creation -/

/-- `create_contact` -/
def createContact (campaignId : CampaignId) (phoneNumber : String) :
    Except AppError Db :=
  match db.campaign campaignId with
  | none => .error (campaignNotFound campaignId)
  | some campaign =>
      match normalizePhone env phoneNumber campaign.defaultRegion
          (some env.settings.allowedDialRegions) with
      | .error code => .error (invalidPhone code)
      | .ok n =>
          if db.suppressions.isSuppressed env n.e164 then
            .error (.conflict "Phone number is suppressed and cannot be added")
          else if (db.contactByCampaignAndPhone campaignId n.e164).isSome then
            .error (.conflict ("Contact with this phone number already exists"
              ++ " in campaign " ++ toString campaignId))
          else .ok (db.insertContact
            { campaignId, normalizedPhoneNumber := n.e164 })

/-- The rows of an import that are kept: valid, and not seen before. -/
def importableNumbers : List String → List String → List String
  | _, [] => []
  | seen, raw :: raws =>
      match normalizePhone env raw env.settings.defaultRegion
          (some env.settings.allowedDialRegions) with
      | .error _ => importableNumbers seen raws
      | .ok n =>
          if n.e164 ∈ seen then importableNumbers seen raws
          else n.e164 :: importableNumbers (n.e164 :: seen) raws

/-- `import_csv`, on the phone-number column: a new campaign with one
pending contact a number. A file without a valid number adds nothing. -/
def importContacts (raws : List String) : Except AppError Db :=
  if raws.length > 10000 then
    .error (.validation "Import file exceeds the maximum of 10000 rows")
  else
    match importableNumbers env [] raws with
    | [] => .ok db
    | numbers =>
        let campaignId := db.campaigns.nextKey
        let db := db.insertCampaign
          { timezone := env.settings.defaultTimezone
            defaultRegion := env.settings.defaultRegion }
          (buildDefaultPolicy env.settings)
        .ok (numbers.foldl (fun db n => db.insertContact
          { campaignId, normalizedPhoneNumber := n }) db)

end

/-- What `associate` does when it succeeds: nothing, or the contact, which
was not closed, is pending in the other campaign. -/
theorem associate_ok {env : Env} {db db' : Db} {campaignId : CampaignId}
    {contactId : ContactId}
    (h : associate env db campaignId contactId = .ok db') :
    db' = db ∨ ∃ contact number, db.contact contactId = some contact ∧
      contact.status ≠ .closed ∧ contact.campaignId ≠ campaignId ∧
      (db.campaign campaignId).isSome = true ∧
      db' = db.modifyContact contactId fun c =>
        { c with campaignId, status := .pending,
                 normalizedPhoneNumber := number } := by
  unfold associate at h
  cases hg : db.campaign campaignId with
  | none => simp [hg] at h
  | some campaign =>
    cases hc : db.contact contactId with
    | none => simp [hg, hc] at h
    | some contact =>
      simp only [hg, hc] at h
      cases hm : membershipCheck env db contact campaign with
      | error e => rw [hm] at h; cases h
      | ok u =>
          have hne : contact.status ≠ .closed := by
            intro hcl
            unfold membershipCheck at hm
            grind
          rw [hm] at h
          dsimp only at h
          by_cases hsame : contact.campaignId = campaignId
          · rw [if_pos hsame] at h
            exact .inl (Except.ok.inj h).symm
          · right
            rw [if_neg hsame] at h
            unfold moveContact at h
            split at h
            · cases h
            · next canonical _ =>
              split at h
              · cases h
              · exact ⟨contact, canonical.e164, rfl, hne, hsame, rfl,
                  (Except.ok.inj h).symm⟩

end CallingAgent
