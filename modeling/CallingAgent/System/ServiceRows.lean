import CallingAgent.Services.WebhookContact
import CallingAgent.System.Onward

/-!
# Rows of the services — what each transaction makes of one row

A transaction of a service changes at most one contact and one attempt, or
the contacts of an erased number. For each of them this is the row it
leaves, exactly, together with what it has found; later arguments read the
cases and never unfold a service again.
-/

namespace CallingAgent

open Lib

/-! ## A dropped conversation -/

/-- The session's database when the manager is asked about a drop. -/
def droppedRows (db : Db) (aid : AttemptId) (c : ContactId)
    (reason : MidCallDisconnectReason) (now : Instant) : Db :=
  ((db.logEvent aid .conversationDisconnected now).modifyAttempt aid fun a =>
      { a with state := .droppedMidCall, disconnectReason := some reason,
               endedAt := some now })
    |>.modifyContact c fun x => { x with status := .disconnected }

/-- What the manager is asked about it. -/
def dropDisconnect (aid : AttemptId) (a : CallAttempt)
    (reason : MidCallDisconnectReason) : Disconnect where
  attemptId := aid
  attemptNumber := a.attemptNumber
  neverConnected := false
  reasonKey := reason.value

/-- The manager's answer. -/
def dropRecovery (env : Env) (db : Db) (aid : AttemptId) (a : CallAttempt)
    (c : ContactId) (x : Contact) (campaign : Campaign)
    (reason : MidCallDisconnectReason) (now : Instant) : RecoveryEffect :=
  handleDisconnect env (droppedRows db aid c reason now) c
    { x with status := .disconnected } campaign (dropDisconnect aid a reason)
    now

/-! ## Changes -/

/-- The contact a processed delivery leaves. -/
def AcceptedWebhook.leftContact (env : Env) (db : Db)
    (p : DograhWebhookPayload) (w : AcceptedWebhook) (now : Instant) :
    Contact :=
  if w.outcome.state = .endedNormally then w.handedContact (p.optsOut env)
  else (w.recovery env db p now).contact

/-- What a service makes of the row `x` of a contact. -/
inductive ContactChange (env : Env) (db : Db) (now : Instant) (c : ContactId)
    (x : Contact) : ServiceOp → Contact → Prop
  | same {op : ServiceOp} : ContactChange env db now c x op x
  | moved {campaign : CampaignId} {number : String}
      (open_ : x.status ≠ .closed) (away : x.campaignId ≠ campaign)
      (target : (db.campaign campaign).isSome = true) :
      ContactChange env db now c x (.associate campaign c)
        { x with campaignId := campaign, status := .pending,
                 normalizedPhoneNumber := number }
  | removed {campaign : CampaignId} :
      ContactChange env db now c x (.removeContact campaign c)
        { x with status := .closed }
  | deactivated :
      ContactChange env db now c x (.deactivateContact c)
        { x with status := .closed }
  | erased {fingerprint : String → String} {subject : ErasureSubject}
      {suppress : Bool} {actor : String} :
      ContactChange env db now c x
        (.erase fingerprint subject suppress actor) (scrubContact now c x)
  | webhook {p : DograhWebhookPayload} {w : AcceptedWebhook}
      (found : w.Found env db p) (about : w.attempt.contactId = c)
      (row : w.contact = x) :
      ContactChange env db now c x (.dograhWebhook p)
        (w.leftContact env db p now)
  | connected {p : CallStatusPayload} {aid : AttemptId} {a : CallAttempt}
      (status : p.status = "connected")
      (found : db.attemptByProviderCallId p.providerCallId = some aid)
      (attempt : db.attempt aid = some a) (open_ : a.endedAt = none)
      (about : a.contactId = c) :
      ContactChange env db now c x (.callStatus p)
        { x with status := .inConversation }
  | swept {reads : GateReads} {aid : AttemptId} {a : CallAttempt}
      (attempt : db.attempt aid = some a) (about : a.contactId = c)
      (stuck : isStuck env a x now = true) :
      ContactChange env db now c x (.sweep reads aid)
        { x with status := .needsReview }
  | optedOut {aid : AttemptId} {a : CallAttempt}
      (attempt : db.conversationAttempt aid = some a)
      (about : a.contactId = c) :
      ContactChange env db now c x (.conversationOptOut aid)
        { x with status := .closed }
  | ended {aid : AttemptId} {a : CallAttempt} {reason : EndReason}
      {pendingPoints : List String}
      (attempt : db.conversationAttempt aid = some a)
      (about : a.contactId = c) :
      ContactChange env db now c x
        (.conversationEnds aid reason pendingPoints)
        { x with status := Conversation.endingStatus reason pendingPoints }
  | dropped {aid : AttemptId} {a : CallAttempt}
      {reason : MidCallDisconnectReason} {campaign : Campaign}
      (attempt : db.conversationAttempt aid = some a)
      (about : a.contactId = c)
      (campaign_ : db.campaign x.campaignId = some campaign) :
      ContactChange env db now c x (.conversationDrops aid reason)
        (dropRecovery env db aid a c x campaign reason now).contact
  | stranded {aid : AttemptId} {a : CallAttempt}
      {reason : MidCallDisconnectReason}
      (attempt : db.conversationAttempt aid = some a)
      (about : a.contactId = c)
      (campaign_ : db.campaign x.campaignId = none) :
      ContactChange env db now c x (.conversationDrops aid reason)
        { x with status := .disconnected }

/-- What a service makes of the row `y` of an attempt. -/
inductive AttemptChange (env : Env) (db : Db) (now : Instant) (a : AttemptId)
    (y : CallAttempt) : ServiceOp → CallAttempt → Prop
  | same {op : ServiceOp} : AttemptChange env db now a y op y
  | webhook {p : DograhWebhookPayload} {w : AcceptedWebhook}
      (found : w.Found env db p) (about : w.aid = a) (row : w.attempt = y) :
      AttemptChange env db now a y (.dograhWebhook p)
        (endAttempt w.outcome now (identifyRun p w.unresolved y))
  | connected {p : CallStatusPayload} (status : p.status = "connected")
      (found : db.attemptByProviderCallId p.providerCallId = some a)
      (open_ : y.endedAt = none) :
      AttemptChange env db now a y (.callStatus p) { y with state := .connected }
  | failed {p : CallStatusPayload} (status : p.status = "failed")
      (found : db.attemptByProviderCallId p.providerCallId = some a)
      (open_ : y.endedAt = none) {reason : Option NeverConnectedFailureReason} :
      AttemptChange env db now a y (.callStatus p)
        { y with state := .failedToConnect, endedAt := some now,
                 connectionFailureReason := reason }
  | swept {reads : GateReads} {x : Contact}
      (contact : db.contact y.contactId = some x)
      (stuck : isStuck env y x now = true) (noRun : y.providerCallId = none) :
      AttemptChange env db now a y (.sweep reads a)
        { y with provider := y.provider.or (some "dograh"),
                 state := .failedToConnect,
                 connectionFailureReason := some .providerError,
                 endedAt := some now }
  | ended {reason : EndReason} {pendingPoints : List String}
      (attempt : db.conversationAttempt a = some y) :
      AttemptChange env db now a y (.conversationEnds a reason pendingPoints)
        { y with state := .endedNormally, endedAt := some now }
  | dropped {reason : MidCallDisconnectReason}
      (attempt : db.conversationAttempt a = some y) :
      AttemptChange env db now a y (.conversationDrops a reason)
        { y with state := .droppedMidCall, disconnectReason := some reason,
                 endedAt := some now }

/-- What a service makes of the row of a campaign. -/
inductive CampaignChange (c : CampaignId) (row : Campaign) :
    ServiceOp → Campaign → Prop
  | same {op : ServiceOp} : CampaignChange c row op row
  | updated {data : CampaignUpdate} :
      CampaignChange c row (.updateCampaign c data) (data.applied row)

/-- The retry a service schedules is one the recovery manager decided. -/
inductive EntryMade (env : Env) (db : Db) (now : Instant) :
    ServiceOp → Option (RecoveryJob × Instant) → Prop
  | none {op : ServiceOp} : EntryMade env db now op none
  | webhook {p : DograhWebhookPayload} {w : AcceptedWebhook}
      (found : w.Found env db p) (state : w.outcome.state ≠ .endedNormally) :
      EntryMade env db now (.dograhWebhook p) (w.recovery env db p now).entry
  | dropped {aid : AttemptId} {a : CallAttempt} {x : Contact}
      {reason : MidCallDisconnectReason} {campaign : Campaign}
      (attempt : db.conversationAttempt aid = some a)
      (contact : db.contact a.contactId = some x)
      (campaign_ : db.campaign x.campaignId = some campaign) :
      EntryMade env db now (.conversationDrops aid reason)
        (dropRecovery env db aid a a.contactId x campaign reason now).entry

/-- Everything a transaction of a service does to contacts and attempts. -/
structure ServiceEffect (env : Env) (db : Db) (now : Instant) (op : ServiceOp)
    (r : Db × Option (RecoveryJob × Instant)) : Prop where
  contact : ∀ c x, db.contact c = some x →
    ∃ x', r.1.contact c = some x' ∧ ContactChange env db now c x op x'
  created : ∀ c x', db.contact c = none → r.1.contact c = some x' →
    ∃ campaign number, x' =
      { campaignId := campaign, normalizedPhoneNumber := number } ∧
      (r.1.campaign campaign).isSome = true
  attempt : ∀ a y, db.attempt a = some y →
    ∃ y', r.1.attempt a = some y' ∧ AttemptChange env db now a y op y'
  noAttempt : ∀ a, db.attempt a = none → r.1.attempt a = none
  entry : EntryMade env db now op r.2
  deferrals : r.1.reconciliationDeferrals = db.reconciliationDeferrals
  policies : ∀ c, (db.campaign c).isSome = true →
    AList.lookup c r.1.retryPolicies = AList.lookup c db.retryPolicies
  campaigns : ∀ c row, db.campaign c = some row →
    ∃ row', r.1.campaign c = some row' ∧ CampaignChange c row op row'

/-! ## Writes to one contact and one attempt -/

/-- Only the rows of `c` and of `a` may differ, beside what no dialer
reads. -/
structure Db.Local (c : ContactId) (a : AttemptId) (db db' : Db) : Prop where
  contact : ∀ k, k ≠ c → db'.contact k = db.contact k
  attempt : ∀ k, k ≠ a → db'.attempt k = db.attempt k
  deferrals : db'.reconciliationDeferrals = db.reconciliationDeferrals
  policies : db'.retryPolicies = db.retryPolicies
  campaigns : db'.campaigns = db.campaigns

namespace Db.Local

variable {db db' db'' : Db} {c : ContactId} {a : AttemptId}

theorem refl (db : Db) : Db.Local c a db db :=
  ⟨fun _ _ => rfl, fun _ _ => rfl, rfl, rfl, rfl⟩

theorem trans (h : Db.Local c a db db') (h' : Db.Local c a db' db'') :
    Db.Local c a db db'' where
  contact k hk := (h'.contact k hk).trans (h.contact k hk)
  attempt k hk := (h'.attempt k hk).trans (h.attempt k hk)
  deferrals := h'.deferrals.trans h.deferrals
  policies := h'.policies.trans h.policies
  campaigns := h'.campaigns.trans h.campaigns

theorem modifyContact (h : Db.Local c a db db') (f : Contact → Contact) :
    Db.Local c a db (db'.modifyContact c f) :=
  h.trans ⟨fun k hk => by rw [Db.contact_modifyContact, if_neg hk],
    fun _ _ => rfl, rfl, rfl, rfl⟩

theorem setContact (h : Db.Local c a db db') (x : Contact) :
    Db.Local c a db (db'.setContact c x) :=
  h.modifyContact _

theorem modifyAttempt (h : Db.Local c a db db')
    (f : CallAttempt → CallAttempt) :
    Db.Local c a db (db'.modifyAttempt a f) :=
  h.trans ⟨fun _ _ => rfl,
    fun k hk => by rw [Db.attempt_modifyAttempt, if_neg hk], rfl, rfl, rfl⟩

theorem setAttempt (h : Db.Local c a db db') (y : CallAttempt) :
    Db.Local c a db (db'.setAttempt a y) :=
  h.modifyAttempt _

/-- Writes beside contacts and attempts. -/
theorem logEvent (h : Db.Local c a db db') (b : AttemptId) (ty : EventType)
    (t : Instant) : Db.Local c a db (db'.logEvent b ty t) :=
  ⟨h.contact, h.attempt, h.deferrals, h.policies, h.campaigns⟩

theorem insertSession (h : Db.Local c a db db') (b : AttemptId) :
    Db.Local c a db (db'.insertSession b) :=
  ⟨h.contact, h.attempt, h.deferrals, h.policies, h.campaigns⟩

theorem insertProcessedEvent (h : Db.Local c a db db') (e : String) :
    Db.Local c a db (db'.insertProcessedEvent e) :=
  ⟨h.contact, h.attempt, h.deferrals, h.policies, h.campaigns⟩

theorem setSuppressions (h : Db.Local c a db db') (t : SuppressionTable) :
    Db.Local c a db (db'.setSuppressions t) :=
  ⟨h.contact, h.attempt, h.deferrals, h.policies, h.campaigns⟩

end Db.Local

section

variable {env : Env} {db db' : Db} {now : Instant} {op : ServiceOp}

/-- The effect of a transaction that is local to one contact and one
attempt. -/
theorem ServiceEffect.of_local {c : ContactId} {a : AttemptId}
    {entry : Option (RecoveryJob × Instant)} (h : Db.Local c a db db')
    (hc : ∀ x, db.contact c = some x →
      ∃ x', db'.contact c = some x' ∧ ContactChange env db now c x op x')
    (hcn : db.contact c = none → db'.contact c = none)
    (ha : ∀ y, db.attempt a = some y →
      ∃ y', db'.attempt a = some y' ∧ AttemptChange env db now a y op y')
    (han : db.attempt a = none → db'.attempt a = none)
    (he : EntryMade env db now op entry) :
    ServiceEffect env db now op (db', entry) where
  contact k x hx := by
    by_cases hk : k = c
    · subst hk
      exact hc x hx
    · exact ⟨x, (h.contact k hk).trans hx, .same⟩
  created k x' hn hx := by
    by_cases hk : k = c
    · subst hk
      rw [hcn hn] at hx
      cases hx
    · rw [h.contact k hk, hn] at hx
      cases hx
  attempt k y hy := by
    by_cases hk : k = a
    · subst hk
      exact ha y hy
    · exact ⟨y, (h.attempt k hk).trans hy, .same⟩
  noAttempt k hn := by
    by_cases hk : k = a
    · subst hk
      exact han hn
    · exact (h.attempt k hk).trans hn
  entry := he
  deferrals := h.deferrals
  policies _ _ := by rw [h.policies]
  campaigns k row hk := by
    refine ⟨row, ?_, .same⟩
    unfold Db.campaign
    rw [h.campaigns]
    exact hk

/-- One contact is rewritten. -/
theorem ServiceEffect.oneContact {c : ContactId} {f : Contact → Contact}
    (h : ∀ x, db.contact c = some x → ContactChange env db now c x op (f x)) :
    ServiceEffect env db now op (db.modifyContact c f, none) := by
  refine .of_local (a := 0) ((Db.Local.refl db).modifyContact f)
    (fun x hx => ⟨f x, ?_, h x hx⟩) (fun hn => ?_)
    (fun y hy => ⟨y, hy, .same⟩) id .none
  · rw [Db.contact_modifyContact, if_pos rfl, hx]
    rfl
  · rw [Db.contact_modifyContact, hn]
    split <;> rfl

/-- Contacts and attempts are not touched. -/
theorem ServiceEffect.beside (hc : ∀ c, db'.contact c = db.contact c)
    (ha : ∀ a, db'.attempt a = db.attempt a)
    (hd : db'.reconciliationDeferrals = db.reconciliationDeferrals)
    (hp : db'.retryPolicies = db.retryPolicies)
    (hk : ∀ c row, db.campaign c = some row →
      ∃ row', db'.campaign c = some row' ∧ CampaignChange c row op row') :
    ServiceEffect env db now op (db', none) where
  contact c x hx := ⟨x, (hc c).trans hx, .same⟩
  created c x' hn hx := by
    rw [hc c, hn] at hx
    cases hx
  attempt a y hy := ⟨y, (ha a).trans hy, .same⟩
  noAttempt a hn := (ha a).trans hn
  entry := .none
  deferrals := hd
  policies _ _ := by rw [hp]
  campaigns := hk

theorem ServiceEffect.refl : ServiceEffect env db now op (db, none) :=
  .beside (fun _ => rfl) (fun _ => rfl) rfl rfl fun _ row h => ⟨row, h, .same⟩

/-! ## Campaigns and contacts -/

theorem updateCampaign_effect {c : CampaignId} {data : CampaignUpdate}
    (h : updateCampaign db c data = .ok db') :
    ServiceEffect env db now (.updateCampaign c data) (db', none) := by
  obtain ⟨row, hrow, rfl⟩ := updateCampaign_ok h
  refine .beside (fun _ => rfl) (fun _ => rfl) rfl rfl fun k old hk => ?_
  have hlookup : (db.modifyCampaign c fun _ => data.applied row).campaign k
      = if k = c then (db.campaign k).map fun _ => data.applied row
        else db.campaign k := Table.lookup_modify _ _ _ _
  rw [hlookup]
  split
  · next hkc =>
    subst hkc
    rw [hrow] at hk
    cases hk
    exact ⟨_, by rw [hrow]; rfl, .updated⟩
  · exact ⟨old, hk, .same⟩

theorem associate_effect {c : CampaignId} {contact : ContactId}
    (h : associate env db c contact = .ok db') :
    ServiceEffect env db now (.associate c contact) (db', none) := by
  rcases associate_ok h with rfl | ⟨x, number, hx, hopen, haway, htarget, rfl⟩
  · exact .refl
  · refine .oneContact fun y hy => ?_
    rw [hx] at hy
    cases hy
    exact .moved hopen haway htarget

theorem removeContact_effect {c : CampaignId} {contact : ContactId}
    (h : removeContact db c contact = .ok db') :
    ServiceEffect env db now (.removeContact c contact) (db', none) := by
  have hframe : db' = db.modifyContact contact
      fun x => { x with status := .closed } := by
    unfold removeContact at h
    grind
  rw [hframe]
  exact .oneContact fun x _ => .removed

theorem deactivateContact_effect {contact : ContactId}
    (h : deactivateContact db contact = .ok db') :
    ServiceEffect env db now (.deactivateContact contact) (db', none) := by
  have hframe : db' = db.modifyContact contact
      fun x => { x with status := .closed } := by
    unfold deactivateContact at h
    grind
  rw [hframe]
  exact .oneContact fun x _ => .deactivated

/-- A contact is added under a new id. -/
theorem ServiceEffect.insertContact
    {op : ServiceOp} (campaign : CampaignId) (number : String)
    (hc : (db'.campaign campaign).isSome = true)
    (h : ServiceEffect env db now op (db', none)) :
    ServiceEffect env db now op (db'.insertContact
      { campaignId := campaign, normalizedPhoneNumber := number }, none) where
  contact c x hx := by
    obtain ⟨x', hx', hch⟩ := h.contact c x hx
    have hne : c ≠ db'.contacts.nextKey := (Table.lt_nextKey hx').ne
    refine ⟨x', ?_, hch⟩
    rw [Db.contact_insertContact, if_neg hne]
    exact hx'
  created c x' hn hx := by
    rw [Db.contact_insertContact] at hx
    split at hx
    · exact ⟨campaign, number, (Option.some.inj hx).symm, hc⟩
    · exact h.created c x' hn hx
  attempt := h.attempt
  noAttempt := h.noAttempt
  entry := .none
  deferrals := h.deferrals
  policies := h.policies
  campaigns := h.campaigns

theorem createContact_effect {c : CampaignId} {number : String}
    (h : createContact env db c number = .ok db') :
    ServiceEffect env db now (.createContact c number) (db', none) := by
  have hframe : (db.campaign c).isSome = true ∧ ∃ n, db' = db.insertContact
      { campaignId := c, normalizedPhoneNumber := n } := by
    unfold createContact at h
    grind
  obtain ⟨hc, n, rfl⟩ := hframe
  exact ServiceEffect.refl.insertContact c n hc

theorem insertNumbers_effect {op : ServiceOp} (c : CampaignId)
    (numbers : List String) (db' : Db) (hc : (db'.campaign c).isSome = true)
    (h : ServiceEffect env db now op (db', none)) :
    ServiceEffect env db now op (numbers.foldl (fun db n => db.insertContact
      { campaignId := c, normalizedPhoneNumber := n }) db', none) := by
  induction numbers generalizing db' with
  | nil => exact h
  | cons n numbers ih => exact ih _ hc (h.insertContact c n hc)

theorem importContacts_effect {numbers : List String}
    (h : importContacts env db numbers = .ok db') :
    ServiceEffect env db now (.importContacts numbers) (db', none) := by
  have hnew : ∀ (row : Campaign) (policy : RetryPolicy),
      ServiceEffect env db now (.importContacts numbers)
        (db.insertCampaign row policy, none) := by
    intro row policy
    have hne : ∀ c, (db.campaign c).isSome = true →
        c ≠ db.campaigns.nextKey := by
      intro c hc
      obtain ⟨y, hy⟩ := Option.isSome_iff_exists.mp hc
      exact (Table.lt_nextKey hy).ne
    constructor
    case contact => exact fun c x hx => ⟨x, hx, .same⟩
    case created =>
      intro c x' hn hx
      rw [(Db.insertCampaign_frame ..).2.2.1, hn] at hx
      cases hx
    case attempt => exact fun a y hy => ⟨y, hy, .same⟩
    case noAttempt => exact fun _ hn => hn
    case entry => exact .none
    case deferrals => rfl
    case policies =>
      intro c hc
      show AList.lookup c (AList.insert _ _ _) = _
      rw [AList.lookup_insert_ne (hne c hc)]
    case campaigns =>
      intro c row hc
      refine ⟨row, ?_, .same⟩
      show AList.lookup c (AList.insert _ _ _) = _
      rw [AList.lookup_insert_ne (hne c (by rw [hc]; rfl))]
      exact hc
  unfold importContacts at h
  split at h
  · cases h
  · split at h
    · cases h
      exact .refl
    · cases h
      refine insertNumbers_effect _ _ _ ?_ (hnew _ _)
      show (AList.lookup _ (AList.insert _ _ _)).isSome = true
      rw [AList.lookup_insert]
      rfl

theorem addSuppression_effect {number : String} {reason : Option String}
    {contact : Option ContactId} {actor : String}
    (h : addSuppression env db number reason contact actor = .ok db') :
    ServiceEffect env db now (.addSuppression number reason contact actor)
      (db', none) := by
  have hframe : ∃ t, db' = db.setSuppressions t := by
    unfold addSuppression at h
    grind
  obtain ⟨t, rfl⟩ := hframe
  exact .beside (fun _ => rfl) (fun _ => rfl) rfl rfl
    fun _ row h => ⟨row, h, .same⟩

theorem erase_effect {fingerprint : String → String}
    {subject : ErasureSubject} {suppress : Bool} {actor : String}
    (h : erase env fingerprint db subject suppress actor now = .ok db') :
    ServiceEffect env db now (.erase fingerprint subject suppress actor)
      (db', none) := by
  unfold erase at h
  split at h
  · cases h
  · cases h
    exact .refl
  · next e164 _ =>
    split at h
    · cases h
    · cases h
      have hlookup : ∀ c, AList.lookup c (db.contacts.mapRows fun id c =>
          if c.normalizedPhoneNumber == e164 then scrubContact now id c
          else c) = (db.contact c).map fun x =>
            if x.normalizedPhoneNumber == e164 then scrubContact now c x
            else x :=
        fun c => Table.lookup_mapRows _ _ _
      constructor
      case contact =>
        intro c x hx
        refine ⟨_, (hlookup c).trans (by rw [hx]; rfl), ?_⟩
        dsimp only
        split
        · exact .erased
        · exact .same
      case created =>
        intro c x' hn hx
        have hx := (hlookup c).symm.trans hx
        rw [hn] at hx
        cases hx
      case attempt => exact fun a y hy => ⟨y, hy, .same⟩
      case noAttempt => exact fun _ hn => hn
      case entry => exact .none
      case deferrals => rfl
      case policies => exact fun _ _ => rfl
      case campaigns => exact fun _ row h => ⟨row, h, .same⟩

/-! ## Calls -/

theorem openOutcome_local {p : DograhWebhookPayload} {w : AcceptedWebhook}
    (optedOut : Bool) :
    Db.Local w.attempt.contactId w.aid db
      (openOutcome env db p w optedOut).1 := by
  have hopen : ∀ x : Contact, Db.Local w.attempt.contactId w.aid db
      (((db.insertProcessedEvent p.eventId).setAttempt w.aid
        (identifyRun p w.unresolved w.attempt)).setContact
          w.attempt.contactId x) :=
    fun x => (((Db.Local.refl db).insertProcessedEvent _).setAttempt
      _).setContact x
  unfold openOutcome
  cases optedOut with
  | false => exact hopen _
  | true => exact ((hopen _).setSuppressions _).modifyContact _

theorem applyWebhook_local {p : DograhWebhookPayload} {w : AcceptedWebhook}
    {step : WebhookStep} (h : applyWebhook env db p w now = .ok step) :
    Db.Local w.attempt.contactId w.aid db step.db := by
  have hended : Db.Local w.attempt.contactId w.aid db (endedDb env db p w now) :=
    (@openOutcome_local env db p w (p.optsOut env)).setAttempt
      (endAttempt w.outcome now (identifyRun p w.unresolved w.attempt))
  cases applyWebhook_applied h with
  | neverConnected => exact (hended.setContact _).logEvent _ _ _
  | droppedMidCall =>
      exact (((hended.insertSession _).setContact _).setContact _).logEvent _ _ _
  | endedNormally => exact (hended.insertSession _).setContact _

/-- The rows a processed delivery leaves, and the retry it schedules. -/
structure AcceptedWebhook.Rows (env : Env) (db : Db)
    (p : DograhWebhookPayload) (w : AcceptedWebhook) (now : Instant)
    (step : WebhookStep) : Prop where
  found : w.Found env db p
  local_ : Db.Local w.attempt.contactId w.aid db step.db
  contact : step.db.contact w.attempt.contactId
    = some (w.leftContact env db p now)
  attempt : step.db.attempt w.aid
    = some (endAttempt w.outcome now (identifyRun p w.unresolved w.attempt))
  entry : step.entry = if w.outcome.state = .endedNormally then none
    else (w.recovery env db p now).entry

theorem dograhWebhook_rows {p : DograhWebhookPayload} {step : WebhookStep}
    (h : processDograhWebhook env db p now = .ok step) :
    step.db = db ∧ step.entry = none ∨
      ∃ w : AcceptedWebhook, w.Rows env db p now step := by
  unfold processDograhWebhook at h
  cases ha : admitWebhook env db p with
  | rejected e => rw [ha] at h; cases h
  | answered o =>
      rw [ha] at h
      cases h
      exact .inl ⟨rfl, rfl⟩
  | accepted w =>
      rw [ha] at h
      have hf := admitWebhook_accepted ha
      have hspec := applyWebhook_spec hf h
      have hleft := applyWebhook_contact hf h
      refine .inr ⟨w, hf, applyWebhook_local h, ?_,
        (hspec.attempt w.aid).trans (if_pos rfl), ?_⟩
      · unfold AcceptedWebhook.leftContact
        by_cases hs : w.outcome.state = .endedNormally
        · rw [if_pos hs] at hleft ⊢
          exact hleft.2
        · rw [if_neg hs] at hleft ⊢
          exact hleft.2
      · by_cases hs : w.outcome.state = .endedNormally
        · rw [if_pos hs] at hleft ⊢
          exact hleft.1
        · rw [if_neg hs] at hleft ⊢
          exact hleft.1

theorem dograhWebhook_effect {p : DograhWebhookPayload} {step : WebhookStep}
    (h : processDograhWebhook env db p now = .ok step) :
    ServiceEffect env db now (.dograhWebhook p) (step.db, step.entry) := by
  rcases dograhWebhook_rows h with ⟨hdb, hentry⟩ | ⟨w, hr⟩
  · rw [hdb, hentry]
    exact .refl
  · have hf := hr.found
    refine .of_local hr.local_ (fun x hx => ?_) (fun hn => ?_)
      (fun y hy => ?_) (fun hn => ?_) ?_
    · rw [hf.contact] at hx
      cases hx
      exact ⟨_, hr.contact, .webhook hf rfl rfl⟩
    · rw [hf.contact] at hn
      cases hn
    · rw [hf.attempt] at hy
      cases hy
      exact ⟨_, hr.attempt, .webhook hf rfl rfl⟩
    · rw [hf.attempt] at hn
      cases hn
    · rw [hr.entry]
      split
      · exact .none
      · next hs => exact .webhook hf hs

/-- A native status report is a replay, or connects or fails an attempt
without an end. -/
theorem processCallStatus_cases {p : CallStatusPayload}
    (h : processCallStatus db p now = .ok db') :
    db' = db ∨ ∃ aid y, db.attemptByProviderCallId p.providerCallId = some aid ∧
      db.attempt aid = some y ∧ y.endedAt = none ∧
      (p.status = "connected" ∧ db' = ((db.modifyAttempt aid fun a =>
          { a with state := .connected }).modifyContact y.contactId fun c =>
          { c with status := .inConversation }).insertProcessedEvent p.eventId ∨
        p.status = "failed" ∧ ∃ reason : Option NeverConnectedFailureReason,
          db' = (db.modifyAttempt aid fun a =>
            { a with state := .failedToConnect, endedAt := some now,
                     connectionFailureReason := reason.or
                      a.connectionFailureReason }).insertProcessedEvent
            p.eventId) := by
  unfold processCallStatus at h
  split at h
  · exact .inl (Except.ok.inj h).symm
  split at h
  · cases h
  next aid haid =>
  split at h
  · cases h
  next y hy =>
  split at h
  · cases h
  next hopen =>
  refine .inr ⟨aid, y, haid, hy, by simpa using hopen, ?_⟩
  cases hrows : callStatusRows db aid y p now with
  | error e => rw [hrows] at h; cases h
  | ok db₀ =>
      rw [hrows] at h
      cases h
      unfold callStatusRows at hrows
      split at hrows
      · next hs =>
        cases hrows
        exact .inl ⟨hs, rfl⟩
      · split at hrows
        · next hs =>
          split at hrows
          · cases hrows
            exact .inr ⟨hs, none, rfl⟩
          · split at hrows
            · cases hrows
            · next reason _ =>
              cases hrows
              exact .inr ⟨hs, some reason, rfl⟩
        · cases hrows

theorem callStatus_effect {p : CallStatusPayload}
    (h : processCallStatus db p now = .ok db') :
    ServiceEffect env db now (.callStatus p) (db', none) := by
  rcases processCallStatus_cases h with rfl | ⟨aid, y, haid, hy, hopen,
    ⟨hs, rfl⟩ | ⟨hs, reason, rfl⟩⟩
  · exact .refl
  · refine .of_local (c := y.contactId) (a := aid)
      ((((Db.Local.refl db).modifyAttempt _).modifyContact
        _).insertProcessedEvent _) (fun x hx => ?_) (fun hn => ?_)
      (fun z hz => ?_) (fun hn => ?_) .none
    · refine ⟨_, ?_, .connected hs haid hy hopen rfl⟩
      rw [(Db.insertProcessedEvent_frame ..).1, Db.contact_modifyContact,
        if_pos rfl, (Db.modifyAttempt_frame ..).1, hx]
      rfl
    · rw [(Db.insertProcessedEvent_frame ..).1, Db.contact_modifyContact,
        if_pos rfl, (Db.modifyAttempt_frame ..).1, hn]
      rfl
    · rw [hy] at hz
      cases hz
      refine ⟨_, ?_, .connected hs haid hopen⟩
      rw [(Db.insertProcessedEvent_frame ..).2.1,
        (Db.modifyContact_frame ..).2.1, Db.attempt_modifyAttempt,
        if_pos rfl, hy]
      rfl
    · rw [hy] at hn
      cases hn
  · refine .of_local (c := y.contactId) (a := aid)
      (((Db.Local.refl db).modifyAttempt _).insertProcessedEvent _)
      (fun x hx => ⟨x, hx, .same⟩) id (fun z hz => ?_) (fun hn => ?_) .none
    · rw [hy] at hz
      cases hz
      refine ⟨_, ?_, @AttemptChange.failed _ _ _ _ _ _ hs haid hopen
        (reason.or y.connectionFailureReason)⟩
      rw [(Db.insertProcessedEvent_frame ..).2.1,
        Db.attempt_modifyAttempt, if_pos rfl, hy]
      rfl
    · rw [hy] at hn
      cases hn

/-- The sweep marks an attempt that is stuck. -/
theorem sweepAttempt_cases {reads : GateReads} {aid : AttemptId}
    (h : sweepAttempt env db reads aid now = some db') :
    ∃ y x, db.attempt aid = some y ∧ db.contact y.contactId = some x ∧
      isStuck env y x now = true ∧ db' = markForReview db aid y now := by
  unfold sweepAttempt at h
  split at h
  · cases h
  split at h
  · cases h
  next y hy =>
  split at h
  · cases h
  next x hx =>
  split at h
  · next hstuck => exact ⟨y, x, hy, hx, hstuck, (Option.some.inj h).symm⟩
  · cases h

/-- Its contact waits for a review. -/
theorem markForReview_contact {aid : AttemptId} {y : CallAttempt} {x : Contact}
    (hx : db.contact y.contactId = some x) :
    (markForReview db aid y now).contact y.contactId
      = some { x with status := .needsReview } := by
  unfold markForReview
  rw [(Db.logEvent_frame ..).1, Db.contact_modifyContact, if_pos rfl]
  split
  · rw [hx]
    rfl
  · rw [(Db.logEvent_frame ..).1, (Db.modifyAttempt_frame ..).1, hx]
    rfl

/-- A row without a run is failed. -/
theorem markForReview_attempt {aid : AttemptId} {y : CallAttempt}
    (hy : db.attempt aid = some y) (hrun : y.providerCallId = none) :
    (markForReview db aid y now).attempt aid = some
      { y with provider := y.provider.or (some "dograh"),
               state := .failedToConnect,
               connectionFailureReason := some .providerError,
               endedAt := some now } := by
  unfold markForReview
  rw [if_neg (by simp [hrun]), (Db.logEvent_frame ..).2.1, (Db.modifyContact_frame ..).2.1,
    (Db.logEvent_frame ..).2.1, Db.attempt_modifyAttempt, if_pos rfl, hy]
  rfl

theorem markForReview_local {aid : AttemptId} {y : CallAttempt} :
    Db.Local y.contactId aid db (markForReview db aid y now) := by
  unfold markForReview
  split
  · exact ((Db.Local.refl db).modifyContact _).logEvent _ _ _
  · exact ((((Db.Local.refl db).modifyAttempt _).logEvent _ _
      _).modifyContact _).logEvent _ _ _

theorem sweep_effect {reads : GateReads} {aid : AttemptId}
    (h : sweepAttempt env db reads aid now = some db') :
    ServiceEffect env db now (.sweep reads aid) (db', none) := by
  obtain ⟨y, x, hy, hx, hstuck, rfl⟩ := sweepAttempt_cases h
  refine .of_local markForReview_local (fun z hz => ?_) (fun hn => ?_)
    (fun z hz => ?_) (fun hn => ?_) .none
  · rw [hx] at hz
    cases hz
    exact ⟨_, markForReview_contact hx, .swept hy rfl hstuck⟩
  · rw [hx] at hn
    cases hn
  · rw [hy] at hz
    cases hz
    cases hrun : y.providerCallId with
    | none =>
        exact ⟨_, markForReview_attempt hy hrun, .swept hx hstuck hrun⟩
    | some run =>
        refine ⟨y, ?_, .same⟩
        unfold markForReview
        rw [if_pos (by simp [hrun])]
        exact hy
  · rw [hy] at hn
    cases hn

/-! ## Conversations -/

theorem conversationAttempt_some {aid : AttemptId} {a : CallAttempt}
    (h : db.conversationAttempt aid = some a) : db.attempt aid = some a :=
  (Option.filter_eq_some_iff.mp h).1

theorem endingRows_effect {aid : AttemptId} {a : CallAttempt}
    {reason : EndReason} {pendingPoints : List String}
    (h : db.conversationAttempt aid = some a) :
    ServiceEffect env db now (.conversationEnds aid reason pendingPoints)
      (Conversation.endingRows db aid a.contactId
        (Conversation.endingStatus reason pendingPoints) now, none) := by
  have ha := conversationAttempt_some h
  refine .of_local (c := a.contactId) (a := aid)
    ((((Db.Local.refl db).logEvent _ _ _).modifyAttempt _).modifyContact _)
    (fun x hx => ?_) (fun hn => ?_) (fun y hy => ?_) (fun hn => ?_) .none
  · refine ⟨_, ?_, .ended h rfl⟩
    rw [Conversation.endingRows, Db.contact_modifyContact, if_pos rfl,
      (Db.modifyAttempt_frame ..).1, (Db.logEvent_frame ..).1, hx]
    rfl
  · rw [Conversation.endingRows, Db.contact_modifyContact, if_pos rfl,
      (Db.modifyAttempt_frame ..).1, (Db.logEvent_frame ..).1, hn]
    rfl
  · rw [ha] at hy
    cases hy
    refine ⟨_, ?_, .ended h⟩
    rw [Conversation.endingRows, (Db.modifyContact_frame ..).2.1,
      Db.attempt_modifyAttempt, if_pos rfl, (Db.logEvent_frame ..).2.1, ha]
    rfl
  · rw [ha] at hn
    cases hn

theorem droppedRows_local (aid : AttemptId) (c : ContactId)
    (reason : MidCallDisconnectReason) :
    Db.Local c aid db (droppedRows db aid c reason now) :=
  (((Db.Local.refl db).logEvent _ _ _).modifyAttempt _).modifyContact _

theorem droppedRows_contact {aid : AttemptId} {c : ContactId}
    {reason : MidCallDisconnectReason} :
    (droppedRows db aid c reason now).contact c
      = (db.contact c).map fun x => { x with status := .disconnected } := by
  rw [droppedRows, Db.contact_modifyContact, if_pos rfl,
    (Db.modifyAttempt_frame ..).1, (Db.logEvent_frame ..).1]

theorem droppedRows_attempt {aid : AttemptId} {c : ContactId}
    {reason : MidCallDisconnectReason} :
    (droppedRows db aid c reason now).attempt aid
      = (db.attempt aid).map fun a =>
          { a with state := .droppedMidCall, disconnectReason := some reason,
                   endedAt := some now } := by
  rw [droppedRows, (Db.modifyContact_frame ..).2.1, Db.attempt_modifyAttempt,
    if_pos rfl, (Db.logEvent_frame ..).2.1]

/-- The rows of a drop, the manager asked where it can be. -/
theorem disconnectRows_eq {aid : AttemptId} {a : CallAttempt}
    {reason : MidCallDisconnectReason} (ha : db.attempt aid = some a) :
    Conversation.disconnectRows env db aid a.contactId reason now
      = match db.contact a.contactId with
        | some x =>
            match db.campaign x.campaignId with
            | none => (droppedRows db aid a.contactId reason now, none)
            | some campaign =>
                let e := dropRecovery env db aid a a.contactId x campaign
                  reason now
                (((droppedRows db aid a.contactId reason now).setContact
                  a.contactId e.contact).logEvent aid e.event now, e.entry)
        | none => (droppedRows db aid a.contactId reason now, none) := by
  unfold Conversation.disconnectRows
  dsimp only
  rw [show ((db.logEvent aid .conversationDisconnected now).modifyAttempt aid
    fun a => { a with state := .droppedMidCall,
                      disconnectReason := some reason,
                      endedAt := some now }).modifyContact a.contactId
      (fun x => { x with status := .disconnected })
    = droppedRows db aid a.contactId reason now from rfl, droppedRows_attempt,
    ha, droppedRows_contact]
  cases db.contact a.contactId <;> rfl

/-- Everything a drop writes, beside the contact's row. -/
theorem disconnectRows_rows {aid : AttemptId} {a : CallAttempt}
    {reason : MidCallDisconnectReason} (ha : db.attempt aid = some a) :
    Db.Local a.contactId aid db
        (Conversation.disconnectRows env db aid a.contactId reason now).1 ∧
      (Conversation.disconnectRows env db aid a.contactId reason now).1.attempt
          aid = some { a with state := .droppedMidCall,
                              disconnectReason := some reason,
                              endedAt := some now } := by
  have hlocal : Db.Local a.contactId aid db
      (droppedRows db aid a.contactId reason now) :=
    droppedRows_local aid a.contactId reason
  have hattempt : (droppedRows db aid a.contactId reason now).attempt aid
      = some { a with state := .droppedMidCall, disconnectReason := some reason,
                      endedAt := some now } := by
    rw [droppedRows_attempt, ha]
    rfl
  rw [disconnectRows_eq ha]
  split
  · split
    · exact ⟨hlocal, hattempt⟩
    · exact ⟨(hlocal.setContact _).logEvent _ _ _, hattempt⟩
  · exact ⟨hlocal, hattempt⟩

/-- And the contact's row. -/
theorem disconnectRows_contact {aid : AttemptId} {a : CallAttempt}
    {reason : MidCallDisconnectReason} {x : Contact}
    (h : db.conversationAttempt aid = some a)
    (hx : db.contact a.contactId = some x) :
    ∃ x', (Conversation.disconnectRows env db aid a.contactId reason
        now).1.contact a.contactId = some x' ∧
      ContactChange env db now a.contactId x (.conversationDrops aid reason)
        x' := by
  rw [disconnectRows_eq (conversationAttempt_some h), hx]
  dsimp only
  cases hg : db.campaign x.campaignId with
  | none =>
      refine ⟨_, ?_, .stranded h rfl hg⟩
      rw [droppedRows_contact, hx]
      rfl
  | some campaign =>
      refine ⟨_, ?_, .dropped h rfl hg⟩
      rw [(Db.logEvent_frame ..).1, Db.contact_setContact, if_pos rfl,
        droppedRows_contact, hx]
      rfl

theorem disconnectRows_effect {aid : AttemptId} {a : CallAttempt}
    {reason : MidCallDisconnectReason}
    (h : db.conversationAttempt aid = some a) :
    ServiceEffect env db now (.conversationDrops aid reason)
      (Conversation.disconnectRows env db aid a.contactId reason now) := by
  have ha := conversationAttempt_some h
  obtain ⟨hlocal, hattempt⟩ := @disconnectRows_rows env db now aid a reason ha
  show ServiceEffect env db now _
    ((Conversation.disconnectRows env db aid a.contactId reason now).1,
      (Conversation.disconnectRows env db aid a.contactId reason now).2)
  refine .of_local hlocal (fun x => disconnectRows_contact h) (fun hn => ?_)
    (fun y hy => ?_) (fun hn => ?_) ?_
  · rw [disconnectRows_eq ha, hn]
    exact droppedRows_contact.trans (by rw [hn]; rfl)
  · rw [ha] at hy
    cases hy
    exact ⟨_, hattempt, .dropped h⟩
  · rw [ha] at hn
    cases hn
  · rw [disconnectRows_eq ha]
    cases hx : db.contact a.contactId with
    | none => exact .none
    | some x =>
        cases hg : db.campaign x.campaignId with
        | none =>
            dsimp only
            rw [hg]
            exact .none
        | some campaign =>
            dsimp only
            rw [hg]
            exact .dropped h hx hg

/-- **Every service, row by row.** -/
theorem serviceStep_effect {r : Db × Option (RecoveryJob × Instant)}
    (h : serviceStep env db now op = some r) :
    ServiceEffect env db now op r := by
  have hplain : ∀ {x : Except AppError Db},
      x.toOption.map (·, (none : Option (RecoveryJob × Instant))) = some r →
      (∀ db', x = .ok db' → ServiceEffect env db now op (db', none)) →
      ServiceEffect env db now op r := by
    intro x hx hall
    obtain ⟨db', hdb, rfl⟩ := Option.map_eq_some_iff.mp hx
    exact hall _ (ok_of_toOption hdb)
  cases op with
  | updateCampaign c data => exact hplain h fun _ => updateCampaign_effect
  | associate c contact => exact hplain h fun _ => associate_effect
  | removeContact c contact => exact hplain h fun _ => removeContact_effect
  | deactivateContact contact => exact hplain h fun _ => deactivateContact_effect
  | createContact c number => exact hplain h fun _ => createContact_effect
  | importContacts numbers => exact hplain h fun _ => importContacts_effect
  | addSuppression number reason contact actor =>
      exact hplain h fun _ => addSuppression_effect
  | erase fingerprint subject suppress actor =>
      exact hplain h fun _ => erase_effect
  | dograhWebhook p =>
      obtain ⟨step, hp, rfl⟩ := Option.map_eq_some_iff.mp h
      exact dograhWebhook_effect (ok_of_toOption hp)
  | callStatus p => exact hplain h fun _ => callStatus_effect
  | sweep reads aid =>
      obtain ⟨db', hs, rfl⟩ := Option.map_eq_some_iff.mp h
      exact sweep_effect hs
  | conversationOptOut aid =>
      obtain ⟨a, ha, h⟩ := Option.bind_eq_some_iff.mp h
      obtain ⟨contact, _, rfl⟩ := Option.map_eq_some_iff.mp h
      refine .of_local (c := a.contactId) (a := 0)
        (((Db.Local.refl db).setSuppressions _).modifyContact _)
        (fun x hx => ⟨_, ?_, .optedOut ha rfl⟩) (fun hn => ?_)
        (fun y hy => ⟨y, hy, .same⟩) id .none
      · rw [applySuppression, Db.contact_modifyContact, if_pos rfl,
          (Db.setSuppressions_frame ..).1, hx]
        rfl
      · rw [applySuppression, Db.contact_modifyContact, if_pos rfl,
          (Db.setSuppressions_frame ..).1, hn]
        rfl
  | conversationEnds aid reason pendingPoints =>
      obtain ⟨a, ha, rfl⟩ := Option.map_eq_some_iff.mp h
      exact endingRows_effect ha
  | conversationDrops aid reason =>
      obtain ⟨a, ha, rfl⟩ := Option.map_eq_some_iff.mp h
      exact disconnectRows_effect ha
  | setControls controls =>
      cases h
      exact .beside (fun _ => rfl) (fun _ => rfl) rfl rfl
        fun _ row h => ⟨row, h, .same⟩

end

end CallingAgent
