import CallingAgent.Lib.RenumberPlan
import CallingAgent.Model.Phone
import CallingAgent.Model.Records

/-!
# Renumbering stored numbers — the script `renormalize_phones`

The script normalizes the numbers of contacts and of the do-not-call list
again, first to report and then to write. What it moves is a number that
nobody else has; a number that somebody has, or has had when the batch
began, is a collision. A row of the do-not-call list that is linked to a
contact only moves with it.
-/

namespace CallingAgent

open Lib Renumbering

abbrev SuppressionId := Nat

/-- The columns of `contact` that the script reads. -/
structure PhoneContact where
  campaignId : CampaignId
  /-- as it was given -/
  phoneNumber : String
  normalizedPhoneNumber : String
  deriving DecidableEq

/-- The columns of `suppression` that the script reads. -/
structure PhoneSuppression where
  contactId : Option ContactId
  phoneNumber : String
  deriving DecidableEq

/-- The tables, by id. `region` is `campaign.default_region`; every contact
has a campaign. -/
structure PhoneTables where
  region : CampaignId → String
  contacts : List (ContactId × PhoneContact)
  suppressions : List (SuppressionId × PhoneSuppression)

/-- `normalize_phone(text, region).e164` -/
abbrev Normalizer := String → String → Except InvalidPhoneCode String

/-- `mask_phone_number` -/
def maskPhoneNumber (normalized : String) : String :=
  let cs := normalized.toList
  if cs.length ≤ 6 then String.ofList (List.replicate cs.length '*')
  else String.ofList (cs.take 2 ++ List.replicate (cs.length - 6) '*'
    ++ cs.drop (cs.length - 4))

/-- A line of the report. -/
inductive RenormalizeNote where
  | invalidContact (contact : ContactId) (code : InvalidPhoneCode)
  | contactCollision (contact holder : ContactId) (campaign : CampaignId)
      (number : String)
  | invalidSuppression (suppression : SuppressionId) (code : InvalidPhoneCode)
  | notMoved (suppression : SuppressionId) (contact : ContactId)
  | suppressionCollision (suppression holder : SuppressionId) (number : String)
  deriving DecidableEq

/-- `_LIST_LIMIT` -/
def renormalizeListLimit : Nat := 50

section

variable (normalize : Normalizer) (defaultRegion : String)

/-! ## The two passes -/

/-- `_renormalize_contacts`: a number is unique within its campaign. -/
def contactRenumbering (region : CampaignId → String) :
    Renumbering ContactId PhoneContact (CampaignId × String)
      RenormalizeNote where
  key c := (c.campaignId, c.normalizedPhoneNumber)
  setKey k c := { c with normalizedPhoneNumber := k.2 }
  verdict i c :=
    match normalize c.phoneNumber (region c.campaignId) with
    | .error code => .invalid (.invalidContact i code)
    | .ok new =>
        if new = c.normalizedPhoneNumber then .unchanged
        else .wanted (c.campaignId, new)
  collision i holder k := .contactCollision i holder k.1 (maskPhoneNumber k.2)
  noteLimit := renormalizeListLimit
  wanted_ne {i c k} h := by
    split at h
    · cases h
    · split at h
      · cases h
      · next hne =>
          cases h
          exact fun heq => hne (congrArg Prod.snd heq)
  key_set {i c k} h := by
    split at h
    · cases h
    · split at h
      · cases h
      · cases h
        rfl

/-- The text and the region of a contact's number. -/
def contactSource (region : CampaignId → String)
    (contacts : List (ContactId × PhoneContact)) (c : ContactId) :
    Option (String × String) :=
  (contacts.lookup c).map fun row => (row.phoneNumber, region row.campaignId)

/-- `planned_by_contact.get(contact_id, contact_number)` -/
def contactNow (contacts : List (ContactId × PhoneContact))
    (planned : List (ContactId × String)) (c : ContactId) : Option String :=
  (planned.lookup c).or ((contacts.lookup c).map (·.normalizedPhoneNumber))

/-- The number of a row of the list, normalized: of its contact's text, or
of its own. -/
def normalizedSuppression (source : ContactId → Option (String × String))
    (s : PhoneSuppression) : Except InvalidPhoneCode String :=
  match s.contactId.bind source with
  | some (text, region) => normalize text region
  | none => normalize s.phoneNumber defaultRegion

/-- `_renormalize_suppressions`: a number is unique. -/
def suppressionRenumbering (source : ContactId → Option (String × String))
    (now : ContactId → Option String) :
    Renumbering SuppressionId PhoneSuppression String RenormalizeNote where
  key s := s.phoneNumber
  setKey k s := { s with phoneNumber := k }
  verdict i s :=
    match normalizedSuppression normalize defaultRegion source s with
    | .error code => .invalid (.invalidSuppression i code)
    | .ok new =>
        if new = s.phoneNumber then .unchanged
        else
          match s.contactId with
          | none => .wanted new
          -- a linked row only moves together with its contact
          | some c => if now c = some new then .wanted new
              else .skipped (.notMoved i c)
  collision i holder k := .suppressionCollision i holder (maskPhoneNumber k)
  noteLimit := renormalizeListLimit
  wanted_ne {i s k} h := by
    split at h
    · cases h
    · split at h
      · cases h
      · next hne =>
          split at h
          · cases h
            exact hne
          · split at h <;> cases h
            exact hne
  key_set {i s k} _ := rfl

/-- What a run returns, and the tables after it. -/
structure Renormalized where
  tables : PhoneTables
  contacts : Tally RenormalizeNote
  suppressions : Tally RenormalizeNote

/-- `planned_by_contact`, after the contacts. -/
def plannedNumbers (moved : List (ContactId × CampaignId × String)) :
    List (ContactId × String) :=
  moved.map fun m => (m.1, m.2.2)

/-- `run` -/
def renormalizePhones (apply : Bool) (batch : Nat) (db : PhoneTables) :
    Except PassError Renormalized := do
  let contacts ←
    (contactRenumbering normalize db.region).pass apply batch db.contacts
  let suppressions ←
    (suppressionRenumbering normalize defaultRegion
      (contactSource db.region contacts.rows)
      (contactNow contacts.rows (plannedNumbers contacts.moved))).pass
        apply batch db.suppressions
  .ok ⟨⟨db.region, contacts.rows, suppressions.rows⟩, contacts.tally,
    suppressions.tally⟩

/-- The tables under their constraints: no two contacts of a campaign, and no
two rows of the list, have one number. -/
structure PhoneDb extends PhoneTables where
  contactsById : contacts.Pairwise fun a b => a.1 < b.1
  contactsUnique :
    (contacts.map fun c => (c.2.campaignId, c.2.normalizedPhoneNumber)).Nodup
  suppressionsById : suppressions.Pairwise fun a b => a.1 < b.1
  suppressionsUnique : (suppressions.map (·.2.phoneNumber)).Nodup

/-- `_BATCH`, any positive number. -/
structure BatchSize where
  value : Nat
  positive : 0 < value

/-! ## What is claimed, and when it holds -/

/-- **Dry run, apply and a second apply agree**: no run breaks a constraint,
the dry run reports what the apply run does, and applying again changes
nothing. -/
def RenormalizeAgrees (batch : BatchSize) (db : PhoneDb) : Prop :=
  ∃ dry applied again,
    renormalizePhones normalize defaultRegion false batch.value
      db.toPhoneTables = .ok dry ∧
    renormalizePhones normalize defaultRegion true batch.value
      db.toPhoneTables = .ok applied ∧
    renormalizePhones normalize defaultRegion true batch.value
      applied.tables = .ok again ∧
    dry.contacts = applied.contacts ∧ dry.suppressions = applied.suppressions ∧
    again.contacts.changed = 0 ∧ again.suppressions.changed = 0

/-- The contacts that are the first to want a number nobody has. -/
def movingContacts (db : PhoneTables) : List (ContactId × String) :=
  let R := contactRenumbering normalize db.region
  db.contacts.filterMap fun (i, c) =>
    match R.verdict i c with
    | .wanted k =>
        if (db.contacts.all fun row => R.key row.2 ≠ k) &&
            (db.contacts.all fun (j, row) =>
              !(j < i && match R.verdict j row with
                | .wanted k' => k' = k
                | _ => false))
        then some (i, k.2)
        else none
    | _ => none

/-- What the rows of the list want, when these contacts have moved. -/
def plannedSuppressions (db : PhoneTables) :
    Renumbering SuppressionId PhoneSuppression String RenormalizeNote :=
  suppressionRenumbering normalize defaultRegion
    (contactSource db.region db.contacts)
    (contactNow db.contacts (movingContacts normalize db))

/-- A number is on the list when the rows that are first to want a number
nobody has have moved. -/
def ListedAfter (db : PhoneTables) (number : String) : Prop :=
  let R := plannedSuppressions normalize defaultRegion db
  (∃ i, R.Moves db.suppressions i number) ∨
    ∃ i, R.Holds db.suppressions i number ∧ ∀ k, ¬ R.Moves db.suppressions i k

/-- **When the runs agree**: no contact and no row of the list wants the
number of one that moves, and a row without a contact does not move to a
number that is normalized to yet another one, unless that is on the list. -/
structure Undisturbed (db : PhoneTables) : Prop where
  contacts : (contactRenumbering normalize db.region).Quiet db.contacts
  suppressions :
    (plannedSuppressions normalize defaultRegion db).Quiet db.suppressions
  fixed : ∀ {i s number number'}, (i, s) ∈ db.suppressions →
    s.contactId = none →
    (plannedSuppressions normalize defaultRegion db).Moves
      db.suppressions i number →
    normalize number defaultRegion = .ok number' → number' ≠ number →
    ListedAfter normalize defaultRegion db number'

end

section

variable {normalize : Normalizer} {defaultRegion : String} {batch : BatchSize}
  {db : PhoneDb}

theorem PhoneDb.contactsKeyed (db : PhoneDb) (normalize : Normalizer) :
    (contactRenumbering normalize db.region).Keyed db.contacts :=
  ⟨db.contactsById, db.contactsUnique⟩

theorem PhoneDb.suppressionsKeyed (db : PhoneDb)
    (source : ContactId → Option (String × String))
    (now : ContactId → Option String) :
    (suppressionRenumbering normalize defaultRegion source now).Keyed
      db.suppressions :=
  ⟨db.suppressionsById, db.suppressionsUnique⟩

theorem PhoneDb.plannedKeyed (db : PhoneDb) (normalize : Normalizer)
    (defaultRegion : String) :
    (plannedSuppressions normalize defaultRegion db.toPhoneTables).Keyed
      db.suppressions :=
  db.suppressionsKeyed _ _

/-- **When a contact wants a number.** -/
theorem contact_wanted_iff {region : CampaignId → String} {i : ContactId}
    {c : PhoneContact} {k : CampaignId × String} :
    (contactRenumbering normalize region).verdict i c = .wanted k ↔
      normalize c.phoneNumber (region c.campaignId) = .ok k.2 ∧
        k.1 = c.campaignId ∧ k.2 ≠ c.normalizedPhoneNumber := by
  obtain ⟨campaign, new⟩ := k
  simp only [contactRenumbering]
  cases normalize c.phoneNumber (region c.campaignId) with
  | error code => simp
  | ok n =>
      simp only
      split
      · next heq =>
          refine iff_of_false (fun h => (by cases h)) fun ⟨h, _, hne⟩ => ?_
          cases h
          exact hne heq
      · next hne =>
          constructor
          · intro h
            cases h
            exact ⟨rfl, rfl, hne⟩
          · rintro ⟨h, rfl, -⟩
            cases h
            rfl

/-- **When a row of the list wants a number.** -/
theorem suppression_wanted_iff {source : ContactId → Option (String × String)}
    {now : ContactId → Option String} {i : SuppressionId} {s : PhoneSuppression}
    {n : String} :
    (suppressionRenumbering normalize defaultRegion source now).verdict i s
        = .wanted n ↔
      normalizedSuppression normalize defaultRegion source s = .ok n ∧
        n ≠ s.phoneNumber ∧ ∀ c ∈ s.contactId, now c = some n := by
  simp only [suppressionRenumbering]
  cases normalizedSuppression normalize defaultRegion source s with
  | error code => simp
  | ok new =>
      simp only
      split
      · next heq =>
          refine iff_of_false (fun h => (by cases h)) fun ⟨h, hne, _⟩ => ?_
          cases h
          exact hne heq
      · next hne =>
          cases s.contactId with
          | none =>
              refine ⟨fun h => ?_, fun ⟨h, _⟩ => ?_⟩
              · cases h
                exact ⟨rfl, hne, fun c hc => (by cases hc)⟩
              · cases h
                rfl
          | some c =>
              simp only
              split
              · next hnow =>
                  refine ⟨fun h => ?_, fun ⟨h, _⟩ => ?_⟩
                  · cases h
                    refine ⟨rfl, hne, fun c' hc' => ?_⟩
                    cases hc'
                    exact hnow
                  · cases h
                    rfl
              · next hnow =>
                  refine iff_of_false (fun h => (by cases h)) ?_
                  rintro ⟨h, -, hall⟩
                  cases h
                  exact hnow (hall c rfl)

/-! ## The contacts that move -/

theorem mem_movingContacts {i : ContactId} {n : String} :
    (i, n) ∈ movingContacts normalize db.toPhoneTables ↔
      ∃ campaign, (contactRenumbering normalize db.region).Moves db.contacts i
        (campaign, n) := by
  set R := contactRenumbering normalize db.region with hR
  have hstep : ∀ {j c k}, (j, c) ∈ db.contacts → R.verdict j c = .wanted k →
      (((db.contacts.all fun row => R.key row.2 ≠ k) &&
        (db.contacts.all fun (j', row) =>
          !(j' < j && match R.verdict j' row with
            | .wanted k' => k' = k
            | _ => false))) = true ↔ R.Moves db.contacts j k) := by
    intro j c k hin hv
    have hheld : (db.contacts.all fun row => R.key row.2 ≠ k) = true ↔
        ∀ h, ¬ R.Holds db.contacts h k := by
      rw [List.all_eq_true]
      constructor
      · rintro hall h ⟨r, hr, hkey⟩
        exact of_decide_eq_true (hall (h, r) hr) hkey
      · intro hnone row hrow
        exact decide_eq_true fun hkey => hnone row.1 ⟨row.2, hrow, hkey⟩
    have hfirst : (db.contacts.all fun (j', row) =>
        !(j' < j && match R.verdict j' row with
          | .wanted k' => k' = k
          | _ => false)) = true ↔ ∀ j', j' < j → ¬ R.Wants db.contacts j' k := by
      rw [List.all_eq_true]
      constructor
      · rintro hall j' hlt ⟨r, hr, hv'⟩
        have h := hall (j', r) hr
        simp [hlt, hv'] at h
      · rintro hnone ⟨j', r⟩ hr
        rw [Bool.not_eq_true', Bool.and_eq_false_iff]
        by_cases hlt : j' < j
        · right
          cases hv' : R.verdict j' r with
          | wanted k' =>
              refine decide_eq_false fun heq => hnone j' hlt ⟨r, hr, ?_⟩
              rw [hv', heq]
          | _ => rfl
        · exact .inl (decide_eq_false hlt)
    rw [Bool.and_eq_true, hheld, hfirst]
    exact ⟨fun ⟨hfree, hearly⟩ => ⟨⟨c, hin, hv⟩, hfree, hearly⟩,
      fun hm => ⟨hm.2.1, hm.2.2⟩⟩
  rw [movingContacts, List.mem_filterMap]
  constructor
  · rintro ⟨⟨j, c⟩, hin, heq⟩
    simp only [← hR] at heq
    cases hv : R.verdict j c with
    | wanted k =>
        simp only [hv] at heq
        split at heq
        · next hcond =>
            cases heq
            exact ⟨k.1, (hstep hin hv).mp hcond⟩
        · cases heq
    | _ => simp [hv] at heq
  · rintro ⟨campaign, hm⟩
    obtain ⟨c, hin, hv⟩ := hm.1
    refine ⟨(i, c), hin, ?_⟩
    simp only [← hR, hv]
    rw [if_pos ((hstep hin hv).mpr hm)]

theorem movingContacts_nodup :
    ((movingContacts normalize db.toPhoneTables).map (·.1)).Nodup := by
  have hsub : ((movingContacts normalize db.toPhoneTables).map (·.1)).Sublist
      (db.contacts.map (·.1)) := by
    rw [movingContacts]
    simp only
    generalize db.contacts = all
    have haux : ∀ l : List (ContactId × PhoneContact), ∀ f : ContactId ×
        PhoneContact → Option (ContactId × String),
        (∀ a b, f a = some b → b.1 = a.1) →
        ((l.filterMap f).map (·.1)).Sublist (l.map (·.1)) := by
      intro l f hf
      induction l with
      | nil => exact List.Sublist.slnil
      | cons a l ih =>
          cases hfa : f a with
          | none => rw [List.filterMap_cons_none hfa]; exact ih.cons _
          | some b =>
              rw [List.filterMap_cons_some hfa, List.map_cons, List.map_cons,
                hf a b hfa]
              exact ih.cons_cons _
    refine haux all _ fun a b hab => ?_
    split at hab
    · split at hab
      · cases hab
        rfl
      · cases hab
    · cases hab
  exact hsub.nodup (List.pairwise_map.mpr (db.contactsById.imp fun h => h.ne))

theorem lookup_plannedNumbers {moved : List (ContactId × CampaignId × String)}
    (h : (moved.map (·.1)).Nodup) {c : ContactId} {n : String} :
    (plannedNumbers moved).lookup c = some n ↔
      ∃ campaign, (c, campaign, n) ∈ moved := by
  have hnodup : ((plannedNumbers moved).map (·.1)).Nodup := by
    rw [plannedNumbers, List.map_map]
    exact h
  rw [lookup_eq_some_iff_mem hnodup, plannedNumbers, List.mem_map]
  constructor
  · rintro ⟨⟨j, campaign, m⟩, hin, heq⟩
    cases heq
    exact ⟨campaign, hin⟩
  · rintro ⟨campaign, hin⟩
    exact ⟨_, hin, rfl⟩

/-- What is planned is what moves without writes. -/
theorem lookup_planned_eq {moved : List (ContactId × CampaignId × String)}
    (hnodup : (moved.map (·.1)).Nodup)
    (h : ∀ {c k}, (c, k) ∈ moved ↔
      (contactRenumbering normalize db.region).Moves db.contacts c k)
    (c : ContactId) :
    (plannedNumbers moved).lookup c
      = (movingContacts normalize db.toPhoneTables).lookup c := by
  refine Option.ext fun n => ?_
  rw [lookup_plannedNumbers hnodup, lookup_eq_some_iff_mem movingContacts_nodup,
    mem_movingContacts]
  exact exists_congr fun campaign => h

/-! ## What the list is told of the contacts -/

section

variable {region : CampaignId → String}
  {contacts : List (ContactId × PhoneContact)}
  {moved : List (ContactId × CampaignId × String)}

/-- The texts and regions stay. -/
theorem contactSource_moveRows :
    contactSource region ((contactRenumbering normalize region).moveRows
      contacts moved) = contactSource region contacts := by
  funext c
  rw [contactSource, contactSource, lookup_moveRows, Option.map_map]
  refine congrArg (fun f => Option.map f (contacts.lookup c)) (funext fun r => ?_)
  rw [Function.comp_apply]
  cases moved.lookup c <;> rfl

/-- A contact that has moved is at the planned number. -/
theorem contactNow_moveRows
    (hm : Moved (contactRenumbering normalize region) contacts moved)
    {planned : List (ContactId × String)}
    (hplanned : planned = plannedNumbers moved ∨ planned = []) :
    contactNow ((contactRenumbering normalize region).moveRows contacts moved)
      planned = contactNow contacts (plannedNumbers moved) := by
  have hids : (moved.map (·.1)).Nodup :=
    List.pairwise_map.mpr (hm.falling.imp fun hlt => hlt.ne')
  funext c
  rw [contactNow, contactNow, lookup_moveRows, Option.map_map]
  cases hl : moved.lookup c with
  | none =>
      have hnone : (plannedNumbers moved).lookup c = none := by
        rw [Option.eq_none_iff_forall_ne_some]
        intro n hn
        obtain ⟨campaign, hin⟩ := (lookup_plannedNumbers hids).mp hn
        exact hm.lookup_eq_none.mp hl _ hin
      have hplanned' : planned.lookup c = none := by
        rcases hplanned with rfl | rfl
        · exact hnone
        · rfl
      rw [hnone, hplanned', Option.none_or, Option.none_or]
      rfl
  | some k =>
      obtain ⟨campaign, n⟩ := k
      have hin := hm.lookup_eq_some.mp hl
      have hsome : (plannedNumbers moved).lookup c = some n :=
        (lookup_plannedNumbers hids).mpr ⟨campaign, hin⟩
      rw [hsome, Option.some_or]
      rcases hplanned with rfl | rfl
      · rw [hsome, Option.some_or]
      · obtain ⟨r, hr, -⟩ := hm.wants hin
        cases hlr : contacts.lookup c with
        | some r' => rfl
        | none =>
            rw [List.lookup_eq_none_iff] at hlr
            exact absurd (hlr _ hr) (by simp)

end

/-! ## Runs -/

/-- The second pass of a run whose first left these rows and moves. -/
def suppressionsAfter (normalize : Normalizer) (defaultRegion : String)
    (region : CampaignId → String)
    (contacts : Pass ContactId PhoneContact (CampaignId × String)
      RenormalizeNote) :
    Renumbering SuppressionId PhoneSuppression String RenormalizeNote :=
  suppressionRenumbering normalize defaultRegion
    (contactSource region contacts.rows)
    (contactNow contacts.rows (plannedNumbers contacts.moved))

theorem renormalizePhones_eq {apply : Bool} {n : Nat} {tables : PhoneTables}
    {c : Pass ContactId PhoneContact (CampaignId × String) RenormalizeNote}
    {s : Pass SuppressionId PhoneSuppression String RenormalizeNote}
    (hc : (contactRenumbering normalize tables.region).pass apply n
      tables.contacts = .ok c)
    (hs : (suppressionsAfter normalize defaultRegion tables.region c).pass
      apply n tables.suppressions = .ok s) :
    renormalizePhones normalize defaultRegion apply n tables
      = .ok ⟨⟨tables.region, c.rows, s.rows⟩, c.tally, s.tally⟩ := by
  rw [suppressionsAfter] at hs
  rw [renormalizePhones, hc]
  change (((suppressionRenumbering normalize defaultRegion
    (contactSource tables.region c.rows)
    (contactNow c.rows (plannedNumbers c.moved))).pass apply n
      tables.suppressions).bind _) = _
  rw [hs]
  rfl

/-- **No run breaks a constraint**, and the tables it leaves satisfy them. -/
theorem renormalizePhones_ok (normalize : Normalizer) (defaultRegion : String)
    (apply : Bool) (batch : BatchSize) (db : PhoneDb) :
    ∃ r, renormalizePhones normalize defaultRegion apply batch.value
        db.toPhoneTables = .ok r ∧
      ∃ after : PhoneDb, after.toPhoneTables = r.tables := by
  obtain ⟨c, hc, hgc, -⟩ :=
    pass_ok (db.contactsKeyed normalize) batch.positive apply
  set S := suppressionsAfter normalize defaultRegion db.region c with hS
  have hk : S.Keyed db.suppressions := db.suppressionsKeyed _ _
  obtain ⟨s, hs, hgs, -⟩ := pass_ok hk batch.positive apply
  refine ⟨_, renormalizePhones_eq hc hs, ?_⟩
  have hck := hgc.keyed (db.contactsKeyed normalize)
  have hsk := hgs.keyed hk
  exact ⟨⟨⟨db.region, c.rows, s.rows⟩, hck.sorted, hck.unique, hsk.sorted,
    hsk.unique⟩, rfl⟩

section

variable {c : Pass ContactId PhoneContact (CampaignId × String) RenormalizeNote}

/-- What is planned for the list, once the moves of the contacts are those
without writes. -/
theorem suppressionsAfter_eq {apply : Bool}
    (hgc : Going (contactRenumbering normalize db.region) apply db.contacts c)
    (hmoves : ∀ {i k}, (i, k) ∈ c.moved ↔
      (contactRenumbering normalize db.region).Moves db.contacts i k) :
    suppressionsAfter normalize defaultRegion db.region c
      = plannedSuppressions normalize defaultRegion db.toPhoneTables := by
  have hids : (c.moved.map (·.1)).Nodup :=
    List.pairwise_map.mpr (hgc.moved.falling.imp fun hlt => hlt.ne')
  have hnow : contactNow db.contacts (plannedNumbers c.moved)
      = contactNow db.contacts (movingContacts normalize db.toPhoneTables) := by
    funext i
    rw [contactNow, contactNow, lookup_planned_eq hids hmoves]
  rw [suppressionsAfter, plannedSuppressions, hgc.rows_eq, current]
  cases apply with
  | false => rw [if_neg Bool.false_ne_true, hnow]
  | true =>
      rw [if_pos rfl, contactSource_moveRows,
        contactNow_moveRows hgc.moved (.inl rfl), hnow]

/-- A run that moves no contact tells the list what the run before did. -/
theorem suppressionsAfter_again
    {again : Pass ContactId PhoneContact (CampaignId × String) RenormalizeNote}
    (hgc : Going (contactRenumbering normalize db.region) true db.contacts c)
    (hga : Going (contactRenumbering normalize db.region) true c.rows again)
    (hnone : again.tally.changed = 0) :
    suppressionsAfter normalize defaultRegion db.region again
      = suppressionsAfter normalize defaultRegion db.region c := by
  have hnil : again.moved = [] :=
    List.length_eq_zero_iff.mp (hga.changed.symm.trans hnone)
  have hrows : again.rows = c.rows := by
    rw [hga.rows_eq, hnil, current, if_pos rfl, moveRows_nil]
  have hcrows : c.rows = (contactRenumbering normalize db.region).moveRows
      db.contacts c.moved := hgc.rows_eq.trans (if_pos rfl)
  have hempty : plannedNumbers [] = [] := rfl
  rw [suppressionsAfter, suppressionsAfter, hrows, hnil, hcrows, hempty,
    contactNow_moveRows hgc.moved (.inl rfl),
    contactNow_moveRows hgc.moved (.inr rfl)]

end

/-- Where nothing would change any more, the table was quiet. -/
theorem quiet_of_changed_eq {ι ρ κ ν : Type} [LinearOrder ι] [WellFoundedLT ι]
    [DecidableEq κ] {R : Renumbering ι ρ κ ν} {n : Nat} {rows : List (ι × ρ)}
    {dry applied again : Pass ι ρ κ ν} (hk : R.Keyed rows) (hn : 0 < n)
    (hd : R.pass false n rows = .ok dry) (ha : R.pass true n rows = .ok applied)
    (hg : R.pass true n applied.rows = .ok again)
    (hsame : dry.tally.changed = applied.tally.changed)
    (hnone : again.tally.changed = 0) : R.Quiet rows := by
  obtain ⟨a, ha', hga, -⟩ := pass_ok hk hn true
  cases ha.symm.trans ha'
  have hrows : applied.rows = R.moveRows rows applied.moved :=
    hga.rows_eq.trans (if_pos rfl)
  by_contra hq
  obtain ⟨j, l, hw, hstay, hfree⟩ := exists_freed hk hn ha
    (fun hin => moved_of_changed_eq hk hn hd ha hsame hin) hq
  have hheld := (pass_changed_eq_zero (hga.keyed hk) hn hg).mp hnone
    (by rw [hrows]; exact hga.moved.wants_stay hw hstay)
  obtain ⟨h, hh⟩ := hheld
  rw [hrows] at hh
  exact hfree h hh

/-- A contact that has a number is there. -/
theorem contactSource_of_now {c : ContactId} {n : String}
    (h : contactNow db.contacts (movingContacts normalize db.toPhoneTables) c
      = some n) :
    ∃ source, contactSource db.region db.contacts c = some source := by
  have hthere : ∃ row, db.contacts.lookup c = some row := by
    rcases Option.or_eq_some_iff.mp h with hmove | ⟨-, hrow⟩
    · have hin := (lookup_eq_some_iff_mem movingContacts_nodup).mp hmove
      obtain ⟨campaign, hm⟩ := mem_movingContacts.mp hin
      obtain ⟨row, hrow, -⟩ := hm.1
      refine ⟨row, (lookup_eq_some_iff_mem ?_).mpr hrow⟩
      exact List.pairwise_map.mpr (db.contactsById.imp fun h => h.ne)
    · obtain ⟨row, hrow, -⟩ := Option.map_eq_some_iff.mp hrow
      exact ⟨row, hrow⟩
  obtain ⟨row, hrow⟩ := hthere
  exact ⟨_, by rw [contactSource, hrow]; rfl⟩

/-- **What a row of the list wants after it has moved**: nothing, unless it
has no contact and its number is normalized to yet another one. -/
theorem plannedSuppressions_again {i : SuppressionId} {s : PhoneSuppression}
    {number number' : String}
    (hv : (plannedSuppressions normalize defaultRegion db.toPhoneTables).verdict
      i s = .wanted number) :
    (plannedSuppressions normalize defaultRegion db.toPhoneTables).verdict i
        { s with phoneNumber := number } = .wanted number' ↔
      s.contactId = none ∧ normalize number defaultRegion = .ok number' ∧
        number' ≠ number := by
  obtain ⟨hnew, -, hnow⟩ := suppression_wanted_iff.mp hv
  refine suppression_wanted_iff.trans ?_
  cases hc : s.contactId with
  | none =>
      have hself : ∀ source, normalizedSuppression normalize defaultRegion source
          ⟨none, number⟩ = normalize number defaultRegion := fun _ => rfl
      simp only [hself, true_and]
      refine and_congr_right fun _ => and_iff_left ?_
      rintro c ⟨⟩
  | some c =>
      -- its text is the contact's, and its number is already the one of it
      obtain ⟨⟨text, region⟩, hsource⟩ := contactSource_of_now (hnow c hc)
      refine iff_of_false ?_ fun h => (by cases h.1)
      rintro ⟨h, hne, -⟩
      simp only [normalizedSuppression, hc, Option.bind_some, hsource] at hnew h
      rw [hnew] at h
      cases h
      exact hne rfl

/-- What the rows of the list want after an apply run. -/
theorem plannedSuppressions_wants_moved
    {moved : List (SuppressionId × String)}
    (hm : Moved (plannedSuppressions normalize defaultRegion db.toPhoneTables)
      db.suppressions moved) {i : SuppressionId} {number' : String} :
    (plannedSuppressions normalize defaultRegion db.toPhoneTables).Wants
        ((plannedSuppressions normalize defaultRegion
          db.toPhoneTables).moveRows db.suppressions moved) i number' ↔
      ((plannedSuppressions normalize defaultRegion db.toPhoneTables).Wants
          db.suppressions i number' ∧ ∀ k, (i, k) ∉ moved) ∨
        ∃ s number, (i, s) ∈ db.suppressions ∧ (i, number) ∈ moved ∧
          s.contactId = none ∧ normalize number defaultRegion = .ok number' ∧
          number' ≠ number := by
  rw [hm.wants_iff (db.plannedKeyed normalize defaultRegion)]
  refine or_congr_right ⟨?_, ?_⟩
  · rintro ⟨s, number, hs, hin, hv, hv'⟩
    exact ⟨s, number, hs, hin, (plannedSuppressions_again hv).mp hv'⟩
  · rintro ⟨s, number, hs, hin, hagain⟩
    obtain ⟨s', hs', hv⟩ := hm.wants hin
    cases (db.plannedKeyed normalize defaultRegion).row_unique hs hs'
    exact ⟨s, number, hs, hin, hv, (plannedSuppressions_again hv).mpr hagain⟩

/-- A contact that has moved wants nothing more. -/
theorem contact_wants_moved {moved : List (ContactId × CampaignId × String)}
    (hm : Moved (contactRenumbering normalize db.region) db.contacts moved)
    {i : ContactId} {k : CampaignId × String} :
    (contactRenumbering normalize db.region).Wants
        ((contactRenumbering normalize db.region).moveRows db.contacts moved) i k
      ↔ (contactRenumbering normalize db.region).Wants db.contacts i k ∧
        ∀ k', (i, k') ∉ moved := by
  rw [hm.wants_iff (db.contactsKeyed normalize)]
  refine or_iff_left ?_
  rintro ⟨c, k', -, -, hv, hv'⟩
  obtain ⟨hnew, -, -⟩ := contact_wanted_iff.mp hv
  obtain ⟨hnew', -, hne⟩ := contact_wanted_iff.mp hv'
  exact hne (Except.ok.inj (hnew'.symm.trans hnew))

/-- **The runs agree exactly on undisturbed tables.** -/
theorem renormalizeAgrees_iff (normalize : Normalizer) (defaultRegion : String)
    (batch : BatchSize) (db : PhoneDb) :
    RenormalizeAgrees normalize defaultRegion batch db ↔
      Undisturbed normalize defaultRegion db.toPhoneTables := by
  have hn := batch.positive
  have hck := db.contactsKeyed normalize
  have hsk := db.plannedKeyed normalize defaultRegion
  -- the contacts of the three runs
  obtain ⟨cd, hcd, hgcd, -⟩ := pass_ok hck hn false
  obtain ⟨ca, hca, hgca, -⟩ := pass_ok hck hn true
  obtain ⟨cg, hcg, hgcg, -⟩ := pass_ok (hgca.keyed hck) hn true
  -- the list in the dry run
  have hSd : suppressionsAfter normalize defaultRegion db.region cd
      = plannedSuppressions normalize defaultRegion db.toPhoneTables :=
    suppressionsAfter_eq hgcd (mem_moved_iff hck hn hcd)
  obtain ⟨sd, hsd, hgsd, -⟩ := pass_ok hsk hn false
  have hdry := renormalizePhones_eq hcd (hSd ▸ hsd)
  -- once the contacts agree, the list is asked the same in every run
  have hlist : (contactRenumbering normalize db.region).Quiet db.contacts →
      cg.tally.changed = 0 →
      suppressionsAfter normalize defaultRegion db.region ca
          = plannedSuppressions normalize defaultRegion db.toPhoneTables ∧
        suppressionsAfter normalize defaultRegion db.region cg
          = plannedSuppressions normalize defaultRegion db.toPhoneTables := by
    intro hq hnone
    have hsame := hq.same hck hn hcd hca
    have hSa : suppressionsAfter normalize defaultRegion db.region ca
        = plannedSuppressions normalize defaultRegion db.toPhoneTables :=
      suppressionsAfter_eq hgca fun {i k} => by
        rw [← hsame.1]
        exact mem_moved_iff hck hn hcd
    exact ⟨hSa, (suppressionsAfter_again hgca hgcg hnone).trans hSa⟩
  -- what is listed after the second pass
  have hlisted : ∀ {sa : Pass SuppressionId PhoneSuppression String
      RenormalizeNote},
      (plannedSuppressions normalize defaultRegion db.toPhoneTables).Quiet
        db.suppressions →
      (plannedSuppressions normalize defaultRegion db.toPhoneTables).pass true
        batch.value db.suppressions = .ok sa →
      ∀ {k}, (∃ h, (plannedSuppressions normalize defaultRegion
          db.toPhoneTables).Holds sa.rows h k) ↔
        ListedAfter normalize defaultRegion db.toPhoneTables k := by
    intro sa hq hsa k
    obtain ⟨sa', hsa', hgsa, hplan⟩ := pass_ok hsk hn true
    cases hsa.symm.trans hsa'
    have hmoves : ∀ {i k}, (i, k) ∈ sa.moved ↔
        (plannedSuppressions normalize defaultRegion db.toPhoneTables).Moves
          db.suppressions i k :=
      ⟨hq.moves EarlierBatch.lt hplan _ _, mem_moved_of_moves hsk hn hsa⟩
    rw [hgsa.rows_eq, current, if_pos rfl, ListedAfter]
    simp only [hgsa.moved.holds_iff hsk, hmoves, exists_or]
  constructor
  · rintro ⟨dry, applied, again, hrd, hra, hrg, hcontacts, hsupps, hc0, hs0⟩
    cases hrd.symm.trans hdry
    obtain ⟨sa, hsa, hgsa, -⟩ := pass_ok (R := suppressionsAfter normalize
      defaultRegion db.region ca) (db.suppressionsKeyed _ _) hn true
    cases hra.symm.trans (renormalizePhones_eq hca hsa)
    have hka := hgsa.keyed (db.suppressionsKeyed _ _)
    obtain ⟨sg, hsg, -⟩ := pass_ok (R := suppressionsAfter normalize
      defaultRegion db.region cg) ⟨hka.sorted, hka.unique⟩ hn true
    have hagain : renormalizePhones normalize defaultRegion true batch.value
        ⟨db.region, ca.rows, sa.rows⟩ = .ok ⟨⟨db.region, cg.rows, sg.rows⟩,
          cg.tally, sg.tally⟩ := renormalizePhones_eq hcg hsg
    cases hrg.symm.trans hagain
    have hqc : (contactRenumbering normalize db.region).Quiet db.contacts :=
      quiet_of_changed_eq hck hn hcd hca hcg (congrArg Tally.changed hcontacts)
        hc0
    obtain ⟨hSa, hSg⟩ := hlist hqc hc0
    rw [hSa] at hsa hgsa
    rw [hSg] at hsg
    have hqs := quiet_of_changed_eq hsk hn hsd hsa hsg
      (congrArg Tally.changed hsupps) hs0
    refine ⟨hqc, hqs, fun {i s number number'} hin hnone hm hnorm hne => ?_⟩
    refine (hlisted hqs hsa).mp
      ((pass_changed_eq_zero (hgsa.keyed hsk) hn hsg).mp hs0 (i := i) ?_)
    rw [hgsa.rows_eq, current, if_pos rfl]
    exact (plannedSuppressions_wants_moved hgsa.moved).mpr (.inr ⟨s, number, hin,
      mem_moved_of_moves hsk hn hsa hm, hnone, hnorm, hne⟩)
  · intro hu
    have hcrows : ca.rows = (contactRenumbering normalize db.region).moveRows
        db.contacts ca.moved := hgca.rows_eq.trans (if_pos rfl)
    have hc0 : cg.tally.changed = 0 := by
      refine (pass_changed_eq_zero (hgca.keyed hck) hn hcg).mpr ?_
      intro i k hw
      rw [hcrows] at hw ⊢
      exact hu.contacts.held hck hn hca ((contact_wants_moved hgca.moved).mp hw).1
    obtain ⟨hSa, hSg⟩ := hlist hu.contacts hc0
    obtain ⟨sa, hsa, hgsa, -⟩ := pass_ok hsk hn true
    obtain ⟨sg, hsg, -⟩ := pass_ok (hgsa.keyed hsk) hn true
    have hs0 : sg.tally.changed = 0 := by
      refine (pass_changed_eq_zero (hgsa.keyed hsk) hn hsg).mpr ?_
      intro i k hw
      rw [hgsa.rows_eq, current, if_pos rfl] at hw
      rcases (plannedSuppressions_wants_moved hgsa.moved).mp hw with
        ⟨hold, -⟩ | ⟨s, number, hin, hmoved, hnone, hnorm, hne⟩
      · rw [hgsa.rows_eq, current, if_pos rfl]
        exact hu.suppressions.held hsk hn hsa hold
      · obtain ⟨sa', hsa', -, hplan⟩ := pass_ok hsk hn true
        cases hsa.symm.trans hsa'
        refine (hlisted hu.suppressions hsa).mpr (hu.fixed hin hnone ?_ hnorm hne)
        exact hu.suppressions.moves EarlierBatch.lt hplan _ _ hmoved
    have hsc := hu.contacts.same hck hn hcd hca
    have hss := hu.suppressions.same hsk hn hsd hsa
    have hagain : renormalizePhones normalize defaultRegion true batch.value
        ⟨db.region, ca.rows, sa.rows⟩ = .ok ⟨⟨db.region, cg.rows, sg.rows⟩,
          cg.tally, sg.tally⟩ := renormalizePhones_eq hcg (hSg ▸ hsg)
    exact ⟨_, _, _, hdry, renormalizePhones_eq hca (hSa ▸ hsa), hagain, hsc.2,
      hss.2, hc0, hs0⟩

end

/-- The normalizer of the code, as the script calls it. -/
def scriptNormalizer (env : Env) : Normalizer := fun text region =>
  (normalizePhone env text region).map (·.e164)

/-- Contact 1 wants the number of contact 2, which moves to another. -/
def chainedContacts : PhoneDb where
  region _ := "IN"
  contacts := [(1, ⟨0, "+919876543210", "+19876543210"⟩),
    (2, ⟨0, "+919876543211", "+919876543210"⟩)]
  suppressions := []
  contactsById := by decide
  contactsUnique := by decide
  suppressionsById := by decide
  suppressionsUnique := by decide

/-- The first apply run reports a collision, and the second changes it. -/
theorem renormalize_chained :
    ¬ RenormalizeAgrees (scriptNormalizer (plainEnv {})) "IN"
      ⟨1000, by decide⟩ chainedContacts := by
  rintro ⟨dry, applied, again, -, happlied, hagain, -, -, hzero, -⟩
  have hrun : ((renormalizePhones (scriptNormalizer (plainEnv {})) "IN" true
      1000 chainedContacts.toPhoneTables).bind fun applied =>
        renormalizePhones (scriptNormalizer (plainEnv {})) "IN" true 1000
          applied.tables).toOption.map (·.contacts.changed) = some 1 := by
    decide +kernel
  rw [happlied, Except.bind, hagain] at hrun
  have hone : again.contacts.changed = 1 := Option.some.inj hrun
  omega

end CallingAgent
