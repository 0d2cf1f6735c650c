import CallingAgent.Services.Renormalize

/-!
# Renumbering and the do-not-call list

A contact is suppressed when a row of the list is under the key of its
number. The script moves contacts and rows of the list apart: a row without
a contact is normalized from its own text, one with a contact from that
contact's. So a contact can leave its row behind, and a row can leave a
contact behind that shares the number.
-/

namespace CallingAgent

open Lib Renumbering

section

variable (normalize : Normalizer) (defaultRegion : String)

/-- `canonical_number` -/
def canonicalKey (number : String) : String :=
  match normalize number defaultRegion with
  | .ok n => n
  | .error _ => number

/-- `is_suppressed` -/
def isListed (db : PhoneTables) (number : String) : Bool :=
  db.suppressions.any fun row =>
    row.2.phoneNumber == canonicalKey normalize defaultRegion number

/-- **Every suppressed contact stays suppressed** when the script writes. -/
def KeepsSuppression (batch : BatchSize) (db : PhoneDb) : Prop :=
  ∃ applied,
    renormalizePhones normalize defaultRegion true batch.value
      db.toPhoneTables = .ok applied ∧
    ∀ {c row row'}, (c, row) ∈ db.contacts → (c, row') ∈ applied.tables.contacts →
      isListed normalize defaultRegion db.toPhoneTables
        row.normalizedPhoneNumber = true →
      isListed normalize defaultRegion applied.tables
        row'.normalizedPhoneNumber = true

/-! ## The plan of a run -/

/-- Which contacts and which rows of the list take a new number, and the
numbers that the contacts have then. -/
structure ScriptPlan (batch : BatchSize) (db : PhoneDb) where
  contacts : ContactId → CampaignId × String → Prop
  list : SuppressionId → String → Prop
  now : ContactId → Option String
  contacts_plan : (contactRenumbering normalize db.region).IsPlan db.contacts
    (EarlierBatch db.contacts true batch.value) contacts
  now_eq : ∀ c n, now c = some n ↔
    (∃ campaign, contacts c (campaign, n)) ∨
      ∃ row, (c, row) ∈ db.contacts ∧ row.normalizedPhoneNumber = n ∧
        ∀ k, ¬ contacts c k
  list_plan : (suppressionRenumbering normalize defaultRegion
    (contactSource db.region db.contacts) now).IsPlan db.suppressions
      (EarlierBatch db.suppressions true batch.value) list

/-- A row of the list has this number. -/
def ListRow (db : PhoneTables) (i : SuppressionId) (number : String) : Prop :=
  ∃ s, (i, s) ∈ db.suppressions ∧ s.phoneNumber = number

/-- **The list follows the contacts**, by the plan: the row of a contact
whose key stays does not move away, or another takes its place; and under the
key of a contact whose key changes there is a row that stays, or one comes. -/
structure Follows {batch : BatchSize} {db : PhoneDb}
    (plan : ScriptPlan normalize defaultRegion batch db) : Prop where
  stays : ∀ {c row q i k}, (c, row) ∈ db.contacts → plan.now c = some q →
    ListRow db.toPhoneTables i
      (canonicalKey normalize defaultRegion row.normalizedPhoneNumber) →
    canonicalKey normalize defaultRegion q
      = canonicalKey normalize defaultRegion row.normalizedPhoneNumber →
    plan.list i k → ∃ j, plan.list j (canonicalKey normalize defaultRegion q)
  comes : ∀ {c row q i}, (c, row) ∈ db.contacts → plan.now c = some q →
    ListRow db.toPhoneTables i
      (canonicalKey normalize defaultRegion row.normalizedPhoneNumber) →
    canonicalKey normalize defaultRegion q
      ≠ canonicalKey normalize defaultRegion row.normalizedPhoneNumber →
    (∃ j, plan.list j (canonicalKey normalize defaultRegion q)) ∨
      ∃ j, ListRow db.toPhoneTables j (canonicalKey normalize defaultRegion q) ∧
        ∀ k, ¬ plan.list j k

end

section

variable {normalize : Normalizer} {defaultRegion : String} {batch : BatchSize}
  {db : PhoneDb}

/-- The lookup of the model's do-not-call table. -/
theorem canonicalKey_eq (env : Env) (number : String) :
    canonicalKey (scriptNormalizer env) env.settings.defaultRegion number
      = canonicalNumber env number := by
  rw [canonicalKey, canonicalNumber, scriptNormalizer]
  cases normalizePhone env number env.settings.defaultRegion <;> rfl

theorem isListed_iff {tables : PhoneTables} {number : String} :
    isListed normalize defaultRegion tables number = true ↔
      ∃ i, ListRow tables i (canonicalKey normalize defaultRegion number) := by
  rw [isListed, List.any_eq_true]
  constructor
  · rintro ⟨⟨i, s⟩, hs, heq⟩
    exact ⟨i, s, hs, beq_iff_eq.mp heq⟩
  · rintro ⟨i, s, hs, heq⟩
    exact ⟨(i, s), hs, beq_iff_eq.mpr heq⟩

/-- The numbers of the contacts, when some have moved. -/
theorem contactNow_eq_some {moved : List (ContactId × CampaignId × String)}
    (hm : Moved (contactRenumbering normalize db.region) db.contacts moved)
    {c : ContactId} {n : String} :
    contactNow db.contacts (plannedNumbers moved) c = some n ↔
      (∃ campaign, (c, campaign, n) ∈ moved) ∨
        ∃ row, (c, row) ∈ db.contacts ∧ row.normalizedPhoneNumber = n ∧
          ∀ k, (c, k) ∉ moved := by
  have hids : (moved.map (·.1)).Nodup :=
    List.pairwise_map.mpr (hm.falling.imp fun hlt => hlt.ne')
  have hrows : (db.contacts.map (·.1)).Nodup :=
    List.pairwise_map.mpr (db.contactsById.imp fun h => h.ne)
  have hnone : (plannedNumbers moved).lookup c = none ↔ ∀ k, (c, k) ∉ moved := by
    rw [Option.eq_none_iff_forall_ne_some]
    constructor
    · intro h k hin
      exact h k.2 ((lookup_plannedNumbers hids).mpr ⟨k.1, hin⟩)
    · intro h n hn
      obtain ⟨campaign, hin⟩ := (lookup_plannedNumbers hids).mp hn
      exact h _ hin
  rw [contactNow, Option.or_eq_some_iff, lookup_plannedNumbers hids, hnone,
    Option.map_eq_some_iff]
  refine or_congr_right ⟨?_, ?_⟩
  · rintro ⟨hstay, row, hrow, heq⟩
    exact ⟨row, (lookup_eq_some_iff_mem hrows).mp hrow, heq, hstay⟩
  · rintro ⟨row, hrow, heq, hstay⟩
    exact ⟨hstay, row, (lookup_eq_some_iff_mem hrows).mpr hrow, heq⟩

/-- The passes of an apply run, and the plan they follow. -/
theorem exists_scriptPlan (normalize : Normalizer) (defaultRegion : String)
    (batch : BatchSize) (db : PhoneDb) :
    ∃ (c : Pass ContactId PhoneContact (CampaignId × String) RenormalizeNote)
      (s : Pass SuppressionId PhoneSuppression String RenormalizeNote)
      (plan : ScriptPlan normalize defaultRegion batch db),
      renormalizePhones normalize defaultRegion true batch.value
          db.toPhoneTables
        = .ok ⟨⟨db.region, c.rows, s.rows⟩, c.tally, s.tally⟩ ∧
      Going (contactRenumbering normalize db.region) true db.contacts c ∧
      Going (suppressionRenumbering normalize defaultRegion
        (contactSource db.region db.contacts) plan.now) true db.suppressions s ∧
      (∀ i k, plan.contacts i k ↔ (i, k) ∈ c.moved) ∧
      ∀ i k, plan.list i k ↔ (i, k) ∈ s.moved := by
  obtain ⟨c, hc, hgc, hpc⟩ :=
    pass_ok (db.contactsKeyed normalize) batch.positive true
  have hcrows : c.rows = (contactRenumbering normalize db.region).moveRows
      db.contacts c.moved := hgc.rows_eq.trans (if_pos rfl)
  have hS : suppressionsAfter normalize defaultRegion db.region c
      = suppressionRenumbering normalize defaultRegion
        (contactSource db.region db.contacts)
        (contactNow db.contacts (plannedNumbers c.moved)) := by
    rw [suppressionsAfter, hcrows, contactSource_moveRows,
      contactNow_moveRows hgc.moved (.inl rfl)]
  obtain ⟨s, hs, hgs, hps⟩ := pass_ok (R := suppressionsAfter normalize
    defaultRegion db.region c) (db.suppressionsKeyed _ _) batch.positive true
  refine ⟨c, s, ⟨fun i k => (i, k) ∈ c.moved, fun i k => (i, k) ∈ s.moved,
    contactNow db.contacts (plannedNumbers c.moved), hpc,
    fun _ _ => contactNow_eq_some hgc.moved, hS ▸ hps⟩,
    renormalizePhones_eq hc hs, hgc, hS ▸ hgs, fun _ _ => Iff.rfl,
    fun _ _ => Iff.rfl⟩

/-- **There is one plan.** -/
theorem ScriptPlan.unique (plan plan' : ScriptPlan normalize defaultRegion batch db) :
    (∀ c, plan.now c = plan'.now c) ∧ ∀ i k, plan.list i k ↔ plan'.list i k := by
  have hcontacts : ∀ i k, plan.contacts i k ↔ plan'.contacts i k :=
    plan.contacts_plan.unique EarlierBatch.lt plan'.contacts_plan
  have hnow : plan.now = plan'.now := by
    funext c
    refine Option.ext fun n => ?_
    rw [plan.now_eq, plan'.now_eq]
    simp only [hcontacts]
  refine ⟨congrFun hnow, ?_⟩
  have hplan := plan.list_plan
  rw [hnow] at hplan
  exact hplan.unique EarlierBatch.lt plan'.list_plan

/-- The number of a contact after the run is the planned one. -/
theorem ScriptPlan.now_iff (plan : ScriptPlan normalize defaultRegion batch db)
    {done : Pass ContactId PhoneContact (CampaignId × String) RenormalizeNote}
    (hdone : Going (contactRenumbering normalize db.region) true db.contacts done)
    (hplan : ∀ i k, plan.contacts i k ↔ (i, k) ∈ done.moved) {c : ContactId}
    {q : String} :
    plan.now c = some q ↔
      ∃ row', (c, row') ∈ done.rows ∧ row'.normalizedPhoneNumber = q := by
  have hrows : done.rows = (contactRenumbering normalize db.region).moveRows
      db.contacts done.moved := hdone.rows_eq.trans (if_pos rfl)
  have hkey := db.contactsKeyed normalize
  rw [plan.now_eq, hrows]
  constructor
  · rintro (⟨campaign, hmove⟩ | ⟨r, hr, heq, hstay⟩)
    · have hin := (hplan _ _).mp hmove
      obtain ⟨r, hr, hv⟩ := hdone.moved.wants hin
      refine ⟨_, mem_moveRows.mpr ⟨r, hr, rfl⟩, ?_⟩
      rw [hdone.moved.lookup_eq_some.mpr hin]
      rfl
    · refine ⟨r, mem_moveRows.mpr ⟨r, hr, ?_⟩, heq⟩
      rw [hdone.moved.lookup_eq_none.mpr fun k hin => hstay k ((hplan _ _).mpr hin)]
      rfl
  · rintro ⟨row', hin, heq⟩
    obtain ⟨r, hr, rfl⟩ := mem_moveRows.mp hin
    cases hl : done.moved.lookup c with
    | none =>
        rw [hl] at heq
        exact .inr ⟨r, hr, heq, fun k hk =>
          hdone.moved.lookup_eq_none.mp hl k ((hplan _ _).mp hk)⟩
    | some k =>
        rw [hl] at heq
        subst heq
        exact .inl ⟨k.1, (hplan _ _).mpr (hdone.moved.lookup_eq_some.mp hl)⟩

/-- What is under a key of the list after the run: a row that has come, or
one that was there and stays. -/
theorem ScriptPlan.listed_iff (plan : ScriptPlan normalize defaultRegion batch db)
    {done : Pass SuppressionId PhoneSuppression String RenormalizeNote}
    (hdone : Going (suppressionRenumbering normalize defaultRegion
      (contactSource db.region db.contacts) plan.now) true db.suppressions done)
    (hplan : ∀ i k, plan.list i k ↔ (i, k) ∈ done.moved)
    {contacts : List (ContactId × PhoneContact)} {number : String} :
    isListed normalize defaultRegion ⟨db.region, contacts, done.rows⟩ number
        = true ↔
      (∃ j, plan.list j (canonicalKey normalize defaultRegion number)) ∨
        ∃ j, ListRow db.toPhoneTables j
            (canonicalKey normalize defaultRegion number) ∧
          ∀ k, ¬ plan.list j k := by
  have hrows : done.rows = (suppressionRenumbering normalize defaultRegion
      (contactSource db.region db.contacts) plan.now).moveRows db.suppressions
        done.moved := hdone.rows_eq.trans (if_pos rfl)
  simp only [isListed_iff, hplan, ← exists_or]
  refine exists_congr fun j => ?_
  have hholds := hdone.moved.holds_iff (db.suppressionsKeyed _ _) (h := j)
    (k := canonicalKey normalize defaultRegion number)
  rw [← hrows] at hholds
  exact hholds

/-- **Every suppressed contact stays suppressed exactly when the list follows
the contacts.** -/
theorem renormalize_keepsSuppression_iff (normalize : Normalizer)
    (defaultRegion : String) (batch : BatchSize) (db : PhoneDb) :
    KeepsSuppression normalize defaultRegion batch db ↔
      ∃ plan : ScriptPlan normalize defaultRegion batch db,
        Follows normalize defaultRegion plan := by
  obtain ⟨c, s, plan, hrun, hgc, hgs, hc, hs⟩ :=
    exists_scriptPlan normalize defaultRegion batch db
  have hafter {number : String} :
      isListed normalize defaultRegion ⟨db.region, c.rows, s.rows⟩ number = true
        ↔ _ := plan.listed_iff hgs hs
  constructor
  · rintro ⟨applied, happlied, hkeeps⟩
    cases hrun.symm.trans happlied
    -- a suppressed contact has a row under its key after the run
    have hlisted : ∀ {i row q j}, (i, row) ∈ db.contacts → plan.now i = some q →
        ListRow db.toPhoneTables j
          (canonicalKey normalize defaultRegion row.normalizedPhoneNumber) →
        (∃ j, plan.list j (canonicalKey normalize defaultRegion q)) ∨
          ∃ j, ListRow db.toPhoneTables j
              (canonicalKey normalize defaultRegion q) ∧
            ∀ k, ¬ plan.list j k := by
      intro i row q j hrow hnow hlist
      obtain ⟨row', hrow', rfl⟩ := (plan.now_iff hgc hc).mp hnow
      exact hafter.mp (hkeeps hrow hrow' (isListed_iff.mpr ⟨j, hlist⟩))
    refine ⟨plan, fun {i row q j k} hrow hnow hlist hkey hmove => ?_,
      fun hrow hnow hlist _ => hlisted hrow hnow hlist⟩
    rcases hlisted hrow hnow hlist with hcome | ⟨j', hlist', hstay⟩
    · exact hcome
    · -- the row under the key is the one that moves
      rw [hkey] at hlist'
      have hunique : (suppressionRenumbering normalize defaultRegion
          (contactSource db.region db.contacts) plan.now).Keyed db.suppressions :=
        db.suppressionsKeyed _ _
      cases hunique.holds_unique hlist hlist'
      exact absurd hmove (hstay k)
  · rintro ⟨plan', hfollows⟩
    obtain ⟨hnow, hlist⟩ := plan.unique plan'
    refine ⟨_, hrun, fun {i row row'} hrow hrow' hsuppressed => ?_⟩
    obtain ⟨j, hj⟩ := isListed_iff.mp hsuppressed
    have hq := (plan.now_iff hgc hc).mpr ⟨row', hrow', rfl⟩
    rw [hnow] at hq
    rw [hafter]
    simp only [hlist]
    by_cases hkey : canonicalKey normalize defaultRegion
        row'.normalizedPhoneNumber
        = canonicalKey normalize defaultRegion row.normalizedPhoneNumber
    · by_cases hstay : ∀ k, ¬ plan'.list j k
      · exact .inr ⟨j, hkey ▸ hj, hstay⟩
      · obtain ⟨k, hmove⟩ := not_forall_not.mp hstay
        exact .inl (hfollows.stays hrow hq hj hkey hmove)
    · exact hfollows.comes hrow hq hj hkey

end

/-- Ten digits are read in the region that is given. -/
def indianNormalizer : Normalizer := fun text region =>
  if text = "9876543210" ∧ region = "IN" then .ok "+919876543210"
  else scriptNormalizer (plainEnv {}) text region

/-- Two contacts whose ten digits were read as an American number, in two
campaigns, and the row of the list that is linked to the first. The second
campaign has the right number already. -/
def sharedNumber : PhoneDb where
  region _ := "IN"
  contacts := [(1, ⟨0, "9876543210", "+19876543210"⟩),
    (2, ⟨1, "9876543210", "+19876543210"⟩),
    (3, ⟨1, "+919876543210", "+919876543210"⟩)]
  suppressions := [(1, ⟨some 1, "+19876543210"⟩)]
  contactsById := by decide
  contactsUnique := by decide
  suppressionsById := by decide
  suppressionsUnique := by decide

/-- The first contact moves and takes the row with it, the second is skipped,
and nothing is left under its number. -/
theorem renormalize_sharedNumber :
    ¬ KeepsSuppression indianNormalizer "IN" ⟨1000, by decide⟩
      sharedNumber := by
  rintro ⟨applied, happlied, hkeeps⟩
  have hrun : (renormalizePhones indianNormalizer "IN" true 1000
      sharedNumber.toPhoneTables).toOption.map (fun applied =>
        (applied.tables.contacts, isListed indianNormalizer "IN"
          applied.tables "+19876543210"))
      = some ([(1, ⟨0, "9876543210", "+919876543210"⟩),
        (2, ⟨1, "9876543210", "+19876543210"⟩),
        (3, ⟨1, "+919876543210", "+919876543210"⟩)], false) := by
    decide +kernel
  rw [happlied] at hrun
  obtain ⟨hcontacts, hfree⟩ := Prod.mk.inj (Option.some.inj hrun)
  have hskipped : ((2, ⟨1, "9876543210", "+19876543210"⟩) : ContactId × PhoneContact)
      ∈ applied.tables.contacts := by
    rw [hcontacts]
    exact List.mem_cons_of_mem _ List.mem_cons_self
  have hlisted := hkeeps (List.mem_cons_of_mem _ List.mem_cons_self) hskipped
    (by decide +kernel)
  rw [hfree] at hlisted
  exact Bool.false_ne_true hlisted

end CallingAgent
