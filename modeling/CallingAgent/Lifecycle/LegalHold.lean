import CallingAgent.Lifecycle.Erasure

/-!
# Legal hold — what the lifecycle leaves alone

Every selection of a retention run and of an erasure leaves out what a hold
covers, by the row itself or by the rows it hangs on. So whatever is run in
whatever order, the held records stay as they are. Audit rows are covered
when their entity is a held contact or a held campaign.
-/

namespace CallingAgent

open Lib

/-! ## Sparing -/

/-- From `db` to `db'` no held record was deleted or modified, and what is
held is so still. -/
structure Spares (db db' : LifecycleDb) : Prop where
  campaigns : db'.core.campaigns = db.core.campaigns
  attempts : db'.core.attempts = db.core.attempts
  holds : ∀ c, db'.contactHeld c = db.contactHeld c
  contacts : ∀ c, db.contactHeld c = true →
    db'.core.contact c = db.core.contact c
  links : ∀ s, (AList.lookup s db'.sessions).map (·.callAttemptId)
    = (AList.lookup s db.sessions).map (·.callAttemptId)
  sessions : ∀ s, db.sessionHeld s = true →
    AList.lookup s db'.sessions = AList.lookup s db.sessions
  messages : ∀ k m, AList.lookup k db.messages = some m →
    db.sessionHeld m.sessionId = true → AList.lookup k db'.messages = some m
  snapshots : ∀ k s, AList.lookup k db.snapshots = some s →
    db.attemptHeld s.attemptId = true → AList.lookup k db'.snapshots = some s
  analyses : ∀ k a, AList.lookup k db.analyses = some a →
    db.contactHeld a.row.call.contactId = true →
    AList.lookup k db'.analyses = some a
  audits : ∀ k a, AList.lookup k db.auditLog = some a →
    db.entityHeld a.entity = true → AList.lookup k db'.auditLog = some a

section

variable {db db' db'' : LifecycleDb}

theorem attemptHeld_congr (ha : db'.core.attempts = db.core.attempts)
    (hc : ∀ c, db'.contactHeld c = db.contactHeld c) (a : AttemptId) :
    db'.attemptHeld a = db.attemptHeld a := by
  unfold LifecycleDb.attemptHeld Db.attempt
  rw [ha]
  simp only [hc]

theorem sessionHeld_congr
    (ha : ∀ a, db'.attemptHeld a = db.attemptHeld a) {s : SessionId}
    (hl : (AList.lookup s db'.sessions).map (·.callAttemptId)
      = (AList.lookup s db.sessions).map (·.callAttemptId)) :
    db'.sessionHeld s = db.sessionHeld s := by
  have hvia : ∀ d : LifecycleDb, d.sessionHeld s
      = ((AList.lookup s d.sessions).map (·.callAttemptId)).any d.attemptHeld := by
    intro d
    unfold LifecycleDb.sessionHeld
    rw [Option.any_map]
  rw [hvia, hvia, hl]
  congr 1
  funext a
  exact ha a

theorem entityHeld_congr (hk : db'.core.campaigns = db.core.campaigns)
    (hc : ∀ c, db'.contactHeld c = db.contactHeld c) (e : Option AuditEntity) :
    db'.entityHeld e = db.entityHeld e := by
  unfold LifecycleDb.entityHeld LifecycleDb.campaignHeld Db.campaign
  rw [hk]
  split
  · exact hc _
  · rfl
  · rfl

namespace Spares

theorem attemptHeld (h : Spares db db') (a : AttemptId) :
    db'.attemptHeld a = db.attemptHeld a :=
  attemptHeld_congr h.attempts h.holds a

theorem sessionHeld (h : Spares db db') (s : SessionId) :
    db'.sessionHeld s = db.sessionHeld s :=
  sessionHeld_congr h.attemptHeld (h.links s)

theorem entityHeld (h : Spares db db') (e : Option AuditEntity) :
    db'.entityHeld e = db.entityHeld e :=
  entityHeld_congr h.campaigns h.holds e

theorem refl (db : LifecycleDb) : Spares db db where
  campaigns := rfl
  attempts := rfl
  holds _ := rfl
  contacts _ _ := rfl
  links _ := rfl
  sessions _ _ := rfl
  messages _ _ h _ := h
  snapshots _ _ h _ := h
  analyses _ _ h _ := h
  audits _ _ h _ := h

theorem trans (h : Spares db db') (h' : Spares db' db'') : Spares db db'' where
  campaigns := h'.campaigns.trans h.campaigns
  attempts := h'.attempts.trans h.attempts
  holds c := (h'.holds c).trans (h.holds c)
  contacts c hc :=
    (h'.contacts c ((h.holds c).trans hc)).trans (h.contacts c hc)
  links s := (h'.links s).trans (h.links s)
  sessions s hs :=
    (h'.sessions s ((h.sessionHeld s).trans hs)).trans (h.sessions s hs)
  messages k m hm hs :=
    h'.messages k m (h.messages k m hm hs) ((h.sessionHeld _).trans hs)
  snapshots k s hs ha :=
    h'.snapshots k s (h.snapshots k s hs ha) ((h.attemptHeld _).trans ha)
  analyses k a hk hc :=
    h'.analyses k a (h.analyses k a hk hc) ((h.holds _).trans hc)
  audits k a hk he :=
    h'.audits k a (h.audits k a hk he) ((h.entityHeld _).trans he)

/-! ### Writes to one table -/

theorem deleteMessages {ids : List Nat}
    (h : ∀ k ∈ ids, ∀ m, AList.lookup k db.messages = some m →
      db.sessionHeld m.sessionId = false) :
    Spares db { db with messages := db.messages.deleteIn ids } :=
  { refl db with
    messages := fun k m hm hs => by
      rw [Table.lookup_deleteIn, if_neg ?_]
      · exact hm
      · intro hk
        rw [h k hk m hm] at hs
        cases hs }

theorem updateSessions {ids : List Nat}
    {f : ConversationSession → ConversationSession}
    (hf : ∀ r, (f r).callAttemptId = r.callAttemptId)
    (h : ∀ k ∈ ids, ∀ r, AList.lookup k db.sessions = some r →
      db.attemptHeld r.callAttemptId = false) :
    Spares db { db with sessions := db.sessions.updateIn ids f } :=
  { refl db with
    links := fun s => Table.map_lookup_updateIn hf
    sessions := fun s hs => by
      rw [Table.lookup_updateIn, if_neg ?_]
      intro hk
      obtain ⟨r, hr, ha⟩ := (Option.any_eq_true _ _).mp hs
      rw [h s hk r hr] at ha
      cases ha }

theorem updateSnapshots {ids : List Nat}
    {f : WorkingMemorySnapshot → WorkingMemorySnapshot}
    (h : ∀ k ∈ ids, ∀ r, AList.lookup k db.snapshots = some r →
      db.attemptHeld r.attemptId = false) :
    Spares db { db with snapshots := db.snapshots.updateIn ids f } :=
  { refl db with
    snapshots := fun k r hr ha => by
      rw [Table.lookup_updateIn, if_neg ?_]
      · exact hr
      · intro hk
        rw [h k hk r hr] at ha
        cases ha }

theorem updateAnalyses {ids : List Nat} {f : StoredAnalysis → StoredAnalysis}
    (h : ∀ k ∈ ids, ∀ r, AList.lookup k db.analyses = some r →
      db.contactHeld r.row.call.contactId = false) :
    Spares db { db with analyses := db.analyses.updateIn ids f } :=
  { refl db with
    analyses := fun k r hr hc => by
      rw [Table.lookup_updateIn, if_neg ?_]
      · exact hr
      · intro hk
        rw [h k hk r hr] at hc
        cases hc }

theorem deleteAudits {ids : List Nat}
    (h : ∀ k ∈ ids, ∀ r, AList.lookup k db.auditLog = some r →
      db.entityHeld r.entity = false) :
    Spares db { db with auditLog := db.auditLog.deleteIn ids } :=
  { refl db with
    audits := fun k r hr he => by
      rw [Table.lookup_deleteIn, if_neg ?_]
      · exact hr
      · intro hk
        rw [h k hk r hr] at he
        cases he }

/-- Contact rows change by `g`, which leaves a held one as it is and no hold
is touched. -/
theorem contactRows {core : Db} {g : ContactId → Contact → Contact}
    (hk : core.campaigns = db.core.campaigns)
    (ha : core.attempts = db.core.attempts)
    (hc : ∀ c, core.contact c = (db.core.contact c).map (g c))
    (hg : ∀ c r, (g c r).legalHold = r.legalHold ∧
      (g c r).campaignId = r.campaignId)
    (h : ∀ c r, db.core.contact c = some r → db.holdCovers r = true →
      g c r = r) :
    Spares db { db with core } := by
  have hcovers : ∀ c r, ({ db with core } : LifecycleDb).holdCovers (g c r)
      = db.holdCovers r := by
    intro c r
    unfold LifecycleDb.holdCovers Db.campaign
    dsimp only
    rw [(hg c r).1, (hg c r).2, hk]
  have hholds : ∀ c, ({ db with core } : LifecycleDb).contactHeld c
      = db.contactHeld c := by
    intro c
    unfold LifecycleDb.contactHeld
    dsimp only
    rw [hc c, Option.any_map]
    congr 1
    funext r
    exact hcovers c r
  exact {
    refl db with
    campaigns := hk
    attempts := ha
    holds := hholds
    contacts := fun c hheld => by
      obtain ⟨r, hr, hcov⟩ := (Option.any_eq_true _ _).mp hheld
      dsimp only
      rw [hc c, hr, Option.map_some, h c r hr hcov] }

/-- A new audit row takes the place of none. -/
theorem audit (row : AuditRow) : Spares db (db.audit row) :=
  { refl db with
    audits := fun k r hr _ => by
      unfold LifecycleDb.audit
      dsimp only
      rw [Table.lookup_insert', if_neg ?_]
      · exact hr
      · rintro rfl
        rw [Table.lookup_nextKey] at hr
        cases hr }

/-- Nothing of it concerns a contact. -/
theorem ofBookkeeping (events : Table Nat Instant)
    (runs : Table Nat RetentionRun) :
    Spares db { db with processedEvents := events, retentionRuns := runs } :=
  { refl db with campaigns := rfl }

end Spares

end

/-! ## Retention -/

namespace Retention

/-- A step applied to rows it selected spares what is held. -/
def StepSpares (step : RetentionStep) : Prop :=
  ∀ db cutoff current ids now,
    (∀ k ∈ ids, k ∈ step.candidates db cutoff current) →
    Spares db (step.apply db ids now)

theorem mapRows_contact (db : LifecycleDb) (g : ContactId → Contact → Contact)
    (c : ContactId) :
    ({ db.core with contacts := db.core.contacts.mapRows g } : Db).contact c
      = (db.core.contact c).map (g c) :=
  Table.lookup_mapRows _ _ _

theorem purgeContact_spares {db : LifecycleDb} {ids : List ContactId}
    {now : Instant}
    (h : ∀ k ∈ ids, ∀ r, db.core.contact k = some r → db.holdCovers r = false) :
    Spares db (scrubContacts db ids now) := by
  refine Spares.contactRows (g := fun id c =>
    if ids.contains id then purgeContact now id c else c) rfl rfl
    (mapRows_contact db _) (fun c r => ?_) (fun c r hr hheld => ?_)
  · split
    · exact ⟨rfl, rfl⟩
    · exact ⟨rfl, rfl⟩
  · refine if_neg fun hin => ?_
    rw [h c (List.contains_iff_mem.mp hin) r hr] at hheld
    cases hheld

/-- **Every class leaves out what a hold covers.** -/
theorem steps_spare (step : RetentionStep) (h : step ∈ steps) :
    StepSpares step := by
  intro db cutoff current ids now hids
  simp only [steps, List.mem_cons, List.not_mem_nil, or_false] at h
  rcases h with rfl | rfl | rfl | rfl | rfl | rfl | rfl | rfl
  · simp only [transcriptMessages] at hids
    refine Spares.deleteMessages fun k hk m hm => ?_
    have hp := Table.of_mem_select (hids k hk) hm
    simp only [Bool.and_eq_true, Bool.not_eq_true'] at hp
    exact hp.1.2
  · simp only [transcriptLinks] at hids
    refine Spares.updateSessions (fun _ => rfl) fun k hk r hr => ?_
    have hp := Table.of_mem_select (hids k hk) hr
    simp only [Bool.and_eq_true, Bool.not_eq_true'] at hp
    exact hp.2
  · simp only [snapshots] at hids
    refine Spares.updateSnapshots fun k hk r hr => ?_
    have hp := Table.of_mem_select (hids k hk) hr
    simp only [Bool.and_eq_true, Bool.not_eq_true'] at hp
    exact hp.1.2
  · simp only [analysis] at hids
    refine Spares.updateAnalyses fun k hk r hr => ?_
    have hp := Table.of_mem_select (hids k hk) hr
    simp only [Bool.and_eq_true, Bool.not_eq_true'] at hp
    exact hp.1.2
  · simp only [contacts] at hids
    refine purgeContact_spares fun k hk r hr => ?_
    have hp := Table.of_mem_select (hids k hk) hr
    simp only [Bool.and_eq_true, Bool.not_eq_true'] at hp
    obtain ⟨⟨⟨hcampaign, -⟩, hown⟩, -⟩ := hp
    obtain ⟨campaign, hk', hopen⟩ := (Option.any_eq_true _ _).mp hcampaign
    simp only [Bool.and_eq_true, Bool.not_eq_true'] at hopen
    simp [LifecycleDb.holdCovers, hown, hk', hopen.2]
  · simp only [audit] at hids
    refine Spares.deleteAudits fun k hk r hr => ?_
    have hp := Table.of_mem_select (hids k hk) hr
    simp only [Bool.and_eq_true, Bool.not_eq_true'] at hp
    exact hp.2
  · exact Spares.ofBookkeeping _ _
  · exact Spares.ofBookkeeping _ _

theorem runBatches_spares {step : RetentionStep} (h : StepSpares step)
    (cfg : RetentionConfig) (now cutoff : Instant) (current : Nat)
    (turns : List Turn) (db : LifecycleDb) (total : Nat) :
    Spares db
      (runBatches step cfg now cutoff current turns db total).1.db := by
  induction turns generalizing db total with
  | nil => exact .refl db
  | cons turn turns ih =>
    cases turn with
    | overBudget => exact .refl db
    | dbError => exact .refl db
    | withinBudget =>
      unfold runBatches
      dsimp only
      split
      · exact .refl db
      · have hbatch := h db cutoff current
          ((step.candidates db cutoff current).take cfg.batchSize) now
          fun k hk => List.mem_of_mem_take hk
        exact hbatch.trans (ih _ _)

theorem runStep_spares {step : RetentionStep} (h : StepSpares step)
    (cfg : RetentionConfig) (now : Instant) (apply : Bool) (current : Nat)
    (p : Progress) :
    Spares p.db (runStep cfg now apply current p step).db := by
  unfold runStep
  split
  · exact .refl _
  · split
    · exact .refl _
    · dsimp only
      split
      · exact .refl _
      · split
        · exact runBatches_spares h ..
        · exact .refl _

theorem foldl_runStep_spares (cfg : RetentionConfig) (now : Instant)
    (apply : Bool) (current : Nat) (ss : List RetentionStep)
    (h : ∀ step ∈ ss, StepSpares step) (p : Progress) :
    Spares p.db (ss.foldl (runStep cfg now apply current) p).db := by
  induction ss generalizing p with
  | nil => exact .refl _
  | cons step ss ih =>
    obtain ⟨hstep, hrest⟩ := List.forall_mem_cons.mp h
    exact (runStep_spares hstep cfg now apply current p).trans (ih hrest _)

theorem finish_spares (db : LifecycleDb) (current : Nat) (actor : String)
    (now : Instant) (p : Progress) :
    Spares db (finish db current actor now p) :=
  (Spares.ofBookkeeping db.processedEvents _).trans (.audit _)

/-- **A retention run spares what is held.** -/
theorem run_spares (cfg : RetentionConfig) (now : Instant) (apply : Bool)
    (actor : String) (lockGot : Bool) (turns : List Turn) (db : LifecycleDb) :
    Spares db (run cfg now apply actor lockGot turns db).1 := by
  have hstart : Spares db { db with
      retentionRuns := AList.insert db.retentionRuns.nextKey
        { startedAt := now, apply } db.retentionRuns } :=
    Spares.ofBookkeeping db.processedEvents _
  unfold run
  dsimp only
  generalize hdb : LifecycleDb.mk _ _ _ _ _ _ _ _ _ = started at hstart ⊢
  split
  · refine hstart.trans ?_
    have hsteps := foldl_runStep_spares cfg now apply db.retentionRuns.nextKey
      steps steps_spare { db := started, turns }
    generalize steps.foldl (runStep cfg now apply db.retentionRuns.nextKey)
      { db := started, turns } = p at hsteps ⊢
    split
    · exact hsteps.trans (finish_spares ..)
    · exact hsteps.trans (finish_spares ..)
  · exact hstart.trans (finish_spares ..)

end Retention

/-! ## Erasure -/

section Erasure

variable {env : Env} {fingerprint : String → String} {db : LifecycleDb}

/-- The content of contacts none of whom is held. -/
theorem scrubContent_spares {ids : List ContactId}
    (h : ∀ c ∈ ids, db.contactHeld c = false) :
    Spares db (db.scrubContent ids) := by
  have hattempt : ∀ a, db.attemptOf ids a = true → db.attemptHeld a = false := by
    intro a ha
    obtain ⟨row, hrow, hin⟩ := (Option.any_eq_true _ _).mp ha
    unfold LifecycleDb.attemptHeld
    rw [hrow]
    exact h _ (List.contains_iff_mem.mp hin)
  have hsession : ∀ s, db.sessionOf ids s = true → db.sessionHeld s = false := by
    intro s hs
    obtain ⟨row, hrow, ha⟩ := (Option.any_eq_true _ _).mp hs
    unfold LifecycleDb.sessionHeld
    rw [hrow]
    exact hattempt _ ha
  have hmessages : ∀ k ∈ db.messages.select fun _ m =>
      db.sessionOf ids m.sessionId, ∀ m, AList.lookup k db.messages = some m →
      db.sessionHeld m.sessionId = false := by
    intro k hk m hm
    have hp := Table.of_mem_select hk hm
    exact hsession _ hp
  have hsessions : ∀ k ∈ db.sessions.select fun _ s =>
      db.attemptOf ids s.callAttemptId, ∀ s, AList.lookup k db.sessions = some s →
      db.attemptHeld s.callAttemptId = false := by
    intro k hk s hs
    have hp := Table.of_mem_select hk hs
    exact hattempt _ hp
  have hsnapshots : ∀ k ∈ db.snapshots.select fun _ s =>
      db.attemptOf ids s.attemptId, ∀ s, AList.lookup k db.snapshots = some s →
      db.attemptHeld s.attemptId = false := by
    intro k hk s hs
    have hp := Table.of_mem_select hk hs
    exact hattempt _ hp
  have hanalyses : ∀ k ∈ db.analyses.select fun _ a =>
      ids.contains a.row.call.contactId, ∀ a,
      AList.lookup k db.analyses = some a →
      db.contactHeld a.row.call.contactId = false := by
    intro k hk a ha
    have hp := Table.of_mem_select hk ha
    exact h _ (List.contains_iff_mem.mp hp)
  -- one table after the other
  refine (Spares.deleteMessages hmessages).trans ?_
  refine Spares.trans (Spares.updateSessions
    (f := fun s => { s with transcriptUrl := none }) (fun _ => rfl)
    hsessions) ?_
  refine Spares.trans (Spares.updateSnapshots
    (f := WorkingMemorySnapshot.cleared) hsnapshots) ?_
  exact Spares.updateAnalyses hanalyses

theorem scrubContactRows_spares {ids : List ContactId} {now : Instant}
    (h : ∀ c ∈ ids, db.contactHeld c = false) :
    Spares db (db.scrubContactRows ids now) := by
  refine Spares.contactRows (g := fun id c =>
    if ids.contains id then scrubContact now id c else c) rfl rfl
    (Retention.mapRows_contact db _) (fun c r => ?_) (fun c r hr hheld => ?_)
  · split
    · exact ⟨rfl, rfl⟩
    · exact ⟨rfl, rfl⟩
  · refine if_neg fun hin => ?_
    have hfree := h c (List.contains_iff_mem.mp hin)
    unfold LifecycleDb.contactHeld at hfree
    rw [hr, Option.any_some, hheld] at hfree
    cases hfree

/-- What an erasure that goes through makes of the rows. -/
theorem erase_rows {core core' : Db} {subject : ErasureSubject} {suppress : Bool}
    {actor : String} {now : Instant}
    (h : erase env fingerprint core subject suppress actor now = .ok core') :
    (erasureNumber env core subject = .ok none ∧ core' = core) ∨
    ∃ e164, erasureNumber env core subject = .ok (some e164) ∧
      erasureHeld core e164 = false ∧
      core'.campaigns = core.campaigns ∧ core'.attempts = core.attempts ∧
      core'.erasureLog = fingerprint e164 :: core.erasureLog ∧
      core'.contacts = core.contacts.mapRows fun id c =>
        if c.normalizedPhoneNumber == e164 then scrubContact now id c
        else c := by
  unfold erase at h
  cases hn : erasureNumber env core subject with
  | error e =>
      rw [hn] at h
      cases h
  | ok number =>
      rw [hn] at h
      cases number with
      | none =>
          cases h
          exact .inl ⟨rfl, rfl⟩
      | some e164 =>
          dsimp only at h
          split at h
          · cases h
          · next hheld =>
            cases h
            exact .inr ⟨e164, rfl, by simpa using hheld, rfl, rfl, rfl, rfl⟩

/-- No hold covers what an erasure covers. -/
theorem erasureHeld_false {e164 : String}
    (h : erasureHeld db.core e164 = false) {c : ContactId} {r : Contact}
    (hr : db.core.contact c = some r)
    (hn : (r.normalizedPhoneNumber == e164) = true) :
    db.holdCovers r = false := by
  by_contra hcov
  rw [Bool.not_eq_false] at hcov
  have hheld : erasureHeld db.core e164 = true := by
    refine Table.any_iff.mpr ⟨c, r, hr, ?_⟩
    unfold LifecycleDb.holdCovers at hcov
    rw [hn, Bool.true_and]
    cases hk : db.core.campaign r.campaignId with
    | none => simpa [hk] using hcov
    | some k => simpa [hk] using hcov
  rw [h] at hheld
  cases hheld

/-- **An erasure spares what is held.** -/
theorem eraseData_spares {subject : ErasureSubject} {suppress : Bool}
    {actor : String} {now : Instant} {db' : LifecycleDb}
    (h : eraseData env fingerprint db subject suppress actor now = .ok db') :
    Spares db db' := by
  unfold eraseData at h
  cases herase : erase env fingerprint db.core subject suppress actor now with
  | error e =>
      rw [herase] at h
      cases h
  | ok core =>
      rw [herase] at h
      rcases erase_rows herase with ⟨hn, rfl⟩ | ⟨e164, hn, hheld, hk, ha, -, hc⟩
      · rw [hn] at h
        cases h
        exact .refl db
      · rw [hn] at h
        cases h
        have hfree : ∀ c ∈ db.covered e164, db.contactHeld c = false := by
          intro c hcov
          unfold LifecycleDb.contactHeld
          cases hr : db.core.contact c with
          | none => rfl
          | some r =>
              have hnum := Table.of_mem_select hcov hr
              exact erasureHeld_false hheld hr hnum
        have hcontent := scrubContent_spares hfree
        refine (hcontent.trans ?_).trans (.audit _)
        refine Spares.contactRows (g := fun id c =>
          if c.normalizedPhoneNumber == e164 then scrubContact now id c else c)
          hk ha (fun c => ?_) (fun c r => ?_) (fun c r hr hcov => ?_)
        · unfold Db.contact
          rw [hc]
          exact Table.lookup_mapRows _ _ _
        · split
          · exact ⟨rfl, rfl⟩
          · exact ⟨rfl, rfl⟩
        · refine if_neg fun hnum => ?_
          have hfree := erasureHeld_false hheld hr hnum
          have hsame : (db.scrubContent (db.covered e164)).holdCovers r
              = db.holdCovers r := rfl
          rw [hsame, hfree] at hcov
          cases hcov

theorem reapplyPage_spares (now : Instant) (apply : Bool) (prints : List String)
    (x : LifecycleDb × ReapplyReport) (ids : List ContactId) :
    Spares x.1 (reapplyPage env fingerprint now apply prints x ids).1 := by
  unfold reapplyPage
  dsimp only
  split
  · have hfree : ∀ c ∈ (ids.filter (matchesErased env fingerprint x.1 prints)).filter
        (fun c => !x.1.contactHeld c), x.1.contactHeld c = false := by
      intro c hc
      simpa using (List.mem_filter.mp hc).2
    have hcontent := scrubContent_spares hfree
    exact hcontent.trans (scrubContactRows_spares fun c hc =>
      (hcontent.holds c).trans (hfree c hc))
  · exact .refl _

/-- **A re-application spares what is held.** -/
theorem reapplyErasures_spares (db : LifecycleDb) (now : Instant) (apply : Bool)
    (page : Nat) :
    Spares db (reapplyErasures env fingerprint db now apply page).1 := by
  have hpages : ∀ (pages : List (List ContactId)) prints x,
      Spares x.1
        (pages.foldl (reapplyPage env fingerprint now apply prints) x).1 := by
    intro pages prints
    induction pages with
    | nil => exact fun x => .refl _
    | cons ids pages ih =>
      intro x
      exact (reapplyPage_spares now apply prints x ids).trans (ih _)
  unfold reapplyErasures
  dsimp only
  split
  · exact .refl db
  · exact hpages _ _ (db, _)

end Erasure

/-! ## Whatever is run -/

/-- What touches stored personal data by its age or on request. -/
inductive LifecycleAct where
  | retention (cfg : RetentionConfig) (now : Instant) (apply : Bool)
      (actor : String) (lockGot : Bool) (turns : List Retention.Turn)
  | erase (subject : ErasureSubject) (suppress : Bool) (actor : String)
      (now : Instant)
  | reapply (now : Instant) (apply : Bool) (page : Nat)

/-- A refused erasure changes nothing. -/
def lifecycleStep (env : Env) (fingerprint : String → String)
    (db : LifecycleDb) : LifecycleAct → LifecycleDb
  | .retention cfg now apply actor lockGot turns =>
      (Retention.run cfg now apply actor lockGot turns db).1
  | .erase subject suppress actor now =>
      match eraseData env fingerprint db subject suppress actor now with
      | .ok db' => db'
      | .error _ => db
  | .reapply now apply page =>
      (reapplyErasures env fingerprint db now apply page).1

theorem lifecycleStep_spares (env : Env) (fingerprint : String → String)
    (db : LifecycleDb) (a : LifecycleAct) :
    Spares db (lifecycleStep env fingerprint db a) := by
  cases a with
  | retention cfg now apply actor lockGot turns =>
      exact Retention.run_spares cfg now apply actor lockGot turns db
  | erase subject suppress actor now =>
      unfold lifecycleStep
      dsimp only
      cases h : eraseData env fingerprint db subject suppress actor now with
      | error e => exact .refl db
      | ok db' => exact eraseData_spares h
  | reapply now apply page => exact reapplyErasures_spares db now apply page

/-- **Legal hold.** No sequence of retention runs, erasures and
re-applications deletes or modifies what a hold covers. -/
theorem legal_hold_spares (env : Env) (fingerprint : String → String)
    (db : LifecycleDb) (acts : List LifecycleAct) :
    Spares db (acts.foldl (lifecycleStep env fingerprint) db) := by
  induction acts generalizing db with
  | nil => exact .refl db
  | cons a acts ih => exact (lifecycleStep_spares env fingerprint db a).trans (ih _)

/-! ## An audit row about an attempt -/

/-- A held contact, an attempt to call it, and an old audit row about the
attempt. -/
def heldAttemptAudited : LifecycleDb where
  core := {
    campaigns := AList.insert 1 {} ∅
    contacts := AList.insert 1
      { campaignId := 1, normalizedPhoneNumber := "+919876543210"
        legalHold := true } ∅
    attempts := AList.insert 1
      { contactId := 1, attemptNumber := 1, state := .endedNormally
        startedAt := 0 } ∅ }
  auditLog := AList.insert 1
    { actor := "dograh-webhook"
      action := "call_attempt.ended_normally_via_dograh_webhook"
      entity := some (.attempt 1)
      createdAt := 0 } ∅

/-- Its entity is neither the contact nor the campaign: it goes. -/
theorem audit_of_held_attempt_is_deleted :
    heldAttemptAudited.contactHeld 1 = true ∧
    (heldAttemptAudited.core.attempt 1).map (·.contactId) = some 1 ∧
    (AList.lookup 1 heldAttemptAudited.auditLog).map (·.entity)
      = some (some (.attempt 1)) ∧
    (AList.lookup 1 (Retention.run { auditLogDays := some 1 }
      (10 * 86400 * second) true "system:retention" true
      [.withinBudget, .withinBudget] heldAttemptAudited).1.auditLog).isNone := by
  decide +kernel

end CallingAgent
