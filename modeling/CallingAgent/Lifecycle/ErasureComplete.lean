import CallingAgent.Lifecycle.LegalHold

/-!
# Complete erasure — two selections that must agree

`erase` looks for the number as it is stored; `reapply_erasures` looks for
the fingerprint of the canonical number. They select the same contacts when
every un-purged contact of the person stores the canonical number, and an
erasure is complete exactly then.
-/

namespace CallingAgent

open Lib

section Complete

variable (env : Env) (fingerprint : String → String)

/-! ## What is claimed, and the condition -/

/-- The contact is there and not purged. -/
def LifecycleDb.Unpurged (db : LifecycleDb) (c : ContactId) (row : Contact) :
    Prop :=
  db.core.contact c = some row ∧ row.purgedAt = none

/-- The person is erased: nobody with the number is left, not even the
contact the request named, and a re-application finds nobody. -/
structure ErasedFully (subject : ErasureSubject) (number : Option String)
    (db : LifecycleDb) : Prop where
  named : ∀ c row, subject = .contact c → ¬ db.Unpurged c row
  noneLeft : ∀ e164, number = some e164 → ∀ c row, db.Unpurged c row →
    canonicalNumber env row.normalizedPhoneNumber ≠ e164
  noneFound : ∀ e164, number = some e164 → ∀ now apply page,
    ∀ c ∈ (reapplyErasures env fingerprint db now apply page).2.matched,
    ∀ row, db.core.contact c = some row →
      fingerprint (canonicalNumber env row.normalizedPhoneNumber)
        ≠ fingerprint e164

/-- An erasure is refused and changes nothing, or it is complete. -/
def EraseMeets (db : LifecycleDb) (subject : ErasureSubject) (suppress : Bool)
    (actor : String) (now : Instant) : Prop :=
  match eraseData env fingerprint db subject suppress actor now with
  | .error _ =>
      lifecycleStep env fingerprint db (.erase subject suppress actor now) = db
  | .ok db' =>
      ∀ number, erasureNumber env db.core subject = .ok number →
        ErasedFully env fingerprint subject number db'

/-- Whoever has the number, and is not purged, stores it in its canonical
form; a contact that looks erased is purged; or the request is refused. -/
def Erasable (db : LifecycleDb) (subject : ErasureSubject) : Prop :=
  match erasureNumber env db.core subject with
  | .error _ => True
  | .ok none => ∀ c row, subject = .contact c → ¬ db.Unpurged c row
  | .ok (some e164) =>
      erasureHeld db.core e164 = true ∨
      ∀ c row, db.Unpurged c row →
        fingerprint (canonicalNumber env row.normalizedPhoneNumber)
          = fingerprint e164 →
        row.normalizedPhoneNumber = e164

variable {env fingerprint}

/-! ## What a re-application finds -/

/-- The pages hold the contacts they were made of. -/
theorem mem_contactPages {page : Nat} (hp : 0 < page) (fuel : Nat)
    (ids : List ContactId) (hf : ids.length ≤ fuel) (c : ContactId) :
    c ∈ (contactPages page fuel ids).flatten ↔ c ∈ ids := by
  induction fuel generalizing ids with
  | zero =>
      have hnil : ids = [] := List.length_eq_zero_iff.mp (Nat.le_zero.mp hf)
      subst hnil
      rfl
  | succ fuel ih =>
      unfold contactPages
      cases ids with
      | nil => simp
      | cons i ids =>
          obtain ⟨p, rfl⟩ := Nat.exists_eq_succ_of_ne_zero hp.ne'
          have hrest : ((i :: ids).drop (p + 1)).length ≤ fuel := by
            simp only [List.drop_succ_cons, List.length_drop]
            simp only [List.length_cons] at hf
            omega
          have hne : ((i :: ids).take (p + 1)).isEmpty = false := rfl
          rw [hne, if_neg Bool.false_ne_true, List.flatten_cons, List.mem_append,
            ih _ hrest, ← List.mem_append, List.take_append_drop]

theorem contactPages_subset (page fuel : Nat) (ids : List ContactId)
    {c : ContactId} (h : c ∈ (contactPages page fuel ids).flatten) : c ∈ ids := by
  induction fuel generalizing ids with
  | zero => cases h
  | succ fuel ih =>
      unfold contactPages at h
      split at h
      · cases h
      · rw [List.flatten_cons, List.mem_append] at h
        rcases h with h | h
        · exact List.mem_of_mem_take h
        · exact List.mem_of_mem_drop (ih _ h)

/-- Whoever is matched was among the pages. -/
theorem matched_subset {now : Instant} {apply : Bool} {prints : List String}
    (pages : List (List ContactId)) (x : LifecycleDb × ReapplyReport)
    {c : ContactId}
    (h : c ∈ (pages.foldl (reapplyPage env fingerprint now apply prints) x).2.matched) :
    c ∈ x.2.matched ∨ c ∈ pages.flatten := by
  induction pages generalizing x with
  | nil => exact .inl h
  | cons ids pages ih =>
      rw [List.flatten_cons, List.mem_append]
      rcases ih _ h with h | h
      · rcases List.mem_append.mp h with h | h
        · exact .inl h
        · exact .inr (.inl (List.mem_of_mem_filter h))
      · exact .inr (.inr h)

/-- A dry run matches everybody in its pages who has an erased number. -/
theorem mem_matched_dry {now : Instant} {prints : List String}
    (pages : List (List ContactId)) (x : LifecycleDb × ReapplyReport)
    {c : ContactId} (hc : c ∈ x.2.matched ∨ c ∈ pages.flatten)
    (hm : matchesErased env fingerprint x.1 prints c = true) :
    c ∈ (pages.foldl (reapplyPage env fingerprint now false prints) x).2.matched := by
  induction pages generalizing x with
  | nil => exact hc.resolve_right (by simp)
  | cons ids pages ih =>
      have hdb : (reapplyPage env fingerprint now false prints x ids).1 = x.1 :=
        rfl
      refine ih _ ?_ (hdb.symm ▸ hm)
      rw [List.flatten_cons, List.mem_append] at hc
      rcases hc with hc | hc | hc
      · exact .inl (List.mem_append_left _ hc)
      · exact .inl (List.mem_append_right _ (List.mem_filter.mpr ⟨hc, hm⟩))
      · exact .inr hc

theorem mem_unpurged {db : LifecycleDb} {c : ContactId} :
    c ∈ unpurged db ↔ ∃ row, db.Unpurged c row := by
  unfold unpurged LifecycleDb.Unpurged
  rw [Table.mem_sortedKeys, Table.lookup_filter, Option.isSome_iff_exists]
  constructor
  · rintro ⟨row, hrow⟩
    obtain ⟨hrow, hp⟩ := Option.filter_eq_some_iff.mp hrow
    exact ⟨row, hrow, Option.isNone_iff_eq_none.mp hp⟩
  · rintro ⟨row, hrow, hp⟩
    exact ⟨row, Option.filter_eq_some_iff.mpr
      ⟨hrow, Option.isNone_iff_eq_none.mpr hp⟩⟩

/-- A re-application matches un-purged contacts. -/
theorem reapply_matched {db : LifecycleDb} {now : Instant} {apply : Bool}
    {page : Nat} {c : ContactId}
    (h : c ∈ (reapplyErasures env fingerprint db now apply page).2.matched) :
    ∃ row, db.Unpurged c row := by
  unfold reapplyErasures at h
  dsimp only at h
  split at h
  · cases h
  · rcases matched_subset _ _ h with h | h
    · cases h
    · exact mem_unpurged.mp (contactPages_subset _ _ _ h)

/-- A dry run finds every un-purged contact with an erased number. -/
theorem reapply_finds {db : LifecycleDb} (now : Instant) {c : ContactId}
    {row : Contact} (h : db.Unpurged c row)
    (hp : fingerprint (canonicalNumber env row.normalizedPhoneNumber)
      ∈ db.core.erasureLog) :
    c ∈ (reapplyErasures env fingerprint db now false 1000).2.matched := by
  have hprints : fingerprint (canonicalNumber env row.normalizedPhoneNumber)
      ∈ db.core.erasureLog.eraseDups := List.mem_eraseDups.mpr hp
  unfold reapplyErasures
  dsimp only
  rw [if_neg (by
    rw [List.isEmpty_iff]
    exact List.ne_nil_of_mem hprints)]
  refine mem_matched_dry _ _ (.inr ?_) ?_
  · rw [mem_contactPages (by decide) _ _ (Nat.le_refl _)]
    exact mem_unpurged.mpr ⟨row, h⟩
  · unfold matchesErased
    rw [h.1]
    exact List.contains_iff_mem.mpr hprints

/-! ## The result -/

/-- The contact rows and the log after an erasure that covered a number. -/
theorem eraseData_ok {db db' : LifecycleDb} {subject : ErasureSubject}
    {suppress : Bool} {actor : String} {now : Instant} {e164 : String}
    (h : eraseData env fingerprint db subject suppress actor now = .ok db')
    (hn : erasureNumber env db.core subject = .ok (some e164)) :
    erasureHeld db.core e164 = false ∧
    fingerprint e164 ∈ db'.core.erasureLog ∧
    ∀ c row, db'.Unpurged c row ↔
      db.Unpurged c row ∧ row.normalizedPhoneNumber ≠ e164 := by
  unfold eraseData at h
  cases herase : erase env fingerprint db.core subject suppress actor now with
  | error e =>
      rw [herase] at h
      cases h
  | ok core =>
      rw [herase] at h
      rcases erase_rows herase with ⟨hnone, -⟩ | ⟨e, he, hheld, -, -, hlog, hc⟩
      · rw [hnone] at hn
        cases hn
      · rw [he] at hn
        cases hn
        rw [he] at h
        cases h
        have hcontact : ∀ c, core.contact c = (db.core.contact c).map fun r =>
            if r.normalizedPhoneNumber == e164 then scrubContact now c r
            else r := by
          intro c
          unfold Db.contact
          rw [hc]
          exact Table.lookup_mapRows _ _ _
        refine ⟨hheld, ?_, fun c row => ?_⟩
        · show fingerprint e164 ∈ core.erasureLog
          rw [hlog]
          exact List.mem_cons_self
        · show (core.contact c = some row ∧ row.purgedAt = none) ↔ _
          rw [hcontact, Option.map_eq_some_iff]
          constructor
          · rintro ⟨⟨r, hr, rfl⟩, hp⟩
            by_cases hnum : (r.normalizedPhoneNumber == e164) = true
            · rw [if_pos hnum] at hp
              cases hp
            · rw [if_neg hnum] at hp ⊢
              exact ⟨⟨hr, hp⟩, by simpa using hnum⟩
          · rintro ⟨⟨hr, hp⟩, hnum⟩
            refine ⟨⟨row, hr, if_neg (by simpa using hnum)⟩, hp⟩

section Ok

variable {db db' : LifecycleDb} {subject : ErasureSubject} {suppress : Bool}
  {actor : String} {now : Instant} {e164 : String}
  (h : eraseData env fingerprint db subject suppress actor now = .ok db')
  (hn : erasureNumber env db.core subject = .ok (some e164))
include h hn

/-- If nobody who has the number stores another text, nobody is left. -/
theorem erasedFully_of_stored
    (hstored : ∀ c row, db.Unpurged c row →
      fingerprint (canonicalNumber env row.normalizedPhoneNumber)
        = fingerprint e164 → row.normalizedPhoneNumber = e164) :
    ErasedFully env fingerprint subject (some e164) db' := by
  obtain ⟨-, -, hleft⟩ := eraseData_ok h hn
  refine ⟨fun c row hsub hc => ?_, fun e he c row hc hcan => ?_,
    fun e he t apply page c hc row hrow hprint => ?_⟩
  · -- the number was read off the named contact
    obtain ⟨hbefore, hnum⟩ := (hleft c row).mp hc
    subst hsub
    refine hnum (hstored c row hbefore ?_)
    unfold erasureNumber at hn
    dsimp only at hn
    rw [hbefore.1] at hn
    dsimp only at hn
    split at hn
    · cases hn
    · exact congrArg fingerprint (Option.some.inj (Except.ok.inj hn))
  · cases he
    obtain ⟨hbefore, hnum⟩ := (hleft c row).mp hc
    exact hnum (hstored c row hbefore (by rw [hcan]))
  · cases he
    obtain ⟨row', hc'⟩ := reapply_matched hc
    rw [hc'.1] at hrow
    cases hrow
    obtain ⟨hbefore, hnum⟩ := (hleft c _).mp hc'
    exact hnum (hstored c _ hbefore hprint)

/-- Whoever has the number and stores another text is found again. -/
theorem stored_of_erasedFully
    (herased : ErasedFully env fingerprint subject (some e164) db')
    (c : ContactId) (row : Contact) (hc : db.Unpurged c row)
    (hprint : fingerprint (canonicalNumber env row.normalizedPhoneNumber)
      = fingerprint e164) : row.normalizedPhoneNumber = e164 := by
  obtain ⟨-, hlog, hleft⟩ := eraseData_ok h hn
  by_contra hnum
  have hstill := (hleft c row).mpr ⟨hc, hnum⟩
  have hfound := reapply_finds 0 hstill (hprint ▸ hlog)
  exact herased.noneFound e164 rfl 0 false 1000 c hfound row hstill.1 hprint

end Ok

/-- A number that normalized is refused for a hold only. -/
theorem held_of_refused {db : LifecycleDb} {subject : ErasureSubject}
    {suppress : Bool} {actor : String} {now : Instant} {e164 : String}
    {e : AppError}
    (h : eraseData env fingerprint db subject suppress actor now = .error e)
    (hn : erasureNumber env db.core subject = .ok (some e164)) :
    erasureHeld db.core e164 = true := by
  unfold eraseData erase at h
  rw [hn] at h
  dsimp only at h
  by_contra hfree
  rw [Bool.not_eq_true] at hfree
  rw [hfree, if_neg Bool.false_ne_true] at h
  cases h

/-- **Erasure.** It is complete exactly when every un-purged contact of the
person stores the canonical number. -/
theorem erasure_complete_iff (env : Env) (fingerprint : String → String)
    (db : LifecycleDb) (subject : ErasureSubject) (suppress : Bool)
    (actor : String) (now : Instant) :
    EraseMeets env fingerprint db subject suppress actor now
      ↔ Erasable env fingerprint db subject := by
  have hstep : ∀ e, eraseData env fingerprint db subject suppress actor now
      = .error e →
      lifecycleStep env fingerprint db (.erase subject suppress actor now)
        = db := by
    intro e he
    unfold lifecycleStep
    dsimp only
    rw [he]
  unfold EraseMeets Erasable
  cases hn : erasureNumber env db.core subject with
  | error e =>
      have hrefused : eraseData env fingerprint db subject suppress actor now
          = .error e := by
        unfold eraseData erase
        rw [hn]
      rw [hrefused]
      exact iff_of_true (hstep _ hrefused) trivial
  | ok number =>
      cases number with
      | none =>
          have hsame : eraseData env fingerprint db subject suppress actor now
              = .ok db := by
            unfold eraseData erase
            rw [hn]
          rw [hsame]
          constructor
          · exact fun h => (h none rfl).named
          · intro h number hnumber
            cases hnumber
            exact ⟨h, nofun, nofun⟩
      | some e164 =>
          cases hdata : eraseData env fingerprint db subject suppress actor now with
          | error e =>
              exact iff_of_true (hstep _ hdata) (.inl (held_of_refused hdata hn))
          | ok db' =>
              have hheld := (eraseData_ok hdata hn).1
              constructor
              · intro h
                exact .inr (stored_of_erasedFully hdata hn (h _ rfl))
              · intro h number hnumber
                cases hnumber
                refine erasedFully_of_stored hdata hn (h.resolve_left ?_)
                rw [hheld]
                exact Bool.false_ne_true

end Complete

/-! ## A number with spaces -/

/-- The numbers of the plain environment, also when written with spaces. -/
def spacedNumbers : PhoneNumbers :=
  { e164Numbers with
    parse := fun text region =>
      e164Numbers.parse (String.ofList (text.toList.filter (· ≠ ' '))) region }

def spacedEnv : Env := { plainEnv {} with phone := spacedNumbers }

/-- A contact whose number was never normalized. -/
def legacyContact : LifecycleDb where
  core := {
    campaigns := AList.insert 1 {} ∅
    contacts := AList.insert 1
      { campaignId := 1, normalizedPhoneNumber := "+91 98765 43210" } ∅ }

/-- The erasure of this very contact succeeds and leaves it as it was; the
re-application that follows finds it. -/
theorem erasure_misses_legacy_contact :
    ∃ db', eraseData spacedEnv id legacyContact (.contact 1) true "admin" 0
        = .ok db' ∧
      (db'.core.contact 1).map (fun c => (c.normalizedPhoneNumber, c.purgedAt))
        = some ("+91 98765 43210", none) ∧
      (reapplyErasures spacedEnv id db' 0 true 1000).2.matched = [1] := by
  have hok : (eraseData spacedEnv id legacyContact (.contact 1) true "admin"
      0).toOption.any (fun db' => decide (
        (db'.core.contact 1).map (fun c => (c.normalizedPhoneNumber, c.purgedAt))
          = some ("+91 98765 43210", none) ∧
        (reapplyErasures spacedEnv id db' 0 true 1000).2.matched = [1])) = true := by
    decide +kernel
  obtain ⟨db', hdb, hdec⟩ := (Option.any_eq_true _ _).mp hok
  refine ⟨db', ?_, of_decide_eq_true hdec⟩
  cases h : eraseData spacedEnv id legacyContact (.contact 1) true "admin" 0 with
  | error e =>
      rw [h] at hdb
      cases hdb
  | ok d =>
      rw [h] at hdb
      cases hdb
      rfl

end CallingAgent
