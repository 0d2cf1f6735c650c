import CallingAgent.Services.OutboundControl

/-!
# An engaged control is seen

After an engage has returned, every later read of the process reports the
control on, as long as no read stores rows it selected before that. Among
the engages of a control that is off, one reports the transition.
-/

namespace CallingAgent

open Lib

section Visible

variable {ttl : Int} {s s' : ControlProcess}

/-- What is owed is true of the rows, of the rows a read has in hand, and of
the cache as far as it may still answer. -/
structure ControlInv (ttl : Int) (s : ControlProcess) : Prop where
  promised : ∀ key ∈ s.promised, s.rows.engaged key = true
  stands : ∀ {c e}, AList.lookup c s.changes = some e → e.stands = true →
    s.rows.engaged e.key = true
  owed : ∀ {r q}, AList.lookup r s.reads = some q → ∀ key ∈ q.owed,
    s.rows.engaged key = true
  selected : ∀ {r q states}, AList.lookup r s.reads = some q →
    q.phase = .store states → ∀ key ∈ q.owed, states.engaged key = true
  returned : ∀ {r q states}, AList.lookup r s.reads = some q →
    q.phase = .returned states → ∀ key ∈ q.owed, states.engaged key = true
  cached : ∀ {cachedAt states}, s.cache = some (cachedAt, states) →
    ∀ key, s.wouldServe ttl cachedAt key = true → states.engaged key = true

theorem wouldServe_iff {cachedAt : Int} {key : String} :
    s.wouldServe ttl cachedAt key = true ↔
      (key ∈ s.promised ∧ s.clock < cachedAt + ttl) ∨
      ∃ r q, AList.lookup r s.reads = some q ∧ q.phase = .look ∧
        q.useCache = true ∧ cacheAnswers ttl q.now cachedAt = true ∧
        key ∈ q.owed := by
  unfold ControlProcess.wouldServe
  rw [Bool.or_eq_true, Table.any_iff]
  simp only [Bool.and_eq_true, List.contains_iff_mem, decide_eq_true_eq,
    beq_iff_eq, and_assoc]

/-- Where less is owed and the clock has gone on, less would be served. -/
theorem wouldServe_mono {cachedAt : Int} {key : String}
    (h : s'.wouldServe ttl cachedAt key = true) (hclock : s.clock ≤ s'.clock)
    (hpromised : ∀ key ∈ s'.promised, key ∈ s.promised)
    (hreads : ∀ r q, AList.lookup r s'.reads = some q → q.phase = .look →
      ∃ q₀, AList.lookup r s.reads = some q₀ ∧ q₀.phase = .look ∧
        q₀.useCache = q.useCache ∧ q₀.now = q.now ∧
        ∀ key ∈ q.owed, key ∈ q₀.owed) :
    s.wouldServe ttl cachedAt key = true := by
  rw [wouldServe_iff] at h ⊢
  rcases h with ⟨hp, hlt⟩ | ⟨r, q, hq, hlook, huse, hans, howed⟩
  · exact .inl ⟨hpromised key hp, by omega⟩
  · obtain ⟨q₀, hq₀, hlook₀, huse₀, hnow₀, howed₀⟩ := hreads r q hq hlook
    exact .inr ⟨r, q₀, hq₀, hlook₀, huse₀.trans huse, hnow₀ ▸ hans,
      howed₀ key howed⟩

/-- One read moves on, out of the look at the cache; nothing else changes. -/
theorem ControlInv.read (h : ControlInv ttl s) {r : ThreadId}
    {q : ReadCall} (q' : ReadCall) (hq : AList.lookup r s.reads = some q)
    (howed : q'.owed = q.owed) (hlook : q'.phase ≠ .look)
    (hstore : ∀ states, q'.phase = .store states →
      ∀ key ∈ q.owed, states.engaged key = true)
    (hreturned : ∀ states, q'.phase = .returned states →
      ∀ key ∈ q.owed, states.engaged key = true) :
    ControlInv ttl { s with reads := AList.insert r q' s.reads } := by
  have hlookup : ∀ {r' q₁}, AList.lookup r' (AList.insert r q' s.reads)
      = some q₁ → q₁ = q' ∨ AList.lookup r' s.reads = some q₁ := by
    intro r' q₁ hq₁
    rw [Table.lookup_insert'] at hq₁
    split at hq₁
    · exact .inl (Option.some.inj hq₁).symm
    · exact .inr hq₁
  refine ⟨h.promised, h.stands, fun hq₁ => ?_, fun hq₁ hp => ?_,
    fun hq₁ hp => ?_, fun hc key hw => h.cached hc key ?_⟩
  · rcases hlookup hq₁ with rfl | hq₁
    · rw [howed]
      exact h.owed hq
    · exact h.owed hq₁
  · rcases hlookup hq₁ with rfl | hq₁
    · rw [howed]
      exact hstore _ hp
    · exact h.selected hq₁ hp
  · rcases hlookup hq₁ with rfl | hq₁
    · rw [howed]
      exact hreturned _ hp
    · exact h.returned hq₁ hp
  · refine wouldServe_mono hw (Int.le_refl _) (fun _ hk => hk) ?_
    intro r' q₁ hq₁ hl
    rcases hlookup hq₁ with rfl | hq₁
    · exact absurd hl hlook
    · exact ⟨q₁, hq₁, hl, rfl, rfl, fun _ hk => hk⟩

theorem ControlInv.beginRead (h : ControlInv ttl s) (r : ThreadId)
    {q : ReadCall} (hnow : q.now = s.clock) (hlook : q.phase = .look)
    (howed : q.owed = s.promised) :
    ControlInv ttl { s with reads := AList.insert r q s.reads } := by
  have hlookup : ∀ {r' q₁}, AList.lookup r' (AList.insert r q s.reads)
      = some q₁ → q₁ = q ∨ AList.lookup r' s.reads = some q₁ := by
    intro r' q₁ hq₁
    rw [Table.lookup_insert'] at hq₁
    split at hq₁
    · exact .inl (Option.some.inj hq₁).symm
    · exact .inr hq₁
  refine ⟨h.promised, h.stands, fun hq₁ => ?_, fun hq₁ hp => ?_,
    fun hq₁ hp => ?_, fun hc key hw => h.cached hc key ?_⟩
  · rcases hlookup hq₁ with rfl | hq₁
    · rw [howed]
      exact h.promised
    · exact h.owed hq₁
  · rcases hlookup hq₁ with rfl | hq₁
    · rw [hlook] at hp
      cases hp
    · exact h.selected hq₁ hp
  · rcases hlookup hq₁ with rfl | hq₁
    · rw [hlook] at hp
      cases hp
    · exact h.returned hq₁ hp
  · rw [wouldServe_iff] at hw ⊢
    rcases hw with hw | ⟨r', q₁, hq₁, hl, huse, hans, hk⟩
    · exact .inl hw
    · rcases hlookup hq₁ with rfl | hq₁
      · -- a read that starts now is served what is fresh now
        obtain ⟨-, hlt⟩ := Bool.and_eq_true_iff.mp hans
        have hlt := of_decide_eq_true hlt
        exact .inl ⟨howed ▸ hk, by omega⟩
      · exact .inr ⟨r', q₁, hq₁, hl, huse, hans, hk⟩

theorem ControlInv.look (h : ControlInv ttl s) {r : ThreadId} {q : ReadCall}
    (hq : AList.lookup r s.reads = some q) (hp : q.phase = .look) :
    ControlInv ttl { s with
      reads := AList.insert r { q with phase := q.look ttl s.cache } s.reads } := by
  have hlook : q.look ttl s.cache = .select ∨
      ∃ cachedAt states, s.cache = some (cachedAt, states) ∧
        q.useCache = true ∧ cacheAnswers ttl q.now cachedAt = true ∧
        q.look ttl s.cache = .returned states := by
    unfold ReadCall.look
    split
    · rename_i huse
      split
      · rename_i cachedAt states hcache
        split
        · rename_i hans
          exact .inr ⟨cachedAt, states, hcache, (Bool.and_eq_true_iff.mp huse).1,
            hans, rfl⟩
        · exact .inl rfl
      · exact .inl rfl
    · exact .inl rfl
  rcases hlook with hsel | ⟨cachedAt, states, hcache, huse, hans, hret⟩
  · refine h.read _ hq rfl ?_ ?_ ?_
    · rw [hsel]
      exact nofun
    · intro states hs
      rw [hsel] at hs
      cases hs
    · intro states hs
      rw [hsel] at hs
      cases hs
  · refine h.read _ hq rfl ?_ ?_ ?_
    · rw [hret]
      exact nofun
    · intro states' hs
      rw [hret] at hs
      cases hs
    · intro states' hs key hkey
      rw [hret] at hs
      cases hs
      exact h.cached hcache key
        (wouldServe_iff.mpr (.inr ⟨r, q, hq, hp, huse, hans, hkey⟩))

/-- Up-to-date rows may be stored. -/
theorem ControlInv.store (h : ControlInv ttl s) {r : ThreadId} {q : ReadCall}
    {states : ControlTable} (hq : AList.lookup r s.reads = some q)
    (hp : q.phase = .store states)
    (hcond : upToDate ttl s (.store r) = true) :
    ControlInv ttl { s with
      cache := some (q.now, states)
      reads := AList.insert r { q with phase := .returned states } s.reads } := by
  have hstates := h.selected hq hp
  have hread := h.read { q with phase := .returned states } hq rfl nofun nofun
    fun states' hs => by cases hs; exact hstates
  refine ⟨hread.promised, hread.stands, hread.owed, hread.selected,
    hread.returned, fun hc key hw => ?_⟩
  cases hc
  have hw : s.wouldServe ttl q.now key = true := by
    refine wouldServe_mono hw (Int.le_refl _) (fun _ hk => hk) ?_
    intro r' q₁ hq₁ hl
    rw [Table.lookup_insert'] at hq₁
    split at hq₁
    · cases hq₁
      cases hl
    · exact ⟨q₁, hq₁, hl, rfl, rfl, fun _ hk => hk⟩
  have hcond : ((s.promised ++ s.reads.entries.flatMap (·.2.owed)).all
      fun key => states.engaged key || !s.wouldServe ttl q.now key) = true := by
    have hcond := hcond
    simp only [upToDate, hq, hp, Option.all_some] at hcond
    exact hcond
  have hmem : key ∈ s.promised ++ s.reads.entries.flatMap (·.2.owed) := by
    rcases wouldServe_iff.mp hw with ⟨hk, -⟩ | ⟨r', q', hq', -, -, -, hk⟩
    · exact List.mem_append_left _ hk
    · exact List.mem_append_right _ (List.mem_flatMap.mpr
        ⟨⟨r', q'⟩, AList.mem_lookup_iff.mp hq', hk⟩)
  have hkey := List.all_eq_true.mp hcond key hmem
  rw [hw, Bool.not_true, Bool.or_false] at hkey
  exact hkey

theorem ControlInv.engage (h : ControlInv ttl s) (c : ThreadId)
    (key actor : String) (reason category : Option String) (now : Instant)
    (answers : String → List Bool) (changed : Bool) :
    ControlInv ttl { s with
      rows := (engageStatement s.rows key
        (engagedState actor reason category now)).1
      changes := AList.insert c { key, stands := true, changed } s.changes
      answers } := by
  have hmono : ∀ {key'}, s.rows.engaged key' = true →
      (engageStatement s.rows key
        (engagedState actor reason category now)).1.engaged key' = true := by
    intro key' hk
    rw [engaged_engage, hk, Bool.or_true]
  refine ⟨fun k hk => hmono (h.promised k hk), fun hc hs => ?_,
    fun hq k hk => hmono (h.owed hq k hk), h.selected, h.returned, h.cached⟩
  dsimp only at hc ⊢
  rw [Table.lookup_insert'] at hc
  split at hc
  · cases hc
    rw [engaged_engage]
    simp
  · exact hmono (h.stands hc hs)

/-- A release withdraws what was owed of its control, and nothing else. -/
theorem ControlInv.release (h : ControlInv ttl s) (c : ThreadId)
    (key actor : String) (now : Instant) (answers : String → List Bool)
    (changed : Bool) :
    ControlInv ttl { s with
      rows := (releaseStatement s.rows key actor now).1
      reads := s.reads.mapRows fun _ q =>
        { q with owed := q.owed.filter (· ≠ key) }
      changes := AList.insert c { key, stands := false, changed }
        (s.changes.mapRows fun _ e =>
          { e with stands := e.stands && decide (e.key ≠ key) })
      promised := s.promised.filter (· ≠ key)
      answers } := by
  have hkept : ∀ {key'}, key' ≠ key → s.rows.engaged key' = true →
      (releaseStatement s.rows key actor now).1.engaged key' = true := by
    intro key' hne hk
    rw [engaged_release, hk, Bool.and_true]
    simpa using hne
  have hread : ∀ {r q}, AList.lookup r (s.reads.mapRows fun _ q =>
      { q with owed := q.owed.filter (· ≠ key) }) = some q →
      ∃ q₀, AList.lookup r s.reads = some q₀ ∧ q.phase = q₀.phase ∧
        q₀.useCache = q.useCache ∧ q₀.now = q.now ∧
        ∀ k ∈ q.owed, k ∈ q₀.owed ∧ k ≠ key := by
    intro r q hq
    rw [Table.lookup_mapRows] at hq
    obtain ⟨q₀, hq₀, rfl⟩ := Option.map_eq_some_iff.mp hq
    refine ⟨q₀, hq₀, rfl, rfl, rfl, fun k hk => ?_⟩
    obtain ⟨hk, hne⟩ := List.mem_filter.mp hk
    exact ⟨hk, of_decide_eq_true hne⟩
  refine ⟨fun k hk => ?_, fun hc hs => ?_, fun hq k hk => ?_,
    fun hq hp k hk => ?_, fun hq hp k hk => ?_,
    fun hc k hw => h.cached hc k ?_⟩
  · obtain ⟨hk, hne⟩ := List.mem_filter.mp hk
    exact hkept (of_decide_eq_true hne) (h.promised k hk)
  · dsimp only at hc ⊢
    rw [Table.lookup_insert'] at hc
    split at hc
    · cases hc
      cases hs
    · rw [Table.lookup_mapRows] at hc
      obtain ⟨e₀, he₀, rfl⟩ := Option.map_eq_some_iff.mp hc
      obtain ⟨hs, hne⟩ := Bool.and_eq_true_iff.mp hs
      have hon : s.rows.engaged e₀.key = true := h.stands he₀ hs
      exact hkept (of_decide_eq_true hne) hon
  · obtain ⟨q₀, hq₀, -, -, -, howed⟩ := hread hq
    exact hkept (howed k hk).2 (h.owed hq₀ k (howed k hk).1)
  · obtain ⟨q₀, hq₀, hphase, -, -, howed⟩ := hread hq
    exact h.selected hq₀ (hphase.symm.trans hp) k (howed k hk).1
  · obtain ⟨q₀, hq₀, hphase, -, -, howed⟩ := hread hq
    exact h.returned hq₀ (hphase.symm.trans hp) k (howed k hk).1
  · refine wouldServe_mono hw (Int.le_refl _) (fun k hk => ?_) ?_
    · exact (List.mem_filter.mp hk).1
    · intro r q hq hl
      obtain ⟨q₀, hq₀, hphase, huse, hnow, howed⟩ := hread hq
      exact ⟨q₀, hq₀, hphase.symm.trans hl, huse, hnow,
        fun k hk => (howed k hk).1⟩

theorem ControlInv.finish (h : ControlInv ttl s) {c : ThreadId}
    {e : ChangeCall} (he : AList.lookup c s.changes = some e) :
    ControlInv ttl { s with
      cache := none
      changes := AList.insert c { e with returned := true } s.changes
      promised := if e.stands then e.key :: s.promised else s.promised } := by
  refine ⟨fun key hkey => ?_, fun hc hs => ?_, h.owed, h.selected, h.returned,
    nofun⟩
  · dsimp only at hkey
    split at hkey
    · rename_i hs
      rcases List.mem_cons.mp hkey with rfl | hkey
      · exact h.stands he hs
      · exact h.promised key hkey
    · exact h.promised key hkey
  · dsimp only at hc
    rw [Table.lookup_insert'] at hc
    split at hc
    · cases hc
      have hon : s.rows.engaged e.key = true := h.stands he hs
      exact hon
    · exact h.stands hc hs

theorem controlStep_inv {act : ControlAct} (h : ControlInv ttl s)
    (hcond : upToDate ttl s act = true)
    (hs : controlStep ttl s act = some s') : ControlInv ttl s' := by
  cases act with
  | tick d =>
      cases hs
      refine ⟨h.promised, h.stands, h.owed, h.selected, h.returned,
        fun hc key hw => h.cached hc key ?_⟩
      refine wouldServe_mono hw ?_ (fun _ hk => hk) ?_
      · exact Int.le_add_of_nonneg_right (Int.natCast_nonneg d)
      · exact fun r q hq hl => ⟨q, hq, hl, rfl, rfl, fun _ hk => hk⟩
  | beginRead r useCache =>
      obtain ⟨-, hs⟩ := Option.ite_none_right_eq_some.mp hs
      cases hs
      exact h.beginRead r rfl rfl rfl
  | look r =>
      obtain ⟨q, hq, hs⟩ := Option.bind_eq_some_iff.mp hs
      obtain ⟨hp, hs⟩ := Option.ite_none_right_eq_some.mp hs
      cases hs
      exact h.look hq hp
  | select r fails =>
      obtain ⟨q, hq, hs⟩ := Option.bind_eq_some_iff.mp hs
      obtain ⟨hp, hs⟩ := Option.ite_none_right_eq_some.mp hs
      cases hs
      cases fails with
      | true => exact h.read _ hq rfl nofun nofun nofun
      | false =>
          refine h.read _ hq rfl nofun (fun states hst => ?_) nofun
          cases hst
          exact h.owed hq
  | store r =>
      obtain ⟨q, hq, hs⟩ := Option.bind_eq_some_iff.mp hs
      split at hs
      · rename_i states hp
        cases hs
        exact h.store hq hp hcond
      · cases hs
  | engage c key actor reason category now =>
      obtain ⟨-, hs⟩ := Option.ite_none_right_eq_some.mp hs
      cases hs
      exact h.engage ..
  | release c key actor now =>
      obtain ⟨-, hs⟩ := Option.ite_none_right_eq_some.mp hs
      cases hs
      exact h.release ..
  | finish c =>
      obtain ⟨e, he, hs⟩ := Option.bind_eq_some_iff.mp hs
      split at hs
      · cases hs
      · cases hs
        exact h.finish he

theorem controlInv_start (rows : ControlTable) :
    ControlInv ttl (.start rows) :=
  ⟨nofun, nofun, nofun, nofun, nofun, nofun⟩

/-! ## Transitions -/

/-- A control is on exactly if it was engaged since it was off last, and one
of these engages turned it on. -/
def OneTransition (s : ControlProcess) : Prop :=
  ∀ key, (s.answers key).count true = (if s.rows.engaged key then 1 else 0) ∧
    (s.rows.engaged key = false ↔ s.answers key = [])

theorem OneTransition.engage (h : OneTransition s) (key actor : String)
    (reason category : Option String) (now : Instant)
    (changes : Table ThreadId ChangeCall) :
    OneTransition { s with
      rows := (engageStatement s.rows key
        (engagedState actor reason category now)).1
      changes
      answers := Function.update s.answers key
        ((engageStatement s.rows key
          (engagedState actor reason category now)).2 :: s.answers key) } := by
  intro key'
  obtain ⟨hcount, hoff⟩ := h key'
  dsimp only
  rw [engaged_engage, engage_changed]
  by_cases hk : key' = key
  · subst hk
    rw [Function.update_self, List.count_cons, hcount]
    cases s.rows.engaged key' <;> simp
  · simpa [hk] using ⟨hcount, hoff⟩

theorem OneTransition.release (h : OneTransition s) (key actor : String)
    (now : Instant) (reads : Table ThreadId ReadCall)
    (changes : Table ThreadId ChangeCall) (promised : List String) :
    OneTransition { s with
      rows := (releaseStatement s.rows key actor now).1
      reads, changes, promised
      answers := Function.update s.answers key [] } := by
  intro key'
  obtain ⟨hcount, hoff⟩ := h key'
  dsimp only
  rw [engaged_release]
  by_cases hk : key' = key
  · simp [hk]
  · simpa [hk] using ⟨hcount, hoff⟩

theorem controlStep_oneTransition {act : ControlAct} (h : OneTransition s)
    (hs : controlStep ttl s act = some s') : OneTransition s' := by
  cases act with
  | tick d =>
      cases hs
      exact h
  | beginRead r useCache =>
      obtain ⟨-, hs⟩ := Option.ite_none_right_eq_some.mp hs
      cases hs
      exact h
  | look r =>
      obtain ⟨q, -, hs⟩ := Option.bind_eq_some_iff.mp hs
      obtain ⟨-, hs⟩ := Option.ite_none_right_eq_some.mp hs
      cases hs
      exact h
  | select r fails =>
      obtain ⟨q, -, hs⟩ := Option.bind_eq_some_iff.mp hs
      obtain ⟨-, hs⟩ := Option.ite_none_right_eq_some.mp hs
      cases hs
      exact h
  | store r =>
      obtain ⟨q, -, hs⟩ := Option.bind_eq_some_iff.mp hs
      split at hs
      · cases hs
        exact h
      · cases hs
  | engage c key actor reason category now =>
      obtain ⟨-, hs⟩ := Option.ite_none_right_eq_some.mp hs
      cases hs
      exact h.engage key actor reason category now _
  | release c key actor now =>
      obtain ⟨-, hs⟩ := Option.ite_none_right_eq_some.mp hs
      cases hs
      exact h.release key actor now _ _ _
  | finish c =>
      obtain ⟨e, -, hs⟩ := Option.bind_eq_some_iff.mp hs
      split at hs
      · cases hs
      · cases hs
        exact h

theorem oneTransition_start (rows : ControlTable) :
    OneTransition (.start rows) := by
  intro key
  unfold ControlProcess.start
  cases h : rows.engaged key <;> simp [h]

/-! ## Runs -/

/-- **An engaged control is seen** by every read that starts after its
engage has returned, as long as only up-to-date rows are stored; and of the
engages that found a control off, or on by one of them, exactly one reports
that it turned it on. -/
theorem engaged_control_is_seen (ttl : Int) (rows : ControlTable)
    (s : ControlProcess)
    (h : Run (controlStep ttl) (fun s a => upToDate ttl s a = true)
      (.start rows) s) :
    (∀ r q states, AList.lookup r s.reads = some q →
      q.phase = .returned states → ∀ key ∈ q.owed,
      states.engaged key = true) ∧
    ∀ key, (s.answers key).count true
      = if s.answers key = [] then 0 else 1 := by
  have hinv := h.inv (fun _ _ _ hi hc hs => controlStep_inv hi hc hs)
    (controlInv_start rows)
  have hone := h.inv (fun _ _ _ ho _ hs => controlStep_oneTransition ho hs)
    (oneTransition_start rows)
  refine ⟨fun r q states hq hp => hinv.returned hq hp, fun key => ?_⟩
  obtain ⟨hcount, hoff⟩ := hone key
  rw [hcount]
  by_cases hnil : s.answers key = []
  · rw [if_pos hnil, hoff.mpr hnil]
    rfl
  · have hon : s.rows.engaged key = true := by
      cases hon : s.rows.engaged key with
      | true => rfl
      | false => exact absurd (hoff.mp hon) hnil
    rw [if_neg hnil, hon]
    rfl

/-- The gate of the kill switch blocks on a read that shows it on. -/
theorem killSwitchGate_of_engaged {env : Settings} {g : GateReads}
    {states : ControlTable} (hread : g.killSwitch = .value states.controls)
    (hon : states.engaged killSwitchKey = true) :
    killSwitchGate env g = .blocked .killSwitchEnabled := by
  unfold killSwitchGate
  rw [hread]
  simp [ControlTable.controls, hon]

end Visible

/-! ## A read in flight -/

/-- A read selects the rows, the kill switch is engaged and its engage
returns; the read stores what it selected before (`stale`) or after. -/
def engageDuringRead (stale : Bool) : List ControlAct :=
  let engage : List ControlAct :=
    [.engage 1 killSwitchKey "ops" (some "stop") none 5, .finish 1]
  ([.beginRead 1 true, .look 1] : List ControlAct) ++
    (if stale then ([.select 1 false] : List ControlAct) ++ engage
      else engage ++ ([.select 1 false] : List ControlAct)) ++
    ([.store 1, .tick 1, .beginRead 2 true, .look 2] : List ControlAct)

theorem engaged_control_is_seen_during_read :
    ∃ s q, runActs (controlStep 2) (.start ∅) (engageDuringRead false) = some s ∧
      AList.lookup 2 s.reads = some q ∧ q.owed = [killSwitchKey] ∧
      ∃ states, q.phase = .returned states ∧
        states.engaged killSwitchKey = true := by
  have hrun : holdsAlong (controlStep 2) (upToDate 2) (.start ∅)
      (engageDuringRead false) = true := by decide +kernel
  obtain ⟨s, hs, hrun⟩ := Run.of_holdsAlong _ _ _ _ hrun
  have hany : (runActs (controlStep 2) (.start ∅) (engageDuringRead false)).any
      (fun s => (AList.lookup 2 s.reads).any fun q =>
        decide (q.owed = [killSwitchKey]) &&
          match q.phase with
          | .returned _ => true
          | _ => false) = true := by decide +kernel
  rw [hs, Option.any_some] at hany
  obtain ⟨q, hq, hany⟩ := (Option.any_eq_true _ _).mp hany
  obtain ⟨howed, hphase⟩ := Bool.and_eq_true_iff.mp hany
  have howed := of_decide_eq_true howed
  split at hphase
  · rename_i states hp
    obtain ⟨hseen, -⟩ := engaged_control_is_seen 2 ∅ s hrun
    refine ⟨s, q, hs, hq, howed, states, hp, hseen 2 q states hq hp _ ?_⟩
    rw [howed]
    exact List.mem_cons_self ..
  · cases hphase

/-- A read that had selected the rows before puts them into the cache after
the engage has returned, and the next read is told that the switch is off. -/
theorem stale_store_hides_engaged_switch :
    ¬ ∀ s, Run (controlStep 2) (fun _ _ => True) (.start ∅) s →
      ∀ r q states, AList.lookup r s.reads = some q →
        q.phase = .returned states → ∀ key ∈ q.owed,
        states.engaged key = true := by
  intro hclaim
  have hany : (runActs (controlStep 2) (.start ∅) (engageDuringRead true)).any
      (fun s => (AList.lookup 2 s.reads).any fun q =>
        decide (q.owed = [killSwitchKey]) &&
          match q.phase with
          | .returned states => !states.engaged killSwitchKey
          | _ => false) = true := by decide +kernel
  obtain ⟨s, hs, hany⟩ := (Option.any_eq_true _ _).mp hany
  obtain ⟨q, hq, hany⟩ := (Option.any_eq_true _ _).mp hany
  obtain ⟨howed, hphase⟩ := Bool.and_eq_true_iff.mp hany
  have howed := of_decide_eq_true howed
  split at hphase
  · rename_i states hp
    have hseen := hclaim s (Run.of_runActs hs) 2 q states hq hp killSwitchKey
      (by rw [howed]; exact List.mem_cons_self ..)
    rw [hseen] at hphase
    cases hphase
  · cases hphase

end CallingAgent
