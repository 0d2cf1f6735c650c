import CallingAgent.Lib.Renumber

/-!
# Renumbering, batch after batch

The walk reads every row once, as it was before the pass: what has moved is
behind the cursor. So a pass ends, breaks no constraint, and moves the rows
that the plan moves.
-/

namespace CallingAgent.Lib.Renumbering

section

variable {ι ρ κ ν : Type} [LinearOrder ι] {R : Renumbering ι ρ κ ν}
  {apply : Bool} {limit b : Nat} {rows done todo page : List (ι × ρ)}
  {moved moved' : List (ι × κ)} {t : Tally ν} {h i : ι} {r : ρ} {k : κ}

omit [LinearOrder ι] in
theorem mem_examine : (i, k) ∈ (R.examine page t).2 ↔
    ∃ r, (i, r) ∈ page ∧ R.verdict i r = .wanted k := by
  induction page generalizing t with
  | nil => simp [examine]
  | cons row page ih =>
      obtain ⟨j, r⟩ := row
      rw [examine]
      cases hv : R.verdict j r with
      | wanted l =>
          simp only [List.mem_cons, Prod.mk.injEq, ih]
          constructor
          · rintro (⟨rfl, rfl⟩ | ⟨r', hr', hv'⟩)
            · exact ⟨r, .inl ⟨rfl, rfl⟩, hv⟩
            · exact ⟨r', .inr hr', hv'⟩
          · rintro ⟨r', ⟨rfl, rfl⟩ | hr', hv'⟩
            · rw [hv] at hv'
              exact .inl ⟨rfl, (Verdict.wanted.inj hv').symm⟩
            · exact .inr ⟨r', hr', hv'⟩
      | _ =>
          simp only [ih, List.mem_cons, Prod.mk.injEq]
          refine ⟨fun ⟨r', hr', hv'⟩ => ⟨r', .inr hr', hv'⟩, ?_⟩
          rintro ⟨r', ⟨rfl, rfl⟩ | hr', hv'⟩
          · rw [hv] at hv'
            cases hv'
          · exact ⟨r', hr', hv'⟩

omit [LinearOrder ι] in
theorem examine_sublist :
    ((R.examine page t).2.map (·.1)).Sublist (page.map (·.1)) := by
  induction page generalizing t with
  | nil => exact List.Sublist.slnil
  | cons row page ih =>
      obtain ⟨j, r⟩ := row
      rw [examine]
      cases R.verdict j r with
      | wanted l => exact ih.cons_cons j
      | _ => exact ih.cons j

omit [LinearOrder ι] in
theorem examine_changed : (R.examine page t).1.changed = t.changed := by
  induction page generalizing t with
  | nil => rfl
  | cons row page ih =>
      obtain ⟨j, r⟩ := row
      rw [examine]
      cases R.verdict j r with
      | wanted l => exact ih
      | unchanged => exact ih
      | _ => exact ih.trans (Tally.note_changed ..)

/-- The rows after the last of `done` are the ones still to be read, as they
were. -/
theorem nextPage_current (hk : R.Keyed rows) (hrows : rows = done ++ todo)
    (hids : ∀ m ∈ moved, m.1 ∈ done.map (·.1)) (hm : Moved R rows moved) :
    nextPage limit (done.getLast?.map (·.1)) (R.current apply rows moved)
      = todo.take limit := by
  have hsorted := hk.sorted
  rw [hrows, List.pairwise_append] at hsorted
  obtain ⟨hdone, -, hacross⟩ := hsorted
  have hpast : ∀ row ∈ todo, (done.getLast?.map (·.1)).all (· < row.1) = true := by
    intro row hrow
    cases hl : done.getLast? with
    | none => rfl
    | some last =>
        exact decide_eq_true (hacross last (List.mem_of_getLast? hl) row hrow)
  have hbehind : ∀ row ∈ done,
      (done.getLast?.map (·.1)).all (· < row.1) = false := by
    intro row hrow
    have hne := List.ne_nil_of_mem hrow
    rw [List.getLast?_eq_some_getLast hne]
    refine decide_eq_false fun hlt => ?_
    rw [← List.dropLast_append_getLast hne] at hrow hdone
    rcases List.mem_append.mp hrow with hin | hin
    · exact lt_asymm hlt ((List.pairwise_append.mp hdone).2.2 row hin _
        (List.mem_singleton_self _))
    · rw [List.mem_singleton.mp hin] at hlt
      exact lt_irrefl _ hlt
  -- whatever has moved is behind the cursor
  have hfilter : ∀ g : ι × ρ → ι × ρ, (∀ row, (g row).1 = row.1) →
      (∀ row ∈ todo, g row = row) →
      (rows.map g).filter (fun row => (done.getLast?.map (·.1)).all (· < row.1))
        = todo := by
    intro g hg hfix
    rw [hrows, List.map_append, List.filter_append, List.filter_eq_nil_iff.mpr,
      List.nil_append, List.map_congr_left hfix, List.map_id', List.filter_eq_self]
    · exact hpast
    · intro row hrow
      obtain ⟨row, hin, rfl⟩ := List.mem_map.mp hrow
      rw [hg, hbehind row hin]
      exact Bool.false_ne_true
  rw [nextPage, current]
  cases apply with
  | false =>
      have heq := hfilter id (fun _ => rfl) (fun _ _ => rfl)
      rw [List.map_id] at heq
      rw [if_neg Bool.false_ne_true, heq]
  | true =>
      rw [if_pos rfl, moveRows, hfilter]
      · intro row
        cases moved.lookup row.1 <;> rfl
      · intro row hrow
        have hstay : moved.lookup row.1 = none := by
          rw [hm.lookup_eq_none]
          intro k hin
          obtain ⟨row', hin', heq⟩ := List.mem_map.mp (hids _ hin)
          exact (hacross row' hin' row hrow).ne heq
        rw [hstay]

/-! ## Batch numbers -/

theorem Keyed.countP_lt (hk : R.Keyed rows)
    (hrows : rows = done ++ (i, r) :: todo) :
    (rows.countP fun row => row.1 < i) = done.length := by
  have hsorted := hk.sorted
  rw [hrows, List.pairwise_append, List.pairwise_cons] at hsorted
  obtain ⟨-, ⟨hlater, -⟩, hacross⟩ := hsorted
  rw [hrows, List.countP_append, List.countP_eq_length.mpr, List.countP_eq_zero.mpr]
  · rfl
  · intro row hrow hlt
    rcases List.mem_cons.mp hrow with rfl | hin
    · exact lt_irrefl _ (of_decide_eq_true hlt)
    · exact lt_asymm (of_decide_eq_true hlt) (hlater row hin)
  · exact fun row hrow =>
      decide_eq_true (hacross row hrow _ List.mem_cons_self)

/-- A later row is in no earlier batch. -/
theorem batchOf_mono (hle : h ≤ i) :
    batchOf rows limit h ≤ batchOf rows limit i := by
  refine Nat.div_le_div_right (List.countP_mono_left fun row _ hlt => ?_)
  exact decide_eq_true ((of_decide_eq_true hlt).trans_le hle)

theorem EarlierBatch.lt (he : EarlierBatch rows apply limit h i) : h < i :=
  not_le.mp fun hle => Nat.not_lt.mpr (batchOf_mono hle) he.2

/-- The first batches are full. -/
theorem Keyed.batchOf_done (hk : R.Keyed rows) (hlimit : 0 < limit)
    (hrows : rows = done ++ todo) (hfull : done.length = limit * b)
    (hmem : h ∈ done.map (·.1)) : batchOf rows limit h < b := by
  obtain ⟨⟨h, r⟩, hin, rfl⟩ := List.mem_map.mp hmem
  obtain ⟨before, after, rfl⟩ := List.append_of_mem hin
  have hsplit : rows = before ++ (h, r) :: (after ++ todo) := by
    rw [hrows]
    simp
  rw [batchOf, hk.countP_lt hsplit]
  rw [Nat.div_lt_iff_lt_mul hlimit, Nat.mul_comm, ← hfull]
  simp

theorem Keyed.batchOf_page (hk : R.Keyed rows) (hlimit : 0 < limit)
    (hrows : rows = done ++ todo) (hfull : done.length = limit * b)
    (hmem : i ∈ (todo.take limit).map (·.1)) : batchOf rows limit i = b := by
  obtain ⟨⟨i, r⟩, hin, rfl⟩ := List.mem_map.mp hmem
  obtain ⟨before, after, hsplit⟩ := List.append_of_mem hin
  have hlen : before.length < limit := by
    have h := congrArg List.length hsplit
    rw [List.length_take, List.length_append, List.length_cons] at h
    omega
  have hrows' : rows = (done ++ before) ++ (i, r) :: (after ++ todo.drop limit) := by
    rw [hrows, List.append_assoc, ← List.cons_append, ← List.append_assoc before,
      ← hsplit, List.take_append_drop]
  rw [batchOf, hk.countP_lt hrows', List.length_append, hfull, Nat.add_comm,
    Nat.add_mul_div_left _ _ hlimit, Nat.div_eq_of_lt hlen, Nat.zero_add]

theorem Keyed.batchOf_todo (hk : R.Keyed rows) (hlimit : 0 < limit)
    (hrows : rows = done ++ todo) (hfull : done.length = limit * b)
    (hmem : h ∈ todo.map (·.1)) : b ≤ batchOf rows limit h := by
  obtain ⟨⟨h, r⟩, hin, rfl⟩ := List.mem_map.mp hmem
  obtain ⟨before, after, rfl⟩ := List.append_of_mem hin
  have hsplit : rows = (done ++ before) ++ (h, r) :: after := by
    rw [hrows]
    simp
  rw [batchOf, hk.countP_lt hsplit, Nat.le_div_iff_mul_le hlimit,
    List.length_append, hfull, Nat.mul_comm]
  exact Nat.le_add_right _ _

/-! ## Plans, as far as the walk has come -/

/-- What the plan says of a row, given who has moved. -/
def Takes (R : Renumbering ι ρ κ ν) (rows : List (ι × ρ)) (apply : Bool)
    (limit : Nat) (moved : List (ι × κ)) (i : ι) (k : κ) : Prop :=
  R.Wants rows i k ∧ (∀ j, j < i → (j, k) ∉ moved) ∧
    ∀ h, R.Holds rows h k →
      EarlierBatch rows apply limit h i ∧ ∃ k', (h, k') ∈ moved

/-- Only earlier rows matter. -/
theorem takes_congr
    (hsame : ∀ j l, j < i → ((j, l) ∈ moved ↔ (j, l) ∈ moved')) :
    R.Takes rows apply limit moved i k ↔ R.Takes rows apply limit moved' i k := by
  refine and_congr_right fun _ => and_congr ?_ ?_
  · exact forall_congr' fun j => forall_congr' fun hj => not_congr (hsame j k hj)
  · refine forall_congr' fun h => forall_congr' fun _ => ?_
    refine and_congr_right fun he => exists_congr fun k' => ?_
    exact hsame h k' he.lt

end

section

variable {ι ρ κ ν : Type} [LinearOrder ι] [DecidableEq κ]
  {R : Renumbering ι ρ κ ν} {apply : Bool} {limit b fuel : Nat}
  {rows done todo : List (ι × ρ)} {s s' : Pass ι ρ κ ν} {i : ι} {k : κ}

/-- Between two batches: the rows of `done` are decided as planned. -/
structure Walked (R : Renumbering ι ρ κ ν) (apply : Bool) (limit : Nat)
    (rows done : List (ι × ρ)) (s : Pass ι ρ κ ν) : Prop where
  going : Going R apply rows s
  planned : ∀ {i k}, (i, k) ∈ s.moved ↔
    i ∈ done.map (·.1) ∧ R.Takes rows apply limit s.moved i k

omit [DecidableEq κ] in
theorem Walked.start : Walked R apply limit rows [] ⟨rows, [], {}⟩ where
  going := ⟨by cases apply <;> simp [current, moveRows], Moved.nil,
    fun h => (by cases h), rfl⟩
  planned := by simp

/-- **A batch decides its rows as planned.** -/
theorem Walked.batch (hs : Walked R apply limit rows done s) (hk : R.Keyed rows)
    (hlimit : 0 < limit) (hrows : rows = done ++ todo)
    (hfull : done.length = limit * b) :
    ∃ s', R.batch apply (todo.take limit) s = .ok s' ∧
      Walked R apply limit rows (done ++ todo.take limit) s' ∧
      ∀ m ∈ s.moved, m ∈ s'.moved := by
  have hsorted := hk.sorted
  rw [hrows, List.pairwise_append] at hsorted
  have hids : ∀ m ∈ s.moved, m.1 ∈ done.map (·.1) :=
    fun m hm => (hs.planned.mp hm).1
  have hpage : ∀ row ∈ todo.take limit, row ∈ todo := fun row => List.mem_of_mem_take
  have hbefore : ∀ {h}, h ∈ done.map (·.1) → ∀ {j},
      j ∈ (todo.take limit).map (·.1) → h < j := by
    intro h hh j hj
    obtain ⟨a, ha, rfl⟩ := List.mem_map.mp hh
    obtain ⟨c, hc, rfl⟩ := List.mem_map.mp hj
    exact hsorted.2.2 a ha c (hpage c hc)
  set examined := R.examine (todo.take limit) s.tally with hexamined
  have hwanted : ∀ {j l}, (j, l) ∈ examined.2 → j ∈ (todo.take limit).map (·.1) ∧
      R.Wants rows j l := by
    intro j l hin
    obtain ⟨r, hr, hv⟩ := mem_examine.mp hin
    refine ⟨List.mem_map.mpr ⟨_, hr, rfl⟩, r, ?_, hv⟩
    rw [hrows]
    exact List.mem_append_right _ (hpage _ hr)
  have hgoing : Going R apply rows { s with tally := examined.1 } :=
    ⟨hs.going.rows_eq, hs.going.moved, hs.going.vacated,
      examine_changed.trans hs.going.changed⟩
  have hrise : examined.2.Pairwise fun a c => a.1 < c.1 := by
    refine List.pairwise_map.mp (List.Pairwise.sublist examine_sublist ?_)
    exact List.pairwise_map.mpr
      (hsorted.2.1.sublist (List.take_sublist limit todo))
  obtain ⟨s', hsettle, hs', hsettled⟩ := hgoing.settle hk hs.going.moved
    (fun m hm => hm) hrise (fun hin => (hwanted hin).2)
    fun m hm w hw => hbefore (hids m hm) (hwanted hw).1
  refine ⟨s', ?_, ⟨hs', ?_⟩, hsettled.keeps⟩
  · rw [← hs.going.rows_eq] at hsettle
    exact hsettle
  · intro i k
    rw [List.map_append, List.mem_append]
    -- new entries are on the page
    have hnew : ∀ {j l}, (j, l) ∈ s'.moved → (j, l) ∈ s.moved ∨
        j ∈ (todo.take limit).map (·.1) :=
      fun hin => (hsettled.adds _ hin).imp_right fun hw => (hwanted hw).1
    have hsame : i ∈ done.map (·.1) → ∀ j l, j ≤ i →
        ((j, l) ∈ s.moved ↔ (j, l) ∈ s'.moved) := by
      intro hi j l hj
      refine ⟨hsettled.keeps _, fun hin => (hnew hin).resolve_right fun hp => ?_⟩
      exact absurd (hbefore hi hp) (not_lt_of_ge hj)
    by_cases hi : i ∈ done.map (·.1)
    · rw [← hsame hi i k le_rfl, hs.planned,
        takes_congr fun j l hj => hsame hi j l hj.le]
      simp [hi]
    · have hold : (i, k) ∉ s.moved := fun hin => hi (hids _ hin)
      by_cases hp : i ∈ (todo.take limit).map (·.1)
      · rw [or_iff_right hi, and_iff_right hp]
        have hgone : ∀ h, (apply = true ∧ ∃ k', (h, k') ∈ s.moved) ↔
            EarlierBatch rows apply limit h i ∧ ∃ k', (h, k') ∈ s'.moved := by
          intro h
          rw [EarlierBatch, hk.batchOf_page hlimit hrows hfull hp]
          constructor
          · rintro ⟨ha, k', hin⟩
            exact ⟨⟨ha, hk.batchOf_done hlimit hrows hfull (hids _ hin)⟩, k',
              hsettled.keeps _ hin⟩
          · rintro ⟨⟨ha, hlt⟩, k', hin⟩
            refine ⟨ha, k', (hnew hin).resolve_right fun hpage' => ?_⟩
            obtain ⟨row, hrow, heq⟩ := List.mem_map.mp hpage'
            exact absurd (hk.batchOf_todo hlimit hrows hfull
              (List.mem_map.mpr ⟨row, hpage row hrow, heq⟩)) (Nat.not_le.mpr hlt)
        constructor
        · intro hin
          have hw := (hsettled.adds _ hin).resolve_left hold
          obtain ⟨hfirst, hholders⟩ := (hsettled.decides hw).mp hin
          exact ⟨(hwanted hw).2, hfirst, fun h hh => (hgone h).mp (hholders h hh)⟩
        · rintro ⟨hw, hfirst, hholders⟩
          obtain ⟨r, hr, hv⟩ := hw
          obtain ⟨⟨j, r'⟩, hr', hji : j = i⟩ := List.mem_map.mp hp
          rw [hji] at hr'
          have hin : (i, k) ∈ examined.2 := by
            refine mem_examine.mpr ⟨r', hr', ?_⟩
            have hr'' : (i, r') ∈ rows := by
              rw [hrows]
              exact List.mem_append_right _ (hpage _ hr')
            rw [hk.row_unique hr'' hr]
            exact hv
          exact (hsettled.decides hin).mpr
            ⟨hfirst, fun h hh => (hgone h).mpr (hholders h hh)⟩
      · refine iff_of_false (fun hin => ?_) fun h => h.1.elim hi hp
        exact (hnew hin).elim hold hp

omit [DecidableEq κ] in
/-- The page that is read next. -/
theorem Walked.page (hs : Walked R apply limit rows done s) (hk : R.Keyed rows)
    (hrows : rows = done ++ todo) :
    nextPage limit (done.getLast?.map (·.1)) s.rows = todo.take limit := by
  rw [hs.going.rows_eq]
  exact nextPage_current hk hrows (fun m hm => (hs.planned.mp hm).1)
    hs.going.moved

/-- Rows that are left fill a page: its last row is the next cursor, less is
left, and if something is left the page was full. -/
theorem exists_page {α : Type} {done todo : List α} (hlimit : 0 < limit)
    (hnil : todo ≠ []) (hb : done.length = limit * b) :
    ∃ hne : todo.take limit ≠ [],
      (done ++ todo.take limit).getLast?
        = some ((todo.take limit).getLast hne) ∧
      (todo.drop limit).length < todo.length ∧
      (todo.drop limit ≠ [] →
        ∃ b', (done ++ todo.take limit).length = limit * b') := by
  have hne : todo.take limit ≠ [] := by
    rw [ne_eq, List.take_eq_nil_iff]
    exact fun h => h.elim hlimit.ne' hnil
  have hlen : 0 < todo.length := List.length_pos_of_ne_nil hnil
  refine ⟨hne, ?_, by rw [List.length_drop]; omega, fun hrest => ⟨b + 1, ?_⟩⟩
  · rw [List.getLast?_append, List.getLast?_eq_some_getLast hne]
    rfl
  · have hlt : limit < todo.length := by
      by_contra hle
      exact hrest (List.drop_eq_nil_of_le (Nat.not_lt.mp hle))
    rw [List.length_append, List.length_take, hb, Nat.mul_succ,
      Nat.min_eq_left hlt.le]

/-- **The walk decides every row as planned**, whatever it writes. -/
theorem Walked.walk (hs : Walked R apply limit rows done s) (hk : R.Keyed rows)
    (hlimit : 0 < limit) (hrows : rows = done ++ todo)
    (hfull : todo ≠ [] → ∃ b, done.length = limit * b)
    (hfuel : todo.length < fuel) :
    ∃ s', R.walk apply limit fuel (done.getLast?.map (·.1)) s = .ok s' ∧
      Walked R apply limit rows rows s' ∧ ∀ m ∈ s.moved, m ∈ s'.moved := by
  induction fuel generalizing done todo s with
  | zero => exact absurd hfuel (Nat.not_lt_zero _)
  | succ fuel ih =>
      rw [Renumbering.walk, hs.page hk hrows]
      by_cases hnil : todo = []
      · subst hnil
        rw [List.append_nil] at hrows
        subst hrows
        exact ⟨s, by rw [List.take_nil]; rfl, hs, fun m hm => hm⟩
      · obtain ⟨b, hb⟩ := hfull hnil
        obtain ⟨hne, hlast, hless, hfull₁⟩ := exists_page hlimit hnil hb
        obtain ⟨s₁, hbatch, hs₁, hkeep⟩ := hs.batch hk hlimit hrows hb
        have hrows₁ : rows = (done ++ todo.take limit) ++ todo.drop limit := by
          rw [List.append_assoc, List.take_append_drop, hrows]
        obtain ⟨s', hwalk, hs', hkeep'⟩ := ih hs₁ hrows₁ hfull₁
          (Nat.lt_of_lt_of_le hless (Nat.le_of_lt_succ hfuel))
        refine ⟨s', ?_, hs', fun m hm => hkeep' m (hkeep m hm)⟩
        rw [List.getLast?_eq_some_getLast hne]
        rw [hlast] at hwalk
        simp only [hbatch]
        exact hwalk

/-- **A pass ends without breaking the constraint, and the rows it moved are
a plan.** -/
theorem pass_ok (hk : R.Keyed rows) (hlimit : 0 < limit) (apply : Bool) :
    ∃ s, R.pass apply limit rows = .ok s ∧ Going R apply rows s ∧
      R.IsPlan rows (EarlierBatch rows apply limit) fun i k => (i, k) ∈ s.moved := by
  have hstart : Walked R apply limit rows [] ⟨rows, [], {}⟩ := Walked.start
  obtain ⟨s, hpass, hs, -⟩ := hstart.walk hk hlimit (List.nil_append rows).symm
    (fun _ => ⟨0, rfl⟩) (Nat.lt_succ_self _)
  refine ⟨s, hpass, hs.going, fun i k => ?_⟩
  refine hs.planned.trans (and_iff_right_of_imp fun htakes => ?_)
  obtain ⟨r, hr, -⟩ := htakes.1
  exact List.mem_map.mpr ⟨_, hr, rfl⟩

end

end CallingAgent.Lib.Renumbering
