import CallingAgent.Lib.RenumberWalk
import Mathlib.Data.List.Perm.Subperm

/-!
# Renumbering, planned and done

A pass that does not write moves the first row that wants a key nobody holds.
A pass that writes moves these rows too. It moves others when a key becomes
free on the way; where no row wants the key of a row that moves, the two
passes report the same, and afterwards every key that is still wanted is
held.
-/

namespace CallingAgent.Lib.Renumbering

section

variable {ι ρ κ ν : Type} [LinearOrder ι] {R : Renumbering ι ρ κ ν}
  {rows : List (ι × ρ)} {moved : List (ι × κ)} {takes takes' : ι → κ → Prop}
  {before : ι → ι → Prop} {apply : Bool} {limit : Nat} {h i j : ι} {r : ρ}
  {k k' : κ}

/-- A row that moves without writes: the first that wants a key nobody
holds. -/
def Moves (R : Renumbering ι ρ κ ν) (rows : List (ι × ρ)) (i : ι) (k : κ) :
    Prop :=
  R.Wants rows i k ∧ (∀ h, ¬ R.Holds rows h k) ∧ ∀ j, j < i → ¬ R.Wants rows j k

/-- **No row wants the key of a row that moves.** -/
def Quiet (R : Renumbering ι ρ κ ν) (rows : List (ι × ρ)) : Prop :=
  ∀ i k, R.Moves rows i k → ∀ k', R.Holds rows i k' →
    ∀ j, ¬ R.Wants rows j k'

/-! ## Plans -/

theorem IsPlan.wants (hp : R.IsPlan rows before takes) (ht : takes i k) :
    R.Wants rows i k :=
  ((hp i k).mp ht).1

/-- No key is taken twice. -/
theorem IsPlan.first (hp : R.IsPlan rows before takes) (hi : takes i k)
    (hj : takes j k) : i = j := by
  rcases lt_trichotomy i j with hlt | heq | hlt
  · exact absurd hi (((hp j k).mp hj).2.1 i hlt)
  · exact heq
  · exact absurd hj (((hp i k).mp hi).2.1 j hlt)

/-- **Every plan moves the rows that move without writes.** -/
theorem IsPlan.of_moves (hp : R.IsPlan rows before takes)
    (hm : R.Moves rows i k) : takes i k :=
  (hp i k).mpr ⟨hm.1, fun j hj ht => hm.2.2 j hj (hp.wants ht),
    fun h hh => absurd hh (hm.2.1 h)⟩

/-- A row that stays wants what it wanted. -/
theorem Moved.wants_stay (hm : Moved R rows moved) (hw : R.Wants rows i k)
    (hstay : ∀ k', (i, k') ∉ moved) : R.Wants (R.moveRows rows moved) i k := by
  obtain ⟨r, hr, hv⟩ := hw
  refine ⟨r, mem_moveRows.mpr ⟨r, hr, ?_⟩, hv⟩
  rw [hm.lookup_eq_none.mpr hstay]
  rfl

/-- **What is wanted when some rows have moved**: what a row that stays
wants, and what a row that moved wants then. -/
theorem Moved.wants_iff (hm : Moved R rows moved) (hk : R.Keyed rows) :
    R.Wants (R.moveRows rows moved) i k ↔
      (R.Wants rows i k ∧ ∀ k', (i, k') ∉ moved) ∨
        ∃ r k', (i, r) ∈ rows ∧ (i, k') ∈ moved ∧
          R.verdict i r = .wanted k' ∧
          R.verdict i (R.setKey k' r) = .wanted k := by
  constructor
  · rintro ⟨r', hr', hv⟩
    obtain ⟨r, hr, rfl⟩ := mem_moveRows.mp hr'
    cases hl : moved.lookup i with
    | none =>
        rw [hl] at hv
        exact .inl ⟨⟨r, hr, hv⟩, hm.lookup_eq_none.mp hl⟩
    | some k' =>
        rw [hl] at hv
        have hin := hm.lookup_eq_some.mp hl
        obtain ⟨r₀, hr₀, hv₀⟩ := hm.wants hin
        cases hk.row_unique hr hr₀
        exact .inr ⟨r, k', hr, hin, hv₀, hv⟩
  · rintro (⟨hw, hstay⟩ | ⟨r, k', hr, hin, -, hv⟩)
    · exact hm.wants_stay hw hstay
    · refine ⟨_, mem_moveRows.mpr ⟨r, hr, rfl⟩, ?_⟩
      rw [hm.lookup_eq_some.mpr hin]
      exact hv

variable [WellFoundedLT ι]

/-- **There is one plan** for each choice of what comes before what. -/
theorem IsPlan.unique (hlt : ∀ {h i}, before h i → h < i)
    (hp : R.IsPlan rows before takes) (hp' : R.IsPlan rows before takes') :
    ∀ i k, takes i k ↔ takes' i k := by
  intro i
  induction i using WellFoundedLT.induction with
  | _ i ih =>
    intro k
    rw [hp i k, hp' i k]
    refine and_congr_right fun _ => and_congr ?_ ?_
    · exact forall_congr' fun j => forall_congr' fun hj => not_congr (ih j hj k)
    · refine forall_congr' fun h => forall_congr' fun _ => ?_
      exact and_congr_right fun hb => exists_congr fun k' => ih h (hlt hb) k'

/-- A key that is wanted and that nobody holds has a first row that wants
it. -/
theorem exists_moves (hw : R.Wants rows i k) (hfree : ∀ h, ¬ R.Holds rows h k) :
    ∃ j, R.Moves rows j k := by
  induction i using WellFoundedLT.induction with
  | _ i ih =>
    by_cases hfirst : ∃ j, j < i ∧ R.Wants rows j k
    · obtain ⟨j, hj, hwj⟩ := hfirst
      exact ih j hj hwj
    · exact ⟨i, hw, hfree, fun j hj hwj => hfirst ⟨j, hj, hwj⟩⟩

/-- **Without writes the plan is the first rows.** -/
theorem IsPlan.moves_iff
    (hp : R.IsPlan rows (EarlierBatch rows false limit) takes) :
    takes i k ↔ R.Moves rows i k := by
  refine ⟨fun ht => ?_, hp.of_moves⟩
  have hfree : ∀ h, ¬ R.Holds rows h k := fun h hh => by
    have he := (((hp i k).mp ht).2.2 h hh).1
    exact absurd he.1 Bool.false_ne_true
  obtain ⟨j, hj⟩ := exists_moves (hp.wants ht) hfree
  rwa [hp.first ht (hp.of_moves hj)]

/-- **A quiet table has one plan**, with writes or without. -/
theorem Quiet.moves (hq : R.Quiet rows) (hlt : ∀ {h i}, before h i → h < i)
    (hp : R.IsPlan rows before takes) : ∀ i k, takes i k → R.Moves rows i k := by
  intro i
  induction i using WellFoundedLT.induction with
  | _ i ih =>
    intro k ht
    obtain ⟨hw, -, hholders⟩ := (hp i k).mp ht
    have hfree : ∀ h, ¬ R.Holds rows h k := by
      intro h hh
      obtain ⟨hb, k', hk'⟩ := hholders h hh
      exact hq _ _ (ih h (hlt hb) k' hk') _ hh i hw
    obtain ⟨j, hj⟩ := exists_moves hw hfree
    rwa [hp.first ht (hp.of_moves hj)]

end

/-! ## Both passes, side by side -/

section

variable {ι ρ κ ν : Type} [LinearOrder ι] [DecidableEq κ]
  {R : Renumbering ι ρ κ ν} {limit fuel : Nat} {rows done todo : List (ι × ρ)}
  {moved release wanted : List (ι × κ)} {s s' t t' : Pass ι ρ κ ν} {h i : ι}
  {k : κ}

/-- Nobody wants what these rows gave up, and nobody held what they took. -/
def Aloof (R : Renumbering ι ρ κ ν) (rows : List (ι × ρ))
    (moved : List (ι × κ)) : Prop :=
  ∀ {i k}, (i, k) ∈ moved → (∀ h, ¬ R.Holds rows h k) ∧
    ∀ {k'}, R.Holds rows i k' → ∀ j, ¬ R.Wants rows j k'

/-- The passes have done the same. -/
def Same (s t : Pass ι ρ κ ν) : Prop := s.moved = t.moved ∧ s.tally = t.tally

/-- **The same row is in the way**, whether the rows were written or not. -/
theorem Aloof.blocker_eq (ha : Aloof R rows release) (hk : R.Keyed rows)
    (hrel : Moved R rows release) (hm : Moved R rows moved)
    (hsub : ∀ m ∈ release, m ∈ moved) (hw : R.Wants rows i k) :
    (R.holder (R.moveRows rows release) k).or (taker moved k)
      = (R.holder rows k).or (taker moved k) := by
  have hkeyed : R.Keyed (R.moveRows rows release) :=
    hrel.keyed hk fun hin h hh => absurd hh ((ha hin).1 h)
  cases hh : R.holder rows k with
  | some h =>
      have hhold := holds_of_holder hh
      have hstay : ∀ k', (h, k') ∉ release :=
        fun k' hin => (ha hin).2 hhold i hw
      rw [hkeyed.holder_eq_some.mpr ((hrel.holds_iff hk).mpr
        (.inr ⟨hhold, hstay⟩))]
  | none =>
      cases hh' : R.holder (R.moveRows rows release) k with
      | none => rfl
      | some h =>
          rcases (hrel.holds_iff hk).mp (holds_of_holder hh') with hin | ⟨hold, -⟩
          · rw [hm.taker_eq_some.mpr (hsub _ hin), Option.some_or, Option.none_or]
          · exact absurd hold (holder_eq_none.mp hh h)

omit [LinearOrder ι] [DecidableEq κ] in
theorem Same.refuse (hst : Same s t) :
    Same (R.refuse s i h k) (R.refuse t i h k) := by
  obtain ⟨hmoved, htally⟩ := hst
  exact ⟨hmoved, by simp only [Renumbering.refuse, htally]⟩

/-- What taking a key does to the record of a pass. -/
theorem of_take_ok {apply : Bool} (htake : R.take apply s i k = .ok s') :
    s'.moved = (i, k) :: s.moved ∧
      s'.tally = { s.tally with changed := s.tally.changed + 1 } := by
  cases apply with
  | false =>
      rw [take, if_neg Bool.false_ne_true] at htake
      cases htake
      exact ⟨rfl, rfl⟩
  | true =>
      rw [take, if_pos rfl] at htake
      cases hrows : R.write s.rows i k with
      | error e =>
          rw [hrows] at htake
          cases htake
      | ok rows' =>
          rw [hrows] at htake
          cases htake
          exact ⟨rfl, rfl⟩

theorem Same.take (hst : Same s t) {a b : Bool} (hs : R.take a s i k = .ok s')
    (ht : R.take b t i k = .ok t') : Same s' t' := by
  obtain ⟨hsm, hstl⟩ := of_take_ok hs
  obtain ⟨htm, httl⟩ := of_take_ok ht
  exact ⟨by rw [hsm, htm, hst.1], by rw [hstl, httl, hst.2]⟩

/-- **The second loop does the same on both sides.** -/
theorem Same.settle (hst : Same s t) (ha : Aloof R rows release)
    (hk : R.Keyed rows) (hrel : Moved R rows release)
    (hm : Moved R rows t.moved) (hsub : ∀ m ∈ release, m ∈ t.moved)
    (hrise : wanted.Pairwise fun a b => a.1 < b.1)
    (hw : ∀ {i k}, (i, k) ∈ wanted → R.Wants rows i k)
    (hlast : ∀ m ∈ t.moved, ∀ w ∈ wanted, m.1 < w.1)
    (hs : R.settle false rows wanted s = .ok s')
    (ht : R.settle true (R.moveRows rows release) wanted t = .ok t') :
    Same s' t' := by
  induction wanted generalizing s t with
  | nil =>
      cases hs
      cases ht
      exact hst
  | cons w wanted ih =>
      obtain ⟨i, k⟩ := w
      obtain ⟨hi, hrise⟩ := List.pairwise_cons.mp hrise
      have hwi : R.Wants rows i k := hw List.mem_cons_self
      have hlasti : ∀ m ∈ t.moved, m.1 < i :=
        fun m hm => hlast m hm _ List.mem_cons_self
      have hwrest : ∀ {j l}, (j, l) ∈ wanted → R.Wants rows j l :=
        fun hin => hw (List.mem_cons_of_mem _ hin)
      rw [Renumbering.settle, hst.1] at hs
      rw [Renumbering.settle, ha.blocker_eq hk hrel hm hsub hwi] at ht
      cases hb : (R.holder rows k).or (taker t.moved k) with
      | some h =>
          have hne : h ≠ i := by
            have hthere : (R.holder (R.current true rows release) k).or
                (taker t.moved k) = some h := by
              rw [current, if_pos rfl, ha.blocker_eq hk hrel hm hsub hwi, hb]
            exact blocker_ne hk hrel hsub hlasti hwi hthere
          simp only [hb, ne_eq, hne, not_false_eq_true, if_true] at hs ht
          exact ih hst.refuse hm hsub hrise hwrest
            (fun m hm v hv => hlast m hm v (List.mem_cons_of_mem _ hv)) hs ht
      | none =>
          simp only [hb] at hs ht
          cases hts : R.take false s i k with
          | error e =>
              rw [hts] at hs
              cases hs
          | ok s₁ =>
              cases htt : R.take true t i k with
              | error e =>
                  rw [htt] at ht
                  cases ht
              | ok t₁ =>
                  rw [hts] at hs
                  rw [htt] at ht
                  have hmoved := (of_take_ok htt).1
                  have hfree := taker_eq_none.mp (Option.or_eq_none_iff.mp hb).2
                  refine ih (hst.take hts htt) ?_ ?_ hrise hwrest ?_ hs ht
                  · rw [hmoved]
                    exact hm.cons hlasti hwi hfree
                  · rw [hmoved]
                    exact fun m hm => List.mem_cons_of_mem _ (hsub m hm)
                  · rw [hmoved]
                    intro m hm v hv
                    rcases List.mem_cons.mp hm with rfl | hm
                    · exact hi v hv
                    · exact hlast m hm v (List.mem_cons_of_mem _ hv)

/-- **A batch does the same on both sides.** -/
theorem Same.batch (hst : Same s t) (ha : Aloof R rows t.moved)
    (hs : Walked R false limit rows done s) (ht : Walked R true limit rows done t)
    (hk : R.Keyed rows) (hrows : rows = done ++ todo)
    (hbs : R.batch false (todo.take limit) s = .ok s')
    (hbt : R.batch true (todo.take limit) t = .ok t') : Same s' t' := by
  have hsorted := hk.sorted
  rw [hrows, List.pairwise_append] at hsorted
  have hsrows : s.rows = rows :=
    hs.going.rows_eq.trans (if_neg Bool.false_ne_true)
  have htrows : t.rows = R.moveRows rows t.moved :=
    ht.going.rows_eq.trans (if_pos rfl)
  rw [Renumbering.batch, hsrows] at hbs
  rw [Renumbering.batch, htrows, ← hst.2] at hbt
  set examined := R.examine (todo.take limit) s.tally with hexamined
  have hst₀ : Same (⟨rows, s.moved, examined.1⟩ : Pass ι ρ κ ν)
      ⟨R.moveRows rows t.moved, t.moved, examined.1⟩ := ⟨hst.1, rfl⟩
  refine hst₀.settle ha hk ht.going.moved ht.going.moved (fun m hm => hm)
    ?_ ?_ ?_ hbs hbt
  · refine List.pairwise_map.mp (List.Pairwise.sublist examine_sublist ?_)
    exact List.pairwise_map.mpr
      (hsorted.2.1.sublist (List.take_sublist limit todo))
  · intro i k hin
    obtain ⟨r, hr, hv⟩ := mem_examine.mp hin
    refine ⟨r, ?_, hv⟩
    rw [hrows]
    exact List.mem_append_right _ (List.mem_of_mem_take hr)
  · intro m hm w hw
    obtain ⟨r, hr, -⟩ := mem_examine.mp hw
    obtain ⟨row, hrow, hfst⟩ := List.mem_map.mp (ht.planned.mp hm).1
    rw [← hfst]
    exact hsorted.2.2 row hrow _ (List.mem_of_mem_take hr)

/-- **The walk does the same on both sides**, when what moves without writes
is aloof. -/
theorem Same.walk (hst : Same s t) (hs : Walked R false limit rows done s)
    (ht : Walked R true limit rows done t) (hk : R.Keyed rows)
    (hlimit : 0 < limit) (hrows : rows = done ++ todo)
    (hfull : todo ≠ [] → ∃ b, done.length = limit * b)
    (hfuel : todo.length < fuel) (ha : Aloof R rows s'.moved)
    (hws : R.walk false limit fuel (done.getLast?.map (·.1)) s = .ok s')
    (hwt : R.walk true limit fuel (done.getLast?.map (·.1)) t = .ok t') :
    Same s' t' := by
  induction fuel generalizing done todo s t with
  | zero => exact absurd hfuel (Nat.not_lt_zero _)
  | succ fuel ih =>
      obtain ⟨s'', hws', -, hkeep⟩ := hs.walk hk hlimit hrows hfull hfuel
      cases hws.symm.trans hws'
      rw [Renumbering.walk, hs.page hk hrows] at hws
      rw [Renumbering.walk, ht.page hk hrows] at hwt
      by_cases hnil : todo = []
      · subst hnil
        rw [List.take_nil] at hws hwt
        cases hws
        cases hwt
        exact hst
      · obtain ⟨b, hb⟩ := hfull hnil
        obtain ⟨hne, hlast, hless, hfull₁⟩ := exists_page hlimit hnil hb
        obtain ⟨s₁, hbs, hs₁, -⟩ := hs.batch hk hlimit hrows hb
        obtain ⟨t₁, hbt, ht₁, -⟩ := ht.batch hk hlimit hrows hb
        have hsame₁ : Same s₁ t₁ := by
          refine Same.batch hst (fun hin => ?_) hs ht hk hrows hbs hbt
          exact ha (hkeep _ (by rw [hst.1]; exact hin))
        have hrows₁ : rows = (done ++ todo.take limit) ++ todo.drop limit := by
          rw [List.append_assoc, List.take_append_drop, hrows]
        rw [List.getLast?_eq_some_getLast hne] at hws hwt
        simp only [hbs, hbt] at hws hwt
        exact ih hsame₁ hs₁ ht₁ hrows₁ hfull₁
          (Nat.lt_of_lt_of_le hless (Nat.le_of_lt_succ hfuel))
          (by rw [hlast]; exact hws) (by rw [hlast]; exact hwt)

end

/-! ## What a pass leaves -/

section

variable {ι ρ κ ν : Type} [LinearOrder ι] [WellFoundedLT ι] [DecidableEq κ]
  {R : Renumbering ι ρ κ ν} {limit : Nat} {rows : List (ι × ρ)}
  {s t : Pass ι ρ κ ν} {i : ι} {k : κ}

/-- The rows that a pass without writes moves. -/
theorem mem_moved_iff (hk : R.Keyed rows) (hlimit : 0 < limit)
    (hs : R.pass false limit rows = .ok s) :
    (i, k) ∈ s.moved ↔ R.Moves rows i k := by
  obtain ⟨s', hs', -, hplan⟩ := pass_ok hk hlimit false
  cases hs.symm.trans hs'
  exact hplan.moves_iff

omit [WellFoundedLT ι] in
/-- They move with writes as well. -/
theorem mem_moved_of_moves (hk : R.Keyed rows) (hlimit : 0 < limit)
    (ht : R.pass true limit rows = .ok t) (hm : R.Moves rows i k) :
    (i, k) ∈ t.moved := by
  obtain ⟨t', ht', -, hplan⟩ := pass_ok hk hlimit true
  cases ht.symm.trans ht'
  exact hplan.of_moves hm

/-- **On a quiet table both passes do and report the same.** -/
theorem Quiet.same (hq : R.Quiet rows) (hk : R.Keyed rows) (hlimit : 0 < limit)
    (hs : R.pass false limit rows = .ok s) (ht : R.pass true limit rows = .ok t) :
    Same s t := by
  have hstart : Same (⟨rows, [], {}⟩ : Pass ι ρ κ ν) ⟨rows, [], {}⟩ := ⟨rfl, rfl⟩
  refine hstart.walk Walked.start Walked.start hk hlimit (List.nil_append rows).symm
    (fun _ => ⟨0, rfl⟩) (Nat.lt_succ_self _) ?_ hs ht
  intro i k hin
  have hm := (mem_moved_iff hk hlimit hs).mp hin
  exact ⟨hm.2.1, fun hh => hq _ _ hm _ hh⟩

omit [WellFoundedLT ι] [DecidableEq κ] in
/-- The rows that a pass leaves have keys of their own. -/
theorem Going.keyed {apply : Bool} (hs : Going R apply rows s)
    (hk : R.Keyed rows) : R.Keyed s.rows := by
  rw [hs.rows_eq, current]
  cases apply with
  | false => exact hk
  | true => exact hs.moved.keyed hk fun hin _ hh => (hs.vacated hin hh).2

omit [WellFoundedLT ι] [DecidableEq κ] in
theorem Going.moved_nodup {apply : Bool} (hs : Going R apply rows s) :
    s.moved.Nodup := by
  refine List.Nodup.of_map (·.1) (List.pairwise_map.mpr ?_)
  exact hs.moved.falling.imp fun hlt => hlt.ne'

/-- Passes that report as many changes move the same rows. -/
theorem moved_of_changed_eq (hk : R.Keyed rows) (hlimit : 0 < limit)
    (hs : R.pass false limit rows = .ok s) (ht : R.pass true limit rows = .ok t)
    (heq : s.tally.changed = t.tally.changed) (hin : (i, k) ∈ t.moved) :
    R.Moves rows i k := by
  obtain ⟨s', hs', hgs, -⟩ := pass_ok hk hlimit false
  obtain ⟨t', ht', hgt, -⟩ := pass_ok hk hlimit true
  cases hs.symm.trans hs'
  cases ht.symm.trans ht'
  have hsub : s.moved.Subperm t.moved := by
    refine hgs.moved_nodup.subperm fun m hm => ?_
    exact mem_moved_of_moves hk hlimit ht ((mem_moved_iff hk hlimit hs).mp hm)
  have hperm := hsub.perm_of_length_le
    (by rw [← hgs.changed, ← hgt.changed, heq])
  exact (mem_moved_iff hk hlimit hs).mp (hperm.mem_iff.mpr hin)

omit [WellFoundedLT ι] in
/-- **Where a table is not quiet**, and the passes move the same rows, a key
that a row still wants becomes free. -/
theorem exists_freed (hk : R.Keyed rows) (hlimit : 0 < limit)
    (ht : R.pass true limit rows = .ok t)
    (hsame : ∀ {i k}, (i, k) ∈ t.moved → R.Moves rows i k)
    (hq : ¬ R.Quiet rows) :
    ∃ j l, R.Wants rows j l ∧ (∀ k, (j, k) ∉ t.moved) ∧
      ∀ h, ¬ R.Holds (R.moveRows rows t.moved) h l := by
  obtain ⟨t', ht', hgoing, -⟩ := pass_ok hk hlimit true
  cases ht.symm.trans ht'
  simp only [Quiet, not_forall, not_not] at hq
  obtain ⟨i, k, hm, l, hold, j, hw⟩ := hq
  have hi : (i, k) ∈ t.moved := mem_moved_of_moves hk hlimit ht hm
  refine ⟨j, l, hw, fun k' hin => ?_, fun h hh => ?_⟩
  · have hmj := hsame hin
    rw [hk.wants_unique hmj.1 hw] at hmj
    exact hmj.2.1 i hold
  · rcases (hgoing.moved.holds_iff hk).mp hh with hin | ⟨hold', hstay⟩
    · exact (hsame hin).2.1 i hold
    · rw [hk.holds_unique hold' hold] at hstay
      exact hstay k hi

/-- **On a quiet table every key that is still wanted is held.** -/
theorem Quiet.held (hq : R.Quiet rows) (hk : R.Keyed rows) (hlimit : 0 < limit)
    (ht : R.pass true limit rows = .ok t) (hw : R.Wants rows i k) :
    ∃ h, R.Holds (R.moveRows rows t.moved) h k := by
  obtain ⟨t', ht', hgoing, hplan⟩ := pass_ok hk hlimit true
  cases ht.symm.trans ht'
  by_cases hold : ∃ h, R.Holds rows h k
  · obtain ⟨h, hh⟩ := hold
    refine ⟨h, (hgoing.moved.holds_iff hk).mpr (.inr ⟨hh, fun k' hin => ?_⟩)⟩
    exact hq _ _ (hq.moves EarlierBatch.lt hplan h k' hin) _ hh i hw
  · obtain ⟨j, hj⟩ := exists_moves hw fun h hh => hold ⟨h, hh⟩
    exact ⟨j, (hgoing.moved.holds_iff hk).mpr
      (.inl (mem_moved_of_moves hk hlimit ht hj))⟩

/-- **A pass changes nothing exactly when every key that is wanted is
held.** -/
theorem pass_changed_eq_zero (hk : R.Keyed rows) (hlimit : 0 < limit)
    (ht : R.pass true limit rows = .ok t) :
    t.tally.changed = 0 ↔
      ∀ {i k}, R.Wants rows i k → ∃ h, R.Holds rows h k := by
  obtain ⟨t', ht', hgoing, hplan⟩ := pass_ok hk hlimit true
  cases ht.symm.trans ht'
  rw [hgoing.changed, List.length_eq_zero_iff, List.eq_nil_iff_forall_not_mem]
  constructor
  · intro hnil i k hw
    by_contra hfree
    obtain ⟨j, hj⟩ := exists_moves hw fun h hh => hfree ⟨h, hh⟩
    exact hnil _ (mem_moved_of_moves hk hlimit ht hj)
  · rintro hheld ⟨i, k⟩ hin
    have hnone : ∀ {j l}, ¬ R.Moves rows j l := by
      intro j l hm
      obtain ⟨h, hh⟩ := hheld hm.1
      exact hm.2.1 h hh
    have hq : R.Quiet rows := fun _ _ hm => absurd hm hnone
    exact hnone (hq.moves EarlierBatch.lt hplan i k hin)

end

end CallingAgent.Lib.Renumbering
