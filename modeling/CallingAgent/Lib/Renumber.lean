import CallingAgent.Lib.Text
import Mathlib.Data.List.Nodup
import Mathlib.Order.Lattice
import Mathlib.Order.RelClasses

/-!
# Renumbering — a pass that gives rows new unique keys, in batches

The rows of a table have an id and a key, and no two rows share a key. A pass
reads the rows by id in batches and asks of each what key it should have. A
row takes the key it wants unless a row held it when the batch began, or an
earlier row of the pass has taken it; what is refused stays as it is. The
pass can also be run without writing.

Which rows take a key is said by a plan, without the run: what an earlier
batch has given up is free, what is given up in the same batch is not.
-/

namespace CallingAgent.Lib

/-- What a row is found to need: nothing can be said, nothing, a new key that
it must not take, or a new key. -/
inductive Verdict (κ ν : Type) where
  | invalid (note : ν)
  | unchanged
  | skipped (note : ν)
  | wanted (key : κ)

/-- What a pass reports. -/
structure Tally (ν : Type) where
  changed : Nat := 0
  unchanged : Nat := 0
  invalid : Nat := 0
  collisions : Nat := 0
  notes : List ν := []
  deriving DecidableEq

/-- A note is kept while the list is not full. -/
def Tally.note {ν : Type} (limit : Nat) (t : Tally ν) (n : ν) : Tally ν :=
  if t.notes.length < limit then { t with notes := t.notes ++ [n] } else t

/-- What ends a pass early: a row would share its key, or the rows were not
all read. -/
inductive PassError where
  | unique
  | unfinished
  deriving DecidableEq

/-- What a pass knows of the rows `ρ`, their ids `ι` and keys `κ`. A key that
is wanted is another one, and setting it gives it. -/
structure Renumbering (ι ρ κ ν : Type) where
  key : ρ → κ
  setKey : κ → ρ → ρ
  verdict : ι → ρ → Verdict κ ν
  /-- what is noted of a row that wants the key of a holder -/
  collision : ι → ι → κ → ν
  noteLimit : Nat
  wanted_ne : ∀ {i r k}, verdict i r = .wanted k → k ≠ key r
  key_set : ∀ {i r k}, verdict i r = .wanted k → key (setKey k r) = k

/-- The rows, the keys taken in this run, and the report. -/
structure Pass (ι ρ κ ν : Type) where
  rows : List (ι × ρ)
  moved : List (ι × κ) := []
  tally : Tally ν := {}

namespace Renumbering

section Definitions

variable {ι ρ κ ν : Type} [LinearOrder ι] [DecidableEq κ]
  (R : Renumbering ι ρ κ ν)

/-- Who holds a key. -/
def holder (rows : List (ι × ρ)) (k : κ) : Option ι :=
  (rows.find? fun row => R.key row.2 = k).map (·.1)

/-- Who has taken a key in this run. -/
def taker (moved : List (ι × κ)) (k : κ) : Option ι :=
  (moved.find? fun m => m.2 = k).map (·.1)

/-- The write of one row, refused where it would break the constraint. -/
def write (rows : List (ι × ρ)) (i : ι) (k : κ) :
    Except PassError (List (ι × ρ)) :=
  if rows.any fun row => row.1 ≠ i && R.key row.2 = k then .error .unique
  else .ok (rows.map fun row =>
    if row.1 = i then (row.1, R.setKey k row.2) else row)

/-- The first loop over a batch: the rows that want a key are listed. -/
def examine : List (ι × ρ) → Tally ν → Tally ν × List (ι × κ)
  | [], t => (t, [])
  | (i, r) :: page, t =>
      match R.verdict i r with
      | .invalid n =>
          examine page
            (Tally.note R.noteLimit { t with invalid := t.invalid + 1 } n)
      | .unchanged => examine page { t with unchanged := t.unchanged + 1 }
      | .skipped n =>
          examine page
            (Tally.note R.noteLimit { t with collisions := t.collisions + 1 } n)
      | .wanted k =>
          let rest := examine page t
          (rest.1, (i, k) :: rest.2)

/-- A row that does not get the key of `h`. -/
def refuse (s : Pass ι ρ κ ν) (i h : ι) (k : κ) : Pass ι ρ κ ν :=
  { s with
    tally := Tally.note R.noteLimit
      { s.tally with collisions := s.tally.collisions + 1 }
      (R.collision i h k) }

/-- A row that gets the key it wants. -/
def take (apply : Bool) (s : Pass ι ρ κ ν) (i : ι) (k : κ) :
    Except PassError (Pass ι ρ κ ν) := do
  let rows ← if apply then R.write s.rows i k else .ok s.rows
  .ok { rows := rows, moved := (i, k) :: s.moved,
        tally := { s.tally with changed := s.tally.changed + 1 } }

/-- The second loop over a batch; `snapshot` is what the rows were when it
began. -/
def settle (apply : Bool) (snapshot : List (ι × ρ)) :
    List (ι × κ) → Pass ι ρ κ ν → Except PassError (Pass ι ρ κ ν)
  | [], s => .ok s
  | (i, k) :: wanted, s =>
      match (R.holder snapshot k).or (taker s.moved k) with
      | some h =>
          if h ≠ i then settle apply snapshot wanted (R.refuse s i h k)
          else (R.take apply s i k).bind (settle apply snapshot wanted)
      | none => (R.take apply s i k).bind (settle apply snapshot wanted)

/-- One batch. -/
def batch (apply : Bool) (page : List (ι × ρ)) (s : Pass ι ρ κ ν) :
    Except PassError (Pass ι ρ κ ν) :=
  let examined := R.examine page s.tally
  R.settle apply s.rows examined.2 { s with tally := examined.1 }

/-- The next rows after the cursor, by id. -/
def nextPage (limit : Nat) (cursor : Option ι) (rows : List (ι × ρ)) :
    List (ι × ρ) :=
  (rows.filter fun row => cursor.all (· < row.1)).take limit

/-- Batch after batch, until no row is left. -/
def walk (apply : Bool) (limit : Nat) :
    Nat → Option ι → Pass ι ρ κ ν → Except PassError (Pass ι ρ κ ν)
  | 0, _, _ => .error .unfinished
  | fuel + 1, cursor, s =>
      let page := nextPage limit cursor s.rows
      match page.getLast? with
      | none => .ok s
      | some last =>
          (R.batch apply page s).bind (walk apply limit fuel (some last.1))

/-- The whole pass, over rows that are listed by id. -/
def pass (apply : Bool) (limit : Nat) (rows : List (ι × ρ)) :
    Except PassError (Pass ι ρ κ ν) :=
  R.walk apply limit (rows.length + 1) none { rows := rows }

/-! ## Plans -/

variable (rows : List (ι × ρ))

/-- The row with this id wants the key. -/
def Wants (i : ι) (k : κ) : Prop :=
  ∃ r, (i, r) ∈ rows ∧ R.verdict i r = .wanted k

/-- The row with this id has the key. -/
def Holds (i : ι) (k : κ) : Prop := ∃ r, (i, r) ∈ rows ∧ R.key r = k

/-- The number of the batch that a row is in. -/
def batchOf (limit : Nat) (i : ι) : Nat :=
  (rows.countP fun row => row.1 < i) / limit

/-- **A plan**: a row takes the key it wants, unless an earlier row takes it
or a row holds it and has not, before, taken another. -/
def IsPlan (before : ι → ι → Prop) (takes : ι → κ → Prop) : Prop :=
  ∀ i k, takes i k ↔ R.Wants rows i k ∧ (∀ j, j < i → ¬ takes j k) ∧
    ∀ h, R.Holds rows h k → before h i ∧ ∃ k', takes h k'

/-- What is given up in an earlier batch of a run that writes is free. -/
def EarlierBatch (apply : Bool) (limit : Nat) (h i : ι) : Prop :=
  apply = true ∧ batchOf rows limit h < batchOf rows limit i

/-- The rows as they are when some of them have taken a key. -/
def moveRows (moved : List (ι × κ)) : List (ι × ρ) :=
  rows.map fun row =>
    match moved.lookup row.1 with
    | some k => (row.1, R.setKey k row.2)
    | none => row

/-- The rows are listed by id, and no two share a key. -/
structure Keyed : Prop where
  sorted : rows.Pairwise fun a b => a.1 < b.1
  unique : (rows.map fun row => R.key row.2).Nodup

end Definitions

/-- Under distinct keys, what is found is what is there. -/
theorem lookup_eq_some_iff_mem {ι α : Type} [DecidableEq ι]
    {l : List (ι × α)} {i : ι} {a : α} (h : (l.map (·.1)).Nodup) :
    l.lookup i = some a ↔ (i, a) ∈ l := by
  induction l with
  | nil => simp
  | cons m l ih =>
      obtain ⟨j, b⟩ := m
      obtain ⟨hj, h⟩ := List.nodup_cons.mp h
      by_cases hij : i = j
      · subst hij
        have hnot : (i, a) ∉ l := fun hmem =>
          hj (List.mem_map.mpr ⟨_, hmem, rfl⟩)
        simp [hnot, eq_comm]
      · have hne : (i == j) = false := beq_eq_false_iff_ne.mpr hij
        simp only [List.lookup_cons, hne, ih h, List.mem_cons, Prod.mk.injEq,
          hij, false_and, false_or]

/-! ## Keys of rows -/

section

variable {ι ρ κ ν : Type} [LinearOrder ι] {R : Renumbering ι ρ κ ν}
  {rows : List (ι × ρ)} {moved : List (ι × κ)} {i h h' : ι} {r r' : ρ}
  {k k' : κ}

theorem Keyed.row_unique (hk : R.Keyed rows) (hr : (i, r) ∈ rows)
    (hr' : (i, r') ∈ rows) : r = r' := by
  have hnodup : (rows.map (·.1)).Nodup :=
    List.pairwise_map.mpr (hk.sorted.imp fun hlt => hlt.ne)
  exact congrArg Prod.snd
    (List.inj_on_of_nodup_map hnodup hr hr' rfl)

theorem Keyed.holds_unique (hk : R.Keyed rows) (hh : R.Holds rows h k)
    (hh' : R.Holds rows h' k) : h = h' := by
  obtain ⟨r, hr, hkey⟩ := hh
  obtain ⟨r', hr', hkey'⟩ := hh'
  exact congrArg Prod.fst
    (List.inj_on_of_nodup_map hk.unique hr hr' (hkey.trans hkey'.symm))

theorem Keyed.wants_unique (hk : R.Keyed rows) (hw : R.Wants rows i k)
    (hw' : R.Wants rows i k') : k = k' := by
  obtain ⟨r, hr, hv⟩ := hw
  obtain ⟨r', hr', hv'⟩ := hw'
  rw [hk.row_unique hr hr', hv'] at hv
  exact (Verdict.wanted.inj hv).symm

/-- A row does not want the key it has. -/
theorem Keyed.not_holds (hk : R.Keyed rows) (hw : R.Wants rows i k) :
    ¬ R.Holds rows i k := by
  rintro ⟨r, hr, hkey⟩
  obtain ⟨r', hr', hv⟩ := hw
  rw [hk.row_unique hr hr'] at hkey
  exact R.wanted_ne hv hkey.symm

/-- The rows that took a key: each wants it, each is there once, by falling
id, and no two took the same. -/
structure Moved (R : Renumbering ι ρ κ ν) (rows : List (ι × ρ))
    (moved : List (ι × κ)) : Prop where
  falling : moved.Pairwise fun a b => b.1 < a.1
  wants : ∀ {i k}, (i, k) ∈ moved → R.Wants rows i k
  apart : ∀ {i j k}, (i, k) ∈ moved → (j, k) ∈ moved → i = j

theorem Moved.nil : Moved R rows [] :=
  ⟨List.Pairwise.nil, fun h => (by cases h), fun h => (by cases h)⟩

theorem Moved.cons (hm : Moved R rows moved)
    (hlast : ∀ m ∈ moved, m.1 < i) (hw : R.Wants rows i k)
    (hfree : ∀ j, (j, k) ∉ moved) : Moved R rows ((i, k) :: moved) where
  falling := List.pairwise_cons.mpr ⟨hlast, hm.falling⟩
  wants {j k'} h := by
    rcases List.mem_cons.mp h with h | h
    · cases h
      exact hw
    · exact hm.wants h
  apart {j j' k'} h h' := by
    rcases List.mem_cons.mp h with h | h <;>
      rcases List.mem_cons.mp h' with h' | h'
    · cases h
      cases h'
      rfl
    · cases h
      exact absurd h' (hfree j')
    · cases h'
      exact absurd h (hfree j)
    · exact hm.apart h h'

theorem Moved.lookup_eq_some (hm : Moved R rows moved) :
    moved.lookup i = some k ↔ (i, k) ∈ moved :=
  lookup_eq_some_iff_mem
    (List.pairwise_map.mpr (hm.falling.imp fun hlt => hlt.ne'))

theorem Moved.lookup_eq_none (hm : Moved R rows moved) :
    moved.lookup i = none ↔ ∀ k, (i, k) ∉ moved := by
  rw [Option.eq_none_iff_forall_ne_some]
  exact forall_congr' fun k => not_congr hm.lookup_eq_some

theorem mem_moveRows : (i, r') ∈ R.moveRows rows moved ↔
    ∃ r, (i, r) ∈ rows ∧
      r' = (moved.lookup i).elim r fun k => R.setKey k r := by
  rw [moveRows, List.mem_map]
  constructor
  · rintro ⟨⟨j, r⟩, hmem, heq⟩
    cases hl : moved.lookup j with
    | none =>
        rw [hl] at heq
        cases heq
        exact ⟨r', hmem, by rw [hl]; rfl⟩
    | some k =>
        rw [hl] at heq
        cases heq
        exact ⟨r, hmem, by rw [hl]; rfl⟩
  · rintro ⟨r, hmem, rfl⟩
    refine ⟨(i, r), hmem, ?_⟩
    cases moved.lookup i <;> rfl

theorem lookup_moveRows : (R.moveRows rows moved).lookup i =
    (rows.lookup i).map fun r => (moved.lookup i).elim r fun k => R.setKey k r := by
  induction rows with
  | nil => rfl
  | cons row rows ih =>
      obtain ⟨j, r⟩ := row
      rw [moveRows, List.map_cons, ← moveRows]
      by_cases hij : i = j
      · subst hij
        cases hl : moved.lookup i <;> simp
      · have hne : (i == j) = false := beq_eq_false_iff_ne.mpr hij
        cases hl : moved.lookup j <;> simp only [List.lookup_cons, hne, ih]

/-- Where nothing has moved, the rows are as they were. -/
theorem moveRows_nil : R.moveRows rows [] = rows := by
  simp [moveRows]

/-- **Who holds a key when some rows have moved**: who took it, or who held
it and stayed. -/
theorem Moved.holds_iff (hm : Moved R rows moved) (hk : R.Keyed rows) :
    R.Holds (R.moveRows rows moved) h k ↔
      (h, k) ∈ moved ∨ (R.Holds rows h k ∧ ∀ k', (h, k') ∉ moved) := by
  constructor
  · rintro ⟨r', hmem, hkey⟩
    obtain ⟨r, hr, rfl⟩ := mem_moveRows.mp hmem
    cases hl : moved.lookup h with
    | none =>
        rw [hl] at hkey
        exact .inr ⟨⟨r, hr, hkey⟩, hm.lookup_eq_none.mp hl⟩
    | some l =>
        rw [hl] at hkey
        have hin := hm.lookup_eq_some.mp hl
        obtain ⟨r₀, hr₀, hv⟩ := hm.wants hin
        cases hk.row_unique hr hr₀
        have hset : R.key (R.setKey l r) = l := R.key_set hv
        rw [← (hset.symm.trans hkey)]
        exact .inl hin
  · rintro (hin | ⟨⟨r, hr, hkey⟩, hstay⟩)
    · obtain ⟨r, hr, hv⟩ := hm.wants hin
      refine ⟨R.setKey k r, mem_moveRows.mpr ⟨r, hr, ?_⟩, R.key_set hv⟩
      rw [hm.lookup_eq_some.mpr hin]
      rfl
    · refine ⟨r, mem_moveRows.mpr ⟨r, hr, ?_⟩, hkey⟩
      rw [hm.lookup_eq_none.mpr hstay]
      rfl

/-- Who held a key that was taken has taken another. -/
def Vacated (R : Renumbering ι ρ κ ν) (rows : List (ι × ρ))
    (moved : List (ι × κ)) : Prop :=
  ∀ {i k}, (i, k) ∈ moved → ∀ {h}, R.Holds rows h k → ∃ k', (h, k') ∈ moved

theorem moveRows_fst : (R.moveRows rows moved).map (·.1) = rows.map (·.1) := by
  rw [moveRows, List.map_map]
  refine List.map_congr_left fun row _ => ?_
  change Prod.fst (match moved.lookup row.1 with
    | some k => (row.1, R.setKey k row.2)
    | none => row) = row.1
  cases moved.lookup row.1 <;> rfl

/-- **Moving keeps the keys apart.** -/
theorem Moved.keyed (hm : Moved R rows moved) (hk : R.Keyed rows)
    (hv : Vacated R rows moved) : R.Keyed (R.moveRows rows moved) := by
  have hsorted : (R.moveRows rows moved).Pairwise fun a b => a.1 < b.1 := by
    have hids : (R.moveRows rows moved).map (·.1) = rows.map (·.1) := moveRows_fst
    have h := List.pairwise_map.mpr hk.sorted
    rw [← hids] at h
    exact List.pairwise_map.mp h
  refine ⟨hsorted, ?_⟩
  have hids : ((R.moveRows rows moved).map (·.1)).Nodup :=
    List.pairwise_map.mpr (hsorted.imp fun hlt => hlt.ne)
  refine (List.Nodup.of_map _ hids).map_on fun a ha b hb hab => ?_
  refine List.inj_on_of_nodup_map hids ha hb ?_
  have hha : R.Holds (R.moveRows rows moved) a.1 (R.key a.2) := ⟨a.2, ha, rfl⟩
  have hhb : R.Holds (R.moveRows rows moved) b.1 (R.key a.2) :=
    ⟨b.2, hb, hab.symm⟩
  rcases (hm.holds_iff hk).mp hha with hina | ⟨hola, hstaya⟩ <;>
    rcases (hm.holds_iff hk).mp hhb with hinb | ⟨holb, hstayb⟩
  · exact hm.apart hina hinb
  · obtain ⟨k', hk'⟩ := hv hina holb
    exact absurd hk' (hstayb k')
  · obtain ⟨k', hk'⟩ := hv hinb hola
    exact absurd hk' (hstaya k')
  · exact hk.holds_unique hola holb

end

/-! ## A batch -/

section

variable {ι ρ κ ν : Type} [LinearOrder ι] [DecidableEq κ]
  {R : Renumbering ι ρ κ ν} {apply : Bool} {rows : List (ι × ρ)}
  {moved release : List (ι × κ)} {wanted : List (ι × κ)}
  {s s' : Pass ι ρ κ ν} {i h : ι} {k : κ}

/-- The rows during a run, which writes or does not. -/
def current (R : Renumbering ι ρ κ ν) (apply : Bool) (rows : List (ι × ρ))
    (moved : List (ι × κ)) : List (ι × ρ) :=
  if apply then R.moveRows rows moved else rows

/-- Between two rows of a run over `rows`. -/
structure Going (R : Renumbering ι ρ κ ν) (apply : Bool) (rows : List (ι × ρ))
    (s : Pass ι ρ κ ν) : Prop where
  rows_eq : s.rows = R.current apply rows s.moved
  moved : Moved R rows s.moved
  vacated : ∀ {i k}, (i, k) ∈ s.moved → ∀ {h}, R.Holds rows h k →
    apply = true ∧ ∃ k', (h, k') ∈ s.moved
  changed : s.tally.changed = s.moved.length

/-- A key can be taken in a batch before which `release` moved: who held it
is among them, and nobody has taken it. -/
def Free (R : Renumbering ι ρ κ ν) (apply : Bool) (rows : List (ι × ρ))
    (release moved : List (ι × κ)) (k : κ) : Prop :=
  (∀ h, R.Holds rows h k → apply = true ∧ ∃ k', (h, k') ∈ release) ∧
    ∀ j, (j, k) ∉ moved

omit [DecidableEq κ] in
theorem Moved.holds_current (hm : Moved R rows moved) (hk : R.Keyed rows) :
    R.Holds (R.current apply rows moved) h k ↔
      (apply = true ∧ (h, k) ∈ moved) ∨
        (R.Holds rows h k ∧ (apply = true → ∀ k', (h, k') ∉ moved)) := by
  cases apply with
  | false => simp [current]
  | true => simpa [current] using hm.holds_iff hk

omit [LinearOrder ι] in
theorem holder_eq_none : R.holder rows k = none ↔ ∀ h, ¬ R.Holds rows h k := by
  rw [holder, Option.map_eq_none_iff, List.find?_eq_none]
  constructor
  · rintro hnone h ⟨r, hr, hkey⟩
    exact hnone (h, r) hr (decide_eq_true hkey)
  · intro hnone row hrow hkey
    exact hnone row.1 ⟨row.2, hrow, of_decide_eq_true hkey⟩

omit [LinearOrder ι] in
theorem holds_of_holder (hh : R.holder rows k = some h) : R.Holds rows h k := by
  obtain ⟨row, hfind, rfl⟩ := Option.map_eq_some_iff.mp hh
  have hkey := List.find?_some hfind
  exact ⟨row.2, List.mem_of_find?_eq_some hfind, of_decide_eq_true hkey⟩

theorem Keyed.holder_eq_some (hk : R.Keyed rows) :
    R.holder rows k = some h ↔ R.Holds rows h k := by
  refine ⟨holds_of_holder, fun hh => ?_⟩
  cases hf : R.holder rows k with
  | none => exact absurd hh (holder_eq_none.mp hf h)
  | some h' => rw [hk.holds_unique (holds_of_holder hf) hh]

omit [LinearOrder ι] in
theorem taker_eq_none : taker moved k = none ↔ ∀ j, (j, k) ∉ moved := by
  rw [taker, Option.map_eq_none_iff, List.find?_eq_none]
  constructor
  · intro hnone j hj
    exact hnone (j, k) hj (decide_eq_true rfl)
  · rintro hnone ⟨j, l⟩ hm hl
    cases of_decide_eq_true hl
    exact hnone j hm

omit [LinearOrder ι] in
theorem mem_of_taker (hh : taker moved k = some h) : (h, k) ∈ moved := by
  obtain ⟨⟨j, l⟩, hfind, rfl⟩ := Option.map_eq_some_iff.mp hh
  have hkey := List.find?_some hfind
  cases of_decide_eq_true hkey
  exact List.mem_of_find?_eq_some hfind

theorem Moved.taker_eq_some (hm : Moved R rows moved) :
    taker moved k = some h ↔ (h, k) ∈ moved := by
  refine ⟨mem_of_taker, fun hin => ?_⟩
  cases ht : taker moved k with
  | none => exact absurd hin (taker_eq_none.mp ht h)
  | some j => rw [hm.apart (mem_of_taker ht) hin]

/-- **When nobody is in the way.** -/
theorem blocker_eq_none_iff (hk : R.Keyed rows) (hrel : Moved R rows release)
    (hsub : ∀ m ∈ release, m ∈ moved) :
    (R.holder (R.current apply rows release) k).or (taker moved k) = none ↔
      Free R apply rows release moved k := by
  rw [Option.or_eq_none_iff, holder_eq_none, taker_eq_none, Free]
  refine and_congr_left fun hfree => ?_
  constructor
  · intro hnone h hh
    by_contra hstay
    refine hnone h ((hrel.holds_current hk).mpr (.inr ⟨hh, fun ha k' hk' => ?_⟩))
    exact hstay ⟨ha, k', hk'⟩
  · intro hgone h hh
    rcases (hrel.holds_current hk).mp hh with ⟨-, hin⟩ | ⟨hold, hstay⟩
    · exact hfree h (hsub _ hin)
    · obtain ⟨ha, k', hk'⟩ := hgone h hold
      exact hstay ha k' hk'

/-- Nobody is in its own way. -/
theorem blocker_ne (hk : R.Keyed rows) (hrel : Moved R rows release)
    (hsub : ∀ m ∈ release, m ∈ moved) (hlast : ∀ m ∈ moved, m.1 < i)
    (hw : R.Wants rows i k)
    (hb : (R.holder (R.current apply rows release) k).or (taker moved k)
      = some h) : h ≠ i := by
  rintro rfl
  rcases Option.or_eq_some_iff.mp hb with hh | ⟨-, ht⟩
  · rcases (hrel.holds_current hk).mp (holds_of_holder hh) with
      ⟨-, hin⟩ | ⟨hold, -⟩
    · exact lt_irrefl h (hlast _ (hsub _ hin))
    · exact hk.not_holds hw hold
  · exact lt_irrefl h (hlast _ (mem_of_taker ht))

/-- The state after a row has taken its key. -/
def taken (R : Renumbering ι ρ κ ν) (apply : Bool) (rows : List (ι × ρ))
    (s : Pass ι ρ κ ν) (i : ι) (k : κ) : Pass ι ρ κ ν where
  rows := R.current apply rows ((i, k) :: s.moved)
  moved := (i, k) :: s.moved
  tally := { s.tally with changed := s.tally.changed + 1 }

omit [DecidableEq κ] in
/-- One more row has moved. -/
theorem moveRows_cons (hnew : ∀ k, (i, k) ∉ moved) (hm : Moved R rows moved) :
    ((R.moveRows rows moved).map fun row =>
      if row.1 = i then (row.1, R.setKey k row.2) else row)
      = R.moveRows rows ((i, k) :: moved) := by
  rw [moveRows, moveRows, List.map_map]
  refine List.map_congr_left fun row _ => ?_
  obtain ⟨j, r⟩ := row
  by_cases hji : j = i
  · subst hji
    simp [hm.lookup_eq_none.mpr hnew]
  · have hne : (j == i) = false := beq_eq_false_iff_ne.mpr hji
    simp only [Function.comp_apply, List.lookup_cons, hne]
    cases moved.lookup j <;> simp [hji]

/-- **A free key is taken**, and the constraint is kept. -/
theorem Going.take_eq (hs : Going R apply rows s) (hk : R.Keyed rows)
    (hsub : ∀ m ∈ release, m ∈ s.moved) (hlast : ∀ m ∈ s.moved, m.1 < i)
    (hw : R.Wants rows i k) (hfree : Free R apply rows release s.moved k) :
    R.take apply s i k = .ok (R.taken apply rows s i k) ∧
      Going R apply rows (R.taken apply rows s i k) := by
  have hnew : ∀ k', (i, k') ∉ s.moved := fun k' hin => lt_irrefl i (hlast _ hin)
  have hmoved : Moved R rows ((i, k) :: s.moved) :=
    hs.moved.cons hlast hw hfree.2
  refine ⟨?_, rfl, hmoved, ?_, ?_⟩
  · cases apply with
    | false =>
        rw [take, hs.rows_eq]
        rfl
    | true =>
        have hrows : s.rows = R.moveRows rows s.moved := hs.rows_eq
        have hother : (s.rows.any fun row => row.1 ≠ i && R.key row.2 = k)
            = false := by
          rw [List.any_eq_false]
          rintro ⟨j, r⟩ hr hbad
          rw [hrows] at hr
          have hkey : R.key r = k := by simpa using (Bool.and_eq_true_iff.mp hbad).2
          rcases (hs.moved.holds_iff hk).mp ⟨r, hr, hkey⟩ with hin | ⟨hold, hstay⟩
          · exact hfree.2 j hin
          · obtain ⟨-, k', hk'⟩ := hfree.1 j hold
            exact hstay k' (hsub _ hk')
        have hwrite : R.write s.rows i k
            = .ok (R.moveRows rows ((i, k) :: s.moved)) := by
          rw [write, if_neg (by rw [hother]; exact Bool.false_ne_true), hrows,
            moveRows_cons hnew hs.moved]
        rw [take, if_pos rfl, hwrite]
        rfl
  · intro j l hin h hh
    rcases List.mem_cons.mp hin with heq | hin
    · cases heq
      obtain ⟨ha, k', hk'⟩ := hfree.1 h hh
      exact ⟨ha, k', List.mem_cons_of_mem _ (hsub _ hk')⟩
    · obtain ⟨ha, k', hk'⟩ := hs.vacated hin hh
      exact ⟨ha, k', List.mem_cons_of_mem _ hk'⟩
  · simp [taken, hs.changed]

theorem Tally.note_changed (limit : Nat) (t : Tally ν) (n : ν) :
    (Tally.note limit t n).changed = t.changed := by
  rw [Tally.note]
  split <;> rfl

omit [DecidableEq κ] in
theorem Going.refuse (hs : Going R apply rows s) :
    Going R apply rows (R.refuse s i h k) :=
  ⟨hs.rows_eq, hs.moved, hs.vacated, (Tally.note_changed ..).trans hs.changed⟩

/-- What a batch adds to the rows that moved: who wants a key that no earlier
row has taken, and that was free when the batch began. -/
structure Settled (R : Renumbering ι ρ κ ν) (apply : Bool)
    (rows : List (ι × ρ)) (release wanted before after : List (ι × κ)) :
    Prop where
  keeps : ∀ m ∈ before, m ∈ after
  adds : ∀ m ∈ after, m ∈ before ∨ m ∈ wanted
  decides : ∀ {i k}, (i, k) ∈ wanted → ((i, k) ∈ after ↔
    (∀ j, j < i → (j, k) ∉ after) ∧
      ∀ h, R.Holds rows h k → apply = true ∧ ∃ k', (h, k') ∈ release)

/-- **The second loop decides every row of its batch**, and never breaks the
constraint. -/
theorem Going.settle (hs : Going R apply rows s) (hk : R.Keyed rows)
    (hrel : Moved R rows release) (hsub : ∀ m ∈ release, m ∈ s.moved)
    (hrise : wanted.Pairwise fun a b => a.1 < b.1)
    (hw : ∀ {i k}, (i, k) ∈ wanted → R.Wants rows i k)
    (hlast : ∀ m ∈ s.moved, ∀ w ∈ wanted, m.1 < w.1) :
    ∃ s', R.settle apply (R.current apply rows release) wanted s = .ok s' ∧
      Going R apply rows s' ∧
      Settled R apply rows release wanted s.moved s'.moved := by
  induction wanted generalizing s with
  | nil =>
      exact ⟨s, rfl, hs, fun m hm => hm, fun m hm => .inl hm,
        fun hin => (by cases hin)⟩
  | cons w wanted ih =>
      obtain ⟨i, k⟩ := w
      obtain ⟨hi, hrise⟩ := List.pairwise_cons.mp hrise
      have hwi : R.Wants rows i k := hw List.mem_cons_self
      have hlasti : ∀ m ∈ s.moved, m.1 < i :=
        fun m hm => hlast m hm _ List.mem_cons_self
      have hwrest : ∀ {j l}, (j, l) ∈ wanted → R.Wants rows j l :=
        fun hin => hw (List.mem_cons_of_mem _ hin)
      rw [Renumbering.settle]
      cases hb : (R.holder (R.current apply rows release) k).or
          (taker s.moved k) with
      | some h =>
          have hne : h ≠ i := blocker_ne hk hrel hsub hlasti hwi hb
          have hnot : ¬ Free R apply rows release s.moved k := by
            rw [← blocker_eq_none_iff hk hrel hsub, hb]
            exact fun h => by cases h
          obtain ⟨s', heq, hs', hsettled⟩ := ih (hs.refuse (i := i) (h := h)
            (k := k)) hsub hrise hwrest
            fun m hm v hv => hlast m hm v (List.mem_cons_of_mem _ hv)
          refine ⟨s', ?_, hs', hsettled.keeps, ?_, ?_⟩
          · simpa only [if_pos hne] using heq
          · exact fun m hm => (hsettled.adds m hm).imp_right
              (List.mem_cons_of_mem _)
          · intro j l hin
            rcases List.mem_cons.mp hin with hjl | hin
            · cases hjl
              refine ⟨fun hafter => ?_, fun ⟨hfirst, hgone⟩ => ?_⟩
              · rcases hsettled.adds _ hafter with hin | hin
                · exact absurd (hlasti _ hin) (lt_irrefl _)
                · exact absurd (hi _ hin) (lt_irrefl _)
              · refine absurd ⟨hgone, fun j hj => ?_⟩ hnot
                exact hfirst j (hlasti _ hj) (hsettled.keeps _ hj)
            · exact hsettled.decides hin
      | none =>
          have hfree := (blocker_eq_none_iff hk hrel hsub).mp hb
          obtain ⟨htake, hgoing⟩ := hs.take_eq hk hsub hlasti hwi hfree
          obtain ⟨s', heq, hs', hsettled⟩ := ih hgoing
            (fun m hm => List.mem_cons_of_mem _ (hsub m hm)) hrise hwrest
            (by
              intro m hm v hv
              rcases List.mem_cons.mp hm with rfl | hm
              · exact hi v hv
              · exact hlast m hm v (List.mem_cons_of_mem _ hv))
          refine ⟨s', ?_, hs', ?_, ?_, ?_⟩
          · simp only [htake]
            exact heq
          · exact fun m hm => hsettled.keeps m (List.mem_cons_of_mem _ hm)
          · intro m hm
            rcases hsettled.adds m hm with hin | hin
            · rcases List.mem_cons.mp hin with rfl | hin
              · exact .inr List.mem_cons_self
              · exact .inl hin
            · exact .inr (List.mem_cons_of_mem _ hin)
          · intro j l hin
            rcases List.mem_cons.mp hin with hjl | hin
            · cases hjl
              refine ⟨fun _ => ⟨fun j hj hafter => ?_, hfree.1⟩,
                fun _ => hsettled.keeps _ List.mem_cons_self⟩
              rcases hsettled.adds _ hafter with hin | hin
              · rcases List.mem_cons.mp hin with heq | hin
                · cases heq
                  exact lt_irrefl _ hj
                · exact hfree.2 j hin
              · exact absurd (hi _ hin) (not_lt_of_gt hj)
            · exact hsettled.decides hin

end

end Renumbering

end CallingAgent.Lib
