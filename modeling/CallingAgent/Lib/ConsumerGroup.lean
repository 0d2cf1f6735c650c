import CallingAgent.Lib.Statements

/-!
# Consumer groups — one stream, read by many

Entries are appended under increasing ids. The group hands each of them to
one consumer, in order, and keeps it pending until it is acknowledged; an
entry that has been pending for long may be handed to another consumer.
The group keeps track of the stream when its pending entries are exactly
those it handed out that are still there.
-/

namespace CallingAgent.Lib

/-- What the group knows of an entry it handed out. -/
structure Delivery (γ : Type) where
  consumer : γ
  deliveredAt : Nat
  times : Nat

structure GroupStream (γ α : Type) where
  entries : Table Nat α := ∅
  /-- the last id given out -/
  lastId : Nat := 0
  /-- the last id handed to a consumer -/
  lastDelivered : Nat := 0
  pending : Table Nat (Delivery γ) := ∅

namespace GroupStream

variable {γ α : Type} (s : GroupStream γ α)

/-! ## Commands -/

/-- `XLEN` -/
def length : Nat := s.entries.entries.length

/-- `XADD` under the next id. -/
def add (a : α) : GroupStream γ α :=
  { s with entries := AList.insert (s.lastId + 1) a s.entries
           lastId := s.lastId + 1 }

/-- `XACK` -/
def acknowledge (m : Nat) : GroupStream γ α :=
  { s with pending := AList.erase m s.pending }

/-- `XDEL` -/
def delete (m : Nat) : GroupStream γ α :=
  { s with entries := AList.erase m s.entries }

/-- Acknowledged and deleted in one transaction. -/
def settle (m : Nat) : GroupStream γ α := (s.acknowledge m).delete m

/-- The oldest entry the group has not handed out. -/
def next : Option (Nat × α) :=
  (s.entries.sortedKeys.find? fun m => Nat.blt s.lastDelivered m).bind fun m =>
    (AList.lookup m s.entries).map fun a => (m, a)

/-- `XREADGROUP … COUNT 1 STREAMS … >` -/
def readNew (c : γ) (now : Nat) : GroupStream γ α × Option (Nat × α) :=
  match s.next with
  | some (m, a) =>
      ({ s with lastDelivered := m
                pending := AList.insert m ⟨c, now, 1⟩ s.pending }, some (m, a))
  | none => (s, none)

/-- `XPENDING … m m 1`: how often the entry was handed out. -/
def times (m : Nat) : Option Nat := (AList.lookup m s.pending).map (·.times)

/-- One entry changes hands; one that is no longer there is forgotten. -/
def handOver (d : Delivery γ → Delivery γ) (m : Nat) : GroupStream γ α :=
  match AList.lookup m s.entries with
  | some _ => { s with pending := s.pending.modify m d }
  | none => s.acknowledge m

/-- `XCLAIM … 0 m RETRYCOUNT n JUSTID` -/
def setTimes (c : γ) (now m n : Nat) : GroupStream γ α :=
  s.handOver (fun _ => ⟨c, now, n⟩) m

/-- The pending entries an `XAUTOCLAIM` finds: it looks at ten times as many
as it may answer with. -/
def stale (now idle count : Nat) : List Nat :=
  ((s.pending.sortedKeys.take (10 * count)).filter fun m =>
    (AList.lookup m s.entries).isNone
      || (AList.lookup m s.pending).any fun d =>
          Nat.ble (d.deliveredAt + idle) now).take count

/-- `XAUTOCLAIM … idle 0 COUNT count` -/
def autoclaim (c : γ) (now idle count : Nat) :
    GroupStream γ α × List (Nat × α) :=
  let claimed := s.stale now idle count
  (claimed.foldl (fun s m => s.handOver (fun d => ⟨c, now, d.times + 1⟩) m) s,
    claimed.filterMap fun m => (AList.lookup m s.entries).map fun a => (m, a))

/-! ## What they answer -/

variable {s}

theorem next_some {m : Nat} {a : α} (h : s.next = some (m, a)) :
    AList.lookup m s.entries = some a ∧ s.lastDelivered < m ∧
      ∀ m' a', AList.lookup m' s.entries = some a' →
        s.lastDelivered < m' → m ≤ m' := by
  obtain ⟨k, hk, h⟩ := Option.bind_eq_some_iff.mp h
  obtain ⟨a', ha, h⟩ := Option.map_eq_some_iff.mp h
  cases h
  obtain ⟨hnew, hleast⟩ := Table.find_sortedKeys hk
  refine ⟨ha, by simpa using hnew, fun m' a' hm' hlt => ?_⟩
  exact hleast m' (by rw [hm']; rfl) (by simpa using hlt)

/-- A read hands out an entry that is there and was not handed out. -/
theorem readNew_some {c : γ} {now m : Nat} {a : α}
    (h : (s.readNew c now).2 = some (m, a)) :
    AList.lookup m s.entries = some a ∧ s.lastDelivered < m := by
  unfold readNew at h
  split at h
  · next m' a' hnext =>
    cases h
    exact ⟨(next_some hnext).1, (next_some hnext).2.1⟩
  · cases h

/-- A claim answers with entries that are there. -/
theorem mem_autoclaim {c : γ} {now idle count m : Nat} {a : α}
    (h : (m, a) ∈ (s.autoclaim c now idle count).2) :
    AList.lookup m s.entries = some a := by
  obtain ⟨k, -, hk⟩ := List.mem_filterMap.mp h
  obtain ⟨a', ha, hk⟩ := Option.map_eq_some_iff.mp hk
  cases hk
  exact ha

/-! ## What they leave alone -/

@[simp] theorem readNew_entries (c : γ) (now : Nat) :
    (s.readNew c now).1.entries = s.entries ∧
    (s.readNew c now).1.lastId = s.lastId := by
  unfold readNew
  split
  · exact ⟨rfl, rfl⟩
  · exact ⟨rfl, rfl⟩

@[simp] theorem handOver_entries (d : Delivery γ → Delivery γ) (m : Nat) :
    (s.handOver d m).entries = s.entries ∧
    (s.handOver d m).lastId = s.lastId := by
  unfold handOver
  split
  · exact ⟨rfl, rfl⟩
  · exact ⟨rfl, rfl⟩

theorem foldl_handOver_entries (d : Delivery γ → Delivery γ) (ms : List Nat) :
    (ms.foldl (fun s m => s.handOver d m) s).entries = s.entries ∧
    (ms.foldl (fun s m => s.handOver d m) s).lastId = s.lastId := by
  induction ms generalizing s with
  | nil => exact ⟨rfl, rfl⟩
  | cons m ms ih =>
    obtain ⟨he, hl⟩ := ih (s := s.handOver d m)
    exact ⟨he.trans (handOver_entries d m).1, hl.trans (handOver_entries d m).2⟩

@[simp] theorem autoclaim_entries (c : γ) (now idle count : Nat) :
    (s.autoclaim c now idle count).1.entries = s.entries ∧
    (s.autoclaim c now idle count).1.lastId = s.lastId :=
  foldl_handOver_entries _ _

/-! ## Who stays pending -/

/-- A read makes the entry pending that it answers with. -/
theorem readNew_pending (c : γ) (now m : Nat) :
    (AList.lookup m (s.readNew c now).1.pending).isSome ↔
      (AList.lookup m s.pending).isSome ∨
        ∃ a, (s.readNew c now).2 = some (m, a) := by
  unfold readNew
  cases s.next with
  | none => simp
  | some e =>
      obtain ⟨k, a⟩ := e
      dsimp only
      rw [Table.lookup_insert']
      by_cases hk : m = k
      · subst hk
        simp
      · rw [if_neg hk]
        refine ⟨.inl, fun h => h.resolve_right ?_⟩
        rintro ⟨_, h⟩
        cases h
        exact hk rfl

/-- Handing one entry over makes no other pending, and drops none that is
still there. -/
theorem handOver_pending (d : Delivery γ → Delivery γ) (m m' : Nat) :
    ((AList.lookup m' (s.handOver d m).pending).isSome →
      (AList.lookup m' s.pending).isSome) ∧
    ((AList.lookup m' s.entries).isSome → (AList.lookup m' s.pending).isSome →
      (AList.lookup m' (s.handOver d m).pending).isSome) := by
  unfold handOver
  split
  · have hmod : (AList.lookup m' (s.pending.modify m d)).isSome
        = (AList.lookup m' s.pending).isSome := by
      rw [Table.lookup_modify]
      split
      · rw [Option.isSome_map]
      · rfl
    exact ⟨fun h => hmod ▸ h, fun _ h => hmod.symm ▸ h⟩
  · next hgone =>
    have hack : AList.lookup m' (s.acknowledge m).pending
        = if m' = m then none else AList.lookup m' s.pending :=
      Table.lookup_put _ _ _ none
    rw [hack]
    by_cases hm : m' = m
    · subst hm
      rw [hgone, if_pos rfl]
      exact ⟨fun h => (by cases h), fun h => (by cases h)⟩
    · rw [if_neg hm]
      exact ⟨id, fun _ h => h⟩

theorem foldl_handOver_pending (d : Delivery γ → Delivery γ) (ms : List Nat)
    (m : Nat) :
    ((AList.lookup m (ms.foldl (fun s k => s.handOver d k) s).pending).isSome →
      (AList.lookup m s.pending).isSome) ∧
    ((AList.lookup m s.entries).isSome → (AList.lookup m s.pending).isSome →
      (AList.lookup m
        (ms.foldl (fun s k => s.handOver d k) s).pending).isSome) := by
  induction ms generalizing s with
  | nil => exact ⟨id, fun _ h => h⟩
  | cons k ms ih =>
      obtain ⟨hof, hto⟩ := ih (s := s.handOver d k)
      obtain ⟨hof', hto'⟩ := handOver_pending (s := s) d k m
      refine ⟨fun h => hof' (hof h), fun hin h => hto ?_ (hto' hin h)⟩
      rw [(handOver_entries d k).1]
      exact hin

/-- What a claim answers with is pending, and stays so. -/
theorem autoclaim_claimed {c : γ} {now idle count m : Nat} {a : α}
    (h : (m, a) ∈ (s.autoclaim c now idle count).2) :
    (AList.lookup m s.pending).isSome ∧
      (AList.lookup m (s.autoclaim c now idle count).1.pending).isSome := by
  have hentry : (AList.lookup m s.entries).isSome := by
    rw [mem_autoclaim h]
    rfl
  obtain ⟨k, hk, hkm⟩ := List.mem_filterMap.mp h
  obtain ⟨a', -, hpair⟩ := Option.map_eq_some_iff.mp hkm
  cases hpair
  have hkey : (AList.lookup m s.pending).isSome :=
    Table.mem_sortedKeys.mp (List.mem_of_mem_take
      (List.mem_filter.mp (List.mem_of_mem_take hk)).1)
  exact ⟨hkey, (foldl_handOver_pending _ _ m).2 hentry hkey⟩

theorem autoclaim_pending {c : γ} {now idle count m : Nat} :
    ((AList.lookup m (s.autoclaim c now idle count).1.pending).isSome →
      (AList.lookup m s.pending).isSome) ∧
    ((AList.lookup m s.entries).isSome → (AList.lookup m s.pending).isSome →
      (AList.lookup m (s.autoclaim c now idle count).1.pending).isSome) :=
  foldl_handOver_pending _ _ m

theorem lookup_add (a : α) (m : Nat) :
    AList.lookup m (s.add a).entries
      = if m = s.lastId + 1 then some a else AList.lookup m s.entries :=
  Table.lookup_insert' _ _ _ _

theorem lookup_delete (m m' : Nat) :
    AList.lookup m' (s.delete m).entries
      = if m' = m then none else AList.lookup m' s.entries :=
  Table.lookup_put _ _ _ none

theorem pending_acknowledge (m m' : Nat) :
    AList.lookup m' (s.acknowledge m).pending
      = if m' = m then none else AList.lookup m' s.pending :=
  Table.lookup_put _ _ _ none

theorem lookup_settle (m m' : Nat) :
    AList.lookup m' (s.settle m).entries
      = if m' = m then none else AList.lookup m' s.entries :=
  lookup_delete m m'

theorem pending_settle (m m' : Nat) :
    AList.lookup m' (s.settle m).pending
      = if m' = m then none else AList.lookup m' s.pending :=
  pending_acknowledge m m'

/-! ## The group keeps track of the stream -/

/-- The ids are in order, and an entry that was handed out is pending as
long as it is there, and no longer. -/
structure Tracks (s : GroupStream γ α) : Prop where
  issued : ∀ {m a}, AList.lookup m s.entries = some a → m ≤ s.lastId
  handed : s.lastDelivered ≤ s.lastId
  stored : ∀ {m d}, AList.lookup m s.pending = some d →
    (AList.lookup m s.entries).isSome ∧ m ≤ s.lastDelivered
  inFlight : ∀ {m a}, AList.lookup m s.entries = some a →
    m ≤ s.lastDelivered → (AList.lookup m s.pending).isSome

namespace Tracks

theorem empty : Tracks ({} : GroupStream γ α) where
  issued h := by simp at h
  handed := Nat.le_refl _
  stored h := by simp at h
  inFlight h := by simp at h

/-- Every entry is unread or pending. -/
theorem unread_or_pending (h : s.Tracks) {m : Nat} {a : α}
    (hm : AList.lookup m s.entries = some a) :
    s.lastDelivered < m ∨ (AList.lookup m s.pending).isSome := by
  by_cases hread : m ≤ s.lastDelivered
  · exact .inr (h.inFlight hm hread)
  · exact .inl (Nat.lt_of_not_le hread)

protected theorem add (h : s.Tracks) (a : α) : (s.add a).Tracks where
  issued {m b} hm := by
    rw [lookup_add] at hm
    by_cases hnew : m = s.lastId + 1
    · exact Nat.le_of_eq hnew
    · rw [if_neg hnew] at hm
      exact Nat.le_succ_of_le (h.issued hm)
  handed := Nat.le_succ_of_le h.handed
  stored {m d} hm := by
    obtain ⟨hin, hle⟩ := h.stored hm
    refine ⟨?_, hle⟩
    rw [lookup_add]
    split
    · rfl
    · exact hin
  inFlight {m b} hm hle := by
    rw [lookup_add, if_neg ?_] at hm
    · exact h.inFlight hm hle
    · intro hnew
      have hle : m ≤ s.lastDelivered := hle
      have := h.handed
      omega

protected theorem settle (h : s.Tracks) (m : Nat) : (s.settle m).Tracks where
  issued {k a} hk := by
    rw [lookup_settle] at hk
    split at hk
    · cases hk
    · exact h.issued hk
  handed := h.handed
  stored {k d} hk := by
    rw [pending_settle] at hk
    rw [lookup_settle]
    by_cases hkm : k = m
    · simp [hkm] at hk
    · rw [if_neg hkm] at hk ⊢
      exact h.stored hk
  inFlight {k a} hk hle := by
    rw [lookup_settle] at hk
    rw [pending_settle]
    by_cases hkm : k = m
    · simp [hkm] at hk
    · rw [if_neg hkm] at hk ⊢
      exact h.inFlight hk hle

protected theorem readNew (h : s.Tracks) (c : γ) (now : Nat) :
    (s.readNew c now).1.Tracks := by
  unfold readNew
  split
  · next m a hnext =>
    obtain ⟨hm, hnew, hleast⟩ := next_some hnext
    exact {
      issued := h.issued
      handed := h.issued hm
      stored := fun {k d} hk => by
        rw [Table.lookup_insert'] at hk
        by_cases hkm : k = m
        · subst hkm
          exact ⟨by rw [hm]; rfl, Nat.le_refl _⟩
        · rw [if_neg hkm] at hk
          obtain ⟨hin, hle⟩ := h.stored hk
          exact ⟨hin, Nat.le_trans hle (Nat.le_of_lt hnew)⟩
      inFlight := fun {k b} hk hle => by
        rw [Table.lookup_insert']
        by_cases hkm : k = m
        · rw [if_pos hkm]
          rfl
        · -- nothing between the last entry handed out and this one
          rw [if_neg hkm]
          refine h.inFlight hk (Nat.le_of_not_lt fun hlt => hkm ?_)
          exact Nat.le_antisymm hle (hleast k b hk hlt) }
  · exact h

/-- Forgetting an entry that is no longer there. -/
protected theorem acknowledge (h : s.Tracks) {m : Nat}
    (hgone : AList.lookup m s.entries = none) : (s.acknowledge m).Tracks where
  issued := h.issued
  handed := h.handed
  stored {k d} hk := by
    rw [pending_acknowledge] at hk
    split at hk
    · cases hk
    · exact h.stored hk
  inFlight {k a} hk hle := by
    have hin : AList.lookup k s.entries = some a := hk
    have hkm : k ≠ m := by
      rintro rfl
      rw [hgone] at hin
      cases hin
    rw [pending_acknowledge, if_neg hkm]
    exact h.inFlight hin hle

protected theorem handOver (h : s.Tracks) (d : Delivery γ → Delivery γ)
    (m : Nat) : (s.handOver d m).Tracks := by
  unfold handOver
  split
  · exact {
      issued := h.issued
      handed := h.handed
      stored := fun {k x} hk => by
        rw [Table.lookup_modify] at hk
        split at hk
        · obtain ⟨y, hy, -⟩ := Option.map_eq_some_iff.mp hk
          exact h.stored hy
        · exact h.stored hk
      inFlight := fun {k a} hk hle => by
        have hp := h.inFlight hk hle
        rw [Table.lookup_modify]
        split
        · rw [Option.isSome_map]
          exact hp
        · exact hp }
  · next hgone => exact h.acknowledge hgone

protected theorem setTimes (h : s.Tracks) (c : γ) (now m n : Nat) :
    (s.setTimes c now m n).Tracks := h.handOver _ m

protected theorem autoclaim (h : s.Tracks) (c : γ) (now idle count : Nat) :
    (s.autoclaim c now idle count).1.Tracks := by
  unfold autoclaim
  dsimp only
  generalize s.stale now idle count = ms
  induction ms generalizing s with
  | nil => exact h
  | cons m ms ih => exact ih (h.handOver _ m)

end Tracks

end GroupStream

end CallingAgent.Lib
