import CallingAgent.Lib.SortedSet

/-!
# Ledgers — balances beside the entries they sum up

An entry is booked on an account under a key of its own. The balance of
each account is kept in a second table and moved with every entry, so that
it can be read and bounded without a scan. What has to be kept is that it
is the sum of the account's entries.
-/

namespace CallingAgent.Lib

structure Entry (α : Type) where
  account : α
  amount : Rat
  deriving DecidableEq

section Ledger

variable {κ α : Type} [DecidableEq κ] [DecidableEq α]

/-- What an entry is worth to an account. -/
def Entry.on (e : Entry α) (a : α) : Rat :=
  if e.account = a then e.amount else 0

/-- The sum of an account's entries. -/
def booked (t : Table κ (Entry α)) (a : α) : Rat :=
  t.entries.foldr (fun e sum => e.2.on a + sum) 0

/-- The balance of an account; nothing was ever moved on one without. -/
def balance (l : Table α Rat) (a : α) : Rat :=
  (AList.lookup a l).getD 0

def credit (l : Table α Rat) (a : α) (x : Rat) : Table α Rat :=
  AList.insert a (balance l a + x) l

/-- A balance is taken down, not below zero. -/
def debit (l : Table α Rat) (a : α) (x : Rat) : Table α Rat :=
  l.modify a fun r => if r - x < 0 then 0 else r - x

/-! ## Sums -/

theorem booked_erase {t : Table κ (Entry α)} {k : κ} {e : Entry α}
    (h : AList.lookup k t = some e) (a : α) :
    booked t a = booked (AList.erase k t) a + e.on a := by
  obtain ⟨l, hl⟩ := t
  simp only [AList.lookup, booked, Table.entries_erase] at h ⊢
  induction l with
  | nil => simp at h
  | cons f l ih =>
    obtain ⟨k', e'⟩ := f
    by_cases hk : k = k'
    · subst hk
      rw [List.dlookup_cons_eq] at h
      cases h
      have hrest : List.kerase k
          (⟨k, e⟩ :: l : List (Sigma fun _ : κ => Entry α)) = l :=
        List.kerase_cons_eq rfl
      rw [hrest, List.foldr_cons]
      exact Rat.add_comm _ _
    · rw [List.dlookup_cons_ne _ _ hk] at h
      have ih := ih (List.nodupKeys_cons.mp hl).2 h
      rw [List.kerase_cons_ne hk, List.foldr_cons, List.foldr_cons, ih,
        Rat.add_assoc]

/-- An entry takes the place of the one under its key. -/
theorem booked_insert (t : Table κ (Entry α)) (k : κ) (e : Entry α) (a : α) :
    booked (AList.insert k e t) a
        + ((AList.lookup k t).map (·.on a)).getD 0
      = booked t a + e.on a := by
  have hnew : booked (AList.insert k e t) a
      = e.on a + booked (AList.erase k t) a := by
    simp only [booked, AList.entries_insert, List.foldr_cons]
    rfl
  cases h : AList.lookup k t with
  | none =>
      rw [hnew, Table.erase_absent h, Option.map_none, Option.getD_none]
      grind
  | some old =>
      rw [hnew, booked_erase h, Option.map_some, Option.getD_some]
      grind

theorem on_nonneg {e : Entry α} (h : 0 ≤ e.amount) (a : α) : 0 ≤ e.on a := by
  unfold Entry.on
  split
  · exact h
  · exact Rat.le_refl

theorem booked_nonneg {t : Table κ (Entry α)}
    (h : ∀ k e, AList.lookup k t = some e → 0 ≤ e.amount) (a : α) :
    0 ≤ booked t a := by
  have hmem : ∀ e ∈ t.entries, 0 ≤ e.2.amount := fun e he =>
    h e.1 e.2 (AList.mem_lookup_iff.mpr he)
  unfold booked
  generalize t.entries = l at hmem
  induction l with
  | nil => exact Rat.le_refl
  | cons e l ih =>
      have hrest := ih fun f hf => hmem f (List.mem_cons_of_mem e hf)
      have hfirst := on_nonneg (hmem e (List.mem_cons_self ..)) a
      rw [List.foldr_cons]
      grind

/-! ## Balanced ledgers -/

/-- **The invariant.** Each balance is the sum of the account's entries, and
no entry is negative. -/
structure InBalance (l : Table α Rat) (t : Table κ (Entry α)) : Prop where
  sum : ∀ a, balance l a = booked t a
  amounts : ∀ k e, AList.lookup k t = some e → 0 ≤ e.amount

theorem InBalance.empty : InBalance (∅ : Table α Rat)
    (∅ : Table κ (Entry α)) where
  sum a := by simp [balance, booked]
  amounts k e h := by simp at h

variable {l : Table α Rat} {t : Table κ (Entry α)}

theorem InBalance.nonneg (h : InBalance l t) (a : α) : 0 ≤ balance l a := by
  rw [h.sum]
  exact booked_nonneg h.amounts a

/-- An entry is within its account. -/
theorem InBalance.amount_le (h : InBalance l t) {k : κ} {e : Entry α}
    (hk : AList.lookup k t = some e) : e.amount ≤ balance l e.account := by
  have hrest : 0 ≤ booked (AList.erase k t) e.account := by
    apply booked_nonneg
    intro k' e' hk'
    by_cases hkk : k' = k
    · rw [hkk, AList.lookup_erase] at hk'
      cases hk'
    · rw [AList.lookup_erase_ne hkk] at hk'
      exact h.amounts k' e' hk'
  have hsum := booked_erase hk e.account
  have hon : e.on e.account = e.amount := if_pos rfl
  rw [h.sum]
  grind

theorem balance_credit (l : Table α Rat) (a a' : α) (x : Rat) :
    balance (credit l a x) a'
      = if a' = a then balance l a + x else balance l a' := by
  unfold balance credit
  rw [Table.lookup_insert']
  split <;> rfl

/-- **Booking.** A new entry is credited to its account. -/
theorem InBalance.book (h : InBalance l t) {k : κ} {e : Entry α}
    (hk : AList.lookup k t = none) (he : 0 ≤ e.amount) :
    InBalance (credit l e.account e.amount) (AList.insert k e t) where
  sum a := by
    have hins := booked_insert t k e a
    rw [hk, Option.map_none, Option.getD_none] at hins
    rw [balance_credit]
    split
    · next ha =>
      have hon : e.on a = e.amount := if_pos ha.symm
      rw [← ha, h.sum]
      grind
    · next ha =>
      have hon : e.on a = 0 := if_neg fun hea => ha hea.symm
      rw [h.sum]
      grind
  amounts k' e' hk' := by
    rw [Table.lookup_insert'] at hk'
    split at hk'
    · cases hk'
      exact he
    · exact h.amounts k' e' hk'

/-- A balance that covers what is taken is taken down by just that. -/
theorem balance_debit {a : α} {x : Rat} (hx : x ≤ balance l a) (a' : α) :
    balance (debit l a x) a'
      = if a' = a then (if (AList.lookup a l).isSome then balance l a - x
          else 0) else balance l a' := by
  unfold balance debit at *
  rw [Table.lookup_modify]
  by_cases ha : a' = a
  · subst ha
    rw [if_pos rfl, if_pos rfl]
    cases hl : AList.lookup a' l with
    | none => rfl
    | some r =>
        rw [hl, Option.getD_some] at hx
        have hnot : ¬ r - x < 0 := by grind
        rw [Option.map_some, Option.isSome_some, if_pos rfl, Option.getD_some,
          Option.getD_some, if_neg hnot]
  · rw [if_neg ha, if_neg ha]

/-- **Freeing.** An entry is taken down to zero together with its account. -/
theorem InBalance.free (h : InBalance l t) {k : κ} {e : Entry α}
    (hk : AList.lookup k t = some e) :
    InBalance (debit l e.account e.amount)
      (AList.insert k { e with amount := 0 } t) where
  sum a := by
    have hins := booked_insert t k { e with amount := 0 } a
    rw [hk, Option.map_some, Option.getD_some] at hins
    have hle := h.amount_le hk
    have hnew : Entry.on { e with amount := 0 } a = 0 := by
      unfold Entry.on
      split <;> rfl
    rw [balance_debit hle]
    split
    · next ha =>
      have hon : e.on a = e.amount := if_pos ha.symm
      have hsum := h.sum a
      rw [← ha] at hle ⊢
      split
      · grind
      · next hl =>
        have hzero : balance l a = 0 := by
          simp only [balance]
          cases hlook : AList.lookup a l with
          | none => rfl
          | some r => rw [hlook] at hl; exact absurd rfl hl
        have hpos := h.amounts k e hk
        grind
    · next ha =>
      have hon : e.on a = 0 := if_neg fun hea => ha hea.symm
      rw [h.sum]
      grind
  amounts k' e' hk' := by
    rw [Table.lookup_insert'] at hk'
    split at hk'
    · cases hk'
      exact Rat.le_refl
    · exact h.amounts k' e' hk'

end Ledger

end CallingAgent.Lib
