import CallingAgent.Model.Phone
import CallingAgent.Model.Records
import Mathlib.Data.List.Nodup

/-!
# The do-not-call table

One row per suppressed number. Both unique constraints of the table are
fields of its type: no two rows share a number, and no two rows that name
a contact name the same one. Every writer inserts with `ON CONFLICT DO
NOTHING`, so an insert that meets either constraint records nothing.
-/

namespace CallingAgent

structure SuppressionTable where
  rows : List Suppression := []
  /-- `uq_suppression_phone_number` -/
  phoneUnique : (rows.map (·.phoneNumber)).Nodup := by simp
  /-- `uq_suppression_contact_id` -/
  contactUnique : (rows.filterMap (·.contactId)).Nodup := by simp

namespace SuppressionTable

/-- Nobody is suppressed. -/
def empty : SuppressionTable := {}

variable (t : SuppressionTable)

/-- A row under this number exists. -/
def hasPhone (number : String) : Bool :=
  t.rows.any fun r => r.phoneNumber == number

/-- A row naming this contact exists. -/
def hasContact (contact : ContactId) : Bool :=
  t.rows.any fun r => r.contactId == some contact

/-- The row an insert would meet under the contact constraint. -/
def hasLink : Option ContactId → Bool
  | none => false
  | some c => t.hasContact c

theorem hasPhone_iff {number : String} :
    t.hasPhone number = true ↔ number ∈ t.rows.map (·.phoneNumber) := by
  simp only [hasPhone, List.any_eq_true, beq_iff_eq, List.mem_map]

theorem hasContact_iff {c : ContactId} :
    t.hasContact c = true ↔ c ∈ t.rows.filterMap (·.contactId) := by
  simp only [hasContact, List.any_eq_true, beq_iff_eq, List.mem_filterMap]

/-- The insert of one row with `on_conflict_do_nothing`: the table after
it, and whether the row was inserted. -/
def insertRow (r : Suppression) : SuppressionTable × Bool :=
  if h : t.hasPhone r.phoneNumber = false ∧ t.hasLink r.contactId = false then
    ({ rows := r :: t.rows
       phoneUnique := by
         rw [List.map_cons, List.nodup_cons]
         refine ⟨?_, t.phoneUnique⟩
         rw [← hasPhone_iff, h.1]
         exact Bool.false_ne_true
       contactUnique := by
         cases hc : r.contactId with
         | none =>
             rw [List.filterMap_cons_none hc]
             exact t.contactUnique
         | some c =>
             rw [List.filterMap_cons_some hc, List.nodup_cons]
             refine ⟨?_, t.contactUnique⟩
             have := h.2
             rw [hc] at this
             rw [← hasContact_iff]
             simpa [hasLink] using this }, true)
  else (t, false)

theorem insertRow_inserted {r : Suppression}
    (hp : t.hasPhone r.phoneNumber = false)
    (hc : t.hasLink r.contactId = false) :
    (t.insertRow r).1.rows = r :: t.rows ∧ (t.insertRow r).2 = true := by
  simp [insertRow, hp, hc]

theorem insertRow_conflict {r : Suppression}
    (h : t.hasPhone r.phoneNumber = true ∨ t.hasLink r.contactId = true) :
    t.insertRow r = (t, false) := by
  unfold insertRow
  rw [dif_neg]
  rintro ⟨hp, hc⟩
  rcases h with h | h
  · rw [hp] at h; cases h
  · rw [hc] at h; cases h

/-- **What an insert records.** A number is present afterwards exactly
when it was before, or it is the row's own and neither constraint was
met. -/
theorem hasPhone_insertRow (r : Suppression) (number : String) :
    (t.insertRow r).1.hasPhone number = true ↔
      t.hasPhone number = true ∨
      (number = r.phoneNumber ∧ t.hasLink r.contactId = false) := by
  by_cases hp : t.hasPhone r.phoneNumber = true
  · rw [insertRow_conflict t (.inl hp)]
    constructor
    · exact .inl
    · rintro (h | ⟨rfl, _⟩)
      · exact h
      · exact hp
  by_cases hc : t.hasLink r.contactId = true
  · rw [insertRow_conflict t (.inr hc)]
    simp [hc]
  · have hrows := (insertRow_inserted t (by simpa using hp)
      (by simpa using hc)).1
    have hc' : t.hasLink r.contactId = false := by simpa using hc
    simp only [hasPhone, hrows, List.any_cons, Bool.or_eq_true, beq_iff_eq, hc',
      and_true]
    constructor
    · rintro (h | h)
      · exact .inr h.symm
      · exact .inl h
    · rintro (h | h)
      · exact .inr h
      · exact .inl h.symm

/-- An insert never removes a number. -/
theorem hasPhone_insertRow_mono {r : Suppression} {number : String}
    (h : t.hasPhone number = true) :
    (t.insertRow r).1.hasPhone number = true :=
  (t.hasPhone_insertRow r number).mpr (.inl h)

end SuppressionTable

section Repository

variable (env : Env)

/-- `SuppressionRepository.is_suppressed` -/
def SuppressionTable.isSuppressed (t : SuppressionTable) (number : String) :
    Bool :=
  t.hasPhone (canonicalNumber env number)

/-- `SuppressionRepository.insert_if_absent` -/
def SuppressionTable.insertIfAbsent (t : SuppressionTable) (number : String)
    (source : SuppressionSource) (reason : Option String)
    (contactId : Option ContactId := none) (createdBy : Option String := none) :
    SuppressionTable × Bool :=
  t.insertRow
    { contactId, phoneNumber := canonicalNumber env number, reason, source,
      createdBy }

/-- **The read after the write.** `is_suppressed` answers yes for the
number just written exactly when it did before or the row's contact had no
row of its own. -/
theorem isSuppressed_insertIfAbsent (t : SuppressionTable) (number : String)
    (source : SuppressionSource) (reason : Option String)
    (contactId : Option ContactId) (createdBy : Option String) :
    (t.insertIfAbsent env number source reason contactId createdBy).1.isSuppressed
        env number = true ↔
      t.isSuppressed env number = true ∨ t.hasLink contactId = false := by
  unfold SuppressionTable.isSuppressed SuppressionTable.insertIfAbsent
  rw [SuppressionTable.hasPhone_insertRow]
  simp

end Repository

end CallingAgent
