import CallingAgent.Conversation.Policy
import CallingAgent.Lib.Run
import CallingAgent.Lib.SortedSet
import CallingAgent.Model.Records
import Mathlib.Data.List.MinMax

/-!
# Memory store — snapshots in Postgres, the latest one cached in Redis

A checkpoint inserts a row and then stores the same dictionary, as JSON,
under a key that lives for an hour; that a write of the cache failed is
only logged. A load takes what the cache has, and the latest row
otherwise. JSON has no enumerations: their values come back as text.
-/

namespace CallingAgent

open Lib

/-! ## Memory -/

inductive RecordingConsent where
  | granted
  | denied
  | unclear
  | notApplicable
  deriving DecidableEq, Repr

def RecordingConsent.value : RecordingConsent → String
  | .granted => "granted"
  | .denied => "denied"
  | .unclear => "unclear"
  | .notApplicable => "not_applicable"

def ConversationPhase.value : ConversationPhase → String
  | .opening => "Opening"
  | .discovery => "Discovery"
  | .objectionHandling => "ObjectionHandling"
  | .closing => "Closing"
  | .wrapUp => "WrapUp"

/-- `ConversationPhase(value)`; `none` is the `ValueError`. -/
def ConversationPhase.ofValue (s : String) : Option ConversationPhase :=
  [ConversationPhase.opening, .discovery, .objectionHandling, .closing,
    .wrapUp].find? fun p => p.value == s

@[simp] theorem ConversationPhase.ofValue_value (p : ConversationPhase) :
    ConversationPhase.ofValue p.value = some p := by
  cases p <;> decide

structure ScriptProgress where
  phase : ConversationPhase := .opening
  completedPoints : List String := []
  pendingPoints : List String := []
  deriving DecidableEq, Repr

structure ObjectionRecord where
  objection : String
  addressed : Bool := false
  deriving DecidableEq, Repr

/-- The value of a field that is declared as an enumeration, as Python may
hold it. -/
inductive ConsentValue where
  | member (c : RecordingConsent)
  | text (s : String)
  deriving DecidableEq, Repr

/-- `WorkingMemory`, by what `recording_consent` holds. -/
structure MemoryOf (consent : Type) where
  attemptId : AttemptId
  contactId : ContactId
  capturedEntities : List (String × String) := []
  scriptProgress : ScriptProgress := {}
  objectionsRaised : List ObjectionRecord := []
  lastAgentUtterance : Option String := none
  disconnectCount : Nat := 0
  requiresSuppression : Bool := false
  recordingConsent : consent
  schemaVersion : String := "v1"
  deriving DecidableEq, Repr

/-- A memory with its declared types. -/
abbrev CallMemory := MemoryOf RecordingConsent

/-- The same object, as far as a reader can tell. -/
def CallMemory.asLoaded (m : CallMemory) : MemoryOf ConsentValue :=
  { m with recordingConsent := .member m.recordingConsent }

/-! ## Dictionaries -/

/-- `ScriptProgress.to_dict()`; a key may be missing in an older one. -/
structure ProgressDict where
  phase : Option String
  completedPoints : Option (List String)
  pendingPoints : Option (List String)

def ScriptProgress.toDict (p : ScriptProgress) : ProgressDict where
  phase := some p.phase.value
  completedPoints := some p.completedPoints
  pendingPoints := some p.pendingPoints

/-- What a decoder can raise. -/
inductive DecodeError where
  | keyError
  | valueError
  deriving DecidableEq, Repr

/-- `ScriptProgress.from_dict` -/
def ScriptProgress.fromDict (d : ProgressDict) :
    Except DecodeError ScriptProgress :=
  match ConversationPhase.ofValue
      (d.phase.getD ConversationPhase.opening.value) with
  | some phase => .ok
      ⟨phase, d.completedPoints.getD [], d.pendingPoints.getD []⟩
  | none => .error .valueError

structure ObjectionDict where
  objection : Option String
  addressed : Option Bool

def ObjectionRecord.toDict (o : ObjectionRecord) : ObjectionDict where
  objection := some o.objection
  addressed := some o.addressed

/-- `ObjectionRecord.from_dict` -/
def ObjectionRecord.fromDict (d : ObjectionDict) :
    Except DecodeError ObjectionRecord :=
  match d.objection with
  | some objection => .ok ⟨objection, d.addressed.getD false⟩
  | none => .error .keyError

/-- `to_snapshot_dict()`, by what `recording_consent` holds in it. -/
structure SnapshotDict (consent : Type) where
  capturedEntities : List (String × String)
  scriptProgress : ProgressDict
  objectionsRaised : List ObjectionDict
  lastAgentUtterance : Option String
  disconnectCount : Nat
  requiresSuppression : Bool
  recordingConsent : consent
  schemaVersion : String

def CallMemory.toSnapshotDict (m : CallMemory) :
    SnapshotDict RecordingConsent where
  capturedEntities := m.capturedEntities
  scriptProgress := m.scriptProgress.toDict
  objectionsRaised := m.objectionsRaised.map ObjectionRecord.toDict
  lastAgentUtterance := m.lastAgentUtterance
  disconnectCount := m.disconnectCount
  requiresSuppression := m.requiresSuppression
  recordingConsent := m.recordingConsent
  schemaVersion := m.schemaVersion

/-- `json.loads(json.dumps(·))`: an enumeration becomes its value. -/
def SnapshotDict.json (d : SnapshotDict RecordingConsent) :
    SnapshotDict String :=
  { d with recordingConsent := d.recordingConsent.value }

/-- The fields both decoders read alike. -/
def SnapshotDict.decode {γ : Type} (d : SnapshotDict γ)
    (consent : γ → ConsentValue) (attemptId : AttemptId)
    (contactId : ContactId) : Except DecodeError (MemoryOf ConsentValue) :=
  match ScriptProgress.fromDict d.scriptProgress,
      d.objectionsRaised.mapM ObjectionRecord.fromDict with
  | .ok scriptProgress, .ok objectionsRaised => .ok
      { attemptId, contactId, scriptProgress, objectionsRaised
        capturedEntities := d.capturedEntities
        lastAgentUtterance := d.lastAgentUtterance
        disconnectCount := d.disconnectCount
        requiresSuppression := d.requiresSuppression
        recordingConsent := consent d.recordingConsent
        schemaVersion := d.schemaVersion }
  | .error e, _ => .error e
  | _, .error e => .error e

/-! ## The store -/

/-- A row of `working_memory_snapshot`. -/
structure MemorySnapshot where
  attemptId : AttemptId
  snapshottedAt : Nat
  dict : SnapshotDict RecordingConsent

/-- `_REDIS_TTL_SECONDS`, in microseconds. -/
def memoryTtl : Nat := 3600 * 1000000

structure MemoryStore where
  /-- newest first -/
  snapshots : List MemorySnapshot := []
  cache : Keyspace AttemptId (SnapshotDict String) := ∅
  now : Nat := 0
  /-- not in the source: what has been checkpointed, newest first -/
  checkpoints : List CallMemory := []

inductive MemoryAct where
  /-- a checkpoint, at a later time than every other; whether the write of
  the cache took effect -/
  | checkpoint (m : CallMemory) (elapsed : Nat) (stored : Bool)
  /-- a key is gone before its time -/
  | evict (a : AttemptId)
  | tick (elapsed : Nat)

section

variable (s : MemoryStore)

/-- `MemoryStore.checkpoint` -/
def MemoryStore.checkpoint (m : CallMemory) (stored : Bool) : MemoryStore :=
  { s with
    snapshots := ⟨m.attemptId, s.now, m.toSnapshotDict⟩ :: s.snapshots
    cache := if stored then
        s.cache.set m.attemptId m.toSnapshotDict.json (s.now + memoryTtl)
      else s.cache
    checkpoints := m :: s.checkpoints }

def memoryStep : MemoryAct → Option MemoryStore
  | .checkpoint m elapsed stored =>
      some ({ s with now := s.now + elapsed + 1 }.checkpoint m stored)
  | .evict a => some { s with cache := s.cache.del a }
  | .tick d => some { s with now := s.now + d }

/-- What a load reads from the cache; a read that fails, or no client,
gives nothing. -/
def MemoryStore.cached (a : AttemptId) (readable : Bool) :
    Option (SnapshotDict String) :=
  if readable then s.cache.get s.now a else none

/-- The latest row of an attempt. -/
def MemoryStore.latest (a : AttemptId) : Option MemorySnapshot :=
  (s.snapshots.filter fun r => r.attemptId == a).argmax (·.snapshottedAt)

/-- The end of `load_latest`, on the row. -/
def MemoryStore.loadRow (a : AttemptId) (c : ContactId) :
    Except DecodeError (Option (MemoryOf ConsentValue)) :=
  match s.latest a with
  | none => .ok none
  | some row => (row.dict.decode .member a c).map some

/-- `load_latest`: a missing key in the cached dictionary falls through to
the row, any other error leaves it. -/
def MemoryStore.loadLatest (a : AttemptId) (c : ContactId) (readable : Bool) :
    Except DecodeError (Option (MemoryOf ConsentValue)) :=
  match s.cached a readable with
  | none => s.loadRow a c
  | some d =>
      match d.decode .text a c with
      | .ok m => .ok (some m)
      | .error .keyError => s.loadRow a c
      | .error e => .error e

/-- The memory of an attempt that was checkpointed last. -/
def MemoryStore.last (a : AttemptId) : Option CallMemory :=
  s.checkpoints.find? fun m => m.attemptId == a

end

/-! ## Both decoders read what was written -/

@[simp] theorem ScriptProgress.fromDict_toDict (p : ScriptProgress) :
    ScriptProgress.fromDict p.toDict = .ok p := by
  simp [ScriptProgress.fromDict, ScriptProgress.toDict]

@[simp] theorem ObjectionRecord.mapM_fromDict (os : List ObjectionRecord) :
    (os.map ObjectionRecord.toDict).mapM ObjectionRecord.fromDict
      = .ok os := by
  induction os with
  | nil => rfl
  | cons o os ih =>
      rw [List.map_cons, List.mapM_cons, ih]
      rfl

/-- The row gives back the memory itself. -/
theorem decode_row (m : CallMemory) :
    m.toSnapshotDict.decode .member m.attemptId m.contactId
      = .ok m.asLoaded := by
  simp only [CallMemory.toSnapshotDict, SnapshotDict.decode,
    ScriptProgress.fromDict_toDict, ObjectionRecord.mapM_fromDict]
  rfl

/-- The cache gives back the memory with its consent as text. -/
theorem decode_json (m : CallMemory) :
    m.toSnapshotDict.json.decode .text m.attemptId m.contactId
      = .ok { m with recordingConsent := .text m.recordingConsent.value } := by
  simp only [CallMemory.toSnapshotDict, SnapshotDict.json, SnapshotDict.decode,
    ScriptProgress.fromDict_toDict, ObjectionRecord.mapM_fromDict]

/-- What was decoded as text is no memory of declared types. -/
theorem decode_text_ne {d : SnapshotDict String} {a : AttemptId}
    {c : ContactId} {l : MemoryOf ConsentValue} (m : CallMemory)
    (h : d.decode .text a c = .ok l) : l ≠ m.asLoaded := by
  unfold SnapshotDict.decode at h
  split at h
  · cases h
    intro heq
    have := congrArg MemoryOf.recordingConsent heq
    cases this
  · cases h
  · cases h

/-! ## Runs -/

/-- The rows are the checkpoints, each later than those before it; what is
cached was checkpointed. -/
structure MemoryInv (s : MemoryStore) : Prop where
  ordered : s.snapshots.Pairwise fun new old =>
    old.snapshottedAt < new.snapshottedAt
  past : ∀ r ∈ s.snapshots, r.snapshottedAt ≤ s.now
  rows : s.snapshots.map (fun r => (r.attemptId, r.dict))
    = s.checkpoints.map fun m => (m.attemptId, m.toSnapshotDict)
  cached : ∀ a e, AList.lookup a s.cache = some e →
    ∃ m ∈ s.checkpoints, m.attemptId = a ∧ e.value = m.toSnapshotDict.json

section

variable {s s' : MemoryStore} {a : AttemptId} {c : ContactId} {m : CallMemory}
  {readable : Bool}

theorem memoryStep_inv {act : MemoryAct} (hi : MemoryInv s)
    (h : memoryStep s act = some s') : MemoryInv s' := by
  cases act with
  | checkpoint m elapsed stored =>
      cases h
      constructor
      case ordered =>
        refine List.pairwise_cons.mpr ⟨fun r hr => ?_, hi.ordered⟩
        have hpast := hi.past r hr
        show r.snapshottedAt < s.now + elapsed + 1
        omega
      case past =>
        intro r hr
        rcases List.mem_cons.mp hr with rfl | hr
        · exact Nat.le_refl _
        · have hpast := hi.past r hr
          show r.snapshottedAt ≤ s.now + elapsed + 1
          omega
      case rows =>
        show _ :: _ = _ :: _
        rw [hi.rows]
      case cached =>
        intro a e he
        cases stored with
        | false =>
            obtain ⟨m', hm', hrest⟩ := hi.cached a e he
            exact ⟨m', List.mem_cons_of_mem _ hm', hrest⟩
        | true =>
            have he : AList.lookup a (AList.insert m.attemptId _ s.cache)
                = some e := he
            rw [Table.lookup_insert'] at he
            split at he
            · next heq =>
              cases he
              exact ⟨m, List.mem_cons_self, heq.symm, rfl⟩
            · obtain ⟨m', hm', hrest⟩ := hi.cached a e he
              exact ⟨m', List.mem_cons_of_mem _ hm', hrest⟩
  | evict a =>
      cases h
      refine ⟨hi.ordered, hi.past, hi.rows, fun b e he => ?_⟩
      have he : AList.lookup b (AList.erase a s.cache) = some e := he
      by_cases hb : b = a
      · subst hb
        simp at he
      · rw [AList.lookup_erase_ne hb] at he
        exact hi.cached b e he
  | tick d =>
      cases h
      exact ⟨hi.ordered,
        fun r hr => Nat.le_trans (hi.past r hr) (Nat.le_add_right _ _),
        hi.rows, hi.cached⟩

theorem memoryInv_empty : MemoryInv {} where
  ordered := .nil
  past _ h := by cases h
  rows := rfl
  cached _ _ h := by cases h

/-- The first of a list that falls in time is the latest. -/
theorem argmax_of_ordered {r : MemorySnapshot} {rs : List MemorySnapshot}
    (h : (r :: rs).Pairwise fun new old =>
      old.snapshottedAt < new.snapshottedAt) :
    (r :: rs).argmax (·.snapshottedAt) = some r := by
  rw [List.argmax_cons]
  cases hold : rs.argmax (·.snapshottedAt) with
  | none => rfl
  | some old =>
      have hlater := (List.pairwise_cons.mp h).1 old (List.argmax_mem hold)
      exact if_neg (Nat.lt_asymm hlater)

/-- The latest row of an attempt is its last checkpoint. -/
theorem MemoryInv.latest (hi : MemoryInv s) :
    (s.latest a).map (fun r => (r.attemptId, r.dict))
      = (s.last a).map fun m => (m.attemptId, m.toSnapshotDict) := by
  have hsub := hi.ordered.filter fun r => r.attemptId == a
  have hrows := congrArg
    (List.filter fun p : AttemptId × SnapshotDict RecordingConsent =>
      p.1 == a) hi.rows
  rw [List.filter_map, List.filter_map] at hrows
  have hsnap : (fun p : AttemptId × SnapshotDict RecordingConsent => p.1 == a)
      ∘ (fun r : MemorySnapshot => (r.attemptId, r.dict))
      = fun r => r.attemptId == a := rfl
  have hcheck : (fun p : AttemptId × SnapshotDict RecordingConsent => p.1 == a)
      ∘ (fun m : CallMemory => (m.attemptId, m.toSnapshotDict))
      = fun m => m.attemptId == a := rfl
  rw [hsnap, hcheck] at hrows
  unfold MemoryStore.latest MemoryStore.last
  rw [← List.head?_filter]
  cases hf : s.snapshots.filter fun r => r.attemptId == a with
  | nil =>
      rw [hf, List.map_nil, eq_comm, List.map_eq_nil_iff] at hrows
      rw [hrows]
      rfl
  | cons r rs =>
      rw [hf] at hrows hsub
      rw [argmax_of_ordered hsub]
      cases hc : s.checkpoints.filter fun m => m.attemptId == a with
      | nil => rw [hc] at hrows; cases hrows
      | cons m ms =>
          rw [hc] at hrows
          exact congrArg some (List.cons.inj hrows).1

/-- **The row is exact.** -/
theorem MemoryInv.loadRow (hi : MemoryInv s) (h : s.last a = some m) :
    s.loadRow a m.contactId = .ok (some m.asLoaded) := by
  have hid : m.attemptId = a := by simpa using List.find?_some h
  have hl := hi.latest (a := a)
  rw [h] at hl
  obtain ⟨row, hrow, heq⟩ := Option.map_eq_some_iff.mp hl
  unfold MemoryStore.loadRow
  rw [hrow]
  dsimp only
  rw [(Prod.mk.inj heq).2, ← hid, decode_row]
  rfl

/-- A cached dictionary always decodes, and as text. -/
theorem MemoryInv.loadCached (hi : MemoryInv s) {d : SnapshotDict String}
    (h : s.cached a readable = some d) :
    ∃ l, d.decode .text a c = .ok l ∧
      s.loadLatest a c readable = .ok (some l) := by
  have hget : s.cache.get s.now a = some d := by
    unfold MemoryStore.cached at h
    split at h
    · exact h
    · cases h
  obtain ⟨e, he, -, rfl⟩ := Keyspace.get_eq_some.mp hget
  obtain ⟨m, -, -, hvalue⟩ := hi.cached a e he
  have hdecode : ∃ l, e.value.decode .text a c = .ok l := by
    rw [hvalue]
    simp only [CallMemory.toSnapshotDict, SnapshotDict.json,
      SnapshotDict.decode, ScriptProgress.fromDict_toDict,
      ObjectionRecord.mapM_fromDict]
    exact ⟨_, rfl⟩
  obtain ⟨l, hl⟩ := hdecode
  refine ⟨l, hl, ?_⟩
  unfold MemoryStore.loadLatest
  rw [h]
  dsimp only
  rw [hl]

/-- **When a load is exact.** After any run of checkpoints, whatever writes
of the cache failed and whatever was evicted or expired, a load gives back
the last checkpointed memory, every field with its type, exactly if the
cache gave nothing. -/
theorem loadLatest_exact_iff
    (hrun : Run memoryStep (fun _ _ => True) {} s)
    (h : s.last a = some m) :
    s.loadLatest a m.contactId readable = .ok (some m.asLoaded) ↔
      s.cached a readable = none := by
  have hi : MemoryInv s :=
    hrun.inv (fun _ _ _ hi _ hs => memoryStep_inv hi hs) memoryInv_empty
  constructor
  · intro hexact
    cases hc : s.cached a readable with
    | none => rfl
    | some d =>
        obtain ⟨l, hl, hload⟩ := hi.loadCached (c := m.contactId) hc
        rw [hload] at hexact
        exact absurd (Option.some.inj (Except.ok.inj hexact))
          (decode_text_ne m hl)
  · intro hc
    unfold MemoryStore.loadLatest
    rw [hc]
    exact hi.loadRow h

end

/-! ### A write of the cache that failed -/

/-- The memory of a call before the caller was heard. -/
def openingMemory : CallMemory where
  attemptId := 0
  contactId := 1
  lastAgentUtterance := some "Hello"
  recordingConsent := .notApplicable

/-- The same call, recorded with consent. -/
def consentMemory : CallMemory :=
  { openingMemory with
    scriptProgress := { phase := .discovery }
    lastAgentUtterance := some "Thank you"
    recordingConsent := .granted }

/-- The second write of the cache fails, and within the hour a load
returns the first snapshot, with its consent as text. -/
theorem failedWrite_loadsOlder :
    ∃ s, runActs memoryStep {}
        [.checkpoint openingMemory 0 true, .checkpoint consentMemory 0 false]
        = some s ∧
      s.last 0 = some consentMemory ∧
      s.loadLatest 0 1 true = .ok (some
        { openingMemory with recordingConsent := .text "not_applicable" }) ∧
      s.loadLatest 0 1 true ≠ .ok (some consentMemory.asLoaded) := by
  let acts : List MemoryAct :=
    [.checkpoint openingMemory 0 true, .checkpoint consentMemory 0 false]
  obtain ⟨s, hs⟩ : ∃ s, runActs memoryStep {} acts = some s := ⟨_, rfl⟩
  have hload : s.loadLatest 0 1 true = .ok (some
      { openingMemory with recordingConsent := .text "not_applicable" }) := by
    cases hs
    rfl
  refine ⟨s, hs, ?_, hload, fun heq => ?_⟩
  · cases hs
    rfl
  · rw [hload] at heq
    have hspoken := congrArg MemoryOf.lastAgentUtterance
      (Option.some.inj (Except.ok.inj heq))
    exact absurd hspoken (by decide)

/-- Without the cache the last checkpoint is read from its row. -/
theorem unreadableCache_exact :
    ∃ s, runActs memoryStep {}
        [.checkpoint openingMemory 0 true, .checkpoint consentMemory 0 false]
        = some s ∧
      s.loadLatest 0 1 false = .ok (some consentMemory.asLoaded) := by
  let acts : List MemoryAct :=
    [.checkpoint openingMemory 0 true, .checkpoint consentMemory 0 false]
  obtain ⟨s, hs⟩ : ∃ s, runActs memoryStep {} acts = some s := ⟨_, rfl⟩
  have hlast : s.last 0 = some consentMemory := by
    cases hs
    rfl
  exact ⟨s, hs, (loadLatest_exact_iff (.of_runActs hs) hlast).mpr rfl⟩

end CallingAgent
