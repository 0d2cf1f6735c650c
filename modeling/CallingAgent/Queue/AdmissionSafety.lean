import CallingAgent.Queue.Admission
import CallingAgent.Queue.LeaseSafety

/-!
# Admission is exact

Every increment a request made and did not undo is counted once, and a
counter is the number of these. An increment that is answered within the
limit therefore finds at most that many calls counted before it, whatever
the other requests increment and roll back around it.
-/

namespace CallingAgent

open Lib

/-! ## One request -/

section Request

variable (c : AdmissionController)

/-- What the record of a request says in each phase. -/
def PhaseOk (q : AdmissionRequest) : AdmitPhase → Prop
  | .incr rest counted =>
      counted ++ rest.map (·.1) = q.keys.map (·.1) ∧ q.outstanding = counted ∧
        (∀ k ∈ counted, k ∈ q.passed) ∧ ∀ e ∈ rest, e.2 = c.cpsLimit e.1
  | .expire key limit value rest counted =>
      counted ++ key :: rest.map (·.1) = q.keys.map (·.1) ∧
        q.outstanding = counted ++ [key] ∧ (∀ k ∈ counted, k ∈ q.passed) ∧
        (∀ e ∈ rest, e.2 = c.cpsLimit e.1) ∧
        (value ≤ (limit : Int) → key ∈ q.passed)
  | .rollback rest => q.outstanding = rest ∧ q.passed = []
  | .release result =>
      result = .raised ∨ result = .refused .cpsExceeded ∧ q.outstanding = []
  | .done .admitted => ∀ e ∈ q.keys, e.1 ∈ q.passed
  | .done (.refused .cpsExceeded) => q.outstanding = []
  | .done _ => True
  | .crashed => True
  | _ => q.keys = [] ∧ q.outstanding = [] ∧ q.passed = []

structure AdmissionRequest.Ok (q : AdmissionRequest) : Prop where
  phase : PhaseOk c q q.phase
  keys : (q.keys.map (·.1)).Nodup
  counted : q.outstanding.Nodup
  under : ∀ k ∈ q.outstanding, k ∈ q.keys.map (·.1)
  passed : ∀ k ∈ q.passed, k ∈ q.outstanding

variable {c} {q : AdmissionRequest} {x : Shared}

/-- The record of the increments is not touched. -/
def AdmissionRequest.SameCount (q q' : AdmissionRequest) : Prop :=
  q'.keys = q.keys ∧ q'.outstanding = q.outstanding ∧
    ∀ k ∈ q'.passed, k ∈ q.passed

theorem AdmissionRequest.Ok.goto (h : q.Ok c) {p : AdmitPhase}
    (hp : PhaseOk c (q.goto p) p) : (q.goto p).Ok c :=
  ⟨hp, h.keys, h.counted, h.under, h.passed⟩

theorem AdmissionRequest.goto_sameCount (p : AdmitPhase) :
    q.SameCount (q.goto p) :=
  ⟨rfl, rfl, fun _ h => h⟩

namespace AdmissionRequest

theorem Ok.onCounted (h : q.Ok c) {key : CpsKey} {limit : Nat} {value : Int}
    {rest : List (CpsKey × Nat)} {counted : List CpsKey}
    (hkeys : counted ++ key :: rest.map (·.1) = q.keys.map (·.1))
    (hout : q.outstanding = counted ++ [key])
    (hcounted : ∀ k ∈ counted, k ∈ q.passed)
    (hrest : ∀ e ∈ rest, e.2 = c.cpsLimit e.1)
    (hkey : value ≤ (limit : Int) → key ∈ q.passed) :
    (q.onCounted key limit value rest counted).Ok c ∧
      q.SameCount (q.onCounted key limit value rest counted) := by
  unfold AdmissionRequest.onCounted
  dsimp only
  split
  · refine ⟨⟨⟨hout, rfl⟩, h.keys, h.counted, h.under, ?_⟩, rfl, rfl, ?_⟩
    · intro k hk
      cases hk
    · intro k hk
      cases hk
  · rename_i hle
    have hkey := hkey (Int.not_lt.mp hle)
    have hall : ∀ k ∈ counted ++ [key], k ∈ q.passed := by
      intro k hk
      rcases List.mem_append.mp hk with hk | hk
      · exact hcounted k hk
      · rw [List.mem_singleton.mp hk]
        exact hkey
    split
    · refine ⟨h.goto fun e he => hall e.1 ?_, goto_sameCount _⟩
      have hmem : e.1 ∈ q.keys.map (·.1) := List.mem_map_of_mem he
      rw [← hkeys] at hmem
      exact hmem
    · refine ⟨h.goto ⟨?_, hout, hall, hrest⟩, goto_sameCount _⟩
      rw [List.append_assoc]
      exact hkeys

end AdmissionRequest

@[simp] theorem CpsCounters.value_by (t : CpsCounters) (k k' : CpsKey)
    (n : Int) :
    (t.by k n).value k' = if k' = k then t.value k + n else t.value k' := by
  unfold CpsCounters.by CpsCounters.value
  rw [Table.lookup_insert']
  split <;> rfl

/-- 1 where an increment of the request is outstanding. -/
def AdmissionRequest.share (q : AdmissionRequest) (k : CpsKey) : Int :=
  if k ∈ q.outstanding then 1 else 0

/-- What a command does to the request and to the counters. -/
structure CommandSpec (c : AdmissionController) (x : Shared)
    (q : AdmissionRequest) (command : AdmitCommand) (x' : Shared)
    (q' : AdmissionRequest) : Prop where
  active : q.phase.over = false
  ok : q'.Ok c
  keys : ∀ e ∈ q'.keys, e ∈ q.keys ∨ ∃ second, command = .window second ∧
    e ∈ c.cpsKeys q.campaignId q.providerName second
  counters : ∀ k,
    x'.counters.value k + q.share k = x.counters.value k + q'.share k
  passed : ∀ k ∈ q'.passed, k ∈ q.passed ∨
    k ∈ q.keys.map (·.1) ∧ x'.counters.value k ≤ (c.cpsLimit k : Int)

/-- A command that leaves the counters and the record of them alone. -/
theorem CommandSpec.of_same {q' : AdmissionRequest} {x' : Shared}
    {command : AdmitCommand} (hactive : q.phase.over = false) (hok : q'.Ok c)
    (hsame : q.SameCount q') (hx : x'.counters = x.counters) :
    CommandSpec c x q command x' q' := by
  obtain ⟨hkeys, hout, hpassed⟩ := hsame
  refine ⟨hactive, hok, fun e he => .inl (hkeys ▸ he), fun k => ?_,
    fun k hk => .inl (hpassed k hk)⟩
  rw [hx]
  unfold AdmissionRequest.share
  rw [hout]

theorem AdmissionController.cpsKeys_nodup (campaignId : CampaignId)
    (providerName : String) (second : Nat) :
    ((c.cpsKeys campaignId providerName second).map (·.1)).Nodup := by
  simp [AdmissionController.cpsKeys]

theorem AdmissionController.cpsKeys_limit {campaignId : CampaignId}
    {providerName : String} {second : Nat} {e : CpsKey × Nat}
    (he : e ∈ c.cpsKeys campaignId providerName second) :
    e.2 = c.cpsLimit e.1 := by
  simp only [AdmissionController.cpsKeys, List.mem_cons, List.not_mem_nil,
    or_false] at he
  rcases he with rfl | rfl | rfl <;> rfl

section Counting

variable {key : CpsKey} {limit : Nat} {rest : List (CpsKey × Nat)}
  {counted : List CpsKey} {fate : Fate}

theorem count_counters (k : CpsKey) (n : Int) :
    (x.count key n fate).counters.value k
      = x.counters.value k
        + if fate.executed = true ∧ k = key then n else 0 := by
  unfold Shared.count
  by_cases hf : fate.executed = true
  · rw [if_pos hf, CpsCounters.value_by]
    by_cases hk : k = key <;> simp [hf, hk]
  · simp [hf]

theorem AdmissionRequest.Ok.incr (h : q.Ok c)
    (hp : q.phase = .incr ((key, limit) :: rest) counted) :
    CommandSpec c x q (.incr fate) (x.count key 1 fate)
      (q.onIncr fate key limit (x.counters.value key + 1) rest counted) := by
  have hphase := h.phase
  rw [hp] at hphase
  obtain ⟨hkeys, hout, hcounted, hlimits⟩ := hphase
  have hlimit : limit = c.cpsLimit key := hlimits _ (List.mem_cons_self ..)
  have hrest : ∀ e ∈ rest, e.2 = c.cpsLimit e.1 :=
    fun e he => hlimits e (List.mem_cons_of_mem _ he)
  have hnodup : (counted ++ key :: rest.map (·.1)).Nodup := hkeys ▸ h.keys
  have hnew : key ∉ q.outstanding := by
    rw [hout]
    intro hk
    exact (List.nodup_append.mp hnodup).2.2 key hk key (List.mem_cons_self ..) rfl
  have hkeyIn : key ∈ q.keys.map (·.1) := by
    rw [← hkeys]
    simp
  have hactive : q.phase.over = false := by
    rw [hp]
    rfl
  -- the record once the increment has run
  let ran : AdmissionRequest := { q with outstanding := q.outstanding ++ [key] }
  have hran : ∀ passed : List CpsKey, (∀ k ∈ passed, k ∈ q.passed ∨ k = key) →
      ∀ p, PhaseOk c { ran with passed, phase := p } p →
        ({ ran with passed, phase := p } : AdmissionRequest).Ok c := by
    intro passed hpassed p hphase
    refine ⟨hphase, h.keys, ?_, ?_, ?_⟩
    · exact List.Nodup.append h.counted (List.nodup_singleton _)
        (by simpa [List.disjoint_singleton] using hnew)
    · intro k hk
      rcases List.mem_append.mp hk with hk | hk
      · exact h.under k hk
      · rw [List.mem_singleton.mp hk]
        exact hkeyIn
    · intro k hk
      rcases hpassed k hk with hk | rfl
      · exact List.mem_append_left _ (h.passed k hk)
      · simp [ran]
  have hshare : ∀ k (q' : AdmissionRequest), q'.outstanding = ran.outstanding →
      fate.executed = true →
      (x.count key 1 fate).counters.value k + q.share k
        = x.counters.value k + q'.share k := by
    intro k q' hq' hf
    rw [count_counters]
    unfold AdmissionRequest.share
    rw [hq']
    by_cases hk : k = key
    · subst hk
      simp [ran, hf, hnew]
    · simp [ran, hk]
  unfold AdmissionRequest.onIncr
  cases fate with
  | unsent =>
      exact .of_same hactive (h.goto (.inl rfl))
        (AdmissionRequest.goto_sameCount _) rfl
  | replyLost =>
      have hok := hran q.passed (fun k hk => .inl hk) (.release .raised)
        (.inl rfl)
      exact ⟨hactive, hok, fun e he => .inl he, fun k => hshare k _ rfl rfl,
        fun k hk => .inl hk⟩
  | answered =>
      simp only [Fate.executed, if_true]
      have hvalue : (x.count key 1 .answered).counters.value key
          = x.counters.value key + 1 := by
        rw [count_counters]
        simp [Fate.executed]
      -- what passed now, and under which bound
      obtain ⟨passed, hpassedDef⟩ : ∃ passed : List CpsKey, passed
          = if (limit : Int) < x.counters.value key + 1 then q.passed
            else key :: q.passed := ⟨_, rfl⟩
      have hsub : ∀ k ∈ passed, k ∈ q.passed ∨
          k = key ∧ x.counters.value key + 1 ≤ (limit : Int) := by
        intro k hk
        rw [hpassedDef] at hk
        split at hk
        · exact .inl hk
        · rcases List.mem_cons.mp hk with rfl | hk
          · exact .inr ⟨rfl, by omega⟩
          · exact .inl hk
      have hcounted' : ∀ k ∈ counted, k ∈ passed := by
        intro k hk
        rw [hpassedDef]
        split
        · exact hcounted k hk
        · exact List.mem_cons_of_mem _ (hcounted k hk)
      have hkey : x.counters.value key + 1 ≤ (limit : Int) → key ∈ passed := by
        intro hle
        rw [hpassedDef, if_neg (by omega)]
        exact List.mem_cons_self ..
      have hform : (if (limit : Int) < x.counters.value key + 1 then ran
          else { ran with passed := key :: ran.passed })
          = { ran with passed } := by
        rw [hpassedDef]
        split <;> rfl
      change CommandSpec c x q (.incr .answered) (x.count key 1 .answered)
        (let q' := if (limit : Int) < x.counters.value key + 1 then ran
          else { ran with passed := key :: ran.passed }
        if x.counters.value key + 1 = 1 then
          q'.goto (.expire key limit (x.counters.value key + 1) rest counted)
        else q'.onCounted key limit (x.counters.value key + 1) rest counted)
      rw [hform]
      have hpassed' : ∀ k ∈ passed, k ∈ q.passed ∨
          k ∈ q.keys.map (·.1) ∧
            (x.count key 1 .answered).counters.value k ≤ (c.cpsLimit k : Int) := by
        intro k hk
        rcases hsub k hk with hk | ⟨rfl, hle⟩
        · exact .inl hk
        · rw [hvalue, ← hlimit]
          exact .inr ⟨hkeyIn, hle⟩
      have hout' : ran.outstanding = counted ++ [key] := by
        rw [← hout]
      have hbase := hran passed
        (fun k hk => (hsub k hk).imp_right fun hk => hk.1)
        (.expire key limit (x.counters.value key + 1) rest counted)
        ⟨hkeys, hout', hcounted', hrest, hkey⟩
      dsimp only
      split
      · exact ⟨hactive, hbase, fun e he => .inl he,
          fun k => hshare k _ rfl rfl, hpassed'⟩
      · obtain ⟨hok, hk, ho, hp⟩ := hbase.onCounted hkeys hout' hcounted' hrest
          hkey
        exact ⟨hactive, hok, fun e he => .inl (hk ▸ he),
          fun k => hshare k _ ho rfl, fun k hk => hpassed' k (hp k hk)⟩

theorem AdmissionRequest.Ok.decr (h : q.Ok c) {undo : List CpsKey}
    (hp : q.phase = .rollback (key :: undo)) :
    CommandSpec c x q (.decr fate) (x.count key (-1) fate)
      (q.onDecr fate undo) := by
  have hphase := h.phase
  rw [hp] at hphase
  obtain ⟨hout, hpassed⟩ := hphase
  have hactive : q.phase.over = false := by
    rw [hp]
    rfl
  have hcounted := h.counted
  rw [hout] at hcounted
  obtain ⟨hnew, hundo⟩ := List.nodup_cons.mp hcounted
  have hran : ∀ p, PhaseOk c { q with outstanding := undo, phase := p } p →
      ({ q with outstanding := undo, phase := p } : AdmissionRequest).Ok c := by
    intro p hphase
    refine ⟨hphase, h.keys, hundo, fun k hk => h.under k ?_, fun k hk => ?_⟩
    · rw [hout]
      exact List.mem_cons_of_mem _ hk
    · rw [hpassed] at hk
      cases hk
  have hshare : ∀ k (q' : AdmissionRequest), q'.outstanding = undo →
      fate.executed = true →
      (x.count key (-1) fate).counters.value k + q.share k
        = x.counters.value k + q'.share k := by
    intro k q' hq' hf
    rw [count_counters]
    unfold AdmissionRequest.share
    rw [hq', hout]
    by_cases hk : k = key
    · subst hk
      rw [if_pos ⟨hf, rfl⟩, if_pos (List.mem_cons_self ..), if_neg hnew]
      omega
    · simp [hk]
  have hspec : ∀ q' : AdmissionRequest, q'.Ok c → q'.outstanding = undo →
      q'.keys = q.keys → q'.passed = q.passed → fate.executed = true →
      CommandSpec c x q (.decr fate) (x.count key (-1) fate) q' :=
    fun q' hok ho hk hp hf => ⟨hactive, hok, fun e he => .inl (hk ▸ he),
      fun k => hshare k _ ho hf, fun k hk => .inl (hp ▸ hk)⟩
  unfold AdmissionRequest.onDecr
  cases fate with
  | unsent =>
      exact .of_same hactive (h.goto (.inl rfl))
        (AdmissionRequest.goto_sameCount _) rfl
  | replyLost => exact hspec _ (hran _ (.inl rfl)) rfl rfl rfl rfl
  | answered =>
      simp only [Fate.executed, if_true]
      split
      · exact hspec _ (hran _ (.inr ⟨rfl, rfl⟩)) rfl rfl rfl rfl
      · exact hspec _ (hran _ ⟨rfl, hpassed⟩) rfl rfl rfl rfl

end Counting

theorem Shared.release_counters {st : LeaseStore} {x' : Shared} {fate : Fate}
    (h : x.release st q fate = some x') : x'.counters = x.counters := by
  unfold Shared.release at h
  split at h
  · obtain ⟨l, -, h⟩ := Option.bind_eq_some_iff.mp h
    obtain ⟨leases, -, rfl⟩ := Option.map_eq_some_iff.mp h
    rfl
  · cases h
    rfl

theorem Shared.acquire_counters {st : LeaseStore} {l : ConcurrencyLease}
    {x' : Shared} {fate : Fate} {w : String}
    (h : x.acquire st l w fate = some x') : x'.counters = x.counters := by
  obtain ⟨leases, -, rfl⟩ := Option.map_eq_some_iff.mp h
  rfl

/-- Whatever the command, the record stays right. -/
theorem requestStep_spec {x' : Shared} {q' : AdmissionRequest}
    {command : AdmitCommand} (h : q.Ok c)
    (hs : requestStep c x q command = some (x', q')) :
    CommandSpec c x q command x' q' := by
  have hactive : ∀ {p}, q.phase = p → p.over = false →
      q.phase.over = false := fun hp ho => hp ▸ ho
  cases command with
  | breaker answer =>
      obtain ⟨hp, hs⟩ := Option.ite_none_right_eq_some.mp hs
      cases hs
      have hphase := h.phase
      rw [hp] at hphase
      cases answer with
      | none =>
          exact .of_same (hactive hp rfl) (h.goto trivial)
            (AdmissionRequest.goto_sameCount _) rfl
      | some isOpen =>
          cases isOpen with
          | true =>
              exact .of_same (hactive hp rfl) (h.goto trivial)
                (AdmissionRequest.goto_sameCount _) rfl
          | false =>
              exact .of_same (hactive hp rfl) (h.goto hphase)
                (AdmissionRequest.goto_sameCount _) rfl
  | acquire id fate =>
      obtain ⟨hp, hs⟩ := Option.ite_none_right_eq_some.mp hs
      obtain ⟨x₁, hx, hs⟩ := Option.map_eq_some_iff.mp hs
      cases hs
      have hphase := h.phase
      rw [hp] at hphase
      have hx := Shared.acquire_counters hx
      have hgoto : ∀ (l : ConcurrencyLease) p,
          PhaseOk c { q with lease := some l, phase := p } p →
          CommandSpec c x q (.acquire id fate) x'
            { q with lease := some l, phase := p } :=
        fun l p hp' => .of_same (hactive hp rfl)
          ⟨hp', h.keys, h.counted, h.under, h.passed⟩
          ⟨rfl, rfl, fun _ hk => hk⟩ hx
      unfold AdmissionRequest.onAcquire
      dsimp only
      split
      · split
        · exact hgoto _ _ hphase
        · split
          · exact hgoto _ _ trivial
          · exact hgoto _ _ trivial
      · exact hgoto _ _ hphase
  | window second =>
      obtain ⟨hp, hs⟩ := Option.ite_none_right_eq_some.mp hs
      cases hs
      have hphase := h.phase
      rw [hp] at hphase
      obtain ⟨-, hout, hpassed⟩ := hphase
      refine ⟨hactive hp rfl, ⟨⟨rfl, hout, ?_, ?_⟩, ?_, h.counted, ?_, h.passed⟩,
        fun e he => .inr ⟨second, rfl, he⟩, fun k => rfl, fun k hk => .inl hk⟩
      · intro k hk
        cases hk
      · exact fun e he => AdmissionController.cpsKeys_limit he
      · exact AdmissionController.cpsKeys_nodup _ _ _
      · intro k hk
        change k ∈ q.outstanding at hk
        rw [hout] at hk
        cases hk
  | incr fate =>
      unfold requestStep at hs
      dsimp only at hs
      split at hs
      · rename_i key limit rest counted hp
        cases hs
        exact h.incr hp
      · cases hs
  | expire fate =>
      unfold requestStep at hs
      dsimp only at hs
      split at hs
      · rename_i key limit value rest counted hp
        have hphase := h.phase
        rw [hp] at hphase
        obtain ⟨hkeys, hout, hcounted, hrest, hkey⟩ := hphase
        split at hs
        · cases hs
          obtain ⟨hok, hsame⟩ := h.onCounted hkeys hout hcounted hrest hkey
          exact .of_same (hactive hp rfl) hok hsame rfl
        · cases hs
          exact .of_same (hactive hp rfl) (h.goto (.inl rfl))
            (AdmissionRequest.goto_sameCount _) rfl
      · cases hs
  | decr fate =>
      unfold requestStep at hs
      dsimp only at hs
      split at hs
      · rename_i key rest hp
        cases hs
        exact h.decr hp
      · cases hs
  | release fate =>
      have hdone : ∀ result,
          (result = .raised ∨
            result = .refused .cpsExceeded ∧ q.outstanding = []) →
          ∀ {x'}, x.release c.leases q fate = some x' → q.phase.over = false →
          CommandSpec c x q (.release fate) x' (q.onRelease fate result) := by
        intro result hres x' hx ho
        refine .of_same ho ⟨?_, h.keys, h.counted, h.under, h.passed⟩
          ⟨rfl, rfl, fun _ hk => hk⟩ (Shared.release_counters hx)
        rcases hres with rfl | ⟨rfl, hout⟩
        · trivial
        · exact hout
      unfold requestStep at hs
      dsimp only at hs
      split at hs
      · rename_i result hp
        obtain ⟨x₁, hx, hs⟩ := Option.map_eq_some_iff.mp hs
        cases hs
        have hphase := h.phase
        rw [hp] at hphase
        exact hdone _ hphase hx (hactive hp rfl)
      · rename_i hp
        obtain ⟨x₁, hx, hs⟩ := Option.map_eq_some_iff.mp hs
        cases hs
        exact hdone _ (.inl rfl) hx (hactive hp rfl)
      · cases hs
  | crash =>
      unfold requestStep at hs
      dsimp only at hs
      split at hs
      · cases hs
      · rename_i ho
        cases hs
        exact .of_same (Bool.eq_false_iff.mpr ho) (h.goto trivial)
          (AdmissionRequest.goto_sameCount _) rfl

/-! ## The lease of a request -/

/-- What the leases say about a request: it was drawn an id, from the acquire
on, and once it is over without admission nothing is held under that id. -/
structure Leased (leases : LeaseSystem) (q : AdmissionRequest) : Prop where
  issued : ∀ l, q.lease = some l →
    AList.lookup l.leaseId leases.issued = some l
  freed : ∀ l result, q.lease = some l → q.phase = .done result →
    result ≠ .admitted → q.releaseFailed = false →
    ¬ leases.redis.alive l.leaseId

variable {st : LeaseStore}

/-- An acquire that is turned away leaves nothing behind. -/
theorem acquire_refused {issued : Table LeaseId ConcurrencyLease}
    {r : LeaseRedis} (h : LeaseInv st issued r) {l : ConcurrencyLease}
    (hnew : AList.lookup l.leaseId issued = none) {w : String}
    (hno : (r.acquire st l w).2.lease = none) :
    ¬ (r.acquire st l w).1.alive l.leaseId := by
  have hdead : ¬ (r.prune l.scopeKeys).alive l.leaseId := by
    rintro ⟨k, x, hlive⟩
    obtain ⟨l', hl', -⟩ :=
      h.known ((LeaseRedis.live_prune l.scopeKeys_nodup (d := 0)).mp hlive)
    rw [hnew] at hl'
    cases hl'
  unfold LeaseRedis.acquire at hno ⊢
  dsimp only at hno ⊢
  split
  · exact hdead
  · rename_i hfree
    rw [if_neg hfree] at hno
    split
    · exact hdead
    · rename_i hroom
      rw [hroom] at hno
      cases hno

/-- A released lease is held nowhere. -/
theorem release_dead {issued : Table LeaseId ConcurrencyLease}
    {r : LeaseRedis} (h : LeaseInv st issued r) {l : ConcurrencyLease}
    (hl : AList.lookup l.leaseId issued = some l) :
    ¬ (r.release l).1.alive l.leaseId := by
  rintro ⟨k, x, hscore, hx⟩
  have hmem : (r.release l).1.members k
      = if k ∈ l.scopeKeys then (r.members k).remove l.leaseId
        else r.members k := LeaseRedis.members_release l k 0
  rw [LeaseRedis.now_release] at hx
  rw [hmem] at hscore
  split at hscore
  · rw [SortedSet.score_remove, if_pos rfl] at hscore
    cases hscore
  · rename_i hk
    obtain ⟨l', hl', hk'⟩ := h.known ⟨hscore, hx⟩
    cases hl.symm.trans hl'
    exact hk hk'

/-- What another step does to the leases leaves a request as it is. -/
theorem Leased.step {s s' : LeaseSystem} {act : LeaseAct}
    (hi : LeaseInv st s.issued s.redis) (h : Leased s q)
    (hs : leaseStep st s act = some s') : Leased s' q := by
  have hissued : ∀ l, AList.lookup l.leaseId s.issued = some l →
      AList.lookup l.leaseId s'.issued = some l := by
    intro l hl
    cases act with
    | acquire new w =>
        obtain ⟨hnew, hs⟩ := Option.ite_none_right_eq_some.mp hs
        cases hs
        refine (AList.lookup_insert_ne ?_).trans hl
        intro heq
        rw [← heq, hl] at hnew
        cases hnew
    | lost new =>
        obtain ⟨hnew, hs⟩ := Option.ite_none_right_eq_some.mp hs
        cases hs
        refine (AList.lookup_insert_ne ?_).trans hl
        intro heq
        rw [← heq, hl] at hnew
        cases hnew
    | renew id =>
        obtain ⟨l', -, rfl⟩ := Option.map_eq_some_iff.mp hs
        exact hl
    | release id =>
        obtain ⟨l', -, rfl⟩ := Option.map_eq_some_iff.mp hs
        exact hl
    | tick d =>
        cases hs
        exact hl
  exact ⟨fun l hl => hissued l (h.issued l hl), fun l result hl hp hne hf =>
    (leaseStep_dead hi hs (h.issued l hl) (h.freed l result hl hp hne hf)).2⟩

/-- The leases move by a step of theirs, or not at all. -/
def LeaseMove (st : LeaseStore) (s s' : LeaseSystem) : Prop :=
  s' = s ∨ ∃ act, leaseStep st s act = some s'

theorem LeaseMove.inv {s s' : LeaseSystem} (hm : LeaseMove st s s')
    (h : LeaseInv st s.issued s.redis) : LeaseInv st s'.issued s'.redis := by
  rcases hm with rfl | ⟨act, hs⟩
  · exact h
  · exact leaseStep_inv h hs

theorem LeaseMove.leased {s s' : LeaseSystem} (hm : LeaseMove st s s')
    (hi : LeaseInv st s.issued s.redis) (h : Leased s q) : Leased s' q := by
  rcases hm with rfl | ⟨act, hs⟩
  · exact h
  · exact h.step hi hs

/-- A request without a lease, and one that is not over. -/
theorem Leased.of_none {s : LeaseSystem} (h : q.lease = none) : Leased s q :=
  ⟨fun l hl => (by rw [h] at hl; cases hl),
    fun l _ hl => (by rw [h] at hl; cases hl)⟩

theorem Leased.of_open {s : LeaseSystem}
    (h : ∀ l, q.lease = some l → AList.lookup l.leaseId s.issued = some l)
    (hp : ∀ result, q.phase = .done result → result = .admitted) :
    Leased s q :=
  ⟨h, fun _ result _ hd hne => absurd (hp result hd) hne⟩

/-- A request that is past its acquire and not refused. -/
def AdmitPhase.underway : AdmitPhase → Bool
  | .breaker => false
  | .acquire => false
  | .done .admitted => true
  | .done _ => false
  | _ => true

theorem AdmissionRequest.onCounted_underway {key : CpsKey} {limit : Nat}
    {value : Int} {rest : List (CpsKey × Nat)} {counted : List CpsKey} :
    (q.onCounted key limit value rest counted).lease = q.lease ∧
      (q.onCounted key limit value rest counted).phase.underway = true := by
  unfold AdmissionRequest.onCounted
  dsimp only
  split
  · exact ⟨rfl, rfl⟩
  · split <;> exact ⟨rfl, rfl⟩

theorem AdmissionRequest.onIncr_underway {fate : Fate} {key : CpsKey}
    {limit : Nat} {value : Int} {rest : List (CpsKey × Nat)}
    {counted : List CpsKey} :
    (q.onIncr fate key limit value rest counted).lease = q.lease ∧
      (q.onIncr fate key limit value rest counted).phase.underway = true := by
  unfold AdmissionRequest.onIncr
  dsimp only
  split
  · split
    · refine ⟨?_, rfl⟩
      dsimp only [AdmissionRequest.goto]
      split <;> split <;> rfl
    · refine ⟨onCounted_underway.1.trans ?_, onCounted_underway.2⟩
      split <;> split <;> rfl
  · refine ⟨?_, rfl⟩
    dsimp only [AdmissionRequest.goto]
    split <;> rfl

theorem AdmissionRequest.onDecr_underway {fate : Fate} {undo : List CpsKey} :
    (q.onDecr fate undo).lease = q.lease ∧
      (q.onDecr fate undo).phase.underway = true := by
  unfold AdmissionRequest.onDecr
  cases fate with
  | answered => cases undo <;> exact ⟨rfl, rfl⟩
  | unsent => exact ⟨rfl, rfl⟩
  | replyLost => exact ⟨rfl, rfl⟩

/-- What a command does to the leases, and to what the request has of them. -/
structure LeaseSpec (st : LeaseStore) (s s' : LeaseSystem)
    (q' : AdmissionRequest) : Prop where
  move : LeaseMove st s s'
  leased : Leased s' q'
  none : q'.phase = .breaker ∨ q'.phase = .acquire → q'.lease = .none

theorem LeaseSpec.of_underway {s : LeaseSystem} {q' : AdmissionRequest}
    (h : Leased s q) (hl : q'.lease = q.lease)
    (hu : q'.phase.underway = true) : LeaseSpec st s s q' := by
  refine ⟨.inl rfl, .of_open (fun l hl' => h.issued l (hl ▸ hl')) ?_, ?_⟩
  · intro result hd
    rw [hd] at hu
    cases result with
    | admitted => rfl
    | refused reason => cases hu
    | raised => cases hu
  · rintro (hp | hp) <;> rw [hp] at hu <;> cases hu

theorem Shared.acquire_leases {l : ConcurrencyLease} {w : String}
    {x' : Shared} {fate : Fate}
    (hi : LeaseInv st x.leases.issued x.leases.redis)
    (hx : x.acquire st l w fate = some x') :
    LeaseSpec st x.leases x'.leases
      (q.onAcquire l fate (x.leases.redis.acquire st l w).2) := by
  obtain ⟨leases, hs, rfl⟩ := Option.map_eq_some_iff.mp hx
  have hmove : LeaseMove st x.leases leases := .inr ⟨_, hs⟩
  obtain ⟨hnew, hissued⟩ : AList.lookup l.leaseId x.leases.issued = none ∧
      AList.lookup l.leaseId leases.issued = some l := by
    cases hf : fate.executed <;> rw [hf] at hs
    · obtain ⟨hnew, hs⟩ := Option.ite_none_right_eq_some.mp hs
      cases hs
      exact ⟨Option.isNone_iff_eq_none.mp hnew, AList.lookup_insert _⟩
    · obtain ⟨hnew, hs⟩ := Option.ite_none_right_eq_some.mp hs
      cases hs
      exact ⟨Option.isNone_iff_eq_none.mp hnew, AList.lookup_insert _⟩
  have hl : ∀ {q' : AdmissionRequest}, q'.lease = some l → ∀ l',
      q'.lease = some l' → AList.lookup l'.leaseId leases.issued = some l' := by
    intro q' hq l' hl'
    cases hq.symm.trans hl'
    exact hissued
  unfold AdmissionRequest.onAcquire
  dsimp only
  split
  · rename_i hf
    subst hf
    -- turned away: the id is held nowhere
    have hdead : (x.leases.redis.acquire st l w).2.lease = none →
        ¬ leases.redis.alive l.leaseId := by
      obtain ⟨-, hs⟩ := Option.ite_none_right_eq_some.mp hs
      cases hs
      exact acquire_refused hi hnew
    have hrefused : ∀ reason,
        (x.leases.redis.acquire st l w).2.lease = none →
        Leased leases ({ q with lease := some l }.goto
          (.done (.refused reason))) := by
      intro reason hno
      refine ⟨hl rfl, fun l' _ hl' _ _ _ => ?_⟩
      cases hl'
      exact hdead hno
    split
    · refine ⟨hmove, .of_open (hl rfl) ?_, ?_⟩
      · intro result hd
        cases hd
      · rintro (hp | hp) <;> cases hp
    · rename_i hno
      split
      · refine ⟨hmove, hrefused _ hno, ?_⟩
        rintro (hp | hp) <;> cases hp
      · refine ⟨hmove, hrefused _ hno, ?_⟩
        rintro (hp | hp) <;> cases hp
  · refine ⟨hmove, .of_open (hl rfl) ?_, ?_⟩
    · intro result hd
      cases hd
    · rintro (hp | hp) <;> cases hp

theorem Shared.release_leases {x' : Shared} {fate : Fate}
    {result : AdmissionResult}
    (hi : LeaseInv st x.leases.issued x.leases.redis) (h : Leased x.leases q)
    (hx : x.release st q fate = some x') :
    LeaseSpec st x.leases x'.leases (q.onRelease fate result) := by
  unfold Shared.release at hx
  split at hx
  · obtain ⟨l, hl, hx⟩ := Option.bind_eq_some_iff.mp hx
    obtain ⟨leases, hs, rfl⟩ := Option.map_eq_some_iff.mp hx
    have hmove : LeaseMove st x.leases leases := .inr ⟨_, hs⟩
    obtain ⟨l', hl', rfl⟩ := Option.map_eq_some_iff.mp hs
    have hissued := h.issued l hl
    cases hissued.symm.trans hl'
    refine ⟨hmove, ⟨fun l' hl' => h.issued l' hl', fun l' _ hl' _ _ _ => ?_⟩, ?_⟩
    · cases hl.symm.trans hl'
      exact release_dead hi hissued
    · rintro (hp | hp) <;> cases hp
  · rename_i hf
    cases hx
    refine ⟨.inl rfl, ⟨fun l' hl' => h.issued l' hl', ?_⟩, ?_⟩
    · -- the release never ran
      intro _ _ _ _ _ hfailed
      simp [AdmissionRequest.onRelease, hf] at hfailed
    · rintro (hp | hp) <;> cases hp

theorem requestStep_leases {x' : Shared} {q' : AdmissionRequest}
    {command : AdmitCommand}
    (hi : LeaseInv c.leases x.leases.issued x.leases.redis)
    (h : Leased x.leases q)
    (hnone : q.phase = .breaker ∨ q.phase = .acquire → q.lease = none)
    (hs : requestStep c x q command = some (x', q')) :
    LeaseSpec c.leases x.leases x'.leases q' := by
  cases command with
  | breaker answer =>
      obtain ⟨hp, hs⟩ := Option.ite_none_right_eq_some.mp hs
      cases hs
      have hno := hnone (.inl hp)
      have hsame : (q.onBreaker answer).lease = none := by
        cases answer with
        | none => exact hno
        | some isOpen => cases isOpen <;> exact hno
      exact ⟨.inl rfl, .of_none hsame, fun _ => hsame⟩
  | acquire id fate =>
      obtain ⟨hp, hs⟩ := Option.ite_none_right_eq_some.mp hs
      obtain ⟨x₁, hx, hs⟩ := Option.map_eq_some_iff.mp hs
      cases hs
      exact Shared.acquire_leases hi hx
  | window second =>
      obtain ⟨hp, hs⟩ := Option.ite_none_right_eq_some.mp hs
      cases hs
      exact .of_underway h rfl rfl
  | incr fate =>
      unfold requestStep at hs
      dsimp only at hs
      split at hs
      · cases hs
        unfold Shared.count
        split
        · exact .of_underway h AdmissionRequest.onIncr_underway.1
            AdmissionRequest.onIncr_underway.2
        · exact .of_underway h AdmissionRequest.onIncr_underway.1
            AdmissionRequest.onIncr_underway.2
      · cases hs
  | expire fate =>
      unfold requestStep at hs
      dsimp only at hs
      split at hs
      · split at hs
        · cases hs
          exact .of_underway h AdmissionRequest.onCounted_underway.1
            AdmissionRequest.onCounted_underway.2
        · cases hs
          exact .of_underway h rfl rfl
      · cases hs
  | decr fate =>
      unfold requestStep at hs
      dsimp only at hs
      split at hs
      · cases hs
        unfold Shared.count
        split
        · exact .of_underway h AdmissionRequest.onDecr_underway.1
            AdmissionRequest.onDecr_underway.2
        · exact .of_underway h AdmissionRequest.onDecr_underway.1
            AdmissionRequest.onDecr_underway.2
      · cases hs
  | release fate =>
      unfold requestStep at hs
      dsimp only at hs
      split at hs
      · obtain ⟨x₁, hx, hs⟩ := Option.map_eq_some_iff.mp hs
        cases hs
        exact Shared.release_leases hi h hx
      · obtain ⟨x₁, hx, hs⟩ := Option.map_eq_some_iff.mp hs
        cases hs
        exact Shared.release_leases hi h hx
      · cases hs
  | crash =>
      unfold requestStep at hs
      dsimp only at hs
      split at hs
      · cases hs
      · cases hs
        exact .of_underway h rfl rfl

end Request

/-! ## The system -/

section System

variable {c : AdmissionController}

/-- What every step keeps, for requests that are in time. -/
structure AdmissionInv (c : AdmissionController) (s : AdmissionSystem) :
    Prop where
  leases : LeaseInv c.leases s.shared.leases.issued s.shared.leases.redis
  ok : ∀ {r q}, AList.lookup r s.requests = some q → q.Ok c
  leased : ∀ {r q}, AList.lookup r s.requests = some q →
    Leased s.shared.leases q
  unleased : ∀ {r q}, AList.lookup r s.requests = some q →
    q.phase = .breaker ∨ q.phase = .acquire → q.lease = none
  current : ∀ {r q e}, AList.lookup r s.requests = some q →
    q.phase.over = false → e ∈ q.keys → e.1 ∉ s.retired
  exact : ∀ k, k ∉ s.retired →
    s.shared.counters.value k = (s.outstanding k : Int)
  within : ∀ k,
    (s.requests.count fun _ q => q.passed.contains k) ≤ c.cpsLimit k

variable {s s' : AdmissionSystem}

theorem AdmissionInv.request (h : AdmissionInv c s) {r : AdmissionRequestId}
    {campaignId : CampaignId} {providerName : String} {holderId : HolderId}
    {workerId : String}
    (hs : admitStep c s (.request r campaignId providerName holderId workerId)
      = some s') : AdmissionInv c s' := by
  obtain ⟨hnew, hs⟩ := Option.ite_none_right_eq_some.mp hs
  have hnew := Option.isNone_iff_eq_none.mp hnew
  cases hs
  have hlookup : ∀ {r' q}, AList.lookup r' (AList.insert r
      ({ campaignId, providerName, holderId, workerId } : AdmissionRequest)
      s.requests) = some q →
      q = { campaignId, providerName, holderId, workerId } ∨
        AList.lookup r' s.requests = some q := by
    intro r' q hq
    rw [Table.lookup_insert'] at hq
    split at hq
    · exact .inl (Option.some.inj hq).symm
    · exact .inr hq
  refine ⟨h.leases, fun hq => ?_, fun hq => ?_, fun hq hp => ?_,
    fun hq ho he => ?_, fun k hk => ?_, fun k => ?_⟩
  · rcases hlookup hq with rfl | hq
    · exact ⟨⟨rfl, rfl, rfl⟩, List.nodup_nil, List.nodup_nil, by simp, by simp⟩
    · exact h.ok hq
  · rcases hlookup hq with rfl | hq
    · exact .of_none rfl
    · exact h.leased hq
  · rcases hlookup hq with rfl | hq
    · rfl
    · exact h.unleased hq hp
  · rcases hlookup hq with rfl | hq
    · cases he
    · exact h.current hq ho he
  · rw [h.exact k hk]
    unfold AdmissionSystem.outstanding
    rw [Table.count_insert_new hnew]
    simp
  · dsimp only
    rw [Table.count_insert_new hnew]
    simpa using h.within k

/-- A row that is rewritten moves a count by its own share. -/
theorem count_rewritten {t : Table AdmissionRequestId AdmissionRequest} {r : AdmissionRequestId}
    {q : AdmissionRequest} (hq : AList.lookup r t = some q)
    (q' : AdmissionRequest) (f : AdmissionRequest → List CpsKey) (k : CpsKey) :
    (Table.count (AList.insert r q' t) (fun _ q => (f q).contains k) : Int)
        + (if k ∈ f q then 1 else 0)
      = (t.count fun _ q => (f q).contains k)
        + if k ∈ f q' then 1 else 0 := by
  have h := Table.count_insert_old (p := fun _ q => (f q).contains k) q' hq
  simp only [List.contains_iff_mem] at h
  by_cases hold : k ∈ f q <;> by_cases hnew : k ∈ f q' <;>
    simp only [hold, hnew, if_true, if_false] at h ⊢ <;> omega

/-- What passed is counted among what is outstanding. -/
theorem AdmissionInv.passed_le (hok : ∀ {r q},
    AList.lookup r s.requests = some q → q.Ok c) (k : CpsKey) :
    (s.requests.count fun _ q => q.passed.contains k) ≤ s.outstanding k := by
  refine Table.count_mono fun r q hq hk => ?_
  rw [List.contains_iff_mem] at hk ⊢
  exact (hok hq).passed k hk

theorem AdmissionInv.command (h : AdmissionInv c s) {r : AdmissionRequestId}
    {command : AdmitCommand} (hin : inTime c s (.step r command) = true)
    (hs : admitStep c s (.step r command) = some s') : AdmissionInv c s' := by
  obtain ⟨q, hq, hs⟩ := Option.bind_eq_some_iff.mp hs
  obtain ⟨⟨x', q'⟩, hstep, rfl⟩ := Option.map_eq_some_iff.mp hs
  have hspec := requestStep_spec (h.ok hq) hstep
  have hlease := requestStep_leases h.leases (h.leased hq) (h.unleased hq) hstep
  have hlookup : ∀ {r' q₁}, AList.lookup r' (AList.insert r q' s.requests)
      = some q₁ → q₁ = q' ∨ AList.lookup r' s.requests = some q₁ := by
    intro r' q₁ hq₁
    rw [Table.lookup_insert'] at hq₁
    split at hq₁
    · exact .inl (Option.some.inj hq₁).symm
    · exact .inr hq₁
  have hok : ∀ {r' q₁}, AList.lookup r' (AList.insert r q' s.requests)
      = some q₁ → q₁.Ok c := by
    intro r' q₁ hq₁
    rcases hlookup hq₁ with rfl | hq₁
    · exact hspec.ok
    · exact h.ok hq₁
  have hcurrent : ∀ e ∈ q'.keys, e.1 ∉ s.retired := by
    intro e he
    rcases hspec.keys e he with he | ⟨second, rfl, he⟩
    · exact h.current hq hspec.active he
    · change (AList.lookup r s.requests).all (fun q =>
        (c.cpsKeys q.campaignId q.providerName second).all fun e =>
          !s.retired.contains e.1) = true at hin
      rw [hq] at hin
      have hfree := List.all_eq_true.mp hin e he
      simpa using hfree
  have hexact : ∀ k, k ∉ s.retired → x'.counters.value k
      = (Table.count (AList.insert r q' s.requests)
          fun _ q => q.outstanding.contains k : Nat) := by
    intro k hk
    have hcount := count_rewritten hq q' (·.outstanding) k
    have hold := h.exact k hk
    have hmove := hspec.counters k
    unfold AdmissionSystem.outstanding at hold
    unfold AdmissionRequest.share at hmove
    omega
  refine ⟨hlease.move.inv h.leases, hok, fun hq₁ => ?_, fun hq₁ hp => ?_,
    fun hq₁ ho he => ?_, hexact, fun k => ?_⟩
  · rcases hlookup hq₁ with rfl | hq₁
    · exact hlease.leased
    · exact hlease.move.leased h.leases (h.leased hq₁)
  · rcases hlookup hq₁ with rfl | hq₁
    · exact hlease.none hp
    · exact h.unleased hq₁ hp
  · rcases hlookup hq₁ with rfl | hq₁
    · exact hcurrent _ he
    · exact h.current hq₁ ho he
  · -- what newly passed was answered within the limit
    have hcount := count_rewritten hq q' (·.passed) k
    have hold := h.within k
    dsimp only at hcount ⊢
    by_cases hk : k ∈ q'.passed
    · rcases hspec.passed k hk with hk' | ⟨hkeys, hle⟩
      · rw [if_pos hk, if_pos hk'] at hcount
        omega
      · obtain ⟨e, he, rfl⟩ := List.mem_map.mp hkeys
        have hexact := hexact e.1 (h.current hq hspec.active he)
        have hpassed := AdmissionInv.passed_le
          (s := { s with shared := x', requests := AList.insert r q' s.requests })
          hok e.1
        unfold AdmissionSystem.outstanding at hpassed
        dsimp only at hpassed
        omega
    · rw [if_neg hk] at hcount
      split at hcount <;> omega

theorem AdmissionInv.leaseAct (h : AdmissionInv c s) {act : LeaseAct}
    (hs : admitStep c s (.lease act) = some s') : AdmissionInv c s' := by
  obtain ⟨leases, hstep, rfl⟩ := Option.map_eq_some_iff.mp hs
  exact ⟨leaseStep_inv h.leases hstep, h.ok,
    fun hq => (h.leased hq).step h.leases hstep, h.unleased, h.current, h.exact,
    h.within⟩

theorem AdmissionInv.counterExpires (h : AdmissionInv c s) {k : CpsKey}
    (hin : inTime c s (.counterExpires k) = true)
    (hs : admitStep c s (.counterExpires k) = some s') :
    AdmissionInv c s' := by
  cases hs
  have hover : ∀ {r q e}, AList.lookup r s.requests = some q →
      e ∈ q.keys → e.1 = k → q.phase.over = true := by
    intro r q e hq he hk
    have hin := Table.any_eq_false.mp (Bool.not_eq_true' _ ▸ hin) r q hq
    rw [Bool.and_eq_false_iff] at hin
    rcases hin with hin | hin
    · have := List.any_eq_false.mp hin e he
      exact absurd (beq_iff_eq.mpr hk) this
    · simpa using hin
  refine ⟨h.leases, h.ok, h.leased, h.unleased, fun hq ho he => ?_,
    fun k' hk' => ?_, h.within⟩
  · intro hmem
    rcases List.mem_cons.mp hmem with heq | hmem
    · rw [hover hq he heq] at ho
      cases ho
    · exact h.current hq ho he hmem
  · obtain ⟨hne, hk'⟩ : k' ≠ k ∧ k' ∉ s.retired := by
      simpa [not_or] using hk'
    have hvalue : CpsCounters.value (AList.erase k s.shared.counters) k'
        = s.shared.counters.value k' := by
      unfold CpsCounters.value
      rw [AList.lookup_erase_ne hne]
    exact hvalue.trans (h.exact k' hk')

theorem admitStep_inv {act : AdmitAct} (h : AdmissionInv c s)
    (hin : inTime c s act = true) (hs : admitStep c s act = some s') :
    AdmissionInv c s' := by
  cases act with
  | request r campaignId providerName holderId workerId => exact h.request hs
  | step r command => exact h.command hin hs
  | lease act => exact h.leaseAct hs
  | counterExpires k => exact h.counterExpires hin hs

theorem admissionInv_fresh (t : Nat) : AdmissionInv c (.fresh t) where
  leases := leaseInv_fresh t
  ok h := by cases h
  leased h := by cases h
  unleased h := by cases h
  current h := by cases h
  exact _ _ := rfl
  within _ := Nat.zero_le _

/-- **Admission is exact.** Whatever the requests in flight, no more calls
are admitted under a key than its limit; a counter is the increments that
stand, and none of a request refused over its rate does; a request that was
not admitted holds no lease, provided that its release ran. -/
theorem admission_exact (c : AdmissionController) (t : Nat)
    (s : AdmissionSystem)
    (h : Run (admitStep c) (fun s a => inTime c s a = true) (.fresh t) s) :
    (∀ k, s.admittedUnder k ≤ c.cpsLimit k) ∧
    (∀ k, k ∉ s.retired →
      s.shared.counters.value k = (s.outstanding k : Int)) ∧
    (∀ r q, AList.lookup r s.requests = some q →
      q.phase = .done (.refused .cpsExceeded) → q.outstanding = []) ∧
    ∀ r q l result, AList.lookup r s.requests = some q → q.lease = some l →
      q.phase = .done result → result ≠ .admitted → q.releaseFailed = false →
      ¬ s.shared.leases.redis.alive l.leaseId := by
  have hi : AdmissionInv c s :=
    h.inv (fun _ _ _ hi hin hs => admitStep_inv hi hin hs)
      (admissionInv_fresh t)
  refine ⟨fun k => ?_, hi.exact, fun r q hq hp => ?_,
    fun r q l result hq hl hp hne hf => (hi.leased hq).freed l result hl hp hne hf⟩
  · refine (Table.count_mono fun r q hq hk => ?_).trans (hi.within k)
    obtain ⟨hp, hk⟩ := Bool.and_eq_true_iff.mp hk
    obtain ⟨e, he, hk⟩ := List.any_eq_true.mp hk
    have hphase := (hi.ok hq).phase
    rw [beq_iff_eq.mp hp] at hphase
    rw [List.contains_iff_mem, ← beq_iff_eq.mp hk]
    exact hphase e he
  · have hphase := (hi.ok hq).phase
    rw [hp] at hphase
    exact hphase

end System

/-! ## A second call in the same second -/

/-- One call per second for every scope. -/
def oneCps : AdmissionController where
  leases := { oneSlot with limit := fun _ => 2 }
  globalCpsLimit := 1
  campaignCpsLimit := 1
  providerCpsLimit := 1

/-- The first call is admitted, the second is over the global rate; its
release has this fate. -/
def secondCall (released : Fate) : List AdmitAct :=
  [.request 1 1 "twilio" "a" "w1", .request 2 1 "twilio" "b" "w2",
    .step 1 (.breaker (some false)), .step 1 (.acquire 1 .answered),
    .step 1 (.window 7), .step 1 (.incr .answered), .step 1 (.expire .answered),
    .step 1 (.incr .answered), .step 1 (.expire .answered),
    .step 1 (.incr .answered), .step 1 (.expire .answered),
    .step 2 (.breaker (some false)), .step 2 (.acquire 2 .answered),
    .step 2 (.window 7), .step 2 (.incr .answered), .step 2 (.decr .answered),
    .step 2 (.release released)]

theorem admission_exact_secondCall :
    ∃ s q, runActs (admitStep oneCps) (.fresh 0) (secondCall .answered) = some s ∧
      AList.lookup 2 s.requests = some q ∧
      q.phase = .done (.refused .cpsExceeded) ∧ q.outstanding = [] ∧
      s.shared.counters.value (.global 7) = 1 ∧
      ¬ s.shared.leases.redis.alive 2 := by
  have hrun : holdsAlong (admitStep oneCps) (inTime oneCps) (.fresh 0)
      (secondCall .answered) = true := by decide +kernel
  obtain ⟨s, hs, hrun⟩ := Run.of_holdsAlong _ _ _ _ hrun
  have hany : (runActs (admitStep oneCps) (.fresh 0) (secondCall .answered)).any
      (fun s => decide (s.shared.counters.value (.global 7) = 1) &&
        (AList.lookup 2 s.requests).any fun q =>
          decide (q.phase = .done (.refused .cpsExceeded) ∧
            q.releaseFailed = false ∧ q.lease.map (·.leaseId) = some 2))
      = true := by decide +kernel
  rw [hs, Option.any_some] at hany
  obtain ⟨hvalue, hany⟩ := Bool.and_eq_true_iff.mp hany
  obtain ⟨q, hq, hdec⟩ := (Option.any_eq_true _ _).mp hany
  obtain ⟨hp, hf, hl⟩ := of_decide_eq_true hdec
  obtain ⟨l, hl, hid⟩ := Option.map_eq_some_iff.mp hl
  obtain ⟨-, -, hzero, hfree⟩ := admission_exact oneCps 0 s hrun
  have hdead := hfree 2 q l _ hq hl hp (by decide) hf
  rw [hid] at hdead
  exact ⟨s, q, hs, hq, hp, hzero 2 q hq hp, of_decide_eq_true hvalue, hdead⟩

/-- A release that never reached Redis leaves a refused call its slot, until
the lease expires. -/
theorem refused_holds_its_lease :
    ¬ ∀ s, Run (admitStep oneCps) (fun s a => inTime oneCps s a = true)
        (.fresh 0) s →
      ∀ r q l reason, AList.lookup r s.requests = some q → q.lease = some l →
        q.phase = .done (.refused reason) →
        ¬ s.shared.leases.redis.alive l.leaseId := by
  intro hclaim
  have hrun : holdsAlong (admitStep oneCps) (inTime oneCps) (.fresh 0)
      (secondCall .unsent) = true := by decide +kernel
  obtain ⟨s, hs, hrun⟩ := Run.of_holdsAlong _ _ _ _ hrun
  have hany : (runActs (admitStep oneCps) (.fresh 0) (secondCall .unsent)).any
      (fun s => decide (s.shared.leases.redis.now = 0 ∧
          (s.shared.leases.redis.members .global).score 2 = some 600000) &&
        (AList.lookup 2 s.requests).any fun q =>
          decide (q.phase = .done (.refused .cpsExceeded) ∧
            q.lease.map (·.leaseId) = some 2)) = true := by decide +kernel
  rw [hs, Option.any_some] at hany
  obtain ⟨hlive, hany⟩ := Bool.and_eq_true_iff.mp hany
  obtain ⟨hnow, hscore⟩ := of_decide_eq_true hlive
  obtain ⟨q, hq, hdec⟩ := (Option.any_eq_true _ _).mp hany
  obtain ⟨hp, hl⟩ := of_decide_eq_true hdec
  obtain ⟨l, hl, hid⟩ := Option.map_eq_some_iff.mp hl
  refine hclaim s hrun 2 q l _ hq hl hp ⟨.global, 600000, ?_, ?_⟩
  · rw [hid]
    exact hscore
  · rw [hnow]
    decide

end CallingAgent
