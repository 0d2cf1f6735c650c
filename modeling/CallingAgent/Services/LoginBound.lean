import CallingAgent.Services.LoginThrottle

/-!
# Login bound — parallel guesses against one counter

A guess is counted only after its evaluation, so the guesses in flight are
what a counter does not show. The limit holds as long as every guess that
is let through still has a place below it.
-/

namespace CallingAgent

open Lib

/-! ## Guesses in flight -/

section

variable (env : LoginEnv)

/-- The credentials are wrong. -/
def LoginCall.wrong (c : LoginCall) : Bool :=
  (authenticate env.settings c.username c.password).isNone

/-- One of these buckets is that of the key. -/
def charges (key : FailureKey) (bs : List FailureBucket) : Bool :=
  bs.any (·.key == key)

/-- The buckets of a request. -/
def LoginCall.buckets (c : LoginCall) : List FailureBucket :=
  failureBuckets env c.identity c.username

/-- The guess has been let through by the key's counter, may still get
through to its evaluation, and is not counted yet. -/
def LoginCall.owes (c : LoginCall) (key : FailureKey) : Bool :=
  c.wrong env && match c.phase with
    | .enforce rest overLimit _ =>
        !overLimit && charges key (c.buckets env) && !charges key rest
    | .ttl b n rest overLimit _ =>
        !overLimit && decide (n < b.limit) && charges key (c.buckets env)
          && !charges key rest
    | .authenticate => charges key (c.buckets env)
    | .record rest => charges key rest
    | .done _ => false

/-- The guesses that will be counted under a key. -/
def LoginSystem.pending (s : LoginSystem) (key : FailureKey) : Nat :=
  s.calls.count fun _ c => c.owes env key

/-- A wrong guess is let through by a counter only if the guesses already
in flight leave it a place. -/
def leavesRoom (s : LoginSystem) : LoginAct → Bool
  | .step i =>
      match s.call i with
      | some c =>
          match c.phase with
          | .enforce (b :: _) false _ =>
              !c.wrong env || decide (b.limit ≤ s.count b.key)
                || decide (s.count b.key + s.pending env b.key < b.limit)
          | _ => true
      | none => true
  | _ => true

/-- What is left of a loop is a part of the request's buckets, and only a
wrong guess is recorded. -/
def LoginCall.Formed (c : LoginCall) : Prop :=
  match c.phase with
  | .enforce rest _ _ => rest <:+ c.buckets env
  | .ttl b _ rest _ _ => b :: rest <:+ c.buckets env
  | .record rest => rest <:+ c.buckets env ∧ c.wrong env = true
  | .authenticate | .done _ => True

/-- The counters are right, no window is over its limit, and there is a
place for every guess in flight. -/
structure LoginInv (s : LoginSystem) : Prop where
  consistent : s.failures.Consistent
  within : s.failures.Within env.limit
  room : ∀ key, s.count key + s.pending env key ≤ env.limit key
  formed : ∀ i c, s.call i = some c → c.Formed env

end

section

variable {env : LoginEnv} {s s' : LoginSystem} {i : LoginId} {c : LoginCall}
  {key : FailureKey}

/-- The two keys of a request differ, and each bucket has its key's limit. -/
theorem bucket_of_suffix {b : FailureBucket} {rest : List FailureBucket}
    (h : b :: rest <:+ c.buckets env) :
    b.limit = env.limit b.key ∧ b.key.identity = c.identity ∧
      charges b.key rest = false ∧ charges b.key (c.buckets env) = true := by
  obtain ⟨before, hb⟩ := h
  simp only [LoginCall.buckets, failureBuckets] at hb ⊢
  match before, hb with
  | [], hb =>
      cases hb
      simp [LoginEnv.limit, FailureKey.identity, charges]
  | [_], hb =>
      cases hb
      simp [LoginEnv.limit, FailureKey.identity, charges]
  | [_, _], hb => simp at hb
  | _ :: _ :: _ :: _, hb => simp at hb

theorem charges_cons {b : FailureBucket} {rest : List FailureBucket} :
    charges key (b :: rest) = (b.key == key || charges key rest) := rfl

theorem LoginSystem.call_setCall (c' : LoginCall) (j : LoginId) :
    (s.setCall i c').call j = if j = i then some c' else s.call j :=
  Table.lookup_insert' _ _ _ _

/-- A request goes on: what it owes now instead of before. -/
theorem LoginSystem.pending_setCall (env : LoginEnv) (key : FailureKey)
    (h : s.call i = some c) (c' : LoginCall) :
    (s.setCall i c').pending env key + (if c.owes env key then 1 else 0)
      = s.pending env key + if c'.owes env key then 1 else 0 :=
  Table.count_insert_old c' h

/-- A request that newly owes something found a place for it. -/
theorem LoginInv.setCall (hi : LoginInv env s) (h : s.call i = some c)
    {c' : LoginCall} (hc : c'.Formed env)
    (ho : ∀ key, c'.owes env key = true → c.owes env key = true ∨
      s.count key + s.pending env key < env.limit key) :
    LoginInv env (s.setCall i c') where
  consistent := hi.consistent
  within := hi.within
  formed j d hj := by
    rw [LoginSystem.call_setCall] at hj
    split at hj
    · cases hj
      exact hc
    · exact hi.formed j d hj
  room key := by
    show s.count key + _ ≤ _
    have hp := LoginSystem.pending_setCall env key h c'
    have hroom := hi.room key
    have ho := ho key
    cases hn : c'.owes env key <;> cases hb : c.owes env key <;>
      simp only [hn, hb] at hp ho <;> simp at hp ho <;> omega

/-- A recorded guess takes the place it had. -/
theorem LoginInv.record (hi : LoginInv env s) (h : s.call i = some c)
    {b : FailureBucket} {rest : List FailureBucket}
    (hp : c.phase = .record (b :: rest)) :
    LoginInv env { s.setCall i { c with phase := .record rest } with
      failures := s.failures.hit s.now b.key loginWindow } := by
  have hformed := hi.formed i c h
  simp only [LoginCall.Formed, hp] at hformed
  obtain ⟨hsuffix, hwrong⟩ := hformed
  obtain ⟨-, -, hrest, -⟩ := bucket_of_suffix hsuffix
  have howes : c.owes env b.key = true := by
    simp [LoginCall.owes, hp, hwrong, charges_cons]
  have hbelow : s.count b.key < env.limit b.key := by
    have hone := LoginSystem.pending_setCall env b.key h
      { c with phase := .done .unauthorized }
    have hroom := hi.room b.key
    rw [if_pos howes] at hone
    simp [LoginCall.owes] at hone
    omega
  constructor
  case consistent => exact hi.consistent.hit (by decide)
  case within => exact hi.within.hit hi.consistent (by decide) hbelow
  case formed =>
    intro j d hj
    have hj := (LoginSystem.call_setCall _ j).symm.trans hj
    split at hj
    · cases hj
      exact ⟨(List.suffix_cons b rest).trans hsuffix, hwrong⟩
    · exact hi.formed j d hj
  case room =>
    intro key
    have hcount : (s.failures.hit s.now b.key loginWindow).count s.now key
        = if key = b.key then s.count b.key + 1 else s.count key :=
      FixedWindows.count_hit
    have hpend := LoginSystem.pending_setCall env key h
      { c with phase := .record rest }
    have hroom := hi.room key
    show (s.failures.hit s.now b.key loginWindow).count s.now key
      + (s.setCall i _).pending env key ≤ _
    rw [hcount]
    by_cases hk : key = b.key
    · subst hk
      rw [if_pos howes] at hpend
      simp [LoginCall.owes, hrest] at hpend
      rw [if_pos rfl]
      omega
    · have hsame : ({ c with phase := .record rest } : LoginCall).owes env key
          = c.owes env key := by
        have hne : (b.key == key) = false := by simpa using Ne.symm hk
        simp [LoginCall.owes, LoginCall.wrong, hp, charges_cons, hne]
      rw [hsame] at hpend
      rw [if_neg hk]
      omega

/-- Where a request is after a bucket: refused, or past it. -/
theorem enforced_cases (b : FailureBucket) (n : Nat) (t : Int)
    (rest : List FailureBucket) (overLimit : Bool) (worst : Int) :
    b.limit ≤ n ∧ enforced b n t rest overLimit worst
        = .enforce rest true (max worst t) ∨
      n < b.limit ∧ enforced b n t rest overLimit worst
        = .enforce rest overLimit worst := by
  unfold enforced
  by_cases h : b.limit ≤ n
  · exact .inl ⟨h, if_pos h⟩
  · exact .inr ⟨Nat.lt_of_not_le h, if_neg h⟩

/-- The count a bucket was let through with. -/
theorem LoginSystem.count_eq (s : LoginSystem) (key : FailureKey) :
    s.count key = (s.failures.counters.get s.now key).getD 0 := rfl

/-- What is left of a loop stays a part of the buckets. -/
theorem LoginCall.Formed.next (hf : c.Formed env) {phase : LoginPhase}
    {failures : FixedWindows FailureKey}
    (hn : c.next env s = some (phase, failures)) :
    ({ c with phase } : LoginCall).Formed env := by
  unfold LoginCall.Formed at hf
  unfold LoginCall.next at hn
  cases hp : c.phase with
  | enforce rest overLimit worst =>
      rw [hp] at hn hf
      cases rest with
      | nil =>
          cases hn
          cases overLimit <;> trivial
      | cons b rest =>
          dsimp only at hn
          split at hn
          · cases hn
            rcases enforced_cases b 0 0 rest overLimit worst with
              ⟨-, he⟩ | ⟨-, he⟩ <;>
            · rw [he]
              exact (List.suffix_cons b rest).trans hf
          · cases hn
            exact hf
  | ttl b n rest overLimit worst =>
      rw [hp] at hn hf
      cases hn
      rcases enforced_cases b n
          (ttlSeconds s.failures.counters s.now b.key) rest overLimit worst with
        ⟨-, he⟩ | ⟨-, he⟩ <;>
      · rw [he]
        exact (List.suffix_cons b rest).trans hf
  | authenticate =>
      rw [hp] at hn
      dsimp only at hn
      split at hn
      · cases hn
        trivial
      · next hnone =>
        cases hn
        exact ⟨List.suffix_refl _, by simp [LoginCall.wrong, hnone]⟩
  | record rest =>
      rw [hp] at hn hf
      cases rest with
      | nil =>
          cases hn
          trivial
      | cons b rest =>
          cases hn
          exact ⟨(List.suffix_cons b rest).trans hf.1, hf.2⟩
  | done response =>
      rw [hp] at hn
      cases hn

/-- **One command of a request**, let through only where there is room. -/
theorem LoginInv.next (hi : LoginInv env s) (h : s.call i = some c)
    (hroom : leavesRoom env s (.step i) = true)
    {phase : LoginPhase} {failures : FixedWindows FailureKey}
    (hn : c.next env s = some (phase, failures)) :
    LoginInv env { s.setCall i { c with phase } with failures } := by
  have hformed := hi.formed i c h
  have hnext := hformed.next hn
  unfold LoginCall.Formed at hformed
  unfold LoginCall.next at hn
  cases hp : c.phase with
  | enforce rest overLimit worst =>
      rw [hp] at hn hformed
      cases rest with
      | nil =>
          cases hn
          refine hi.setCall h hnext fun key ho => .inl ?_
          cases overLimit <;>
            simp [LoginCall.owes, LoginCall.wrong, LoginCall.buckets, hp,
              charges] at ho ⊢
          exact ho
      | cons b rest =>
          have hkeys := bucket_of_suffix hformed
          -- a bucket passed for the first time has a place left
          have hplace : ∀ key, overLimit = false → c.wrong env = true →
              s.count b.key < b.limit →
              charges key (c.buckets env) = true →
              charges key rest = false →
              c.owes env key = true ∨
                s.count key + s.pending env key < env.limit key := by
            intro key hover hwrong hbelow hmine hpassed
            by_cases hk : b.key = key
            · subst hk hover
              simp only [leavesRoom, h, hp, hwrong, Bool.not_true,
                Bool.false_or, Bool.or_eq_true, decide_eq_true_eq] at hroom
              rw [hkeys.1] at hroom hbelow
              omega
            · have hne : (b.key == key) = false := by simpa using hk
              exact .inl (by
                simp [LoginCall.owes, hp, hwrong, hover, hmine, charges_cons,
                  hne, hpassed])
          dsimp only at hn
          cases hg : s.failures.counters.get s.now b.key with
          | none =>
              rw [hg] at hn
              cases hn
              have hzero : s.count b.key = 0 := by
                rw [LoginSystem.count_eq, hg]
                rfl
              rcases enforced_cases b 0 0 rest overLimit worst with
                ⟨-, he⟩ | ⟨hlt, he⟩
              · rw [he] at hnext ⊢
                refine hi.setCall h hnext fun key ho => ?_
                simp [LoginCall.owes] at ho
              · rw [he] at hnext ⊢
                refine hi.setCall h hnext fun key ho => ?_
                simp only [LoginCall.owes, Bool.and_eq_true,
                  Bool.not_eq_true'] at ho
                exact hplace key ho.2.1.1 ho.1 (hzero ▸ hlt) ho.2.1.2 ho.2.2
          | some n =>
              rw [hg] at hn
              cases hn
              have hcount : s.count b.key = n := by
                rw [LoginSystem.count_eq, hg]
                rfl
              refine hi.setCall h hnext fun key ho => ?_
              simp only [LoginCall.owes, Bool.and_eq_true, Bool.not_eq_true',
                decide_eq_true_eq] at ho
              exact hplace key ho.2.1.1.1 ho.1 (hcount ▸ ho.2.1.1.2) ho.2.1.2
                ho.2.2
  | ttl b n rest overLimit worst =>
      rw [hp] at hn
      cases hn
      rcases enforced_cases b n
          (ttlSeconds s.failures.counters s.now b.key) rest overLimit worst with
        ⟨-, he⟩ | ⟨hlt, he⟩
      · rw [he] at hnext ⊢
        refine hi.setCall h hnext fun key ho => ?_
        simp [LoginCall.owes] at ho
      · rw [he] at hnext ⊢
        refine hi.setCall h hnext fun key ho => .inl ?_
        simp only [LoginCall.owes, Bool.and_eq_true, Bool.not_eq_true', hp,
          decide_eq_true_eq] at ho ⊢
        exact ⟨ho.1, ⟨⟨ho.2.1.1, hlt⟩, ho.2.1.2⟩, ho.2.2⟩
  | authenticate =>
      rw [hp] at hn
      dsimp only at hn
      split at hn
      · cases hn
        refine hi.setCall h hnext fun key ho => ?_
        simp [LoginCall.owes] at ho
      · cases hn
        refine hi.setCall h hnext fun key ho => .inl ?_
        simp only [LoginCall.owes, hp] at ho ⊢
        exact ho
  | record rest =>
      rw [hp] at hn
      cases rest with
      | nil =>
          cases hn
          refine hi.setCall h hnext fun key ho => ?_
          simp [LoginCall.owes] at ho
      | cons b rest =>
          cases hn
          exact hi.record h hp
  | done response =>
      rw [hp] at hn
      cases hn

theorem LoginInv.arrive (hi : LoginInv env s)
    (identity username password : String) :
    LoginInv env (s.setCall s.calls.nextKey
      (newLogin env identity username password)) where
  consistent := hi.consistent
  within := hi.within
  formed j d hj := by
    rw [LoginSystem.call_setCall] at hj
    split at hj
    · cases hj
      exact List.suffix_refl _
    · exact hi.formed j d hj
  room key := by
    have hnew : (newLogin env identity username password).owes env key
        = false := by
      simp [LoginCall.owes, newLogin, LoginCall.buckets]
    have hcount : (s.setCall s.calls.nextKey
        (newLogin env identity username password)).pending env key
        = s.pending env key + if (newLogin env identity username
            password).owes env key then 1 else 0 :=
      Table.count_insert_new (Table.lookup_nextKey _)
    show s.count key + _ ≤ _
    rw [hcount, hnew]
    exact hi.room key

/-- **Every step keeps the bound**, while guesses are let through only
where there is room. -/
theorem LoginInv.step (hi : LoginInv env s) {act : LoginAct}
    (hroom : leavesRoom env s act = true)
    (h : loginStep env s act = some s') : LoginInv env s' := by
  cases act with
  | arrive identity username password =>
      cases h
      exact hi.arrive identity username password
  | step i =>
      obtain ⟨c, hc, h⟩ := Option.bind_eq_some_iff.mp h
      obtain ⟨⟨phase, failures⟩, hn, rfl⟩ := Option.map_eq_some_iff.mp h
      exact hi.next hc hroom hn
  | tick d =>
      cases h
      refine ⟨hi.consistent, hi.within, fun key => ?_, hi.formed⟩
      have hlater : s.failures.count (s.now + d) key
          ≤ s.failures.count s.now key :=
        FixedWindows.count_later (Nat.le_add_right _ _)
      exact Nat.le_trans (Nat.add_le_add_right hlater _) (hi.room key)

/-! ## Refusals -/

/-- No counter and no request. -/
structure LoginSystem.Fresh (s : LoginSystem) : Prop where
  failures : s.failures = {}
  calls : s.calls = ∅

theorem loginInv_fresh (h : s.Fresh) : LoginInv env s where
  consistent := h.failures ▸ FixedWindows.consistent_empty
  within := h.failures ▸ FixedWindows.within_empty
  room key := by
    have hcount : s.count key = 0 := by
      rw [LoginSystem.count, h.failures]
      rfl
    have hpending : s.pending env key = 0 := by
      rw [LoginSystem.pending, h.calls]
      rfl
    rw [hcount, hpending]
    exact Nat.zero_le _
  formed i c hc := by
    rw [LoginSystem.call, h.calls] at hc
    cases hc

/-- On the way from `s₀` to `s` the request itself reads this counter, after
it arrived and before it is answered, and `P` holds of the state it reads. -/
def Reads (env : LoginEnv) (s₀ s : LoginSystem) (i : LoginId)
    (b : FailureBucket) (P : LoginSystem → Prop) : Prop :=
  ∃ t t' c rest overLimit worstTtl,
    Run (loginStep env) (fun _ _ => True) s₀ t ∧ t.call i = some c ∧
      c.phase = .enforce (b :: rest) overLimit worstTtl ∧
      loginStep env t (.step i) = some t' ∧
      Run (loginStep env) (fun _ _ => True) t' s ∧ P t

/-- The request read one of its own buckets and found it full. -/
def LoginCall.FoundFull (env : LoginEnv) (s₀ s : LoginSystem) (i : LoginId)
    (c : LoginCall) : Prop :=
  ∃ b ∈ c.buckets env, Reads env s₀ s i b fun t => b.limit ≤ t.count b.key

/-- A refusal, decided or about to be, rests on a bucket found full. -/
def LoginCall.Refusal (env : LoginEnv) (s₀ s : LoginSystem) (i : LoginId)
    (c : LoginCall) : Prop :=
  match c.phase with
  | .enforce _ overLimit _ => overLimit = true → c.FoundFull env s₀ s i
  | .ttl b n _ overLimit _ => (Reads env s₀ s i b fun t => t.count b.key = n) ∧
      (overLimit = true → c.FoundFull env s₀ s i)
  | .done (.tooMany _) => c.FoundFull env s₀ s i
  | _ => True

structure RefusalInv (env : LoginEnv) (s₀ s : LoginSystem) : Prop where
  run : Run (loginStep env) (fun _ _ => True) s₀ s
  calls : ∀ i c, s.call i = some c → c.Formed env ∧ c.Refusal env s₀ s i

section

variable {s₀ : LoginSystem} {act : LoginAct}

theorem Reads.step {b : FailureBucket} {P : LoginSystem → Prop}
    (h : Reads env s₀ s i b P) (hs : loginStep env s act = some s') :
    Reads env s₀ s' i b P := by
  obtain ⟨t, t', c, rest, overLimit, worstTtl, h₁, hc, hp, hstep, h₂, ht⟩ := h
  exact ⟨t, t', c, rest, overLimit, worstTtl, h₁, hc, hp, hstep,
    .step h₂ trivial hs, ht⟩

theorem Reads.imp {b : FailureBucket} {P Q : LoginSystem → Prop}
    (hpq : ∀ t, P t → Q t) (h : Reads env s₀ s i b P) :
    Reads env s₀ s i b Q := by
  obtain ⟨t, t', c, rest, overLimit, worstTtl, h₁, hc, hp, hstep, h₂, ht⟩ := h
  exact ⟨t, t', c, rest, overLimit, worstTtl, h₁, hc, hp, hstep, h₂, hpq t ht⟩

theorem LoginCall.FoundFull.step (h : c.FoundFull env s₀ s i)
    (hs : loginStep env s act = some s') : c.FoundFull env s₀ s' i := by
  obtain ⟨b, hb, hread⟩ := h
  exact ⟨b, hb, hread.step hs⟩

theorem LoginCall.Refusal.step (h : c.Refusal env s₀ s i)
    (hs : loginStep env s act = some s') : c.Refusal env s₀ s' i := by
  unfold LoginCall.Refusal at h ⊢
  split
  · next hp =>
    rw [hp] at h
    exact fun ho => (h ho).step hs
  · next hp =>
    rw [hp] at h
    exact ⟨h.1.step hs, fun ho => (h.2 ho).step hs⟩
  · next hp =>
    rw [hp] at h
    exact LoginCall.FoundFull.step h hs
  · trivial

/-- A request that goes on is refused only for a bucket it found full. -/
theorem LoginCall.Refusal.next (hi : RefusalInv env s₀ s)
    (hc : s.call i = some c) {phase : LoginPhase}
    {failures : FixedWindows FailureKey}
    (hn : c.next env s = some (phase, failures))
    (hs : loginStep env s (.step i) = some s') :
    ({ c with phase } : LoginCall).Refusal env s₀ s' i := by
  obtain ⟨hf, hr⟩ := hi.calls i c hc
  unfold LoginCall.Formed at hf
  unfold LoginCall.Refusal at hr
  unfold LoginCall.next at hn
  cases hp : c.phase with
  | enforce rest overLimit worst =>
      rw [hp] at hn hf hr
      cases rest with
      | nil =>
          cases hn
          cases overLimit with
          | true => exact LoginCall.FoundFull.step (hr rfl) hs
          | false => trivial
      | cons b rest =>
          have hmem : b ∈ c.buckets env := hf.subset List.mem_cons_self
          have hnow : ∀ {P : LoginSystem → Prop}, P s →
              Reads env s₀ s' i b P := fun h =>
            ⟨s, s', c, rest, overLimit, worst, hi.run, hc, hp, hs, .refl, h⟩
          dsimp only at hn
          cases hg : s.failures.counters.get s.now b.key with
          | none =>
              rw [hg] at hn
              cases hn
              have hzero : s.count b.key = 0 := by
                rw [LoginSystem.count_eq, hg]
                rfl
              rcases enforced_cases b 0 0 rest overLimit worst with
                ⟨hle, he⟩ | ⟨-, he⟩
              · rw [he]
                exact fun _ => ⟨b, hmem, hnow (hzero ▸ hle)⟩
              · rw [he]
                exact fun ho => LoginCall.FoundFull.step (hr ho) hs
          | some n =>
              rw [hg] at hn
              cases hn
              have hcount : s.count b.key = n := by
                rw [LoginSystem.count_eq, hg]
                rfl
              exact ⟨hnow hcount, fun ho => LoginCall.FoundFull.step (hr ho) hs⟩
  | ttl b n rest overLimit worst =>
      rw [hp] at hn hf hr
      cases hn
      have hmem : b ∈ c.buckets env := hf.subset List.mem_cons_self
      rcases enforced_cases b n
          (ttlSeconds s.failures.counters s.now b.key) rest overLimit worst with
        ⟨hle, he⟩ | ⟨-, he⟩
      · rw [he]
        exact fun _ => ⟨b, hmem, (hr.1.imp fun t ht => ht ▸ hle).step hs⟩
      · rw [he]
        exact fun ho => LoginCall.FoundFull.step (hr.2 ho) hs
  | authenticate =>
      rw [hp] at hn
      dsimp only at hn
      split at hn <;>
      · cases hn
        trivial
  | record rest =>
      rw [hp] at hn
      cases rest <;>
      · cases hn
        trivial
  | done response =>
      rw [hp] at hn
      cases hn

theorem RefusalInv.step (hi : RefusalInv env s₀ s)
    (h : loginStep env s act = some s') : RefusalInv env s₀ s' where
  run := .step hi.run trivial h
  calls j d hj := by
    have hkept : ∀ {j d}, s.call j = some d → d.Formed env ∧
        d.Refusal env s₀ s' j := fun hd =>
      ⟨(hi.calls _ _ hd).1, (hi.calls _ _ hd).2.step h⟩
    cases act with
    | arrive identity username password =>
        cases h
        rw [LoginSystem.call_setCall] at hj
        split at hj
        · cases hj
          exact ⟨List.suffix_refl _, fun ho => by cases ho⟩
        · exact hkept hj
    | step i =>
        have hstep := h
        obtain ⟨c, hc, h⟩ := Option.bind_eq_some_iff.mp h
        obtain ⟨⟨phase, failures⟩, hn, rfl⟩ := Option.map_eq_some_iff.mp h
        have hj := (LoginSystem.call_setCall _ j).symm.trans hj
        split at hj
        · next hji =>
          cases hj
          subst hji
          exact ⟨(hi.calls j c hc).1.next hn,
            LoginCall.Refusal.next hi hc hn hstep⟩
        · exact hkept hj
    | tick d =>
        cases h
        exact hkept hj

end

/-- **The throttle's bound.** From a fresh limiter: in every run in which a
wrong guess is let through only where the guesses in flight leave it a
place, no window of a counter has more failures than its limit; and in
every run whatever, a request answered 429 read one of the counters of its
own client address and found it full. -/
theorem loginThrottle_bound {s₀ : LoginSystem} (h₀ : s₀.Fresh) :
    (∀ s, Run (loginStep env) (fun s a => leavesRoom env s a = true) s₀ s →
      s.failures.Within env.limit) ∧
    ∀ s, Run (loginStep env) (fun _ _ => True) s₀ s →
      ∀ i c retryAfter, s.call i = some c →
        c.phase = .done (.tooMany retryAfter) →
        ∃ b ∈ c.buckets env, b.key.identity = c.identity ∧
          Reads env s₀ s i b fun t => b.limit ≤ t.count b.key := by
  constructor
  · intro s hrun
    exact (hrun.inv (fun _ _ _ hi hroom h => LoginInv.step hi hroom h)
      (loginInv_fresh h₀)).within
  · intro s hrun i c retryAfter hc hp
    have hstart : RefusalInv env s₀ s₀ :=
      ⟨.refl, fun i c hc => by
        rw [LoginSystem.call, h₀.calls] at hc
        cases hc⟩
    have hr := ((hrun.inv (fun _ _ _ hi _ h => RefusalInv.step hi h)
      hstart).calls i c hc).2
    unfold LoginCall.Refusal at hr
    rw [hp] at hr
    obtain ⟨b, hb, hread⟩ := hr
    refine ⟨b, hb, ?_, hread⟩
    simp only [LoginCall.buckets, failureBuckets, List.mem_cons,
      List.not_mem_nil, or_false] at hb
    rcases hb with rfl | rfl <;> rfl

end

/-! ## Eleven guesses at once -/

/-- The default limits. -/
def defaultLogin : LoginEnv where
  settings := { adminPassword := "a", operatorPassword := "o" }
  lower := id
  userHash := id

/-- Eleven guesses from one address pass the counters before the first of
them is evaluated. -/
def elevenGuesses : List LoginAct :=
  (List.range 11).map
      (fun _ => (.arrive "ip:198.51.100.10" "admin" "guess" : LoginAct))
    ++ (List.range 11).flatMap
      (fun i => ([.step i, .step i, .step i] : List LoginAct))
    ++ (List.range 11).flatMap
      fun i => ([.step i, .step i, .step i, .step i] : List LoginAct)

/-- All eleven are evaluated and counted in one window that allows ten. -/
theorem elevenGuesses_counted :
    ∃ s, runActs (loginStep defaultLogin) {} elevenGuesses = some s ∧
      s.failures.hits.count (.user "ip:198.51.100.10" "admin", loginWindow)
        = 11 ∧
      ¬ s.failures.Within defaultLogin.limit := by
  have h : (runActs (loginStep defaultLogin) {} elevenGuesses).map
      (fun s => s.failures.hits.count
        (FailureKey.user "ip:198.51.100.10" "admin", loginWindow))
      = some 11 := by
    decide +kernel
  obtain ⟨s, hs, hcount⟩ := Option.map_eq_some_iff.mp h
  refine ⟨s, hs, hcount, fun hw => ?_⟩
  have hle := hw (.user "ip:198.51.100.10" "admin") loginWindow
  rw [hcount] at hle
  exact absurd hle (by decide)

/-- Ten guesses at once, as many as the limit allows, and after them a login
with the right password. -/
def tenGuesses : List LoginAct :=
  (List.range 10).map
      (fun _ => (.arrive "ip:198.51.100.10" "admin" "guess" : LoginAct))
    ++ (List.range 10).flatMap
      (fun i => ([.step i, .step i, .step i] : List LoginAct))
    ++ (List.range 10).flatMap
      (fun i => ([.step i, .step i, .step i, .step i] : List LoginAct))
    ++ .arrive "ip:198.51.100.10" "admin" "a" :: List.replicate 5 (.step 10)

/-- The ten fill the counter and stay within; the login after them is
refused for the counter it found full. -/
theorem tenGuesses_within :
    ∃ s c, runActs (loginStep defaultLogin) {} tenGuesses = some s ∧
      s.failures.hits.length = 20 ∧ s.failures.Within defaultLogin.limit ∧
      s.call 10 = some c ∧ c.phase = .done (.tooMany 60) ∧
      ∃ b ∈ c.buckets defaultLogin, b.key.identity = "ip:198.51.100.10" ∧
        Reads defaultLogin {} s 10 b fun t => b.limit ≤ t.count b.key := by
  obtain ⟨s, hs, hrun⟩ := Run.of_holdsAlong (loginStep defaultLogin)
    (leavesRoom defaultLogin) {} tenGuesses (by decide +kernel)
  have hend : (runActs (loginStep defaultLogin) {} tenGuesses).map
      (fun s => (s.failures.hits.length, s.call 10))
      = some (20, some ⟨"ip:198.51.100.10", "admin", "a",
          .done (.tooMany 60)⟩) := by
    decide +kernel
  rw [hs] at hend
  obtain ⟨hlen, hcall⟩ := Prod.mk.inj (Option.some.inj hend)
  have hbound := @loginThrottle_bound defaultLogin {} ⟨rfl, rfl⟩
  exact ⟨s, _, hs, hlen, hbound.1 s hrun, hcall, rfl,
    hbound.2 s (hrun.mono fun _ _ _ => trivial) 10 _ 60 hcall rfl⟩

end CallingAgent
