import CallingAgent.Queue.Leases

/-!
# Lease safety

A lease is live in a scope while its member there is unexpired. The
invariant ties the three sets and the holder key together: a live lease is
in exactly its own scopes, everywhere with the same expiry, and the key of
its holder names it until then. Whatever the order of the scripts, no scope
then ever exceeds its limit.
-/

namespace CallingAgent

open Lib

namespace LeaseRedis

variable (r : LeaseRedis)

/-- The lease is in the set of this scope, to expire at `x`. -/
def live (k : Scope) (id : LeaseId) (x : Nat) : Prop :=
  (r.members k).score id = some x ∧ r.now < x

/-- The lease is live in some scope. -/
def alive (id : LeaseId) : Prop := ∃ k x, r.live k id x

variable {r}

/-! ## Single writes -/

theorem members_touch (f : SortedSet LeaseId → SortedSet LeaseId)
    (hf : f ∅ = ∅) (k k' : Scope) (d : Nat) :
    ((r.touch f k).after d).members k'
      = if k' = k then f ((r.after d).members k')
        else (r.after d).members k' := by
  have hget := Keyspace.get_update (t := r.scopes) (k := k) (f := f)
    (Nat.le_add_right r.now d) k'
  unfold members touch after
  dsimp only
  rw [hget]
  by_cases h : k' = k
  · rw [if_pos h, if_pos h]
    cases r.scopes.get (r.now + d) k' with
    | none => exact hf.symm
    | some s => rfl
  · rw [if_neg h, if_neg h]

theorem members_extend (f : SortedSet LeaseId → SortedSet LeaseId)
    (ttl : Nat) (k k' : Scope) (d : Nat) :
    ((r.extend f ttl k).after d).members k'
      = if k' = k then (if ttl < d then ∅ else f (r.members k'))
        else (r.after d).members k' := by
  unfold members extend after
  dsimp only
  rw [Keyspace.get_set]
  by_cases h : k' = k
  · subst h
    simp only [if_true, Nat.add_lt_add_iff_left]
    by_cases hd : ttl < d
    · simp [hd]
    · simp [hd, members]
  · rw [if_neg h, if_neg h]

/-! ## Writes to every scope -/

section Fold

variable (f : Nat → SortedSet LeaseId → SortedSet LeaseId) (ttl : Nat)
  (ks : List Scope)

theorem now_foldl_touch :
    (ks.foldl (fun r k => r.touch (f r.now) k) r).now = r.now := by
  induction ks generalizing r with
  | nil => rfl
  | cons k ks ih => exact ih

theorem holders_foldl_touch :
    (ks.foldl (fun r k => r.touch (f r.now) k) r).holders = r.holders := by
  induction ks generalizing r with
  | nil => rfl
  | cons k ks ih => exact ih

theorem now_foldl_extend :
    (ks.foldl (fun r k => r.extend (f r.now) ttl k) r).now = r.now := by
  induction ks generalizing r with
  | nil => rfl
  | cons k ks ih => exact ih

theorem holders_foldl_extend :
    (ks.foldl (fun r k => r.extend (f r.now) ttl k) r).holders
      = r.holders := by
  induction ks generalizing r with
  | nil => rfl
  | cons k ks ih => exact ih

theorem members_foldl_touch (hf : f r.now ∅ = ∅) (hks : ks.Nodup)
    (k' : Scope) (d : Nat) :
    ((ks.foldl (fun r k => r.touch (f r.now) k) r).after d).members k'
      = if k' ∈ ks then f r.now ((r.after d).members k')
        else (r.after d).members k' := by
  induction ks generalizing r with
  | nil => rfl
  | cons k ks ih =>
    obtain ⟨hk, hks⟩ := List.nodup_cons.mp hks
    have ih := ih (r := r.touch (f r.now) k) hf hks
    rw [List.foldl_cons, ih, members_touch _ hf]
    by_cases h : k' = k
    · subst h
      simp [hk]
    · simp [h, touch]

theorem members_foldl_extend (hks : ks.Nodup) (k' : Scope) (d : Nat) :
    ((ks.foldl (fun r k => r.extend (f r.now) ttl k) r).after d).members k'
      = if k' ∈ ks then (if ttl < d then ∅ else f r.now (r.members k'))
        else (r.after d).members k' := by
  induction ks generalizing r with
  | nil => rfl
  | cons k ks ih =>
    obtain ⟨hk, hks⟩ := List.nodup_cons.mp hks
    have hnow : (r.extend (f r.now) ttl k).members k'
        = if k' = k then f r.now (r.members k') else r.members k' :=
      members_extend (f r.now) ttl k k' 0
    rw [List.foldl_cons, ih hks, members_extend, hnow]
    by_cases h : k' = k
    · subst h
      simp [hk]
    · simp [h, extend]

end Fold

end LeaseRedis

theorem ConcurrencyLease.scopeKeys_nodup (l : ConcurrencyLease) :
    l.scopeKeys.Nodup := by
  simp [scopeKeys]

/-! ## The invariant -/

section Inv

variable (st : LeaseStore)

/-- What every script keeps. -/
structure LeaseInv (issued : Table LeaseId ConcurrencyLease)
    (r : LeaseRedis) : Prop where
  issuedAs : ∀ {id l}, AList.lookup id issued = some l → l.leaseId = id
  within : ∀ k, (r.members k).above r.now ≤ st.limit k
  known : ∀ {k id x}, r.live k id x →
    ∃ l, AList.lookup id issued = some l ∧ k ∈ l.scopeKeys
  agree : ∀ {k id x l k'}, r.live k id x →
    AList.lookup id issued = some l → k' ∈ l.scopeKeys → r.live k' id x
  held : ∀ {k id x l}, r.live k id x → AList.lookup id issued = some l →
    ∃ h, r.holder l.holderId = some h ∧ h.leaseId = id ∧ h.expires = x
  short : ∀ {k id x}, r.live k id x → x ≤ r.now + st.ttlMs
  lasts : ∀ {k id x} d, r.live k id x → r.now + d < x →
    (r.after d).live k id x
  recordLasts : ∀ {holder h} d, r.holder holder = some h →
    r.now + d < h.expires → (r.after d).holder holder = some h

variable {st} {r r' : LeaseRedis} {issued : Table LeaseId ConcurrencyLease}

namespace LeaseRedis

theorem live.earlier {k : Scope} {id : LeaseId} {x d : Nat}
    (h : (r.after d).live k id x) : r.live k id x := by
  obtain ⟨hscore, hx⟩ := h
  have hle : r.now ≤ r.now + d := Nat.le_add_right _ _
  refine ⟨?_, Nat.lt_of_le_of_lt hle hx⟩
  cases hget : r.scopes.get (r.now + d) k with
  | none =>
      simp [members, after, hget] at hscore
  | some s =>
      have hnow := Keyspace.get_earlier hle hget
      simpa [members, after, hget, hnow] using hscore

theorem after_after (d e : Nat) : (r.after d).after e = r.after (d + e) := by
  simp only [after, Nat.add_assoc]

theorem live.functional {k : Scope} {id : LeaseId} {x y : Nat}
    (h : r.live k id x) (h' : r.live k id y) : x = y :=
  Option.some.inj (h.1.symm.trans h'.1)

end LeaseRedis

open LeaseRedis

/-- With time, leases only expire. -/
theorem LeaseInv.after (h : LeaseInv st issued r) (d : Nat) :
    LeaseInv st issued (r.after d) where
  issuedAs := h.issuedAs
  within k := by
    have hle : r.now ≤ r.now + d := Nat.le_add_right _ _
    cases hget : r.scopes.get (r.now + d) k with
    | none =>
        have hmem : (r.after d).members k = ∅ := by
          simp [members, LeaseRedis.after, hget]
        rw [hmem]
        exact Nat.zero_le _
    | some s =>
        have hmem : (r.after d).members k = r.members k := by
          simp [members, LeaseRedis.after, hget,
            Keyspace.get_earlier hle hget]
        rw [hmem]
        exact (SortedSet.above_le hle).trans (h.within k)
  known hl := h.known hl.earlier
  agree hl hi hk := h.lasts d (h.agree hl.earlier hi hk) hl.2
  held hl hi := by
    obtain ⟨rec, hrec, hid, hx⟩ := h.held hl.earlier hi
    have hlt := hl.2
    exact ⟨rec, h.recordLasts d hrec (hx ▸ hlt), hid, hx⟩
  short hl := by
    have hx := h.short hl.earlier
    show _ ≤ r.now + d + st.ttlMs
    omega
  lasts {k id x} e hl hx := by
    have hle : r.now + (d + e) < x := Nat.add_assoc .. ▸ hx
    rw [after_after]
    exact h.lasts (d + e) hl.earlier hle
  recordLasts {holder rec} e hh hx := by
    have hle : r.now + (d + e) < rec.expires := Nat.add_assoc .. ▸ hx
    have hnow := Keyspace.get_earlier (Nat.le_add_right r.now d) hh
    rw [after_after]
    exact h.recordLasts (d + e) hnow hle

namespace LeaseRedis

@[simp] theorem now_after (d : Nat) : (r.after d).now = r.now + d := rfl

/-! ## Pruning -/

@[simp] theorem now_prune (ks : List Scope) : (r.prune ks).now = r.now :=
  now_foldl_touch (fun n s => s.removeUpTo n) ks

@[simp] theorem holders_prune (ks : List Scope) :
    (r.prune ks).holders = r.holders :=
  holders_foldl_touch (fun n s => s.removeUpTo n) ks

theorem members_prune {ks : List Scope} (hks : ks.Nodup) (k : Scope)
    (d : Nat) :
    ((r.prune ks).after d).members k
      = if k ∈ ks then ((r.after d).members k).removeUpTo r.now
        else (r.after d).members k :=
  members_foldl_touch (fun n s => s.removeUpTo n) ks rfl hks k d

/-- What is pruned was not live. -/
theorem live_prune {ks : List Scope} (hks : ks.Nodup) {k : Scope}
    {id : LeaseId} {x d : Nat} :
    ((r.prune ks).after d).live k id x ↔ (r.after d).live k id x := by
  unfold live
  rw [members_prune hks, now_after, now_after, now_prune]
  by_cases hk : k ∈ ks
  · rw [if_pos hk, SortedSet.score_removeUpTo, Option.filter_eq_some_iff]
    refine and_congr_left fun hx => ?_
    have hx : r.now < x := Nat.lt_of_le_of_lt (Nat.le_add_right _ _) hx
    simp [hx]
  · rw [if_neg hk]

theorem above_prune {ks : List Scope} (hks : ks.Nodup) (k : Scope) :
    ((r.prune ks).members k).above r.now = (r.members k).above r.now := by
  have hmem := members_prune (r := r) hks k 0
  change (r.prune ks).members k
    = if k ∈ ks then (r.members k).removeUpTo r.now else r.members k at hmem
  rw [hmem]
  split
  · exact SortedSet.above_removeUpTo
  · rfl

/-- A set that has been pruned holds live members only. -/
theorem card_prune {ks : List Scope} (hks : ks.Nodup) {k : Scope}
    (hk : k ∈ ks) :
    ((r.prune ks).members k).card = (r.members k).above r.now := by
  have hmem := members_prune (r := r) hks k 0
  rw [if_pos hk] at hmem
  change (r.prune ks).members k = (r.members k).removeUpTo r.now at hmem
  rw [hmem]
  exact SortedSet.card_removeUpTo

end LeaseRedis

/-- The invariant is about the live leases only. -/
theorem LeaseInv.of_same (h : LeaseInv st issued r) (hnow : r'.now = r.now)
    (hhold : r'.holders = r.holders)
    (hlive : ∀ {k id x d}, (r'.after d).live k id x ↔ (r.after d).live k id x)
    (habove : ∀ k, (r'.members k).above r.now = (r.members k).above r.now) :
    LeaseInv st issued r' := by
  have hlive₀ : ∀ {k id x}, r'.live k id x ↔ r.live k id x :=
    @fun k id x => hlive (d := 0)
  have hholder : ∀ (d : Nat) h, (r'.after d).holder h = (r.after d).holder h := by
    intro d h
    simp only [holder, LeaseRedis.after, hnow, hhold]
  refine ⟨h.issuedAs, fun k => ?_, fun hl => h.known (hlive₀.mp hl),
    fun hl hi hk => hlive₀.mpr (h.agree (hlive₀.mp hl) hi hk),
    fun hl hi => ?_, fun hl => ?_, fun d hl hx => ?_, fun d hh hx => ?_⟩
  · rw [hnow, habove]
    exact h.within k
  · rw [show r'.holder = r.holder from funext (hholder 0)]
    exact h.held (hlive₀.mp hl) hi
  · rw [hnow]
    exact h.short (hlive₀.mp hl)
  · exact hlive.mpr (h.lasts d (hlive₀.mp hl) (hnow ▸ hx))
  · rw [hholder d]
    exact h.recordLasts d ((hholder 0 _).symm.trans hh) (hnow ▸ hx)

theorem LeaseInv.prune (h : LeaseInv st issued r) {ks : List Scope}
    (hks : ks.Nodup) : LeaseInv st issued (r.prune ks) :=
  h.of_same (now_prune ks) (holders_prune ks) (live_prune hks)
    (above_prune hks)

/-- Drawing an id changes nothing that is live. -/
theorem LeaseInv.issue (h : LeaseInv st issued r) {l : ConcurrencyLease}
    (hnew : AList.lookup l.leaseId issued = none) :
    LeaseInv st (AList.insert l.leaseId l issued) r := by
  have hold : ∀ {k id x}, r.live k id x → id ≠ l.leaseId := by
    intro k id x hl heq
    obtain ⟨l', hl', -⟩ := h.known hl
    rw [heq, hnew] at hl'
    cases hl'
  have hfind : ∀ {id}, id ≠ l.leaseId →
      AList.lookup id (AList.insert l.leaseId l issued)
        = AList.lookup id issued :=
    fun hne => AList.lookup_insert_ne hne
  refine ⟨@fun id l' hi => ?_, h.within, fun hl => ?_, fun hl hi hk => ?_,
    fun hl hi => ?_, h.short, h.lasts, h.recordLasts⟩
  · rw [Table.lookup_insert'] at hi
    split at hi
    · cases hi
      symm
      assumption
    · exact h.issuedAs hi
  · rw [hfind (hold hl)]
    exact h.known hl
  · exact h.agree hl (hfind (hold hl) ▸ hi) hk
  · exact h.held hl (hfind (hold hl) ▸ hi)

/-- A live lease stays so until it expires. -/
theorem LeaseInv.live_after (h : LeaseInv st issued r) {k : Scope}
    {id : LeaseId} {x d : Nat} :
    (r.after d).live k id x ↔ r.live k id x ∧ r.now + d < x :=
  ⟨fun hl => ⟨hl.earlier, hl.2⟩, fun ⟨hl, hx⟩ => h.lasts d hl hx⟩

/-- The new expiry was written for `l` in all of its scopes, and into the
key of its holder. -/
structure Stamped (st : LeaseStore) (r : LeaseRedis) (l : ConcurrencyLease)
    (f : SortedSet LeaseId → SortedSet LeaseId) (r' : LeaseRedis) : Prop where
  now : r'.now = r.now
  holders : ∃ rec : HolderRecord, rec.leaseId = l.leaseId ∧
    rec.expires = r.now + st.ttlMs ∧
    r'.holders = r.holders.set l.holderId rec (r.now + st.ttlMs)
  members : ∀ k d, (r'.after d).members k =
    if k ∈ l.scopeKeys then
      (if st.ttlMs < d then ∅ else f (r.members k))
    else (r.after d).members k
  score : ∀ k ∈ l.scopeKeys, ∀ id, (f (r.members k)).score id
    = if id = l.leaseId then some (r.now + st.ttlMs)
      else (r.members k).score id

theorem Stamped.live_iff {l : ConcurrencyLease}
    {f : SortedSet LeaseId → SortedSet LeaseId} (hs : Stamped st r l f r')
    (h : LeaseInv st issued r)
    (hown : ∀ {k x}, r.live k l.leaseId x → k ∈ l.scopeKeys) {k : Scope}
    {i : LeaseId} {x d : Nat} :
    (r'.after d).live k i x ↔ r.now + d < x ∧
      (k ∈ l.scopeKeys ∧ i = l.leaseId ∧ x = r.now + st.ttlMs ∨
        i ≠ l.leaseId ∧ r.live k i x) := by
  have hsame : (r.after d).live k i x ↔ r.live k i x ∧ r.now + d < x :=
    h.live_after
  by_cases hk : k ∈ l.scopeKeys
  · have hmem : (r'.after d).live k i x ↔
        (if st.ttlMs < d then (∅ : SortedSet LeaseId)
          else f (r.members k)).score i = some x ∧ r.now + d < x := by
      unfold live
      rw [hs.members, if_pos hk, now_after, hs.now]
    rw [hmem, and_comm]
    refine and_congr_right fun hx => ?_
    by_cases hd : st.ttlMs < d
    · -- by now every member has expired with the key
      rw [if_pos hd, SortedSet.score_empty]
      constructor
      · intro hno
        cases hno
      · rintro (⟨-, -, rfl⟩ | ⟨-, hl⟩)
        · omega
        · have := h.short hl
          omega
    · rw [if_neg hd, hs.score k hk]
      by_cases hid : i = l.leaseId
      · simp [hk, hid, eq_comm]
      · have hnow : r.now < x := Nat.lt_of_le_of_lt (Nat.le_add_right _ _) hx
        simp [hid, live, hnow]
  · have hmem : (r'.after d).live k i x ↔ (r.after d).live k i x := by
      unfold live
      rw [hs.members, if_neg hk, now_after, now_after, hs.now]
    rw [hmem, hsame, and_comm]
    refine and_congr_right fun _ => ?_
    have hne : r.live k i x → i ≠ l.leaseId := by
      rintro hl rfl
      exact hk (hown hl)
    simpa [hk] using hne

theorem Stamped.holder_eq {l : ConcurrencyLease}
    {f : SortedSet LeaseId → SortedSet LeaseId} (hs : Stamped st r l f r') :
    ∃ rec : HolderRecord, rec.leaseId = l.leaseId ∧
      rec.expires = r.now + st.ttlMs ∧
      ∀ d holder, (r'.after d).holder holder =
        if holder = l.holderId then
          (if st.ttlMs < d then none else some rec)
        else (r.after d).holder holder := by
  obtain ⟨rec, hid, hx, hh⟩ := hs.holders
  refine ⟨rec, hid, hx, fun d holder => ?_⟩
  simp only [LeaseRedis.holder, hh, LeaseRedis.after, hs.now,
    Keyspace.get_set, Nat.add_lt_add_iff_left]

/-- A new expiry keeps the invariant where there is room for it, and where
no other lease of the same holder is live. -/
theorem Stamped.inv {l : ConcurrencyLease}
    {f : SortedSet LeaseId → SortedSet LeaseId} (hs : Stamped st r l f r')
    (h : LeaseInv st issued r)
    (hl : AList.lookup l.leaseId issued = some l)
    (hroom : ∀ k ∈ l.scopeKeys, (f (r.members k)).above r.now ≤ st.limit k)
    (halone : ∀ {k id x l'}, r.live k id x → id ≠ l.leaseId →
      AList.lookup id issued = some l' → l'.holderId ≠ l.holderId) :
    LeaseInv st issued r' := by
  have hown : ∀ {k x}, r.live k l.leaseId x → k ∈ l.scopeKeys := by
    intro k x hlive
    obtain ⟨l', hl', hk⟩ := h.known hlive
    cases hl.symm.trans hl'
    exact hk
  have hiff := @fun k id x d => hs.live_iff h hown (k := k) (i := id) (x := x)
    (d := d)
  have hiff₀ : ∀ {k id x}, r'.live k id x ↔ r.now < x ∧
      (k ∈ l.scopeKeys ∧ id = l.leaseId ∧ x = r.now + st.ttlMs ∨
        id ≠ l.leaseId ∧ r.live k id x) :=
    @fun k id x => hiff k id x 0
  obtain ⟨rec, hid, hx, hrec⟩ := hs.holder_eq
  have hmem : ∀ k, r'.members k
      = if k ∈ l.scopeKeys then f (r.members k) else r.members k :=
    fun k => hs.members k 0
  have hholder : ∀ holder, r'.holder holder
      = if holder = l.holderId then some rec else r.holder holder :=
    fun holder => hrec 0 holder
  refine ⟨h.issuedAs, fun k => ?_, @fun k id x hlive => ?_,
    @fun k id x l' k' hlive hi hk' => ?_, @fun k id x l' hlive hi => ?_,
    @fun k id x hlive => ?_, @fun k id x d hlive hlt => ?_,
    @fun holder old d hh hlt => ?_⟩
  · rw [hmem, hs.now]
    split
    · exact hroom k (by assumption)
    · exact h.within k
  · obtain ⟨-, ⟨hk, rfl, -⟩ | ⟨-, hlive⟩⟩ := hiff₀.mp hlive
    · exact ⟨l, hl, hk⟩
    · exact h.known hlive
  · obtain ⟨hlt, ⟨hk, rfl, rfl⟩ | ⟨hne, hlive⟩⟩ := hiff₀.mp hlive
    · cases hl.symm.trans hi
      exact hiff₀.mpr ⟨hlt, .inl ⟨hk', rfl, rfl⟩⟩
    · exact hiff₀.mpr ⟨hlt, .inr ⟨hne, h.agree hlive hi hk'⟩⟩
  · rw [hholder]
    obtain ⟨hlt, ⟨hk, rfl, rfl⟩ | ⟨hne, hlive⟩⟩ := hiff₀.mp hlive
    · cases hl.symm.trans hi
      exact ⟨rec, if_pos rfl, hid, hx⟩
    · rw [if_neg (halone hlive hne hi)]
      exact h.held hlive hi
  · rw [hs.now]
    obtain ⟨-, ⟨-, -, rfl⟩ | ⟨-, hlive⟩⟩ := hiff₀.mp hlive
    · exact Nat.le_refl _
    · exact h.short hlive
  · rw [hs.now] at hlt
    exact (hiff ..).mpr ⟨hlt, (hiff₀.mp hlive).2⟩
  · rw [hs.now] at hlt
    rw [hholder] at hh
    rw [hrec]
    split at hh
    · cases hh
      rw [if_pos (by assumption), if_neg (by omega)]
    · rw [if_neg (by assumption)]
      exact h.recordLasts d hh hlt

/-! ## The scripts -/

theorem stamped_take {l : ConcurrencyLease} (workerId : String) :
    Stamped st r l (·.add l.leaseId (r.now + st.ttlMs))
      (r.take st l workerId) := by
  have hnow := now_foldl_extend (r := r)
    (fun n s => s.add l.leaseId (n + st.ttlMs)) st.ttlMs l.scopeKeys
  have hholders := holders_foldl_extend (r := r)
    (fun n s => s.add l.leaseId (n + st.ttlMs)) st.ttlMs l.scopeKeys
  refine ⟨hnow, ⟨⟨l.leaseId, r.now + st.ttlMs, r.now, workerId⟩, rfl, rfl, ?_⟩,
    fun k d => ?_, fun k _ id => SortedSet.score_add⟩
  · unfold take
    dsimp only
    rw [hnow, hholders]
  · exact members_foldl_extend (r := r)
      (fun n s => s.add l.leaseId (n + st.ttlMs)) st.ttlMs l.scopeKeys
      l.scopeKeys_nodup k d

/-- An acquisition under a new id keeps the invariant. -/
theorem LeaseInv.acquire (h : LeaseInv st issued r) {l : ConcurrencyLease}
    (hnew : AList.lookup l.leaseId issued = none) (workerId : String) :
    LeaseInv st (AList.insert l.leaseId l issued)
      (r.acquire st l workerId).1 := by
  have hkeys := l.scopeKeys_nodup
  have hp := (h.prune hkeys).issue hnew
  unfold LeaseRedis.acquire
  dsimp only
  split
  · exact hp
  rename_i hfree
  split
  · exact hp
  rename_i hroom
  rw [List.find?_eq_none] at hroom
  have hnone : ∀ k ∈ l.scopeKeys,
      ((r.prune l.scopeKeys).members k).score l.leaseId = none := by
    intro k hk
    cases hscore : ((r.prune l.scopeKeys).members k).score l.leaseId with
    | none => rfl
    | some x =>
        -- what a pruned set holds is live, and a new id is not
        have hmem := members_prune (r := r) hkeys k 0
        rw [if_pos hk] at hmem
        have hold : ((r.members k).removeUpTo r.now).score l.leaseId = some x :=
          congrArg (SortedSet.score · l.leaseId) hmem ▸ hscore
        rw [SortedSet.score_removeUpTo, Option.filter_eq_some_iff] at hold
        have hlive : r.live k l.leaseId x :=
          ⟨hold.1, of_decide_eq_true hold.2⟩
        obtain ⟨l', hl', -⟩ := h.known hlive
        cases hnew.symm.trans hl'
  refine (stamped_take workerId).inv hp (AList.lookup_insert _) ?_ ?_
  · intro k hk
    have hlt := hroom k hk
    rw [decide_eq_true_eq, card_prune hkeys hk, ← above_prune hkeys] at hlt
    have hle := SortedSet.above_add_new (n := (r.prune l.scopeKeys).now
      + st.ttlMs) (hnone k hk) (r.prune l.scopeKeys).now
    rw [now_prune] at hle ⊢
    omega
  · intro k id x l' hlive _ hi heq
    obtain ⟨rec, hrec, -, hx⟩ := hp.held hlive hi
    rw [heq] at hrec
    have hlt : r.now < x := hlive.2
    simp [hrec, hx] at hfree
    omega

/-- Only a lease that every scope still holds is renewed. -/
theorem LeaseInv.stamped_renew (h : LeaseInv st issued r)
    {l : ConcurrencyLease} (hl : AList.lookup l.leaseId issued = some l)
    (hholds : r.holds l = true) :
    Stamped st r l (·.addExisting l.leaseId (r.now + st.ttlMs))
      (r.renew st l).1 := by
  have hnow := now_foldl_extend (r := r)
    (fun n s => s.addExisting l.leaseId (n + st.ttlMs)) st.ttlMs l.scopeKeys
  have hholders := holders_foldl_extend (r := r)
    (fun n s => s.addExisting l.leaseId (n + st.ttlMs)) st.ttlMs l.scopeKeys
  have hlive : ∀ k ∈ l.scopeKeys, ∃ x, r.live k l.leaseId x := by
    intro k hk
    obtain ⟨x, hx, hlt⟩ := (Option.any_eq_true _ _).mp
      (List.all_eq_true.mp hholds k hk)
    exact ⟨x, hx, of_decide_eq_true hlt⟩
  obtain ⟨x, hglobal⟩ := hlive .global (List.mem_cons_self ..)
  obtain ⟨rec, hrec, hid, -⟩ := h.held hglobal hl
  have hheld : (l.scopeKeys.foldl (fun s k =>
      s.extend (·.addExisting l.leaseId (s.now + st.ttlMs)) st.ttlMs k)
      r).holder l.holderId = some rec := by
    unfold holder
    rw [hnow, hholders]
    exact hrec
  have heq : (r.renew st l).1 = { l.scopeKeys.foldl (fun s k =>
      s.extend (·.addExisting l.leaseId (s.now + st.ttlMs)) st.ttlMs k) r with
      holders := r.holders.set l.holderId
        { rec with expires := r.now + st.ttlMs } (r.now + st.ttlMs) } := by
    unfold LeaseRedis.renew
    rw [if_pos hholds]
    dsimp only
    rw [hheld]
    dsimp only
    rw [if_pos hid, hnow, hholders]
  rw [heq]
  refine ⟨hnow, ⟨{ rec with expires := r.now + st.ttlMs }, hid, rfl, rfl⟩,
    fun k d => ?_, fun k hk id => ?_⟩
  · exact members_foldl_extend (r := r)
      (fun n s => s.addExisting l.leaseId (n + st.ttlMs)) st.ttlMs l.scopeKeys
      l.scopeKeys_nodup k d
  · obtain ⟨y, hy, -⟩ := hlive k hk
    rw [SortedSet.score_addExisting]
    by_cases hid : id = l.leaseId
    · rw [if_pos hid, if_pos hid, hid, hy]
      rfl
    · rw [if_neg hid, if_neg hid]

theorem LeaseRedis.renew_dead {l : ConcurrencyLease}
    (hdead : ¬ r.holds l = true) : r.renew st l = (r, false) := by
  unfold LeaseRedis.renew
  rw [if_neg hdead]

/-- Two leases of one holder are not live at once. -/
theorem LeaseInv.one_per_holder (h : LeaseInv st issued r)
    {id id' : LeaseId} {l l' : ConcurrencyLease}
    (hl : AList.lookup id issued = some l)
    (hl' : AList.lookup id' issued = some l')
    (hsame : l.holderId = l'.holderId) (ha : r.alive id) (ha' : r.alive id') :
    id = id' := by
  obtain ⟨k, x, hlive⟩ := ha
  obtain ⟨k', x', hlive'⟩ := ha'
  obtain ⟨rec, hrec, hid, -⟩ := h.held hlive hl
  obtain ⟨rec', hrec', hid', -⟩ := h.held hlive' hl'
  rw [hsame, hrec'] at hrec
  cases hrec
  exact hid.symm.trans hid'

theorem LeaseInv.renew (h : LeaseInv st issued r) {l : ConcurrencyLease}
    (hl : AList.lookup l.leaseId issued = some l) :
    LeaseInv st issued (r.renew st l).1 := by
  by_cases hholds : r.holds l = true
  · have hlive : ∀ k ∈ l.scopeKeys, ∃ x, r.live k l.leaseId x := by
      intro k hk
      obtain ⟨x, hx, hlt⟩ := (Option.any_eq_true _ _).mp
        (List.all_eq_true.mp hholds k hk)
      exact ⟨x, hx, of_decide_eq_true hlt⟩
    refine (h.stamped_renew hl hholds).inv h hl (fun k hk => ?_) ?_
    · obtain ⟨x, hx, hlt⟩ := hlive k hk
      exact (SortedSet.above_addExisting hx hlt).trans (h.within k)
    · intro k id x l' hl' hne hi heq
      obtain ⟨y, hglobal⟩ := hlive .global (List.mem_cons_self ..)
      exact hne (h.one_per_holder hi hl heq ⟨k, x, hl'⟩ ⟨_, y, hglobal⟩)
  · rw [renew_dead hholds]
    exact h

namespace LeaseRedis

theorem now_release (l : ConcurrencyLease) : (r.release l).1.now = r.now := by
  have hnow := now_foldl_touch (r := r) (fun _ s => s.remove l.leaseId)
    l.scopeKeys
  unfold release
  dsimp only
  split <;> exact hnow

theorem members_release (l : ConcurrencyLease) (k : Scope) (d : Nat) :
    ((r.release l).1.after d).members k
      = if k ∈ l.scopeKeys then ((r.after d).members k).remove l.leaseId
        else (r.after d).members k := by
  have hmem := members_foldl_touch (r := r) (fun _ s => s.remove l.leaseId)
    l.scopeKeys rfl l.scopeKeys_nodup k d
  rw [← hmem]
  unfold release
  dsimp only
  split <;> rfl

/-- The holder key goes exactly if it names the lease. -/
theorem holder_release (l : ConcurrencyLease) (d : Nat) (holder : HolderId) :
    ((r.release l).1.after d).holder holder
      = if r.names l = true ∧ holder = l.holderId then none
        else (r.after d).holder holder := by
  have hnow := now_foldl_touch (r := r) (fun _ s => s.remove l.leaseId)
    l.scopeKeys
  have hholders := holders_foldl_touch (r := r)
    (fun _ s => s.remove l.leaseId) l.scopeKeys
  have hnames : names (l.scopeKeys.foldl
      (fun s k => s.touch (·.remove l.leaseId) k) r) l = r.names l := by
    unfold names LeaseRedis.holder
    rw [hnow, hholders]
  unfold release
  dsimp only
  rw [hnames]
  by_cases hn : r.names l = true
  · rw [if_pos hn]
    simp only [LeaseRedis.holder, after, hnow, hholders, Keyspace.get_del, hn,
      true_and]
  · rw [if_neg hn, if_neg fun hh => hn hh.1]
    simp only [LeaseRedis.holder, after, hnow, hholders]

end LeaseRedis

theorem LeaseInv.release (h : LeaseInv st issued r) {l : ConcurrencyLease}
    (hl : AList.lookup l.leaseId issued = some l) :
    LeaseInv st issued (r.release l).1 := by
  have hlive : ∀ {k id x d}, ((r.release l).1.after d).live k id x ↔
      id ≠ l.leaseId ∧ (r.after d).live k id x := by
    intro k id x d
    unfold live
    rw [members_release, now_after, now_after, now_release]
    by_cases hk : k ∈ l.scopeKeys
    · rw [if_pos hk, SortedSet.score_remove]
      by_cases hid : id = l.leaseId <;> simp [hid]
    · rw [if_neg hk]
      refine ⟨fun hlive => ⟨?_, hlive⟩, fun hlive => hlive.2⟩
      rintro rfl
      obtain ⟨l', hl', hk'⟩ := h.known (LeaseRedis.live.earlier hlive)
      cases hl.symm.trans hl'
      exact hk hk'
  have hlive₀ : ∀ {k id x}, (r.release l).1.live k id x ↔
      id ≠ l.leaseId ∧ r.live k id x := @fun k id x => hlive (d := 0)
  have hholder : ∀ holder, (r.release l).1.holder holder
      = if r.names l = true ∧ holder = l.holderId then none
        else r.holder holder := holder_release l 0
  refine ⟨h.issuedAs, fun k => ?_, fun hlive => h.known (hlive₀.mp hlive).2,
    fun hlive hi hk => ?_, @fun k id x l' hlive hi => ?_, fun hlive => ?_,
    fun d hlive' hlt => ?_, fun d hh hlt => ?_⟩
  · have hmem : (r.release l).1.members k
        = if k ∈ l.scopeKeys then (r.members k).remove l.leaseId
          else r.members k := members_release l k 0
    rw [now_release, hmem]
    split
    · exact SortedSet.above_remove.trans (h.within k)
    · exact h.within k
  · obtain ⟨hne, hlive⟩ := hlive₀.mp hlive
    exact hlive₀.mpr ⟨hne, h.agree hlive hi hk⟩
  · obtain ⟨hne, hlive⟩ := hlive₀.mp hlive
    obtain ⟨rec, hrec, hid, hx⟩ := h.held hlive hi
    refine ⟨rec, ?_, hid, hx⟩
    rw [hholder, if_neg]
    · exact hrec
    · -- the key names the other lease
      rintro ⟨hn, heq⟩
      rw [heq] at hrec
      simp only [names, hrec, Option.any_some, beq_iff_eq] at hn
      exact hne (hid.symm.trans hn)
  · rw [now_release]
    exact h.short (hlive₀.mp hlive).2
  · obtain ⟨hne, hl'⟩ := hlive₀.mp hlive'
    rw [now_release] at hlt
    exact hlive.mpr ⟨hne, h.lasts d hl' hlt⟩
  · rw [now_release] at hlt
    rw [hholder] at hh
    rw [holder_release]
    split at hh
    · cases hh
    · rw [if_neg (by assumption)]
      exact h.recordLasts d hh hlt

/-! ## Stale and foreign handles -/

/-- Nothing changes but what is kept under the id of the handle. -/
def LeaseRedis.SameButFor (l : ConcurrencyLease) (r r' : LeaseRedis) : Prop :=
  (∀ k id, id ≠ l.leaseId →
    (r'.members k).score id = (r.members k).score id) ∧
  ∀ holder rec, r.holder holder = some rec → rec.leaseId ≠ l.leaseId →
    r'.holder holder = some rec

theorem renew_sameButFor (r : LeaseRedis) (l : ConcurrencyLease) :
    r.SameButFor l (r.renew st l).1 := by
  have hnow := now_foldl_extend (r := r)
    (fun n s => s.addExisting l.leaseId (n + st.ttlMs)) st.ttlMs l.scopeKeys
  have hholders := holders_foldl_extend (r := r)
    (fun n s => s.addExisting l.leaseId (n + st.ttlMs)) st.ttlMs l.scopeKeys
  have hmem := fun k => members_foldl_extend (r := r)
    (fun n s => s.addExisting l.leaseId (n + st.ttlMs)) st.ttlMs l.scopeKeys
    l.scopeKeys_nodup k 0
  have hscore : ∀ {s : LeaseRedis}, s.now = r.now →
      s.scopes = (l.scopeKeys.foldl (fun s k =>
        s.extend (·.addExisting l.leaseId (s.now + st.ttlMs)) st.ttlMs k)
        r).scopes →
      ∀ k id, id ≠ l.leaseId →
        (s.members k).score id = (r.members k).score id := by
    intro s hs hsc k id hne
    have hmem : s.members k = if k ∈ l.scopeKeys then
        (r.members k).addExisting l.leaseId (r.now + st.ttlMs)
        else r.members k := by
      have := hmem k
      unfold members at this ⊢
      rw [hs, hsc]
      simpa [after, hnow] using this
    rw [hmem]
    split
    · rw [SortedSet.score_addExisting, if_neg hne]
    · rfl
  unfold LeaseRedis.renew
  split
  · dsimp only
    split
    · rename_i rec hrec
      split
      · rename_i hid
        refine ⟨hscore hnow rfl, fun holder old hold hne => ?_⟩
        unfold LeaseRedis.holder at hold hrec ⊢
        dsimp only at hrec ⊢
        rw [hnow, hholders] at *
        rw [Keyspace.get_set]
        split
        · rename_i heq
          rw [heq, hrec] at hold
          cases hold
          exact absurd hid hne
        · exact hold
      · refine ⟨hscore hnow rfl, fun holder old hold _ => ?_⟩
        unfold LeaseRedis.holder at hold ⊢
        rw [hnow, hholders]
        exact hold
    · refine ⟨hscore hnow rfl, fun holder old hold _ => ?_⟩
      unfold LeaseRedis.holder at hold ⊢
      rw [hnow, hholders]
      exact hold
  · exact ⟨fun _ _ _ => rfl, fun _ _ hold _ => hold⟩

theorem release_sameButFor (r : LeaseRedis) (l : ConcurrencyLease) :
    r.SameButFor l (r.release l).1 := by
  refine ⟨fun k id hne => ?_, fun holder rec hrec hne => ?_⟩
  · have hmem : (r.release l).1.members k
        = if k ∈ l.scopeKeys then (r.members k).remove l.leaseId
          else r.members k := members_release l k 0
    rw [hmem]
    split
    · rw [SortedSet.score_remove, if_neg hne]
    · rfl
  · have hholder := holder_release (r := r) l 0 holder
    refine hholder.trans ?_
    rw [if_neg]
    · exact hrec
    · rintro ⟨hn, heq⟩
      rw [heq] at hrec
      simp only [names, hrec, Option.any_some, beq_iff_eq] at hn
      exact hne hn

/-! ## Runs -/

theorem leaseStep_inv {s s' : LeaseSystem} {a : LeaseAct}
    (h : LeaseInv st s.issued s.redis) (hs : leaseStep st s a = some s') :
    LeaseInv st s'.issued s'.redis := by
  cases a with
  | acquire l workerId =>
      obtain ⟨hnew, hs⟩ := Option.ite_none_right_eq_some.mp hs
      cases hs
      exact h.acquire (Option.isNone_iff_eq_none.mp hnew) workerId
  | lost l =>
      obtain ⟨hnew, hs⟩ := Option.ite_none_right_eq_some.mp hs
      cases hs
      exact h.issue (Option.isNone_iff_eq_none.mp hnew)
  | renew id =>
      obtain ⟨l, hl, rfl⟩ := Option.map_eq_some_iff.mp hs
      exact h.renew (by rw [h.issuedAs hl]; exact hl)
  | release id =>
      obtain ⟨l, hl, rfl⟩ := Option.map_eq_some_iff.mp hs
      exact h.release (by rw [h.issuedAs hl]; exact hl)
  | tick d =>
      cases hs
      exact h.after d

/-- A lease that no scope holds any more comes back in none. -/
theorem leaseStep_dead {s s' : LeaseSystem} {a : LeaseAct}
    (h : LeaseInv st s.issued s.redis) (hs : leaseStep st s a = some s')
    {id : LeaseId} {l : ConcurrencyLease}
    (hl : AList.lookup id s.issued = some l) (hdead : ¬ s.redis.alive id) :
    AList.lookup id s'.issued = some l ∧ ¬ s'.redis.alive id := by
  have hother : ∀ {r' : LeaseRedis}, r'.now = s.redis.now →
      (∀ k, (r'.members k).score id = (s.redis.members k).score id) →
      ¬ r'.alive id := by
    rintro r' hnow hscore ⟨k, x, hx, hlt⟩
    exact hdead ⟨k, x, hscore k ▸ hx, hnow ▸ hlt⟩
  cases a with
  | acquire new workerId =>
      obtain ⟨hnew, hs⟩ := Option.ite_none_right_eq_some.mp hs
      cases hs
      have hnew := Option.isNone_iff_eq_none.mp hnew
      have hne : id ≠ new.leaseId := by
        rintro rfl
        rw [hl] at hnew
        cases hnew
      refine ⟨(AList.lookup_insert_ne hne).trans hl, ?_⟩
      have hkeys := new.scopeKeys_nodup
      have hpruned : ¬ (s.redis.prune new.scopeKeys).alive id := by
        rintro ⟨k, x, hlive⟩
        have hlive := (live_prune hkeys (d := 0)).mp hlive
        exact hdead ⟨k, x, hlive⟩
      show ¬ (s.redis.acquire st new workerId).1.alive id
      unfold LeaseRedis.acquire
      dsimp only
      split
      · exact hpruned
      split
      · exact hpruned
      · rintro ⟨k, x, hlive⟩
        have hp := (h.prune hkeys).issue hnew
        have hown : ∀ {k x},
            (s.redis.prune new.scopeKeys).live k new.leaseId x →
            k ∈ new.scopeKeys := by
          intro k x hnow
          obtain ⟨l', hl', hk⟩ := hp.known hnow
          rw [AList.lookup_insert] at hl'
          cases hl'
          exact hk
        have hlive := ((stamped_take workerId).live_iff hp hown (d := 0)).mp
          hlive
        obtain ⟨-, ⟨-, heq, -⟩ | ⟨-, hlive⟩⟩ := hlive
        · exact hne heq
        · exact hpruned ⟨k, x, hlive⟩
  | lost new =>
      obtain ⟨hnew, hs⟩ := Option.ite_none_right_eq_some.mp hs
      cases hs
      have hnew := Option.isNone_iff_eq_none.mp hnew
      refine ⟨?_, hdead⟩
      rw [AList.lookup_insert_ne]
      · exact hl
      · rintro rfl
        rw [hl] at hnew
        cases hnew
  | renew id' =>
      obtain ⟨l', hl', rfl⟩ := Option.map_eq_some_iff.mp hs
      have hid := h.issuedAs hl'
      refine ⟨hl, ?_⟩
      by_cases hholds : s.redis.holds l' = true
      · have hne : id ≠ l'.leaseId := by
          rintro rfl
          obtain ⟨x, hx, hlt⟩ := (Option.any_eq_true _ _).mp
            (List.all_eq_true.mp hholds .global (List.mem_cons_self ..))
          exact hdead ⟨.global, x, hx, of_decide_eq_true hlt⟩
        have hnow := (h.stamped_renew (hid ▸ hl') hholds).now
        exact hother hnow fun k => (renew_sameButFor s.redis l').1 k id hne
      · show ¬ (s.redis.renew st l').1.alive id
        rw [renew_dead hholds]
        exact hdead
  | release id' =>
      obtain ⟨l', hl', rfl⟩ := Option.map_eq_some_iff.mp hs
      refine ⟨hl, ?_⟩
      rintro ⟨k, x, hx, hlt⟩
      have hmem : (s.redis.release l').1.members k
          = if k ∈ l'.scopeKeys then (s.redis.members k).remove l'.leaseId
            else s.redis.members k := members_release l' k 0
      rw [now_release] at hlt
      refine hdead ⟨k, x, ?_, hlt⟩
      rw [hmem] at hx
      split at hx
      · rw [SortedSet.score_remove] at hx
        split at hx
        · cases hx
        · exact hx
      · exact hx
  | tick d =>
      cases hs
      refine ⟨hl, ?_⟩
      rintro ⟨k, x, hlive⟩
      exact hdead ⟨k, x, hlive.earlier⟩

theorem leaseInv_fresh (t : Nat) :
    LeaseInv st ∅ (LeaseSystem.fresh t).redis where
  issuedAs h := by cases h
  within k := Nat.zero_le _
  known h := by cases h.1
  agree h := by cases h.1
  held h := by cases h.1
  short h := by cases h.1
  lasts _ h := by cases h.1
  recordLasts _ h := by cases h

theorem run_leaseInv {t : Nat} {s : LeaseSystem}
    (h : Run (leaseStep st) (fun _ _ => True) (LeaseSystem.fresh t) s) :
    LeaseInv st s.issued s.redis :=
  h.inv (P := fun s => LeaseInv st s.issued s.redis)
    (fun _ _ _ hi _ hs => leaseStep_inv hi hs) (leaseInv_fresh t)

theorem run_dead {s s' : LeaseSystem} (hi : LeaseInv st s.issued s.redis)
    (h : Run (leaseStep st) (fun _ _ => True) s s') {id : LeaseId}
    {l : ConcurrencyLease} (hl : AList.lookup id s.issued = some l)
    (hdead : ¬ s.redis.alive id) : ¬ s'.redis.alive id :=
  (h.inv_of (I := fun s => LeaseInv st s.issued s.redis)
    (P := fun s => AList.lookup id s.issued = some l ∧ ¬ s.redis.alive id)
    (fun _ _ _ hi _ hs => leaseStep_inv hi hs)
    (fun _ _ _ hi hp _ hs => leaseStep_dead hi hs hp.1 hp.2) hi
    ⟨hl, hdead⟩).2

/-- **Lease safety**, in every state the scripts can reach, for any number
of workers and in any order. -/
theorem leases_safe (st : LeaseStore) (t : Nat) (s : LeaseSystem)
    (h : Run (leaseStep st) (fun _ _ => True) (LeaseSystem.fresh t) s) :
    -- no scope is over its limit
    (∀ k, (s.redis.members k).above s.redis.now ≤ st.limit k) ∧
    -- a live lease is in its three scopes, with one expiry, and nowhere else
    (∀ id k x, s.redis.live k id x →
      ∃ l, AList.lookup id s.issued = some l ∧
        ∀ k', k' ∈ l.scopeKeys ↔ s.redis.live k' id x) ∧
    (∀ id k x d, s.redis.live k id x → s.redis.now + d < x →
      (s.redis.after d).live k id x) ∧
    -- a holder has one live lease
    (∀ id id' l l', AList.lookup id s.issued = some l →
      AList.lookup id' s.issued = some l' → l.holderId = l'.holderId →
      s.redis.alive id → s.redis.alive id' → id = id') ∧
    -- a handle reaches no lease but its own
    (∀ l, s.redis.SameButFor l (s.redis.renew st l).1 ∧
      s.redis.SameButFor l (s.redis.release l).1) ∧
    -- what expired or was released stays gone
    (∀ id l, AList.lookup id s.issued = some l → ¬ s.redis.alive id →
      ∀ s', Run (leaseStep st) (fun _ _ => True) s s' →
        ¬ s'.redis.alive id) := by
  have hi := run_leaseInv h
  refine ⟨hi.within, fun id k x hlive => ?_,
    fun id k x d hlive hx => hi.lasts d hlive hx,
    fun id id' l l' hl hl' hsame ha ha' => hi.one_per_holder hl hl' hsame ha ha',
    fun l => ⟨renew_sameButFor _ l, release_sameButFor _ l⟩,
    fun id l hl hdead s' hrun => run_dead hi hrun hl hdead⟩
  obtain ⟨l, hl, hk⟩ := hi.known hlive
  refine ⟨l, hl, fun k' => ⟨fun hk' => hi.agree hlive hl hk', fun hlive' => ?_⟩⟩
  obtain ⟨l', hl', hk'⟩ := hi.known hlive'
  cases hl.symm.trans hl'
  exact hk'

end Inv

/-! ## One slot, two workers -/

/-- One call at a time, a lease of ten minutes. -/
def oneSlot : LeaseStore where
  ttlMs := 600000
  ttl_pos := by decide
  limit _ := 1

/-- The lease of an attempt, as the worker that drew this id wants it. -/
def demoLease (id : LeaseId) (holder : HolderId) : ConcurrencyLease :=
  { leaseId := id, holderId := holder, campaignId := 1
    providerName := "twilio" }

/-- The slot is taken and renewed; a second worker is turned away until it
has been released, and the late renewal is refused. -/
def slotChangesHands : List LeaseAct :=
  [.acquire (demoLease 1 "a") "w1", .tick 300000, .renew 1,
    .acquire (demoLease 2 "b") "w2", .tick 400000, .release 1, .renew 1,
    .acquire (demoLease 3 "b") "w2"]

theorem leases_safe_slotChangesHands :
    ∃ s, runActs (leaseStep oneSlot) (.fresh 0) slotChangesHands = some s ∧
      (s.redis.members .global).score 3 = some 1300000 ∧
      (∀ k, (s.redis.members k).above s.redis.now ≤ 1) ∧
      ∀ s', Run (leaseStep oneSlot) (fun _ _ => True) s s' →
        ¬ s'.redis.alive 1 := by
  have hany : (runActs (leaseStep oneSlot) (.fresh 0) slotChangesHands).any
      (fun s => decide ((s.redis.members .global).score 3 = some 1300000 ∧
        (s.redis.members .global).score 1 = none ∧
        AList.lookup 1 s.issued = some (demoLease 1 "a"))) = true := by
    decide +kernel
  obtain ⟨s, hs, hdec⟩ := (Option.any_eq_true _ _).mp hany
  obtain ⟨h3, h1, hissued⟩ := of_decide_eq_true hdec
  obtain ⟨hwithin, hscopes, -, -, -, hdead⟩ :=
    leases_safe oneSlot 0 s (Run.of_runActs hs)
  refine ⟨s, hs, h3, hwithin, hdead 1 _ hissued ?_⟩
  rintro ⟨k, x, hlive⟩
  obtain ⟨l, hl, hk⟩ := hscopes 1 k x hlive
  have hglobal := ((hk .global).mp (List.mem_cons_self ..)).1
  rw [h1] at hglobal
  cases hglobal

end CallingAgent
