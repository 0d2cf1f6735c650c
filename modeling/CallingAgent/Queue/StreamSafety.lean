import CallingAgent.Queue.Stream

/-!
# No job is lost

An entry leaves the stream in two ways only, by a caller's acknowledgement
and by a move to the dead-letter stream, and both delete it and forget its
delivery at once. So what is in the stream is unread or pending, and what is
gone is never handed out again.
-/

namespace CallingAgent

open Lib

/-! ## What a worker holds -/

/-- The messages a call has claimed and not settled yet, with their texts. -/
def Doing.claimed : Doing → List (MessageId × String)
  | .idle | .reading | .claiming _ _ => []
  | .discarding l => [(l.messageId, l.raw)]
  | .examining batch _ => batch
  | .condemning l batch _ => (l.messageId, l.raw) :: batch

/-- The messages a call is going to return. -/
def Doing.ready : Doing → List (MessageId × UntypedJob)
  | .examining _ ready | .condemning _ _ ready => ready
  | _ => []

/-- What a worker holds was added, and was not gone when its call began. -/
structure StreamWorker.Sound (w : StreamWorker)
    (added : List (MessageId × String)) (gone : List MessageId) : Prop where
  claimed : ∀ x ∈ w.doing.claimed, x ∈ added ∧ x.1 ∉ w.called
  ready : ∀ x ∈ w.doing.ready, x.1 ∉ w.called
  called : ∀ m ∈ w.called, m ∈ gone

theorem StreamWorker.Sound.mono {w : StreamWorker}
    {added added' : List (MessageId × String)} {gone gone' : List MessageId}
    (h : w.Sound added gone) (ha : ∀ x ∈ added, x ∈ added')
    (hg : ∀ m ∈ gone, m ∈ gone') : w.Sound added' gone' where
  claimed x hx := ⟨ha x (h.claimed x hx).1, (h.claimed x hx).2⟩
  ready := h.ready
  called m hm := hg m (h.called m hm)

/-- A worker that holds nothing. -/
theorem StreamWorker.Sound.of_nothing {w : StreamWorker}
    {added : List (MessageId × String)} {gone : List MessageId}
    (hc : w.doing.claimed = []) (hr : w.doing.ready = [])
    (h : ∀ m ∈ w.called, m ∈ gone) : w.Sound added gone where
  claimed x hx := by
    rw [hc] at hx
    cases hx
  ready x hx := by
    rw [hr] at hx
    cases hx
  called := h

/-! ## The invariant -/

/-- An entry that was added is where it was put, or was acknowledged, or is
in the dead-letter stream with its payload. -/
def StreamSystem.Kept (s : StreamSystem) (m : MessageId) (payload : String) :
    Prop :=
  AList.lookup m s.redis.stream.entries = some payload ∨ m ∈ s.acked ∨
    ∃ d ∈ s.redis.dlq, d.originalId = m ∧ d.job = payload

structure StreamInv (s : StreamSystem) : Prop where
  tracks : s.redis.stream.Tracks
  issued : ∀ {m p}, (m, p) ∈ s.added → m ≤ s.redis.stream.lastId
  unique : ∀ {m p p'}, (m, p) ∈ s.added → (m, p') ∈ s.added → p = p'
  stored : ∀ {m p}, AList.lookup m s.redis.stream.entries = some p →
    (m, p) ∈ s.added
  kept : ∀ {m p}, (m, p) ∈ s.added → s.Kept m p
  gone : ∀ m ∈ s.gone, AList.lookup m s.redis.stream.entries = none ∧
    m ≤ s.redis.stream.lastId
  workers : ∀ c, (s.worker c).Sound s.added s.gone
  answers : ∀ a ∈ s.returned, ∀ x ∈ a.messages, x.1 ∉ a.called
  guards : ∀ {k e}, AList.lookup k s.redis.guards = some e →
    ∃ m p, (k, m, p) ∈ s.addedOnce ∧ (m, p) ∈ s.added

theorem StreamInv.fresh (now : Nat) : StreamInv (.fresh now) where
  tracks := .empty
  issued h := nomatch h
  unique h := nomatch h
  stored h := by simp [StreamSystem.fresh] at h
  kept h := nomatch h
  gone m h := nomatch h
  workers c := .of_nothing rfl rfl nofun
  answers a h := nomatch h
  guards h := by simp [StreamSystem.fresh] at h

section Updates

variable {s : StreamSystem}

theorem StreamSystem.worker_setWorker (c c' : ConsumerName) (w : StreamWorker) :
    (s.setWorker c w).worker c' = if c' = c then w else s.worker c' := by
  unfold StreamSystem.worker StreamSystem.setWorker
  dsimp only
  rw [Table.lookup_insert']
  split
  · rfl
  · rfl

namespace StreamInv

/-- Only a worker changes, and what it holds is sound. -/
theorem setWorker (h : StreamInv s) {c : ConsumerName} {w : StreamWorker}
    (hw : w.Sound s.added s.gone) : StreamInv (s.setWorker c w) where
  tracks := h.tracks
  issued := h.issued
  unique := h.unique
  stored := h.stored
  kept := h.kept
  gone := h.gone
  workers c' := by
    rw [StreamSystem.worker_setWorker]
    split
    · exact hw
    · exact h.workers c'
  answers := h.answers
  guards := h.guards

theorem setDoing (h : StreamInv s) {c : ConsumerName} {d : Doing}
    (hc : ∀ x ∈ d.claimed, x ∈ s.added ∧ x.1 ∉ (s.worker c).called)
    (hr : ∀ x ∈ d.ready, x.1 ∉ (s.worker c).called) :
    StreamInv (s.setDoing c d) :=
  h.setWorker ⟨hc, hr, (h.workers c).called⟩

/-- A call returns what it may. -/
theorem answer (h : StreamInv s) {c : ConsumerName}
    {messages : List (MessageId × UntypedJob)}
    (hm : ∀ x ∈ messages, x.1 ∉ (s.worker c).called) :
    StreamInv (s.answer c messages) :=
  have hidle : StreamInv (s.setDoing c .idle) := h.setDoing nofun nofun
  { hidle with
    kept := hidle.kept
    workers := hidle.workers
    gone := hidle.gone
    answers := fun a ha => by
      rcases List.mem_cons.mp ha with rfl | ha
      · exact hm
      · exact h.answers a ha }

/-- The deliveries change, the entries do not. -/
theorem setStream (h : StreamInv s)
    {stream : GroupStream ConsumerName String} (ht : stream.Tracks)
    (he : stream.entries = s.redis.stream.entries ∧
      stream.lastId = s.redis.stream.lastId) :
    StreamInv (s.setStream stream) where
  tracks := ht
  issued hm := he.2 ▸ h.issued hm
  unique := h.unique
  stored hm := h.stored (he.1 ▸ hm)
  kept hm := by
    rcases h.kept hm with hin | hout
    · exact .inl (by rw [← hin, ← he.1]; rfl)
    · exact .inr hout
  gone m hm := by
    obtain ⟨hnone, hle⟩ := h.gone m hm
    exact ⟨by rw [← hnone, ← he.1]; rfl, by rw [← he.2] at hle; exact hle⟩
  workers := h.workers
  answers := h.answers
  guards := h.guards

/-- The script adds an entry; `addedOnce` and the guards may grow with it. -/
theorem add (h : StreamInv s) (payload : String) {r : StreamRedis}
    {once : List (GuardKey × MessageId × String)}
    (hstream : r.stream = s.redis.stream.add payload)
    (hdlq : r.dlq = s.redis.dlq)
    (honce : ∀ x ∈ s.addedOnce, x ∈ once)
    (hguards : ∀ k e, AList.lookup k r.guards = some e →
      AList.lookup k s.redis.guards = some e ∨
        (k, s.redis.stream.lastId + 1, payload) ∈ once) :
    StreamInv { s.logAdded payload with redis := r, addedOnce := once } := by
  have hgone : ∀ m, m ∈ s.acked ++ r.dlq.map (·.originalId) → m ∈ s.gone := by
    intro m hm
    rw [hdlq] at hm
    exact hm
  have hfresh : ∀ {m p}, (m, p) ∈ s.added → m ≠ s.redis.stream.lastId + 1 := by
    intro m p hm heq
    exact Nat.not_succ_le_self _ (heq ▸ h.issued hm)
  exact {
    tracks := hstream ▸ h.tracks.add payload
    issued := fun {m p} hm => by
      rw [hstream]
      rcases List.mem_cons.mp hm with heq | hm
      · cases heq
        exact Nat.le_refl _
      · exact Nat.le_succ_of_le (h.issued hm)
    unique := fun {m p p'} hm hm' => by
      rcases List.mem_cons.mp hm with heq | hm
      · cases heq
        rcases List.mem_cons.mp hm' with heq' | hm'
        · cases heq'
          rfl
        · exact absurd rfl (hfresh hm')
      · rcases List.mem_cons.mp hm' with heq' | hm'
        · cases heq'
          exact absurd rfl (hfresh hm)
        · exact h.unique hm hm'
    stored := fun {m p} hm => by
      rw [hstream, GroupStream.lookup_add] at hm
      split at hm
      · next heq =>
        cases hm
        subst heq
        exact List.mem_cons_self
      · exact List.mem_cons_of_mem _ (h.stored hm)
    kept := fun {m p} hm => by
      unfold StreamSystem.Kept
      rw [hstream, GroupStream.lookup_add, hdlq]
      rcases List.mem_cons.mp hm with heq | hm
      · cases heq
        exact .inl (if_pos rfl)
      · rw [if_neg (hfresh hm)]
        exact h.kept hm
    gone := fun m hm => by
      obtain ⟨hnone, hle⟩ := h.gone m (hgone m hm)
      rw [hstream, GroupStream.lookup_add]
      rw [if_neg (Nat.ne_of_lt (Nat.lt_succ_of_le hle))]
      exact ⟨hnone, Nat.le_succ_of_le hle⟩
    workers := fun c => (h.workers c).mono
      (fun x hx => List.mem_cons_of_mem _ hx)
      (fun m hm => by
        show m ∈ s.acked ++ r.dlq.map (·.originalId)
        rw [hdlq]
        exact hm)
    answers := h.answers
    guards := fun {k e} hk => by
      rcases hguards k e hk with hk | hk
      · obtain ⟨m, p, ho, ha⟩ := h.guards hk
        exact ⟨m, p, honce _ ho, List.mem_cons_of_mem _ ha⟩
      · exact ⟨_, _, hk, List.mem_cons_self⟩ }

/-- An entry is settled, and it is acknowledged or dead-lettered from now
on, if it was there at all. -/
theorem settle (h : StreamInv s) {m : MessageId} {acked : List MessageId}
    {dlq : List DeadEntry}
    (hacked : ∀ k ∈ s.acked, k ∈ acked) (hdlq : ∀ d ∈ s.redis.dlq, d ∈ dlq)
    (hgone : ∀ k, k ∈ acked ++ dlq.map (·.originalId) →
      k ∈ s.gone ∨ k = m ∧ m ≤ s.redis.stream.lastId)
    (hm : ∀ p, AList.lookup m s.redis.stream.entries = some p →
      m ∈ acked ∨ ∃ d ∈ dlq, d.originalId = m ∧ d.job = p) :
    StreamInv { s with
      redis := { s.redis with stream := s.redis.stream.settle m, dlq := dlq }
      acked := acked } where
  tracks := h.tracks.settle m
  issued := h.issued
  unique := h.unique
  stored {k p} hk := by
    rw [GroupStream.lookup_settle] at hk
    split at hk
    · cases hk
    · exact h.stored hk
  kept {k p} hk := by
    unfold StreamSystem.Kept
    dsimp only
    rw [GroupStream.lookup_settle]
    rcases h.kept hk with hin | hout | ⟨d, hd, hid, hjob⟩
    · by_cases hkm : k = m
      · subst hkm
        exact .inr (hm p hin)
      · exact .inl (by rw [if_neg hkm]; exact hin)
    · exact .inr (.inl (hacked k hout))
    · exact .inr (.inr ⟨d, hdlq d hd, hid, hjob⟩)
  gone k hk := by
    dsimp only
    rw [GroupStream.lookup_settle]
    rcases hgone k hk with hk | ⟨rfl, hle⟩
    · obtain ⟨hnone, hle⟩ := h.gone k hk
      refine ⟨?_, hle⟩
      split
      · rfl
      · exact hnone
    · exact ⟨if_pos rfl, hle⟩
  workers c := (h.workers c).mono (fun _ hx => hx) fun k hk => by
    rcases List.mem_append.mp hk with hk | hk
    · exact List.mem_append_left _ (hacked k hk)
    · obtain ⟨d, hd, rfl⟩ := List.mem_map.mp hk
      exact List.mem_append_right _ (List.mem_map_of_mem (hdlq d hd))
  answers := h.answers
  guards := h.guards

/-! ### The operations -/

protected theorem enqueueOnce (h : StreamInv s) (settings : Settings)
    (payload : String) (k : GuardKey) (ttl : Int) :
    StreamInv (s.enqueueOnce settings payload k ttl) := by
  unfold StreamSystem.enqueueOnce StreamRedis.enqueueOnce
  dsimp only
  split
  · exact h
  · split
    · exact h
    · split
      · -- the job and its guard
        refine h.add payload rfl rfl (fun x hx => List.mem_cons_of_mem _ hx) ?_
        intro k' e hk'
        have hk' : AList.lookup k' (AList.insert k _ s.redis.guards) = some e :=
          hk'
        rw [Table.lookup_insert'] at hk'
        split at hk'
        · next heq => exact .inr (heq ▸ List.mem_cons_self)
        · exact .inl hk'
      · -- the job without its guard
        exact h.add payload rfl rfl (fun x hx => List.mem_cons_of_mem _ hx)
          fun _ _ hk' => .inl hk'

protected theorem enqueue (h : StreamInv s) (payload : String) :
    StreamInv (s.enqueue payload) :=
  h.add payload rfl rfl (fun _ hx => hx) fun _ _ hk => .inl hk

protected theorem ack (h : StreamInv s) (m : MessageId) :
    StreamInv (s.ack m) := by
  refine @settle s h m _ s.redis.dlq ?_ (fun _ hd => hd) ?_ ?_
  · intro k hk
    split
    · exact List.mem_cons_of_mem _ hk
    · exact hk
  · intro k hk
    rcases List.mem_append.mp hk with hk | hk
    · split at hk
      · next hin =>
        rcases List.mem_cons.mp hk with rfl | hk
        · obtain ⟨p, hp⟩ := Option.isSome_iff_exists.mp hin
          exact .inr ⟨rfl, h.issued (h.stored hp)⟩
        · exact .inl (List.mem_append_left _ hk)
      · exact .inl (List.mem_append_left _ hk)
    · exact .inl (List.mem_append_right _ hk)
  · intro p hp
    rw [hp]
    exact .inl List.mem_cons_self

/-- A letter is moved with the payload its message was added with. -/
protected theorem deadLetter (h : StreamInv s) {c : ConsumerName}
    {l : DeadLetter} (hl : (l.messageId, l.raw) ∈ s.added) :
    StreamInv (s.deadLetter c l) := by
  have hmoved : StreamInv { s with redis := s.redis.deadLetter l } := by
    refine @settle s h l.messageId s.acked _ (fun _ hk => hk)
      (fun d hd => List.mem_append_left _ hd) ?_ ?_
    · intro k hk
      rw [List.map_append, ← List.append_assoc] at hk
      rcases List.mem_append.mp hk with hk | hk
      · exact .inl hk
      · exact .inr ⟨List.mem_singleton.mp hk, h.issued hl⟩
    · intro p hp
      exact .inr ⟨_, List.mem_append_right _ List.mem_cons_self, rfl,
        h.unique hl (h.stored hp)⟩
  have hw := hmoved.workers c
  exact hmoved.setWorker ⟨hw.claimed, hw.ready, hw.called⟩

protected theorem begin (h : StreamInv s) {c : ConsumerName} {d : Doing}
    {s' : StreamSystem} (hc : d.claimed = []) (hr : d.ready = [])
    (hs : s.begin c d = some s') : StreamInv s' := by
  unfold StreamSystem.begin at hs
  split at hs
  · cases hs
    exact h.setWorker (.of_nothing hc hr fun _ hm => hm)
  · cases hs

protected theorem proceed (h : StreamInv s) {c : ConsumerName}
    {batch : List (MessageId × String)} {ready : List (MessageId × UntypedJob)}
    (hb : ∀ x ∈ batch, x ∈ s.added ∧ x.1 ∉ (s.worker c).called)
    (hr : ∀ x ∈ ready, x.1 ∉ (s.worker c).called) :
    StreamInv (s.proceed c batch ready) := by
  unfold StreamSystem.proceed
  cases batch with
  | nil => exact h.answer hr
  | cons x batch => exact h.setDoing hb hr

protected theorem received (h : StreamInv s) (json : JsonModule)
    {c : ConsumerName} {entry : Option (MessageId × String)}
    (he : ∀ x ∈ entry, x ∈ s.added ∧ x.1 ∉ (s.worker c).called) :
    StreamInv (s.received json c entry) := by
  cases entry with
  | none => exact h.answer nofun
  | some x =>
      obtain ⟨m, raw⟩ := x
      have hx := he (m, raw) rfl
      unfold StreamSystem.received
      dsimp only
      split
      · exact h.setDoing nofun nofun
      · refine h.setDoing (fun x hm => ?_) nofun
        rw [List.mem_singleton.mp hm]
        exact hx
      · refine h.answer fun x hm => ?_
        rw [List.mem_singleton.mp hm]
        exact hx.2

protected theorem examine (h : StreamInv s) (settings : Settings)
    (json : JsonModule) {c : ConsumerName} {m : MessageId} {raw : String}
    {batch : List (MessageId × String)} {ready : List (MessageId × UntypedJob)}
    (hb : ∀ x ∈ (m, raw) :: batch, x ∈ s.added ∧ x.1 ∉ (s.worker c).called)
    (hr : ∀ x ∈ ready, x.1 ∉ (s.worker c).called) :
    StreamInv (s.examine settings json c m raw batch ready) := by
  obtain ⟨hx, hrest⟩ := List.forall_mem_cons.mp hb
  unfold StreamSystem.examine
  dsimp only
  split
  · exact h.setDoing nofun nofun
  · exact h.setDoing hb hr
  · split
    · exact h.setDoing hb hr
    · refine h.proceed hrest fun x hm => ?_
      rcases List.mem_append.mp hm with hm | hm
      · exact hr x hm
      · rw [List.mem_singleton.mp hm]
        exact hx.2

/-- What a command answers with now was not gone when the call began. -/
theorem claimable (h : StreamInv s) (c : ConsumerName) {m : MessageId}
    {p : String} (hm : AList.lookup m s.redis.stream.entries = some p) :
    (m, p) ∈ s.added ∧ m ∉ (s.worker c).called := by
  refine ⟨h.stored hm, fun hcalled => ?_⟩
  have hnone := (h.gone m ((h.workers c).called m hcalled)).1
  rw [hm] at hnone
  cases hnone

protected theorem command (h : StreamInv s) (settings : Settings)
    (json : JsonModule) {c : ConsumerName} {s' : StreamSystem}
    (hs : s.command settings json c = some s') : StreamInv s' := by
  have hw := h.workers c
  have hclaimed := hw.claimed
  have hready := hw.ready
  unfold StreamSystem.command at hs
  split at hs
  · cases hs
  · cases hs
    have hread := h.setStream (h.tracks.readNew c s.redis.now)
      (GroupStream.readNew_entries c s.redis.now)
    refine hread.received json fun x hx => ?_
    exact h.claimable c (GroupStream.readNew_some hx).1
  · next l hdoing =>
    cases hs
    rw [hdoing] at hclaimed
    have hmoved := h.deadLetter (c := c) (hclaimed _ List.mem_cons_self).1
    exact hmoved.setDoing nofun nofun
  · next idleMs count _ =>
    cases hs
    have hclaim := h.setStream (h.tracks.autoclaim c s.redis.now idleMs count)
      (GroupStream.autoclaim_entries c s.redis.now idleMs count)
    refine hclaim.proceed (fun x hx => ?_) nofun
    exact h.claimable c (GroupStream.mem_autoclaim hx)
  · next ready hdoing =>
    cases hs
    rw [hdoing] at hready
    exact h.answer hready
  · next m raw batch ready hdoing =>
    cases hs
    rw [hdoing] at hclaimed hready
    exact h.examine settings json hclaimed hready
  · next l batch ready hdoing =>
    cases hs
    rw [hdoing] at hclaimed hready
    obtain ⟨hl, hbatch⟩ := List.forall_mem_cons.mp hclaimed
    have hmoved := h.deadLetter (c := c) hl.1
    have hcalled : ((s.deadLetter c l).worker c).called = (s.worker c).called := by
      unfold StreamSystem.deadLetter
      rw [StreamSystem.worker_setWorker, if_pos rfl]
    refine hmoved.proceed ?_ ?_
    · rw [hcalled]
      exact hbatch
    · rw [hcalled]
      exact hready

/-- **One step.** -/
theorem step (h : StreamInv s) {settings : Settings} {json : JsonModule}
    {a : StreamAct} {s' : StreamSystem}
    (hs : streamStep settings json s a = some s') : StreamInv s' := by
  cases a with
  | enqueue payload =>
      cases hs
      exact h.enqueue payload
  | enqueueOnce payload k ttl =>
      cases hs
      exact h.enqueueOnce settings payload k ttl
  | deleteGuard k =>
      cases hs
      refine { h with kept := h.kept, gone := h.gone, workers := h.workers,
                      guards := fun {k' e} hk' => h.guards (e := e) ?_ }
      have hk' : AList.lookup k' (Table.put s.redis.guards k none) = some e :=
        hk'
      rw [Table.lookup_put] at hk'
      split at hk'
      · cases hk'
      · exact hk'
  | ack m =>
      cases hs
      exact h.ack m
  | resetDeliveries m =>
      cases hs
      exact h.setStream (h.tracks.setTimes _ _ _ _)
        (GroupStream.handOver_entries _ _)
  | readOne c => exact h.begin rfl rfl hs
  | reclaimStale c idleMs count => exact h.begin rfl rfl hs
  | command c => exact h.command settings json hs
  | crash c =>
      cases hs
      exact h.setWorker (.of_nothing rfl rfl nofun)
  | tick d =>
      cases hs
      exact { h with kept := h.kept, gone := h.gone, workers := h.workers }

end StreamInv

end Updates

/-- **A run.** -/
theorem run_streamInv {settings : Settings} {json : JsonModule} {now : Nat}
    {s : StreamSystem}
    (h : Run (streamStep settings json) (fun _ _ => True) (.fresh now) s) :
    StreamInv s :=
  h.inv (fun _ _ _ hi _ hs => hi.step hs) (.fresh now)

/-- `enqueue_once` adds its job when there is no guard and room left. -/
theorem enqueueOnce_stream (r : StreamRedis) (settings : Settings)
    (payload : String) (k : GuardKey) (ttl : Int) :
    (r.enqueueOnce settings payload k ttl).1.stream
      = if r.guarded k = false ∧ r.stream.length < settings.queueMaxBacklog
        then r.stream.add payload else r.stream := by
  unfold StreamRedis.enqueueOnce
  cases hguard : r.guarded k with
  | true => simp
  | false =>
      simp only [Bool.false_eq_true, if_false, true_and]
      by_cases hfull : settings.queueMaxBacklog ≤ r.stream.length
      · rw [if_pos hfull, if_neg (Nat.not_lt.mpr hfull)]
      · rw [if_neg hfull, if_pos (Nat.lt_of_not_le hfull)]
        split
        · rfl
        · rfl

/-- `enqueue_once` writes no dead letter. -/
theorem StreamRedis.enqueueOnce_dlq (r : StreamRedis) (settings : Settings)
    (payload : String) (k : GuardKey) (ttl : Int) :
    (r.enqueueOnce settings payload k ttl).1.dlq = r.dlq := by
  unfold StreamRedis.enqueueOnce
  dsimp only
  split
  · rfl
  · split
    · rfl
    · split <;> rfl

/-- **No job is lost.** -/
theorem stream_loses_no_job (settings : Settings) (json : JsonModule)
    (now : Nat) (s : StreamSystem)
    (h : Run (streamStep settings json) (fun _ _ => True) (.fresh now) s) :
    -- every entry is unread, pending, acknowledged or a dead letter
    (∀ m p, (m, p) ∈ s.added →
      (AList.lookup m s.redis.stream.entries = some p ∧
        (s.redis.stream.lastDelivered < m ∨
          (AList.lookup m s.redis.stream.pending).isSome)) ∨
      m ∈ s.acked ∨ ∃ d ∈ s.redis.dlq, d.originalId = m ∧ d.job = p) ∧
    -- no call returns what was gone when it began
    (∀ a ∈ s.returned, ∀ x ∈ a.messages, x.1 ∉ a.called) ∧
    -- a job is added once, while there is room
    (∀ payload k ttl,
      (s.redis.enqueueOnce settings payload k ttl).1.stream
        = if s.redis.guarded k = false ∧
            s.redis.stream.length < settings.queueMaxBacklog
          then s.redis.stream.add payload else s.redis.stream) ∧
    -- a guard stands for a job that was added
    (∀ k, s.redis.guarded k = true →
      ∃ m p, (k, m, p) ∈ s.addedOnce ∧ (m, p) ∈ s.added) := by
  have hi := run_streamInv h
  refine ⟨fun m p hm => ?_, hi.answers, enqueueOnce_stream s.redis settings,
    fun k hk => ?_⟩
  · rcases hi.kept hm with hin | hout
    · exact .inl ⟨hin, hi.tracks.unread_or_pending hin⟩
    · exact .inr hout
  · obtain ⟨⟨⟩, hv⟩ := Option.isSome_iff_exists.mp hk
    obtain ⟨e, he, -, -⟩ := Keyspace.get_eq_some.mp hv
    exact hi.guards he

/-! ## A poison job and a good one -/

/-- A job is enqueued twice, and something unreadable behind it. The worker
that reads the job crashes; another one discards the rest and takes the job
over, and the second attempt to acknowledge it finds nothing. -/
def takenOver : List StreamAct :=
  [.enqueueOnce demoJobText "k" 3600, .enqueueOnce demoJobText "k" 3600, .enqueue "",
    .readOne "a", .command "a", .crash "a",
    .readOne "b", .command "b", .command "b", .command "b", .tick 60000,
    .reclaimStale "b" 60000 10, .command "b", .command "b",
    .ack 1, .reclaimStale "a" 0 10, .command "a", .ack 1]

theorem stream_loses_no_job_takenOver :
    ∃ s, runActs (streamStep {} demoJson) (.fresh 0) takenOver = some s ∧
      s.added = [(2, ""), (1, demoJobText)] ∧ s.acked = [1] ∧
      s.redis.dlq.map (fun d => (d.originalId, d.job)) = [(2, "")] ∧
      s.redis.guarded "k" = true ∧
      (∀ a ∈ s.returned, ∀ x ∈ a.messages, x.1 ∉ a.called) ∧
      ∃ m p, ("k", m, p) ∈ s.addedOnce ∧ (m, p) ∈ s.added := by
  have hany : (runActs (streamStep {} demoJson) (.fresh 0) takenOver).any
      (fun s => decide (s.added = [(2, ""), (1, demoJobText)] ∧ s.acked = [1] ∧
        s.redis.dlq.map (fun d => (d.originalId, d.job)) = [(2, "")] ∧
        s.redis.guarded "k" = true)) = true := by
    decide +kernel
  obtain ⟨s, hs, hdec⟩ := (Option.any_eq_true _ _).mp hany
  obtain ⟨hadded, hacked, hdlq, hguard⟩ := of_decide_eq_true hdec
  obtain ⟨-, hanswers, -, hguards⟩ :=
    stream_loses_no_job {} demoJson 0 s (Run.of_runActs hs)
  exact ⟨s, hs, hadded, hacked, hdlq, hguard, hanswers, hguards "k" hguard⟩

end CallingAgent
