import CallingAgent.Model.Decoded
import CallingAgent.Services.DograhOutcome
import Mathlib.Data.List.Sort
import Mathlib.Data.List.Dedup

/-!
# The run listing — which runs the provider created for an attempt

A trigger whose answer was lost is looked up in the provider's listing of
runs, page by page. No match authorises a second call, so a listing that
could not be read as a whole must raise. What the code refuses is less than
what a page can have wrong with it.
-/

namespace CallingAgent

/-! ## Reading the listing -/

/-- A response below 400; `json` is what `response.json()` answers. -/
structure ListResponse where
  status : Nat
  json : Except LoadError Decoded

/-- What leaves the lookup as an exception. -/
inductive LookupError where
  /-- `DograhApiError`, with its message -/
  | api (e : DograhApiError) (message : String)
  /-- an exception outside the taxonomy -/
  | escaped

/-- `_RECONCILE_MAX_PAGES` -/
def reconcileMaxPages : Nat := 5

section

variable (intOfText : CodePoints → Option Int) (attempt : CodePoints)

/-- The run is one of the attempt, by the context it carries. -/
def matchRun (run : Decoded) : Except ConversionError (Option Int) :=
  match run with
  | .object _ =>
      let context := (run.field "initial_context").getD .null
      match if context.truthy then context else .object [] with
      | .object fields =>
          if ((Decoded.object fields).field "call_attempt_id").any
              (·.isText attempt) then
            match run.field "id" with
            | none => .error .value
            | some v => (v.toInt intOfText).map some
          else .ok none
      | _ => .error .value
  | _ => .error .value

/-- The loop over the runs of a page. -/
def matchRuns : List Decoded → Except ConversionError (List Int)
  | [] => .ok []
  | run :: runs =>
      match matchRun intOfText attempt run with
      | .error e => .error e
      | .ok found =>
          match matchRuns runs with
          | .error e => .error e
          | .ok ids => .ok (found.toList ++ ids)

/-- What `for run in runs` takes from a value. The items of a text and the
keys of an object are texts, and a text has no `get`. -/
def iterate : Decoded → Except ConversionError (List Decoded)
  | .array items => .ok items
  | .object [] => .ok []
  | .string s => if List.isEmpty s then .ok [] else .error .value
  | _ => .error .value

/-- The `try` block: the total of pages, and the matches of this one. -/
def readPage (body : Decoded) : Except ConversionError (Int × List Int) :=
  match body.field "runs", body.field "total_pages" with
  | some runs, some total =>
      match total.toInt intOfText with
      | .error e => .error e
      | .ok total =>
          match iterate runs with
          | .error e => .error e
          | .ok items =>
              match matchRuns intOfText attempt items with
              | .error e => .error e
              | .ok ids => .ok (total, ids)
  | _, _ => .error .value

/-- `sorted(set)` -/
def sortedSet (ids : List Int) : List Int :=
  ids.dedup.insertionSort (· ≤ ·)

def unexpectedShape (status : Nat) : LookupError :=
  .api ⟨status, .unknownProviderError, none⟩ "unexpected run-list response shape"

def exceedsPageBound : LookupError :=
  .api ⟨0, .unknownProviderError, none⟩
    "reconciliation window exceeds the page bound; result would be incomplete"

variable (serve : Nat → Except LookupError ListResponse)

/-- The loop of `find_runs_for_attempt`, from `page` on; `serve` answers the
request for a page. -/
def findFrom : (pagesLeft page : Nat) → List Int → Except LookupError (List Int)
  | 0, _, _ => .error exceedsPageBound
  | pagesLeft + 1, page, found =>
      match serve page with
      | .error e => .error e
      | .ok response =>
          match response.json with
          | .error .other => .error .escaped
          | .error .value => .error (unexpectedShape response.status)
          | .ok body =>
              match readPage intOfText attempt body with
              | .error .overflow => .error .escaped
              | .error .value => .error (unexpectedShape response.status)
              | .ok (total, ids) =>
                  if total ≤ page then .ok (sortedSet (found ++ ids))
                  else findFrom pagesLeft (page + 1) (found ++ ids)

/-- `find_runs_for_attempt` -/
def findRunsForAttempt : Except LookupError (List Int) :=
  findFrom intOfText attempt serve reconcileMaxPages 1 []

/-- What `_lookup_dograh_runs` answers. -/
inductive RunLookup where
  | runs (ids : List Int)
  | timeout
  | error
  deriving DecidableEq

/-- `_lookup_dograh_runs`; `none` is an exception it lets through. -/
def lookupDograhRuns : Option RunLookup :=
  match findRunsForAttempt intOfText attempt serve with
  | .ok ids => some (.runs ids)
  | .error (.api e _) => some (if e.isAmbiguous then .timeout else .error)
  | .error .escaped => none

end

/-! ## What a listing is -/

/-- The request for a page is answered with this body. -/
def Answers (serve : Nat → Except LookupError ListResponse) (page : Nat)
    (body : Decoded) : Prop :=
  ∃ response, serve page = .ok response ∧ response.json = .ok body

namespace Decoded

/-- The runs of a page. -/
def runs (body : Decoded) : List Decoded :=
  match body.field "runs" with
  | some (.array items) => items
  | _ => []

/-- The context of a run names the attempt. -/
def IsFor (attempt : CodePoints) (run : Decoded) : Prop :=
  ∃ context, run.field "initial_context" = some context ∧
    context.field "call_attempt_id" = some (.string attempt)

end Decoded

/-- A run as the provider documents it, as far as the lookup goes: an
object; its context an object too, where there is one; its id an integer,
where it is needed. -/
structure WellShapedRun (attempt : CodePoints) (run : Decoded) : Prop where
  isObject : ∃ fields, run = .object fields
  context : ∀ v, run.field "initial_context" = some v →
    v = .null ∨ ∃ fields, v = .object fields
  id : run.IsFor attempt → ∃ n, run.field "id" = some (.int n)

/-- A page as the provider documents it. -/
structure WellShaped (attempt : CodePoints) (body : Decoded) : Prop where
  runs : ∃ items, body.field "runs" = some (.array items)
  each : ∀ run ∈ body.runs, WellShapedRun attempt run

/-- How many runs some pages list. -/
def runCount : List Decoded → Nat
  | [] => 0
  | body :: bodies => body.runs.length + runCount bodies

/-- The pages are a whole listing, and do not contradict one another: all of
them are there, within the page bound, and where they say which page they
are and how many runs there are, in all or on the page, it is so. -/
structure Listing (attempt : CodePoints) (bodies : List Decoded) : Prop where
  shaped : ∀ body ∈ bodies, WellShaped attempt body
  total : ∃ n : Nat, (∀ body ∈ bodies,
      body.field "total_pages" = some (.int n)) ∧
    (0 < n ∧ bodies.length = n ∨
      n = 0 ∧ bodies.length = 1 ∧ runCount bodies = 0)
  bound : bodies.length ≤ reconcileMaxPages
  numbered : ∀ (i : Nat) (body v : Decoded), bodies[i]? = some body →
    body.field "page" = some v → v = .int (i + 1 : Nat)
  counted :
    (∀ body ∈ bodies, ∀ v, body.field "total_count" = some v →
      v = .int (runCount bodies)) ∨
    ∀ body ∈ bodies, ∀ v, body.field "total_count" = some v →
      v = .int body.runs.length

/-- What the lookup is for: it raises, or the answers are a whole listing
and the result is the sorted set of the runs of the attempt. -/
def ExactLookup (attempt : CodePoints)
    (serve : Nat → Except LookupError ListResponse)
    (result : Except LookupError (List Int)) : Prop :=
  (∃ e, result = .error e) ∨
    ∃ bodies ids, result = .ok ids ∧ Listing attempt bodies ∧
      (∀ (i : Nat) (body : Decoded), bodies[i]? = some body →
        Answers serve (i + 1) body) ∧
      ids.Pairwise (· < ·) ∧
      ∀ n, n ∈ ids ↔ ∃ body ∈ bodies, ∃ run ∈ body.runs,
        run.IsFor attempt ∧ run.field "id" = some (.int n)

/-! ## What the code lets pass -/

/-- A run that is not well shaped and does not raise: an empty context that
is no object, or a text, a truth value or a float for an id. -/
inductive SlackRun (attempt : CodePoints) (run : Decoded) : Prop
  | context (v : Decoded) :
      run.field "initial_context" = some v → v.emptyOther = true →
      SlackRun attempt run
  | id (v : Decoded) :
      run.IsFor attempt → run.field "id" = some v → v.convertible = true →
      SlackRun attempt run

/-- The kinds of pages that are let pass although they are no part of a
listing; `bodies` are all that were read. -/
inductive Slack (attempt : CodePoints) (bodies : List Decoded) : Prop
  /-- an empty object or text for the list of runs -/
  | runs (body : Decoded) (v : Decoded) :
      body ∈ bodies → body.field "runs" = some v →
      v = .object [] ∨ v = .string [] → Slack attempt bodies
  | run (body run : Decoded) :
      body ∈ bodies → run ∈ body.runs → SlackRun attempt run →
      Slack attempt bodies
  /-- a text, a truth value or a float for the total -/
  | total (body v : Decoded) :
      body ∈ bodies → body.field "total_pages" = some v →
      v.convertible = true → Slack attempt bodies
  | negative (body : Decoded) (n : Int) :
      body ∈ bodies → body.field "total_pages" = some (.int n) → n < 0 →
      Slack attempt bodies
  /-- runs, and no page -/
  | noPages (body : Decoded) :
      body ∈ bodies → body.field "total_pages" = some (.int 0) →
      runCount bodies ≠ 0 → Slack attempt bodies
  /-- two totals -/
  | totals (body body' : Decoded) (m n : Int) :
      body ∈ bodies → body' ∈ bodies →
      body.field "total_pages" = some (.int m) →
      body'.field "total_pages" = some (.int n) → m ≠ n → Slack attempt bodies
  | page (i : Nat) (body v : Decoded) :
      bodies[i]? = some body → body.field "page" = some v →
      v ≠ .int (i + 1 : Nat) → Slack attempt bodies
  /-- counts that are not of all runs, and not of the runs of their page -/
  | count (body body' v v' : Decoded) :
      body ∈ bodies → body.field "total_count" = some v →
      v ≠ .int (runCount bodies) →
      body' ∈ bodies → body'.field "total_count" = some v' →
      v' ≠ .int body'.runs.length → Slack attempt bodies

/-! ## The pages that are read -/

section

variable {intOfText : CodePoints → Option Int} {attempt : CodePoints}
  {serve : Nat → Except LookupError ListResponse}

/-- The pages read from `page` on, where every one is accepted: the last is
the first that says so. -/
inductive ReadsFrom (intOfText : CodePoints → Option Int)
    (attempt : CodePoints) (serve : Nat → Except LookupError ListResponse) :
    Nat → List Decoded → Prop
  | last {page : Nat} {body : Decoded} {total : Int} {ids : List Int} :
      Answers serve page body →
      readPage intOfText attempt body = .ok (total, ids) → total ≤ page →
      ReadsFrom intOfText attempt serve page [body]
  | more {page : Nat} {body : Decoded} {bodies : List Decoded} {total : Int}
      {ids : List Int} :
      Answers serve page body →
      readPage intOfText attempt body = .ok (total, ids) → ¬ total ≤ page →
      ReadsFrom intOfText attempt serve (page + 1) bodies →
      ReadsFrom intOfText attempt serve page (body :: bodies)

/-- The matches of a page that is accepted. -/
def pageIds (intOfText : CodePoints → Option Int) (attempt : CodePoints)
    (body : Decoded) : List Int :=
  match readPage intOfText attempt body with
  | .ok (_, ids) => ids
  | .error _ => []

theorem pageIds_of_read {body : Decoded} {total : Int} {ids : List Int}
    (h : readPage intOfText attempt body = .ok (total, ids)) :
    pageIds intOfText attempt body = ids := by
  rw [pageIds, h]

/-- One turn of the loop. -/
theorem findFrom_succ_ok {left page : Nat} {found ids : List Int} :
    findFrom intOfText attempt serve (left + 1) page found = .ok ids ↔
      ∃ body total new, Answers serve page body ∧
        readPage intOfText attempt body = .ok (total, new) ∧
        (if total ≤ page then .ok (sortedSet (found ++ new))
          else findFrom intOfText attempt serve left (page + 1) (found ++ new))
            = .ok ids := by
  rw [findFrom]
  constructor
  · intro h
    split at h
    · cases h
    next response hserve =>
    split at h
    · cases h
    · cases h
    next body hjson =>
    split at h
    · cases h
    · cases h
    next total new hread =>
    exact ⟨body, total, new, ⟨response, hserve, hjson⟩, hread, h⟩
  · rintro ⟨body, total, new, ⟨response, hserve, hjson⟩, hread, h⟩
    simp only [hserve, hjson, hread, h]

/-- **The lookup answers exactly when some pages are read to the last**,
within the page bound. -/
theorem findFrom_ok_iff (left page : Nat) (found ids : List Int) :
    findFrom intOfText attempt serve left page found = .ok ids ↔
      ∃ bodies, ReadsFrom intOfText attempt serve page bodies ∧
        bodies.length ≤ left ∧
        ids = sortedSet
          (found ++ bodies.flatMap (pageIds intOfText attempt)) := by
  induction left generalizing page found with
  | zero =>
      refine ⟨fun h => (by cases h), ?_⟩
      rintro ⟨bodies, hreads, hlen, -⟩
      cases hreads <;> cases hlen
  | succ left ih =>
      rw [findFrom_succ_ok]
      constructor
      · rintro ⟨body, total, new, hans, hread, h⟩
        have hnew := pageIds_of_read hread
        split at h
        · next hlast =>
          refine ⟨[body], .last hans hread hlast, by simp, ?_⟩
          rw [List.flatMap_singleton, hnew]
          exact (Except.ok.inj h).symm
        · next hmore =>
          obtain ⟨bodies, hreads, hlen, hids⟩ := (ih _ _).mp h
          refine ⟨body :: bodies, .more hans hread hmore hreads,
            Nat.succ_le_succ hlen, ?_⟩
          rw [List.flatMap_cons, hnew, ← List.append_assoc]
          exact hids
      · rintro ⟨bodies, hreads, hlen, rfl⟩
        cases hreads with
        | last hans hread hlast =>
            refine ⟨_, _, _, hans, hread, ?_⟩
            rw [if_pos hlast, List.flatMap_singleton, pageIds_of_read hread]
        | more hans hread hmore hreads =>
            refine ⟨_, _, _, hans, hread, ?_⟩
            rw [if_neg hmore]
            refine (ih _ _).mpr ⟨_, hreads, Nat.le_of_succ_le_succ hlen, ?_⟩
            rw [List.flatMap_cons, pageIds_of_read hread, List.append_assoc]

/-- Only one list of pages is read. -/
theorem ReadsFrom.unique {page : Nat} {bodies bodies' : List Decoded}
    (h : ReadsFrom intOfText attempt serve page bodies)
    (h' : ReadsFrom intOfText attempt serve page bodies') :
    bodies = bodies' := by
  have hsame : ∀ {page : Nat} {body body' : Decoded}, Answers serve page body →
      Answers serve page body' → body = body' := by
    rintro page body body' ⟨r, hr, hbody⟩ ⟨r', hr', hbody'⟩
    obtain rfl := Except.ok.inj (hr.symm.trans hr')
    exact Except.ok.inj (hbody.symm.trans hbody')
  induction h generalizing bodies' with
  | last hans hread hlast =>
      cases h' with
      | last hans' => rw [hsame hans hans']
      | more hans' hread' hmore =>
          obtain rfl := hsame hans hans'
          rw [hread] at hread'
          cases hread'
          exact absurd hlast hmore
  | more hans hread hmore _ ih =>
      cases h' with
      | last hans' hread' hlast =>
          obtain rfl := hsame hans hans'
          rw [hread] at hread'
          cases hread'
          exact absurd hlast hmore
      | more hans' _ _ hrest => rw [hsame hans hans', ih hrest]

/-! ## What an accepted page is -/

/-- What `matchRuns` accepts, and what it finds. -/
theorem matchRuns_ok {items : List Decoded} {ids : List Int}
    (h : matchRuns intOfText attempt items = .ok ids) :
    (∀ run ∈ items, ∃ found, matchRun intOfText attempt run = .ok found) ∧
      ∀ n, n ∈ ids ↔
        ∃ run ∈ items, matchRun intOfText attempt run = .ok (some n) := by
  induction items generalizing ids with
  | nil =>
      obtain rfl := Except.ok.inj h
      simp
  | cons run items ih =>
      rw [matchRuns] at h
      split at h
      · cases h
      next found hfound =>
      split at h
      · cases h
      next rest hrest =>
      obtain rfl := Except.ok.inj h
      obtain ⟨hall, hmem⟩ := ih hrest
      refine ⟨List.forall_mem_cons.mpr ⟨⟨found, hfound⟩, hall⟩, fun n => ?_⟩
      rw [List.mem_append, hmem, List.exists_mem_cons_iff, hfound]
      simp

/-- Only an object has fields, and then it is not empty. -/
theorem Decoded.of_field {v w : Decoded} {name : String}
    (h : v.field name = some w) :
    (∃ fields, v = .object fields) ∧ v.truthy = true := by
  cases v with
  | object fields =>
      refine ⟨⟨fields, rfl⟩, ?_⟩
      cases fields with
      | nil => cases h
      | cons f fields => rfl
  | _ => cases h

theorem Decoded.isText_iff {v : Decoded} {text : CodePoints} :
    v.isText text = true ↔ v = .string text := by
  cases v with
  | string s =>
      refine ⟨fun h => by rw [beq_iff_eq.mp h], fun h => ?_⟩
      injection h with h
      exact beq_iff_eq.mpr h
  | _ => exact ⟨fun h => (by cases h), fun h => (by cases h)⟩

/-- The id of a run of the attempt is read. -/
theorem matchRun_isFor {run : Decoded} (h : run.IsFor attempt) :
    matchRun intOfText attempt run =
      match run.field "id" with
      | none => .error .value
      | some v => (v.toInt intOfText).map some := by
  obtain ⟨context, hcontext, hname⟩ := h
  obtain ⟨⟨fields, rfl⟩, -⟩ := Decoded.of_field hcontext
  obtain ⟨⟨inner, rfl⟩, htruthy⟩ := Decoded.of_field hname
  have hany : ((Decoded.object inner).field "call_attempt_id").any
      (·.isText attempt) = true := by
    rw [hname]
    exact Decoded.isText_iff.mpr rfl
  simp only [matchRun, hcontext, Option.getD_some, htruthy, if_true, hany]

/-- Any other run is passed over, if its context is empty or an object. -/
theorem matchRun_notFor {run : Decoded} (hobject : ∃ fields, run = .object fields)
    (hcontext : ∀ v, run.field "initial_context" = some v → v.truthy = true →
      ∃ fields, v = .object fields)
    (h : ¬ run.IsFor attempt) :
    matchRun intOfText attempt run = .ok none := by
  obtain ⟨fields, rfl⟩ := hobject
  rw [matchRun]
  split
  · next inner hinner =>
    split at hinner
    · next htruthy =>
      cases hf : (Decoded.object fields).field "initial_context" with
      | none =>
          rw [hf] at htruthy
          cases htruthy
      | some v =>
          rw [hf, Option.getD_some] at hinner
          subst hinner
          rw [if_neg]
          intro hany
          obtain ⟨w, hw, htext⟩ := (Option.any_eq_true _ _).mp hany
          rw [Decoded.isText_iff.mp htext] at hw
          exact h ⟨_, hf, hw⟩
    · injection hinner with hinner
      subst hinner
      rfl
  · next hother =>
    exfalso
    split at hother
    · next htruthy =>
      cases hf : (Decoded.object fields).field "initial_context" with
      | none =>
          rw [hf] at htruthy
          cases htruthy
      | some v =>
          rw [hf, Option.getD_some] at hother htruthy
          obtain ⟨inner, rfl⟩ := hcontext v hf htruthy
          exact hother inner rfl
    · exact hother [] rfl

/-- What an accepted run is. -/
theorem matchRun_accepts {run : Decoded} {found : Option Int}
    (h : matchRun intOfText attempt run = .ok found) :
    (∃ fields, run = .object fields) ∧
      ∀ v, run.field "initial_context" = some v → v.truthy = true →
        ∃ fields, v = .object fields := by
  cases run with
  | object fields =>
      refine ⟨⟨fields, rfl⟩, fun v hv htruthy => ?_⟩
      rw [matchRun] at h
      rw [hv, Option.getD_some, if_pos htruthy] at h
      cases v with
      | object inner => exact ⟨inner, rfl⟩
      | _ => cases h
  | _ => cases h

/-- A run that is accepted and not slack is well shaped. -/
theorem matchRun_wellShaped {run : Decoded} {found : Option Int}
    (h : matchRun intOfText attempt run = .ok found)
    (hslack : ¬ SlackRun attempt run) : WellShapedRun attempt run := by
  obtain ⟨hobject, hcontext⟩ := matchRun_accepts h
  refine ⟨hobject, fun v hv => ?_, fun hfor => ?_⟩
  · by_cases htruthy : v.truthy = true
    · exact .inr (hcontext v hv htruthy)
    · by_cases hempty : v.emptyOther = true
      · exact absurd (.context v hv hempty) hslack
      · cases v with
        | null => exact .inl rfl
        | object fields => exact .inr ⟨fields, rfl⟩
        | _ => exact absurd (by simpa [Decoded.emptyOther] using htruthy) hempty
  · rw [matchRun_isFor hfor] at h
    cases hid : run.field "id" with
    | none => rw [hid] at h; cases h
    | some v =>
        rw [hid] at h
        cases hint : v.toInt intOfText with
        | error e => simp only [hint] at h; cases h
        | ok n =>
            rcases Decoded.of_toInt hint with rfl | hconv
            · exact ⟨n, rfl⟩
            · exact absurd (.id v hfor hid hconv) hslack

/-- A well-shaped run is accepted, and found if it is one of the attempt. -/
theorem WellShapedRun.accepted {run : Decoded} (h : WellShapedRun attempt run) :
    ∃ found, matchRun intOfText attempt run = .ok found ∧
      ∀ n, found = some n ↔
        run.IsFor attempt ∧ run.field "id" = some (.int n) := by
  by_cases hfor : run.IsFor attempt
  · obtain ⟨m, hm⟩ := h.id hfor
    refine ⟨some m, ?_, fun n => ?_⟩
    · rw [matchRun_isFor hfor, hm]
      rfl
    · rw [hm]
      simp [hfor]
  · refine ⟨none, matchRun_notFor h.isObject (fun v hv htruthy => ?_) hfor,
      fun n => ?_⟩
    · rcases h.context v hv with rfl | hobject
      · cases htruthy
      · exact hobject
    · simp [hfor]

theorem iterate_ok {v : Decoded} {items : List Decoded}
    (h : iterate v = .ok items) :
    v = .array items ∨ items = [] ∧ (v = .object [] ∨ v = .string []) := by
  cases v with
  | array items' => exact .inl (congrArg _ (Except.ok.inj h))
  | object fields =>
      cases fields with
      | nil => exact .inr ⟨(Except.ok.inj h).symm, .inl rfl⟩
      | cons f fields => cases h
  | string s =>
      cases s with
      | nil => exact .inr ⟨(Except.ok.inj h).symm, .inr rfl⟩
      | cons c s => cases h
  | _ => cases h

/-- What a page that is accepted has. -/
theorem readPage_ok {body : Decoded} {total : Int} {ids : List Int}
    (h : readPage intOfText attempt body = .ok (total, ids)) :
    ∃ runs v items, body.field "runs" = some runs ∧
      body.field "total_pages" = some v ∧ v.toInt intOfText = .ok total ∧
      iterate runs = .ok items ∧
      matchRuns intOfText attempt items = .ok ids := by
  unfold readPage at h
  split at h
  · next runs v hruns hv =>
    split at h
    · cases h
    next hint =>
    split at h
    · cases h
    next items hitems =>
    split at h
    · cases h
    next ids' hids =>
    cases h
    exact ⟨runs, v, items, hruns, hv, hint, hitems, hids⟩
  · cases h

/-- A page that is accepted and not slack is part of a listing. -/
theorem readPage_wellShaped {body : Decoded} {bodies : List Decoded}
    {total : Int} {ids : List Int} (hmem : body ∈ bodies)
    (h : readPage intOfText attempt body = .ok (total, ids))
    (hslack : ¬ Slack attempt bodies) :
    WellShaped attempt body ∧ 0 ≤ total ∧
      body.field "total_pages" = some (.int total) ∧
      ∀ n, n ∈ ids ↔ ∃ run ∈ body.runs,
        run.IsFor attempt ∧ run.field "id" = some (.int n) := by
  obtain ⟨runs, v, items, hruns, hv, hint, hitems, hids⟩ := readPage_ok h
  have harray : runs = .array items := by
    rcases iterate_ok hitems with h | ⟨-, h⟩
    · exact h
    · exact absurd (.runs body runs hmem hruns h) hslack
  subst harray
  have hbody : body.runs = items := by rw [Decoded.runs, hruns]
  obtain ⟨hall, hfound⟩ := matchRuns_ok hids
  have heach : ∀ run ∈ items, WellShapedRun attempt run := by
    intro run hrun
    obtain ⟨found, hrunok⟩ := hall run hrun
    exact matchRun_wellShaped hrunok fun hs =>
      hslack (.run body run hmem (hbody ▸ hrun) hs)
  have htotal : v = .int total := by
    rcases Decoded.of_toInt hint with h | hconv
    · exact h
    · exact absurd (.total body v hmem hv hconv) hslack
  subst htotal
  refine ⟨⟨⟨items, hruns⟩, hbody ▸ heach⟩, ?_, hv, fun n => ?_⟩
  · by_contra hneg
    exact hslack (.negative body total hmem hv (by omega))
  · rw [hfound, hbody]
    refine exists_congr fun run => and_congr_right fun hrun => ?_
    obtain ⟨found, hacc, hiff⟩ :=
      @WellShapedRun.accepted intOfText _ _ (heach run hrun)
    rw [hacc, ← hiff]
    exact ⟨fun h => Except.ok.inj h, fun h => congrArg _ h⟩

/-- A page of a listing is accepted. -/
theorem WellShaped.accepted {body : Decoded} {total : Int}
    (h : WellShaped attempt body)
    (htotal : body.field "total_pages" = some (.int total)) :
    ∃ ids, readPage intOfText attempt body = .ok (total, ids) := by
  obtain ⟨items, hitems⟩ := h.runs
  have hbody : body.runs = items := by rw [Decoded.runs, hitems]
  have hall : ∀ runs : List Decoded,
      (∀ run ∈ runs, WellShapedRun attempt run) →
      ∃ ids, matchRuns intOfText attempt runs = .ok ids := by
    intro runs hruns
    induction runs with
    | nil => exact ⟨[], rfl⟩
    | cons run runs ih =>
        obtain ⟨hrun, hrest⟩ := List.forall_mem_cons.mp hruns
        obtain ⟨found, hfound, -⟩ :=
          @WellShapedRun.accepted intOfText _ _ hrun
        obtain ⟨ids, hids⟩ := ih hrest
        exact ⟨found.toList ++ ids, by rw [matchRuns, hfound, hids]⟩
  obtain ⟨ids, hids⟩ := hall items (hbody ▸ h.each)
  refine ⟨ids, ?_⟩
  have hint : (Decoded.int total).toInt intOfText = .ok total := rfl
  have hiter : iterate (.array items) = .ok items := rfl
  simp only [readPage, hitems, htotal, hint, hiter, hids]

/-- The pages that are read, one by one. -/
theorem readsFrom_iff {page : Nat} {bodies : List Decoded} :
    ReadsFrom intOfText attempt serve page bodies ↔
      bodies ≠ [] ∧ ∀ (i : Nat) (body : Decoded), bodies[i]? = some body →
        ∃ total ids, Answers serve (page + i) body ∧
          readPage intOfText attempt body = .ok (total, ids) ∧
          (total ≤ (page + i : Nat) ↔ i + 1 = bodies.length) := by
  induction bodies generalizing page with
  | nil => exact ⟨fun h => (by cases h), fun h => absurd rfl h.1⟩
  | cons first bodies ih =>
      constructor
      · intro h
        refine ⟨List.cons_ne_nil _ _, fun i body hi => ?_⟩
        cases h with
        | last hans hread hlast =>
            cases i with
            | zero =>
                obtain rfl := Option.some.inj hi
                exact ⟨_, _, hans, hread, iff_of_true hlast rfl⟩
            | succ i => cases hi
        | more hans hread hmore hrest =>
            obtain ⟨hne, hall⟩ := ih.mp hrest
            cases i with
            | zero =>
                obtain rfl := Option.some.inj hi
                refine ⟨_, _, hans, hread, iff_of_false hmore fun h => hne ?_⟩
                exact List.length_eq_zero_iff.mp (Nat.succ.inj h).symm
            | succ i =>
                obtain ⟨total, ids, hans', hread', hiff⟩ := hall i body hi
                rw [Nat.succ_add_eq_add_succ] at hans' hiff
                exact ⟨total, ids, hans', hread', by
                  rw [hiff, List.length_cons, Nat.succ_inj]⟩
      · rintro ⟨-, hall⟩
        obtain ⟨total, ids, hans, hread, hiff⟩ := hall 0 first rfl
        by_cases hne : bodies = []
        · subst hne
          exact .last hans hread (hiff.mpr rfl)
        · refine .more hans hread (fun hle => hne ?_) (ih.mpr ⟨hne, ?_⟩)
          · exact List.length_eq_zero_iff.mp (Nat.succ.inj (hiff.mp hle)).symm
          · intro i body hi
            obtain ⟨total', ids', hans', hread', hiff'⟩ := hall (i + 1) body hi
            rw [← Nat.succ_add_eq_add_succ] at hans' hiff'
            refine ⟨total', ids', hans', hread', ?_⟩
            rw [hiff', List.length_cons, Nat.succ_inj]

/-! ## When a lookup can be trusted -/

theorem sortedSet_pairwise (ids : List Int) :
    (sortedSet ids).Pairwise (· < ·) := by
  have hsorted : (sortedSet ids).Pairwise (· ≤ ·) :=
    List.pairwise_insertionSort _ _
  have hnodup : (sortedSet ids).Nodup :=
    (List.perm_insertionSort _ _).nodup_iff.mpr (List.nodup_dedup ids)
  exact (hsorted.and hnodup).imp fun h => lt_of_le_of_ne h.1 h.2

theorem mem_sortedSet {ids : List Int} {n : Int} :
    n ∈ sortedSet ids ↔ n ∈ ids := by
  rw [sortedSet, List.mem_insertionSort, List.mem_dedup]

/-- Pages that are read and not slack are a listing. -/
theorem ReadsFrom.listing {bodies : List Decoded}
    (h : ReadsFrom intOfText attempt serve 1 bodies)
    (hbound : bodies.length ≤ reconcileMaxPages)
    (hslack : ¬ Slack attempt bodies) : Listing attempt bodies := by
  obtain ⟨hne, hall⟩ := readsFrom_iff.mp h
  have hpage : ∀ (i : Nat) (body : Decoded), bodies[i]? = some body →
      ∃ total : Int, WellShaped attempt body ∧ 0 ≤ total ∧
        body.field "total_pages" = some (.int total) ∧
        (total ≤ (1 + i : Nat) ↔ i + 1 = bodies.length) := by
    intro i body hi
    obtain ⟨total, ids, -, hread, hiff⟩ := hall i body hi
    obtain ⟨hshape, hnonneg, htotal, -⟩ :=
      readPage_wellShaped (List.mem_of_getElem? hi) hread hslack
    exact ⟨total, hshape, hnonneg, htotal, hiff⟩
  obtain ⟨first, rest, rfl⟩ := List.exists_cons_of_ne_nil hne
  obtain ⟨total, -, hnonneg, htotal, hfirst⟩ := hpage 0 first rfl
  have hsame : ∀ body ∈ first :: rest,
      body.field "total_pages" = some (.int total) := by
    intro body hmem
    obtain ⟨i, hi⟩ := List.mem_iff_getElem?.mp hmem
    obtain ⟨total', -, -, htotal', -⟩ := hpage i body hi
    by_contra hne
    have hdiff : total ≠ total' := by
      rintro rfl
      exact hne htotal'
    exact hslack (.totals first body total total' List.mem_cons_self hmem htotal
      htotal' hdiff)
  have hat : ∀ (i : Nat), i < (first :: rest).length →
      (total ≤ (1 + i : Nat) ↔ i + 1 = (first :: rest).length) := by
    intro i hi
    obtain ⟨total', -, -, htotal', hiff⟩ :=
      hpage i _ (List.getElem?_eq_getElem hi)
    rw [hsame _ (List.getElem_mem hi)] at htotal'
    injection htotal' with h
    injection h with h
    rwa [← h] at hiff
  constructor
  case shaped =>
    intro body hmem
    obtain ⟨i, hi⟩ := List.mem_iff_getElem?.mp hmem
    obtain ⟨-, hshape, -⟩ := hpage i body hi
    exact hshape
  case bound => exact hbound
  case numbered =>
    intro i body v hi hv
    by_contra hne
    exact hslack (.page i body v hi hv hne)
  case counted =>
    by_contra hne
    obtain ⟨hall, hown⟩ := not_or.mp hne
    push Not at hall hown
    obtain ⟨body, hmem, v, hv, hnot⟩ := hall
    obtain ⟨body', hmem', v', hv', hnot'⟩ := hown
    exact hslack (.count body body' v v' hmem hv hnot hmem' hv' hnot')
  case total =>
    have hnat : (total.toNat : Int) = total := Int.toNat_of_nonneg hnonneg
    refine ⟨total.toNat, by rw [hnat]; exact hsame, ?_⟩
    by_cases hzero : total = 0
    · subst hzero
      have hone : (first :: rest).length = 1 := (hfirst.mp (by decide)).symm
      refine .inr ⟨rfl, hone, ?_⟩
      by_contra hcount
      exact hslack (.noPages first List.mem_cons_self htotal hcount)
    · -- the last page says so, and the one before it does not
      left
      have hlen : 0 < (first :: rest).length := Nat.succ_pos _
      generalize (first :: rest).length = len at *
      have hlast := (hat (len - 1) (by omega)).mpr (by omega)
      by_cases hone : len = 1
      · omega
      · have hbefore := mt (hat (len - 2) (by omega)).mp (by omega)
        omega

/-- The pages of a listing are read to the last. -/
theorem Listing.readsFrom {bodies : List Decoded} (h : Listing attempt bodies)
    (hans : ∀ (i : Nat) (body : Decoded), bodies[i]? = some body →
      Answers serve (i + 1) body) :
    ReadsFrom intOfText attempt serve 1 bodies := by
  obtain ⟨n, htotal, hn⟩ := h.total
  refine readsFrom_iff.mpr ⟨?_, fun i body hi => ?_⟩
  · rintro rfl
    rcases hn with ⟨hpos, hlen⟩ | ⟨-, hlen, -⟩
    · exact absurd hlen (Nat.ne_of_lt hpos)
    · cases hlen
  · have hmem := List.mem_of_getElem? hi
    obtain ⟨ids, hread⟩ := @WellShaped.accepted intOfText _ _ _
      (h.shaped body hmem) (htotal body hmem)
    have hlt : i < bodies.length := (List.getElem?_eq_some_iff.mp hi).1
    rw [Nat.add_comm 1 i]
    refine ⟨n, ids, hans i body hi, hread, ?_⟩
    rcases hn with ⟨hpos, hlen⟩ | ⟨hn, hlen, -⟩ <;> omega

/-- A listing has nothing slack. -/
theorem Listing.not_slack {bodies : List Decoded} (h : Listing attempt bodies) :
    ¬ Slack attempt bodies := by
  obtain ⟨n, htotal, hn⟩ := h.total
  intro hslack
  cases hslack with
  | runs body v hmem hv hempty =>
      obtain ⟨items, hitems⟩ := (h.shaped body hmem).runs
      obtain rfl := Option.some.inj (hitems.symm.trans hv)
      rcases hempty with hempty | hempty <;> cases hempty
  | run body run hmem hrun hs =>
      have hshape := (h.shaped body hmem).each run hrun
      cases hs with
      | context v hv hempty =>
          rcases hshape.context v hv with rfl | ⟨fields, rfl⟩ <;> cases hempty
      | id v hfor hv hconv =>
          obtain ⟨m, hm⟩ := hshape.id hfor
          obtain rfl := Option.some.inj (hm.symm.trans hv)
          cases hconv
  | total body v hmem hv hconv =>
      obtain rfl := Option.some.inj ((htotal body hmem).symm.trans hv)
      cases hconv
  | negative body m hmem hm hneg =>
      have hval := Option.some.inj ((htotal body hmem).symm.trans hm)
      injection hval with hval
      omega
  | noPages body hmem hzero hcount =>
      have hval := Option.some.inj ((htotal body hmem).symm.trans hzero)
      injection hval with hval
      rcases hn with ⟨hpos, -⟩ | ⟨-, -, hnone⟩
      · omega
      · exact hcount hnone
  | totals body body' m m' hmem hmem' hm hm' hne =>
      have hval := Option.some.inj ((htotal body hmem).symm.trans hm)
      have hval' := Option.some.inj ((htotal body' hmem').symm.trans hm')
      injection hval with hval
      injection hval' with hval'
      exact hne (hval.symm.trans hval')
  | page i body v hi hv hne => exact hne (h.numbered i body v hi hv)
  | count body body' v v' hmem hv hne hmem' hv' hne' =>
      rcases h.counted with hall | hown
      · exact hne (hall body hmem v hv)
      · exact hne' (hown body' hmem' v' hv')

/-- Only a lookup that answered is taken for runs, and for no runs. -/
theorem lookupDograhRuns_runs_iff {ids : List Int} :
    lookupDograhRuns intOfText attempt serve = some (.runs ids) ↔
      findRunsForAttempt intOfText attempt serve = .ok ids := by
  unfold lookupDograhRuns
  cases findRunsForAttempt intOfText attempt serve with
  | ok found => simp
  | error e =>
      cases e with
      | api e message => cases h : e.isAmbiguous <;> simp [h]
      | escaped => simp

/-- **The lookup is exact when it reads nothing slack**, and only then: it
raises, or answers with the runs of the attempt in a whole listing, if and
only if the pages it reads to the last have none of the kinds it lets pass
although they are no part of a listing. -/
theorem findRuns_exact_iff (intOfText : CodePoints → Option Int)
    (attempt : CodePoints)
    (serve : Nat → Except LookupError ListResponse) :
    ExactLookup attempt serve
        (findRunsForAttempt intOfText attempt serve) ↔
      ∀ bodies, ReadsFrom intOfText attempt serve 1 bodies →
        bodies.length ≤ reconcileMaxPages → ¬ Slack attempt bodies := by
  constructor
  · intro hexact bodies hreads hbound
    have hok := (findFrom_ok_iff reconcileMaxPages 1 [] _).mpr
      ⟨bodies, hreads, hbound, rfl⟩
    rcases hexact with ⟨e, he⟩ | ⟨bodies', ids, -, hlisting, hans, -⟩
    · rw [findRunsForAttempt, hok] at he
      cases he
    · rw [hreads.unique (hlisting.readsFrom hans)]
      exact hlisting.not_slack
  · intro hcond
    cases hres : findRunsForAttempt intOfText attempt serve with
    | error e => exact .inl ⟨e, rfl⟩
    | ok ids =>
        obtain ⟨bodies, hreads, hbound, rfl⟩ :=
          (findFrom_ok_iff reconcileMaxPages 1 [] ids).mp hres
        have hslack := hcond bodies hreads hbound
        refine .inr ⟨bodies, _, rfl, hreads.listing hbound hslack, ?_,
          sortedSet_pairwise _, fun n => ?_⟩
        · intro i body hi
          obtain ⟨_, _, hans, -⟩ := (readsFrom_iff.mp hreads).2 i body hi
          rwa [Nat.add_comm] at hans
        · rw [mem_sortedSet, List.nil_append, List.mem_flatMap]
          refine exists_congr fun body => and_congr_right fun hmem => ?_
          obtain ⟨i, hi⟩ := List.mem_iff_getElem?.mp hmem
          obtain ⟨total, new, -, hread, -⟩ := (readsFrom_iff.mp hreads).2 i body hi
          obtain ⟨-, -, -, hiff⟩ := readPage_wellShaped hmem hread hslack
          rw [pageIds_of_read hread]
          exact hiff n

end

/-! ### An empty object for a list -/

/-- One page, whose list of runs is an empty object. -/
def objectPage : Decoded :=
  .object [(codePoints "runs", .object []), (codePoints "total_pages", .int 1)]

/-- The listing is not a list, and the lookup answers that there is no
run. -/
theorem objectPage_noRuns :
    findRunsForAttempt (fun _ => none) (codePoints "a")
        (fun _ => .ok ⟨200, .ok objectPage⟩) = .ok [] ∧
      ¬ ExactLookup (codePoints "a") (fun _ => .ok ⟨200, .ok objectPage⟩)
        (findRunsForAttempt (fun _ => none) (codePoints "a")
          (fun _ => .ok ⟨200, .ok objectPage⟩)) := by
  have hok : findRunsForAttempt (fun _ => none) (codePoints "a")
      (fun _ => .ok ⟨200, .ok objectPage⟩) = .ok [] := rfl
  have hruns : objectPage.field "runs" = some (.object []) := rfl
  refine ⟨hok, ?_⟩
  rintro (⟨e, he⟩ | ⟨bodies, ids, -, hlisting, hans, -⟩)
  · rw [hok] at he
    cases he
  · obtain ⟨n, htotal, hn⟩ := hlisting.total
    have hne : 0 < bodies.length := by
      rcases hn with ⟨hpos, hlen⟩ | ⟨-, hlen, -⟩ <;> omega
    obtain ⟨response, hserve, hjson⟩ :=
      hans 0 _ (List.getElem?_eq_getElem hne)
    obtain rfl := Except.ok.inj hserve
    obtain ⟨items, hitems⟩ :=
      (hlisting.shaped _ (List.getElem_mem hne)).runs
    rw [← Except.ok.inj hjson, hruns] at hitems
    cases hitems

end CallingAgent
