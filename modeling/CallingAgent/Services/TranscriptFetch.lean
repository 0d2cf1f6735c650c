import CallingAgent.Model.Decoded

/-!
# The transcript fetch — reading a file that somebody else named

The URL of a transcript comes in the webhook's body. It is checked, its host
is resolved once, every address is checked, and one request goes to the
first of them. Whatever goes wrong then is meant to be an answer and not an
exception; the resolver, the client and the response decide whether it is.
-/

namespace CallingAgent

/-! ## What the code calls -/

inductive UrlScheme where
  | https
  | http
  | other
  deriving DecidableEq

/-- `_DEFAULT_PORTS` -/
def UrlScheme.defaultPort : UrlScheme → Nat
  | .https => 443
  | _ => 80

/-- What `urlsplit` answers. -/
structure UrlParts where
  scheme : UrlScheme
  host : Option CodePoints
  port : Option Nat
  /-- there is a user name or a password -/
  credentials : Bool
  path : CodePoints
  query : CodePoints

/-- What `getaddrinfo` raises. -/
inductive ResolveError where
  | os
  | unicode
  deriving DecidableEq

/-- What the client raises: an `HTTPError`, `StreamError`, `InvalidURL` or
`OSError`, or anything else. -/
inductive ClientError where
  | expected
  | other
  deriving DecidableEq

/-- A chunk of the body, and whether it came after the deadline; or an
error. -/
inductive StreamEvent where
  | chunk (bytes : List UInt8) (late : Bool)
  | raises (e : ClientError)

structure ClientResponse where
  status : Nat
  contentType : Option CodePoints
  /-- `headers.get("content-length", "")` -/
  contentLength : CodePoints
  stream : List StreamEvent

/-- What comes of the `with` block of a request. -/
inductive ClientRun where
  | raises (e : ClientError)
  /-- a response, and what closing it raises -/
  | responds (r : ClientResponse) (closing : Option ClientError)

/-- `_Target`: the address is the one that is connected to. -/
structure FetchTarget (Address : Type) where
  scheme : UrlScheme
  host : CodePoints
  port : Nat
  ip : Address
  pathAndQuery : CodePoints

/-- What the fetch depends on: the resolver and its addresses, the client,
and the text functions of the language. -/
structure FetchWorld where
  /-- `urlsplit(url)`, its host and its port; `none` is a `ValueError` -/
  urlsplit : CodePoints → Option UrlParts
  /-- the host of the provider and the extra hosts; `none` is a `ValueError`
  of splitting the configured URL -/
  trustedHosts : Option (List CodePoints)
  Address : Type
  ipv4Mapped : Address → Option Address
  isLoopback : Address → Bool
  isLinkLocal : Address → Bool
  isUnspecified : Address → Bool
  isMulticast : Address → Bool
  isReserved : Address → Bool
  isGlobal : Address → Bool
  getaddrinfo : CodePoints → Nat → Except ResolveError (List Address)
  client : FetchTarget Address → ClientRun
  /-- `str.lower` -/
  lower : CodePoints → CodePoints
  /-- `str.isdigit` -/
  isDigit : CodePoints → Bool
  /-- `int(text)`; `none` where it raises -/
  intOfText : CodePoints → Option Int
  /-- `str(value)` where the value is no text; `none` where it raises -/
  str : Decoded → Option CodePoints
  /-- `json.loads`; `none` where it raises, nested too deeply included -/
  loads : List UInt8 → Option Decoded

structure FetchSettings where
  production : Bool := false
  /-- `dograh_transcript_max_bytes` -/
  maxBytes : Nat := 2000000
  /-- `dograh_transcript_max_lines` -/
  maxLines : Nat := 5000
  maxLines_pos : 0 < maxLines := by decide

/-! ## The fetch -/

/-- The closed set of sanitized reasons. -/
inductive TranscriptReason where
  | urlBlocked
  | networkError
  | httpStatus
  | contentType
  | tooLarge
  | deadline
  | invalidJson
  | unexpectedShape
  deriving DecidableEq

/-- `is_retryable` -/
def TranscriptReason.retryable : TranscriptReason → Bool
  | .networkError | .httpStatus | .deadline => true
  | _ => false

/-- `TranscriptResult` -/
inductive TranscriptResult where
  | ok (lines : List Decoded)
  | empty
  | unavailable (reason : TranscriptReason)

/-- An exception that leaves the transcript step. -/
inductive TranscriptEscape where
  /-- a `ValueError` of the configured URL or of `int` -/
  | value
  /-- the resolver's `UnicodeError` -/
  | unicode
  | client
  /-- a `RecursionError` of `str` -/
  | recursion
  /-- the database refuses a text -/
  | database
  deriving DecidableEq

/-- What the URL asks of the resolver. -/
structure HostQuery where
  scheme : UrlScheme
  host : CodePoints
  port : Nat
  trusted : Bool
  pathAndQuery : CodePoints

section

variable (w : FetchWorld) (st : FetchSettings)

/-- `_allowed_ip` -/
def FetchWorld.allowedIp (ip : w.Address) (trusted : Bool) : Bool :=
  let ip := (w.ipv4Mapped ip).getD ip
  if w.isLoopback ip || w.isLinkLocal ip || w.isUnspecified ip
      || w.isMulticast ip || w.isReserved ip then false
  else trusted || w.isGlobal ip

/-- The port that is asked for, where it may be. -/
def targetPort (parts : UrlParts) (trusted : Bool) : Option Nat :=
  match parts.port with
  | none => some parts.scheme.defaultPort
  | some port =>
      if !trusted && port != parts.scheme.defaultPort then none else some port

/-- The checks of the URL before the hosts are compared: its parts and its
host. -/
def checkParts (url : CodePoints) : Option (UrlParts × CodePoints) :=
  match w.urlsplit url with
  | none => none
  | some parts =>
      match parts.host with
      | none => none
      | some host =>
          if parts.scheme = .other ∨ (st.production ∧ parts.scheme = .http)
              ∨ host = codePoints "" ∨ parts.credentials then none
          else some (parts, host)

/-- `resolve_target` up to the resolver. -/
def checkUrl (url : CodePoints) : Except TranscriptEscape (Option HostQuery) :=
  match checkParts w st url with
  | none => .ok none
  | some (parts, host) =>
      match w.trustedHosts with
      | none => .error .value
      | some hosts =>
          let trusted := hosts.contains host
          .ok <| (targetPort parts trusted).map fun port =>
            { scheme := parts.scheme
              host
              port
              trusted
              pathAndQuery :=
                (if parts.path = codePoints "" then codePoints "/"
                  else parts.path)
                ++ (if parts.query = codePoints "" then codePoints ""
                  else codePoints "?" ++ parts.query) }

/-- The target at an address. -/
def HostQuery.pin {Address : Type} (q : HostQuery) (ip : Address) :
    FetchTarget Address :=
  ⟨q.scheme, q.host, q.port, ip, q.pathAndQuery⟩

/-- `resolve_target` -/
def resolveTarget (url : CodePoints) :
    Except TranscriptEscape (Option (FetchTarget w.Address)) :=
  match checkUrl w st url with
  | .error e => .error e
  | .ok none => .ok none
  | .ok (some q) =>
      match w.getaddrinfo q.host q.port with
      | .error .os => .ok none
      | .error .unicode => .error .unicode
      | .ok [] => .ok none
      | .ok (ip :: ips) =>
          if (ip :: ips).all (w.allowedIp · q.trusted) then .ok (some (q.pin ip))
          else .ok none

/-- `_is_json_content_type` -/
def isJsonContentType (header : Option CodePoints) : Bool :=
  let text := header.getD (codePoints "")
  let mediaType := w.lower
    (CodePoints.strip (List.takeWhile (· != ';'.toNat) text))
  ["application/json", "text/json", "text/plain",
    "application/octet-stream"].any (codePoints · == mediaType)
    || List.isSuffixOf (codePoints "+json") mediaType

/-- What `_fetch_body` raises. -/
inductive FetchError where
  | rejected (reason : TranscriptReason)
  | client (e : ClientError)
  | value

/-- The loop over the chunks. -/
def readStream (maxBytes : Nat) :
    List StreamEvent → List UInt8 → Except FetchError (List UInt8)
  | [], body => .ok body
  | .raises e :: _, _ => .error (.client e)
  | .chunk bytes late :: events, body =>
      if (body ++ bytes).length > maxBytes then .error (.rejected .tooLarge)
      else if late then .error (.rejected .deadline)
      else readStream maxBytes events (body ++ bytes)

/-- `_fetch_body` on a response. -/
def readResponse (r : ClientResponse) : Except FetchError (List UInt8) :=
  if r.status ≠ 200 then .error (.rejected .httpStatus)
  else if !isJsonContentType w r.contentType then .error (.rejected .contentType)
  else if w.isDigit r.contentLength then
    match w.intOfText r.contentLength with
    | none => .error .value
    | some declared =>
        if declared > st.maxBytes then .error (.rejected .tooLarge)
        else readStream st.maxBytes r.stream []
  else readStream st.maxBytes r.stream []

/-- `_fetch_body`. What closing the response raises takes the place of what
came before. -/
def fetchBody (t : FetchTarget w.Address) : Except FetchError (List UInt8) :=
  match w.client t with
  | .raises e => .error (.client e)
  | .responds _ (some e) => .error (.client e)
  | .responds r none => readResponse w st r

/-- `isinstance(item, dict)` -/
def Decoded.isObject : Decoded → Bool
  | .object _ => true
  | _ => false

/-- What the body is taken for. -/
def readTranscript (body : List UInt8) : TranscriptResult :=
  match w.loads body with
  | none => .unavailable .invalidJson
  | some (.array items) =>
      match (items.filter Decoded.isObject).take st.maxLines with
      | [] => .empty
      | line :: lines => .ok (line :: lines)
  | some _ => .unavailable .unexpectedShape

/-- `fetch_transcript`: the requests it sends, and what comes of it. -/
def fetchTranscript (url : CodePoints) :
    List (FetchTarget w.Address) × Except TranscriptEscape TranscriptResult :=
  match resolveTarget w st url with
  | .error e => ([], .error e)
  | .ok none => ([], .ok (.unavailable .urlBlocked))
  | .ok (some t) =>
      ([t],
        match fetchBody w st t with
        | .error (.rejected reason) => .ok (.unavailable reason)
        | .error (.client .expected) => .ok (.unavailable .networkError)
        | .error (.client .other) => .error .client
        | .error .value => .error .value
        | .ok body => .ok (readTranscript w st body))

end

/-! ## What the world can do to it -/

section

variable (w : FetchWorld) (st : FetchSettings)

/-- The URL is fetched from this target: every address of its host is
allowed, and the first of them is taken. -/
def Targets (url : CodePoints) (t : FetchTarget w.Address) : Prop :=
  ∃ q ip ips, checkUrl w st url = .ok (some q) ∧
    w.getaddrinfo q.host q.port = .ok (ip :: ips) ∧
    (∀ a ∈ ip :: ips, w.allowedIp a q.trusted = true) ∧ t = q.pin ip

/-- An event at which reading stops is met before the body is too large;
`n` bytes have been read. -/
inductive StreamMeets (maxBytes : Nat) (stop : Nat → StreamEvent → Prop) :
    Nat → List StreamEvent → Prop
  | here {n : Nat} {event : StreamEvent} {events : List StreamEvent} :
      stop n event → StreamMeets maxBytes stop n (event :: events)
  | later {n : Nat} {bytes : List UInt8} {events : List StreamEvent} :
      n + bytes.length ≤ maxBytes →
      StreamMeets maxBytes stop (n + bytes.length) events →
      StreamMeets maxBytes stop n (.chunk bytes false :: events)

/-- The body of the response is read. -/
structure ClientResponse.Streams (r : ClientResponse) : Prop where
  status : r.status = 200
  json : isJsonContentType w r.contentType = true
  length : w.isDigit r.contentLength = true →
    ∃ declared, w.intOfText r.contentLength = some declared ∧
      declared ≤ st.maxBytes

/-- The request ends with an exception nobody expects. -/
inductive RunEscapes : ClientRun → Prop
  | raised : RunEscapes (.raises .other)
  | closing (r : ClientResponse) : RunEscapes (.responds r (some .other))
  /-- digits that are no number -/
  | length (r : ClientResponse) :
      r.status = 200 → isJsonContentType w r.contentType = true →
      w.isDigit r.contentLength = true → w.intOfText r.contentLength = none →
      RunEscapes (.responds r none)
  | stream (r : ClientResponse) :
      r.Streams w st →
      StreamMeets st.maxBytes (fun _ event => event = .raises .other) 0
        r.stream →
      RunEscapes (.responds r none)

/-- The request fails in a way that may pass. -/
inductive RunLost : ClientRun → Prop
  | raised : RunLost (.raises .expected)
  | closing (r : ClientResponse) : RunLost (.responds r (some .expected))
  | status (r : ClientResponse) : r.status ≠ 200 → RunLost (.responds r none)
  | broken (r : ClientResponse) :
      r.Streams w st →
      StreamMeets st.maxBytes (fun _ event => event = .raises .expected) 0
        r.stream →
      RunLost (.responds r none)
  | late (r : ClientResponse) :
      r.Streams w st →
      StreamMeets st.maxBytes (fun n event => ∃ bytes,
        event = .chunk bytes true ∧ n + bytes.length ≤ st.maxBytes) 0 r.stream →
      RunLost (.responds r none)

/-- The request gives a whole body. -/
inductive RunGives : ClientRun → List UInt8 → Prop
  | whole (r : ClientResponse) (chunks : List (List UInt8)) :
      r.Streams w st → r.stream = chunks.map (.chunk · false) →
      chunks.flatten.length ≤ st.maxBytes →
      RunGives (.responds r none) chunks.flatten

end

/-! ## What the fetch makes of it -/

section

variable {w : FetchWorld} {st : FetchSettings} {url : CodePoints}
  {t : FetchTarget w.Address}

theorem resolveTarget_some_iff :
    resolveTarget w st url = .ok (some t) ↔ Targets w st url t := by
  unfold resolveTarget
  constructor
  · intro h
    split at h
    · cases h
    · cases h
    next q hq =>
    split at h
    · cases h
    · cases h
    · cases h
    next ip ips hips =>
    split at h
    · next hall =>
      refine ⟨q, ip, ips, hq, hips, List.all_eq_true.mp hall, ?_⟩
      exact (Option.some.inj (Except.ok.inj h)).symm
    · cases h
  · rintro ⟨q, ip, ips, hq, hips, hall, rfl⟩
    simp only [hq, hips, List.all_eq_true.mpr hall, if_true]

/-- The two ways the check of a URL raises. -/
theorem resolveTarget_error_iff :
    (∃ e, resolveTarget w st url = .error e) ↔
      ((checkParts w st url).isSome ∧ w.trustedHosts = none) ∨
        ∃ q, checkUrl w st url = .ok (some q) ∧
          w.getaddrinfo q.host q.port = .error .unicode := by
  have hcheck : (∃ e, checkUrl w st url = .error e) ↔
      (checkParts w st url).isSome ∧ w.trustedHosts = none := by
    unfold checkUrl
    cases checkParts w st url <;> cases w.trustedHosts <;> simp
  rw [← hcheck]
  unfold resolveTarget
  cases hq : checkUrl w st url with
  | error e => simp
  | ok q =>
      cases q with
      | none => simp
      | some q =>
          cases hips : w.getaddrinfo q.host q.port with
          | error e => cases e <;> simp [hips]
          | ok ips =>
              cases ips with
              | nil => simp [hips]
              | cons ip ips =>
                  cases hall : (ip :: ips).all (w.allowedIp · q.trusted) <;>
                    simp [hips, hall]

/-! ### The stream -/

section

variable {maxBytes : Nat} {events : List StreamEvent} {body out : List UInt8}

/-- One chunk that is taken. -/
theorem readStream_chunk {bytes : List UInt8}
    (h : body.length + bytes.length ≤ maxBytes) :
    readStream maxBytes (.chunk bytes false :: events) body
      = readStream maxBytes events (body ++ bytes) := by
  rw [readStream, if_neg (by rw [List.length_append]; omega), if_neg (by simp)]

/-- Where reading fails with an error of the client, it has met it. -/
theorem readStream_client_iff (e : ClientError) :
    readStream maxBytes events body = .error (.client e) ↔
      StreamMeets maxBytes (fun _ event => event = .raises e) body.length
        events := by
  induction events generalizing body with
  | nil => exact ⟨fun h => (by cases h), fun h => (by cases h)⟩
  | cons event events ih =>
      cases event with
      | raises e' =>
          constructor
          · intro h
            cases h
            exact .here rfl
          · intro h
            cases h with
            | here h => rw [readStream, StreamEvent.raises.inj h]
      | chunk bytes late =>
          constructor
          · intro h
            rw [readStream] at h
            split at h
            · cases h
            next hsize =>
            split at h
            · cases h
            next hlate =>
            obtain rfl := Bool.not_eq_true _ ▸ hlate
            rw [List.length_append] at hsize
            have hrest := ih.mp h
            rw [List.length_append] at hrest
            exact .later (by omega) hrest
          · intro h
            cases h with
            | here h => cases h
            | later hsize hrest =>
                rw [readStream_chunk hsize]
                refine ih.mpr ?_
                rwa [List.length_append]

/-- Where reading runs into the deadline, a chunk is late. -/
theorem readStream_deadline_iff :
    readStream maxBytes events body = .error (.rejected .deadline) ↔
      StreamMeets maxBytes (fun n event => ∃ bytes, event = .chunk bytes true ∧
        n + bytes.length ≤ maxBytes) body.length events := by
  induction events generalizing body with
  | nil => exact ⟨fun h => (by cases h), fun h => (by cases h)⟩
  | cons event events ih =>
      cases event with
      | raises e =>
          refine ⟨fun h => (by cases h), fun h => ?_⟩
          cases h with
          | here h =>
              obtain ⟨_, h, -⟩ := h
              cases h
      | chunk bytes late =>
          constructor
          · intro h
            rw [readStream] at h
            split at h
            · cases h
            next hsize =>
            rw [List.length_append] at hsize
            cases late with
            | true => exact .here ⟨bytes, rfl, by omega⟩
            | false =>
                have hrest := ih.mp h
                rw [List.length_append] at hrest
                exact .later (by omega) hrest
          · intro h
            cases h with
            | here h =>
                obtain ⟨_, h, hsize⟩ := h
                cases h
                rw [readStream, if_neg (by rw [List.length_append]; omega),
                  if_pos rfl]
            | later hsize hrest =>
                rw [readStream_chunk hsize]
                refine ih.mpr ?_
                rwa [List.length_append]

/-- Reading ends well on chunks that are in time and not too many. -/
theorem readStream_ok_iff (hbody : body.length ≤ maxBytes) :
    readStream maxBytes events body = .ok out ↔
      ∃ chunks : List (List UInt8), events = chunks.map (.chunk · false) ∧
        out = body ++ chunks.flatten ∧ out.length ≤ maxBytes := by
  induction events generalizing body with
  | nil =>
      constructor
      · intro h
        obtain rfl := Except.ok.inj h
        exact ⟨[], rfl, by simp, hbody⟩
      · rintro ⟨chunks, hchunks, rfl, -⟩
        obtain rfl := List.map_eq_nil_iff.mp hchunks.symm
        rw [List.flatten_nil, List.append_nil]
        rfl
  | cons event events ih =>
      constructor
      · intro h
        cases event with
        | raises e => cases h
        | chunk bytes late =>
            rw [readStream] at h
            split at h
            · cases h
            next hsize =>
            split at h
            · cases h
            next hlate =>
            obtain rfl := Bool.not_eq_true _ ▸ hlate
            obtain ⟨chunks, rfl, rfl, hout⟩ := (ih (by omega)).mp h
            exact ⟨bytes :: chunks, rfl, by simp, hout⟩
      · rintro ⟨chunks, hchunks, rfl, hout⟩
        cases chunks with
        | nil => cases hchunks
        | cons bytes chunks =>
            rw [List.map_cons] at hchunks
            obtain ⟨rfl, rfl⟩ := List.cons.inj hchunks
            rw [List.flatten_cons] at hout ⊢
            have hsize : body.length + bytes.length ≤ maxBytes := by
              simp only [List.length_append] at hout
              omega
            rw [readStream_chunk hsize]
            refine (ih (by rwa [List.length_append])).mpr ⟨chunks, rfl, ?_, hout⟩
            rw [List.flatten_cons, List.append_assoc]

/-- The stream alone is never converted, and only two things reject it. -/
theorem readStream_error {e : FetchError}
    (h : readStream maxBytes events body = .error e) :
    (∃ e', e = .client e') ∨ e = .rejected .tooLarge ∨ e = .rejected .deadline := by
  induction events generalizing body with
  | nil => cases h
  | cons event events ih =>
      cases event with
      | raises e' => exact .inl ⟨e', by cases h; rfl⟩
      | chunk bytes late =>
          rw [readStream] at h
          split at h
          · exact .inr (.inl (Except.error.inj h).symm)
          · split at h
            · exact .inr (.inr (Except.error.inj h).symm)
            · exact ih h

end

/-! ### The response -/

section

variable {r : ClientResponse}

theorem readResponse_streams (h : r.Streams w st) :
    readResponse w st r = readStream st.maxBytes r.stream [] := by
  rw [readResponse, if_neg (by simp [h.status]), if_neg (by simp [h.json])]
  split
  · next hdigit =>
    obtain ⟨declared, hval, hle⟩ := h.length hdigit
    simp only [hval]
    rw [if_neg (Int.not_lt.mpr hle)]
  · rfl

/-- A response whose body is not read. -/
theorem readResponse_refused (h : ¬ r.Streams w st) :
    r.status ≠ 200 ∧ readResponse w st r = .error (.rejected .httpStatus) ∨
    r.status = 200 ∧
      (readResponse w st r = .error (.rejected .contentType) ∨
        readResponse w st r = .error (.rejected .tooLarge)) ∨
    (r.status = 200 ∧ isJsonContentType w r.contentType = true ∧
      w.isDigit r.contentLength = true ∧ w.intOfText r.contentLength = none) ∧
      readResponse w st r = .error .value := by
  unfold readResponse
  split
  · next hstatus => exact .inl ⟨hstatus, rfl⟩
  next hstatus =>
  have hok : r.status = 200 := not_not.mp hstatus
  refine .inr ?_
  split
  · exact .inl ⟨hok, .inl rfl⟩
  next hjson =>
  have hjson' : isJsonContentType w r.contentType = true := by simpa using hjson
  split
  · next hdigit =>
    split
    · next hnone => exact .inr ⟨⟨hok, hjson', hdigit, hnone⟩, rfl⟩
    · next declared hval =>
      split
      · exact .inl ⟨hok, .inr rfl⟩
      · next hle =>
        exact absurd ⟨hok, hjson', fun _ => ⟨declared, hval, Int.not_lt.mp hle⟩⟩ h
  · next hdigit =>
    exact absurd ⟨hok, hjson', fun hd => absurd hd hdigit⟩ h

/-- **When the request raises what nobody expects.** -/
theorem fetchBody_escapes_iff :
    (fetchBody w st t = .error (.client .other) ∨
        fetchBody w st t = .error .value) ↔
      RunEscapes w st (w.client t) := by
  unfold fetchBody
  cases hrun : w.client t with
  | raises e =>
      constructor
      · rintro (h | h)
        · cases h; exact .raised
        · cases h
      · intro h
        cases h
        exact .inl rfl
  | responds r closing =>
      cases closing with
      | some e =>
          constructor
          · rintro (h | h)
            · cases h; exact .closing r
            · cases h
          · intro h
            cases h
            exact .inl rfl
      | none =>
          dsimp only
          by_cases hs : r.Streams w st
          · rw [readResponse_streams hs, readStream_client_iff]
            constructor
            · rintro (h | h)
              · exact .stream r hs h
              · rcases readStream_error h with ⟨_, h⟩ | h | h <;> cases h
            · intro h
              cases h with
              | length _ _ _ hdigit hnone =>
                  obtain ⟨declared, hval, -⟩ := hs.length hdigit
                  rw [hnone] at hval
                  cases hval
              | stream _ _ h => exact .inl h
          · constructor
            · intro h
              rcases readResponse_refused hs with
                ⟨-, hr⟩ | ⟨-, hr | hr⟩ | ⟨⟨h1, h2, h3, h4⟩, -⟩
              · rw [hr] at h
                rcases h with h | h <;> cases h
              · rw [hr] at h
                rcases h with h | h <;> cases h
              · rw [hr] at h
                rcases h with h | h <;> cases h
              · exact .length r h1 h2 h3 h4
            · intro h
              cases h with
              | length _ h1 h2 h3 h4 =>
                  right
                  rw [readResponse, if_neg (by simp [h1]), if_neg (by simp [h2]),
                    if_pos h3, h4]
              | stream _ hs' _ => exact absurd hs' hs

/-- **When the request fails in a way that may pass.** -/
theorem fetchBody_lost_iff :
    (fetchBody w st t = .error (.client .expected) ∨
        ∃ reason, fetchBody w st t = .error (.rejected reason) ∧
          reason.retryable = true) ↔
      RunLost w st (w.client t) := by
  unfold fetchBody
  cases hrun : w.client t with
  | raises e =>
      constructor
      · rintro (h | ⟨_, h, -⟩)
        · cases h; exact .raised
        · cases h
      · intro h
        cases h
        exact .inl rfl
  | responds r closing =>
      cases closing with
      | some e =>
          constructor
          · rintro (h | ⟨_, h, -⟩)
            · cases h; exact .closing r
            · cases h
          · intro h
            cases h
            exact .inl rfl
      | none =>
          dsimp only
          by_cases hs : r.Streams w st
          · rw [readResponse_streams hs, readStream_client_iff]
            constructor
            · rintro (h | ⟨reason, h, hretry⟩)
              · exact .broken r hs h
              · rcases readStream_error h with ⟨_, hr⟩ | hr | hr
                · cases hr
                · cases hr
                  cases hretry
                · cases hr
                  exact .late r hs (readStream_deadline_iff.mp h)
            · intro h
              cases h with
              | status _ hstatus => exact absurd hs.status hstatus
              | broken _ _ h => exact .inl h
              | late _ _ h =>
                  exact .inr ⟨.deadline, readStream_deadline_iff.mpr h, rfl⟩
          · constructor
            · intro h
              rcases readResponse_refused hs with
                ⟨hstatus, -⟩ | ⟨-, hr | hr⟩ | ⟨-, hr⟩
              · exact .status r hstatus
              all_goals
                rw [hr] at h
                rcases h with h | ⟨_, h, hretry⟩
                · cases h
                · cases h
                  try cases hretry
            · intro h
              cases h with
              | status _ hstatus =>
                  exact .inr ⟨.httpStatus, by rw [readResponse, if_pos hstatus],
                    rfl⟩
              | broken _ hs' _ => exact absurd hs' hs
              | late _ hs' _ => exact absurd hs' hs

/-- **When the request gives a body.** -/
theorem fetchBody_ok_iff {body : List UInt8} :
    fetchBody w st t = .ok body ↔ RunGives w st (w.client t) body := by
  unfold fetchBody
  cases hrun : w.client t with
  | raises e => exact ⟨fun h => (by cases h), fun h => (by cases h)⟩
  | responds r closing =>
      cases closing with
      | some e => exact ⟨fun h => (by cases h), fun h => (by cases h)⟩
      | none =>
          dsimp only
          by_cases hs : r.Streams w st
          · rw [readResponse_streams hs, readStream_ok_iff (Nat.zero_le _)]
            constructor
            · rintro ⟨chunks, hchunks, rfl, hlen⟩
              exact .whole r chunks hs hchunks hlen
            · intro h
              cases h with
              | whole _ chunks _ hchunks hlen =>
                  exact ⟨chunks, hchunks, rfl, hlen⟩
          · constructor
            · intro h
              rcases readResponse_refused hs with
                ⟨-, hr⟩ | ⟨-, hr | hr⟩ | ⟨-, hr⟩ <;>
                · rw [hr] at h
                  cases h
            · intro h
              cases h with
              | whole _ _ hs' _ _ => exact absurd hs' hs

end

end

end CallingAgent
