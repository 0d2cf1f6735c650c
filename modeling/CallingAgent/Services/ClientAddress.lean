import CallingAgent.Lib.IpAddress

/-!
# The client address — which caller a request is from

Behind a proxy the peer of a request is the proxy, and the caller is in
`X-Forwarded-For`, where everybody on the way has appended the peer it saw.
The entries of trusted proxies at the right are believed; the first other one
from the right decides, and what stands to its left was written by the
caller.
-/

namespace CallingAgent

open Lib

/-- What is read of a request: the host of its peer, if it has one, and the
lines of `X-Forwarded-For`, unless reading them raises. -/
structure ForwardedRequest where
  peerHost : Option (List Char)
  forwardedFor : Option (List (List Char))

/-- `UNKNOWN` -/
def unknownAddress : List Char := "unknown".toList

/-- `_MAX_CHAIN_ENTRIES` -/
def maxChainEntries : Nat := 64

/-- `_MAX_HEADER_CHARS` -/
def maxHeaderChars : Nat := 4096

/-! ## Trusted proxies -/

/-- `parse_trusted_proxies`; `none` where it raises. -/
def parseTrustedProxies (raw : List Char) : Option (List Network) :=
  (((raw.splitOn ',').map (stripChars isSpace)).filter (!·.isEmpty)).mapM
    parseNetwork

/-- `_trusted`: a setting that does not parse trusts nothing. -/
def trustedProxies (raw : List Char) : List Network :=
  (parseTrustedProxies raw).getD []

/-! ## Entries -/

/-- `_normalise`: an address of version 4 that is written as one of
version 6. -/
def normaliseAddress : IPAddress → IPAddress
  | .v6 ip scope =>
      if ip >>> 32 = 0xFFFF then .v4 (ip.setWidth 32) else .v6 ip scope
  | a => a

/-- The token without brackets or port. -/
def withoutPort (token : List Char) : Option (List Char) :=
  if token.head? = some '[' then
    (token.idxOf? ']').map fun stop => (token.take stop).drop 1
  else if token.count ':' = 1 then some (token.takeWhile (· != ':'))
  else some token

/-- `_parse_ip` -/
def parseIp (text : List Char) : Option IPAddress :=
  let token := stripChars isSpace text
  if token.isEmpty || 64 < token.length then none
  else do
    let token ← withoutPort token
    let address ← parseIPAddress token
    some (normaliseAddress address)

/-- `_in_any` -/
def inAny (address : IPAddress) (networks : List Network) : Bool :=
  networks.any (·.covers address)

/-- The header lines, joined. -/
def joinedHeader (lines : List (List Char)) : List Char :=
  [','].intercalate lines

/-- `_forwarded_entries` -/
def forwardedEntries (request : ForwardedRequest) : List (List Char) :=
  match request.forwardedFor with
  | none => []
  | some lines =>
      let joined := joinedHeader lines
      if joined.isEmpty || maxHeaderChars * 4 < joined.length then []
      else
        let entries := joined.splitOn ','
        entries.drop (entries.length - maxChainEntries)

section

variable (trusted : List Network)

/-- The loop of `client_address`, over the entries from the right. -/
def scanForwarded (peer : IPAddress) : List (List Char) → List Char
  | [] => peer.render
  | entry :: rest =>
      match parseIp entry with
      -- where a proxy should have appended an address: nothing is guessed
      | none => peer.render
      | some address =>
          if !inAny address trusted then address.render
          else scanForwarded peer rest

/-- `client_address`, with the networks of the settings. -/
def clientAddress (request : ForwardedRequest) : List Char :=
  match request.peerHost with
  | none => unknownAddress
  | some host =>
      if host.isEmpty then unknownAddress
      else
        match parseIp host with
        | none => host
        | some peer =>
            if trusted.isEmpty || !inAny peer trusted then peer.render
            else scanForwarded trusted peer (forwardedEntries request).reverse

/-! ## What the answer depends on -/

/-- No address, or the address of somebody who is not trusted. -/
def Untrusted (entry : List Char) : Prop :=
  ∀ address ∈ parseIp entry, inAny address trusted = false

/-- The lines are short enough to be read. -/
def AcceptedSize (lines : List (List Char)) : Prop :=
  (joinedHeader lines).length ≤ maxHeaderChars * 4

/-- All entries of the header, of any number. -/
def headerEntries (lines : List (List Char)) : List (List Char) :=
  (joinedHeader lines).splitOn ','

/-- **The address cannot be chosen by the caller.** -/
structure Unspoofable : Prop where
  /-- what stands to the left of an untrusted entry does not matter -/
  left : ∀ (host : Option (List Char)) {lines lines' : List (List Char)}
    {before before' after : List (List Char)} {entry : List Char},
    headerEntries lines = before ++ entry :: after →
    headerEntries lines' = before' ++ entry :: after →
    Untrusted trusted entry → AcceptedSize lines → AcceptedSize lines' →
    clientAddress trusted ⟨host, some lines⟩
      = clientAddress trusted ⟨host, some lines'⟩
  /-- where every entry is trusted, the peer is the client -/
  chain : ∀ {host : List Char} {peer : IPAddress}
    {lines : List (List Char)}, parseIp host = some peer →
    (∀ entry ∈ headerEntries lines, ¬ Untrusted trusted entry) →
    clientAddress trusted ⟨some host, some lines⟩ = peer.render
  /-- the header of an untrusted peer is ignored -/
  peer : ∀ (host : List Char)
    (forwardedFor forwardedFor' : Option (List (List Char))),
    Untrusted trusted host →
    clientAddress trusted ⟨some host, forwardedFor⟩
      = clientAddress trusted ⟨some host, forwardedFor'⟩

end

section

variable {trusted : List Network} {peer : IPAddress}
  {entry : List Char} {entries before after : List (List Char)}

theorem scanForwarded_nil : scanForwarded trusted peer [] = peer.render := rfl

/-- An untrusted entry ends the scan. -/
theorem scanForwarded_untrusted (h : Untrusted trusted entry)
    (rest : List (List Char)) :
    scanForwarded trusted peer (entry :: rest)
      = scanForwarded trusted peer [entry] := by
  rw [scanForwarded, scanForwarded]
  cases ha : parseIp entry with
  | none => rfl
  | some address => simp [h address ha]

/-- A trusted entry is passed over. -/
theorem scanForwarded_trusted (h : ¬ Untrusted trusted entry)
    (rest : List (List Char)) :
    scanForwarded trusted peer (entry :: rest)
      = scanForwarded trusted peer rest := by
  rw [scanForwarded]
  cases ha : parseIp entry with
  | none => exact absurd (fun a h' => by rw [ha] at h'; cases h') h
  | some address =>
      cases hin : inAny address trusted with
      | true => simp [hin]
      | false =>
          refine absurd (fun a h' => ?_) h
          rw [ha] at h'
          cases h'
          exact hin

/-- **The scan reads nothing behind an untrusted entry**, however many
entries it is given. -/
theorem scanForwarded_append (h : Untrusted trusted entry) (n : Nat)
    (rest : List (List Char)) :
    scanForwarded trusted peer ((after ++ entry :: rest).take n)
      = scanForwarded trusted peer ((after ++ [entry]).take n) := by
  induction after generalizing n with
  | nil =>
      cases n with
      | zero => rfl
      | succ n =>
          simp only [List.nil_append, List.take_succ_cons, List.take_nil]
          exact scanForwarded_untrusted h _
  | cons a after ih =>
      cases n with
      | zero => rfl
      | succ n =>
          simp only [List.cons_append, List.take_succ_cons]
          rw [scanForwarded, scanForwarded, ih n]

theorem scanForwarded_all_trusted
    (h : ∀ entry ∈ entries, ¬ Untrusted trusted entry) :
    scanForwarded trusted peer entries = peer.render := by
  induction entries with
  | nil => rfl
  | cons entry entries ih =>
      rw [scanForwarded_trusted (h entry List.mem_cons_self)]
      exact ih fun e he => h e (List.mem_cons_of_mem _ he)

theorem untrusted_blank : Untrusted trusted [] := by
  intro address h
  cases h

/-- The entries of an accepted header, from the right, as the scan sees them;
an empty header has one blank entry. -/
theorem scan_forwardedEntries {host : Option (List Char)}
    {lines : List (List Char)} (h : AcceptedSize lines) :
    scanForwarded trusted peer
        (forwardedEntries ⟨host, some lines⟩).reverse
      = scanForwarded trusted peer
        ((headerEntries lines).reverse.take maxChainEntries) := by
  have hsize : decide (maxHeaderChars * 4 < (joinedHeader lines).length)
      = false := decide_eq_false (Nat.not_lt.mpr h)
  simp only [forwardedEntries, headerEntries, hsize, Bool.or_false]
  cases joinedHeader lines with
  | nil =>
      change scanForwarded trusted peer []
        = scanForwarded trusted peer (List.take maxChainEntries [[]])
      rw [maxChainEntries, List.take_succ_cons, List.take_nil,
        scanForwarded_nil]
      rfl
  | cons c joined =>
      simp only [List.isEmpty_cons, Bool.false_eq_true, if_false]
      rw [List.take_reverse]

/-- Entries beyond the size, or none, leave the peer. -/
theorem scan_trusted_entries {request : ForwardedRequest}
    (h : ∀ lines ∈ request.forwardedFor, ∀ entry ∈ headerEntries lines,
      ¬ Untrusted trusted entry) :
    scanForwarded trusted peer (forwardedEntries request).reverse
      = peer.render := by
  refine scanForwarded_all_trusted fun entry hentry => ?_
  rw [forwardedEntries, List.mem_reverse] at hentry
  cases hlines : request.forwardedFor with
  | none =>
      rw [hlines] at hentry
      cases hentry
  | some lines =>
      simp only [hlines] at hentry
      split at hentry
      · cases hentry
      · exact h lines hlines entry (List.mem_of_mem_drop hentry)

theorem clientAddress_host (request : ForwardedRequest) :
    clientAddress trusted request =
      match request.peerHost with
      | none => unknownAddress
      | some host =>
          if host.isEmpty then unknownAddress
          else
            match parseIp host with
            | none => host
            | some peer =>
                if trusted.isEmpty || !inAny peer trusted then peer.render
                else scanForwarded trusted peer
                  (forwardedEntries request).reverse :=
  rfl

/-- Requests with one peer whose headers scan alike have one client. -/
theorem clientAddress_congr {host : Option (List Char)}
    {forwardedFor forwardedFor' : Option (List (List Char))}
    (h : ∀ peer, scanForwarded trusted peer
        (forwardedEntries ⟨host, forwardedFor⟩).reverse
      = scanForwarded trusted peer
        (forwardedEntries ⟨host, forwardedFor'⟩).reverse) :
    clientAddress trusted ⟨host, forwardedFor⟩
      = clientAddress trusted ⟨host, forwardedFor'⟩ := by
  rw [clientAddress_host, clientAddress_host]
  simp only [h]

/-- The header of a peer that is not trusted is ignored. -/
theorem clientAddress_ignores {host : List Char} (h : Untrusted trusted host)
    (forwardedFor forwardedFor' : Option (List (List Char))) :
    clientAddress trusted ⟨some host, forwardedFor⟩
      = clientAddress trusted ⟨some host, forwardedFor'⟩ := by
  simp only [clientAddress_host]
  cases hpeer : parseIp host with
  | none => rfl
  | some peer =>
      simp only [h peer hpeer, Bool.not_false, Bool.or_true, if_true]

/-- **A setting that does not parse widens no trust**: every header is
ignored. -/
theorem clientAddress_malformed_setting {raw : List Char}
    (h : parseTrustedProxies raw = none) (host : List Char)
    (forwardedFor forwardedFor' : Option (List (List Char))) :
    clientAddress (trustedProxies raw) ⟨some host, forwardedFor⟩
      = clientAddress (trustedProxies raw) ⟨some host, forwardedFor'⟩ := by
  refine clientAddress_ignores (fun address _ => ?_) forwardedFor forwardedFor'
  rw [trustedProxies, h]
  rfl

/-- **`client_address` cannot be spoofed.** -/
theorem clientAddress_unspoofable (trusted : List Network) :
    Unspoofable trusted where
  left host lines lines' before before' after entry hl hl' hentry hsize hsize' := by
    refine clientAddress_congr fun peer => ?_
    rw [scan_forwardedEntries hsize, scan_forwardedEntries hsize', hl, hl']
    simp only [List.reverse_append, List.reverse_cons, List.append_assoc,
      List.singleton_append]
    rw [scanForwarded_append hentry, scanForwarded_append hentry _ before'.reverse]
  chain {host peer lines} hpeer hall := by
    have hne : host ≠ [] := by
      rintro rfl
      cases hpeer
    rw [clientAddress_host]
    simp only [List.isEmpty_eq_false_iff.mpr hne, Bool.false_eq_true, if_false,
      hpeer]
    split
    · rfl
    · refine scan_trusted_entries fun l hl => ?_
      cases hl
      exact hall
  peer host forwardedFor forwardedFor' hhost :=
    clientAddress_ignores hhost forwardedFor forwardedFor'

-- the caller's own entry is passed by; the proxy's is not
example : clientAddress (trustedProxies "10.0.0.0/8".toList)
    ⟨some "10.0.0.1".toList,
      some ["6.6.6.6".toList, "1.2.3.4:80, 10.0.0.7".toList]⟩
      = "1.2.3.4".toList := by
  decide +kernel

end

end CallingAgent
