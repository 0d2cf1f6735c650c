import CallingAgent.Lib.IpText
import CallingAgent.Services.ClientAddress

/-!
# Rate-limit identities — who shares a bucket

A limiter that counts by address counts an address of version 4 by itself,
and one of version 6 by its network of 64 bits. The identity is made from the
text of the client address, which is read again for it; since every address
that is printed is read back, nobody shares a bucket with anybody else.
-/

namespace CallingAgent

open Lib

/-- The network of a client, as far as it is told apart. -/
def clientNetwork (ip : BitVec 128) : BitVec 128 :=
  (Subnet.of ip 64 (by decide)).address

/-- A network keeps the scope of an address that has no host bits to
clear. -/
def keptScope (ip : BitVec 128) (scope : Option (List Char)) :
    Option (List Char) := if clientNetwork ip = ip then scope else none

/-- `str(ip_network((address, 64), strict=False))` -/
def networkText (ip : BitVec 128) (scope : Option (List Char)) : List Char :=
  (IPAddress.v6 (clientNetwork ip) (keptScope ip scope)).render ++ "/64".toList

/-- `rate_limit_identity`, of the text `client_address` answers. -/
def rateLimitIdentity (text : List Char) : List Char :=
  match parseIPAddress text with
  | none => "ip:".toList ++ text
  | some (.v6 ip scope) => "ip:".toList ++ networkText ip scope
  | some (.v4 ip) => "ip:".toList ++ renderIPv4 ip

/-! ## What a client address is -/

/-- The text of a client address: an address that can be printed, or the
host of a peer that is none, or nothing at all. -/
inductive IsClientText (request : ForwardedRequest) : List Char → Prop
  | address (a : IPAddress) (h : a.Printable) : IsClientText request a.render
  | host (text : List Char) (hpeer : request.peerHost = some text)
      (h : parseIp text = none) : IsClientText request text
  | unknown : IsClientText request unknownAddress

theorem printable_of_parseIp {text : List Char} {a : IPAddress}
    (h : parseIp text = some a) : a.Printable := by
  unfold parseIp at h
  simp only at h
  split at h
  · cases h
  · obtain ⟨token, -, h⟩ := Option.bind_eq_some_iff.mp h
    obtain ⟨b, hb, h⟩ := Option.bind_eq_some_iff.mp h
    cases h
    have hprintable := printable_of_parse hb
    unfold normaliseAddress
    split
    · split
      · trivial
      · exact hprintable
    · exact hprintable

theorem scanForwarded_isClientText {trusted : List Network} {peer : IPAddress}
    {request : ForwardedRequest} (hpeer : peer.Printable)
    (entries : List (List Char)) :
    IsClientText request (scanForwarded trusted peer entries) := by
  induction entries with
  | nil => exact .address peer hpeer
  | cons entry entries ih =>
      rw [scanForwarded]
      cases hentry : parseIp entry with
      | none => exact .address peer hpeer
      | some a =>
          dsimp only
          split
          · exact .address a (printable_of_parseIp hentry)
          · exact ih

theorem clientAddress_isClientText (trusted : List Network)
    (request : ForwardedRequest) :
    IsClientText request (clientAddress trusted request) := by
  unfold clientAddress
  cases hhost : request.peerHost with
  | none => exact .unknown
  | some host =>
      dsimp only
      split
      · exact .unknown
      · cases hpeer : parseIp host with
        | none => exact .host host hhost hpeer
        | some peer =>
            dsimp only
            have hprintable := printable_of_parseIp hpeer
            split
            · exact .address peer hprintable
            · exact scanForwarded_isClientText hprintable _

/-! ## Who shares a bucket -/

/-- Two addresses that are counted together: the same one of version 4, or
two of one network of 64 bits. -/
def SameClient : IPAddress → IPAddress → Prop
  | .v4 ip, .v4 ip' => ip = ip'
  | .v6 ip scope, .v6 ip' scope' =>
      ip >>> 64 = ip' >>> 64 ∧ keptScope ip scope = keptScope ip' scope'
  | _, _ => False

theorem clientNetwork_eq_iff (ip ip' : BitVec 128) :
    clientNetwork ip = clientNetwork ip' ↔ ip >>> 64 = ip' >>> 64 := by
  have hbit (j : BitVec 128) (i : Nat) (hi : i < 128) :
      (clientNetwork j).getLsbD i = (decide (64 ≤ i) && j.getLsbD i) := by
    simp only [clientNetwork, Subnet.of, netmask, BitVec.getLsbD_and,
      BitVec.getLsbD_xor, BitVec.getLsbD_allOnes, BitVec.getLsbD_ushiftRight]
    by_cases h : 64 ≤ i
    · simp [h, hi]
      omega
    · simp [h, hi]
      omega
  constructor
  · intro h
    refine BitVec.eq_of_getLsbD_eq fun i hi => ?_
    rw [BitVec.getLsbD_ushiftRight, BitVec.getLsbD_ushiftRight]
    by_cases hlt : 64 + i < 128
    · have heq := congrArg (·.getLsbD (64 + i)) h
      simp only [hbit _ _ hlt] at heq
      simpa using heq
    · rw [BitVec.getLsbD_of_ge _ _ (by omega), BitVec.getLsbD_of_ge _ _ (by omega)]
  · intro h
    refine BitVec.eq_of_getLsbD_eq fun i hi => ?_
    rw [hbit _ _ hi, hbit _ _ hi]
    by_cases hle : 64 ≤ i
    · have heq := congrArg (·.getLsbD (i - 64)) h
      simp only [BitVec.getLsbD_ushiftRight] at heq
      rw [show 64 + (i - 64) = i by omega] at heq
      rw [heq]
    · simp [hle]

theorem printable_keptScope {ip : BitVec 128} {scope : Option (List Char)}
    (h : (IPAddress.v6 ip scope).Printable) :
    (IPAddress.v6 (clientNetwork ip) (keptScope ip scope)).Printable := by
  unfold keptScope
  split
  · cases scope with
    | none => trivial
    | some scope => exact h
  · trivial

/-- Only one network and scope has the text. -/
theorem networkText_eq_iff {ip ip' : BitVec 128}
    {scope scope' : Option (List Char)} (h : (IPAddress.v6 ip scope).Printable)
    (h' : (IPAddress.v6 ip' scope').Printable) :
    networkText ip scope = networkText ip' scope' ↔
      ip >>> 64 = ip' >>> 64 ∧ keptScope ip scope = keptScope ip' scope' := by
  rw [← clientNetwork_eq_iff]
  constructor
  · intro heq
    have hrender := List.append_cancel_right heq
    have hread := parseIPAddress_render (printable_keptScope h)
    rw [hrender, parseIPAddress_render (printable_keptScope h')] at hread
    obtain ⟨hnetwork, hscope⟩ := IPAddress.v6.inj (Option.some.inj hread)
    exact ⟨hnetwork.symm, hscope.symm⟩
  · rintro ⟨hnetwork, hscope⟩
    rw [networkText, networkText, hnetwork, hscope]

theorem slash_mem_networkText (ip : BitVec 128) (scope : Option (List Char)) :
    '/' ∈ networkText ip scope :=
  List.mem_append_right _ (by decide)

theorem slash_not_mem_renderIPv4 (ip : BitVec 32) : '/' ∉ renderIPv4 ip := by
  refine not_mem_intercalate (by decide) fun part hpart => ?_
  obtain ⟨n, -, rfl⟩ := List.mem_map.mp hpart
  exact not_mem_toDigits (by decide) (by decide)

/-- What stands behind `ip:` in the identity of an address. -/
def bucketText : IPAddress → List Char
  | .v4 ip => renderIPv4 ip
  | .v6 ip scope => networkText ip scope

theorem rateLimitIdentity_render {a : IPAddress} (h : a.Printable) :
    rateLimitIdentity a.render = "ip:".toList ++ bucketText a := by
  rw [rateLimitIdentity, parseIPAddress_render h]
  cases a <;> rfl

/-- Two addresses have one text exactly when they are counted together. -/
theorem bucketText_eq_iff {a b : IPAddress} (ha : a.Printable)
    (hb : b.Printable) : bucketText a = bucketText b ↔ SameClient a b := by
  cases a with
  | v4 ip =>
      cases b with
      | v4 ip' =>
          refine ⟨fun heq => ?_, fun heq => congrArg renderIPv4 heq⟩
          have hread := parseIPv4_render ip
          rw [show renderIPv4 ip = renderIPv4 ip' from heq, parseIPv4_render]
            at hread
          exact (Option.some.inj hread).symm
      | v6 ip' scope' =>
          refine ⟨fun heq => slash_not_mem_renderIPv4 ip ?_, False.elim⟩
          rw [show renderIPv4 ip = networkText ip' scope' from heq]
          exact slash_mem_networkText ip' scope'
  | v6 ip scope =>
      cases b with
      | v4 ip' =>
          refine ⟨fun heq => slash_not_mem_renderIPv4 ip' ?_, False.elim⟩
          rw [← show networkText ip scope = renderIPv4 ip' from heq]
          exact slash_mem_networkText ip scope
      | v6 ip' scope' => exact networkText_eq_iff ha hb

/-- A text that is no address has the text of none. -/
theorem bucketText_ne {text : List Char} (hnone : parseIPAddress text = none)
    (hslash : '/' ∉ text) (a : IPAddress) : text ≠ bucketText a := by
  intro heq
  cases a with
  | v4 ip =>
      rw [heq, bucketText, parseIPAddress, parseIPv4_render] at hnone
      cases hnone
  | v6 ip scope => exact hslash (heq ▸ slash_mem_networkText ip scope)

/-- **A bucket is one client's.** Every client address is an address, the
host of a peer that is none, or unknown; two addresses have one identity
exactly when they are counted together; and no other text without a slash
has the identity of an address, so a request without a peer shares a bucket
with none that has one. -/
theorem rateLimitIdentity_exact (trusted : List Network) :
    (∀ request, IsClientText request (clientAddress trusted request)) ∧
    (∀ a b : IPAddress, a.Printable → b.Printable →
      (rateLimitIdentity a.render = rateLimitIdentity b.render ↔
        SameClient a b)) ∧
    ∀ (text : List Char) (a : IPAddress), parseIPAddress text = none →
      '/' ∉ text → a.Printable →
      rateLimitIdentity text ≠ rateLimitIdentity a.render := by
  refine ⟨clientAddress_isClientText trusted, fun a b ha hb => ?_,
    fun text a hnone hslash ha => ?_⟩
  · rw [rateLimitIdentity_render ha, rateLimitIdentity_render hb,
      List.append_cancel_left_eq, bucketText_eq_iff ha hb]
  · rw [rateLimitIdentity_render ha, rateLimitIdentity, hnone, Ne,
      List.append_cancel_left_eq]
    exact bucketText_ne hnone hslash a

/-- An address of the documentation network, written by its halves. -/
def exampleClient (network host : BitVec 64) : IPAddress :=
  .v6 (network ++ host) none

/-- Two addresses of one network are one client, and one beside it is
another. -/
theorem rateLimitIdentity_shared :
    rateLimitIdentity (exampleClient 0x20010db800010002 1).render
        = rateLimitIdentity (exampleClient 0x20010db800010002 9).render ∧
      rateLimitIdentity (exampleClient 0x20010db800010002 1).render
        ≠ rateLimitIdentity (exampleClient 0x20010db800010003 1).render := by
  have hexact (a b : BitVec 64) (c d : BitVec 64) :=
    (rateLimitIdentity_exact []).2.1 (exampleClient a b) (exampleClient c d)
      trivial trivial
  exact ⟨(hexact _ _ _ _).mpr ⟨by decide, by decide⟩,
    fun heq => absurd ((hexact _ _ _ _).mp heq).1 (by decide)⟩

end CallingAgent
