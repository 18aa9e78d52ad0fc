import DataMax.Domain.ApiError
import DataMax.Domain.UrlHost

/-! The check of the url that a document's content is fetched from. -/

namespace DataMax.ExternalDocument

open Domain Library

def isLoopbackUrlHost (host : Option String) : Bool := host.any fun host => ["127.0.0.1", "localhost", "::1"].contains host

/-- The kinds of addresses that are refused. -/
def isPrivateHost (ip : IpAddress) : Bool := ip.isLoopback || ip.isUnspecified || ip.isMulticast || match ip with
  | .v4 value => value.isPrivate || value.isLinkLocal || value.isBroadcast
  | .v6 value => value.isUniqueLocal || value.isUnicastLinkLocal

def validateExternalDocumentContentUrl (url : Url) (allowHttpLoopback : Bool) : Except ApiError Unit := do
  if url.scheme ≠ "https" ∧ ¬ (url.scheme = "http" ∧ allowHttpLoopback ∧ isLoopbackUrlHost url.hostStr) then
    throw (.badRequest "external_document_content_url_insecure"
      "content_url must use HTTPS; HTTP is only allowed for loopback smoke tests")
  if let some ip := url.hostStr.bind parseIpAddress then
    if isPrivateHost ip then
      if !(allowHttpLoopback && ip.isLoopback) then
        throw (.badRequest "external_document_content_url_private_host"
          "content_url host must not be a private or local IP")

section Acceptance

variable {url : Url} {allow : Bool}

def Accepted (url : Url) (allowHttpLoopback : Bool) : Prop := validateExternalDocumentContentUrl url allowHttpLoopback = .ok ()

theorem accepted_iff : Accepted url allow ↔
    (url.scheme = "https" ∨ url.scheme = "http" ∧ allow ∧ isLoopbackUrlHost url.hostStr) ∧
      ∀ ip, url.hostStr.bind parseIpAddress = some ip → isPrivateHost ip → allow ∧ ip.isLoopback := by
  rw [Accepted, validateExternalDocumentContentUrl]
  by_cases secure : url.scheme = "https" ∨ url.scheme = "http" ∧ allow ∧ isLoopbackUrlHost url.hostStr
  · rw [if_neg (by tauto)]
    cases found : url.hostStr.bind parseIpAddress with
    | none => simp [secure, pure, Except.pure]
    | some ip =>
      cases inside : isPrivateHost ip <;> cases allow <;> cases loopback : ip.isLoopback <;>
        simp_all [pure, Except.pure, throw, throwThe, MonadExceptOf.throw]
  · rw [if_pos (by tauto)]
    exact iff_of_false (fun ended => nomatch ended) fun both => secure both.1

end Acceptance

/-- An address that only a private network has, in whatever form it is written. -/
def isInside (address : IpAddress) : Bool := match address.unmapped with
  | .v4 address => address.isLoopback || address.isUnspecified || address.isPrivate || address.isLinkLocal ||
      address.isBroadcast || address.isMulticast
  | .v6 address => address.isLoopback || address.isUnspecified || address.isUniqueLocal || address.isUnicastLinkLocal ||
      address.isMulticast

/-- The host is inside by its address or by its name. -/
def hostInside (host : UrlHost) : Bool := host.address.any isInside || host.isLocalhostName

/-- Without the flag only hosts outside are accepted, and with it also the machine itself, in all its forms. -/
structure StaysOutside (url : Url) : Prop where
  secure : Accepted url false → url.scheme = "https" ∧ ∀ host, url.host = some host → hostInside host = false
  additional : Accepted url true → ¬ Accepted url false →
    (url.scheme = "http" ∨ url.scheme = "https") ∧ ∃ host, url.host = some host ∧ host.isLoopback
  loopback : ∀ host, url.host = some host → host.isLoopback → url.scheme = "http" ∨ url.scheme = "https" →
    Accepted url true

/-- Secure urls that lead inside have an IPv4 address, and others that lead to the machine itself have one of two texts. -/
structure HostsKnown (url : Url) : Prop where
  secure : url.scheme = "https" → ∀ host, url.host = some host → hostInside host → ∃ address, host = .ipv4 address
  plain : url.scheme = "http" → ∀ host, url.host = some host → host.isLoopback →
    host.text = "127.0.0.1" ∨ host.text = "localhost"

section Hosts

variable {url : Url} {allow : Bool} {host : UrlHost}

/-- Only dotted addresses are read as addresses. -/
theorem parseIpAddress_host (host : UrlHost) :
    parseIpAddress host.text = match host with | .ipv4 address => some (.v4 address) | _ => none := by
  cases host with
  | domain name => exact name.named
  | ipv4 address => exact parseIpAddress_text address
  | ipv6 literal =>
    rw [UrlHost.text, String.append_assoc]
    exact parseIpAddress_bracket _

theorem isLoopbackUrlHost_iff : isLoopbackUrlHost (some host.text) = true ↔
    host.text = "127.0.0.1" ∨ host.text = "localhost" := by
  have never : host.text ≠ "::1" := by
    intro same
    have parsed := parseIpAddress_host host
    have spelled : parseIpAddress "::1" = some (.v6 ⟨[0, 0, 0, 0, 0, 0, 0, 1], rfl⟩) := by decide
    rw [same, spelled] at parsed
    cases host <;> simp at parsed
  simp [isLoopbackUrlHost, never]

theorem accepted_named (known : url.host = some host) : Accepted url allow ↔
    (url.scheme = "https" ∨ url.scheme = "http" ∧ allow ∧ (host.text = "127.0.0.1" ∨ host.text = "localhost")) ∧
      ∀ address, host = .ipv4 address → isPrivateHost (.v4 address) → allow ∧ address.isLoopback := by
  have text : url.hostStr = some host.text := by rw [Url.hostStr, known, Option.map_some]
  rw [accepted_iff, text, isLoopbackUrlHost_iff, Option.bind_some, parseIpAddress_host]
  cases host with
  | ipv4 address => simp [IpAddress.isLoopback]
  | _ => simp

theorem isInside_v4 (address : Ipv4) : isInside (.v4 address) = isPrivateHost (.v4 address) := by
  simp only [isInside, IpAddress.unmapped, isPrivateHost, IpAddress.isLoopback, IpAddress.isUnspecified, IpAddress.isMulticast]
  grind

theorem text_loopback (text : host.text = "127.0.0.1" ∨ host.text = "localhost") : host.isLoopback = true := by
  have dotted : parseIpAddress "127.0.0.1" = some (.v4 ⟨127, 0, 0, 1⟩) := by decide
  have unaddressed : parseIpAddress "localhost" = none := by decide
  have parsed := parseIpAddress_host host
  rcases text with text | text
  · rw [text, dotted] at parsed
    cases host with
    | ipv4 address =>
      cases parsed
      rfl
    | _ => cases parsed
  · rw [text, unaddressed] at parsed
    cases host with
    | domain name =>
      have named : name.text = "localhost" := text
      simp [UrlHost.isLoopback, UrlHost.isLocalhostName, named]
    | ipv4 address => cases parsed
    | ipv6 literal =>
      have chars := congrArg String.toList text
      simp [UrlHost.text] at chars

theorem isLoopback_ipv4 (address : Ipv4) : (UrlHost.ipv4 address).isLoopback = address.isLoopback := by
  simp [UrlHost.isLoopback, UrlHost.address, UrlHost.isLocalhostName, IpAddress.unmapped, IpAddress.isLoopback]

theorem hostInside_ipv4 (address : Ipv4) : hostInside (.ipv4 address) = isPrivateHost (.v4 address) := by
  simp [hostInside, UrlHost.address, UrlHost.isLocalhostName, isInside_v4]

theorem HostsKnown.of_stays (known : url.host = some host) (stays : StaysOutside url) : HostsKnown url where
  secure secure other same inside := by
    cases known.symm.trans same
    by_contra named
    have accepted : Accepted url false := by
      rw [accepted_named known]
      exact ⟨.inl secure, fun address dotted => absurd ⟨address, dotted⟩ named⟩
    rw [(stays.secure accepted).2 host known] at inside
    cases inside
  plain plain other same loopback := by
    cases known.symm.trans same
    obtain ⟨secure | ⟨-, -, text⟩, -⟩ := (accepted_named known).mp (stays.loopback host known loopback (.inl plain))
    · exact absurd (plain.symm.trans secure) (by decide)
    · exact text

theorem StaysOutside.of_known (known : url.host = some host) (hosts : HostsKnown url) : StaysOutside url where
  secure accepted := by
    obtain ⟨secure | ⟨-, flagged, -⟩, outside⟩ := (accepted_named known).mp accepted
    · refine ⟨secure, fun other same => ?_⟩
      cases known.symm.trans same
      by_contra inside
      rw [Bool.not_eq_false] at inside
      obtain ⟨address, rfl⟩ := hosts.secure secure host known inside
      rw [hostInside_ipv4] at inside
      exact Bool.false_ne_true (outside address rfl inside).1
    · exact absurd flagged Bool.false_ne_true
  additional accepted refused := by
    obtain ⟨secure | ⟨plain, -, text⟩, outside⟩ := (accepted_named known).mp accepted
    · refine ⟨.inr secure, host, known, ?_⟩
      by_contra elsewhere
      refine refused ((accepted_named known).mpr ⟨.inl secure, fun address dotted inside => ?_⟩)
      subst dotted
      rw [isLoopback_ipv4] at elsewhere
      exact absurd (outside address rfl inside).2 elsewhere
    · exact ⟨.inl plain, host, known, text_loopback text⟩
  loopback other same loopback scheme := by
    cases known.symm.trans same
    refine (accepted_named known).mpr ⟨?_, fun address dotted _ => ?_⟩
    · exact scheme.symm.imp_right fun plain => ⟨plain, rfl, hosts.plain plain host known loopback⟩
    · subst dotted
      exact ⟨rfl, (isLoopback_ipv4 address).symm.trans loopback⟩

end Hosts

/-- A url stays outside exactly where its host is of the kinds that the check knows: it reads no bracket. -/
theorem content_urls_stay_outside_iff (url : Url) : StaysOutside url ↔ HostsKnown url := by
  cases known : url.host with
  | none =>
    have unread : url.hostStr = none := by rw [Url.hostStr, known, Option.map_none]
    have accepted (allow : Bool) : Accepted url allow ↔ url.scheme = "https" := by
      simp [accepted_iff, unread, isLoopbackUrlHost]
    refine iff_of_true ⟨fun now => ⟨(accepted false).mp now, ?_⟩, fun now later => ?_, ?_⟩ ⟨?_, ?_⟩
    · simp [known]
    · exact absurd ((accepted false).mpr ((accepted true).mp now)) later
    · simp [known]
    · simp [known]
    · simp [known]
  | some host => exact ⟨HostsKnown.of_stays known, StaysOutside.of_known known⟩

def loopbackLiteral : Ipv6Literal where
  address := ⟨[0, 0, 0, 0, 0, 0, 0, 1], rfl⟩
  text := "::1"
  plain := List.all_eq_true.mp (by decide)
  spelled := by decide

theorem content_url_leads_inside : ¬ StaysOutside ⟨"https", some (.ipv6 loopbackLiteral)⟩ := by
  intro stays
  have accepted : Accepted ⟨"https", some (.ipv6 loopbackLiteral)⟩ false :=
    (accepted_named rfl).mpr ⟨.inl rfl, by simp⟩
  exact absurd ((stays.secure accepted).2 _ rfl) (by decide)

end DataMax.ExternalDocument
