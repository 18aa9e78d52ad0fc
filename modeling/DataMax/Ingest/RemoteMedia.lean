import DataMax.Domain.Lines
import DataMax.Domain.UrlHost
import DataMax.Library.Outcome

/-! The check of the url that remote media is fetched from. -/

namespace DataMax.Ingest

open Domain Library

def isBracket (ch : Char) : Bool := ch == '[' || ch == ']'

def mediaHostName (host : String) : String := asciiLower (trimMatches isBracket (trim host))

def remoteMediaHostAllowed (host : String) : Bool :=
  let lower := mediaHostName host
  if lower == "" || lower == "localhost" || endsWith lower ".localhost" || endsWith lower ".local" then false
  else match parseIpAddress lower with
    | some (.v4 ip) => !(ip.isPrivate || ip.isLoopback || ip.isLinkLocal || ip.isBroadcast || ip.isDocumentation ||
        ip.first == 0)
    | some (.v6 ip) => !(ip.isLoopback || ip.isUnspecified || ip.isUniqueLocal)
    | none => true

def isAudioExtension (extension : String) : Bool :=
  [".mp3", ".wav", ".m4a", ".aac", ".flac", ".ogg", ".opus"].contains extension

def isVideoExtension (extension : String) : Bool :=
  [".mp4", ".mov", ".mkv", ".webm", ".avi", ".mpeg", ".mpg"].contains extension

structure MediaUrl extends Url where
  path : String
  text : String

def extensionFromRemoteUrl (url : MediaUrl) : Option String :=
  [".mp4", ".mov", ".m4v", ".webm", ".mkv", ".avi", ".mpeg", ".mpg", ".mp3", ".wav", ".m4a", ".aac", ".flac", ".ogg",
    ".opus"].find? (endsWith (asciiLower url.path))

def inferExtensionFromContentType (contentType : String) : String :=
  let lower := asciiLower contentType
  if contains lower "markdown" then ".md"
  else if contains lower "csv" then ".csv"
  else if contains lower "json" then ".json"
  else if contains lower "html" || contains lower "xml" then ".html"
  else if contains lower "pdf" then ".pdf"
  else if contains lower "jpeg" || contains lower "jpg" then ".jpg"
  else if contains lower "png" then ".png"
  else if contains lower "webp" then ".webp"
  else if contains lower "mp3" || contains lower "mpeg" then ".mp3"
  else if contains lower "wav" then ".wav"
  else if contains lower "mp4" then ".mp4"
  else if contains lower "quicktime" then ".mov"
  else if startsWith lower "audio/" then ".mp3"
  else if startsWith lower "video/" then ".mp4"
  else if startsWith lower "image/" then ".png"
  else if startsWith lower "text/" then ".txt"
  else ""

inductive MediaUrlError where
  | invalidInput (message : String)
  | permissionDenied (message : String)
  deriving DecidableEq

def validateRemoteMediaUrl (url : MediaUrl) (contentType : String) : Except MediaUrlError Unit := do
  ensure (["http", "https"].contains url.scheme) (.invalidInput "remote media url must use http or https")
  ensure (remoteMediaHostAllowed (url.hostStr.getD "")) (.permissionDenied "remote media host is not allowed")
  let lower := asciiLower url.text
  ensure (!(contains lower "weixin.qq.com/sph/" || contains lower "channels.weixin.qq.com/sph/"))
    (.permissionDenied "login-gated media sources are not supported")
  let extension := (extensionFromRemoteUrl url).getD (inferExtensionFromContentType contentType)
  ensure (isAudioExtension extension || isVideoExtension extension)
    (.invalidInput "remote media url must point to an audio or video file")

/-- An address in the network of the machine, in whatever form it is written. -/
def isInternalAddress (address : IpAddress) : Bool := match address.unmapped with
  | .v4 address => address.isLoopback || address.isPrivate || address.isLinkLocal || address.isUnspecified
  | .v6 address => address.isLoopback || address.isUnspecified || address.isUniqueLocal || address.isUnicastLinkLocal

def leadsToInternal (host : UrlHost) : Bool := host.address.any isInternalAddress || host.isLocalhostName

/-- The spellings that the check does not know. -/
def isOverlooked : UrlHost → Bool
  | .domain name => name.text == "localhost." || endsWith name.text ".localhost."
  | .ipv4 _ => false
  | .ipv6 literal => literal.address.isUnicastLinkLocal || literal.address.toIpv4Mapped.any fun address =>
      address.isLoopback || address.isPrivate || address.isLinkLocal || address.isUnspecified

section Names

variable {text : String}

theorem host_char {ch : Char} (plain : isHostChar ch) : isWhitespace ch = false ∧ isBracket ch = false ∧ ch.toLower = ch := by
  simp only [isHostChar, Bool.and_eq_true, Bool.not_eq_true', bne_iff_ne, ne_eq, beq_iff_eq] at plain
  obtain ⟨⟨⟨visible, opening⟩, closing⟩, lower⟩ := plain
  exact ⟨visible, by simp [isBracket, opening, closing], lower⟩

theorem asciiLower_host (plain : ∀ ch ∈ text.toList, isHostChar ch) : asciiLower text = text := by
  refine String.toList_injective ?_
  rw [asciiLower, String.toList_map]
  exact (List.map_congr_left fun ch inside => (host_char (plain ch inside)).2.2).trans (List.map_id _)

theorem dropWhile_bracket {chars : List Char} (plain : ∀ ch ∈ chars.head?, isBracket ch = false) :
    chars.dropWhile isBracket = chars := by
  cases chars with
  | nil => rfl
  | cons ch rest => exact List.dropWhile_cons_of_neg (Bool.not_eq_true _ ▸ plain ch rfl)

/-- Brackets around a plain text are taken off. -/
theorem trimMatches_wrapped {before after : List Char} (opening : ∀ ch ∈ before, isBracket ch)
    (closing : ∀ ch ∈ after, isBracket ch) (plain : ∀ ch ∈ text.toList, isHostChar ch) :
    trimMatches isBracket (.ofList (before ++ (text.toList ++ after))) = text := by
  have bare : ∀ ch ∈ text.toList, isBracket ch = false := fun ch inside => (host_char (plain ch inside)).2.1
  have started : (text.toList ++ after).dropWhile isBracket = if text.toList = [] then [] else text.toList ++ after := by
    split
    · rename_i empty
      rw [empty, List.nil_append, List.dropWhile_eq_nil_iff]
      exact closing
    · rename_i filled
      refine dropWhile_bracket fun ch first => bare ch ?_
      rw [List.head?_append_of_ne_nil _ filled] at first
      exact List.mem_of_mem_head? first
  have ended : (if text.toList = [] then [] else text.toList ++ after).reverse.dropWhile isBracket = text.toList.reverse := by
    split
    · rename_i empty
      simp [empty]
    · rw [List.reverse_append, List.dropWhile_append_of_pos fun ch inside => closing ch (List.mem_reverse.mp inside)]
      exact dropWhile_bracket fun ch last => bare ch (List.mem_reverse.mp (List.mem_of_mem_head? last))
  rw [trimMatches, String.toList_ofList, List.dropWhile_append_of_pos opening, started, ended, List.reverse_reverse,
    String.ofList_toList]

theorem mediaHostName_wrapped {before after : List Char} (opening : ∀ ch ∈ before, isBracket ch)
    (closing : ∀ ch ∈ after, isBracket ch) (plain : ∀ ch ∈ text.toList, isHostChar ch) :
    mediaHostName (.ofList (before ++ (text.toList ++ after))) = text := by
  have visible : ∀ ch, isBracket ch → isWhitespace ch = false := by
    intro ch bracket
    rcases Bool.or_eq_true_iff.mp bracket with same | same <;> rw [beq_iff_eq.mp same] <;> decide
  have trimmed : trim (.ofList (before ++ (text.toList ++ after))) = .ofList (before ++ (text.toList ++ after)) := by
    refine trim_eq_self fun ch inside => ?_
    rw [String.toList_ofList] at inside
    rcases List.mem_append.mp inside with start | inside
    · exact visible ch (opening ch start)
    · rcases List.mem_append.mp inside with inside | ending
      · exact (host_char (plain ch inside)).1
      · exact visible ch (closing ch ending)
  rw [mediaHostName, trimmed, trimMatches_wrapped opening closing plain, asciiLower_host plain]

theorem mediaHostName_plain (plain : ∀ ch ∈ text.toList, isHostChar ch) : mediaHostName text = text := by
  have bare : mediaHostName (.ofList ([] ++ (text.toList ++ []))) = text :=
    mediaHostName_wrapped (by simp) (by simp) plain
  rwa [List.nil_append, List.append_nil, String.ofList_toList] at bare

end Names

section Hosts

variable {host text : String} {ip : IpAddress}

/-- No name of the machine reads as an address. -/
theorem no_letter (read : parseIpAddress text = some ip) : 'l' ∉ text.toList := by
  intro inside
  exact absurd (parseIpAddress_chars read 'l' inside) (by decide)

theorem not_endsWith {ending : String} {ch : Char} (inside : ch ∈ ending.toList) (absent : ch ∉ text.toList) :
    endsWith text ending = false := by
  rw [← Bool.not_eq_true]
  intro ends
  exact absent ((List.isSuffixOf_iff_suffix.mp ends).subset inside)

/-- An address is none of the refused names. -/
theorem unnamed_address (read : parseIpAddress text = some ip) :
    (text == "" || text == "localhost" || endsWith text ".localhost" || endsWith text ".local") = false := by
  have filled : text ≠ "" := by
    rintro rfl
    have nothing : parseIpAddress "" = none := by decide
    exact nomatch nothing.symm.trans read
  have unnamed : text ≠ "localhost" := by
    rintro rfl
    exact no_letter read (by simp)
  have below (ending : String) (inside : 'l' ∈ ending.toList) := not_endsWith inside (no_letter read)
  rw [beq_eq_false_iff_ne.mpr filled, beq_eq_false_iff_ne.mpr unnamed, below ".localhost" (by simp), below ".local" (by simp)]
  rfl

theorem allowed_ipv4 (address : Ipv4) (bare : mediaHostName host = text) (read : parseIpAddress text = some (.v4 address)) :
    remoteMediaHostAllowed host = !(address.isPrivate || address.isLoopback || address.isLinkLocal || address.isBroadcast ||
      address.isDocumentation || address.first == 0) := by
  rw [remoteMediaHostAllowed, bare, unnamed_address read, read]
  rfl

theorem allowed_ipv6 (address : Ipv6) (bare : mediaHostName host = text) (read : parseIpAddress text = some (.v6 address)) :
    remoteMediaHostAllowed host = !(address.isLoopback || address.isUnspecified || address.isUniqueLocal) := by
  rw [remoteMediaHostAllowed, bare, unnamed_address read, read]
  rfl

theorem allowed_domain (name : DomainName) : remoteMediaHostAllowed name.text =
    !(name.text == "localhost" || endsWith name.text ".localhost" || endsWith name.text ".local") := by
  rw [remoteMediaHostAllowed, mediaHostName_plain name.plain, beq_eq_false_iff_ne.mpr name.filled, name.named, Bool.false_or]
  cases (name.text == "localhost" || endsWith name.text ".localhost" || endsWith name.text ".local") <;> rfl

theorem endsWith_last {ending : String} {ch : Char} (ends : endsWith text ending) (last : ch ∈ ending.toList.getLast?) :
    ch ∈ text.toList.getLast? := by
  obtain ⟨front, same⟩ := List.isSuffixOf_iff_suffix.mp ends
  rw [← same]
  exact List.mem_getLast?_append_of_mem_getLast? last

/-- A name that ends with the dot of the root is not one of the refused ones. -/
theorem allowed_of_dot {name : DomainName} (dot : '.' ∈ name.text.toList.getLast?) : remoteMediaHostAllowed name.text := by
  have letter {ending : String} {ch : Char} (last : ch ∈ ending.toList.getLast?) (other : ch ≠ '.') :
      endsWith name.text ending = false := by
    rw [← Bool.not_eq_true]
    intro ends
    exact other (Option.mem_unique (endsWith_last ends last) dot)
  have unnamed : name.text ≠ "localhost" := by
    intro same
    rw [same] at dot
    exact absurd dot (by decide)
  rw [allowed_domain, beq_eq_false_iff_ne.mpr unnamed, @letter ".localhost" 't' (by decide) (by decide),
    @letter ".local" 'l' (by decide) (by decide)]
  rfl

theorem outside_domain (name : DomainName) :
    (remoteMediaHostAllowed (UrlHost.domain name).text → leadsToInternal (.domain name) = false) ↔
      isOverlooked (.domain name) = false := by
  have leads : leadsToInternal (.domain name) = (name.text == "localhost" || name.text == "localhost." ||
      endsWith name.text ".localhost" || endsWith name.text ".localhost.") := by
    simp [leadsToInternal, UrlHost.address, UrlHost.isLocalhostName, Bool.or_assoc, beq_eq_decide]
  rw [leads, isOverlooked]
  constructor
  · intro outside
    rw [← Bool.not_eq_true, Bool.or_eq_true, beq_iff_eq]
    intro dotted
    have dot : '.' ∈ name.text.toList.getLast? := by
      rcases dotted with same | ends
      · rw [same]
        decide
      · exact endsWith_last ends (by decide)
    have never := outside (allowed_of_dot dot)
    simp only [Bool.or_eq_false_iff, beq_eq_false_iff_ne] at never
    rcases dotted with same | ends
    · exact never.1.1.2 same
    · exact Bool.false_ne_true (never.2.symm.trans ends)
  · intro known allowed
    rw [UrlHost.text, allowed_domain] at allowed
    simp only [Bool.not_eq_true', Bool.or_eq_false_iff] at known allowed ⊢
    exact ⟨⟨⟨allowed.1.1, known.1⟩, allowed.1.2⟩, known.2⟩

theorem segments_mapped {address : Ipv6} {mapped : Ipv4} (found : address.toIpv4Mapped = some mapped) :
    ∃ high low, address.segments = [0, 0, 0, 0, 0, 0xFFFF, high, low] := by
  rw [Ipv6.toIpv4Mapped] at found
  split at found
  · exact ⟨_, _, ‹_›⟩
  · cases found

/-- A mapped address is none of the kinds that the check knows. -/
theorem unknown_of_mapped {address : Ipv6} {mapped : Ipv4} (found : address.toIpv4Mapped = some mapped) :
    address.isLoopback = false ∧ address.isUnspecified = false ∧ address.isUniqueLocal = false ∧
      address.isUnicastLinkLocal = false := by
  obtain ⟨high, low, same⟩ := segments_mapped found
  simp [Ipv6.isLoopback, Ipv6.isUnspecified, Ipv6.isUniqueLocal, Ipv6.isUnicastLinkLocal, Ipv6.leading, same]

/-- Neither is one on the link. -/
theorem unknown_of_linkLocal {address : Ipv6} (linked : address.isUnicastLinkLocal) :
    address.isLoopback = false ∧ address.isUnspecified = false ∧ address.isUniqueLocal = false := by
  have leading : address.leading &&& 0xFFC0 = 0xFE80 := beq_iff_eq.mp linked
  have shorter : address.leading &&& 0xFE00 = 0xFE00 := by
    have both : (0xFE00 : UInt16) = 0xFFC0 &&& 0xFE00 := by decide
    rw [both, ← UInt16.and_assoc, leading]
    decide
  refine ⟨?_, ?_, ?_⟩
  · refine beq_eq_false_iff_ne.mpr fun same => ?_
    rw [Ipv6.leading, same] at leading
    exact absurd leading (by decide)
  · refine beq_eq_false_iff_ne.mpr fun same => ?_
    rw [Ipv6.leading, same] at leading
    exact absurd leading (by decide)
  · rw [Ipv6.isUniqueLocal, shorter]
    decide

theorem isHostChar_digit {ch : Char} (digit : ch.isDigit) : isHostChar ch := by
  have codes : 0x30 ≤ ch.toNat ∧ ch.toNat ≤ 0x7A := alphanum_code (by simp [Char.isAlphanum, digit])
  have small : ch.toNat ≤ 0x39 := by
    delta Char.isDigit at digit
    simp only [Bool.and_eq_true, decide_eq_true_eq, ge_iff_le, UInt32.le_iff_toNat_le] at digit
    exact digit.2
  have visible : isWhitespace ch = false := by
    simp only [isWhitespace, Bool.or_eq_false_iff, Bool.and_eq_false_iff, decide_eq_false_iff_not, beq_eq_false_iff_ne]
    omega
  have opening : ch ≠ '[' := by
    rintro rfl
    exact absurd digit (by decide)
  have closing : ch ≠ ']' := by
    rintro rfl
    exact absurd digit (by decide)
  simp [isHostChar, visible, opening, closing, toLower_of_digit digit]

theorem outside_ipv4 (address : Ipv4) :
    (remoteMediaHostAllowed (UrlHost.ipv4 address).text → leadsToInternal (.ipv4 address) = false) ↔
      isOverlooked (.ipv4 address) = false := by
  refine iff_of_true (fun allowed => ?_) rfl
  have plain : ∀ ch ∈ address.text.toList, isHostChar ch := by
    have digit {ch : Char} {octet : UInt8} (inside : ch ∈ Nat.toDigits 10 octet.toNat) : isHostChar ch :=
      isHostChar_digit (Nat.isDigit_of_mem_toDigits (by decide) (by decide) inside)
    simp only [Ipv4.text, Ipv4.chars, String.toList_ofList, List.mem_append, List.mem_cons]
    rintro ch (first | rfl | second | rfl | third | rfl | fourth)
    · exact digit first
    · decide
    · exact digit second
    · decide
    · exact digit third
    · decide
    · exact digit fourth
  rw [UrlHost.text, allowed_ipv4 address (mediaHostName_plain plain) (parseIpAddress_text address)] at allowed
  have whole : address.isUnspecified = true → address.first = 0 := fun same => by rw [beq_iff_eq.mp same]
  have leads : leadsToInternal (.ipv4 address) = (address.isLoopback || address.isPrivate || address.isLinkLocal ||
      address.isUnspecified) := by
    simp [leadsToInternal, UrlHost.address, UrlHost.isLocalhostName, isInternalAddress, IpAddress.unmapped]
  rw [leads]
  grind

theorem outside_ipv6 (literal : Ipv6Literal) :
    (remoteMediaHostAllowed (UrlHost.ipv6 literal).text → leadsToInternal (.ipv6 literal) = false) ↔
      isOverlooked (.ipv6 literal) = false := by
  have bare : mediaHostName (UrlHost.ipv6 literal).text = literal.text := by
    have wrapped : (UrlHost.ipv6 literal).text = .ofList (['['] ++ (literal.text.toList ++ [']'])) :=
      String.toList_injective (by simp [UrlHost.text])
    rw [wrapped]
    exact mediaHostName_wrapped (by simp [isBracket]) (by simp [isBracket]) literal.plain
  rw [allowed_ipv6 literal.address bare literal.spelled]
  have leads : leadsToInternal (.ipv6 literal) = isInternalAddress (.v6 literal.address) := by
    simp [leadsToInternal, UrlHost.address, UrlHost.isLocalhostName]
  rw [leads, isOverlooked, isInternalAddress, IpAddress.unmapped]
  cases mapped : literal.address.toIpv4Mapped with
  | some address =>
    obtain ⟨loopback, unspecified, unique, linked⟩ := unknown_of_mapped mapped
    simp [loopback, unspecified, unique, linked]
  | none =>
    have linked := @unknown_of_linkLocal literal.address
    simp only [Option.map_none, Option.getD_none, Option.any_none, Bool.or_false]
    cases onLink : literal.address.isUnicastLinkLocal with
    | true => simp [linked onLink]
    | false => simp

/-- What is allowed leads outside exactly where the host is not one of the overlooked spellings. -/
theorem media_hosts_outside_iff (host : UrlHost) :
    (remoteMediaHostAllowed host.text → leadsToInternal host = false) ↔ isOverlooked host = false := by
  cases host with
  | domain name => exact outside_domain name
  | ipv4 address => exact outside_ipv4 address
  | ipv6 literal => exact outside_ipv6 literal

def linkLocalLiteral : Ipv6Literal where
  address := ⟨[0xFE80, 0, 0, 0, 0, 0, 0, 1], rfl⟩
  text := "fe80::1"
  plain := List.all_eq_true.mp (by decide)
  spelled := by decide

theorem media_host_leads_inside : ¬ ∀ host : UrlHost, remoteMediaHostAllowed host.text → leadsToInternal host = false := by
  intro outside
  have allowed : remoteMediaHostAllowed (UrlHost.ipv6 linkLocalLiteral).text := by decide +kernel
  exact absurd (outside _ allowed) (by decide +kernel)

/-- A url that passes the whole check leads outside, unless its host is overlooked. -/
theorem validateRemoteMediaUrl_outside {url : MediaUrl} {contentType : String} {named : UrlHost} (known : url.host = some named)
    (valid : validateRemoteMediaUrl url contentType = .ok ()) (spelled : isOverlooked named = false) :
    leadsToInternal named = false := by
  have text : url.hostStr.getD "" = named.text := by
    rw [Url.hostStr, known]
    rfl
  simp only [validateRemoteMediaUrl, unit_bind_eq_ok, ensure_eq_ok, text] at valid
  obtain ⟨-, allowed, -⟩ := valid
  cases named with
  | domain name => exact (outside_domain name).mpr spelled allowed
  | ipv4 address => exact (outside_ipv4 address).mpr spelled allowed
  | ipv6 literal => exact (outside_ipv6 literal).mpr spelled allowed

end Hosts

end DataMax.Ingest
