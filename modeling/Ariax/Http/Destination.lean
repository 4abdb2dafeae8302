import Ariax.Http.NumericHost

/-!
# Admission of an HTTP destination

The two resolving calls of the connector, over what the URI library says of
a text and over the answer of the resolver. Every address of the answer is
canonicalised and classified before any is exposed. What the result promises
is read off `HttpDestinationPolicy.Allows`: it holds of everything admitted
except for NAT64 addresses, whose embedded address is not looked at.
-/

namespace Ariax

open List Option

/-! ## Model -/

structure Authority where
  text : List Char
  host : List Char
  port : Option (BitVec 16)
  deriving DecidableEq

structure Uri where
  scheme : Option (List Char)
  authority : Option Authority
  deriving DecidableEq

inductive SocketAddr
  | v4 (address : Ipv4Addr) (port : BitVec 16)
  | v6 (address : Ipv6Addr) (port : BitVec 16) (flowinfo scopeId : BitVec 32)
  deriving DecidableEq

namespace SocketAddr

def new : IpAddr → BitVec 16 → SocketAddr
  | .v4 address, port => .v4 address port
  | .v6 address, port => .v6 address port 0 0

def ip : SocketAddr → IpAddr
  | .v4 address _ => .v4 address
  | .v6 address _ _ _ => .v6 address

@[simp] theorem ip_new (address : IpAddr) (port : BitVec 16) : (new address port).ip = address := by
  cases address <;> rfl

end SocketAddr

/-- A destination whose numeric peer was admitted and pinned for one attempt. -/
structure ResolvedHttpDestination where
  uri : Uri
  authority : List Char
  addresses : List SocketAddr
  peer : SocketAddr
  deriving DecidableEq

def canonicalizeSocketAddr : SocketAddr → SocketAddr
  | .v6 address port flowinfo scopeId =>
    match mappedIpv4 address with
    | some mapped => .new (.v4 mapped) port
    | none => .v6 address port flowinfo scopeId
  | .v4 address port => .v4 address port

section Calls

variable {ι ρ : Type}

def HttpDestinationPolicy.validate (policy : HttpDestinationPolicy) :
    Except (HttpDestinationError ι ρ) Unit :=
  rejectIf (policy.resolveTimeout = 0 ∨ policy.maxAddresses = 0 ∨
    policy.maxAddresses > maxHttpDestinationAddresses) .invalidPolicy

def validLabel (label : List Char) : Bool :=
  !label.isEmpty && label.length ≤ 63 && label.head? ≠ some '-' && label.getLast? ≠ some '-' &&
    label.all fun byte => byte.isAlphanum || byte = '-' || byte = '_' || byte = '~'

def validateHost (ipv6 : Ipv6Parser) (host : List Char) (bracketed : Bool) :
    Except (HttpDestinationError ι ρ) Unit :=
  if bracketed then rejectIf ((ipv6.parse host).isNone) .invalidHost
  else do
    rejectIf (host.length > 253 ∨ host.any fun c => c.toNat ≥ 128) .invalidHost
    let name := if host.getLast? = some '.' then host.dropLast else host
    rejectIf (name = []) .invalidHost
    rejectIf ((name.splitOn '.').any fun label => !validLabel label) .invalidHost

/-- The loop over the answer: an address that is already admitted is passed
over, and the first one that is denied ends the call. -/
def admitLoop (policy : HttpDestinationPolicy) :
    List SocketAddr → List SocketAddr → Except (HttpDestinationError ι ρ) (List SocketAddr)
  | [], admitted => .ok admitted
  | raw :: rest, admitted =>
    let address := canonicalizeSocketAddr raw
    if admitted.contains address then admitLoop policy rest admitted
    else if admitted.length = policy.maxAddresses then
      .error (.tooManyAddresses policy.maxAddresses)
    else if !addressAllowed (classifyHttpAddress address.ip) policy then
      .error (.addressDenied address.ip (classifyHttpAddress address.ip))
    else admitLoop policy rest (admitted ++ [address])

def admitAddresses (addresses : List SocketAddr) (policy : HttpDestinationPolicy) :
    Except (HttpDestinationError ι ρ) (List SocketAddr) := do
  let admitted ← admitLoop policy addresses []
  rejectIf (admitted = []) .noAddresses
  return admitted

section

variable (authority : Authority)

def Authority.bareHost : List Char :=
  if authority.host.head? = some '[' ∧ authority.host.tail.getLast? = some ']' then
    authority.host.tail.dropLast
  else authority.host

def Authority.bracketed : Bool := authority.host.head? = some '['

/-- Something follows the host that has to be a port. -/
def Authority.explicitPort : Bool :=
  if authority.bracketed then
    authority.host.isPrefixOf authority.text && authority.text.length ≠ authority.host.length
  else (authority.text.drop authority.bareHost.length).head? = some ':'

end

structure UriLibrary where
  uri : List Char → Option Uri
  ipv6 : Ipv6Parser

/-- The parts of the URI that the call needs once they have been checked. -/
structure Target where
  uri : Uri
  authority : Authority
  port : BitVec 16

def checkTarget (library : UriLibrary) (uriText : List Char) (policy : HttpDestinationPolicy) :
    Except (HttpDestinationError ι ρ) Target := do
  policy.validate
  let uri ← okOr (library.uri uriText) .invalidUri
  rejectIf (uri.scheme ≠ some "http".toList ∧ uri.scheme ≠ some "https".toList) .unsupportedScheme
  let authority ← okOr uri.authority .missingAuthority
  rejectIf (authority.text.contains '@') .userInfoForbidden
  rejectIf (authority.bareHost = []) .missingHost
  rejectIf (authority.explicitPort ∧ authority.port = none) .invalidPort
  let port := authority.port.getD (if uri.scheme = some "https".toList then 443 else 80)
  rejectIf (port = 0) .invalidPort
  validateHost library.ipv6 authority.bareHost authority.bracketed
  return { uri, authority, port }

section

variable (library : UriLibrary)
  (lookup : List Char → BitVec 16 → Except (HttpDestinationError ι ρ) (List SocketAddr))

/-- Only a host that is not numeric is looked up. -/
def candidateAddresses (target : Target) : Except (HttpDestinationError ι ρ) (List SocketAddr) := do
  let numeric ← parseNumericHost library.ipv6 target.authority.bareHost target.authority.bracketed
  match numeric with
  | some address => return [SocketAddr.new address target.port]
  | none => lookup target.authority.bareHost target.port

/-- The body the two calls share. Admission never succeeds without an
address, so there is one to pin. -/
def resolveTarget (uriText : List Char) (policy : HttpDestinationPolicy) :
    Except (HttpDestinationError ι ρ) ResolvedHttpDestination := do
  let target ← checkTarget library uriText policy
  let candidates ← candidateAddresses library lookup target
  let addresses ← admitAddresses candidates policy
  let peer ← okOr addresses.head? .noAddresses
  return { uri := target.uri, authority := target.authority.text, addresses, peer }

end

/-- How a bounded lookup of the system resolver ends. -/
inductive SystemLookup (ι : Type)
  | elapsed
  | failed (error : ι)
  | answered (addresses : List SocketAddr)

def SystemLookup.result : SystemLookup ι → Except (HttpDestinationError ι ρ) (List SocketAddr)
  | .elapsed => .error .resolveTimeout
  | .failed error => .error (.resolve error)
  | .answered addresses => .ok addresses

def resolveHttpDestination (library : UriLibrary)
    (system : List Char → BitVec 16 → SystemLookup ι) (uriText : List Char)
    (policy : HttpDestinationPolicy) : Except (HttpDestinationError ι ρ) ResolvedHttpDestination :=
  resolveTarget library (fun host port => (system host port).result) uriText policy

def resolveHttpDestinationWithResolver (library : UriLibrary)
    (resolver : List Char → Except ρ (List IpAddr)) (uriText : List Char)
    (policy : HttpDestinationPolicy) : Except (HttpDestinationError ι ρ) ResolvedHttpDestination :=
  resolveTarget library
    (fun host port => ((resolver host).mapError HttpDestinationError.policyResolver).map
      (map (SocketAddr.new · port)))
    uriText policy

end Calls

/-! ## Admission -/

section Admission

variable {ι ρ : Type} {policy : HttpDestinationPolicy}

theorem allows_canonicalizeSocketAddr (raw : SocketAddr) :
    policy.Allows (canonicalizeSocketAddr raw).ip ↔ policy.Allows raw.ip := by
  cases raw with
  | v4 => rfl
  | v6 address =>
    rw [canonicalizeSocketAddr]
    cases mapped : mappedIpv4 address with
    | none => rfl
    | some =>
      have maps := mappedIpv4_eq_some.mp mapped
      exact allows_v4.trans (allows_embedded (.inl maps)).symm

theorem allowsTranslated_canonicalizeSocketAddr {raw : SocketAddr}
    (allowed : policy.AllowsTranslated raw.ip) :
    policy.AllowsTranslated (canonicalizeSocketAddr raw).ip := by
  cases raw with
  | v4 => exact trivial
  | v6 address =>
    rw [canonicalizeSocketAddr]
    cases mapped : mappedIpv4 address with
    | none => exact allowed
    | some => exact trivial

/-- A loop that ran through has admitted what it started with and the canonical form of every
address it read, all of a class that is allowed. -/
theorem mem_of_admitLoop {candidates admitted result : List SocketAddr}
    (ran : (admitLoop policy candidates admitted : Except (HttpDestinationError ι ρ) _) =
      .ok result) :
    (∀ address, address ∈ result ↔ address ∈ admitted ∨
      ∃ raw ∈ candidates, canonicalizeSocketAddr raw = address) ∧
    ∀ address ∈ result, address ∈ admitted ∨
      addressAllowed (classifyHttpAddress address.ip) policy = true := by
  induction candidates generalizing admitted with
  | nil =>
    obtain rfl := Except.ok.inj ran
    exact ⟨by simp, fun _ => .inl⟩
  | cons raw _ ih =>
    rw [admitLoop] at ran
    by_cases known : admitted.contains (canonicalizeSocketAddr raw) = true
    · -- a duplicate adds nothing and is there already
      rw [if_pos known] at ran
      obtain ⟨origin, allowed⟩ := ih ran
      refine ⟨fun address => (origin address).trans ?_, allowed⟩
      simp only [mem_cons, exists_eq_or_imp]
      refine ⟨Or.imp_right .inr, ?_⟩
      rintro (old | rfl | later)
      · exact .inl old
      · exact .inl (contains_iff_mem.mp known)
      · exact .inr later
    · rw [if_neg known, Except.ite_error_eq_ok, Except.ite_error_eq_ok] at ran
      obtain ⟨-, allowed, ran⟩ := ran
      rw [Bool.not_eq_true', Bool.not_eq_false] at allowed
      obtain ⟨origin, rest⟩ := ih ran
      refine ⟨fun address => (origin address).trans ?_, fun address member => ?_⟩
      · simp only [mem_cons, exists_eq_or_imp, mem_append, not_mem_nil, or_false,
          eq_comm (a := address)]
        exact or_assoc
      · rcases rest address member with old | later
        · rcases mem_append.mp old with old | fresh
          · exact .inl old
          · obtain rfl := mem_singleton.mp fresh
            exact .inr allowed
        · exact .inr later

theorem mem_of_admitAddresses {candidates addresses : List SocketAddr}
    (ran : (admitAddresses candidates policy : Except (HttpDestinationError ι ρ) _) =
      .ok addresses) :
    (∀ address, address ∈ addresses ↔ ∃ raw ∈ candidates, canonicalizeSocketAddr raw = address) ∧
    ∀ address ∈ addresses, addressAllowed (classifyHttpAddress address.ip) policy = true := by
  obtain ⟨admitted, loop, rest⟩ := Except.bind_eq_ok.mp ran
  obtain ⟨-, -, same⟩ := Except.bind_eq_ok.mp rest
  obtain rfl := Except.ok.inj same
  simpa using mem_of_admitLoop loop

end Admission

/-! ## The calls -/

section Resolved

variable {ι ρ : Type} {library : UriLibrary} {uriText : List Char}
  {policy : HttpDestinationPolicy}

theorem checkTarget_eq_ok {target : Target}
    (checked : (checkTarget library uriText policy : Except (HttpDestinationError ι ρ) _) =
      .ok target) :
    library.uri uriText = some target.uri ∧ target.uri.authority = some target.authority := by
  simp only [checkTarget, Except.bind_eq_ok, okOr_eq_ok, Except.pure_eq, Except.ok.injEq] at checked
  obtain ⟨-, -, uri, parsed, -, -, authority, named, -, -, -, -, -, -, -, -, -, -, rfl⟩ := checked
  exact ⟨parsed, named⟩

theorem resolveTarget_eq_ok
    {lookup : List Char → BitVec 16 → Except (HttpDestinationError ι ρ) (List SocketAddr)}
    {destination : ResolvedHttpDestination}
    (resolved : resolveTarget library lookup uriText policy = .ok destination) :
    ∃ (target : Target) (candidates : List SocketAddr),
      (checkTarget library uriText policy : Except (HttpDestinationError ι ρ) _) = .ok target ∧
      candidateAddresses library lookup target = .ok candidates ∧
      (admitAddresses candidates policy : Except (HttpDestinationError ι ρ) _) =
        .ok destination.addresses ∧
      destination.peer ∈ destination.addresses := by
  simp only [resolveTarget, Except.bind_eq_ok, okOr_eq_ok, Except.pure_eq, Except.ok.injEq]
    at resolved
  obtain ⟨target, checked, candidates, found, addresses, admitted, peer, first, rfl⟩ := resolved
  exact ⟨target, candidates, checked, found, admitted, mem_of_head? first⟩

/-- The address is the numeric host of the URI or in the resolver's answer for its host. -/
def Candidate (ι : Type) {ρ : Type} (library : UriLibrary)
    (resolver : List Char → Except ρ (List IpAddr)) (uriText : List Char) (address : IpAddr) :
    Prop :=
  ∃ uri authority, library.uri uriText = some uri ∧ uri.authority = some authority ∧
    ((parseNumericHost library.ipv6 authority.bareHost authority.bracketed :
        Except (HttpDestinationError ι ρ) _) = .ok (some address) ∨
      (parseNumericHost library.ipv6 authority.bareHost authority.bracketed :
        Except (HttpDestinationError ι ρ) _) = .ok none ∧
      ∃ answer, resolver authority.bareHost = .ok answer ∧ address ∈ answer)

theorem candidate_iff {resolver : List Char → Except ρ (List IpAddr)} {target : Target}
    {candidates : List SocketAddr}
    (checked : (checkTarget library uriText policy : Except (HttpDestinationError ι ρ) _) =
      .ok target)
    (found : candidateAddresses library (fun host port =>
      ((resolver host).mapError (HttpDestinationError.policyResolver (ι := ι))).map
        (map (SocketAddr.new · port))) target = .ok candidates) {address : IpAddr} :
    Candidate ι library resolver uriText address ↔ ∃ raw ∈ candidates, raw.ip = address := by
  obtain ⟨parsed, named⟩ := checkTarget_eq_ok checked
  obtain ⟨numeric, read, rest⟩ := Except.bind_eq_ok.mp found
  -- the URI has one authority, so the candidates are those of the target
  have only : Candidate ι library resolver uriText address ↔ numeric = some address ∨
      numeric = none ∧ ∃ answer, resolver target.authority.bareHost = .ok answer ∧
        address ∈ answer := by
    constructor
    · rintro ⟨uri, authority, parsed', named', candidate⟩
      obtain rfl := some.inj (parsed.symm.trans parsed')
      obtain rfl := some.inj (named.symm.trans named')
      rw [read, Except.ok.injEq, Except.ok.injEq] at candidate
      exact candidate
    · intro candidate
      refine ⟨target.uri, target.authority, parsed, named, ?_⟩
      rw [read, Except.ok.injEq, Except.ok.injEq]
      exact candidate
  rw [only]
  cases numeric with
  | some =>
    obtain rfl := Except.ok.inj rest
    simp
  | none =>
    obtain ⟨answer, answered, rfl⟩ := Except.map_eq_ok.mp rest
    rw [Except.mapError_eq_ok] at answered
    simp [answered]

/-- A host in a form of `inet_aton` is never looked up. -/
theorem resolveTarget_of_denotes {uri : Uri} {authority : Authority} {address : Ipv4Addr}
    (parsed : library.uri uriText = some uri) (named : uri.authority = some authority)
    (plain : authority.bracketed = false) (denotes : Denotes authority.bareHost address)
    (lookup : List Char → BitVec 16 → Except (HttpDestinationError ι ρ) (List SocketAddr)) :
    resolveTarget library lookup uriText policy = do
      let target ← checkTarget library uriText policy
      let addresses ← admitAddresses [SocketAddr.new (.v4 address) target.port] policy
      let peer ← okOr addresses.head? .noAddresses
      return { uri := target.uri, authority := target.authority.text, addresses, peer } := by
  rw [resolveTarget]
  cases checked : (checkTarget library uriText policy : Except (HttpDestinationError ι ρ) _) with
  | error => rfl
  | ok target =>
    obtain ⟨parsed', named'⟩ := checkTarget_eq_ok checked
    obtain rfl := some.inj (parsed'.symm.trans parsed)
    obtain rfl := some.inj (named'.symm.trans named)
    have numeric : candidateAddresses library lookup target =
        .ok [SocketAddr.new (.v4 address) target.port] := by
      rw [candidateAddresses, plain, denotes.parseNumericHost]
      rfl
    rw [Except.ok_bind, numeric, Except.ok_bind]
    rfl

end Resolved

/-! ## Fail-closed admission -/

/-- What a successful call returns, and every candidate it looked at, is
allowed by the policy for its class, exactly if the policy allows what each
NAT64 address among the candidates is translated to. A host in a form of
`inet_aton` is read as the address it denotes, whatever a resolver would say. -/
theorem resolved_destination_allowed {ι ρ : Type} (library : UriLibrary)
    (resolver : List Char → Except ρ (List IpAddr)) (uriText : List Char)
    (policy : HttpDestinationPolicy) :
    (∀ destination, (resolveHttpDestinationWithResolver library resolver uriText policy :
        Except (HttpDestinationError ι ρ) _) = .ok destination →
      (((∀ address ∈ destination.addresses, policy.Allows address.ip) ∧
          policy.Allows destination.peer.ip ∧
          ∀ address, Candidate ι library resolver uriText address → policy.Allows address) ↔
        ∀ address, Candidate ι library resolver uriText address →
          policy.AllowsTranslated address)) ∧
    (∀ uri authority address, library.uri uriText = some uri → uri.authority = some authority →
      authority.bracketed = false → Denotes authority.bareHost address →
      (∀ other, (resolveHttpDestinationWithResolver library other uriText policy :
          Except (HttpDestinationError ι ρ) _) =
        resolveHttpDestinationWithResolver library resolver uriText policy) ∧
      ∀ destination, (resolveHttpDestinationWithResolver library resolver uriText policy :
          Except (HttpDestinationError ι ρ) _) = .ok destination →
        ∀ admitted ∈ destination.addresses, admitted.ip = .v4 address) := by
  constructor
  · intro destination resolved
    obtain ⟨target, candidates, checked, found, admitted, pinned⟩ := resolveTarget_eq_ok resolved
    obtain ⟨origin, classified⟩ := mem_of_admitAddresses admitted
    have known := @candidate_iff ι ρ library uriText policy resolver target candidates checked found
    constructor
    · rintro ⟨-, -, every⟩ address candidate
      exact (allows_iff.mp (every address candidate)).2
    · intro translated
      -- a candidate is allowed with its canonical form, which was classified
      have every : ∀ raw ∈ candidates, policy.Allows raw.ip := by
        intro raw member
        have allowed := classified _ ((origin _).mpr ⟨raw, member, rfl⟩)
        have harmless := allowsTranslated_canonicalizeSocketAddr
          (translated raw.ip (known.mpr ⟨raw, member, rfl⟩))
        exact (allows_canonicalizeSocketAddr raw).mp (allows_iff.mpr ⟨allowed, harmless⟩)
      have addresses : ∀ address ∈ destination.addresses, policy.Allows address.ip := by
        intro address member
        obtain ⟨raw, listed, rfl⟩ := (origin address).mp member
        exact (allows_canonicalizeSocketAddr raw).mpr (every raw listed)
      refine ⟨addresses, addresses _ pinned, ?_⟩
      intro address candidate
      obtain ⟨raw, listed, rfl⟩ := known.mp candidate
      exact every raw listed
  · intro uri authority address parsed named plain denotes
    have same := fun lookup =>
      @resolveTarget_of_denotes ι ρ library uriText policy _ _ _ parsed named plain denotes lookup
    refine ⟨fun other => (same _).trans (same _).symm, ?_⟩
    intro destination resolved
    obtain ⟨target, candidates, checked, found, admitted, -⟩ := resolveTarget_eq_ok resolved
    obtain ⟨parsed', named'⟩ := checkTarget_eq_ok checked
    obtain rfl := some.inj (parsed'.symm.trans parsed)
    obtain rfl := some.inj (named'.symm.trans named)
    rw [candidateAddresses, plain, denotes.parseNumericHost] at found
    obtain rfl := Except.ok.inj found
    intro entry member
    obtain ⟨raw, listed, rfl⟩ := ((mem_of_admitAddresses admitted).1 entry).mp member
    obtain rfl := mem_singleton.mp listed
    rfl

namespace DestinationSample

theorem no_ipv6 {text : List Char} {address : Ipv6Addr}
    (parsed : (none : Option Ipv6Addr) = some address) : ':' ∈ text := by
  cases parsed

def library (host : String) : UriLibrary where
  uri _ := some
    { scheme := some "https".toList
      authority := some { text := host.toList, host := host.toList, port := none } }
  ipv6 := { parse := fun _ => none, colon := no_ipv6 }

/-- `64:ff9b::7f00:1`, which a NAT64 gateway translates to `127.0.0.1`. -/
def translated : Ipv6Addr := 0x64ff9b00000000000000007f000001

def resolver (_ : List Char) : Except Unit (List IpAddr) := .ok [.v6 translated]

def call (host : String) (policy : HttpDestinationPolicy) :
    Except (HttpDestinationError Unit Unit) ResolvedHttpDestination :=
  resolveHttpDestinationWithResolver (library host) resolver ("https://" ++ host).toList policy

theorem numeral_hex : Numeral "0x7f".toList 127 :=
  .hexadecimal (.inl rfl) (cons_ne_nil _ _) (all_eq_true.mp rfl)

theorem numeral_one : Numeral "1".toList 1 :=
  .decimal (cons_ne_nil _ _) (all_eq_true.mp rfl) (.inl rfl)

theorem denotes : Denotes "0x7f.1".toList 0x7f000001 := .two numeral_hex numeral_one (by decide)

end DestinationSample

open DestinationSample in
theorem resolved_destination_allowed_numeric :
    ∃ destination, call "0x7f.1" { allowLoopback := true } = .ok destination ∧
      (∀ admitted ∈ destination.addresses, admitted.ip = .v4 0x7f000001) ∧
      HttpDestinationPolicy.Allows { allowLoopback := true } destination.peer.ip := by
  have resolved : call "0x7f.1" { allowLoopback := true } = .ok
      { uri := { scheme := some "https".toList
                 authority := some ⟨"0x7f.1".toList, "0x7f.1".toList, none⟩ }
        authority := "0x7f.1".toList
        addresses := [.v4 0x7f000001 443]
        peer := .v4 0x7f000001 443 } := by rfl
  obtain ⟨allowed, numeric⟩ := @resolved_destination_allowed Unit Unit (library "0x7f.1") resolver
    "https://0x7f.1".toList { allowLoopback := true }
  refine ⟨_, resolved, (numeric _ _ _ rfl rfl rfl denotes).2 _ resolved, ?_⟩
  refine ((allowed _ resolved).mpr ?_).2.1
  rintro address ⟨uri, authority, parsed, named, candidate⟩
  obtain rfl := some.inj parsed
  obtain rfl := some.inj named
  have read := denotes.parseNumericHost (ι := Unit) (ρ := Unit) (library "0x7f.1").ipv6
  rcases candidate with numeric | ⟨looked, -⟩
  · obtain rfl := some.inj (Except.ok.inj (read.symm.trans numeric))
    trivial
  · cases Except.ok.inj (read.symm.trans looked)

open DestinationSample in
/-- The default policy denies loopback, and `127.0.0.1` behind the NAT64
prefix is admitted all the same. -/
theorem nat64_loopback_admitted : (call "example.org" {} = .ok
      { uri := { scheme := some "https".toList
                 authority := some ⟨"example.org".toList, "example.org".toList, none⟩ }
        authority := "example.org".toList
        addresses := [.v6 translated 443 0 0]
        peer := .v6 translated 443 0 0 }) ∧
      AddressClass (.v6 translated) .loopback ∧ addressAllowed .loopback {} = false ∧
      ¬HttpDestinationPolicy.Allows {} (.v6 translated) := by
  have translates : Ipv6Addr.Translates translated 0x7f000001 := by decide
  refine ⟨rfl, .embedded (.inr translates) (ipv4Class_iff.mpr (by decide)), rfl, ?_⟩
  rw [allows_embedded (.inr translates)]
  decide

end Ariax
