import Ariax.Lib.PrefixTable
import Mathlib.Tactic.IntervalCases

/-!
# Classes of destination addresses

The special-purpose tables of the HTTP connector, the class it gives an
address, and the addresses its policy allows. The tables are searched from
the front; `AddressClass` says what the search is for: the class of the
longest listed network, read through an embedded IPv4 address where there is
one.
-/

namespace Ariax

open PrefixRow

inductive HttpAddressClass
  | globalUnicast
  | loopback
  | «private»
  | uniqueLocal
  | carrierGradeNat
  | linkLocal
  | metadata
  | documentation
  | benchmark
  | unspecified
  | multicast
  | reserved
  deriving DecidableEq

abbrev Ipv4Addr := BitVec 32

abbrev Ipv6Addr := BitVec 128

inductive IpAddr
  | v4 (address : Ipv4Addr)
  | v6 (address : Ipv6Addr)
  deriving DecidableEq

/-! ## The generated tables -/

def generatedHttpIpv4Prefixes : List (PrefixRow 32 HttpAddressClass) :=
  [⟨0x00000000, 32, .unspecified⟩,
    ⟨0xa9fea9fe, 32, .metadata⟩,
    ⟨0xc0000008, 32, .reserved⟩,
    ⟨0xc0000009, 32, .globalUnicast⟩,
    ⟨0xc000000a, 32, .globalUnicast⟩,
    ⟨0xc00000aa, 32, .reserved⟩,
    ⟨0xc00000ab, 32, .reserved⟩,
    ⟨0xc0586302, 32, .reserved⟩,
    ⟨0xffffffff, 32, .reserved⟩,
    ⟨0xc0000000, 29, .reserved⟩,
    ⟨0xc0000000, 24, .reserved⟩,
    ⟨0xc0000200, 24, .documentation⟩,
    ⟨0xc01fc400, 24, .globalUnicast⟩,
    ⟨0xc034c100, 24, .globalUnicast⟩,
    ⟨0xc0586300, 24, .reserved⟩,
    ⟨0xc0af3000, 24, .globalUnicast⟩,
    ⟨0xc6336400, 24, .documentation⟩,
    ⟨0xcb007100, 24, .documentation⟩,
    ⟨0xa9fe0000, 16, .linkLocal⟩,
    ⟨0xc0a80000, 16, .private⟩,
    ⟨0xc6120000, 15, .benchmark⟩,
    ⟨0xac100000, 12, .private⟩,
    ⟨0x64400000, 10, .carrierGradeNat⟩,
    ⟨0x00000000, 8, .unspecified⟩,
    ⟨0x0a000000, 8, .private⟩,
    ⟨0x7f000000, 8, .loopback⟩,
    ⟨0xe0000000, 4, .multicast⟩,
    ⟨0xf0000000, 4, .reserved⟩]

def generatedHttpIpv6Prefixes : List (PrefixRow 128 HttpAddressClass) :=
  [⟨0x00000000000000000000000000000000, 128, .unspecified⟩,
    ⟨0x00000000000000000000000000000001, 128, .loopback⟩,
    ⟨0x20010001000000000000000000000001, 128, .globalUnicast⟩,
    ⟨0x20010001000000000000000000000002, 128, .globalUnicast⟩,
    ⟨0x20010001000000000000000000000003, 128, .globalUnicast⟩,
    ⟨0x00000000000000000000000000000000, 96, .reserved⟩,
    ⟨0x00000000000000000000ffff00000000, 96, .reserved⟩,
    ⟨0x0064ff9b000000000000000000000000, 96, .globalUnicast⟩,
    ⟨0x01000000000000000000000000000000, 64, .reserved⟩,
    ⟨0x01000000000000010000000000000000, 64, .reserved⟩,
    ⟨0x0064ff9b000100000000000000000000, 48, .reserved⟩,
    ⟨0x20010002000000000000000000000000, 48, .benchmark⟩,
    ⟨0x20010004011200000000000000000000, 48, .globalUnicast⟩,
    ⟨0x2620004f800000000000000000000000, 48, .globalUnicast⟩,
    ⟨0x20010000000000000000000000000000, 32, .reserved⟩,
    ⟨0x20010003000000000000000000000000, 32, .globalUnicast⟩,
    ⟨0x20010db8000000000000000000000000, 32, .documentation⟩,
    ⟨0x20010010000000000000000000000000, 28, .reserved⟩,
    ⟨0x20010020000000000000000000000000, 28, .globalUnicast⟩,
    ⟨0x20010030000000000000000000000000, 28, .globalUnicast⟩,
    ⟨0x20010000000000000000000000000000, 23, .reserved⟩,
    ⟨0x3fff0000000000000000000000000000, 20, .documentation⟩,
    ⟨0x20020000000000000000000000000000, 16, .reserved⟩,
    ⟨0x5f000000000000000000000000000000, 16, .reserved⟩,
    ⟨0xfe800000000000000000000000000000, 10, .linkLocal⟩,
    ⟨0xff000000000000000000000000000000, 8, .multicast⟩,
    ⟨0xfc000000000000000000000000000000, 7, .uniqueLocal⟩]

/-! ## Classification -/

def classifyIpv4 (address : Ipv4Addr) : HttpAddressClass :=
  (lookup generatedHttpIpv4Prefixes address).elim .globalUnicast (·.kind)

/-- Only the global unicast block is open where nothing is listed. -/
def classifyIpv6 (address : Ipv6Addr) : HttpAddressClass :=
  (lookup generatedHttpIpv6Prefixes address).elim
    (if address &&& (0xe0 <<< 120) = 0x20 <<< 120 then .globalUnicast else .reserved) (·.kind)

/-- One of the eight 16-bit groups of the address, the first being the highest. -/
def Ipv6Addr.segment (address : Ipv6Addr) (index : ℕ) : BitVec 16 :=
  address.extractLsb' (112 - 16 * index) 16

def mappedIpv4 (address : Ipv6Addr) : Option Ipv4Addr :=
  if (∀ index < 5, Ipv6Addr.segment address index = 0) ∧ Ipv6Addr.segment address 5 = 0xffff then
    some ((Ipv6Addr.segment address 6).setWidth 32 <<< 16 |||
      (Ipv6Addr.segment address 7).setWidth 32)
  else none

def classifyHttpAddress : IpAddr → HttpAddressClass
  | .v4 address => classifyIpv4 address
  | .v6 address =>
    match mappedIpv4 address with
    | some mapped => classifyIpv4 mapped
    | none => classifyIpv6 address

/-! ## Policy -/

def maxHttpDestinationAddresses : ℕ := 32

/-- Explicit policy for one HTTP destination admission. The timeout is in nanoseconds. -/
structure HttpDestinationPolicy where
  resolveTimeout : ℕ := 5000000000
  maxAddresses : ℕ := maxHttpDestinationAddresses
  allowLoopback : Bool := false
  allowPrivate : Bool := false
  deriving DecidableEq

def addressAllowed (kind : HttpAddressClass) (policy : HttpDestinationPolicy) : Bool :=
  match kind with
  | .globalUnicast => true
  | .loopback => policy.allowLoopback
  | .private | .uniqueLocal => policy.allowPrivate
  | .carrierGradeNat | .linkLocal | .metadata | .documentation | .benchmark | .unspecified
  | .multicast | .reserved => false

theorem generatedHttpIpv4Prefixes_searchable : PrefixRow.Searchable generatedHttpIpv4Prefixes := by
  constructor <;> decide

theorem generatedHttpIpv6Prefixes_searchable : PrefixRow.Searchable generatedHttpIpv6Prefixes := by
  constructor <;> decide +kernel

/-! ## What an address is, read off the tables without their order -/

/-- The class of an IPv4 address: that of its longest listed network, and
open unless it is listed. -/
inductive Ipv4Class (address : Ipv4Addr) : HttpAddressClass → Prop
  | listed {row} (longest : PrefixRow.Longest generatedHttpIpv4Prefixes address row) :
      Ipv4Class address row.kind
  | unlisted (missing : ∀ row ∈ generatedHttpIpv4Prefixes, ¬row.Covers address) :
      Ipv4Class address .globalUnicast

/-- The address is in `::ffff:0:0/96` and carries the IPv4 address in its low bits. -/
def Ipv6Addr.Maps (address : Ipv6Addr) (embedded : Ipv4Addr) : Prop :=
  address.toNat / 2 ^ 32 = 0xffff ∧ embedded.toNat = address.toNat % 2 ^ 32

/-- The address is in the NAT64 network `64:ff9b::/96` and carries the IPv4
address in its low bits. -/
def Ipv6Addr.Translates (address : Ipv6Addr) (embedded : Ipv4Addr) : Prop :=
  address.toNat / 2 ^ 32 = 0x64ff9b0000000000000000 ∧ embedded.toNat = address.toNat % 2 ^ 32

instance (address : Ipv6Addr) (embedded : Ipv4Addr) : Decidable (address.Translates embedded) :=
  inferInstanceAs (Decidable (_ ∧ _))

/-- The class of an address. An IPv6 address that is not listed has one only
inside `2000::/3`. -/
inductive AddressClass : IpAddr → HttpAddressClass → Prop
  | v4 {address kind} (known : Ipv4Class address kind) : AddressClass (.v4 address) kind
  | embedded {address embedded kind}
      (carried : Ipv6Addr.Maps address embedded ∨ Ipv6Addr.Translates address embedded)
      (known : Ipv4Class embedded kind) : AddressClass (.v6 address) kind
  | listed {address row}
      (plain : ∀ embedded, ¬Ipv6Addr.Maps address embedded ∧ ¬Ipv6Addr.Translates address embedded)
      (longest : PrefixRow.Longest generatedHttpIpv6Prefixes address row) :
      AddressClass (.v6 address) row.kind
  | unlisted {address}
      (plain : ∀ embedded, ¬Ipv6Addr.Maps address embedded ∧ ¬Ipv6Addr.Translates address embedded)
      (missing : ∀ row ∈ generatedHttpIpv6Prefixes, ¬row.Covers address)
      (unicast : address.toNat / 2 ^ 125 = 1) : AddressClass (.v6 address) .globalUnicast

/-- The policy allows an address for its class; an address without one is denied. -/
def HttpDestinationPolicy.Allows (policy : HttpDestinationPolicy) (address : IpAddr) : Prop :=
  ∃ kind, AddressClass address kind ∧ addressAllowed kind policy = true

/-! ## The search finds the class -/

theorem ipv4Class_iff {address : Ipv4Addr} {kind : HttpAddressClass} :
    Ipv4Class address kind ↔ classifyIpv4 address = kind := by
  have searchable := generatedHttpIpv4Prefixes_searchable
  rw [classifyIpv4]
  cases found : lookup generatedHttpIpv4Prefixes address with
  | none =>
    have missing := not_covers_of_lookup searchable found
    constructor
    · rintro (longest | -)
      · exact absurd longest.covers (missing _ longest.listed)
      · rfl
    · rintro rfl
      exact .unlisted missing
  | some row =>
    have first := longest_of_lookup searchable found
    constructor
    · rintro (longest | missing)
      · exact first.kind_eq searchable longest
      · exact absurd first.covers (missing row first.listed)
    · rintro rfl
      exact .listed first

variable (address : Ipv6Addr)

theorem Ipv6Addr.toNat_segment (index : ℕ) :
    (address.segment index).toNat = address.toNat / 2 ^ (112 - 16 * index) % 2 ^ 16 := by
  rw [Ipv6Addr.segment, BitVec.extractLsb'_toNat, Nat.shiftRight_eq_div_pow]

theorem Ipv6Addr.mapped_iff :
    ((∀ index < 5, address.segment index = 0) ∧ address.segment 5 = 0xffff) ↔
      address.toNat / 2 ^ 32 = 0xffff := by
  constructor
  · rintro ⟨zero, ones⟩
    have first : (address.segment 0).toNat = 0 := congrArg BitVec.toNat (zero 0 (by decide))
    have second : (address.segment 1).toNat = 0 := congrArg BitVec.toNat (zero 1 (by decide))
    have third : (address.segment 2).toNat = 0 := congrArg BitVec.toNat (zero 2 (by decide))
    have fourth : (address.segment 3).toNat = 0 := congrArg BitVec.toNat (zero 3 (by decide))
    have fifth : (address.segment 4).toNat = 0 := congrArg BitVec.toNat (zero 4 (by decide))
    have sixth : (address.segment 5).toNat = 0xffff := congrArg BitVec.toNat ones
    rw [toNat_segment] at first second third fourth fifth sixth
    omega
  · intro high
    refine ⟨fun index inside => BitVec.eq_of_toNat_eq ?_, BitVec.eq_of_toNat_eq ?_⟩
    · change (address.segment index).toNat = 0
      rw [toNat_segment]
      interval_cases index <;> omega
    · change (address.segment 5).toNat = 0xffff
      rw [toNat_segment]
      omega

variable {address : Ipv6Addr} {embedded : Ipv4Addr}

theorem mappedIpv4_eq_some : mappedIpv4 address = some embedded ↔ address.Maps embedded := by
  have low : ((address.segment 6).setWidth 32 <<< 16 ||| (address.segment 7).setWidth 32).toNat =
      address.toNat % 2 ^ 32 := by
    have six := address.toNat_segment 6
    have seven := address.toNat_segment 7
    have high : ((address.segment 6).setWidth 32).toNat * 2 ^ 16 < 2 ^ 32 := by
      rw [BitVec.toNat_setWidth]
      omega
    have shifted := toNat_shiftLeft_of_lt high
    rw [toNat_or_of_aligned 16, shifted] <;> simp only [BitVec.toNat_setWidth] at * <;> omega
  rw [mappedIpv4, Ipv6Addr.Maps, ← Ipv6Addr.mapped_iff]
  split
  · rename_i mapped
    rw [Option.some.injEq, ← BitVec.toNat_inj, low]
    exact ⟨fun same => ⟨mapped, same.symm⟩, fun parts => parts.2.symm⟩
  · rename_i other
    exact ⟨fun same => (by cases same), fun parts => absurd parts.1 other⟩

theorem mappedIpv4_eq_none : mappedIpv4 address = none ↔ ∀ embedded, ¬address.Maps embedded := by
  rw [Option.eq_none_iff_forall_ne_some]
  exact forall_congr' fun embedded => not_congr mappedIpv4_eq_some

/-- The bits under the unicast mask are those of `2000::/3`. -/
theorem globalUnicast_iff :
    address &&& (0xe0 <<< 120) = 0x20 <<< 120 ↔ address.toNat / 2 ^ 125 = 1 := by
  have mask : (0xe0 <<< 120 : BitVec 128) = BitVec.allOnes 128 <<< 125 := by decide
  rw [mask, ← BitVec.toNat_inj, toNat_and_allOnes_shiftLeft]
  have network : (0x20 <<< 120 : BitVec 128).toNat = 1 * 2 ^ 125 := by decide
  rw [network]
  exact Nat.mul_left_inj (by decide)

theorem classifyIpv6_of_longest {row : PrefixRow 128 HttpAddressClass}
    (longest : PrefixRow.Longest generatedHttpIpv6Prefixes address row) :
    classifyIpv6 address = row.kind := by
  have searchable := generatedHttpIpv6Prefixes_searchable
  rw [classifyIpv6]
  cases found : lookup generatedHttpIpv6Prefixes address with
  | none =>
    exact absurd longest.covers (not_covers_of_lookup searchable found row longest.listed)
  | some => exact (longest_of_lookup searchable found).kind_eq searchable longest

theorem classifyIpv6_of_missing (missing : ∀ row ∈ generatedHttpIpv6Prefixes, ¬row.Covers address) :
    classifyIpv6 address =
      if address.toNat / 2 ^ 125 = 1 then .globalUnicast else .reserved := by
  have nothing : lookup generatedHttpIpv6Prefixes address = none := by
    cases found : lookup generatedHttpIpv6Prefixes address with
    | none => rfl
    | some row =>
      have first := longest_of_lookup generatedHttpIpv6Prefixes_searchable found
      exact absurd first.covers (missing row first.listed)
  simp only [classifyIpv6, nothing, Option.elim_none, globalUnicast_iff]

/-- No listed address lies in the NAT64 network, which is itself listed as open. -/
theorem classifyIpv6_of_translates (translates : address.Translates embedded) :
    classifyIpv6 address = .globalUnicast := by
  have table : ∀ row ∈ generatedHttpIpv6Prefixes, row.length ≤ 96 ∨
      row.length = 128 ∧ row.network.toNat / 2 ^ 32 ≠ 0x64ff9b0000000000000000 := by
    decide +kernel
  have listed : ⟨0x0064ff9b000000000000000000000000, 96, .globalUnicast⟩ ∈
      generatedHttpIpv6Prefixes := by decide +kernel
  apply classifyIpv6_of_longest ⟨listed, translates.1, _⟩
  intro other member covers
  rcases table other member with short | ⟨full, elsewhere⟩
  · exact short
  · rw [PrefixRow.Covers, full, Nat.sub_self, pow_zero, Nat.div_one, Nat.div_one] at covers
    rw [← covers] at elsewhere
    exact absurd translates.1 elsewhere

/-! ## Allowed addresses -/

/-- The policy allows what a NAT64 address is translated to. -/
def HttpDestinationPolicy.AllowsTranslated (policy : HttpDestinationPolicy) : IpAddr → Prop
  | .v4 _ => True
  | .v6 address => ∀ embedded, address.Translates embedded →
      addressAllowed (classifyIpv4 embedded) policy = true

variable {policy : HttpDestinationPolicy}

theorem allows_v4 {address : Ipv4Addr} :
    policy.Allows (.v4 address) ↔ addressAllowed (classifyIpv4 address) policy = true := by
  constructor
  · rintro ⟨kind, ⟨known⟩, allowed⟩
    rwa [ipv4Class_iff.mp known]
  · intro allowed
    exact ⟨_, .v4 (ipv4Class_iff.mpr rfl), allowed⟩

theorem allows_embedded {address : Ipv6Addr} {embedded : Ipv4Addr}
    (carried : address.Maps embedded ∨ address.Translates embedded) :
    policy.Allows (.v6 address) ↔ addressAllowed (classifyIpv4 embedded) policy = true := by
  -- both networks carry the low bits, so the address embeds nothing else
  have only : ∀ other, address.Maps other ∨ address.Translates other → other = embedded := by
    intro other carries
    apply BitVec.eq_of_toNat_eq
    rw [carries.elim And.right And.right, carried.elim And.right And.right]
  constructor
  · rintro ⟨kind, known, allowed⟩
    cases known with
    | embedded carries known =>
      rw [only _ carries] at known
      rwa [ipv4Class_iff.mp known]
    | listed plain | unlisted plain =>
      exact absurd carried (not_or.mpr (plain embedded))
  · intro allowed
    exact ⟨_, .embedded carried (ipv4Class_iff.mpr rfl), allowed⟩

theorem allows_plain {address : Ipv6Addr}
    (plain : ∀ embedded, ¬address.Maps embedded ∧ ¬address.Translates embedded) :
    policy.Allows (.v6 address) ↔ addressAllowed (classifyIpv6 address) policy = true := by
  constructor
  · rintro ⟨kind, known, allowed⟩
    cases known with
    | embedded carries => exact absurd carries (not_or.mpr (plain _))
    | listed _ longest => rwa [classifyIpv6_of_longest longest]
    | unlisted _ missing unicast => rwa [classifyIpv6_of_missing missing, if_pos unicast]
  · intro allowed
    by_cases covered : ∃ row, PrefixRow.Longest generatedHttpIpv6Prefixes address row
    · obtain ⟨row, longest⟩ := covered
      rw [classifyIpv6_of_longest longest] at allowed
      exact ⟨_, .listed plain longest, allowed⟩
    · have missing : ∀ row ∈ generatedHttpIpv6Prefixes, ¬row.Covers address := by
        cases found : lookup generatedHttpIpv6Prefixes address with
        | none => exact not_covers_of_lookup generatedHttpIpv6Prefixes_searchable found
        | some row =>
          exact absurd ⟨row, longest_of_lookup generatedHttpIpv6Prefixes_searchable found⟩ covered
      rw [classifyIpv6_of_missing missing] at allowed
      split at allowed
      · exact ⟨_, .unlisted plain missing ‹_›, allowed⟩
      · cases allowed

/-- The connector admits every address the policy allows, and besides them
only NAT64 addresses. -/
theorem allows_iff {address : IpAddr} : policy.Allows address ↔
    addressAllowed (classifyHttpAddress address) policy = true ∧
      policy.AllowsTranslated address := by
  cases address with
  | v4 => exact allows_v4.trans (and_iff_left trivial).symm
  | v6 address =>
    rw [classifyHttpAddress]
    cases mapped : mappedIpv4 address with
    | some =>
      have maps := mappedIpv4_eq_some.mp mapped
      rw [allows_embedded (.inl maps)]
      refine (and_iff_left ?_).symm
      intro other translates
      exact absurd (maps.1.symm.trans translates.1) (by decide)
    | none =>
      have unmapped := mappedIpv4_eq_none.mp mapped
      by_cases translated : ∃ embedded, address.Translates embedded
      · obtain ⟨embedded, translates⟩ := translated
        rw [classifyIpv6_of_translates translates, allows_embedded (.inr translates)]
        constructor
        · intro allowed
          refine ⟨rfl, fun other carries => ?_⟩
          rwa [BitVec.eq_of_toNat_eq (carries.2.trans translates.2.symm)]
        · rintro ⟨-, allowed⟩
          exact allowed embedded translates
      · have plain := fun embedded =>
          And.intro (unmapped embedded) (not_exists.mp translated embedded)
        rw [allows_plain plain]
        refine (and_iff_left ?_).symm
        intro other translates
        exact absurd ⟨other, translates⟩ translated

end Ariax
