import Telemt.Foundation.RankedSearch
import Telemt.Handshake.Tls

namespace Telemt.TrafficLimiter
open Telemt.Foundation Telemt.Handshake

/-!
# Choosing the CIDR rule of a client

`apply_policy` reads the configured limits in the order in which the configuration map happens to
list them, so it takes a list here. A lease of a client uses the limits of the rule `match_cidr` finds.
-/

structure RateLimitBps where
  upBps : Nat := 0
  downBps : Nat := 0
  deriving DecidableEq, Repr

structure CidrRule where
  cidr : IpNetwork
  limits : RateLimitBps
  prefixLen : Nat

structure PolicySnapshot where
  cidrRulesV4 : List CidrRule
  cidrRulesV6 : List CidrRule

def RateLimitBps.isUnlimited (limits : RateLimitBps) : Bool := limits.upBps = 0 && limits.downBps = 0

def IpAddr.isV4 : IpAddr → Bool
  | .v4 _ => true
  | .v6 _ => false

def CidrRule.isV4 (rule : CidrRule) : Bool := IpAddr.isV4 rule.cidr.address

def CidrRule.ofEntry (entry : IpNetwork × RateLimitBps) : CidrRule :=
  { cidr := entry.1, limits := entry.2, prefixLen := entry.1.bits }

def applyPolicy (cidrLimits : List (IpNetwork × RateLimitBps)) : PolicySnapshot :=
  let rules := (cidrLimits.filter fun entry => !entry.2.isUnlimited).map CidrRule.ofEntry
  { cidrRulesV4 := byFallingRank CidrRule.prefixLen (rules.filter fun rule => rule.isV4)
    cidrRulesV6 := byFallingRank CidrRule.prefixLen (rules.filter fun rule => !rule.isV4) }

def PolicySnapshot.matchCidr (policy : PolicySnapshot) (ip : IpAddr) : Option CidrRule :=
  match ip with
  | .v4 _ => policy.cidrRulesV4.find? fun rule => rule.cidr.contains ip
  | .v6 _ => policy.cidrRulesV6.find? fun rule => rule.cidr.contains ip

structure Accepted (cidrLimits : List (IpNetwork × RateLimitBps)) : Prop where
  keys : (cidrLimits.map Prod.fst).Nodup
  limited : ∀ entry ∈ cidrLimits, entry.2.isUnlimited = false

theorem Accepted.perm {cidrLimits order : List (IpNetwork × RateLimitBps)} (accepted : Accepted cidrLimits)
    (reordered : order.Perm cidrLimits) : Accepted order where
  keys := (reordered.map Prod.fst).nodup_iff.mpr accepted.keys
  limited entry member := accepted.limited entry (reordered.mem_iff.mp member)

theorem contains_family {network : IpNetwork} {ip : IpAddr} (inside : network.contains ip = true) :
    IpAddr.isV4 network.address = IpAddr.isV4 ip := by
  unfold IpNetwork.contains at inside
  split at inside
  · rename_i base octets equal
    rw [equal]
    rfl
  · rename_i base octets equal
    rw [equal]
    rfl
  · cases inside

variable {cidrLimits : List (IpNetwork × RateLimitBps)} {ip : IpAddr}

def rulesFor (cidrLimits : List (IpNetwork × RateLimitBps)) (ip : IpAddr) : List CidrRule :=
  (cidrLimits.map CidrRule.ofEntry).filter fun rule => rule.isV4 == IpAddr.isV4 ip

theorem matchCidr_eq_bestHit (accepted : Accepted cidrLimits) :
    (applyPolicy cidrLimits).matchCidr ip =
      bestHit CidrRule.prefixLen (fun rule => rule.cidr.contains ip) (rulesFor cidrLimits ip) := by
  have all : (cidrLimits.filter fun entry => !entry.2.isUnlimited) = cidrLimits := by
    apply List.filter_eq_self.mpr
    intro entry member
    rw [accepted.limited entry member]
    rfl
  unfold PolicySnapshot.matchCidr applyPolicy bestHit rulesFor
  rw [all]
  cases ip with
  | v4 octets | v6 octets => simp [IpAddr.isV4]

variable {entry : IpNetwork × RateLimitBps}

theorem mem_rulesFor (member : entry ∈ cidrLimits) (inside : entry.1.contains ip = true) :
    CidrRule.ofEntry entry ∈ rulesFor cidrLimits ip := by
  apply List.mem_filter.mpr
  refine ⟨List.mem_map_of_mem member, ?_⟩
  exact beq_iff_eq.mpr (contains_family inside)

theorem exists_entry_of_mem_rulesFor {rule : CidrRule} (member : rule ∈ rulesFor cidrLimits ip) :
    ∃ entry ∈ cidrLimits, rule = CidrRule.ofEntry entry := by
  obtain ⟨entry, present, rfl⟩ := List.mem_map.mp (List.mem_filter.mp member).1
  exact ⟨entry, present, rfl⟩

def LongestAround (cidrLimits : List (IpNetwork × RateLimitBps)) (ip : IpAddr)
    (entry : IpNetwork × RateLimitBps) : Prop :=
  entry ∈ cidrLimits ∧ entry.1.contains ip = true ∧
    ∀ other ∈ cidrLimits, other.1.contains ip = true → other.1.bits ≤ entry.1.bits

theorem matchCidr_longest (accepted : Accepted cidrLimits) {rule : CidrRule}
    (found : (applyPolicy cidrLimits).matchCidr ip = some rule) :
    ∃ entry, LongestAround cidrLimits ip entry ∧ rule = CidrRule.ofEntry entry := by
  rw [matchCidr_eq_bestHit accepted] at found
  obtain ⟨member, inside, best⟩ := bestHit_spec found
  obtain ⟨entry, present, rfl⟩ := exists_entry_of_mem_rulesFor member
  refine ⟨entry, ⟨present, inside, ?_⟩, rfl⟩
  intro other otherPresent otherInside
  exact best _ (mem_rulesFor otherPresent otherInside) otherInside

theorem matchCidr_isSome (accepted : Accepted cidrLimits) (member : entry ∈ cidrLimits)
    (inside : entry.1.contains ip = true) :
    ∃ rule, (applyPolicy cidrLimits).matchCidr ip = some rule := by
  rw [← Option.isSome_iff_exists, matchCidr_eq_bestHit accepted, ← Option.ne_none_iff_isSome]
  intro missed
  have outside := bestHit_eq_none.mp missed _ (mem_rulesFor member inside)
  rw [show (CidrRule.ofEntry entry).cidr = entry.1 from rfl, inside] at outside
  cases outside

theorem matchCidr_cons (accepted : Accepted (entry :: cidrLimits))
    (longest : LongestAround (entry :: cidrLimits) ip entry) :
    (applyPolicy (entry :: cidrLimits)).matchCidr ip = some (CidrRule.ofEntry entry) := by
  rw [matchCidr_eq_bestHit accepted]
  obtain ⟨_, inside, best⟩ := longest
  have first : rulesFor (entry :: cidrLimits) ip = CidrRule.ofEntry entry :: rulesFor cidrLimits ip := by
    unfold rulesFor
    rw [List.map_cons, List.filter_cons_of_pos]
    exact beq_iff_eq.mpr (contains_family inside)
  rw [first]
  apply bestHit_cons_of_best
  · exact inside
  · intro rule member ruleInside
    obtain ⟨other, present, rfl⟩ := exists_entry_of_mem_rulesFor member
    exact best other (List.mem_cons_of_mem entry present) ruleInside

def limitFor (cidrLimits : List (IpNetwork × RateLimitBps)) (ip : IpAddr) : Option RateLimitBps :=
  ((applyPolicy cidrLimits).matchCidr ip).map CidrRule.limits

def LongestPrefixWins (cidrLimits : List (IpNetwork × RateLimitBps)) (ip : IpAddr) : Prop :=
  ((∃ entry ∈ cidrLimits, entry.1.contains ip = true) →
    ∃ rule entry, (applyPolicy cidrLimits).matchCidr ip = some rule ∧
      LongestAround cidrLimits ip entry ∧ rule = CidrRule.ofEntry entry) ∧
  ∀ order : List (IpNetwork × RateLimitBps), order.Perm cidrLimits →
    limitFor order ip = limitFor cidrLimits ip

theorem LongestAround.perm {order : List (IpNetwork × RateLimitBps)}
    (longest : LongestAround cidrLimits ip entry) (reordered : order.Perm cidrLimits) :
    LongestAround order ip entry := by
  obtain ⟨member, inside, best⟩ := longest
  refine ⟨reordered.mem_iff.mpr member, inside, ?_⟩
  intro other present
  exact best other (reordered.mem_iff.mp present)

theorem limitFor_of_longest (accepted : Accepted cidrLimits)
    (agree : ∀ other, LongestAround cidrLimits ip other → other.2 = entry.2)
    (longest : LongestAround cidrLimits ip entry) : limitFor cidrLimits ip = some entry.2 := by
  obtain ⟨_, found⟩ := matchCidr_isSome accepted longest.1 longest.2.1
  obtain ⟨other, otherLongest, rfl⟩ := matchCidr_longest accepted found
  rw [limitFor, found]
  exact congrArg some (agree other otherLongest)

theorem limitFor_of_outside (accepted : Accepted cidrLimits)
    (outside : ¬∃ entry ∈ cidrLimits, entry.1.contains ip = true) : limitFor cidrLimits ip = none := by
  cases found : (applyPolicy cidrLimits).matchCidr ip with
  | none =>
    rw [limitFor, found]
    rfl
  | some =>
    obtain ⟨entry, longest, _⟩ := matchCidr_longest accepted found
    exact absurd ⟨entry, longest.1, longest.2.1⟩ outside

theorem longest_prefix_wins_iff (cidrLimits : List (IpNetwork × RateLimitBps)) (ip : IpAddr)
    (accepted : Accepted cidrLimits) :
    LongestPrefixWins cidrLimits ip ↔
      ∀ first second, LongestAround cidrLimits ip first → LongestAround cidrLimits ip second →
        first.2 = second.2 := by
  constructor
  · intro wins first second firstLongest secondLongest
    have limit (entry : IpNetwork × RateLimitBps) (longest : LongestAround cidrLimits ip entry) :
        limitFor cidrLimits ip = some entry.2 := by
      have reordered : (entry :: cidrLimits.erase entry).Perm cidrLimits :=
        (List.perm_cons_erase longest.1).symm
      rw [← wins.2 _ reordered, limitFor, matchCidr_cons (accepted.perm reordered) (longest.perm reordered)]
      rfl
    exact Option.some.inj ((limit first firstLongest).symm.trans (limit second secondLongest))
  · intro agree
    refine ⟨?_, ?_⟩
    · rintro ⟨entry, member, inside⟩
      obtain ⟨rule, found⟩ := matchCidr_isSome accepted member inside
      obtain ⟨longest, around, equal⟩ := matchCidr_longest accepted found
      exact ⟨rule, longest, found, around, equal⟩
    · intro order reordered
      by_cases around : ∃ entry ∈ cidrLimits, entry.1.contains ip = true
      · obtain ⟨entry, member, inside⟩ := around
        obtain ⟨_, found⟩ := matchCidr_isSome accepted member inside
        obtain ⟨longest, isLongest, _⟩ := matchCidr_longest accepted found
        rw [limitFor_of_longest accepted (fun other around => agree other longest around isLongest) isLongest]
        apply limitFor_of_longest (accepted.perm reordered) _ (isLongest.perm reordered)
        intro other otherLongest
        exact agree other longest (otherLongest.perm reordered.symm) isLongest
      · rw [limitFor_of_outside accepted around]
        apply limitFor_of_outside (accepted.perm reordered)
        rintro ⟨entry, member, inside⟩
        exact around ⟨entry, reordered.mem_iff.mp member, inside⟩

def nestedRules : List (IpNetwork × RateLimitBps) :=
  [(⟨.ofOctets 10 0 0 0, 8⟩, ⟨1000, 1000⟩), (⟨.ofOctets 10 1 0 7, 16⟩, ⟨200, 0⟩)]

theorem nested_rules_longest_wins : LongestPrefixWins nestedRules (.ofOctets 10 1 2 3) := by
  have accepted : Accepted nestedRules := ⟨by decide, by decide⟩
  apply (longest_prefix_wins_iff nestedRules (.ofOctets 10 1 2 3) accepted).mpr
  have agree : ∀ first ∈ nestedRules, ∀ second ∈ nestedRules,
      (∀ other ∈ nestedRules, other.1.contains (.ofOctets 10 1 2 3) = true → other.1.bits ≤ first.1.bits) →
      (∀ other ∈ nestedRules, other.1.contains (.ofOctets 10 1 2 3) = true → other.1.bits ≤ second.1.bits) →
      first.2 = second.2 := by decide +kernel
  intro first second firstLongest secondLongest
  exact agree first firstLongest.1 second secondLongest.1 firstLongest.2.2 secondLongest.2.2

-- One network written with two host parts: two keys, and the order of the map decides.
def sameNetworkTwice : List (IpNetwork × RateLimitBps) :=
  [(⟨.ofOctets 10 0 0 1, 8⟩, ⟨100, 100⟩), (⟨.ofOctets 10 0 0 2, 8⟩, ⟨200, 200⟩)]

theorem host_bits_leave_limit_to_order :
    Accepted sameNetworkTwice ∧ sameNetworkTwice.reverse.Perm sameNetworkTwice ∧
      limitFor sameNetworkTwice (.ofOctets 10 9 9 9) = some ⟨100, 100⟩ ∧
      limitFor sameNetworkTwice.reverse (.ofOctets 10 9 9 9) = some ⟨200, 200⟩ := by
  refine ⟨⟨by decide, by decide⟩, List.reverse_perm _, ?_, ?_⟩
  · decide +kernel
  · decide +kernel

end Telemt.TrafficLimiter
