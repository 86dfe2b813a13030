import ResidentialIPManager.Text.Address

/-! # Host and port, and addresses with zones

`net.SplitHostPort`, with the texts of its errors, and `netip.ParseAddr`, which accepts
what `net.ParseIP` accepts and IPv6 addresses with a zone besides.
-/
namespace ResidentialIPManager.Text

/-- `bytealg.LastIndexByteString`, counted in runes. -/
def lastIndex (r : Rune) (s : GoString) : Option Nat :=
  (s.reverse.idxOf? r).map fun i => s.length - 1 - i

def addrError (addr why : GoString) : GoString :=
  if addr = [] then why else lit "address " ++ addr ++ lit ": " ++ why

/-- The checks after the host is found: no bracket from `j` and `k` on. The port starts
after the colon at `i`. -/
def finishHostPort (hostport host : GoString) (i j k : Nat) :
    Except GoString (GoString × GoString) :=
  if .scalar '[' ∈ hostport.drop j then
    .error (addrError hostport (lit "unexpected '[' in address"))
  else if .scalar ']' ∈ hostport.drop k then
    .error (addrError hostport (lit "unexpected ']' in address"))
  else .ok (host, hostport.drop (i + 1))

def splitHostPort (hostport : GoString) : Except GoString (GoString × GoString) :=
  match lastIndex (.scalar ':') hostport with
  | none => .error (addrError hostport (lit "missing port in address"))
  | some i =>
    if hostport.head? = some (.scalar '[') then
      match hostport.idxOf? (.scalar ']') with
      | none => .error (addrError hostport (lit "missing ']' in address"))
      | some last =>
        if last + 1 = hostport.length then
          .error (addrError hostport (lit "missing port in address"))
        else if last + 1 = i then
          finishHostPort hostport ((hostport.take last).drop 1) i 1 (last + 1)
        else if hostport[last + 1]? = some (.scalar ':') then
          .error (addrError hostport (lit "too many colons in address"))
        else .error (addrError hostport (lit "missing port in address"))
    else if .scalar ':' ∈ hostport.take i then
      .error (addrError hostport (lit "too many colons in address"))
    else finishHostPort hostport (hostport.take i) i 0 0

structure Addr where
  ip : IP
  is4 : Bool
  zone : GoString := []
  deriving DecidableEq

def parseAddr (s : GoString) : Option Addr :=
  match s.find? (fun r => r = .scalar '.' ∨ r = .scalar ':' ∨ r = .scalar '%') with
  | some (.scalar '.') =>
    ((parseIPv4 s).bind fun g => IP.ofGroups ([0, 0, 0, 0, 0, 65535] ++ g)).map
      fun ip => ⟨ip, true, []⟩
  | some (.scalar ':') =>
    let zone := (s.dropWhile (· ≠ .scalar '%')).drop 1
    if s.contains (.scalar '%') ∧ zone = [] then none
    else
      ((parseIPv6 (s.takeWhile (· ≠ .scalar '%'))).bind IP.ofGroups).map fun ip => ⟨ip, false, zone⟩
  | _ => none

/-- An address that `net.ParseIP` accepts has no zone, and `netip.ParseAddr` accepts it. -/
theorem parseAddr_of_parseIP {s : GoString} {ip : IP} (h : parseIP s = some ip) :
    ∃ addr, parseAddr s = some addr ∧ addr.ip = ip := by
  unfold parseIP at h
  split at h
  · next hmark =>
    refine ⟨⟨ip, true, []⟩, ?_, rfl⟩
    simp only [parseAddr, hmark, h, Option.map_some]
  · next hmark =>
    split_ifs at h with hzone
    have hno : ∀ r ∈ s, r ≠ .scalar '%' := by
      intro r hr heq
      exact hzone (by simpa [heq] using hr)
    have hall : s.takeWhile (fun r => decide (r ≠ .scalar '%')) = s :=
      List.takeWhile_eq_self_iff.mpr fun r hr => decide_eq_true (hno r hr)
    refine ⟨⟨ip, false, (s.dropWhile (· ≠ .scalar '%')).drop 1⟩, ?_, rfl⟩
    simp only [parseAddr, hmark]
    rw [if_neg fun hc => hzone hc.1, hall, h]
    rfl
  · cases h

end ResidentialIPManager.Text
