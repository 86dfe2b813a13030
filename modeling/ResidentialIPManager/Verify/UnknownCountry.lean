import ResidentialIPManager.Source.VPNGate
import ResidentialIPManager.Verify.Exit

/-! # Nodes whose country is not known

A row without a country code gets the placeholder `XX`, and a classification whose record
has no country keeps it. The comparison of the exit takes the placeholder for a country:
every exit that reports another one is refused.
-/
namespace ResidentialIPManager.Verify
open Text Domain Source Classify

def recordOn (answer : Except GoString (List IpApiRecord)) (n : VpnNode) : Option IpApiRecord :=
  match answer with
  | .error _ => none
  | .ok records => (recordFor records n.ip).filter fun record => record.status = lit "success"

/-- The node after any number of classifications whose records for it have no country. -/
inductive ClassifiedWithoutCountry (node : VpnNode) : VpnNode → Prop
  | unclassified : ClassifiedWithoutCountry node node
  | classified {n : VpnNode} (answer : Except GoString (List IpApiRecord)) (now : Time) :
      ClassifiedWithoutCountry node n →
      (∀ record, recordOn answer n = some record → trimSpace record.countryCode = []) →
      ClassifiedWithoutCountry node (regrade answer now n)

/-- The exit has no AS number, or none that contradicts the node's. -/
def AsnAgrees (node : VpnNode) (result : Result) : Prop :=
  asnNumber result.asn = [] ∨ asnNumber node.asn = [] ∨ asnNumber node.asn = asnNumber result.asn

/-- Without a country in the record the country of the node stays. -/
theorem countryCode_regrade {answer : Except GoString (List IpApiRecord)} {n : VpnNode}
    (h : ∀ record, recordOn answer n = some record → trimSpace record.countryCode = [])
    (now : Time) : (regrade answer now n).countryCode = n.countryCode := by
  cases answer with
  | error err => rfl
  | ok records =>
    simp only [regrade, gradeNode]
    cases hrecord : recordFor records n.ip with
    | none => rfl
    | some record =>
      by_cases hstatus : record.status = lit "success"
      · have hnone := h record (by simp [recordOn, hrecord, hstatus])
        simp [hstatus, gradeRecord, withRecord, valueOr, hnone]
      · simp [hstatus, gradeMissing]

theorem ClassifiedWithoutCountry.countryCode {node n : VpnNode}
    (h : ClassifiedWithoutCountry node n) : n.countryCode = node.countryCode := by
  induction h with
  | unclassified => rfl
  | classified answer now _ hrecord ih => rw [countryCode_regrade hrecord, ih]

theorem countryCode_rowToNode {row : List GoString} {index : GoString → Option Nat}
    {node : VpnNode} (h : rowToNode row index = some node)
    (hcountry : columnValue row index (lit "CountryShort") = []) :
    node.countryCode = lit "XX" := by
  obtain ⟨ip, decoded, -, rfl⟩ := rowToNode_accepted h
  simp [acceptedNode, hcountry, toUpper, countryOrUnknown]

/-- The exit of a node without a country passes exactly if it reports no country either, or
the placeholder. -/
theorem unknown_country_passes_iff {row : List GoString} {index : GoString → Option Nat}
    {node n : VpnNode} {result : Result} (hrow : rowToNode row index = some node)
    (hcountry : columnValue row index (lit "CountryShort") = [])
    (hn : ClassifiedWithoutCountry node n)
    (hflags : result.proxy = false ∧ result.hosting = false ∧ result.mobile = false)
    (hasn : AsnAgrees n result) :
    (compare n result).1 = true ↔
      result.countryCode = [] ∨ equalFold (lit "XX") result.countryCode = true := by
  have hcode : n.countryCode = lit "XX" := hn.countryCode.trans (countryCode_rowToNode hrow hcountry)
  have hasn' : asnReasons n result = [] := by
    rw [asnReasons_eq_nil]
    rcases hasn with h | h | h
    · exact .inr (.inl h)
    · exact .inl h
    · exact .inr (.inr h)
  have hne : lit "XX" ≠ [] := by decide
  rw [compare_passes_iff, flagReasons_eq_nil, countryReasons_eq_nil, hcode]
  simp [hflags, hasn', hne]

def bareRow : List GoString := [lit "1.1.1.1", lit "cHJvdG8gdGNwCnJlbW90ZSAxLjEuMS4xIDQ0Mwo="]

def bareIndex : GoString → Option Nat :=
  columnIndex [lit "IP", lit "OpenVPN_ConfigData_Base64"]

theorem bareRow_accepted : (rowToNode bareRow bareIndex).isSome = true := by decide +kernel

theorem unknown_country_passes_bare :
    ∃ node, rowToNode bareRow bareIndex = some node ∧
      columnValue bareRow bareIndex (lit "CountryShort") = [] ∧
      (compare node { passed := false }).1 = true := by
  obtain ⟨node, hnode⟩ := Option.isSome_iff_exists.mp bareRow_accepted
  have hcountry : columnValue bareRow bareIndex (lit "CountryShort") = [] := by decide
  refine ⟨node, hnode, hcountry, ?_⟩
  exact (unknown_country_passes_iff hnode hcountry .unclassified ⟨rfl, rfl, rfl⟩
    (.inl (by decide))).mpr (.inl rfl)

/-- The exit of the bare row reports Japan and is refused. -/
theorem unknown_country_mismatch :
    ¬ ∀ (row : List GoString) (index : GoString → Option Nat) (node n : VpnNode) (result : Result),
      rowToNode row index = some node → columnValue row index (lit "CountryShort") = [] →
      ClassifiedWithoutCountry node n →
      (result.proxy = false ∧ result.hosting = false ∧ result.mobile = false) →
      AsnAgrees n result → (compare n result).1 = true := by
  intro h
  obtain ⟨node, hnode⟩ := Option.isSome_iff_exists.mp bareRow_accepted
  have hcountry : columnValue bareRow bareIndex (lit "CountryShort") = [] := by decide
  have hpass := h bareRow bareIndex node node { passed := false, countryCode := lit "JP" } hnode
    hcountry .unclassified ⟨rfl, rfl, rfl⟩ (.inl (by decide))
  rw [compare_passes_iff, countryReasons_eq_nil, countryCode_rowToNode hnode hcountry] at hpass
  exact absurd hpass.2.1 (by decide)

end ResidentialIPManager.Verify
