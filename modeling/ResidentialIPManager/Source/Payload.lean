import ResidentialIPManager.Source.VPNGate
import ResidentialIPManager.Text.CSV

/-! # From the text of the list to its records

`csvPayload` looks for the header line and keeps what follows it, without blank lines,
comments and the closing mark. Everything that `ParseVPNGateCSV` does depends on the text
only through these lines.
-/
namespace ResidentialIPManager.Source
open Text Domain CSV

/-- A line as a header: without byte order marks and blanks in front, and without `#`. -/
def headerText (line : GoString) : GoString :=
  trimPrefix (line.dropWhile fun r => r = .scalar '\uFEFF' ∨ r = .scalar ' ') (lit "#")

def isHeader (line : GoString) : Bool := hasPrefix (headerText line) (lit "HostName,")

/-- Blank lines, and lines that start with `*` or `#`, are left out. -/
def keptLine (line : GoString) : Bool :=
  let trimmed := trimSpace line
  !(decide (trimmed = []) || hasPrefix trimmed (lit "*") || hasPrefix trimmed (lit "#"))

def payloadLines : List GoString → List GoString
  | [] => []
  | line :: rest =>
    if isHeader line then headerText line :: rest.filter keptLine else payloadLines rest

def csvLines (text : GoString) : List GoString := split '\n' (normalizeNewlines text)

def csvPayload (text : GoString) : GoString := join (lit "\n") (payloadLines (csvLines text))

/-- The first half of `ParseVPNGateCSV`. -/
def readRecords (text : GoString) : Except GoString (List Record) :=
  let payload := csvPayload text
  if payload = [] then .error (lit "vpngate CSV header not found")
  else
    match readAll payload with
    | .error err => .error err.text
    | .ok rows => .ok rows

def parseVPNGateCSV (text : GoString) : Except GoString (List VpnNode) :=
  match readRecords text with
  | .error err => .error err
  | .ok rows => parseRecords rows

theorem mem_csvLines {text line : GoString} (h : line ∈ csvLines text) : .scalar '\n' ∉ line :=
  fun hr => (mem_split h hr).2 rfl

theorem mem_headerText {line : GoString} {r : Rune} (h : r ∈ headerText line) : r ∈ line := by
  unfold headerText trimPrefix at h
  split_ifs at h
  · exact (List.dropWhile_sublist _).subset (List.mem_of_mem_drop h)
  · exact (List.dropWhile_sublist _).subset h

theorem mem_payloadLines {lines : List GoString} {line : GoString} (h : line ∈ payloadLines lines)
    {r : Rune} (hr : r ∈ line) : ∃ source ∈ lines, r ∈ source := by
  induction lines with
  | nil => cases h
  | cons first rest ih =>
    rw [payloadLines] at h
    split_ifs at h
    · rcases List.mem_cons.mp h with rfl | hm
      · exact ⟨first, List.mem_cons_self, mem_headerText hr⟩
      · exact ⟨line, List.mem_cons_of_mem _ (List.mem_of_mem_filter hm), hr⟩
    · obtain ⟨source, hsource, hr⟩ := ih h
      exact ⟨source, List.mem_cons_of_mem _ hsource, hr⟩

theorem csvPayload_ne_nil {text : GoString} (h : payloadLines (csvLines text) ≠ []) :
    csvPayload text ≠ [] := by
  unfold csvPayload
  generalize csvLines text = lines at h ⊢
  induction lines with
  | nil => exact absurd rfl h
  | cons line rest ih =>
    rw [payloadLines] at h ⊢
    split_ifs at h ⊢ with hheader
    · obtain ⟨tail, htail⟩ := List.isPrefixOf_iff_prefix.mp hheader
      rw [← htail]
      cases rest.filter keptLine <;> simp [join, List.intercalate, lit]
    · exact ih h

theorem split_csvPayload {text : GoString} (h : payloadLines (csvLines text) ≠ []) :
    split '\n' (csvPayload text) = payloadLines (csvLines text) := by
  refine List.splitOn_intercalate _ ?_ h
  intro line hline hr
  obtain ⟨source, hsource, hr⟩ := mem_payloadLines hline hr
  exact mem_csvLines hsource hr

theorem readRecords_eq_ok {text : GoString} {rows : List Record} (hrows : rows ≠ []) :
    readRecords text = .ok rows ↔ Complete (payloadLines (csvLines text)) rows := by
  unfold readRecords
  by_cases hpayload : payloadLines (csvLines text) = []
  · have hempty : csvPayload text = [] := by
      rw [csvPayload, hpayload]
      rfl
    rw [if_pos hempty, hpayload]
    constructor
    · intro h
      cases h
    · intro h
      exact absurd (Prod.mk.inj (Except.ok.inj h)).1.symm hrows
  · rw [if_neg (csvPayload_ne_nil hpayload), readAll, split_csvPayload hpayload,
      ← readLines_eq_ok]
    cases readLines (payloadLines (csvLines text)) <;> simp

/-- An accepted text has a header record and rows under it. -/
theorem parseVPNGateCSV_eq_ok {text : GoString} {nodes : List VpnNode} :
    parseVPNGateCSV text = .ok nodes ↔
      ∃ header rows, Complete (payloadLines (csvLines text)) (header :: rows) ∧
        parseRecords (header :: rows) = .ok nodes := by
  unfold parseVPNGateCSV
  constructor
  · intro h
    split at h
    · cases h
    · next rows hread =>
      obtain ⟨header, rest, rfl, -⟩ := parseRecords_ok h
      exact ⟨header, rest, (readRecords_eq_ok (by simp)).mp hread, h⟩
  · rintro ⟨header, rows, hcomplete, hparse⟩
    rw [(readRecords_eq_ok (by simp)).mpr hcomplete]
    exact hparse

theorem parseVPNGateCSV_collected {text : GoString} {header : Record} {rows : List Record}
    (hread : readRecords text = .ok (header :: rows)) (hip : columnIndex header (lit "IP") ≠ none)
    (hconfig : columnIndex header (lit "OpenVPN_ConfigData_Base64") ≠ none)
    (hne : collectNodes (columnIndex header) [] rows ≠ []) :
    parseVPNGateCSV text = .ok (collectNodes (columnIndex header) [] rows) := by
  rw [parseVPNGateCSV, hread]
  exact parseRecords_eq_ok.mpr ⟨hip, hconfig, rfl, hne⟩

/-- A list of one row, whose profile is `proto tcp` and `remote 1.1.1.1 443`. -/
def oneRowLines : List GoString :=
  [lit "HostName,IP,OpenVPN_ConfigData_Base64",
    lit "a,1.1.1.1,cHJvdG8gdGNwCnJlbW90ZSAxLjEuMS4xIDQ0Mwo="]

def oneRowText : GoString := join (lit "\n") oneRowLines

def oneRowTextNodes : List VpnNode :=
  match parseVPNGateCSV oneRowText with
  | .ok nodes => nodes
  | .error _ => []

theorem parseVPNGateCSV_oneRowText : parseVPNGateCSV oneRowText = .ok oneRowTextNodes := by
  have hok : (parseVPNGateCSV oneRowText).toBool = true := by decide +kernel
  unfold oneRowTextNodes
  cases h : parseVPNGateCSV oneRowText with
  | ok nodes => rfl
  | error err => simp [h, Except.toBool] at hok

end ResidentialIPManager.Source
