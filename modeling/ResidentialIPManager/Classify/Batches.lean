import ResidentialIPManager.Classify.Residential
import ResidentialIPManager.Sequences.Batches

/-! # Classification in batches

`Classify` asks the intelligence service once for each distinct address, in batches of at
most a hundred, and merges the answers in a map keyed on the echoed address. None of it
shows in the result: every node is graded as if it had been asked for alone. A batch that
fails leaves every node with its grade and score.
-/
namespace ResidentialIPManager.Classify
open Text Domain Sequences

def ipAPIBatchSize : Nat := 100

/-- `fetchIPAPIBatch` at its successive calls within one classification. -/
abbrev Service := Nat → List GoString → Except GoString (List IpApiRecord)

def distinctIPs (nodes : List VpnNode) : List GoString := firsts [] (nodes.map (·.ip))

def batches (nodes : List VpnNode) : List (List GoString) :=
  slices ipAPIBatchSize (distinctIPs nodes)

/-- The loop over the batches: what is sent, and the records or the first error. -/
def fetchIPAPI (service : Service) (nodes : List VpnNode) :
    List (List GoString) × Except GoString (List IpApiRecord) :=
  sendAll service 0 [] (batches nodes)

def StrictClassifier.classify (service : Service) (now : Time) (nodes : List VpnNode) :
    List VpnNode :=
  if nodes = [] then nodes else Classify.classify (fetchIPAPI service nodes).2 now nodes

/-- Every batch is answered with at most one record for each of its addresses, and with
none for others. -/
def WellBehaved (service : Service) (nodes : List VpnNode) : Prop :=
  ∀ i batch records, (batches nodes)[i]? = some batch → service i batch = .ok records →
    (records.map (·.query)).Nodup ∧ ∀ record ∈ records, record.query ∈ batch

def AllSucceed (service : Service) (nodes : List VpnNode) : Prop :=
  ∀ i batch, (batches nodes)[i]? = some batch → ∃ records, service i batch = .ok records

def RecordOf (service : Service) (nodes : List VpnNode) (ip : GoString)
    (record : Option IpApiRecord) : Prop :=
  ∀ r, record = some r ↔ r.query = ip ∧ ∃ i batch records,
    (batches nodes)[i]? = some batch ∧ service i batch = .ok records ∧ r ∈ records

section Requests

variable (nodes : List VpnNode)

theorem mem_distinctIPs {ip : GoString} : ip ∈ distinctIPs nodes ↔ ∃ node ∈ nodes, node.ip = ip := by
  simp [distinctIPs, mem_firsts]

theorem flatten_batches : (batches nodes).flatten = distinctIPs nodes :=
  flatten_slices (by decide) _

theorem nodup_flatten_batches : (batches nodes).flatten.Nodup := by
  rw [flatten_batches]
  exact nodup_firsts [] _

end Requests

section Merging

variable {service : Service} {nodes : List VpnNode} {records : List IpApiRecord}

/-- With one record for each address, the map holds exactly the records. -/
theorem recordFor_eq_some (hunique : ∀ r ∈ records, ∀ r' ∈ records, r.query = r'.query → r = r')
    {ip : GoString} {record : IpApiRecord} :
    recordFor records ip = some record ↔ record ∈ records ∧ record.query = ip := by
  constructor
  · intro h
    have hquery := List.find?_some h
    exact ⟨List.mem_reverse.mp (List.mem_of_find?_eq_some h), by simpa using hquery⟩
  · rintro ⟨hmem, rfl⟩
    have hsome : (recordFor records record.query).isSome = true := by
      simp only [recordFor, List.find?_isSome, List.mem_reverse, decide_eq_true_eq]
      exact ⟨record, hmem, rfl⟩
    obtain ⟨found, hfound⟩ := Option.isSome_iff_exists.mp hsome
    have hquery := List.find?_some hfound
    have hin := List.mem_reverse.mp (List.mem_of_find?_eq_some hfound)
    rw [hfound, hunique found hin record hmem (by simpa using hquery)]

theorem gradeNode_congr {records' : List IpApiRecord} {n : VpnNode} (now : Time)
    (h : recordFor records n.ip = recordFor records' n.ip) :
    gradeNode records now n = gradeNode records' now n := by
  rw [gradeNode, gradeNode, h]

theorem fetchIPAPI_succeeds (hok : AllSucceed service nodes) :
    ∃ records, fetchIPAPI service nodes = (batches nodes, .ok records) ∧
      ∀ r, r ∈ records ↔ ∃ i batch answer, (batches nodes)[i]? = some batch ∧
        service i batch = .ok answer ∧ r ∈ answer := by
  have hchoice : ∀ i, ∃ answer, ∀ batch, (batches nodes)[i]? = some batch →
      service i batch = .ok answer := by
    intro i
    cases hbatch : (batches nodes)[i]? with
    | none => exact ⟨[], fun batch h => by cases h⟩
    | some batch =>
      obtain ⟨answer, hanswer⟩ := hok i batch hbatch
      exact ⟨answer, fun batch' h => Option.some.inj h ▸ hanswer⟩
  choose answer hanswer using hchoice
  have hsend : fetchIPAPI service nodes = _ := sendAll_of_ok fun i batch hbatch => by
    rw [Nat.zero_add]
    exact hanswer i batch hbatch
  refine ⟨_, hsend, fun r => ?_⟩
  rw [List.nil_append, List.mem_flatMap]
  constructor
  · rintro ⟨i, hi, hr⟩
    have hbatch := List.getElem?_eq_getElem (List.mem_range.mp hi)
    exact ⟨i, _, _, hbatch, hanswer i _ hbatch, hr⟩
  · rintro ⟨i, batch, records, hbatch, hrecords, hr⟩
    obtain ⟨hi, -⟩ := List.getElem?_eq_some_iff.mp hbatch
    obtain rfl := Except.ok.inj (hrecords.symm.trans (hanswer i batch hbatch))
    exact ⟨i, List.mem_range.mpr hi, hr⟩

/-- An address is asked for once, so all answers together have one record for it. -/
theorem record_unique (hservice : WellBehaved service nodes)
    (hrecords : ∀ r, r ∈ records ↔ ∃ i batch answer, (batches nodes)[i]? = some batch ∧
      service i batch = .ok answer ∧ r ∈ answer) :
    ∀ r ∈ records, ∀ r' ∈ records, r.query = r'.query → r = r' := by
  intro r hr r' hr' hquery
  obtain ⟨i, batch, answer, hbatch, hanswer, hmem⟩ := (hrecords r).mp hr
  obtain ⟨j, batch', answer', hbatch', hanswer', hmem'⟩ := (hrecords r').mp hr'
  obtain ⟨hnodup, hqueried⟩ := hservice i batch answer hbatch hanswer
  have hasked : r.query ∈ batch' := hquery ▸ (hservice j batch' answer' hbatch' hanswer').2 r' hmem'
  obtain rfl := index_unique (nodup_flatten_batches nodes) hbatch hbatch' (hqueried r hmem) hasked
  obtain rfl := Option.some.inj (hbatch.symm.trans hbatch')
  obtain rfl := Except.ok.inj (hanswer.symm.trans hanswer')
  exact List.inj_on_of_nodup_map hnodup hmem hmem' hquery

end Merging

section Alone

theorem classify_eq_map (service : Service) (now : Time) (nodes : List VpnNode) :
    StrictClassifier.classify service now nodes =
      nodes.map (regrade (fetchIPAPI service nodes).2 now) := by
  unfold StrictClassifier.classify
  split_ifs with hempty
  · rw [hempty]
    rfl
  · rfl

theorem classify_single (record : Option IpApiRecord) (now : Time) (node : VpnNode) :
    StrictClassifier.classify (fun _ _ => .ok record.toList) now [node] =
      [gradeNode record.toList now node] := by
  have hbatches : batches [node] = [[node.ip]] := by
    simp [batches, distinctIPs, firsts, slices, ipAPIBatchSize]
  rw [classify_eq_map, fetchIPAPI, hbatches]
  rfl

theorem recordFor_toList {record : Option IpApiRecord} {ip : GoString}
    (h : ∀ r ∈ record, r.query = ip) : recordFor record.toList ip = record := by
  cases record with
  | none => rfl
  | some r => simp [recordFor, h r rfl]

end Alone

/-- The result when all batches succeed: node by node what a classification of that node
alone gives, with every address asked for once. -/
structure GradedAlone (service : Service) (now : Time) (nodes : List VpnNode) : Prop where
  length : (StrictClassifier.classify service now nodes).length = nodes.length
  entry : ∀ (i : Nat) (node : VpnNode), nodes[i]? = some node →
    ∃ record graded, RecordOf service nodes node.ip record ∧
      (StrictClassifier.classify service now nodes)[i]? = some graded ∧
      StrictClassifier.classify (fun _ _ => .ok record.toList) now [node] = [graded]
  once : (fetchIPAPI service nodes).1.flatten.Nodup
  asked : ∀ ip, ip ∈ (fetchIPAPI service nodes).1.flatten ↔ ∃ node ∈ nodes, node.ip = ip
  bounded : ∀ batch ∈ (fetchIPAPI service nodes).1, batch.length ≤ 100

/-- The result when some batch fails: nothing that grading decides is changed. -/
structure GradesKept (service : Service) (now : Time) (nodes : List VpnNode) : Prop where
  length : (StrictClassifier.classify service now nodes).length = nodes.length
  entry : ∀ (i : Nat) (node : VpnNode), nodes[i]? = some node → ∃ graded,
    (StrictClassifier.classify service now nodes)[i]? = some graded ∧
      graded.purityScore = node.purityScore ∧ graded.country = node.country ∧
      graded.countryCode = node.countryCode ∧ graded.city = node.city ∧ graded.isp = node.isp ∧
      graded.asn = node.asn ∧
      graded.purityGrade = if node.purityGrade = .unset then .candidate else node.purityGrade

section Classifying

variable {service : Service} {nodes : List VpnNode}

theorem gradedAlone (hservice : WellBehaved service nodes) (hok : AllSucceed service nodes)
    (now : Time) : GradedAlone service now nodes := by
  obtain ⟨records, hfetch, hrecords⟩ := fetchIPAPI_succeeds hok
  have hunique := record_unique hservice hrecords
  refine ⟨by rw [classify_eq_map, List.length_map], fun i node hnode => ?_, ?_, fun ip => ?_, ?_⟩
  · have hrecordOf : RecordOf service nodes node.ip (recordFor records node.ip) := by
      intro r
      rw [recordFor_eq_some hunique, hrecords, and_comm]
    refine ⟨recordFor records node.ip, gradeNode records now node, hrecordOf, ?_, ?_⟩
    · rw [classify_eq_map, hfetch, List.getElem?_map, hnode]
      rfl
    · have hquery : ∀ r ∈ recordFor records node.ip, r.query = node.ip :=
        fun r hr => ((hrecordOf r).mp hr).1
      rw [classify_single, gradeNode_congr now (recordFor_toList hquery)]
  · rw [hfetch]
    exact nodup_flatten_batches nodes
  · rw [hfetch, flatten_batches, mem_distinctIPs]
  · rw [hfetch]
    exact fun batch hbatch => (length_of_mem_slices (by decide) hbatch).2

theorem gradesKept (hfail : ¬AllSucceed service nodes) (now : Time) :
    GradesKept service now nodes := by
  obtain ⟨err, herr⟩ : ∃ err, (fetchIPAPI service nodes).2 = .error err := by
    apply sendAll_of_error
    simp only [AllSucceed, not_forall, not_exists] at hfail
    obtain ⟨i, batch, hbatch, hnone⟩ := hfail
    cases hanswer : service i batch with
    | error err => exact ⟨i, batch, err, hbatch, by rw [Nat.zero_add]; exact hanswer⟩
    | ok records => exact absurd hanswer (hnone records)
  refine ⟨by rw [classify_eq_map, List.length_map], fun i node hnode => ?_⟩
  refine ⟨gradeUnavailable err now node, ?_, rfl, rfl, rfl, rfl, rfl, rfl, rfl⟩
  rw [classify_eq_map, herr, List.getElem?_map, hnode]
  rfl

end Classifying

/-- Batching is invisible if all batches succeed, and nothing is graded otherwise. -/
theorem classify_batched {service : Service} {nodes : List VpnNode}
    (hservice : WellBehaved service nodes) (now : Time) :
    (AllSucceed service nodes → GradedAlone service now nodes) ∧
      (¬AllSucceed service nodes → GradesKept service now nodes) :=
  ⟨fun hok => gradedAlone hservice hok now, fun hfail => gradesKept hfail now⟩

def homeService : Service := fun _ batch =>
  .ok ((firsts [] batch).map fun ip => { query := ip, isp := lit "Comcast Cable" })

def sharedAddress : List VpnNode :=
  [{ id := lit "a", ip := lit "1.1.1.1" }, { id := lit "b", ip := lit "8.8.8.8" },
    { id := lit "c", ip := lit "1.1.1.1" }]

theorem classify_batched_shared :
    AllSucceed homeService sharedAddress ∧ GradedAlone homeService 0 sharedAddress := by
  have hservice : WellBehaved homeService sharedAddress := by
    intro i batch records _ hrecords
    obtain rfl := Except.ok.inj hrecords
    constructor
    · rw [List.map_map]
      exact (List.map_id' (firsts [] batch)).symm ▸ nodup_firsts [] batch
    · intro record hrecord
      obtain ⟨ip, hip, rfl⟩ := List.mem_map.mp hrecord
      exact (mem_firsts.mp hip).1
  have hok : AllSucceed homeService sharedAddress := fun i batch _ => ⟨_, rfl⟩
  exact ⟨hok, (classify_batched hservice 0).1 hok⟩

end ResidentialIPManager.Classify
