import ResidentialIPManager.Storage.Files
import ResidentialIPManager.Storage.State
import ResidentialIPManager.Transition.Calls

/-! # Saving the state

Concurrent sections that change the state and call `saveLocked` under the lock, `setSnapshot`
calls, and `persist` calls, which copy the state under the lock and save the copy after it
is released. `Save` truncates the temporary file, writes it and renames it; each step may
fail. The JSON encoding is a parameter.
-/
namespace ResidentialIPManager.Web.Persistence
open Text Domain Transition Files

inductive FileName where
  | state
  | tmp
  deriving DecidableEq, Repr

structure Shared where
  nodes : NodeCache
  snapshot : ConnectionSnapshot
  locked : Bool := false
  disk : Disk FileName

/-- A call, by what it is about to do; in `Save` it remembers whether it holds the lock. -/
inductive Call where
  | persist
  | change
  | setSnapshot
  | truncate (locked : Bool) (nodes : NodeCache) (snapshot : ConnectionSnapshot)
  | write (locked : Bool) (file : Nat) (data : Contents)
  | rename (locked : Bool)
  | returned

/-- The state that a section stores, the time that `Save` reads, or a failure; a failed
write may have written a part. -/
inductive Input where
  | go
  | change (nodes : NodeCache) (snapshot : ConnectionSnapshot)
  | snapshot (snapshot : ConnectionSnapshot)
  | now (now : Time)
  | error
  | short (written : Nat)

inductive Event where
  | called (nodes : NodeCache) (snapshot : ConnectionSnapshot)
  | failed

abbrev Store := Pool Shared Call Event
abbrev Result := Outcome Shared Call Event

def unlock (locked : Bool) (s : Shared) : Shared :=
  if locked then { s with locked := false } else s

section Model

variable (encode : Storage.State → Time → Contents)

def fileOf (nodes : NodeCache) (snapshot : ConnectionSnapshot) (now : Time) : Contents :=
  encode (Storage.save nodes snapshot) now ++ [10]

def sectionStep (s : Shared) (t : Call) (input : Input) : Option Result :=
  match t, input with
  | .persist, .go =>
    if s.locked then none
    else some { shared := s, thread := .truncate false s.nodes s.snapshot,
                events := [.called s.nodes s.snapshot] }
  | .change, .change nodes snapshot =>
    if s.locked then none
    else some { shared := { s with nodes := nodes, snapshot := snapshot, locked := true },
                thread := .truncate true nodes snapshot, events := [.called nodes snapshot] }
  | .setSnapshot, .snapshot snapshot =>
    if s.locked then none
    else some { shared := { s with snapshot := snapshot }, thread := .returned }
  | .truncate locked nodes snapshot, .now now =>
    some { shared := { s with disk := (s.disk.create .tmp).1 },
           thread := .write locked (s.disk.create .tmp).2 (fileOf encode nodes snapshot now) }
  | .truncate locked _ _, .error =>
    some { shared := unlock locked s, thread := .returned, events := [.failed] }
  | .write locked file data, .go =>
    some { shared := { s with disk := s.disk.write file data }, thread := .rename locked }
  | .write locked file data, .short written =>
    some { shared := unlock locked { s with disk := s.disk.write file (data.take written) },
           thread := .returned, events := [.failed] }
  | .rename locked, .go =>
    match s.disk.rename .tmp .state with
    | some disk =>
      some { shared := unlock locked { s with disk := disk }, thread := .returned }
    | none => some { shared := unlock locked s, thread := .returned, events := [.failed] }
  | .rename locked, .error =>
    some { shared := unlock locked s, thread := .returned, events := [.failed] }
  | _, _ => none

def Call.entry : Call → Bool
  | .persist => true
  | .change => true
  | .setSnapshot => true
  | _ => false

def step : Store → CallAction Call Input → Option Store :=
  Pool.callStep Call.entry (sectionStep encode)

/-- The server starts from what an earlier `Save` left. -/
def start (file : Option (NodeCache × ConnectionSnapshot × Time)) : Store :=
  match file with
  | none =>
    { shared := { nodes := (Storage.load none).nodes, snapshot := (Storage.load none).snapshot,
                  disk := .blank }
      threads := []
      history := [] }
  | some (nodes, snapshot, now) =>
    let state := Storage.load (some (Storage.save nodes snapshot))
    { shared := { nodes := state.nodes, snapshot := state.snapshot,
                  disk := .single .state (fileOf encode nodes snapshot now) }
      threads := []
      history := [.called nodes snapshot] }

/-- The state file is absent or a complete encoding of what was passed to `Save`. -/
def Whole (w : Store) : Prop :=
  ∀ data, w.shared.disk.read .state = some data → ∃ nodes snapshot now,
    .called nodes snapshot ∈ w.history ∧ data = fileOf encode nodes snapshot now

def Call.saving : Call → Bool
  | .truncate _ _ _ => true
  | .write _ _ _ => true
  | .rename _ => true
  | _ => false

def Event.isFailure : Event → Bool
  | .failed => true
  | .called _ _ => false

/-- The file, absent for an empty list, has the list in memory. -/
def Current (s : Shared) : Prop :=
  match s.disk.read .state with
  | none => s.nodes.nodes = []
  | some data => ∃ snapshot now, data = fileOf encode s.nodes snapshot now

/-- When all calls of `Save` have completed without error, the file is current. -/
def UpToDate (w : Store) : Prop :=
  (∀ t ∈ w.threads, t.saving = false) → (∀ e ∈ w.history, e.isFailure = false) →
    Current encode w.shared

end Model

def Call.savingCopy : Call → Bool
  | .truncate locked _ _ => !locked
  | .write locked _ _ => !locked
  | .rename locked => !locked
  | _ => false

def Call.begins : Call → Bool
  | .persist => true
  | .change => true
  | _ => false

/-- No state is copied or changed for a `Save` while a `persist` saves its copy. -/
def serial (w : Store) : CallAction Call Input → Bool
  | .call _ => true
  | .run tid _ =>
    !(w.threads[tid]?.any Call.begins) || w.threads.all fun u => !u.savingCopy

def Call.holdsLock : Call → Bool
  | .truncate locked _ _ => locked
  | .write locked _ _ => locked
  | .rename locked => locked
  | _ => false

theorem Call.saving_eq (t : Call) : t.saving = (t.savingCopy || t.holdsLock) := by
  cases t with
  | truncate locked nodes snapshot => cases locked <;> rfl
  | write locked file data => cases locked <;> rfl
  | rename locked => cases locked <;> rfl
  | _ => rfl

section Inversion

variable (encode : Storage.State → Time → Contents) (s : Shared)

inductive Moves : Call → Result → Prop
  | copied (h : s.locked = false) :
      Moves .persist
        { shared := s, thread := .truncate false s.nodes s.snapshot,
          events := [.called s.nodes s.snapshot] }
  | changed (h : s.locked = false) (nodes : NodeCache) (snapshot : ConnectionSnapshot) :
      Moves .change
        { shared := { s with nodes := nodes, snapshot := snapshot, locked := true },
          thread := .truncate true nodes snapshot, events := [.called nodes snapshot] }
  | set (snapshot : ConnectionSnapshot) :
      Moves .setSnapshot { shared := { s with snapshot := snapshot }, thread := .returned }
  | opened (locked : Bool) (nodes : NodeCache) (snapshot : ConnectionSnapshot) (now : Time) :
      Moves (.truncate locked nodes snapshot)
        { shared := { s with disk := (s.disk.create .tmp).1 },
          thread := .write locked (s.disk.create .tmp).2 (fileOf encode nodes snapshot now) }
  | written (locked : Bool) (file : Nat) (data : Contents) :
      Moves (.write locked file data)
        { shared := { s with disk := s.disk.write file data }, thread := .rename locked }
  | renamed (locked : Bool) (disk : Disk FileName) (h : s.disk.rename .tmp .state = some disk) :
      Moves (.rename locked)
        { shared := unlock locked { s with disk := disk }, thread := .returned }
  | cut (locked : Bool) (file : Nat) (data : Contents) (written : Nat) :
      Moves (.write locked file data)
        { shared := unlock locked { s with disk := s.disk.write file (data.take written) },
          thread := .returned, events := [.failed] }
  | failed {t : Call} (locked : Bool) (h : t.saving = true) :
      Moves t { shared := unlock locked s, thread := .returned, events := [.failed] }

variable {encode s}

theorem moves_of_sectionStep {t : Call} {input : Input} {o : Result}
    (h : sectionStep encode s t input = some o) : Moves encode s t o := by
  unfold sectionStep at h
  split at h
  · split_ifs at h with hlocked
    obtain rfl := Option.some.inj h
    exact .copied (Bool.eq_false_of_not_eq_true hlocked)
  · split_ifs at h with hlocked
    obtain rfl := Option.some.inj h
    exact .changed (Bool.eq_false_of_not_eq_true hlocked) _ _
  · split_ifs at h
    obtain rfl := Option.some.inj h
    exact .set _
  · obtain rfl := Option.some.inj h
    exact .opened _ _ _ _
  · obtain rfl := Option.some.inj h
    exact .failed _ rfl
  · obtain rfl := Option.some.inj h
    exact .written _ _ _
  · obtain rfl := Option.some.inj h
    exact .cut _ _ _ _
  · split at h
    · next disk hdisk =>
      obtain rfl := Option.some.inj h
      exact .renamed _ disk hdisk
    · obtain rfl := Option.some.inj h
      exact .failed _ rfl
  · obtain rfl := Option.some.inj h
    exact .failed _ rfl
  · cases h

end Inversion

section Step

variable {encode : Storage.State → Time → Contents} {w : Store} {tid : Nat} {t : Call} {o : Result}

@[simp] theorem unlock_nodes (locked : Bool) (s : Shared) : (unlock locked s).nodes = s.nodes := by
  unfold unlock
  split <;> rfl

@[simp] theorem unlock_disk (locked : Bool) (s : Shared) : (unlock locked s).disk = s.disk := by
  unfold unlock
  split <;> rfl

variable (encode) in
def Saves (s : Shared) (history : List Event) (data : Contents) : Prop :=
  ∃ snapshot now, .called s.nodes snapshot ∈ history ∧ data = fileOf encode s.nodes snapshot now

variable (encode) in
/-- What a call in `Save` relies on: nothing else touches the temporary file or the list. -/
def Call.Sound (s : Shared) (history : List Event) : Call → Prop
  | .truncate _ nodes snapshot => nodes = s.nodes ∧ .called nodes snapshot ∈ history
  | .write _ file data =>
    s.disk.entry .tmp = some file ∧ s.disk.contents file = [] ∧ Saves encode s history data
  | .rename _ =>
    ∃ file, s.disk.entry .tmp = some file ∧ Saves encode s history (s.disk.contents file)
  | _ => True

variable (encode) in
structure Inv (w : Store) : Prop where
  one : Pool.AtMostOne (fun t => t.saving = true) w.threads
  lock : Pool.Each (fun _ t => t.holdsLock = true → w.shared.locked = true) w.threads
  sound : Pool.Each (fun _ t => t.Sound encode w.shared w.history) w.threads
  whole : Whole encode w
  upToDate : UpToDate encode w

theorem Call.Sound.of_not_saving {s : Shared} {history : List Event} (h : t.saving = false) :
    t.Sound encode s history := by
  cases t <;> trivial

theorem Call.holdsLock_of_not_saving (h : t.saving = false) : t.holdsLock = false := by
  rw [Call.saving_eq, Bool.or_eq_false_iff] at h
  exact h.2

/-- When a `Save` begins, no other is under way. -/
theorem Inv.none_saving (h : Inv encode w) {input : Input}
    (hserial : serial w (.run tid input) = true) (htid : w.threads[tid]? = some t)
    (hbegins : t.begins = true) (hlocked : w.shared.locked = false) {j : Nat} {u : Call}
    (hu : w.threads[j]? = some u) : u.saving = false := by
  have hcopy : u.savingCopy = false := by
    simp only [serial, htid, Option.any_some, hbegins, Bool.not_true, Bool.false_or,
      List.all_eq_true] at hserial
    simpa using hserial u (List.mem_of_getElem? hu)
  have hlock : u.holdsLock = false := by
    by_contra hne
    have hheld := h.lock j u hu (Bool.eq_true_of_not_eq_false hne)
    rw [hlocked] at hheld
    cases hheld
  rw [Call.saving_eq, hcopy, hlock]
  rfl

/-- While one call moves, another one in `Save` only sees the snapshot change. -/
theorem Inv.other_saving (h : Inv encode w) {input : Input}
    (hserial : serial w (.run tid input) = true) (htid : w.threads[tid]? = some t)
    (hm : Moves encode w.shared t o) {j : Nat} {u : Call} (hj : j ≠ tid)
    (hu : w.threads[j]? = some u) (hsaving : u.saving = true) :
    ∃ snapshot, o = { shared := { w.shared with snapshot := snapshot }, thread := .returned } := by
  have hbusy : t.saving = false := by
    by_contra hne
    exact hj (h.one j tid u t hu htid hsaving (Bool.eq_true_of_not_eq_false hne))
  have hbegin : t.begins = true → w.shared.locked = false → False := by
    intro hb hl
    rw [h.none_saving hserial htid hb hl hu] at hsaving
    cases hsaving
  cases hm with
  | copied hl => exact (hbegin rfl hl).elim
  | changed hl nodes snapshot => exact (hbegin rfl hl).elim
  | set snapshot => exact ⟨snapshot, rfl⟩
  | failed locked hs => cases hs.symm.trans hbusy
  | _ => cases hbusy

theorem Moves.spawned (hm : Moves encode w.shared t o) : o.spawned = [] := by
  cases hm <;> rfl

theorem Inv.one_after (h : Inv encode w) {input : Input}
    (hserial : serial w (.run tid input) = true) (htid : w.threads[tid]? = some t)
    (hm : Moves encode w.shared t o) :
    Pool.AtMostOne (fun t => t.saving = true) (w.move tid o).threads := by
  refine h.one.move htid ?_ (by simp [hm.spawned])
  intro hself
  cases hm with
  | copied hl =>
    right
    intro j u hu
    simp [h.none_saving hserial htid rfl hl hu]
  | changed hl nodes snapshot =>
    right
    intro j u hu
    simp [h.none_saving hserial htid rfl hl hu]
  | opened locked nodes snapshot now => exact .inl rfl
  | written locked file data => exact .inl rfl
  | _ => cases hself

theorem Inv.lock_after (h : Inv encode w) {input : Input}
    (hserial : serial w (.run tid input) = true) (htid : w.threads[tid]? = some t)
    (hm : Moves encode w.shared t o) :
    Pool.Each (fun _ t => t.holdsLock = true → o.shared.locked = true) (w.move tid o).threads := by
  refine h.lock.move ?_ (fun j u hj hu hold hheld => ?_) (by simp [hm.spawned])
  · intro hself
    cases hm with
    | changed hl nodes snapshot => rfl
    | opened locked nodes snapshot now => exact h.lock tid _ htid hself
    | written locked file data => exact h.lock tid _ htid hself
    | _ => cases hself
  · have hsaving : u.saving = true := by simp [Call.saving_eq, hheld]
    obtain ⟨snapshot, rfl⟩ := h.other_saving hserial htid hm hj hu hsaving
    exact hold hheld

theorem Inv.sound_after (h : Inv encode w) {input : Input}
    (hserial : serial w (.run tid input) = true) (htid : w.threads[tid]? = some t)
    (hm : Moves encode w.shared t o) :
    Pool.Each (fun _ t => t.Sound encode o.shared (o.events ++ w.history))
      (w.move tid o).threads := by
  have ht := h.sound tid t htid
  refine h.sound.move ?_ (fun j u hj hu hold => ?_) (by simp [hm.spawned])
  · cases hm with
    | copied hl => exact ⟨rfl, List.mem_cons_self⟩
    | changed hl nodes snapshot => exact ⟨rfl, List.mem_cons_self⟩
    | opened locked nodes snapshot now =>
      obtain ⟨rfl, hcalled⟩ := ht
      exact ⟨Disk.entry_create_self _ _, Disk.contents_create _ _, snapshot, now, hcalled, rfl⟩
    | written locked file data =>
      obtain ⟨hentry, hempty, hsaves⟩ := ht
      refine ⟨file, hentry, ?_⟩
      rw [Disk.contents_write hempty]
      exact hsaves
    | _ => trivial
  · cases hsaving : u.saving with
    | false => exact .of_not_saving hsaving
    | true =>
      obtain ⟨snapshot, rfl⟩ := h.other_saving hserial htid hm hj hu hsaving
      cases u with
      | truncate locked nodes snapshot => exact hold
      | write locked file data => exact hold
      | rename locked => exact hold
      | _ => cases hsaving

/-- The state file changes only when a written temporary file is renamed. -/
theorem Moves.read_state (hm : Moves encode w.shared t o) (ht : t.Sound encode w.shared w.history) :
    o.shared.disk.read .state = w.shared.disk.read .state ∨
      ∃ locked, t = .rename locked ∧ o.shared.nodes = w.shared.nodes ∧
        ∃ data, o.shared.disk.read .state = some data ∧ Saves encode w.shared w.history data := by
  have hother : ∀ {file}, w.shared.disk.entry .tmp = some file →
      w.shared.disk.entry .state ≠ some file := by
    intro file htmp hstate
    cases w.shared.disk.distinct _ _ _ htmp hstate
  cases hm with
  | opened locked nodes snapshot now => exact .inl (Disk.read_create_of_ne (by decide))
  | written locked file data => exact .inl (Disk.read_write_of_ne (hother ht.1) _)
  | cut locked file data written =>
    left
    rw [unlock_disk]
    exact Disk.read_write_of_ne (hother ht.1) _
  | renamed locked disk hdisk =>
    obtain ⟨file, hentry, hsaves⟩ := ht
    obtain ⟨d, hd, hread⟩ := Disk.read_rename hentry FileName.state
    obtain rfl := Option.some.inj (hd.symm.trans hdisk)
    exact .inr ⟨locked, rfl, by simp, _, by simpa using hread, hsaves⟩
  | failed locked hs => exact .inl (by rw [unlock_disk])
  | _ => exact .inl rfl

theorem Inv.whole_after (h : Inv encode w) (hm : Moves encode w.shared t o)
    (ht : t.Sound encode w.shared w.history) : Whole encode (w.move tid o) := by
  intro data hdata
  rcases hm.read_state ht with hsame | ⟨locked, rfl, -, data', hread, snapshot, now, hcalled, hfile⟩
  · obtain ⟨nodes, snapshot, now, hcalled, hfile⟩ := h.whole data (hsame ▸ hdata)
    exact ⟨nodes, snapshot, now, List.mem_append_right _ hcalled, hfile⟩
  · obtain rfl := Option.some.inj (hread.symm.trans hdata)
    exact ⟨w.shared.nodes, snapshot, now, List.mem_append_right _ hcalled, hfile⟩

theorem Inv.upToDate_after (h : Inv encode w) (htid : w.threads[tid]? = some t)
    (hm : Moves encode w.shared t o) (ht : t.Sound encode w.shared w.history) :
    UpToDate encode (w.move tid o) := by
  intro hdone hok
  have hself := hdone _ (List.mem_of_getElem? (Pool.getElem?_move_self htid))
  have hevents : ∀ e ∈ o.events, e.isFailure = false := fun e he =>
    hok e (List.mem_append_left _ he)
  cases hm with
  | set snapshot =>
    refine h.upToDate (fun u hu => ?_) hok
    obtain ⟨j, hj⟩ := List.mem_iff_getElem?.mp hu
    by_cases heq : j = tid
    · obtain rfl := Option.some.inj (htid.symm.trans (heq ▸ hj))
      rfl
    · exact hdone u (List.mem_of_getElem? (Pool.getElem?_move_other heq hj))
  | renamed locked disk hdisk =>
    obtain ⟨file, hentry, snapshot, now, -, hfile⟩ := ht
    obtain ⟨d, hd, hread⟩ := Disk.read_rename hentry FileName.state
    obtain rfl := Option.some.inj (hd.symm.trans hdisk)
    simp only [Current, Pool.move_shared, unlock_disk, unlock_nodes, hread]
    exact ⟨snapshot, now, hfile⟩
  | cut locked file data written => cases hevents _ List.mem_cons_self
  | failed locked hs => cases hevents _ List.mem_cons_self
  | _ => cases hself

theorem Inv.move (h : Inv encode w) {input : Input}
    (hserial : serial w (.run tid input) = true) (htid : w.threads[tid]? = some t)
    (hm : Moves encode w.shared t o) : Inv encode (w.move tid o) :=
  ⟨h.one_after hserial htid hm, h.lock_after hserial htid hm, h.sound_after hserial htid hm,
    h.whole_after hm (h.sound tid t htid), h.upToDate_after htid hm (h.sound tid t htid)⟩

theorem Inv.call (h : Inv encode w) (hentry : t.entry = true) :
    Inv encode { w with threads := w.threads ++ [t] } := by
  have hidle : t.saving = false := by
    cases t with
    | persist => rfl
    | change => rfl
    | setSnapshot => rfl
    | _ => cases hentry
  exact {
    one := h.one.push (by simp [hidle])
    lock := h.lock.push (by simp [Call.holdsLock_of_not_saving hidle])
    sound := h.sound.push (.of_not_saving hidle)
    whole := h.whole
    upToDate := fun hdone hok =>
      h.upToDate (fun u hu => hdone u (List.mem_append_left _ hu)) hok }

theorem start_threads (file : Option (NodeCache × ConnectionSnapshot × Time)) :
    (start encode file).threads = [] := by
  cases file <;> rfl

theorem Inv.start (file : Option (NodeCache × ConnectionSnapshot × Time)) :
    Inv encode (start encode file) := by
  refine ⟨?_, ?_, ?_, ?_, ?_⟩
  · rw [start_threads]
    exact .nil
  · rw [start_threads]
    exact .nil
  · rw [start_threads]
    exact .nil
  · cases file with
    | none =>
      intro data hdata
      cases hdata
    | some saved =>
      obtain ⟨nodes, snapshot, now⟩ := saved
      intro data hdata
      exact ⟨nodes, snapshot, now, List.mem_cons_self, (Option.some.inj hdata).symm⟩
  · intro _ _
    cases file with
    | none => rfl
    | some saved =>
      obtain ⟨nodes, snapshot, now⟩ := saved
      refine ⟨snapshot, now, ?_⟩
      change fileOf encode nodes snapshot now =
        fileOf encode (Storage.load (some (Storage.save nodes snapshot))).nodes snapshot now
      rw [fileOf, fileOf, Storage.save_load]

end Step

/-- If no state is copied or changed for a `Save` while a `persist` saves its copy, the file
is whole at every step and current when all is saved. -/
theorem state_file_kept (encode : Storage.State → Time → Contents)
    (file : Option (NodeCache × ConnectionSnapshot × Time)) {w : Store}
    (h : Reaches (step encode) (fun w a => serial w a = true) (start encode file) w) :
    Whole encode w ∧ UpToDate encode w := by
  have hinv : Inv encode w :=
    Pool.callStep_invariant h (.start file) (fun _ _ hinv _ hentry => hinv.call hentry)
      fun _ _ _ _ _ hinv hserial htid ho => hinv.move hserial htid (moves_of_sectionStep ho)
  exact ⟨hinv.whole, hinv.upToDate⟩

/-- An encoding that lists the IDs, for runs that are to be evaluated. -/
def encodeIDs (state : Storage.State) (_ : Time) : Contents :=
  (ids state.nodes.nodes).flatMap GoString.bytes

def oneNode : NodeCache :=
  ⟨[{ id := lit "a", protocol := lit "tcp" }], by decide, by decide⟩

theorem fileOf_encodeIDs (nodes : NodeCache) (snapshot : ConnectionSnapshot) (now : Time) :
    fileOf encodeIDs nodes snapshot now = (ids nodes.nodes).flatMap GoString.bytes ++ [10] := by
  simp [fileOf, encodeIDs, Storage.save]

/-- A `persist` and then a change of the list. -/
theorem state_file_kept_one_by_one :
    ∃ w, Reaches (step encodeIDs) (fun w a => serial w a = true) (start encodeIDs none) w ∧
      (w.shared.disk.read .state = some [97, 10] ∧ ids w.shared.nodes.nodes = [lit "a"]) ∧
      Whole encodeIDs w ∧ UpToDate encodeIDs w := by
  have hrun : ∃ w, Reaches (step encodeIDs) (fun w a => serial w a = true)
      (start encodeIDs none) w ∧
      (w.shared.disk.read .state = some [97, 10] ∧ ids w.shared.nodes.nodes = [lit "a"]) :=
    exists_reaches _ _
      [.call .persist, .call .change, .run 0 .go, .run 0 (.now 0), .run 0 .go, .run 0 .go,
        .run 1 (.change oneNode initialSnapshot), .run 1 (.now 1), .run 1 .go, .run 1 .go]
      (by decide +kernel)
  obtain ⟨w, hw, hfacts⟩ := hrun
  exact ⟨w, hw, hfacts, state_file_kept encodeIDs none hw⟩

/-- A `Save` during which nothing else happens. -/
theorem reaches_saved (encode : Storage.State → Time → Contents) {w : Store} {tid : Nat}
    {locked : Bool} {nodes : NodeCache} {snapshot : ConnectionSnapshot}
    (htid : w.threads[tid]? = some (.truncate locked nodes snapshot)) (now : Time) :
    ∃ disk : Disk FileName, disk.read .state = some (fileOf encode nodes snapshot now) ∧
      Reaches (step encode) anyStep w
        { shared := unlock locked { w.shared with disk }
          threads := w.threads.set tid .returned
          history := w.history } := by
  have hlt : tid < w.threads.length := (List.getElem?_eq_some_iff.mp htid).1
  have hentry := w.shared.disk.entry_create_self FileName.tmp
  have hempty := w.shared.disk.contents_create FileName.tmp
  obtain ⟨⟨created, file⟩, hcreated⟩ :
      ∃ opened, w.shared.disk.create FileName.tmp = opened := ⟨_, rfl⟩
  rw [hcreated] at hentry hempty
  obtain ⟨disk, hdisk, hread⟩ := Disk.read_rename
    (d := created.write file (fileOf encode nodes snapshot now)) hentry FileName.state
  rw [Disk.contents_write hempty] at hread
  refine ⟨disk, hread, ?_⟩
  have hopened : Reaches (step encode) anyStep w
      { shared := { w.shared with disk := created }
        threads := w.threads.set tid (.write locked file (fileOf encode nodes snapshot now))
        history := w.history } := by
    refine Reaches.refl.tail (a := .run tid (.now now)) trivial ?_
    simp [step, Pool.callStep, Pool.move, htid, sectionStep, hcreated]
  have hwritten := hopened.tail (a := .run tid .go) trivial
    (u := { shared := { w.shared with
              disk := created.write file (fileOf encode nodes snapshot now) }
            threads := w.threads.set tid (.rename locked)
            history := w.history })
    (by simp [step, Pool.callStep, Pool.move, hlt, sectionStep])
  refine hwritten.tail (a := .run tid .go) trivial ?_
  simp [step, Pool.callStep, Pool.move, hlt, sectionStep, hdisk]

/-- The encoding tells a list with a node from an empty one. -/
def TellsEmpty (encode : Storage.State → Time → Contents) : Prop :=
  ∀ snapshot snapshot' now now',
    fileOf encode (Storage.load none).nodes snapshot now ≠ fileOf encode oneNode snapshot' now'

theorem tellsEmpty_encodeIDs : TellsEmpty encodeIDs := by
  intro snapshot snapshot' now now'
  rw [fileOf_encodeIDs, fileOf_encodeIDs]
  decide

/-- A `persist` renames the temporary file that a `saveLocked` has just truncated; and one
that copied the list before a change saves it after the change was saved. The encoding does not
matter. -/
theorem state_file_torn_and_stale :
    (∀ encode, ∃ w, Reaches (step encode) anyStep (start encode none) w ∧ ¬Whole encode w) ∧
    (∀ encode, TellsEmpty encode →
      ∃ w, Reaches (step encode) anyStep (start encode none) w ∧ ¬UpToDate encode w) ∧
    TellsEmpty encodeIDs := by
  refine ⟨fun encode => ?_, fun encode htells => ?_, tellsEmpty_encodeIDs⟩
  · have hrun : ∃ w, Reaches (step encode) anyStep (start encode none) w ∧
        w.shared.disk.read .state = some [] :=
      ⟨_, Reaches.of_runWhile (l :=
        [.call .persist, .call .change, .run 0 .go, .run 0 (.now 0), .run 0 .go,
          .run 1 (.change oneNode initialSnapshot), .run 1 (.now 1), .run 0 .go]) rfl, rfl⟩
    obtain ⟨w, hw, hread⟩ := hrun
    refine ⟨w, hw, fun hwhole => ?_⟩
    obtain ⟨nodes, snapshot, now, -, hfile⟩ := hwhole _ hread
    exact List.append_ne_nil_of_right_ne_nil _ (List.cons_ne_nil _ _) hfile.symm
  · have hcopied : ∃ w, Reaches (step encode) anyStep (start encode none) w ∧
        w.threads = [.truncate false (Storage.load none).nodes (Storage.load none).snapshot,
          .truncate true oneNode initialSnapshot] ∧
        w.shared.nodes = oneNode ∧ (w.history.all fun e => !e.isFailure) = true :=
      ⟨_, Reaches.of_runWhile (l :=
        [.call .persist, .call .change, .run 0 .go, .run 1 (.change oneNode initialSnapshot)]) rfl,
        rfl, rfl, rfl⟩
    obtain ⟨w, hw, hthreads, hnodes, hok⟩ := hcopied
    have hchange : w.threads[1]? = some (.truncate true oneNode initialSnapshot) := by
      rw [hthreads]
      rfl
    obtain ⟨disk, -, hsaved⟩ := reaches_saved encode hchange 0
    have hpersist : (w.threads.set 1 .returned)[0]? =
        some (.truncate false (Storage.load none).nodes (Storage.load none).snapshot) := by
      rw [hthreads]
      rfl
    obtain ⟨disk', hread, hstale⟩ := reaches_saved encode
      (w := { shared := unlock true { w.shared with disk }
              threads := w.threads.set 1 .returned
              history := w.history }) hpersist 1
    refine ⟨_, (hw.trans hsaved).trans hstale, fun hcurrent => ?_⟩
    have hfile := hcurrent (by simp [hthreads, Call.saving]) (by simpa using hok)
    simp only [Current, unlock, Bool.false_eq_true, if_true, if_false, hread, hnodes] at hfile
    obtain ⟨snapshot, now, hfile⟩ := hfile
    exact htells _ _ _ _ hfile

end ResidentialIPManager.Web.Persistence
