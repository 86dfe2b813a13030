import ResidentialIPManager.Domain.Models
import ResidentialIPManager.Transition.Calls

/-! # The device

What a user of the tunnel sees of it. `Read` returns the payloads of the data channel through a
buffer, so that a payload comes out in one piece only if the reader's slice is long enough. A
deadline is a channel that is closed when the time has come; the callback of its timer runs on its
own and closes whatever channel is in place then.
-/
namespace ResidentialIPManager.MiniVPN
open Domain Transition

/-! ## Reading -/

namespace Device

structure Reading where
  data : List UInt8
  buffer : List UInt8
  up : List (List UInt8)

/-- `TUN.Read` with a slice of a length, as long as nothing ends it; `none` if it blocks. -/
def read (size : Nat) (buffer : List UInt8) : List (List UInt8) → Option Reading
  | [] =>
    if 0 < (buffer.take size).length then some ⟨buffer.take size, buffer.drop size, []⟩ else none
  | extra :: rest =>
    if 0 < (buffer.take size).length then
      some ⟨buffer.take size, buffer.drop size, extra :: rest⟩
    else read size (buffer ++ extra) rest

/-- At most so many reads, one after the other, until one blocks. -/
def readAll (size : Nat) : Nat → List UInt8 → List (List UInt8) → List (List UInt8)
  | 0, _, _ => []
  | k + 1, buffer, up =>
    match read size buffer up with
    | none => []
    | some r => r.data :: readAll size k r.buffer r.up

/-- The length of the slices of `startBridge`. -/
def packetSize (mtu : Int) : Nat := (max (mtu + 256) 2048).toNat

def pieces (size : Nat) (x : List UInt8) : List (List UInt8) :=
  if 0 < size ∧ x ≠ [] then x.take size :: pieces size (x.drop size) else []
termination_by x.length
decreasing_by
  have hpos := List.length_pos_of_ne_nil (‹0 < size ∧ x ≠ []›).2
  rw [List.length_drop]
  omega

variable {size : Nat}

@[simp] theorem pieces_nil : pieces size [] = [] := by simp [pieces]

theorem pieces_of_ne_nil (hsize : 0 < size) {x : List UInt8} (hx : x ≠ []) :
    pieces size x = x.take size :: pieces size (x.drop size) := by
  rw [pieces, if_pos ⟨hsize, hx⟩]

theorem flatten_pieces (hsize : 0 < size) (x : List UInt8) : (pieces size x).flatten = x := by
  fun_induction pieces size x with
  | case1 x _ ih => rw [List.flatten_cons, ih, List.take_append_drop]
  | case2 x h =>
    have hnil : x = [] := not_not.mp fun hx => h ⟨hsize, hx⟩
    rw [hnil, List.flatten_nil]

theorem mem_pieces {x piece : List UInt8} (h : piece ∈ pieces size x) :
    piece ≠ [] ∧ piece.length ≤ size := by
  fun_induction pieces size x with
  | case1 x hx ih =>
    obtain rfl | hrest := List.mem_cons.mp h
    · refine ⟨?_, List.length_take_le ..⟩
      simpa [List.take_eq_nil_iff, hx.2] using hx.1.ne'
    · exact ih hrest
  | case2 => cases h

theorem pieces_of_le {x : List UInt8} (hsize : 0 < size) (hx : x.length ≤ size) :
    pieces size x = if x = [] then [] else [x] := by
  split_ifs with hnil
  · rw [hnil, pieces_nil]
  · rw [pieces_of_ne_nil hsize hnil, List.take_of_length_le hx, List.drop_of_length_le hx,
      pieces_nil]

theorem flatMap_pieces_of_le (hsize : 0 < size) {up : List (List UInt8)}
    (hup : ∀ x ∈ up, x.length ≤ size) : up.flatMap (pieces size) = up.filter fun x => x ≠ [] := by
  induction up with
  | nil => rfl
  | cons x rest ih =>
    rw [List.flatMap_cons, ih fun y hy => hup y (List.mem_cons_of_mem x hy),
      pieces_of_le hsize (hup x (List.mem_cons_self ..))]
    by_cases hnil : x = [] <;> simp [hnil]

/-- As long as the buffer has something, a read does not look at the channel. -/
theorem read_of_ne_nil (hsize : 0 < size) {buffer : List UInt8} (hbuffer : buffer ≠ [])
    (up : List (List UInt8)) :
    read size buffer up = some ⟨buffer.take size, buffer.drop size, up⟩ := by
  have hpos : 0 < (buffer.take size).length := by
    have hlength := List.length_pos_of_ne_nil hbuffer
    rw [List.length_take]
    omega
  cases up with
  | nil => rw [read, if_pos hpos]
  | cons extra rest => rw [read, if_pos hpos]

theorem read_nil_cons (x : List UInt8) (rest : List (List UInt8)) :
    read size [] (x :: rest) = read size x rest := by
  have hempty : ¬0 < (([] : List UInt8).take size).length := by simp
  rw [read, if_neg hempty, List.nil_append]

/-- The reads return the pieces of what is in the buffer, and then those of each payload. -/
theorem readAll_eq (hsize : 0 < size) (k : Nat) (buffer : List UInt8) (up : List (List UInt8)) :
    readAll size k buffer up = (pieces size buffer ++ up.flatMap (pieces size)).take k := by
  induction k generalizing buffer up with
  | zero => simp [readAll]
  | succ k ih =>
    have hbuffered : ∀ buffer ≠ [], ∀ up, readAll size (k + 1) buffer up =
        (pieces size buffer ++ up.flatMap (pieces size)).take (k + 1) := by
      intro buffer hbuffer up
      rw [readAll, read_of_ne_nil hsize hbuffer, pieces_of_ne_nil hsize hbuffer]
      simp only [ih, List.cons_append, List.take_succ_cons]
    -- empty payloads are passed over until the buffer has something
    induction up generalizing buffer with
    | nil =>
      by_cases hbuffer : buffer = []
      · simp [hbuffer, readAll, read]
      · exact hbuffered buffer hbuffer []
    | cons x rest ihup =>
      by_cases hbuffer : buffer = []
      · have hnext : readAll size (k + 1) [] (x :: rest) = readAll size (k + 1) x rest := by
          simp only [readAll, read_nil_cons]
        rw [hbuffer, hnext, ihup x, pieces_nil, List.nil_append, List.flatMap_cons]
      · exact hbuffered buffer hbuffer (x :: rest)

theorem packetSize_pos (mtu : Int) : 0 < packetSize mtu := by
  unfold packetSize
  omega

end Device

/-- The bridge reads the payloads of the data channel in pieces that fit its slice. The pieces of a
payload make it up and have nothing of another one. They are the payloads themselves, apart from
empty ones, exactly if none of them is longer than the slice. -/
theorem bridge_reads_packets_iff (mtu : Int) (up : List (List UInt8)) :
    (∀ k, Device.readAll (Device.packetSize mtu) k [] up =
      (up.flatMap (Device.pieces (Device.packetSize mtu))).take k) ∧
    (∀ x, (Device.pieces (Device.packetSize mtu) x).flatten = x ∧
      ∀ piece ∈ Device.pieces (Device.packetSize mtu) x,
        piece ≠ [] ∧ piece.length ≤ Device.packetSize mtu) ∧
    ((∀ k, Device.readAll (Device.packetSize mtu) k [] up = (up.filter fun x => x ≠ []).take k) ↔
      ∀ x ∈ up, x.length ≤ Device.packetSize mtu) := by
  have hsize := Device.packetSize_pos mtu
  have hreads : ∀ k, Device.readAll (Device.packetSize mtu) k [] up =
      (up.flatMap (Device.pieces (Device.packetSize mtu))).take k := by
    intro k
    rw [Device.readAll_eq hsize, Device.pieces_nil, List.nil_append]
  refine ⟨hreads, fun x => ⟨Device.flatten_pieces hsize x, fun _ => Device.mem_pieces⟩, ?_⟩
  constructor
  · intro h x hx
    by_cases hnil : x = []
    · simp [hnil]
    · have hread : x ∈ Device.readAll (Device.packetSize mtu)
          (up.filter fun x => x ≠ []).length [] up := by
        rw [h, List.take_length]
        exact List.mem_filter.mpr ⟨hx, by simpa using hnil⟩
      rw [hreads] at hread
      obtain ⟨y, -, hpiece⟩ := List.mem_flatMap.mp (List.mem_of_mem_take hread)
      exact (Device.mem_pieces hpiece).2
  · intro h k
    rw [hreads, Device.flatMap_pieces_of_le hsize h]

/-! ## Deadlines -/

/-- The timer of a deadline: not set, set and not fired, with its callback started, and with its
callback returned. -/
inductive TimerAt where
  | unset
  | pending (due : Time)
  | started
  | returned
  deriving DecidableEq

/-- `Stop` returns false: the callback has been started. -/
def TimerAt.late : TimerAt → Bool
  | .started | .returned => true
  | _ => false

theorem TimerAt.late_iff {timer : TimerAt} :
    timer.late = true ↔ timer = .started ∨ timer = .returned := by
  cases timer <;> simp [late]

/-- A `tunDeadline`. Channels have numbers. -/
structure TUNDeadline where
  now : Time
  timer : TimerAt := .unset
  cancel : Nat := 0
  closed : List Nat := []
  /-- a call of `set` that has the mutex and waits for the callback, with its argument -/
  setting : Option (Option Time) := none
  /-- the channels that `wait` has returned -/
  waits : List Nat := []
  /-- the argument of the last `set`, where a zero time is none -/
  deadline : Option Time := none
  panicked : Bool := false

inductive DeadlineAction where
  | advance (now : Time)
  | set (t : Option Time)
  | resume
  | fire
  | callback
  | wait

namespace TUNDeadline

def close (d : TUNDeadline) : TUNDeadline :=
  if d.cancel ∈ d.closed then { d with panicked := true }
  else { d with closed := d.cancel :: d.closed }

def reopen (d : TUNDeadline) : TUNDeadline :=
  if d.cancel ∈ d.closed then { d with cancel := d.cancel + 1 } else d

/-- `set` behind the wait for the callback. -/
def finishSet (d : TUNDeadline) (t : Option Time) : TUNDeadline :=
  let d := { d with timer := .unset, setting := none, deadline := t }
  match t with
  | none => d.reopen
  | some t =>
    if d.now < t then { d.reopen with timer := .pending t }
    else if d.cancel ∈ d.closed then d
    else d.close

def step (d : TUNDeadline) : DeadlineAction → Option TUNDeadline
  | .advance now => if d.now ≤ now then some { d with now } else none
  | .set t =>
    if d.setting = none then
      if d.timer.late = true then some { d with setting := some t } else some (d.finishSet t)
    else none
  | .resume =>
    match d.setting with
    | some t => if d.cancel ∈ d.closed then some (d.finishSet t) else none
    | none => none
  | .fire =>
    match d.timer with
    | .pending due => if due ≤ d.now then some { d with timer := .started } else none
    | _ => none
  | .callback => if d.timer = .started then some { d.close with timer := .returned } else none
  | .wait => if d.setting = none then some { d with waits := d.waits ++ [d.cancel] } else none

/-- What happens without a caller: a timer fires, its callback runs, and a call of `set` that has
waited for it goes on. -/
def unattended (_ : TUNDeadline) : DeadlineAction → Prop
  | .fire | .callback | .resume => True
  | _ => False

/-- The timer and the channel in place agree with the deadline. -/
inductive Keeps (now : Time) (closed : Prop) : TimerAt → Option Time → Prop
  | unlimited (hopen : ¬closed) : Keeps now closed .unset none
  | passed (t : Time) (hle : t ≤ now) (hclosed : closed) : Keeps now closed .unset (some t)
  | pending (t : Time) (hopen : ¬closed) : Keeps now closed (.pending t) (some t)
  | started (t : Time) (hle : t ≤ now) (hopen : ¬closed) : Keeps now closed .started (some t)
  | returned (t : Time) (hle : t ≤ now) (hclosed : closed) : Keeps now closed .returned (some t)

structure Sound (d : TUNDeadline) : Prop where
  alive : d.panicked = false
  fresh : ∀ i ∈ d.closed, i ≤ d.cancel
  waits : ∀ i ∈ d.waits, i = d.cancel ∨ i ∈ d.closed
  keeps : Keeps d.now (d.cancel ∈ d.closed) d.timer d.deadline
  setting : d.setting ≠ none → d.timer.late = true

section Keeps
variable {now : Time} {closed : Prop} {timer : TimerAt} {deadline : Option Time}
namespace Keeps

theorem later (h : Keeps now closed timer deadline) {then_ : Time} (hle : now ≤ then_) :
    Keeps then_ closed timer deadline := by
  cases h with
  | unlimited hopen => exact .unlimited hopen
  | passed t ht hclosed => exact .passed t (ht.trans hle) hclosed
  | pending t hopen => exact .pending t hopen
  | started t ht hopen => exact .started t (ht.trans hle) hopen
  | returned t ht hclosed => exact .returned t (ht.trans hle) hclosed

theorem due (h : Keeps now closed timer deadline) (hclosed : closed) :
    ∃ t, deadline = some t ∧ t ≤ now := by
  cases h with
  | passed t ht _ => exact ⟨t, rfl, ht⟩
  | returned t ht _ => exact ⟨t, rfl, ht⟩
  | unlimited hopen => exact absurd hclosed hopen
  | pending t hopen => exact absurd hclosed hopen
  | started t _ hopen => exact absurd hclosed hopen

theorem of_pending {due : Time} (h : Keeps now closed timer deadline)
    (htimer : timer = .pending due) : deadline = some due ∧ ¬closed := by
  subst htimer
  cases h with
  | pending _ hopen => exact ⟨rfl, hopen⟩

theorem of_started (h : Keeps now closed timer deadline) (htimer : timer = .started) :
    ∃ t, deadline = some t ∧ t ≤ now ∧ ¬closed := by
  subst htimer
  cases h with
  | started t hle hopen => exact ⟨t, rfl, hle, hopen⟩

theorem of_returned (h : Keeps now closed timer deadline) (htimer : timer = .returned) :
    closed := by
  subst htimer
  cases h with
  | returned _ _ hclosed => exact hclosed

theorem of_unset {t : Time} (h : Keeps now closed timer deadline) (htimer : timer = .unset)
    (hdeadline : deadline = some t) : closed := by
  subst htimer hdeadline
  cases h with
  | passed _ _ hclosed => exact hclosed

end Keeps
end Keeps

variable {d e : TUNDeadline}

/-- A channel is replaced only when it is closed, so that nobody is left waiting for it. -/
theorem reopen_eq (hfresh : ∀ i ∈ d.closed, i ≤ d.cancel)
    (hwaits : ∀ i ∈ d.waits, i = d.cancel ∨ i ∈ d.closed) :
    ∃ cancel, d.reopen = { d with cancel } ∧ cancel ∉ d.closed ∧
      (∀ i ∈ d.closed, i ≤ cancel) ∧ ∀ i ∈ d.waits, i = cancel ∨ i ∈ d.closed := by
  unfold reopen
  split_ifs with hclosed
  · refine ⟨d.cancel + 1, rfl, fun hmem => ?_, fun i hi => ?_, fun i hi => .inr ?_⟩
    · exact absurd (hfresh _ hmem) (Nat.not_succ_le_self _)
    · exact (hfresh i hi).trans (Nat.le_succ _)
    · obtain rfl | hi := hwaits i hi
      · exact hclosed
      · exact hi
  · exact ⟨d.cancel, rfl, hclosed, hfresh, hwaits⟩

/-- The channel in place is closed only once, and then whoever waits for it is told. -/
theorem close_eq (hopen : d.cancel ∉ d.closed) (hfresh : ∀ i ∈ d.closed, i ≤ d.cancel)
    (hwaits : ∀ i ∈ d.waits, i = d.cancel ∨ i ∈ d.closed) :
    ∃ closed, d.close = { d with closed } ∧ d.cancel ∈ closed ∧
      (∀ i ∈ closed, i ≤ d.cancel) ∧ ∀ i ∈ d.waits, i = d.cancel ∨ i ∈ closed := by
  rw [close, if_neg hopen]
  refine ⟨d.cancel :: d.closed, rfl, List.mem_cons_self .., ?_, fun i hi => ?_⟩
  · exact List.forall_mem_cons.mpr ⟨le_rfl, hfresh⟩
  · exact (hwaits i hi).imp_right (List.mem_cons_of_mem _)

theorem finishSet_setting (d : TUNDeadline) (t : Option Time) :
    (d.finishSet t).setting = none := by
  unfold finishSet reopen close
  cases t with
  | none =>
    dsimp only
    split_ifs <;> rfl
  | some t =>
    dsimp only
    split_ifs <;> rfl

namespace Sound

theorem finishSet (hd : d.Sound) (t : Option Time) : (d.finishSet t).Sound := by
  obtain ⟨halive, hfresh, hwaits, -, -⟩ := hd
  unfold TUNDeadline.finishSet
  cases t with
  | none =>
    obtain ⟨cancel, heq, hopen, hfresh', hwaits'⟩ :=
      reopen_eq (d := { d with timer := .unset, setting := none, deadline := none }) hfresh hwaits
    dsimp only
    rw [heq]
    exact ⟨halive, hfresh', hwaits', .unlimited hopen, fun h => absurd rfl h⟩
  | some t =>
    dsimp only
    split_ifs with hfuture hclosed
    · obtain ⟨cancel, heq, hopen, hfresh', hwaits'⟩ :=
        reopen_eq (d := { d with timer := .unset, setting := none, deadline := some t })
          hfresh hwaits
      rw [heq]
      exact ⟨halive, hfresh', hwaits', .pending t hopen, fun h => absurd rfl h⟩
    · exact ⟨halive, hfresh, hwaits, .passed t (not_lt.mp hfuture) hclosed,
        fun h => absurd rfl h⟩
    · obtain ⟨closed, heq, hmem, hfresh', hwaits'⟩ :=
        close_eq (d := { d with timer := .unset, setting := none, deadline := some t })
          hclosed hfresh hwaits
      rw [heq]
      exact ⟨halive, hfresh', hwaits', .passed t (not_lt.mp hfuture) hmem, fun h => absurd rfl h⟩

theorem next (hd : d.Sound) {a : DeadlineAction} (h : d.step a = some e) : e.Sound := by
  have hkeeps := hd.keeps
  cases a with
  | advance now =>
    simp only [step, Option.ite_none_right_eq_some, Option.some.injEq] at h
    obtain ⟨hle, rfl⟩ := h
    exact ⟨hd.alive, hd.fresh, hd.waits, hkeeps.later hle, hd.setting⟩
  | set t =>
    simp only [step, Option.ite_none_right_eq_some] at h
    obtain ⟨-, h⟩ := h
    split_ifs at h with hlate
    · obtain rfl := Option.some.inj h
      exact ⟨hd.alive, hd.fresh, hd.waits, hkeeps, fun _ => hlate⟩
    · exact Option.some.inj h ▸ hd.finishSet t
  | resume =>
    cases hsetting : d.setting with
    | none => simp [step, hsetting] at h
    | some t =>
      simp only [step, hsetting, Option.ite_none_right_eq_some, Option.some.injEq] at h
      exact h.2 ▸ hd.finishSet t
  | fire =>
    cases htimer : d.timer with
    | pending due =>
      simp only [step, htimer, Option.ite_none_right_eq_some, Option.some.injEq] at h
      obtain ⟨hdue, rfl⟩ := h
      obtain ⟨hdeadline, hopen⟩ := hkeeps.of_pending htimer
      exact ⟨hd.alive, hd.fresh, hd.waits, hdeadline ▸ .started due hdue hopen, fun _ => rfl⟩
    | unset => simp [step, htimer] at h
    | started => simp [step, htimer] at h
    | returned => simp [step, htimer] at h
  | callback =>
    simp only [step, Option.ite_none_right_eq_some, Option.some.injEq] at h
    obtain ⟨htimer, rfl⟩ := h
    obtain ⟨t, hdeadline, hle, hopen⟩ := hkeeps.of_started htimer
    obtain ⟨closed, heq, hmem, hfresh, hwaits⟩ := close_eq hopen hd.fresh hd.waits
    rw [heq]
    exact ⟨hd.alive, hfresh, hwaits, hdeadline ▸ .returned t hle hmem, fun _ => rfl⟩
  | wait =>
    simp only [step, Option.ite_none_right_eq_some, Option.some.injEq] at h
    obtain ⟨-, rfl⟩ := h
    refine ⟨hd.alive, hd.fresh, fun i hi => ?_, hkeeps, hd.setting⟩
    obtain hi | hi := List.mem_append.mp hi
    · exact hd.waits i hi
    · exact .inl (List.mem_singleton.mp hi)

theorem of_reaches {now : Time} {ok : TUNDeadline → DeadlineAction → Prop}
    (h : Reaches step ok { now } d) : d.Sound := by
  refine h.invariant ⟨rfl, ?_, ?_, .unlimited (by simp), fun h => absurd rfl h⟩ ?_
  · simp
  · simp
  · exact fun _ _ _ ht _ hstep => ht.next hstep

theorem reaches_of_started (hd : d.Sound) (htimer : d.timer = .started) {c : TUNDeadline}
    (h : Reaches step unattended c d) :
    Reaches step unattended c
      { d with timer := .returned, closed := d.cancel :: d.closed } := by
  obtain ⟨t, -, -, hopen⟩ := hd.keeps.of_started htimer
  refine h.tail (a := .callback) trivial ?_
  simp [step, htimer, close, hopen]

end Sound

/-- In every interleaving of calls and timers no channel is closed twice. A caller that waits has
the channel in place or one that is closed. The channel in place is closed only when the deadline
has passed; when it has passed the channel gets closed, and a call of `set` that waits for a
callback goes on, without anybody doing anything. -/
theorem deadline_kept {now : Time} (h : Reaches step anyStep { now } d) :
    d.panicked = false ∧ (∀ i ∈ d.waits, i = d.cancel ∨ i ∈ d.closed) ∧
      (d.cancel ∈ d.closed → ∃ t, d.deadline = some t ∧ t ≤ d.now) ∧
      (∀ t, d.deadline = some t → t ≤ d.now →
        ∃ e, Reaches step unattended d e ∧ d.cancel ∈ e.closed) ∧
      (d.setting ≠ none → ∃ e, Reaches step unattended d e ∧ e.setting = none) := by
  have hd := Sound.of_reaches h
  refine ⟨hd.alive, hd.waits, hd.keeps.due, fun t hdeadline hle => ?_, fun hsetting => ?_⟩
  · cases htimer : d.timer with
    | unset => exact ⟨d, .refl, hd.keeps.of_unset htimer hdeadline⟩
    | returned => exact ⟨d, .refl, hd.keeps.of_returned htimer⟩
    | started => exact ⟨_, hd.reaches_of_started htimer .refl, List.mem_cons_self ..⟩
    | pending due =>
      obtain ⟨hdue, -⟩ := hd.keeps.of_pending htimer
      obtain rfl : t = due := Option.some.inj (hdeadline.symm.trans hdue)
      have hfire : d.step .fire = some { d with timer := .started } := by
        simp [step, htimer, hle]
      have hfired : Reaches step unattended d { d with timer := .started } :=
        Reaches.refl.tail (a := .fire) trivial hfire
      exact ⟨_, (hd.next hfire).reaches_of_started rfl hfired, List.mem_cons_self ..⟩
  · obtain ⟨t, ht⟩ := Option.ne_none_iff_exists'.mp hsetting
    rcases TimerAt.late_iff.mp (hd.setting hsetting) with htimer | htimer
    · refine ⟨finishSet { d with timer := .returned, closed := d.cancel :: d.closed } t,
        (hd.reaches_of_started htimer .refl).tail (a := .resume) trivial ?_, finishSet_setting _ t⟩
      simp [step, ht]
    · have hclosed := hd.keeps.of_returned htimer
      refine ⟨d.finishSet t, Reaches.refl.tail (a := .resume) trivial ?_, finishSet_setting d t⟩
      simp [step, ht, hclosed]

/-- A second `set` that comes when the callback of the first has been started and has not run. -/
theorem deadline_kept_late_set :
    ∃ d, Reaches step anyStep { now := 0 } d ∧ d.setting ≠ none ∧
      ∃ e, Reaches step unattended d e ∧ e.setting = none := by
  have hrun : ∃ d, Reaches step anyStep { now := 0 } d ∧ d.setting ≠ none :=
    exists_reaches _ _ [.set (some 5), .wait, .advance 6, .fire, .set none] (by decide +kernel)
  obtain ⟨d, hd, hsetting⟩ := hrun
  exact ⟨d, hd, hsetting, (deadline_kept hd).2.2.2.2 hsetting⟩

end TUNDeadline

end ResidentialIPManager.MiniVPN
