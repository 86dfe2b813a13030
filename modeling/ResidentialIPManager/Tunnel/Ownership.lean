import ResidentialIPManager.Tunnel.Callers

/-! # Who owns a session

A session is owned by the `Connect` call that made it, then by the controller, then by the
caller that took it out; that caller closes it. `Call.Sound` says what a call relies on, and
`Steady` and `Undisturbed` what the sections of other calls leave it.
-/
namespace ResidentialIPManager.Tunnel.Ownership
open Text Domain Transition

/-- What a thread relies on. The controller has stored the sessions below `created`; a
session that is made and not stored is the one that a call holds. -/
def Call.Sound (s : Shared) : Call → Prop
  | .handshake _ => s.made = s.controller.created
  | .failed _ => s.made = s.controller.created
  | .holding session => session.id = s.controller.created ∧ s.made = s.controller.created + 1 ∧
      s.close session.id = .uncalled
  | .stored id => id < s.controller.created
  | .watch id => id < s.controller.created
  | .received id _ => id < s.controller.created
  | .closing id _ => id < s.controller.created ∧ current s.controller ≠ some id
  | .inClose id => id < s.controller.created ∧ s.close id ≠ .uncalled
  | .awaitClose id => id < s.controller.created ∧ s.close id ≠ .uncalled
  | _ => True

/-- What every section leaves to the calls that are not between their sections. -/
structure Steady (s s' : Shared) : Prop where
  created : s.controller.created ≤ s'.controller.created
  current : ∀ id < s.controller.created, current s'.controller = some id →
    Ownership.current s.controller = some id
  close : ∀ id, s.close id ≠ .uncalled → s'.close id ≠ .uncalled

/-- What the sections of other calls leave to the one between its sections. -/
structure Undisturbed (s s' : Shared) : Prop where
  made : s'.made = s.made
  created : s'.controller.created = s.controller.created
  close : s'.close s.controller.created = s.close s.controller.created
  connecting : s'.controller.connecting = s.controller.connecting
  session : s.controller.session = none → s'.controller.session = none

section Frame

variable {s s' : Shared} {t : Call} {o : Result}

theorem Call.Sound.steady (h : t.Sound s) (hb : t.between = false) (hs : Steady s s') :
    t.Sound s' := by
  have hlt : ∀ {id}, id < s.controller.created → id < s'.controller.created := fun h =>
    lt_of_lt_of_le h hs.created
  cases t with
  | handshake nodeID => cases hb
  | failed err => cases hb
  | holding session => cases hb
  | stored id => exact hlt h
  | watch id => exact hlt h
  | received id err => exact hlt h
  | closing id removed => exact ⟨hlt h.1, fun hc => h.2 (hs.current id h.1 hc)⟩
  | inClose id => exact ⟨hlt h.1, hs.close id h.2⟩
  | awaitClose id => exact ⟨hlt h.1, hs.close id h.2⟩
  | _ => trivial

theorem Call.Sound.undisturbed (h : t.Sound s) (hb : t.between = true) (hs : Undisturbed s s') :
    t.Sound s' := by
  cases t with
  | handshake nodeID => exact (hs.made.trans h).trans hs.created.symm
  | failed err => exact (hs.made.trans h).trans hs.created.symm
  | holding session =>
    obtain ⟨hid, hmade, hclose⟩ := h
    refine ⟨hid.trans hs.created.symm, ?_, ?_⟩
    · rw [hs.made, hs.created, hmade]
    · rw [hid, hs.close, ← hid, hclose]
  | _ => cases hb

theorem current_watch {c : OpenVPNController} {id : Nat} (h : current c = some id)
    (err : GoString) : current (c.watch id err) = none := by
  rw [current, (watch_own h).1]
  rfl

theorem watch_created (c : OpenVPNController) (id : Nat) (err : GoString) :
    (c.watch id err).created = c.created := by
  unfold OpenVPNController.watch
  split_ifs <;> rfl

theorem watch_connecting (c : OpenVPNController) (id : Nat) (err : GoString) :
    (c.watch id err).connecting = c.connecting := by
  unfold OpenVPNController.watch
  split_ifs <;> rfl

theorem report_controller (s : Shared) (id : Nat) (err : GoString) :
    (report s id err).controller = s.controller ∧ (report s id err).made = s.made ∧
      (report s id err).close = s.close := by
  unfold report
  split <;> exact ⟨rfl, rfl, rfl⟩

theorem Steady.refl (s : Shared) : Steady s s := ⟨le_rfl, fun _ _ h => h, fun _ h => h⟩

/-- The state of `close` of a session moves on, never back. -/
theorem steady_close (s : Shared) (id : Nat) {state : OnceState} (h : state ≠ .uncalled) :
    Steady s { s with close := Function.update s.close id state } := by
  refine ⟨le_rfl, fun _ _ hc => hc, fun j hj => ?_⟩
  by_cases heq : j = id
  · rw [heq]
    simpa using h
  · simpa [Function.update_of_ne heq] using hj

theorem undisturbed_close {s : Shared} {id : Nat} (h : id < s.controller.created)
    (state : OnceState) :
    Undisturbed s { s with close := Function.update s.close id state } :=
  ⟨rfl, rfl, Function.update_of_ne (by omega) _ _, rfl, fun h => h⟩

theorem Moves.steady (hm : Moves s t o) (ht : t.Sound s) : Steady s o.shared := by
  cases hm with
  | begun nodeID c h =>
    obtain ⟨hsession, -, rfl⟩ := OpenVPNController.beginConnect_ok h
    exact ⟨le_rfl, fun _ _ hc => hc, fun _ h => h⟩
  | made nodeID => exact ⟨le_rfl, fun _ _ hc => hc, fun _ h => h⟩
  | reported err => exact ⟨le_rfl, fun _ _ hc => hc, fun _ h => h⟩
  | stored session =>
    refine ⟨Nat.le_succ _, fun id hid hc => ?_, fun _ h => h⟩
    -- the stored session is the newest, so it is none of those below
    have heq : session.id = id := Option.some.inj hc
    have hnew := ht.1
    omega
  | disconnected session h =>
    exact ⟨le_rfl, fun _ _ hc => (nomatch hc), fun _ h => h⟩
  | idle h => exact ⟨le_rfl, fun _ _ hc => (nomatch hc), fun _ h => h⟩
  | bridged id err =>
    obtain ⟨hc, -, hclose⟩ := report_controller s id err
    refine ⟨by rw [hc], fun _ _ h => ?_, fun _ h => ?_⟩
    · rwa [hc] at h
    · rwa [hclose]
  | received id err => exact ⟨le_rfl, fun _ _ hc => hc, fun _ h => h⟩
  | cleared id err h =>
    refine ⟨(watch_created _ _ _).ge, fun _ _ hc => ?_, fun _ h => h⟩
    rw [current_watch h] at hc
    cases hc
  | entered id removed h => exact steady_close s id (by decide)
  | closed id => exact steady_close s id (by decide)
  | _ => exact .refl s

theorem Moves.undisturbed (hm : Moves s t o) (ht : t.Sound s) (hb : t.between = false)
    (hc : s.controller.connecting = true) : Undisturbed s o.shared := by
  have hrefl : Undisturbed s s := ⟨rfl, rfl, rfl, rfl, fun h => h⟩
  cases hm with
  | begun nodeID c h =>
    have hidle := (OpenVPNController.beginConnect_ok h).2.1
    rw [hc] at hidle
    cases hidle
  | failed nodeID err => cases hb
  | made nodeID => cases hb
  | reported err => cases hb
  | stored session => cases hb
  | disconnected session h => exact ⟨rfl, rfl, rfl, rfl, fun _ => rfl⟩
  | idle h => exact ⟨rfl, rfl, rfl, rfl, fun _ => rfl⟩
  | bridged id err =>
    obtain ⟨hcontroller, hmade, hclose⟩ := report_controller s id err
    exact ⟨hmade, by rw [hcontroller], by rw [hclose], by rw [hcontroller],
      fun h => by rwa [hcontroller]⟩
  | received id err => exact ⟨rfl, rfl, rfl, rfl, fun h => h⟩
  | cleared id err h =>
    exact ⟨rfl, watch_created _ _ _, rfl, watch_connecting _ _ _, fun _ => (watch_own h).1⟩
  | entered id removed h => exact undisturbed_close ht.1 _
  | closed id => exact undisturbed_close ht.1 _
  | _ => exact hrefl

end Frame

structure Inv (w : Sessions) : Prop where
  sound : Pool.Each (fun _ t => t.Sound w.shared) w.threads
  connecting : Pool.Each
    (fun _ t => t.between = true → w.shared.controller.connecting = true) w.threads
  between : w.shared.controller.connecting = true →
    Pool.Some (fun t => t.between = true) w.threads
  one : Pool.AtMostOne (fun t => t.between = true) w.threads
  free : w.shared.controller.connecting = true → w.shared.controller.session = none
  idle : w.shared.controller.connecting = false → w.shared.made = w.shared.controller.created
  current : ∀ id, current w.shared.controller = some id →
    id < w.shared.controller.created ∧ w.shared.close id = .uncalled
  fresh : ∀ id, w.shared.controller.created ≤ id → w.shared.close id = .uncalled
  covered : ∀ id < w.shared.controller.created, Ownership.current w.shared.controller = some id ∨
    w.shared.close id ≠ .uncalled ∨ Pool.Some (· = .closing id true) w.threads
  running : ∀ id, w.shared.close id = .running → Pool.Some (· = .inClose id) w.threads
  remover : ∀ id, Pool.AtMostOne (· = .closing id true) w.threads
  stores : ∀ id before, .stored id before ∈ w.history → before = none
  watches : ∀ id cleared, .watchCleared id cleared ∈ w.history → cleared = id

section Step

variable {w : Sessions} {tid : Nat} {t : Call} {o : Result}

theorem Moves.spawned_sound (hm : Moves w.shared t o) (ht : t.Sound w.shared) :
    ∀ u ∈ o.spawned, u.Sound o.shared ∧ u.between = false ∧ ∀ id, u ≠ .closing id true := by
  cases hm with
  | made nodeID =>
    intro u hu
    rw [List.mem_singleton.mp hu]
    exact ⟨trivial, rfl, nofun⟩
  | spawned id =>
    intro u hu
    rw [List.mem_singleton.mp hu]
    exact ⟨ht, rfl, nofun⟩
  | _ => exact nofun

theorem Inv.self_sound (h : Inv w) (hm : Moves w.shared t o) (ht : t.Sound w.shared) :
    o.thread.Sound o.shared := by
  cases hm with
  | begun nodeID c hbegin =>
    obtain ⟨-, hidle, rfl⟩ := OpenVPNController.beginConnect_ok hbegin
    exact h.idle hidle
  | failed nodeID err => exact ht
  | made nodeID =>
    have hmade : w.shared.made = w.shared.controller.created := ht
    exact ⟨hmade, by simp [hmade], h.fresh _ hmade.ge⟩
  | stored session =>
    change session.id < w.shared.controller.created + 1
    have hid := ht.1
    omega
  | disconnected session hsession =>
    exact ⟨(h.current session.id (by simp [Ownership.current, hsession])).1, nofun⟩
  | received id err => exact ht
  | cleared id err hown =>
    refine ⟨?_, ?_⟩
    · rw [watch_created]
      exact ht
    · rw [current_watch hown]
      exact nofun
  | kept id err hother => exact ⟨ht, hother⟩
  | entered id removed hclose => exact ⟨ht.1, by simp⟩
  | awaited id removed hclose => exact ⟨ht.1, by rw [hclose]; decide⟩
  | _ => trivial

theorem Inv.other_sound (h : Inv w) (htid : w.threads[tid]? = some t) (hm : Moves w.shared t o)
    (ht : t.Sound w.shared) {j : Nat} {u : Call} (hj : j ≠ tid) (hu : w.threads[j]? = some u) :
    u.Sound o.shared ∧ (u.between = true → o.shared.controller.connecting = true) := by
  have husound := h.sound j u hu
  cases hub : u.between with
  | false => exact ⟨husound.steady hub (hm.steady ht), nofun⟩
  | true =>
    have hc := h.connecting j u hu hub
    have htb : t.between = false := by
      by_contra hne
      exact hj (h.one j tid u t hu htid hub (Bool.eq_true_of_not_eq_false hne))
    have hsteady := hm.undisturbed ht htb hc
    exact ⟨husound.undisturbed hub hsteady, fun _ => hsteady.connecting.trans hc⟩

/-- When the controller is not connecting, only the first section of `Connect` sets the
flag. -/
theorem Moves.begins (hm : Moves w.shared t o) (hb : t.between = false)
    (hc : w.shared.controller.connecting = false)
    (ho : o.shared.controller.connecting = true) :
    o.thread.between = true ∧ o.shared.controller.session = none := by
  have hsame : w.shared.controller.connecting ≠ true := by simp [hc]
  cases hm with
  | begun nodeID c hbegin =>
    obtain ⟨hsession, -, rfl⟩ := OpenVPNController.beginConnect_ok hbegin
    exact ⟨rfl, hsession⟩
  | failed nodeID err => cases hb
  | made nodeID => cases hb
  | reported err => cases hb
  | stored session => cases hb
  | bridged id err =>
    rw [(report_controller _ _ _).1] at ho
    exact absurd ho hsame
  | cleared id err hown =>
    rw [watch_connecting] at ho
    exact absurd ho hsame
  | _ => exact absurd ho hsame

/-- A call between its sections goes on to the second one, or ends it. -/
theorem Moves.between_cases (hm : Moves w.shared t o) (hb : t.between = true) :
    o.shared.controller = w.shared.controller ∧ o.thread.between = true ∨
      o.shared.controller.connecting = false := by
  cases hm with
  | failed nodeID err => exact .inl ⟨rfl, rfl⟩
  | made nodeID => exact .inl ⟨rfl, rfl⟩
  | reported err => exact .inr rfl
  | stored session => exact .inr rfl
  | _ => cases hb

/-- Whenever the controller is connecting after a section, some call is between its
sections and there is no session. -/
theorem Inv.connecting_after (h : Inv w) (htid : w.threads[tid]? = some t)
    (hm : Moves w.shared t o) (ht : t.Sound w.shared)
    (ho : o.shared.controller.connecting = true) :
    Pool.Some (fun t => t.between = true) (w.move tid o).threads ∧
      o.shared.controller.session = none := by
  cases hb : t.between with
  | true =>
    rcases hm.between_cases hb with ⟨hsame, hob⟩ | hnot
    · refine ⟨.of_thread htid hob, ?_⟩
      rw [hsame]
      exact h.free (h.connecting tid t htid hb)
    · rw [hnot] at ho
      cases ho
  | false =>
    cases hc : w.shared.controller.connecting with
    | true =>
      exact ⟨(h.between hc).move_of_ne htid (by simp [hb]),
        (hm.undisturbed ht hb hc).session (h.free hc)⟩
    | false =>
      obtain ⟨hob, hsession⟩ := hm.begins hb hc ho
      exact ⟨.of_thread htid hob, hsession⟩

theorem Inv.one_after (h : Inv w) (htid : w.threads[tid]? = some t) (hm : Moves w.shared t o)
    (ht : t.Sound w.shared) :
    Pool.AtMostOne (fun t => t.between = true) (w.move tid o).threads := by
  refine h.one.move htid ?_ fun u hu hub => ?_
  · intro hob
    cases hm with
    | begun nodeID c hbegin =>
      right
      intro j u hu hub
      have hidle := (OpenVPNController.beginConnect_ok hbegin).2.1
      rw [h.connecting j u hu hub] at hidle
      cases hidle
    | failed nodeID err => exact .inl rfl
    | made nodeID => exact .inl rfl
    | _ => cases hob
  · rw [(hm.spawned_sound ht u hu).2.1] at hub
    cases hub

theorem Inv.idle_after (h : Inv w) (htid : w.threads[tid]? = some t) (hm : Moves w.shared t o)
    (ht : t.Sound w.shared) (ho : o.shared.controller.connecting = false) :
    o.shared.made = o.shared.controller.created := by
  have hbusy := h.connecting tid t htid
  cases hm with
  | begun nodeID c hbegin =>
    obtain ⟨-, -, rfl⟩ := OpenVPNController.beginConnect_ok hbegin
    cases ho
  | failed nodeID err =>
    rw [hbusy rfl] at ho
    cases ho
  | made nodeID =>
    change w.shared.controller.connecting = false at ho
    rw [hbusy rfl] at ho
    cases ho
  | reported err => exact ht
  | stored session => exact ht.2.1
  | bridged id err =>
    obtain ⟨hcontroller, hmade, -⟩ := report_controller w.shared id err
    rw [hcontroller] at ho ⊢
    rw [hmade]
    exact h.idle ho
  | cleared id err hown =>
    change w.shared.made = (w.shared.controller.watch id err).created
    rw [watch_created]
    rw [watch_connecting] at ho
    exact h.idle ho
  | _ => exact h.idle ho

theorem Inv.current_after (h : Inv w) (hm : Moves w.shared t o) (ht : t.Sound w.shared) :
    ∀ id, Ownership.current o.shared.controller = some id →
      id < o.shared.controller.created ∧ o.shared.close id = .uncalled := by
  intro id hid
  cases hm with
  | begun nodeID c hbegin =>
    obtain ⟨-, -, rfl⟩ := OpenVPNController.beginConnect_ok hbegin
    exact h.current id hid
  | stored session =>
    obtain rfl : session.id = id := Option.some.inj hid
    obtain ⟨hnew, -, hclose⟩ := ht
    exact ⟨lt_of_eq_of_lt hnew (Nat.lt_succ_self _), hclose⟩
  | disconnected session hsession => cases hid
  | idle hnone => cases hid
  | bridged j err =>
    obtain ⟨hcontroller, -, hclose⟩ := report_controller w.shared j err
    rw [hcontroller] at hid ⊢
    rw [hclose]
    exact h.current id hid
  | cleared j err hown =>
    rw [current_watch hown] at hid
    cases hid
  | entered j removed hclose =>
    have hne : id ≠ j := fun heq => ht.2 (heq ▸ hid)
    obtain ⟨hlt, hold⟩ := h.current id hid
    exact ⟨hlt, (Function.update_of_ne hne _ _).trans hold⟩
  | closed j =>
    obtain ⟨hlt, hold⟩ := h.current id hid
    have hne : id ≠ j := fun heq => ht.2 (heq ▸ hold)
    exact ⟨hlt, (Function.update_of_ne hne _ _).trans hold⟩
  | _ => exact h.current id hid

theorem Inv.fresh_after (h : Inv w) (hm : Moves w.shared t o) (ht : t.Sound w.shared) :
    ∀ id, o.shared.controller.created ≤ id → o.shared.close id = .uncalled := by
  intro id hid
  cases hm with
  | begun nodeID c hbegin =>
    obtain ⟨-, -, rfl⟩ := OpenVPNController.beginConnect_ok hbegin
    exact h.fresh id hid
  | stored session => exact h.fresh id (Nat.le_of_succ_le hid)
  | bridged j err =>
    obtain ⟨hcontroller, -, hclose⟩ := report_controller w.shared j err
    rw [hcontroller] at hid
    rw [hclose]
    exact h.fresh id hid
  | cleared j err hown =>
    rw [watch_created] at hid
    exact h.fresh id hid
  | entered j removed hclose =>
    have hne : id ≠ j := (lt_of_lt_of_le ht.1 hid).ne'
    exact (Function.update_of_ne hne _ _).trans (h.fresh id hid)
  | closed j =>
    have hne : id ≠ j := (lt_of_lt_of_le ht.1 hid).ne'
    exact (Function.update_of_ne hne _ _).trans (h.fresh id hid)
  | _ => exact h.fresh id hid

/-- What covers a session still covers it after a section of a call that is not about to
close it, if the controller keeps the session or the call takes it out. -/
theorem Inv.still_covered (h : Inv w) (htid : w.threads[tid]? = some t) (hm : Moves w.shared t o)
    (ht : t.Sound w.shared) {id : Nat} (hid : id < w.shared.controller.created)
    (hne : ∀ removed, t ≠ .closing id removed)
    (hcurrent : Ownership.current w.shared.controller = some id →
      Ownership.current o.shared.controller = some id ∨ o.thread = .closing id true) :
    Ownership.current o.shared.controller = some id ∨ o.shared.close id ≠ .uncalled ∨
      Pool.Some (· = .closing id true) (w.move tid o).threads := by
  rcases h.covered id hid with hc | hclose | hsome
  · rcases hcurrent hc with hc' | hthread
    · exact .inl hc'
    · exact .inr (.inr (.of_thread htid hthread))
  · exact .inr (.inl ((hm.steady ht).close id hclose))
  · exact .inr (.inr (hsome.move_of_ne htid (hne true)))

/-- A stored session stays with the controller until a call takes it out, and that call
closes it. -/
theorem Inv.covered_after (h : Inv w) (htid : w.threads[tid]? = some t)
    (hm : Moves w.shared t o) (ht : t.Sound w.shared) :
    ∀ id < o.shared.controller.created, Ownership.current o.shared.controller = some id ∨
      o.shared.close id ≠ .uncalled ∨
      Pool.Some (· = .closing id true) (w.move tid o).threads := by
  intro id hid
  have hkeep := @Inv.still_covered w tid t o h htid hm ht id
  cases hm with
  | begun nodeID c hbegin =>
    obtain ⟨-, -, rfl⟩ := OpenVPNController.beginConnect_ok hbegin
    exact hkeep hid nofun .inl
  | stored session =>
    by_cases heq : session.id = id
    · exact .inl (congrArg some heq)
    · have hnew := ht.1
      change id < w.shared.controller.created + 1 at hid
      refine hkeep (by omega) nofun fun hc => ?_
      -- a call between its sections finds no session
      rw [Ownership.current, h.free (h.connecting tid _ htid rfl)] at hc
      cases hc
  | disconnected session hsession =>
    refine hkeep hid nofun fun hc => .inr ?_
    rw [Ownership.current, hsession] at hc
    obtain rfl : session.id = id := Option.some.inj hc
    rfl
  | idle hnone =>
    refine hkeep hid nofun fun hc => ?_
    rw [Ownership.current, hnone] at hc
    cases hc
  | bridged j err =>
    rw [(report_controller w.shared j err).1] at hid
    exact hkeep hid nofun fun hc => .inl (by rwa [(report_controller w.shared j err).1])
  | cleared j err hown =>
    rw [watch_created] at hid
    refine hkeep hid nofun fun hc => .inr ?_
    rw [Option.some.inj (hown.symm.trans hc)]
  | entered j removed hclose =>
    by_cases heq : id = j
    · right; left
      simp [heq]
    · exact hkeep hid (fun _ h => heq (by cases h; rfl)) .inl
  | awaited j removed hclose =>
    by_cases heq : id = j
    · exact .inr (.inl (by simp [heq, hclose]))
    · exact hkeep hid (fun _ h => heq (by cases h; rfl)) .inl
  | late j removed hclose =>
    by_cases heq : id = j
    · exact .inr (.inl (by simp [heq, hclose]))
    · exact hkeep hid (fun _ h => heq (by cases h; rfl)) .inl
  | _ => exact hkeep hid nofun .inl

theorem Inv.running_after (h : Inv w) (htid : w.threads[tid]? = some t)
    (hm : Moves w.shared t o) : ∀ id, o.shared.close id = .running →
      Pool.Some (· = .inClose id) (w.move tid o).threads := by
  intro id hrun
  cases hm with
  | bridged j err =>
    rw [(report_controller w.shared j err).2.2] at hrun
    exact (h.running id hrun).move_of_ne htid nofun
  | entered j removed hclose =>
    by_cases heq : id = j
    · exact .of_thread htid (congrArg _ heq.symm)
    · have hold := (Function.update_of_ne heq _ _).symm.trans hrun
      exact (h.running id hold).move_of_ne htid nofun
  | closed j =>
    by_cases heq : id = j
    · simp [heq] at hrun
    · have hold := (Function.update_of_ne heq _ _).symm.trans hrun
      exact (h.running id hold).move_of_ne htid (by simpa using Ne.symm heq)
  | _ => exact (h.running id hrun).move_of_ne htid nofun

/-- The call that takes a session out is the only one to do so: no other call is still to
close a session that is the controller's. -/
theorem Inv.remover_after (h : Inv w) (htid : w.threads[tid]? = some t)
    (hm : Moves w.shared t o) (ht : t.Sound w.shared) (id : Nat) :
    Pool.AtMostOne (· = .closing id true) (w.move tid o).threads := by
  have hnone : Ownership.current w.shared.controller = some id →
      ∀ (j : Nat) (u : Call), w.threads[j]? = some u → u ≠ .closing id true := by
    rintro hc j u hu rfl
    exact (h.sound j _ hu).2 hc
  refine (h.remover id).move htid (fun hself => .inr (hnone ?_)) fun u hu =>
    (hm.spawned_sound ht u hu).2.2 id
  cases hm with
  | disconnected session hsession =>
    cases hself
    simp [Ownership.current, hsession]
  | cleared j err hown =>
    cases hself
    exact hown
  | _ => cases hself

theorem Inv.events_after (h : Inv w) (htid : w.threads[tid]? = some t)
    (hm : Moves w.shared t o) :
    (∀ id before, .stored id before ∈ o.events → before = none) ∧
      ∀ id cleared, .watchCleared id cleared ∈ o.events → cleared = id := by
  cases hm with
  | stored session =>
    refine ⟨fun id before hmem => ?_, fun id cleared hmem => ?_⟩
    · cases List.mem_singleton.mp hmem
      rw [Ownership.current, h.free (h.connecting tid _ htid rfl)]
      rfl
    · cases List.mem_singleton.mp hmem
  | cleared j err hown =>
    refine ⟨fun id before hmem => ?_, fun id cleared hmem => ?_⟩
    · cases List.mem_singleton.mp hmem
    · cases List.mem_singleton.mp hmem
      rfl
  | _ => exact ⟨nofun, nofun⟩

theorem Inv.move (h : Inv w) (htid : w.threads[tid]? = some t) (hm : Moves w.shared t o) :
    Inv (w.move tid o) := by
  have ht := h.sound tid t htid
  have hnew := hm.spawned_sound ht
  obtain ⟨hstores, hwatches⟩ := h.events_after htid hm
  exact {
    sound := h.sound.move (h.self_sound hm ht)
      (fun j u hj hu _ => (h.other_sound htid hm ht hj hu).1) fun j u _ hu => (hnew u hu).1
    connecting := by
      refine h.connecting.move ?_ (fun j u hj hu _ => (h.other_sound htid hm ht hj hu).2) ?_
      · intro hob
        cases hm with
        | begun nodeID c hbegin =>
          obtain ⟨-, -, rfl⟩ := OpenVPNController.beginConnect_ok hbegin
          rfl
        | failed nodeID err => exact h.connecting tid _ htid rfl
        | made nodeID => exact h.connecting tid _ htid rfl
        | _ => cases hob
      · intro j u _ hu hub
        rw [(hnew u hu).2.1] at hub
        cases hub
    between := fun hc => (h.connecting_after htid hm ht hc).1
    one := h.one_after htid hm ht
    free := fun hc => (h.connecting_after htid hm ht hc).2
    idle := h.idle_after htid hm ht
    current := h.current_after hm ht
    fresh := h.fresh_after hm ht
    covered := h.covered_after htid hm ht
    running := h.running_after htid hm
    remover := h.remover_after htid hm ht
    stores := fun id before hmem => (List.mem_append.mp hmem).elim
      (hstores id before) (h.stores id before)
    watches := fun id cleared hmem => (List.mem_append.mp hmem).elim
      (hwatches id cleared) (h.watches id cleared) }

theorem Inv.call (h : Inv w) (hentry : t.entry = true) :
    Inv { w with threads := w.threads ++ [t] } := by
  have hnew : t.Sound w.shared ∧ t.between = false ∧ ∀ id, t ≠ .closing id true := by
    cases t with
    | connect nodeID => exact ⟨trivial, rfl, nofun⟩
    | disconnect => exact ⟨trivial, rfl, nofun⟩
    | _ => cases hentry
  obtain ⟨hsound, hbetween, hclosing⟩ := hnew
  exact {
    sound := h.sound.push hsound
    connecting := h.connecting.push (by simp [hbetween])
    between := fun hc => (h.between hc).push
    one := h.one.push (by simp [hbetween])
    free := h.free
    idle := h.idle
    current := h.current
    fresh := h.fresh
    covered := fun id hid => (h.covered id hid).imp_right fun hrest => hrest.imp_right (·.push)
    running := fun id hid => (h.running id hid).push
    remover := fun id => (h.remover id).push (hclosing id)
    stores := h.stores
    watches := h.watches }

theorem Inv.start : Inv start where
  sound := .nil
  connecting := .nil
  between := nofun
  one := .nil
  free := nofun
  idle := fun _ => rfl
  current := nofun
  fresh := fun _ _ => rfl
  covered := nofun
  running := nofun
  remover := fun _ => .nil
  stores := nofun
  watches := nofun

theorem inv_of_reaches (h : Reaches step anyStep start w) : Inv w :=
  Pool.callStep_invariant h .start (fun _ _ hinv _ hentry => hinv.call hentry)
    fun _ _ _ _ _ hinv _ htid ho => hinv.move htid (moves_of_sectionStep ho)

end Step

section Owned

variable {w : Sessions}

/-- A session that is made and not stored is the one that the call between its sections
holds. -/
theorem Inv.holding (h : Inv w) {id : Nat} (hmade : id < w.shared.made)
    (hnew : w.shared.controller.created ≤ id) :
    ∃ (tid : Nat) (session : VpnSession),
      w.threads[tid]? = some (.holding session) ∧ session.id = id := by
  have hc : w.shared.controller.connecting = true := by
    by_contra hne
    have hidle := h.idle (Bool.eq_false_of_not_eq_true hne)
    omega
  obtain ⟨tid, t, ht, hb⟩ := h.between hc
  have hsound := h.sound tid t ht
  cases t with
  | handshake nodeID =>
    change w.shared.made = _ at hsound
    omega
  | failed err =>
    change w.shared.made = _ at hsound
    omega
  | holding session =>
    obtain ⟨hid, hone, -⟩ := hsound
    exact ⟨tid, session, ht, by omega⟩
  | _ => cases hb

theorem Inv.owner (h : Inv w) {id : Nat} (hmade : id < w.shared.made) :
    (∃ (tid : Nat) (session : VpnSession),
      w.threads[tid]? = some (.holding session) ∧ session.id = id) ∨
    Ownership.current w.shared.controller = some id ∨ w.shared.close id ≠ .uncalled ∨
    ∃! tid : Nat, w.threads[tid]? = some (.closing id true) := by
  rcases Nat.lt_or_ge id w.shared.controller.created with hlt | hge
  · rcases h.covered id hlt with hc | hclose | ⟨tid, u, hu, rfl⟩
    · exact .inr (.inl hc)
    · exact .inr (.inr (.inl hclose))
    · exact .inr (.inr (.inr ⟨tid, hu, fun j hj => h.remover id j tid _ _ hj hu rfl rfl⟩))
  · exact .inl (h.holding hmade hge)

theorem Inv.closed (h : Inv w) (hquiet : ∀ t ∈ w.threads, t.quiet = true) {id : Nat}
    (hmade : id < w.shared.made) (hcurrent : Ownership.current w.shared.controller ≠ some id) :
    w.shared.close id = .returned := by
  have hnone : ∀ {j : Nat} {t : Call}, w.threads[j]? = some t → t.quiet = false → False := by
    intro j t ht hloud
    rw [hquiet t (List.mem_of_getElem? ht)] at hloud
    cases hloud
  have hcalled : w.shared.close id ≠ .uncalled := by
    rcases h.owner hmade with ⟨tid, session, ht, -⟩ | hc | hclose | ⟨tid, ht, -⟩
    · exact (hnone ht rfl).elim
    · exact absurd hc hcurrent
    · exact hclose
    · exact (hnone ht rfl).elim
  cases hclose : w.shared.close id with
  | uncalled => exact absurd hclose hcalled
  | running =>
    obtain ⟨tid, u, hu, rfl⟩ := h.running id hclose
    exact (hnone hu rfl).elim
  | returned => rfl

end Owned

end ResidentialIPManager.Tunnel.Ownership
