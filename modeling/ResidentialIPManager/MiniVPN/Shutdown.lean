import ResidentialIPManager.MiniVPN.NegotiationRuns

/-! # The end of a client

`Close` closes the connection, tells all workers to return and waits for them. Three sends do not
look at the shutdown: that of the key worker on `Ready`, that of the data channel to the device,
and that of the receiver to the sender. For the third somebody has to make room in the channel, and
only the sender can: as long as it has not returned it comes back to its select, where it may look
at the channel or at the shutdown.
-/
namespace ResidentialIPManager.MiniVPN
open Sorting Text Transition

namespace Client

/-- The receiver is at its send to the sender, or on its way there. -/
def reports (c : Client) : Bool :=
  match c.reliable with
  | .checking p => incomingSanityChecks c.session p
  | .reporting _ _ => true
  | _ => false

/-- The receiver has something for the sender, the channel is full, and the sender has returned. -/
def Unheard (c : Client) : Prop :=
  c.reports = true ∧ incomingSeenCapacity ≤ c.incomingSeen.length ∧ c.sender = .done

instance (c : Client) : Decidable c.Unheard := inferInstanceAs (Decidable (_ ∧ _ ∧ _))

def unread : Client → ClientAction → Prop := fun _ a => a ≠ .read

/-- `Close` waits for a worker that cannot return. -/
def Hung (c : Client) : Prop :=
  c.start = .closing ∧
    (c.keyWorker = .offering ∨ c.dataWorker = .delivering ∨ c.Unheard)

section Hanging
variable {sorter : Sorter byID} {c d : Client} {a : ClientAction}

theorem incomingSanityChecks_congr {m n : Manager} (p : Packet)
    (hremote : n.remoteSessionID = m.remoteSessionID)
    (hlocal : n.localSessionID = m.localSessionID) :
    incomingSanityChecks n p = incomingSanityChecks m p := by
  rw [incomingSanityChecks, incomingSanityChecks, hremote, hlocal]

/-- A packet of another session passes no check as long as the session is not known. -/
theorem incomingSanityChecks_of_none {m : Manager} (h : m.remoteSessionID = none) (p : Packet) :
    incomingSanityChecks m p = false := by
  simp [incomingSanityChecks, h]

theorem reports_report (sorter : Sorter byID) {session : Manager} (r : Receiver) {p : Packet}
    (h : incomingSanityChecks session p = true) :
    ∃ seen ready, ReliableAt.report (moveUpPacket sorter session r p).seen
      (moveUpPacket sorter session r p).delivered = .reporting seen ready := by
  rw [moveUpPacket_seen, List.filter_cons_of_pos h]
  exact ⟨_, _, rfl⟩

theorem busy_of_reports (h : c.reports = true) : c.reliable.busy = true := by
  unfold reports at h
  split at h
  · next hreliable => rw [hreliable]; rfl
  · next hreliable => rw [hreliable]; rfl
  · cases h

/-- A receiver on its way to the send stays on it, whatever else happens to the session. -/
theorem Moves.reports (h : c.Moves sorter a d) (hreports : c.reports = true)
    (hfull : incomingSeenCapacity ≤ c.incomingSeen.length) : d.reports = true := by
  have hkeeps : ∀ session : Manager,
      session.remoteSessionID = c.session.remoteSessionID →
      session.localSessionID = c.session.localSessionID →
      { c with session }.reports = true := by
    intro session hremote hlocal
    unfold Client.reports at hreports ⊢
    dsimp only
    split at hreports
    · rwa [incomingSanityChecks_congr _ hremote hlocal]
    · rfl
    · cases hreports
  cases h
  case answer p _ _ hnew =>
    -- a packet that has passed the checks belongs to a session that is known
    unfold Client.reports at hreports ⊢
    dsimp only
    split at hreports
    · rw [incomingSanityChecks_of_none hnew] at hreports
      cases hreports
    · rfl
    · cases hreports
  case handOver hidle => simp [Client.reports, hidle] at hreports
  case receive p hchecking =>
    have hpassed : incomingSanityChecks c.session p = true := by
      simpa [Client.reports, hchecking] using hreports
    obtain ⟨seen, ready, hreport⟩ := reports_report sorter c.receiver hpassed
    simp [Client.reports, hreport]
  case report hroom => omega
  case route hready => simp [Client.reports, hready] at hreports
  case authReply => exact hkeeps _ rfl rfl
  case pushReply => exact hkeeps _ rfl rfl
  case exitReliable hfree => simp [busy_of_reports hreports] at hfree
  all_goals exact hreports

theorem Moves.sender_done (h : c.Moves sorter a d) (hdone : c.sender = .done) :
    d.sender = .done := by
  cases h
  case flush hfree => simp [hfree] at hdone
  case ask hasking => simp [hasking] at hdone
  case emit hsending _ => simp [hsending] at hdone
  case leave hsending => simp [hsending] at hdone
  case exitSender => rfl
  all_goals exact hdone

theorem Moves.unheard (h : c.Moves sorter a d) (hunheard : c.Unheard) : d.Unheard := by
  obtain ⟨hreports, hfull, hdone⟩ := hunheard
  refine ⟨h.reports hreports hfull, ?_, h.sender_done hdone⟩
  cases h
  case report hroom => omega
  case notice hfree => simp [hfree] at hdone
  all_goals exact hfull

theorem Moves.hung (h : c.Moves sorter a d) (hread : a ≠ .read) (hhung : c.Hung) : d.Hung := by
  obtain ⟨hclosing, hworker⟩ := hhung
  have hstart : d.start = .closing := by
    cases h
    case fail hstart =>
      obtain rfl | ⟨hawaiting, -⟩ := hstart
      · exact hclosing
      · simp [hclosing] at hawaiting
    case ready hawaiting => simp [hclosing] at hawaiting
    case giveUp => rfl
    case close => rfl
    case closed hreliable hkey hdata =>
      rcases hworker with hoffering | hdelivering | hunheard
      · simp [hkey] at hoffering
      · simp [hdata] at hdelivering
      · have := busy_of_reports hunheard.1
        simp [hreliable, ReliableAt.busy] at this
    all_goals exact hclosing
  refine ⟨hstart, ?_⟩
  rcases hworker with hoffering | hdelivering | hunheard
  · left
    cases h
    case takeKey => rfl
    case ready hawaiting => simp [hclosing] at hawaiting
    case exitKey _ hfree => exact absurd hoffering hfree
    all_goals exact hoffering
  · right; left
    cases h
    case firstKey hwaiting _ => simp [hwaiting] at hdelivering
    case takeData hwaiting => simp [hwaiting] at hdelivering
    case read => exact absurd rfl hread
    case exitData _ hfree => exact absurd hdelivering hfree
    all_goals exact hdelivering
  · exact .inr (.inr (h.unheard hunheard))

theorem Hung.not_closed (hhung : c.Hung) (hc : c.Sound) (h : Reaches (step sorter) unread c d) :
    d.start ≠ .closed := by
  obtain ⟨-, hclosing, -⟩ := hc.invariant h Hung hhung
    fun t u a _ hinv hread hmove => hmove.hung hread hinv
  simp [hclosing]

end Hanging

section Returning
variable (sorter : Sorter byID) {c : Client}

/-- A sender that has not returned comes back to its select. -/
theorem reaches_sender_free (hlive : c.crashed = none) (hkey : c.keyWorker ≠ .offering)
    (hshutdown : c.shouldShutdown = true) (hsender : c.sender ≠ .done) :
    Reaches (step sorter) unread c { c with sender := .free } := by
  have hleave : ∀ (b : Client) (left : Nat), b.crashed = none → b.shouldShutdown = true →
      b.sender = .sending left → Reaches (step sorter) unread b { b with sender := .free } :=
    fun b left hb hdown hat => Reaches.refl.tail (by simp [unread] : unread _ .leave)
      (by simp [step, move, hb, hdown, hat])
  cases hat : c.sender with
  | free => exact hat ▸ .refl
  | asking left =>
    have hask : Reaches (step sorter) unread c { c with sender := .sending left } :=
      Reaches.refl.tail (by simp [unread] : unread _ .ask)
        (by simp [step, move, hlive, hat, locked, hkey])
    exact hask.trans (hleave { c with sender := .sending left } left hlive hshutdown rfl)
  | sending left => exact hleave c left hlive hshutdown hat
  | done => exact absurd hat hsender

theorem reaches_reported (hlive : c.crashed = none) (hkey : c.keyWorker ≠ .offering)
    (hshutdown : c.shouldShutdown = true) (hseen : c.incomingSeen.length ≤ incomingSeenCapacity)
    {seen : IncomingPacketSeen} {ready : List Packet}
    (hreporting : c.reliable = .reporting seen ready)
    (hroom : c.incomingSeen.length < incomingSeenCapacity ∨ c.sender ≠ .done) :
    ∃ incomingSeen sender, Reaches (step sorter) unread c
      { c with reliable := .deliver ready, incomingSeen, sender } := by
  have hreport : ∀ b : Client, b.crashed = none → b.reliable = .reporting seen ready →
      b.incomingSeen.length < incomingSeenCapacity → Reaches (step sorter) unread b
        { b with reliable := .deliver ready, incomingSeen := b.incomingSeen ++ [seen] } :=
    fun b hb hat hless => Reaches.refl.tail (by simp [unread] : unread _ .report)
      (by simp [step, move, hb, hat, hless])
  rcases Nat.lt_or_ge c.incomingSeen.length incomingSeenCapacity with hless | hfull
  · exact ⟨_, c.sender, hreport c hlive hreporting hless⟩
  · -- the sender looks at the channel once more
    have hfree := reaches_sender_free sorter hlive hkey hshutdown
      (hroom.resolve_left (not_lt.mpr hfull))
    have hne : c.incomingSeen ≠ [] := by
      rintro hnil
      simp [hnil, incomingSeenCapacity] at hfull
    have hnotice := hfree.tail (by simp [unread] : unread _ .notice)
      (u := { c with incomingSeen := c.incomingSeen.tail, sender := .free })
      (by simp [step, move, hlive, hne])
    have hless : c.incomingSeen.tail.length < incomingSeenCapacity := by
      rw [List.length_tail]
      have hpos := List.length_pos_iff.mpr hne
      omega
    exact ⟨_, .free, hnotice.trans (hreport
      { c with incomingSeen := c.incomingSeen.tail, sender := .free } hlive hreporting hless)⟩

/-- The receiver comes to a place where it sees that it should return. -/
theorem reaches_unbusy (hc : c.Sound) (hkey : c.keyWorker ≠ .offering)
    (hshutdown : c.shouldShutdown = true) (hheard : ¬c.Unheard) :
    ∃ reliable receiver incomingSeen sender, reliable.busy = false ∧
      Reaches (step sorter) unread c { c with reliable, receiver, incomingSeen, sender } := by
  have hroom : c.reports = true →
      c.incomingSeen.length < incomingSeenCapacity ∨ c.sender ≠ .done := by
    intro hreports
    by_contra hnone
    rw [not_or, not_lt, not_not] at hnone
    exact hheard ⟨hreports, hnone⟩
  cases hreliable : c.reliable with
  | idle => exact ⟨.idle, c.receiver, c.incomingSeen, c.sender, rfl, hreliable ▸ .refl⟩
  | delivering first rest =>
    exact ⟨.delivering first rest, c.receiver, c.incomingSeen, c.sender, rfl, hreliable ▸ .refl⟩
  | done => exact ⟨.done, c.receiver, c.incomingSeen, c.sender, rfl, hreliable ▸ .refl⟩
  | reporting seen ready =>
    obtain ⟨incomingSeen, sender, hrun⟩ := reaches_reported sorter hc.alive hkey hshutdown hc.seen
      hreliable (hroom (by simp [reports, hreliable]))
    exact ⟨.deliver ready, c.receiver, incomingSeen, sender, ReliableAt.busy_deliver ready, hrun⟩
  | checking p =>
    have hreceive : Reaches (step sorter) unread c { c with
        reliable := .report (moveUpPacket sorter c.session c.receiver p).seen
          (moveUpPacket sorter c.session c.receiver p).delivered
        receiver := (moveUpPacket sorter c.session c.receiver p).receiver } :=
      Reaches.refl.tail (by simp [unread] : unread _ .receive)
        (by simp [step, move, hc.alive, hreliable, locked, hkey])
    cases hpassed : incomingSanityChecks c.session p with
    | false =>
      refine ⟨_, _, c.incomingSeen, c.sender, ?_, hreceive⟩
      rw [moveUpPacket_seen, List.filter_cons_of_neg (by simp [hpassed])]
      exact ReliableAt.busy_deliver _
    | true =>
      obtain ⟨seen, ready, hreport⟩ := reports_report sorter c.receiver hpassed
      rw [hreport] at hreceive
      obtain ⟨incomingSeen, sender, hrun⟩ := reaches_reported sorter
        (c := { c with
          reliable := .reporting seen ready
          receiver := (moveUpPacket sorter c.session c.receiver p).receiver })
        hc.alive hkey hshutdown hc.seen rfl (hroom (by simp [reports, hreliable, hpassed]))
      exact ⟨.deliver ready, _, incomingSeen, sender, ReliableAt.busy_deliver ready,
        hreceive.trans hrun⟩

theorem reaches_exitSender (hlive : c.crashed = none) (hkey : c.keyWorker ≠ .offering)
    (hshutdown : c.shouldShutdown = true) :
    Reaches (step sorter) unread c { c with sender := .done } := by
  by_cases hdone : c.sender = .done
  · exact hdone ▸ .refl
  · exact (reaches_sender_free sorter hlive hkey hshutdown hdone).tail
      (by simp [unread] : unread _ .exitSender) (by simp [step, move, hlive, hshutdown])

/-- A write to the closed connection fails. -/
theorem reaches_exitNetwork (hlive : c.crashed = none) (hshutdown : c.shouldShutdown = true) :
    Reaches (step sorter) unread c { c with network := .done } := by
  cases hat : c.network with
  | free =>
    exact Reaches.refl.tail (by simp [unread] : unread _ .exitNetwork)
      (by simp [step, move, hlive, hshutdown, hat, NetworkAt.writes])
  | writing connected =>
    exact Reaches.refl.tail (by simp [unread] : unread _ (.written false))
      (by simp [step, move, hlive, hat, hshutdown])
  | done => exact hat ▸ .refl

theorem reaches_exits (hlive : c.crashed = none) (hshutdown : c.shouldShutdown = true)
    (hclosing : c.start = .closing) (hkey : c.keyWorker ≠ .offering)
    (hdata : c.dataWorker ≠ .delivering) (hbusy : c.reliable.busy = false) :
    ∃ d, Reaches (step sorter) unread c d ∧ d.start = .closed := by
  have hsender := reaches_exitSender sorter hlive hkey hshutdown
  have hnetwork := hsender.trans
    (reaches_exitNetwork sorter (c := { c with sender := .done }) hlive hshutdown)
  have hmuxer := hnetwork.tail (by simp [unread] : unread _ .exitMuxer)
    (u := { c with sender := .done, network := .done, muxer := .done }) (by simp [step, move, *])
  have hdown := hmuxer.tail (by simp [unread] : unread _ .exitMuxerDown)
    (u := { c with sender := .done, network := .done, muxer := .done, muxerDown := .done })
    (by simp [step, move, *])
  have hreliable := hdown.tail (by simp [unread] : unread _ .exitReliable)
    (u := { c with sender := .done, network := .done, muxer := .done, muxerDown := .done,
                   reliable := .done })
    (by simp [step, move, *])
  have hcontrol := hreliable.tail (by simp [unread] : unread _ .exitControl)
    (u := { c with sender := .done, network := .done, muxer := .done, muxerDown := .done,
                   reliable := .done, control := .done })
    (by simp [step, move, *])
  have htls := hcontrol.tail (by simp [unread] : unread _ .exitTLS)
    (u := { c with sender := .done, network := .done, muxer := .done, muxerDown := .done,
                   reliable := .done, control := .done, tls := .done })
    (by simp [step, move, *])
  have hkeyDone := htls.tail (by simp [unread] : unread _ .exitKey)
    (u := { c with sender := .done, network := .done, muxer := .done, muxerDown := .done,
                   reliable := .done, control := .done, tls := .done, keyWorker := .done })
    (by simp [step, move, *])
  have hdataDone := hkeyDone.tail (by simp [unread] : unread _ .exitData)
    (u := { c with sender := .done, network := .done, muxer := .done, muxerDown := .done,
                   reliable := .done, control := .done, tls := .done, keyWorker := .done,
                   dataWorker := .done })
    (by simp [step, move, *])
  exact ⟨_, hdataDone.tail (by simp [unread] : unread _ .closed)
    (u := { c with sender := .done, network := .done, muxer := .done, muxerDown := .done,
                   reliable := .done, control := .done, tls := .done, keyWorker := .done,
                   dataWorker := .done, start := .closed })
    (by simp [step, move, *]), rfl⟩

theorem reaches_closed (hc : c.Sound) (hclosing : c.start = .closing)
    (hkey : c.keyWorker ≠ .offering) (hdata : c.dataWorker ≠ .delivering) (hheard : ¬c.Unheard) :
    ∃ d, Reaches (step sorter) unread c d ∧ d.start = .closed := by
  have hshutdown := hc.settled.2.1 hclosing
  obtain ⟨reliable, receiver, incomingSeen, sender, hbusy, hrun⟩ :=
    reaches_unbusy sorter hc hkey hshutdown hheard
  obtain ⟨d, hexits, hclosed⟩ := reaches_exits sorter
    (c := { c with reliable, receiver, incomingSeen, sender }) hc.alive hshutdown hclosing hkey
    hdata hbusy
  exact ⟨d, hrun.trans hexits, hclosed⟩

end Returning

variable {sorter : Sorter byID} {c : Client}

/-- `Close` can return, unless somebody reads from the device, exactly if the key worker does not
offer `Ready` to a `StartTUN` that has given up, the data channel has no packet for the device in
hand, and the receiver has nothing for a sender that has returned with its channel full. -/
theorem close_returns_iff {id : SessionID} (hc : Reaches (step sorter) anyStep (initial id) c)
    (hclosing : c.start = .closing) :
    (∃ d, Reaches (step sorter) unread c d ∧ d.start = .closed) ↔
      c.keyWorker ≠ .offering ∧ c.dataWorker ≠ .delivering ∧ ¬c.Unheard := by
  have hsound := Sound.of_reaches hc
  constructor
  · rintro ⟨d, hrun, hclosed⟩
    by_contra hworker
    refine Hung.not_closed ⟨hclosing, ?_⟩ hsound hrun hclosed
    by_contra hnone
    rw [not_or, not_or] at hnone
    exact hworker hnone
  · rintro ⟨hkey, hdata, hheard⟩
    exact reaches_closed sorter hsound hclosing hkey hdata hheard

/-- One hundred packets are reported while the sender does not come to look; it returns, and the
receiver has one more. -/
def leftAlone : List ClientAction :=
  [.hardReset, .arrive serverReset, .handOver, .receive, .report, .notify] ++
    (List.replicate 99 [.arrive (serverRecord 0), .handOver, .receive, .report]).flatten ++
    [.arrive (serverRecord 0), .handOver, .giveUp, .exitSender]

/-- The context ends after the key has been made and before `StartTUN` takes the news, or while a
packet is checked that nobody will hear of. -/
theorem close_returns_iff_late_key :
    (∃ c, Reaches (step (.insertion byID)) anyStep (initial (zeroArray 8)) c ∧
      c.start = .closing ∧ c.keyWorker = .offering ∧
      ¬∃ d, Reaches (step (.insertion byID)) unread c d ∧ d.start = .closed) ∧
    ∃ c, Reaches (step (.insertion byID)) anyStep (initial (zeroArray 8)) c ∧
      c.start = .closing ∧ c.Unheard ∧
      ¬∃ d, Reaches (step (.insertion byID)) unread c d ∧ d.start = .closed := by
  constructor
  · have hrun : ∃ c, Reaches (step (.insertion byID)) anyStep (initial (zeroArray 8)) c ∧
        c.start = .closing ∧ c.keyWorker = .offering :=
      exists_reaches _ _ (bringUp ++ [.giveUp]) (by decide +kernel)
    obtain ⟨c, hc, hclosing, hoffering⟩ := hrun
    refine ⟨c, hc, hclosing, hoffering, fun hreturns => ?_⟩
    exact ((close_returns_iff hc hclosing).mp hreturns).1 hoffering
  · have hrun : ∃ c, Reaches (step (.insertion byID)) anyStep (initial (zeroArray 8)) c ∧
        c.start = .closing ∧ c.Unheard :=
      exists_reaches _ _ leftAlone (by decide +kernel)
    obtain ⟨c, hc, hclosing, hunheard⟩ := hrun
    refine ⟨c, hc, hclosing, hunheard, fun hreturns => ?_⟩
    exact ((close_returns_iff hc hclosing).mp hreturns).2.2 hunheard

end Client

end ResidentialIPManager.MiniVPN
