import ResidentialIPManager.Bytes.Stream
import ResidentialIPManager.Text.Rune

/-! # Packets on a stream

Over TCP every packet has its length in two bytes in front of it. `moveDownWorker` of
`networkio` writes packets until one is too long for that, `moveUpWorker` reads packets
until the connection ends. The connection may cut the stream into segments as it likes,
and may break at any byte.
-/
namespace ResidentialIPManager.MiniVPN
open Bytes Text

def readRawPacket (segments : List (List UInt8)) :
    Except ReadError (List UInt8 × List (List UInt8)) := do
  let (lenbuf, segments) ← readFull 2 segments
  readFull (ofBigEndian lenbuf) segments

def writeRawPacket (pkt : List UInt8) : Except GoString (List UInt8) :=
  if 65535 < pkt.length then .error (lit "openvpn: packet too large")
  else .ok (toBigEndian 2 pkt.length ++ pkt)

/-- What `moveDownWorker` writes for the packets it is given. -/
def moveDown : List (List UInt8) → List UInt8
  | [] => []
  | pkt :: rest =>
    match writeRawPacket pkt with
    | .error _ => []
    | .ok bytes => bytes ++ moveDown rest

theorem readRawPacket_eq_ok {segments rest : List (List UInt8)} {pkt : List UInt8}
    (h : readRawPacket segments = .ok (pkt, rest)) :
    ∃ lenbuf, lenbuf.length = 2 ∧ pkt.length = ofBigEndian lenbuf ∧
      segments.flatten = lenbuf ++ pkt ++ rest.flatten := by
  obtain ⟨⟨lenbuf, middle⟩, hlen, hbody⟩ := bind_eq_ok.mp h
  obtain ⟨h₁, h₂⟩ := readFull_eq_ok hlen
  obtain ⟨h₃, h₄⟩ := readFull_eq_ok hbody
  exact ⟨lenbuf, h₂, h₄, by rw [h₁, h₃, List.append_assoc]⟩

theorem length_lt_of_readRawPacket {segments rest : List (List UInt8)} {pkt : List UInt8}
    (h : readRawPacket segments = .ok (pkt, rest)) :
    rest.flatten.length < segments.flatten.length := by
  obtain ⟨lenbuf, hlen, -, hflat⟩ := readRawPacket_eq_ok h
  rw [hflat, List.length_append, List.length_append]
  omega

/-- The packets that `moveUpWorker` passes on, and the error it ends with. -/
def moveUp (segments : List (List UInt8)) : List (List UInt8) × ReadError :=
  match _h : readRawPacket segments with
  | .error err => ([], err)
  | .ok (pkt, rest) => (pkt :: (moveUp rest).1, (moveUp rest).2)
termination_by segments.flatten.length
decreasing_by all_goals simpa using length_lt_of_readRawPacket _h

/-- The packets whose frames lie within the first `cut` bytes that are written. -/
def arrived (cut : Nat) : List (List UInt8) → List (List UInt8)
  | [] => []
  | pkt :: rest =>
    if pkt.length ≤ 65535 ∧ pkt.length + 2 ≤ cut then pkt :: arrived (cut - (pkt.length + 2)) rest
    else []

theorem moveUp_of_error {segments : List (List UInt8)} {err : ReadError}
    (h : readRawPacket segments = .error err) : moveUp segments = ([], err) := by
  rw [moveUp]
  split
  · next err' h' => rw [Except.error.inj (h'.symm.trans h)]
  · next pkt rest h' => cases h'.symm.trans h

theorem moveUp_of_ok {segments rest : List (List UInt8)} {pkt : List UInt8}
    (h : readRawPacket segments = .ok (pkt, rest)) :
    moveUp segments = (pkt :: (moveUp rest).1, (moveUp rest).2) := by
  rw [moveUp]
  split
  · next err h' => cases h'.symm.trans h
  · next pkt' rest' h' =>
    obtain ⟨rfl, rfl⟩ := Prod.mk.inj (Except.ok.inj (h'.symm.trans h))
    rfl

theorem moveUp_of_nil {segments : List (List UInt8)} (h : segments.flatten = []) :
    moveUp segments = ([], .eof) := by
  apply moveUp_of_error
  have hread : readFull 2 segments = .error .eof := by
    rw [readFull_of_lt (by rw [h]; decide), h]
    rfl
  rw [readRawPacket, hread]
  rfl

theorem take_append_of_length_le {a b : List UInt8} {cut : Nat} (h : a.length ≤ cut) :
    (a ++ b).take cut = a ++ b.take (cut - a.length) := by
  rw [List.take_append, List.take_of_length_le h]

theorem readRawPacket_length {segments : List (List UInt8)} {n : Nat} {tail : List UInt8}
    (hn : n ≤ 65535) (h : segments.flatten = toBigEndian 2 n ++ tail) :
    ∃ middle, readRawPacket segments = readFull n middle ∧ middle.flatten = tail := by
  have htwo : 2 ≤ segments.flatten.length := by simp [h]
  obtain ⟨middle, hread, hmiddle⟩ := readFull_of_le htwo
  rw [h, List.take_left' (length_toBigEndian 2 n)] at hread
  rw [h, List.drop_left' (length_toBigEndian 2 n)] at hmiddle
  have hvalue : ofBigEndian (toBigEndian 2 n) = n := by
    rw [ofBigEndian_toBigEndian]
    omega
  refine ⟨middle, ?_, hmiddle⟩
  rw [readRawPacket, hread]
  exact congrArg (fun k => readFull k middle) hvalue

theorem readRawPacket_frame {segments : List (List UInt8)} {pkt tail : List UInt8}
    (hlen : pkt.length ≤ 65535)
    (h : segments.flatten = toBigEndian 2 pkt.length ++ (pkt ++ tail)) :
    ∃ rest, readRawPacket segments = .ok (pkt, rest) ∧ rest.flatten = tail := by
  obtain ⟨middle, hread, hmiddle⟩ := readRawPacket_length hlen h
  have hle : pkt.length ≤ middle.flatten.length := by simp [hmiddle]
  obtain ⟨rest, hbody, hrest⟩ := readFull_of_le hle
  rw [hmiddle, List.take_left' rfl] at hbody
  rw [hmiddle, List.drop_left' rfl] at hrest
  exact ⟨rest, hread.trans hbody, hrest⟩

theorem readRawPacket_cut {segments : List (List UInt8)} {pkt tail : List UInt8} {cut : Nat}
    (hlen : pkt.length ≤ 65535) (hcut : cut < pkt.length + 2)
    (h : segments.flatten = (toBigEndian 2 pkt.length ++ (pkt ++ tail)).take cut) :
    ∃ err, readRawPacket segments = .error err := by
  by_cases htwo : cut < 2
  · have hshort : segments.flatten.length < 2 := by
      rw [h, List.length_take]
      omega
    rw [readRawPacket, readFull_of_lt hshort]
    exact ⟨_, rfl⟩
  · rw [take_append_of_length_le (by simp; omega)] at h
    obtain ⟨middle, hread, hmiddle⟩ := readRawPacket_length hlen h
    have hshort : middle.flatten.length < pkt.length := by
      rw [hmiddle, List.length_take, length_toBigEndian]
      omega
    rw [hread, readFull_of_lt hshort]
    exact ⟨_, rfl⟩

/-- What the peer reads is what was written, up to the first packet that is too long or that
did not arrive whole, however the stream is cut into segments. If it does not break, nothing is
missing. -/
theorem moveUp_moveDown (pkts segments : List (List UInt8)) (cut : Nat)
    (h : segments.flatten = (moveDown pkts).take cut) :
    (moveUp segments).1 = arrived cut pkts ∧
      ((moveDown pkts).length ≤ cut →
        moveUp segments = (pkts.takeWhile (fun pkt => pkt.length ≤ 65535), .eof)) := by
  induction pkts generalizing segments cut with
  | nil =>
    have hnil : segments.flatten = [] := by simpa [moveDown] using h
    rw [moveUp_of_nil hnil]
    exact ⟨rfl, fun _ => rfl⟩
  | cons pkt rest ih =>
    by_cases hlen : pkt.length ≤ 65535
    · have hwritten : moveDown (pkt :: rest) =
          toBigEndian 2 pkt.length ++ (pkt ++ moveDown rest) := by
        rw [moveDown, writeRawPacket, if_neg (by omega)]
        exact List.append_assoc _ _ _
      rw [hwritten] at h ⊢
      by_cases hcut : pkt.length + 2 ≤ cut
      · have hsplit : (toBigEndian 2 pkt.length ++ (pkt ++ moveDown rest)).take cut =
            toBigEndian 2 pkt.length ++ (pkt ++ (moveDown rest).take (cut - (pkt.length + 2))) := by
          rw [take_append_of_length_le (by simp; omega),
            take_append_of_length_le (by simp; omega), length_toBigEndian,
            show cut - 2 - pkt.length = cut - (pkt.length + 2) by omega]
        obtain ⟨segments', hread, hrest⟩ := readRawPacket_frame hlen (h.trans hsplit)
        obtain ⟨hfirst, hwhole⟩ := ih segments' (cut - (pkt.length + 2)) hrest
        rw [moveUp_of_ok hread]
        refine ⟨?_, ?_⟩
        · rw [arrived, if_pos ⟨hlen, hcut⟩, hfirst]
        · intro hall
          rw [hwhole (by simp at hall; omega), List.takeWhile_cons_of_pos (by simpa using hlen)]
      · obtain ⟨err, herr⟩ := readRawPacket_cut hlen (by omega) h
        rw [moveUp_of_error herr]
        refine ⟨?_, ?_⟩
        · rw [arrived, if_neg (by omega)]
        · intro hall
          simp at hall
          omega
    · have hwritten : moveDown (pkt :: rest) = [] := by
        rw [moveDown, writeRawPacket, if_pos (by omega)]
      have hnil : segments.flatten = [] := by simpa [hwritten] using h
      rw [moveUp_of_nil hnil]
      refine ⟨?_, fun _ => ?_⟩
      · rw [arrived, if_neg (by omega)]
      · rw [List.takeWhile_cons_of_neg (by simpa using hlen)]

/-- Two packets that arrive in segments of one, two and four bytes. -/
theorem moveUp_moveDown_segments :
    [[0], [2, 1], [2, 0, 1, 3]].flatten = (moveDown [[1, 2], [3]]).take 7 ∧
      moveUp [[0], [2, 1], [2, 0, 1, 3]] = ([[1, 2], [3]], .eof) :=
  ⟨by decide, (moveUp_moveDown [[1, 2], [3]] [[0], [2, 1], [2, 0, 1, 3]] 7 (by decide)).2
    (by decide)⟩

end ResidentialIPManager.MiniVPN
