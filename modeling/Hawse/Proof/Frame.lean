import Hawse.Frame
import Hawse.Proof.Packet

namespace Hawse.Proof.Frame
open Hawse.Frame RecvHalf Proof.Packet

section Read

theorem read_some {recv : RecvHalf} (left : recv.bytes ≠ []) (room : Nat) :
    ∃ got, 0 < got ∧ got ≤ room + 1 ∧ recv.read (room + 1) = (.ok (recv.bytes.take got),
      { recv with bytes := recv.bytes.drop got, reads := recv.reads + 1 }) := by
  refine ⟨min (room + 1) (recv.ready recv.reads + 1), by omega, by omega, ?_⟩
  unfold RecvHalf.read
  cases bytes : recv.bytes with
  | nil => exact absurd bytes left
  | cons => cases recv.ending <;> rfl

theorem fill_end {recv : RecvHalf} (ended : recv.bytes = []) (left len : Nat) :
    ∃ error, fill (left + 1) (len + 1) recv = (.error error, recv) := by
  cases ending : recv.ending with
  | eof => exact ⟨.unexpectedEof, by simp [fill, RecvHalf.read, ended, ending]⟩
  | broken => exact ⟨.broken, by simp [fill, RecvHalf.read, ended, ending]⟩

/-- The loop gets its bytes whatever the reads have ready, or comes to the end. Each read gets at
least one, so there are never more reads to make than bytes to get. -/
theorem fill_spec {left len : Nat} (enough : len ≤ left) (recv : RecvHalf) :
    (len ≤ recv.bytes.length → ∃ reads, fill left len recv =
      (.ok (recv.bytes.take len), { recv with bytes := recv.bytes.drop len, reads })) ∧
    (recv.bytes.length < len → ∃ error next, fill left len recv = (.error error, next)) := by
  induction left generalizing len recv with
  | zero =>
      obtain rfl : len = 0 := by omega
      exact ⟨fun _ => ⟨recv.reads, rfl⟩, fun short => absurd short (Nat.not_lt_zero _)⟩
  | succ left ih =>
      cases len with
      | zero => exact ⟨fun _ => ⟨recv.reads, rfl⟩, fun short => absurd short (Nat.not_lt_zero _)⟩
      | succ len =>
          by_cases ended : recv.bytes = []
          · obtain ⟨error, failed⟩ := fill_end ended left len
            refine ⟨?_, fun _ => ⟨error, recv, failed⟩⟩
            intro long
            rw [ended] at long
            exact absurd long (Nat.not_succ_le_zero len)
          · obtain ⟨got, pos, fits, read⟩ := read_some ended len
            have some := List.length_pos_iff.mpr ended
            obtain ⟨first, rest, bytes⟩ := List.exists_cons_of_length_pos
              (show 0 < (recv.bytes.take got).length by rw [List.length_take]; omega)
            have length := List.length_take (i := got) (l := recv.bytes)
            have again : len + 1 - (recv.bytes.take got).length ≤ left := by omega
            obtain ⟨whole, short⟩ := ih again { recv with bytes := recv.bytes.drop got, reads := recv.reads + 1 }
            rw [List.length_drop] at whole short
            rw [bytes] at read whole short length
            refine ⟨?_, ?_⟩
            · intro long
              obtain ⟨reads, ran⟩ := whole (by omega)
              have taken : (first :: rest).length = got := by omega
              refine ⟨reads, ?_⟩
              simp only [fill, read, ran, Prod.mk.injEq, Except.ok.injEq, RecvHalf.mk.injEq, and_true]
              rw [taken, ← bytes, List.drop_drop, ← List.take_add, Nat.add_sub_cancel' fits]
              exact ⟨rfl, rfl⟩
            · intro few
              obtain ⟨error, next, ran⟩ := short (by omega)
              exact ⟨error, next, by simp only [fill, read, ran]⟩

theorem readExact_ok {recv : RecvHalf} {bytes rest : List UInt8} (whole : recv.bytes = bytes ++ rest) :
    ∃ reads, recv.readExact bytes.length = (.ok bytes, { recv with bytes := rest, reads }) := by
  obtain ⟨reads, ran⟩ := (fill_spec le_rfl recv).1 (show bytes.length ≤ recv.bytes.length by simp [whole])
  rw [whole, List.take_left, List.drop_left] at ran
  exact ⟨reads, ran⟩

theorem readExact_short {recv : RecvHalf} {len : Nat} (short : recv.bytes.length < len) :
    ∃ error next, recv.readExact len = (.error error, next) :=
  (fill_spec le_rfl recv).2 short

end Read

section Body

theorem fromLeBytes_toLeBytes (len : BitVec 32) : fromLeBytes (toLeBytes len) = len := by
  rw [fromLeBytes, toLeBytes, List.reverse_reverse, ofOctets_octets (by decide)]

theorem toLeBytes_fromLeBytes {bytes : List UInt8} (length : bytes.length = 4) :
    toLeBytes (fromLeBytes bytes) = bytes := by
  rw [toLeBytes, fromLeBytes, octets_ofOctets (by decide) (by rw [List.length_reverse, length]), List.reverse_reverse]

theorem toLeBytes_length (len : BitVec 32) : (toLeBytes len).length = 4 := by
  rw [toLeBytes, List.length_reverse, octets_length]

def frameOf (body : List UInt8) : List UInt8 := toLeBytes (BitVec.ofNat 32 body.length) ++ body

theorem maxFrame_lt : maxFrame < 2 ^ 32 := by decide

theorem fromLeBytes_len {len : Nat} (fits : len ≤ maxFrame) :
    (fromLeBytes (toLeBytes (BitVec.ofNat 32 len))).toNat = len := by
  rw [fromLeBytes_toLeBytes, BitVec.toNat_ofNat, Nat.mod_eq_of_lt (lt_of_le_of_lt fits maxFrame_lt)]

theorem writeBody_frameOf (sent : List UInt8) {body : List UInt8} (fits : body.length ≤ maxFrame) :
    writeBody sent body = some (sent ++ frameOf body) :=
  if_neg (Nat.not_le.mpr (lt_of_le_of_lt fits maxFrame_lt))

section Split
variable {recv : RecvHalf} {head rest : List UInt8} (length : head.length = 4) (bytes : recv.bytes = head ++ rest)
include length bytes

theorem readExact_head : ∃ reads, recv.readExact 4 = (.ok head, { recv with bytes := rest, reads }) :=
  length ▸ readExact_ok bytes

theorem readBody_tooLarge (large : maxFrame < (fromLeBytes head).toNat) :
    ∃ reads, readBody recv =
      (.error (.frame (.tooLarge (fromLeBytes head).toNat)), { recv with bytes := rest, reads }) := by
  obtain ⟨reads, read⟩ := readExact_head length bytes
  exact ⟨reads, by simp only [readBody, read, gt_iff_lt, if_pos large]⟩

theorem readBody_short (fits : (fromLeBytes head).toNat ≤ maxFrame) (short : rest.length < (fromLeBytes head).toNat) :
    ∃ error next, readBody recv = (.error (.io error), next) := by
  obtain ⟨reads, read⟩ := readExact_head length bytes
  obtain ⟨error, next, failed⟩ :=
    readExact_short (show { recv with bytes := rest, reads }.bytes.length < (fromLeBytes head).toNat from short)
  exact ⟨error, next, by simp only [readBody, read, gt_iff_lt, if_neg (Nat.not_lt.mpr fits), failed]⟩

theorem readBody_body {body left : List UInt8} (fits : (fromLeBytes head).toNat ≤ maxFrame)
    (exactly : body.length = (fromLeBytes head).toNat) (whole : rest = body ++ left) :
    ∃ reads, readBody recv = (.ok body, { recv with bytes := left, reads }) := by
  obtain ⟨reads, read⟩ := readExact_head length bytes
  obtain ⟨reads', read'⟩ := readExact_ok (show { recv with bytes := rest, reads }.bytes = body ++ left from whole)
  rw [exactly] at read'
  exact ⟨reads', by simp only [readBody, read, gt_iff_lt, if_neg (Nat.not_lt.mpr fits), read']⟩

end Split

theorem readBody_cut {recv : RecvHalf} (short : recv.bytes.length < 4) :
    ∃ error next, readBody recv = (.error (.io error), next) := by
  obtain ⟨error, next, failed⟩ := readExact_short short
  exact ⟨error, next, by simp only [readBody, failed]⟩

theorem readBody_frameOf {recv : RecvHalf} {body rest : List UInt8} (fits : body.length ≤ maxFrame)
    (bytes : recv.bytes = frameOf body ++ rest) :
    ∃ reads, readBody recv = (.ok body, { recv with bytes := rest, reads }) := by
  have len := fromLeBytes_len fits
  exact readBody_body (toLeBytes_length _) (bytes.trans (List.append_assoc ..)) (len.le.trans fits) len.symm rfl

theorem readBody_ok {recv next : RecvHalf} {body : List UInt8} (read : readBody recv = (.ok body, next)) :
    body.length ≤ maxFrame ∧ recv.bytes = frameOf body ++ next.bytes := by
  rcases Nat.lt_or_ge recv.bytes.length 4 with cut | long
  · obtain ⟨error, other, failed⟩ := readBody_cut cut
    rw [read] at failed
    cases failed
  · have length := List.length_take_of_le long
    have bytes := (List.take_append_drop 4 recv.bytes).symm
    rcases Nat.lt_or_ge maxFrame (fromLeBytes (recv.bytes.take 4)).toNat with large | fits
    · obtain ⟨reads, failed⟩ := readBody_tooLarge length bytes large
      rw [read] at failed
      cases failed
    · rcases Nat.lt_or_ge (recv.bytes.drop 4).length (fromLeBytes (recv.bytes.take 4)).toNat with short | whole
      · obtain ⟨error, other, failed⟩ := readBody_short length bytes fits short
        rw [read] at failed
        cases failed
      · have exactly := List.length_take_of_le whole
        obtain ⟨reads, same⟩ := readBody_body length bytes fits exactly (List.take_append_drop _ _).symm
        rw [read] at same
        cases same
        refine ⟨exactly.le.trans fits, ?_⟩
        rw [frameOf, exactly, BitVec.ofNat_toNat, BitVec.setWidth_eq, toLeBytes_fromLeBytes length, List.append_assoc,
          List.take_append_drop, List.take_append_drop]

/-- So many frames off a stream, up to the first that fails. -/
def readBodies : Nat → RecvHalf → Except StreamFrameError (List (List UInt8)) × RecvHalf
  | 0, recv => (.ok [], recv)
  | count + 1, recv =>
      match readBody recv with
      | (.error error, recv) => (.error error, recv)
      | (.ok body, recv) =>
          match readBodies count recv with
          | (.error error, recv) => (.error error, recv)
          | (.ok bodies, recv) => (.ok (body :: bodies), recv)

theorem readBodies_frames {bodies : List (List UInt8)} (fits : ∀ body ∈ bodies, body.length ≤ maxFrame)
    {recv : RecvHalf} {rest : List UInt8} (bytes : recv.bytes = (bodies.map frameOf).flatten ++ rest) :
    ∃ reads, readBodies bodies.length recv = (.ok bodies, { recv with bytes := rest, reads }) := by
  induction bodies generalizing recv with
  | nil =>
      obtain rfl : recv.bytes = rest := bytes
      exact ⟨recv.reads, rfl⟩
  | cons body bodies ih =>
      rw [List.map_cons, List.flatten_cons, List.append_assoc] at bytes
      obtain ⟨reads, read⟩ := readBody_frameOf (fits body (.head _)) bytes
      obtain ⟨reads', read'⟩ := ih (fun body member => fits body (.tail _ member))
        (show { recv with bytes := (bodies.map frameOf).flatten ++ rest, reads }.bytes = _ from rfl)
      exact ⟨reads', by simp only [List.length_cons, readBodies, read, read']⟩

theorem writeBodies_frames {bodies : List (List UInt8)} (fits : ∀ body ∈ bodies, body.length ≤ maxFrame)
    (sent : List UInt8) : bodies.foldlM writeBody sent = some (sent ++ (bodies.map frameOf).flatten) := by
  induction bodies generalizing sent with
  | nil => simp
  | cons body bodies ih =>
      rw [List.foldlM_cons, writeBody_frameOf sent (fits body (.head _))]
      refine (ih (fun body member => fits body (.tail _ member)) _).trans ?_
      rw [List.map_cons, List.flatten_cons, List.append_assoc]

end Body

section Codec

theorem codec_plain : codec.Plain := ⟨rfl, rfl, rfl⟩

variable [LengthDelimited] [documented : LengthDelimited.Documented]
include documented

theorem encode_codec {body : List UInt8} (fits : body.length ≤ maxFrame) :
    LengthDelimited.encode codec body = some (frameOf body) := by
  rw [documented.encode_eq codec body codec_plain]
  exact if_neg (Nat.not_lt.mpr fits)

theorem decode_codec {head : List UInt8} (length : head.length = 4) (rest : List UInt8) :
    LengthDelimited.decode codec (head ++ rest) =
      if maxFrame < (fromLeBytes head).toNat then .error ()
      else if rest.length < (fromLeBytes head).toNat then .ok none
      else .ok (some (rest.take (fromLeBytes head).toNat, rest.drop (fromLeBytes head).toNat)) :=
  documented.decode_eq codec head rest codec_plain length

theorem decode_codec_frameOf {body : List UInt8} (fits : body.length ≤ maxFrame) (rest : List UInt8) :
    LengthDelimited.decode codec (frameOf body ++ rest) = .ok (some (body, rest)) := by
  rw [frameOf, List.append_assoc, decode_codec (toLeBytes_length _), fromLeBytes_len fits,
    if_neg (Nat.not_lt.mpr fits), if_neg (by simp), List.take_left, List.drop_left]

theorem decode_codec_part {body part rest : List UInt8} (fits : body.length ≤ maxFrame)
    (whole : part ++ rest = frameOf body) (more : rest ≠ []) : LengthDelimited.decode codec part = .ok none := by
  rcases Nat.lt_or_ge part.length 4 with short | long
  · exact documented.decode_short codec part codec_plain short
  · have length := toLeBytes_length (BitVec.ofNat 32 body.length)
    have head : part.take 4 = toLeBytes (BitVec.ofNat 32 body.length) := by
      have first := congrArg (List.take 4) whole
      rwa [List.take_append_of_le_length long, frameOf, List.take_left' length] at first
    have missing : (part.drop 4).length < body.length := by
      have lengths := congrArg List.length whole
      rw [frameOf, List.length_append, List.length_append, length] at lengths
      have some := List.length_pos_iff.mpr more
      rw [List.length_drop]
      omega
    rw [← List.take_append_drop 4 part, decode_codec (List.length_take_of_le long), head, fromLeBytes_len fits,
      if_neg (Nat.not_lt.mpr fits), if_pos missing]

end Codec

/-- Frames under either reader, with anything after them. `read_body` takes nothing past a frame, and
nothing of a body it refuses. -/
theorem framing_round_trip [LengthDelimited] [LengthDelimited.Documented] :
    (∀ (bodies : List (List UInt8)) (rest : List UInt8) (ready : Nat → Nat) (reads : Nat) (ending : Ending),
      (∀ body ∈ bodies, body.length ≤ maxFrame) → ∃ sent, bodies.foldlM writeBody [] = some sent ∧
        ∃ reads', readBodies bodies.length ⟨sent ++ rest, ready, reads, ending⟩ =
          (.ok bodies, ⟨rest, ready, reads', ending⟩)) ∧
    (∀ (head rest : List UInt8) (ready : Nat → Nat) (reads : Nat) (ending : Ending), head.length = 4 →
      maxFrame < (fromLeBytes head).toNat → ∃ reads', readBody ⟨head ++ rest, ready, reads, ending⟩ =
        (.error (.frame (.tooLarge (fromLeBytes head).toNat)), ⟨rest, ready, reads', ending⟩)) ∧
    (∀ recv : RecvHalf, recv.bytes.length < 4 → ∃ error next, readBody recv = (.error (.io error), next)) ∧
    (∀ (head rest : List UInt8) (ready : Nat → Nat) (reads : Nat) (ending : Ending), head.length = 4 →
      (fromLeBytes head).toNat ≤ maxFrame → rest.length < (fromLeBytes head).toNat →
        ∃ error next, readBody ⟨head ++ rest, ready, reads, ending⟩ = (.error (.io error), next)) ∧
    (∀ (recv next : RecvHalf) (body : List UInt8), readBody recv = (.ok body, next) → body.length ≤ maxFrame ∧
      ∃ frame, writeBody [] body = some frame ∧ recv.bytes = frame ++ next.bytes) ∧
    ∀ body : List UInt8, body.length ≤ maxFrame → ∃ frame, writeBody [] body = some frame ∧
      LengthDelimited.encode codec body = some frame ∧
      (∀ rest, LengthDelimited.decode codec (frame ++ rest) = .ok (some (body, rest))) ∧
      ∀ part rest, part ++ rest = frame → rest ≠ [] → LengthDelimited.decode codec part = .ok none := by
  refine ⟨?_, ?_, fun recv => readBody_cut, ?_, ?_, ?_⟩
  · intro bodies rest ready reads ending fits
    exact ⟨_, writeBodies_frames fits [], readBodies_frames fits rfl⟩
  · intro head rest ready reads ending length large
    exact readBody_tooLarge length rfl large
  · intro head rest ready reads ending length fits short
    exact readBody_short length rfl fits short
  · intro recv next body read
    obtain ⟨fits, bytes⟩ := readBody_ok read
    exact ⟨fits, _, writeBody_frameOf [] fits, bytes⟩
  · intro body fits
    exact ⟨_, writeBody_frameOf [] fits, encode_codec fits, decode_codec_frameOf fits,
      fun part rest => decode_codec_part fits⟩

section Example

local instance lengthDelimited : LengthDelimited where
  encode codec frame :=
    if codec.maxFrameLength < frame.length then none else some (codec.field frame.length ++ frame)
  decode codec buffer :=
    let len := codec.value (buffer.take codec.lengthFieldLength)
    let rest := buffer.drop codec.lengthFieldLength
    if buffer.length < codec.lengthFieldLength then .ok none
    else if codec.maxFrameLength < len then .error ()
    else if rest.length < len then .ok none
    else .ok (some (rest.take len, rest.drop len))

local instance lengthDelimited_documented : LengthDelimited.Documented where
  encode_eq _ _ _ := rfl
  decode_short _ _ _ short := if_pos short
  decode_eq codec field rest _ length := by
    simp only [LengthDelimited.decode, List.take_left' length, List.drop_left' length]
    rw [if_neg (by simp [length])]

/-- Two frames and a visitor's first byte, off a stream that has one byte ready at a time. -/
theorem framing_round_trip_bytewise : ∃ reads,
    readBodies 2 ⟨[2, 0, 0, 0, 104, 105, 0, 0, 0, 0, 71], fun _ => 0, 0, .eof⟩ =
      (.ok [[104, 105], []], ⟨[71], fun _ => 0, reads, .eof⟩) := by
  obtain ⟨sent, wrote, reads, read⟩ :=
    framing_round_trip.1 [[104, 105], []] [71] (fun _ => 0) 0 .eof (by decide)
  obtain rfl : [2, 0, 0, 0, 104, 105, 0, 0, 0, 0] = sent := Option.some.inj (Eq.trans (by decide) wrote)
  exact ⟨reads, read⟩

end Example
end Hawse.Proof.Frame
