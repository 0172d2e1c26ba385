import TieredCache.Proofs.Response.RoundTrip

/-!
The frame of an encoded response: which octets its head comes from, and which are its body. Main
statements: what can be encoded is decoded as it was, and what can be decoded has a head that hangs
on the framed octets alone and a body that is all the rest.
-/

namespace TieredCache.Stored

/-- How long the head's text is, by the four octets behind the marker. -/
def declaredLength (encoded : Bytes) : Nat := lengthOf ((encoded.drop 1).take 4)

/-- The octets that belong to the head: the marker, the length and the text. -/
def frontLength (encoded : Bytes) : Nat := frameLength + declaredLength encoded

/-- An encoded response, taken apart. -/
structure Framed (encoded : Bytes) (head : Head) (body : Bytes) : Prop where
  marked : encoded.head? = some marker
  whole : frontLength encoded ≤ encoded.length
  text : Head.read? ((encoded.take (frontLength encoded)).drop frameLength) = some head
  rest : body = encoded.drop (frontLength encoded)

theorem decode_framed {encoded : Bytes} {head : Head} {body : Bytes}
    (framed : Framed encoded head body) : decode encoded = .ok ⟨head, body, encoded⟩ := by
  obtain ⟨marked, whole, text, rfl⟩ := framed
  cases encoded with
  | nil => cases marked
  | cons first rest =>
      have own : first = marker := Option.some.inj marked
      have front : frontLength (first :: rest) = lengthOf (rest.take 4) + 5 := Nat.add_comm _ _
      rw [front] at text whole ⊢
      rw [List.length_cons] at whole
      have long : ¬rest.length < 4 := by omega
      have fits : ¬(rest.drop 4).length < lengthOf (rest.take 4) := by
        rw [List.length_drop]
        omega
      have same : ((first :: rest).take (lengthOf (rest.take 4) + 5)).drop frameLength =
          (rest.drop 4).take (lengthOf (rest.take 4)) := by
        rw [frameLength, List.drop_take, List.drop_succ_cons, Nat.add_sub_cancel]
      have behind : (rest.drop 4).drop (lengthOf (rest.take 4)) =
          (first :: rest).drop (lengthOf (rest.take 4) + 5) := by
        rw [List.drop_drop, List.drop_succ_cons, Nat.add_comm]
      rw [same] at text
      simp only [decode, own, ne_eq, not_true_eq_false, if_false, if_neg long, if_neg fits, text,
        behind]

theorem framed_of_decode {encoded : Bytes} {stored : Stored} (decodes : decode encoded = .ok stored) :
    Framed encoded stored.head stored.body := by
  cases encoded with
  | nil => cases decodes
  | cons first rest =>
      have front : frontLength (first :: rest) = lengthOf (rest.take 4) + 5 := Nat.add_comm _ _
      rw [decode] at decodes
      by_cases own : first = marker
      · rw [if_neg (not_not_intro own)] at decodes
        by_cases short : rest.length < 4
        · rw [if_pos short] at decodes
          cases decodes
        · rw [if_neg short] at decodes
          by_cases cut : (rest.drop 4).length < lengthOf (rest.take 4)
          · simp only [if_pos cut] at decodes
            cases decodes
          · simp only [if_neg cut] at decodes
            rw [List.length_drop] at cut
            cases read : Head.read? ((rest.drop 4).take (lengthOf (rest.take 4))) with
            | none => simp only [read] at decodes; cases decodes
            | some head =>
                simp only [read] at decodes
                cases decodes
                refine ⟨congrArg some own, ?_, ?_, ?_⟩
                · rw [front, List.length_cons]
                  omega
                · rw [front, frameLength, List.drop_take, List.drop_succ_cons, Nat.add_sub_cancel]
                  exact read
                · rw [front, List.drop_drop, List.drop_succ_cons, Nat.add_comm]
      · rw [if_pos own] at decodes
        cases decodes

/-- The frame of a head does not depend on what follows it. -/
theorem Framed.exchange {encoded other : Bytes} {head : Head} {body : Bytes}
    (framed : Framed encoded head body)
    (same : other.take (frontLength encoded) = encoded.take (frontLength encoded)) :
    Framed other head (other.drop (frontLength encoded)) := by
  obtain ⟨marked, whole, text, -⟩ := framed
  have five : 5 ≤ frontLength encoded := Nat.le_add_right _ _
  have first : other.head? = encoded.head? := by
    have heads := congrArg List.head? same
    rwa [List.head?_take, List.head?_take, if_neg (by omega), if_neg (by omega)] at heads
  have length : declaredLength other = declaredLength encoded := by
    have taken : ∀ octets : Bytes, (octets.drop 1).take 4 =
        ((octets.take (frontLength encoded)).take 5).drop 1 := by
      intro octets
      rw [List.take_take, Nat.min_eq_left five, List.drop_take]
    rw [declaredLength, declaredLength, taken other, taken encoded, same]
  have front : frontLength other = frontLength encoded := by
    rw [frontLength, frontLength, length]
  have inside : frontLength encoded ≤ other.length := by
    have lengths := congrArg List.length same
    rw [List.length_take, List.length_take] at lengths
    omega
  refine ⟨first.trans marked, ?_, ?_, ?_⟩
  · rw [front]
    exact inside
  · rw [front, same]
    exact text
  · rw [front]

theorem encode_of_short {head : Head} (body : Bytes) (short : head.write.length < 0x100000000) :
    ∃ stored, encode head body = .ok stored ∧ decode stored.encoded = .ok stored ∧
      stored.head = head ∧ stored.body = body := by
  have encodes : encode head body =
      .ok ⟨head, body, marker :: lengthOctets head.write.length ++ head.write ++ body⟩ := by
    rw [encode]
    exact if_pos short
  exact ⟨_, encodes, decode_encoded encodes, rfl, rfl⟩

/-- A response with a head of less than 2 ^ 32 octets survives its encoding. Of octets that are
decoded, the head depends on the first five and as many as these say, and the body is the rest; the
response survives being encoded once more. -/
theorem decode_round_trip :
    (∀ (head : Head) (body : Bytes), head.write.length < 0x100000000 →
      ∃ stored, encode head body = .ok stored ∧ decode stored.encoded = .ok stored ∧
        stored.head = head ∧ stored.body = body) ∧
    ∀ (encoded : Bytes) (stored : Stored), decode encoded = .ok stored →
      (stored.head.write.length < 0x100000000 →
        ∃ again, encode stored.head stored.body = .ok again ∧ decode again.encoded = .ok again ∧
          again.head = stored.head ∧ again.body = stored.body) ∧
      frontLength encoded ≤ encoded.length ∧
      stored.body = encoded.drop (frontLength encoded) ∧
      ∀ other : Bytes, other.take (frontLength encoded) = encoded.take (frontLength encoded) →
        decode other = .ok ⟨stored.head, other.drop (frontLength encoded), other⟩ := by
  refine ⟨fun head body short => encode_of_short body short, ?_⟩
  intro encoded stored decodes
  have framed := framed_of_decode decodes
  refine ⟨fun short => encode_of_short stored.body short, framed.whole, framed.rest, ?_⟩
  intro other same
  exact decode_framed (framed.exchange same)

private def awkward : Head := ⟨200, [⟨"X-Name", "a\"b\\c\n\x01"⟩], some ⟨.clamp (-1), .clamp 60000, true⟩⟩

private def spaced : Bytes := [104, 0, 0, 0, 9, 91, 50, 48, 48, 44, 32, 91, 93, 93, 7]

theorem decode_round_trip_awkward :
    (awkward.write.length < 0x100000000 ∧ ∃ stored, encode awkward [1, 2] = .ok stored ∧
      decode stored.encoded = .ok stored ∧ stored.head = awkward ∧ stored.body = [1, 2]) ∧
    decode spaced = .ok ⟨⟨200, [], none⟩, [7], spaced⟩ ∧
      decode (spaced ++ [8]) = .ok ⟨⟨200, [], none⟩, [7, 8], spaced ++ [8]⟩ := by
  have short : awkward.write.length < 0x100000000 := by decide +kernel
  have decodes : decode spaced = .ok ⟨⟨200, [], none⟩, [7], spaced⟩ := by rfl
  refine ⟨⟨short, decode_round_trip.1 awkward [1, 2] short⟩, decodes, ?_⟩
  exact (decode_round_trip.2 spaced _ decodes).2.2.2 (spaced ++ [8]) (by decide +kernel)

end TieredCache.Stored
