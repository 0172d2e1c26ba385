import TieredCache.Proofs.Json.Reads
import TieredCache.Response.Stored

/-!
Responses survive their encoding. Main statements: the text of a head is read back as that head, and
an encoded response is decoded as that response.
-/

namespace TieredCache
open Json

/-! ### Members of objects -/

section Members

variable {record : Type} {member : String → record → ValueReader record} {seen extended : record}
  {name : String} {value after : Bytes}

private theorem members?_start (budget : Nat)
    (read : member name seen value = some (extended, after)) :
    members? member (budget + 1) true seen (quoted name ++ 58 :: value) =
      members? member budget false extended after := by
  have opened : quoted name ++ 58 :: value =
      quote :: ((Text.bytes name).flatMap escapedOctet ++ quote :: 58 :: value) := by
    simp [quoted]
  rw [opened, members?, skipSpace_cons (by decide)]
  change (string? _).bind _ = _
  rw [← opened, string?_quoted]
  change ((expect? 58 (58 :: value)).bind fun input => (member name seen input).bind _) = _
  rw [expect?_cons (by decide), Option.bind_some, read]
  rfl

private theorem members?_next (budget : Nat)
    (read : member name seen value = some (extended, after)) :
    members? member (budget + 1) false seen (44 :: (quoted name ++ 58 :: value)) =
      members? member budget false extended after := by
  rw [members?, skipSpace_cons (by decide)]
  change (string? (quoted name ++ 58 :: value)).bind _ = _
  rw [string?_quoted]
  change ((expect? 58 (58 :: value)).bind fun input => (member name seen input).bind _) = _
  rw [expect?_cons (by decide), Option.bind_some, read]
  rfl

private theorem members?_close (budget : Nat) (first : Bool) (rest : Bytes) :
    members? member (budget + 1) first seen (125 :: rest) = some (seen, rest) := by
  rw [members?, skipSpace_cons (by decide)]
  rfl

end Members

namespace Head

/-! ### Fields -/

theorem field?_writeField (field : Field) (rest : Bytes) :
    field? (writeField field ++ rest) = some (field, rest) := by
  have written : writeField field ++ rest =
      91 :: (quoted field.name ++ 44 :: (quoted field.value ++ 93 :: rest)) := by
    simp [writeField]
  have opens : isSpace 91 = false := by decide
  have continues : isSpace 44 = false := by decide
  have ends : isSpace 93 = false := by decide
  unfold field?
  simp only [written, expect?_cons opens, string?_quoted, expect?_cons continues,
    expect?_cons ends, bind, Option.bind, pure]

def writeMore (fields : List Field) : Bytes := fields.flatMap fun field => 44 :: writeField field

theorem moreFields?_writeMore {budget : Nat} {fields : List Field} (enough : fields.length < budget)
    (rest : Bytes) : moreFields? budget (writeMore fields ++ 93 :: rest) = some (fields, rest) := by
  induction fields generalizing budget with
  | nil =>
      cases budget with
      | zero => exact absurd enough (Nat.not_lt_zero _)
      | succ budget =>
          change moreFields? (budget + 1) (93 :: rest) = _
          rw [moreFields?, skipSpace_cons (by decide)]
          rfl
  | cons field fields ih =>
      cases budget with
      | zero => exact absurd enough (Nat.not_lt_zero _)
      | succ budget =>
          have written : writeMore (field :: fields) ++ 93 :: rest =
              44 :: (writeField field ++ (writeMore fields ++ 93 :: rest)) := by
            simp [writeMore]
          rw [written, moreFields?, skipSpace_cons (by decide)]
          simp only [field?_writeField, ih (Nat.lt_of_succ_lt_succ enough), bind, Option.bind, pure]

theorem intercalate_writeField (field : Field) (fields : List Field) :
    [44].intercalate ((field :: fields).map writeField) = writeField field ++ writeMore fields := by
  induction fields generalizing field with
  | nil => simp [writeMore, List.intercalate]
  | cons next fields ih =>
      rw [List.map_cons, List.map_cons, List.intercalate_cons_cons, ← List.map_cons, ih]
      simp [writeMore]

theorem length_le_writeMore (fields : List Field) : fields.length ≤ (writeMore fields).length := by
  induction fields with
  | nil => exact Nat.le_refl _
  | cons field fields ih =>
      change _ ≤ (44 :: writeField field ++ writeMore fields).length
      rw [List.length_cons, List.length_append, List.length_cons]
      omega

theorem fields?_write (fields : List Field) (rest : Bytes) :
    fields? (91 :: ([44].intercalate (fields.map writeField) ++ 93 :: rest)) =
      some (fields, rest) := by
  unfold fields?
  rw [expect?_cons (by decide)]
  cases fields with
  | nil => rfl
  | cons field fields =>
      have enough : fields.length <
          (writeField field ++ (writeMore fields ++ 93 :: rest)).length := by
        have fewer := length_le_writeMore fields
        simp only [List.length_append, List.length_cons]
        omega
      have opened : ∃ more, writeField field ++ (writeMore fields ++ 93 :: rest) = 91 :: more :=
        ⟨_, rfl⟩
      rw [intercalate_writeField, List.append_assoc]
      simp only [bind, Option.bind_some]
      split
      · rename_i others closed
        obtain ⟨more, first⟩ := opened
        rw [first, skipSpace_cons (by decide)] at closed
        exact absurd (List.cons.inj closed).1 (by decide)
      · simp only [field?_writeField, moreFields?_writeMore enough, Option.bind_some, pure]

/-! ### Freshness -/

theorem millis?_decimal (count : Millis) {octet : UInt8} (closing : closes octet = true)
    (rest : Bytes) : millis? (decimal count.value ++ octet :: rest) = some (count, octet :: rest) := by
  have inside : Millis.ofInt? count.value = some count := dif_pos ⟨count.lower, count.upper⟩
  unfold millis?
  simp only [integer?_decimal count.value closing, inside, bind, Option.bind, pure]

private theorem freshnessMember_date (date : Millis) (seen : FreshnessParts)
    (fresh : seen.date = none) {octet : UInt8} (closing : closes octet = true) (rest : Bytes) :
    freshnessMember "date_ms" seen (decimal date.value ++ octet :: rest) =
      some ({ seen with date := some date }, octet :: rest) := by
  rw [freshnessMember, once, fresh, millis?_decimal date closing]
  rfl

private theorem freshnessMember_lifetime (lifetime : Millis) (seen : FreshnessParts)
    (fresh : seen.lifetime = none) {octet : UInt8} (closing : closes octet = true) (rest : Bytes) :
    freshnessMember "ttl_ms" seen (decimal lifetime.value ++ octet :: rest) =
      some ({ seen with lifetime := some lifetime }, octet :: rest) := by
  rw [freshnessMember, once, fresh, millis?_decimal lifetime closing]
  rfl

private theorem freshnessMember_explicit (explicit : Bool) (seen : FreshnessParts)
    (fresh : seen.explicit = none) (rest : Bytes) :
    freshnessMember "explicit" seen (writeFlag explicit ++ rest) =
      some ({ seen with explicit := some explicit }, rest) := by
  rw [freshnessMember, once, fresh, flag?_writeFlag]
  rfl

theorem freshnessObject?_write (freshness : Freshness) (rest : Bytes) :
    freshnessObject? (writeFreshness freshness ++ rest) = some (freshness, rest) := by
  let afterLifetime := quoted "explicit" ++ 58 :: (writeFlag freshness.explicit ++ 125 :: rest)
  let afterDate := quoted "ttl_ms" ++ 58 :: (decimal freshness.lifetime.value ++ 44 :: afterLifetime)
  let inside := quoted "date_ms" ++ 58 :: (decimal freshness.date.value ++ 44 :: afterDate)
  have written : writeFreshness freshness ++ rest = 123 :: inside := by
    simp [writeFreshness, inside, afterDate, afterLifetime]
  have members : ∀ budget, members? freshnessMember (budget + 4) true {} inside =
      some (⟨some freshness.date, some freshness.lifetime, some freshness.explicit⟩, rest) := by
    intro budget
    calc members? freshnessMember (budget + 4) true {} inside
        = members? freshnessMember (budget + 3) false ⟨some freshness.date, none, none⟩
            (44 :: afterDate) := members?_start _ (freshnessMember_date _ _ rfl rfl _)
      _ = members? freshnessMember (budget + 2) false
            ⟨some freshness.date, some freshness.lifetime, none⟩ (44 :: afterLifetime) :=
          members?_next _ (freshnessMember_lifetime _ _ rfl rfl _)
      _ = members? freshnessMember (budget + 1) false
            ⟨some freshness.date, some freshness.lifetime, some freshness.explicit⟩
            (125 :: rest) := members?_next _ (freshnessMember_explicit _ _ rfl _)
      _ = _ := members?_close _ _ _
  obtain ⟨budget, enough⟩ : ∃ budget, inside.length + 1 = budget + 4 := by
    refine ⟨inside.length - 3, ?_⟩
    have long : 3 ≤ (quoted "date_ms").length := by decide +kernel
    simp only [inside, List.length_append]
    omega
  rw [written, freshnessObject?, skipSpace_cons (by decide)]
  simp only [enough, members, bind, Option.bind, pure]

/-! ### Heads -/

theorem status?_decimal (status : UInt16) {octet : UInt8} (closing : closes octet = true)
    (rest : Bytes) :
    status? (decimal status.toNat ++ octet :: rest) = some (status, octet :: rest) := by
  unfold status?
  simp only [naturalBelow?_decimal status.toNat_lt closing, Option.map_some, UInt16.ofNat_toNat]

theorem optionalFreshness?_write (freshness : Freshness) (rest : Bytes) :
    optionalFreshness? (writeFreshness freshness ++ rest) = some (some freshness, rest) := by
  have read := freshnessObject?_write freshness rest
  unfold optionalFreshness?
  split
  · rename_i others opened
    have first : skipSpace (writeFreshness freshness ++ rest) =
        123 :: ((writeFreshness freshness).tail ++ rest) := rfl
    rw [first] at opened
    exact absurd (List.cons.inj opened).1 (by decide)
  · rw [read]
    rfl

private theorem headMember_status (status : UInt16) (seen : HeadParts) (fresh : seen.status = none)
    {octet : UInt8} (closing : closes octet = true) (rest : Bytes) :
    headMember "status_code" seen (decimal status.toNat ++ octet :: rest) =
      some ({ seen with status := some status }, octet :: rest) := by
  rw [headMember, once, fresh, status?_decimal status closing]
  rfl

private theorem headMember_fields (fields : List Field) (seen : HeadParts)
    (fresh : seen.fields = none) (rest : Bytes) :
    headMember "headers" seen (91 :: ([44].intercalate (fields.map writeField) ++ 93 :: rest)) =
      some ({ seen with fields := some fields }, rest) := by
  rw [headMember, once, fresh, fields?_write]
  rfl

private theorem headMember_freshness (freshness : Freshness) (seen : HeadParts)
    (fresh : seen.freshness = none) (rest : Bytes) :
    headMember "caching" seen (writeFreshness freshness ++ rest) =
      some ({ seen with freshness := some (some freshness) }, rest) := by
  rw [headMember, once, fresh, optionalFreshness?_write]
  rfl

private def writeEnd : Option Freshness → Bytes
  | none => [125]
  | some freshness => 44 :: (quoted "caching" ++ 58 :: (writeFreshness freshness ++ [125]))

private theorem members?_writeEnd (budget : Nat) (status : UInt16) (fields : List Field)
    (freshness : Option Freshness) :
    members? headMember (budget + 2) false ⟨some status, some fields, none⟩ (writeEnd freshness) =
      some (⟨some status, some fields, freshness.map some⟩, []) := by
  cases freshness with
  | none => exact members?_close _ _ _
  | some freshness =>
      exact (members?_next _ (headMember_freshness freshness _ rfl _)).trans (members?_close _ _ _)

/-- The text of a head is read back as that head. -/
theorem read?_write (head : Head) : read? head.write = some head := by
  let afterStatus := quoted "headers" ++
    58 :: (91 :: ([44].intercalate (head.fields.map writeField) ++ 93 :: writeEnd head.freshness))
  let inside := quoted "status_code" ++ 58 :: (decimal head.status.toNat ++ 44 :: afterStatus)
  have written : head.write = 123 :: inside := by
    cases same : head.freshness <;> simp [write, inside, afterStatus, writeEnd, same]
  have members : ∀ budget, members? headMember (budget + 4) true {} inside =
      some (⟨some head.status, some head.fields, head.freshness.map some⟩, []) := by
    intro budget
    calc members? headMember (budget + 4) true {} inside
        = members? headMember (budget + 3) false ⟨some head.status, none, none⟩
            (44 :: afterStatus) := members?_start _ (headMember_status _ _ rfl rfl _)
      _ = members? headMember (budget + 2) false ⟨some head.status, some head.fields, none⟩
            (writeEnd head.freshness) := members?_next _ (headMember_fields _ _ rfl _)
      _ = _ := members?_writeEnd _ _ _ _
  obtain ⟨budget, enough⟩ : ∃ budget, inside.length + 1 = budget + 4 := by
    refine ⟨inside.length - 3, ?_⟩
    have long : 3 ≤ (quoted "status_code").length := by decide +kernel
    simp only [inside, List.length_append]
    omega
  have value : headValue? head.write = some (head, []) := by
    rw [written, headValue?, skipSpace_cons (by decide)]
    simp only [enough, members, bind, Option.bind, pure]
    cases same : head.freshness <;> cases head <;> cases same <;> rfl
  rw [read?, whole?, value]
  rfl

end Head

namespace Stored

theorem lengthOf_lengthOctets {length : Nat} (short : length < 0x100000000) :
    lengthOf (lengthOctets length) = length := by
  simp only [lengthOf, lengthOctets, List.foldl_cons, List.foldl_nil, UInt8.toNat_ofNat']
  omega

/-- An encoded response is decoded as that response. -/
theorem decode_encoded {head : Head} {body : Bytes} {stored : Stored}
    (encodes : encode head body = .ok stored) : decode stored.encoded = .ok stored := by
  unfold encode at encodes
  by_cases short : head.write.length < 0x100000000
  · rw [if_pos short] at encodes
    cases encodes
    have framed : marker :: lengthOctets head.write.length ++ head.write ++ body =
        marker :: (lengthOctets head.write.length ++ (head.write ++ body)) := by simp
    have long : ¬(lengthOctets head.write.length ++ (head.write ++ body)).length < 4 := by
      simp [lengthOctets]
    have four : (lengthOctets head.write.length).length = 4 := rfl
    have whole : ¬(head.write ++ body).length < head.write.length := by simp
    rw [framed]
    simp only [decode, ne_eq, not_true_eq_false, if_false, if_neg long, List.take_left' four,
      List.drop_left' four, lengthOf_lengthOctets short, if_neg whole, List.take_left,
      List.drop_left, Head.read?_write]
  · rw [if_neg short] at encodes
    cases encodes

theorem encode_ok {head : Head} {body : Bytes} {stored : Stored}
    (encodes : encode head body = .ok stored) : stored.head = head ∧ stored.body = body := by
  unfold encode at encodes
  by_cases short : head.write.length < 0x100000000
  · rw [if_pos short] at encodes
    cases encodes
    exact ⟨rfl, rfl⟩
  · rw [if_neg short] at encodes
    cases encodes

/-- The head takes less than four gigabytes beside the body. -/
theorem size_encode {head : Head} {body : Bytes} {stored : Stored}
    (encodes : encode head body = .ok stored) :
    stored.size < body.length + (frameLength + 0x100000000) := by
  unfold encode at encodes
  by_cases short : head.write.length < 0x100000000
  · rw [if_pos short] at encodes
    cases encodes
    simp only [size, List.cons_append, List.length_cons, List.length_append, lengthOctets,
      List.length_nil, frameLength]
    omega
  · rw [if_neg short] at encodes
    cases encodes

/-- What was decoded is kept with the octets that it was decoded from. -/
theorem encoded_of_decode {encoded : Bytes} {stored : Stored}
    (decodes : decode encoded = .ok stored) : stored.encoded = encoded := by
  unfold decode at decodes
  simp only at decodes
  repeat' split at decodes
  all_goals cases decodes
  rfl

end Stored

end TieredCache
