import TieredCache.Json.Reader

/-!
Written values are read back. Main statements: `string?` reads what `quoted` writes, `integer?` what
`decimal` writes and `flag?` what `writeFlag` writes.
-/

namespace TieredCache.Json

/-! ### Texts -/

private theorem shortEscape?_of_lookup : ∀ octet : UInt8, ∀ letter ∈ shortEscapes.lookup octet,
    letter ≠ 117 ∧ shortEscape? letter = some octet :=
  Bytes.of_all_octets (by decide +kernel)

private theorem hexValue?_of_control : ∀ octet : UInt8, octet < 32 →
    hexValue? (lowerHexDigit (octet / 16)) = some (octet.toNat / 16) ∧
      hexValue? (lowerHexDigit (octet % 16)) = some (octet.toNat % 16) ∧
        String.utf8EncodeChar (Char.ofNat octet.toNat) = [octet] :=
  Bytes.of_all_octets (by decide +kernel)

private theorem plain_of_lookup : ∀ octet : UInt8, shortEscapes.lookup octet = none →
    octet ≠ quote ∧ octet ≠ backslash :=
  Bytes.of_all_octets (by decide +kernel)

theorem escapedOctet_ne_nil (octet : UInt8) : escapedOctet octet ≠ [] := by
  unfold escapedOctet
  split
  · exact List.cons_ne_nil _ _
  · split <;> exact List.cons_ne_nil _ _

private theorem unit?_of_control {octet : UInt8} (control : octet < 32) (input : Bytes) :
    unit? (48 :: 48 :: lowerHexDigit (octet / 16) :: lowerHexDigit (octet % 16) :: input) =
      some (octet.toNat, input) := by
  obtain ⟨upper, lower, _⟩ := hexValue?_of_control octet control
  have zero : hexValue? 48 = some 0 := by decide
  have whole : 4096 * 0 + 256 * 0 + 16 * (octet.toNat / 16) + octet.toNat % 16 = octet.toNat := by
    omega
  simp only [unit?, upper, lower, zero, bind, Option.bind, pure, whole]

private theorem character?_of_control {octet : UInt8} (control : octet < 32) (input : Bytes) :
    character? octet.toNat input = some (Char.ofNat octet.toNat, input) := by
  have below : octet.toNat < 32 := control
  unfold character?
  rw [if_neg (by omega), if_neg (by omega)]

/-- An octet is read back, however it was written. -/
private theorem textOctets?_escapedOctet (budget : Nat) (octet : UInt8) (input : Bytes) :
    textOctets? (budget + 1) (escapedOctet octet ++ input) =
      (textOctets? budget input).map fun (octets, rest) => (octet :: octets, rest) := by
  unfold escapedOctet
  cases found : shortEscapes.lookup octet with
  | some letter =>
      obtain ⟨different, meant⟩ := shortEscape?_of_lookup octet letter found
      simp only [List.cons_append, List.nil_append]
      rw [textOctets?, if_neg (by decide), if_pos rfl, meant]
      · cases textOctets? budget input <;> rfl
      · exact different
  | none =>
      by_cases control : octet < 32
      · obtain ⟨_, _, encoded⟩ := hexValue?_of_control octet control
        simp only [if_pos control, List.cons_append, List.nil_append]
        rw [textOctets?, if_neg (by decide), if_pos rfl, unit?_of_control control]
        simp only [character?_of_control control, bind, Option.bind]
        cases textOctets? budget input with
        | none => rfl
        | some read => simp only [encoded, List.singleton_append, Option.map_some]; rfl
      · obtain ⟨notQuote, notBackslash⟩ := plain_of_lookup octet found
        simp only [if_neg control, List.cons_append, List.nil_append]
        rw [textOctets?.eq_def]
        simp only [if_neg notQuote, if_neg notBackslash, if_neg control]
        cases textOctets? budget input <;> rfl

theorem textOctets?_flatMap {budget : Nat} {octets : Bytes} (enough : octets.length < budget)
    (rest : Bytes) :
    textOctets? budget (octets.flatMap escapedOctet ++ quote :: rest) = some (octets, rest) := by
  induction octets generalizing budget with
  | nil =>
      cases budget with
      | zero => exact absurd enough (Nat.not_lt_zero _)
      | succ budget =>
          rw [List.flatMap_nil, List.nil_append, textOctets?.eq_def]
          exact if_pos rfl
  | cons octet octets ih =>
      cases budget with
      | zero => exact absurd enough (Nat.not_lt_zero _)
      | succ budget =>
          rw [List.flatMap_cons, List.append_assoc, textOctets?_escapedOctet,
            ih (Nat.lt_of_succ_lt_succ enough)]
          rfl

theorem length_le_flatMap_escapedOctet (octets : Bytes) :
    octets.length ≤ (octets.flatMap escapedOctet).length := by
  induction octets with
  | nil => exact Nat.le_refl _
  | cons octet octets ih =>
      have some := List.length_pos_iff.mpr (escapedOctet_ne_nil octet)
      rw [List.flatMap_cons, List.length_append, List.length_cons]
      omega

/-! ### White space -/

/-- Octets that a written value can begin with, or that stand behind one. -/
theorem skipSpace_cons {octet : UInt8} (solid : isSpace octet = false) (rest : Bytes) :
    skipSpace (octet :: rest) = octet :: rest := by
  rw [skipSpace, List.dropWhile_cons_of_neg (by rw [solid]; exact Bool.false_ne_true)]

theorem expect?_cons {octet : UInt8} (solid : isSpace octet = false) (rest : Bytes) :
    expect? octet (octet :: rest) = some rest := by
  rw [expect?, skipSpace_cons solid]
  exact if_pos rfl

/-- Quoted text is read back, whatever follows. -/
theorem string?_quoted (text : String) (rest : Bytes) :
    string? (quoted text ++ rest) = some (text, rest) := by
  have written : quoted text ++ rest =
      quote :: ((Text.bytes text).flatMap escapedOctet ++ quote :: rest) := by
    simp [quoted]
  have enough : (Text.bytes text).length <
      ((Text.bytes text).flatMap escapedOctet ++ quote :: rest).length + 1 := by
    have fewer := length_le_flatMap_escapedOctet (Text.bytes text)
    rw [List.length_append]
    omega
  rw [written, string?, expect?_cons (by decide)]
  change text? _ = _
  rw [text?, textOctets?_flatMap enough]
  change (Text.ofBytes? (Text.bytes text)).bind (fun read => some (read, rest)) = _
  rw [Text.ofBytes?_bytes]
  rfl

/-! ### Numbers -/

private theorem digit_octet {digit : Nat} (small : digit < 10) :
    isDigit (UInt8.ofNat (48 + digit)) = true ∧ (UInt8.ofNat (48 + digit)).toNat - 48 = digit := by
  have all : ∀ digit < 10, isDigit (UInt8.ofNat (48 + digit)) = true ∧
      (UInt8.ofNat (48 + digit)).toNat - 48 = digit := by decide
  exact all digit small

theorem isDigit_of_mem_digits {number : Nat} {octet : UInt8} (member : octet ∈ digits number) :
    isDigit octet = true := by
  induction number using digits.induct with
  | case1 number small =>
      rw [digits, if_pos small] at member
      rw [List.mem_singleton.mp member]
      exact (digit_octet small).1
  | case2 number large ih =>
      rw [digits, if_neg large] at member
      rcases List.mem_append.mp member with earlier | last
      · exact ih earlier
      · rw [List.mem_singleton.mp last]
        exact (digit_octet (Nat.mod_lt _ (by decide))).1

/-- The first digit; only nought begins with a nought. -/
theorem digits_cons (number : Nat) :
    ∃ first more, digits number = first :: more ∧ (first = 48 → number = 0 ∧ more = []) := by
  induction number using digits.induct with
  | case1 number small =>
      refine ⟨_, _, by rw [digits, if_pos small], ?_⟩
      intro nought
      refine ⟨?_, rfl⟩
      have value := (digit_octet small).2
      rw [nought] at value
      exact value.symm
  | case2 number large ih =>
      obtain ⟨first, more, same, nought⟩ := ih
      refine ⟨first, _, by rw [digits, if_neg large, same, List.cons_append], ?_⟩
      intro zero
      have none := (nought zero).1
      omega

theorem foldl_digits (number : Nat) :
    (digits number).foldl (fun value octet => 10 * value + (octet.toNat - 48)) 0 = number := by
  induction number using digits.induct with
  | case1 number small =>
      rw [digits, if_pos small, List.foldl_cons, List.foldl_nil, (digit_octet small).2]
      omega
  | case2 number large ih =>
      rw [digits, if_neg large, List.foldl_append, ih, List.foldl_cons, List.foldl_nil,
        (digit_octet (Nat.mod_lt _ (by decide))).2]
      omega

def closes (octet : UInt8) : Bool := octet = 44 || octet = 93 || octet = 125

private theorem forall_closes (property : UInt8 → Prop) (comma : property 44) (list : property 93)
    (object : property 125) {octet : UInt8} (closing : closes octet = true) : property octet := by
  simp only [closes, Bool.or_eq_true, decide_eq_true_eq] at closing
  rcases closing with (rfl | rfl) | rfl
  · exact comma
  · exact list
  · exact object

theorem skimWhole?_digits (number : Nat) {octet : UInt8} (closing : closes octet = true)
    (rest : Bytes) : skimWhole? (digits number ++ octet :: rest) = some (octet :: rest) := by
  have notDigit : isDigit octet = false :=
    forall_closes (fun octet => isDigit octet = false) rfl rfl rfl closing
  obtain ⟨first, more, same, nought⟩ := digits_cons number
  have inside : ∀ other ∈ first :: more, isDigit other = true := by
    intro other member
    rw [← same] at member
    exact isDigit_of_mem_digits member
  rw [same, List.cons_append]
  by_cases zero : first = 48
  · rw [(nought zero).2, zero, List.nil_append]
    change (if ((some octet).map isDigit).getD false = true then none else _) = _
    rw [Option.map_some, notDigit]
    rfl
  · have skimmed : skimDigits? (first :: (more ++ octet :: rest)) = some (octet :: rest) := by
      rw [skimDigits?, if_pos (inside first List.mem_cons_self)]
      rw [List.dropWhile_append_of_pos fun other member =>
        inside other (List.mem_cons_of_mem _ member)]
      rw [List.dropWhile_cons_of_neg (by rw [notDigit]; exact Bool.false_ne_true)]
    rw [skimWhole?]
    · exact skimmed
    · intro others equal
      exact zero (List.cons.inj equal).1

/-- What `integer?` makes of digits, once the sign was passed. -/
private theorem guard_eq_ite (condition : Prop) [Decidable condition] :
    (guard condition : Option Unit) = if condition then some () else none := rfl

private theorem integer?_of_digits {input : Bytes} (negative : Bool) (number : Nat)
    {octet : UInt8} (closing : closes octet = true) (rest : Bytes)
    (signed : negative = true → number ≠ 0)
    (split : splitSign (skipSpace input) = (negative, digits number ++ octet :: rest)) :
    integer? input =
      some (if negative then -(number : Int) else number, octet :: rest) := by
  have plain : (octet = 46 || octet = 101 || octet = 69) = false :=
    forall_closes (fun octet => (octet = 46 || octet = 101 || octet = 69) = false)
      rfl rfl rfl closing
  have taken : (digits number ++ octet :: rest).take
      ((digits number ++ octet :: rest).length - (octet :: rest).length) = digits number := by
    rw [List.length_append, Nat.add_sub_cancel, List.take_left]
  have sign : (negative && decide (number = 0)) = false := by
    cases negative with
    | false => rfl
    | true => simpa using signed rfl
  unfold integer?
  simp only [split, skimWhole?_digits number closing, bind, Option.bind, List.head?_cons,
    Option.map_some, Option.getD_some, plain, taken, foldl_digits, sign, Bool.not_false,
    ↓guard_eq_ite, if_true, pure]

private theorem isDigit_solid : ∀ octet : UInt8, isDigit octet = true →
    isSpace octet = false ∧ octet ≠ 45 :=
  Bytes.of_all_octets (by decide +kernel)

/-- Whole numbers are read back in front of whatever ends a value. -/
theorem integer?_decimal (number : Int) {octet : UInt8} (closing : closes octet = true)
    (rest : Bytes) : integer? (decimal number ++ octet :: rest) = some (number, octet :: rest) := by
  cases number with
  | ofNat magnitude =>
      refine (integer?_of_digits false magnitude closing rest (by simp) ?_).trans rfl
      obtain ⟨first, more, same, _⟩ := digits_cons magnitude
      have member : first ∈ digits magnitude := same ▸ List.mem_cons_self
      obtain ⟨solid, unsigned⟩ := isDigit_solid first (isDigit_of_mem_digits member)
      rw [decimal, same, List.cons_append, skipSpace_cons solid, splitSign]
      intro others equal
      exact unsigned (List.cons.inj equal).1
  | negSucc magnitude =>
      exact integer?_of_digits true (magnitude + 1) closing rest (by simp) rfl

theorem naturalBelow?_decimal {limit number : Nat} (below : number < limit) {octet : UInt8}
    (closing : closes octet = true) (rest : Bytes) :
    naturalBelow? limit (decimal number ++ octet :: rest) = some (number, octet :: rest) := by
  have inside : (0 : Int) ≤ number ∧ (number : Int) < limit :=
    ⟨Int.natCast_nonneg number, Int.ofNat_lt.mpr below⟩
  unfold naturalBelow?
  simp only [integer?_decimal number closing, bind, Option.bind, ↓guard_eq_ite, if_pos inside,
    pure, Int.toNat_natCast]

/-! ### Flags -/

theorem flag?_writeFlag (flag : Bool) (rest : Bytes) :
    flag? (writeFlag flag ++ rest) = some (flag, rest) := by
  cases flag with
  | false =>
      have written : writeFlag false ++ rest = 102 :: 97 :: 108 :: 115 :: 101 :: rest := rfl
      rw [written, flag?, skipSpace_cons (by decide)]
      rfl
  | true =>
      have written : writeFlag true ++ rest = 116 :: 114 :: 117 :: 101 :: rest := rfl
      rw [written, flag?, skipSpace_cons (by decide)]
      rfl

end TieredCache.Json
