import TieredCache.Proofs.Front.Verdict

/-!
What is written to remember a failure. Main statements: it can always be encoded, and until its time
is over it is read back as that failure.
-/

namespace TieredCache

namespace Json

theorem length_digits_le {number places : Nat} (some : 0 < places)
    (small : number < Nat.pow 10 places) : (digits number).length ≤ places := by
  induction places generalizing number with
  | zero => exact absurd some (Nat.lt_irrefl 0)
  | succ places ih =>
      unfold digits
      split
      · exact some
      · rename_i large
        have fewer : number / 10 < Nat.pow 10 places := by
          have tenfold : Nat.pow 10 (places + 1) = Nat.pow 10 places * 10 := rfl
          omega
        have several : 0 < places := by
          cases places with
          | zero => exact absurd small large
          | succ places => exact Nat.succ_pos places
        have shorter := ih several fewer
        rw [List.length_append, List.length_singleton]
        omega

theorem length_decimal_le (count : Millis) : (decimal count.value).length ≤ 20 := by
  have low := count.lower
  have high := count.upper
  cases same : count.value with
  | ofNat magnitude =>
      have below : (magnitude : Int) < 0x8000000000000000 := by rwa [same] at high
      have small : magnitude < 0x8000000000000000 := by omega
      exact length_digits_le (by decide) (Nat.lt_trans small (by decide))
  | negSucc magnitude =>
      have small : magnitude + 1 < 0x8000000000000001 := by omega
      have short : (digits (magnitude + 1)).length ≤ 19 :=
        length_digits_le (by decide) (Nat.lt_trans small (by decide))
      rw [decimal, List.length_cons]
      omega

theorem length_writeFlag_le (flag : Bool) : (writeFlag flag).length ≤ 5 := by
  cases flag <;> decide +kernel

end Json

namespace ResponseCache
open Json

variable {cache : ResponseCache} {now : Millis} {kind : FailureKind}

/-- Its head has no fields, and numbers of limited length. -/
theorem length_write_failureHead (kind : FailureKind) (now : Millis) (lifetime : Span) :
    (failureHead kind now lifetime).write.length < 0x100000000 := by
  have status : (decimal kind.status.toNat).length ≤ 5 := by
    apply length_digits_le (by decide)
    cases kind <;> decide
  have date := length_decimal_le now
  have span := length_decimal_le lifetime.toMillis
  have flag := length_writeFlag_le true
  have names : (quoted "status_code").length + (quoted "headers").length +
      (quoted "caching").length + (quoted "date_ms").length + (quoted "ttl_ms").length +
      (quoted "explicit").length ≤ 100 := by
    decide +kernel
  simp only [failureHead, Head.ofStatus, Head.write, Head.writeFreshness, List.map_nil,
    List.length_append, List.length_cons, List.length_nil, List.cons_append,
    List.intercalate_nil]
  omega

theorem sentinel_of_ignoring (ignores : cache.ignoresFailures = true) :
    cache.sentinel now kind = none := by
  unfold sentinel remember
  rw [if_pos ignores]
  rfl

/-- A cache that does not ignore failures always writes one. -/
theorem sentinel_of_heeding (now : Millis) (kind : FailureKind)
    (heeds : cache.ignoresFailures = false) :
    ∃ stored, cache.sentinel now kind = some stored.encoded ∧
      Stored.decode stored.encoded = .ok stored ∧
      stored.head = failureHead kind now (cache.policy.failureLifetime kind) := by
  have short := length_write_failureHead kind now (cache.policy.failureLifetime kind)
  cases encodes : Stored.encode (failureHead kind now (cache.policy.failureLifetime kind)) [] with
  | error fault =>
      unfold Stored.encode at encodes
      rw [if_pos short] at encodes
      cases encodes
  | ok stored =>
      refine ⟨stored, ?_, Stored.decode_encoded encodes, (Stored.encode_ok encodes).1⟩
      unfold sentinel remember
      rw [heeds, if_neg Bool.false_ne_true, encodes]
      rfl

/-- Until its time is over a remembered failure is reported, and then it is as if there were nothing. -/
theorem verdict_failureHead {policy : Policy} {later : Millis} {key : String} {checks : Checks}
    {stored : Stored} {lifetime : Span} (decodes : Stored.decode stored.encoded = .ok stored)
    (own : stored.head = failureHead kind now lifetime) :
    verdict policy later key checks (some stored.encoded) =
      if later < now + lifetime.toMillis then .recentFailure kind else .notFound := by
  have status : FailureKind.ofStatus? stored.head.status = some kind := by
    rw [own]
    exact FailureKind.ofStatus?_status kind
  have current : isCurrent stored.head later = decide (later < now + lifetime.toMillis) := by
    rw [own]
    rfl
  simp only [verdict, decodes, status, current, decide_eq_true_eq]

end ResponseCache

end TieredCache
