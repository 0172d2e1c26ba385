import TieredCache.Proofs.Key.Distinct

/-!
The paths of keys as texts. Main statement: `paths_apart`. No two keys have one path, and the path of
a key is neither that of a marker nor that of a directory on the way to another key.
-/

namespace TieredCache.Key
open FilePath

variable {root left right : Bytes}

/-! ### Below a root -/

/-- What a relative path is put behind depends on the root only. -/
theorem exists_join_eq (root : Bytes) : ∃ front, ∀ relative, join root relative = front ++ relative := by
  by_cases ends : root.isEmpty ∨ root.getLast? = some slash
  · exact ⟨root, fun relative => if_pos ends⟩
  · refine ⟨root ++ [slash], fun relative => (if_neg ends).trans ?_⟩
    rw [List.append_assoc]
    rfl

theorem join_inj : join root left = join root right ↔ left = right := by
  obtain ⟨front, joined⟩ := exists_join_eq root
  rw [joined, joined, List.append_cancel_left_eq]

theorem join_append_prefix_iff (behind : Bytes) :
    join root left ++ behind <+: join root right ↔ left ++ behind <+: right := by
  obtain ⟨front, joined⟩ := exists_join_eq root
  rw [joined, joined, List.append_assoc, List.prefix_append_right_inj]

/-! ### Files and directories -/

variable {folders further : List Name} {leaf last : Name}

/-- What stands behind a slash in a path that leads to a file leads to it too. -/
theorem Filed.leading_ne_nil {front back : Bytes} (filed : Filed (front ++ slash :: back) folders leaf) :
    leading back ≠ [] := by
  obtain ⟨before, ends⟩ := filed.ends
  obtain ⟨others, final, split⟩ :=
    (List.eq_nil_or_concat (names back)).resolve_left (names_ne_nil back)
  rw [List.concat_eq_append] at split
  have whole : before ++ [leaf] = (names front ++ others) ++ [final] := by
    rw [← ends, List.append_assoc, ← split]
    exact names_append_slash front back
  have same : leaf = final := List.append_singleton_inj.mp whole |>.2
  have kept : final ∈ leading back := by
    refine List.mem_filter.mpr ⟨by simp [split], ?_⟩
    rw [← same]
    exact leads_of_isFileName filed.file
  exact List.ne_nil_of_mem kept

/-- The name of a file is not that of a directory, so nothing stands below a file. -/
theorem Filed.not_prefix (filed : Filed left folders leaf) (other : Filed right further last) :
    ¬left ++ [slash] <+: right := by
  rintro ⟨back, rfl⟩
  have whole : left ++ [slash] ++ back = left ++ slash :: back := by simp
  rw [whole] at other
  have split : folders ++ [leaf] ++ leading back = further ++ [last] := by
    rw [← filed.split, ← other.split]
    exact (leading_append_slash left back).symm
  obtain ⟨others, final, tail⟩ := (List.eq_nil_or_concat (leading back)).resolve_left other.leading_ne_nil
  rw [List.concat_eq_append] at tail
  rw [tail, ← List.append_assoc] at split
  have folder : leaf ∈ further := by
    rw [← (List.append_singleton_inj.mp split).1]
    simp
  have named := other.folder leaf folder
  rw [filed.file] at named
  cases named

theorem relativePath_ne_marker (root : Bytes) (key : String) :
    relativePath root key ≠ cleanTimeName ∧ relativePath root key ≠ cleanLockName := by
  obtain ⟨folders, leaf, filed⟩ := filed_relativePath root key
  obtain ⟨notTime, notLock⟩ := filed.not_marker
  have own : leaf ∈ leading (relativePath root key) := by
    rw [filed.split]
    exact List.mem_append_right _ (List.mem_singleton_self leaf)
  have single : leading cleanTimeName = [cleanTimeName] ∧
      leading cleanLockName = [cleanLockName] := by decide +kernel
  constructor
  · intro same
    rw [same, single.1, List.mem_singleton] at own
    exact notTime own
  · intro same
    rw [same, single.2, List.mem_singleton] at own
    exact notLock own

/-- Two keys have different paths below every root, unless their digests collide, and the path of
neither leads on to the other. No key has the path of a marker, and no escaped key starts with a
slash, so that going on from the root stays below it. -/
theorem paths_apart (root : Bytes) :
    (∀ left right : String, left ≠ right →
      (Digest.sha256 (Text.bytes left) = Digest.sha256 (Text.bytes right) → left = right) →
      path root left ≠ path root right ∧ ¬path root left ++ [slash] <+: path root right ∧
        ¬path root right ++ [slash] <+: path root left) ∧
    ∀ key : String, path root key ≠ join root cleanTimeName ∧ path root key ≠ join root cleanLockName ∧
      (escape key).head? ≠ some slash ∧
      ∀ start, ((Route.mk root start).join (escape key)).text = join root (escape key) := by
  constructor
  · intro left right distinct digests
    obtain ⟨folders, leaf, filed⟩ := filed_relativePath root left
    obtain ⟨further, last, other⟩ := filed_relativePath root right
    refine ⟨fun same => ?_, fun leads => ?_, fun leads => ?_⟩
    · exact distinct (relativePath_inj digests (join_inj.mp same))
    · exact filed.not_prefix other ((join_append_prefix_iff _).mp leads)
    · exact other.not_prefix filed ((join_append_prefix_iff _).mp leads)
  · intro key
    obtain ⟨notTime, notLock⟩ := relativePath_ne_marker root key
    have below : Route.isAbsolute (escape key) = false := isAbsolute_escapeBytes _
    refine ⟨fun same => notTime (join_inj.mp same), fun same => notLock (join_inj.mp same), ?_,
      fun start => Route.join_text below⟩
    intro same
    rw [Route.isAbsolute, same] at below
    exact absurd below (by decide)

/-- Below a root that leaves room for a few octets one key is escaped and the other digested. -/
theorem paths_apart_digested :
    let root : Bytes := .replicate 4090 114
    relativePath root "a" = escape "a" ∧ relativePath root "a/bcdef" = hashedName "a/bcdef" ∧
      "a" ≠ "a/bcdef" ∧ Digest.sha256 (Text.bytes "a") ≠ Digest.sha256 (Text.bytes "a/bcdef") ∧
      path root "a" ≠ path root "a/bcdef" ∧ ¬path root "a" ++ [slash] <+: path root "a/bcdef" ∧
      ¬path root "a/bcdef" ++ [slash] <+: path root "a" := by
  intro root
  have other : Digest.sha256 (Text.bytes "a") ≠ Digest.sha256 (Text.bytes "a/bcdef") := by
    decide +kernel
  exact ⟨by decide +kernel, by decide +kernel, by decide, other,
    (paths_apart root).1 "a" "a/bcdef" (by decide) fun same => absurd same other⟩

end TieredCache.Key
