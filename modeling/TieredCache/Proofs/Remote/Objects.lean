import Mathlib.Data.List.Flatten
import TieredCache.Proofs.Url.Encoding
import TieredCache.Remote.Store

/-!
Where the objects of a store are. A key is the text of one segment below the base, without the tabs and
line ends in it. Main statement: which keys have their object in the place of their name, and which two
keys share one (`objects_below_base`).
-/

namespace TieredCache

namespace Url

variable {text key left right : String} {base url : Url} {row : List (List Char)} {name : List Char}

/-! ### Bases -/

def IsHttp (base : Url) : Prop := base.scheme = "http".toList ∨ base.scheme = "https".toList
  deriving Decidable

theorem IsHttp.isSpecial (http : base.IsHttp) : base.isSpecial = true := by
  rw [Url.isSpecial]
  rcases http with same | same <;> exact same ▸ by decide

theorem IsHttp.isFile (http : base.IsHttp) : base.isFile = false := by
  rw [Url.isFile]
  rcases http with same | same <;> exact same ▸ by decide

structure Sited (base : Url) (row : List (List Char)) : Prop where
  http : base.IsHttp
  path : base.path = .segments row
  undotted : ∀ part ∈ row, isDots part = false

theorem sited_of_read (reads : read? text = some base) (http : base.IsHttp) :
    ∃ row, base.Sited row := by
  unfold read? at reads
  simp only [Option.bind_eq_bind, Option.bind_eq_some_iff, Option.pure_def, Option.some.injEq] at reads
  obtain ⟨⟨scheme, rest⟩, -, ⟨authority, path⟩, placed, rfl⟩ := reads
  have special : isSpecialScheme scheme = true := http.isSpecial
  have ordinary : scheme ≠ "file".toList := of_decide_eq_false http.isFile
  unfold hierarchy? at placed
  simp only [if_neg ordinary, special, if_true, Option.bind_eq_bind, Option.bind_eq_some_iff,
    Option.pure_def, Option.some.injEq, Prod.mk.injEq] at placed
  obtain ⟨⟨found, after⟩, -, -, rfl⟩ := placed
  refine ⟨_, http, rfl, ?_⟩
  unfold pathSegments
  split
  · exact fun part member => List.mem_singleton.mp member ▸ isDots_nil
  · exact isDots_of_mem_resolve fun part none => absurd none List.not_mem_nil

/-- The row of a URL without an empty last segment. -/
def stem (base : Url) : List (List Char) :=
  match base.path with
  | .unstructured _ => []
  | .segments row => if row.getLast? = some [] then row.dropLast else row

def EndsInSlash (base : Url) : Prop := base.path = .segments (base.stem ++ [[]])
  deriving Decidable

theorem endsInSlash_iff (rowed : base.path = .segments row) :
    base.EndsInSlash ↔ row = base.stem ++ [[]] := by
  rw [EndsInSlash, rowed, UrlPath.segments.injEq]

theorem stem_cases (rowed : base.path = .segments row) :
    row = base.stem ∧ row.getLast? ≠ some [] ∨ row = base.stem ++ [[]] := by
  rw [Url.stem, rowed]
  simp only
  split
  · rename_i last
    obtain ⟨done, rfl⟩ := List.getLast?_eq_some_iff.mp last
    exact .inr (by rw [List.dropLast_concat])
  · rename_i last
    exact .inl ⟨rfl, last⟩

def front (base : Url) : List (List Char) := if base.stem = [[]] then [] else base.stem

theorem dropEmptyLast_of_full (full : row.getLast? ≠ some []) : dropEmptyLast row = row := by
  simp [dropEmptyLast, full]

theorem dropEmptyLast_concat (some : row ≠ []) : dropEmptyLast (row ++ [[]]) = row := by
  simp [dropEmptyLast, List.length_pos_iff.mpr some]

theorem front_eq (rowed : base.path = .segments row) :
    (if dropEmptyLast row = [[]] then [] else dropEmptyLast row) = base.front := by
  rw [front]
  rcases stem_cases rowed with ⟨same, full⟩ | slash
  · rw [dropEmptyLast_of_full full, ← same]
  · by_cases none : base.stem = []
    · rw [slash, none]
      decide
    · rw [slash, dropEmptyLast_concat none]

/-! ### Names -/

def kept (key : String) : List Char := key.toList.filter (!isDropped ·)

def segment (key : String) : List Char := encode inSpecialSegment (kept key)

/-- A key that does not read as a step. -/
def Ordinary (key : String) : Prop := kept key ≠ ['.'] ∧ kept key ≠ ['.', '.']
  deriving Decidable

theorem isDots_segment_iff : isDots (segment key) = true ↔ ¬ Ordinary key := by
  rw [segment, isDots_encode_iff, Ordinary, Decidable.not_and_iff_not_or_not,
    Decidable.not_not, Decidable.not_not]

theorem isDots_segment (ordinary : Ordinary key) : isDots (segment key) = false :=
  Bool.eq_false_iff.mpr fun dots => isDots_segment_iff.mp dots ordinary

theorem segment_inj : segment left = segment right ↔ kept left = kept right :=
  ⟨encode_inj lossless_inSpecialSegment, congrArg _⟩

theorem segment_eq_nil_iff : segment key = [] ↔ kept key = [] :=
  ⟨fun none => encode_inj lossless_inSpecialSegment (none.trans (by decide)),
    fun none => by rw [segment, none]; decide⟩

theorem not_ordinary_of_dots (dots : key.toList = ['.'] ∨ key.toList = ['.', '.']) : ¬ Ordinary key := by
  rintro ⟨single, double⟩
  rcases dots with same | same
  · exact single (by rw [kept, same]; decide)
  · exact double (by rw [kept, same]; decide)

/-! ### Rows -/

theorem text_concat (row : List (List Char)) (name : List Char) :
    UrlPath.text (.segments (row ++ [name])) = UrlPath.text (.segments row) ++ '/' :: name := by
  simp [UrlPath.text]

theorem target_eq_iff {before after : UrlPath} :
    target { base with path := before } = target { base with path := after } ↔
      UrlPath.text before = UrlPath.text after := by
  constructor
  · intro same
    exact List.append_cancel_right (String.ofList_injective same)
  · intro same
    rw [target, target, same]

theorem row_inj {before after : List (List Char)}
    (same : { base with path := .segments before } = { base with path := .segments after }) :
    before = after :=
  UrlPath.segments.inj (congrArg Url.path same)

/-- A step leads to a place no further down than the row itself. -/
theorem length_extend_of_dots (dots : isDots name = true) (front : List (List Char)) :
    (UrlPath.text (.segments (extend false front [name]))).length ≤
      (UrlPath.text (.segments front)).length + 1 := by
  obtain ⟨done, part, same⟩ := extend_of_dots dots front
  rw [same, text_concat, List.length_append]
  exact Nat.add_le_add_right (part.flatMap _).length_le 1

theorem length_dropEmptyLast (rowed : base.path = .segments row) :
    (UrlPath.text (.segments (dropEmptyLast row))).length ≤
      (UrlPath.text (.segments base.front)).length + 1 := by
  rw [← front_eq rowed]
  split
  · rename_i empty
    rw [empty]
    exact Nat.le_add_left _ _
  · exact Nat.le_succ _

/-! ### Objects -/

namespace Sited

variable (sited : base.Sited row)
include sited

theorem object?_of_dots (dots : key.toList = ['.'] ∨ key.toList = ['.', '.']) :
    base.object? key = some { base with path := .segments (dropEmptyLast row) } := by
  rw [Url.object?, sited.path]
  simp [pushSegment, dots]

theorem object?_of_named (named : ¬ (key.toList = ['.'] ∨ key.toList = ['.', '.'])) :
    base.object? key = some { base with path := .segments (extend false base.front [segment key]) } := by
  rw [Url.object?, sited.path]
  simp only [pushSegment, Bool.or_eq_true, decide_eq_true_eq, if_neg named, front_eq sited.path,
    sited.http.isSpecial, sited.http.isFile, if_true, segment, kept]

theorem object?_of_ordinary (ordinary : Ordinary key) :
    base.object? key = some { base with path := .segments (base.front ++ [segment key]) } := by
  rw [sited.object?_of_named fun dots => not_ordinary_of_dots dots ordinary,
    extend_of_undotted (isDots_segment ordinary)]

theorem exists_object (key : String) : ∃ url, base.object? key = some url := by
  rw [Url.object?, sited.path]
  exact ⟨_, rfl⟩

theorem object?_short (strange : ¬ Ordinary key) : ∃ names,
    base.object? key = some { base with path := .segments names } ∧
      (UrlPath.text (.segments names)).length ≤ (UrlPath.text (.segments base.front)).length + 1 := by
  by_cases dots : key.toList = ['.'] ∨ key.toList = ['.', '.']
  · exact ⟨_, sited.object?_of_dots dots, length_dropEmptyLast sited.path⟩
  · exact ⟨_, sited.object?_of_named dots, length_extend_of_dots (isDots_segment_iff.mpr strange) _⟩

end Sited

/-- One more segment than the base and nothing else: no step, nothing that would end the segment, and not
the base itself. -/
structure Below (base : Url) (name : List Char) (url : Url) : Prop where
  path : url = { base with path := .segments (base.stem ++ [name]) }
  undotted : ∀ part ∈ base.stem ++ [name], isDots part = false
  single : ∀ mark ∈ marks, mark ∉ name
  apart : url.target ≠ base.target

namespace Sited

variable (sited : base.Sited row)
include sited

/-- One more segment makes the base itself if it is the empty one that the base ends in. -/
theorem target_concat_iff :
    target { base with path := .segments (base.stem ++ [name]) } = base.target ↔
      name = [] ∧ base.EndsInSlash := by
  have own : base.target = target { base with path := .segments row } := by rw [← sited.path]
  rw [own, target_eq_iff, text_concat, endsInSlash_iff sited.path]
  rcases stem_cases sited.path with ⟨same, -⟩ | slash
  · rw [← same]
    simp
  · rw [slash, text_concat]
    simp

theorem below_iff (object : base.object? key = some url) :
    Below base (segment key) url ↔
      Ordinary key ∧ base.stem ≠ [[]] ∧ (kept key = [] → ¬ base.EndsInSlash) := by
  constructor
  · intro below
    have plain := below.undotted (segment key) (by simp)
    have ordinary : Ordinary key := by
      rwa [Bool.eq_false_iff, ne_eq, isDots_segment_iff, Decidable.not_not] at plain
    have placed := sited.object?_of_ordinary ordinary
    rw [object, below.path, Option.some.injEq] at placed
    have same : base.stem = base.front := List.append_cancel_right (row_inj placed)
    refine ⟨ordinary, fun none => ?_, fun none slash => below.apart ?_⟩
    · rw [front, if_pos none, none] at same
      cases same
    · rw [below.path]
      exact sited.target_concat_iff.mpr ⟨segment_eq_nil_iff.mpr none, slash⟩
  · rintro ⟨ordinary, single, slash⟩
    have placed := sited.object?_of_ordinary ordinary
    rw [object, front, if_neg single, Option.some.injEq] at placed
    refine ⟨placed, ?_, fun mark ends => not_mem_encode_of_mark ends _, fun same => ?_⟩
    · intro part member
      rcases List.mem_append.mp member with old | own
      · rcases stem_cases sited.path with ⟨same, -⟩ | same
        · exact sited.undotted part (same ▸ old)
        · exact sited.undotted part (same ▸ List.mem_append_left _ old)
      · rw [List.mem_singleton.mp own]
        exact isDots_segment ordinary
    · rw [placed, sited.target_concat_iff, segment_eq_nil_iff] at same
      exact slash same.1 same.2

/-- Dots alone leave the base as it is. -/
theorem not_below_of_dots (dots : key.toList = ['.'] ∨ key.toList = ['.', '.'])
    (object : base.object? key = some url) (name : List Char) : ¬ Below base name url := by
  intro below
  rw [sited.object?_of_dots dots, Option.some.injEq] at object
  have longer : dropEmptyLast row = base.stem ++ [name] := row_inj (object.trans below.path)
  rcases stem_cases sited.path with ⟨same, full⟩ | slash
  · rw [dropEmptyLast_of_full full, ← same] at longer
    simp at longer
  · by_cases none : base.stem = []
    · rw [slash, none] at longer
      have empty : name = [] := (List.singleton_inj.mp longer).symm
      refine below.apart ?_
      rw [below.path]
      exact sited.target_concat_iff.mpr ⟨empty, (endsInSlash_iff sited.path).mpr slash⟩
    · rw [slash, dropEmptyLast_concat none] at longer
      simp at longer

theorem target_eq_target_iff {place other : Url} (ordinary : Ordinary left)
    (apart : Ordinary right ∨ kept left ≠ []) (object : base.object? left = some place)
    (further : base.object? right = some other) :
    place.target = other.target ↔ kept left = kept right := by
  rw [sited.object?_of_ordinary ordinary, Option.some.injEq] at object
  by_cases plain : Ordinary right
  · rw [sited.object?_of_ordinary plain, Option.some.injEq] at further
    rw [← object, ← further, target_eq_iff, text_concat, text_concat, List.append_cancel_left_eq,
      List.cons.injEq, and_iff_right rfl, segment_inj]
  · obtain ⟨names, strange, short⟩ := sited.object?_short plain
    have other := Option.some.inj (strange.symm.trans further)
    have named : segment left ≠ [] := fun none => apart.resolve_left plain (segment_eq_nil_iff.mp none)
    have long := List.length_pos_iff.mpr named
    rw [← object, ← other, target_eq_iff, text_concat]
    constructor
    · intro same
      rw [← same, List.length_append, List.length_cons] at short
      omega
    · intro same
      exact absurd (by rwa [Ordinary, ← same]) plain

end Sited

end Url

namespace RemoteStore
open Url

variable {ρ : Type} {store : RemoteStore ρ} {key : String} {request : RemoteRequest}

inductive Sends (store : RemoteStore ρ) (key : String) (request : RemoteRequest) : Prop where
  | fetch {receiver : ρ} {next : RemoteStore ρ} (starts : store.get key receiver = some (next, request))
  | upload {value : Bytes} {next : RemoteStore ρ} (starts : store.put key value = some (next, request))
  | removal {next : RemoteStore ρ} (starts : store.delete key = some (next, request))

theorem Sends.object? (sends : store.Sends key request) : store.base.object? key = some request.url := by
  cases sends with
  | fetch starts =>
      rw [get, Option.ite_none_left_eq_some, Option.map_eq_some_iff] at starts
      obtain ⟨-, url, object, same⟩ := starts
      cases same
      exact object
  | upload starts =>
      rw [put, Option.ite_none_left_eq_some, Option.map_eq_some_iff] at starts
      obtain ⟨-, url, object, same⟩ := starts
      cases same
      exact object
  | removal starts =>
      obtain ⟨url, object, same⟩ := Option.map_eq_some_iff.mp starts
      cases same
      exact object

/-- A request for a key names the key's own segment below the base, unless the key reads as a step, or as
the empty segment that the base ends in, or the base has nothing but an empty segment. Two keys share
their object if they differ in tabs and line ends only. -/
theorem objects_below_base {text : String} (reads : Url.read? text = some store.base)
    (http : store.base.IsHttp) :
    (∀ key, (∃ next request, store.delete key = some (next, request)) ∧
      (store.closed = false →
        (∀ receiver, ∃ next request, store.get key receiver = some (next, request)) ∧
          ∀ value, ∃ next request, store.put key value = some (next, request))) ∧
    (∀ key request, store.Sends key request →
      (Below store.base (segment key) request.url ↔
        Ordinary key ∧ store.base.stem ≠ [[]] ∧ (kept key = [] → ¬ store.base.EndsInSlash))) ∧
    (∀ key request name, store.Sends key request →
      key.toList = ['.'] ∨ key.toList = ['.', '.'] → ¬ Below store.base name request.url) ∧
    (∀ left right request other, store.Sends left request → store.Sends right other →
      Ordinary left → Ordinary right ∨ kept left ≠ [] →
        (request.url.target = other.url.target ↔ kept left = kept right)) := by
  obtain ⟨row, sited⟩ := sited_of_read reads http
  refine ⟨fun key => ?_, ?_, ?_, ?_⟩
  · obtain ⟨url, object⟩ := sited.exists_object key
    refine ⟨⟨_, _, by rw [delete, object]; rfl⟩, fun opened => ⟨fun receiver => ?_, fun value => ?_⟩⟩
    · exact ⟨_, _, by rw [get, opened, object]; rfl⟩
    · exact ⟨_, _, by rw [put, opened, object]; rfl⟩
  · exact fun key request sends => sited.below_iff sends.object?
  · exact fun key request name sends dots => sited.not_below_of_dots dots sends.object? name
  · exact fun left right request other sends sent ordinary apart =>
      sited.target_eq_target_iff ordinary apart sends.object? sent.object?

private def web : RemoteStore Unit where
  name := "remote"
  base :=
    ⟨"http".toList, some ⟨[], [], "[::1]".toList, none⟩, false, .segments ["cache".toList], none, none⟩
  timeout := .ofSeconds 60

private theorem read_web : Url.read? "http://[::1]/cache" = some web.base := by
  decide +kernel

theorem objects_below_base_of_two :
    Url.read? "http://[::1]/cache" = some web.base ∧ web.base.IsHttp ∧
      ∃ next last stored removed,
        web.put "a/b" [1] = some (next, stored) ∧ web.delete "a?b" = some (last, removed) ∧
        Below web.base "a%2Fb".toList stored.url ∧ Below web.base "a%3Fb".toList removed.url ∧
        stored.url.target ≠ removed.url.target := by
  have http : web.base.IsHttp := .inl rfl
  obtain ⟨starts, below, -, apart⟩ := objects_below_base read_web http
  have ordinary : Ordinary "a/b" ∧ Ordinary "a?b" := by decide
  obtain ⟨next, stored, put⟩ := ((starts "a/b").2 rfl).2 [1]
  obtain ⟨last, removed, deleted⟩ := (starts "a?b").1
  refine ⟨read_web, http, next, last, stored, removed, put, deleted, ?_, ?_, ?_⟩
  · exact (below "a/b" stored (.upload put)).mpr ⟨ordinary.1, by decide, by decide⟩
  · exact (below "a?b" removed (.removal deleted)).mpr ⟨ordinary.2, by decide, by decide⟩
  · exact fun same => absurd ((apart "a/b" "a?b" stored removed (.upload put) (.removal deleted)
      ordinary.1 (.inl ordinary.2)).mp same) (by decide)

/-- The keys of one dot and of two are both removed by a removal of the base itself. -/
theorem removal_of_base :
    Url.read? "http://[::1]/cache" = some web.base ∧ web.base.IsHttp ∧
      (web.delete ".").map (·.2) = some ⟨web.base, .removal⟩ ∧
      (web.delete "..").map (·.2) = some ⟨web.base, .removal⟩ :=
  ⟨read_web, .inl rfl, by decide, by decide⟩

end RemoteStore

end TieredCache
