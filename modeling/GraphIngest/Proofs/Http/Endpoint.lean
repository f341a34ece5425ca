import GraphIngest.Proofs.Http.Address
import GraphIngest.Proofs.Url.Segments

/-!
# Endpoints

The path of a reference is that of the store, without the empty segment after a slash at its end,
and six segments that stand for names. A slash that is added to the path of the store is noticed
only if there was one already.

## Main definitions

* `Url.append?`: names are appended to a path that has segments.
* `Url.Slashed`: a URL with one more slash at the end of its path.
* `Path.withoutTrailing`: a path without the empty segment at its end.
* `HttpStore.reference_names_kept`: what the path of a reference is made of.
-/

namespace GraphIngest

/-! ## Paths -/

/-- A path without the empty segment that a slash at its end leaves. -/
def Path.withoutTrailing (p : Path) : Path := if p.getLast? = some [] then p.dropLast else p

theorem Path.popIfEmpty_concat {p : Path} (nonempty : p ≠ []) : popIfEmpty (p ++ [[]]) = p := by
  have two : 2 ≤ (p ++ [[]]).length := by
    have := List.length_pos_iff.mpr nonempty
    simp only [List.length_append, List.length_singleton]
    omega
  rw [popIfEmpty, if_pos ⟨two, by simp⟩, List.dropLast_concat]

/-- New segments come after a path without the empty segment at its end, if there is no other. -/
theorem Path.beforeAppend_popIfEmpty {p : Path} (filled : ∀ s ∈ p.dropLast, s ≠ []) :
    p.popIfEmpty.beforeAppend = p.withoutTrailing := by
  by_cases trailing : p.getLast? = some []
  · obtain ⟨q, rfl⟩ := List.getLast?_eq_some_iff.mp trailing
    rw [List.dropLast_concat] at filled
    rw [withoutTrailing, if_pos trailing, List.dropLast_concat]
    by_cases root : q = []
    · subst root
      rfl
    · have other : q ≠ [[]] := by rintro rfl; simp at filled
      rw [popIfEmpty_concat root, beforeAppend_of_ne other]
  · have other : p ≠ [[]] := by rintro rfl; simp at trailing
    rw [withoutTrailing, if_neg trailing, popIfEmpty, if_neg fun both => trailing both.2,
      beforeAppend_of_ne other]

/-- The root, and paths without an empty segment at their end, give way to new segments as they do
with one more slash. -/
theorem Path.beforeAppend_eq_withoutTrailing_iff {p : Path} (nonempty : p ≠ []) :
    p.beforeAppend = p.withoutTrailing ↔ p = [[]] ∨ p.getLast? ≠ some [] := by
  by_cases root : p = [[]]
  · subst root
    decide
  rw [beforeAppend_of_ne root, withoutTrailing]
  split
  · rename_i trailing
    have shorter : p.dropLast.length < p.length := by
      have := List.length_pos_iff.mpr nonempty
      rw [List.length_dropLast]
      omega
    have differ : p ≠ p.dropLast := fun same => by
      have := congrArg List.length same
      omega
    simp [root, trailing, differ]
  · rename_i ends
    simp [ends]

/-! ## URLs -/

namespace Url

/-- A URL with names appended to its path, unless that is a text without structure. -/
def append? (u : Url) (names : List String) : Option Url :=
  match u.path with
  | .segments p => some { u with path := .segments (p.append u.isSpecial names) }
  | .opaqueText _ => none

/-- The second URL is the first one with one more slash at the end of its path. -/
def Slashed (u u' : Url) : Prop :=
  u'.pathText = u.pathText ++ ['/'] ∧ u' = { u with path := u'.path }

end Url

namespace HttpStore

variable {s s' : HttpStore} {text text' : String}

/-- Names can be appended to the URL of every store. -/
theorem append?_base (s : HttpStore) (names : List String) :
    s.base.append? names = some (s.endpoint names) := by
  rw [Url.append?, s.base_path, endpoint]

theorem parse_of_ofUrl (accepted : ofUrl text = .ok s) : Url.parse text = .ok s.base := by
  unfold ofUrl at accepted
  split at accepted
  · cases accepted
  · rename_i u parsed
    split at accepted
    · obtain rfl := Except.ok.inj accepted
      exact parsed
    · cases accepted

/-- The segments of a store over HTTP are those of the text of its path. -/
theorem path_of_ofUrl (accepted : ofUrl text = .ok s) (http : s.base.scheme = "http".toList) :
    s.path ≠ [] ∧ (∀ segment ∈ s.path, '/' ∉ segment) ∧ s.base.pathSegments = s.path := by
  obtain ⟨nonempty, noSlash⟩ := Url.segments_of_parse (parse_of_ofUrl accepted) http s.base_path
  exact ⟨nonempty, noSlash, Url.pathSegments_eq s.base_path noSlash⟩

/-- The segments of a store with one more slash. -/
theorem path_of_slashed (accepted : ofUrl text = .ok s) (accepted' : ofUrl text' = .ok s')
    (http : s.base.scheme = "http".toList) (slashed : s.base.Slashed s'.base) :
    s'.path = s.path ++ [[]] := by
  obtain ⟨more, same⟩ := slashed
  have http' : s'.base.scheme = "http".toList := same ▸ http
  obtain ⟨-, noSlash, -⟩ := path_of_ofUrl accepted http
  obtain ⟨-, noSlash', -⟩ := path_of_ofUrl accepted' http'
  have text : s'.path.render = (s.path ++ [[]]).render := by
    simpa [Url.pathText, s.base_path, s'.base_path, Path.render] using more
  refine Path.render_injective noSlash' (fun segment among => ?_) text
  rcases List.mem_append.mp among with before | last
  · exact noSlash segment before
  · simp [List.mem_singleton.mp last]

/-! ## References -/

/-- The names in the path of a reference. -/
abbrev referenceNames (source label : String) : List (List UInt8) :=
  ["v1", "objects", "ASTNode", source, "references", label].map fun name =>
    name.toList.flatMap String.utf8EncodeChar

/-- What the path of a reference ends in. -/
def referenceEnd (s : HttpStore) (source label : String) : Path :=
  ["v1".toList, "objects".toList] ++ (referenceTrail source label).map
    (Percent.encode (Percent.segmentSet s.base.isSpecial))

theorem endpoint_eq_referenceEnd (s : HttpStore) (source label : String) :
    s.endpoint (referenceSegments nodeClass source label) =
      { s.base with path := .segments (s.root ++ s.referenceEnd source label) } :=
  endpoint_reference s source label

theorem slash_notMem_referenceEnd (s : HttpStore) (source label : String) :
    ∀ segment ∈ s.referenceEnd source label, '/' ∉ segment := by
  intro segment among
  rcases List.mem_append.mp among with fixed | named
  · clear among
    revert segment
    decide
  · obtain ⟨name, -, rfl⟩ := List.mem_map.mp named
    exact Path.slash_notMem_encode

/-- Names that are kept whole can be read back from the path. -/
theorem decode_referenceEnd (s : HttpStore) {source label : String} (whole : Path.Whole source)
    (whole' : Path.Whole label) :
    (s.referenceEnd source label).map Percent.decode = referenceNames source label := by
  have decoded (name : List Char) :
      Percent.decode (Percent.encode (Percent.segmentSet s.base.isSpecial) name) =
        name.flatMap String.utf8EncodeChar :=
    Percent.decode_encode Path.segmentSet_percent
  rw [referenceEnd, referenceTrail_of_whole (r := ⟨source, source, label⟩) ⟨whole, whole'⟩]
  simp only [List.map_append, List.map_cons, List.map_nil, decoded]
  rfl

/-- The URL of a reference always exists. Its path is that of the store without an empty segment at
its end, and then six segments that stand for the names, whatever characters these have; and nothing
else differs from the URL of the store. A store with one more slash at the end of its path has the
same URL for the reference exactly if the path was the root or did not end in a slash already. -/
theorem reference_names_kept (accepted : ofUrl text = .ok s)
    (http : s.base.scheme = "http".toList)
    (filled : ∀ segment ∈ s.base.pathSegments.dropLast, segment ≠ []) {source label : String}
    (whole : Path.Whole source) (whole' : Path.Whole label) :
    let names := referenceSegments nodeClass source label
    let url := s.endpoint names
    s.base.append? names = some url ∧
    (∃ encoded, url.pathSegments = Path.withoutTrailing s.base.pathSegments ++ encoded ∧
      encoded.map Percent.decode = referenceNames source label) ∧
    url = { s.base with path := url.path } ∧
    ∀ text' s', ofUrl text' = .ok s' → s.base.Slashed s'.base →
      (s'.endpoint names = url ↔
        s.base.pathSegments = [[]] ∨ s.base.pathSegments.getLast? ≠ some []) := by
  intro names url
  obtain ⟨nonempty, noSlash, segments⟩ := path_of_ofUrl accepted http
  rw [segments] at filled ⊢
  have root : s.root = Path.withoutTrailing s.path := Path.beforeAppend_popIfEmpty filled
  have path : url.path = .segments (Path.withoutTrailing s.path ++ s.referenceEnd source label) :=
    root ▸ congrArg Url.path (s.endpoint_eq_referenceEnd source label)
  refine ⟨s.append?_base names,
    ⟨_, Url.pathSegments_eq path ?_, s.decode_referenceEnd whole whole'⟩, rfl, ?_⟩
  · intro segment among
    rcases List.mem_append.mp among with before | after
    · rw [Path.withoutTrailing] at before
      split at before
      · exact noSlash segment (List.dropLast_subset _ before)
      · exact noSlash segment before
    · exact s.slash_notMem_referenceEnd source label segment after
  · intro text' s' accepted' slashed
    have longer := path_of_slashed accepted accepted' http slashed
    have root' : s'.root = s.path.beforeAppend := by
      rw [HttpStore.root, longer, Path.popIfEmpty_concat nonempty]
    have scheme : s'.base.scheme = s.base.scheme := slashed.2 ▸ rfl
    have ending : s'.referenceEnd source label = s.referenceEnd source label := by
      rw [referenceEnd, referenceEnd, Url.isSpecial, Url.isSpecial, scheme]
    have alike : s'.endpoint names = { s.base with
        path := .segments (s.path.beforeAppend ++ s.referenceEnd source label) } := by
      rw [s'.endpoint_eq_referenceEnd, ending, root', slashed.2]
    rw [← Path.beforeAppend_eq_withoutTrailing_iff nonempty, alike,
      show url = { s.base with path := url.path } from rfl, path]
    simp

/-- Names with separators, percent signs and letters beyond ASCII, at a store with a query. -/
theorem reference_names_kept_separators :
    let names := referenceSegments nodeClass "a/b%2F\\é" ""
    ∃ s s', ofUrl "http://h/a?q=1" = .ok s ∧ ofUrl "http://h/a/?q=1" = .ok s' ∧
      s.base.append? names = some (s.endpoint names) ∧
      (∃ encoded, (s.endpoint names).pathSegments = ["a".toList] ++ encoded ∧
        encoded.map Percent.decode = referenceNames "a/b%2F\\é" "") ∧
      (s.endpoint names).query = some "q=1".toList ∧ s'.endpoint names = s.endpoint names := by
  intro names
  have accepted : ofUrl "http://h/a?q=1" = .ok _ := rfl
  have accepted' : ofUrl "http://h/a/?q=1" = .ok _ := rfl
  obtain ⟨appended, encoded, -, slash⟩ := reference_names_kept accepted rfl (by decide)
    (by decide : Path.Whole "a/b%2F\\é") (by decide : Path.Whole "")
  refine ⟨_, _, accepted, accepted', appended, encoded, rfl, ?_⟩
  exact (slash _ _ accepted' ⟨rfl, rfl⟩).mpr (.inr (by decide))

/-- A second slash at the end of a path stays in it. -/
theorem reference_differs_with_second_slash :
    let names := referenceSegments nodeClass "n" "calls"
    ∃ s s', ofUrl "http://h/a/" = .ok s ∧ ofUrl "http://h/a//" = .ok s' ∧
      (∀ segment ∈ s.base.pathSegments.dropLast, segment ≠ []) ∧ s.base.Slashed s'.base ∧
      (s.endpoint names).render = "http://h/a/v1/objects/ASTNode/n/references/calls" ∧
      (s'.endpoint names).render = "http://h/a//v1/objects/ASTNode/n/references/calls" ∧
      s'.endpoint names ≠ s.endpoint names := by
  intro names
  refine ⟨_, _, rfl, rfl, by decide, ⟨rfl, rfl⟩, rfl, rfl, fun same => ?_⟩
  have texts : "http://h/a//v1/objects/ASTNode/n/references/calls" =
      "http://h/a/v1/objects/ASTNode/n/references/calls" := congrArg Url.render same
  exact absurd texts (by decide)

end HttpStore

end GraphIngest
