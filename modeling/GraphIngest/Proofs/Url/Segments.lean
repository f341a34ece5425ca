import GraphIngest.Proofs.Json.Reader
import GraphIngest.Proofs.Url.Path
import GraphIngest.Text.Separated
import GraphIngest.Url.Reader

/-!
# Segments of URLs

The segments of a URL are what stands between the slashes of its path. A path that is read from a
text has segments without slashes, so that they are the same as those of its text.

## Main definitions

* `Url.pathSegments`: what stands between the slashes of a path.
* `Path.split_render`: these are the segments of the path, if they have no slashes.
* `Url.path_of_parse`: what the path of a URL over HTTP is read from.
* `Url.segments_of_parse`: its segments have no slashes.
-/

namespace GraphIngest

/-- A text without separators is the beginning of the first part. -/
theorem Separated.split_append {separator : Char} {cs ds part : List Char}
    {parts : List (List Char)} (plain : separator ∉ cs)
    (rest : split separator ds = part :: parts) :
    split separator (cs ++ ds) = (cs ++ part) :: parts := by
  induction cs with
  | nil => exact rest
  | cons c cs ih =>
    have other : c ≠ separator := fun same => plain (by simp [same])
    rw [List.cons_append, split, if_neg other, ih fun later => plain (by simp [later])]
    rfl

namespace Path

variable {special : Bool} {p : Path} {s : List Char}

/-! ## Text -/

/-- The segments of a path are what stands between the slashes of its text. -/
theorem split_render (noSlash : ∀ s ∈ p, '/' ∉ s) :
    Separated.split '/' (render p) = [] :: p := by
  induction p with
  | nil => rfl
  | cons s p ih =>
    have text : render (s :: p) = '/' :: (s ++ render p) := by simp [render]
    have rest := ih fun t among => noSlash t (by simp [among])
    rw [text, Separated.split, if_pos rfl, Separated.split_append (noSlash s (by simp)) rest,
      List.append_nil]

/-! ## Segments that are followed -/

theorem slash_notMem_splitRaw {text : List Char} (h : s ∈ splitRaw special text) : '/' ∉ s := by
  fun_induction splitRaw special text generalizing s with
  | case1 => simp_all
  | case2 c rest separates ih =>
    rcases List.mem_cons.mp h with rfl | later
    · simp
    · exact ih later
  | case3 c rest separates part parts found ih =>
    have other : c ≠ '/' := by rintro rfl; simp at separates
    rcases List.mem_cons.mp h with rfl | later
    · have plain : '/' ∉ part := ih (by simp [found])
      simp [other.symm, plain]
    · exact ih (by simp [found, later])
  | case4 c rest separates found ih =>
    have other : c ≠ '/' := by rintro rfl; simp at separates
    obtain rfl := List.mem_singleton.mp h
    simpa using other.symm

theorem mem_up (h : s ∈ up p) : s ∈ p := by
  unfold up at h
  split at h
  · split at h
    · exact h
    · exact List.dropLast_subset _ h
  · exact h

theorem mem_enter {t : List Char} (h : s ∈ p.enter t) : s ∈ p ∨ s = t := by
  unfold enter at h
  split at h
  · exact .inl (mem_up h)
  split at h
  · exact .inl h
  · simpa using h

theorem mem_finish {t : List Char} (h : s ∈ p.finish t) : s = [] ∨ s ∈ p ∨ s = t := by
  unfold finish at h
  split at h
  · rcases List.mem_append.mp h with before | last
    · exact .inr (.inl (mem_up before))
    · exact .inl (List.mem_singleton.mp last)
  split at h
  · rcases List.mem_append.mp h with before | last
    · exact .inr (.inl before)
    · exact .inl (List.mem_singleton.mp last)
  · exact .inr (by simpa using h)

/-- Following segments leads to a path of some of them. -/
theorem mem_resolve {segments : List (List Char)} (h : s ∈ p.resolve segments) :
    s = [] ∨ s ∈ p ∨ s ∈ segments := by
  fun_induction resolve p segments with
  | case1 p => exact .inr (.inl h)
  | case2 p last => simpa using mem_finish h
  | case3 p t rest others ih =>
    rcases ih h with empty | before | later
    · exact .inl empty
    · rcases mem_enter before with before | rfl
      · exact .inr (.inl before)
      · exact .inr (.inr (by simp))
    · exact .inr (.inr (by simp [later]))

theorem resolve_ne_nil {segments : List (List Char)} (some : segments ≠ []) :
    p.resolve segments ≠ [] := by
  fun_induction resolve p segments with
  | case1 p => exact absurd rfl some
  | case2 p last =>
    unfold finish
    split
    · simp
    · split <;> simp
  | case3 p t rest others ih => exact ih fun none => others none

theorem slash_notMem_follow {text : List Char} (noSlash : ∀ s ∈ p, '/' ∉ s)
    (h : s ∈ follow special p text) : '/' ∉ s := by
  rcases mem_resolve h with rfl | before | raw
  · simp
  · exact noSlash s before
  · obtain ⟨part, among, rfl⟩ := List.mem_map.mp raw
    intro inside
    rcases Percent.mem_encode inside with ⟨slash, -⟩ | percent | ⟨n, small, digit⟩
    · exact slash_notMem_splitRaw among slash
    · exact absurd percent (by decide)
    · revert n
      decide

theorem splitRaw_ne_nil (text : List Char) : splitRaw special text ≠ [] := by
  fun_cases splitRaw special text <;> simp

end Path

namespace Url

/-- What stands between the slashes of the path of a URL. -/
def pathSegments (u : Url) : List (List Char) := (Separated.split '/' u.pathText).tail

theorem pathSegments_eq {u : Url} {p : Path} (path : u.path = .segments p)
    (noSlash : ∀ s ∈ p, '/' ∉ s) : u.pathSegments = p := by
  have text : u.pathText = p.render := by rw [pathText, path]
  rw [pathSegments, text, Path.split_render noSlash]
  rfl

/-! ## Paths that are read -/

theorem slash_notMem_pathAfter {special : Bool} {text s : List Char}
    (h : s ∈ pathAfter special text) : '/' ∉ s := by
  unfold pathAfter at h
  split at h
  · split at h <;> simp_all
  · split at h <;> exact Path.slash_notMem_follow (by simp) h

theorem pathAfter_ne_nil (text : List Char) : pathAfter true text ≠ [] := by
  have followed (cs : List Char) : Path.follow true [] cs ≠ [] :=
    Path.resolve_ne_nil (by simpa using Path.splitRaw_ne_nil cs)
  unfold pathAfter
  split
  · simp
  · split
    · exact followed _
    · exact followed _

theorem path_of_authority {scheme cs : List Char} {parts : Parts} {u : Url}
    (h : authority scheme cs parts = .ok u) : u.scheme = scheme ∧
      ∃ text, u.path = .segments (pathAfter (isSpecialScheme scheme) text) := by
  unfold authority at h
  dsimp only at h
  split at h
  · obtain ⟨_, thrown, -⟩ := Except.bind_eq_ok.mp h
    cases thrown
  obtain ⟨host, -, h⟩ := Except.bind_eq_ok.mp h
  split at h
  all_goals
    obtain ⟨port, -, h⟩ := Except.bind_eq_ok.mp h
    obtain rfl := Except.ok.inj h
    exact ⟨rfl, _, rfl⟩

theorem scheme_of_file {cs : List Char} {parts : Parts} {u : Url}
    (h : file cs parts = .ok u) : u.scheme = "file".toList := by
  unfold file at h
  dsimp only at h
  split at h
  · split at h
    all_goals
      obtain ⟨place, -, h⟩ := Except.bind_eq_ok.mp h
      obtain rfl := Except.ok.inj h
      rfl
  · obtain rfl := Except.ok.inj h
    rfl

/-- The path of a URL over HTTP is read from what stands after its authority. -/
theorem path_of_parse {text : String} {u : Url} (h : parse text = .ok u)
    (http : u.scheme = "http".toList) : ∃ cs, u.path = .segments (pathAfter true cs) := by
  unfold parse read at h
  dsimp only at h
  split at h
  · rename_i scheme rest _
    unfold afterScheme at h
    split at h
    · have file := scheme_of_file h
      exact absurd (http.symm.trans file) (by decide)
    split at h
    · rename_i special
      obtain ⟨-, cs, path⟩ := path_of_authority h
      exact ⟨cs, special ▸ path⟩
    · rename_i ordinary
      have own : scheme = "http".toList := by
        split at h
        · exact (path_of_authority h).1.symm.trans http
        · exact (congrArg Url.scheme (Except.ok.inj h)).trans http
        · exact (congrArg Url.scheme (Except.ok.inj h)).trans http
      exact absurd (own ▸ (by decide : isSpecialScheme "http".toList = true)) ordinary
  · rename_i given
    cases given
  · cases h

/-- The segments of a URL over HTTP have no slashes, and there is at least one. -/
theorem segments_of_parse {text : String} {u : Url} {p : Path} (h : parse text = .ok u)
    (http : u.scheme = "http".toList) (path : u.path = .segments p) :
    p ≠ [] ∧ ∀ s ∈ p, '/' ∉ s := by
  obtain ⟨cs, read⟩ := path_of_parse h http
  obtain rfl : p = pathAfter true cs := UrlPath.segments.inj (path.symm.trans read)
  exact ⟨pathAfter_ne_nil cs, fun s among => slash_notMem_pathAfter among⟩

end Url

end GraphIngest
