import GraphIngest.Proofs.Url.Percent
import GraphIngest.Url.Basic

/-!
# Paths with names appended

A name that is appended to a path becomes one segment, with three exceptions: names of one or two
points are left out, and names that are left with one or two points once what leaves no trace is
taken out lead to a segment without a name, here or in the place of the last one.

## Main definitions

* `Path.kept`: what is left of a name.
* `Path.trail`: what a path ends in after a name was appended.
* `Path.appendName_concat`: only the end of a path changes when a name is appended.
* `Path.render_injective`: the text of a path determines its segments.
-/

namespace GraphIngest

namespace Path

/-! ## Points -/

theorem exists_tail_of_points {l rest : List Char} (h : points l = '.' :: rest) :
    ∃ tail, points tail = rest ∧ Percent.decode l = 46 :: Percent.decode tail := by
  revert h
  fun_cases points l with
  | case1 tail | case2 tail => exact fun h => ⟨tail, (List.cons.inj h).2, rfl⟩
  | case3 c tail =>
    intro h
    obtain ⟨rfl, rest⟩ := List.cons.inj h
    exact ⟨tail, rest, Percent.decode_cons (by decide) tail⟩
  | case4 => exact nofun

theorem eq_nil_of_points {l : List Char} (h : points l = []) : l = [] := by
  revert h
  fun_cases points l with
  | case4 => exact fun _ => rfl
  | case1 | case2 | case3 => exact nofun

/-- A segment that is written as points, in any way, stands for these points. -/
theorem decode_of_points {l : List Char} {n : Nat} (h : points l = List.replicate n '.') :
    Percent.decode l = (List.replicate n '.').flatMap String.utf8EncodeChar := by
  induction n generalizing l with
  | zero =>
    obtain rfl := eq_nil_of_points h
    rfl
  | succ n ih =>
    obtain ⟨tail, rest, decoded⟩ := exists_tail_of_points h
    rw [decoded, ih rest]
    rfl

section Encoded

variable {special : Bool} {cs : List Char}

theorem segmentSet_percent : Percent.segmentSet special '%' := by simp [Percent.segmentSet]

theorem points_encode_replicate (n : Nat) :
    points (Percent.encode (Percent.segmentSet special) (List.replicate n '.')) =
      List.replicate n '.' := by
  have plain : Percent.segmentSet special '.' = false := by cases special <;> decide
  induction n with
  | zero => rfl
  | succ n ih =>
    rw [List.replicate_succ, Percent.encode, List.flatMap_cons, Percent.encodeChar, plain,
      ← Percent.encode]
    exact congrArg ('.' :: ·) ih

/-- Nothing but points themselves is written as points. -/
theorem points_encode_iff {n : Nat} :
    points (Percent.encode (Percent.segmentSet special) cs) = List.replicate n '.' ↔
      cs = List.replicate n '.' := by
  constructor
  · intro written
    have decoded := decode_of_points written
    rw [Percent.decode_encode segmentSet_percent] at decoded
    exact Percent.utf8_injective decoded
  · rintro rfl
    exact points_encode_replicate n

theorem isHere_encode : isHere (Percent.encode (Percent.segmentSet special) cs) ↔ cs = ['.'] :=
  decide_eq_true_iff.trans (points_encode_iff (n := 1))

theorem isUp_encode :
    isUp (Percent.encode (Percent.segmentSet special) cs) ↔ cs = ['.', '.'] :=
  decide_eq_true_iff.trans (points_encode_iff (n := 2))

end Encoded

/-! ## Names -/

/-- What is left of a name: characters that leave no trace are taken out. -/
def kept (name : String) : List Char := name.toList.filter (!isSkipped ·)

/-- What a path ends in after a name was appended to one that ends in some segment. -/
def trail (last : List Char) (name : String) : List (List Char) :=
  if name = "." ∨ name = ".." then [last]
  else if kept name = ['.', '.'] then [[]]
  else if kept name = ['.'] then [last, []]
  else [last, kept name]

theorem trail_ne_nil (last : List Char) (name : String) : trail last name ≠ [] := by
  unfold trail
  split
  · simp
  · split
    · simp
    · split <;> simp

variable {special : Bool} {p : Path} {last : List Char} {name : String}

theorem beforeAppend_of_ne (h : p ≠ [[]]) : beforeAppend p = p := if_neg h

theorem concat_ne_root (named : last ≠ []) : p ++ [last] ≠ [[]] := by
  intro root
  cases p with
  | nil => exact named (by simpa using root)
  | cons s p => simp at root

theorem up_concat (noDrive : isDrive last = false) : up (p ++ [last]) = p := by
  simp [up, noDrive]

/-- A name is appended after a path that ends in a name: only what it ends in changes. -/
theorem appendName_concat (named : last ≠ []) (noDrive : isDrive last = false)
    (plain : Percent.encode (Percent.segmentSet special) last = last) (name : String) :
    appendName special (p ++ [last]) name =
      p ++ (trail last name).map (Percent.encode (Percent.segmentSet special)) := by
  have empty : Percent.encode (Percent.segmentSet special) [] = [] := rfl
  rw [appendName, trail]
  split
  · simp [plain]
  · rw [beforeAppend_of_ne (concat_ne_root named), ← kept, finish]
    simp only [isUp_encode, isHere_encode]
    split
    · simp [up_concat noDrive, empty]
    · split <;> simp [plain, empty]

/-- Two names end a path alike only if they are the same, unless something is left out of them. -/
def Whole (name : String) : Prop :=
  name ≠ "." ∧ name ≠ ".." ∧ ∀ c ∈ name.toList, isSkipped c = false

instance (name : String) : Decidable (Whole name) :=
  have := List.decidableBAll (isSkipped · = false) name.toList
  inferInstanceAs (Decidable (_ ∧ _ ∧ _))

theorem trail_of_whole (whole : Whole name) : trail last name = [last, name.toList] := by
  obtain ⟨notHere, notUp, all⟩ := whole
  have same : kept name = name.toList := List.filter_eq_self.mpr (by simpa using all)
  have up : name.toList ≠ ['.', '.'] := fun up => notUp (String.toList_inj.mp up)
  have here : name.toList ≠ ['.'] := fun here => notHere (String.toList_inj.mp here)
  simp [trail, same, notHere, notUp, up, here]

/-! ## Text -/

theorem mem_render {c : Char} (h : c ∈ render p) : c = '/' ∨ ∃ s ∈ p, c ∈ s := by
  obtain ⟨s, among, h⟩ := List.mem_flatMap.mp h
  exact (List.mem_cons.mp h).imp_right fun inside => ⟨s, among, inside⟩

theorem slash_notMem_encode {cs : List Char} :
    '/' ∉ Percent.encode (Percent.segmentSet special) cs :=
  Percent.notMem_encode (by simp [Percent.segmentSet]) (by decide) (by decide)

/-- Names in a path do not end it. -/
theorem mark_notMem_render {mark : Char} (marks : mark = '?' ∨ mark = '#')
    (names : List (List Char)) :
    mark ∉ render (names.map (Percent.encode (Percent.segmentSet special))) := by
  intro among
  obtain slash | ⟨_, inPath, among⟩ := mem_render among
  · subst slash
    revert marks
    decide
  · obtain ⟨cs, -, rfl⟩ := List.mem_map.mp inPath
    revert among
    obtain rfl | rfl := marks <;>
      exact Percent.notMem_encode (by simp [Percent.segmentSet, Percent.pathSet]) (by decide)
        (by decide)

/-- The first segment of a text of a path. -/
theorem takeWhile_render {s : List Char} (noSlash : '/' ∉ s) (q : Path) :
    (s ++ render q).takeWhile (· ≠ '/') = s := by
  have front : ∀ c ∈ s, (decide (c ≠ '/')) = true := by
    rintro c among
    have : c ≠ '/' := by rintro rfl; exact noSlash among
    simpa using this
  rw [List.takeWhile_append_of_pos front]
  cases q <;> simp [render]

/-- The text of a path determines its segments, if these have no slashes. -/
theorem render_injective {p q : Path} (noSlash : ∀ s ∈ p, '/' ∉ s) (noSlash' : ∀ s ∈ q, '/' ∉ s)
    (h : render p = render q) : p = q := by
  induction p generalizing q with
  | nil =>
    cases q with
    | nil => rfl
    | cons t q => simp [render] at h
  | cons s p ih =>
    cases q with
    | nil => simp [render] at h
    | cons t q =>
      have text : s ++ render p = t ++ render q := by simpa [render] using h
      have first : s = t := by
        rw [← takeWhile_render (noSlash s (by simp)) p, text,
          takeWhile_render (noSlash' t (by simp)) q]
      subst first
      rw [ih (fun u among => noSlash u (by simp [among]))
        (fun u among => noSlash' u (by simp [among])) (List.append_cancel_left text)]

end Path

end GraphIngest
