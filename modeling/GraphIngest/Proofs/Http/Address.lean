import GraphIngest.Proofs.Http.NodePhase
import GraphIngest.Proofs.Json.Normal
import GraphIngest.Proofs.Url.Path

/-!
# Where references are posted

The URL of a reference is made from two names that may hold any characters. It always lies under the
objects of the store. Names that are kept whole have URLs of their own; others may share one.

## Main definitions

* `HttpStore.referenceTrail`: what the path of a reference ends in.
* `HttpStore.endpoint_reference`: the URL of a reference.
* `HttpStore.reference_confined`: it lies under the objects of the store.
* `HttpStore.SamePost`: whether two relationships are posted alike.
* `HttpStore.posted_alike_iff`: they are if they share a target and what the paths end in.
-/

namespace GraphIngest

open Dialogue Request

/-! ## Text of URLs -/

namespace Url

/-- URLs that differ in their paths only differ in the texts of these. -/
theorem pathText_of_chars {u u' : Url} (h : u.chars = u'.chars) (scheme : u.scheme = u'.scheme)
    (authority : u.authorityText = u'.authorityText) (query : u.query = u'.query)
    (fragment : u.fragment = u'.fragment) : u.pathText = u'.pathText := by
  simp only [chars, scheme, authority, query, fragment, List.append_assoc] at h
  have rest := List.append_cancel_left (List.cons.inj (List.append_cancel_left h)).2
  exact List.append_cancel_right rest

/-- What stands before a path does not depend on what comes after its first name. -/
theorem authorityText_segments (u : Url) (root : Path) {first : List Char} (named : first ≠ [])
    (second second' : List Char) (rest rest' : Path) :
    ({ u with path := .segments (root ++ first :: second :: rest) } : Url).authorityText =
      ({ u with path := .segments (root ++ first :: second' :: rest') } : Url).authorityText := by
  cases h : u.host with
  | some host => simp [authorityText, userText, portText]
  | none =>
    match root with
    | [] =>
      obtain ⟨c, cs, rfl⟩ := List.exists_cons_of_ne_nil named
      simp [authorityText]
    | [] :: [] | [] :: _ :: _ | (_ :: _) :: _ => simp [authorityText]

end Url

namespace HttpStore

/-! ## Paths of endpoints -/

/-- The path that endpoints are appended to. -/
def root (s : HttpStore) : Path := s.path.popIfEmpty.beforeAppend

/-- The names in endpoints that do not depend on a node. -/
def fixedNames : List String :=
  ["v1", "objects", "ASTNode", "references", "batch", ".well-known", "ready"]

theorem appendName_fixed {special : Bool} {name : String} (fixed : name ∈ fixedNames) (p : Path) :
    Path.appendName special p name = p.beforeAppend ++ [name.toList] := by
  simp only [fixedNames, List.mem_cons, List.not_mem_nil, or_false] at fixed
  obtain rfl | rfl | rfl | rfl | rfl | rfl | rfl := fixed <;> cases special <;> rfl

theorem encode_fixed {special : Bool} {name : String} (fixed : name ∈ fixedNames) :
    Percent.encode (Percent.segmentSet special) name.toList = name.toList := by
  revert name
  cases special <;> decide

/-- What the path of a reference ends in. -/
def referenceTrail (source property : String) : List (List Char) :=
  Path.trail "ASTNode".toList source ++ Path.trail "references".toList property

/-- A fixed name becomes the next segment of an endpoint. -/
theorem appendName_below {special : Bool} {name : String} (fixed : name ∈ fixedNames)
    (p rest : Path) : Path.appendName special (p ++ "v1".toList :: rest) name =
      p ++ "v1".toList :: (rest ++ [name.toList]) := by
  have below : p ++ "v1".toList :: rest ≠ [[]] := by
    cases p with
    | nil => simp
    | cons t p => simp
  rw [appendName_fixed fixed, Path.beforeAppend_of_ne below, List.append_assoc, List.cons_append]

/-- A URL under the interface of the store. -/
def under (s : HttpStore) (rest : Path) : Url :=
  { s.base with path := .segments (s.root ++ "v1".toList :: rest) }

theorem endpoint_eq (s : HttpStore) (names : List String) :
    let path := names.foldl (Path.appendName s.base.isSpecial) (s.root ++ ["v1".toList])
    s.endpoint ("v1" :: names) = { s.base with path := .segments path } := by
  intro path
  rw [endpoint, Path.append, List.foldl_cons, appendName_fixed (by simp [fixedNames])]
  rfl

theorem endpoint_objects (s : HttpStore) :
    s.endpoint ["v1", "objects"] = s.under ["objects".toList] := by
  rw [endpoint_eq, List.foldl_cons, appendName_below (by simp [fixedNames])]
  rfl

theorem endpoint_batch (s : HttpStore) :
    s.endpoint batchSegments = s.under ["batch".toList, "objects".toList] := by
  rw [batchSegments, endpoint_eq, List.foldl_cons, appendName_below (by simp [fixedNames]),
    List.foldl_cons, appendName_below (by simp [fixedNames])]
  rfl

theorem endpoint_ready (s : HttpStore) :
    s.endpoint readySegments = s.under [".well-known".toList, "ready".toList] := by
  rw [readySegments, endpoint_eq, List.foldl_cons, appendName_below (by simp [fixedNames]),
    List.foldl_cons, appendName_below (by simp [fixedNames])]
  rfl

/-- The URL of a reference. Whatever the names are, the objects of the store come first. -/
theorem endpoint_reference (s : HttpStore) (source property : String) :
    s.endpoint (referenceSegments nodeClass source property) =
      s.under ("objects".toList :: (referenceTrail source property).map
        (Percent.encode (Percent.segmentSet s.base.isSpecial))) := by
  let encode := Percent.encode (Percent.segmentSet s.base.isSpecial)
  -- The identity of the source may change what stands before it, but only in the class.
  have source_step : Path.appendName s.base.isSpecial
      (s.root ++ "v1".toList :: (["objects".toList] ++ ["ASTNode".toList])) source =
      s.root ++ "v1".toList :: "objects".toList ::
        (Path.trail "ASTNode".toList source).map encode := by
    have split : s.root ++ "v1".toList :: (["objects".toList] ++ ["ASTNode".toList]) =
        (s.root ++ ["v1".toList, "objects".toList]) ++ ["ASTNode".toList] := by simp
    rw [split, Path.appendName_concat (by decide) (by decide) (encode_fixed (by decide)) source]
    simp [encode]
  have property_step (before : Path) : Path.appendName s.base.isSpecial
      (s.root ++ "v1".toList :: (before ++ ["references".toList])) property =
      s.root ++ "v1".toList :: (before ++
        (Path.trail "references".toList property).map encode) := by
    have split : s.root ++ "v1".toList :: (before ++ ["references".toList]) =
        (s.root ++ "v1".toList :: before) ++ ["references".toList] := by simp
    rw [split, Path.appendName_concat (by decide) (by decide) (encode_fixed (by decide)) property]
    simp [encode]
  rw [referenceSegments, endpoint_eq, List.foldl_cons, appendName_below (by simp [fixedNames]),
    List.foldl_cons, nodeClass, appendName_below (by simp [fixedNames]), List.nil_append,
    List.foldl_cons, source_step, List.foldl_cons, appendName_below (by simp [fixedNames]),
    List.foldl_cons, property_step, List.foldl_nil]
  simp [referenceTrail, encode, under]

/-- The post of a reference is the first request for it, if anything can be sent to its URL. -/
theorem exists_questions_of_reference (s : HttpStore) {source property targetClass target : String}
    (peer : Partner HttpCall HttpCall.Answer) (before : List HttpCall)
    (goes : (s.post (referenceSegments nodeClass source property)
      (ReferenceBody.toJson ⟨beacon targetClass target⟩)).goes) :
    ∃ more, ((s.reference source property targetClass target).run peer before).questions =
      .send (s.post (referenceSegments nodeClass source property)
        (ReferenceBody.toJson ⟨beacon targetClass target⟩)) :: more := by
  obtain ⟨more, first⟩ := exists_questions_of_goes peer before greatestRedirects goes
  rw [reference_eq, run_bind_done]
  exact ⟨more, first⟩

/-! ## Confinement -/

theorem referenceTrail_ne_nil (source property : String) : referenceTrail source property ≠ [] :=
  List.append_ne_nil_of_left_ne_nil (Path.trail_ne_nil _ source) _

theorem pathText_under (s : HttpStore) (rest : Path) :
    (s.under rest).pathText = Path.render s.root ++ '/' :: 'v' :: '1' :: Path.render rest := by
  simp [under, Url.pathText, Path.render]

/-- URLs under the interface are told apart by what comes after it. -/
theorem render_of_chars_under (u : Url) {root p q : Path} {a b : List Char}
    (h : ({ u with path := .segments (root ++ "v1".toList :: a :: p) } : Url).chars =
      ({ u with path := .segments (root ++ "v1".toList :: b :: q) } : Url).chars) :
    Path.render (a :: p) = Path.render (b :: q) := by
  have version : "v1".toList ≠ [] := by decide
  have text := Url.pathText_of_chars h rfl
    (Url.authorityText_segments u root version a b p q) rfl rfl
  simpa [Url.pathText, Path.render] using text

/-- The path of a reference goes on after that of the objects, and nothing in the names ends it. -/
theorem exists_pathText_reference (s : HttpStore) (source property : String) :
    ∃ rest, (s.endpoint (referenceSegments nodeClass source property)).pathText =
        (s.endpoint ["v1", "objects"]).pathText ++ '/' :: rest ∧
      ∀ c ∈ rest, c ≠ '?' ∧ c ≠ '#' := by
  obtain ⟨name, names, trail⟩ :=
    List.exists_cons_of_ne_nil (referenceTrail_ne_nil source property)
  let encode := Percent.encode (Percent.segmentSet s.base.isSpecial)
  have text : Path.render ((name :: names).map encode) =
      '/' :: (encode name ++ Path.render (names.map encode)) := by simp [Path.render]
  refine ⟨encode name ++ Path.render (names.map encode), ?_, fun c among => ?_⟩
  · rw [endpoint_reference, endpoint_objects, pathText_under, pathText_under, trail, ← text]
    simp [Path.render, encode]
  · have inside : c ∈ Path.render ((name :: names).map encode) := by
      rw [text]
      exact List.mem_cons_of_mem _ among
    refine ⟨?_, ?_⟩
    · rintro rfl
      exact Path.mark_notMem_render (.inl rfl) _ inside
    · rintro rfl
      exact Path.mark_notMem_render (.inr rfl) _ inside

/-- The URL of a reference differs from that of the base in its path only. The path lies under the
objects of the store, whatever the names are; and the text of the URL is that of the objects, with
more after a slash that ends neither the path nor the URL. So the URL is never that of another
endpoint, and the target has no part in it. -/
theorem reference_confined (s : HttpStore) (source property : String) :
    let url := s.endpoint (referenceSegments nodeClass source property)
    let objects := s.endpoint ["v1", "objects"]
    (url.scheme = s.base.scheme ∧ url.user = s.base.user ∧ url.password = s.base.password ∧
      url.host = s.base.host ∧ url.port = s.base.port ∧ url.query = s.base.query ∧
      url.fragment = s.base.fragment) ∧
    (∃ rest, url.pathText = objects.pathText ++ '/' :: rest ∧
      url.chars = s.base.scheme ++ ':' :: (objects.authorityText ++
        (objects.pathText ++ '/' :: rest) ++ Url.marked '?' s.base.query ++
        Url.marked '#' s.base.fragment) ∧
      ∀ c ∈ rest, c ≠ '?' ∧ c ≠ '#') ∧
    url.render ≠ (s.endpoint batchSegments).render ∧
    url.render ≠ (s.endpoint readySegments).render ∧
    ∀ targetClass target peer before,
      let post := s.post (referenceSegments nodeClass source property)
        (ReferenceBody.toJson ⟨beacon targetClass target⟩)
      post.url = url.withoutUser ∧
        (post.goes → ∃ more, ((s.reference source property targetClass target).run
          peer before).questions = .send post :: more) := by
  intro url objects
  have lies : url = s.under ("objects".toList :: (referenceTrail source property).map
      (Percent.encode (Percent.segmentSet s.base.isSpecial))) :=
    s.endpoint_reference source property
  have under_objects : objects = s.under ["objects".toList] := s.endpoint_objects
  refine ⟨⟨rfl, rfl, rfl, rfl, rfl, rfl, rfl⟩, ?_, fun same => ?_, fun same => ?_, ?_⟩
  · obtain ⟨rest, path, clean⟩ := s.exists_pathText_reference source property
    have authority : url.authorityText = objects.authorityText := by
      rw [lies, under_objects]
      exact Url.authorityText_segments s.base s.root (by decide) ..
    refine ⟨rest, path, ?_, clean⟩
    rw [Url.chars, authority, path]
    rfl
  · rw [lies, endpoint_batch] at same
    have text := render_of_chars_under s.base (String.ofList_injective same)
    simp [Path.render] at text
  · rw [lies, endpoint_ready] at same
    have text := render_of_chars_under s.base (String.ofList_injective same)
    simp [Path.render] at text
  · intro targetClass target peer before post
    exact ⟨rfl, s.exists_questions_of_reference peer before⟩

/-- Points that are not left out lead up to the objects of the store, and no further. -/
theorem reference_confined_points :
    let url := onHost.endpoint (referenceSegments nodeClass "..\t" "a/../?#")
    let post := onHost.post (referenceSegments nodeClass "..\t" "a/../?#")
      (ReferenceBody.toJson ⟨beacon nodeClass "b"⟩)
    url.render = "http://h/v1/objects//references/a%2F..%2F%3F%23" ∧
      (∃ rest, url.pathText = (onHost.endpoint ["v1", "objects"]).pathText ++ '/' :: rest ∧
        '%' ∈ rest ∧ '%' ≠ '?' ∧ '%' ≠ '#') ∧
      url.render ≠ (onHost.endpoint batchSegments).render ∧
      url.render ≠ (onHost.endpoint readySegments).render ∧
      post.url = url.withoutUser ∧ post.goes ∧
      ∃ more, ((onHost.reference "..\t" "a/../?#" nodeClass "b").run
        (replyingWith []) []).questions = .send post :: more := by
  intro url post
  obtain ⟨-, ⟨rest, path, -, clean⟩, batch, ready, others⟩ :=
    reference_confined onHost "..\t" "a/../?#"
  have text : url.pathText = (onHost.endpoint ["v1", "objects"]).pathText ++
      '/' :: "/references/a%2F..%2F%3F%23".toList := by decide
  obtain rfl := (List.cons.inj (List.append_cancel_left (text.symm.trans path))).2
  have among : '%' ∈ "/references/a%2F..%2F%3F%23".toList := by decide
  have goes : post.goes := by decide
  obtain ⟨same, first⟩ := others nodeClass "b" (replyingWith []) []
  exact ⟨by decide, ⟨_, path, among, clean _ among⟩, batch, ready, same, goes, first goes⟩

end HttpStore

/-! ## Posts that are alike -/

theorem beacon_injective {className id id' : String}
    (h : beacon className id = beacon className id') : id = id' := by
  unfold beacon at h
  exact (String.append_right_inj _).mp h

/-- The body of a reference can be read back, so it determines the beacon. -/
theorem ReferenceBody.render_toJson_injective {b b' : ReferenceBody}
    (h : b.toJson.render = b'.toJson.render) : b = b' := by
  have reads (b : ReferenceBody) :
      JsonReader.any.run (Symbol.ofString b.toJson.render) = .ok b.toJson :=
    JsonReader.any_run_render (Json.faithful_of_isExact (by simp [toJson]))
      (by decide : 1 ≤ JsonReader.greatestDepth)
  have same : b.toJson = b'.toJson := Except.ok.inj ((reads b).symm.trans (h ▸ reads b'))
  cases b
  cases b'
  simpa [toJson] using same

/-- A relationship whose source and type are kept whole in URLs. -/
def Relationship.Whole (r : Relationship) : Prop := Path.Whole r.source ∧ Path.Whole r.type

instance (r : Relationship) : Decidable r.Whole := inferInstanceAs (Decidable (_ ∧ _))

namespace HttpStore

/-- Whether two relationships are posted alike: nothing that is sent tells them apart. -/
def SamePost (s : HttpStore) (r r' : Relationship) : Prop :=
  (s.relationshipPost r).url.render = (s.relationshipPost r').url.render ∧
    (s.relationshipPost r).body.map Json.render = (s.relationshipPost r').body.map Json.render

variable {r r' : Relationship}

theorem url_relationshipPost (s : HttpStore) (r : Relationship) :
    (s.relationshipPost r).url =
      { s.base.withoutUser with path := .segments (s.root ++ "v1".toList :: "objects".toList ::
          (referenceTrail r.source r.type).map
            (Percent.encode (Percent.segmentSet s.base.isSpecial))) } := by
  rw [relationshipPost, post, endpoint_reference]
  rfl

theorem url_relationshipPost_iff (s : HttpStore) :
    (s.relationshipPost r).url.render = (s.relationshipPost r').url.render ↔
      referenceTrail r.source r.type = referenceTrail r'.source r'.type := by
  rw [url_relationshipPost, url_relationshipPost]
  constructor
  · intro same
    have text := render_of_chars_under s.base.withoutUser (String.ofList_injective same)
    have noSlash (names : List (List Char)) : ∀ t ∈ "objects".toList :: names.map
        (Percent.encode (Percent.segmentSet s.base.isSpecial)), '/' ∉ t := by
      simp [Path.slash_notMem_encode]
    have segments := (List.cons.inj (Path.render_injective (noSlash _) (noSlash _) text)).2
    exact (List.map_inj_right fun _ _ =>
      Percent.encode_injective Path.segmentSet_percent).mp segments
  · intro same
    rw [same]

theorem body_relationshipPost_iff (s : HttpStore) :
    (s.relationshipPost r).body.map Json.render = (s.relationshipPost r').body.map Json.render ↔
      r.target = r'.target := by
  constructor
  · intro same
    have beacons := ReferenceBody.render_toJson_injective (Option.some.inj same)
    exact beacon_injective (ReferenceBody.mk.inj beacons)
  · intro same
    simp [relationshipPost, post, same]

/-- The path of a reference whose names are whole ends in them. -/
theorem referenceTrail_of_whole (whole : r.Whole) : referenceTrail r.source r.type =
    ["ASTNode".toList, r.source.toList, "references".toList, r.type.toList] := by
  rw [referenceTrail, Path.trail_of_whole whole.1, Path.trail_of_whole whole.2]
  rfl

/-- The URL of a reference whose names are whole names both, each as a segment of its own. -/
theorem path_of_whole (s : HttpStore) (whole : r.Whole) :
    let encode := Percent.encode (Percent.segmentSet s.base.isSpecial)
    (s.relationshipPost r).url.path = .segments (s.root ++ ["v1".toList, "objects".toList,
      "ASTNode".toList, encode r.source.toList, "references".toList, encode r.type.toList]) := by
  rw [url_relationshipPost, referenceTrail_of_whole whole]
  simp only [List.map_cons, List.map_nil,
    encode_fixed (show "ASTNode" ∈ fixedNames by decide),
    encode_fixed (show "references" ∈ fixedNames by decide)]

/-- Two relationships are posted alike if and only if they have the same target and the paths of
their references end alike. Those whose names are whole are posted alike only if they are the same:
the URL of such a relationship names its source and its type, each as a segment of its own. -/
theorem posted_alike_iff (s : HttpStore) (r r' : Relationship) :
    (s.SamePost r r' ↔ r.target = r'.target ∧
      referenceTrail r.source r.type = referenceTrail r'.source r'.type) ∧
    (r.Whole → r'.Whole → r ≠ r' → ¬ s.SamePost r r') ∧
    (r.Whole → ∃ source type, (s.relationshipPost r).url.path = .segments (s.root ++
        ["v1".toList, "objects".toList, "ASTNode".toList, source, "references".toList, type]) ∧
      Percent.decode source = r.source.toList.flatMap String.utf8EncodeChar ∧
      Percent.decode type = r.type.toList.flatMap String.utf8EncodeChar) ∧
    ∀ peer before, (s.relationshipPost r).goes →
      ∃ more, ((s.reference r.source r.type nodeClass r.target).run peer before).questions =
        .send (s.relationshipPost r) :: more := by
  have alike : s.SamePost r r' ↔ r.target = r'.target ∧
      referenceTrail r.source r.type = referenceTrail r'.source r'.type :=
    (and_congr s.url_relationshipPost_iff s.body_relationshipPost_iff).trans and_comm
  refine ⟨alike, fun whole whole' distinct same => distinct ?_, fun whole => ?_, ?_⟩
  · obtain ⟨target, trail⟩ := alike.mp same
    rw [referenceTrail_of_whole whole, referenceTrail_of_whole whole'] at trail
    simp only [List.cons.injEq, String.toList_inj, true_and, and_true] at trail
    obtain ⟨source, type⟩ := trail
    cases r
    cases r'
    rw [Relationship.mk.injEq]
    exact ⟨source, target, type⟩
  · exact ⟨_, _, s.path_of_whole whole, Percent.decode_encode Path.segmentSet_percent,
      Percent.decode_encode Path.segmentSet_percent⟩
  · exact s.exists_questions_of_reference

/-- Slashes in names do not make the two run together. -/
theorem posted_alike_iff_slashes :
    let r : Relationship := ⟨"a/references/b", "d\n", "calls"⟩
    let r' : Relationship := ⟨"a", "d\n", "b/references/calls"⟩
    r.Whole ∧ r'.Whole ∧ r ≠ r' ∧ ¬ onHost.SamePost r r' ∧
      (∃ source type, (onHost.relationshipPost r).url.path = .segments
          ["v1".toList, "objects".toList, "ASTNode".toList, source, "references".toList, type] ∧
        Percent.decode source = "a/references/b".toList.flatMap String.utf8EncodeChar ∧
        Percent.decode type = "calls".toList.flatMap String.utf8EncodeChar) ∧
      (onHost.relationshipPost r).goes ∧
      ∃ more, ((onHost.reference r.source r.type nodeClass r.target).run
        (replyingWith []) []).questions = .send (onHost.relationshipPost r) :: more := by
  intro r r'
  have whole : r.Whole := by decide
  have whole' : r'.Whole := by decide
  have distinct : r ≠ r' := by decide
  have goes : (onHost.relationshipPost r).goes := by decide
  obtain ⟨-, differ, own, first⟩ := posted_alike_iff onHost r r'
  exact ⟨whole, whole', distinct, differ whole whole' distinct, own whole, goes, first _ _ goes⟩

/-- Line feeds leave no trace, and names of points are left out, so that references of different
sources are posted alike. -/
theorem posts_alike_of_different :
    (⟨"a\n", "b", "calls"⟩ : Relationship) ≠ ⟨"a", "b", "calls"⟩ ∧
      onHost.SamePost ⟨"a\n", "b", "calls"⟩ ⟨"a", "b", "calls"⟩ ∧
      (⟨".", "b", "calls"⟩ : Relationship) ≠ ⟨"..", "b", "calls"⟩ ∧
      onHost.SamePost ⟨".", "b", "calls"⟩ ⟨"..", "b", "calls"⟩ := by
  refine ⟨by decide, ⟨by decide, rfl⟩, by decide, ⟨by decide, rfl⟩⟩

end HttpStore

end GraphIngest
