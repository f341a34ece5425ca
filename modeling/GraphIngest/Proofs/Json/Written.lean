import GraphIngest.Proofs.Json.Token

/-!
# Written values

The compact text of a value forms the draft of that value, in whatever place it stands. Whether the
value is read back from its draft depends on its numbers: integers of sixty-four bits are.

## Main definitions

* `Json.isExact`: whether all numbers in a value are integers of sixty-four bits.
* `Json.Faithful`: whether all numbers in a value are read back.
* `Draft.ofJson`: the draft of a value.
* `Draft.Begins`: a text that begins with a value; `Draft.Written` is a value whose text begins so.
* `Draft.build_render`: the draft of a whole text is that of the value.
-/

namespace GraphIngest

/-! ## Values -/

namespace Json

/-- Induction over a value and all values in it. -/
@[elab_as_elim]
theorem induction {P : Json → Prop} (null : P null) (bool : ∀ b, P (bool b))
    (number : ∀ n, P (number n)) (text : ∀ s, P (text s))
    (array : ∀ items, (∀ v ∈ items, P v) → P (array items))
    (object : ∀ members, (∀ m ∈ members, P m.2) → P (object members)) : ∀ v, P v
  | .null => null
  | .bool b => bool b
  | .number n => number n
  | .text s => text s
  | .array items => array items fun v _ => induction null bool number text array object v
  | .object members =>
    object members fun m _ => induction null bool number text array object m.2
termination_by v => sizeOf v
decreasing_by
  · have := List.sizeOf_lt_of_mem ‹_ ∈ items›
    simp
    omega
  · have := List.sizeOf_lt_of_mem ‹_ ∈ members›
    have : sizeOf m.2 < sizeOf m := by cases m; simp only [Prod.mk.sizeOf_spec]; omega
    simp
    omega

mutual

/-- Whether all numbers in a value are integers of sixty-four bits, with or without a sign. -/
def isExact : Json → Bool
  | number (.int n) => -9223372036854775808 ≤ n && n ≤ Numeral.greatestUnsigned
  | number _ => false
  | array items => areExact items
  | object members => membersExact members
  | null | bool _ | text _ => true

def areExact : List Json → Bool
  | [] => true
  | v :: rest => isExact v && areExact rest

def membersExact : List (String × Json) → Bool
  | [] => true
  | (_, v) :: rest => isExact v && membersExact rest

end

@[simp] theorem isExact_null : null.isExact := rfl

@[simp] theorem isExact_bool (b : Bool) : (bool b).isExact := rfl

@[simp] theorem isExact_text (s : String) : (text s).isExact := rfl

@[simp] theorem isExact_array {items : List Json} :
    (array items).isExact ↔ ∀ v ∈ items, v.isExact := by
  rw [isExact]
  induction items with
  | nil => simp [areExact]
  | cons v rest ih => simp [areExact, ih]

@[simp] theorem isExact_object {members : List (String × Json)} :
    (object members).isExact ↔ ∀ m ∈ members, m.2.isExact := by
  rw [isExact]
  induction members with
  | nil => simp [membersExact]
  | cons m rest ih => simp [membersExact, ih]

mutual

/-- Whether all numbers in a value are read back from their texts. -/
def Faithful : Json → Prop
  | number n => n.ReadsBack
  | array items => AreFaithful items
  | object members => MembersFaithful members
  | null | bool _ | text _ => True

def AreFaithful : List Json → Prop
  | [] => True
  | v :: rest => Faithful v ∧ AreFaithful rest

def MembersFaithful : List (String × Json) → Prop
  | [] => True
  | (_, v) :: rest => Faithful v ∧ MembersFaithful rest

end

theorem faithful_array {items : List Json} : (array items).Faithful ↔ ∀ v ∈ items, v.Faithful := by
  rw [Faithful]
  induction items with
  | nil => simp [AreFaithful]
  | cons v rest ih => simp [AreFaithful, ih]

theorem faithful_object {members : List (String × Json)} :
    (object members).Faithful ↔ ∀ m ∈ members, m.2.Faithful := by
  rw [Faithful]
  induction members with
  | nil => simp [MembersFaithful]
  | cons m rest ih => simp [MembersFaithful, ih]

/-- Exact numbers are read back. -/
theorem faithful_of_isExact {v : Json} (exact : v.isExact) : v.Faithful := by
  induction v using Json.induction with
  | null | bool | text => trivial
  | number n =>
    cases n with
    | int n =>
      simp only [isExact, Bool.and_eq_true, decide_eq_true_eq] at exact
      exact JsonNumber.readsBack_int exact.1 exact.2
    | double | single => simp [isExact] at exact
  | array items ih =>
    exact faithful_array.mpr fun v among => ih v among (isExact_array.mp exact v among)
  | object members ih =>
    exact faithful_object.mpr fun m among => ih m among (isExact_object.mp exact m among)

end Json

/-! ## Drafts -/

namespace Draft

mutual

/-- A value as it is written. -/
def ofJson : Json → Draft
  | .null => .null
  | .bool b => .bool b
  | .number n => .number (.ofText n.render)
  | .text s => .text (.ofText s)
  | .array items => .array (ofItems items) .closed
  | .object members => .object (ofMembers members) .closed

def ofItems : List Json → List Draft
  | [] => []
  | v :: rest => ofJson v :: ofItems rest

def ofMembers : List (String × Json) → List (Quoted × Draft)
  | [] => []
  | (name, v) :: rest => (.ofText name, ofJson v) :: ofMembers rest

end

theorem ofItems_eq (items : List Json) : ofItems items = items.map ofJson := by
  induction items with
  | nil => rfl
  | cons v rest ih => rw [ofItems, ih, List.map_cons]

theorem ofMembers_eq (members : List (String × Json)) :
    ofMembers members = members.map fun m => (.ofText m.1, ofJson m.2) := by
  induction members with
  | nil => rfl
  | cons m rest ih => rw [ofMembers, ih, List.map_cons]

/-- Go on with tokens from where the tokens before them led. -/
def resume (tokens : List JsonToken) : Progress → Draft × List JsonToken
  | .finished d => (d, tokens)
  | .going frames stage => buildFrom frames stage tokens

theorem buildFrom_cons (frames : List Frame) (stage : Stage) (t : JsonToken)
    (rest : List JsonToken) :
    buildFrom frames stage (t :: rest) = resume rest (step frames stage t) := by
  rw [buildFrom]
  cases step frames stage t <;> rfl

/-! In a list and in an object, a token is one of the next value or key unless it closes them. -/

section Awaits

variable {frames : List Frame} {t : JsonToken}

theorem step_listOpened (h : t ≠ .closeList) :
    step frames .listOpened t = stepValue (.list [] :: frames) t := by
  cases t <;> first | rfl | exact absurd rfl h

theorem step_itemComma {before : List Draft} (h : t ≠ .closeList) :
    step frames (.itemComma before) t = stepValue (.list before :: frames) t := by
  cases t <;> first | rfl | exact absurd rfl h

theorem step_objectOpened (h : t ≠ .closeObject) :
    step frames .objectOpened t = stepKey frames [] t := by
  cases t <;> first | rfl | exact absurd rfl h

theorem step_memberComma {before : List (Quoted × Draft)} (h : t ≠ .closeObject) :
    step frames (.memberComma before) t = stepKey frames before t := by
  cases t <;> first | rfl | exact absurd rfl h

end Awaits

theorem stepValue_text {frames : List Frame} {q : Quoted} (closed : q.ending = .closed) :
    stepValue frames (.text q) = supply (.text q) frames := if_pos closed

/-- Whether a text begins with a value that forms a draft, whatever stands around it. -/
def Begins (s : List Symbol) (d : Draft) (rest : List Symbol) : Prop :=
  ∃ t ts, JsonToken.tokens s = t :: ts ∧ t ≠ .closeList ∧
    ∀ frames, resume ts (stepValue frames t) = resume (JsonToken.tokens rest) (supply d frames)

theorem Begins.build {s : List Symbol} {d : Draft} (h : Begins s d []) :
    build (JsonToken.tokens s) = (d, []) := by
  obtain ⟨t, ts, tokens, -, ends⟩ := h
  rw [Draft.build, tokens, buildFrom_cons, step, ends [], JsonToken.tokens_nil]
  rfl

/-- A value in a list, which is either its first or stands after a comma. -/
theorem Begins.item {s rest : List Symbol} {d : Draft} (h : Begins s d rest) {frames : List Frame}
    {stage : Stage} {before : List Draft}
    (awaits : ∀ t, t ≠ .closeList → step frames stage t = stepValue (.list before :: frames) t) :
    buildFrom frames stage (JsonToken.tokens s) =
      buildFrom frames (.item (d :: before)) (JsonToken.tokens rest) := by
  obtain ⟨t, ts, tokens, other, ends⟩ := h
  rw [tokens, buildFrom_cons, awaits t other, ends]
  rfl

/-- The value of a member. -/
theorem Begins.member {s rest : List Symbol} {d : Draft} (h : Begins s d rest)
    {frames : List Frame} {before : List (Quoted × Draft)} {key : Quoted} :
    buildFrom (.member before key :: frames) .value (JsonToken.tokens s) =
      buildFrom frames (.member ((key, d) :: before)) (JsonToken.tokens rest) := by
  obtain ⟨t, ts, tokens, -, ends⟩ := h
  rw [tokens, buildFrom_cons]
  exact ends _

/-- A value that another one follows in its list. -/
theorem Begins.nextItem {s rest : List Symbol} {d : Draft} (h : Begins s d (.char ',' :: rest))
    {frames : List Frame} {stage : Stage} {before : List Draft}
    (awaits : ∀ t, t ≠ .closeList → step frames stage t = stepValue (.list before :: frames) t) :
    buildFrom frames stage (JsonToken.tokens s) =
      buildFrom frames (.itemComma (d :: before)) (JsonToken.tokens rest) := by
  rw [h.item awaits, JsonToken.tokens_punctuation rest rfl, buildFrom_cons]
  rfl

/-- The last value of a list. -/
theorem Begins.lastItem {s rest : List Symbol} {d : Draft} (h : Begins s d (.char ']' :: rest))
    {frames : List Frame} {stage : Stage} {before : List Draft}
    (awaits : ∀ t, t ≠ .closeList → step frames stage t = stepValue (.list before :: frames) t) :
    buildFrom frames stage (JsonToken.tokens s) =
      resume (JsonToken.tokens rest)
        (supply (.array (before.reverse ++ [d]) .closed) frames) := by
  rw [h.item awaits, JsonToken.tokens_punctuation rest rfl, buildFrom_cons]
  simp [step]

/-- A key in an object, with its colon. -/
theorem buildFrom_key {s rest : List Symbol} {key : Quoted} (closed : key.ending = .closed)
    (named : JsonToken.tokens s = .text key :: .colon :: JsonToken.tokens rest)
    {frames : List Frame} {stage : Stage} {before : List (Quoted × Draft)}
    (awaits : ∀ t, t ≠ .closeObject → step frames stage t = stepKey frames before t) :
    buildFrom frames stage (JsonToken.tokens s) =
      buildFrom (.member before key :: frames) .value (JsonToken.tokens rest) := by
  rw [named, buildFrom_cons, awaits _ (by simp), stepKey, if_pos closed, resume, buildFrom_cons]
  rfl

/-- The value of a member that another one follows. -/
theorem Begins.nextMember {s rest : List Symbol} {d : Draft} (h : Begins s d (.char ',' :: rest))
    {frames : List Frame} {before : List (Quoted × Draft)} {key : Quoted} :
    buildFrom (.member before key :: frames) .value (JsonToken.tokens s) =
      buildFrom frames (.memberComma ((key, d) :: before)) (JsonToken.tokens rest) := by
  rw [h.member, JsonToken.tokens_punctuation rest rfl, buildFrom_cons]
  rfl

/-- The value of the last member of an object. -/
theorem Begins.lastMember {s rest : List Symbol} {d : Draft}
    (h : Begins s d (.char '\x7d' :: rest)) {frames : List Frame}
    {before : List (Quoted × Draft)} {key : Quoted} :
    buildFrom (.member before key :: frames) .value (JsonToken.tokens s) =
      resume (JsonToken.tokens rest)
        (supply (.object (before.reverse ++ [(key, d)]) .closed) frames) := by
  rw [h.member, JsonToken.tokens_punctuation rest rfl, buildFrom_cons]
  simp [step]

/-- A token that is a value by itself. -/
theorem Begins.of_token {s rest : List Symbol} {d : Draft} {t : JsonToken}
    (tokens : JsonToken.tokens s = t :: JsonToken.tokens rest)
    (supplies : ∀ frames, stepValue frames t = supply d frames) : Begins s d rest := by
  refine ⟨t, _, tokens, ?_, fun frames => by rw [supplies]⟩
  rintro rfl
  cases supplies [.list []]

/-- A list begins with its bracket, and ends with what closes it. -/
theorem Begins.array {inner : List Char} {rest : List Symbol} {d : Draft}
    (built : ∀ frames, buildFrom frames .listOpened
        (JsonToken.tokens (inner.map .char ++ .char ']' :: rest)) =
      resume (JsonToken.tokens rest) (supply d frames)) :
    Begins (('[' :: (inner ++ [']'])).map .char ++ rest) d rest := by
  simp only [List.map_cons, List.map_append, List.map_nil, List.cons_append, List.append_assoc,
    List.nil_append]
  exact ⟨_, _, JsonToken.tokens_punctuation _ rfl, by simp, built⟩

/-- An object begins with its bracket, and ends with what closes it. -/
theorem Begins.object {inner : List Char} {rest : List Symbol} {d : Draft}
    (built : ∀ frames, buildFrom frames .objectOpened
        (JsonToken.tokens (inner.map .char ++ .char '\x7d' :: rest)) =
      resume (JsonToken.tokens rest) (supply d frames)) :
    Begins (('\x7b' :: (inner ++ ['\x7d'])).map .char ++ rest) d rest := by
  simp only [List.map_cons, List.map_append, List.map_nil, List.cons_append, List.append_assoc,
    List.nil_append]
  exact ⟨_, _, JsonToken.tokens_punctuation _ rfl, by simp, built⟩

/-- A list with nothing in it. -/
theorem buildFrom_closeList (rest : List Symbol) (frames : List Frame) :
    buildFrom frames .listOpened (JsonToken.tokens (.char ']' :: rest)) =
      resume (JsonToken.tokens rest) (supply (.array [] .closed) frames) := by
  rw [JsonToken.tokens_punctuation rest rfl, buildFrom_cons]
  rfl

/-- An object with nothing in it. -/
theorem buildFrom_closeObject (rest : List Symbol) (frames : List Frame) :
    buildFrom frames .objectOpened (JsonToken.tokens (.char '\x7d' :: rest)) =
      resume (JsonToken.tokens rest) (supply (.object [] .closed) frames) := by
  rw [JsonToken.tokens_punctuation rest rfl, buildFrom_cons]
  rfl

theorem endsBefore_punctuation {c : Char} (rest : List Symbol)
    (h : c ∈ [',', ']', '\x7d']) : Numeral.EndsBefore (.char c :: rest) := by
  refine Numeral.endsBefore_cons rest ?_
  simp only [List.mem_cons, List.not_mem_nil, or_false] at h
  obtain rfl | rfl | rfl := h <;> decide

/-- Whether a value is written so that its draft is read back, whatever comes after it. -/
def Written (v : Json) : Prop :=
  ∀ rest, Numeral.EndsBefore rest → Begins (v.chars.map .char ++ rest) (ofJson v) rest

theorem buildFrom_items {v : Json} {vs : List Json} (each : ∀ w ∈ v :: vs, Written w)
    {frames : List Frame} {stage : Stage} {before : List Draft} (rest : List Symbol)
    (awaits : ∀ t, t ≠ .closeList → step frames stage t = stepValue (.list before :: frames) t) :
    buildFrom frames stage (JsonToken.tokens
        ((Json.itemsChars (v :: vs)).map .char ++ .char ']' :: rest)) =
      resume (JsonToken.tokens rest)
        (supply (.array (before.reverse ++ ofItems (v :: vs)) .closed) frames) := by
  induction vs generalizing v stage before with
  | nil =>
    have last := each v (by simp) _ (endsBefore_punctuation (c := ']') rest (by simp))
    exact last.lastItem awaits
  | cons w ws ih =>
    have first := each v (by simp) _ (endsBefore_punctuation (c := ',')
      ((Json.itemsChars (w :: ws)).map .char ++ .char ']' :: rest) (by simp))
    have chars : Json.itemsChars (v :: w :: ws) = v.chars ++ ',' :: Json.itemsChars (w :: ws) := rfl
    rw [chars, List.map_append, List.map_cons, List.append_assoc, List.cons_append,
      first.nextItem awaits]
    refine (ih (fun x among => each x (by simp [among])) fun _ => step_itemComma).trans ?_
    simp [ofItems]

theorem tokens_key (name : String) (rest : List Symbol) :
    JsonToken.tokens ((Json.quotedChars name).map .char ++ .char ':' :: rest) =
      .text (.ofText name) :: .colon :: JsonToken.tokens rest := by
  rw [JsonToken.tokens_quoted, JsonToken.tokens_punctuation rest rfl]

theorem buildFrom_members {m : String × Json} {ms : List (String × Json)}
    (each : ∀ x ∈ m :: ms, Written x.2) {frames : List Frame} {stage : Stage}
    {before : List (Quoted × Draft)} (rest : List Symbol)
    (awaits : ∀ t, t ≠ .closeObject → step frames stage t = stepKey frames before t) :
    buildFrom frames stage (JsonToken.tokens
        ((Json.membersChars (m :: ms)).map .char ++ .char '\x7d' :: rest)) =
      resume (JsonToken.tokens rest)
        (supply (.object (before.reverse ++ ofMembers (m :: ms)) .closed) frames) := by
  induction ms generalizing m stage before with
  | nil =>
    have last := each m (by simp) _ (endsBefore_punctuation (c := '\x7d') rest (by simp))
    rw [Json.membersChars, List.map_append, List.map_cons, List.append_assoc, List.cons_append,
      buildFrom_key rfl (tokens_key m.1 _) awaits, last.lastMember]
    rfl
  | cons m' ms ih =>
    have value := each m (by simp) _ (endsBefore_punctuation (c := ',')
      ((Json.membersChars (m' :: ms)).map .char ++ .char '\x7d' :: rest) (by simp))
    have chars : Json.membersChars (m :: m' :: ms) =
      Json.quotedChars m.1 ++ ':' :: (m.2.chars ++ ',' :: Json.membersChars (m' :: ms)) := rfl
    rw [chars, List.map_append, List.map_cons, List.map_append, List.map_cons,
      List.append_assoc, List.cons_append, List.append_assoc, List.cons_append,
      buildFrom_key rfl (tokens_key m.1 _) awaits, value.nextMember]
    refine (ih (fun x among => each x (by simp [among])) fun _ => step_memberComma).trans ?_
    simp [ofMembers]

/-- A list is written item by item. -/
theorem Written.array {items : List Json} (each : ∀ v ∈ items, Written v) :
    Written (.array items) := by
  intro rest _
  apply Begins.array
  intro frames
  cases items with
  | nil => exact buildFrom_closeList rest frames
  | cons v vs => exact buildFrom_items each rest fun _ => step_listOpened

/-- An object is written member by member. -/
theorem Written.object {members : List (String × Json)} (each : ∀ m ∈ members, Written m.2) :
    Written (.object members) := by
  intro rest _
  apply Begins.object
  intro frames
  cases members with
  | nil => exact buildFrom_closeObject rest frames
  | cons m ms => exact buildFrom_members each rest fun _ => step_objectOpened

/-- Every value is written so. -/
theorem written (v : Json) : Written v := by
  induction v using Json.induction with
  | null => exact fun rest _ => .of_token (JsonToken.tokens_null rest) fun _ => rfl
  | bool b => exact fun rest _ => .of_token (JsonToken.tokens_bool b rest) fun _ => rfl
  | number n => exact fun rest ends => .of_token (JsonToken.tokens_number n ends) fun _ => rfl
  | text s =>
    exact fun rest _ => .of_token (JsonToken.tokens_quoted s rest) fun _ => stepValue_text rfl
  | array items ih => exact .array ih
  | object members ih => exact .object ih

/-- The draft of a text that is written is the value. -/
theorem build_render (v : Json) :
    build (JsonToken.tokens (Symbol.ofString v.render)) = (ofJson v, []) := by
  have begins := written v [] Numeral.endsBefore_nil
  rw [List.append_nil] at begins
  simpa [Symbol.ofString, Json.render] using begins.build

end Draft

end GraphIngest
