import GraphIngest.Http.Exchange
import GraphIngest.Proofs.Dialogue.Laws

/-!
# Redirects

An exchange may end at another request than it began with: redirects move requests to other URLs,
and some of them turn a post into a request that only asks.

## Main definitions

* `Request.goes`, `Request.received`: whether a request is sent, and what a reply to it comes to.
* `Request.Leads`: the redirects between a request and the last one of its exchange.
* `Request.Ends`: how an exchange ended with a response.
* `Request.Leads.posts_iff`: when the last request is still the post that was to be made.
* `Request.run_follow_of_final`: an exchange without redirects.
* `Request.within_follow`: an exchange that begins with a request which only asks.
-/

namespace GraphIngest

open Dialogue

variable {peer : Partner HttpCall HttpCall.Answer} {before : List HttpCall}

/-! ## One request -/

/-- A call that sends a request which only asks. -/
def HttpCall.isGet (call : HttpCall) : Prop :=
  ∃ r, call = .send r ∧ r.method = .get ∧ r.body = none

theorem Response.redirect?_eq_some {response : Response} {r next : Request}
    (h : response.redirect? r = some next) :
    (response.status.code ∈ [301, 302, 303] ∧ next.method = .get ∧ next.body = none) ∨
      ((response.status.code = 307 ∨ response.status.code = 308) ∧
        next.method = r.method ∧ next.body = r.body) := by
  obtain ⟨url, target, rfl⟩ := Option.map_eq_some_iff.mp h
  have listed : response.status.code ∈ [301, 302, 303, 307, 308] := by
    unfold Response.target? at target
    split at target
    · simp at target
    · rename_i listed
      exact List.contains_iff_mem.mp (Decidable.not_not.mp listed)
  by_cases asks : response.status.code ∈ [301, 302, 303]
  · exact .inl ⟨asks, by simp [asks]⟩
  · refine .inr ⟨?_, by simp [asks]⟩
    simp only [List.mem_cons, List.not_mem_nil, or_false] at listed asks
    omega

/-- A request that only asks is redirected to another one that does. -/
theorem Response.redirect?_asks {response : Response} {r next : Request}
    (h : response.redirect? r = some next) (get : r.method = .get ∧ r.body = none) :
    next.method = .get ∧ next.body = none := by
  rcases Response.redirect?_eq_some h with ⟨-, asks⟩ | ⟨-, same⟩
  · exact asks
  · exact ⟨same.1.trans get.1, same.2.trans get.2⟩

namespace Request

/-- Whether a request is sent at all. -/
def goes (r : Request) : Bool := r.url.isSendable && r.url.isReachable

/-- What a reply to a request comes to. -/
def received (r : Request) : Reply → Except TransportError Response
  | .undelivered => .error (.undelivered r.url)
  | .response response => .ok response

/-- What can become of a request that is sent. -/
theorem reply_cases (peer : Partner HttpCall HttpCall.Answer) (before : List HttpCall)
    (r : Request) :
    peer before (.send r) = none ∨ peer before (.send r) = some .undelivered ∨
      ∃ response, peer before (.send r) = some (.response response) := by
  cases answer : peer before (.send r) with
  | none => exact .inl rfl
  | some reply =>
    cases reply with
    | undelivered => exact .inr (.inl rfl)
    | response response => exact .inr (.inr ⟨response, rfl⟩)

/-- A request that is not sent fails; another one is asked, and comes to what is replied to it. -/
theorem run_deliver_cases (peer : Partner HttpCall HttpCall.Answer) (before : List HttpCall)
    (r : Request) :
    (r.goes = false ∧ ∃ e, r.deliver.run peer before = ⟨[], [], some (.error e)⟩) ∨
      r.goes = true ∧
        r.deliver.run peer before = ⟨[.send r], [], (peer before (.send r)).map r.received⟩ := by
  unfold deliver goes
  split
  · rename_i unsendable
    exact .inl ⟨by simp_all, _, rfl⟩
  split
  · rename_i unreachable
    exact .inl ⟨by simp_all, _, rfl⟩
  rename_i sendable reachable
  refine .inr ⟨by simp_all, ?_⟩
  simp only [HttpDialogue.send, question, bind_eq, bind_ask, bind_done, pure_eq]
  obtain answer | answer | ⟨response, answer⟩ := reply_cases peer before r
  · rw [run_ask_unanswered answer, answer]
    rfl
  · rw [run_ask_answered answer, answer]
    rfl
  · rw [run_ask_answered answer, answer]
    rfl

/-- What is done with the first response of an exchange. -/
theorem follow_eq (r : Request) (redirects : Nat) :
    r.follow redirects = r.deliver.bind fun
      | .error e => .done (.error e)
      | .ok response =>
        match response.redirect? r, redirects with
        | none, _ => .done (.ok response)
        | some _, 0 => .done (.error (.tooManyRedirects r.url))
        | some next, left + 1 => next.follow left := by
  cases redirects with
  | zero =>
    refine congrArg r.deliver.bind (funext fun a => ?_)
    cases a with
    | error e => rfl
    | ok response => cases h : response.redirect? r <;> simp [h]
  | succ left =>
    refine congrArg r.deliver.bind (funext fun a => ?_)
    cases a with
    | error e => rfl
    | ok response => cases h : response.redirect? r <;> simp [h]

/-! ## Redirects -/

/-- Redirects lead from a request to a last one. Each request on the way was sent, and answered with
a response that asks for the next. -/
inductive Leads (peer : Partner HttpCall HttpCall.Answer) :
    List HttpCall → Request → List (Request × Response) → Request → Prop where
  | here (before : List HttpCall) (r : Request) : Leads peer before r [] r
  | moved {before : List HttpCall} {r next last : Request} {response : Response}
      {hops : List (Request × Response)} : r.goes →
      peer before (.send r) = some (.response response) → response.redirect? r = some next →
      Leads peer (before ++ [.send r]) next hops last →
      Leads peer before r ((r, response) :: hops) last

/-- The requests that were redirected, as they were sent. -/
abbrev sent (hops : List (Request × Response)) : List HttpCall := hops.map fun hop => .send hop.1

/-- A request that only asks stays one. -/
theorem Leads.asks {r last : Request} {hops : List (Request × Response)}
    (h : Leads peer before r hops last) (get : r.method = .get ∧ r.body = none) :
    last.method = .get ∧ last.body = none := by
  induction h with
  | here => exact get
  | moved _ _ redirect _ ih => exact ih (Response.redirect?_asks redirect get)

/-- The last request is still the post that was to be made exactly if all redirects repeat
requests. -/
theorem Leads.posts_iff {r last : Request} {hops : List (Request × Response)} {body : Json}
    (h : Leads peer before r hops last) (post : r.method = .post ∧ r.body = some body) :
    last.method = .post ∧ last.body = some body ↔
      ∀ hop ∈ hops, hop.2.status.code = 307 ∨ hop.2.status.code = 308 := by
  induction h with
  | here => simp [post]
  | moved _ _ redirect rest ih =>
    rw [List.forall_mem_cons]
    rcases Response.redirect?_eq_some redirect with ⟨asks, get⟩ | ⟨repeats, same⟩
    · have last_get := rest.asks get
      simp only [last_get, reduceCtorEq, false_and, false_iff, not_and]
      rintro (code | code) <;> simp [code] at asks
    · rw [ih ⟨same.1.trans post.1, same.2.trans post.2⟩]
      simp [repeats]

/-- Following redirects from a request ended with a response: what was sent, and what was answered
last. -/
structure Ends (peer : Partner HttpCall HttpCall.Answer) (before : List HttpCall) (r : Request)
    (asked : List HttpCall) (hops : List (Request × Response)) (last : Request)
    (response : Response) : Prop where
  leads : Leads peer before r hops last
  goes : last.goes
  asked_eq : asked = sent hops ++ [.send last]
  answered : peer (before ++ sent hops) (.send last) = some (.response response)
  final : response.redirect? last = none

/-! ## One step -/

/-- An exchange ends with the first reply, unless that is a redirect. -/
theorem run_follow_of_final {r : Request} {reply : Reply} (redirects : Nat) (goes : r.goes)
    (answer : peer before (.send r) = some reply)
    (final : ∀ response, reply = .response response → response.redirect? r = none) :
    (r.follow redirects).run peer before = ⟨[.send r], [], some (r.received reply)⟩ := by
  rw [follow_eq, run_bind]
  obtain ⟨stays, -⟩ | ⟨-, run⟩ := run_deliver_cases peer before r
  · simp [goes] at stays
  · cases reply with
    | undelivered => simp [run, answer, received, Transcript.andThen]
    | response response => simp [run, answer, received, final response rfl, Transcript.andThen]

/-- A redirect is followed as long as any may be. -/
theorem run_follow_of_moved {r next : Request} {response : Response} (left : Nat) (goes : r.goes)
    (answer : peer before (.send r) = some (.response response))
    (redirect : response.redirect? r = some next) :
    (r.follow (left + 1)).run peer before =
      let t := (next.follow left).run peer (before ++ [.send r])
      ⟨.send r :: t.questions, t.events, t.result⟩ := by
  rw [follow_eq, run_bind]
  obtain ⟨stays, -⟩ | ⟨-, run⟩ := run_deliver_cases peer before r
  · simp [goes] at stays
  · simp [run, answer, received, redirect, Transcript.andThen]

/-- If following redirects ends with a response, then it is the first one, or the first one led to
the request from which it was reached. -/
theorem follow_ok_cases {redirects : Nat} {r : Request} {response : Response}
    (h : ((r.follow redirects).run peer before).result = some (.ok response)) :
    r.goes ∧ ∃ first, peer before (.send r) = some (.response first) ∧
      ((first = response ∧ first.redirect? r = none) ∨
      ∃ next left, redirects = left + 1 ∧ first.redirect? r = some next ∧
        ((next.follow left).run peer (before ++ [.send r])).result = some (.ok response)) := by
  rw [follow_eq, run_bind] at h
  obtain ⟨-, e, run⟩ | ⟨goes, run⟩ := run_deliver_cases peer before r
  · simp [run, Transcript.andThen] at h
  refine ⟨goes, ?_⟩
  obtain answer | answer | ⟨first, answer⟩ := reply_cases peer before r
  · simp [run, answer, Transcript.andThen] at h
  · simp [run, answer, received, Transcript.andThen] at h
  refine ⟨first, answer, ?_⟩
  simp only [run, answer, received, Option.map_some, Transcript.andThen] at h
  cases redirect : first.redirect? r with
  | none => exact .inl ⟨by simpa [redirect] using h, rfl⟩
  | some next =>
    cases redirects with
    | zero => simp [redirect] at h
    | succ left =>
      rw [redirect] at h
      exact .inr ⟨next, left, rfl, rfl, h⟩

/-! ## All steps -/

/-- Following so many redirects that ends with a response did so after at most so many. -/
theorem exists_ends_of_follow {before : List HttpCall} {redirects : Nat} {r : Request}
    {response : Response}
    (h : ((r.follow redirects).run peer before).result = some (.ok response)) :
    ∃ hops last, hops.length ≤ redirects ∧
      Ends peer before r ((r.follow redirects).run peer before).questions hops last response := by
  obtain ⟨goes, first, answer, ⟨rfl, final⟩ | ⟨next, left, rfl, redirect, rest⟩⟩ :=
    follow_ok_cases h
  · have run := run_follow_of_final redirects goes answer
      fun other same => Reply.response.inj same ▸ final
    refine ⟨[], r, Nat.zero_le _, .here before r, goes, by simp [run], ?_, final⟩
    simpa using answer
  · have run := run_follow_of_moved left goes answer redirect
    obtain ⟨hops, last, few, ends⟩ := exists_ends_of_follow rest
    refine ⟨(r, first) :: hops, last, by simpa using few, .moved goes answer redirect ends.leads,
      ends.goes, ?_, ?_, ends.final⟩
    · simp [run, ends.asked_eq]
    · simpa using ends.answered
termination_by redirects

/-- Requests that lead to a response in few enough steps are followed to it. -/
theorem Leads.result_follow {r last : Request} {hops : List (Request × Response)}
    {response : Response} {redirects : Nat} (h : Leads peer before r hops last)
    (few : hops.length ≤ redirects) (goes : last.goes)
    (answered : peer (before ++ sent hops) (.send last) = some (.response response))
    (final : response.redirect? last = none) :
    ((r.follow redirects).run peer before).result = some (.ok response) := by
  induction h generalizing redirects with
  | here =>
    have run := run_follow_of_final redirects goes (by simpa using answered)
      fun other same => Reply.response.inj same ▸ final
    rw [run]
    rfl
  | moved sends answer redirect _ ih =>
    obtain ⟨left, rfl⟩ : ∃ left, redirects = left + 1 :=
      ⟨redirects - 1, by simp only [List.length_cons] at few; omega⟩
    rw [run_follow_of_moved left sends answer redirect]
    exact ih (by simpa using few) goes (by simpa using answered) final

/-- Following so many redirects ends with a response if and only if at most so many lead to it. -/
theorem follow_ok_iff {redirects : Nat} {r : Request} {response : Response} :
    ((r.follow redirects).run peer before).result = some (.ok response) ↔
      ∃ hops last, hops.length ≤ redirects ∧
        Ends peer before r ((r.follow redirects).run peer before).questions hops last response := by
  refine ⟨exists_ends_of_follow, ?_⟩
  rintro ⟨hops, last, few, ends⟩
  exact ends.leads.result_follow few ends.goes ends.answered ends.final

/-! ## What is asked and told -/

theorem within_deliver {r : Request} (get : r.method = .get ∧ r.body = none) :
    r.deliver.Within HttpCall.isGet fun _ => False := by
  unfold deliver
  split
  · trivial
  split
  · trivial
  refine ⟨⟨r, rfl, get⟩, fun reply => ?_⟩
  cases reply <;> trivial

/-- Redirects are followed without a word, and from a request that only asks they lead to no
other. -/
theorem within_follow {r : Request} (get : r.method = .get ∧ r.body = none) (redirects : Nat) :
    (r.follow redirects).Within HttpCall.isGet fun _ => False := by
  induction redirects generalizing r with
  | zero =>
    rw [follow_eq]
    refine (within_deliver get).bind fun outcome => ?_
    split
    · trivial
    split <;> trivial
  | succ left ih =>
    rw [follow_eq]
    refine (within_deliver get).bind fun outcome => ?_
    split
    · trivial
    split
    · trivial
    · omega
    · rename_i next _ redirect same
      obtain rfl := Nat.succ.inj same
      exact ih (Response.redirect?_asks redirect get)

/-! ## The first request -/

theorem exists_questions_of_goes (peer : Partner HttpCall HttpCall.Answer)
    (before : List HttpCall) {r : Request} (redirects : Nat) (goes : r.goes) :
    ∃ more, ((r.follow redirects).run peer before).questions = .send r :: more := by
  rw [follow_eq, run_bind]
  obtain ⟨stays, -⟩ | ⟨-, run⟩ := run_deliver_cases peer before r
  · simp [goes] at stays
  · rw [run, Transcript.andThen]
    split
    · exact ⟨[], rfl⟩
    · exact ⟨_, rfl⟩

theorem questions_of_stays (peer : Partner HttpCall HttpCall.Answer) (before : List HttpCall)
    {r : Request} (redirects : Nat) (stays : r.goes = false) :
    ∃ e, (r.follow redirects).run peer before = ⟨[], [], some (.error e)⟩ := by
  rw [follow_eq, run_bind]
  obtain ⟨-, e, run⟩ | ⟨goes, -⟩ := run_deliver_cases peer before r
  · exact ⟨e, by simp [run, Transcript.andThen]⟩
  · simp [stays] at goes

end Request

end GraphIngest
