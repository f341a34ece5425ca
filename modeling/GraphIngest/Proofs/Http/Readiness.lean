import GraphIngest.Proofs.Http.Writes

/-!
# Readiness

A store is asked whether it is ready until it says so, but only so many times, with a pause between
one question and the next.

## Main definitions

* `HttpStore.asked`, `HttpStore.told`: what is asked and told by questions that fail, each with the
  pause after it.
* `HttpStore.poll`: what becomes of the question after those.
* `HttpStore.run_pollReady_of_failed`: questions that fail, and the work that is left after them.
* `HttpStore.ready_at_first_success`: asking ends with the first success, or after the last failure;
  and connecting asks once it is known whom.
-/

namespace GraphIngest

open Dialogue Request

/-- A call that waits. -/
def HttpCall.isPause : HttpCall → Bool
  | send _ => false
  | pause _ => true

/-- An event that announces another try. -/
def Event.isRetrying : Event → Bool
  | retrying .. => true
  | _ => false

namespace HttpStore

variable {peer : Partner HttpCall HttpCall.Answer} {before : List HttpCall} {s : HttpStore}

/-! ## One question -/

/-- The request that asks a store whether it is ready, as it is sent. -/
def readyGet (s : HttpStore) : Request := ⟨.get, (s.endpoint readySegments).withoutUser, none⟩

/-- Whether the end of an exchange says that the store is ready. -/
def readyOutcome : Except TransportError Response → Bool
  | .error _ => false
  | .ok response => response.status.isSuccess

/-- What is told about the end of an exchange that asks whether the store is ready. -/
def readyEvents : Except TransportError Response → List Event
  | .error e => [.checkFailed e.message]
  | .ok _ => []

/-- The exchange that asks whether the store is ready. -/
abbrev readyExchange (s : HttpStore) (peer : Partner HttpCall HttpCall.Answer)
    (before : List HttpCall) : Transcript HttpCall Event (Except TransportError Response) :=
  (s.readyGet.follow greatestRedirects).run peer before

/-- A question is an exchange of which only the end matters. -/
theorem run_isReady (s : HttpStore) (peer : Partner HttpCall HttpCall.Answer)
    (before : List HttpCall) : s.isReady.run peer before =
      let t := s.readyExchange peer before
      ⟨t.questions, (t.result.map readyEvents).getD [], t.result.map readyOutcome⟩ := by
  have work : s.isReady = (s.readyGet.follow greatestRedirects).bind fun outcome =>
      (events (readyEvents outcome)).bind fun _ => .done (readyOutcome outcome) := by
    refine congrArg (bind _) (funext fun outcome => ?_)
    cases outcome <;> rfl
  have silent : (s.readyExchange peer before).events = [] :=
    List.eq_nil_iff_forall_not_mem.mpr
      ((within_follow ⟨rfl, rfl⟩ greatestRedirects).run peer before).2
  rw [work, run_bind, Transcript.andThen]
  cases result : (s.readyExchange peer before).result with
  | none => simp [result, silent]
  | some outcome => simp [result, silent, run_bind_done, run_events]

/-- A question is settled by its first reply, unless that is a redirect. -/
theorem run_isReady_of_final {reply : Reply} (goes : s.readyGet.goes)
    (answer : peer before (.send s.readyGet) = some reply)
    (final : ∀ response, reply = .response response → response.redirect? s.readyGet = none) :
    s.isReady.run peer before =
      let outcome := s.readyGet.received reply
      ⟨[.send s.readyGet], readyEvents outcome, some (readyOutcome outcome)⟩ := by
  rw [run_isReady, readyExchange, run_follow_of_final greatestRedirects goes answer final]
  rfl

/-- A question neither writes nor waits, and does not announce another try. -/
theorem within_isReady (s : HttpStore) :
    s.isReady.Within HttpCall.isGet fun e => e.isRetrying = false := by
  refine Within.bind ((within_follow ⟨rfl, rfl⟩ greatestRedirects).mono (fun _ get => get)
    fun _ => False.elim) fun outcome => ?_
  cases outcome with
  | error e => exact ⟨rfl, trivial⟩
  | ok response => trivial

theorem filter_isPause_isReady (s : HttpStore) (peer : Partner HttpCall HttpCall.Answer)
    (before : List HttpCall) : (s.isReady.run peer before).questions.filter (·.isPause) = [] := by
  refine List.filter_eq_nil_iff.mpr fun call asked => ?_
  obtain ⟨r, rfl, -⟩ := (s.within_isReady.run peer before).1 call asked
  simp [HttpCall.isPause]

theorem filter_isRetrying_isReady (s : HttpStore) (peer : Partner HttpCall HttpCall.Answer)
    (before : List HttpCall) : (s.isReady.run peer before).events.filter (·.isRetrying) = [] := by
  refine List.filter_eq_nil_iff.mpr fun e told => ?_
  simp [(s.within_isReady.run peer before).2 e told]

/-! ## One question after others -/

/-- What is asked by so many questions, each with the pause after it. -/
def asked (s : HttpStore) (peer : Partner HttpCall HttpCall.Answer) (delay : Nat)
    (before : List HttpCall) : Nat → List HttpCall
  | 0 => []
  | k + 1 =>
    let sofar := s.asked peer delay before k
    sofar ++ (s.isReady.run peer (before ++ sofar)).questions ++ [.pause delay]

/-- What becomes of a question after so many others. -/
def poll (s : HttpStore) (peer : Partner HttpCall HttpCall.Answer) (delay : Nat)
    (before : List HttpCall) (k : Nat) : Transcript HttpCall Event Bool :=
  s.isReady.run peer (before ++ s.asked peer delay before k)

/-- What is told by so many questions, each with the announcement of the next. -/
def told (s : HttpStore) (peer : Partner HttpCall HttpCall.Answer) (most delay : Nat)
    (before : List HttpCall) : Nat → List Event
  | 0 => []
  | k + 1 => s.told peer most delay before k ++ (s.poll peer delay before k).events ++
      [.retrying delay (k + 1) most]

/-- The first so many questions fail. -/
def PollsFail (s : HttpStore) (peer : Partner HttpCall HttpCall.Answer) (delay : Nat)
    (before : List HttpCall) (k : Nat) : Prop :=
  ∀ i < k, (s.poll peer delay before i).result = some false

variable {most delay k : Nat}

theorem asked_succ (s : HttpStore) (peer : Partner HttpCall HttpCall.Answer) (delay : Nat)
    (before : List HttpCall) (k : Nat) : s.asked peer delay before (k + 1) =
      s.asked peer delay before k ++ (s.poll peer delay before k).questions ++ [.pause delay] :=
  rfl

theorem filter_isPause_asked (s : HttpStore) (peer : Partner HttpCall HttpCall.Answer)
    (delay : Nat) (before : List HttpCall) (k : Nat) :
    (s.asked peer delay before k).filter (·.isPause) = List.replicate k (.pause delay) := by
  induction k with
  | zero => rfl
  | succ k ih =>
    rw [asked_succ, List.filter_append, List.filter_append, ih, poll, filter_isPause_isReady,
      List.replicate_succ', List.append_nil]
    rfl

theorem filter_isRetrying_told (s : HttpStore) (peer : Partner HttpCall HttpCall.Answer)
    (most delay : Nat) (before : List HttpCall) (k : Nat) :
    (s.told peer most delay before k).filter (·.isRetrying) =
      (List.range k).map fun i => .retrying delay (i + 1) most := by
  induction k with
  | zero => rfl
  | succ k ih =>
    rw [told, List.filter_append, List.filter_append, ih, poll, filter_isRetrying_isReady,
      List.range_succ, List.map_append, List.append_nil]
    rfl

/-- Either the first so many questions fail, or there is a first one among them that does not. -/
theorem pollsFail_or_first (s : HttpStore) (peer : Partner HttpCall HttpCall.Answer)
    (delay : Nat) (before : List HttpCall) (most : Nat) : s.PollsFail peer delay before most ∨
      ∃ k < most, s.PollsFail peer delay before k ∧
        (s.poll peer delay before k).result ≠ some false := by
  induction most with
  | zero => exact .inl fun i none => absurd none (Nat.not_lt_zero i)
  | succ most ih =>
    rcases ih with all | ⟨k, few, first⟩
    · by_cases last : (s.poll peer delay before most).result = some false
      · refine .inl fun i few => ?_
        rcases Nat.lt_succ_iff_lt_or_eq.mp few with earlier | rfl
        · exact all i earlier
        · exact last
      · exact .inr ⟨most, Nat.lt_succ_self most, all, last⟩
    · exact .inr ⟨k, Nat.lt_succ_of_lt few, first⟩

/-! ## One step -/

/-- What a question leads to. -/
theorem run_pollReady (s : HttpStore) (peer : Partner HttpCall HttpCall.Answer)
    (before : List HttpCall) (attempts delay left : Nat) :
    (s.pollReady attempts delay left).run peer before =
      (s.isReady.run peer before).andThen fun
        | true => ⟨[], [], some (.ok (attempts - left))⟩
        | false =>
          match left with
          | 0 => ⟨[], [.notReady attempts], some (.error (.notReady attempts))⟩
          | left + 1 =>
            ((tell (.retrying delay (attempts - (left + 1)) attempts) <| ask (.pause delay)
              fun _ => s.pollReady attempts delay left).run peer
                (before ++ (s.isReady.run peer before).questions)) := by
  cases left with
  | zero =>
    rw [pollReady, bind_eq, run_bind]
    refine congrArg (Transcript.andThen _) (funext fun ready => ?_)
    cases ready <;> rfl
  | succ left =>
    rw [pollReady, bind_eq, run_bind]
    refine congrArg (Transcript.andThen _) (funext fun ready => ?_)
    cases ready <;> rfl

/-- Nothing follows a question that succeeds. -/
theorem run_pollReady_of_ready {attempts left : Nat}
    (ready : (s.isReady.run peer before).result = some true) :
    (s.pollReady attempts delay left).run peer before =
      let t := s.isReady.run peer before
      ⟨t.questions, t.events, some (.ok (attempts - left))⟩ := by
  simp [run_pollReady, Transcript.andThen, ready]

/-- Nothing follows the last question but the complaint. -/
theorem run_pollReady_last {attempts : Nat}
    (failed : (s.isReady.run peer before).result = some false) :
    (s.pollReady attempts delay 0).run peer before =
      let t := s.isReady.run peer before
      ⟨t.questions, t.events ++ [.notReady attempts], some (.error (.notReady attempts))⟩ := by
  simp [run_pollReady, Transcript.andThen, failed]

/-- A pause follows a question that fails, and then the others. -/
theorem run_pollReady_again {attempts left : Nat}
    (wakes : ∀ asked millis, peer asked (.pause millis) = some ())
    (failed : (s.isReady.run peer before).result = some false) :
    (s.pollReady attempts delay (left + 1)).run peer before =
      let t := s.isReady.run peer before
      let rest := (s.pollReady attempts delay left).run peer
        (before ++ t.questions ++ [.pause delay])
      ⟨t.questions ++ [.pause delay] ++ rest.questions,
        t.events ++ [.retrying delay (attempts - (left + 1)) attempts] ++ rest.events,
        rest.result⟩ := by
  simp [run_pollReady s peer before, Transcript.andThen, failed, run_ask_answered (wakes _ _)]

/-! ## All steps -/

/-- After questions that fail, the others are left. -/
theorem run_pollReady_of_failed (wakes : ∀ asked millis, peer asked (.pause millis) = some ())
    (few : k < most) (fail : s.PollsFail peer delay before k) :
    (s.pollReady most delay (most - 1)).run peer before =
      let rest := (s.pollReady most delay (most - 1 - k)).run peer
        (before ++ s.asked peer delay before k)
      ⟨s.asked peer delay before k ++ rest.questions,
        s.told peer most delay before k ++ rest.events, rest.result⟩ := by
  induction k with
  | zero => simp [asked, told]
  | succ k ih =>
    have sofar := ih (by omega) fun i earlier => fail i (by omega)
    have failed : (s.isReady.run peer (before ++ s.asked peer delay before k)).result =
        some false := fail k (Nat.lt_succ_self k)
    have again : most - 1 - k = most - 1 - (k + 1) + 1 := by omega
    have number : most - (most - 1 - (k + 1) + 1) = k + 1 := by omega
    rw [sofar, again, run_pollReady_again wakes failed, number]
    simp [asked_succ, told, poll]

/-- What becomes of all questions if one after some failures succeeds. -/
theorem run_awaitReady_of_ready {attempts : Nat}
    (wakes : ∀ asked millis, peer asked (.pause millis) = some ()) (few : k < max attempts 1)
    (fail : s.PollsFail peer delay before k)
    (ready : (s.poll peer delay before k).result = some true) :
    (s.awaitReady attempts delay).run peer before =
      let last := s.poll peer delay before k
      ⟨s.asked peer delay before k ++ last.questions,
        s.told peer (max attempts 1) delay before k ++ last.events, some (.ok (k + 1))⟩ := by
  have number : max attempts 1 - (max attempts 1 - 1 - k) = k + 1 := by omega
  rw [awaitReady, run_pollReady_of_failed wakes few fail, run_pollReady_of_ready ready, number]
  rfl

/-- What becomes of all questions if none succeeds. -/
theorem run_awaitReady_of_failed {attempts : Nat}
    (wakes : ∀ asked millis, peer asked (.pause millis) = some ())
    (fail : s.PollsFail peer delay before (max attempts 1)) :
    (s.awaitReady attempts delay).run peer before =
      let most := max attempts 1
      let last := s.poll peer delay before (most - 1)
      ⟨s.asked peer delay before (most - 1) ++ last.questions,
        s.told peer most delay before (most - 1) ++ last.events ++ [.notReady most],
        some (.error (.notReady most))⟩ := by
  have last : max attempts 1 - 1 < max attempts 1 := by omega
  have failed : (s.isReady.run peer (before ++
      s.asked peer delay before (max attempts 1 - 1))).result = some false := fail _ last
  rw [awaitReady, run_pollReady_of_failed wakes last fun i earlier => fail i (by omega),
    Nat.sub_self, run_pollReady_last failed]
  simp [poll]

/-- Questions come to nothing if one after some failures is not answered. -/
theorem result_awaitReady_of_silent {attempts : Nat}
    (wakes : ∀ asked millis, peer asked (.pause millis) = some ()) (few : k < max attempts 1)
    (fail : s.PollsFail peer delay before k)
    (silent : (s.poll peer delay before k).result = none) :
    ((s.awaitReady attempts delay).run peer before).result = none := by
  rw [poll] at silent
  rw [awaitReady, run_pollReady_of_failed wakes few fail]
  simp [run_pollReady, Transcript.andThen, silent]

/-- No question writes: there are only those whether the store is ready, and pauses. -/
theorem within_pollReady (s : HttpStore) (attempts delay left : Nat) :
    (s.pollReady attempts delay left).Within (fun call => call.isGet ∨ call.isPause)
      fun _ => True := by
  have asks : s.isReady.Within (fun call => call.isGet ∨ call.isPause) fun _ => True :=
    s.within_isReady.mono (fun _ => .inl) fun _ _ => trivial
  induction left with
  | zero =>
    refine asks.bind fun ready => ?_
    cases ready with
    | true => trivial
    | false => exact ⟨trivial, trivial⟩
  | succ left ih =>
    refine asks.bind fun ready => ?_
    cases ready with
    | true => trivial
    | false => exact ⟨trivial, .inr rfl, fun _ => ih⟩

/-! ## Connecting -/

/-- The settings name a store: their host is not blank, and the address can be one of a store. -/
def Named (settings : Settings) (s : HttpStore) : Prop :=
  Blank.allBlank settings.storeHost = false ∧ ofUrl (settings.storeScheme ++ "://" ++
    settings.storeHost ++ ":" ++ toString settings.storePort) = .ok s

/-- What the settings say about readiness: how often to ask, and how long to pause. -/
abbrev awaitReadyBy (settings : Settings) (s : HttpStore) : HttpDialogue (Except Error Nat) :=
  s.awaitReady settings.readyAttempts.toNat (1000 * settings.readyDelay.toNat)

/-- Connecting to a store that is named is asking whether it is ready. -/
theorem run_connect_of_named {settings : Settings} (named : Named settings s)
    (peer : Partner HttpCall HttpCall.Answer) (before : List HttpCall) :
    let t := (awaitReadyBy settings s).run peer before
    ((connect settings).run peer before).questions = t.questions ∧
      ((connect settings).run peer before).result = t.result.map (·.map fun _ => s) := by
  obtain ⟨host, accepted⟩ := named
  have given : settings.baseUrl = .ok (settings.storeScheme ++ "://" ++ settings.storeHost ++ ":" ++
      toString settings.storePort) := by
    simp [Settings.baseUrl, host]
  rw [connect, given]
  simp only [accepted, event, bind_eq, bind_tell, bind_done, run_tell, run_bind,
    Transcript.andThen]
  cases ((awaitReadyBy settings s).run peer before).result with
  | none => simp
  | some outcome => cases outcome <;> simp [Except.map]

/-- Otherwise nothing is asked, and connecting fails. -/
theorem run_connect_of_not_named {settings : Settings} (unnamed : ∀ s, ¬Named settings s)
    (peer : Partner HttpCall HttpCall.Answer) (before : List HttpCall) :
    ((connect settings).run peer before).questions = [] ∧
      ∃ e, ((connect settings).run peer before).result = some (.error e) := by
  by_cases host : Blank.allBlank settings.storeHost
  · simp [connect, Settings.baseUrl, host]
  cases accepted : ofUrl (settings.storeScheme ++ "://" ++ settings.storeHost ++ ":" ++
      toString settings.storePort) with
  | error e => simp [connect, Settings.baseUrl, host, accepted, event]
  | ok s => exact absurd ⟨by simpa using host, accepted⟩ (unnamed s)

/-- Connecting gives a store if and only if it is the one that is named, and it becomes ready. -/
theorem result_connect_eq_ok_iff {settings : Settings} :
    ((connect settings).run peer before).result = some (.ok s) ↔ Named settings s ∧
      ∃ n, ((awaitReadyBy settings s).run peer before).result = some (.ok n) := by
  by_cases named : ∃ s, Named settings s
  · obtain ⟨own, named⟩ := named
    have same : Named settings s ↔ own = s := by
      refine ⟨fun also => ?_, fun same => same ▸ named⟩
      exact Except.ok.inj (named.2.symm.trans also.2)
    rw [(run_connect_of_named named peer before).2, same, Option.map_eq_some_iff]
    constructor
    · rintro ⟨outcome, waited, connected⟩
      cases outcome with
      | error e => cases connected
      | ok n =>
        obtain rfl := Except.ok.inj connected
        exact ⟨rfl, n, waited⟩
    · rintro ⟨rfl, n, waited⟩
      exact ⟨.ok n, waited, rfl⟩
  · rw [not_exists] at named
    obtain ⟨e, failed⟩ := (run_connect_of_not_named named peer before).2
    simp [failed, named s]

/-- Connecting asks nothing but whether the store is ready, and only if one is named. -/
theorem mem_questions_connect {settings : Settings} {call : HttpCall}
    (h : call ∈ ((connect settings).run peer before).questions) :
    (∃ s, Named settings s) ∧ (call.isGet ∨ call.isPause) := by
  by_cases named : ∃ s, Named settings s
  · obtain ⟨own, named⟩ := named
    rw [(run_connect_of_named named peer before).1] at h
    exact ⟨⟨own, named⟩, ((own.within_pollReady _ _ _).run peer before).1 call h⟩
  · rw [not_exists] at named
    rw [(run_connect_of_not_named named peer before).1] at h
    cases h

/-! ## Until the first success -/

/-- What was asked and told is one question after so many others, with their pauses, and with their
announcements of the next try. -/
structure Polled (s : HttpStore) (peer : Partner HttpCall HttpCall.Answer) (most delay : Nat)
    (before : List HttpCall) (k : Nat) (t : Transcript HttpCall Event (Except Error Nat)) :
    Prop where
  questions : t.questions = s.asked peer delay before k ++ (s.poll peer delay before k).questions
  pauses : t.questions.filter (·.isPause) = List.replicate k (.pause delay)
  retries : t.events.filter (·.isRetrying) = (List.range k).map fun i =>
    .retrying delay (i + 1) most

theorem polled_of_run {t : Transcript HttpCall Event (Except Error Nat)} {more : List Event}
    (questions : t.questions =
      s.asked peer delay before k ++ (s.poll peer delay before k).questions)
    (events : t.events = s.told peer most delay before k ++ (s.poll peer delay before k).events ++
      more) (quiet : more.filter (·.isRetrying) = []) : s.Polled peer most delay before k t where
  questions := questions
  pauses := by
    rw [questions, List.filter_append, filter_isPause_asked, poll, filter_isPause_isReady,
      List.append_nil]
  retries := by
    rw [events, List.filter_append, List.filter_append, filter_isRetrying_told, poll,
      filter_isRetrying_isReady, quiet, List.append_nil, List.append_nil]

/-- How asking ends: with the first success, without an answer, or after the last failure. -/
theorem awaitReady_cases (wakes : ∀ asked millis, peer asked (.pause millis) = some ())
    (s : HttpStore) (before : List HttpCall) (attempts delay : Nat) :
    let most := max attempts 1
    let t := (s.awaitReady attempts delay).run peer before
    (∃ k < most, s.PollsFail peer delay before k ∧
      (s.poll peer delay before k).result = some true ∧ t.result = some (.ok (k + 1)) ∧
      s.Polled peer most delay before k t) ∨
    (t.result = none ∧ ∃ k < most, (s.poll peer delay before k).result = none) ∨
    (s.PollsFail peer delay before most ∧ t.result = some (.error (.notReady most)) ∧
      s.Polled peer most delay before (most - 1) t) := by
  intro most t
  rcases s.pollsFail_or_first peer delay before most with all | ⟨k, few, fail, first⟩
  · have run : (s.awaitReady attempts delay).run peer before = _ :=
      run_awaitReady_of_failed wakes all
    exact .inr (.inr ⟨all, congrArg (·.result) run,
      polled_of_run (congrArg (·.questions) run) (congrArg (·.events) run) rfl⟩)
  cases result : (s.poll peer delay before k).result with
  | none => exact .inr (.inl ⟨result_awaitReady_of_silent wakes few fail result, k, few, result⟩)
  | some ready =>
    cases ready with
    | false => exact absurd result first
    | true =>
      have run : (s.awaitReady attempts delay).run peer before = _ :=
        run_awaitReady_of_ready wakes few fail result
      have told := (congrArg (·.events) run).trans (List.append_nil _).symm
      exact .inl ⟨k, few, fail, result, congrArg (·.result) run,
        polled_of_run (congrArg (·.questions) run) told rfl⟩

/-- A question whose first reply is the last succeeds if and only if that is a success. -/
theorem poll_of_final {reply : Reply} (goes : s.readyGet.goes)
    (answer : peer (before ++ s.asked peer delay before k) (.send s.readyGet) = some reply)
    (final : ∀ response, reply = .response response → response.redirect? s.readyGet = none) :
    (s.poll peer delay before k).questions = [.send s.readyGet] ∧
      ∃ ready, (s.poll peer delay before k).result = some ready ∧
        (ready ↔ ∃ response, reply = .response response ∧ response.status.isSuccess) := by
  rw [poll, run_isReady_of_final goes answer final]
  refine ⟨rfl, _, rfl, ?_⟩
  cases reply <;> simp [received, readyOutcome]

/-- A store that is asked up to so many times, but at least once, is found ready with its first
success, after one question and one announced pause for each failure before. If all fail, then it is
found not ready, and no pause follows the last. A question fails unless its exchange ends with a
success. Connecting gives a store if and only if the settings name it and it is found ready; nothing
is asked if they name none, and nothing is ever written. -/
theorem ready_at_first_success (s : HttpStore) (peer : Partner HttpCall HttpCall.Answer)
    (before : List HttpCall) (wakes : ∀ asked millis, peer asked (.pause millis) = some ())
    (attempts delay : Nat) (settings : Settings) :
    let most := max attempts 1
    let poll := s.poll peer delay before
    let t := (s.awaitReady attempts delay).run peer before
    let connected := (connect settings).run peer before
    (∀ n, t.result = some (.ok n) ↔ ∃ k < most, n = k + 1 ∧
      s.PollsFail peer delay before k ∧ (poll k).result = some true) ∧
    (∀ k, t.result = some (.ok (k + 1)) → s.Polled peer most delay before k t) ∧
    (∀ e, t.result = some (.error e) ↔
      e = .notReady most ∧ s.PollsFail peer delay before most) ∧
    (∀ e, t.result = some (.error e) → s.Polled peer most delay before (most - 1) t) ∧
    (∀ k reply, s.readyGet.goes →
      peer (before ++ s.asked peer delay before k) (.send s.readyGet) = some reply →
      (∀ response, reply = .response response → response.redirect? s.readyGet = none) →
      (poll k).questions = [.send s.readyGet] ∧ ∃ ready, (poll k).result = some ready ∧
        (ready ↔ ∃ response, reply = .response response ∧ response.status.isSuccess)) ∧
    (∀ own, connected.result = some (.ok own) ↔ Named settings own ∧
      ∃ n, ((awaitReadyBy settings own).run peer before).result = some (.ok n)) ∧
    (∀ call ∈ connected.questions,
      (∃ own, Named settings own) ∧ (call.isGet ∨ call.isPause)) := by
  intro most poll t connected
  have cases := awaitReady_cases wakes s before attempts delay
  refine ⟨fun n => ⟨fun ready => ?_, ?_⟩, fun k ready => ?_, fun e => ⟨fun failed => ?_, ?_⟩,
    fun e failed => ?_, fun k reply goes answer final => poll_of_final goes answer final,
    fun own => result_connect_eq_ok_iff, fun call asked => mem_questions_connect asked⟩
  · obtain ⟨k, few, fail, succeeds, result, -⟩ | ⟨silent, -⟩ | ⟨-, result, -⟩ := cases
    · exact ⟨k, few, Except.ok.inj (Option.some.inj (ready.symm.trans result)), fail, succeeds⟩
    · cases silent.symm.trans ready
    · cases result.symm.trans ready
  · rintro ⟨k, few, rfl, fail, succeeds⟩
    exact congrArg (·.result) (run_awaitReady_of_ready wakes few fail succeeds)
  · obtain ⟨i, -, -, -, result, polled⟩ | ⟨silent, -⟩ | ⟨-, result, -⟩ := cases
    · obtain rfl : k = i :=
        Nat.succ.inj (Except.ok.inj (Option.some.inj (ready.symm.trans result)))
      exact polled
    · cases silent.symm.trans ready
    · cases result.symm.trans ready
  · obtain ⟨_, -, -, -, result, -⟩ | ⟨silent, -⟩ | ⟨all, result, -⟩ := cases
    · cases result.symm.trans failed
    · cases silent.symm.trans failed
    · exact ⟨Except.error.inj (Option.some.inj (failed.symm.trans result)), all⟩
  · rintro ⟨rfl, all⟩
    exact congrArg (·.result) (run_awaitReady_of_failed wakes all)
  · obtain ⟨_, -, -, -, result, -⟩ | ⟨silent, -⟩ | ⟨-, -, polled⟩ := cases
    · cases result.symm.trans failed
    · cases silent.symm.trans failed
    · exact polled

/-- A store that starts: it is ready when so many calls were made before. -/
def readyAfter (calls : Nat) : Partner HttpCall HttpCall.Answer := fun
  | before, .send _ =>
    some (.response ⟨⟨if before.length < calls then 503 else 200⟩, none, .complete []⟩)
  | _, .pause _ => some ()

/-- A store that is ready when it is asked for the third time. -/
theorem ready_at_first_success_third :
    ((onHost.awaitReady 5 5000).run (readyAfter 4) []).result = some (.ok 3) ∧
    onHost.Polled (readyAfter 4) 5 5000 [] 2 ((onHost.awaitReady 5 5000).run (readyAfter 4) []) ∧
    (∀ call ∈ ((connect { storeHost := " " }).run (readyAfter 4) []).questions,
      (∃ own, Named { storeHost := " " } own) ∧ (call.isGet ∨ call.isPause)) := by
  obtain ⟨ready, polled, -, -, -, -, asked⟩ := ready_at_first_success onHost (readyAfter 4) []
    (fun _ _ => rfl) 5 5000 { storeHost := " " }
  have third : ((onHost.awaitReady 5 5000).run (readyAfter 4) []).result = some (.ok 3) := by
    refine (ready 3).mpr ⟨2, by decide, rfl, fun i earlier => ?_, rfl⟩
    obtain rfl | rfl : i = 0 ∨ i = 1 := by omega
    · rfl
    · rfl
  exact ⟨third, polled 2 third, asked⟩

end HttpStore

end GraphIngest
