import GraphIngest.Proofs.Http.Endpoint
import GraphIngest.Proofs.Http.Readiness
import GraphIngest.Proofs.Url.Authority

/-!
# Who is contacted

The host and the port in the settings are written into a URL, which is read back. If the host is one
by itself, then it is the one that is contacted, unless redirects lead elsewhere. A text that is no
host is refused, unless it has delimiters, which move what stands behind them to another part of the
URL.

## Main definitions

* `Request.AsksReady`: a request that asks at a host and a port whether a store is ready.
* `Request.Redirected`: a request that was asked for by the answer to the one right before it.
* `HttpStore.contacts_configured`: who is contacted.
* `HttpStore.contacts_other_than_configured`: a host with a slash, and a redirect.
-/

namespace GraphIngest

open Dialogue

variable {peer : Partner HttpCall HttpCall.Answer} {before : List HttpCall}

namespace Request

/-- A request that asks at a host and a port whether a store is ready, and says nothing else. -/
structure AsksReady (host : Host) (port : Nat) (r : Request) : Prop where
  method : r.method = .get
  body : r.body = none
  scheme : r.url.scheme = "http".toList
  user : r.url.user = [] ∧ r.url.password = []
  host : r.url.host = some host
  port : r.url.port.getD 80 = port
  path : r.url.pathText = "/v1/.well-known/ready".toList
  query : r.url.query = none
  fragment : r.url.fragment = none

/-- The answer to the last call before a request asks for this request. -/
def Redirected (peer : Partner HttpCall HttpCall.Answer) (before earlier : List HttpCall)
    (r : Request) : Prop :=
  ∃ sofar prior response, earlier = sofar ++ [.send prior] ∧
    peer (before ++ sofar) (.send prior) = some (.response response) ∧
    response.redirect? prior = some r

/-! ## Requests and their redirects -/

/-- All requests are the same, but for those that the answer to the call before them asks for. -/
def Contacts (peer : Partner HttpCall HttpCall.Answer) (own : Request)
    (before asked : List HttpCall) : Prop :=
  ∀ earlier r later, asked = earlier ++ .send r :: later →
    r = own ∨ Redirected peer before earlier r

variable {own : Request} {asked more : List HttpCall}

theorem Contacts.of_no_requests (none : ∀ r, .send r ∉ asked) : Contacts peer own before asked := by
  rintro earlier r later rfl
  exact absurd (List.mem_append_right _ List.mem_cons_self) (none r)

/-- Redirects of the later calls are redirects after the earlier ones. -/
theorem Redirected.after {earlier : List HttpCall} {r : Request}
    (h : Redirected peer (before ++ asked) earlier r) :
    Redirected peer before (asked ++ earlier) r := by
  obtain ⟨sofar, prior, response, rfl, answer, redirect⟩ := h
  refine ⟨asked ++ sofar, prior, response, by simp, ?_, redirect⟩
  rwa [← List.append_assoc]

theorem Contacts.append (first : Contacts peer own before asked)
    (second : Contacts peer own (before ++ asked) more) :
    Contacts peer own before (asked ++ more) := by
  intro earlier r later split
  rcases List.append_eq_append_iff.mp split with ⟨front, rfl, rest⟩ | ⟨front, rfl, rest⟩
  · exact (second front r later rest).imp_right Redirected.after
  · cases front with
    | nil =>
      rw [List.append_nil] at first second
      simpa using (second [] r later rest.symm).imp_right Redirected.after
    | cons call front =>
      obtain ⟨rfl, rfl⟩ := List.cons.inj rest
      exact first earlier r front rfl

/-- What an exchange asks: at most its request, or this and what a redirect leads to. -/
theorem questions_follow_cases (r : Request) (redirects : Nat) (before : List HttpCall) :
    let asked := ((r.follow redirects).run peer before).questions
    (asked = [] ∨ asked = [.send r]) ∨ ∃ next left response, redirects = left + 1 ∧
      peer before (.send r) = some (.response response) ∧ response.redirect? r = some next ∧
      asked = .send r :: ((next.follow left).run peer (before ++ [.send r])).questions := by
  intro asked
  obtain ⟨stays, -⟩ | ⟨goes, run⟩ := run_deliver_cases peer before r
  · obtain ⟨e, run⟩ := questions_of_stays peer before redirects stays
    exact .inl (.inl (congrArg (·.questions) run))
  have follows : asked = _ := congrArg (·.questions) ((congrArg (·.run peer before)
    (follow_eq r redirects)).trans (run_bind ..))
  rw [run] at follows
  obtain answer | answer | ⟨response, answer⟩ := reply_cases peer before r
  · exact .inl (.inr (by simp [follows, answer, Transcript.andThen]))
  · exact .inl (.inr (by simp [follows, answer, received, Transcript.andThen]))
  cases redirect : response.redirect? r with
  | none =>
    exact .inl (.inr (by simp [follows, answer, received, redirect, Transcript.andThen]))
  | some next =>
    cases redirects with
    | zero => exact .inl (.inr (by simp [follows, answer, received, redirect, Transcript.andThen]))
    | succ left =>
      have run := run_follow_of_moved left goes answer redirect
      exact .inr ⟨next, left, response, rfl, answer, redirect, congrArg (·.questions) run⟩

/-- An exchange begins with its request, and all others are redirected. -/
theorem first_or_redirected (r : Request) (redirects : Nat) (before : List HttpCall)
    (earlier : List HttpCall) (q : Request) (later : List HttpCall)
    (split : ((r.follow redirects).run peer before).questions = earlier ++ .send q :: later) :
    (earlier = [] ∧ q = r) ∨ Redirected peer before earlier q := by
  rcases questions_follow_cases r redirects before with
    (none | single) | ⟨next, left, response, rfl, answer, redirect, rest⟩
  · rw [none] at split
    cases List.append_ne_nil_of_right_ne_nil earlier (List.cons_ne_nil _ _) split.symm
  · obtain ⟨rfl, same⟩ | ⟨-, more⟩ := List.append_eq_singleton_iff.mp (split.symm.trans single)
    · exact .inl ⟨rfl, HttpCall.send.inj (List.cons.inj same).1⟩
    · cases more
  rw [rest] at split
  cases earlier with
  | nil => exact .inl ⟨rfl, (HttpCall.send.inj (List.cons.inj split).1).symm⟩
  | cons call earlier =>
    obtain ⟨rfl, behind⟩ := List.cons.inj split
    refine .inr ?_
    rcases first_or_redirected next left (before ++ [.send r]) earlier q later behind with
      ⟨rfl, rfl⟩ | redirected
    · exact ⟨[], r, response, rfl, by simpa using answer, redirect⟩
    · exact redirected.after
termination_by redirects

end Request

namespace HttpStore

open Request

variable {s : HttpStore}

/-! ## Connecting -/

theorem contacts_isReady (s : HttpStore) (before : List HttpCall) :
    Contacts peer s.readyGet before (s.isReady.run peer before).questions := by
  rw [run_isReady]
  intro earlier r later split
  exact (first_or_redirected _ _ before earlier r later split).imp_left And.right

theorem contacts_pollReady (s : HttpStore) (attempts delay left : Nat) (before : List HttpCall) :
    Contacts peer s.readyGet before
      ((s.pollReady attempts delay left).run peer before).questions := by
  induction left generalizing before with
  | zero =>
    rw [run_pollReady, Transcript.andThen]
    split
    · exact s.contacts_isReady before
    · rename_i ready _
      cases ready <;> simpa using s.contacts_isReady before
  | succ left ih =>
    rw [run_pollReady, Transcript.andThen]
    split
    · exact s.contacts_isReady before
    rename_i ready _
    cases ready with
    | true => simpa using s.contacts_isReady before
    | false =>
      refine (s.contacts_isReady before).append ?_
      dsimp only
      rw [run_tell]
      cases wakes : peer (before ++ (s.isReady.run peer before).questions) (.pause delay) with
      | none =>
        rw [run_ask_unanswered wakes]
        exact .of_no_requests (by simp)
      | some woken =>
        rw [run_ask_answered wakes]
        have paused : Contacts peer s.readyGet (before ++ (s.isReady.run peer before).questions)
            [.pause delay] := .of_no_requests (by simp)
        exact paused.append (ih _)

/-- Connecting asks the store that the settings name, and those that it redirects to. -/
theorem contacts_connect {settings : Settings} (named : Named settings s)
    (before : List HttpCall) :
    Contacts peer s.readyGet before ((connect settings).run peer before).questions := by
  rw [(run_connect_of_named named peer before).1]
  exact s.contacts_pollReady _ _ _ before

/-! ## Addresses in settings -/

/-- A store at an address asks there whether it is ready. -/
theorem asksReady_of_base {h : Host} {port : Nat} (base : s.base = Url.ofAddress h port) :
    AsksReady h port s.readyGet := by
  have path : s.path = [[]] :=
    UrlPath.segments.inj (s.base_path.symm.trans (congrArg Url.path base))
  have url : s.readyGet.url = { Url.ofAddress h port with
      path := .segments ["v1".toList, ".well-known".toList, "ready".toList] } := by
    have root : s.root = [] := by rw [HttpStore.root, path]; rfl
    rw [readyGet, endpoint_ready, under, root, base]
    rfl
  have number : (Url.ofAddress h port).port.getD 80 = port := by
    unfold Url.ofAddress
    dsimp only
    split
    · rename_i implied
      exact implied.symm
    · rfl
  have text : Path.render ["v1".toList, ".well-known".toList, "ready".toList] =
      "/v1/.well-known/ready".toList := by decide
  exact {
    method := rfl
    body := rfl
    scheme := by rw [url]; rfl
    user := by rw [url]; exact ⟨rfl, rfl⟩
    host := by rw [url]; rfl
    port := by rw [url]; exact number
    path := by rw [url]; exact text
    query := by rw [url]; rfl
    fragment := by rw [url]; rfl }

/-- The text of the address in settings. -/
theorem address_eq (host : String) (port : UInt16) :
    "http" ++ "://" ++ host ++ ":" ++ toString port =
      String.ofList (Url.addressText host.toList port.toNat) := by
  have digits : (toString port).toList = Nat.toDigits 10 port.toNat := by
    rw [show toString port = toString port.toNat from rfl, Nat.toString_eq_ofList_toDigits,
      String.toList_ofList]
  refine String.toList_injective ?_
  rw [String.toList_ofList]
  simp [digits, Url.addressText]

/-- A host by itself names a store, which is asked whether it is ready. -/
theorem named_of_read {settings : Settings} (http : settings.storeScheme = "http")
    (filled : Blank.allBlank settings.storeHost = false) {h : Host}
    (readable : Host.read settings.storeHost.toList = .ok h) :
    ∃ s, Named settings s ∧ s.base = Url.ofAddress h settings.storePort.toNat := by
  have parsed := Url.parse_addressText readable (Nat.le_of_lt_succ settings.storePort.toNat_lt)
  let s : HttpStore := ⟨Url.ofAddress h settings.storePort.toNat, [[]], rfl⟩
  have accepted : ofUrl (String.ofList (Url.addressText settings.storeHost.toList
      settings.storePort.toNat)) = .ok s := by
    rw [ofUrl, parsed]
    rfl
  exact ⟨s, ⟨filled, by rw [http, address_eq, accepted]⟩, rfl⟩

/-- What names no store is refused before anything is sent. -/
theorem not_named_of_error {settings : Settings} (http : settings.storeScheme = "http")
    {e : UrlError} (unreadable : Host.read settings.storeHost.toList = .error e)
    (plain : ∀ c ∈ settings.storeHost.toList, Url.isDelimiter c = false) (s : HttpStore) :
    ¬Named settings s := by
  rintro ⟨-, accepted⟩
  obtain ⟨e', fails⟩ := Url.parse_addressText_of_error unreadable plain settings.storePort.toNat
  rw [http, address_eq] at accepted
  cases fails.symm.trans (parse_of_ofUrl accepted)

/-- Connecting begins with asking whether the store is ready, if its URL can be written. -/
theorem exists_questions_connect {settings : Settings} (named : Named settings s)
    (goes : s.readyGet.goes) (before : List HttpCall) :
    ∃ more, ((connect settings).run peer before).questions = .send s.readyGet :: more := by
  obtain ⟨more, first⟩ := exists_questions_of_goes peer before greatestRedirects goes
  have asked : ∃ rest, ((awaitReadyBy settings s).run peer before).questions =
      (s.isReady.run peer before).questions ++ rest := by
    rw [awaitReadyBy, awaitReady, run_pollReady, Transcript.andThen]
    split
    · exact ⟨[], (List.append_nil _).symm⟩
    · exact ⟨_, rfl⟩
  obtain ⟨rest, asked⟩ := asked
  refine ⟨more ++ rest, ?_⟩
  rw [(run_connect_of_named named peer before).1, asked, run_isReady]
  dsimp only
  rw [first, List.cons_append]

/-- Over HTTP, connecting asks the store that the address in the settings names as a URL, and
otherwise sends requests only where a redirect leads that answers the request before. If the host is
one by itself, then it is this host and the port of the settings that is asked, and nothing else is
said; and it is asked if its URL can be written. A text that is no host by itself is refused, and
nothing is sent, unless the text has delimiters. -/
theorem contacts_configured (settings : Settings) (http : settings.storeScheme = "http")
    (peer : Partner HttpCall HttpCall.Answer) (before : List HttpCall) :
    let host := settings.storeHost.toList
    let port := settings.storePort.toNat
    let t := (connect settings).run peer before
    (∀ earlier r later, t.questions = earlier ++ .send r :: later →
      (∃ s, Named settings s ∧ r = s.readyGet) ∨ Redirected peer before earlier r) ∧
    (∀ h, Host.read host = .ok h →
      (∀ earlier r later, t.questions = earlier ++ .send r :: later →
        AsksReady h port r ∨ Redirected peer before earlier r) ∧
      (Blank.allBlank settings.storeHost = false → ∃ r, AsksReady h port r ∧
        (r.url.isSendable → ∃ more, t.questions = .send r :: more))) ∧
    ((∀ h, Host.read host ≠ .ok h) → (∀ c ∈ host, Url.isDelimiter c = false) →
      t.questions = [] ∧ ∃ e, t.result = some (.error e)) := by
  intro host port t
  have contacts (earlier : List HttpCall) (r : Request) (later : List HttpCall)
      (split : t.questions = earlier ++ .send r :: later) :
      (∃ s, Named settings s ∧ r = s.readyGet) ∨ Redirected peer before earlier r := by
    by_cases named : ∃ s, Named settings s
    · obtain ⟨s, named⟩ := named
      have justified := contacts_connect named before earlier r later split
      exact justified.imp_left fun own => ⟨s, named, own⟩
    · have silent : t.questions = [] :=
        (run_connect_of_not_named (not_exists.mp named) peer before).1
      rw [silent] at split
      cases List.append_ne_nil_of_right_ne_nil earlier (List.cons_ne_nil _ _) split.symm
  refine ⟨contacts, fun h readable => ⟨fun earlier r later split => ?_, fun filled => ?_⟩,
    fun unreadable plain => ?_⟩
  · refine (contacts earlier r later split).imp_left ?_
    rintro ⟨s, named, rfl⟩
    obtain ⟨own, named', base⟩ := named_of_read http named.1 readable
    obtain rfl := Except.ok.inj (named.2.symm.trans named'.2)
    exact asksReady_of_base base
  · obtain ⟨s, named, base⟩ := named_of_read http filled readable
    have asks := asksReady_of_base base
    refine ⟨s.readyGet, asks, fun sendable => exists_questions_connect named ?_ before⟩
    simp [goes, sendable, Url.isReachable, asks.scheme]
  · cases read : Host.read host with
    | ok h => exact absurd read (unreadable h)
    | error e => exact run_connect_of_not_named (not_named_of_error http read plain) peer before

/-- A domain in upper case is asked in lower case, and a host with a port of its own is refused. -/
theorem contacts_configured_upper_case :
    let settings : Settings := { storeHost := "H.org", storePort := 80 }
    let refused : Settings := { storeHost := "h:80" }
    let peer := replyingWith []
    settings.storeScheme = "http" ∧ refused.storeScheme = "http" ∧
      (∃ r, AsksReady (.domain "h.org".toList) 80 r ∧
        (r.url.isSendable → ∃ more, ((connect settings).run peer []).questions = .send r :: more)) ∧
      ((connect refused).run peer []).questions = [] := by
  intro settings refused peer
  have readable : Host.read settings.storeHost.toList = .ok (.domain "h.org".toList) := by decide
  have unreadable : Host.read refused.storeHost.toList = .error .invalidDomain := by decide
  have clear : refused.storeHost.toList.all fun c => !Url.isDelimiter c := by decide
  have plain (c : Char) (among : c ∈ refused.storeHost.toList) : Url.isDelimiter c = false := by
    simpa using List.all_eq_true.mp clear c among
  obtain ⟨-, named, -⟩ := contacts_configured settings rfl peer []
  obtain ⟨-, -, unnamed⟩ := contacts_configured refused rfl peer []
  refine ⟨rfl, rfl, (named _ readable).2 (by decide), (unnamed (fun h named => ?_) plain).1⟩
  cases unreadable.symm.trans named

/-- A text with a slash is no host, but what stands before the slash is asked, at another port. A
redirect leads to another host. -/
theorem contacts_other_than_configured :
    let moving : Partner HttpCall HttpCall.Answer := fun
      | [], .send _ => some (.response ⟨⟨302⟩, some "http://o/", .complete []⟩)
      | _, .send _ => some (.response ⟨⟨200⟩, none, .complete []⟩)
      | _, .pause _ => some ()
    (Host.read "h/x".toList = .error .invalidDomain ∧ ∃ r,
      ((connect { storeHost := "h/x", storePort := 8080 }).run (replyingWith []) []).questions =
        [.send r] ∧
      r.url.render = "http://h/x:8080/v1/.well-known/ready" ∧ r.url.port.getD 80 = 80) ∧
    ∃ r r', ((connect { storeHost := "h" }).run moving []).questions = [.send r, .send r'] ∧
      r'.url.render = "http://o/" := by
  have behind : ((connect { storeHost := "h/x", storePort := 8080 }).run (replyingWith [])
      []).questions = [.send ⟨.get, {
        scheme := "http".toList
        host := some (.domain "h".toList)
        path := .segments ["x:8080".toList, "v1".toList, ".well-known".toList, "ready".toList] },
          none⟩] := by rfl
  intro moving
  have moved : ((connect { storeHost := "h" }).run moving []).questions =
      [.send ⟨.get, { onHost.endpoint readySegments with port := some 8080 }, none⟩,
        .send ⟨.get, {
          scheme := "http".toList
          host := some (.domain "o".toList)
          path := .segments [[]] }, none⟩] := by rfl
  exact ⟨⟨by decide, _, behind, by decide, rfl⟩, _, _, moved, by decide⟩

end HttpStore

end GraphIngest
