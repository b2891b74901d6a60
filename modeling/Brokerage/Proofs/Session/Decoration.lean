import Brokerage.Proofs.Session.Outcome
import Brokerage.Proofs.Ulid

/-!
# The headers of what goes to the backend

Whatever goes to the backend, be it a first attempt, a second one or a renewal, was put together by
the very step that sends it (`Sends`), from the cookies and the identifier of that moment. So
what is true of the headers of one request (`Decorated`) is true all along a run, while the cookies
change. A request looks up one cookie, and the cookies may change to any others before each step: so
a run may have any source at all that answers each time what it likes.

A step draws one identifier for what it sends, so the identifiers that were sent are drawn at
different places, in their order (`exists_places`). If no identifier is drawn twice, no two requests
carry the same one.
-/

namespace Brokerage

/-- The values that stand under a header. -/
def Outgoing.valuesOf (o : Outgoing) (name : String) : List String :=
  (o.headers.filter (·.1 == name)).map Prod.snd

namespace Request

variable {config : Config} {source : CookieSource} {id : RequestId} {r : Request} {o : Outgoing}
variable {method v : String} {url : Url}

/-! ### The headers of one request -/

theorem isStateChanging_iff :
    isStateChanging method = true ↔ method ∉ ["GET", "HEAD", "OPTIONS", "TRACE"] := by
  simp only [isStateChanging, Bool.not_eq_true', ← Bool.not_eq_true, List.contains_iff_mem]

/-- A header can hold a text of which no character is a control character, but for tabs. -/
theorem isHeaderValue_iff : isHeaderValue v = true ↔
    ∀ c ∈ v.toList, c = '\t' ∨ (0x20 ≤ c.toNat ∧ c.toNat ≠ 0x7F) := by
  have bytes : isHeaderValue v = true ↔
      ∀ b ∈ Text.encode v, b = 0x09 ∨ (0x20 ≤ b ∧ b ≠ 0x7F) := by
    simp [isHeaderValue, List.all_eq_true]
  rw [bytes]
  constructor
  · intro legal c there
    -- a control character is one of ASCII, so it is among the bytes as it is
    by_contra control
    have small : c.toNat < 0x80 := by
      by_contra wide
      exact control (.inr ⟨by omega, by omega⟩)
    have value : (UInt8.ofNat c.toNat).toNat = c.toNat :=
      UInt8.toNat_ofNat_of_lt' (Nat.lt_trans small (by decide))
    have ascii : UInt8.ofNat c.toNat < 0x80 :=
      UInt8.lt_iff_toNat_lt.mpr (by rw [value]; exact small)
    rcases legal _ ((Text.mem_encode_iff v ascii).mpr ⟨c, there, value.symm⟩) with tab | ⟨low, del⟩
    · refine control (.inl (Char.toNat_inj.mp ?_))
      rw [← value, tab]
      rfl
    · refine control (.inr ⟨?_, fun same => del ?_⟩)
      · rw [← value]
        exact UInt8.le_iff_toNat_le.mp low
      · rw [same]
        rfl
  · intro legal b there
    by_cases ascii : b < 0x80
    · obtain ⟨c, inside, same⟩ := (Text.mem_encode_iff v ascii).mp there
      rcases legal c inside with rfl | ⟨low, del⟩
      · exact .inl (UInt8.toNat_inj.mp same.symm)
      · refine .inr ⟨UInt8.le_iff_toNat_le.mpr (same ▸ low), fun delete => del ?_⟩
        rw [same, delete]
        rfl
    · have high : (0x80 : UInt8) ≤ b := UInt8.not_lt.mp ascii
      exact .inr ⟨UInt8.le_trans (by decide) high,
        fun delete => by subst delete; exact ascii (by decide)⟩

/-- What is true of the headers of a request that was put together with the cookies `source` and the
identifier `id` and whose body is of the type `type`. -/
structure Decorated (config : Config) (source : CookieSource) (id : RequestId)
    (type : Option String) (o : Outgoing) : Prop where
  /-- It carries the identifier, and no other one. -/
  identified : o.valuesOf idHeader = [id.write]
  /-- It carries a token exactly if it may change something at the backend and the cookies hold one
  for its URL that a header can hold, and then this very one. -/
  token_iff : ∀ v, v ∈ o.valuesOf tokenHeader ↔
    o.method ∉ ["GET", "HEAD", "OPTIONS", "TRACE"] ∧
      source.lookup o.url config.csrfCookie = some v ∧
      ∀ c ∈ v.toList, c = '\t' ∨ (0x20 ≤ c.toNat ∧ c.toNat ≠ 0x7F)
  /-- It does not carry two. -/
  token_once : (o.valuesOf tokenHeader).length ≤ 1
  /-- It says what its body is, if it has one. -/
  typed : o.valuesOf typeHeader = type.toList
  /-- There are no other headers. -/
  others : ∀ header ∈ o.headers,
    header.1 = idHeader ∨ header.1 = tokenHeader ∨ header.1 = typeHeader

/-- The token is the cookie for the URL, under the conditions on which it is sent at all. -/
theorem token?_eq_some_iff : token? config source method url = some v ↔
    method ∉ ["GET", "HEAD", "OPTIONS", "TRACE"] ∧
      source.lookup url config.csrfCookie = some v ∧
      ∀ c ∈ v.toList, c = '\t' ∨ (0x20 ≤ c.toNat ∧ c.toNat ≠ 0x7F) := by
  rw [← isStateChanging_iff, ← isHeaderValue_iff, token?]
  cases isStateChanging method with
  | false => simp
  | true => simp [Option.filter_eq_some_iff]

/-- Headers that consist of a type and of what every attempt gets. -/
theorem Decorated.of_headers {type : Option String}
    (headers : o.headers = (type.map ((typeHeader, ·))).toList ++
      decoration config source id o.method o.url) : Decorated config source id type o := by
  have ids : o.valuesOf idHeader = [id.write] := by
    cases type <;> cases token? config source o.method o.url <;>
      simp [Outgoing.valuesOf, headers, decoration, idHeader, tokenHeader, typeHeader]
  have tokens : o.valuesOf tokenHeader = (token? config source o.method o.url).toList := by
    cases type <;> cases held : token? config source o.method o.url <;>
      simp [Outgoing.valuesOf, headers, decoration, held, idHeader, tokenHeader, typeHeader]
  have types : o.valuesOf typeHeader = type.toList := by
    cases type <;> cases token? config source o.method o.url <;>
      simp [Outgoing.valuesOf, headers, decoration, idHeader, tokenHeader, typeHeader]
  refine ⟨ids, fun v => ?_, ?_, types, fun header there => ?_⟩
  · rw [tokens, Option.mem_toList, token?_eq_some_iff]
  · rw [tokens]
    exact Option.length_toList_le
  · rw [headers, List.mem_append, decoration, List.mem_cons] at there
    rcases there with kind | rfl | held
    · obtain ⟨t, -, rfl⟩ := Option.map_eq_some_iff.mp (Option.mem_toList.mp kind)
      exact .inr (.inr rfl)
    · exact .inl rfl
    · obtain ⟨v, -, rfl⟩ := Option.map_eq_some_iff.mp (Option.mem_toList.mp held)
      exact .inr (.inl rfl)

/-- A request that was put together is decorated. -/
theorem decorated_of_build (built : r.build config source id = .ok o) :
    Decorated config source id (r.body.map Body.contentType) o := by
  obtain ⟨url, headers, -, types, rfl⟩ := build_eq_ok_iff.mp built
  refine .of_headers ?_
  show headers ++ _ = _
  rw [typeHeaders] at types
  cases body : r.body with
  | none =>
    rw [body] at types
    cases types
    rfl
  | some b =>
    simp only [body] at types
    split at types
    · cases types
      rfl
    · cases types

/-- A renewal is decorated; it has no body. -/
theorem decorated_buildRenewal (config : Config) (source : CookieSource) (url : Url)
    (id : RequestId) : Decorated config source id none (buildRenewal config source url id) :=
  .of_headers rfl

end Request

namespace Session

variable {c : Client} {cookies : CookieSource} {s s' : State} {a : Action} {actions : List Action}
variable {sender : Sender} {o : Outgoing} {n : Nat}

/-! ### Steps that send -/

/-- What goes to the backend, if an event says so. -/
def Event.outgoing? : Event → Option Outgoing
  | .sent _ o => some o
  | _ => none

/-- The cookies, if they change. -/
def Action.cookies? : Action → Option CookieSource
  | .setCookies source => some source
  | _ => none

/-- The step from `s` to `s'` puts something together and sends it: an attempt at what a caller
wants, or a renewal. -/
inductive Sends (c : Client) (s s' : State) : Sender → Outgoing → Prop where
  | request {i : Nat} {attempt : Attempt} {r : Request} {o : Outgoing}
      (here : s'.callers[i]? = some ⟨.send r, .sent attempt o.url⟩)
      (built : r.build c.config s.cookies (c.draw s.drawn) = .ok o) :
      Sends c s s' (.caller i attempt) o
  | renewal {k : Nat} {url : Url} (here : s'.renewals[k]? = some (.outstanding url))
      (resolved : c.config.endpoint c.config.refreshPath = .ok url) :
      Sends c s s' (.renewal k)
        (Request.buildRenewal c.config s.cookies url (c.draw s.drawn))

/-- The type of the body of what a sender sends. -/
def Sender.type? (s : State) : Sender → Option String
  | .caller i _ =>
    match s.callers[i]? with
    | some ⟨.send r, _⟩ => r.body.map Body.contentType
    | _ => none
  | .renewal _ => none

/-- What a step sends is decorated with the cookies and the identifier of that moment. -/
theorem Sends.decorated (h : Sends c s s' sender o) :
    Request.Decorated c.config s.cookies (c.draw s.drawn) (sender.type? s') o := by
  cases h with
  | request here built =>
    rw [Sender.type?, here]
    exact Request.decorated_of_build built
  | renewal here resolved => exact Request.decorated_buildRenewal ..

/-- A step that draws an identifier for what it sends, or one that sends nothing. -/
theorem Move.sends (h : Move c s a s') :
    (s.drawn ≤ s'.drawn ∧ ∃ events, s'.history = s.history ++ events ∧
      ∀ sender o, .sent sender o ∉ events) ∨
    (s'.drawn = s.drawn + 1 ∧ ∃ sender o e, s'.history = s.history ++ [.logged e, .sent sender o] ∧
      Sends c s s' sender o) := by
  cases h with
  | refused built => exact .inl ⟨Nat.le_succ _, [], by simp, by simp⟩
  | attempted built => exact .inr ⟨rfl, _, _, _, rfl, .request (by simp) built⟩
  | concluded here final =>
    refine .inl ⟨Nat.le_refl _, _, rfl, fun sender o => ?_⟩
    split <;> simp
  | joined here held => exact .inl ⟨Nat.le_refl _, _, rfl, by simp⟩
  | started here empty =>
    refine .inl ⟨Nat.le_refl _, _, rfl, fun sender o => ?_⟩
    split <;> simp
  | launched here driven resolved =>
    refine .inr ⟨rfl, _, _, _, rfl, .renewal ?_ resolved⟩
    exact List.getElem?_set_self (List.getElem?_eq_some_iff.mp here).1
  | @reported k v here =>
    refine .inl ⟨Nat.le_refl _, _, rfl, fun sender o => ?_⟩
    cases v <;> simp [conclusion]
  | retried here settled built => exact .inr ⟨rfl, _, _, _, rfl, .request (by simp [here]) built⟩
  | unretried here settled built => exact .inl ⟨Nat.le_succ _, [], by simp, by simp⟩
  | _ => exact .inl ⟨Nat.le_refl _, [], by simp, by simp⟩

/-- Every event of a run was added by one of its steps. -/
theorem exists_move_of_event {e : Event} (h : run c { cookies := cookies } actions = some s)
    (there : s.history[n]? = some e) :
    ∃ before a after t t', actions = before ++ a :: after ∧
      run c { cookies := cookies } before = some t ∧ Move c t a t' ∧
      t.history.length ≤ n ∧ t'.history[n]? = some e := by
  refine run_induction (motive := fun actions s => s.history[n]? = some e →
    ∃ before a after t t', actions = before ++ a :: after ∧
      run c { cookies := cookies } before = some t ∧ Move c t a t' ∧
      t.history.length ≤ n ∧ t'.history[n]? = some e) (by simp) ?_ h there
  intro actions s a s' reached ih moved there
  by_cases old : n < s.history.length
  · -- an event that was there before the last step was added by an earlier one
    obtain ⟨rest, history⟩ := moved.history_extends
    rw [← history, List.getElem?_append_left old] at there
    obtain ⟨before, b, after, t, t', rfl, ht⟩ := ih there
    exact ⟨before, b, after ++ [a], t, t', by simp, ht⟩
  · exact ⟨actions, a, [], s, s', rfl, reached, moved, Nat.not_lt.mp old, there⟩

/-- What goes to the backend was put together and sent by one step of the run. -/
theorem exists_sends (h : run c { cookies := cookies } actions = some s)
    (there : s.history[n]? = some (.sent sender o)) :
    ∃ before a after t t', actions = before ++ a :: after ∧
      run c { cookies := cookies } before = some t ∧ step c t a = some t' ∧
      t.history.length ≤ n ∧ n < t'.history.length ∧ Sends c t t' sender o := by
  obtain ⟨before, a, after, t, t', rfl, ht, moved, new, here⟩ := exists_move_of_event h there
  refine ⟨before, a, after, t, t', rfl, ht, step_eq_some_iff.mpr moved, new,
    (List.getElem?_eq_some_iff.mp here).1, ?_⟩
  rcases moved.sends with ⟨-, events, history, silent⟩ | ⟨-, sender', o', e, history, dispatched⟩
  · rw [history, List.getElem?_append_right new] at here
    exact absurd (List.mem_of_getElem? here) (silent sender o)
  · rw [history, List.getElem?_append_right new] at here
    have last := List.mem_of_getElem? here
    simp only [List.mem_cons, reduceCtorEq, Event.sent.injEq, List.not_mem_nil, or_false,
      false_or] at last
    obtain ⟨rfl, rfl⟩ := last
    exact dispatched

/-- The cookies of a moment are those to which they changed last. -/
theorem cookies_of_run (h : run c { cookies := cookies } actions = some s) :
    s.cookies = (actions.filterMap Action.cookies?).getLastD cookies := by
  refine run_induction (motive := fun actions s =>
    s.cookies = (actions.filterMap Action.cookies?).getLastD cookies) rfl ?_ h
  intro actions s a s' reached ih moved
  rw [List.filterMap_append]
  cases moved with
  | changed => simp [Action.cookies?]
  | _ => simpa [Action.cookies?] using ih

/-! ### Identifiers along a run -/

/-- The identifiers that were sent, in their order. -/
def sentIds (history : List Event) : List String :=
  (history.filterMap Event.outgoing?).flatMap (·.valuesOf Request.idHeader)

/-- The identifiers that were sent were drawn one after the other, each for one request. -/
theorem exists_places (h : run c { cookies := cookies } actions = some s) :
    ∃ places : List Nat, sentIds s.history = places.map (fun n => (c.draw n).write) ∧
      places.Pairwise (· < ·) ∧ ∀ n ∈ places, n < s.drawn := by
  refine run_induction (motive := fun _ s =>
    ∃ places : List Nat, sentIds s.history = places.map (fun n => (c.draw n).write) ∧
      places.Pairwise (· < ·) ∧ ∀ n ∈ places, n < s.drawn) ⟨[], rfl, .nil, nofun⟩ ?_ h
  rintro actions s a s' reached ⟨places, ids, ordered, below⟩ moved
  rcases moved.sends with ⟨more, events, history, silent⟩ | ⟨one, sender, o, e, history, dispatched⟩
  · have nothing : events.filterMap Event.outgoing? = [] := by
      refine List.filterMap_eq_nil_iff.mpr fun e there => ?_
      cases e with
      | sent sender o => exact absurd there (silent sender o)
      | _ => rfl
    refine ⟨places, ?_, ordered, fun n there => Nat.lt_of_lt_of_le (below n there) more⟩
    rw [history, sentIds, List.filterMap_append, nothing, List.append_nil]
    exact ids
  · refine ⟨places ++ [s.drawn], ?_, ?_, ?_⟩
    · have last : sentIds s'.history = sentIds s.history ++ o.valuesOf Request.idHeader := by
        rw [history, sentIds, sentIds, List.filterMap_append, List.flatMap_append]
        simp [Event.outgoing?, List.filterMap_cons]
      rw [last, ids, dispatched.decorated.identified, List.map_append, List.map_singleton]
    · refine List.pairwise_append.mpr
        ⟨ordered, List.pairwise_singleton .., fun n there m last => ?_⟩
      rw [List.mem_singleton.mp last]
      exact below n there
    · intro n there
      rw [one]
      rcases List.mem_append.mp there with before | last
      · exact Nat.lt_succ_of_lt (below n before)
      · exact Nat.lt_succ_of_le (Nat.le_of_eq (List.mem_singleton.mp last))

/-- If no identifier was drawn twice, none was sent twice. -/
theorem nodup_sentIds (h : run c { cookies := cookies } actions = some s)
    (fresh : ∀ m n, m < n → n < s.drawn → c.draw m ≠ c.draw n) : (sentIds s.history).Nodup := by
  obtain ⟨places, ids, ordered, below⟩ := exists_places h
  rw [ids, List.Nodup, List.pairwise_map]
  refine ordered.imp_of_mem fun {m n} _ later less same => ?_
  have ulid : (c.draw m).ulid = (c.draw n).ulid := Ulid.write_injective same
  refine fresh m n less (below n later) ?_
  cases hm : c.draw m
  cases hn : c.draw n
  rw [hm, hn] at ulid
  exact congrArg RequestId.mk ulid

/-! ### Decoration -/

/-- What is true of all that goes to the backend in a run. -/
structure Decoration (c : Client) (cookies : CookieSource) (actions : List Action) (s : State) :
    Prop where
  /-- Each request was put together by the step that sent it, for what its sender wants, and is
  decorated with the cookies and the identifier of that moment. -/
  dispatched : ∀ n sender o, s.history[n]? = some (.sent sender o) →
    ∃ before a after t t', actions = before ++ a :: after ∧
      run c { cookies := cookies } before = some t ∧ step c t a = some t' ∧
      t.history.length ≤ n ∧ n < t'.history.length ∧ Sends c t t' sender o ∧
      t.cookies = (before.filterMap Action.cookies?).getLastD cookies ∧
      Request.Decorated c.config t.cookies (c.draw t.drawn) (sender.type? t') o
  /-- The identifiers are drawn one after the other, each for one request. -/
  drawn : ∃ places : List Nat, sentIds s.history = places.map (fun n => (c.draw n).write) ∧
    places.Pairwise (· < ·) ∧ ∀ n ∈ places, n < s.drawn
  /-- If no identifier was drawn twice, none was sent twice. -/
  fresh : (∀ m n, m < n → n < s.drawn → c.draw m ≠ c.draw n) → (sentIds s.history).Nodup

/-- **Whatever goes to the backend is decorated.** In every run, while the cookies change between
steps, each first attempt, each second one and each renewal carries one identifier that was drawn
for it, the token if it may change anything and the cookies of that moment hold one for its URL that
a header can hold, the type of its body, and nothing else. -/
theorem decoration_of_run (h : run c { cookies := cookies } actions = some s) :
    Decoration c cookies actions s where
  dispatched n sender o there := by
    obtain ⟨before, a, after, t, t', split, ht, hs, low, high, sends⟩ := exists_sends h there
    exact ⟨before, a, after, t, t', split, ht, hs, low, high, sends, cookies_of_run ht,
      sends.decorated⟩
  drawn := exists_places h
  fresh := nodup_sentIds h

namespace Sample

/-- Cookies that hold a token. -/
def token (value : String) : CookieSource := .fixed ⟨[("csrf_token", value)]⟩

/-- A request that takes a lead in. -/
def capture : Request where
  method := "POST"
  path := "leads"
  body := some ⟨"application/json", []⟩

/-- The token changes before the renewal and again before the second attempt, for which it holds a
line break. A request that may change nothing comes in between. -/
def rotating : List Action :=
  [.come (.send capture), .setCookies (token "b"), .answer 0 (.response ⟨401, none⟩), .join 0,
   .launch 0, .come (.send listing), .setCookies (token "c\n"), .settle 0 (.response ⟨204, none⟩),
   .clear 0, .report 0, .resume 0, .setCookies (token "c\t"), .come (.send capture)]

end Sample

/-- Two of the five requests carry no token then: the one that may change nothing, and the second
attempt. The last one carries a tab. -/
theorem decoration_rotating :
    ∃ s, run (Sample.client true) { cookies := Sample.token "a" } Sample.rotating = some s ∧
      (s.history.filterMap Event.outgoing?).map (·.valuesOf Request.tokenHeader) =
        [["a"], ["b"], [], [], ["c\t"]] ∧
      (sentIds s.history).Nodup ∧
      Decoration (Sample.client true) (Sample.token "a") Sample.rotating s := by
  have reached : (run (Sample.client true) { cookies := Sample.token "a" } Sample.rotating).map
      (fun s => ((s.history.filterMap Event.outgoing?).map (·.valuesOf Request.tokenHeader),
        s.drawn)) = some ([["a"], ["b"], [], [], ["c\t"]], 5) := by
    with_unfolding_all rfl
  obtain ⟨s, h, seen⟩ := Option.map_eq_some_iff.mp reached
  obtain ⟨tokens, drawn⟩ := Prod.mk.inj seen
  have all := decoration_of_run h
  refine ⟨s, h, tokens, all.fresh fun m n less below same => ?_, all⟩
  -- the identifiers are drawn in the order of their numbers
  rw [drawn] at below
  have number : m % Nat.pow 2 128 = n % Nat.pow 2 128 := congrArg (·.ulid.number) same
  have large : 5 < Nat.pow 2 128 := by decide
  rw [Nat.mod_eq_of_lt (by omega), Nat.mod_eq_of_lt (by omega)] at number
  omega

end Session

end Brokerage
