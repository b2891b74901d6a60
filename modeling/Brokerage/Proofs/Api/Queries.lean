import Brokerage.Api.Leads
import Brokerage.Proofs.Session.Caller
import Brokerage.Proofs.Session.Exchange
import Brokerage.Proofs.Text.Blank
import Brokerage.Proofs.Url.Query

/-!
# Queries of what is sent

The query of a request is added to the URL that its path is resolved to. Whatever the pairs
hold, the query of what is sent is read as the pairs of that URL and these behind them, and
nothing else of it is another one (`Carries`). This holds of all attempts that ever go to the
backend (`queries_of_run`).

The path under which leads are listed has no query of its own (`endpoint_leads`), so what is sent
there has the filters that are set, each in its place and no others (`Filters`).
-/

namespace Brokerage

/-- A URL is another one with pairs behind those of its query. -/
structure Carries (own : Url) (added : List Form.Pair) (url : Url) : Prop where
  pairs : url.pairs = own.pairs ++ added
  others : url = { own with query := url.query }
  /-- Without pairs it is the same URL, even if this one has no query. -/
  same : added = [] → url = own

theorem Url.carries_addPairs (own : Url) (pairs : List Form.Pair) :
    Carries own pairs (own.addPairs pairs) where
  pairs := own.pairs_addPairs pairs
  others := own.addPairs_eq pairs
  same empty := by rw [addPairs, if_pos empty]

/-- **What is put together carries the pairs of the request.** -/
theorem Request.carries_of_build {r : Request} {config : Config} {source : CookieSource}
    {id : RequestId} {o : Outgoing} (built : r.build config source id = .ok o) :
    ∃ own, config.endpoint r.path = .ok own ∧ Carries own r.query o.url := by
  obtain ⟨url, headers, resolved, -, rfl⟩ := build_eq_ok_iff.mp built
  rw [Request.url] at resolved
  cases endpoint : config.endpoint r.path with
  | error fault =>
    rw [endpoint] at resolved
    cases resolved
  | ok own =>
    rw [endpoint] at resolved
    cases resolved
    exact ⟨own, rfl, own.carries_addPairs r.query⟩

/-! ### Filters for leads -/

namespace Lead.Query

variable {q : Query} {name value : String} {v : Option String}

theorem mem_parameter?_iff {pair : String × String} :
    pair ∈ parameter? name v ↔ name = pair.1 ∧ v = some pair.2 := by
  obtain ⟨name', value⟩ := pair
  cases v with
  | none => simp [parameter?]
  | some value' => simp [parameter?, eq_comm]

theorem parameter?_sublist (name : String) (v : Option String) :
    ((parameter? name v).map Prod.fst).Sublist [name] := by
  cases v with
  | none => exact List.nil_sublist _
  | some value => exact .refl _

theorem natDigits_eq (n : Nat) : Json.natDigits n = toString n := rfl

/-- Pairs are the filters that are set. -/
structure Filters (q : Query) (pairs : List Form.Pair) : Prop where
  /-- There is each of them at most once, in this order, and nothing else. -/
  order : (pairs.map Prod.fst).Sublist ["status", "search", "page", "per_page"]
  status : ∀ value, ("status", value) ∈ pairs ↔ ∃ s, q.status = some s ∧ s.name = value
  search : ∀ value, ("search", value) ∈ pairs ↔
    ∃ text, q.search = some text ∧ ¬Text.Blank text ∧ Text.trim text = value
  page : ∀ value, ("page", value) ∈ pairs ↔ ∃ n, q.page = some n ∧ toString n.toNat = value
  perPage : ∀ value, ("per_page", value) ∈ pairs ↔
    ∃ n, q.perPage = some n ∧ toString n.toNat = value

/-- **The parameters are the filters that are set.** -/
theorem filters_parameters (q : Query) : Filters q q.parameters where
  order := by
    rw [parameters, List.map_append, List.map_append, List.map_append]
    exact (((parameter?_sublist _ _).append (parameter?_sublist _ _)).append
      (parameter?_sublist _ _)).append (parameter?_sublist _ _)
  status value := by
    simp [parameters, mem_parameter?_iff]
  search value := by
    simp [parameters, mem_parameter?_iff, Option.bind_eq_some_iff, Text.nonBlank?_eq_some_iff]
  page value := by
    simp [parameters, mem_parameter?_iff, natDigits_eq]
  perPage value := by
    simp [parameters, mem_parameter?_iff, natDigits_eq]

end Lead.Query

/-! ### Where leads are listed -/

/-- The path of the leads has no query, and no fragment either. -/
def leadsPieces : Url.Pieces := ⟨"leads".toList, none, none⟩

/-- It is neither empty nor a whole URL, so it is resolved against the base. -/
theorem Config.endpoint_leads_eq (config : Config) :
    config.endpoint "leads" = Url.readWithoutScheme config.baseUrl leadsPieces := by
  with_unfolding_all rfl

/-- A base that is a file is one on some machine. -/
theorem Url.readFile_leads (base : Url) :
    ∃ authority path, readFile (some base) leadsPieces.front = .ok (authority, path) := by
  have relative : readFile (some base) leadsPieces.front =
      if base.path.segments = driveOf base.path.segments then
        .ok (base.authority.getD noMachine, readFilePath base.path.segments leadsPieces.front)
      else .ok (base.authority.getD noMachine,
        readFilePath base.path.segments.dropLast leadsPieces.front) := by
    with_unfolding_all rfl
  rw [relative]
  split <;> exact ⟨_, _, rfl⟩

/-- **The URL of the leads is put together anew below every base that has a root.** -/
theorem Url.readWithoutScheme_leads {base : Url} {segments : List String}
    (rooted : base.path = .rooted segments) :
    ∃ scheme authority path,
      readWithoutScheme base leadsPieces = .ok (assemble scheme authority path leadsPieces) := by
  rw [readWithoutScheme]
  simp only [rooted]
  -- files are resolved by rules of their own
  by_cases file : base.scheme = "file"
  · obtain ⟨authority, path, read⟩ := readFile_leads base
    have front : skipBreaks leadsPieces.front = 'l' :: "eads".toList := rfl
    rw [if_pos file]
    unfold readFileUrl
    simp only [front, read]
    exact ⟨_, _, _, rfl⟩
  · rw [if_neg file]
    exact ⟨_, _, _, rfl⟩

/-- **The URL of the leads has no query**, and there is one below every base that has a root. -/
theorem Config.endpoint_leads {config : Config} :
    (∀ own, config.endpoint "leads" = .ok own → own.query = none) ∧
      ∀ base, config.baseUrl.path = .rooted base → ∃ own, config.endpoint "leads" = .ok own := by
  rw [endpoint_leads_eq]
  cases path : config.baseUrl.path with
  | rootless text =>
    have failed : Url.readWithoutScheme config.baseUrl leadsPieces =
        .error .relativeToRootless := by
      rw [Url.readWithoutScheme]
      simp only [path]
      rfl
    rw [failed]
    exact ⟨nofun, nofun⟩
  | rooted segments =>
    obtain ⟨scheme, authority, place, read⟩ := Url.readWithoutScheme_leads path
    rw [read]
    refine ⟨fun own same => ?_, fun base _ => ⟨_, rfl⟩⟩
    cases same
    rfl

namespace Session

variable {c : Client} {cookies : CookieSource} {s : State} {actions : List Action}

/-- A caller whose request can be put together sends it. -/
theorem exists_sent_of_build {r : Request} {source : CookieSource} {id : RequestId} {o : Outgoing}
    (built : r.build c.config source id = .ok o) (s : State) :
    ∃ s' o, step c s (.come (.send r)) = some s' ∧
      .sent (.caller s.callers.length .initial) o ∈ s'.history := by
  obtain ⟨o', built⟩ := Request.exists_build_eq_ok built s.cookies (c.draw s.drawn)
  refine ⟨_, o', rfl, ?_⟩
  rw [dispatch]
  simp only [built, State.record_history]
  exact List.mem_append_right _ (List.mem_cons_of_mem _ List.mem_cons_self)

/-- What the queries of a session are. -/
structure Queries (c : Client) (s : State) : Prop where
  /-- Whatever a caller sends carries the pairs of its request behind those of its path. -/
  carried : ∀ i attempt o, .sent (.caller i attempt) o ∈ s.history →
    ∃ r phase own, s.callers[i]? = some ⟨.send r, phase⟩ ∧ c.config.endpoint r.path = .ok own ∧
      Carries own r.query o.url
  /-- Whoever comes with a request that can be put together sends it. -/
  sends : ∀ r source id o, r.build c.config source id = .ok o →
    ∃ s' o', step c s (.come (.send r)) = some s' ∧
      .sent (.caller s.callers.length .initial) o' ∈ s'.history
  /-- What is sent for a list of leads has the filters that are set for its query. -/
  filters : ∀ q i attempt o phase, .sent (.caller i attempt) o ∈ s.history →
    s.callers[i]? = some ⟨(Leads.list q).wish, phase⟩ → q.Filters o.url.pairs
  /-- Something is sent for it, if the base has a root. -/
  lists : ∀ q base, c.config.baseUrl.path = .rooted base →
    ∃ s' o, step c s (.come (Leads.list q).wish) = some s' ∧
      .sent (.caller s.callers.length .initial) o ∈ s'.history

/-- **Queries arrive as they are given**, at every attempt of every caller in every run. -/
theorem queries_of_run (reached : run c { cookies := cookies } actions = some s) : Queries c s := by
  have carried : ∀ i attempt o, .sent (.caller i attempt) o ∈ s.history →
      ∃ r phase own, s.callers[i]? = some ⟨.send r, phase⟩ ∧ c.config.endpoint r.path = .ok own ∧
        Carries own r.query o.url := by
    intro i attempt o sent
    obtain ⟨r, phase, here, source, id, built⟩ :=
      (track_fits reached i).built_of_mem (Track.mem_calls_iff.mpr sent)
    obtain ⟨own, endpoint, carries⟩ := Request.carries_of_build built
    exact ⟨r, phase, own, here, endpoint, carries⟩
  refine ⟨carried, fun r source id o built => exists_sent_of_build built s, ?_, ?_⟩
  · intro q i attempt o phase sent here
    obtain ⟨r, phase', own, here', endpoint, carries⟩ := carried i attempt o sent
    rw [here] at here'
    cases here'
    -- the path has no query of its own
    have noPairs : own.pairs = [] := by
      rw [Url.pairs, Config.endpoint_leads.1 own endpoint]
      rfl
    rw [carries.pairs, noPairs, List.nil_append]
    exact q.filters_parameters
  · intro q base rooted
    obtain ⟨own, endpoint⟩ := Config.endpoint_leads.2 base rooted
    have resolved : (Leads.listRequest q).url c.config = .ok (own.addPairs q.parameters) := by
      show (c.config.endpoint "leads").map (·.addPairs q.parameters) = _
      rw [endpoint]
      rfl
    have built : (Leads.listRequest q).build c.config cookies (c.draw 0) = .ok _ :=
      Request.build_eq_ok_iff.mpr ⟨_, _, resolved, rfl, rfl⟩
    exact exists_sent_of_build built s

namespace Sample

/-- A request for a path with a query and a fragment, with delimiters in its pairs. -/
def search : Request where
  method := "GET"
  path := "search?q=%2B&&all#top"
  query := [("a&b", "c=d +é"), ("", "")]

/-- Filters of which one is not trimmed. -/
def filters : Lead.Query := { search := some " é ", page := some 2 }

/-- The request comes, and then somebody lists leads. -/
def searching : List Action :=
  [.come (.send search), .come (Leads.list filters).wish]

end Sample

/-- The pairs of the path come first, and the fragment stays where it is. -/
theorem queries_of_run_delimiters :
    ∃ s o o', run (Sample.client true) { cookies := Sample.noCookies } Sample.searching = some s ∧
      .sent (.caller 0 .initial) o ∈ s.history ∧ .sent (.caller 1 .initial) o' ∈ s.history ∧
      o.url.write = "https://a/search?q=%2B&&all&a%26b=c%3Dd+%2B%C3%A9&=#top" ∧
      o.url.pairs = [("q", "+"), ("all", ""), ("a&b", "c=d +é"), ("", "")] ∧
      ("search", "é") ∈ o'.url.pairs := by
  have reached : (run (Sample.client true) { cookies := Sample.noCookies } Sample.searching).map
      (fun s => (s.callers.map (·.wish),
        (Track.of 0 Sample.searching s.history).calls.map fun call => (call.1, call.2.url.write),
        (Track.of 1 Sample.searching s.history).calls.map fun call => (call.1, call.2.url.write))) =
      some ([.send Sample.search, (Leads.list Sample.filters).wish],
        [(.initial, "https://a/search?q=%2B&&all&a%26b=c%3Dd+%2B%C3%A9&=#top")],
        [(.initial, "https://a/leads?search=%C3%A9&page=2")]) := by
    decide
  obtain ⟨s, h, seen⟩ := Option.map_eq_some_iff.mp reached
  obtain ⟨wishes, others⟩ := Prod.mk.inj seen
  obtain ⟨first, second⟩ := Prod.mk.inj others
  obtain ⟨⟨attempt, o⟩, calls, text⟩ := List.map_eq_singleton_iff.mp first
  obtain ⟨rfl, text⟩ := Prod.mk.inj text
  obtain ⟨⟨attempt', o'⟩, calls', text'⟩ := List.map_eq_singleton_iff.mp second
  obtain ⟨rfl, text'⟩ := Prod.mk.inj text'
  have sent : .sent (.caller 0 .initial) o ∈ s.history :=
    Track.mem_calls_iff.mp (calls ▸ List.mem_cons_self)
  have sent' : .sent (.caller 1 .initial) o' ∈ s.history :=
    Track.mem_calls_iff.mp (calls' ▸ List.mem_cons_self)
  obtain ⟨⟨w, phase⟩, rest, callers, wish, last⟩ := List.map_eq_cons_iff.mp wishes
  obtain ⟨⟨w', phase'⟩, rest, rfl, wish', last'⟩ := List.map_eq_cons_iff.mp last
  have queries := queries_of_run h
  refine ⟨s, o, o', h, sent, sent', text, ?_, ?_⟩
  · obtain ⟨r, phase'', own, here, endpoint, carries⟩ := queries.carried 0 .initial o sent
    rw [callers] at here
    cases here
    cases wish
    have pairs : ((Sample.client true).config.endpoint Sample.search.path).map Url.pairs =
        .ok [("q", "+"), ("all", "")] := by
      decide +kernel
    rw [endpoint] at pairs
    rw [carries.pairs, Except.ok.inj pairs]
    rfl
  · have here : s.callers[1]? = some ⟨(Leads.list Sample.filters).wish, phase'⟩ := by
      rw [callers, ← wish']
      rfl
    exact ((queries.filters _ 1 .initial o' phase' sent' here).search "é").mpr
      ⟨" é ", rfl, by decide, by decide⟩

end Session

end Brokerage
