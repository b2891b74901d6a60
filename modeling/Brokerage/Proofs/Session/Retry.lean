import Brokerage.Proofs.Session.Decoration

/-!
# Second attempts

Nothing of a request is kept between its two attempts but what its caller wants. The second attempt
is put together anew, from cookies that may have changed and with another identifier, while other
callers and renewals went on. All of what goes to the backend but the identifier and the token is
made from the request and the settings alone (`Alike.of_build`), and so is the answer to whether it
can be put together at all (`Request.build_eq_error`). Hence the first attempt settles both.

`Retry` says so of one caller by its track, in every state that a run leads to.
-/

namespace Brokerage

variable {config : Config} {source source' : CookieSource} {id id' : RequestId} {r : Request}
  {o o' : Outgoing} {e : Error}

/-! ### Two attempts at one request -/

namespace Request

/-- True of the headers that do not depend on the moment at which an attempt is made. -/
def isLasting (header : String × String) : Bool :=
  header.1 != idHeader && header.1 != tokenHeader

/-- The cookies and the identifier of a moment go into the other headers only. -/
theorem filter_decoration (config : Config) (source : CookieSource) (id : RequestId)
    (method : String) (url : Url) :
    (decoration config source id method url).filter isLasting = [] := by
  rw [List.filter_eq_nil_iff]
  intro header there lasts
  rw [decoration, List.mem_cons, Option.mem_toList, Option.map_eq_some_iff] at there
  -- either way the name of the header is one of the two that do not last
  rcases there with rfl | ⟨v, -, rfl⟩
  · cases lasts
  · cases lasts

/-- The type of the body is among the headers that last. -/
theorem isLasting_of_type {header : String × String} (type : (header.1 == typeHeader) = true) :
    isLasting header = true := by
  rw [isLasting, beq_iff_eq.mp type]
  rfl

/-- An attempt cannot be put together exactly if there is no URL for it, or no header can hold the
type of its body. -/
theorem build_eq_error_iff : r.build config source id = .error e ↔
    (∃ fault, r.url config = .error fault ∧ e = .url fault) ∨
      ∃ url fault, r.url config = .ok url ∧ r.typeHeaders = .error fault ∧ e = .config fault := by
  rw [build]
  cases r.url config with
  | error fault => simp [eq_comm]
  | ok url =>
    cases r.typeHeaders with
    | error fault => simp [eq_comm]
    | ok headers => simp

/-- What cannot be put together with some cookies and some identifier cannot be put together with
any, for the same reason. -/
theorem build_eq_error (h : r.build config source id = .error e) (source' : CookieSource)
    (id' : RequestId) : r.build config source' id' = .error e :=
  build_eq_error_iff.mpr (build_eq_error_iff.mp h)

end Request

/-- What two attempts at one request have in common: all but the identifier and the token. -/
structure Alike (o o' : Outgoing) : Prop where
  method : o'.method = o.method
  /-- With the query. -/
  url : o'.url = o.url
  content : o'.content = o.content
  timeout : o'.timeout = o.timeout
  type : o'.valuesOf Request.typeHeader = o.valuesOf Request.typeHeader
  /-- Nor do they differ in any other header. -/
  headers : o'.headers.filter Request.isLasting = o.headers.filter Request.isLasting

/-- Whatever the cookies and the identifiers are, two attempts at one request are alike. -/
theorem Alike.of_build (first : r.build config source id = .ok o)
    (second : r.build config source' id' = .ok o') : Alike o o' := by
  obtain ⟨url, headers, resolved, typed, rfl⟩ := Request.build_eq_ok_iff.mp first
  obtain ⟨url', headers', resolved', typed', rfl⟩ := Request.build_eq_ok_iff.mp second
  obtain rfl : url = url' := Except.ok.inj (resolved.symm.trans resolved')
  obtain rfl : headers = headers' := Except.ok.inj (typed.symm.trans typed')
  have lasting (source : CookieSource) (id : RequestId) :
      (headers ++ Request.decoration config source id r.method url).filter Request.isLasting =
        headers.filter Request.isLasting := by
    rw [List.filter_append, Request.filter_decoration, List.append_nil]
  have types (source : CookieSource) (id : RequestId) :
      (headers ++ Request.decoration config source id r.method url).filter
          (·.1 == Request.typeHeader) = headers.filter (·.1 == Request.typeHeader) := by
    have none_there : (Request.decoration config source id r.method url).filter
        (·.1 == Request.typeHeader) = [] := by
      rw [List.filter_eq_nil_iff]
      intro header there type
      have gone := List.filter_eq_nil_iff.mp
        (Request.filter_decoration config source id r.method url)
      exact gone header there (Request.isLasting_of_type type)
    rw [List.filter_append, none_there, List.append_nil]
  refine ⟨rfl, rfl, rfl, rfl, ?_, ?_⟩
  · exact congrArg (List.map Prod.snd) ((types source' id').trans (types source id).symm)
  · exact (lasting source' id').trans (lasting source id).symm

namespace Session

variable {c : Client} {cookies : CookieSource} {s : State} {actions : List Action}
variable {i : Nat} {phase : Phase} {renewals : List Stage}

theorem Built.alike (first : Built c r o) (second : Built c r o') : Alike o o' := by
  obtain ⟨source, id, first⟩ := first
  obtain ⟨source', id', second⟩ := second
  exact .of_build first second

/-! ### The two attempts of one caller -/

/-- True of errors that say that a request cannot be put together. -/
def isUnbuilt : Error → Bool
  | .url _ => true
  | .config _ => true
  | _ => false

/-- A request that was answered did not end because it could not be put together. -/
theorem isUnbuilt_of_result {url : Url} {answer : Answer} (h : result r url answer = .error e) :
    isUnbuilt e = false := by
  cases answer with
  | response x =>
    rw [result, conclude_eq] at h
    split at h
    · cases h
    · cases h
      rfl
  | failure timedOut =>
    cases h
    rfl

/-- What the first attempt of a caller settles about the second one. -/
structure Retry (c : Client) (s : State) (i : Nat) (r : Request) (phase : Phase) (track : Track) :
    Prop where
  /-- A second attempt comes after a first one, and the two are alike. -/
  alike : ∀ o', (.retry, o') ∈ track.calls →
    ∃ o, track.calls = [(.initial, o), (.retry, o')] ∧ Alike o o'
  /-- A request that ends because it cannot be put together was not sent and did not wait for a
  renewal, and could not have been put together at any other moment either. -/
  unbuilt : ∀ e, phase = .done (.error e) → isUnbuilt e = true →
    track.calls = [] ∧ track.joins = [] ∧ ∀ source id, r.build c.config source id = .error e
  /-- A request that was sent once can be put together at any moment. -/
  buildable : track.calls ≠ [] → ∀ source id, ∃ o, r.build c.config source id = .ok o
  /-- So when the renewal that it waits for has succeeded, it can be sent again, whatever has
  happened in between. -/
  resumes : ∀ k, phase = .waiting k → s.renewals[k]? = some (.settled .renewed) →
    ∃ o' s', step c s (.resume i) = some s' ∧
      s'.history = s.history ++
        [.logged (dispatched r (c.draw s.drawn) .retry), .sent (.caller i .retry) o']

/-- Nobody comes to the slot with a second attempt behind it. -/
theorem Arrival.not_retry {w : Wish} {calls : List (Attempt × Outgoing)} {answers : List Answer}
    (arrival : Arrival c w calls answers) : (.retry, o') ∉ calls := by
  cases arrival with
  | asked => exact List.not_mem_nil
  | expired built lapsed =>
    intro there
    cases List.mem_singleton.mp there

/-- The attempts of a request that has made a second one. -/
theorem Track.Fits.alike {caller : Option Caller} {track : Track}
    (fits : Track.Fits c renewals caller track) (retry : (.retry, o') ∈ track.calls) :
    ∃ o, track.calls = [(.initial, o), (.retry, o')] ∧ Alike o o' := by
  have last {first second : Outgoing}
      (there : (Attempt.retry, o') ∈ [(.initial, first), (.retry, second)]) : o' = second := by
    simpa using there
  induction fits with
  | expired arrival => exact absurd retry arrival.not_retry
  | waiting arrival => exact absurd retry arrival.not_retry
  | failed arrival settled => exact absurd retry arrival.not_retry
  | retried built lapsed again settled =>
    obtain rfl := last retry
    exact ⟨_, rfl, built.alike again⟩
  | endedAgain answer' built lapsed again settled =>
    obtain rfl := last retry
    exact ⟨_, rfl, built.alike again⟩
  | dropped alive fits ih => exact ih retry
  -- the other callers have made one attempt or none
  | _ => simp at retry

/-- A request of which anything was sent could be put together. -/
theorem Track.Fits.exists_built {track : Track}
    (fits : Track.Fits c renewals (some ⟨.send r, phase⟩) track) (sent : track.calls ≠ []) :
    ∃ o, Built c r o := by
  obtain ⟨⟨attempt, o⟩, there⟩ := List.exists_mem_of_ne_nil _ sent
  obtain ⟨_, _, same, built⟩ := fits.built_of_mem there
  cases same
  exact ⟨o, built⟩

/-- A request that ended because it could not be put together never came further. -/
theorem Track.Fits.unbuilt {track : Track}
    (fits : Track.Fits c renewals (some ⟨.send r, .done (.error e)⟩) track)
    (unbuilt : isUnbuilt e = true) :
    track.calls = [] ∧ track.joins = [] ∧ ∃ source id, r.build c.config source id = .error e := by
  generalize ending : (Except.error e : Except Error Reply) = result at fits
  cases fits with
  | refused built =>
    cases ending
    exact ⟨rfl, rfl, _, _, built⟩
  | ended answer built final =>
    rw [isUnbuilt_of_result ending.symm] at unbuilt
    cases unbuilt
  | failed arrival settled =>
    cases ending
    cases unbuilt
  | endedAgain answer' built lapsed again settled =>
    rw [isUnbuilt_of_result ending.symm] at unbuilt
    cases unbuilt

/-- **The first attempt settles the second one.** Whatever happens to the cookies and to other
requests in between, two attempts at one request differ in nothing but the identifier and the token;
a request ends because it cannot be put together only before anything was sent and any renewal was
waited for; and what could be sent once can be sent again. -/
theorem retry_of_run (h : run c { cookies := cookies } actions = some s)
    (here : s.callers[i]? = some ⟨.send r, phase⟩) :
    Retry c s i r phase (Track.of i actions s.history) := by
  have fits := track_fits h i
  rw [here] at fits
  have buildable (sent : (Track.of i actions s.history).calls ≠ []) (source : CookieSource)
      (id : RequestId) : ∃ o, r.build c.config source id = .ok o := by
    obtain ⟨o, source', id', built⟩ := fits.exists_built sent
    exact Request.exists_build_eq_ok built source id
  refine ⟨fun o' retry => fits.alike retry, ?_, buildable, ?_⟩
  · rintro e rfl unbuilt
    obtain ⟨unsent, unjoined, source, id, refused⟩ := fits.unbuilt unbuilt
    exact ⟨unsent, unjoined, Request.build_eq_error refused⟩
  · rintro k rfl settled
    have sent : (Track.of i actions s.history).calls ≠ [] := by
      generalize Track.of i actions s.history = track at fits
      cases fits with
      | waiting arrival =>
        cases arrival with
        | expired built lapsed => exact List.cons_ne_nil _ _
    obtain ⟨o', built⟩ := buildable sent s.cookies (c.draw s.drawn)
    exact ⟨o', _, step_eq_some_iff.mpr (.retried here settled built), rfl⟩

namespace Sample

/-- A request with a query and a body. -/
def upload : Request where
  method := "PUT"
  path := "listings"
  query := [("name", "a b")]
  body := some ⟨"text/csv", [0x31, 0x2C, 0x32]⟩
  category := .upload

/-- The token changes before the first answer, which says that the session is over, and again before
the renewal has succeeded. -/
def uploading : List Action :=
  [.come (.send upload), .setCookies (token "b"), .answer 0 (.response ⟨401, none⟩), .join 0,
   .launch 0, .setCookies (token "c"), .settle 0 (.response ⟨204, none⟩), .clear 0, .report 0,
   .resume 0, .answer 0 (.response ⟨201, none⟩)]

end Sample

/-- The second attempt carries another token then, and is like the first one for the rest. -/
theorem retry_uploading :
    ∃ s o o', run (Sample.client true) { cookies := Sample.token "a" } Sample.uploading = some s ∧
      (Track.of 0 Sample.uploading s.history).calls = [(.initial, o), (.retry, o')] ∧
      o.valuesOf Request.tokenHeader = ["a"] ∧ o'.valuesOf Request.tokenHeader = ["c"] ∧
      Alike o o' ∧
      Retry (Sample.client true) s 0 Sample.upload (.done (.ok (.response ⟨201, none⟩)))
        (Track.of 0 Sample.uploading s.history) := by
  have reached : (run (Sample.client true) { cookies := Sample.token "a" } Sample.uploading).map
      (fun s => (s.callers, (Track.of 0 Sample.uploading s.history).calls.map fun call =>
        (call.1, call.2.valuesOf Request.tokenHeader))) =
      some ([⟨.send Sample.upload, .done (.ok (.response ⟨201, none⟩))⟩],
        [(.initial, ["a"]), (.retry, ["c"])]) := by
    with_unfolding_all rfl
  obtain ⟨s, h, seen⟩ := Option.map_eq_some_iff.mp reached
  obtain ⟨callers, tokens⟩ := Prod.mk.inj seen
  have here : s.callers[0]? =
      some ⟨.send Sample.upload, .done (.ok (.response ⟨201, none⟩))⟩ := by
    rw [callers]
    rfl
  obtain ⟨⟨attempt, o⟩, rest, calls, first, others⟩ := List.map_eq_cons_iff.mp tokens
  obtain ⟨⟨attempt', o'⟩, rest, rfl, second, last⟩ := List.map_eq_cons_iff.mp others
  obtain rfl := List.map_eq_nil_iff.mp last
  obtain ⟨rfl, token⟩ := Prod.mk.inj first
  obtain ⟨rfl, token'⟩ := Prod.mk.inj second
  have retry := retry_of_run h here
  obtain ⟨o₁, same, alike⟩ := retry.alike o' (calls ▸ List.mem_cons_of_mem _ List.mem_cons_self)
  have o_eq : o = o₁ := by
    rw [calls] at same
    exact (Prod.mk.inj (List.cons.inj same).1).2
  exact ⟨s, o, o', h, calls, token, token', o_eq ▸ alike, retry⟩

end Session

end Brokerage
