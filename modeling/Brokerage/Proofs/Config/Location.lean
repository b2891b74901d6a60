import Brokerage.Config
import Brokerage.Proofs.Url.Query
import Brokerage.Proofs.Url.Target

/-!
# Where to sign in, and where to go on

The path to go on with is written into the query of the sign-in location as a component, in
characters that delimit nothing (`mem_returnQuery`). So it is read back as the one value of the
query (`read_returnQuery`), and whatever it is, the location leads where the sign-in route leads
(`location_of_return`).
-/

namespace Brokerage.Config

open Percent (component plainChars isPlain_component)

variable {config : Config} {next : String}

/-! ### The query -/

/-- The query that says where to go on. -/
def returnQuery (next : String) : String := "next=" ++ component next

/-- **It is one pair.** -/
theorem read_returnQuery (next : String) : Form.read (returnQuery next) = [("next", next)] := by
  have name : component "next" ++ "=" = "next=" := by decide
  rw [returnQuery, ← name]
  exact Form.read_components "next" next

/-- **All that it is written in delimits nothing**, but the sign between name and value. -/
theorem mem_returnQuery {c : Char} (there : c ∈ (returnQuery next).toList) :
    c ∈ '=' :: plainChars := by
  have name : ∀ c ∈ "next=".toList, c ∈ '=' :: plainChars :=
    Percent.forall_of_all (by decide)
  rw [returnQuery, String.toList_append, List.mem_append] at there
  rcases there with sign | value
  · exact name c sign
  · exact List.mem_cons_of_mem _ (isPlain_component next c value)

/-- Nor does anything that stands behind the route, but for the question mark. -/
theorem mem_mark_returnQuery {c : Char} (there : c ∈ ("?" ++ returnQuery next).toList) :
    c ∈ '?' :: '=' :: plainChars := by
  rw [String.toList_append, List.mem_append] at there
  rcases there with mark | query
  · rw [List.mem_singleton.mp mark]
    exact List.mem_cons_self
  · exact List.mem_cons_of_mem _ (mem_returnQuery query)

theorem returnQuery_injective {next next' : String} (same : returnQuery next = returnQuery next') :
    next = next' := by
  have read := congrArg Form.read same
  rw [read_returnQuery, read_returnQuery] at read
  exact congrArg Prod.snd (List.singleton_inj.mp read)

/-- It is a query as it stands, whatever the scheme. -/
theorem encodeQuery_returnQuery (scheme next : String) :
    Url.encodeQuery scheme (returnQuery next).toList = returnQuery next := by
  have special : ∀ c ∈ '=' :: plainChars,
      Percent.encodeBytes Percent.inSpecialQuery (String.utf8EncodeChar c) = [c] :=
    Percent.forall_of_all (by decide)
  have other : ∀ c ∈ '=' :: plainChars,
      Percent.encodeBytes Percent.inQuery (String.utf8EncodeChar c) = [c] :=
    Percent.forall_of_all (by decide)
  rw [Url.encodeQuery, Percent.encode_of_kept, String.ofList_toList]
  intro c there
  split
  · exact special c (mem_returnQuery there)
  · exact other c (mem_returnQuery there)

/-- It is the query of any URL that has it for a tail. -/
theorem withTail_returnQuery (next : String) (url : Url) :
    Url.withTail (returnQuery next).toList none url =
      { url with query := some (returnQuery next), fragment := none } := by
  rw [Url.withTail, encodeQuery_returnQuery]
  rfl

/-- None of its characters is taken away from a URL or ends the query. -/
theorem isLasting_returnQuery (next : String) :
    ∀ c ∈ (returnQuery next).toList, Url.IsLasting c := by
  have all : ∀ c ∈ '=' :: plainChars, Url.IsLasting c := Percent.forall_of_all (by decide)
  exact fun c there => all c (mem_returnQuery there)

/-! ### The location -/

theorem loginLocation_some (config : Config) (filled : next ≠ "") :
    config.loginLocation (some next) = config.loginPath ++ ("?" ++ returnQuery next) := by
  have mark : "?next=" = "?" ++ "next=" := rfl
  rw [loginLocation, returnQuery, if_neg filled, mark]
  simp only [String.append_assoc]

/-- A location is the sign-in route alone, unless there is a path to go on with. -/
theorem loginLocation_cases (config : Config) (returnTo : Option String) :
    config.loginLocation returnTo = config.loginPath ∨
      ∃ next, next ≠ "" ∧ returnTo = some next := by
  cases returnTo with
  | none => exact .inl rfl
  | some next =>
    by_cases empty : next = ""
    · exact .inl (by rw [loginLocation]; exact if_pos empty)
    · exact .inr ⟨next, empty, rfl⟩

/-- **Different paths to go on with give different locations**, and each of them
another one than none. -/
theorem loginLocation_eq_iff (config : Config) (filled : next ≠ "") (returnTo : Option String) :
    config.loginLocation returnTo = config.loginLocation (some next) ↔ returnTo = some next := by
  refine ⟨fun same => ?_, fun same => same ▸ rfl⟩
  rw [loginLocation_some config filled] at same
  rcases config.loginLocation_cases returnTo with route | ⟨next', filled', rfl⟩
  · rw [route] at same
    have nothing := congrArg String.toList (String.append_eq_left_iff.mp same.symm)
    rw [String.toList_append] at nothing
    exact absurd (List.append_eq_nil_iff.mp nothing).1 (by decide)
  · rw [loginLocation_some config filled', String.append_right_inj, String.append_right_inj] at same
    rw [returnQuery_injective same]

/-- What a sign-in location says of the path to go on with. -/
structure LeadsBack (config : Config) (next : String) : Prop where
  /-- The location is the sign-in route and a query. -/
  written : config.loginLocation (some next) = config.loginPath ++ ("?" ++ returnQuery next)
  /-- The query is one pair, with the path to go on with as its value. -/
  read : Form.read (returnQuery next) = [("next", next)]
  /-- Behind the route there are unreserved characters and percent signs, the question mark and the
  equals sign. -/
  plain : ∀ c ∈ ("?" ++ returnQuery next).toList, c ∈ '?' :: '=' :: plainChars
  /-- At its delimiters, the location is cut into the route and this query, and
  there is no fragment. -/
  cut : Url.Pieces.ofChars (config.loginLocation (some next)).toList =
    ⟨config.loginPath.toList, some (returnQuery next).toList, none⟩
  /-- Whatever page it stands on, the location leads where the route leads, if it leads anywhere,
  and this is the query there. -/
  leads : ∀ base, Url.readAgainst base (config.loginLocation (some next)) =
    (Url.readAgainst base (config.loginPath ++ "?")).map fun url =>
      { url with query := some (returnQuery next), fragment := none }
  /-- The pair is all that arrives there. -/
  arrives : ∀ base url, Url.readAgainst base (config.loginLocation (some next)) = .ok url →
    url.pairs = [("next", next)] ∧ url.fragment = none
  /-- No other path to go on with gives this location. -/
  unique : ∀ returnTo, config.loginLocation returnTo = config.loginLocation (some next) ↔
    returnTo = some next

/-- **The path to go on with survives the sign-in location, and does nothing else to it.** -/
theorem location_of_return (noMark : '?' ∉ config.loginPath.toList)
    (noHash : '#' ∉ config.loginPath.toList) (filled : next ≠ "") : LeadsBack config next := by
  have written := config.loginLocation_some filled
  have lasting := isLasting_returnQuery next
  have leads (base : Option Url) : Url.readAgainst base (config.loginLocation (some next)) =
      (Url.readAgainst base (config.loginPath ++ "?")).map fun url =>
        { url with query := some (returnQuery next), fragment := none } := by
    rw [written, Url.readAgainst_query base noMark noHash lasting]
    exact congrArg (Except.map · _) (funext (withTail_returnQuery next))
  refine ⟨written, read_returnQuery next, fun c there => mem_mark_returnQuery there, ?_, leads, ?_,
    config.loginLocation_eq_iff filled⟩
  · have noHash' : '#' ∉ (returnQuery next).toList := fun there => (lasting _ there).2 rfl
    rw [written, Url.toList_query, Url.pieces_query noMark ⟨noHash, noHash'⟩,
      Url.withoutBreaks_of_lasting lasting]
  · intro base url arrived
    -- whatever the URL was before it got this tail
    rw [leads] at arrived
    cases route : Url.readAgainst base (config.loginPath ++ "?") with
    | error fault =>
      rw [route] at arrived
      cases arrived
    | ok landing =>
      rw [route] at arrived
      cases arrived
      exact ⟨read_returnQuery next, rfl⟩

namespace Sample

/-- A page with a query and a fragment of its own. -/
def page : Url where
  scheme := "https"
  authority := some ⟨"", none, .named "app.example.com", none⟩
  path := .rooted ["board", "7"]
  query := some "next=old"
  fragment := some "top"

/-- Settings with a route for signing in. -/
def signin : Config := { ofUrl page with loginPath := "/signin" }

/-- A path full of delimiters, of escapes and of what is no ASCII. -/
def delimiters : String := "/leads?next=a&b=c#d+%41;\"é\n//"

end Sample

/-- Delimiters in the path to go on with do nothing. -/
theorem location_of_return_delimiters :
    ('?' ∉ Sample.signin.loginPath.toList ∧ '#' ∉ Sample.signin.loginPath.toList ∧
      Sample.delimiters ≠ "") ∧
      Sample.signin.loginLocation (some Sample.delimiters) =
        "/signin?next=%2Fleads%3Fnext%3Da%26b%3Dc%23d%2B%2541%3B%22%C3%A9%0A%2F%2F" ∧
      ∃ url, Sample.page.join (Sample.signin.loginLocation (some Sample.delimiters)) = .ok url ∧
        url.path = .rooted ["signin"] ∧ url.pairs = [("next", Sample.delimiters)] := by
  have route : Sample.page.join (Sample.signin.loginPath ++ "?") =
      .ok { Sample.page with path := .rooted ["signin"], query := some "", fragment := none } := by
    with_unfolding_all rfl
  have returns : LeadsBack Sample.signin Sample.delimiters :=
    location_of_return (by decide) (by decide) (by decide)
  have landing := returns.leads (some Sample.page)
  rw [← Url.join, ← Url.join, route] at landing
  refine ⟨⟨by decide, by decide, by decide⟩, returns.written.trans (by decide), _, landing,
    rfl, ?_⟩
  exact (returns.arrives (some Sample.page) _ landing).1

end Brokerage.Config
