import Brokerage.Api.Leads
import Brokerage.Api.Listings
import Brokerage.Proofs.Session.Caller
import Brokerage.Proofs.Session.Exchange
import Brokerage.Proofs.Url.Joining
import Brokerage.Proofs.Url.Query

/-!
# Identities in paths

The calls about one lead or one listing have its identity in their path, between words that are the
same for all of them (`Names`). The identity is percent-encoded, and the path is resolved below the
base of the backend after that. Three identities are no segment then: the empty one, and a dot and
two of them, which are not escaped and stand for a place. What is sent for these goes somewhere else
(`spot`). Any other identity is one segment, whatever characters it has (`canBeSegment_iff`). It is
read back from there, and no call about another identity goes there (`Names.unique`).
-/

namespace Brokerage

variable {front front' id id' : String} {back back' : List String} {w w' : Session.Wish}

/-- The calls about one thing: what they want, its identity, and the words in front of it and behind
it in the path. -/
inductive Names : Session.Wish → String → String → List String → Prop where
  | lead (id : LeadId) : Names (Leads.get id).wish id.text "leads" []
  | status (id : LeadId) (status : Lead.Status) :
      Names (Leads.updateStatus id status).wish id.text "leads" []
  | description (id : ListingId) (wish : Listing.DescriptionWish) :
      Names (Listings.describe id wish).wish id.text "listings" ["generate"]
  | photo (id : ListingId) (fileName : String) (photo : Body) :
      Names (Listings.uploadPhoto id fileName photo).wish id.text "listings" ["photos"]

/-- An identity that is neither empty nor stands for a place. -/
def CanBeSegment (id : String) : Prop := id ≠ "" ∧ id ≠ "." ∧ id ≠ ".."

/-! ### Where an identity is -/

/-- What an identity and the words around it come to behind the base. -/
def spot (front id : String) (back : List String) : List String :=
  if id = "." then front :: Url.landing (back.map String.toList)
  else if id = ".." then Url.landing (back.map String.toList)
  else front :: Percent.component id :: back

theorem length_landing (words : List (List Char)) :
    (Url.landing words).length = max 1 words.length := by
  rw [Url.landing]
  split
  · next empty =>
    rw [empty]
    rfl
  · next filled =>
    have := List.length_pos_iff.mpr filled
    rw [List.length_map]
    omega

theorem CanBeSegment.spot_eq (can : CanBeSegment id) (front : String) (back : List String) :
    spot front id back = front :: Percent.component id :: back := by
  rw [spot, if_neg can.2.1, if_neg can.2.2]

theorem CanBeSegment.component_ne (can : CanBeSegment id) : Percent.component id ≠ "" :=
  fun empty => can.1 (Percent.component_injective empty)

/-- What stands behind a place is not a segment and as much as stands behind that one. -/
theorem landing_ne {segment : String} (filled : segment ≠ "") (size : back'.length = back.length) :
    Url.landing (back'.map String.toList) ≠ segment :: back := by
  intro same
  have lengths := congrArg List.length same
  rw [length_landing, List.length_map, List.length_cons] at lengths
  obtain rfl : back' = [] := List.length_eq_zero_iff.mp (by omega)
  exact filled (List.cons.inj same).1.symm

/-- Nor is it two of them and as much as that. -/
theorem landing_ne_above {segment : String} (size : back'.length ≤ back.length + 1) :
    Url.landing (back'.map String.toList) ≠ front :: segment :: back := by
  intro same
  have lengths := congrArg List.length same
  rw [length_landing, List.length_map, List.length_cons, List.length_cons] at lengths
  omega

/-- **An identity is in a segment of its own, from which it is read back, exactly if it is neither
empty nor a dot or two.** -/
theorem canBeSegment_iff : CanBeSegment id ↔
    ∃ segment, spot front id back = front :: segment :: back ∧ segment ≠ "" ∧
      Percent.decode segment = Text.encode id := by
  constructor
  · intro can
    exact ⟨_, can.spot_eq front back, can.component_ne, Percent.decode_component id⟩
  · rintro ⟨segment, place, filled, -⟩
    refine ⟨?_, ?_, ?_⟩
    · rintro rfl
      have empty : spot front "" back = front :: "" :: back := rfl
      rw [empty] at place
      simp only [List.cons.injEq, true_and] at place
      exact filled place.1.symm
    · rintro rfl
      exact landing_ne filled rfl (List.cons.inj place).2
    · rintro rfl
      exact landing_ne_above (Nat.le_succ _) place

theorem Names.length_back (names : Names w id front back) :
    back.length = if front = "leads" then 0 else 1 := by
  cases names <;> rfl

/-- **Where one identity is in a segment of its own, no other one is**, whatever it is. -/
theorem Names.unique (names : Names w id front back) (names' : Names w' id' front' back')
    (can : CanBeSegment id) (same : spot front' id' back' = spot front id back) :
    id' = id ∧ front' = front ∧ back' = back := by
  have size := names.length_back
  have size' := names'.length_back
  rw [can.spot_eq, spot] at same
  split at same
  · obtain ⟨rfl, behind⟩ := List.cons.inj same
    exact absurd behind (landing_ne can.component_ne (size'.trans size.symm))
  split at same
  · have short : back'.length ≤ back.length + 1 := by
      split at size' <;> omega
    exact absurd same (landing_ne_above short)
  · simp only [List.cons.injEq] at same
    exact ⟨Percent.component_injective same.2.1, same.1, same.2.2⟩

/-! ### Paths of calls -/

/-- Words that are segments, of which the first one is no drive. -/
structure Frames (front : String) (back : List String) : Prop where
  first : Url.IsSegment front.toList
  noDrive : Url.startsWithDrive front.toList = false
  others : ∀ word ∈ back.map String.toList, Url.IsSegment word

theorem Names.frames (names : Names w id front back) : Frames front back := by
  cases names <;> exact ⟨by decide, by decide, by decide⟩

/-- The words of a path with an identity. -/
def wordsOf (front id : String) (back : List String) : List (List Char) :=
  front.toList :: (Percent.component id).toList :: back.map String.toList

theorem Names.path (names : Names w id front back) :
    ∃ r, w = .send r ∧ r.path = String.ofList (['/'].intercalate (wordsOf front id back)) := by
  have lead (id : LeadId) :
      Leads.path id = String.ofList (['/'].intercalate (wordsOf "leads" id.text [])) := by
    have front : "leads/".toList = "leads".toList ++ ['/'] := rfl
    refine String.toList_inj.mp (Eq.trans ?_ String.toList_ofList.symm)
    rw [Leads.path, String.toList_append, front, List.append_assoc]
    simp only [wordsOf, List.map_nil, List.intercalate_cons_cons, List.intercalate_singleton,
      List.append_assoc]
  have part (id : ListingId) (part : String) :
      Listings.path id part =
        String.ofList (['/'].intercalate (wordsOf "listings" id.text [part])) := by
    have front : "listings/".toList = "listings".toList ++ ['/'] := rfl
    have slash : "/".toList = ['/'] := rfl
    refine String.toList_inj.mp (Eq.trans ?_ String.toList_ofList.symm)
    rw [Listings.path, String.toList_append, String.toList_append, String.toList_append, front,
      slash, List.append_assoc, List.append_assoc, List.append_assoc]
    simp only [wordsOf, List.map_cons, List.map_nil, List.intercalate_cons_cons,
      List.intercalate_singleton, List.append_assoc]
  cases names with
  | lead id => exact ⟨_, rfl, lead id⟩
  | status id status => exact ⟨_, rfl, lead id⟩
  | description id wish => exact ⟨_, rfl, part id "generate"⟩
  | photo id fileName photo => exact ⟨_, rfl, part id "photos"⟩

theorem Frames.isPlain (frames : Frames front back) (id : String) :
    ∀ word ∈ wordsOf front id back, Percent.IsPlain word := by
  intro word there
  rcases List.mem_cons.mp there with rfl | later
  · exact frames.first.1
  rcases List.mem_cons.mp later with rfl | last
  · exact Percent.isPlain_component id
  · exact (frames.others word last).1

/-- **The path of an identity is resolved to its spot.** -/
theorem Frames.resolve (frames : Frames front back) (base : List String) (id : String) :
    Url.resolve Url.placeEscaped base (wordsOf front id back) = base ++ spot front id back := by
  have plain := Percent.isPlain_component id
  have first : Url.step Url.placeEscaped base front.toList = base ++ [front] := by
    rw [(Url.step_segment base frames.first).1, String.ofList_toList]
  rw [wordsOf, Url.resolve_cons, if_neg (List.cons_ne_nil _ _), first, spot]
  by_cases dot : id = "."
  · have noDots : Url.isDotDot (Percent.component id).toList = false := by
      rw [dot]
      decide
    rw [if_pos dot,
      Url.resolve_dot plain ((Url.isDot_component_iff id).mpr dot) noDots frames.others,
      List.append_assoc, List.singleton_append]
  rw [if_neg dot]
  by_cases dots : id = ".."
  · rw [if_pos dots,
      Url.resolve_dotDot plain ((Url.isDotDot_component_iff id).mpr dots) frames.others,
      Url.parent_concat frames.noDrive]
  rw [if_neg dots]
  have segments : ∀ word ∈ (Percent.component id).toList :: back.map String.toList,
      Url.IsSegment word := by
    intro word there
    rcases List.mem_cons.mp there with rfl | behind
    · exact (Url.isSegment_component_iff id).mpr ⟨dot, dots⟩
    · exact frames.others word behind
  have texts : (back.map String.toList).map String.ofList = back := by
    rw [List.map_map]
    exact List.map_id'' (fun _ => String.ofList_toList) back
  rw [Url.resolve_segments segments, List.map_cons, String.ofList_toList, texts, List.append_assoc,
    List.singleton_append]

/-! ### Where a call goes -/

/-- A call goes to this URL: it is the one of its request, and of all attempts
at it that are sent. -/
structure GoesTo (c : Client) (w : Session.Wish) (target : Url) : Prop where
  resolved : ∃ r, w = .send r ∧ r.url c.config = .ok target
  sent : ∀ {cookies actions s i attempt o phase},
    Session.run c { cookies := cookies } actions = some s →
    .sent (.caller i attempt) o ∈ s.history → s.callers[i]? = some ⟨w, phase⟩ → o.url = target

/-- What is sent of a request goes to its URL. -/
theorem GoesTo.of_url {c : Client} {r : Request} {target : Url}
    (resolved : r.url c.config = .ok target) : GoesTo c (.send r) target where
  resolved := ⟨r, rfl, resolved⟩
  sent := by
    intro cookies actions s i attempt o phase reached sent here
    obtain ⟨r', phase', here', source, id, built⟩ :=
      (Session.track_fits reached i).built_of_mem (Session.Track.mem_calls_iff.mpr sent)
    rw [here] at here'
    cases here'
    obtain ⟨url, headers, own, -, rfl⟩ := Request.build_eq_ok_iff.mp built
    rw [resolved] at own
    cases own
    rfl

/-- A call goes to one URL. -/
theorem GoesTo.unique {c : Client} {target target' : Url} (goes : GoesTo c w target)
    (goes' : GoesTo c w target') : target = target' := by
  obtain ⟨r, rfl, resolved⟩ := goes.resolved
  obtain ⟨r', same, resolved'⟩ := goes'.resolved
  cases same
  rw [resolved] at resolved'
  exact Except.ok.inj resolved'

/-- **A call about one thing goes to the spot of its identity**, on the machine of the base. -/
theorem Names.goesTo {c : Client} {base : List String} (names : Names w id front back)
    (web : c.config.baseUrl.IsWeb) (rooted : c.config.baseUrl.path = .rooted (base ++ [""])) :
    ∃ target, GoesTo c w target ∧ target.scheme = c.config.baseUrl.scheme ∧
      target.authority = c.config.baseUrl.authority ∧
      target.path = .rooted (base ++ spot front id back) := by
  obtain ⟨r, rfl, path⟩ := names.path
  have frames := names.frames
  obtain ⟨letter, rest, first⟩ : ∃ letter rest, front.toList = letter :: rest := by
    cases names <;> exact ⟨_, _, rfl⟩
  have plain := frames.isPlain id
  have spot := frames.resolve base id
  rw [wordsOf, first] at path plain spot
  have resolved := Config.endpoint_intercalate web rooted plain
  rw [List.dropLast_concat, spot, ← path] at resolved
  have target : r.url c.config = .ok (Url.addPairs
      { c.config.baseUrl with path := .rooted (base ++ Brokerage.spot front id back), query := none,
                              fragment := none } r.query) := by
    rw [Request.url, resolved]
    rfl
  refine ⟨_, .of_url target, ?_, ?_, ?_⟩ <;> rw [Url.addPairs_eq]

/-- Where a call about one thing goes: `base` is the path of the web address `url`, without
a slash at its end. -/
structure Placed (c : Client) (url : Url) (base : List String) (w : Session.Wish)
    (id front : String) (back : List String) (target : Url) : Prop where
  goes : GoesTo c w target
  scheme : target.scheme = url.scheme
  machine : target.authority = url.authority
  path : target.path = .rooted (base ++ spot front id back)
  /-- The identity is in a segment of its own, from which it is read back, exactly if it is neither
  empty nor a dot or two. -/
  segment : CanBeSegment id ↔ ∃ segment, spot front id back = front :: segment :: back ∧
    segment ≠ "" ∧ Percent.decode segment = Text.encode id
  /-- The path is then that of no call about another identity, and of none that has other words
  around the identity. -/
  alone : CanBeSegment id → ∀ w' id' front' back' target', Names w' id' front' back' →
    GoesTo c w' target' → target'.path = target.path → id' = id ∧ front' = front ∧ back' = back

/-- **Identities in paths.** The base of a client is a web address that was read from a text. Each
call about a lead or a listing goes, with all attempts at it that are ever sent, to the machine of
the base, and there to the spot of its identity below the path of the base. Unless the identity is
empty or a dot or two, this is a segment of its own between the words of the call, and no other
identity and no call with other words has the same path. -/
theorem identities_in_paths {c : Client} {text : String} {url : Url}
    (parsed : Url.parse text = .ok url) (web : url.scheme = "http" ∨ url.scheme = "https")
    (based : c.config.baseUrl = url.withTrailingSlash) :
    ∃ base, (url.path = .rooted base ∨ url.path = .rooted (base ++ [""])) ∧
      ∀ w id front back, Names w id front back →
        ∃ target, Placed c url base w id front back target := by
  obtain ⟨-, segments, -, path⟩ := Url.rooted_of_parse parsed web
  obtain ⟨base, rooted, same⟩ := Url.exists_withTrailingSlash web path
  rw [← based] at rooted
  have web' : c.config.baseUrl.IsWeb := by
    rw [based]
    exact web
  have here : url.path = .rooted base ∨ url.path = .rooted (base ++ [""]) := by
    rcases same with rfl | rfl
    · exact .inl path
    · exact .inr path
  refine ⟨base, here, fun w id front back names => ?_⟩
  obtain ⟨target, goes, scheme, authority, place⟩ := names.goesTo web' rooted
  rw [based] at scheme authority
  refine ⟨target, goes, scheme, authority, place, canBeSegment_iff, fun can => ?_⟩
  intro w' id' front' back' target' names' goes' shared
  obtain ⟨target'', goes'', -, -, place'⟩ := names'.goesTo web' rooted
  obtain rfl := goes'.unique goes''
  rw [place', place] at shared
  exact names.unique names' can (List.append_cancel_left (Url.Path.rooted.inj shared))

namespace Sample

/-- A backend below a path. -/
def backend : Url where
  scheme := "https"
  authority := some ⟨"", none, .named "app.example.com", none⟩
  path := .rooted ["api", "v1"]
  query := none
  fragment := none

theorem parse_backend : Url.parse "https://app.example.com/api/v1" = .ok backend := by
  with_unfolding_all rfl

/-- A client of it. -/
def client : Client where
  config := .ofUrl backend
  draw n := ⟨.ofNat n⟩
  detached := true

end Sample

/-- An identity that looks like a path with a query and a fragment is one segment. -/
theorem identities_in_paths_pathlike :
    ∃ target, GoesTo Sample.client (Listings.describe ⟨"../sync?x#é"⟩ {}).wish target ∧
      target.path = .rooted ["api", "v1", "listings", "..%2Fsync%3Fx%23%C3%A9", "generate"] := by
  obtain ⟨base, rooted | slashed, all⟩ :=
    identities_in_paths (c := Sample.client) Sample.parse_backend (.inr rfl) rfl
  · obtain ⟨target, placed⟩ := all _ _ _ _ (.description ⟨"../sync?x#é"⟩ {})
    have place : spot "listings" "../sync?x#é" ["generate"] =
        ["listings", "..%2Fsync%3Fx%23%C3%A9", "generate"] := by
      decide
    have path := placed.path
    rw [← Url.Path.rooted.inj rooted, place] at path
    exact ⟨target, placed.goes, path⟩
  · have last := congrArg List.getLast? (Url.Path.rooted.inj slashed)
    rw [List.getLast?_concat] at last
    exact absurd last (by decide)

/-- **Identities that are no segment.** A description of the listing with two dots for its
identity is asked for outside of all listings, the lead with two dots is the backend itself, and
the lead without an identity and the one with a dot for it are the same. -/
theorem identities_astray :
    Url.parse "https://app.example.com/api/v1" = .ok Sample.backend ∧
      (∀ wish, ((Listings.describeRequest ⟨".."⟩ wish).url Sample.client.config).map Url.write =
        .ok "https://app.example.com/api/v1/generate") ∧
      ((Call.get (Leads.path ⟨".."⟩)).url Sample.client.config).map Url.write =
        .ok "https://app.example.com/api/v1/" ∧
      ((Call.get (Leads.path ⟨""⟩)).url Sample.client.config).map Url.write =
        .ok "https://app.example.com/api/v1/leads/" ∧
      ((Call.get (Leads.path ⟨"."⟩)).url Sample.client.config).map Url.write =
        .ok "https://app.example.com/api/v1/leads/" := by
  refine ⟨Sample.parse_backend, fun wish => ?_, ?_, ?_, ?_⟩
  · show ((Sample.client.config.endpoint (Listings.path ⟨".."⟩ "generate")).map
      (·.addPairs [])).map Url.write = _
    decide
  all_goals decide

end Brokerage
