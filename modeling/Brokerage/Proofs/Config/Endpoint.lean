import Brokerage.Proofs.Url.Joining
import Brokerage.Proofs.Url.Written

/-!
# Paths of the interface

The path of a web address ends in a slash as a base, so a path of the interface is resolved below
it. Words of unreserved characters are segments as they are (`IsWord.isSegment`), so a path of
such words goes behind the path of the base, and nothing of the base is lost but its query and its
fragment (`endpoint_below`).
-/

namespace Brokerage

open Percent (plainChars)

/-! ### Words -/

/-- True of the characters that are nowhere a delimiter. -/
def IsUnreserved (c : Char) : Prop := c.isAlphanum = true ∨ c ∈ ['-', '_', '~', '.']

theorem IsUnreserved.plain {c : Char} (unreserved : IsUnreserved c) : c ∈ plainChars ∧ c ≠ '%' := by
  have letters : ∀ n < 128, (Char.ofNat n).isAlphanum = true →
      Char.ofNat n ∈ plainChars ∧ Char.ofNat n ≠ '%' := by
    decide +kernel
  have others : ∀ c ∈ ['-', '_', '~', '.'], c ∈ plainChars ∧ c ≠ '%' :=
    Percent.forall_of_all (by decide)
  rcases unreserved with letter | other
  · have small : c.toNat < 128 := by
      change ((decide (65 ≤ c.val ∧ c.val ≤ 90)) || (decide (97 ≤ c.val) && decide (c.val ≤ 122)) ||
        (decide (48 ≤ c.val) && decide (c.val ≤ 57))) = true at letter
      simp only [Bool.or_eq_true, Bool.and_eq_true, decide_eq_true_eq,
        UInt32.le_iff_toNat_le] at letter
      change ((65 ≤ c.toNat ∧ c.toNat ≤ 90) ∨ 97 ≤ c.toNat ∧ c.toNat ≤ 122) ∨
        48 ≤ c.toNat ∧ c.toNat ≤ 57 at letter
      omega
    have here := letters c.toNat small
    rw [Char.ofNat_toNat] at here
    exact here letter
  · exact others c other

/-- A text of unreserved characters that stands for no place. -/
structure IsWord (word : String) : Prop where
  filled : word ≠ ""
  noDot : word ≠ "."
  noDots : word ≠ ".."
  unreserved : ∀ c ∈ word.toList, IsUnreserved c

/-- No escape is among unreserved characters, and what is dots in small letters is dots. -/
theorem lower_eq_dots {cs : List Char} {dots : String} (unreserved : ∀ c ∈ cs, IsUnreserved c)
    (same : String.ofList (cs.map Char.toLower) = dots) :
    '%' ∉ dots.toList ∧ ((∀ c ∈ dots.toList, c = '.') → String.ofList cs = dots) := by
  have lower : ∀ c ∈ plainChars, c ≠ '%' → c.toLower ≠ '%' ∧ (c.toLower = '.' → c = '.') :=
    Percent.forall_of_all (by decide)
  have kept (c : Char) (there : c ∈ cs) : c.toLower ≠ '%' ∧ (c.toLower = '.' → c = '.') :=
    have plain := (unreserved c there).plain
    lower c plain.1 plain.2
  subst same
  simp only [String.toList_ofList, List.mem_map]
  constructor
  · rintro ⟨c, there, same⟩
    exact (kept c there).1 same
  · intro all
    congr 1
    refine (List.map_id'' (f := id) (fun _ => rfl) cs).symm.trans
      (List.map_congr_left fun c there => ?_)
    have dot : c.toLower = '.' := all _ ⟨c, there, rfl⟩
    exact ((kept c there).2 dot).trans dot.symm

theorem IsWord.isSegment {word : String} (isWord : IsWord word) : Url.IsSegment word.toList := by
  have dots {text : String} (same : String.ofList (word.toList.map Char.toLower) = text) :=
    lower_eq_dots isWord.unreserved same
  rw [String.ofList_toList] at dots
  refine ⟨fun c there => (isWord.unreserved c there).plain.1, ?_, ?_⟩
  · rw [Bool.eq_false_iff, Url.isDot, ne_eq, List.contains_iff_mem]
    simp only [List.mem_cons, List.not_mem_nil, or_false, not_or]
    refine ⟨fun same => isWord.noDot ((dots same).2 (Percent.forall_of_all (by decide))),
      fun same => ?_⟩
    exact (dots same).1 (by decide)
  · rw [Bool.eq_false_iff, Url.isDotDot, ne_eq, List.contains_iff_mem]
    simp only [List.mem_cons, List.not_mem_nil, or_false, not_or]
    exact ⟨fun same => isWord.noDots ((dots same).2 (Percent.forall_of_all (by decide))),
      fun same => (dots same).1 (by decide), fun same => (dots same).1 (by decide),
      fun same => (dots same).1 (by decide)⟩

/-! ### Bases -/

namespace Url

variable {url : Url} {text : String}

/-- The path of a base, as a text and as segments. -/
theorem base_of_parse (parsed : parse text = .ok url) (web : IsWeb url) :
    ∃ front, url.withTrailingSlash.path = .rooted (front ++ [""]) ∧
      (url.path = .rooted front ∨ url.path = .rooted (front ++ [""])) ∧
      writeSegments (front ++ [""]) = closed url.path.write := by
  obtain ⟨-, segments, -, rooted⟩ := rooted_of_parse parsed web
  have whole := whole_of_parse parsed rooted
  rw [path_withTrailingSlash web rooted, rooted]
  show ∃ front, _ ∧ _ ∧ _ = closed (writeSegments segments)
  split
  · next last =>
    obtain ⟨front, rfl⟩ := List.getLast?_eq_some_iff.mp last
    refine ⟨front, rfl, .inr rfl, ?_⟩
    rw [closed, if_pos (endsInSlash_concat front)]
  · next filled =>
    refine ⟨segments, rfl, .inl rfl, ?_⟩
    rw [closed, if_neg (not_endsInSlash whole filled), writeSegments_concat]

end Url

/-! ### Configurations -/

namespace Config

variable {url target : Url} {config : Config} {text : String} {words : List String}

/-- A configuration that was made for a base URL: the standard one, one from the environment, or one
of these with other settings. -/
inductive Given (url : Url) : Config → Prop where
  | standard : Given url (ofUrl url)
  | environment {lookup : String → Option String} {text : String} {config : Config}
      (named : lookup urlVariable = some text) (parsed : Url.parse text = .ok url)
      (accepted : ofLookup lookup = .ok config) : Given url config
  | changed {config : Config} (given : Given url config) (refreshPath loginPath csrfCookie : String)
      (timeouts : Timeouts) :
      Given url ⟨config.baseUrl, refreshPath, loginPath, csrfCookie, timeouts⟩

/-- Whatever else was set, the base is what `Url.withTrailingSlash` makes of the given URL. -/
theorem Given.baseUrl (given : Given url config) : config.baseUrl = url.withTrailingSlash := by
  induction given with
  | standard => rfl
  | @environment lookup text config named parsed accepted =>
    have read : readUrl lookup = .ok url := by
      unfold readUrl
      simp only [named, parsed]
    unfold ofLookup at accepted
    simp only [read] at accepted
    split at accepted
    · cases accepted
    split at accepted
    · cases accepted
    · cases accepted
      rfl
  | changed _ _ _ _ _ ih => exact ih

/-- A base that ends in a slash is its own base. -/
theorem withTrailingSlash_idem {front : List String} (rooted : url.path = .rooted (front ++ [""])) :
    url.withTrailingSlash = url := by
  unfold Url.withTrailingSlash
  rw [rooted, Url.Path.withTrailingSlash, if_pos List.getLast?_concat, ← rooted]

/-- `n` slashes in front of a path. -/
def behindSlashes (n : Nat) (path : String) : String :=
  String.ofList (List.replicate n '/') ++ path

/-- Slashes in front of a path do not count. -/
theorem endpoint_behindSlashes (config : Config) (n : Nat) (path : String) :
    config.endpoint (behindSlashes n path) = config.endpoint path := by
  have dropped : (behindSlashes n path).toList.dropWhile (· == '/') =
      path.toList.dropWhile (· == '/') := by
    unfold behindSlashes
    rw [String.toList_append, String.toList_ofList,
      List.dropWhile_append_of_pos fun c there => by rw [List.eq_of_mem_replicate there]; rfl]
  rw [endpoint, endpoint, dropped]

/-- `target` is where `words` lead from `url`: on the same machine, with the same account, below the
path of `url`. Nothing else of `url` is in it. -/
structure Below (url : Url) (words : List String) (target : Url) : Prop where
  scheme : target.scheme = url.scheme
  authority : target.authority = url.authority
  query : target.query = none
  fragment : target.fragment = none
  /-- The path as a text. -/
  written : target.path.write = Url.closed url.path.write ++ "/".intercalate words
  /-- The path by its segments: those of `url`, but for an empty one at the end, and the words. -/
  segments : ∃ front, (url.path = .rooted front ∨ url.path = .rooted (front ++ [""])) ∧
    target.path = .rooted (front ++ words)

/-- Words lead below a base. -/
theorem endpoint_words (parsed : Url.parse text = .ok url) (web : url.IsWeb)
    (base : config.baseUrl = url.withTrailingSlash) (filled : words ≠ [])
    (all : ∀ word ∈ words, IsWord word) :
    ∃ target, config.endpoint ("/".intercalate words) = .ok target ∧ Below url words target := by
  obtain ⟨front, rooted, old, written⟩ := Url.base_of_parse parsed web
  have segments : ∀ word ∈ words.map String.toList, Url.IsSegment word := by
    simp only [List.mem_map]
    rintro _ ⟨word, there, rfl⟩
    exact (all word there).isSegment
  obtain ⟨c, word, rest, cut⟩ : ∃ c word rest, words.map String.toList = (c :: word) :: rest := by
    obtain ⟨first, rest, rfl⟩ := List.exists_cons_of_ne_nil filled
    obtain ⟨c, word, letters⟩ := List.exists_cons_of_ne_nil
      fun empty => (all first List.mem_cons_self).filled (String.toList_eq_nil_iff.mp empty)
    exact ⟨c, word, rest.map String.toList, by rw [List.map_cons, letters]⟩
  have there : config.baseUrl.path = .rooted (front ++ [""]) := by rw [base, rooted]
  have webBase : config.baseUrl.IsWeb := by rw [base]; exact web
  have resolved := endpoint_intercalate webBase there fun part inside =>
    (segments part (cut ▸ inside)).1
  have slashed : ['/'].intercalate (words.map String.toList) = ("/".intercalate words).toList :=
    (@String.toList_intercalate "/" words).symm
  rw [← cut, slashed, String.ofList_toList, List.dropLast_concat,
    Url.resolve_segments segments] at resolved
  have back : (words.map String.toList).map String.ofList = words := by simp
  rw [back] at resolved
  refine ⟨_, resolved, ?_⟩
  rw [base]
  constructor
  · rfl
  · rfl
  · rfl
  · rfl
  · show Url.writeSegments (front ++ words) = _
    rw [← written, Url.writeSegments_append, Url.writeSegments_append front,
      Url.writeSegments_eq filled, Url.writeSegments_empty, String.append_assoc]
  · exact ⟨front, old, rfl⟩

/-- **Words lead below the base, however many slashes are in front of them.** What the base has
besides its path stays, but for its query and its fragment. Slashes in front of a path never count,
and the base of a configuration is its own base. -/
theorem endpoint_below (parsed : Url.parse text = .ok url) (web : url.IsWeb)
    (given : Given url config) :
    (∀ n words, words ≠ [] → (∀ word ∈ words, IsWord word) →
      ∃ target, config.endpoint (behindSlashes n ("/".intercalate words)) = .ok target ∧
        Below url words target) ∧
      (∀ n path, config.endpoint (behindSlashes n path) = config.endpoint path) ∧
      (ofUrl config.baseUrl).baseUrl = config.baseUrl ∧
      ofUrl (ofUrl url).baseUrl = ofUrl url := by
  have idem : url.withTrailingSlash.withTrailingSlash = url.withTrailingSlash := by
    obtain ⟨front, rooted, -⟩ := Url.base_of_parse parsed web
    exact withTrailingSlash_idem rooted
  refine ⟨?_, config.endpoint_behindSlashes, ?_, ?_⟩
  · intro n words filled all
    rw [endpoint_behindSlashes]
    exact endpoint_words parsed web given.baseUrl filled all
  · show config.baseUrl.withTrailingSlash = config.baseUrl
    rw [given.baseUrl, idem]
  · unfold ofUrl
    simp only [idem]

namespace Sample

/-- A base with all that a URL may have. -/
def base : Url where
  scheme := "http"
  authority := some ⟨"ann", some "x", .named "h", some 8080⟩
  path := .rooted ["api", "v1"]
  query := some "q"
  fragment := some "f"

end Sample

/-- One path below it. -/
theorem endpoint_below_sample :
    ∃ target, (ofUrl Sample.base).endpoint (behindSlashes 2 ("/".intercalate ["leads", "a.b"])) =
        .ok target ∧
      target.write = "http://ann:x@h:8080/api/v1/leads/a.b" := by
  have parsed : Url.parse "http://ann:x@h:8080/api/v1?q#f" = .ok Sample.base := by
    with_unfolding_all rfl
  have all : ∀ word ∈ ["leads", "a.b"], IsWord word := by
    have words : ∀ word ∈ ["leads", "a.b"], word ≠ "" ∧ word ≠ "." ∧ word ≠ ".." ∧
        word.toList.all (fun c => c.isAlphanum || ['-', '_', '~', '.'].contains c) := by
      decide
    intro word there
    obtain ⟨filled, noDot, noDots, unreserved⟩ := words word there
    exact ⟨filled, noDot, noDots, by simpa [IsUnreserved] using unreserved⟩
  obtain ⟨target, found, below⟩ :=
    (endpoint_below parsed (.inl rfl) .standard).1 2 _ (List.cons_ne_nil _ _) all
  refine ⟨target, found, ?_⟩
  obtain ⟨front, path | path, leads⟩ := below.segments
  · obtain rfl := Url.Path.rooted.inj path
    unfold Url.write Url.writeAuthority
    rw [below.scheme, below.authority, below.query, below.fragment, leads]
    decide
  · have last := congrArg List.getLast? (Url.Path.rooted.inj path)
    rw [List.getLast?_concat] at last
    exact absurd (Option.some.inj last) (by decide)

end Config

end Brokerage
