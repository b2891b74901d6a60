import Brokerage.Config
import Brokerage.Proofs.Text.Blank
import Brokerage.Proofs.Text.Parts
import Brokerage.Proofs.Url.Segment

/-!
# Words below a base

A relative path of plain words is resolved word by word: each of them is a segment behind those of
the base (`resolve_segments`), unless it stands for a place (`resolve_dot`, `resolve_dotDot`). All
else of the base stays as it is, and its query and its fragment are dropped
(`endpoint_intercalate`).

Whatever text a web address is read from, it has a machine and a path with a root
(`rooted_of_parse`), so with a slash at its end it is such a base.
-/

namespace Brokerage

namespace Url

open Percent (IsPlain plainChars)

variable {base url : Url} {segments : List String} {word : List Char} {words : List (List Char)}
  {c : Char}

/-! ### Words with slashes between them -/

theorem of_mem_intercalate (plain : ∀ word ∈ words, IsPlain word)
    (there : c ∈ ['/'].intercalate words) : c ∈ '/' :: plainChars := by
  induction words with
  | nil => cases there
  | cons word rest ih =>
    have here := plain word List.mem_cons_self
    have later := fun word there => plain word (List.mem_cons_of_mem _ there)
    cases rest with
    | nil =>
      rw [List.intercalate_singleton] at there
      exact List.mem_cons_of_mem _ (here c there)
    | cons next rest =>
      rw [List.intercalate_cons_cons, List.append_assoc, List.singleton_append, List.mem_append,
        List.mem_cons] at there
      rcases there with inside | rfl | after
      · exact List.mem_cons_of_mem _ (here c inside)
      · exact List.mem_cons_self
      · exact ih later after

theorem isSlash_of_mem_plainChars : ∀ c ∈ plainChars, isSlash true c = false :=
  Percent.forall_of_all (by decide)

/-- The segments are the words. -/
theorem splitOnP_intercalate (plain : ∀ word ∈ words, IsPlain word) (filled : words ≠ []) :
    (['/'].intercalate words).splitOnP (isSlash true) = words := by
  have unsplit (word : List Char) (there : word ∈ words) : ∀ c ∈ word, isSlash true c = false :=
    fun c inside => isSlash_of_mem_plainChars c (plain word there c inside)
  clear plain
  induction words with
  | nil => exact absurd rfl filled
  | cons word rest ih =>
    have here := unsplit word List.mem_cons_self
    cases rest with
    | nil => rw [List.intercalate_singleton, List.splitOnP_eq_singleton here]
    | cons next rest =>
      rw [List.intercalate_cons_cons, List.append_assoc, List.singleton_append,
        List.splitOnP_append_cons_of_forall_mem here '/' rfl,
        ih (List.cons_ne_nil _ _) fun word there => unsplit word (List.mem_cons_of_mem _ there)]

/-! ### Resolving them -/

theorem withoutBreaks_of_isPlain (plain : IsPlain word) : withoutBreaks word = word := by
  have all : ∀ c ∈ plainChars, isBreak c = false := Percent.forall_of_all (by decide)
  refine List.filter_eq_self.mpr fun c there => ?_
  rw [all c (plain c there)]
  rfl

/-- Segments after one of them: the next ones go behind it, but it depends on whether there are any
how a place is written. -/
theorem resolve_cons (place : Placing) (segments : List String) (word : List Char)
    (words : List (List Char)) :
    resolve place segments (word :: words) =
      if words = [] then lastStep place segments word
      else resolve place (step place segments word) words := by
  cases words with
  | nil => rfl
  | cons next rest => rfl

theorem step_segment (segments : List String) (segment : IsSegment word) :
    step placeEscaped segments word = segments ++ [String.ofList word] ∧
      lastStep placeEscaped segments word = segments ++ [String.ofList word] := by
  obtain ⟨plain, noDot, noDots⟩ := segment
  have placed : placeEscaped segments word = [String.ofList word] := by
    rw [placeEscaped, encodeSegment, Percent.encode_inPath_of_isPlain plain]
  rw [step, lastStep, withoutBreaks_of_isPlain plain, noDot, noDots, placed]
  exact ⟨rfl, rfl⟩

/-- **Words that stand for no place are segments.** -/
theorem resolve_segments (all : ∀ word ∈ words, IsSegment word) :
    resolve placeEscaped segments words = segments ++ words.map String.ofList := by
  induction words generalizing segments with
  | nil => exact (List.append_nil _).symm
  | cons word rest ih =>
    obtain ⟨between, last⟩ := step_segment segments (all word List.mem_cons_self)
    rw [resolve_cons]
    split
    · next alone =>
      rw [last, alone]
      rfl
    · rw [between, ih fun word there => all word (List.mem_cons_of_mem _ there), List.map_cons,
        List.append_assoc, List.singleton_append]

/-- What stands behind a place: a slash, if nothing else does. -/
def landing (words : List (List Char)) : List String :=
  if words = [] then [""] else words.map String.ofList

/-- **A dot is no segment**: what comes after it takes its place. -/
theorem resolve_dot (plain : IsPlain word) (dot : isDot word = true)
    (noDots : isDotDot word = false) (all : ∀ word ∈ words, IsSegment word) :
    resolve placeEscaped segments (word :: words) = segments ++ landing words := by
  rw [resolve_cons, step, lastStep, withoutBreaks_of_isPlain plain, dot, noDots, landing]
  split
  · rfl
  · exact resolve_segments all

/-- **Two dots are no segment either**: what comes after them takes the place of the
segment in front of them. -/
theorem resolve_dotDot (plain : IsPlain word) (dots : isDotDot word = true)
    (all : ∀ word ∈ words, IsSegment word) :
    resolve placeEscaped segments (word :: words) = parent segments ++ landing words := by
  rw [resolve_cons, step, lastStep, withoutBreaks_of_isPlain plain, dots, landing]
  split
  · rfl
  · exact resolve_segments all

/-- The place above a segment that is no drive. -/
theorem parent_concat {last : String} (noDrive : startsWithDrive last.toList = false) :
    parent (segments ++ [last]) = segments := by
  rw [parent, List.getLast?_concat]
  simp only [noDrive, Bool.false_eq_true, if_false, List.dropLast_concat]

/-! ### Reading them -/

/-- True of the schemes of web addresses. -/
def IsWeb (url : Url) : Prop := url.scheme = "http" ∨ url.scheme = "https"

theorem IsWeb.special (web : IsWeb url) : isSpecial url.scheme = true ∧ url.scheme ≠ "file" := by
  rcases web with same | same <;> rw [same] <;> decide

/-- A text that starts with neither a scheme nor a slash is resolved against
the path of the base. -/
theorem readWithoutScheme_of_letter {p : Pieces} {rest : List Char} (web : IsWeb base)
    (rooted : base.path = .rooted segments) (front : withoutBreaks p.front = c :: rest)
    (letter : isSlash true c = false) :
    readWithoutScheme base p =
      .ok (assemble base.scheme base.authority
        (readPath true segments.dropLast (c :: rest)) p) := by
  obtain ⟨special, noFile⟩ := web.special
  rw [readWithoutScheme]
  simp only [front, List.isEmpty_cons, Bool.false_and, Bool.false_eq_true, if_false, rooted,
    if_neg noFile, readRelative, letter, special]
  rfl

/-- **Plain words are resolved against the path of a web address.** All else of it stays as it is,
but its query and its fragment are dropped. -/
theorem join_intercalate (web : IsWeb base) (rooted : base.path = .rooted segments)
    (plain : ∀ part ∈ (c :: word) :: words, IsPlain part) :
    base.join (String.ofList (['/'].intercalate ((c :: word) :: words))) =
      .ok { base with
            path := .rooted (resolve placeEscaped segments.dropLast ((c :: word) :: words))
            query := none
            fragment := none } := by
  have all : ∀ c ∈ '/' :: plainChars, decide (c.toNat ≤ 0x20) = false ∧ isBreak c = false ∧
      c ∉ ['#', '?', ':'] :=
    Percent.forall_of_all (by decide)
  have letter : isSlash true c = false :=
    isSlash_of_mem_plainChars c (plain _ List.mem_cons_self c List.mem_cons_self)
  have known : ∀ d ∈ ['/'].intercalate ((c :: word) :: words), _ := fun d there =>
    all d (of_mem_intercalate plain there)
  have parts := splitOnP_intercalate plain (List.cons_ne_nil _ _)
  obtain ⟨rest, front⟩ : ∃ rest, ['/'].intercalate ((c :: word) :: words) = c :: rest := by
    cases words <;> exact ⟨_, rfl⟩
  generalize ['/'].intercalate ((c :: word) :: words) = text at *
  -- nothing is cut off, and no scheme is found
  have whole : stripped (String.ofList text) = text := by
    rw [stripped, String.toList_ofList]
    exact Text.stripBy_of_none fun d there => (known d there).1
  have absent (d : Char) (delimiter : d ∈ ['#', '?', ':']) : d ∉ text :=
    fun there => (known d there).2.2 delimiter
  have pieces : Pieces.ofChars text = ⟨text, none, none⟩ := by
    rw [Pieces.ofChars, Text.cut_of_not_mem (absent '#' (by decide))]
    simp only [Text.cut_of_not_mem (absent '?' (by decide)), Option.map_none]
  have noScheme : scheme? text = none := by
    rw [scheme?, Text.cut_of_not_mem (absent ':' (by decide))]
  have unbroken : withoutBreaks text = c :: rest := by
    rw [← front]
    exact List.filter_eq_self.mpr fun d there => by rw [(known d there).2.1]; rfl
  rw [join, readAgainst, whole]
  simp only [pieces, noScheme]
  rw [readWithoutScheme_of_letter web rooted unbroken letter, readPath, ← front, parts]
  rfl

end Url

namespace Config

variable {config : Config} {segments : List String} {word : List Char} {words : List (List Char)}
  {c : Char}

/-- **A path of plain words is resolved below the base.** -/
theorem endpoint_intercalate (web : config.baseUrl.IsWeb)
    (rooted : config.baseUrl.path = .rooted segments)
    (plain : ∀ part ∈ (c :: word) :: words, Percent.IsPlain part) :
    config.endpoint (String.ofList (['/'].intercalate ((c :: word) :: words))) =
      .ok { config.baseUrl with
            path := .rooted
              (Url.resolve Url.placeEscaped segments.dropLast ((c :: word) :: words))
            query := none
            fragment := none } := by
  have noSlash : ∀ c ∈ Percent.plainChars, (c == '/') = false :=
    Percent.forall_of_all (by decide)
  obtain ⟨rest, front⟩ : ∃ rest, ['/'].intercalate ((c :: word) :: words) = c :: rest := by
    cases words <;> exact ⟨_, rfl⟩
  have whole : (['/'].intercalate ((c :: word) :: words)).dropWhile (· == '/') =
      ['/'].intercalate ((c :: word) :: words) := by
    rw [front, List.dropWhile_cons_of_neg]
    simp [noSlash c (plain _ List.mem_cons_self c List.mem_cons_self)]
  rw [endpoint, String.toList_ofList, whole]
  exact Url.join_intercalate web rooted plain

end Config

namespace Url

variable {url : Url} {text : String}

/-! ### What is a base -/

theorem of_readAbsolute {scheme : String} {p : Pieces} {cs : List Char}
    (read : readAbsolute scheme p cs = .ok url) :
    url.scheme = scheme ∧
      ∃ authority segments, url.authority = some authority ∧ url.path = .rooted segments := by
  rw [readAbsolute] at read
  split at read
  · cases read
  · cases read
    exact ⟨rfl, _, _, rfl, rfl⟩

/-- A scheme that is not special stays the scheme. -/
theorem scheme_of_readOther {scheme : String} {p : Pieces} (read : readOther scheme p = .ok url) :
    url.scheme = scheme := by
  rw [readOther] at read
  split at read
  · exact (of_readAbsolute read).1
  · cases read
    rfl
  · cases read
    rfl

/-- Without a base, what is read as a file is one. -/
theorem scheme_of_readFileUrl {p : Pieces} (read : readFileUrl none p = .ok url) :
    url.scheme = "file" := by
  rw [readFileUrl] at read
  · split at read
    · cases read
    · cases read
      rfl
  · nofun

/-- A web address that is read without a base is read from its authority on. -/
theorem exists_readAbsolute_of_parse (parsed : parse text = .ok url) (web : IsWeb url) :
    ∃ scheme p cs, readAbsolute scheme p cs = .ok url := by
  obtain ⟨special, noFile⟩ := web.special
  rw [parse, readAgainst] at parsed
  simp only [Option.filter_none] at parsed
  split at parsed
  · next scheme cs here =>
    by_cases file : scheme = "file"
    · rw [if_pos file] at parsed
      exact absurd (scheme_of_readFileUrl parsed) noFile
    rw [if_neg file] at parsed
    split at parsed
    · rw [readSpecial, Option.filter_none] at parsed
      exact ⟨_, _, _, parsed⟩
    · next other =>
      rw [scheme_of_readOther parsed] at special
      exact absurd special other
  · cases parsed

/-- **Every web address that is read has a machine and a path with a root.** -/
theorem rooted_of_parse (parsed : parse text = .ok url) (web : IsWeb url) :
    ∃ authority segments, url.authority = some authority ∧ url.path = .rooted segments := by
  obtain ⟨scheme, p, cs, read⟩ := exists_readAbsolute_of_parse parsed web
  exact (of_readAbsolute read).2

/-- A web address gets an empty segment at the end of its path, if it has none there. -/
theorem path_withTrailingSlash {segments : List String} (web : IsWeb url)
    (rooted : url.path = .rooted segments) :
    url.withTrailingSlash.path =
      .rooted (if segments.getLast? = some "" then segments else segments ++ [""]) := by
  rw [withTrailingSlash, if_neg web.special.2, rooted]
  simp only [Path.withTrailingSlash, List.map_id, List.take_append_drop]
  split <;> rfl

/-- With a slash at its end, its last segment is empty. -/
theorem exists_withTrailingSlash {segments : List String} (web : IsWeb url)
    (rooted : url.path = .rooted segments) :
    ∃ front, url.withTrailingSlash.path = .rooted (front ++ [""]) ∧
      (segments = front ∨ segments = front ++ [""]) := by
  rw [path_withTrailingSlash web rooted]
  split
  · next last =>
    obtain ⟨front, rfl⟩ := List.getLast?_eq_some_iff.mp last
    exact ⟨front, rfl, .inr rfl⟩
  · exact ⟨segments, rfl, .inl rfl⟩

end Url

end Brokerage
