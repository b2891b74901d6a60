import Brokerage.Proofs.Url.Joining

/-!
# Paths as texts

A URL keeps its path in segments, and what is said of paths is often said of their texts. The two
agree because no slash is inside a segment of a URL that was read (`whole_of_parse`), whatever its
scheme: parts of a text are cut at slashes, and nothing that is escaped or settled afterwards makes
one. So a path ends in a slash as a text exactly if its last segment is empty (`endsInSlash_concat`,
`not_endsInSlash`), and to put a slash at its end is to add an empty segment
(`closes_withTrailingSlash`).
-/

namespace Brokerage.Url

/-! ### Whole segments -/

variable {url : Url} {text : String} {segments : List String} {segment cs : List Char}
  {place : Placing}

/-- True of a segment that no slash divides. -/
def Whole (segment : String) : Prop := '/' ∉ segment.toList

/-- A slash is never escaped and comes from no escape. -/
theorem whole_encodeSegment (noSlash : '/' ∉ segment) : Whole (encodeSegment segment) := by
  have from_ : ∀ b, '/' ∈ Percent.encodeByte Percent.inPath b → b = 0x2F :=
    Text.forall_byte (by decide +kernel)
  intro there
  rw [encodeSegment, Percent.encode, String.toList_ofList] at there
  obtain ⟨b, inside, slash⟩ := List.mem_flatMap.mp there
  obtain rfl := from_ b slash
  obtain ⟨c, there, same⟩ := (Text.mem_encode_iff _ (by decide)).mp inside
  rw [String.toList_ofList] at there
  have value : c.toNat = '/'.toNat := same
  exact noSlash (Char.toNat_inj.mp value ▸ there)

theorem whole_parent (all : ∀ s ∈ segments, Whole s) : ∀ s ∈ parent segments, Whole s := by
  rw [parent]
  split
  · split
    · exact all
    · exact fun s there => all s (List.dropLast_subset _ there)
  · exact List.forall_mem_nil _

/-- True of a way to place segments that puts no slash into them. -/
def Wholly (place : Placing) : Prop :=
  ∀ segments part, '/' ∉ part → ∀ s ∈ place segments part, Whole s

theorem whole_append {front back : List String} (whole : ∀ s ∈ front, Whole s)
    (more : ∀ s ∈ back, Whole s) : ∀ s ∈ front ++ back, Whole s := by
  intro s there
  rcases List.mem_append.mp there with inFront | inBack
  · exact whole s inFront
  · exact more s inBack

theorem whole_empty : ∀ s ∈ [""], Whole s := by
  rw [List.forall_mem_singleton, Whole]
  decide

/-- Whole segments are resolved to whole ones. -/
theorem whole_resolve {parts : List (List Char)} (wholly : Wholly place)
    (all : ∀ s ∈ segments, Whole s) (noSlash : ∀ part ∈ parts, '/' ∉ part) :
    ∀ s ∈ resolve place segments parts, Whole s := by
  induction parts generalizing segments with
  | nil => exact all
  | cons part rest ih =>
    have placed := whole_append all (wholly segments part (noSlash part List.mem_cons_self))
    rw [resolve_cons]
    split
    · rw [lastStep]
      split
      · exact whole_append (whole_parent all) whole_empty
      split
      · exact whole_append all whole_empty
      · exact placed
    · refine ih ?_ fun part there => noSlash part (List.mem_cons_of_mem _ there)
      rw [step]
      split
      · exact whole_parent all
      split
      · exact all
      · exact placed

/-- No slash is inside the parts between slashes. -/
theorem not_mem_of_mem_segments {special : Bool} {part : List Char}
    (there : part ∈ cs.splitOnP (isSlash special)) : '/' ∉ part := by
  intro slash
  have apart := Text.of_mem_splitOnP there '/' slash
  cases apart

theorem wholly_placeEscaped : Wholly placeEscaped := by
  intro segments part noSlash
  rw [placeEscaped, List.forall_mem_singleton]
  exact whole_encodeSegment noSlash

theorem whole_readPath (special : Bool) (cs : List Char) : ∀ s ∈ readPath special [] cs, Whole s :=
  whole_resolve wholly_placeEscaped nofun fun _ there => not_mem_of_mem_segments there

theorem whole_readPathAfter (special : Bool) (cs : List Char) :
    ∀ s ∈ readPathAfter special cs, Whole s := by
  unfold readPathAfter
  split
  · exact nofun
  · exact whole_readPath special _

/-! ### Segments of files -/

theorem whole_writeDrive {letter : Char} (other : letter ≠ '/') : Whole (writeDrive letter) := by
  rw [Whole, writeDrive, String.toList_ofList, List.mem_cons, List.mem_singleton]
  rintro (slash | slash)
  · exact other slash.symm
  · exact absurd slash (by decide)

/-- Settling a drive changes nothing but its last character. -/
theorem whole_settleDrive {segment : String} (whole : Whole segment) :
    Whole (settleDrive segment) := by
  unfold settleDrive
  split
  · refine whole_writeDrive fun slash => whole ?_
    rw [← slash]
    cases letters : segment.toList with
    | nil =>
      rw [letters] at slash
      exact absurd slash (by decide)
    | cons c rest => exact List.mem_cons_self
  · exact whole

/-- What is cut off from a drive, and its letter, are in the text that it is cut off from. -/
theorem mem_of_cutDrive? {letter : Char} {rest : List Char}
    (cut : cutDrive? cs = some (letter, rest)) : letter ∈ cs ∧ ∀ c ∈ rest, c ∈ cs := by
  have inside : ∀ {ds : List Char}, ∀ c ∈ skipBreaks ds, c ∈ ds := fun c there =>
    (List.dropWhile_suffix _).subset there
  unfold cutDrive? at cut
  split at cut
  · cases cut
  · next first behind front =>
    have here : ∀ c ∈ first :: behind, c ∈ cs := fun c there => inside c (front ▸ there)
    split at cut
    · next c behind' colon =>
      dsimp only at cut
      split at cut
      · cases cut
        refine ⟨here _ List.mem_cons_self, fun d there => here d (List.mem_cons_of_mem _ ?_)⟩
        refine inside d (colon ▸ List.mem_cons_of_mem _ (List.mem_cons_of_mem _ ?_))
        exact List.mem_of_mem_filter there
      · cases cut
    · cases cut

/-- A drive is whole as well, however it was written. -/
theorem wholly_placeFile : Wholly placeFile := by
  intro segments part noSlash
  have unbroken : '/' ∉ withoutBreaks part := fun there => noSlash (List.mem_of_mem_filter there)
  have escaped := whole_encodeSegment unbroken
  rw [placeFile]
  split
  · split
    · next letter rest cut =>
      obtain ⟨first, behind⟩ := mem_of_cutDrive? cut
      rw [List.forall_mem_cons, List.forall_mem_singleton]
      constructor
      · refine whole_writeDrive ?_
        rintro rfl
        exact noSlash first
      · exact whole_encodeSegment fun there => noSlash (behind _ there)
    · rw [List.forall_mem_singleton]
      exact whole_settleDrive escaped
  · rw [List.forall_mem_singleton]
    exact escaped

theorem whole_readFilePath (cs : List Char) : ∀ s ∈ readFilePath [] cs, Whole s := by
  have resolved : ∀ s ∈ resolve placeFile [] (splitPath cs), Whole s :=
    whole_resolve wholly_placeFile nofun fun _ there => not_mem_of_mem_segments there
  unfold readFilePath
  split
  · exact whole_empty
  · intro s there
    exact resolved s ((List.dropWhile_suffix _).subset there)

/-- Where no file is the base, a file's path starts at the root. -/
theorem exists_readFilePath {authority : Authority} {path : List String}
    (read : readFile none cs = .ok (authority, path)) : ∃ cs, path = readFilePath [] cs := by
  have fromRoot (machine : Authority) (cs : List Char) :
      (readFromRoot machine [] cs).2 = readFilePath [] cs := by
    unfold readFromRoot driveOf
    split <;> rfl
  unfold readFile at read
  simp only [Option.map_none, Option.getD_none, Option.bind_none] at read
  split at read
  · cases read
    exact ⟨_, rfl⟩
  split at read
  · split at read
    · have same := congrArg Prod.snd (Except.ok.inj read)
      exact ⟨_, same.symm.trans (fromRoot _ _)⟩
    split at read
    · unfold readFileHost at read
      dsimp only at read
      split at read
      · cases read
        exact ⟨_, rfl⟩
      split at read
      · cases read
        exact ⟨_, rfl⟩
      split at read
      · cases read
      split at read
      · cases read
        exact ⟨_, rfl⟩
      split at read
      · cases read
        exact ⟨_, rfl⟩
      · cases read
        exact ⟨_, rfl⟩
    · have same := congrArg Prod.snd (Except.ok.inj read)
      exact ⟨_, same.symm.trans (fromRoot _ _)⟩
  split at read
  · cases read
    exact ⟨_, rfl⟩
  split at read
  · cases read
    exact ⟨_, rfl⟩
  · cases read
    exact ⟨_, rfl⟩

/-! ### Segments of a URL -/

theorem whole_of_readAbsolute {scheme : String} {p : Pieces}
    (read : readAbsolute scheme p cs = .ok url) (rooted : url.path = .rooted segments) :
    ∀ s ∈ segments, Whole s := by
  unfold readAbsolute at read
  split at read
  · cases read
  · cases read
    cases rooted
    exact whole_readPathAfter _ _

/-- **No slash is inside a segment of a URL that was read.** -/
theorem whole_of_parse (parsed : parse text = .ok url) (rooted : url.path = .rooted segments) :
    ∀ s ∈ segments, Whole s := by
  unfold parse readAgainst at parsed
  simp only [Option.filter_none] at parsed
  split at parsed
  · split at parsed
    · rw [readFileUrl] at parsed
      · split at parsed
        · cases parsed
        · next read =>
          cases parsed
          cases rooted
          obtain ⟨cs, rfl⟩ := exists_readFilePath read
          exact whole_readFilePath cs
      · intro base _ absent
        cases absent
    split at parsed
    · rw [readSpecial, Option.filter_none] at parsed
      exact whole_of_readAbsolute parsed rooted
    · unfold readOther at parsed
      split at parsed
      · exact whole_of_readAbsolute parsed rooted
      · cases parsed
        cases rooted
        exact whole_readPath _ _
      · cases parsed
        cases rooted
  · cases parsed

/-! ### Paths as texts -/

/-- True of a text that ends in a slash. -/
def EndsInSlash (path : String) : Prop := path.toList.getLast? = some '/'

instance (path : String) : Decidable (EndsInSlash path) :=
  inferInstanceAs (Decidable (path.toList.getLast? = some '/'))

/-- A text with a slash at its end, if it has none. -/
def closed (path : String) : String :=
  if EndsInSlash path then path else path ++ "/"

theorem writeSegments_append (front back : List String) :
    writeSegments (front ++ back) = writeSegments front ++ writeSegments back := by
  unfold writeSegments
  rw [List.map_append, String.join_append]

theorem writeSegments_empty : writeSegments [""] = "/" := by decide

/-- Segments are written with slashes between them, and one in front of the first of them. -/
theorem writeSegments_eq {words : List String} (filled : words ≠ []) :
    writeSegments words = "/" ++ "/".intercalate words := by
  induction words with
  | nil => exact absurd rfl filled
  | cons word rest ih =>
    have first : writeSegments (word :: rest) = "/" ++ word ++ writeSegments rest := by
      unfold writeSegments
      rw [List.map_cons, String.join_cons]
    rw [first]
    cases rest with
    | nil => simp [writeSegments]
    | cons next rest =>
      rw [ih (List.cons_ne_nil _ _), String.intercalate_cons_cons]
      simp only [String.append_assoc]

theorem writeSegments_concat (front : List String) :
    writeSegments (front ++ [""]) = writeSegments front ++ "/" := by
  rw [writeSegments_append, writeSegments_empty]

/-- A path whose last segment is empty ends in a slash. -/
theorem endsInSlash_concat (front : List String) : EndsInSlash (writeSegments (front ++ [""])) := by
  rw [EndsInSlash, writeSegments_concat, String.toList_append]
  exact List.getLast?_concat

/-- A path whose last segment is not empty does not: the segment ends in another character. -/
theorem not_endsInSlash (all : ∀ s ∈ segments, Whole s) (filled : segments.getLast? ≠ some "") :
    ¬ EndsInSlash (writeSegments segments) := by
  rcases List.eq_nil_or_concat segments with rfl | ⟨front, last, rfl⟩
  · decide
  rw [List.concat_eq_append] at all filled ⊢
  rw [List.getLast?_concat] at filled
  have whole : Whole last := all last (by simp)
  have nonempty : last.toList ≠ [] :=
    fun empty => filled (by rw [String.toList_eq_nil_iff.mp empty])
  rw [EndsInSlash, writeSegments_append, writeSegments_eq (List.cons_ne_nil _ _),
    String.intercalate_singleton]
  simp only [String.toList_append]
  rw [← List.append_assoc, List.getLast?_append_of_ne_nil _ nonempty]
  exact fun slash => whole (List.mem_of_getLast? slash)

/-! ### Trailing slashes -/

/-- `base` is `url` with a slash at the end of its path, and nothing else of it is changed, but
for two sorts of paths: a drive at the start of a file's path gets its colon, and where there is
no text to put a slash behind, the slash is escaped. -/
inductive Closes (url : Url) : Url → Prop where
  | kept (ends : EndsInSlash url.path.write) : Closes url url
  | added {path : Path} (text : url.path ≠ .rootless "") (noEnd : ¬ EndsInSlash url.path.write)
      (written : path.write = url.path.write ++ "/") : Closes url { url with path := path }
  | settled {first : String} {rest : List String} (file : url.scheme = "file")
      (rooted : url.path = .rooted (first :: rest)) (drive : settleDrive first ≠ first)
      (noEnd : ¬ EndsInSlash url.path.write) :
      Closes url { url with path := .rooted (settleDrive first :: rest ++ [""]) }
  | escaped (nothing : url.path = .rootless "") : Closes url { url with path := .rootless "%2F" }

/-- **A URL that was read gets a slash at its end, if it has none.** -/
theorem closes_withTrailingSlash (parsed : parse text = .ok url) :
    Closes url url.withTrailingSlash := by
  unfold withTrailingSlash
  cases path : url.path with
  | rootless text =>
    unfold Path.withTrailingSlash
    dsimp only
    split
    · next nothing => exact .escaped (by rw [path, nothing])
    split
    · next ends =>
      rw [← path]
      exact .kept (by rwa [path])
    · next filled noEnd =>
      refine .added ?_ (by rwa [path]) (by rw [path]; rfl)
      rw [path]
      exact fun same => filled (Path.rootless.inj same)
  | rooted segments =>
    have whole := whole_of_parse parsed path
    unfold Path.withTrailingSlash
    dsimp only
    split
    · next last =>
      obtain ⟨front, rfl⟩ := List.getLast?_eq_some_iff.mp last
      rw [← path]
      refine .kept ?_
      rw [path]
      exact endsInSlash_concat front
    · next filled =>
      have noEnd : ¬ EndsInSlash url.path.write := by
        rw [path]
        exact not_endsInSlash whole filled
      -- whatever becomes of the first segment: if it stays, a slash is all that is new
      generalize kept : (if url.scheme = "file" then settleDrive else id) = settle
      by_cases same : (segments.take 1).map settle = segments.take 1
      · rw [same, List.take_append_drop]
        refine .added (by rw [path]; nofun) noEnd ?_
        rw [path]
        exact writeSegments_concat segments
      · have file : url.scheme = "file" := by
          by_contra other
          rw [if_neg other] at kept
          exact same (kept ▸ List.map_id _)
        rw [if_pos file] at kept
        subst kept
        cases segments with
        | nil => exact absurd rfl same
        | cons first rest =>
          refine .settled file path (fun plain => same ?_) noEnd
          simp [plain]

end Brokerage.Url
