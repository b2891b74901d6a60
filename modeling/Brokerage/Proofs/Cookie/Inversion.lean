import Brokerage.Proofs.Cookie.Header
import Brokerage.Proofs.Lookup

/-!
# Reading a list of cookies back

A header is cut at its semicolons, and each piece is read for itself. There are two sorts of
pieces: one is written for a pair, with any blanks around its name and its value (`Spells`),
and any other one has no equals sign or no name in front of it (`Debris`,
`pair?_eq_none_iff`). The latter are skipped, so a header holds the pairs that its pieces are
written for (`pairsIn_joined`).

In particular, listing pairs and reading the list give the same pairs back, exactly if they have
names and values that pairs can have (`pairsIn_assemble_iff`). And a look-up in the list is one
among the pairs (`found_in_header`).
-/

namespace Brokerage.Cookie

variable {cs piece : List Char} {pieces : List (List Char)} {cookies : List (String × String)}
  {name value : String}

/-! ### Pieces -/

/-- A name without blanks and delimiters is one that a pair can have. -/
theorem Listable.of_unbroken (named : name ≠ "")
    (unbroken : ∀ c ∈ name.toList, Text.isBlank c = false ∧ c ≠ '=' ∧ c ≠ ';')
    (valueEnds : Text.Ends Text.isBlank value.toList) (valueHolds : ';' ∉ value.toList) :
    Listable name value where
  named := named
  nameEnds := ⟨fun c first => (unbroken c (List.mem_of_head? first)).1,
    fun c last => (unbroken c (List.mem_of_getLast? last)).1⟩
  nameHolds := ⟨fun there => (unbroken _ there).2.1 rfl, fun there => (unbroken _ there).2.2 rfl⟩
  valueEnds := valueEnds
  valueHolds := valueHolds

/-- The ways to write a pair: with blanks around its name and its value, or without. -/
inductive Spells (name value : String) : List Char → Prop where
  | intro {a b c d : List Char} (blank : ∀ x ∈ a ++ b ++ (c ++ d), Text.isBlank x = true) :
      Spells name value ((a ++ name.toList ++ b) ++ '=' :: (c ++ value.toList ++ d))

/-- A pair without any blanks. -/
theorem Spells.written (name value : String) : Spells name value (writePair name value) := by
  have spells : Spells name value
      (([] ++ name.toList ++ []) ++ '=' :: ([] ++ value.toList ++ [])) := .intro nofun
  simpa [writePair] using spells

/-- What is no way to write a pair: there is no equals sign, or there are only blanks in front of
the first one. The empty piece has no equals sign. -/
inductive Debris : List Char → Prop where
  | unsigned {cs : List Char} (noSign : '=' ∉ cs) : Debris cs
  | nameless {front : List Char} (blank : ∀ c ∈ front, Text.isBlank c = true) (back : List Char) :
      Debris (front ++ '=' :: back)

/-- A blank is no delimiter. -/
theorem not_mem_of_blank (blank : ∀ c ∈ cs, Text.isBlank c = true) : '=' ∉ cs ∧ ';' ∉ cs := by
  constructor
  · intro there
    exact absurd (blank _ there) (by decide)
  · intro there
    exact absurd (blank _ there) (by decide)

/-- Blanks around a text do not count. -/
theorem trimmed_padded {front back : List Char} {s : String}
    (inFront : ∀ c ∈ front, Text.isBlank c = true) (inBack : ∀ c ∈ back, Text.isBlank c = true)
    (ends : Text.Ends Text.isBlank s.toList) : trimmed (front ++ s.toList ++ back) = s := by
  rw [← String.toList_inj, toList_trimmed, Text.stripBy_padded inFront inBack,
    Text.stripBy_of_ends ends]

/-- **A pair is read in whatever way it is written.** -/
theorem pair?_of_spells (listable : Listable name value) (spells : Spells name value piece) :
    pair? piece = some (name, value) := by
  obtain @⟨a, b, c, d, blank⟩ := spells
  simp only [List.forall_mem_append] at blank
  obtain ⟨⟨inA, inB⟩, inC, inD⟩ := blank
  have noSign : '=' ∉ a ++ name.toList ++ b := by
    simp only [List.mem_append, not_or]
    exact ⟨⟨(not_mem_of_blank inA).1, listable.nameHolds.1⟩, (not_mem_of_blank inB).1⟩
  rw [pair?, Text.cut_append_cons noSign]
  dsimp only
  rw [trimmed_padded inA inB listable.nameEnds, trimmed_padded inC inD listable.valueEnds,
    if_neg listable.named]

/-- No semicolon is in what is written for a pair. -/
theorem whole_of_spells (listable : Listable name value) (spells : Spells name value piece) :
    ';' ∉ piece := by
  obtain @⟨a, b, c, d, blank⟩ := spells
  simp only [List.forall_mem_append] at blank
  obtain ⟨⟨inA, inB⟩, inC, inD⟩ := blank
  simp only [List.mem_append, List.mem_cons, not_or]
  exact ⟨⟨⟨(not_mem_of_blank inA).2, listable.nameHolds.2⟩, (not_mem_of_blank inB).2⟩, by decide,
    ⟨(not_mem_of_blank inC).2, listable.valueHolds⟩, (not_mem_of_blank inD).2⟩

theorem trimmed_eq_empty_iff : trimmed cs = "" ↔ ∀ c ∈ cs, Text.isBlank c = true := by
  rw [← String.toList_inj, toList_trimmed]
  exact Text.stripBy_eq_nil_iff

/-- **What is not read as a pair is no way to write one.** -/
theorem pair?_eq_none_iff : pair? cs = none ↔ Debris cs := by
  constructor
  · intro unread
    rw [pair?] at unread
    split at unread
    · next front back split =>
      obtain ⟨-, rfl⟩ := Text.of_cut_eq_some split
      split at unread
      · next nameless => exact .nameless (trimmed_eq_empty_iff.mp nameless) back
      · cases unread
    · next front split =>
      refine .unsigned fun there => ?_
      obtain ⟨bs, as, rfl, absent⟩ := List.eq_append_cons_of_mem there
      rw [Text.cut_append_cons absent] at split
      cases split
  · rintro (absent | ⟨blank, back⟩)
    · rw [pair?, Text.cut_of_not_mem absent]
    · rw [pair?, Text.cut_append_cons (not_mem_of_blank blank).1]
      exact if_pos (trimmed_eq_empty_iff.mpr blank)

/-! ### Headers -/

/-- Pieces with a separator between them. -/
def joined (separator : List Char) (pieces : List (List Char)) : String :=
  String.ofList (List.intercalate separator pieces)

/-- The pieces are written for these cookies, and some may be written for none. -/
inductive Carries : List (List Char) → List (String × String) → Prop where
  | nil : Carries [] []
  | pair {piece : List Char} {pieces : List (List Char)} {cookies : List (String × String)}
      {name value : String} (spells : Spells name value piece) (later : Carries pieces cookies) :
      Carries (piece :: pieces) ((name, value) :: cookies)
  | debris {piece : List Char} {pieces : List (List Char)} {cookies : List (String × String)}
      (debris : Debris piece) (whole : ';' ∉ piece) (later : Carries pieces cookies) :
      Carries (piece :: pieces) cookies

/-- Each piece is read for itself. -/
theorem Carries.filterMap_pair? (carries : Carries pieces cookies)
    (listable : ∀ c ∈ cookies, Listable c.1 c.2) :
    pieces.filterMap pair? = cookies ∧ ∀ piece ∈ pieces, ';' ∉ piece := by
  induction carries with
  | nil => exact ⟨rfl, nofun⟩
  | pair spells later ih =>
    obtain ⟨here, rest⟩ := List.forall_mem_cons.mp listable
    obtain ⟨read, whole⟩ := ih rest
    refine ⟨?_, List.forall_mem_cons.mpr ⟨whole_of_spells here spells, whole⟩⟩
    rw [List.filterMap_cons_some (pair?_of_spells here spells), read]
  | debris debris here later ih =>
    obtain ⟨read, whole⟩ := ih listable
    refine ⟨?_, List.forall_mem_cons.mpr ⟨here, whole⟩⟩
    rw [List.filterMap_cons_none (pair?_eq_none_iff.mpr debris), read]

/-- **Joined pieces hold the pairs of each piece**, whether a space is behind
the semicolons or not. -/
theorem pairsIn_joined (whole : ∀ piece ∈ pieces, ';' ∉ piece) :
    pairsIn (joined [';', ' '] pieces) = pieces.filterMap pair? ∧
      pairsIn (joined [';'] pieces) = pieces.filterMap pair? := by
  constructor
  · rw [pairsIn, joined, String.toList_ofList, filterMap_pair?_intercalate whole]
  · rw [pairsIn, joined, String.toList_ofList]
    by_cases empty : pieces = []
    · rw [empty]
      decide
    · rw [List.splitOn_intercalate ';' whole empty]

/-- **Pairs are read as they were listed exactly if they have names and values
that pairs can have.** -/
theorem pairsIn_assemble_iff :
    pairsIn (assemble cookies) = cookies ↔ ∀ c ∈ cookies, Listable c.1 c.2 := by
  refine ⟨fun same c there => ?_, pairsIn_assemble⟩
  rw [← same, pairsIn, List.mem_filterMap] at there
  obtain ⟨piece, part, read⟩ := there
  exact listable_of_pair? (Text.not_mem_of_mem_splitOn part) read

/-! ### Looking names up -/

/-- **A look-up in a header is one among its pairs**, and an empty value is none. -/
theorem inHeader?_eq (header name : String) :
    inHeader? header name = ((pairsIn header).lookup name).filter (· ≠ "") := by
  show ((pairsIn header).find? (·.1 == name)).bind _ = _
  induction pairsIn header with
  | nil => rfl
  | cons pair rest ih =>
    rw [lookup_cons, List.find?_cons]
    by_cases same : name = pair.1
    · rw [if_pos same, same, beq_self_eq_true, Option.filter_some]
      by_cases empty : pair.2 = "" <;> simp [empty]
    · rw [if_neg same, beq_false_of_ne (Ne.symm same)]
      exact ih

/-- What is found under a name in headers that hold some cookies. -/
structure Found (cookies : List (String × String)) (name : String) : Prop where
  /-- In a list of the cookies, the value of the first one that has exactly this name is found, and
  nothing if there is none or if its value is empty. -/
  listed : inHeader? (assemble cookies) name = (cookies.lookup name).filter (· ≠ "")
  /-- The same is found however the cookies are spaced, and whatever stands
  between them that is none. -/
  strewn : ∀ pieces, Carries pieces cookies →
    inHeader? (joined [';', ' '] pieces) name = inHeader? (assemble cookies) name ∧
      inHeader? (joined [';'] pieces) name = inHeader? (assemble cookies) name

/-- **What was listed is found.** The names and values are any that pairs can have; in
particular all names without blanks and delimiters, and all values without semicolons and
without blanks at their ends. -/
theorem found_in_header (listable : ∀ c ∈ cookies, Listable c.1 c.2) (name : String) :
    Found cookies name := by
  have listed : inHeader? (assemble cookies) name = (cookies.lookup name).filter (· ≠ "") := by
    rw [inHeader?_eq, pairsIn_assemble listable]
  refine ⟨listed, fun pieces carries => ?_⟩
  obtain ⟨read, whole⟩ := carries.filterMap_pair? listable
  obtain ⟨spaced, close⟩ := pairsIn_joined whole
  rw [listed, inHeader?_eq, inHeader?_eq, spaced, close, read]
  exact ⟨rfl, rfl⟩

namespace Sample

/-- Cookies whose names are parts of each other. Two names are there twice. -/
def crowd : List (String × String) :=
  [("sid", "1"), ("id", "\"a=b c\""), ("e", ""), ("id", "2"), ("e", "3")]

/-- The cookies with all sorts of pieces between them. -/
def strewn : List (List Char) :=
  ["sid=1".toList, [], "id = \"a=b c\" ".toList, "noise".toList, "=x".toList, "e=".toList,
    "\t=y=z".toList, "id=2".toList, "e=3".toList]

theorem listable_crowd : ∀ c ∈ crowd, Listable c.1 c.2 := by
  have all : ∀ c ∈ crowd, c.1 ≠ "" ∧
      c.1.toList.all (fun x => !Text.isBlank x && x != '=' && x != ';') ∧ ';' ∉ c.2.toList ∧
      c.2.toList.head?.all (!Text.isBlank ·) ∧ c.2.toList.getLast?.all (!Text.isBlank ·) := by
    decide
  intro c there
  obtain ⟨named, unbroken, whole, first, last⟩ := all c there
  simp only [List.all_eq_true, Bool.and_eq_true, Bool.not_eq_true', bne_iff_ne,
    and_assoc] at unbroken
  rw [Option.all_eq_true] at first last
  simp only [Bool.not_eq_true'] at first last
  exact .of_unbroken named unbroken ⟨first, last⟩ whole

theorem carries_strewn : Carries strewn crowd := by
  have whole : ∀ piece ∈ strewn, ';' ∉ piece := by decide
  have spaced : Spells "id" "\"a=b c\"" "id = \"a=b c\" ".toList :=
    .intro (a := []) (b := [' ']) (c := [' ']) (d := [' ']) (List.all_eq_true.mp (by decide))
  have tab : ∀ c ∈ ['\t'], Text.isBlank c = true := List.all_eq_true.mp (by decide)
  refine .pair (.written "sid" "1") <| .debris (.unsigned nofun) (whole _ (by decide)) ?_
  refine .pair spaced <| .debris (.unsigned (by decide)) (whole _ (by decide)) ?_
  refine .debris (@Debris.nameless [] nofun ['x']) (whole _ (by decide)) ?_
  refine .pair (.written "e" "") <|
    .debris (.nameless tab "y=z".toList) (whole _ (by decide)) ?_
  exact .pair (.written "id" "2") <| .pair (.written "e" "3") .nil

end Sample

/-- A quoted value with a sign in it is found, and an empty one hides the next one of its name. -/
theorem found_in_header_strewn :
    (∀ c ∈ Sample.crowd, Listable c.1 c.2) ∧
      inHeader? "sid=1; ; id = \"a=b c\" ; noise; =x; e=; \t=y=z; id=2; e=3" "id" =
        some "\"a=b c\"" ∧
      inHeader? "sid=1;;id = \"a=b c\" ;noise;=x;e=;\t=y=z;id=2;e=3" "e" = none := by
  have id := found_in_header Sample.listable_crowd "id"
  have e := found_in_header Sample.listable_crowd "e"
  refine ⟨Sample.listable_crowd, ?_, ?_⟩
  · exact (id.strewn _ Sample.carries_strewn).1.trans (id.listed.trans (by decide))
  · exact (e.strewn _ Sample.carries_strewn).2.trans (e.listed.trans (by decide))

end Brokerage.Cookie
