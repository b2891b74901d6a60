import Brokerage.Cookie.Jar
import Brokerage.Proofs.Text.Blank
import Brokerage.Proofs.Text.Parts

/-!
# Headers that list cookies

A header lists cookies as pairs with semicolons between them. The name and the value of a cookie
come from a pair themselves, so they hold no semicolon, the name holds no equals sign, and there
are no blanks around either (`Listable`). Whatever else is in them, each pair of the header is
read as it was written (`pairsIn_assemble`), and looking a name up in the header finds the first
cookie of that name (`inHeader?_header`).

A header can be shown exactly if all that it lists can (`header_all_isPlain_iff`).
-/

namespace Brokerage

namespace Cookie

variable {cs : List Char} {c : Cookie} {cookies : List Cookie} {name value : String}

/-! ### Names and values -/

/-- A name and a value that a pair can have. -/
structure Listable (name value : String) : Prop where
  named : name ≠ ""
  nameEnds : Text.Ends Text.isBlank name.toList
  nameHolds : '=' ∉ name.toList ∧ ';' ∉ name.toList
  valueEnds : Text.Ends Text.isBlank value.toList
  valueHolds : ';' ∉ value.toList

theorem trimmed_toList {s : String} (ends : Text.Ends Text.isBlank s.toList) :
    trimmed s.toList = s := by
  rw [trimmed, String.ofList_toList, Text.trim_of_ends ends]

theorem toList_trimmed (cs : List Char) : (trimmed cs).toList = Text.stripBy Text.isBlank cs := by
  rw [trimmed, Text.toList_trim, String.toList_ofList]

/-- A space in front does not count. -/
theorem trimmed_space (cs : List Char) : trimmed (' ' :: cs) = trimmed cs := by
  rw [← String.toList_inj, toList_trimmed, toList_trimmed, Text.stripBy_cons (by decide)]

/-- Nor does it in front of a pair. -/
theorem pair?_space (cs : List Char) : pair? (' ' :: cs) = pair? cs := by
  have front : Text.cut '=' (' ' :: cs) = (' ' :: (Text.cut '=' cs).1, (Text.cut '=' cs).2) := by
    rw [Text.cut, if_neg (by decide)]
  rw [pair?, pair?, front]
  obtain ⟨name, _ | value⟩ := Text.cut '=' cs
  · rfl
  · dsimp only
    rw [trimmed_space]

/-- A pair as it is written. -/
def writePair (name value : String) : List Char :=
  name.toList ++ '=' :: value.toList

/-- **What a pair can have is read as it was written.** -/
theorem Listable.pair?_writePair (listable : Listable name value) :
    pair? (writePair name value) = some (name, value) := by
  rw [pair?, writePair, Text.cut_append_cons listable.nameHolds.1]
  dsimp only
  rw [trimmed_toList listable.nameEnds, trimmed_toList listable.valueEnds, if_neg listable.named]

/-- **A pair that was read from a text without semicolons has such a name and such a value.** -/
theorem listable_of_pair? (whole : ';' ∉ cs) (read : pair? cs = some (name, value)) :
    Listable name value := by
  rw [pair?] at read
  split at read
  · next front back split =>
    obtain ⟨noSign, rfl⟩ := Text.of_cut_eq_some split
    rw [List.mem_append, List.mem_cons, not_or, not_or] at whole
    split at read
    · cases read
    · next named =>
      obtain ⟨rfl, rfl⟩ := Prod.mk.inj (Option.some.inj read)
      refine ⟨named, ?_, ?_, ?_, ?_⟩
      · rw [toList_trimmed]
        exact Text.ends_stripBy _ front
      · rw [toList_trimmed]
        exact ⟨fun there => noSign (Text.mem_of_mem_stripBy there),
          fun there => whole.1 (Text.mem_of_mem_stripBy there)⟩
      · rw [toList_trimmed]
        exact Text.ends_stripBy _ back
      · rw [toList_trimmed]
        exact fun there => whole.2.2 (Text.mem_of_mem_stripBy there)
  · cases read

/-- A cookie that a URL sets has such a name and such a value. -/
theorem listable_of_ofSetting? {text : String} {url : Url} {now : Nat}
    (set : ofSetting? text url now = some c) : Listable c.name c.value := by
  rw [ofSetting?] at set
  split at set
  · cases set
  · next first rest parts =>
    have whole : ';' ∉ first := Text.not_mem_of_mem_splitOn (parts ▸ List.mem_cons_self)
    dsimp only at set
    split at set
    · next name value host pair _ =>
      split at set
      · cases set
      · obtain ⟨scope, -, rfl⟩ := Option.map_eq_some_iff.mp set
        exact listable_of_pair? whole pair
    · cases set

/-! ### Reading a header -/

/-- One more space at the start of the first part does not matter to any pair. -/
theorem filterMap_pair?_modifyHead (parts : List (List Char)) :
    (parts.modifyHead (List.cons ' ')).filterMap pair? = parts.filterMap pair? := by
  cases parts with
  | nil => rfl
  | cons first rest =>
    rw [List.modifyHead_cons, List.filterMap_cons, List.filterMap_cons, pair?_space]

/-- **The pairs of a header are those of its pieces**, as long as no piece holds a semicolon. Pieces
that are no pairs do not matter. -/
theorem filterMap_pair?_intercalate {pieces : List (List Char)} (whole : ∀ p ∈ pieces, ';' ∉ p) :
    ((List.intercalate [';', ' '] pieces).splitOn ';').filterMap pair? =
      pieces.filterMap pair? := by
  induction pieces with
  | nil => decide
  | cons p rest ih =>
    have here := whole p List.mem_cons_self
    cases rest with
    | nil => rw [List.intercalate_singleton, List.splitOn_eq_singleton here]
    | cons q rest =>
      have later := ih fun p there => whole p (List.mem_cons_of_mem _ there)
      -- behind the semicolon there is a space, and then the next piece
      rw [List.intercalate_cons_cons, List.append_assoc, List.cons_append,
        List.splitOn_append_cons_self_of_not_mem here, List.singleton_append,
        List.splitOn_cons_eq_if_modifyHead, if_neg (by decide),
        List.filterMap_cons, List.filterMap_cons, filterMap_pair?_modifyHead, later]

/-- The pairs of a header. -/
def pairsIn (header : String) : List (String × String) :=
  (header.toList.splitOn ';').filterMap pair?

/-- Pairs as a header lists them. -/
def assemble (pairs : List (String × String)) : String :=
  "; ".intercalate (pairs.map fun pair => pair.1 ++ "=" ++ pair.2)

theorem toList_assemble (pairs : List (String × String)) : (assemble pairs).toList =
    List.intercalate [';', ' '] (pairs.map fun pair => writePair pair.1 pair.2) := by
  have separator : "; ".toList = [';', ' '] := rfl
  have sign : "=".toList = ['='] := rfl
  rw [assemble, String.toList_intercalate, separator, List.map_map]
  congr 1
  refine List.map_congr_left fun pair _ => ?_
  show (pair.1 ++ "=" ++ pair.2).toList = _
  rw [String.toList_append, String.toList_append, sign, List.append_assoc, List.singleton_append,
    writePair]

theorem Listable.whole (listable : Listable name value) : ';' ∉ writePair name value := by
  rw [writePair, List.mem_append, List.mem_cons, not_or, not_or]
  exact ⟨listable.nameHolds.2, by decide, listable.valueHolds⟩

/-- **Such pairs are read as they were listed.** -/
theorem pairsIn_assemble {pairs : List (String × String)}
    (listable : ∀ pair ∈ pairs, Listable pair.1 pair.2) : pairsIn (assemble pairs) = pairs := by
  have whole : ∀ p ∈ pairs.map fun pair => writePair pair.1 pair.2, ';' ∉ p := by
    intro p there
    obtain ⟨pair, inside, rfl⟩ := List.mem_map.mp there
    exact (listable pair inside).whole
  have read : ∀ pair ∈ pairs, pair? (writePair pair.1 pair.2) = some pair := fun pair there =>
    (listable pair there).pair?_writePair
  rw [pairsIn, toList_assemble, filterMap_pair?_intercalate whole, List.filterMap_map]
  exact (List.filterMap_congr read).trans (List.filterMap_some)

end Cookie

namespace Jar

open Cookie (Listable writePair)

variable {cookies : List Cookie} {name : String}

theorem header_eq_assemble (cookies : List Cookie) :
    header cookies = Cookie.assemble (cookies.map fun c => (c.name, c.value)) := by
  rw [Cookie.assemble, List.map_map]
  rfl

theorem toList_header (cookies : List Cookie) : (header cookies).toList =
    List.intercalate [';', ' '] (cookies.map fun c => writePair c.name c.value) := by
  rw [header_eq_assemble, Cookie.toList_assemble, List.map_map]
  rfl

/-- The value of the first of some cookies with a name, unless it is empty. -/
def firstValue? (values : List String) : Option String :=
  values.head?.bind fun value => if value = "" then none else some value

/-- **A name is looked up among the cookies of that name.** -/
theorem inHeader?_header (listable : ∀ c ∈ cookies, Listable c.name c.value) (name : String) :
    Cookie.inHeader? (header cookies) name =
      firstValue? ((cookies.filter (·.name == name)).map Cookie.value) := by
  have pairs : Cookie.pairsIn (header cookies) = cookies.map fun c => (c.name, c.value) := by
    rw [header_eq_assemble]
    exact Cookie.pairsIn_assemble (List.forall_mem_map.mpr listable)
  show ((Cookie.pairsIn (header cookies)).find? _).bind _ = _
  rw [pairs, List.find?_map, firstValue?, List.head?_map, List.head?_filter]
  show ((cookies.find? (·.name == name)).map _).bind _ = _
  cases cookies.find? (·.name == name) <;> rfl

/-! ### Showing a header -/

/-- What is between the pieces aside, a text is plain exactly if its pieces are. -/
theorem all_intercalate {p : Char → Bool} {separator : List Char} (plain : separator.all p = true)
    (pieces : List (List Char)) :
    (List.intercalate separator pieces).all p = pieces.all (·.all p) := by
  induction pieces with
  | nil => rfl
  | cons piece rest ih =>
    cases rest with
    | nil => rw [List.intercalate_singleton, List.all_cons, List.all_nil, Bool.and_true]
    | cons next rest =>
      rw [List.intercalate_cons_cons, List.all_append, List.all_append, plain, Bool.and_true, ih]
      rfl

/-- True of the cookies of which a header shows name and value. -/
def IsShown (c : Cookie) : Prop :=
  (∀ x ∈ c.name.toList, isPlain x = true) ∧ ∀ x ∈ c.value.toList, isPlain x = true

-- the characters of the texts are looked at, not all that there are
instance (c : Cookie) : Decidable (IsShown c) :=
  @instDecidableAnd _ _ (List.decidableBAll _ c.name.toList) (List.decidableBAll _ c.value.toList)

/-- **A header can be shown exactly if each of its cookies can.** -/
theorem header_all_isPlain_iff :
    (header cookies).toList.all isPlain = true ↔ ∀ c ∈ cookies, IsShown c := by
  rw [toList_header, all_intercalate (by decide), List.all_eq_true, List.forall_mem_map]
  refine forall₂_congr fun c there => ?_
  rw [writePair, List.all_append, List.all_cons, Bool.and_eq_true, Bool.and_eq_true,
    List.all_eq_true, List.all_eq_true]
  exact and_congr_right fun _ => and_iff_right (by decide)

end Jar

end Brokerage
