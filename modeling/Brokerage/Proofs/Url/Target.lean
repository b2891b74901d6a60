import Brokerage.Proofs.Text.Blank
import Brokerage.Proofs.Text.Parts
import Brokerage.Url.Parser

/-!
# Where a text leads

The query and the fragment are cut off before anything else of a text is read, and all that is
asked of them later is whether there are any. So each reader gives the same URL for one query and
another, but for its query and its fragment (`withTail`). Where a text leads, and whether it leads
anywhere, is decided by what stands in front of the question mark (`readAgainst_query`).
-/

namespace Brokerage.Url

variable {scheme : String} {front query : List Char} {fragment : Option (List Char)}

/-- The URL with another query and another fragment. -/
def withTail (query : List Char) (fragment : Option (List Char)) (url : Url) : Url :=
  { url with
    query := some (encodeQuery url.scheme query)
    fragment := fragment.map encodeFragment }

/-- A text in front of a query, with nothing in the query. -/
def Pieces.bare (front : List Char) : Pieces := ⟨front, some [], none⟩

/-! ### One reader after the other -/

theorem readAbsolute_tail (cs : List Char) :
    readAbsolute scheme ⟨front, some query, fragment⟩ cs =
      (readAbsolute scheme (.bare front) cs).map (withTail query fragment) := by
  -- with a query there is always more behind the authority
  unfold readAbsolute Pieces.bare
  simp only [Option.isSome_some, Bool.true_or]
  cases readAuthority scheme true cs <;> rfl

theorem readRelative_tail (base : Url) (segments : List String) :
    readRelative base segments ⟨front, some query, fragment⟩ =
      (readRelative base segments (.bare front)).map (withTail query fragment) := by
  unfold readRelative
  dsimp only [Pieces.bare]
  split
  · rfl
  split
  · split
    · split
      · exact readAbsolute_tail _
      · exact readAbsolute_tail _
    · rfl
  · rfl

theorem readFileUrl_tail (base : Option Url) :
    readFileUrl base ⟨front, some query, fragment⟩ =
      (readFileUrl base (.bare front)).map (withTail query fragment) := by
  unfold readFileUrl
  dsimp only [Pieces.bare]
  split
  · rfl
  · split <;> rfl

theorem readOther_tail : readOther scheme ⟨front, some query, fragment⟩ =
    (readOther scheme (.bare front)).map (withTail query fragment) := by
  unfold readOther
  dsimp only [Pieces.bare]
  split
  · exact readAbsolute_tail _
  · rfl
  · rfl

theorem readSpecial_tail (base : Option Url) :
    readSpecial base scheme ⟨front, some query, fragment⟩ =
      (readSpecial base scheme (.bare front)).map (withTail query fragment) := by
  unfold readSpecial
  dsimp only [Pieces.bare]
  cases base.filter (·.scheme == scheme) with
  | none => exact readAbsolute_tail _
  | some base =>
    dsimp only
    by_cases few : (front.takeWhile (isSlash true)).length < 2
    · exact (if_pos few).trans ((readRelative_tail _ _).trans (congrArg _ (if_pos few).symm))
    · exact (if_neg few).trans ((readAbsolute_tail _).trans (congrArg _ (if_neg few).symm))

theorem readWithoutScheme_tail (base : Url) :
    readWithoutScheme base ⟨front, some query, fragment⟩ =
      (readWithoutScheme base (.bare front)).map (withTail query fragment) := by
  unfold readWithoutScheme
  dsimp only [Pieces.bare]
  simp only [Option.isNone_some, Bool.and_false, Bool.false_and, Bool.false_eq_true, if_false]
  split
  · rfl
  split
  · exact readFileUrl_tail _
  · exact readRelative_tail _ _

/-- **What the pieces are behind the question mark makes no difference**, but for the query and the
fragment. -/
theorem readAgainst_tail {s s' : String} (base : Option Url)
    (pieces : Pieces.ofChars (stripped s) = ⟨front, some query, fragment⟩)
    (nothing : Pieces.ofChars (stripped s') = .bare front) :
    readAgainst base s = (readAgainst base s').map (withTail query fragment) := by
  unfold readAgainst
  rw [pieces, nothing]
  dsimp only [Pieces.bare]
  cases scheme? front with
  | some found =>
    obtain ⟨scheme, cs⟩ := found
    dsimp only
    by_cases file : scheme = "file"
    · simp only [if_pos file]
      exact readFileUrl_tail _
    simp only [if_neg file]
    split
    · exact readSpecial_tail _
    · exact readOther_tail
  | none =>
    cases base with
    | none => rfl
    | some base => exact readWithoutScheme_tail base

/-! ### Texts with a query -/

theorem toList_query (front query : String) :
    (front ++ ("?" ++ query)).toList = front.toList ++ '?' :: query.toList := by
  have mark : "?".toList = ['?'] := rfl
  rw [String.toList_append, String.toList_append, mark, List.singleton_append]

/-- A text is cut at its question mark. -/
theorem pieces_query (noMark : '?' ∉ front) (noHash : '#' ∉ front ∧ '#' ∉ query) :
    Pieces.ofChars (front ++ '?' :: query) = ⟨front, some (withoutBreaks query), none⟩ := by
  have whole : '#' ∉ front ++ '?' :: query := by
    rw [List.mem_append, List.mem_cons, not_or, not_or]
    exact ⟨noHash.1, by decide, noHash.2⟩
  rw [Pieces.ofChars, Text.cut_of_not_mem whole]
  dsimp only
  rw [Text.cut_append_cons noMark]
  rfl

/-- True of characters that are neither taken away nor end a query. -/
def IsLasting (c : Char) : Prop := 0x20 < c.toNat ∧ c ≠ '#'

instance : DecidablePred IsLasting := fun c =>
  inferInstanceAs (Decidable (0x20 < c.toNat ∧ c ≠ '#'))

theorem withoutBreaks_of_lasting (lasting : ∀ c ∈ query, IsLasting c) :
    withoutBreaks query = query := by
  refine List.filter_eq_self.mpr fun c there => ?_
  have visible := (lasting c there).1
  rw [Bool.not_eq_true', Bool.eq_false_iff]
  intro isBreak
  rw [Url.isBreak, Bool.or_eq_true, Bool.or_eq_true, decide_eq_true_eq, decide_eq_true_eq,
    decide_eq_true_eq] at isBreak
  rcases isBreak with (rfl | rfl) | rfl <;> exact absurd visible (by decide)

/-- Controls and spaces in front of such a text do not count, and there are none behind it. -/
theorem pieces_stripped (noMark : '?' ∉ front) (noHash : '#' ∉ front)
    (lasting : ∀ c ∈ query, IsLasting c) :
    Pieces.ofChars (stripped (String.ofList (front ++ '?' :: query))) =
      ⟨front.dropWhile (·.toNat ≤ 0x20), some query, none⟩ := by
  have all : ∀ c ∈ '?' :: query, IsLasting c := List.forall_mem_cons.mpr ⟨by decide, lasting⟩
  have visible : ∀ c ∈ '?' :: query, decide (c.toNat ≤ 0x20) = false := fun c there =>
    decide_eq_false (Nat.not_le.mpr (all c there).1)
  have ends : Text.Ends (fun c => decide (c.toNat ≤ 0x20)) ('?' :: query) :=
    ⟨fun c first => visible c (List.mem_of_head? first),
      fun c last => visible c (List.mem_of_getLast? last)⟩
  have inside {c : Char} (there : c ∈ front.dropWhile (·.toNat ≤ 0x20)) : c ∈ front :=
    (List.dropWhile_suffix _).subset there
  rw [stripped, String.toList_ofList, Text.stripBy_append (List.cons_ne_nil _ _) ends,
    pieces_query (fun there => noMark (inside there))
      ⟨fun there => noHash (inside there), fun there => (lasting _ there).2 rfl⟩,
    withoutBreaks_of_lasting lasting]

/-- **Where a text leads is decided in front of its question mark.** What is behind it becomes the
query, and there is no fragment. -/
theorem readAgainst_query {front query : String} (base : Option Url)
    (noMark : '?' ∉ front.toList) (noHash : '#' ∉ front.toList)
    (lasting : ∀ c ∈ query.toList, IsLasting c) :
    readAgainst base (front ++ ("?" ++ query)) =
      (readAgainst base (front ++ "?")).map (withTail query.toList none) := by
  have pieces := pieces_stripped noMark noHash lasting
  have nothing := @pieces_stripped _ [] noMark noHash nofun
  rw [← toList_query, String.ofList_toList] at pieces
  refine readAgainst_tail base pieces ?_
  rw [← String.ofList_toList (s := front ++ "?"), String.toList_append]
  exact nothing

end Brokerage.Url
