import Brokerage.Files.Path
import Brokerage.Proofs.Text.Encoding
import Brokerage.Proofs.Text.Parts

/-!
# Paths of files and of what stands beside them

A longer text with the same slashes is a path that leads through the same directories to a longer
last name (`exists_names_append`). This is all that a store needs to know of the file that it writes
beside its own one. The directory of a file has a path that is not longer than that of the file
(`fault?_parent`), so it can be written if the latter can.
-/

namespace Brokerage

namespace Files.Path

variable {absolute : Bool} {parts : List String} {last : String} {text suffix : String}

/-! ### Names -/

/-- The parts of a text that stand for something. -/
def named (parts : List String) : List String :=
  parts.filter (fun part => part != "" && part != ".")

theorem named_concat (parts : List String) (last : String) :
    named (parts ++ [last]) = named parts ++ if last = "" ∨ last = "." then [] else [last] := by
  rw [named, List.filter_append, ← named]
  by_cases nameless : last = "" ∨ last = "."
  · rw [if_pos nameless, List.filter_cons_of_neg (by simpa [← not_or] using nameless)]
    rfl
  · rw [if_neg nameless, List.filter_cons_of_pos (by simpa [← not_or] using nameless)]
    rfl

theorem namesOf_dot (absolute : Bool) (parts : List String) :
    namesOf absolute ("." :: parts) = if absolute then named parts else "." :: named parts := rfl

theorem namesOf_of_ne {part : String} (absolute : Bool) (other : part ≠ ".") (parts : List String) :
    namesOf absolute (part :: parts) = named (part :: parts) := by
  unfold namesOf
  split
  · next same => exact absurd (List.cons.inj same).1 other
  · rfl

theorem namesOf_sublist (absolute : Bool) (parts : List String) :
    (namesOf absolute parts).Sublist parts := by
  cases parts with
  | nil => exact .slnil
  | cons part parts =>
    by_cases dot : part = "."
    · rw [dot, namesOf_dot]
      split
      · exact (List.filter_sublist ..).cons _
      · exact (List.filter_sublist ..).cons_cons _
    · rw [namesOf_of_ne absolute dot]
      exact List.filter_sublist ..

/-- A last part is the last name, or it stands for nothing. Only a dot does one or the other. -/
theorem namesOf_concat (absolute : Bool) (parts : List String) (last : String) :
    namesOf absolute (parts ++ [last]) = namesOf absolute parts ++ [last] ∧ last ≠ "" ∨
      namesOf absolute (parts ++ [last]) = namesOf absolute parts ∧ (last = "" ∨ last = ".") := by
  cases parts with
  | nil =>
    by_cases dot : last = "."
    · rw [List.nil_append, dot, namesOf_dot]
      cases absolute with
      | true => exact .inr ⟨rfl, .inr rfl⟩
      | false => exact .inl ⟨rfl, by decide⟩
    · rw [List.nil_append, namesOf_of_ne absolute dot, ← List.nil_append [last], named_concat]
      by_cases empty : last = ""
      · exact .inr ⟨by simp [empty, named, namesOf], .inl empty⟩
      · exact .inl ⟨by simp [empty, dot, named, namesOf], empty⟩
  | cons part parts =>
    have all : namesOf absolute (part :: parts ++ [last]) = namesOf absolute (part :: parts) ++
        if last = "" ∨ last = "." then [] else [last] := by
      by_cases dot : part = "."
      · rw [dot, List.cons_append, namesOf_dot, namesOf_dot, named_concat]
        cases absolute <;> simp
      · rw [namesOf_of_ne absolute dot, ← named_concat, List.cons_append,
          namesOf_of_ne absolute dot]
    rw [all]
    by_cases nameless : last = "" ∨ last = "."
    · exact .inr ⟨by simp [nameless], nameless⟩
    · exact .inl ⟨by simp [nameless], fun empty => nameless (.inl empty)⟩

/-! ### Longer texts -/

/-- What stands behind the last name of a text is told by its last part. -/
theorem endingOf_concat (parts : List String) (empty : last ≠ "") :
    endingOf (parts ++ [last]) = if last = "." then .dot else .nothing := by
  have head : ((parts ++ [last]).reverse.dropWhile (· == "")).head? = some last := by
    simp [List.reverse_append, empty]
  rw [endingOf, head, List.getLast?_concat]
  split
  · next dot =>
    cases dot
    rfl
  · next other =>
    have dot : last ≠ "." := fun dot => other (by rw [dot])
    simp [empty, dot]

theorem endingOf_ne_nothing (parts : List String) (nameless : last = "" ∨ last = ".") :
    endingOf (parts ++ [last]) ≠ .nothing := by
  rcases nameless with rfl | rfl
  · unfold endingOf
    split
    · nofun
    · simp
  · rw [endingOf_concat parts (by decide), if_pos rfl]
    nofun

/-- The parts of a text between its slashes. -/
def partsOf (text : String) : List String :=
  (text.toList.splitOn '/').map String.ofList

/-- What comes behind a text without another slash is behind its last part. -/
theorem exists_partsOf_append (noSlash : '/' ∉ suffix.toList) (text : String) :
    ∃ front last, partsOf text = front ++ [last] ∧
      partsOf (text ++ suffix) = front ++ [last ++ suffix] := by
  obtain ⟨front, last, parts, longer⟩ :=
    Text.exists_splitOn_append noSlash text.toList
  refine ⟨front.map String.ofList, String.ofList last, ?_, ?_⟩
  · rw [partsOf, parts, List.map_append, List.map_singleton]
  · rw [partsOf, String.toList_append, longer, List.map_append, List.map_singleton]
    simp

theorem absolute_append (noSlash : '/' ∉ suffix.toList) (text : String) :
    (ofText (text ++ suffix)).absolute = (ofText text).absolute := by
  show ((text ++ suffix).toList.head? == some '/') = (text.toList.head? == some '/')
  rw [String.toList_append]
  cases text.toList with
  | cons c cs => rfl
  | nil =>
    cases chars : suffix.toList with
    | nil => rfl
    | cons c cs =>
      have other : c ≠ '/' := fun slash => noSlash (by simp [chars, slash])
      simpa using other

/-- **A longer text with the same slashes has the same names, but for a longer last one.** A name is
added if there is none behind the last slash, or only a dot. -/
theorem exists_names_append (noSlash : '/' ∉ suffix.toList) (long : 2 ≤ suffix.toList.length)
    (text : String) :
    ∃ front last, (ofText (text ++ suffix)).names = front ++ [last ++ suffix] ∧
      (ofText (text ++ suffix)).absolute = (ofText text).absolute ∧
      (ofText (text ++ suffix)).ending = .nothing ∧
      ((ofText text).names = front ++ [last] ∨
        (ofText text).names = front ∧ (ofText text).ending ≠ .nothing) := by
  obtain ⟨front, last, first, second⟩ := exists_partsOf_append noSlash text
  have absolute := absolute_append noSlash text
  have longer : last ++ suffix ≠ "" ∧ last ++ suffix ≠ "." := by
    have wide : 2 ≤ (last ++ suffix).toList.length := by
      rw [String.toList_append, List.length_append]
      omega
    constructor <;> intro same <;> rw [same] at wide <;> exact absurd wide (by decide)
  have names : (ofText (text ++ suffix)).names =
      namesOf (ofText text).absolute (partsOf (text ++ suffix)) := by
    rw [← absolute]
    rfl
  have ending : (ofText (text ++ suffix)).ending = endingOf (partsOf (text ++ suffix)) := rfl
  refine ⟨namesOf (ofText text).absolute front, last, ?_, absolute, ?_, ?_⟩
  · rw [names, second]
    rcases namesOf_concat (ofText text).absolute front (last ++ suffix) with
      ⟨kept, -⟩ | ⟨-, empty | dot⟩
    · exact kept
    · exact absurd empty longer.1
    · exact absurd dot longer.2
  · rw [ending, second, endingOf_concat _ longer.1, if_neg longer.2]
  · rcases namesOf_concat (ofText text).absolute front last with ⟨kept, -⟩ | ⟨dropped, nameless⟩
    · refine .inl ?_
      rw [← kept, ← first]
      rfl
    · refine .inr ⟨?_, ?_⟩
      · rw [← dropped, ← first]
        rfl
      · show endingOf (partsOf text) ≠ .nothing
        rw [first]
        exact endingOf_ne_nothing _ nameless

/-- A text without a slash is a path of one name. -/
theorem ofText_of_noSlash (noSlash : '/' ∉ text.toList) (filled : text ≠ "") (other : text ≠ ".") :
    ofText text = ⟨false, [text], .nothing, text.utf8ByteSize⟩ := by
  have parts : partsOf text = [] ++ [text] := by
    rw [partsOf, List.splitOn_eq_singleton noSlash]
    simp
  have absolute : (text.toList.head? == some '/') = false := by
    rw [beq_eq_false_iff_ne]
    exact fun slash => noSlash (List.mem_of_head? slash)
  have names : namesOf false (partsOf text) = [text] := by
    rw [parts, List.nil_append, namesOf_of_ne false other, named,
      List.filter_cons_of_pos (by simp [filled, other]), List.filter_nil]
  have ending : endingOf (partsOf text) = .nothing := by
    rw [parts, endingOf_concat [] filled, if_neg other]
  rw [← names, ← ending, ← absolute]
  rfl

/-! ### Sizes -/

/-- The bytes of names, each with a slash. -/
def total : List String → Nat
  | [] => 0
  | name :: names => name.utf8ByteSize + 1 + total names

theorem total_concat (names : List String) (last : String) :
    total (names ++ [last]) = total names + (last.utf8ByteSize + 1) := by
  induction names with
  | nil => exact Nat.add_comm ..
  | cons name names ih => rw [List.cons_append, total, total, ih, Nat.add_assoc _ (total names)]

theorem size_ofNames (absolute : Bool) (names : List String) :
    (ofNames absolute names).size = total names := by
  have all (n : Nat) :
      names.foldl (fun n name => n + name.utf8ByteSize + 1) n = n + total names := by
    induction names generalizing n with
    | nil => rfl
    | cons name names ih =>
      rw [List.foldl_cons, ih, total]
      omega
  rw [ofNames, all, Nat.zero_add]

theorem utf8ByteSize_ofList (cs : List Char) :
    (String.ofList cs).utf8ByteSize = (cs.flatMap String.utf8EncodeChar).length := by
  rw [← Text.length_encode, Text.encode_ofList]

/-- The parts of a text and the slashes between them take up all of it. -/
theorem total_partsOf (text : String) : total (partsOf text) = text.utf8ByteSize + 1 := by
  have all (cs : List Char) : total ((cs.splitOn '/').map String.ofList) =
      (cs.flatMap String.utf8EncodeChar).length + 1 := by
    induction cs with
    | nil => rfl
    | cons c cs ih =>
      rw [List.splitOn_cons_eq_if_modifyHead]
      split
      · next slash =>
        rw [beq_iff_eq.mp slash, List.map_cons, total, ih, List.flatMap_cons, List.length_append]
        have one : (String.utf8EncodeChar '/').length = 1 := rfl
        have zero : (String.ofList []).utf8ByteSize = 0 := rfl
        omega
      · cases parts : cs.splitOn '/' with
        | nil =>
          rw [parts] at ih
          cases ih
        | cons part parts' =>
          rw [parts] at ih
          simp only [List.modifyHead_cons, total, List.map_cons, utf8ByteSize_ofList,
            List.flatMap_cons, List.length_append] at ih ⊢
          omega
  rw [partsOf, all, ← utf8ByteSize_ofList, String.ofList_toList]

theorem total_le_of_sublist {names parts : List String} (h : names.Sublist parts) :
    total names ≤ total parts := by
  induction h with
  | slnil => exact Nat.le_refl _
  | cons part _ ih =>
    rw [total]
    omega
  | cons_cons part _ ih =>
    rw [total, total]
    omega

theorem parent?_eq_some_iff {p parent : Path} :
    p.parent? = some parent ↔ p.names ≠ [] ∧ parent = ofNames p.absolute p.names.dropLast := by
  rw [parent?]
  cases p.names <;> simp [eq_comm]

theorem fault?_eq_none_iff {p : Path} :
    p.fault? = none ↔ (∀ name ∈ p.names, '\x00' ∉ name.toList) ∧ p.size < sizeLimit := by
  have noNull : (∀ name ∈ p.names, '\x00' ∉ name.toList) ↔
      ¬ p.names.any (·.toList.contains '\x00') = true := by
    simp
  rw [fault?, noNull]
  by_cases null : p.names.any (·.toList.contains '\x00') = true
  · rw [if_pos null]
    simp only [null, not_true, false_and, reduceCtorEq]
  · rw [if_neg null]
    by_cases long : sizeLimit ≤ p.size
    · simp only [if_pos long, reduceCtorEq, Nat.not_lt.mpr long, and_false]
    · exact iff_of_true (if_neg long) ⟨null, Nat.not_le.mp long⟩

/-- A directory has a path if a file in it has one. -/
theorem fault?_parent {parent : Path} (h : (ofText text).parent? = some parent)
    (sound : (ofText text).fault? = none) : parent.fault? = none := by
  obtain ⟨filled, rfl⟩ := parent?_eq_some_iff.mp h
  obtain ⟨noNull, short⟩ := fault?_eq_none_iff.mp sound
  refine fault?_eq_none_iff.mpr
    ⟨fun name there => noNull name (List.dropLast_subset _ there), Nat.lt_of_le_of_lt ?_ short⟩
  have all : total (ofText text).names ≤ text.utf8ByteSize + 1 := by
    rw [← total_partsOf]
    exact total_le_of_sublist (namesOf_sublist _ _)
  rw [← List.dropLast_concat_getLast filled, total_concat] at all
  rw [size_ofNames]
  show _ ≤ text.utf8ByteSize
  omega

end Files.Path

end Brokerage
