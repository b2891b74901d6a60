import Brokerage.Proofs.Json.Quoted
import Brokerage.Proofs.Lookup
import Brokerage.Store.Table

/-!
# Tables and the objects that denote them

A table is a map: what is put under a name is found there, and nothing else changes. Its entries
stay in the order of their names (`Ordered`).

In a file it is a JSON object all of whose values are strings. `IsObject` is the grammar of these
objects, with blanks wherever they are allowed, said of characters and without a reader. Such an
object is read as the table in which of several entries with one name the last one counts
(`ofBytes_of_isObject`). What is written for a table is such an object, with the table's entries in
their order, so it is read as the table (`ofBytes_write`).
-/

namespace Brokerage.Table

variable {t : Table} {name other text : String} {entries : List (String × String)}

/-! ### Tables as maps -/

/-- The entries of a table are in the order of their names, each of which is there once. -/
def Ordered (t : Table) : Prop := t.entries.Pairwise fun a b => a.1 < b.1

theorem ordered_empty : Ordered empty := .nil

theorem get?_empty (name : String) : empty.get? name = none := rfl

theorem lookup_insertEntry (name text other : String) (entries : List (String × String)) :
    (insertEntry name text entries).lookup other =
      if other = name then some text else entries.lookup other := by
  induction entries with
  | nil => exact lookup_cons ..
  | cons entry rest ih =>
    obtain ⟨n, s⟩ := entry
    rw [insertEntry]
    split
    · rw [lookup_cons]
    split
    · next same =>
      subst same
      rw [lookup_cons, lookup_cons]
      split <;> rfl
    · next different =>
      rw [lookup_cons, lookup_cons, ih]
      by_cases here : other = n
      · rw [if_pos here, if_pos here, if_neg (here ▸ Ne.symm different)]
      · rw [if_neg here, if_neg here]

/-- What is put under a name is found there, and nothing else changes. -/
theorem get?_insert (t : Table) (name text other : String) :
    (t.insert name text).get? other = if other = name then some text else t.get? other :=
  lookup_insertEntry name text other t.entries

/-- What is taken away is not found any more, and nothing else changes. -/
theorem get?_erase (t : Table) (name other : String) :
    (t.erase name).get? other = if other = name then none else t.get? other :=
  lookup_filter_ne name other t.entries

/-- An entry of a list to which one is added is this one, or it was there. -/
theorem mem_insertEntry {entry : String × String} (there : entry ∈ insertEntry name text entries) :
    entry = (name, text) ∨ entry ∈ entries := by
  induction entries with
  | nil => simpa [insertEntry] using there
  | cons first rest ih =>
    obtain ⟨n, s⟩ := first
    rw [insertEntry] at there
    split at there
    · simpa using there
    split at there
    · rcases List.mem_cons.mp there with rfl | later
      · exact .inl rfl
      · exact .inr (List.mem_cons_of_mem _ later)
    · rcases List.mem_cons.mp there with rfl | later
      · exact .inr List.mem_cons_self
      · exact (ih later).imp_right (List.mem_cons_of_mem _)

/-- An entry is put in its place. -/
theorem Ordered.insert (h : Ordered t) (name text : String) : Ordered (t.insert name text) := by
  obtain ⟨entries⟩ := t
  show (insertEntry name text entries).Pairwise _
  have ordered : entries.Pairwise fun a b => a.1 < b.1 := h
  clear h
  induction ordered with
  | nil => exact .cons nofun .nil
  | @cons first rest below ordered ih =>
    obtain ⟨n, s⟩ := first
    rw [insertEntry]
    split
    · next before =>
      refine .cons (fun entry there => ?_) (.cons below ordered)
      rcases List.mem_cons.mp there with rfl | later
      · exact before
      · exact String.lt_trans before (below entry later)
    split
    · next same =>
      subst same
      exact .cons below ordered
    · next notBefore different =>
      refine .cons (fun entry there => ?_) ih
      rcases mem_insertEntry there with rfl | later
      · exact Std.lt_of_le_of_ne (String.not_lt.mp notBefore) (Ne.symm different)
      · exact below entry later

theorem Ordered.erase (h : Ordered t) (name : String) : Ordered (t.erase name) :=
  List.Pairwise.filter _ h

/-- The table with an entry. -/
def add (t : Table) (entry : String × String) : Table := t.insert entry.1 entry.2

/-- The table of entries that are put there one after the other. -/
def ofEntries (entries : List (String × String)) : Table := entries.foldl add empty

theorem ordered_foldl (entries : List (String × String)) (h : Ordered t) :
    Ordered (entries.foldl add t) := by
  induction entries generalizing t with
  | nil => exact h
  | cons entry rest ih => exact ih (h.insert ..)

theorem ordered_ofEntries (entries : List (String × String)) : Ordered (ofEntries entries) :=
  ordered_foldl entries ordered_empty

/-- Of several entries with one name the last one counts. -/
theorem get?_ofEntries (entries : List (String × String)) (name : String) :
    (ofEntries entries).get? name = entries.reverse.lookup name := by
  have all (t : Table) : (entries.foldl add t).get? name =
      (entries.reverse.lookup name).or (t.get? name) := by
    induction entries generalizing t with
    | nil => simp
    | cons entry rest ih =>
      rw [List.foldl_cons, ih, add, get?_insert, List.reverse_cons, List.lookup_append, lookup_cons]
      cases rest.reverse.lookup name with
      | some text => rfl
      | none => split <;> simp
  rw [ofEntries, all, get?_empty, Option.or_none]

/-- An entry whose name comes after all others is put at the end. -/
theorem insertEntry_of_lt (below : ∀ entry ∈ entries, entry.1 < name) :
    insertEntry name text entries = entries ++ [(name, text)] := by
  induction entries with
  | nil => rfl
  | cons first rest ih =>
    have before : first.1 < name := below first List.mem_cons_self
    rw [insertEntry, if_neg (String.lt_asymm before), if_neg (String.ne_of_lt before).symm,
      ih fun entry there => below entry (List.mem_cons_of_mem _ there)]
    rfl

/-- A table is that of its entries. -/
theorem Ordered.ofEntries_eq (h : Ordered t) : ofEntries t.entries = t := by
  have all (front back : List (String × String)) (ordered : Ordered ⟨front ++ back⟩) :
      back.foldl add ⟨front⟩ = ⟨front ++ back⟩ := by
    induction back generalizing front with
    | nil => simp
    | cons entry rest ih =>
      have last : add ⟨front⟩ entry = ⟨front ++ [entry]⟩ := by
        rw [add, Table.insert, insertEntry_of_lt]
        intro before there
        exact (List.pairwise_append.mp ordered).2.2 before there entry List.mem_cons_self
      rw [List.foldl_cons, last, ih (front ++ [entry]) (by simpa using ordered)]
      simp
  exact all [] t.entries h

/-! ### Objects of texts -/

/-- Characters that may stand between the parts of an object. -/
def IsBlank (cs : List Char) : Prop := ∀ c ∈ cs, c ∈ [' ', '\n', '\t', '\r']

/-- A name and a text between quotation marks, with a colon between them. -/
inductive IsMember : String × String → List Char → Prop where
  | member {name text : String} {before inner outer after cs ds : List Char}
      (blanks : IsBlank before ∧ IsBlank inner ∧ IsBlank outer ∧ IsBlank after)
      (first : Json.Quoted cs name.toList) (second : Json.Quoted ds text.toList) :
      IsMember (name, text)
        (before ++ '"' :: (cs ++ '"' :: (inner ++ ':' :: (outer ++
          '"' :: (ds ++ '"' :: after)))))

/-- One or more members, with commas between them. -/
inductive IsMembers : List (String × String) → List Char → Prop where
  | last {entry : String × String} {cs : List Char} (member : IsMember entry cs) :
      IsMembers [entry] cs
  | more {entry : String × String} {entries : List (String × String)} {cs ds : List Char}
      (member : IsMember entry cs) (rest : IsMembers entries ds) :
      IsMembers (entry :: entries) (cs ++ ',' :: ds)

/-- An object all of whose values are strings, with its entries in their order. -/
inductive IsObject : List (String × String) → List Char → Prop where
  | empty {before inside after : List Char}
      (blanks : IsBlank before ∧ IsBlank inside ∧ IsBlank after) :
      IsObject [] (before ++ '{' :: (inside ++ '}' :: after))
  | members {entries : List (String × String)} {before cs after : List Char}
      (blanks : IsBlank before ∧ IsBlank after) (members : IsMembers entries cs) :
      IsObject entries (before ++ '{' :: (cs ++ '}' :: after))

/-! ### Reading objects -/

section Reading

variable {bs rest : Bytes} {b : UInt8} {cs ds : List Char} {entry : String × String}

open Json (isSpace skipSpace quoteMark nextMember closeBracket readColon readText)

/-- Blanks are passed over. -/
theorem skipSpace_append (blank : IsBlank cs) (rest : Bytes) :
    skipSpace (cs.flatMap String.utf8EncodeChar ++ rest) = skipSpace rest := by
  have space : [' ', '\n', '\t', '\r'].all
      (fun c => (String.utf8EncodeChar c).all isSpace) = true := by
    decide
  refine List.dropWhile_append_of_pos fun b there => ?_
  obtain ⟨c, inside, byte⟩ := List.mem_flatMap.mp there
  exact List.all_eq_true.mp (List.all_eq_true.mp space c (blank c inside)) b byte

theorem skipSpace_blank (blank : IsBlank cs) (solid : isSpace b = false) (rest : Bytes) :
    skipSpace (cs.flatMap String.utf8EncodeChar ++ b :: rest) = b :: rest := by
  rw [skipSpace_append blank, skipSpace, List.dropWhile_cons_of_neg (by simp [solid])]

theorem nextMember_first (blank : IsBlank cs) (rest : Bytes) :
    nextMember true (cs.flatMap String.utf8EncodeChar ++ quoteMark :: rest) = .ok (some rest) := by
  rw [nextMember, skipSpace_blank blank rfl]
  rfl

theorem nextMember_later (blank : IsBlank cs) (next : nextMember true bs = .ok (some rest)) :
    nextMember false (cs.flatMap String.utf8EncodeChar ++ 0x2C :: bs) = .ok (some rest) := by
  have found : skipSpace bs = quoteMark :: rest := by
    rw [nextMember] at next
    split at next
    · cases next
    · next b after here =>
      simp only [if_true] at next
      split at next
      · cases next
      split at next
      · next mark =>
        cases next
        rw [here, mark]
      · cases next
  rw [nextMember, skipSpace_blank blank rfl]
  simp [found, Json.Bracket.close]

theorem nextMember_close (blank : IsBlank cs) (first : Bool) (rest : Bytes) :
    nextMember first (cs.flatMap String.utf8EncodeChar ++ 0x7D :: rest) = .ok none := by
  rw [nextMember, skipSpace_blank blank rfl]
  rfl

theorem closeBracket_close (blank : IsBlank cs) (rest : Bytes) :
    closeBracket .object (cs.flatMap String.utf8EncodeChar ++ 0x7D :: rest) = .ok rest := by
  rw [closeBracket, skipSpace_blank blank rfl]
  rfl

theorem readColon_colon (blank : IsBlank cs) (rest : Bytes) :
    readColon (cs.flatMap String.utf8EncodeChar ++ 0x3A :: rest) = .ok rest := by
  rw [readColon, skipSpace_blank blank rfl]
  rfl

theorem readText_quoted (blank : IsBlank cs) {text : String} (quoted : Json.Quoted ds text.toList)
    (rest : Bytes) :
    readText (cs.flatMap String.utf8EncodeChar ++
      quoteMark :: (ds.flatMap String.utf8EncodeChar ++ quoteMark :: rest)) = .ok (text, rest) := by
  rw [readText, skipSpace_blank blank rfl]
  simp only [if_pos]
  rw [Json.readQuoted_of_quoted quoted, String.ofList_toList]

/-- A member is read, and what comes after it is left to read. -/
theorem readEntries_member (member : IsMember entry cs) (rest : Bytes) :
    ∃ found after, IsBlank after ∧
      nextMember true (cs.flatMap String.utf8EncodeChar ++ rest) = .ok (some found) ∧
      ∀ (n : Nat) (first : Bool) (t : Table) (bs : Bytes),
        nextMember first bs = .ok (some found) →
        readEntries (n + 1) first t bs =
          readEntries n false (t.add entry) (after.flatMap String.utf8EncodeChar ++ rest) := by
  cases member with
  | @member name text before inner outer after cs ds blanks quoted quoted' =>
    obtain ⟨blank, blankInner, blankOuter, blankAfter⟩ := blanks
    have mark : String.utf8EncodeChar '"' = [quoteMark] := rfl
    have colon : String.utf8EncodeChar ':' = [0x3A] := rfl
    refine ⟨cs.flatMap String.utf8EncodeChar ++ quoteMark ::
      (inner.flatMap String.utf8EncodeChar ++ 0x3A :: (outer.flatMap String.utf8EncodeChar ++
        quoteMark :: (ds.flatMap String.utf8EncodeChar ++ quoteMark ::
          (after.flatMap String.utf8EncodeChar ++ rest)))), after, blankAfter, ?_, ?_⟩
    · simp only [List.flatMap_append, List.flatMap_cons, mark, colon, List.append_assoc,
        List.cons_append, List.nil_append]
      exact nextMember_first blank _
    · intro n first t bs next
      rw [readEntries, next]
      simp only [Json.readQuoted_of_quoted quoted, readColon_colon blankInner,
        readText_quoted blankOuter quoted', String.ofList_toList]
      rfl

/-- In front of members there is always one that can be read. -/
theorem exists_nextMember {entries : List (String × String)} (members : IsMembers entries cs)
    (rest : Bytes) :
    ∃ found, nextMember true (cs.flatMap String.utf8EncodeChar ++ rest) = .ok (some found) := by
  cases members with
  | last member =>
    obtain ⟨found, -, -, next, -⟩ := readEntries_member member rest
    exact ⟨found, next⟩
  | more member members =>
    rw [List.flatMap_append, List.append_assoc]
    obtain ⟨found, -, -, next, -⟩ := readEntries_member member _
    exact ⟨found, next⟩

/-- Members are read one after the other. -/
theorem readEntries_members {entries : List (String × String)} (members : IsMembers entries cs)
    (rest : Bytes) (n : Nat) (first : Bool) (t : Table) (bs : Bytes)
    (next : nextMember first bs =
      nextMember true (cs.flatMap String.utf8EncodeChar ++ 0x7D :: rest))
    (enough : entries.length < n) :
    readEntries n first t bs = .ok (entries.foldl add t, rest) := by
  induction members generalizing n first t bs with
  | last member =>
    obtain ⟨found, after, blank, here, read⟩ := readEntries_member member (0x7D :: rest)
    obtain ⟨n, rfl⟩ : ∃ m, n = m + 2 := ⟨n - 2, by simp at enough; omega⟩
    rw [read _ _ _ _ (next.trans here), readEntries, nextMember_close blank]
    simp only [closeBracket_close blank]
    rfl
  | @more entry entries cs ds member members ih =>
    have comma : String.utf8EncodeChar ',' = [0x2C] := rfl
    obtain ⟨found, after, blank, here, read⟩ := readEntries_member member
      (0x2C :: (ds.flatMap String.utf8EncodeChar ++ 0x7D :: rest))
    simp only [List.flatMap_append, List.flatMap_cons, comma, List.append_assoc,
      List.cons_append, List.nil_append] at next
    obtain ⟨n, rfl⟩ : ∃ m, n = m + 1 := ⟨n - 1, by simp at enough; omega⟩
    obtain ⟨found', another⟩ := exists_nextMember members (0x7D :: rest)
    rw [read _ _ _ _ (next.trans here),
      ih n false _ _ ((nextMember_later blank another).trans another.symm)
        (Nat.lt_of_succ_lt_succ enough)]
    rfl

/-- Every member takes up a byte at least. -/
theorem length_le_of_isMembers {entries : List (String × String)} (members : IsMembers entries cs) :
    entries.length ≤ (cs.flatMap String.utf8EncodeChar).length := by
  induction members with
  | last member =>
    obtain ⟨blanks, first, second⟩ := member
    have mark : String.utf8EncodeChar '"' = [quoteMark] := rfl
    simp only [List.flatMap_append, List.flatMap_cons, mark, List.length_append, List.length_cons]
    omega
  | more member _ ih =>
    have comma : String.utf8EncodeChar ',' = [0x2C] := rfl
    simp only [List.flatMap_append, List.flatMap_cons, comma, List.length_append, List.length_cons]
    omega

/-- **An object all of whose values are strings is read as the table of its entries.** -/
theorem ofBytes_of_isObject {entries : List (String × String)} (object : IsObject entries cs) :
    ofBytes (cs.flatMap String.utf8EncodeChar) = .ok (ofEntries entries) := by
  have opening : String.utf8EncodeChar '{' = [0x7B] := rfl
  have closing : String.utf8EncodeChar '}' = [0x7D] := rfl
  have done {before after : List Char} {inside : Bytes} (blank : IsBlank before)
      (blankAfter : IsBlank after)
      (inner : readEntries (inside.length + 1) true empty inside =
        .ok (ofEntries entries, after.flatMap String.utf8EncodeChar)) :
      ofBytes (before.flatMap String.utf8EncodeChar ++ 0x7B :: inside) =
        .ok (ofEntries entries) := by
    have nothing : skipSpace (after.flatMap String.utf8EncodeChar) = [] := by
      have passed := skipSpace_append blankAfter []
      rwa [List.append_nil] at passed
    have read : Table.read (before.flatMap String.utf8EncodeChar ++ 0x7B :: inside) =
        .ok (ofEntries entries, after.flatMap String.utf8EncodeChar) := by
      rw [Table.read, skipSpace_blank blank rfl]
      simp only [Json.opened?]
      exact inner
    rw [ofBytes, Json.readAll, read]
    simp only [nothing, if_true]
  cases object with
  | @empty before inside after blanks =>
    simp only [List.flatMap_append, List.flatMap_cons, opening, closing, List.cons_append,
      List.nil_append]
    refine done blanks.1 blanks.2.2 ?_
    rw [readEntries, nextMember_close blanks.2.1]
    simp only [closeBracket_close blanks.2.1]
    rfl
  | @members entries before cs after blanks members =>
    simp only [List.flatMap_append, List.flatMap_cons, opening, closing, List.cons_append,
      List.nil_append]
    refine done blanks.1 blanks.2 (readEntries_members members _ _ _ _ _ rfl ?_)
    have enough := length_le_of_isMembers members
    rw [List.length_append]
    omega

end Reading

/-! ### Writing objects -/

section Writing

open Json (word writeQuoted quoteMark)

/-- What is written for an entry is a member, with blanks of one's choice behind it. -/
theorem exists_isMember (name text : String) (after : List Char) (blank : IsBlank after) :
    ∃ cs, word "\n  " ++ writeQuoted name ++ word ": " ++ writeQuoted text ++
        after.flatMap String.utf8EncodeChar = cs.flatMap String.utf8EncodeChar ∧
      IsMember (name, text) cs := by
  obtain ⟨cs, bytes, quoted⟩ := Json.exists_quoted name.toList
  obtain ⟨ds, bytes', quoted'⟩ := Json.exists_quoted text.toList
  have mark : String.utf8EncodeChar '"' = [quoteMark] := rfl
  have front : word "\n  " = ['\n', ' ', ' '].flatMap String.utf8EncodeChar := rfl
  have middle : word ": " = [':', ' '].flatMap String.utf8EncodeChar := rfl
  have blanks : IsBlank ['\n', ' ', ' '] ∧ IsBlank [] ∧ IsBlank [' '] ∧ IsBlank after :=
    ⟨by simp [IsBlank], by simp [IsBlank], by simp [IsBlank], blank⟩
  refine ⟨_, ?_, .member blanks quoted quoted'⟩
  rw [writeQuoted, writeQuoted, Text.encode_eq_flatMap, Text.encode_eq_flatMap, bytes, bytes',
    front, middle]
  simp only [List.flatMap_append, List.flatMap_cons, List.flatMap_nil, mark, List.append_assoc,
    List.cons_append, List.nil_append]

/-- What is written for entries is their members, the last one with the end of its line. -/
theorem exists_isMembers (entry : String × String) (entries : List (String × String)) :
    ∃ cs, writeEntries (entry :: entries) ++ word "\n" = cs.flatMap String.utf8EncodeChar ∧
      IsMembers (entry :: entries) cs := by
  induction entries generalizing entry with
  | nil =>
    obtain ⟨cs, bytes, member⟩ := exists_isMember entry.1 entry.2 ['\n'] (by simp [IsBlank])
    exact ⟨cs, bytes, .last member⟩
  | cons next entries ih =>
    obtain ⟨cs, bytes, member⟩ := exists_isMember entry.1 entry.2 [] (by simp [IsBlank])
    obtain ⟨ds, rest, members⟩ := ih next
    refine ⟨_, ?_, .more member members⟩
    have comma : String.utf8EncodeChar ',' = word "," := rfl
    rw [List.flatMap_append, List.flatMap_cons, ← bytes, ← rest, comma]
    simp only [writeEntries, List.flatMap_nil, List.append_nil, List.append_assoc]

/-- **What is written for a table is an object all of whose values are strings**, with the entries
of the table in their order. -/
theorem exists_isObject (t : Table) :
    ∃ text : String, t.write = Text.encode text ∧ IsObject t.entries text.toList := by
  suffices object : ∃ cs, t.write = cs.flatMap String.utf8EncodeChar ∧ IsObject t.entries cs by
    obtain ⟨cs, bytes, object⟩ := object
    refine ⟨String.ofList cs, ?_, ?_⟩
    · rw [Text.encode_ofList, bytes]
    · rwa [String.toList_ofList]
  have blank : IsBlank [] := by simp [IsBlank]
  obtain ⟨entries⟩ := t
  cases entries with
  | nil => exact ⟨_, rfl, .empty ⟨blank, blank, blank⟩⟩
  | cons entry entries =>
    obtain ⟨cs, bytes, members⟩ := exists_isMembers entry entries
    refine ⟨_, ?_, .members ⟨blank, blank⟩ members⟩
    have opening : word r"{" = ['{'].flatMap String.utf8EncodeChar := rfl
    have closing : word r"}" = ['}'].flatMap String.utf8EncodeChar := rfl
    rw [write, opening, closing]
    simp only [List.nil_append, List.flatMap_cons, List.flatMap_append, List.append_assoc, ← bytes,
      List.flatMap_nil, List.append_nil]

/-- What is written for a table is read as the table. -/
theorem ofBytes_write (h : Ordered t) : ofBytes t.write = .ok t := by
  obtain ⟨text, bytes, object⟩ := exists_isObject t
  rw [bytes, Text.encode_eq_flatMap, ofBytes_of_isObject object, h.ofEntries_eq]

end Writing

end Brokerage.Table
