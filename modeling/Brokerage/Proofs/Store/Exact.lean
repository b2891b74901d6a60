import Brokerage.Proofs.Json.Exact
import Brokerage.Proofs.Store.Table

/-!
# Nothing but objects of texts is read as a table

A text that is read as a table is an object all of whose values are strings (`isObject_of_ofBytes`),
so a text is read as a table exactly if it is such an object (`ofBytes_eq_ok_iff`). Each step of the
reader is turned round: from what it leaves to read, the characters that it has passed.
-/

namespace Brokerage.Table

variable {t t' : Table} {name text : String} {entries : List (String × String)}
  {cs es : List Char} {rest found : Bytes} {b : UInt8} {first : Bool}

open Json (isSpace skipSpace quoteMark nextMember closeBracket readColon readText exists_of_ascii)

/-! ### Blanks -/

/-- A byte of white space is a blank. -/
theorem blank_of_isSpace (space : isSpace b = true) :
    b < 0x80 ∧ Char.ofNat b.toNat ∈ [' ', '\n', '\t', '\r'] := by
  simp only [isSpace, Bool.or_eq_true, beq_iff_eq] at space
  rcases space with ((rfl | rfl) | rfl) | rfl <;> decide

/-- What is passed over in front of the next byte is blanks. -/
theorem exists_of_skipSpace (cs : List Char) :
    ∃ before es, cs = before ++ es ∧ IsBlank before ∧
      skipSpace (cs.flatMap String.utf8EncodeChar) = es.flatMap String.utf8EncodeChar := by
  induction cs with
  | nil => exact ⟨[], [], rfl, nofun, rfl⟩
  | cons c cs ih =>
    obtain ⟨b, bs, bytes⟩ := List.exists_cons_of_ne_nil
      (List.append_ne_nil_of_left_ne_nil (String.utf8EncodeChar_ne_nil (c := c))
        (cs.flatMap String.utf8EncodeChar))
    rw [← List.flatMap_cons] at bytes
    by_cases space : isSpace b = true
    · obtain ⟨ascii, blank⟩ := blank_of_isSpace space
      obtain ⟨_, same, -⟩ := exists_of_ascii ascii bytes
      obtain ⟨rfl, -⟩ := List.cons.inj same
      obtain ⟨before, es, rfl, blanks, passed⟩ := ih
      have one : IsBlank [Char.ofNat b.toNat] := by simpa [IsBlank] using blank
      refine ⟨_ :: before, es, rfl, fun c there => ?_, ?_⟩
      · rcases List.mem_cons.mp there with rfl | later
        · exact blank
        · exact blanks c later
      · have skipped := skipSpace_append one ((before ++ es).flatMap String.utf8EncodeChar)
        rw [List.flatMap_singleton] at skipped
        rw [List.flatMap_cons, skipped, passed]
    · refine ⟨[], c :: cs, rfl, nofun, ?_⟩
      rw [bytes, skipSpace, List.dropWhile_cons_of_neg space]

/-- If the next byte is one of ASCII, it is a character with blanks in front of it. -/
theorem exists_of_skipSpace_cons (ascii : b < 0x80)
    (here : skipSpace (cs.flatMap String.utf8EncodeChar) = b :: rest) :
    ∃ before es, cs = before ++ Char.ofNat b.toNat :: es ∧ IsBlank before ∧
      rest = es.flatMap String.utf8EncodeChar := by
  obtain ⟨before, es, rfl, blanks, passed⟩ := exists_of_skipSpace cs
  obtain ⟨es, rfl, behind⟩ := exists_of_ascii ascii (passed.symm.trans here)
  exact ⟨before, es, rfl, blanks, behind.symm⟩

/-- A reader that passes over blanks and one byte of ASCII has passed that character. -/
theorem exists_of_expect (ascii : b < 0x80)
    (read : (match skipSpace (cs.flatMap String.utf8EncodeChar) with
      | [] => .error .ended
      | d :: behind => if d = b then .ok behind else .error .malformed : Except Json.Fault Bytes) =
        .ok rest) :
    ∃ before es, cs = before ++ Char.ofNat b.toNat :: es ∧ IsBlank before ∧
      rest = es.flatMap String.utf8EncodeChar := by
  split at read
  · cases read
  next d behind here =>
  split at read
  · next same =>
    cases read
    subst same
    exact exists_of_skipSpace_cons ascii here
  · cases read

/-! ### The parts of an object -/

theorem exists_of_nextMember_first
    (next : nextMember true (cs.flatMap String.utf8EncodeChar) = .ok (some found)) :
    ∃ before es, cs = before ++ '"' :: es ∧ IsBlank before ∧
      found = es.flatMap String.utf8EncodeChar := by
  rw [nextMember] at next
  split at next
  · cases next
  next b rest here =>
  split at next
  · cases next
  rw [if_pos rfl] at next
  split at next
  · next mark =>
    cases next
    subst mark
    exact exists_of_skipSpace_cons (by decide) here
  · cases next

theorem exists_of_nextMember_later
    (next : nextMember false (cs.flatMap String.utf8EncodeChar) = .ok (some found)) :
    ∃ before inner es, cs = before ++ ',' :: (inner ++ '"' :: es) ∧ IsBlank before ∧
      IsBlank inner ∧ found = es.flatMap String.utf8EncodeChar := by
  rw [nextMember] at next
  split at next
  · cases next
  next b rest here =>
  split at next
  · cases next
  rw [if_neg Bool.false_ne_true] at next
  split at next
  · next comma =>
    subst comma
    obtain ⟨before, es, rfl, blank, rfl⟩ := exists_of_skipSpace_cons (by decide) here
    split at next
    · cases next
    next b rest there =>
    split at next
    · next mark =>
      cases next
      subst mark
      obtain ⟨inner, es, rfl, blank', rfl⟩ := exists_of_skipSpace_cons (by decide) there
      exact ⟨before, inner, es, rfl, blank, blank', rfl⟩
    · cases next
  · cases next

theorem exists_of_closeBracket
    (closed : closeBracket .object (cs.flatMap String.utf8EncodeChar) = .ok rest) :
    ∃ before es, cs = before ++ '}' :: es ∧ IsBlank before ∧
      rest = es.flatMap String.utf8EncodeChar :=
  exists_of_expect (by decide) closed

theorem exists_of_readColon
    (read : readColon (cs.flatMap String.utf8EncodeChar) = .ok rest) :
    ∃ before es, cs = before ++ ':' :: es ∧ IsBlank before ∧
      rest = es.flatMap String.utf8EncodeChar :=
  exists_of_expect (by decide) read

theorem exists_of_readText
    (read : readText (cs.flatMap String.utf8EncodeChar) = .ok (text, rest)) :
    ∃ before ds es, cs = before ++ '"' :: (ds ++ '"' :: es) ∧ IsBlank before ∧
      Json.Quoted ds text.toList ∧ rest = es.flatMap String.utf8EncodeChar := by
  rw [readText] at read
  split at read
  · cases read
  next b _ here =>
  split at read
  · next mark =>
    subst mark
    obtain ⟨before, es, rfl, blank, rfl⟩ := exists_of_skipSpace_cons (by decide) here
    obtain ⟨ds, es, rfl, quoted, rfl⟩ := Json.quoted_of_readQuoted read
    exact ⟨before, ds, es, rfl, blank, quoted, rfl⟩
  · cases read

/-! ### Members -/

/-- What comes after a member: the closing bracket, or a comma and more members first. `es` is
behind the bracket. -/
inductive Rest : List (String × String) → List Char → List Char → Prop where
  | close {before es : List Char} (blank : IsBlank before) : Rest [] (before ++ '}' :: es) es
  | more {entries : List (String × String)} {before cs es : List Char} (blank : IsBlank before)
      (members : IsMembers entries cs) : Rest entries (before ++ ',' :: (cs ++ '}' :: es)) es

/-- A member and what comes after it are members and the closing bracket. -/
theorem Rest.members {before inner outer ds ds' : List Char} (rest : Rest entries cs es)
    (blanks : IsBlank before ∧ IsBlank inner ∧ IsBlank outer)
    (quoted : Json.Quoted ds name.toList) (quoted' : Json.Quoted ds' text.toList) :
    ∃ ms, IsMembers ((name, text) :: entries) ms ∧
      before ++ '"' :: (ds ++ '"' :: (inner ++ ':' :: (outer ++
        '"' :: (ds' ++ '"' :: cs)))) = ms ++ '}' :: es := by
  obtain ⟨blank, blankInner, blankOuter⟩ := blanks
  cases rest with
  | close blankAfter =>
    refine ⟨_, .last (.member ⟨blank, blankInner, blankOuter, blankAfter⟩ quoted quoted'), ?_⟩
    simp only [List.append_assoc, List.cons_append]
  | more blankAfter members =>
    have member := IsMember.member ⟨blank, blankInner, blankOuter, blankAfter⟩ quoted quoted'
    refine ⟨_, .more member members, ?_⟩
    simp only [List.append_assoc, List.cons_append]

/-- What a step of reading entries has read, if all of them are read in the end. -/
theorem exists_of_readEntries_succ {n : Nat} {bs : Bytes}
    (read : readEntries (n + 1) first t bs = .ok (t', rest)) :
    (nextMember first bs = .ok none ∧ closeBracket .object bs = .ok rest ∧ t' = t) ∨
      ∃ found behind inner outer name text, nextMember first bs = .ok (some found) ∧
        Json.readQuoted found = .ok (name, behind) ∧ readColon behind = .ok inner ∧
        readText inner = .ok (text, outer) ∧
        readEntries n false (t.insert name text) outer = .ok (t', rest) := by
  rw [readEntries] at read
  split at read
  · cases read
  · next last =>
    left
    cases closed : closeBracket .object bs with
    | error e =>
      rw [closed] at read
      cases read
    | ok behind =>
      rw [closed] at read
      cases read
      exact ⟨last, rfl, rfl⟩
  next found next =>
  right
  split at read
  · cases read
  next name behind named =>
  split at read
  · cases read
  next inner colon =>
  split at read
  · cases read
  next text outer value =>
  exact ⟨found, behind, inner, outer, name, text, next, named, colon, value, read⟩

/-- Behind the mark in front of a name, the reader has passed a member and what comes after it. -/
theorem exists_of_member {behind inner outer : Bytes}
    (named : Json.readQuoted (cs.flatMap String.utf8EncodeChar) = .ok (name, behind))
    (colon : readColon behind = .ok inner) (value : readText inner = .ok (text, outer)) :
    ∃ ds inside outside ds' es, cs = ds ++ '"' :: (inside ++ ':' :: (outside ++
        '"' :: (ds' ++ '"' :: es))) ∧
      Json.Quoted ds name.toList ∧ Json.Quoted ds' text.toList ∧ IsBlank inside ∧
      IsBlank outside ∧ outer = es.flatMap String.utf8EncodeChar := by
  obtain ⟨ds, es, rfl, quoted, rfl⟩ := Json.quoted_of_readQuoted named
  obtain ⟨inside, es, rfl, blank, rfl⟩ := exists_of_readColon colon
  obtain ⟨outside, ds', es, rfl, blank', quoted', rfl⟩ := exists_of_readText value
  exact ⟨ds, inside, outside, ds', es, rfl, quoted, quoted', blank, blank', rfl⟩

/-- What is read behind a member comes after one. -/
theorem exists_rest {n : Nat}
    (read : readEntries n false t (cs.flatMap String.utf8EncodeChar) = .ok (t', rest)) :
    ∃ entries es, Rest entries cs es ∧ t' = entries.foldl add t ∧
      rest = es.flatMap String.utf8EncodeChar := by
  induction n generalizing cs t with
  | zero => cases read
  | succ n ih =>
    rcases exists_of_readEntries_succ read with
      ⟨-, closed, rfl⟩ | ⟨_, _, _, _, name, text, next, named, colon, value, later⟩
    · obtain ⟨before, es, rfl, blank, rfl⟩ := exists_of_closeBracket closed
      exact ⟨[], es, .close blank, rfl, rfl⟩
    · obtain ⟨before, inner, es, rfl, blank, blankInner, rfl⟩ := exists_of_nextMember_later next
      obtain ⟨_, _, _, _, _, rfl, quoted, quoted', blanks, blanks', rfl⟩ :=
        exists_of_member named colon value
      obtain ⟨entries, es, after, rfl, rfl⟩ := ih later
      obtain ⟨ms, members, same⟩ := after.members ⟨blankInner, blanks, blanks'⟩ quoted quoted'
      rw [same]
      exact ⟨_, es, .more blank members, rfl, rfl⟩

/-- What is read behind the opening bracket is members and the closing one, or that one alone. -/
theorem exists_members {n : Nat}
    (read : readEntries n true t (cs.flatMap String.utf8EncodeChar) = .ok (t', rest)) :
    ∃ entries inner es, cs = inner ++ '}' :: es ∧ t' = entries.foldl add t ∧
      rest = es.flatMap String.utf8EncodeChar ∧
      (entries = [] ∧ IsBlank inner ∨ IsMembers entries inner) := by
  cases n with
  | zero => cases read
  | succ n =>
    rcases exists_of_readEntries_succ read with
      ⟨-, closed, rfl⟩ | ⟨_, _, _, _, name, text, next, named, colon, value, later⟩
    · obtain ⟨before, es, rfl, blank, rfl⟩ := exists_of_closeBracket closed
      exact ⟨[], before, es, rfl, rfl, rfl, .inl ⟨rfl, blank⟩⟩
    · obtain ⟨before, es, rfl, blank, rfl⟩ := exists_of_nextMember_first next
      obtain ⟨_, _, _, _, _, rfl, quoted, quoted', blanks, blanks', rfl⟩ :=
        exists_of_member named colon value
      obtain ⟨entries, es, after, rfl, rfl⟩ := exists_rest later
      obtain ⟨ms, members, same⟩ := after.members ⟨blank, blanks, blanks'⟩ quoted quoted'
      rw [same]
      exact ⟨_, ms, es, rfl, rfl, rfl, .inr members⟩

/-! ### Objects -/

/-- **A text that is read as a table is an object all of whose values are strings**, and the table
is that of its entries. -/
theorem isObject_of_ofBytes (read : ofBytes (cs.flatMap String.utf8EncodeChar) = .ok t) :
    ∃ entries, IsObject entries cs ∧ t = ofEntries entries := by
  rw [ofBytes, Json.readAll] at read
  split at read
  swap
  · cases read
  next t' rest whole =>
  split at read
  swap
  · cases read
  next nothing =>
  cases read
  rw [Table.read] at whole
  split at whole
  · cases whole
  next b bs here =>
  split at whole
  swap
  · cases whole
  next opened =>
  have brace : b = 0x7B := by
    rw [Json.opened?] at opened
    split at opened
    · cases opened
    split at opened
    · next brace => exact brace
    · cases opened
  subst brace
  obtain ⟨before, es, rfl, blank, rfl⟩ := exists_of_skipSpace_cons (by decide) here
  obtain ⟨entries, inner, es, rfl, rfl, rfl, inside⟩ := exists_members whole
  -- what is left to read is blanks
  obtain ⟨after, es, rfl, blankAfter, passed⟩ := exists_of_skipSpace es
  have last : es = [] := by
    rw [nothing] at passed
    cases es with
    | nil => rfl
    | cons c es =>
      rw [List.flatMap_cons] at passed
      exact absurd (List.append_eq_nil_iff.mp passed.symm).1 String.utf8EncodeChar_ne_nil
  rw [last, List.append_nil]
  refine ⟨entries, ?_, rfl⟩
  rcases inside with ⟨rfl, blankInner⟩ | members
  · exact .empty ⟨blank, blankInner, blankAfter⟩
  · exact .members ⟨blank, blankAfter⟩ members

/-- **Objects of texts are what is read as tables, and nothing else is.** -/
theorem ofBytes_eq_ok_iff :
    ofBytes (Text.encode text) = .ok t ↔
      ∃ entries, IsObject entries text.toList ∧ t = ofEntries entries := by
  rw [Text.encode_eq_flatMap]
  constructor
  · exact isObject_of_ofBytes
  · rintro ⟨entries, object, rfl⟩
    exact ofBytes_of_isObject object

end Brokerage.Table
