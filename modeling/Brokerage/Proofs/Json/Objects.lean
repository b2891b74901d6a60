import Brokerage.Proofs.Json.Following

/-!
# Records that follow the grammar

Reading a record goes through its members one after the other, but what is found does not depend on
their order: each member has the value that stands behind its name, if there is exactly one, or the
value that it takes when it is missing (`Members.object?`). Members that nobody asks for are passed
over, so only their names have to be texts.
-/

namespace Brokerage.Json

variable {α : Type} {v : Tree} {bs rest ws : Bytes}

/-! ### Members of an object -/

/-- The values of the members with this name, in their order. -/
def valuesOf (name : String) (members : List (Literal × Tree)) : List Tree :=
  members.filterMap fun m => if Literal.text? m.1 = some name then some m.2 else none

section ValuesOf

variable {l : Literal} {name key : String} (v : Tree) (members : List (Literal × Tree))

theorem valuesOf_cons_self (named : Literal.text? l = some name) :
    valuesOf name ((l, v) :: members) = v :: valuesOf name members := by
  simp [valuesOf, named]

theorem valuesOf_cons_of_ne (other : Literal.text? l ≠ some name) :
    valuesOf name ((l, v) :: members) = valuesOf name members := by
  simp [valuesOf, other]

end ValuesOf

/-- The value of a member whose values are listed, if it has been read before or not. -/
def soleValue (read : Reader α) (absent : Option α) : Option α → List Tree → Option α
  | a?, [] => a?.or absent
  | none, [v] => meaning read v
  | _, _ => none

namespace Members

variable {ts : List Type}

/-- The record that an object holds besides what has been read before. -/
def found : {ts : List Type} → Members ts → Draft ts → List (Literal × Tree) → Option (Row ts)
  | _, .nil, _, _ => some ()
  | _, .cons name read absent rest, (a?, draft), members =>
    match soleValue read absent a? (valuesOf name members), rest.found draft members with
    | some a, some row => some (a, row)
    | _, _ => none

/-- The record that an object holds besides what has been read before, if all
its names are texts. -/
def object? (ms : Members ts) (draft : Draft ts) (members : List (Literal × Tree)) :
    Option (Row ts) :=
  if ∀ m ∈ members, (Literal.text? m.1).isSome = true then ms.found draft members else none

/-- The record that a list holds: the values of the members in their order. -/
def list? : {ts : List Type} → Members ts → List Tree → Option (Row ts)
  | _, .nil, [] => some ()
  | _, .nil, _ :: _ => none
  | _, .cons _ _ absent rest, [] => absent.bind fun a => (rest.list? []).map (a, ·)
  | _, .cons _ read _ rest, v :: items =>
    (meaning read v).bind fun a => (rest.list? items).map (a, ·)

/-- The record that a tree is. -/
def tree? (ms : Members ts) : Tree → Option (Row ts)
  | .object members => ms.object? ms.blank members
  | .list items => ms.list? items
  | _ => none

/-- What holds of each member. -/
def All (P : ∀ {α : Type}, String → Reader α → Option α → Prop) :
    {ts : List Type} → Members ts → Prop
  | _, .nil => True
  | _, .cons name read absent rest => P name read absent ∧ rest.All P

/-- All readers follow the grammar. -/
def Steady (ms : Members ts) : Prop := ms.All fun _ read _ => Json.Steady read

/-- What has been read after one more member. -/
def put : {ts : List Type} → Members ts → String → Tree → Draft ts → Option (Draft ts)
  | _, .nil, _, _, draft => some draft
  | _, .cons name read _ rest, key, v, (a?, draft) =>
    if key = name then
      match a? with
      | some _ => none
      | none => (meaning read v).map fun a => (some a, draft)
    else (rest.put key v draft).map fun draft => (a?, draft)

variable {ms : Members ts}

/-- A member is read behind its name, and passed over if nobody asks for it. -/
theorem follows_fill (steady : ms.Steady) (key : String) (draft : Draft ts) {ws' : Bytes}
    (blank : Blank ws) (blank' : Blank ws') (writes : Writes v bs) (stops : Stops rest) :
    (ms.fill key draft (ws ++ 0x3A :: (ws' ++ (bs ++ rest)))).toOption =
      (ms.put key v draft).map (·, rest) := by
  induction ms with
  | nil =>
    simp only [fill, readColon_blank blank, skipValue_of_writes writes blank' stops]
    rfl
  | cons name read absent ms ih =>
    obtain ⟨here, later⟩ := steady
    obtain ⟨a?, draft⟩ := draft
    simp only [fill, put]
    split
    · cases a? with
      | some a => rfl
      | none =>
        simp only [readColon_blank blank]
        refine (toOption_map _ read _).trans ?_
        rw [here blank' writes stops]
        cases meaning read v <;> rfl
    · refine (toOption_map _ (ms.fill key draft) _).trans ?_
      rw [ih later]
      cases ms.put key v draft <;> rfl

/-- A name of no member makes no difference. -/
theorem found_cons_of_unknown {l : Literal} {key : String} (named : Literal.text? l = some key)
    (unknown : key ∉ ms.names) (draft : Draft ts) (v : Tree) (members : List (Literal × Tree)) :
    ms.found draft ((l, v) :: members) = ms.found draft members := by
  induction ms with
  | nil => rfl
  | cons name read absent ms ih =>
    obtain ⟨a?, draft⟩ := draft
    have other : Literal.text? l ≠ some name := by
      rintro same
      rw [named] at same
      exact unknown (Option.some.inj same ▸ List.mem_cons_self)
    rw [found, found, valuesOf_cons_of_ne v members other,
      ih fun known => unknown (List.mem_cons_of_mem _ known)]

/-- Of several members with one name the first one is read, and the others are one too many. -/
theorem soleValue_cons (read : Reader α) (absent a? : Option α) (v : Tree) (vs : List Tree) :
    soleValue read absent a? (v :: vs) =
      match a? with
      | some _ => none
      | none => (meaning read v).bind fun a => soleValue read absent (some a) vs := by
  cases a? with
  | some a => simp only [soleValue]
  | none =>
    cases vs with
    | nil => cases value : meaning read v <;> simp [soleValue, value]
    | cons w vs => cases meaning read v <;> simp [soleValue]

/-- What an object holds is found member by member. -/
theorem found_cons (distinct : ms.names.Nodup) {l : Literal} {key : String}
    (named : Literal.text? l = some key) (draft : Draft ts) (v : Tree)
    (members : List (Literal × Tree)) :
    ms.found draft ((l, v) :: members) = (ms.put key v draft).bind (ms.found · members) := by
  induction ms with
  | nil => rfl
  | cons name read absent ms ih =>
    obtain ⟨a?, draft⟩ := draft
    obtain ⟨fresh, distinct⟩ := List.nodup_cons.mp distinct
    simp only [put]
    by_cases same : key = name
    · subst same
      rw [if_pos rfl, found, valuesOf_cons_self v members named, soleValue_cons,
        found_cons_of_unknown named fresh]
      cases a? with
      | some a => rfl
      | none => cases meaning read v <;> rfl
    · have other : Literal.text? l ≠ some name := by
        rw [named]
        exact fun equal => same (Option.some.inj equal)
      rw [if_neg same, found, valuesOf_cons_of_ne v members other, ih distinct]
      cases ms.put key v draft with
      | none => cases soleValue read absent a? (valuesOf name members) <;> rfl
      | some draft => rfl

/-- If nothing is left to be read, the record is what has been read. -/
theorem found_nil (draft : Draft ts) : ms.found draft [] = ms.finish draft := by
  induction ms with
  | nil => rfl
  | cons name read absent ms ih =>
    obtain ⟨a?, draft⟩ := draft
    rw [found, finish, ih]
    rfl

theorem object?_cons (distinct : ms.names.Nodup) (l : Literal) (v : Tree) (draft : Draft ts)
    (members : List (Literal × Tree)) :
    ms.object? draft ((l, v) :: members) =
      (Literal.text? l).bind fun key => (ms.put key v draft).bind (ms.object? · members) := by
  unfold object?
  cases named : Literal.text? l with
  | none =>
    rw [if_neg]
    · rfl
    · intro all
      have here := all _ List.mem_cons_self
      rw [named] at here
      cases here
  | some key =>
    have all : (∀ m ∈ (l, v) :: members, (Literal.text? m.1).isSome = true) ↔
        ∀ m ∈ members, (Literal.text? m.1).isSome = true := by
      simp [named]
    rw [if_congr all rfl rfl, found_cons distinct named, Option.bind_some]
    cases ms.put key v draft with
    | none =>
      simp only [Option.bind_none]
      split <;> rfl
    | some draft => rfl

theorem object?_nil (ms : Members ts) (draft : Draft ts) :
    ms.object? draft [] = ms.finish draft := by
  rw [object?, if_pos nofun, found_nil]

end Members

/-! ### Reading an object -/

theorem nextMember_close (first : Bool) (blank : Blank ws) (rest : Bytes) :
    nextMember first (ws ++ Bracket.object.close :: rest) = .ok none := by
  rw [nextMember, skipSpace_blank_cons blank (by decide)]
  exact if_pos rfl

theorem nextMember_separated {first : Bool} (separates : Separates first ws) (rest : Bytes) :
    nextMember first (ws ++ quoteMark :: rest) = .ok (some rest) := by
  have mark : quoteMark ≠ Bracket.object.close := by decide
  cases first with
  | true =>
    rw [nextMember, skipSpace_blank_cons separates (by decide)]
    simp only [if_neg mark, if_true]
  | false =>
    obtain ⟨front, back, rfl, blank, blank'⟩ := separates
    rw [List.append_assoc, List.cons_append, nextMember, skipSpace_blank_cons blank (by decide)]
    simp only [if_neg (close_ne_comma .object).symm, Bool.false_eq_true, if_false, if_true,
      skipSpace_blank_cons (b := quoteMark) blank' (by decide)]

section Records

variable {ts : List Type} {ms : Members ts}

/-- **The members of an object are read for the record that they make up**, whatever stands between
them. -/
theorem follows_readMembers (steady : ms.Steady) (distinct : ms.names.Nodup)
    {members : List (Literal × Tree)} {n : Nat} {first : Bool} {draft : Draft ts}
    (spaced : Spaced (WritesMember Writes) Bracket.object.close first members bs)
    (enough : members.length < n) :
    (Reader.filterMap ms.finish (readMembers ms n first draft) (bs ++ rest)).toOption =
      (ms.object? draft members).map (·, rest) := by
  -- on the members that are left, with any draft of those that have been read
  induction spaced generalizing n draft with
  | nil blank =>
    obtain ⟨n, rfl⟩ := Nat.exists_eq_add_one_of_ne_zero (Nat.ne_of_gt enough)
    rw [toOption_filterMap, List.append_assoc, List.singleton_append, readMembers,
      nextMember_close _ blank, Members.object?_nil]
    simp only [closeBracket_blank .object blank]
    rfl
  | @cons first ws bs cs m members separates member later ih =>
    obtain @⟨l, v, ws', ws'', bs, blank, blank', value⟩ := member
    obtain ⟨n, rfl⟩ := Nat.exists_eq_add_one_of_ne_zero (Nat.ne_of_gt (Nat.zero_lt_of_lt enough))
    have name := readQuoted_literal l (ws' ++ 0x3A :: (ws'' ++ (bs ++ (cs ++ rest))))
    rw [Members.object?_cons distinct, Reader.filterMap]
    simp only [List.append_assoc, List.cons_append, readMembers, nextMember_separated separates]
    rcases cases_of_toOption name with ⟨unread, e, failed⟩ | ⟨key, known, found⟩
    · rw [unread]
      simp only [failed]
      rfl
    · rw [known, Option.bind_some]
      simp only [found]
      have filled := Members.follows_fill steady key draft blank blank' value (later.stops rest)
      rcases cases_of_toOption filled with ⟨unread, e, failed⟩ | ⟨draft', put, found⟩
      · rw [unread]
        simp only [failed]
        rfl
      · rw [put, Option.bind_some]
        simp only [found]
        exact ih (Nat.lt_of_succ_lt_succ enough)

/-! ### Reading a list -/

/-- What is found where a list is closed behind what was read. -/
def closing {α : Type} (found : Except Fault (α × Bytes)) : Option (α × Bytes) :=
  found.toOption.bind fun p => (closeBracket .array p.2).toOption.map (p.1, ·)

/-- A value in front is in front of what is found. -/
theorem closing_map {α β : Type} (g : α → β) (read : Reader α) (bs : Bytes) :
    closing (Reader.map g read bs) = (closing (read bs)).map fun p => (g p.1, p.2) := by
  unfold closing
  rw [toOption_map]
  cases (read bs).toOption with
  | none => rfl
  | some p =>
    simp only [Option.map_some, Option.bind_some, Option.map_map]
    rfl

/-- The values of a record in a list are read in their order. -/
theorem follows_readRow (steady : ms.Steady) {items : List Tree} {first : Bool}
    (spaced : Spaced Writes Bracket.array.close first items bs) :
    closing (readRow ms first (bs ++ rest)) = (ms.list? items).map (·, rest) := by
  induction ms generalizing items first bs with
  | nil =>
    show ((closeBracket .array (bs ++ rest)).toOption.map ((), ·)) = _
    cases spaced with
    | nil blank =>
      rw [List.append_assoc, List.singleton_append, closeBracket_blank .array blank]
      rfl
    | cons separates here later =>
      obtain ⟨b, tail, rfl, starts⟩ := starts_of_writes here
      rw [List.append_assoc, List.append_assoc, List.cons_append,
        closeBracket_separated separates starts.solid starts.open_]
      rfl
  | @cons α ts name read absent ms ih =>
    obtain ⟨steady, others⟩ := steady
    -- a value in front of the record that the other members make up
    have front {items : List Tree} {first : Bool} {bs : Bytes} (a : α)
        (spaced : Spaced Writes Bracket.array.close first items bs) :
        closing (Reader.map (fun row : Row ts => ((a, row) : Row (α :: ts))) (readRow ms first)
          (bs ++ rest)) =
            ((ms.list? items).map fun row => ((a, row) : Row (α :: ts))).map (·, rest) := by
      rw [closing_map, ih others spaced, Option.map_map, Option.map_map]
      rfl
    cases spaced with
    | @nil _ ws blank =>
      have closed : Spaced Writes Bracket.array.close first [] (ws ++ [Bracket.array.close]) :=
        .nil blank
      have behind (a : α) := front a closed
      rw [List.append_assoc, List.singleton_append] at behind ⊢
      unfold readRow
      rw [nextElement_close first blank]
      cases absent with
      | none => rfl
      | some a => exact behind a
    | @cons _ ws bs cs v items separates here later =>
      have next := steady blank_nil here (later.stops rest)
      obtain ⟨b, tail, rfl, starts⟩ := starts_of_writes here
      rw [List.append_assoc, List.append_assoc, List.cons_append]
      rw [List.nil_append, List.cons_append] at next
      unfold readRow
      rw [nextElement_separated separates starts.solid starts.open_]
      rcases cases_of_toOption next with ⟨unread, e, failed⟩ | ⟨a, value, found⟩
      · simp only [failed, Members.list?, unread]
        rfl
      · simp only [found, Members.list?, value, Option.bind_some]
        exact front a later

/-- **What is read as a record is the record that the tree is.** -/
theorem follows_readRecord (steady : ms.Steady) (distinct : ms.names.Nodup) :
    Follows (readRecord ms) ms.tree? := by
  intro v ws bs rest blank writes stops
  obtain ⟨b, tail, rfl, starts⟩ := starts_of_writes writes
  rw [List.cons_append, readRecord, skipSpace_blank_cons blank starts.solid]
  dsimp only
  split
  · next object =>
    obtain ⟨members, rfl⟩ := starts.object.mp object
    cases writes with
    | object parts =>
      have count := parts.length_le
      rw [if_pos rfl, Nat.add_zero] at count
      refine follows_readMembers steady distinct parts ?_
      rw [List.length_append]
      omega
  · next list =>
    obtain ⟨items, rfl⟩ := starts.list.mp list
    cases writes with
    | list parts =>
      have row : closing (readRow ms true (tail ++ rest)) = _ := follows_readRow steady parts
      rw [Members.tree?, ← row]
      cases readRow ms true (tail ++ rest) with
      | error e => rfl
      | ok p => exact toOption_exceptMap _ _
  · next other =>
    cases v with
    | list items => rw [starts.list.mpr ⟨items, rfl⟩] at other; cases other
    | object members => rw [starts.object.mpr ⟨members, rfl⟩] at other; cases other
    | _ => rfl

end Records

end Brokerage.Json
