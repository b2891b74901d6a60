import Brokerage.Proofs.Json.Written
import Mathlib.Data.List.Nodup

/-!
# Records that are written

A record is read member by member. Which of its members have been read is all that matters for what
has been found so far (`Members.drafted`), so the values of the members (`Listed`) may be read one
after the other in any order (`Listed.found`), and a record denotes its row (`Listed.denotes`).

A member that is `null` says no more than one that is left out, if there is a value for it then.
`Respelled` leaves out members that are `null`, at any depth of a value, and changes the order
of the others. A reader takes a value for `a` however it is spelled (`Reads`). There is one rule
for each reader again.
-/

namespace Brokerage.Json

variable {α β : Type} {ts : List Type}

/-! ### Members and their values -/

/-- The values of members in their order. Those of members that may be missing may be left out. -/
inductive Listed : {ts : List Type} → Members ts → List (String × Value) → Row ts → Prop where
  | nil : Listed .nil [] ()
  | there {α : Type} {ts : List Type} {name : String} {read : Reader α} {absent : Option α}
      {ms : Members ts} {v : Value} {a : α} {vs : List (String × Value)} {row : Row ts}
      (value : Denotes read v a) (rest : Listed ms vs row) :
      Listed (.cons name read absent ms) ((name, v) :: vs) (a, row)
  | missing {α : Type} {ts : List Type} {name : String} {read : Reader α} {ms : Members ts} {a : α}
      {vs : List (String × Value)} {row : Row ts} (rest : Listed ms vs row) :
      Listed (.cons name read (some a) ms) vs (a, row)

theorem mem_concat_iff {name key : String} (other : name ≠ key) (seen : List String) :
    name ∈ seen ++ [key] ↔ name ∈ seen := by
  simp [other]

namespace Members

/-- What has been found once the members with these names have been read. -/
def drafted (seen : List String) : {ts : List Type} → Members ts → Row ts → Draft ts
  | _, .nil, _ => ()
  | _, .cons name _ _ ms, (a, row) => (if name ∈ seen then some a else none, ms.drafted seen row)

theorem drafted_nil (ms : Members ts) (row : Row ts) : ms.drafted [] row = ms.blank := by
  induction ms with
  | nil => rfl
  | cons name read absent ms ih =>
    obtain ⟨a, row⟩ := row
    rw [drafted, blank, ih]
    rfl

/-- A name of no member makes no difference. -/
theorem drafted_concat {ms : Members ts} {key : String} (unknown : key ∉ ms.names)
    (seen : List String) (row : Row ts) :
    ms.drafted (seen ++ [key]) row = ms.drafted seen row := by
  induction ms with
  | nil => rfl
  | cons name read absent ms ih =>
    obtain ⟨a, row⟩ := row
    have other : name ≠ key := fun same => unknown (same ▸ List.mem_cons_self)
    rw [drafted, drafted, ih fun known => unknown (List.mem_cons_of_mem _ known),
      if_congr (mem_concat_iff other seen) rfl rfl]

section Fill

variable {name key : String} {read : Reader α} {absent : Option α} {ms : Members ts}

/-- A member that has not been read is read behind its colon. -/
theorem fill_self {bs bs' : Bytes} (colon : readColon bs = .ok bs') (draft : Draft ts) :
    (cons name read absent ms).fill name (none, draft) bs =
      Reader.map (fun a => (some a, draft)) read bs' := by
  show (if name = name then _ else _) = _
  rw [if_pos rfl, colon]
  rfl

theorem fill_of_ne (other : key ≠ name) (a? : Option α) (draft : Draft ts) (bs : Bytes) :
    (cons name read absent ms).fill key (a?, draft) bs =
      Reader.map (fun draft => (a?, draft)) (ms.fill key draft) bs :=
  if_neg other

end Fill

end Members

namespace Listed

variable {ms : Members ts} {vs : List (String × Value)} {row : Row ts}

theorem names_sublist (h : Listed ms vs row) : (vs.map Prod.fst).Sublist ms.names := by
  induction h with
  | nil => exact .slnil
  | there _ _ ih => exact ih.cons_cons _
  | missing _ ih => exact ih.cons _

/-- Members that have not been read have the values that they are to have if they are missing. -/
theorem finish (h : Listed ms vs row) {seen : List String}
    (all : ∀ key ∈ vs.map Prod.fst, key ∈ seen) : ms.finish (ms.drafted seen row) = some row := by
  induction h with
  | nil => rfl
  | there _ _ ih =>
    have here := all _ List.mem_cons_self
    rw [Members.drafted, Members.finish, if_pos here,
      ih fun key later => all key (List.mem_cons_of_mem _ later)]
    rfl
  | @missing _ _ name _ _ _ _ _ _ ih =>
    rw [Members.drafted, Members.finish, ih all]
    by_cases there : name ∈ seen
    · rw [if_pos there]
      rfl
    · rw [if_neg there]
      rfl

/-- The value of a member is found behind its name, if it has not been read before. -/
theorem fill (h : Listed ms vs row) (distinct : ms.names.Nodup) {key : String} {v : Value}
    (member : (key, v) ∈ vs) {seen : List String} (unseen : key ∉ seen) {rest : Bytes}
    (closes : Closes rest) :
    ms.fill key (ms.drafted seen row) (0x3A :: (v.write ++ rest)) =
      .ok (ms.drafted (seen ++ [key]) row, rest) := by
  induction h with
  | nil => cases member
  | @there _ _ name read absent ms w a vs row value later ih =>
    obtain ⟨fresh, distinct⟩ := List.nodup_cons.mp distinct
    rcases List.mem_cons.mp member with here | behind
    · obtain ⟨rfl, rfl⟩ := Prod.mk.inj here
      have colon : readColon (0x3A :: (v.write ++ rest)) = .ok (v.write ++ rest) := by
        rw [readColon, skipSpace_cons (by decide)]
        rfl
      rw [Members.drafted, Members.drafted, Members.drafted_concat fresh, if_neg unseen,
        if_pos (List.mem_append_right _ List.mem_cons_self), Members.fill_self colon, Reader.map,
        value.found rest closes]
      rfl
    -- the name of a later member is another one, so this one stays as it is
    · have known : key ∈ ms.names := later.names_sublist.subset (List.mem_map_of_mem behind)
      have other : key ≠ name := fun same => fresh (same ▸ known)
      rw [Members.drafted, Members.drafted, Members.fill_of_ne other, Reader.map,
        ih distinct behind, if_congr (mem_concat_iff other.symm seen) rfl rfl]
      rfl
  | @missing _ _ name read ms a vs row later ih =>
    obtain ⟨fresh, distinct⟩ := List.nodup_cons.mp distinct
    have known : key ∈ ms.names := later.names_sublist.subset (List.mem_map_of_mem member)
    have other : key ≠ name := fun same => fresh (same ▸ known)
    rw [Members.drafted, Members.drafted, Members.fill_of_ne other, Reader.map, ih distinct member,
      if_congr (mem_concat_iff other.symm seen) rfl rfl]
    rfl

end Listed

/-! ### Reading a record -/

/-- The members of an object from the next one on, with the closing bracket and what comes behind
it. -/
def membersFrom (first : Bool) (rest : Bytes) : List (String × Value) → Bytes
  | [] => Bracket.object.close :: rest
  | (name, v) :: vs =>
    (if first then [] else [0x2C]) ++
      (writeQuoted name ++ 0x3A :: (v.write ++ membersFrom false rest vs))

theorem writeMembers_append (vs : List (String × Value)) (rest : Bytes) :
    Value.writeMembers vs ++ Bracket.object.close :: rest = membersFrom true rest vs := by
  have later (name : String) (v : Value) (vs : List (String × Value)) :
      Value.writeMembers ((name, v) :: vs) ++ Bracket.object.close :: rest =
        writeQuoted name ++ 0x3A :: (v.write ++ membersFrom false rest vs) := by
    induction vs generalizing name v with
    | nil => rw [Value.writeMembers, membersFrom, List.append_assoc, List.cons_append]
    | cons m vs ih =>
      obtain ⟨name', w⟩ := m
      rw [Value.writeMembers, List.append_assoc, List.cons_append, List.append_assoc,
        List.cons_append, ih, membersFrom]
      rfl
  cases vs with
  | nil => rw [Value.writeMembers, membersFrom, List.nil_append]
  | cons m vs => exact later m.1 m.2 vs

theorem closes_membersFrom (rest : Bytes) (vs : List (String × Value)) :
    Closes (membersFrom false rest vs) := by
  cases vs with
  | nil => exact .cons (by decide) rest
  | cons m vs => exact .cons (by decide) _

/-- Every member takes up a byte at least. -/
theorem length_lt_membersFrom (first : Bool) (rest : Bytes) (vs : List (String × Value)) :
    vs.length < (membersFrom first rest vs).length := by
  induction vs generalizing first with
  | nil => exact Nat.succ_pos _
  | cons m vs ih =>
    have tail := ih false
    rw [membersFrom]
    simp only [List.length_append, List.length_cons]
    omega

/-- The next member starts with the mark before its name. -/
theorem nextMember_membersFrom (first : Bool) (rest : Bytes) (name : String) (v : Value)
    (vs : List (String × Value)) :
    nextMember first (membersFrom first rest ((name, v) :: vs)) =
      .ok (some ((Text.encode name).flatMap escapeByte ++
        quoteMark :: 0x3A :: (v.write ++ membersFrom false rest vs))) := by
  rw [membersFrom, writeQuoted_append]
  cases first with
  | true =>
    rw [if_pos rfl, List.nil_append, nextMember, skipSpace_cons (by decide)]
    rfl
  | false =>
    rw [if_neg (by decide), List.singleton_append, nextMember, skipSpace_cons (by decide)]
    simp only [skipSpace_cons (b := quoteMark) (by decide)]
    rfl

/-- Members are read one after the other. -/
theorem Listed.found {ms : Members ts} {vs : List (String × Value)} {row : Row ts}
    (h : Listed ms vs row) (distinct : ms.names.Nodup) (rest : Bytes)
    (next : List (String × Value)) (known : ∀ m ∈ next, m ∈ vs) (n : Nat) (first : Bool)
    (seen : List String) (unseen : (seen ++ next.map Prod.fst).Nodup) (enough : next.length < n) :
    readMembers ms n first (ms.drafted seen row) (membersFrom first rest next) =
      .ok (ms.drafted (seen ++ next.map Prod.fst) row, rest) := by
  -- on what is still to be read, which is any part of `vs`; each member read is one more seen
  induction next generalizing n first seen with
  | nil =>
    obtain ⟨n, rfl⟩ := Nat.exists_eq_add_one_of_ne_zero (Nat.ne_of_gt enough)
    rw [List.map_nil, List.append_nil]
    rfl
  | cons m next ih =>
    obtain ⟨key, v⟩ := m
    obtain ⟨n, rfl⟩ := Nat.exists_eq_add_one_of_ne_zero (Nat.ne_of_gt (Nat.zero_lt_of_lt enough))
    rw [List.map_cons, List.append_cons] at unseen ⊢
    have new : key ∉ seen := fun there =>
      List.disjoint_of_nodup_append (List.Nodup.of_append_left unseen) there List.mem_cons_self
    have filled := h.fill distinct (known _ List.mem_cons_self) new (closes_membersFrom rest next)
    rw [readMembers, nextMember_membersFrom]
    simp only [readQuoted_written, filled]
    exact ih (fun m later => known m (List.mem_cons_of_mem _ later)) n false _ unseen
      (Nat.lt_of_succ_lt_succ enough)

/-- **An object with the values of its members, in any order, denotes the record that consists of
them.** -/
theorem Listed.denotes {ms : Members ts} {vs ws : List (String × Value)} {row : Row ts}
    (h : Listed ms vs row) (distinct : ms.names.Nodup) (order : vs.Perm ws) :
    Denotes (readRecord ms) (.object ws) row := by
  have written (rest : Bytes) :
      (Value.object ws).write ++ rest = 0x7B :: membersFrom true rest ws := by
    rw [Value.write, List.cons_append, List.append_assoc, List.singleton_append,
      ← writeMembers_append]
    rfl
  refine ⟨⟨0x7B, _, by rw [Value.write], by decide, by decide⟩, fun rest _ => ?_⟩
  have unseen : ([] ++ ws.map Prod.fst).Nodup :=
    (order.map Prod.fst).nodup_iff.mp (h.names_sublist.nodup distinct)
  have read := h.found distinct rest ws (fun _ there => order.symm.subset there)
    ((membersFrom true rest ws).length + 1) true [] unseen
    (Nat.lt_succ_of_lt (length_lt_membersFrom true rest ws))
  rw [Members.drafted_nil, List.nil_append] at read
  rw [written, readRecord, skipSpace_cons (by decide)]
  simp only [show opened? 0x7B = some .object by decide, Reader.filterMap, read,
    h.finish fun _ there => (order.map Prod.fst).subset there]

/-! ### Values that say the same -/

/-- Of the first members, some that are `null` are left out, and the values of the others are
related. -/
inductive Kept (related : Value → Value → Prop) :
    List (String × Value) → List (String × Value) → Prop where
  | nil : Kept related [] []
  | keep {name : String} {v w : Value} {vs ws : List (String × Value)} (value : related v w)
      (rest : Kept related vs ws) : Kept related ((name, v) :: vs) ((name, w) :: ws)
  | drop {name : String} {vs ws : List (String × Value)} (rest : Kept related vs ws) :
      Kept related ((name, .null) :: vs) ws

/-- The second value is the first one, with some members of objects in it left out that are `null`,
and the others in any order. -/
inductive Respelled : Value → Value → Prop where
  | null : Respelled .null .null
  | bool (b : Bool) : Respelled (.bool b) (.bool b)
  | number (n : Number) : Respelled (.number n) (.number n)
  | text (s : String) : Respelled (.text s) (.text s)
  | list {vs ws : List Value} (items : List.Forall₂ Respelled vs ws) :
      Respelled (.list vs) (.list ws)
  | object {vs us ws : List (String × Value)} (members : Kept Respelled vs us)
      (order : us.Perm ws) : Respelled (.object vs) (.object ws)

theorem Kept.append {related : Value → Value → Prop} {vs ws vs' ws' : List (String × Value)}
    (front : Kept related vs ws) (back : Kept related vs' ws') :
    Kept related (vs ++ vs') (ws ++ ws') := by
  induction front with
  | nil => exact back
  | keep value _ ih => exact .keep value ih
  | drop _ ih => exact .drop ih

/-- A text that is absent may be left out. -/
theorem Kept.textMember? (name : String) (s : Option String) :
    Kept Respelled [(name, .optionalText s)] (Value.textMember? name s) := by
  cases s with
  | none => exact .drop .nil
  | some s => exact .keep (.text s) .nil

mutual

/-- A value may stay as it is. -/
theorem Respelled.refl : ∀ v : Value, Respelled v v
  | .null => .null
  | .bool b => .bool b
  | .number n => .number n
  | .text s => .text s
  | .list vs => .list (Respelled.items vs)
  | .object vs => .object (Respelled.members vs) (.refl vs)

theorem Respelled.items : ∀ vs : List Value, List.Forall₂ Respelled vs vs
  | [] => .nil
  | v :: vs => .cons (Respelled.refl v) (Respelled.items vs)

theorem Respelled.members : ∀ vs : List (String × Value), Kept Respelled vs vs
  | [] => .nil
  | (_, v) :: vs => .keep (Respelled.refl v) (Respelled.members vs)

end

/-- A reader finds `a` where the value is written, however it is spelled. -/
def Reads (read : Reader α) (v : Value) (a : α) : Prop := ∀ w, Respelled v w → Denotes read w a

namespace Reads

variable {read : Reader α} {v : Value} {a : α}

theorem map (h : Reads read v a) (f : α → β) : Reads (Reader.map f read) v (f a) :=
  fun w respelled => (h w respelled).map f

theorem of_text {s : String} (h : Denotes read (.text s) a) : Reads read (.text s) a := by
  intro w respelled
  cases respelled
  exact h

theorem of_nat {n : Nat} (h : Denotes read (.nat n) a) : Reads read (.nat n) a := by
  intro w respelled
  cases respelled
  exact h

/-- A text that may be absent. -/
theorem optionalText {text : α → String} (h : ∀ a, Denotes read (.text (text a)) a) (a : Option α) :
    Reads (readOption read) (.optionalText (a.map text)) a := by
  intro w respelled
  cases a with
  | none =>
    cases respelled
    exact denotes_null read
  | some a =>
    cases respelled
    exact (h a).some

theorem list {toValue : α → Value} (h : ∀ a, Reads read (toValue a) a) (as : List α) :
    Reads (readList read) (.list (as.map toValue)) as := by
  intro w respelled
  cases respelled with
  | @list _ ws items =>
    refine denotes_list ?_
    induction as generalizing ws with
    | nil =>
      cases items
      exact .nil
    | cons a as ih =>
      cases items with
      | cons item items => exact .cons (h a _ item) (ih items)

end Reads

/-- The values of all members in their order; only one that may be missing may be `null`, and it
says the same then. -/
inductive Fields : {ts : List Type} → Members ts → List (String × Value) → Row ts → Prop where
  | nil : Fields .nil [] ()
  | cons {α : Type} {ts : List Type} {name : String} {read : Reader α} {absent : Option α}
      {ms : Members ts} {v : Value} {a : α} {vs : List (String × Value)} {row : Row ts}
      (value : Reads read v a) (null : v = .null → absent = some a) (rest : Fields ms vs row) :
      Fields (.cons name read absent ms) ((name, v) :: vs) (a, row)

namespace Fields

variable {ms : Members ts} {vs ws : List (String × Value)} {row : Row ts}

/-- A text that may be absent. -/
theorem optional {name : String} {read : Reader α} {text : α → String}
    (h : ∀ a, Denotes read (.text (text a)) a) (a : Option α) (rest : Fields ms vs row) :
    Fields (.cons name (readOption read) (some none) ms)
      ((name, .optionalText (a.map text)) :: vs) (a, row) := by
  refine .cons (.optionalText h a) (fun null => ?_) rest
  cases a with
  | none => rfl
  | some a => cases null

theorem listed (h : Fields ms vs row) (kept : Kept Respelled vs ws) : Listed ms ws row := by
  induction h generalizing ws with
  | nil =>
    cases kept
    exact .nil
  | cons value null _ ih =>
    cases kept with
    | keep respelled kept => exact .there (value _ respelled) (ih kept)
    | drop kept =>
      obtain rfl := null rfl
      exact .missing (ih kept)

/-- **An object with the values of all its members denotes the record that consists of them**,
however it is spelled. -/
theorem reads (h : Fields ms vs row) (distinct : ms.names.Nodup) :
    Reads (readRecord ms) (.object vs) row := by
  intro w respelled
  cases respelled with
  | object kept order => exact (h.listed kept).denotes distinct order

end Fields

end Brokerage.Json
