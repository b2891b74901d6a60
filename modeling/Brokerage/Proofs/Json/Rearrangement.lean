import Brokerage.Proofs.Json.Objects
import Mathlib.Data.List.Nodup
import Mathlib.Logic.Relation

/-!
# What a record does not depend on

The members of an object that is read as a record may come in any order, there may be members that
nobody asks for, and a member that is `null` may be left out if it may be missing
(`Rearranges`). None of this makes a difference to what is read. A record is not read without a
member that must be there, nor with two members of one name (`Spoils`). Both hold at any depth,
as a `Shape` says where records are.
-/

namespace Brokerage.Json

variable {α : Type} {v w : Tree}

/-! ### Shapes -/

/-- If a member must be there, or may be missing and is `null` then. -/
inductive Need where
  | required
  | optional
  deriving DecidableEq, Repr

/-- Where a value has records in it. -/
inductive Shape where
  /-- A value that is no record and has none in it. -/
  | simple
  | list (item : Shape)
  | record (fields : List (String × Need × Shape))

/-- A member of a record: its name, if it must be there, and where it has records in it. -/
abbrev Field := String × Need × Shape

/-- One change that is to make no difference. -/
inductive Rearranges : Shape → Tree → Tree → Prop where
  /-- The members are put in another order. -/
  | permute {fields : List Field} {ms ms' : List (Literal × Tree)} (perm : ms.Perm ms') :
      Rearranges (.record fields) (.object ms) (.object ms')
  /-- A member that nobody asks for is put between the others. -/
  | insert {fields : List Field} {front back : List (Literal × Tree)} {l : Literal} {key : String}
      (v : Tree) (named : Literal.text? l = some key) (unknown : key ∉ fields.map Prod.fst) :
      Rearranges (.record fields) (.object (front ++ back)) (.object (front ++ (l, v) :: back))
  /-- A member that may be missing is left out instead of being `null`. -/
  | leaveOut {fields : List Field} {front back : List (Literal × Tree)} {l : Literal}
      {name : String} {s : Shape} (known : (name, .optional, s) ∈ fields)
      (named : Literal.text? l = some name) :
      Rearranges (.record fields) (.object (front ++ (l, .null) :: back)) (.object (front ++ back))
  /-- A member that is missing is put in as `null`. -/
  | fillIn {fields : List Field} {front back : List (Literal × Tree)} {l : Literal} {name : String}
      {s : Shape} (known : (name, .optional, s) ∈ fields) (named : Literal.text? l = some name)
      (missing : valuesOf name (front ++ back) = []) :
      Rearranges (.record fields) (.object (front ++ back)) (.object (front ++ (l, .null) :: back))
  /-- The value of a member is rearranged. -/
  | member {fields : List Field} {front back : List (Literal × Tree)} {l : Literal} {name : String}
      {need : Need} {s : Shape} {v w : Tree} (known : (name, need, s) ∈ fields)
      (named : Literal.text? l = some name) (inner : Rearranges s v w) :
      Rearranges (.record fields) (.object (front ++ (l, v) :: back))
        (.object (front ++ (l, w) :: back))
  /-- An item of a list is rearranged. -/
  | item {s : Shape} {front back : List Tree} {v w : Tree} (inner : Rearranges s v w) :
      Rearranges (.list s) (.list (front ++ v :: back)) (.list (front ++ w :: back))

/-- Any number of changes that are to make no difference. -/
def Rearranged (s : Shape) : Tree → Tree → Prop := Relation.ReflTransGen (Rearranges s)

/-- A change that is to make the value unreadable. -/
inductive Spoils : Shape → Tree → Tree → Prop where
  /-- A member that must be there is left out. -/
  | drop {fields : List Field} {front back : List (Literal × Tree)} {l : Literal} {name : String}
      {s : Shape} {v : Tree} (known : (name, .required, s) ∈ fields)
      (named : Literal.text? l = some name) :
      Spoils (.record fields) (.object (front ++ (l, v) :: back)) (.object (front ++ back))
  /-- A member comes once more, with any value. -/
  | again {fields : List Field} {front back : List (Literal × Tree)} {l : Literal} {name : String}
      {need : Need} {s : Shape} (v : Tree) (known : (name, need, s) ∈ fields)
      (named : Literal.text? l = some name) (present : valuesOf name (front ++ back) ≠ []) :
      Spoils (.record fields) (.object (front ++ back)) (.object (front ++ (l, v) :: back))
  /-- The value of a member is spoilt. -/
  | member {fields : List Field} {front back : List (Literal × Tree)} {l : Literal} {name : String}
      {need : Need} {s : Shape} {v w : Tree} (known : (name, need, s) ∈ fields)
      (named : Literal.text? l = some name) (inner : Spoils s v w) :
      Spoils (.record fields) (.object (front ++ (l, v) :: back))
        (.object (front ++ (l, w) :: back))
  /-- An item of a list is spoilt. -/
  | item {s : Shape} {front back : List Tree} {v w : Tree} (inner : Spoils s v w) :
      Spoils (.list s) (.list (front ++ v :: back)) (.list (front ++ w :: back))

/-- A reader to which rearranging makes no difference, and which reads nothing that is spoilt. -/
structure Lenient (read : Reader α) (s : Shape) : Prop where
  keeps : ∀ {v w : Tree} {a : α},
    Rearranges s v w → meaning read v = some a → meaning read w = some a
  refuses : ∀ {v w : Tree} {a : α}, Spoils s v w → meaning read v = some a → meaning read w = none

theorem Lenient.keeps_all {read : Reader α} {s : Shape} (lenient : Lenient read s) {a : α}
    (steps : Rearranged s v w) (value : meaning read v = some a) : meaning read w = some a := by
  induction steps with
  | refl => exact value
  | tail _ step ih => exact lenient.keeps step ih

/-! ### Values of one name -/

section Values

variable {name : String} {l : Literal} (v : Tree) (front back : List (Literal × Tree))

theorem valuesOf_append :
    valuesOf name (front ++ back) = valuesOf name front ++ valuesOf name back :=
  List.filterMap_append

theorem valuesOf_between (named : Literal.text? l = some name) :
    valuesOf name (front ++ (l, v) :: back) = valuesOf name front ++ v :: valuesOf name back := by
  rw [valuesOf_append, valuesOf_cons_self v back named]

theorem valuesOf_between_of_ne (other : Literal.text? l ≠ some name) :
    valuesOf name (front ++ (l, v) :: back) = valuesOf name (front ++ back) := by
  rw [valuesOf_append, valuesOf_append, valuesOf_cons_of_ne v back other]

end Values

/-- There is one value and it is read, or there is none and none is needed. -/
theorem soleValue_eq_some {read : Reader α} {absent : Option α} {vs : List Tree} {a : α} :
    soleValue read absent none vs = some a ↔
      (vs = [] ∧ absent = some a) ∨ ∃ v, vs = [v] ∧ meaning read v = some a := by
  match vs with
  | [] => simp [soleValue]
  | [v] => simp [soleValue]
  | v :: w :: vs => simp [soleValue]

/-- A value among others is the only one, if there is a sole value. -/
theorem eq_nil_of_soleValue {read : Reader α} {absent : Option α} {front back : List Tree} {a : α}
    (sole : soleValue read absent none (front ++ v :: back) = some a) :
    front = [] ∧ back = [] ∧ meaning read v = some a := by
  rcases soleValue_eq_some.mp sole with ⟨empty, -⟩ | ⟨v', one, value⟩
  · exact absurd empty (by simp)
  · rcases List.append_eq_singleton_iff.mp one with ⟨rfl, same⟩ | ⟨-, empty⟩
    · cases same
      exact ⟨rfl, rfl, value⟩
    · cases empty

/-! ### Members -/

/-- What a member has when it is missing. -/
def Need.Suits (read : Reader α) (absent : Option α) : Need → Prop
  | .required => absent = none
  | .optional => ∃ a, absent = some a ∧ meaning read .null = some a

/-- A member is one of the fields, and its value is read as the field says. -/
def Fits (fields : List Field) {α : Type} (name : String) (read : Reader α)
    (absent : Option α) : Prop :=
  ∃ need s, (name, need, s) ∈ fields ∧ need.Suits read absent ∧ Lenient read s

section Fields

variable {fields : List Field} {name : String} {ms ms' : List (Literal × Tree)} {read : Reader α}
  {absent : Option α} {a : α}

theorem field_unique (distinct : (fields.map Prod.fst).Nodup) {need need' : Need} {s s' : Shape}
    (here : (name, need, s) ∈ fields) (there : (name, need', s') ∈ fields) :
    need = need' ∧ s = s' := by
  have same := List.inj_on_of_nodup_map distinct here there rfl
  cases same
  exact ⟨rfl, rfl⟩

/-- Rearranging a record makes no difference to any of its members. -/
theorem soleValue_kept (distinct : (fields.map Prod.fst).Nodup)
    (fits : Fits fields name read absent)
    (step : Rearranges (.record fields) (.object ms) (.object ms'))
    (sole : soleValue read absent none (valuesOf name ms) = some a) :
    soleValue read absent none (valuesOf name ms') = some a := by
  obtain ⟨need, s, field, suits, lenient⟩ := fits
  cases step with
  | permute perm =>
    have perm : (valuesOf name ms).Perm (valuesOf name ms') := perm.filterMap _
    -- of one value at most there is one order only
    rcases soleValue_eq_some.mp sole with ⟨empty, -⟩ | ⟨v, one, -⟩
    · rw [empty] at perm sole
      rwa [List.nil_perm.mp perm]
    · rw [one] at perm sole
      rwa [← List.singleton_perm.mp perm]
  | @insert _ front back l key v named unknown =>
    have other : Literal.text? l ≠ some name := by
      rw [named]
      rintro ⟨rfl⟩
      exact unknown (List.mem_map_of_mem field)
    rwa [valuesOf_between_of_ne v front back other]
  | @leaveOut _ front back l other _ known named =>
    by_cases same : other = name
    · -- the member was the only one of its name and had the value that it has when it is missing
      subst same
      obtain ⟨rfl, -⟩ := field_unique distinct known field
      obtain ⟨b, missing, null⟩ := suits
      rw [valuesOf_between _ front back named] at sole
      obtain ⟨noFront, noBack, value⟩ := eq_nil_of_soleValue sole
      rw [valuesOf_append, noFront, noBack]
      exact missing.trans (null.symm.trans value)
    · rwa [valuesOf_between_of_ne _ front back (by simp [named, same])] at sole
  | @fillIn _ front back l other _ known named missing =>
    by_cases same : other = name
    · subst same
      obtain ⟨rfl, -⟩ := field_unique distinct known field
      obtain ⟨b, absent, null⟩ := suits
      rw [missing] at sole
      rw [valuesOf_append, List.append_eq_nil_iff] at missing
      rw [valuesOf_between _ front back named, missing.1, missing.2]
      exact null.trans (absent.symm.trans sole)
    · rwa [valuesOf_between_of_ne _ front back (by simp [named, same])]
  | @member _ front back l other _ _ v w known named inner =>
    by_cases same : other = name
    · subst same
      obtain ⟨-, rfl⟩ := field_unique distinct known field
      rw [valuesOf_between v front back named] at sole
      obtain ⟨noFront, noBack, value⟩ := eq_nil_of_soleValue sole
      rw [valuesOf_between w front back named, noFront, noBack]
      exact lenient.keeps inner value
    · rw [valuesOf_between_of_ne v front back (by simp [named, same])] at sole
      rwa [valuesOf_between_of_ne w front back (by simp [named, same])]

/-- One of the members of a record that is spoilt has no value any more. -/
theorem exists_spoilt (distinct : (fields.map Prod.fst).Nodup)
    (step : Spoils (.record fields) (.object ms) (.object ms')) :
    ∃ name ∈ fields.map Prod.fst, ∀ {α : Type} {read : Reader α} {absent : Option α} {a : α},
      Fits fields name read absent → soleValue read absent none (valuesOf name ms) = some a →
        soleValue read absent none (valuesOf name ms') = none := by
  cases step with
  | @drop _ front back l name _ v known named =>
    refine ⟨name, List.mem_map_of_mem known, ?_⟩
    rintro α read absent a ⟨need, s, field, suits, lenient⟩ sole
    obtain ⟨rfl, -⟩ := field_unique distinct known field
    rw [valuesOf_between v front back named] at sole
    obtain ⟨noFront, noBack, -⟩ := eq_nil_of_soleValue sole
    rw [valuesOf_append, noFront, noBack]
    exact suits
  | @again _ front back l name need _ v known named present =>
    refine ⟨name, List.mem_map_of_mem known, ?_⟩
    -- whatever the members have for values, there are two of them
    rintro α read absent a - sole
    rw [valuesOf_between v front back named]
    cases again : soleValue read absent none (valuesOf name front ++ v :: valuesOf name back) with
    | none => rfl
    | some b =>
      obtain ⟨noFront, noBack, -⟩ := eq_nil_of_soleValue again
      rw [valuesOf_append, noFront, noBack] at present
      exact absurd rfl present
  | @member _ front back l name _ _ v w known named inner =>
    refine ⟨name, List.mem_map_of_mem known, ?_⟩
    rintro α read absent a ⟨need, s, field, suits, lenient⟩ sole
    obtain ⟨-, rfl⟩ := field_unique distinct known field
    rw [valuesOf_between v front back named] at sole
    obtain ⟨noFront, noBack, value⟩ := eq_nil_of_soleValue sole
    rw [valuesOf_between w front back named, noFront, noBack]
    exact lenient.refuses inner value

end Fields

/-! ### Records -/

section Records

variable {ts : List Type} {ms : Members ts} {members members' : List (Literal × Tree)}
    {row : Row ts}

/-- A record is found if all of its members are. -/
theorem found_cons_eq_some {α : Type} {name : String} {read : Reader α} {absent a? : Option α}
    {draft : Draft ts} {found : Row (α :: ts)} :
    (Members.cons name read absent ms).found (a?, draft) members = some found ↔
      soleValue read absent a? (valuesOf name members) = some found.1 ∧
        ms.found draft members = some found.2 := by
  rw [Members.found]
  cases soleValue read absent a? (valuesOf name members) with
  | none => simp
  | some a =>
    cases ms.found draft members with
    | none => simp
    | some row =>
      exact Option.some_inj.trans
        (Prod.ext_iff.trans (and_congr Option.some_inj.symm Option.some_inj.symm))

/-- If no member makes a difference, the same record is found. -/
theorem found_kept {P : ∀ {α : Type}, String → Reader α → Option α → Prop} (all : ms.All P)
    (kept : ∀ {α : Type} {name : String} {read : Reader α} {absent : Option α} {a : α},
      P name read absent → soleValue read absent none (valuesOf name members) = some a →
        soleValue read absent none (valuesOf name members') = some a)
    (found : ms.found ms.blank members = some row) : ms.found ms.blank members' = some row := by
  induction ms with
  | nil => exact found
  | cons name read absent ms ih =>
    obtain ⟨here, others⟩ := all
    obtain ⟨sole, later⟩ := found_cons_eq_some.mp found
    exact found_cons_eq_some.mpr ⟨kept here sole, ih others later⟩

/-- If a member has no value any more, no record is found. -/
theorem found_spoilt {P : ∀ {α : Type}, String → Reader α → Option α → Prop} (all : ms.All P)
    {name : String} (known : name ∈ ms.names)
    (spoilt : ∀ {α : Type} {read : Reader α} {absent : Option α} {a : α},
      P name read absent → soleValue read absent none (valuesOf name members) = some a →
        soleValue read absent none (valuesOf name members') = none)
    (found : ms.found ms.blank members = some row) : ms.found ms.blank members' = none := by
  induction ms with
  | nil => cases known
  | cons name' read absent ms ih =>
    obtain ⟨here, others⟩ := all
    obtain ⟨sole, later⟩ := found_cons_eq_some.mp found
    rw [Option.eq_none_iff_forall_ne_some]
    intro row' found'
    obtain ⟨sole', later'⟩ := found_cons_eq_some.mp found'
    rcases List.mem_cons.mp known with rfl | known
    · rw [spoilt here sole] at sole'
      cases sole'
    · rw [ih others known later] at later'
      cases later'

/-- Rearranging leaves the names texts, as far as they stand for any. -/
theorem texts_kept {fields : List Field}
    (step : Rearranges (.record fields) (.object members) (.object members'))
    (texts : ∀ m ∈ members, (Literal.text? m.1).isSome = true) :
    ∀ m ∈ members', (Literal.text? m.1).isSome = true := by
  cases step with
  | permute perm => exact fun m there => texts m (perm.mem_iff.mpr there)
  | insert v named unknown =>
    simp only [List.forall_mem_append, List.forall_mem_cons] at texts ⊢
    exact ⟨texts.1, by rw [named]; rfl, texts.2⟩
  | leaveOut known named =>
    simp only [List.forall_mem_append, List.forall_mem_cons] at texts ⊢
    exact ⟨texts.1, texts.2.2⟩
  | fillIn known named missing =>
    simp only [List.forall_mem_append, List.forall_mem_cons] at texts ⊢
    exact ⟨texts.1, by rw [named]; rfl, texts.2⟩
  | member known named inner =>
    simp only [List.forall_mem_append, List.forall_mem_cons] at texts ⊢
    exact texts

/-- **A record with fields is read leniently.** -/
theorem lenient_readRecord {fields : List Field} (steady : ms.Steady)
    (names : fields.map Prod.fst = ms.names) (distinct : ms.names.Nodup)
    (fits : ms.All (Fits fields)) : Lenient (readRecord ms) (.record fields) := by
  have meant := (follows_readRecord steady distinct).meaning_eq
  have distinct' := names ▸ distinct
  constructor
  · intro v w row step value
    rw [meant] at value ⊢
    have object : ∃ members members', v = .object members ∧ w = .object members' := by
      cases step <;> exact ⟨_, _, rfl, rfl⟩
    obtain ⟨members, members', rfl, rfl⟩ := object
    simp only [Members.tree?, Members.object?] at value ⊢
    split at value
    · next texts =>
      rw [if_pos (texts_kept step texts)]
      exact found_kept fits (soleValue_kept distinct' · step ·) value
    · cases value
  · intro v w row step value
    rw [meant] at value ⊢
    have object : ∃ members members', v = .object members ∧ w = .object members' := by
      cases step <;> exact ⟨_, _, rfl, rfl⟩
    obtain ⟨members, members', rfl, rfl⟩ := object
    obtain ⟨name, known, spoilt⟩ := exists_spoilt distinct' step
    simp only [Members.tree?, Members.object?] at value ⊢
    split at value
    · rw [found_spoilt fits (names ▸ known) spoilt value]
      exact ite_self none
    · cases value

end Records

/-! ### Other values -/

theorem lenient_simple (read : Reader α) : Lenient read .simple := ⟨nofun, nofun⟩

theorem Lenient.map {β : Type} {read : Reader α} {s : Shape} (lenient : Lenient read s)
    (steady : Steady read) (g : α → β) : Lenient (Reader.map g read) s := by
  have meant := (Follows.map steady g).meaning_eq
  constructor
  · intro v w b step value
    rw [meant] at value ⊢
    obtain ⟨a, here, rfl⟩ := Option.map_eq_some_iff.mp value
    exact congrArg (Option.map g) (lenient.keeps step here)
  · intro v w b step value
    rw [meant] at value ⊢
    obtain ⟨a, here, rfl⟩ := Option.map_eq_some_iff.mp value
    exact congrArg (Option.map g) (lenient.refuses step here)

/-- A list has no value if one of its items has none. -/
theorem mapM_of_none {f : Tree → Option α} (here : f v = none) (front back : List Tree) :
    (front ++ v :: back).mapM f = none := by
  rw [List.mapM_append, List.mapM_cons, here]
  cases front.mapM f <;> rfl

theorem lenient_readList {read : Reader α} {s : Shape} (lenient : Lenient read s)
    (steady : Steady read) : Lenient (readList read) (.list s) := by
  have meant := (follows_readList steady).meaning_eq
  -- an item of a list that has a value has one itself
  have item {front back : List Tree} {v : Tree} {as : List α}
      (value : (front ++ v :: back).mapM (meaning read) = some as) :
      ∃ a, meaning read v = some a := by
    rw [← Option.ne_none_iff_exists']
    intro missing
    rw [mapM_of_none missing] at value
    cases value
  constructor
  · intro v w as step value
    rw [meant] at value ⊢
    cases step with
    | @item _ front back v w inner =>
      obtain ⟨a, here⟩ := item value
      simp only [Tree.list?, List.mapM_append, List.mapM_cons, here] at value
      simpa only [Tree.list?, List.mapM_append, List.mapM_cons, lenient.keeps inner here]
        using value
  · intro v w as step value
    rw [meant] at value ⊢
    cases step with
    | @item _ front back v w inner =>
      obtain ⟨a, here⟩ := item value
      exact mapM_of_none (lenient.refuses inner here) front back

end Brokerage.Json
