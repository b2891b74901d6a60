import Brokerage.Proofs.Json.Extension
import Brokerage.Proofs.Json.Rearrangement

/-!
# Every value is meant by a tree

For each reader of a common shape, whatever it may find is found in some tree (`Reached`), and a
record is found in an object that has all its members (`exists_object`). So what is said of all
texts that decode to a value is never said of none.
-/

namespace Brokerage.Json

variable {α β : Type} {read : Reader α}

/-- Every value is what a tree means. -/
def Reached (read : Reader α) : Prop := ∀ a, ∃ v, meaning read v = some a

/-! ### Common shapes -/

/-- For every text there is a string. -/
theorem exists_literal (s : String) : ∃ l : Literal, Literal.text? l = some s := by
  obtain ⟨l, -, known⟩ := exists_literal_of_readQuoted (readQuoted_written s [])
  exact ⟨l, known⟩

theorem reached_readText : Reached readText := by
  intro s
  obtain ⟨l, known⟩ := exists_literal s
  refine ⟨.text l, ?_⟩
  rw [follows_readText.meaning_eq]
  exact known

theorem reached_readNamed {named : String → Option α} (all : ∀ a, ∃ s, named s = some a) :
    Reached (readNamed named) := by
  intro a
  obtain ⟨s, found⟩ := all a
  obtain ⟨l, known⟩ := exists_literal s
  refine ⟨.text l, ?_⟩
  rw [(follows_readNamed named).meaning_eq, Tree.named?, known]
  exact found

/-- For every number that fits there are digits. -/
theorem exists_numeral {n : Nat} (fits : n ≤ maxWhole) :
    ∃ m : Numeral, m.value? = some (.whole n) := by
  obtain ⟨b, bs, bytes, digits, -, solid⟩ := natDigits_spec n
  have alone : (word (natDigits n)).head? = some 0x30 → word (natDigits n) = [0x30] := by
    intro zero
    by_cases same : n = 0
    · subst same
      exact word_natDigits_of_lt (by decide)
    · rw [bytes, List.head?_cons, Option.some.injEq] at zero
      exact absurd zero (solid same)
  have isDigits : IsDigits (word (natDigits n)) := by
    rw [bytes]
    exact ⟨List.cons_ne_nil _ _, digits⟩
  refine ⟨⟨false, word (natDigits n), [], [], ⟨isDigits, alone⟩, .inl rfl, .inl rfl⟩, ?_⟩
  have found := readNumber_natDigits fits closes_nil
  rw [Numeral.value?, Numeral.unsigned, List.append_nil, found]
  rfl

theorem exists_readNat {bound n : Nat} (within : n ≤ bound) (fits : bound ≤ maxWhole) :
    ∃ v, meaning (readNat bound) v = some n := by
  obtain ⟨m, value⟩ := exists_numeral (Nat.le_trans within fits)
  refine ⟨.number m, ?_⟩
  rw [(follows_readNat bound).meaning_eq, Tree.nat?, value]
  simp [Number.nat?, within]

theorem reached_readOption (reached : Reached read) (steady : Steady read)
    (nothing : meaning read .null = none) : Reached (readOption read) := by
  have meant := (follows_readOption steady).meaning_eq
  intro a?
  cases a? with
  | none =>
    refine ⟨.null, ?_⟩
    rw [meant]
    rfl
  | some a =>
    obtain ⟨v, value⟩ := reached a
    have other : v ≠ .null := by
      rintro rfl
      rw [nothing] at value
      cases value
    refine ⟨v, ?_⟩
    rw [meant, Tree.optional_of_ne other, value]
    rfl

theorem Reached.map (reached : Reached read) (steady : Steady read) {g : α → β}
    (onto : ∀ b, ∃ a, g a = b) : Reached (Reader.map g read) := by
  intro b
  obtain ⟨a, rfl⟩ := onto b
  obtain ⟨v, value⟩ := reached a
  refine ⟨v, ?_⟩
  rw [(Follows.map steady g).meaning_eq]
  exact congrArg (Option.map g) value

theorem Reached.filterMap (reached : Reached read) (steady : Steady read) {g : α → Option β}
    (onto : ∀ b, ∃ a, g a = some b) : Reached (Reader.filterMap g read) := by
  intro b
  obtain ⟨a, kept⟩ := onto b
  obtain ⟨v, value⟩ := reached a
  refine ⟨v, ?_⟩
  rw [(Follows.filterMap steady g).meaning_eq]
  show (meaning read v).bind g = _
  rw [value]
  exact kept

theorem reached_readList (reached : Reached read) (steady : Steady read) :
    Reached (readList read) := by
  intro as
  have items : ∃ items : List Tree, items.mapM (meaning read) = some as := by
    induction as with
    | nil => exact ⟨[], rfl⟩
    | cons a as ih =>
      obtain ⟨v, value⟩ := reached a
      obtain ⟨items, values⟩ := ih
      refine ⟨v :: items, ?_⟩
      rw [List.mapM_cons, value, values]
      rfl
  obtain ⟨items, values⟩ := items
  refine ⟨.list items, ?_⟩
  rw [(follows_readList steady).meaning_eq]
  exact values

/-! ### Records -/

variable {ts : List Type} {ms : Members ts}

/-- An object that has a member for each of the names. -/
theorem exists_found (distinct : ms.names.Nodup) (all : ms.All fun _ read _ => Reached read)
    (row : Row ts) :
    ∃ members : List (Literal × Tree),
      (∀ m ∈ members, ∃ name ∈ ms.names, Literal.text? m.1 = some name) ∧
      ms.found ms.blank members = some row := by
  induction ms with
  | nil => exact ⟨[], nofun, rfl⟩
  | cons name read absent ms ih =>
    obtain ⟨fresh, distinct⟩ := List.nodup_cons.mp distinct
    obtain ⟨here, later⟩ := all
    obtain ⟨v, value⟩ := here row.1
    obtain ⟨l, named⟩ := exists_literal name
    obtain ⟨members, names, found⟩ := ih distinct later row.2
    have absent : valuesOf name members = [] := by
      refine List.filterMap_eq_nil_iff.mpr fun m there => ?_
      obtain ⟨other, known, named⟩ := names m there
      rw [if_neg]
      rw [named]
      rintro ⟨rfl⟩
      exact fresh known
    refine ⟨(l, v) :: members, List.forall_mem_cons.mpr ⟨⟨name, List.mem_cons_self, named⟩, ?_⟩, ?_⟩
    · intro m there
      obtain ⟨other, known, named⟩ := names m there
      exact ⟨other, List.mem_cons_of_mem _ known, named⟩
    · refine found_cons_eq_some.mpr ⟨?_, ?_⟩
      · rw [valuesOf_cons_self v members named, absent]
        exact value
      · rw [Members.found_cons_of_unknown named fresh]
        exact found

/-- **Every record is what an object means.** -/
theorem exists_object (steady : ms.Steady) (distinct : ms.names.Nodup)
    (all : ms.All fun _ read _ => Reached read) (row : Row ts) :
    ∃ members, meaning (readRecord ms) (.object members) = some row := by
  obtain ⟨members, names, found⟩ := exists_found distinct all row
  refine ⟨members, ?_⟩
  rw [(follows_readRecord steady distinct).meaning_eq, Members.tree?, Members.object?, if_pos]
  · exact found
  · intro m there
    obtain ⟨name, -, named⟩ := names m there
    rw [named]
    rfl

end Brokerage.Json
