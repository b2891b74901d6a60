import Brokerage.Proofs.Json.Extension

/-!
# Texts that are cut off

A record ends with a bracket of its own, so it is read off the front of any bytes that go on
behind it (`closed_readRecord`). If a text of one could be cut off in front of its last
bracket and still be read, then the whole text would be read up to that place, and the
bracket would be left over.
-/

namespace Brokerage.Json

variable {α : Type} {bs rest more : Bytes}

/-! ### Common shapes -/

theorem closed_readText : Closed readText := by
  intro bs rest more s found _
  unfold readText at found ⊢
  split at found
  · cases found
  · next here =>
    rw [skipSpace_append here]
    dsimp only
    split at found
    · next mark =>
      rw [if_pos mark]
      exact closed_readQuoted found trivial
    · cases found

theorem extends_readNat (bound : Nat) : Extends (readNat bound) := by
  intro bs rest more n found unspent
  unfold readNat at found ⊢
  split at found
  · cases found
  · next here =>
    rw [skipSpace_append here]
    dsimp only
    split at found
    · next minus =>
      rw [if_pos minus]
      exact (extends_readNumber true).filterMap _ found unspent
    · next minus =>
      rw [if_neg minus]
      split at found
      · next digit =>
        rw [if_pos digit]
        exact (extends_readNumber false).filterMap _ found unspent
      · cases found

theorem extends_readOption {read : Reader α} (extends_ : Extends read)
    (nothing : (read []).toOption = none) : Extends (readOption read) := by
  intro bs rest more a? found unspent
  unfold readOption at found ⊢
  split at found
  · next here =>
    rw [skipSpace_append here]
    dsimp only
    split at found
    · next null =>
      rw [if_pos null]
      split at found
      · next there =>
        cases found
        rw [readWord_more there]
      · cases found
    · next null =>
      rw [if_neg null]
      exact extends_.map _ found unspent
  · -- at the end of the text there is no value
    have absent := toOption_map some read []
    rw [found, nothing] at absent
    cases absent

theorem readNull_more {u : Unit} (found : readNull bs = .ok (u, rest)) :
    readNull (bs ++ more) = .ok (u, rest ++ more) := by
  unfold readNull at found ⊢
  split at found
  · cases found
  · next here =>
    rw [skipSpace_append here]
    dsimp only
    split at found
    · next null =>
      rw [if_pos null]
      split at found
      · next there =>
        cases found
        rw [readWord_more there]
      · cases found
    · cases found

theorem closed_readOnlyName : Closed readOnlyName := by
  intro bs rest more s found _
  unfold readOnlyName at found ⊢
  split at found
  · cases found
  · next here =>
    rw [skipSpace_append here]
    dsimp only
    split at found
    · next mark =>
      rw [if_pos mark]
      exact closed_readQuoted found trivial
    · cases found

theorem closed_readNamed (named : String → Option α) : Closed (readNamed named) := by
  intro bs rest more a found _
  unfold readNamed at found ⊢
  split at found
  · cases found
  next here =>
  rw [skipSpace_append here]
  dsimp only
  split at found
  · next mark =>
    rw [if_pos mark]
    exact closed_readQuoted.filterMap named found trivial
  next mark =>
  rw [if_neg mark]
  split at found
  · next object =>
    rw [if_pos object]
    split at found
    · cases found
    next name =>
    rw [closed_readOnlyName.filterMap named name trivial]
    dsimp only
    split at found
    · cases found
    next colon =>
    rw [readColon_more colon]
    dsimp only
    split at found
    · cases found
    next null =>
    rw [readNull_more null]
    dsimp only
    obtain ⟨left, close, same⟩ := exists_of_map found
    cases same
    rw [closeBracket_more close]
    rfl
  · cases found

/-! ### Lists -/

theorem nextElement_more {first : Bool} {next : Option Bytes}
    (found : nextElement first bs = .ok next) :
    nextElement first (bs ++ more) = .ok (next.map (· ++ more)) := by
  unfold nextElement at found ⊢
  split at found
  · cases found
  next here =>
  rw [skipSpace_append here]
  dsimp only
  split at found
  · next close =>
    cases found
    exact if_pos close
  next close =>
  rw [if_neg close]
  split at found
  · next isFirst =>
    cases found
    exact if_pos isFirst
  next isFirst =>
  rw [if_neg isFirst]
  split at found
  · next comma =>
    rw [if_pos comma]
    split at found
    · cases found
    next there =>
    rw [skipSpace_append there]
    dsimp only
    split at found
    · cases found
    · next other =>
      cases found
      exact if_neg other
  · cases found

theorem readElements_nil (read : Reader α) (n : Nat) (first : Bool) :
    ∃ e, readElements read n first [] = .error e := by
  cases n with
  | zero => exact ⟨_, rfl⟩
  | succ n => exact ⟨_, rfl⟩

theorem readElements_more {read : Reader α} (extends_ : Extends read) {n m : Nat} (enough : n ≤ m)
    {first : Bool} {as : List α} (found : readElements read n first bs = .ok (as, rest)) :
    readElements read m first (bs ++ more) = .ok (as, rest ++ more) := by
  induction n generalizing m first bs as with
  | zero => cases found
  | succ n ih =>
    obtain ⟨m, rfl⟩ := Nat.exists_eq_add_one_of_ne_zero (Nat.ne_of_gt (Nat.zero_lt_of_lt enough))
    unfold readElements at found ⊢
    split at found
    · cases found
    · next next =>
      rw [nextElement_more next]
      obtain ⟨left, close, same⟩ := exists_of_map found
      cases same
      rw [Option.map_none, closeBracket_more close]
      rfl
    · next next =>
      rw [nextElement_more next]
      dsimp only [Option.map_some]
      split at found
      · cases found
      next a left here =>
      unfold Reader.map at found ⊢
      split at found
      · next later =>
        cases found
        -- behind an element at least the closing bracket is left
        have unspent : left ≠ [] := by
          rintro rfl
          obtain ⟨e, failed⟩ := readElements_nil read n false
          rw [failed] at later
          cases later
        rw [extends_ here unspent]
        dsimp only
        rw [ih (Nat.le_of_succ_le_succ enough) later]
      · cases found

theorem closed_readList {read : Reader α} (extends_ : Extends read) : Closed (readList read) := by
  intro bs rest more as found _
  unfold readList at found ⊢
  split at found
  · cases found
  · next here =>
    rw [skipSpace_append here]
    dsimp only
    split at found
    · next bracket =>
      rw [if_pos bracket]
      refine readElements_more extends_ ?_ found
      rw [List.length_append]
      omega
    · cases found

/-! ### Records -/

section Records

variable {ts : List Type} {ms : Members ts}

/-- All readers read on. -/
def Members.Extends (ms : Members ts) : Prop := ms.All fun _ read _ => Json.Extends read

theorem extends_fill (extends_ : ms.Extends) (key : String) (draft : Draft ts) :
    Extends (ms.fill key draft) := by
  intro bs rest more draft' found unspent
  induction ms with
  | nil =>
    unfold Members.fill at found ⊢
    split at found
    · cases found
    · next colon =>
      rw [readColon_more colon]
      obtain ⟨left, skip, same⟩ := exists_of_map found
      cases same
      dsimp only
      rw [skipValue_more skip unspent]
      rfl
  | cons name read absent ms ih =>
    obtain ⟨here, later⟩ := extends_
    obtain ⟨a?, draft⟩ := draft
    simp only [Members.fill] at found ⊢
    split at found
    · next known =>
      rw [if_pos known]
      cases a? with
      | some a => cases found
      | none =>
        dsimp only at found ⊢
        split at found
        · cases found
        · next colon =>
          rw [readColon_more colon]
          exact here.map _ found unspent
    · next other =>
      rw [if_neg other]
      unfold Reader.map at found ⊢
      split at found
      · next filled =>
        cases found
        rw [ih later draft filled]
      · cases found

theorem nextMember_more {first : Bool} {next : Option Bytes}
    (found : nextMember first bs = .ok next) :
    nextMember first (bs ++ more) = .ok (next.map (· ++ more)) := by
  unfold nextMember at found ⊢
  split at found
  · cases found
  next here =>
  rw [skipSpace_append here]
  dsimp only
  split at found
  · next close =>
    cases found
    exact if_pos close
  next close =>
  rw [if_neg close]
  split at found
  · next isFirst =>
    rw [if_pos isFirst]
    split at found
    · next mark =>
      cases found
      exact if_pos mark
    · cases found
  next isFirst =>
  rw [if_neg isFirst]
  split at found
  · next comma =>
    rw [if_pos comma]
    split at found
    · cases found
    next there =>
    rw [skipSpace_append there]
    dsimp only
    split at found
    · next mark =>
      cases found
      exact if_pos mark
    · cases found
  · cases found

theorem readMembers_nil (ms : Members ts) (n : Nat) (first : Bool) (draft : Draft ts) :
    ∃ e, readMembers ms n first draft [] = .error e := by
  cases n with
  | zero => exact ⟨_, rfl⟩
  | succ n => exact ⟨_, rfl⟩

theorem readMembers_more (extends_ : ms.Extends) {n m : Nat} (enough : n ≤ m) {first : Bool}
    {draft draft' : Draft ts} (found : readMembers ms n first draft bs = .ok (draft', rest)) :
    readMembers ms m first draft (bs ++ more) = .ok (draft', rest ++ more) := by
  induction n generalizing m first bs draft with
  | zero => cases found
  | succ n ih =>
    obtain ⟨m, rfl⟩ := Nat.exists_eq_add_one_of_ne_zero (Nat.ne_of_gt (Nat.zero_lt_of_lt enough))
    unfold readMembers at found ⊢
    split at found
    · cases found
    · next next =>
      rw [nextMember_more next]
      obtain ⟨left, close, same⟩ := exists_of_map found
      cases same
      rw [Option.map_none, closeBracket_more close]
      rfl
    · next next =>
      rw [nextMember_more next]
      dsimp only [Option.map_some]
      split at found
      · cases found
      next name =>
      rw [closed_readQuoted name trivial]
      dsimp only
      split at found
      · cases found
      next left filled =>
      have unspent : left ≠ [] := by
        rintro rfl
        obtain ⟨e, failed⟩ := readMembers_nil ms n false _
        rw [failed] at found
        cases found
      rw [extends_fill extends_ _ _ filled unspent]
      exact ih (Nat.le_of_succ_le_succ enough) found

theorem readRow_nil {first : Bool} {row : Row ts} (found : readRow ms first [] = .ok (row, rest)) :
    rest = [] := by
  cases ms with
  | nil =>
    cases found
    rfl
  | cons name read absent ms => cases found

theorem extends_readRow (extends_ : ms.Extends) (first : Bool) : Extends (readRow ms first) := by
  intro bs rest more row found unspent
  induction ms generalizing first bs with
  | nil =>
    cases found
    rfl
  | cons name read absent ms ih =>
    obtain ⟨here, later⟩ := extends_
    unfold readRow at found ⊢
    split at found
    · cases found
    · next next =>
      rw [nextElement_more next]
      dsimp only [Option.map_none]
      cases absent with
      | none => cases found
      | some a =>
        unfold Reader.map at found ⊢
        dsimp only at found ⊢
        split at found
        · next behind =>
          cases found
          rw [ih later first behind]
        · cases found
    · next next =>
      rw [nextElement_more next]
      dsimp only [Option.map_some]
      split at found
      · cases found
      next a left value =>
      unfold Reader.map at found ⊢
      split at found
      · next behind =>
        cases found
        have left_some : left ≠ [] := by
          rintro rfl
          exact unspent (readRow_nil behind)
        rw [here value left_some]
        dsimp only
        rw [ih later false behind]
      · cases found

/-- **A record is read in the same way, whatever comes behind its bracket.** -/
theorem closed_readRecord (extends_ : ms.Extends) : Closed (readRecord ms) := by
  intro bs rest more row found _
  unfold readRecord at found ⊢
  split at found
  · cases found
  next here =>
  rw [skipSpace_append here]
  dsimp only
  split at found
  · next object =>
    unfold Reader.filterMap at found ⊢
    split at found
    · next read =>
      rw [readMembers_more extends_ (by rw [List.length_append]; omega) read]
      split at found
      · next complete =>
        cases found
        simp only [complete]
      · cases found
    · cases found
  · next list =>
    split at found
    · cases found
    next row left read =>
    obtain ⟨left', close, same⟩ := exists_of_map found
    cases same
    have unspent : left ≠ [] := by
      rintro rfl
      cases close
    rw [extends_readRow extends_ _ read unspent]
    dsimp only
    rw [closeBracket_more close]
    rfl
  · cases found

end Records

/-! ### Truncation -/

/-- **A text that is cut off in front of its last bracket is not read.** -/
theorem readAll_cut {read : Reader α} (closed : Closed read) {front back cut : Bytes} {b : UInt8}
    {a : α} (solid : isSpace b = false) (whole : readAll read (front ++ b :: back) = .ok a)
    (prefix_ : cut <+: front) : ∃ e, readAll read cut = .error e := by
  cases found : readAll read cut with
  | error e => exact ⟨e, rfl⟩
  | ok a' =>
    obtain ⟨between, rfl⟩ := prefix_
    unfold readAll at found whole
    split at found
    · next left read =>
      -- the whole text is read as far as the part is, and what was cut off is left over
      rw [List.append_assoc, closed read trivial] at whole
      dsimp only at whole
      split at whole
      · next blank =>
        have here := skipSpace_eq_nil_iff.mp blank b (by simp)
        rw [solid] at here
        cases here
      · cases whole
    · cases found

end Brokerage.Json
