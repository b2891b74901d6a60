import Brokerage.Proofs.Json.Exact
import Brokerage.Proofs.Json.Objects

/-!
# More bytes behind

A reader looks at no more than it takes and the byte behind it. So where it has taken a value
off the front of some bytes, it takes the same value if there are more bytes behind them, as
long as something was left (`Extends`). What ends with a mark or a bracket of its own is taken
even if nothing was left (`Closed`), while a number may go on. Nothing is asked of the bytes:
they need not be JSON.
-/

namespace Brokerage.Json

variable {α β : Type} {bs rest more : Bytes} {b : UInt8}

/-! ### Readers and what is behind -/

/-- Behind a value that is read more may follow, if what is left is enough. -/
def Stays (enough : Bytes → Prop) (read : Reader α) : Prop :=
  ∀ ⦃bs rest more : Bytes⦄ ⦃a : α⦄, read bs = .ok (a, rest) → enough rest →
    read (bs ++ more) = .ok (a, rest ++ more)

/-- Where something is left behind a value, more may follow. -/
abbrev Extends (read : Reader α) : Prop := Stays (· ≠ []) read

/-- More may follow behind a value. -/
abbrev Closed (read : Reader α) : Prop := Stays (fun _ => True) read

/-- Where something is left behind what is passed over, more may follow. -/
def PassesOn (skip : Bytes → Except Fault Bytes) : Prop :=
  ∀ ⦃bs rest more : Bytes⦄, skip bs = .ok rest → rest ≠ [] → skip (bs ++ more) = .ok (rest ++ more)

theorem Closed.extends {read : Reader α} (closed : Closed read) : Extends read := by
  intro bs rest more a found _
  exact closed found trivial

theorem skipSpace_append (here : skipSpace bs = b :: rest) (more : Bytes) :
    skipSpace (bs ++ more) = b :: (rest ++ more) := by
  have filled : ¬ (bs.dropWhile isSpace).isEmpty = true := by
    show ¬ (skipSpace bs).isEmpty = true
    rw [here]
    exact Bool.false_ne_true
  unfold skipSpace at here ⊢
  rw [List.dropWhile_append, if_neg filled, here]
  rfl

theorem Stays.map {enough : Bytes → Prop} {read : Reader α} (stays : Stays enough read)
    (f : α → β) : Stays enough (Reader.map f read) := by
  intro bs rest more b found left
  unfold Reader.map at found ⊢
  split at found
  · next here =>
    cases found
    rw [stays here left]
  · cases found

theorem Stays.filterMap {enough : Bytes → Prop} {read : Reader α} (stays : Stays enough read)
    (f : α → Option β) : Stays enough (Reader.filterMap f read) := by
  intro bs rest more b found left
  unfold Reader.filterMap at found ⊢
  split at found
  · next here =>
    split at found
    · next kept =>
      cases found
      rw [stays here left]
      simp only [kept]
    · cases found
  · cases found

/-! ### Words, colons and brackets -/

theorem readWord_more {w : Bytes} (read : readWord w bs = .ok rest) :
    readWord w (bs ++ more) = .ok (rest ++ more) := by
  induction w generalizing bs with
  | nil =>
    cases read
    rfl
  | cons b w ih =>
    cases bs with
    | nil => cases read
    | cons c bs =>
      rw [List.cons_append]
      rw [readWord] at read ⊢
      split at read
      · next same =>
        rw [if_pos same]
        exact ih read
      · cases read

theorem readColon_more (read : readColon bs = .ok rest) :
    readColon (bs ++ more) = .ok (rest ++ more) := by
  unfold readColon at read ⊢
  split at read
  · cases read
  · next here =>
    rw [skipSpace_append here]
    split at read
    · next colon =>
      cases read
      exact if_pos colon
    · cases read

theorem closeBracket_more {bracket : Bracket} (read : closeBracket bracket bs = .ok rest) :
    closeBracket bracket (bs ++ more) = .ok (rest ++ more) := by
  unfold closeBracket at read ⊢
  split at read
  · cases read
  · next here =>
    rw [skipSpace_append here]
    split at read
    · next close =>
      cases read
      exact if_pos close
    · cases read

/-! ### Strings -/

/-- The bytes start with a string and its closing mark. -/
def Quotes (bs rest : Bytes) : Prop := ∃ l : Literal, bs = l.bytes ++ quoteMark :: rest

theorem Quotes.cons {back : Bytes} (piece : Piece) (quotes : Quotes bs rest)
    (bytes : back = piece.bytes ++ bs) : Quotes back rest := by
  obtain ⟨l, rfl⟩ := quotes
  exact ⟨piece :: l, by rw [bytes, Literal.bytes_cons, List.append_assoc]⟩

theorem quotes_of_readQuotedBytes {text : Bytes} (read : readQuotedBytes bs = .ok (text, rest)) :
    Quotes bs rest := by
  fun_induction readQuotedBytes bs generalizing text with
  | case2 =>
    cases read
    exact ⟨[], rfl⟩
  | case10 h₁ h₂ h₃ h₄ n high notLow isHigh s u marks l₁ l₂ l₃ l₄ bs m low isLow slash ih =>
    obtain ⟨rfl, rfl⟩ := marks
    obtain ⟨back, found, -⟩ := prepend_eq_ok read
    exact ((ih found).cons (.code l₁ l₂ l₃ l₄ m low) rfl).cons (.code h₁ h₂ h₃ h₄ n high) rfl
  | case14 h₁ h₂ h₃ h₄ bs n known notLow notHigh slash ih =>
    obtain ⟨back, found, -⟩ := prepend_eq_ok read
    exact (ih found).cons (.code h₁ h₂ h₃ h₄ n known) rfl
  | case16 e bs notCode c known slash ih =>
    obtain ⟨back, found, -⟩ := prepend_eq_ok read
    exact (ih found).cons (.short e c known) rfl
  | case19 b bs noMark noEscape visible ih =>
    obtain ⟨back, found, -⟩ := prepend_eq_ok read
    exact (ih found).cons (.plain b ⟨noMark, noEscape, visible⟩) rfl
  | _ => cases read

theorem quotes_of_skipQuoted (skip : skipQuoted bs = .ok rest) : Quotes bs rest := by
  fun_induction skipQuoted bs with
  | case2 =>
    cases skip
    exact ⟨[], rfl⟩
  | case4 h₁ h₂ h₃ h₄ bs code slash ih =>
    obtain ⟨n, known⟩ := Option.isSome_iff_exists.mp code
    exact (ih skip).cons (.code h₁ h₂ h₃ h₄ n known) rfl
  | case7 e bs notCode short slash ih =>
    obtain ⟨c, known⟩ := Option.isSome_iff_exists.mp short
    exact (ih skip).cons (.short e c known) rfl
  | case10 b bs noMark noEscape visible ih =>
    exact (ih skip).cons (.plain b ⟨noMark, noEscape, visible⟩) rfl
  | _ => cases skip

/-- A text that is read is one that a string stands for. -/
theorem exists_literal_of_readQuoted {text : String} (read : readQuoted bs = .ok (text, rest)) :
    ∃ l : Literal, bs = l.bytes ++ quoteMark :: rest ∧ Literal.text? l = some text := by
  have quotes : Quotes bs rest := by
    unfold readQuoted at read
    split at read
    · next found =>
      split at read <;> cases read
      exact quotes_of_readQuotedBytes found
    · cases read
  obtain ⟨l, rfl⟩ := quotes
  have here := readQuoted_literal l rest
  rw [read] at here
  obtain ⟨s, known, same⟩ := Option.map_eq_some_iff.mp here.symm
  obtain ⟨rfl, -⟩ := Prod.mk.inj same
  exact ⟨l, rfl, known⟩

theorem closed_readQuoted : Closed readQuoted := by
  intro bs rest more text read _
  obtain ⟨l, rfl, known⟩ := exists_literal_of_readQuoted read
  have there := readQuoted_literal l (rest ++ more)
  rw [known] at there
  rw [List.append_assoc, List.cons_append]
  obtain ⟨nothing, -⟩ | ⟨s, same, found⟩ := cases_of_toOption there
  · cases nothing
  · cases same
    exact found

theorem skipQuoted_more (skip : skipQuoted bs = .ok rest) :
    skipQuoted (bs ++ more) = .ok (rest ++ more) := by
  obtain ⟨l, rfl⟩ := quotes_of_skipQuoted skip
  rw [List.append_assoc, List.cons_append]
  exact skipQuoted_literal l _

/-! ### Numbers -/

theorem exists_of_map {γ δ : Type} {found : Except Fault γ} {g : γ → δ} {y : δ}
    (mapped : found.map g = .ok y) : ∃ x, found = .ok x ∧ g x = y := by
  cases found with
  | error e => cases mapped
  | ok x =>
    cases mapped
    exact ⟨x, rfl, rfl⟩

/-- A run of digits that ended goes on no further. -/
theorem span_more (ends : bs.dropWhile isDigit ≠ []) (more : Bytes) :
    (bs ++ more).takeWhile isDigit = bs.takeWhile isDigit ∧
      (bs ++ more).dropWhile isDigit = bs.dropWhile isDigit ++ more := by
  induction bs with
  | nil => exact absurd rfl ends
  | cons b bs ih =>
    rw [List.cons_append, List.takeWhile_cons, List.dropWhile_cons, List.takeWhile_cons,
      List.dropWhile_cons]
    by_cases digit : isDigit b = true
    · rw [List.dropWhile_cons_of_pos digit] at ends
      obtain ⟨taken, left⟩ := ih ends
      simp only [if_pos digit, taken, left, and_self]
    · simp only [if_neg digit, List.cons_append, and_self]

section Numbers
variable (negative : Bool) (s dropped : Nat) (e : Int)

/-- An exponent behind its sign. -/
def readPower (down : Bool) : Reader Number
  | [] => .error .ended
  | b :: bs =>
    if isDigit b then
      let ds := (b :: bs).takeWhile isDigit
      let rest := (b :: bs).dropWhile isDigit
      if runValue ds ≤ maxExponent then
        let power : Int := if down then e - runValue ds else e + runValue ds
        match signed negative s power with
        | .ok x => .ok (x, rest)
        | .error f => .error f
      else if s ≠ 0 ∧ !down then .error .malformed
      else .ok (.real (if negative then -0.0 else 0.0), rest)
    else .error .malformed

theorem readExponent_cons (b : UInt8) (bs : Bytes) :
    readExponent negative s e (b :: bs) =
      if b = 0x2B then readPower negative s e false bs
      else if b = 0x2D then readPower negative s e true bs
      else readPower negative s e false (b :: bs) := by
  by_cases plus : b = 0x2B
  · subst plus
    cases bs <;> rfl
  rw [if_neg plus]
  by_cases minus : b = 0x2D
  · subst minus
    cases bs <;> rfl
  · rw [if_neg minus]
    unfold readExponent
    simp only [if_neg plus, if_neg minus]
    rfl

theorem extends_readPower (down : Bool) : Extends (readPower negative s e down) := by
  intro bs rest more x found unspent
  cases bs with
  | nil => cases found
  | cons b bs =>
    have digits (ends : (b :: bs).dropWhile isDigit ≠ []) := span_more ends more
    simp only [List.cons_append] at digits
    unfold readPower at found ⊢
    dsimp only [List.cons_append] at found ⊢
    split at found
    · next digit =>
      rw [if_pos digit]
      split at found
      · next small =>
        split at found
        · next value =>
          cases found
          obtain ⟨taken, left⟩ := digits unspent
          simp only [taken, left, if_pos small, value]
        · cases found
      · next large =>
        split at found
        · cases found
        · next zero =>
          cases found
          obtain ⟨taken, left⟩ := digits unspent
          simp only [taken, left, if_neg large, if_neg zero]
    · cases found

theorem extends_readExponent : Extends (readExponent negative s e) := by
  intro bs rest more x found unspent
  cases bs with
  | nil => cases found
  | cons b bs =>
    rw [List.cons_append]
    rw [readExponent_cons] at found ⊢
    split at found
    · next plus =>
      rw [if_pos plus]
      exact extends_readPower negative s e _ found unspent
    · next plus =>
      rw [if_neg plus]
      split at found
      · next minus =>
        rw [if_pos minus]
        exact extends_readPower negative s e _ found unspent
      · next minus =>
        rw [if_neg minus]
        exact extends_readPower negative s e _ found unspent

theorem extends_readScale : Extends (readScale negative s e) := by
  intro bs rest more x found unspent
  unfold readScale at found ⊢
  cases bs with
  | nil =>
    obtain ⟨y, -, same⟩ := exists_of_map found
    cases same
    exact absurd rfl unspent
  | cons b bs =>
    rw [List.cons_append]
    dsimp only at found ⊢
    split at found
    · next letter =>
      rw [if_pos letter]
      exact extends_readExponent negative s e found unspent
    · next letter =>
      obtain ⟨y, value, same⟩ := exists_of_map found
      cases same
      rw [if_neg letter, value]
      rfl

/-- Nothing is read off nothing. -/
theorem readScale_nil {x : Number} (found : readScale negative s e [] = .ok (x, rest)) :
    rest = [] := by
  obtain ⟨y, -, same⟩ := exists_of_map found
  cases same
  rfl

theorem extends_readFraction : Extends (readFraction negative s dropped) := by
  intro bs rest more x found unspent
  cases bs with
  | nil =>
    unfold readFraction at found
    dsimp only at found
    split at found
    · cases found
      exact absurd rfl unspent
    · obtain ⟨y, -, same⟩ := exists_of_map found
      cases same
      exact absurd rfl unspent
  | cons b bs =>
    rw [List.cons_append]
    unfold readFraction at found ⊢
    dsimp only at found ⊢
    split at found
    · next point =>
      split at found
      · cases found
      · next digits =>
        -- had the digits gone on to the end, nothing would be left
        have ends : bs.dropWhile isDigit ≠ [] := by
          intro ended
          rw [ended] at found
          exact unspent (readScale_nil negative _ _ found)
        obtain ⟨taken, left⟩ := span_more ends more
        rw [if_pos point, taken, if_neg digits, left]
        exact extends_readScale negative _ _ found unspent
    · next point =>
      rw [if_neg point]
      split at found
      · next letter =>
        rw [if_pos letter]
        exact extends_readExponent negative _ _ found unspent
      · next letter =>
        rw [if_neg letter]
        split at found
        · next whole =>
          cases found
          exact if_pos whole
        · next whole =>
          obtain ⟨y, value, same⟩ := exists_of_map found
          cases same
          rw [if_neg whole, value]
          rfl

theorem readFraction_nil {x : Number} (found : readFraction negative s dropped [] = .ok (x, rest)) :
    rest = [] := by
  unfold readFraction at found
  dsimp only at found
  split at found
  · cases found
    rfl
  · obtain ⟨y, -, same⟩ := exists_of_map found
    cases same
    rfl

theorem extends_readNumber : Extends (readNumber negative) := by
  intro bs rest more x found unspent
  cases bs with
  | nil => cases found
  | cons b bs =>
    have digits (ends : (b :: bs).dropWhile isDigit ≠ []) := span_more ends more
    rw [List.cons_append] at digits ⊢
    unfold readNumber at found ⊢
    dsimp only at found ⊢
    split at found
    · next zero =>
      rw [if_pos zero]
      -- a zero at the end may be followed by anything, but then nothing is left behind it
      cases bs with
      | nil => exact absurd (readFraction_nil negative _ _ found) unspent
      | cons d bs =>
        dsimp only [List.cons_append] at found ⊢
        split at found
        · cases found
        · next digit =>
          rw [if_neg digit]
          exact extends_readFraction negative _ _ found unspent
    · next zero =>
      rw [if_neg zero]
      split at found
      · next digit =>
        have ends : (b :: bs).dropWhile isDigit ≠ [] := by
          intro ended
          rw [ended] at found
          exact unspent (readFraction_nil negative _ _ found)
        obtain ⟨taken, left⟩ := digits ends
        rw [if_pos digit, taken, left]
        exact extends_readFraction negative _ _ found unspent
      · cases found

/-- The digits of an exponent. -/
def skipPower : Bytes → Except Fault Bytes
  | [] => .error .malformed
  | b :: bs => if isDigit b then .ok (bs.dropWhile isDigit) else .error .malformed

theorem skipExponent_cons (b : UInt8) (bs : Bytes) :
    skipExponent (b :: bs) = skipPower (if b = 0x2B ∨ b = 0x2D then bs else b :: bs) := by
  unfold skipExponent
  dsimp only
  split <;> simp_all only [skipPower]

theorem skipPower_more : PassesOn skipPower := by
  intro bs rest more skip unspent
  cases bs with
  | nil => cases skip
  | cons b bs =>
    rw [List.cons_append]
    rw [skipPower] at skip ⊢
    split at skip
    · next digit =>
      cases skip
      rw [if_pos digit, (span_more unspent more).2]
    · cases skip

theorem skipExponent_more : PassesOn skipExponent := by
  intro bs rest more skip unspent
  cases bs with
  | nil => cases skip
  | cons b bs =>
    rw [List.cons_append]
    rw [skipExponent_cons] at skip ⊢
    have behind : skipPower (_ ++ more) = _ := skipPower_more skip unspent
    rwa [apply_ite (· ++ more), List.cons_append] at behind

theorem skipFraction_nil (skip : skipFraction [] = .ok rest) : rest = [] := by
  cases skip
  rfl

theorem skipFraction_more : PassesOn skipFraction := by
  intro bs rest more skip unspent
  cases bs with
  | nil => exact absurd (skipFraction_nil skip) unspent
  | cons b bs =>
    rw [List.cons_append]
    rw [skipFraction.eq_def] at skip ⊢
    dsimp only at skip ⊢
    split at skip
    · next point =>
      rw [if_pos point]
      cases bs with
      | nil => cases skip
      | cons d bs =>
        dsimp only [List.cons_append] at skip ⊢
        split at skip
        · next digit =>
          rw [if_pos digit]
          split at skip
          · next letter bs there =>
            have left := (span_more (there ▸ List.cons_ne_nil _ _) more).2
            rw [left, there, List.cons_append]
            dsimp only
            split at skip
            · next isLetter =>
              rw [if_pos isLetter]
              exact skipExponent_more skip unspent
            · next isLetter =>
              cases skip
              rw [if_neg isLetter]
              rfl
          · cases skip
            exact absurd rfl unspent
        · cases skip
    · next point =>
      rw [if_neg point]
      split at skip
      · next letter =>
        rw [if_pos letter]
        exact skipExponent_more skip unspent
      · next letter =>
        cases skip
        rw [if_neg letter]
        rfl

theorem skipNumber_more : PassesOn skipNumber := by
  intro bs rest more skip unspent
  cases bs with
  | nil => cases skip
  | cons b bs =>
    rw [List.cons_append]
    rw [skipNumber.eq_def] at skip ⊢
    dsimp only at skip ⊢
    split at skip
    · next zero =>
      rw [if_pos zero]
      cases bs with
      | nil =>
        cases skip
        exact absurd rfl unspent
      | cons d bs =>
        dsimp only [List.cons_append] at skip ⊢
        split at skip
        · cases skip
        · next digit =>
          rw [if_neg digit]
          exact skipFraction_more skip unspent
    · next zero =>
      rw [if_neg zero]
      split at skip
      · next digit =>
        have ends : bs.dropWhile isDigit ≠ [] := by
          intro ended
          rw [ended] at skip
          exact unspent (skipFraction_nil skip)
        rw [if_pos digit, (span_more ends more).2]
        exact skipFraction_more skip unspent
      · cases skip
end Numbers
/-! ### Values that are passed over -/

theorem skipName_more {bracket : Bracket} (skip : skipName bracket bs = .ok rest) :
    skipName bracket (bs ++ more) = .ok (rest ++ more) := by
  cases bracket with
  | array =>
    cases skip
    rfl
  | object =>
    unfold skipName at skip ⊢
    dsimp only at skip ⊢
    split at skip
    · cases skip
    · next here =>
      rw [skipSpace_append here]
      dsimp only
      split at skip
      · next mark =>
        rw [if_pos mark]
        split at skip
        · next there =>
          rw [skipQuoted_more there]
          exact readColon_more skip
        · cases skip
      · cases skip

theorem PassesOn.ite {c : Prop} [Decidable c] {skip skip' : Bytes → Except Fault Bytes}
    (yes : PassesOn skip) (no : PassesOn skip') :
    PassesOn fun bs => if c then skip bs else skip' bs := by
  intro bs rest more found unspent
  dsimp only at found ⊢
  split at found
  · next holds =>
    rw [if_pos holds]
    exact yes found unspent
  · next fails =>
    rw [if_neg fails]
    exact no found unspent

theorem skipScalar_more (b : UInt8) : PassesOn (skipScalar b) := by
  have words (w : Bytes) : PassesOn (readWord w) := fun _ _ _ found _ => readWord_more found
  have digits : PassesOn fun bs => skipNumber (b :: bs) := fun _ _ _ found unspent =>
    skipNumber_more found unspent
  have text : PassesOn skipQuoted := fun _ _ _ found _ => skipQuoted_more found
  exact .ite (words _) (.ite (words _) (.ite (words _)
    (.ite skipNumber_more (.ite digits (.ite text nofun)))))

theorem skipRest_nil {n : Nat} {open_ : List Bracket} (skip : skipRest n open_ [] = .ok rest) :
    rest = [] := by
  cases n with
  | zero => cases skip
  | succ n =>
    cases open_ with
    | nil =>
      cases skip
      rfl
    | cons bracket open_ => cases skip

/-- What `n` steps pass over, `m` steps pass over where more bytes follow. -/
structure Suffices (n m : Nat) : Prop where
  inside : ∀ {open_ : List Bracket} {bs rest more : Bytes},
    skipInside n open_ bs = .ok rest → rest ≠ [] →
      skipInside m open_ (bs ++ more) = .ok (rest ++ more)
  first : ∀ {bracket : Bracket} {open_ : List Bracket} {bs rest more : Bytes},
    skipFirst n bracket open_ bs = .ok rest → rest ≠ [] →
      skipFirst m bracket open_ (bs ++ more) = .ok (rest ++ more)
  behind : ∀ {open_ : List Bracket} {bs rest more : Bytes},
    skipRest n open_ bs = .ok rest → rest ≠ [] →
      skipRest m open_ (bs ++ more) = .ok (rest ++ more)

theorem skipInside_succ {n m : Nat} (suffices_ : Suffices n m) {open_ : List Bracket}
    (skip : skipInside (n + 1) open_ bs = .ok rest) (unspent : rest ≠ []) :
    skipInside (m + 1) open_ (bs ++ more) = .ok (rest ++ more) := by
  unfold skipInside at skip ⊢
  split at skip
  · cases skip
  · next here =>
    rw [skipSpace_append here]
    dsimp only
    split at skip
    · exact suffices_.first skip unspent
    · split at skip
      · next after scalar =>
        -- a number at the end might go on, but behind it something has been passed over or is left
        have left : after ≠ [] := by
          rintro rfl
          exact unspent (skipRest_nil skip)
        rw [skipScalar_more _ scalar left]
        exact suffices_.behind skip unspent
      · cases skip

theorem skipFirst_succ {n m : Nat} (suffices_ : Suffices n m) {bracket : Bracket}
    {open_ : List Bracket} (skip : skipFirst (n + 1) bracket open_ bs = .ok rest)
    (unspent : rest ≠ []) : skipFirst (m + 1) bracket open_ (bs ++ more) = .ok (rest ++ more) := by
  unfold skipFirst at skip ⊢
  split at skip
  · cases skip
  · next here =>
    rw [skipSpace_append here]
    dsimp only
    split at skip
    · next close =>
      rw [if_pos close]
      exact suffices_.behind skip unspent
    · next close =>
      rw [if_neg close]
      split at skip
      · next name =>
        have name : skipName bracket (_ ++ more) = _ := skipName_more name
        rw [List.cons_append] at name
        rw [name]
        exact suffices_.inside skip unspent
      · cases skip

theorem skipRest_succ {n m : Nat} (suffices_ : Suffices n m) {open_ : List Bracket}
    (skip : skipRest (n + 1) open_ bs = .ok rest) (unspent : rest ≠ []) :
    skipRest (m + 1) open_ (bs ++ more) = .ok (rest ++ more) := by
  cases open_ with
  | nil =>
    cases skip
    rfl
  | cons bracket open_ =>
    unfold skipRest at skip ⊢
    split at skip
    · cases skip
    · next here =>
      rw [skipSpace_append here]
      dsimp only
      split at skip
      · next comma =>
        rw [if_pos comma]
        split at skip
        · next name =>
          rw [skipName_more name]
          exact suffices_.inside skip unspent
        · cases skip
      · next comma =>
        rw [if_neg comma]
        split at skip
        · next close =>
          rw [if_pos close]
          exact suffices_.behind skip unspent
        · cases skip

/-- More bytes allow more steps, and the steps that were made are made again. -/
theorem suffices_of_le {n m : Nat} (enough : n ≤ m) : Suffices n m := by
  -- on the steps that were made; all three functions go on with one step less
  induction n generalizing m with
  | zero => exact ⟨nofun, nofun, nofun⟩
  | succ n ih =>
    obtain ⟨m, rfl⟩ := Nat.exists_eq_add_one_of_ne_zero (Nat.ne_of_gt (Nat.zero_lt_of_lt enough))
    have fewer := ih (Nat.le_of_succ_le_succ enough)
    exact ⟨skipInside_succ fewer, skipFirst_succ fewer, skipRest_succ fewer⟩

theorem skipValue_more : PassesOn skipValue := by
  intro bs rest more skip unspent
  refine (suffices_of_le ?_).inside skip unspent
  rw [List.length_append]
  omega

end Brokerage.Json
