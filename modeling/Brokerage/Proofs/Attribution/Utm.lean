import Brokerage.Attribution.Utm
import Brokerage.Proofs.Text.Blank
import Brokerage.Proofs.Url.Query

/-!
# Campaign parameters of a link

A pair of a query gives a parameter a value if it has exactly its name and something is left of its
value without the blanks around it (`Gives`). A parameter has the value that was given to it last
(`IsLast`): a pair that gives it none leaves it as it is (`of_add`), so of all pairs of a link only
those count that give it a value (`of_foldl_add`). What else stands in the query does not matter,
nor does it how the pairs of different names are mixed (`FromLink`).
-/

namespace Brokerage

namespace Utm

/-- The five parameters. -/
inductive Parameter where
  | source
  | medium
  | campaign
  | term
  | content

/-- What a parameter is called in a query. -/
def Parameter.key : Parameter → String
  | source => "utm_source"
  | medium => "utm_medium"
  | campaign => "utm_campaign"
  | term => "utm_term"
  | content => "utm_content"

/-- The value of a parameter. -/
def Parameter.of : Parameter → Utm → Option String
  | source, u => u.source
  | medium, u => u.medium
  | campaign, u => u.campaign
  | term, u => u.term
  | content, u => u.content

variable {u : Utm} {pair : Form.Pair} {pairs pairs' : List Form.Pair} {p : Parameter} {v : String}
  {url url' : Url}

/-! ### One pair -/

/-- Parameters are the same if each of them has the same value. -/
theorem ext_of {u u' : Utm} (same : ∀ p : Parameter, p.of u = p.of u') : u = u' := by
  cases u
  cases u'
  rw [mk.injEq]
  exact ⟨same .source, same .medium, same .campaign, same .term, same .content⟩

/-- A pair gives a parameter a value. -/
def Gives (pair : Form.Pair) (p : Parameter) : Prop := pair.1 = p.key ∧ ¬Text.Blank pair.2

instance (pair : Form.Pair) (p : Parameter) : Decidable (Gives pair p) :=
  inferInstanceAs (Decidable (pair.1 = p.key ∧ ¬Text.Blank pair.2))

/-- **What a pair does**: it gives its parameter its trimmed value and leaves the others alone. -/
theorem of_add (u : Utm) (pair : Form.Pair) (p : Parameter) :
    p.of (u.add pair) = if Gives pair p then some (Text.trim pair.2) else p.of u := by
  rw [add, Text.nonBlank?_eq]
  by_cases blank : Text.Blank pair.2
  · have idle : ¬Gives pair p := fun gives => gives.2 blank
    rw [if_pos blank, if_neg idle]
  rw [if_neg blank]
  dsimp only
  by_cases own : pair.1 = p.key
  · have gives : Gives pair p := ⟨own, blank⟩
    rw [if_pos gives, own]
    cases p <;> rfl
  · have idle : ¬Gives pair p := fun gives => own gives.1
    rw [if_neg idle]
    -- its name is that of another parameter, or of none
    cases p <;> rw [Parameter.key] at own <;> split_ifs <;> rfl

/-! ### All pairs -/

/-- The text is the trimmed value that a parameter was given last. -/
def IsLast (pairs : List Form.Pair) (p : Parameter) (v : String) : Prop :=
  ∃ before value after, pairs = before ++ (p.key, value) :: after ∧ ¬Text.Blank value ∧
    v = Text.trim value ∧ ∀ pair ∈ after, pair.1 = p.key → Text.Blank pair.2

/-- The values that pairs give a parameter, in their order. -/
def values (pairs : List Form.Pair) (p : Parameter) : List String :=
  (pairs.filter (Gives · p)).map fun pair => Text.trim pair.2

theorem values_concat (pairs : List Form.Pair) (pair : Form.Pair) (p : Parameter) :
    values (pairs ++ [pair]) p =
      if Gives pair p then values pairs p ++ [Text.trim pair.2] else values pairs p := by
  rw [values, values, List.filter_append, List.map_append, List.filter_cons, List.filter_nil]
  split
  · next gives => rw [if_pos (of_decide_eq_true gives), List.map_singleton]
  · next idle => rw [if_neg fun gives => idle (decide_eq_true gives), List.map_nil, List.append_nil]

/-- **Of all values that a parameter is given it has the last one.** -/
theorem of_foldl_add (pairs : List Form.Pair) (p : Parameter) :
    p.of (pairs.foldl add {}) = (values pairs p).getLast? := by
  -- the last pair is added last, so pairs are taken away from the end
  induction pairs using List.reverseRecOn with
  | nil => cases p <;> rfl
  | append_singleton pairs pair ih =>
    rw [List.foldl_append, List.foldl_cons, List.foldl_nil, of_add, values_concat]
    split
    · exact List.getLast?_concat.symm
    · exact ih

theorem getLast?_values_eq_some_iff : (values pairs p).getLast? = some v ↔ IsLast pairs p v := by
  rw [values, List.getLast?_map, Option.map_eq_some_iff]
  constructor
  · rintro ⟨⟨name, value⟩, last, rfl⟩
    obtain ⟨front, whole⟩ := List.getLast?_eq_some_iff.mp last
    -- the pair that gives the last value divides the others into earlier and later ones
    obtain ⟨before, rest, rfl, -, tail⟩ := List.filter_eq_append_iff.mp whole
    obtain ⟨between, after, rfl, -, gives, nothing⟩ := List.filter_eq_cons_iff.mp tail
    obtain ⟨rfl, filled⟩ : name = p.key ∧ ¬Text.Blank value := of_decide_eq_true gives
    refine ⟨before ++ between, value, after, (List.append_assoc ..).symm, filled, rfl, ?_⟩
    intro pair there own
    by_contra filled
    exact List.filter_eq_nil_iff.mp nothing pair there (decide_eq_true ⟨own, filled⟩)
  · rintro ⟨before, value, after, rfl, filled, rfl, idle⟩
    refine ⟨(p.key, value), ?_, rfl⟩
    have gives : Gives (p.key, value) p := ⟨rfl, filled⟩
    have nothing : after.filter (Gives · p) = [] := by
      refine List.filter_eq_nil_iff.mpr fun pair there gives => ?_
      obtain ⟨own, filled⟩ := of_decide_eq_true gives
      exact filled (idle pair there own)
    rw [List.filter_append, List.filter_cons, if_pos (decide_eq_true gives), nothing]
    exact List.getLast?_concat

/-! ### Links -/

/-- There are parameters if one of them has a value. -/
theorem isEmpty_iff : u.isEmpty = true ↔ ∀ p : Parameter, p.of u = none := by
  simp only [isEmpty, Bool.and_eq_true, Option.isNone_iff_eq_none]
  constructor
  · rintro ⟨⟨⟨⟨source, medium⟩, campaign⟩, term⟩, content⟩ p
    cases p <;> assumption
  · intro absent
    exact ⟨⟨⟨⟨absent .source, absent .medium⟩, absent .campaign⟩, absent .term⟩, absent .content⟩

/-- What is found in pairs, parameter by parameter. -/
theorem bind_of_ofPairs? (pairs : List Form.Pair) (p : Parameter) :
    (ofPairs? pairs).bind p.of = (values pairs p).getLast? := by
  rw [ofPairs?]
  split
  · next empty => rw [← of_foldl_add, isEmpty_iff.mp empty p, Option.bind_none]
  · exact of_foldl_add pairs p

theorem ofPairs?_eq_none_iff : ofPairs? pairs = none ↔ ∀ p, values pairs p = [] := by
  have empty : (ofPairs? pairs = none) ↔ (pairs.foldl add {}).isEmpty = true := by
    rw [ofPairs?]
    split
    · next empty => exact iff_of_true rfl empty
    · next filled => exact iff_of_false nofun filled
  rw [empty, isEmpty_iff]
  refine forall_congr' fun p => ?_
  rw [of_foldl_add, List.getLast?_eq_none_iff]

/-- **What is found depends on nothing but the values that each parameter is given.** -/
theorem ofPairs?_congr (same : ∀ p, values pairs' p = values pairs p) :
    ofPairs? pairs' = ofPairs? pairs := by
  have folded : pairs'.foldl add {} = pairs.foldl add {} := by
    refine ext_of fun p => ?_
    rw [of_foldl_add, of_foldl_add, same p]
  rw [ofPairs?, ofPairs?, folded]

/-- What campaign a link belongs to. -/
structure FromLink (url : Url) (found : Option Utm) : Prop where
  /-- Each parameter has the trimmed value that it is given last, if it is given one. -/
  field : ∀ p v, found.bind (Parameter.of p) = some v ↔ IsLast url.pairs p v
  /-- Nothing is found exactly if no parameter is given a value. -/
  nothing : found = none ↔ ∀ p v, ¬IsLast url.pairs p v
  /-- Pairs that give no parameter a value may be left out and put in: those with a blank value, and
  those with another name, or with the same one in other letters. -/
  counting : ∀ url' : Url, (∀ p, url'.pairs.filter (Gives · p) = url.pairs.filter (Gives · p)) →
    ofUrl? url' = found
  /-- So none of them that comes later takes away what an earlier one has given. -/
  later : ∀ pairs, (∀ pair ∈ pairs, ∀ p, ¬Gives pair p) → ofUrl? (url.addPairs pairs) = found
  /-- Pairs may be put in another order in which those of one name follow each other as before. -/
  reordered : ∀ url' : Url, (∀ key, url'.pairs.filter (·.1 = key) = url.pairs.filter (·.1 = key)) →
    ofUrl? url' = found

/-- **Campaign parameters are what a link says last**, whatever else is in its query and in whatever
order. -/
theorem found_in_link (url : Url) : FromLink url (ofUrl? url) where
  field p v := by
    rw [ofUrl?, bind_of_ofPairs?]
    exact getLast?_values_eq_some_iff
  nothing := by
    rw [ofUrl?, ofPairs?_eq_none_iff]
    refine forall_congr' fun p => ?_
    rw [← List.getLast?_eq_none_iff, Option.eq_none_iff_forall_ne_some]
    exact forall_congr' fun v => not_congr getLast?_values_eq_some_iff
  counting url' same := by
    refine ofPairs?_congr fun p => ?_
    rw [values, same p, values]
  later pairs idle := by
    refine ofPairs?_congr fun p => ?_
    have nothing : pairs.filter (Gives · p) = [] :=
      List.filter_eq_nil_iff.mpr fun pair there gives => idle pair there p (of_decide_eq_true gives)
    rw [Url.pairs_addPairs, values, List.filter_append, nothing, List.append_nil, values]
  reordered url' same := by
    refine ofPairs?_congr fun p => ?_
    have own (pairs : List Form.Pair) : pairs.filter (Gives · p) =
        (pairs.filter (·.1 = p.key)).filter fun pair => ¬Text.Blank pair.2 := by
      rw [List.filter_filter]
      refine List.filter_congr fun pair _ => ?_
      rw [Bool.and_comm, ← Bool.decide_and]
      rfl
    rw [values, own, same p.key, ← own, values]

/-- A blank value and a name in other letters do not count, and a plus sign is a space. -/
example : ofPairs? (Form.read
    "utm_source=+caf%C3%A9+&utm_source=%E3%80%80&UTM_SOURCE=b&utm_term=") =
    some { source := some "café" } := by
  decide +kernel

end Utm

end Brokerage
