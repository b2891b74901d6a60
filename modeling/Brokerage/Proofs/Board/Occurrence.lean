import Brokerage.Proofs.Board.Search
import Brokerage.Proofs.Text.Lowercase

/-!
# Queries that stand in a text of a lead

A search compares lower case with lower case. A query that stands in the name, the email address or
the phone number of a lead finds it, as long as the lower case of the query is the same there as
alone: that is so unless it has a capital sigma that ends a word in one of the two and not in the
other (`search_of_occurrence`). Such a query may miss the lead (`search_missing`): the first letters
of a name in capitals need not find the name.
-/

namespace Brokerage

/-- The texts of a lead that a search looks at. -/
def Lead.texts (l : Lead) : List String :=
  l.name :: (l.email.toList ++ l.phone.toList)

namespace Board

variable {l : Lead} {needle text query : String} {before after : List Char}

/-- Something occurs in a text exactly if it is a stretch of it. -/
theorem occursIn_iff {needle text : List Char} :
    occursIn needle text = true ↔ needle <:+: text := by
  induction text with
  | nil => rw [occursIn, List.isEmpty_iff, List.infix_nil]
  | cons c cs ih => rw [occursIn, Bool.or_eq_true, ih, List.isPrefixOf_iff_prefix,
      List.infix_cons_iff]

theorem textContains_iff :
    textContains needle text = true ↔ needle.toList <:+: Text.lowerFrom [] text.toList := by
  rw [textContains, occursIn_iff, Text.lower, String.toList_ofList]

theorem leadContains_eq (needle : String) (l : Lead) :
    leadContains needle l = l.texts.any (textContains needle) := by
  rw [leadContains, Lead.texts, List.any_cons, List.any_append, Bool.or_assoc]
  cases l.email <;> cases l.phone <;> simp

/-- A query whose lower case stands in the lower case of one of its texts finds a lead. -/
theorem finds_of_infix (own : text ∈ l.texts)
    (stands : Text.lowerFrom [] (Text.trim query).toList <:+: Text.lowerFrom [] text.toList) :
    finds query l = true := by
  have contains : textContains (needleOf query) text = true := by
    rw [textContains_iff, needleOf, Text.lower, String.toList_ofList]
    exact stands
  rw [finds, leadContains_eq, List.any_eq_true.mpr ⟨text, own, contains⟩, Bool.or_true]

/-- **Queries that stand in a text.** Leads have been sorted into columns, and the board has been
changed since. A query without the blanks around it stands in one of the texts of a lead on the
board, and each capital sigma of it ends a word there exactly if it does so in the query. Then the
search leaves the lead on the board. -/
theorem search_of_occurrence (leads : List Lead) (changes : List Change)
    (there : l ∈ (changes.foldl change (ofLeads leads)).leads) (own : text ∈ l.texts)
    (stands : text.toList = before ++ (Text.trim query).toList ++ after)
    (sigmas : Text.SameSigmas before (Text.trim query).toList after) :
    l ∈ ((changes.foldl change (ofLeads leads)).search query).leads := by
  have sorted : Sorted (changes.foldl change (ofLeads leads)) :=
    (sorted_ofLeads leads).foldl_change changes
  have found : finds query l = true := by
    refine finds_of_infix own ?_
    rw [stands]
    exact Text.lower_infix_of_sameSigmas sigmas
  rw [sorted.leads_search]
  exact List.mem_filter.mpr ⟨there, found⟩

namespace Sample

/-- A lead with a name in capitals. -/
def odysseus : Lead := { person "1" .new with name := "ΟΔΥΣΣΕΑΣ" }

end Sample

/-- The first six letters of the name find it, with blanks around them: no sigma ends a word in the
query, nor there. -/
theorem search_of_occurrence_capitals :
    Text.SameSigmas [] (Text.trim " ΟΔΥΣΣΕ ").toList ['Α', 'Σ'] ∧
      Sample.odysseus ∈ ((ofLeads [Sample.odysseus]).search " ΟΔΥΣΣΕ ").leads := by
  have own : "ΟΔΥΣΣΕΑΣ" ∈ Sample.odysseus.texts := List.mem_cons_self
  have stands : "ΟΔΥΣΣΕΑΣ".toList = [] ++ (Text.trim " ΟΔΥΣΣΕ ").toList ++ ['Α', 'Σ'] := by
    decide
  have sigmas : Text.SameSigmas [] (Text.trim " ΟΔΥΣΣΕ ").toList ['Α', 'Σ'] := by
    decide +kernel
  exact ⟨sigmas, search_of_occurrence [Sample.odysseus] [] (by decide) own stands sigmas⟩

/-- **The first four letters of a name in capitals do not find it**: their last one, a sigma, ends a
word in the query, but not in the name. -/
theorem search_missing :
    ∃ l : Lead, l ∈ (ofLeads [Sample.odysseus]).leads ∧ "ΟΔΥΣΣΕΑΣ" ∈ l.texts ∧
      "ΟΔΥΣΣΕΑΣ".toList = [] ++ (Text.trim "ΟΔΥΣ").toList ++ "ΣΕΑΣ".toList ∧
      l ∉ ((ofLeads [Sample.odysseus]).search "ΟΔΥΣ").leads :=
  ⟨Sample.odysseus, by decide, List.mem_cons_self, by decide +kernel, by decide +kernel⟩

end Board

end Brokerage
