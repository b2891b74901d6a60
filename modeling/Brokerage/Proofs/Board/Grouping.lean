import Brokerage.Proofs.Board.Occurrence
import Brokerage.Proofs.Text.Blank

/-!
# Sorting leads into columns

Leads that are sorted into columns keep their order in each column, and none is lost or there twice
(`perm_leads_ofLeads`). So a board on which every lead is in the column of its stage is the one that
its leads are sorted into (`Sorted.ofLeads_leads`), and it does not matter whether leads are
searched before they are sorted or after that (`search_ofLeads`).

A search leaves what matches the query, in every column. All else that is said of searches follows
from that, column by column (`Sorted.searches`).
-/

namespace Brokerage

namespace Board

variable {b b' : Board} {leads : List Lead} {l : Lead} {query query' : String}

/-! ### Leads that match a query -/

/-- True of the leads that match a query: without the blanks around it, it stands in their name,
their email address or their phone number, all in lower case. A blank query stands everywhere. -/
def Matches (query : String) (l : Lead) : Prop :=
  ∃ text ∈ l.texts, (Text.lower (Text.trim query)).toList <:+: (Text.lower text).toList

/-- **A search finds the leads that match.** -/
theorem finds_iff_matches : finds query l = true ↔ Matches query l := by
  have stands (text : String) : textContains (needleOf query) text = true ↔
      (needleOf query).toList <:+: (Text.lower text).toList := by
    rw [textContains, occursIn_iff]
  rw [finds, Bool.or_eq_true, beq_iff_eq, leadContains_eq, List.any_eq_true]
  constructor
  · rintro (blank | ⟨text, own, contains⟩)
    · -- nothing stands in every text, and every lead has a name
      refine ⟨l.name, List.mem_cons_self, ?_⟩
      show (needleOf query).toList <:+: _
      rw [blank]
      exact List.nil_infix
    · exact ⟨text, own, (stands text).mp contains⟩
  · rintro ⟨text, own, inside⟩
    exact .inr ⟨text, own, (stands text).mpr inside⟩

instance (query : String) : DecidablePred (Matches query) := fun _ =>
  decidable_of_iff _ finds_iff_matches

theorem decide_matches (query : String) (l : Lead) : decide (Matches query l) = finds query l := by
  rw [Bool.eq_iff_iff, decide_eq_true_iff, finds_iff_matches]

/-- A blank query matches all. -/
theorem matches_of_blank (blank : Text.Blank query) (l : Lead) :
    Matches query l := by
  refine ⟨l.name, List.mem_cons_self, ?_⟩
  rw [Text.trim_eq_empty_iff.mpr blank]
  show [] <:+: _
  exact List.nil_infix

/-! ### Sorting -/

/-- **No lead is lost and none is there twice.** -/
theorem perm_leads_ofLeads (leads : List Lead) : (ofLeads leads).leads.Perm leads := by
  have added : ∀ b, Complete b → (leads.foldl Board.add b).leads.Perm (leads ++ b.leads) := by
    induction leads with
    | nil =>
      intro b _
      exact .refl _
    | cons l rest ih =>
      intro b complete
      calc (rest.foldl Board.add (b.add l)).leads.Perm (rest ++ (b.add l).leads) :=
            ih _ (complete.modify _ _)
        List.Perm _ (rest ++ l :: b.leads) := (complete.leads_add l).append_left rest
        List.Perm _ (l :: rest ++ b.leads) := List.perm_middle
  have all := added empty sorted_empty.complete
  rwa [show empty.leads = [] from rfl, List.append_nil] at all

/-- **A board is the one that its leads are sorted into.** -/
theorem Sorted.ofLeads_leads (sorted : Sorted b) : ofLeads b.leads = b := by
  refine sorted.complete.eq_of_columns (sorted_ofLeads b.leads).complete fun s => ?_
  rw [column_ofLeads, ← sorted.column_eq]

/-- **Leads may be searched before they are sorted.** -/
theorem search_ofLeads (leads : List Lead) (query : String) :
    (ofLeads leads).search query = ofLeads (leads.filter (Matches query ·)) := by
  have sorted := sorted_ofLeads leads
  refine (sorted_ofLeads _).complete.eq_of_columns (sorted.search query).complete fun s => ?_
  rw [sorted.column_search, column_ofLeads, column_ofLeads, List.filter_filter, List.filter_filter]
  refine List.filter_congr fun l _ => ?_
  rw [decide_matches, Bool.and_comm]

/-! ### Searching -/

/-- What all searches of a board have in common. -/
structure Searches (b : Board) : Prop where
  /-- A search leaves in every column the leads that match, in their order. -/
  column : ∀ query s, (b.search query).column s = (b.column s).filter (Matches query ·)
  sublist : ∀ query s, ((b.search query).column s).Sublist (b.column s)
  /-- It is the board that the leads that match are sorted into. -/
  regrouped : ∀ query, b.search query = ofLeads (b.leads.filter (Matches query ·))
  /-- The same search once more leaves all that the first one has left. -/
  again : ∀ query, (b.search query).search query = b.search query
  /-- Of two searches it does not matter which one comes first. -/
  comm : ∀ query query', (b.search query).search query' = (b.search query').search query
  /-- Two searches leave the leads that match both queries. -/
  both : ∀ query query' s, ((b.search query).search query').column s =
    (b.column s).filter fun l => Matches query l ∧ Matches query' l
  blank : ∀ query, Text.Blank query → b.search query = b

/-- A column after a search has the leads that match. -/
theorem Sorted.column_search_matches (sorted : Sorted b) (query : String) (s : Lead.Status) :
    (b.search query).column s = (b.column s).filter (Matches query ·) := by
  rw [sorted.column_search]
  exact List.filter_congr fun l _ => (decide_matches query l).symm

theorem Sorted.column_search_search (sorted : Sorted b) (query query' : String) (s : Lead.Status) :
    ((b.search query).search query').column s =
      (b.column s).filter fun l => Matches query l ∧ Matches query' l := by
  rw [(sorted.search query).column_search_matches, sorted.column_search_matches, List.filter_filter]
  refine List.filter_congr fun l _ => ?_
  rw [Bool.decide_and, Bool.and_comm]

/-- Two boards are the same after two searches of each, if these leave the same of every column. -/
theorem Sorted.search_search_eq (sorted : Sorted b) (sorted' : Sorted b')
    (same : ∀ s, ((b.search query).search query').column s = b'.column s) :
    (b.search query).search query' = b' :=
  sorted'.complete.eq_of_columns ((sorted.search query).search query').complete same

/-- **What is true of all searches of a board on which every lead is in the
column of its stage.** -/
theorem Sorted.searches (sorted : Sorted b) : Searches b where
  column := sorted.column_search_matches
  sublist query s := by
    rw [sorted.column_search_matches]
    exact List.filter_sublist
  regrouped query := by
    rw [← search_ofLeads, sorted.ofLeads_leads]
  again query := by
    refine sorted.search_search_eq (sorted.search query) fun s => ?_
    rw [sorted.column_search_search, sorted.column_search_matches]
    exact List.filter_congr fun l _ => decide_eq_decide.mpr and_self_iff
  comm query query' := by
    refine sorted.search_search_eq ((sorted.search query').search query) fun s => ?_
    rw [sorted.column_search_search, sorted.column_search_search]
    exact List.filter_congr fun l _ => decide_eq_decide.mpr and_comm
  both := sorted.column_search_search
  blank query blank := by
    refine sorted.complete.eq_of_columns (sorted.search query).complete fun s => ?_
    rw [sorted.column_search_matches]
    exact List.filter_eq_self.mpr fun l _ => decide_eq_true (matches_of_blank blank l)

/-- What leads that are sorted into columns come to. -/
structure Grouped (leads : List Lead) (b : Board) : Prop where
  /-- There is one column for every stage. -/
  statuses : b.columns.map Prod.fst = Lead.Status.all
  /-- A column has exactly the leads of its stage, in the order in which they were given. -/
  column : ∀ s, b.column s = leads.filter (·.status = s)
  /-- Nothing is lost and nothing is there twice. -/
  perm : b.leads.Perm leads
  /-- A search of the board is the board of those that match. -/
  search : ∀ query, b.search query = ofLeads (leads.filter (Matches query ·))

/-- **Sorting and searching.** Leads that are sorted into columns are in the columns of
their stages in the order in which they were given. However the board has been changed
since, it is the one that its leads, read off column by column, are sorted into; and a
search of it leaves what matches, so that it may come before the sorting, be repeated, and
come before or after another one. -/
theorem sorting_and_searching (leads : List Lead) (changes : List Change) :
    Grouped leads (ofLeads leads) ∧
      ofLeads (changes.foldl change (ofLeads leads)).leads = changes.foldl change (ofLeads leads) ∧
      Searches (changes.foldl change (ofLeads leads)) := by
  have sorted : Sorted (changes.foldl change (ofLeads leads)) :=
    (sorted_ofLeads leads).foldl_change changes
  refine ⟨⟨(sorted_ofLeads leads).complete, fun s => ?_, perm_leads_ofLeads leads,
    search_ofLeads leads⟩, sorted.ofLeads_leads, sorted.searches⟩
  rw [column_ofLeads]
  exact List.filter_congr fun l _ => rfl

end Board

end Brokerage
