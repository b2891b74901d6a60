import Brokerage.Proofs.Board.Rollback

/-!
# Searching a board

A search leaves in every column the leads that it finds, in their order (`Sorted.column_search`), so
that the leads it leaves are those of the board that it finds (`Sorted.leads_search`). What it
finds a lead by is not its stage. So moving a lead and searching do not get in each other's way:
if no two leads share an identity, the board is the same whichever comes first, and a move on what
the search has left returns what it returns on the whole board, if the lead is among that, and
nothing otherwise (`search_move_comm`).
-/

namespace Brokerage

namespace Board

variable {b : Board} {id : LeadId} {s target : Lead.Status} {lead lead' : Lead}
  {before before' after after' : List Lead} {query : String}

/-- True of the leads that a query finds. A blank query finds all. -/
def finds (query : String) (l : Lead) : Bool :=
  needleOf query == "" || leadContains (needleOf query) l

/-- A lead is found at whatever stage it is. -/
theorem finds_of_status (query : String) (l : Lead) (s : Lead.Status) :
    finds query { l with status := s } = finds query l := rfl

/-! ### What a search leaves -/

/-- A lead goes to the end of one column. -/
theorem Complete.column_add (complete : Complete b) (l : Lead) (s : Lead.Status) :
    (b.add l).column s = b.column s ++ [l].filter (·.status == s) := by
  by_cases here : l.status = s
  · subst here
    rw [Board.add, complete.column_modify_self, List.filter_cons_of_pos (by simp), List.filter_nil]
  · rw [Board.add, column_modify_of_ne (Ne.symm here),
      List.filter_cons_of_neg (by simpa using here), List.filter_nil, List.append_nil]

/-- Leads that are put into the columns of their stages stay in order there. -/
theorem column_ofLeads (leads : List Lead) (s : Lead.Status) :
    (ofLeads leads).column s = leads.filter (·.status == s) := by
  have added : ∀ b, Complete b →
      (leads.foldl Board.add b).column s = b.column s ++ leads.filter (·.status == s) := by
    induction leads with
    | nil => exact fun b _ => (List.append_nil _).symm
    | cons l rest ih =>
      intro b complete
      have complete' : Complete (b.add l) := complete.modify _ _
      rw [List.foldl_cons, ih _ complete', complete.column_add, List.append_assoc,
        ← List.filter_append]
      rfl
  have nothing : empty.column s = [] := by
    cases s <;> rfl
  rw [ofLeads, added empty sorted_empty.complete, nothing, List.nil_append]

/-- **A search leaves in every column the leads that it finds**, in their order. -/
theorem Sorted.column_search (sorted : Sorted b) (query : String) (s : Lead.Status) :
    (b.search query).column s = (b.column s).filter (finds query) := by
  unfold Board.search finds
  by_cases blank : needleOf query = ""
  · rw [if_pos blank, blank]
    exact (List.filter_eq_self.mpr fun _ _ => rfl).symm
  · rw [if_neg blank, column_ofLeads, sorted.column_eq s, List.filter_filter, List.filter_filter]
    refine List.filter_congr fun l _ => ?_
    rw [beq_eq_false_iff_ne.mpr blank, Bool.false_or, Bool.and_comm]

/-- The leads that a search leaves are those of the board that it finds. -/
theorem Sorted.leads_search (sorted : Sorted b) (query : String) :
    (b.search query).leads = b.leads.filter (finds query) := by
  rw [sorted.complete.leads_eq, (sorted.search query).complete.leads_eq, List.filter_flatMap]
  exact List.flatMap_congr fun s _ => sorted.column_search query s

/-! ### The lead of a move among those that are found -/

/-- The first lead with an identity is the first one that a search leaves, if it finds it. -/
theorem First.search (first : First b id before lead after) (sorted : Sorted b)
    (found : finds query lead = true) :
    First (b.search query) id (before.filter (finds query)) lead (after.filter (finds query)) := by
  refine ⟨?_, ?_, fun l there => first.fresh l (List.mem_filter.mp there).1⟩
  · obtain ⟨named, front, back, leads, earlier⟩ :=
      List.find?_eq_some_iff_append.mp first.found
    refine List.find?_eq_some_iff_append.mpr
      ⟨named, front.filter (finds query), back.filter (finds query), ?_, fun l there => ?_⟩
    · rw [sorted.leads_search, leads, List.filter_append, List.filter_cons_of_pos found]
    · exact earlier l (List.mem_filter.mp there).1
  · rw [sorted.column_search, first.column, List.filter_append, List.filter_cons_of_pos found]

/-- What comes of a move of this lead to another column. -/
structure Relocated (b : Board) (target : Lead.Status) (before : List Lead) (lead : Lead)
    (after : List Lead) (result : Option Lead.Status × Board) : Prop where
  returned : result.1 = some lead.status
  origin : result.2.column lead.status = before ++ after
  last : result.2.column target = b.column target ++ [{ lead with status := target }]
  others : ∀ s, s ≠ lead.status → s ≠ target → result.2.column s = b.column s

/-- There is one first lead with an identity, and it stands in one place. -/
theorem First.unique (first : First b id before lead after)
    (first' : First b id before' lead' after') :
    lead' = lead ∧ before' = before ∧ after' = after := by
  obtain rfl : lead' = lead := Option.some.inj (first'.found.symm.trans first.found)
  have columns := first'.column.symm.trans first.column
  -- those in front of it are the ones up to the first with its identity
  have ahead {before after : List Lead} (first : First b id before lead' after) :
      (before ++ lead' :: after).takeWhile (·.id != id) = before := by
    rw [List.takeWhile_append_of_pos fun l there => bne_iff_ne.mpr (first.fresh l there),
      List.takeWhile_cons_of_neg (by simp [first.id_eq]), List.append_nil]
  obtain rfl : before' = before := by
    rw [← ahead first, ← columns, ahead first']
  exact ⟨rfl, rfl, (List.cons.inj (List.append_cancel_left columns)).2⟩

/-- The first lead with the identity is the one that moves. -/
theorem First.relocated (first : First b id before lead after) (sorted : Sorted b)
    (elsewhere : lead.status ≠ target) :
    Relocated b target before lead after (b.move id target) := by
  have moved := sorted.moved id target
  generalize b.move id target = result at moved
  cases moved with
  | absent nowhere => exact absurd first.id_eq (nowhere lead first.mem_leads)
  | already first' there =>
    obtain ⟨rfl, -, -⟩ := first.unique first'
    exact absurd there elsewhere
  | moved first' elsewhere' origin last others leads =>
    obtain ⟨rfl, rfl, rfl⟩ := first.unique first'
    exact ⟨rfl, origin, last, others⟩

/-- If the first lead with the identity is in the column already, it stays where it is. -/
theorem First.move_of_eq (first : First b id before lead after) (sorted : Sorted b)
    (there : lead.status = target) : b.move id target = (some target, b) := by
  have moved := sorted.moved id target
  generalize b.move id target = result at moved
  cases moved with
  | absent nowhere => exact absurd first.id_eq (nowhere lead first.mem_leads)
  | already first' there' => rfl
  | moved first' elsewhere origin last others leads =>
    obtain ⟨rfl, -, -⟩ := first.unique first'
    exact absurd there elsewhere

/-! ### Searching before and after a move -/

/-- What a search and a move have to do with each other. -/
structure Commutes (b : Board) (query : String) (id : LeadId) (target : Lead.Status) : Prop where
  /-- The board is the same, whichever comes first. -/
  board : (b.move id target).2.search query = ((b.search query).move id target).2
  /-- The search leaves exactly the leads that the query finds. -/
  left : ∀ l, l ∈ (b.search query).leads ↔ l ∈ b.leads ∧ finds query l = true
  /-- If the lead is among them, a move returns what it returns on the whole board. -/
  found : (∃ l ∈ b.leads, l.id = id ∧ finds query l = true) →
    ((b.search query).move id target).1 = (b.move id target).1
  /-- If it is not, a move finds nothing and changes nothing. -/
  hidden : (∀ l ∈ b.leads, l.id = id → finds query l = false) →
    (b.search query).move id target = (none, b.search query)

/-- Where the search has left no lead with the identity, a move finds none. -/
theorem Sorted.move_search_hidden (sorted : Sorted b)
    (hidden : ∀ l ∈ b.leads, l.id = id → finds query l = false) :
    (b.search query).move id target = (none, b.search query) := by
  have absent {lead : Lead} {before after : List Lead} :
      ¬ First (b.search query) id before lead after := by
    intro first
    have there := first.mem_leads
    rw [sorted.leads_search, List.mem_filter] at there
    rw [hidden lead there.1 first.id_eq] at there
    exact Bool.false_ne_true there.2
  have moved := (sorted.search query).moved id target
  generalize (b.search query).move id target = result at moved
  cases moved with
  | absent nowhere => rfl
  | already first there => exact absurd first absent
  | moved first elsewhere origin last others leads => exact absurd first absent

/-- A move of leads that the query does not find is not seen among those that it finds. -/
theorem Sorted.search_move_hidden (sorted : Sorted b)
    (hidden : ∀ l ∈ b.leads, l.id = id → finds query l = false) :
    (b.move id target).2.search query = b.search query := by
  have sorted' := sorted.move id target
  have moved := sorted.moved id target
  generalize b.move id target = result at moved sorted'
  cases moved with
  | absent nowhere => rfl
  | already first there => rfl
  | @moved before lead after b' first elsewhere origin last others leads =>
    have unseen : finds query lead = false := hidden lead first.mem_leads first.id_eq
    have unseen' := (finds_of_status query lead target).trans unseen
    refine (sorted.search query).complete.eq_of_columns (sorted'.search query).complete fun s => ?_
    rw [sorted.column_search, sorted'.column_search]
    by_cases here : s = lead.status
    · rw [here, origin, first.column, List.filter_append, List.filter_append,
        List.filter_cons_of_neg (by rw [unseen]; exact Bool.false_ne_true)]
    by_cases there : s = target
    · rw [there, last, List.filter_append,
        List.filter_cons_of_neg (by rw [unseen']; exact Bool.false_ne_true),
        List.filter_nil, List.append_nil]
    · rw [others s here there]

/-- A lead that the query finds moves in the same way on the whole board and among those that it
finds. -/
theorem First.commutes (first : First b id before lead after) (sorted : Sorted b)
    (found : finds query lead = true) :
    ((b.search query).move id target).1 = (b.move id target).1 ∧
      (b.move id target).2.search query = ((b.search query).move id target).2 := by
  have searched := sorted.search query
  have first' := first.search sorted found
  have found' := (finds_of_status query lead target).trans found
  by_cases there : lead.status = target
  · rw [first.move_of_eq sorted there, first'.move_of_eq searched there]
    dsimp only
    exact ⟨rfl, rfl⟩
  · have moved := first.relocated sorted there
    have moved' := first'.relocated searched there
    have sorted' := sorted.move id target
    have complete' := (searched.move id target).complete
    refine ⟨moved'.returned.trans moved.returned.symm, ?_⟩
    refine complete'.eq_of_columns (sorted'.search query).complete fun s => ?_
    rw [sorted'.column_search]
    by_cases here : s = lead.status
    · rw [here, moved.origin, moved'.origin, List.filter_append]
    by_cases last : s = target
    · rw [last, moved.last, moved'.last, List.filter_append, sorted.column_search,
        List.filter_cons_of_pos found', List.filter_nil]
    · rw [moved.others s here last, moved'.others s here last, sorted.column_search]

/-- **On a board on which every lead is in the column of its stage and no two share an identity, a
search and a move commute.** -/
theorem Sorted.commutes (sorted : Sorted b) (distinct : Distinct b) (query : String) (id : LeadId)
    (target : Lead.Status) : Commutes b query id target := by
  have left (l : Lead) : l ∈ (b.search query).leads ↔ l ∈ b.leads ∧ finds query l = true := by
    rw [sorted.leads_search, List.mem_filter]
  by_cases seen : ∃ l ∈ b.leads, l.id = id ∧ finds query l = true
  · obtain ⟨l, inside, named, found⟩ := seen
    obtain ⟨before, lead, after, first⟩ : ∃ before lead after, First b id before lead after := by
      have moved := sorted.moved id target
      generalize b.move id target = result at moved
      cases moved with
      | absent nowhere => exact absurd named (nowhere l inside)
      | already first there => exact ⟨_, _, _, first⟩
      | moved first elsewhere origin last others leads => exact ⟨_, _, _, first⟩
    -- it is the only lead with the identity, so it is the one that a move is about
    obtain rfl : l = lead :=
      distinct.eq_of_id inside first.mem_leads (named.trans first.id_eq.symm)
    obtain ⟨returned, board⟩ := first.commutes sorted found
    refine ⟨board, left, fun _ => returned, fun hidden => ?_⟩
    rw [hidden l inside named] at found
    cases found
  · have hidden (l : Lead) (inside : l ∈ b.leads) (named : l.id = id) : finds query l = false :=
      Bool.eq_false_iff.mpr fun found => seen ⟨l, inside, named, found⟩
    have unmoved : (b.search query).move id target = (none, b.search query) :=
      sorted.move_search_hidden hidden
    refine ⟨?_, left, fun found => absurd found seen, fun _ => unmoved⟩
    rw [unmoved, sorted.search_move_hidden hidden]

/-- **Searching and moving.** Leads have been sorted into columns, and the board has been
changed since, and no two of its leads share an identity. The board is the same, whether a lead
is moved before a search or after it; and among what the search has left, a move returns what it
returns on the whole board if the lead is one of those that the query finds, and otherwise finds
and changes nothing. -/
theorem search_move_comm (leads : List Lead) (changes : List Change)
    (distinct : Distinct (changes.foldl change (ofLeads leads))) (query : String) (id : LeadId)
    (target : Lead.Status) :
    Commutes (changes.foldl change (ofLeads leads)) query id target := by
  have sorted : Sorted (changes.foldl change (ofLeads leads)) :=
    (sorted_ofLeads leads).foldl_change changes
  exact sorted.commutes distinct query id target

namespace Sample

/-- Leads with other names, at the same stage. -/
def named : List Lead :=
  [{ person "1" .new with name := "Grace" }, { person "2" .new with name := "Ada" },
   { person "3" .new with name := "Edsger" }, { person "4" .showing with name := "Gregor" }]

end Sample

/-- Of three new leads a search finds the first and the last one. One of them and the one between
them are moved behind another that it finds. -/
theorem search_move_comm_new :
    let b := ofLeads Sample.named
    ((b.search " G").column .new).map Lead.id = [⟨"1"⟩, ⟨"3"⟩] ∧
      (((b.move ⟨"1"⟩ .showing).2.search " G").column .showing).map Lead.id = [⟨"4"⟩, ⟨"1"⟩] ∧
      (b.search " G").move ⟨"2"⟩ .showing = (none, b.search " G") ∧
      Commutes b " G" ⟨"1"⟩ .showing ∧ Commutes b " G" ⟨"2"⟩ .showing := by
  have distinct : Distinct (([] : List Change).foldl change (ofLeads Sample.named)) := by
    unfold Distinct
    decide
  have one := search_move_comm Sample.named [] distinct " G" ⟨"1"⟩ .showing
  have two := search_move_comm Sample.named [] distinct " G" ⟨"2"⟩ .showing
  refine ⟨by decide, by decide, two.hidden ?_, one, two⟩
  decide

end Board

end Brokerage
