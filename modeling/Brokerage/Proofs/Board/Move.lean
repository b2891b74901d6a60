import Brokerage.Proofs.Board.Columns

/-!
# Moving leads

What a move does is stated once, by the first lead with the identity that it is about (`First`,
`Moved`): the lead goes from its place to the end of another column, with another stage and nothing
else changed, and every other lead stays where it is. A move takes a lead out of one column and puts
one into another, so the leads before and after it are compared in these two steps
(`First.leads_erase`, `Complete.leads_add`).

Every lead is in the column of its own stage on every board that comes from sorting leads into
columns, however often it has been changed since (`board_of_run`).
-/

namespace Brokerage

namespace Board

variable {b b' : Board} {id : LeadId} {s target : Lead.Status} {lead : Lead}
  {before after : List Lead}

/-! ### The first lead with an identity -/

/-- The first lead with an identity, in board order, and the leads around it in its column. -/
structure First (b : Board) (id : LeadId) (before : List Lead) (lead : Lead) (after : List Lead) :
    Prop where
  found : b.find? id = some lead
  column : b.column lead.status = before ++ lead :: after
  /-- It is the first one in its column, too. -/
  fresh : ∀ l ∈ before, l.id ≠ id

/-- It is at the place of its column that is the number of leads before it. -/
theorem First.getElem?_column (first : First b id before lead after) :
    (b.column lead.status)[before.length]? = some lead := by
  rw [first.column, List.getElem?_append_right (Nat.le_refl _), Nat.sub_self]
  rfl

/-- It is what goes out of its column there. -/
theorem First.eraseIdx_column (first : First b id before lead after) :
    (b.column lead.status).eraseIdx before.length = before ++ after := by
  rw [first.column, List.eraseIdx_append_of_length_le (Nat.le_refl _), Nat.sub_self]
  rfl

/-- There is no lead to locate. -/
theorem locate?_eq_none_iff : b.locate? id = none ↔ ∀ l ∈ b.leads, l.id ≠ id := by
  rw [locate?, List.findSome?_eq_none_iff]
  simp only [Option.map_eq_none_iff, List.findIdx?_eq_none_iff, beq_eq_false_iff_ne]
  constructor
  · intro nowhere l there
    obtain ⟨c, here, inside⟩ := List.mem_flatMap.mp there
    exact nowhere c here l inside
  · intro nowhere c here l inside
    exact nowhere l (List.mem_flatMap.mpr ⟨c, here, inside⟩)

/-- A place at which something is found first is behind as many others. -/
theorem exists_append_of_findIdx? {α : Type} {p : α → Bool} {l : List α} {n : Nat}
    (found : l.findIdx? p = some n) :
    ∃ before x after, l = before ++ x :: after ∧ before.length = n ∧ p x = true ∧
      ∀ y ∈ before, p y = false := by
  obtain ⟨inside, here, earlier⟩ := List.findIdx?_eq_some_iff_getElem.mp found
  refine ⟨l.take n, l[n], l.drop (n + 1), ?_, ?_, here, ?_⟩
  · rw [← List.drop_eq_getElem_cons inside, List.take_append_drop]
  · exact List.length_take_of_le (Nat.le_of_lt inside)
  · intro y there
    obtain ⟨j, before, rfl⟩ := List.mem_take_iff_getElem.mp there
    have left : j < n := (Nat.lt_min.mp before).1
    exact Bool.eq_false_iff.mpr (earlier j left)

/-- What is located is the first lead with the identity. -/
theorem Sorted.first_of_locate? (sorted : Sorted b) {place : Nat}
    (located : b.locate? id = some (s, place)) :
    ∃ before lead after, First b id before lead after ∧ lead.status = s ∧
      before.length = place := by
  obtain ⟨front, c, back, columns, here, nowhere⟩ := List.findSome?_eq_some_iff.mp located
  obtain ⟨n, found, same⟩ := Option.map_eq_some_iff.mp here
  obtain ⟨rfl, rfl⟩ := Prod.mk.inj same
  obtain ⟨before, lead, after, leads, length, named, earlier⟩ := exists_append_of_findIdx? found
  have there : c ∈ b.columns := columns ▸ List.mem_append_right front List.mem_cons_self
  have status : lead.status = c.1 :=
    sorted.status_of_mem there (leads ▸ List.mem_append_right before List.mem_cons_self)
  refine ⟨before, lead, after, ⟨?_, ?_, ?_⟩, status, length⟩
  · -- what is before it is in the columns in front or before it in its own
    have all : b.leads = (front.flatMap Prod.snd ++ before) ++
        lead :: (after ++ back.flatMap Prod.snd) := by
      simp only [Board.leads, columns, List.flatMap_append, List.flatMap_cons, leads,
        List.append_assoc, List.cons_append]
    refine List.find?_eq_some_iff_append.mpr ⟨named, _, _, all, fun l ahead => ?_⟩
    rw [Bool.not_eq_true']
    rcases List.mem_append.mp ahead with further | near
    · obtain ⟨c', inFront, inside⟩ := List.mem_flatMap.mp further
      have absent := Option.map_eq_none_iff.mp (nowhere c' inFront)
      exact List.findIdx?_eq_none_iff.mp absent l inside
    · exact earlier l near
  · rw [status, ← sorted.complete.mem_columns_iff.mp there, leads]
  · intro l near
    exact beq_eq_false_iff_ne.mp (earlier l near)

/-! ### What a move does -/

/-- What comes of moving the first lead with an identity to a column: the stage that is returned,
and the board after it. -/
inductive Moved (b : Board) (id : LeadId) (target : Lead.Status) :
    Option Lead.Status × Board → Prop
  /-- There is no such lead. -/
  | absent (nowhere : ∀ l ∈ b.leads, l.id ≠ id) : Moved b id target (none, b)
  /-- It is in this column already. -/
  | already {before : List Lead} {lead : Lead} {after : List Lead}
      (first : First b id before lead after) (there : lead.status = target) :
      Moved b id target (some target, b)
  /-- It goes to the end of the column and is the same but for its stage. Nothing is lost and
  nothing is there twice: with the lead as it was, the leads after the move are those before it
  with the lead as it is now. -/
  | moved {before : List Lead} {lead : Lead} {after : List Lead} {b' : Board}
      (first : First b id before lead after) (elsewhere : lead.status ≠ target)
      (origin : b'.column lead.status = before ++ after)
      (last : b'.column target = b.column target ++ [{ lead with status := target }])
      (others : ∀ s, s ≠ lead.status → s ≠ target → b'.column s = b.column s)
      (leads : (lead :: b'.leads).Perm ({ lead with status := target } :: b.leads)) :
      Moved b id target (some lead.status, b')

/-- There is one lead less when the lead goes out of its column. -/
theorem First.leads_erase (first : First b id before lead after) (complete : Complete b) :
    b.leads.Perm (lead :: (b.modify lead.status (·.eraseIdx before.length)).leads) := by
  obtain ⟨rest, now, later⟩ := complete.exists_leads_perm lead.status
  have without := later (·.eraseIdx before.length)
  rw [first.eraseIdx_column] at without
  calc b.leads.Perm (before ++ lead :: after ++ rest) := first.column ▸ now
    List.Perm _ (lead :: (before ++ after ++ rest)) := by
      rw [List.append_assoc, List.append_assoc]
      exact List.perm_middle
    List.Perm _ _ := without.symm.cons lead

/-- **A move is one of the three cases.** -/
theorem Sorted.moved (sorted : Sorted b) (id : LeadId) (target : Lead.Status) :
    Moved b id target (b.move id target) := by
  cases located : b.locate? id with
  | none =>
    have unmoved : b.move id target = (none, b) := by
      simp only [move, located]
    rw [unmoved]
    exact .absent (locate?_eq_none_iff.mp located)
  | some found =>
    obtain ⟨before, lead, after, first, status, place⟩ := sorted.first_of_locate? located
    obtain rfl : (lead.status, before.length) = found := Prod.ext status place
    by_cases there : lead.status = target
    · have unmoved : b.move id target = (some target, b) := by
        subst there
        simp only [move, located, if_pos]
      rw [unmoved]
      exact .already first there
    · let lead' : Lead := { lead with status := target }
      let without := b.modify lead.status (·.eraseIdx before.length)
      have moved : b.move id target = (some lead.status, without.add lead') := by
        simp only [move, located, if_neg there, first.getElem?_column]
        rfl
      have complete : Complete without := sorted.complete.modify _ _
      rw [moved]
      -- the lead goes out of one column first, and then into the other one
      refine .moved first there ?_ ?_ (fun s other other' => ?_) ?_
      · rw [Board.add, column_modify_of_ne there, sorted.complete.column_modify_self]
        exact first.eraseIdx_column
      · show (without.modify target (· ++ [lead'])).column target = _
        rw [complete.column_modify_self, column_modify_of_ne (Ne.symm there)]
      · show (without.modify target (· ++ [lead'])).column s = _
        rw [column_modify_of_ne other', column_modify_of_ne other]
      · calc (lead :: (without.add lead').leads).Perm (lead :: lead' :: without.leads) :=
              (complete.leads_add lead').cons lead
          List.Perm _ (lead' :: lead :: without.leads) := .swap lead' lead _
          List.Perm _ (lead' :: b.leads) := (first.leads_erase sorted.complete).symm.cons lead'

/-- However a move goes, it leaves the leads in the columns of their stages. -/
theorem Sorted.move (sorted : Sorted b) (id : LeadId) (target : Lead.Status) :
    Sorted (b.move id target).2 := by
  unfold Board.move
  split
  · exact sorted
  · split
    · exact sorted
    · split
      · exact sorted
      · refine (sorted.modify fun l there => ?_).add _
        exact sorted.status _ l (List.mem_of_mem_eraseIdx there)

/-! ### Boards as they are changed -/

/-- A change of a board. -/
inductive Change where
  /-- A lead is moved to a column. -/
  | move (id : LeadId) (target : Lead.Status)
  /-- The board is replaced by what a query finds on it. -/
  | narrow (query : String)

/-- A board after a change. -/
def change (b : Board) : Change → Board
  | .move id target => (b.move id target).2
  | .narrow query => b.search query

theorem Sorted.search (sorted : Sorted b) (query : String) : Sorted (b.search query) := by
  unfold Board.search
  split
  · exact sorted
  · exact sorted_ofLeads _

theorem Sorted.change (sorted : Sorted b) (c : Change) : Sorted (b.change c) := by
  cases c with
  | move id target => exact sorted.move id target
  | narrow query => exact sorted.search query

theorem Sorted.foldl_change (sorted : Sorted b) (changes : List Change) :
    Sorted (changes.foldl Board.change b) := by
  induction changes generalizing b with
  | nil => exact sorted
  | cons c rest ih => exact ih (sorted.change c)

/-- **Boards.** Whatever leads have been sorted into columns and however the board has been changed
since, every lead is in the column of its own stage, what is shown of the board agrees with that,
and a move changes only the first lead with the identity that it is about. -/
theorem board_of_run (leads : List Lead) (changes : List Change) :
    Shown (changes.foldl change (ofLeads leads)) ∧
      ∀ id target, Moved (changes.foldl change (ofLeads leads)) id target
        ((changes.foldl change (ofLeads leads)).move id target) := by
  have sorted : Sorted (changes.foldl change (ofLeads leads)) :=
    (sorted_ofLeads leads).foldl_change changes
  constructor
  · exact sorted.shown
  · intro id target
    exact sorted.moved id target

end Board

end Brokerage
