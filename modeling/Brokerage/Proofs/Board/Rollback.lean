import Brokerage.Proofs.Board.Move
import Mathlib.Data.List.Nodup

/-!
# Moving a lead back

A move returns the stage that the lead comes from, and another move to this stage is meant to undo
it. If no two leads share an identity, the lead that moves back is the one that was moved
(`First.of_moved`), and it becomes what it was. But every move puts the lead at the end of a column:
on its way back it ends up behind the leads that stood after it. So the board is what it was exactly
if no lead stood there, or if the lead was where it should go from the start (`moved_back`).
`rollback_disordered` is a board of two leads that are swapped.
-/

namespace Brokerage

namespace Board

variable {b b' : Board} {id : LeadId} {target : Lead.Status} {lead lead' : Lead}
  {before after : List Lead}

/-- No two leads share an identity. -/
def Distinct (b : Board) : Prop := (b.leads.map Lead.id).Nodup

/-- On a board without two leads of one identity, leads of one identity are the same. -/
theorem Distinct.eq_of_id (distinct : Distinct b) (there : lead ∈ b.leads)
    (there' : lead' ∈ b.leads) (same : lead.id = lead'.id) : lead = lead' :=
  List.inj_on_of_nodup_map distinct there there' same

/-- The leads of one column are leads of the board. -/
theorem Complete.mem_leads (complete : Complete b) {s : Lead.Status} (there : lead ∈ b.column s) :
    lead ∈ b.leads := by
  rw [complete.leads_eq]
  exact List.mem_flatMap.mpr ⟨s, s.mem_all, there⟩

/-- In one column, too, no two leads share an identity. -/
theorem Distinct.nodup_column (distinct : Distinct b) (complete : Complete b) (s : Lead.Status) :
    ((b.column s).map Lead.id).Nodup := by
  obtain ⟨rest, leads, -⟩ := complete.exists_leads_perm s
  have all : ((b.column s ++ rest).map Lead.id).Nodup := (leads.map Lead.id).nodup_iff.mp distinct
  rw [List.map_append] at all
  exact (List.nodup_append.mp all).1

/-- A board is known by what is in its columns. -/
theorem Complete.eq_of_columns (complete : Complete b) (complete' : Complete b')
    (same : ∀ s, b'.column s = b.column s) : b' = b := by
  have columns : b'.columns = b.columns := by
    rw [complete.columns_eq, complete'.columns_eq]
    exact List.map_congr_left fun s _ => congrArg (s, ·) (same s)
  obtain ⟨_⟩ := b
  obtain ⟨_⟩ := b'
  exact congrArg Board.mk columns

theorem First.id_eq (first : First b id before lead after) : lead.id = id := by
  have named := List.find?_some first.found
  simpa using named

theorem First.mem_leads (first : First b id before lead after) : lead ∈ b.leads :=
  List.mem_of_find?_eq_some first.found

/-! ### The lead that moves back -/

/-- A lead that stands at the end of a column is the first one with its identity, and all the others
of the column stand before it, if no two leads share an identity. -/
theorem First.of_last {rest : List Lead} (first : First b id before lead after)
    (complete : Complete b) (distinct : Distinct b) (named : lead'.id = id)
    (last : b.column target = rest ++ [lead']) (status : lead'.status = target) :
    lead = lead' ∧ before = rest ∧ after = [] := by
  have inside : lead' ∈ b.column target := last ▸ List.mem_append_right rest List.mem_cons_self
  have same : lead = lead' := by
    refine distinct.eq_of_id first.mem_leads (complete.mem_leads inside) ?_
    rw [first.id_eq, named]
  subst same
  have column := first.column
  rw [status, last] at column
  -- it stands in the column once, so what stands before it there is the same
  have once := distinct.nodup_column complete target
  rw [last, List.map_append, List.nodup_append] at once
  have absent : lead ∉ rest := fun there =>
    once.2.2 _ (List.mem_map_of_mem there) _ List.mem_cons_self rfl
  obtain ⟨front, -, back⟩ :=
    (List.append_cons_inj_of_notMem absent List.not_mem_nil).mp column
  exact ⟨rfl, front.symm, back.symm⟩

/-- Behind those that stand after it, the lead is where it was exactly if there are none. -/
theorem First.column_eq_iff (first : First b id before lead after) (complete : Complete b)
    (distinct : Distinct b) :
    before ++ after ++ [lead] = b.column lead.status ↔ after = [] := by
  have once := distinct.nodup_column complete lead.status
  rw [first.column, List.map_append, List.map_cons, List.nodup_append, List.nodup_cons] at once
  have absent : lead ∉ after := fun there => once.2.1.1 (List.mem_map_of_mem there)
  rw [first.column, List.append_assoc, List.append_right_inj]
  constructor
  · intro same
    cases after with
    | nil => rfl
    | cons l rest =>
      obtain rfl : l = lead := (List.cons.inj same).1
      exact absurd List.mem_cons_self absent
  · rintro rfl
    rfl

/-- A move keeps the identities of the leads. -/
theorem Distinct.of_perm (distinct : Distinct b)
    (leads : (lead :: b'.leads).Perm ({ lead with status := target } :: b.leads)) :
    Distinct b' := by
  have ids : (lead.id :: b'.leads.map Lead.id).Perm (lead.id :: b.leads.map Lead.id) :=
    leads.map Lead.id
  exact ids.cons_inv.nodup_iff.mpr distinct

/-! ### There and back -/

/-- What comes of moving a lead back to the stage that a move to `target` has returned. Before the
first of the two moves, `before` and `after` were the leads around it in its column. -/
structure MovedBack (b : Board) (target previous : Lead.Status) (before : List Lead) (lead : Lead)
    (after : List Lead) (result : Option Lead.Status × Board) : Prop where
  returned : result.1 = some target
  /-- Every other column is what it was. -/
  others : ∀ s, s ≠ previous → result.2.column s = b.column s
  /-- The lead is what it was, but it stands behind those that stood after it. -/
  origin : previous ≠ target → result.2.column previous = before ++ after ++ [lead]
  restored_iff : result.2 = b ↔ previous = target ∨ after = []

/-- A lead that has moved to another column moves back from its end to the end of its own. -/
theorem First.movedBack (first : First b id before lead after) (elsewhere : lead.status ≠ target)
    (complete : Complete b) (distinct : Distinct b) (sorted' : Sorted b')
    (origin : b'.column lead.status = before ++ after)
    (last : b'.column target = b.column target ++ [{ lead with status := target }])
    (others : ∀ s, s ≠ lead.status → s ≠ target → b'.column s = b.column s)
    (leads : (lead :: b'.leads).Perm ({ lead with status := target } :: b.leads)) :
    MovedBack b target lead.status before lead after (b'.move id lead.status) := by
  have distinct' : Distinct b' := distinct.of_perm leads
  have named : ({ lead with status := target } : Lead).id = id := first.id_eq
  have sorted'' := sorted'.move id lead.status
  have moved := sorted'.moved id lead.status
  generalize b'.move id lead.status = result at moved sorted''
  cases moved with
  | absent nowhere =>
    have there : { lead with status := target } ∈ b'.column target :=
      last ▸ List.mem_append_right _ List.mem_cons_self
    exact absurd named (nowhere _ (sorted'.complete.mem_leads there))
  | already first' there =>
    obtain ⟨rfl, -, -⟩ := first'.of_last sorted'.complete distinct' named last rfl
    exact absurd there.symm elsewhere
  | @moved before' lead' after' b'' first' elsewhere' origin' last' others' leads' =>
    obtain ⟨rfl, rfl, rfl⟩ := first'.of_last sorted'.complete distinct' named last rfl
    have behind : b''.column lead.status = before ++ after ++ [lead] := by
      rw [last', origin]
    have rest : ∀ s, s ≠ lead.status → b''.column s = b.column s := by
      intro s other
      by_cases here : s = target
      · subst here
        rw [origin', List.append_nil]
      · rw [others' s here other, others s other here]
    refine ⟨rfl, rest, fun _ => behind, ?_⟩
    constructor
    · intro same
      have same : b'' = b := same
      right
      rw [← first.column_eq_iff complete distinct, ← behind, same]
    · rintro (same | rfl)
      · exact absurd same elsewhere
      · refine complete.eq_of_columns sorted''.complete fun s => ?_
        by_cases here : s = lead.status
        · rw [here, behind]
          exact (first.column_eq_iff complete distinct).mpr rfl
        · exact rest s here

/-- **A move to the stage that a move returned**, on a board on which every lead is in the column of
its stage and no two share an identity. -/
theorem Sorted.movedBack (sorted : Sorted b) (distinct : Distinct b) {previous : Lead.Status}
    (moved : (b.move id target).1 = some previous) :
    ∃ before lead after, First b id before lead after ∧ lead.status = previous ∧
      MovedBack b target previous before lead after ((b.move id target).2.move id previous) := by
  have sorted' := sorted.move id target
  have first := sorted.moved id target
  generalize result : b.move id target = r at moved sorted' first
  cases first with
  | absent nowhere => cases moved
  | @already before lead after first there =>
    obtain rfl : target = previous := Option.some.inj moved
    refine ⟨before, lead, after, first, there, ?_⟩
    show MovedBack b target target before lead after (b.move id target)
    rw [result]
    exact ⟨rfl, fun _ _ => rfl, fun other => absurd rfl other, iff_of_true rfl (.inl rfl)⟩
  | @moved before lead after b' first elsewhere origin last others leads =>
    obtain rfl : lead.status = previous := Option.some.inj moved
    exact ⟨before, lead, after, first, rfl,
      first.movedBack elsewhere sorted.complete distinct sorted' origin last others leads⟩

/-- **Moving back.** Leads have been sorted into columns, and the board has been changed since,
and no two of its leads share an identity. A move returns a stage, and another one moves the same
lead to this stage: then the lead and all other columns are what they were, and the lead stands
behind those that stood after it. So the board is what it was exactly if the lead was the last one
of its column, or in the column to which it was to be moved. -/
theorem moved_back (leads : List Lead) (changes : List Change) {previous : Lead.Status}
    (distinct : Distinct (changes.foldl change (ofLeads leads)))
    (moved : ((changes.foldl change (ofLeads leads)).move id target).1 = some previous) :
    ∃ before lead after, First (changes.foldl change (ofLeads leads)) id before lead after ∧
      lead.status = previous ∧
      MovedBack (changes.foldl change (ofLeads leads)) target previous before lead after
        (((changes.foldl change (ofLeads leads)).move id target).2.move id previous) := by
  have sorted : Sorted (changes.foldl change (ofLeads leads)) :=
    (sorted_ofLeads leads).foldl_change changes
  exact sorted.movedBack distinct moved

namespace Sample

/-- A lead at a stage. -/
def person (id : String) (status : Lead.Status) : Lead where
  id := ⟨id⟩
  name := "Ada"
  status := status
  createdAt := ⟨⟨2026, 1, 15, 12, 0, 0, 0, 0⟩, by decide⟩

/-- Two new leads and one that is shown a house. -/
def leads : List Lead := [person "1" .new, person "2" .showing, person "3" .new]

/-- The lead that is shown a house is sent back to the new ones. -/
def changes : List Change := [.move ⟨"2"⟩ .new]

end Sample

/-- Of three new leads the second one moves away and back: it is the last one then. -/
theorem moved_back_middle :
    let b := Sample.changes.foldl change (ofLeads Sample.leads)
    (b.column .new).map Lead.id = [⟨"1"⟩, ⟨"3"⟩, ⟨"2"⟩] ∧
      (b.move ⟨"3"⟩ .closed).1 = some .new ∧
      (((b.move ⟨"3"⟩ .closed).2.move ⟨"3"⟩ .new).2.column .new).map Lead.id =
        [⟨"1"⟩, ⟨"2"⟩, ⟨"3"⟩] ∧
      ∃ before lead after, First b ⟨"3"⟩ before lead after ∧ lead.status = .new ∧
        MovedBack b .closed .new before lead after ((b.move ⟨"3"⟩ .closed).2.move ⟨"3"⟩ .new) := by
  have distinct : Distinct (Sample.changes.foldl change (ofLeads Sample.leads)) := by
    unfold Distinct
    decide
  exact ⟨by decide, by decide, by decide,
    moved_back Sample.leads Sample.changes distinct (by decide)⟩

/-- **A lead that was not the last one of its column is not moved back to its place.** -/
theorem rollback_disordered :
    ∃ b : Board, b = ofLeads [Sample.person "1" .new, Sample.person "3" .new] ∧ Distinct b ∧
      (b.move ⟨"1"⟩ .contacted).1 = some .new ∧
      ((b.move ⟨"1"⟩ .contacted).2.move ⟨"1"⟩ .new).2 =
        ofLeads [Sample.person "3" .new, Sample.person "1" .new] ∧
      ((b.move ⟨"1"⟩ .contacted).2.move ⟨"1"⟩ .new).2 ≠ b := by
  refine ⟨_, rfl, ?_, by decide, by decide, by decide⟩
  unfold Distinct
  decide

end Board

end Brokerage
