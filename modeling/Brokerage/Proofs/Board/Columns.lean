import Brokerage.Board
import Mathlib.Data.List.Basic

/-!
# What is on a board

A board has a column for every stage, in board order (`Complete`), and every lead is in the column
of its own stage (`Sorted`). The leads in one column may be changed as long as they are of its stage
(`Sorted.modify`); whatever is done to a board comes down to that.

So the stage of a column, its place and the stages of the leads in it always say the same, and what
is shown of a board, column by column or in numbers, can be read off any of the three
(`Sorted.shown`).
-/

namespace Brokerage

namespace Lead.Status

theorem mem_all (s : Status) : s ∈ all := by
  cases s <;> decide

theorem nodup_all : all.Nodup := by
  decide

/-- The place of a stage on the board is its place among all stages. -/
theorem getElem?_all_position (s : Status) : all[s.position]? = some s := by
  cases s <;> rfl

theorem position_injective : Function.Injective position := by
  intro s t same
  have here := s.getElem?_all_position
  rw [same, t.getElem?_all_position] at here
  exact (Option.some.inj here).symm

/-- No stage has another place among all stages. -/
theorem eq_position {n : Nat} {s : Status} (here : all[n]? = some s) : n = s.position := by
  have inside : n < all.length := (List.getElem?_eq_some_iff.mp here).1
  exact (List.getElem?_inj inside nodup_all).mp (here.trans s.getElem?_all_position.symm)

theorem filter_all_beq (s : Status) : all.filter (· == s) = [s] := by
  cases s <;> rfl

end Lead.Status

namespace Board

variable {b : Board} {s t : Lead.Status} {l : Lead} {c : Column} {leads : List Lead}
variable {f : List Lead → List Lead}

/-! ### A column for every stage -/

/-- There is a column for every stage, in board order. -/
def Complete (b : Board) : Prop :=
  b.columns.map Prod.fst = Lead.Status.all

/-- The column at the place of a stage is the one of this stage. -/
theorem Complete.getElem?_columns (complete : Complete b) (s : Lead.Status) :
    b.columns[s.position]? = some (s, b.column s) := by
  have stage : (b.columns.map Prod.fst)[s.position]? = some s := by
    rw [complete, s.getElem?_all_position]
  rw [List.getElem?_map, Option.map_eq_some_iff] at stage
  obtain ⟨c, here, rfl⟩ := stage
  rw [column, here]
  rfl

/-- A column is known by its stage. -/
theorem Complete.mem_columns_iff (complete : Complete b) :
    c ∈ b.columns ↔ c.2 = b.column c.1 := by
  constructor
  · intro there
    -- the stages are at their places and no stage is there twice, so this is its place
    obtain ⟨n, here⟩ := List.mem_iff_getElem?.mp there
    have stage : Lead.Status.all[n]? = some c.1 := by
      rw [← complete, List.getElem?_map, here]
      rfl
    rw [Lead.Status.eq_position stage, complete.getElem?_columns] at here
    exact (congrArg Prod.snd (Option.some.inj here)).symm
  · intro same
    have here := complete.getElem?_columns c.1
    rw [← same] at here
    exact List.mem_of_getElem? here

theorem Complete.columns_eq (complete : Complete b) :
    b.columns = Lead.Status.all.map fun s => (s, b.column s) := by
  have known : ∀ c ∈ b.columns, (c.1, b.column c.1) = c := by
    intro c there
    rw [← complete.mem_columns_iff.mp there]
  calc b.columns = b.columns.map fun c => (c.1, b.column c.1) := (List.map_id' _).symm.trans
        (List.map_congr_left fun c there => (known c there).symm)
    _ = (b.columns.map Prod.fst).map fun s => (s, b.column s) := by
        rw [List.map_map]
        rfl
    _ = Lead.Status.all.map fun s => (s, b.column s) := by rw [complete]

theorem Complete.leads_eq (complete : Complete b) :
    b.leads = Lead.Status.all.flatMap b.column := by
  rw [Board.leads, complete.columns_eq, List.flatMap_map]

/-! ### Changing one column -/

theorem Complete.modify (complete : Complete b) (s : Lead.Status) (f : List Lead → List Lead) :
    Complete (b.modify s f) := by
  show (b.columns.modify s.position _).map Prod.fst = Lead.Status.all
  rw [← complete]
  refine List.ext_getElem? fun n => ?_
  -- no column gets another stage
  rw [List.getElem?_map, List.getElem?_map, List.getElem?_modify]
  cases b.columns[n]? with
  | none => rfl
  | some c =>
    show some (if s.position = n then (c.1, f c.2) else c).1 = some c.1
    split <;> rfl

theorem Complete.column_modify_self (complete : Complete b) (s : Lead.Status)
    (f : List Lead → List Lead) : (b.modify s f).column s = f (b.column s) := by
  rw [column, Board.modify, List.getElem?_modify_eq, complete.getElem?_columns]
  rfl

theorem column_modify_of_ne (other : t ≠ s) (f : List Lead → List Lead) :
    (b.modify s f).column t = b.column t := by
  have elsewhere : s.position ≠ t.position := fun same =>
    other (Lead.Status.position_injective same).symm
  rw [column, Board.modify, List.getElem?_modify_ne _ _ elsewhere]
  rfl

/-- When one column is changed, the leads in the others are the same. -/
theorem Complete.exists_leads_perm (complete : Complete b) (s : Lead.Status) :
    ∃ rest, b.leads.Perm (b.column s ++ rest) ∧
      ∀ f, (b.modify s f).leads.Perm (f (b.column s) ++ rest) := by
  have stages : Lead.Status.all.Perm (s :: Lead.Status.all.erase s) :=
    List.perm_cons_erase s.mem_all
  refine ⟨(Lead.Status.all.erase s).flatMap b.column, ?_, fun f => ?_⟩
  · rw [complete.leads_eq]
    exact stages.flatMap_right b.column
  · have others : (Lead.Status.all.erase s).flatMap (b.modify s f).column =
        (Lead.Status.all.erase s).flatMap b.column := by
      refine List.flatMap_congr fun t there => column_modify_of_ne ?_ f
      exact (Lead.Status.nodup_all.mem_erase_iff.mp there).1
    rw [(complete.modify s f).leads_eq, ← others, ← complete.column_modify_self s f]
    exact stages.flatMap_right (b.modify s f).column

/-- There is one lead more when one is put into its column. -/
theorem Complete.leads_add (complete : Complete b) (l : Lead) :
    (b.add l).leads.Perm (l :: b.leads) := by
  obtain ⟨rest, now, later⟩ := complete.exists_leads_perm l.status
  calc (b.add l).leads.Perm (b.column l.status ++ [l] ++ rest) := later (· ++ [l])
    List.Perm _ (l :: (b.column l.status ++ rest)) := by
      rw [List.append_assoc]
      exact List.perm_middle
    List.Perm _ (l :: b.leads) := now.symm.cons l

/-! ### Every lead in the column of its stage -/

/-- Every lead is in the column of its own stage. -/
structure Sorted (b : Board) : Prop where
  complete : Complete b
  status : ∀ s, ∀ l ∈ b.column s, l.status = s

theorem Sorted.status_of_mem (sorted : Sorted b) (there : c ∈ b.columns) (inside : l ∈ c.2) :
    l.status = c.1 := by
  rw [sorted.complete.mem_columns_iff.mp there] at inside
  exact sorted.status c.1 l inside

theorem sorted_empty : Sorted empty := by
  refine ⟨rfl, fun s l there => ?_⟩
  have nothing : empty.column s = [] := by
    rw [column, empty, List.getElem?_map, s.getElem?_all_position]
    rfl
  rw [nothing] at there
  exact absurd there List.not_mem_nil

/-- The leads in one column may be exchanged for others of its stage. -/
theorem Sorted.modify (sorted : Sorted b) (own : ∀ l ∈ f (b.column s), l.status = s) :
    Sorted (b.modify s f) := by
  refine ⟨sorted.complete.modify s f, fun t l there => ?_⟩
  by_cases here : t = s
  · subst here
    rw [sorted.complete.column_modify_self] at there
    exact own l there
  · rw [column_modify_of_ne here] at there
    exact sorted.status t l there

theorem Sorted.add (sorted : Sorted b) (l : Lead) : Sorted (b.add l) := by
  refine sorted.modify fun l' there => ?_
  rcases List.mem_append.mp there with old | new
  · exact sorted.status _ l' old
  · rw [List.mem_singleton.mp new]

/-- Putting leads into the columns of their stages. -/
theorem sorted_ofLeads (leads : List Lead) : Sorted (ofLeads leads) := by
  have added : ∀ b, Sorted b → Sorted (leads.foldl Board.add b) := by
    induction leads with
    | nil => exact fun b sorted => sorted
    | cons l rest ih => exact fun b sorted => ih (b.add l) (sorted.add l)
  exact added empty sorted_empty

/-! ### Leads of some stages -/

/-- The leads whose stage is one of some are those in their columns. -/
theorem Sorted.filter_leads (sorted : Sorted b) (p : Lead.Status → Bool) :
    b.leads.filter (fun l => p l.status) = (b.columns.filter (p ·.1)).flatMap Prod.snd := by
  have stages : ∀ c ∈ b.columns, ∀ l ∈ c.2, p l.status = p c.1 := by
    intro c there l inside
    rw [sorted.status_of_mem there inside]
  unfold Board.leads
  generalize b.columns = columns at stages
  induction columns with
  | nil => rfl
  | cons c rest ih =>
    have same := stages c List.mem_cons_self
    rw [List.flatMap_cons, List.filter_append,
      ih fun c there => stages c (List.mem_cons_of_mem _ there)]
    -- all leads of a column are of its stage, so all of them stay or none does
    cases here : p c.1 with
    | true =>
      have all : c.2.filter (fun l => p l.status) = c.2 :=
        List.filter_eq_self.mpr fun l there => (same l there).trans here
      rw [all, List.filter_cons, if_pos here, List.flatMap_cons]
    | false =>
      have empty : c.2.filter (fun l => p l.status) = [] := by
        rw [List.filter_eq_nil_iff]
        intro l there
        rw [same l there, here]
        exact Bool.false_ne_true
      rw [empty, List.filter_cons, if_neg (by rw [here]; exact Bool.false_ne_true), List.nil_append]

/-- A column has the leads of its stage, in board order. -/
theorem Sorted.column_eq (sorted : Sorted b) (s : Lead.Status) :
    b.column s = b.leads.filter (·.status == s) := by
  have one : b.columns.filter (·.1 == s) = [(s, b.column s)] := by
    rw [sorted.complete.columns_eq, List.filter_map]
    show ((Lead.Status.all.filter (· == s)).map _) = _
    rw [Lead.Status.filter_all_beq]
    rfl
  rw [sorted.filter_leads (· == s), one, List.flatMap_cons, List.flatMap_nil, List.append_nil]

/-! ### What is shown -/

/-- The leads of all columns are as many as are in the columns, one after the other. -/
theorem total_eq (columns : List Column) : total columns = (columns.flatMap Prod.snd).length := by
  have counted : ∀ n : Nat, columns.foldl (fun n c => n + c.2.length) n =
      n + (columns.flatMap Prod.snd).length := by
    induction columns with
    | nil => exact fun n => rfl
    | cons c rest ih =>
      intro n
      rw [List.foldl_cons, ih, List.flatMap_cons, List.length_append, Nat.add_assoc]
  rw [total, counted, Nat.zero_add]

/-- What is shown of a board is what the stages of its leads say. -/
structure Shown (b : Board) : Prop where
  /-- There is a column for every stage, in board order. -/
  statuses : b.columns.map Prod.fst =
    [.new, .contacted, .qualified, .showing, .negotiating, .closed, .lost]
  /-- It is at the place of its stage. -/
  placed : ∀ s, b.columns[s.position]? = some (s, b.column s)
  /-- Every lead is in the column of its own stage. -/
  sorted : ∀ c ∈ b.columns, ∀ l ∈ c.2, l.status = c.1
  /-- A column has all leads of its stage, in board order. -/
  column : ∀ s, b.column s = b.leads.filter (·.status == s)
  counts : b.counts = b.columns.map fun c => (c.1, b.leads.countP (·.status == c.1))
  size : b.size = b.leads.length
  isEmpty_iff : b.isEmpty = true ↔ ∀ c ∈ b.columns, c.2 = []
  activeCount : b.activeCount =
    b.leads.countP fun l => l.status != .closed && l.status != .lost

theorem isTerminal_eq (s : Lead.Status) : (!s.isTerminal) = (s != .closed && s != .lost) := by
  cases s <;> rfl

/-- **If every lead is in the column of its stage, the board shows what is on it.** -/
theorem Sorted.shown (sorted : Sorted b) : Shown b where
  statuses := sorted.complete
  placed := sorted.complete.getElem?_columns
  sorted _ there _ inside := sorted.status_of_mem there inside
  column := sorted.column_eq
  counts := by
    refine List.map_congr_left fun c there => ?_
    rw [sorted.complete.mem_columns_iff.mp there, sorted.column_eq c.1,
      List.countP_eq_length_filter]
  size := total_eq b.columns
  isEmpty_iff := by
    show (b.size == 0) = true ↔ _
    rw [beq_iff_eq, size, total_eq, List.length_eq_zero_iff, List.flatMap_eq_nil_iff]
  activeCount := by
    have terminal : (fun l : Lead => l.status != .closed && l.status != .lost) =
        fun l => !l.status.isTerminal := funext fun l => (isTerminal_eq l.status).symm
    rw [terminal, List.countP_eq_length_filter, sorted.filter_leads (!·.isTerminal), activeCount,
      total_eq]

end Board

end Brokerage
