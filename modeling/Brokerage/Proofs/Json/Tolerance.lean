import Brokerage.Proofs.Json.Reach
import Brokerage.Proofs.Json.Truncation

/-!
# What texts decode to

What is known of readers, in part on trees and in part on bytes, is put together here (`Lawful`):
each reader of a common shape is lawful, and so is a record whose members are (`Made.lawful`).
What a decoder ignores in whole texts and what it refuses follows (`Lawful.tolerant`).
-/

namespace Brokerage.Json

variable {α β : Type} {read : Reader α} {s : Shape}

/-! ### Readers -/

/-- A reader that makes the same of all writings of a tree, to which it does not matter how
the records in the tree are arranged, which takes no notice of what is behind, and which
may find any value. -/
structure Lawful (read : Reader α) (s : Shape) : Prop where
  steady : Steady read
  lenient : Lenient read s
  extends_ : Extends read
  reached : Reached read

namespace Lawful

theorem text : Lawful readText .simple where
  steady := follows_readText.steady
  lenient := lenient_simple _
  extends_ := closed_readText.extends
  reached := reached_readText

theorem number {bound : Nat} (fits : bound ≤ maxWhole) {g : Nat → β}
    (onto : ∀ b, ∃ n ≤ bound, g n = b) : Lawful (Reader.map g (readNat bound)) .simple where
  steady := ((follows_readNat bound).map g).steady
  lenient := lenient_simple _
  extends_ := (extends_readNat bound).map g
  reached := by
    intro b
    obtain ⟨n, within, rfl⟩ := onto b
    obtain ⟨v, value⟩ := exists_readNat within fits
    refine ⟨v, ?_⟩
    rw [((follows_readNat bound).steady.map g).meaning_eq]
    exact congrArg (Option.map g) value

theorem named {named : String → Option α} (all : ∀ a, ∃ s, named s = some a) :
    Lawful (readNamed named) .simple where
  steady := (follows_readNamed named).steady
  lenient := lenient_simple _
  extends_ := (closed_readNamed named).extends
  reached := reached_readNamed all

theorem map (lawful : Lawful read s) {g : α → β} (onto : ∀ b, ∃ a, g a = b) :
    Lawful (Reader.map g read) s where
  steady := (lawful.steady.map g).steady
  lenient := lawful.lenient.map lawful.steady g
  extends_ := lawful.extends_.map g
  reached := lawful.reached.map lawful.steady onto

theorem filterMap (lawful : Lawful read .simple) {g : α → Option β}
    (onto : ∀ b, ∃ a, g a = some b) : Lawful (Reader.filterMap g read) .simple where
  steady := (lawful.steady.filterMap g).steady
  lenient := lenient_simple _
  extends_ := lawful.extends_.filterMap g
  reached := lawful.reached.filterMap lawful.steady onto

theorem list (lawful : Lawful read s) : Lawful (readList read) (.list s) where
  steady := (follows_readList lawful.steady).steady
  lenient := lenient_readList lawful.lenient lawful.steady
  extends_ := (closed_readList lawful.extends_).extends
  reached := reached_readList lawful.reached lawful.steady

theorem option (lawful : Lawful read .simple) (nothing : (read []).toOption = none)
    (noNull : meaning read .null = none) : Lawful (readOption read) .simple where
  steady := (follows_readOption lawful.steady).steady
  lenient := lenient_simple _
  extends_ := extends_readOption lawful.extends_ nothing
  reached := reached_readOption lawful.reached lawful.steady noNull

end Lawful

/-- What may be missing is `null` then. -/
theorem suits_optional (steady : Steady read) :
    Need.Suits (readOption read) (some none) .optional := by
  refine ⟨none, rfl, ?_⟩
  rw [(follows_readOption steady).meaning_eq]
  rfl

/-! ### Records -/

section Records

variable {ts : List Type} {ms : Members ts} {fields : List Field}

/-- A member that is read as its field says. -/
def Serves (fields : List Field) {α : Type} (name : String) (read : Reader α) (absent : Option α) :
    Prop :=
  ∃ need s, (name, need, s) ∈ fields ∧ need.Suits read absent ∧ Lawful read s

theorem serves_required {name : String} (lawful : Lawful read s)
    (known : (name, .required, s) ∈ fields) : Serves fields name read none :=
  ⟨.required, s, known, rfl, lawful⟩

theorem serves_optional {name : String} (lawful : Lawful read .simple)
    (nothing : (read []).toOption = none) (noNull : meaning read .null = none)
    (known : (name, .optional, .simple) ∈ fields) :
    Serves fields name (readOption read) (some none) :=
  ⟨.optional, .simple, known, suits_optional lawful.steady, lawful.option nothing noNull⟩

theorem Members.All.imp {P Q : ∀ {α : Type}, String → Reader α → Option α → Prop} (all : ms.All P)
    (implies : ∀ {α : Type} {name : String} {read : Reader α} {absent : Option α},
      P name read absent → Q name read absent) : ms.All Q := by
  induction ms with
  | nil => trivial
  | cons name read absent ms ih => exact ⟨implies all.1, ih all.2⟩

/-- A record whose members are read as its fields say. -/
structure Made (ms : Members ts) (fields : List Field) : Prop where
  names : fields.map Prod.fst = ms.names
  distinct : ms.names.Nodup
  serves : ms.All (Serves fields)

namespace Made

theorem steady (made : Made ms fields) : ms.Steady :=
  made.serves.imp fun ⟨_, _, _, _, lawful⟩ => lawful.steady

theorem extends_ (made : Made ms fields) : ms.Extends :=
  made.serves.imp fun ⟨_, _, _, _, lawful⟩ => lawful.extends_

theorem fits (made : Made ms fields) : ms.All (Fits fields) :=
  made.serves.imp fun ⟨need, s, known, suits, lawful⟩ => ⟨need, s, known, suits, lawful.lenient⟩

theorem reached (made : Made ms fields) : ms.All fun _ read _ => Reached read :=
  made.serves.imp fun ⟨_, _, _, _, lawful⟩ => lawful.reached

theorem exists_object (made : Made ms fields) (row : Row ts) :
    ∃ members, meaning (readRecord ms) (.object members) = some row :=
  Json.exists_object made.steady made.distinct made.reached row

theorem lawful (made : Made ms fields) : Lawful (readRecord ms) (.record fields) where
  steady := (follows_readRecord made.steady made.distinct).steady
  lenient := lenient_readRecord made.steady made.names made.distinct made.fits
  extends_ := (closed_readRecord made.extends_).extends
  reached := by
    intro row
    obtain ⟨members, value⟩ := made.exists_object row
    exact ⟨.object members, value⟩

end Made

end Records

/-! ### Texts -/

/-- A text decodes to what the tree in it means, whatever white space is between the parts. -/
theorem readAll_of_holds (steady : Steady read) {text : Bytes} {v : Tree} (holds : Holds text v) :
    (readAll read text).toOption = meaning read v := by
  obtain ⟨ws, bs, ws', rfl, blank, blank', writes⟩ := holds
  have stops : Stops ws' := by
    have ended := Stops.blank_append blank' stops_nil
    rwa [List.append_nil] at ended
  rcases cases_of_toOption (steady blank writes stops) with ⟨unread, e, failed⟩ | ⟨a, value, found⟩
  · simp only [readAll, failed, unread]
    rfl
  · simp only [readAll, found, value, if_pos (skipSpace_eq_nil_iff.mpr blank')]
    rfl

theorem readAll_eq_ok_iff (steady : Steady read) {text : Bytes} {v : Tree} (holds : Holds text v)
    {a : α} : readAll read text = .ok a ↔ meaning read v = some a := by
  rw [← readAll_of_holds steady holds]
  cases readAll read text <;> simp [Except.toOption]

/-- What makes no difference to a decoder, and what it refuses. -/
structure Tolerant (read : Reader α) (s : Shape) : Prop where
  /-- For every value there is the text of an object that decodes to it. -/
  decodes : ∀ a, ∃ text members, Holds text (.object members) ∧ readAll read text = .ok a
  /-- A text that decodes may be rearranged, and may be written with any white space. -/
  kept : ∀ {text text' : Bytes} {v w : Tree} {a : α}, Holds text v → readAll read text = .ok a →
    Rearranged s v w → Holds text' w → readAll read text' = .ok a
  /-- A text that decodes does not once it is spoilt, with any white space. -/
  spoilt : ∀ {text text' : Bytes} {v w : Tree} {a : α}, Holds text v → readAll read text = .ok a →
    Spoils s v w → Holds text' w → ∃ e, readAll read text' = .error e
  /-- A text that decodes does not once its closing brace is cut off, and anything else in front. -/
  cut : ∀ {front back cut : Bytes} {a : α},
    readAll read (front ++ Bracket.object.close :: back) = .ok a → cut <+: front →
      ∃ e, readAll read cut = .error e

/-- A tree holds nothing but itself, written somehow. -/
theorem holds_write (v : Tree) : Holds v.write v :=
  ⟨[], v.write, [], by simp, blank_nil, blank_nil, v.writes_write⟩

theorem Lawful.tolerant (lawful : Lawful read s) (closed : Closed read)
    (object : ∀ a, ∃ members, meaning read (.object members) = some a) : Tolerant read s := by
  constructor
  · intro a
    obtain ⟨members, value⟩ := object a
    exact ⟨_, members, holds_write _, (readAll_eq_ok_iff lawful.steady (holds_write _)).mpr value⟩
  · intro text text' v w a holds found steps holds'
    rw [readAll_eq_ok_iff lawful.steady holds] at found
    exact (readAll_eq_ok_iff lawful.steady holds').mpr (lawful.lenient.keeps_all steps found)
  · intro text text' v w a holds found step holds'
    rw [readAll_eq_ok_iff lawful.steady holds] at found
    have refused := lawful.lenient.refuses step found
    rw [← readAll_of_holds lawful.steady holds'] at refused
    cases failed : readAll read text' with
    | error e => exact ⟨e, rfl⟩
    | ok a =>
      rw [failed] at refused
      cases refused
  · intro front back cut a found prefix_
    exact readAll_cut closed (isSpace_close .object) found prefix_

end Brokerage.Json
