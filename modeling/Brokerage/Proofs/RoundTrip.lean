import Brokerage.Attribution.Basic
import Brokerage.Page
import Brokerage.Proofs.Json.Records
import Brokerage.Proofs.Timestamp
import Brokerage.Proofs.Ulid
import Brokerage.User

/-!
# The data model as JSON

Leads, pages of leads, campaign parameters, arrivals, users and visits are read as they were written
(`round_trips`). So to read a text and to write what was read gives a canonical text: it is read as
the same value, and to read and write it again changes nothing. Members that may be absent may be
`null` or be left out, members may come in any order, and the canonical text is the same.
-/

namespace Brokerage

namespace Json

variable {α : Type}

/-- The canonical text: a text is read, and what was read is written. -/
def canon (read : Reader α) (toValue : α → Value) (bs : Bytes) : Except Fault String :=
  (readAll read bs).map fun a => (toValue a).writeText

/-- Values are read as they were written. `spelled` writes them with all their members. -/
structure RoundTrip (read : Reader α) (toValue spelled : α → Value) : Prop where
  written : ∀ a, readAll read (Text.encode (toValue a).writeText) = .ok a
  /-- Whatever text a value was read from, the canonical text is one of the
  value, and is canonical. -/
  canonical : ∀ bs a, readAll read bs = .ok a → ∃ s, canon read toValue bs = .ok s ∧
    readAll read (Text.encode s) = .ok a ∧ canon read toValue (Text.encode s) = .ok s
  /-- Members in another order, or absent instead of `null`, make no difference. -/
  respelled : ∀ a w, Respelled (spelled a) w → readAll read (Text.encode w.writeText) = .ok a ∧
    canon read toValue (Text.encode w.writeText) = .ok (toValue a).writeText

/-- It is enough that a value is found however it is spelled, and that what is written is one way to
spell it. -/
theorem RoundTrip.of_reads {read : Reader α} {toValue spelled : α → Value}
    (reads : ∀ a, Reads read (spelled a) a) (respelled : ∀ a, Respelled (spelled a) (toValue a)) :
    RoundTrip read toValue spelled := by
  have written (a : α) : readAll read (Text.encode (toValue a).writeText) = .ok a :=
    (reads a _ (respelled a)).readAll_eq
  refine ⟨written, fun bs a found => ?_, fun a w same => ?_⟩
  · refine ⟨(toValue a).writeText, ?_, written a, ?_⟩
    · rw [canon, found]
      rfl
    · rw [canon, written]
      rfl
  · have found := (reads a w same).readAll_eq
    refine ⟨found, ?_⟩
    rw [canon, found]
    rfl

end Json

open Json (Reads Denotes Fields Respelled Kept denotes_text denotes_named denotes_nat RoundTrip)

/-! ### Values without parts -/

theorem LeadId.denotes (id : LeadId) : Denotes LeadId.read (.text id.text) id :=
  (denotes_text id.text).map LeadId.mk

theorem ListingId.denotes (id : ListingId) : Denotes ListingId.read (.text id.text) id :=
  (denotes_text id.text).map ListingId.mk

theorem UserId.denotes (id : UserId) : Denotes UserId.read (.text id.text) id :=
  (denotes_text id.text).map UserId.mk

theorem OrganizationId.denotes (id : OrganizationId) :
    Denotes OrganizationId.read (.text id.text) id :=
  (denotes_text id.text).map OrganizationId.mk

theorem VisitId.denotes (id : VisitId) : Denotes VisitId.read (.text id.write) id := by
  have parsed : (Ulid.parse id.ulid.write).toOption = some id.ulid := by
    rw [Ulid.parse_write]
    rfl
  exact ((denotes_text id.write).filterMap (f := fun s => (Ulid.parse s).toOption) parsed).map
    VisitId.mk

theorem Timestamp.denotes (t : Timestamp) : Denotes Timestamp.read (.text t.write) t :=
  (denotes_text t.write).filterMap t.parse?_write

theorem Lead.Status.denotes (s : Lead.Status) : Denotes Lead.Status.read s.toValue s := by
  have named : ofName? s.name = some s := by
    cases s <;> decide
  exact denotes_named named

/-- Whatever a role is called, it is read as a role. -/
theorem Role.denotes (name : String) : Denotes Role.read (.text name) (Role.ofName name) :=
  denotes_named rfl

theorem Role.ofName_name (r : Role) : Role.ofName r.name = r := by
  cases r <;> decide

/-- A role is not known unless it is called what one of the known ones is called. -/
theorem Role.ofName_eq_other_iff (name : String) :
    Role.ofName name = .other ↔ name ∉ ["owner", "admin", "agent"] := by
  by_cases owner : name = "owner"
  · subst owner
    decide
  by_cases admin : name = "admin"
  · subst admin
    decide
  by_cases agent : name = "agent"
  · subst agent
    decide
  · have unknown : [Role.owner, .admin, .agent].find? (·.name == name) = none := by
      simp [Role.name, Ne.symm owner, Ne.symm admin, Ne.symm agent]
    rw [Role.ofName, unknown]
    simp [owner, admin, agent]

theorem Page.reads_word32 (n : UInt32) : Reads Page.readWord32 (.nat n.toNat) n := by
  have within : n.toNat ≤ Nat.pow 2 32 - 1 := Nat.le_sub_one_of_lt n.toNat_lt
  have read := (denotes_nat within (by decide)).map UInt32.ofNat
  rw [UInt32.ofNat_toNat] at read
  exact .of_nat read

theorem Page.reads_word64 (n : UInt64) : Reads Page.readWord64 (.nat n.toNat) n := by
  have within : n.toNat ≤ Nat.pow 2 64 - 1 := Nat.le_sub_one_of_lt n.toNat_lt
  have read := (denotes_nat within (Nat.le_refl _)).map UInt64.ofNat
  rw [UInt64.ofNat_toNat] at read
  exact .of_nat read

/-! ### Records -/

namespace Json.Fields

variable {ts : List Type} {ms : Members ts} {vs : List (String × Value)} {row : Row ts}
    {name : String}

/-- A text that has to be there. -/
theorem text {α : Type} {read : Reader α} {absent : Option α} {s : String} {a : α}
    (value : Denotes read (.text s) a) (rest : Fields ms vs row) :
    Fields (.cons name read absent ms) ((name, .text s) :: vs) (a, row) :=
  .cons (.of_text value) nofun rest

/-- A text of one's choice that may be absent. -/
theorem optionalText (s : Option String) (rest : Fields ms vs row) :
    Fields (.cons name (readOption readText) (some none) ms) ((name, .optionalText s) :: vs)
      (s, row) := by
  have field : Fields (.cons name (readOption readText) (some none) ms)
      ((name, .optionalText (s.map fun s => s)) :: vs) (s, row) :=
    .optional denotes_text s rest
  rwa [Option.map_id'] at field

end Json.Fields

/-- The parameters as a JSON value, those that are absent as `null`. -/
def Utm.spelled (u : Utm) : Json.Value :=
  .object [("source", .optionalText u.source), ("medium", .optionalText u.medium),
    ("campaign", .optionalText u.campaign), ("term", .optionalText u.term),
    ("content", .optionalText u.content)]

theorem Utm.reads (u : Utm) : Reads Utm.read u.spelled u := by
  have fields : Fields Utm.members _ (u.source, u.medium, u.campaign, u.term, u.content, ()) :=
    .optionalText u.source <| .optionalText u.medium <| .optionalText u.campaign <|
      .optionalText u.term <| .optionalText u.content .nil
  exact (fields.reads (by decide)).map Utm.ofRow

theorem Utm.respelled (u : Utm) : Respelled u.spelled u.toValue :=
  .object ((((Kept.textMember? _ u.source).append (Kept.textMember? _ u.medium)).append
    (Kept.textMember? _ u.campaign)).append (Kept.textMember? _ u.term) |>.append
      (Kept.textMember? _ u.content)) (.refl _)

/-- The arrival as a JSON value, what is absent as `null`. -/
def Attribution.spelled (a : Attribution) : Json.Value :=
  .object [("utm", a.utm.spelled), ("landing_page", .text a.landingPage),
    ("referrer", .optionalText a.referrer), ("captured_at", .text a.capturedAt.write)]

theorem Attribution.reads (a : Attribution) : Reads Attribution.read a.spelled a := by
  have fields : Fields Attribution.members _ (a.utm, a.landingPage, a.referrer, a.capturedAt, ()) :=
    .cons a.utm.reads nofun <| .text (denotes_text a.landingPage) <| .optionalText a.referrer <|
      .text a.capturedAt.denotes .nil
  exact (fields.reads (by decide)).map Attribution.ofRow

theorem Attribution.respelled (a : Attribution) : Respelled a.spelled a.toValue :=
  .object (.keep a.utm.respelled <| .keep (.refl _) <|
    (Kept.textMember? _ a.referrer).append (.keep (.refl _) .nil)) (.refl _)

theorem Lead.reads (l : Lead) : Reads Lead.read l.toValue l := by
  have fields : Fields Lead.members _
      (l.id, l.name, l.email, l.phone, l.listing, l.source, l.status, l.createdAt, ()) :=
    .text l.id.denotes <| .text (denotes_text l.name) <| .optionalText l.email <|
      .optionalText l.phone <| .optional ListingId.denotes l.listing <| .optionalText l.source <|
        .text l.status.denotes <| .text l.createdAt.denotes .nil
  exact (fields.reads (by decide)).map Lead.ofRow

theorem Page.reads {α : Type} {read : Json.Reader α} {toValue : α → Json.Value}
    (item : ∀ a, Reads read (toValue a) a) (p : Page α) :
    Reads (Page.read read) (p.toValue toValue) p := by
  have fields : Fields (Page.members read) _ (p.items, p.total, p.page, p.perPage, ()) :=
    .cons (.list item p.items) nofun <| .cons (reads_word64 p.total) nofun <|
      .cons (reads_word32 p.page) nofun <| .cons (reads_word32 p.perPage) nofun .nil
  have distinct : (Page.members read).names.Nodup := by
    show ["items", "total", "page", "per_page"].Nodup
    decide
  exact (fields.reads distinct).map _

/-- The user as a JSON value, with a role of this name. -/
def User.called (u : User) (role : String) : Json.Value :=
  .object [("id", .text u.id.text), ("email", .text u.email), ("name", .optionalText u.name),
    ("organization_id", .text u.organization.text), ("role", .text role)]

theorem User.reads (u : User) (role : String) :
    Reads User.read (u.called role) { u with role := Role.ofName role } := by
  have fields : Fields User.members _
      (u.id, u.email, u.name, u.organization, Role.ofName role, ()) :=
    .text u.id.denotes <| .text (denotes_text u.email) <| .optionalText u.name <|
      .text u.organization.denotes <| .text (Role.denotes role) .nil
  exact (fields.reads (by decide)).map _

/-- **Round trips.** Leads, pages of leads, campaign parameters, arrivals, users and visits are read
as they were written. A text that a value was read from has a canonical text, which is read as the
same value and is its own canonical text; members that are `null` or left out, and the order of
members, make no difference to it. A user whose role has a name that is not known is read as
one with another role. -/
theorem round_trips :
    RoundTrip Lead.read Lead.toValue Lead.toValue ∧
    RoundTrip (Page.read Lead.read) (Page.toValue Lead.toValue) (Page.toValue Lead.toValue) ∧
    RoundTrip Utm.read Utm.toValue Utm.spelled ∧
    RoundTrip Attribution.read Attribution.toValue Attribution.spelled ∧
    RoundTrip User.read User.toValue User.toValue ∧
    RoundTrip VisitId.read (fun id => .text id.write) (fun id => .text id.write) ∧
    ∀ (u : User) (name : String), name ∉ ["owner", "admin", "agent"] →
      ∀ w, Respelled (u.called name) w →
        Json.readAll User.read (Text.encode w.writeText) = .ok { u with role := .other } ∧
        Json.canon User.read User.toValue (Text.encode w.writeText) =
          .ok ({ u with role := .other } : User).toValue.writeText := by
  have user (u : User) : Reads User.read u.toValue u := by
    have read := u.reads u.role.name
    rwa [Role.ofName_name] at read
  have visit (id : VisitId) : Reads VisitId.read (.text id.write) id := .of_text id.denotes
  refine ⟨.of_reads Lead.reads fun l => .refl _, .of_reads (Page.reads Lead.reads) fun p => .refl _,
    .of_reads Utm.reads Utm.respelled, .of_reads Attribution.reads Attribution.respelled,
    .of_reads user fun u => .refl _, .of_reads visit fun id => .refl _,
    fun u name unknown w same => ?_⟩
  have found := (u.reads name w same).readAll_eq
  rw [(Role.ofName_eq_other_iff name).mpr unknown] at found
  refine ⟨found, ?_⟩
  rw [Json.canon, found]
  rfl

namespace Sample

/-- A user without a name. -/
def nameless : User where
  id := ⟨"7"⟩
  email := "ada@example.com"
  organization := ⟨"b1"⟩
  role := .agent

/-- The same user as an intern, with the role first and without any `null`. -/
def intern : Json.Value :=
  .object [("role", .text "intern"), ("id", .text "7"), ("email", .text "ada@example.com"),
    ("organization_id", .text "b1")]

end Sample

/-- An intern without a name is read as a user with another role, and written with all members. -/
theorem round_trips_intern :
    "intern" ∉ ["owner", "admin", "agent"] ∧
    Respelled (Sample.nameless.called "intern") Sample.intern ∧
    Json.readAll User.read (Text.encode Sample.intern.writeText) =
      .ok { Sample.nameless with role := .other } ∧
    Json.canon User.read User.toValue (Text.encode Sample.intern.writeText) =
      .ok ({ Sample.nameless with role := .other } : User).toValue.writeText := by
  obtain ⟨-, -, -, -, -, -, unknown⟩ := round_trips
  have same : Respelled (Sample.nameless.called "intern") Sample.intern :=
    .object (.keep (.text _) <| .keep (.text _) <| .drop <| .keep (.text _) <| .keep (.text _) .nil)
      (@List.perm_append_comm _ [_, _, _] [_])
  obtain ⟨found, written⟩ := unknown Sample.nameless "intern" (by decide) Sample.intern same
  exact ⟨by decide, same, found, written⟩

end Brokerage
