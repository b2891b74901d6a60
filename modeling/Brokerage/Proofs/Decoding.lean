import Brokerage.Page
import Brokerage.Attribution.Basic
import Brokerage.User
import Brokerage.Proofs.Json.Tolerance
import Brokerage.Proofs.Timestamp

/-!
# What decoding ignores

Leads, pages of leads, arrivals and users are records of JSON. Their shapes are listed here: which
members there are, which of them must be there, and which hold records themselves. What does not
matter to the decoder and what it refuses then follows for all four at once (`decoders_tolerant`).

A stage or a role may be written as an object, too, but that object is no record: it has
one member and no more.
-/

namespace Brokerage

open Json (Shape Lawful Made Tolerant serves_required serves_optional)

/-! ### Shapes -/

/-- The members of a lead. -/
def Lead.fields : List Json.Field :=
  [("id", .required, .simple), ("name", .required, .simple), ("email", .optional, .simple),
    ("phone", .optional, .simple), ("listing_id", .optional, .simple),
    ("source", .optional, .simple), ("status", .required, .simple),
    ("created_at", .required, .simple)]

/-- The members of a page of items. -/
def Page.fields (item : Shape) : List Json.Field :=
  [("items", .required, .list item), ("total", .required, .simple), ("page", .required, .simple),
    ("per_page", .required, .simple)]

/-- The members of campaign parameters. -/
def Utm.fields : List Json.Field :=
  [("source", .optional, .simple), ("medium", .optional, .simple), ("campaign", .optional, .simple),
    ("term", .optional, .simple), ("content", .optional, .simple)]

/-- The members of an arrival. -/
def Attribution.fields : List Json.Field :=
  [("utm", .required, .record Utm.fields), ("landing_page", .required, .simple),
    ("referrer", .optional, .simple), ("captured_at", .required, .simple)]

/-- The members of a user. -/
def User.fields : List Json.Field :=
  [("id", .required, .simple), ("email", .required, .simple), ("name", .optional, .simple),
    ("organization_id", .required, .simple), ("role", .required, .simple)]

/-! ### Members -/

theorem LeadId.lawful : Lawful LeadId.read .simple := Lawful.text.map fun id => ⟨id.text, rfl⟩

theorem ListingId.lawful : Lawful ListingId.read .simple := Lawful.text.map fun id => ⟨id.text, rfl⟩

theorem UserId.lawful : Lawful UserId.read .simple := Lawful.text.map fun id => ⟨id.text, rfl⟩

theorem OrganizationId.lawful : Lawful OrganizationId.read .simple :=
  Lawful.text.map fun id => ⟨id.text, rfl⟩

theorem Timestamp.lawful : Lawful Timestamp.read .simple :=
  Lawful.text.filterMap fun t => ⟨t.write, t.parse?_write⟩

theorem Lead.Status.lawful : Lawful Lead.Status.read .simple :=
  Lawful.named fun s => ⟨s.name, by cases s <;> decide⟩

theorem Role.lawful : Lawful Role.read .simple :=
  Lawful.named fun r => ⟨r.name, congrArg some (by cases r <;> decide)⟩

theorem Page.lawful_word32 : Lawful Page.readWord32 .simple :=
  Lawful.number (by decide) fun n => ⟨n.toNat, Nat.le_pred_of_lt n.toNat_lt, UInt32.ofNat_toNat⟩

theorem Page.lawful_word64 : Lawful Page.readWord64 .simple :=
  Lawful.number (by decide) fun n => ⟨n.toNat, Nat.le_pred_of_lt n.toNat_lt, UInt64.ofNat_toNat⟩

/-! ### Records -/

section Records

variable {fields : List Json.Field} {name : String}

theorem serves_text (known : (name, .required, .simple) ∈ fields) :
    Json.Serves fields name Json.readText none :=
  serves_required Lawful.text known

theorem serves_optionalText (known : (name, .optional, .simple) ∈ fields) :
    Json.Serves fields name (Json.readOption Json.readText) (some none) :=
  serves_optional Lawful.text rfl rfl known

end Records

theorem Lead.made : Made Lead.members Lead.fields where
  names := rfl
  distinct := by decide
  serves :=
    ⟨serves_required LeadId.lawful (by simp [fields]), serves_text (by simp [fields]),
      serves_optionalText (by simp [fields]), serves_optionalText (by simp [fields]),
      serves_optional ListingId.lawful rfl rfl (by simp [fields]),
      serves_optionalText (by simp [fields]), serves_required Status.lawful (by simp [fields]),
      serves_required Timestamp.lawful (by simp [fields]), trivial⟩

theorem Page.made {α : Type} {read : Json.Reader α} {item : Shape} (lawful : Lawful read item) :
    Made (Page.members read) (Page.fields item) where
  names := rfl
  distinct := by simp [members, Json.Members.names]
  serves :=
    ⟨serves_required lawful.list (by simp [fields]),
      serves_required lawful_word64 (by simp [fields]),
      serves_required lawful_word32 (by simp [fields]),
      serves_required lawful_word32 (by simp [fields]), trivial⟩

theorem Utm.made : Made Utm.members Utm.fields where
  names := rfl
  distinct := by decide
  serves :=
    ⟨serves_optionalText (by simp [fields]), serves_optionalText (by simp [fields]),
      serves_optionalText (by simp [fields]), serves_optionalText (by simp [fields]),
      serves_optionalText (by simp [fields]), trivial⟩

theorem Utm.exists_row (u : Utm) : ∃ row, Utm.ofRow row = u :=
  ⟨(u.source, u.medium, u.campaign, u.term, u.content, ()), rfl⟩

theorem Attribution.made : Made Attribution.members Attribution.fields where
  names := rfl
  distinct := by decide
  serves :=
    ⟨serves_required (Utm.made.lawful.map Utm.exists_row) (by simp [fields]),
      serves_text (by simp [fields]), serves_optionalText (by simp [fields]),
      serves_required Timestamp.lawful (by simp [fields]), trivial⟩

theorem User.made : Made User.members User.fields where
  names := rfl
  distinct := by decide
  serves :=
    ⟨serves_required UserId.lawful (by simp [fields]), serves_text (by simp [fields]),
      serves_optionalText (by simp [fields]),
      serves_required OrganizationId.lawful (by simp [fields]),
      serves_required Role.lawful (by simp [fields]), trivial⟩

/-! ### Decoders -/

section Decoders

variable {α : Type} {ts : List Type} {ms : Json.Members ts} {fields : List Json.Field}

/-- What is made of a record is as tolerant as the record. -/
theorem Json.Made.tolerant (made : Made ms fields) {f : Json.Row ts → α}
    (onto : ∀ a, ∃ row, f row = a) :
    Tolerant (Json.Reader.map f (Json.readRecord ms)) (.record fields) := by
  refine (made.lawful.map onto).tolerant ((Json.closed_readRecord made.extends_).map f) fun a => ?_
  obtain ⟨row, rfl⟩ := onto a
  obtain ⟨members, value⟩ := made.exists_object row
  refine ⟨members, ?_⟩
  rw [(made.lawful.steady.map f).meaning_eq]
  exact congrArg (Option.map f) value

end Decoders

theorem Lead.exists_row (l : Lead) : ∃ row, Lead.ofRow row = l :=
  ⟨(l.id, l.name, l.email, l.phone, l.listing, l.source, l.status, l.createdAt, ()), rfl⟩

/-- **What the decoders of leads, pages of leads, arrivals and users ignore, and
what they refuse.** -/
theorem decoders_tolerant :
    Tolerant Lead.read (.record Lead.fields) ∧
      Tolerant (Page.read Lead.read) (.record (Page.fields (.record Lead.fields))) ∧
      Tolerant Attribution.read (.record Attribution.fields) ∧
      Tolerant User.read (.record User.fields) :=
  ⟨Lead.made.tolerant Lead.exists_row,
    (Page.made (Lead.made.lawful.map Lead.exists_row)).tolerant fun p =>
      ⟨(p.items, p.total, p.page, p.perPage, ()), rfl⟩,
    Attribution.made.tolerant fun a => ⟨(a.utm, a.landingPage, a.referrer, a.capturedAt, ()), rfl⟩,
    User.made.tolerant fun u => ⟨(u.id, u.email, u.name, u.organization, u.role, ()), rfl⟩⟩

namespace Sample

instance : DecidablePred Json.IsPlain := fun b =>
  inferInstanceAs (Decidable (b ≠ Json.quoteMark ∧ b ≠ Json.backslash ∧ ¬ b < 0x20))

/-- A string without escapes. -/
def literal (s : String) : Json.Literal :=
  (Json.word s).filterMap fun b => if plain : Json.IsPlain b then some (.plain b plain) else none

/-- A member with a text. -/
def textMember (name s : String) : Json.Literal × Json.Tree := (literal name, .text (literal s))

def identity := textMember "id" "7"

def called := textMember "name" "Anna"

def address : Json.Literal × Json.Tree := (literal "email", .null)

def stage := textMember "status" "new"

def created := textMember "created_at" "2024-01-01T00:00:00Z"

/-- A member that no lead has. -/
def tags : Json.Literal × Json.Tree :=
  (literal "tags", .list [.object [(literal "id", .null)], .bool true])

/-- A lead. -/
def anna : Json.Tree := .object [identity, called, address, stage, created]

/-- The same lead backwards, without the address and with more than anybody asks for. -/
def annaAgain : Json.Tree := .object [created, tags, stage, called, identity]

/-- The lead without its identity. -/
def nobody : Json.Tree := .object [called, address, stage, created]

theorem anna_rearranged : Json.Rearranged (.record Lead.fields) anna annaAgain := by
  have left : Json.Rearranges (.record Lead.fields) anna
      (.object [identity, called, stage, created]) :=
    @Json.Rearranges.leaveOut _ [identity, called] [stage, created] (literal "email") "email"
      .simple (by simp [Lead.fields]) (by decide)
  have turned : Json.Rearranges (.record Lead.fields) (.object [identity, called, stage, created])
      (.object [created, stage, called, identity]) :=
    .permute (List.reverse_perm _).symm
  have put : Json.Rearranges (.record Lead.fields) (.object [created, stage, called, identity])
      annaAgain :=
    @Json.Rearranges.insert _ [created] [stage, called, identity] (literal "tags") "tags" _
      (by decide) (by decide)
  exact ((Relation.ReflTransGen.single left).tail turned).tail put

theorem anna_spoilt : Json.Spoils (.record Lead.fields) anna nobody :=
  @Json.Spoils.drop _ [] [called, address, stage, created] (literal "id") "id" .simple _
    (by simp [Lead.fields]) (by decide)

end Sample

/-- A lead decodes to the same in another order, with one member more and one less and with blanks
around it. It does not decode without its identity, nor if its text ends early. -/
theorem decoders_tolerant_lead : ∃ lead : Lead,
    Json.readAll Lead.read (Json.word (
      r#"{"id":"7","name":"Anna","email":null,"status":"new","# ++
      r#""created_at":"2024-01-01T00:00:00Z"}"#)) = .ok lead ∧
    Json.readAll Lead.read (Json.word (
      r#" {"created_at":"2024-01-01T00:00:00Z","tags":[{"id":null},true],"# ++
      r#""status":"new","name":"Anna","id":"7"} "#)) = .ok lead ∧
    (∃ e, Json.readAll Lead.read (Json.word (
      r#"{"name":"Anna","email":null,"status":"new","# ++
      r#""created_at":"2024-01-01T00:00:00Z"}"#)) = .error e) ∧
    ∃ e, Json.readAll Lead.read (Json.word r#"{"id":"7","name":"Anna","ema"#) = .error e := by
  have blanks : Json.Blank [0x20] := List.forall_mem_singleton.mpr rfl
  have padded : Json.Holds ([0x20] ++ (Sample.annaAgain.write ++ [0x20])) Sample.annaAgain :=
    ⟨_, _, _, rfl, blanks, blanks, Sample.annaAgain.writes_write⟩
  have decodes : (Json.readAll Lead.read Sample.anna.write).toOption.isSome = true := by
    decide
  cases found : Json.readAll Lead.read Sample.anna.write with
  | error e =>
    rw [found] at decodes
    cases decodes
  | ok lead =>
    have again := decoders_tolerant.1.kept (Json.holds_write _) found Sample.anna_rearranged padded
    have spoilt := decoders_tolerant.1.spoilt (Json.holds_write _) found Sample.anna_spoilt
      (Json.holds_write _)
    have closed : ∃ front, Sample.anna.write = front ++ Json.Bracket.object.close :: [] ∧
      Json.word r#"{"id":"7","name":"Anna","ema"# <+: front :=
      ⟨Sample.anna.write.dropLast, by decide, by decide⟩
    obtain ⟨front, whole, prefix_⟩ := closed
    rw [whole] at found
    have cut := decoders_tolerant.1.cut found prefix_
    rw [← whole] at found
    exact ⟨lead, found, again, spoilt, cut⟩

/-- A member that nobody asks for does make a difference in two places: in the object that a stage
may be, and where its name has half a character in it and is no text. -/
theorem lead_decodes_no_more :
    (Json.readAll Lead.read (Json.word (
      r#"{"id":"1","name":"Ann","status":{"new":null},"# ++
      r#""created_at":"2024-01-01T00:00:00Z"}"#))).toOption.isSome ∧
    (Json.readAll Lead.read (Json.word (
      r#"{"id":"1","name":"Ann","status":{"new":null,"x":1},"# ++
      r#""created_at":"2024-01-01T00:00:00Z"}"#))).toOption = none ∧
    (Json.readAll Lead.read (Json.word (
      r#"{"id":"1","name":"Ann","\ud800":1,"status":{"new":null},"# ++
      r#""created_at":"2024-01-01T00:00:00Z"}"#))).toOption = none := by
  decide

end Brokerage
