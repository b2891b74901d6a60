import Brokerage.Lead.Basic

/-!
# Pages

One page of a longer list: its items, the number of items of the whole list, the number of the page
and how many items a page holds.
-/

namespace Brokerage

/-- One page of a list. -/
structure Page (α : Type) where
  items : List α
  total : UInt64
  page : UInt32
  perPage : UInt32
  deriving DecidableEq

namespace Page

variable {α : Type}

/-- True if items come after this page. The product is one of 64 bits. -/
def hasNext (p : Page α) : Bool :=
  p.page.toUInt64 * p.perPage.toUInt64 < p.total

/-- A natural number of 32 bits in a JSON text. -/
def readWord32 : Json.Reader UInt32 :=
  Json.Reader.map UInt32.ofNat (Json.readNat (Nat.pow 2 32 - 1))

/-- A natural number of 64 bits in a JSON text. -/
def readWord64 : Json.Reader UInt64 :=
  Json.Reader.map UInt64.ofNat (Json.readNat (Nat.pow 2 64 - 1))

/-- The members of a page; all must be there. -/
def members (read : Json.Reader α) : Json.Members [List α, UInt64, UInt32, UInt32] :=
  .cons "items" (Json.readList read) none <|
  .cons "total" readWord64 none <|
  .cons "page" readWord32 none <|
  .cons "per_page" readWord32 none .nil

/-- A page in a JSON text. -/
def read (readItem : Json.Reader α) : Json.Reader (Page α) :=
  Json.Reader.map (fun (items, total, page, perPage, ()) => ⟨items, total, page, perPage⟩)
    (Json.readRecord (members readItem))

/-- A page as a JSON value. -/
def toValue (itemValue : α → Json.Value) (p : Page α) : Json.Value :=
  .object [("items", .list (p.items.map itemValue)), ("total", .nat p.total.toNat),
    ("page", .nat p.page.toNat), ("per_page", .nat p.perPage.toNat)]

end Page

end Brokerage
