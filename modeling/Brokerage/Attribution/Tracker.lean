import Brokerage.Attribution.Basic
import Brokerage.Identity
import Brokerage.Store.Basic

/-!
# Tracking visitors

An arrival and the identifier of the visit are kept in a store, so that a lead who writes in several
pages later is still credited to the campaign.
-/

namespace Brokerage.Tracker

variable {σ : Type}

/-- The name under which a store keeps the arrival. -/
def attributionKey : String := "estatehub.attribution"

/-- The name under which a store keeps the visit's identifier. -/
def visitKey : String := "estatehub.visit_id"

/-- The report of an arrival. -/
def captured (a : Attribution) : Log.Event :=
  ⟨.debug, "Captured attribution",
    [("source", a.utm.source.getD ""), ("campaign", a.utm.campaign.getD "")]⟩

/-- The report of an entry that is no arrival. -/
def ignored : Log.Event :=
  ⟨.warn, "Ignoring unreadable stored attribution", []⟩

/-- Keeps the arrival at a page, if the page's link belongs to a campaign. Otherwise an earlier
arrival stays. -/
def capture (store : KeyStore σ) (url : Url) (referrer : Option String) (now : Timestamp) :
    Task σ (Option Attribution) :=
  match Attribution.ofVisit? url referrer now with
  | none => return none
  | some a => do
    store.set attributionKey a.toValue.writeText
    Task.report (captured a)
    return some a

/-- The arrival that was kept last. An entry that is none counts as absent. -/
def current (store : KeyStore σ) : Task σ (Option Attribution) := do
  match ← store.get attributionKey with
  | none => return none
  | some text =>
    match Json.readAll Attribution.read (Text.encode text) with
    | .ok a => return some a
    | .error _ => do
      Task.report ignored
      return none

/-- Forgets the arrival. -/
def clear (store : KeyStore σ) : Task σ Unit :=
  store.remove attributionKey

/-- The identifier that an entry is. An entry that is none counts as absent. -/
def idOf? (entry : Option String) : Option VisitId :=
  (entry.bind fun text => (Ulid.parse text).toOption).map VisitId.mk

/-- Looks for the visit's identifier. -/
def findId (store : KeyStore σ) : Task σ (Option VisitId) := do
  return idOf? (← store.get visitKey)

/-- Keeps an identifier as the visit's. -/
def keepId (store : KeyStore σ) (id : VisitId) : Task σ VisitId := do
  store.set visitKey id.write
  return id

/-- The visit's identifier. If none is kept, `fresh` is from now on. -/
def visitId (store : KeyStore σ) (fresh : VisitId) : Task σ VisitId := do
  match ← findId store with
  | some id => return id
  | none => keepId store fresh

end Brokerage.Tracker
