import Brokerage.Store.Basic

/-!
# Preferences

What a user has chosen about the dashboard.
-/

namespace Brokerage.Preferences

variable {σ : Type}

/-- The name under which a store keeps whether the sidebar is collapsed. -/
def sidebarKey : String := "estatehub.sidebar_collapsed"

/-- Whether the sidebar is collapsed; it is not until somebody collapses it. -/
def sidebarCollapsed (store : KeyStore σ) : Task σ Bool := do
  return (← store.get sidebarKey) == some "true"

/-- Collapses the sidebar or opens it. -/
def setSidebarCollapsed (store : KeyStore σ) (collapsed : Bool) : Task σ Unit :=
  store.set sidebarKey (if collapsed then "true" else "false")

end Brokerage.Preferences
