import Brokerage.Api.Call
import Brokerage.Board
import Brokerage.Lead.Capture
import Brokerage.Page

/-!
# Calls about leads
-/

namespace Brokerage.Leads

/-- The path of a lead, with its identity escaped as one component. Dots are not escaped, so an
identity that is `.` or `..` does not stay a segment when the path is resolved. -/
def path (id : LeadId) : String :=
  "leads/" ++ Percent.component id.text

/-- The request for one page of the leads that a query finds. -/
def listRequest (q : Lead.Query) : Request :=
  { Call.get "leads" with query := q.parameters }

/-- One page of the leads that a query finds. -/
def list (q : Lead.Query) : Call (Page Lead) :=
  Call.sendJson (listRequest q) (Page.read Lead.read)

/-- One page of the leads that a query finds, on a board. -/
def board (q : Lead.Query) : Call Board :=
  Call.sendJson (listRequest q)
    (Json.Reader.map (fun page => Board.ofLeads page.items) (Page.read Lead.read))

/-- A lead. -/
def get (id : LeadId) : Call Lead :=
  Call.sendJson (Call.get (path id)) Lead.read

/-- The request that moves a lead to another stage. -/
def updateRequest (id : LeadId) (status : Lead.Status) : Request :=
  (Call.patch (path id)).withJson (.object [("status", status.toValue)])

/-- Moves a lead to another stage. -/
def updateStatus (id : LeadId) (status : Lead.Status) : Call Lead :=
  Call.sendJson (updateRequest id status) Lead.read

/-- Hands in the form of a landing page. -/
def capture (form : LeadCapture) : Call Lead :=
  (Call.sendJson ((Call.post "public/leads").withJson form.toValue) Lead.read).reporting fun lead =>
    ⟨.info, "Lead captured", [("lead_id", lead.id.text)]⟩

end Brokerage.Leads
