import Brokerage.Api.Call
import Brokerage.Listing

/-!
# Calls about listings
-/

namespace Brokerage.Listings

open Listing

/-- The path of something that belongs to a listing, with the listing's identity escaped as one
component. As with a lead, `.` and `..` do not stay segments. -/
def path (id : ListingId) (part : String) : String :=
  "listings/" ++ Percent.component id.text ++ "/" ++ part

/-- Starts a synchronization with the MLS. -/
def sync : Call SyncJob :=
  (Call.sendJson { Call.post "listings/sync" with category := .queue } SyncJob.read).reporting
    fun job => ⟨.info, "MLS sync queued", [("job_id", job.jobId)]⟩

/-- The request for a description of a listing. -/
def describeRequest (id : ListingId) (wish : DescriptionWish) : Request :=
  { (Call.post (path id "generate")).withJson wish.toValue with category := .generation }

/-- Has a description of a listing written. -/
def describe (id : ListingId) (wish : DescriptionWish) : Call Description :=
  Call.sendJson (describeRequest id wish) Description.read

/-- The request that uploads a photo. The name of its file is a parameter. -/
def uploadRequest (id : ListingId) (fileName : String) (photo : Body) : Request :=
  { Call.post (path id "photos") with
    query := [("file_name", fileName)]
    body := some photo
    category := .upload }

/-- Uploads a photo of a listing. -/
def uploadPhoto (id : ListingId) (fileName : String) (photo : Body) : Call Photo :=
  Call.sendJson (uploadRequest id fileName photo) Photo.read

end Brokerage.Listings
