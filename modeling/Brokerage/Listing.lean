import Brokerage.Identity

/-!
# Listings

What the backend answers when listings are synchronized with the MLS, described by a text generator
or given a photo.
-/

namespace Brokerage.Listing

/-- A synchronization that runs in the background. -/
structure SyncJob where
  jobId : String
  status : String
  deriving DecidableEq

/-- A synchronization in a JSON text. -/
def SyncJob.read : Json.Reader SyncJob :=
  Json.Reader.map (fun (jobId, status, ()) => ⟨jobId, status⟩)
    (Json.readRecord (.cons "job_id" Json.readText none <| .cons "status" Json.readText none .nil))

/-- Wishes for a generated description. -/
structure DescriptionWish where
  /-- For instance luxury, friendly or concise. -/
  tone : Option String := none
  maxWords : Option UInt32 := none
  deriving DecidableEq

/-- The wishes as a JSON value; those that are not set are left out. -/
def DescriptionWish.toValue (w : DescriptionWish) : Json.Value :=
  .object (Json.Value.textMember? "tone" w.tone ++
    match w.maxWords with
    | some n => [("max_words", .nat n.toNat)]
    | none => [])

/-- A generated description. -/
structure Description where
  content : String
  model : Option String := none
  deriving DecidableEq

/-- A generated description in a JSON text. -/
def Description.read : Json.Reader Description :=
  Json.Reader.map (fun (content, model, ()) => ⟨content, model⟩)
    (Json.readRecord (.cons "content" Json.readText none <|
      .cons "model" (Json.readOption Json.readText) (some none) .nil))

/-- An uploaded photo. -/
structure Photo where
  id : String
  url : String
  deriving DecidableEq

/-- An uploaded photo in a JSON text. -/
def Photo.read : Json.Reader Photo :=
  Json.Reader.map (fun (id, url, ()) => ⟨id, url⟩)
    (Json.readRecord (.cons "id" Json.readText none <| .cons "url" Json.readText none .nil))

end Brokerage.Listing
