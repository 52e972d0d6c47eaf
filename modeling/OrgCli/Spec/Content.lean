import OrgCli.Main

/-!
# `OrgCli.Spec.Content`: what MCP content carries

The items of a content array that are not text, as MCP defines them, and their payload: what
an item tells the user. An absent MIME type or description counts as the empty string, and the
two names of the resource kind as one.

`DifferOnlyInBlobs` holds of two arrays that tell the user the same except for the blobs of
some resources. `RepliesText` is a reply with a single text item, and `wrappedText` the object
that the registry promises for it.
-/

set_option autoImplicit false

namespace OrgCli

open OrgCli.Support (SortedMap)

/-- The contents of a resource. -/
inductive Body where
  | text (s : String)
  | blob (b : String)
  deriving DecidableEq

/-- The text of a resource with a text. -/
def Body.asText : Body → Option String
  | .text s => some s
  | .blob _ => none

/-- The base64 data of a resource with a blob. -/
def Body.asBlob : Body → Option String
  | .text _ => none
  | .blob b => some b

/-- The two names of the resource kind. -/
inductive ResourceKind where
  | resource
  | embeddedResource
  deriving DecidableEq

/-- The `type` of a resource item. -/
def ResourceKind.name : ResourceKind → String
  | .resource => "resource"
  | .embeddedResource => "embedded_resource"

/-- A content item that is not text. -/
inductive ContentItem where
  | image (data mimeType : String)
  | resource (kind : ResourceKind) (uri : String) (mimeType : Option String) (body : Body)
  | resourceLink (uri name : String) (mimeType description : Option String)
  deriving DecidableEq

/-- The item as the server sends it. -/
def ContentItem.value : ContentItem → Json
  | .image data mimeType => .object (.ofFields [("type", some (.string "image")),
      ("data", some (.string data)), ("mimeType", some (.string mimeType))])
  | .resource kind uri mimeType body => .object (.ofFields [("type", some (.string kind.name)),
      ("resource", some (.object (.ofFields [("uri", some (.string uri)),
        ("mimeType", mimeType.map .string), ("text", body.asText.map .string),
        ("blob", body.asBlob.map .string)])))])
  | .resourceLink uri name mimeType description =>
      .object (.ofFields [("type", some (.string "resource_link")), ("uri", some (.string uri)),
        ("name", some (.string name)), ("mimeType", mimeType.map .string),
        ("description", description.map .string)])

/-- A content array. -/
def contentArray (items : List ContentItem) : Json := .array (items.map ContentItem.value)

/-- What an item tells the user. -/
inductive Payload where
  | image (data mimeType : String)
  | resource (uri mimeType : String) (body : Body)
  | resourceLink (uri name mimeType description : String)
  deriving DecidableEq

/-- The payload of an item. -/
def ContentItem.payload : ContentItem → Payload
  | .image data mimeType => .image data mimeType
  | .resource _ uri mimeType body => .resource uri (mimeType.getD "") body
  | .resourceLink uri name mimeType description =>
      .resourceLink uri name (mimeType.getD "") (description.getD "")

/-- The payload with an empty blob in place of its blob. -/
def Payload.withoutBlob : Payload → Payload
  | .resource uri mimeType (.blob _) => .resource uri mimeType (.blob "")
  | p => p

/-- The blob of a payload. -/
def Payload.blob : Payload → Option String
  | .resource _ _ body => body.asBlob
  | _ => none

/-- The arrays agree, position by position, in everything but the blobs, and not in these. -/
structure DifferOnlyInBlobs (xs ys : List ContentItem) : Prop where
  others : xs.map (·.payload.withoutBlob) = ys.map (·.payload.withoutBlob)
  blobs : xs.map (·.payload.blob) ≠ ys.map (·.payload.blob)

/-! ### Text -/

/-- The data that wraps a text. -/
def wrappedText (t : String) : Json := .object (.ofList [("text", .string t)])

/-- A reply whose content is one text item with the text `t`. -/
def RepliesText (m : Json) (t : String) : Prop :=
  m.get? "error" = none ∧ ∃ result item, m.get? "result" = some result ∧
    result.get? "content" = some (.array [item]) ∧
    item.get? "type" = some (.string "text") ∧ item.get? "text" = some (.string t)

/-- A run printed one envelope, with this data. -/
def PrintsData (out : Int32 × World) (data : Json) : Prop :=
  ∃ p, out.2.stdout = [p] ∧ p.data = some data

end OrgCli
