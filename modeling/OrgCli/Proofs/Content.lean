import OrgCli.Proofs.Run
import OrgCli.Spec.Content

/-!
# `OrgCli.Proofs.Content`: what the content mapping keeps

`extractResult_eq_iff` says which arrays of non-text items are printed alike: those whose
payloads agree up to the blobs of resources. `content_kept_iff` reads the loss off it.

`readHeadline_wraps_iff` is about text. The mapping looks at the text itself to tell JSON
from plain text, so `org read-headline` wraps a text exactly when it is not JSON.
-/

set_option autoImplicit false

namespace OrgCli

open OrgCli.Mcp
open OrgCli.Support

variable (env : Env)

/-! ### Items that are not text -/

/-- What is printed for a payload. -/
def Payload.forwarded : Payload → Json
  | .image data mimeType => .object (.ofList [("type", .string "image"),
      ("mime_type", .string mimeType), ("data", .string data)])
  | .resource uri mimeType body => .object (Map.setSome (.ofList [("type", .string "resource"),
      ("uri", .string uri), ("mime_type", .string mimeType)]) "text" body.asText)
  | .resourceLink uri name mimeType description => .object (.ofList
      [("type", .string "resource_link"), ("uri", .string uri), ("name", .string name),
        ("mime_type", .string mimeType), ("description", .string description)])

/-- A string field that is there, or not. -/
theorem strField_ofFields {fs : List (String × Option Json)} (h : (fs.map Prod.fst).Nodup)
    (key : String) :
    (Json.object (.ofFields fs)).strField key
      = (((lookup key fs).join).bind Json.asStr).getD "" := by
  unfold Json.strField
  rw [Json.get?_object, SortedMap.get?_ofFields h]

/-- An item is mapped to what is printed for its payload. -/
theorem mapContentItem_value (item : ContentItem) :
    mapContentItem env item.value = item.payload.forwarded := by
  cases item with
  | image data mimeType =>
      simp [mapContentItem, ContentItem.value, strField_ofFields, ContentItem.payload,
        Payload.forwarded]
  | resource kind uri mimeType body =>
      -- Both names of the kind are mapped in one branch.
      cases kind <;>
        simp [mapContentItem, ContentItem.value, strField_ofFields, ContentItem.payload,
          Payload.forwarded, ResourceKind.name, SortedMap.get?_ofFields]
  | resourceLink uri name mimeType description =>
      simp [mapContentItem, ContentItem.value, strField_ofFields, ContentItem.payload,
        Payload.forwarded]

/-- A text that may be absent is the only value under the key `text`. -/
theorem get?_setSome (m : Map) (key key' : String) (o : Option String) :
    (m.setSome key o).get? key' = if key' = key then (o.map Json.string).or (m.get? key')
      else m.get? key' := by
  cases o with
  | none => simp [Map.setSome]
  | some s => simp [Map.setSome]

/-- Two payloads are printed alike exactly when they agree up to their blobs. -/
theorem forwarded_eq_iff (p q : Payload) :
    p.forwarded = q.forwarded ↔ p.withoutBlob = q.withoutBlob := by
  constructor
  · intro h
    -- Equal objects have equal members, and the member `type` tells the kinds apart.
    have hget : ∀ key, p.forwarded.get? key = q.forwarded.get? key := by
      intro key
      rw [h]
    have htype := hget "type"
    cases p with
    | image data mimeType =>
        cases q with
        | image data' mimeType' =>
            have hdata := hget "data"
            have hmime := hget "mime_type"
            simp [Payload.forwarded] at hdata hmime
            rw [hdata, hmime]
        | resource | resourceLink => simp [Payload.forwarded, get?_setSome] at htype
    | resource uri mimeType body =>
        cases q with
        | resource uri' mimeType' body' =>
            have huri := hget "uri"
            have hmime := hget "mime_type"
            have htext := hget "text"
            simp [Payload.forwarded, get?_setSome] at huri hmime htext
            rw [huri, hmime]
            -- A text is printed, and a blob leaves no trace.
            cases body <;> cases body' <;> simp_all [Body.asText, Payload.withoutBlob]
        | image | resourceLink => simp [Payload.forwarded, get?_setSome] at htype
    | resourceLink uri name mimeType description =>
        cases q with
        | resourceLink uri' name' mimeType' description' =>
            have huri := hget "uri"
            have hname := hget "name"
            have hmime := hget "mime_type"
            have hdesc := hget "description"
            simp [Payload.forwarded] at huri hname hmime hdesc
            rw [huri, hname, hmime, hdesc]
        | image | resource => simp [Payload.forwarded, get?_setSome] at htype
  · intro h
    -- What is printed does not read the blob.
    have hblob : ∀ p : Payload, p.forwarded = p.withoutBlob.forwarded := by
      intro p
      cases p with
      | image | resourceLink => rfl
      | resource uri mimeType body => cases body <;> rfl
    rw [hblob p, hblob q, h]

/-! ### Arrays of any length -/

/-- The shape of the printed data: null, the one value, or an array. -/
def shapeOf : List Json → Json
  | [] => .null
  | [v] => v
  | vs => .array vs

/-- The content of an array is mapped item by item and then shaped. -/
theorem extractResult_array (items : List Json) :
    extractResult env (.array items) = shapeOf (items.map (mapContentItem env)) := by
  cases items with
  | nil => rfl
  | cons item items => cases items <;> rfl

/-- The shape of objects gives them back. -/
theorem shapeOf_inj {vs ws : List Json} (hvs : ∀ v ∈ vs, ∃ m, v = Json.object m)
    (hws : ∀ w ∈ ws, ∃ m, w = Json.object m) : shapeOf vs = shapeOf ws ↔ vs = ws := by
  constructor
  · intro h
    match vs, ws with
    | [], [] => rfl
    | [v], [w] => exact congrArg ([·]) h
    | v :: v' :: vs, w :: w' :: ws => exact Json.array.inj h
    | [], [w] =>
        obtain ⟨m, rfl⟩ := hws w (by simp)
        cases h
    | [v], [] =>
        obtain ⟨m, rfl⟩ := hvs v (by simp)
        cases h
    | [v], w :: w' :: ws =>
        obtain ⟨m, rfl⟩ := hvs v (by simp)
        cases h
    | v :: v' :: vs, [w] =>
        obtain ⟨m, rfl⟩ := hws w (by simp)
        cases h
  · intro h
    rw [h]

/-- Every payload is printed as an object. -/
theorem forwarded_object (p : Payload) : ∃ m, p.forwarded = Json.object m := by
  cases p <;> exact ⟨_, rfl⟩

/-- Two arrays are printed alike exactly when they agree, position by position, up to the
blobs. -/
theorem extractResult_eq_iff (xs ys : List ContentItem) :
    extractResult env (contentArray xs) = extractResult env (contentArray ys) ↔
      xs.map (·.payload.withoutBlob) = ys.map (·.payload.withoutBlob) := by
  have hshape : ∀ items : List ContentItem, extractResult env (contentArray items)
      = shapeOf (items.map (·.payload.forwarded)) := by
    intro items
    unfold contentArray
    rw [extractResult_array, List.map_map]
    exact congrArg shapeOf (List.map_congr_left fun item _ => mapContentItem_value env item)
  have hobject : ∀ items : List ContentItem, ∀ v ∈ items.map (·.payload.forwarded),
      ∃ m, v = Json.object m := by
    intro items v hv
    obtain ⟨item, _, rfl⟩ := List.mem_map.mp hv
    exact forwarded_object item.payload
  rw [hshape, hshape, shapeOf_inj (hobject xs) (hobject ys)]
  -- The lists are equal when they are equal at each position.
  induction xs generalizing ys with
  | nil => cases ys <;> simp
  | cons x xs ih =>
      cases ys with
      | nil => simp
      | cons y ys =>
          simp only [List.map_cons, List.cons.injEq, forwarded_eq_iff, ih ys]

/-- Payloads are equal when they agree up to their blobs and in these. -/
theorem payload_eq_iff (p q : Payload) :
    p = q ↔ p.withoutBlob = q.withoutBlob ∧ p.blob = q.blob := by
  constructor
  · intro h
    rw [h]
    exact ⟨rfl, rfl⟩
  · intro ⟨hothers, hblob⟩
    cases p with
    | image data mimeType =>
        cases q with
        | image => exact hothers
        | resource uri mimeType body => cases body <;> cases hothers
        | resourceLink => cases hothers
    | resourceLink uri name mimeType description =>
        cases q with
        | image => cases hothers
        | resource uri mimeType body => cases body <;> cases hothers
        | resourceLink => exact hothers
    | resource uri mimeType body =>
        cases q with
        | image | resourceLink => cases body <;> cases hothers
        | resource uri' mimeType' body' =>
            cases body <;> cases body' <;>
              simp_all [Payload.withoutBlob, Payload.blob, Body.asBlob]

/-- Two arrays that are printed alike agree in every payload exactly when they do not differ
in blobs only. -/
theorem content_kept_iff (xs ys : List ContentItem) :
    (extractResult env (contentArray xs) = extractResult env (contentArray ys) →
        xs.map ContentItem.payload = ys.map ContentItem.payload) ↔
      ¬ DifferOnlyInBlobs xs ys := by
  have hpayload : xs.map ContentItem.payload = ys.map ContentItem.payload ↔
      xs.map (·.payload.withoutBlob) = ys.map (·.payload.withoutBlob) ∧
        xs.map (·.payload.blob) = ys.map (·.payload.blob) := by
    induction xs generalizing ys with
    | nil => cases ys <;> simp
    | cons x xs ih =>
        cases ys with
        | nil => simp
        | cons y ys =>
            simp only [List.map_cons, List.cons.injEq, ih ys, payload_eq_iff x.payload]
            tauto
  rw [extractResult_eq_iff, hpayload]
  constructor
  · intro h hdiffer
    exact hdiffer.blobs (h hdiffer.others).2
  · intro h hothers
    refine ⟨hothers, ?_⟩
    by_contra hblobs
    exact h ⟨hothers, hblobs⟩

/-- Two resources with different blobs are printed alike. -/
theorem content_blob_lost :
    extractResult (Env.replay [])
        (contentArray [.resource .resource "org://a" (some "image/png") (.blob "AAAA")])
      = extractResult (Env.replay [])
        (contentArray [.resource .resource "org://a" (some "image/png") (.blob "BBBB")]) ∧
    [ContentItem.resource .resource "org://a" (some "image/png") (.blob "AAAA")].map
        ContentItem.payload
      ≠ [ContentItem.resource .resource "org://a" (some "image/png") (.blob "BBBB")].map
        ContentItem.payload := by
  constructor
  · rw [extractResult_eq_iff]
    rfl
  · decide

/-! ### Text -/

/-- A text item is mapped to the value of its text, or to the wrapped text. -/
theorem mapContentItem_text {item : Json} {t : String}
    (htype : item.get? "type" = some (.string "text"))
    (htext : item.get? "text" = some (.string t)) :
    mapContentItem env item = match env.serde.fromStr t with
      | .ok parsed => parsed
      | .error _ => wrappedText t := by
  have hfield : item.strField "type" = "text" := by
    unfold Json.strField
    rw [htype]
    rfl
  unfold mapContentItem
  rw [hfield, htext]
  rfl

/-- A reply with one text item prints what the item is mapped to. -/
theorem RunOf.headline_data {cli : Cli} {uri t : String} {es : List Event} {rep : Report}
    {m : Json} (h : RunOf env cli es rep) (hcmd : cli.command = .readHeadline uri)
    (hm : (consumed env es)[1]? = some m) (hid : ¬ Misaddressed 2 m) (ht : RepliesText m t) :
    rep.printed.data = some (match env.serde.fromStr t with
      | .ok parsed => parsed
      | .error _ => wrappedText t) := by
  obtain ⟨method, params, finish, hp, rfl⟩ := h.second_reply env hm
  obtain ⟨herr, result, item, hresult, hcontent, htype, htext⟩ := ht
  have hcheck : checkResponse env 2 m = .ok result :=
    (checkResponse_eq_ok_iff env).mpr ⟨hid, herr, hresult⟩
  have hextract : extractResult env (contentOf result) = mapContentItem env item := by
    unfold contentOf
    rw [hcontent]
    rfl
  -- The command prints the content of the result like every other one.
  rw [hcmd] at hp
  obtain ⟨_, _, rfl⟩ := Plan.exchange.inj hp
  rw [hcheck, ← mapContentItem_text env htype htext, ← hextract]
  exact successReport_data _ cli.compact

/-- `org read-headline` wraps the text of the reply exactly when the text is not JSON, or it
is JSON for the wrapped text itself. -/
theorem readHeadline_wraps_iff (cli : Cli) (uri t : String) (m : Json)
    (hcmd : cli.command = .readHeadline uri)
    (hm : (consumed env (execute env cli).2.trace)[1]? = some m) (hid : ¬ Misaddressed 2 m)
    (ht : RepliesText m t) :
    PrintsData (execute env cli) (wrappedText t) ↔
      (∃ e, env.serde.fromStr t = .error e) ∨ env.serde.fromStr t = .ok (wrappedText t) := by
  obtain ⟨es, rep, hrun, hexec⟩ := execute_run env cli
  rw [hexec] at hm ⊢
  have hdata := hrun.headline_data env hcmd hm hid ht
  have hprints : PrintsData (rep.code, ⟨es, [rep.printed], cli.timeout⟩) (wrappedText t) ↔
      rep.printed.data = some (wrappedText t) := by
    simp [PrintsData]
  rw [hprints, hdata]
  cases env.serde.fromStr t with
  | ok parsed => simp
  | error e => simp

/-- A reply to the request whose content is one text item. -/
def textEntry (t : String) : String × Json :=
  ("\x7b\"jsonrpc\":\"2.0\",\"id\":2,\"result\":\x7b\"content\":[\x7b\"type\":\"text\",\"text\":\""
      ++ t ++ "\"\x7d]\x7d\x7d",
    .object (.ofList [("jsonrpc", .string "2.0"), ("id", .ofU64 2),
      ("result", .object (.ofList [("content", .array [.object (.ofList
        [("type", .string "text"), ("text", .string t)])])]))]))

/-- `org read-headline` of one node. -/
def headlineCli : Cli := ⟨"org-mcp", [], false, 30, .readHeadline "id"⟩

/-- A headline is wrapped. -/
theorem readHeadline_wraps_todo :
    PrintsData (execute (Env.answering (textEntry "* TODO x")) headlineCli)
      (wrappedText "* TODO x") := by
  have hm : (consumed (Env.answering (textEntry "* TODO x"))
      (execute (Env.answering (textEntry "* TODO x")) headlineCli).2.trace)[1]?
        = some (textEntry "* TODO x").2 := by decide +kernel
  have hid : ¬ Misaddressed 2 (textEntry "* TODO x").2 := not_misaddressed_of_id rfl
  have ht : RepliesText (textEntry "* TODO x").2 "* TODO x" :=
    ⟨rfl, _, _, rfl, rfl, rfl, rfl⟩
  refine (readHeadline_wraps_iff _ headlineCli "id" "* TODO x" _ rfl hm hid ht).mpr (Or.inl ?_)
  exact ⟨"expected value at line 1 column 1", by decide +kernel⟩

/-- A server that answers with the text `42`. -/
def Env.answering42 : Env := Env.replay [initializeEntry, textEntry "42", ("42", .ofU64 42)]

/-- A body that is a number is printed as that number. -/
theorem readHeadline_number_unwrapped :
    (consumed Env.answering42 (execute Env.answering42 headlineCli).2.trace)[1]?
        = some (textEntry "42").2 ∧
      RepliesText (textEntry "42").2 "42" ∧
      (execute Env.answering42 headlineCli).2.stdout.map Printed.data = [some (.ofU64 42)] ∧
      ¬ PrintsData (execute Env.answering42 headlineCli) (wrappedText "42") := by
  have hdata : (execute Env.answering42 headlineCli).2.stdout.map Printed.data
      = [some (.ofU64 42)] := by decide +kernel
  refine ⟨by decide +kernel, ⟨rfl, _, _, rfl, rfl, rfl, rfl⟩, hdata, ?_⟩
  rintro ⟨p, hp, hwrapped⟩
  rw [hp, List.map_singleton, hwrapped] at hdata
  cases hdata

end OrgCli
