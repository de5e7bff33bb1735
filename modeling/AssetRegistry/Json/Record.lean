import AssetRegistry.Json.Codec

/-! # Records

A record is written as an object with its fields in order.  It is read from an
object with the fields in any order, where unknown members are passed over and a
repeated field is a fault, or from an array of the field values in order. -/

namespace AssetRegistry.Json

/-- A field of a record.  `default` is the value of a field that is left out. -/
structure Field (α : Type) where
  name : String
  codec : Codec α
  default : Option α

/-- The fields of a record in order.  The indices are the tuple of the field
    values and the tuple of the values met so far. -/
inductive Fields : Type → Type → Type 1 where
  | nil : Fields Unit Unit
  | cons {α τ σ : Type} (field : Field α) (rest : Fields τ σ) : Fields (α × τ) (Option α × σ)

namespace Fields

/-- A field that has to be there, unless its codec knows a value for a missing
    member. -/
def required (name : String) (codec : Codec α) (rest : Fields τ σ) :
    Fields (α × τ) (Option α × σ) :=
  .cons ⟨name, codec, none⟩ rest

/-- A field with a value for when it is left out. -/
def defaulted (name : String) (codec : Codec α) (default : α) (rest : Fields τ σ) :
    Fields (α × τ) (Option α × σ) :=
  .cons ⟨name, codec, some default⟩ rest

/-- No field met yet. -/
def unmet : Fields τ σ → σ
  | .nil => ()
  | .cons _ rest => (none, rest.unmet)

/-- Reads the field of a name from the tokens after its key, and `none` where no
    field has that name.  A field that was met before is a fault. -/
def met? (key : String) : Fields τ σ → σ → Option (Decoder σ)
  | .nil, _ => none
  | .cons field rest, (value, values) =>
    if key = field.name then
      some fun room ts =>
        match value with
        | some _ => .error .mismatched
        | none => do
          let (value, ts) ← field.codec.decode room (← expect .colon ts)
          return ((some value, values), ts)
    else
      (rest.met? key values).map fun decode room ts => do
        let (values, ts) ← decode room ts
        return ((value, values), ts)

/-- Continues the values met over one member, from the tokens after its key on. -/
def member (fields : Fields τ σ) (key : String) (values : σ) : Decoder σ :=
  fun room ts =>
    match fields.met? key values with
    | some decode => decode room ts
    | none => do
      let ts ← expect .colon ts
      return (values, ← skip ts)

/-- The field values, with the values of those that were left out. -/
def fill : Fields τ σ → σ → Except Fault τ
  | .nil, _ => .ok ()
  | .cons field rest, (value, values) =>
    -- The default of the field itself wins over what its codec takes a missing member for.
    match value <|> field.default <|> field.codec.absent with
    | none => .error .mismatched
    | some value => do
      let values ← rest.fill values
      return (value, values)

/-- The field values from the items of an array up to its closing bracket or to
    the last field.  Fields at the end that have a default may be left out. -/
def decodeItems : Fields τ σ → (first : Bool) → Decoder τ
  | .nil, _, _, ts => .ok ((), ts)
  | .cons field rest, first, room, ts => do
    match ← nextItem first ts with
    | some ts =>
      let (value, ts) ← field.codec.decode room ts
      let (values, ts) ← rest.decodeItems false room ts
      return ((value, values), ts)
    | none =>
      -- An array that ends early may lack only fields with a default of their own.
      match field.default with
      | none => .error .mismatched
      | some value =>
        let (values, ts) ← rest.decodeItems first room ts
        return ((value, values), ts)

/-- The field values from an object or an array. -/
def decode (fields : Fields τ σ) : Decoder τ
  | room, .braceOpen :: ts => do
    let (values, ts) ← members fields.member (← enter room) (ts.length + 1) true fields.unmet ts
    let values ← fields.fill values
    return (values, ← expect .braceClose ts)
  | room, .bracketOpen :: ts => do
    let (values, ts) ← fields.decodeItems true (← enter room) ts
    return (values, ← expect .bracketClose ts)
  | _, ts => .error (unexpected ts)

/-- The members of the object for the field values. -/
def encode : Fields τ σ → τ → List (String × Json)
  | .nil, _ => []
  | .cons field rest, (value, values) =>
    (field.name, field.codec.encode value) :: rest.encode values

end Fields

/-- The codec of a record from its fields. -/
def Codec.record (fields : Fields τ σ) (make : τ → α) (values : α → τ) : Codec α where
  decode room ts := do
    let (vs, ts) ← fields.decode room ts
    return (make vs, ts)
  encode a := .object (fields.encode (values a))

end AssetRegistry.Json
