import RecordQuery.Cursor.Basic
import RecordQuery.Json.Reader
import RecordQuery.Text.Base64

/-! # Cursor tokens

A token is the JSON text of a cursor, passed through the layers of a codec and written in base64.
Decoding takes the layers off in the opposite order. Whatever is wrong with a token is an error of
one kind.
-/

namespace RecordQuery

/-- A reversible transformation of texts. Both directions may refuse. -/
structure Layer where
  encode : String → Except QueryError String
  decode : String → Except QueryError String

/-- The layers that a payload passes, in the order of encoding. -/
structure Codec where
  layers : List Layer

namespace Codec

/-- The greatest length of an accepted token in bytes. -/
def tokenLimit : Nat := 16384

def bytes (s : String) : List UInt8 :=
  s.toUTF8.data.toList

def ofBytes? (bytes : List UInt8) : Option String :=
  String.fromUTF8? ⟨bytes.toArray⟩

def encodeLayers : List Layer → String → Except QueryError String
  | [], s => .ok s
  | layer :: layers, s => do
    let s ← layer.encode s
    encodeLayers layers s

/-- Takes the layers off, the last one first. -/
def decodeLayers : List Layer → String → Except QueryError String
  | [], s => .ok s
  | layer :: layers, s => do
    let s ← decodeLayers layers s
    match layer.decode s with
    | .ok s => .ok s
    | .error cause => .error (.malformedCursor (.layerFailed cause))

def encode (codec : Codec) (cursor : Cursor) : Except QueryError String := do
  let s ← encodeLayers codec.layers cursor.toJson.render
  .ok (String.ofList (Text.Base64.encode (bytes s)))

def readPayload (payload : String) : Except QueryError Cursor :=
  match (Json.read? payload).bind Cursor.ofJson? with
  | some cursor => .ok cursor
  | none => .error (.malformedCursor .notAnObject)

/-- The text inside the base64 form of a token. -/
def unwrap (token : List Char) : Except QueryError String :=
  match Text.Base64.decode token with
  | none => .error (.malformedCursor .notBase64)
  | some bytes => match ofBytes? bytes with
    | none => .error (.malformedCursor .notUtf8)
    | some s => .ok s

/-- The cursor of a token, blanks around it aside. -/
def decode (codec : Codec) (token : String) : Except QueryError Cursor :=
  let token := Text.trim token
  if token.isEmpty then .error (.malformedCursor .emptyToken)
  else if tokenLimit < token.utf8ByteSize then .error (.malformedCursor .tokenTooLong)
  else do
    let s ← unwrap token.toList
    let payload ← decodeLayers codec.layers s
    readPayload payload

/-- The boundary that a token stands for in a sort order. -/
def boundary (codec : Codec) (token : String) (order : SortOrder) :
    Except QueryError (List Operand) := do
  let cursor ← codec.decode token
  cursor.boundary order

end Codec

end RecordQuery
