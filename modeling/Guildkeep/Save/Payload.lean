import Guildkeep.Game.Record
import Guildkeep.Packing.Base64
import Guildkeep.Packing.Gzip

/-!
# Save Payloads

What is stored for a save: the JSON text of its snapshot, or that text compressed, as `gz:` and the
base 64 text of a gzip member. The mark in front is the only sign of compression, so reading needs
no other knowledge.

## Conventions

A snapshot with a number that is not finite is refused: JSON would write `null` for it, which does
not read back.
-/

namespace Guildkeep.Save

open Game Packing

/-- Why a snapshot is not written, or a payload or manifest not read. -/
inductive CodecFault where
  | notFinite (field : String) (value : Binary64)
  | json (why : Json.Fault)
  | base64 (why : Base64.Fault)
  | gunzip (why : GzipFault)
  | notText
  | newerVersion (version : UInt32)
  deriving DecidableEq

/-- The wording of a fault. -/
def CodecFault.message : CodecFault → String
  | notFinite field value => field ++ " is not finite (" ++ value.plain ++ ")"
  | json why => why.message
  | base64 why => "base64: " ++ why.message
  | gunzip why => "gunzip: " ++ why.message
  | notText => "gunzip: stream did not contain valid UTF-8"
  | newerVersion version => "unsupported save index version " ++ Text.nat version.toNat

namespace Payload

/-- The mark of a compressed payload. -/
def mark : String := "gz:"

/-- The bytes of a text. -/
def bytes (s : String) : List UInt8 :=
  s.toUTF8.toList

/-- The text with these bytes, if they are UTF-8. -/
def ofBytes? (bs : List UInt8) : Option String :=
  String.fromUTF8? ⟨bs.toArray⟩

/-- The text of ASCII bytes. -/
def ofAscii (bs : List UInt8) : String :=
  String.ofList (bs.map fun b => Char.ofNat b.toNat)

/-- The numbers of a snapshot, by the names of their fields. -/
def floats (s : Snapshot) : List (String × Binary64) :=
  [("state.position.x", s.state.position.x), ("state.position.y", s.state.position.y),
   ("config.scoreMultiplier", s.config.scoreMultiplier)]

/-- The compressed form of a text. -/
def compress (text : String) : String :=
  mark ++ ofAscii (Base64.encode (gzip (bytes text)))

/-- The **payload** of a snapshot. -/
def encode (s : Snapshot) (compressed : Bool) : Except CodecFault String :=
  match (floats s).find? fun f => !f.2.isFinite with
  | some (field, value) => .error (.notFinite field value)
  | none =>
    let text := s.toJson.render
    .ok (if compressed then compress text else text)

/-- Whether a payload bears the mark of compression. -/
def isCompressed (payload : String) : Bool :=
  mark.toList.isPrefixOf payload.toList

/-- The text behind the mark, decompressed. -/
def decompress (encoded : List Char) : Except CodecFault String := do
  let packed ← match Base64.decode (bytes (String.ofList (Text.trim encoded))) with
    | .ok packed => .ok packed
    | .error why => .error (.base64 why)
  let data ← match gunzip packed with
    | .ok data => .ok data
    | .error why => .error (.gunzip why)
  match ofBytes? data with
  | some text => .ok text
  | none => .error .notText

/-- The snapshot that a JSON text holds. -/
def parse (text : String) : Except CodecFault Snapshot :=
  match Snapshot.read.run text with
  | .ok s => .ok s
  | .error why => .error (.json why)

/-- The **snapshot** of a payload. -/
def decode (payload : String) : Except CodecFault Snapshot := do
  if isCompressed payload then
    let text ← decompress (payload.toList.drop mark.toList.length)
    parse text
  else parse payload

end Payload

end Guildkeep.Save
