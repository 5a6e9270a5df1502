import Boilerplate.Json.Writer
import Boilerplate.Time.Timestamp

/-!
# Stamps

What marks one generation off from another: an id and a time. An id is sixteen random bytes in the
form of a random identifier, version 4.
-/

namespace Boilerplate

structure Stamp where
  id : String
  time : Timestamp

namespace Stamp

def hexByte (b : UInt8) : List Char :=
  [Json.hexDigit (b.toNat / 16), Json.hexDigit (b.toNat % 16)]

/-- The seventh byte holds the version and the ninth the variant. -/
def markVersion : Nat → UInt8 → UInt8
  | 6, b => b &&& 0x0f ||| 0x40
  | 8, b => b &&& 0x3f ||| 0x80
  | _, b => b

def groups (bytes : List UInt8) : List (List UInt8) :=
  [bytes.take 4, (bytes.drop 4).take 2, (bytes.drop 6).take 2, (bytes.drop 8).take 2,
    bytes.drop 10]

/-- The text of an id: its bytes in groups of 4, 2, 2, 2 and 6. -/
def idText (bytes : List UInt8) : String :=
  "-".intercalate ((groups (bytes.mapIdx markVersion)).map fun g =>
    String.ofList (g.flatMap hexByte))

end Stamp

end Boilerplate
