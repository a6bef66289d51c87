import LibreLinux.Lib.Maps

/-!
# D-Bus values

The boundaries of this tree exchange string-keyed dictionaries of typed
variants. A variant remembers the type it was written with: reading it back as
another type raises the bus library's error, which is `none` here, and reading
it as its own type returns the value. Texts are Lean strings, that is, valid
UTF-8; this is the bus's own restriction on its string type, which also excludes
the NUL character. A toolkit string decoded from such a text is that text.
-/

namespace LibreLinux.Wire

/-- The variant types written or read on the modelled boundaries. -/
inductive Variant where
  | string (text : String)
  | strings (texts : List String)
  | objectPath (path : String)
  | boolean (value : Bool)
  | uint32 (value : UInt32)
  | int32 (value : Int)
  | bytes (value : List UInt8)
deriving DecidableEq, Repr

namespace Variant

/-- Read a variant as a string. -/
def getString : Variant → Option String
  | .string text => some text
  | _ => none

/-- Read a variant as an array of strings. -/
def getStrings : Variant → Option (List String)
  | .strings texts => some texts
  | _ => none

/-- Read a variant as an unsigned 32-bit number. -/
def getUInt32 : Variant → Option UInt32
  | .uint32 value => some value
  | _ => none

/-- Read a variant as a boolean. -/
def getBool : Variant → Option Bool
  | .boolean value => some value
  | _ => none

/-- Read a variant as an object path. -/
def getObjectPath : Variant → Option String
  | .objectPath path => some path
  | _ => none

end Variant

/-- A string-keyed dictionary, the wire's `a{sv}`. -/
abbrev Dict := Finmap (fun _ : String => Variant)

/-- One object's interfaces with their properties. -/
abbrev Interfaces := Finmap (fun _ : String => Dict)

/-- A reply to `GetManagedObjects`, in the order of the paths. -/
abbrev ManagedObjects := List (String × Interfaces)

/-- The reader interface. -/
def kReaderIface : String := "org.librescrs.Agent.Reader1"

/-- The card interface. -/
def kCardIface : String := "org.librescrs.Agent.Card1"

/-- Conversion of an unsigned 32-bit number to the 32-bit signed type keeps the
residue, so the upper half of the range becomes negative. -/
def staticCastInt (value : UInt32) : Int :=
  if value.toNat < 2 ^ 31 then value.toNat else (value.toNat : Int) - 2 ^ 32

end LibreLinux.Wire
