import ShaderDepot.Storage.Location
import ShaderDepot.Text.Utf8

/-!
# Paths of the system

A path of the system is any bytes.  It becomes a text at the price of what is no text in it, and it is taken
apart as a location is, each byte being taken for the character of its number.
-/

namespace ShaderDepot

structure OsPath where
  bytes : List UInt8
  deriving DecidableEq, Repr

namespace OsPath

def ofString (s : String) : OsPath := ⟨Text.encode s.toList⟩

instance : Coe String OsPath := ⟨ofString⟩

/-- The path as a text, with a replacement for what is none. -/
def text (p : OsPath) : String := String.ofList (Text.decode p.bytes)

def slash : UInt8 := 0x2F

/-- `part` seen from `base`. -/
def push (base : OsPath) (part : String) : OsPath :=
  ⟨Location.joinAt slash base.bytes (Text.encode part.toList)⟩

/-- The characters of the numbers of the bytes. -/
def units (p : OsPath) : List Char := p.bytes.map Char.ofUInt8

def ofUnits (s : List Char) : OsPath := ⟨s.map Char.toUInt8⟩

def components (p : OsPath) : List Location.Component := Location.components p.units

/-- A path without those of its components that are a base's, if it lies there. -/
def within? (base p : OsPath) : Option OsPath :=
  (Location.within? base.units p.units).map fun below =>
    ofUnits (Text.joinWith '/' (below.map (·.text)))

end OsPath

end ShaderDepot
