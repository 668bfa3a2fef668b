import Hashmark.Constants
import Hashmark.Text.Encoding

/-!
# The host

What a pass finds in the host that it runs on: facts that count as ambient constants where a
configuration gives none of its own, and the encodings that the host knows besides those that every
host does.
-/

namespace Hashmark

/-- A host. -/
structure Host where
  /-- Its version as one number. -/
  versionHex : UInt32
  /-- The first part of its version. -/
  major : UInt8
  /-- The second part of its version. -/
  minor : UInt8
  /-- The platform. -/
  platform : String
  /-- The name of its implementation. -/
  implementation : String
  /-- The further encodings, by their names. -/
  codecs : String → Option Text.Codec

namespace Host

/-- The host unless another is given: fixed facts, which are not those of one release, and no further
encoding. -/
def reference : Host where
  versionHex := 50922224
  major := 3
  minor := 11
  platform := "linux"
  implementation := "CPython"
  codecs := fun _ => none

/-- The constants that describe a host. -/
def constants (host : Host) : Constants :=
  ⟨[("PYTHON_VERSION_HEX", .int host.versionHex.toNat), ("PYTHON_MAJOR", .int host.major.toNat),
    ("PYTHON_MINOR", .int host.minor.toNat), ("PLATFORM", .text host.platform),
    ("IMPLEMENTATION", .text host.implementation)]⟩

/-- The encoding that goes by a name. -/
def codec? (host : Host) (name : String) : Option Text.Codec :=
  -- A null character would end the name early; no such name is looked up.
  if name.toList.contains '\x00' then none
  else match Text.Encoding.ofName? name with
    | some encoding => some encoding.codec
    | none => host.codecs name

end Host

end Hashmark
