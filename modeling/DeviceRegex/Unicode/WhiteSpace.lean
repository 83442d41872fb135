import DeviceRegex.Unicode.RangeTable

/-!
# The white-space characters

The property `White_Space` of Unicode 17.0.
-/
namespace DeviceRegex.Unicode

/-- The runs of white-space code points. -/
def whiteSpaceRanges : RangeTable := ⟨#[
  (0x9, 0xd), (0x20, 0x20), (0x85, 0x85), (0xa0, 0xa0), (0x1680, 0x1680), (0x2000, 0x200a),
  (0x2028, 0x2029), (0x202f, 0x202f), (0x205f, 0x205f), (0x3000, 0x3000)]⟩

/-- Whether `c` has the property `White_Space`. -/
def isWhiteSpace (c : Char) : Bool := whiteSpaceRanges.contains c.toNat

end DeviceRegex.Unicode
