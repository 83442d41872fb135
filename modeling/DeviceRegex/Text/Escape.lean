import DeviceRegex.Text.Numeral
import DeviceRegex.Unicode.GraphemeExtend
import DeviceRegex.Unicode.Printable

/-!
# Characters in listings

A listing shows a character as itself when it can be read alone, and otherwise by
an escape that starts with a backslash.
-/
namespace DeviceRegex.Text

/-- Whether `c` cannot be read alone: it joins the character before it, or does not
show. -/
def needsEscape (c : Char) : Bool := Unicode.isExtendingMark c || !Unicode.isPrintable c

/-- The form of `c` in a listing. Quotes and the backslash are escaped everywhere, so
that a backslash always starts an escape. -/
def escape (c : Char) : String :=
  match c with
  | '\x00' => "\\0"
  | '\t' => "\\t"
  | '\r' => "\\r"
  | '\n' => "\\n"
  | '\'' => "\\'"
  | '"' => "\\\""
  | '\\' => "\\\\"
  | c => if needsEscape c then "\\u\x7b" ++ hexadecimal c.toNat ++ "\x7d" else String.singleton c

end DeviceRegex.Text
