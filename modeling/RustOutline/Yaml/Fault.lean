import RustOutline.Failure
import RustOutline.Utf8

/-! What is needed of a library that reads YAML, and why a text has no value as a document. -/
namespace RustOutline.Yaml

/-- Why a document has no value: the library says that it is none, or something else is raised. -/
inductive Problem where
  | invalid (reason : String)
  | raised (r : Raised)
deriving DecidableEq, Repr, Inhabited

/-- A library that reads the bytes of a document in UTF-8. All that is assumed of it is that objects
are mappings, at any depth. A value that is not made of null, truth values, numbers, texts, lists and
objects, such as a date, is foreign; so is an object with a name of another kind. -/
structure Reader where
  read : Utf8.Bytes → Except Problem Value
  unambiguous : ∀ bytes v, read bytes = .ok v → v.Unambiguous

/-- Most faults are found while the text is taken apart; the last ones lie in a single number,
character or byte. -/
inductive Fault where
  | control
  | unclosed
  | misplaced
  | keyTooLong
  | documents
  | badEscape
  | noValue
  | undefinedAlias
  | badMerge
  | badKey
  /-- A number in some base has no digits. -/
  | noDigits (base : Nat)
  | manyDigits (count : Nat)
  /-- A place of a number in base sixty is beyond the range of doubles. -/
  | wideNumber
  /-- No character has such a number. -/
  | noCharacter
  /-- The number of a character takes more than 31 bits. -/
  | wideCharacter
  /-- The bytes are no text. -/
  | malformed (m : Utf8.Malformed)
deriving DecidableEq, Repr, Inhabited

namespace Fault

def problem : Fault → Problem
  | .control => .invalid "special characters are not allowed"
  | .unclosed => .invalid "a quote or bracket is not closed"
  | .misplaced => .invalid "found something that is not allowed here"
  | .keyTooLong => .invalid "could not find the end of a key"
  | .documents => .invalid "expected a single document in the stream"
  | .badEscape => .invalid "found an unknown escape"
  | .noValue => .invalid "could not determine a value"
  | .undefinedAlias => .invalid "found an undefined alias"
  | .badMerge => .invalid "expected a mapping or a list of mappings for merging"
  | .badKey => .invalid "found a key that is no scalar"
  | .noDigits base =>
    .raised (.valueError ("invalid literal for int() with base " ++ toString base ++ ": ''"))
  | .manyDigits count =>
    .raised (.valueError (Decimal.excess (": value has " ++ toString count ++ " digits")))
  | .wideNumber => .raised (.overflow "int too large to convert to float")
  | .noCharacter => .raised (.valueError "chr() arg not in range(0x110000)")
  | .wideCharacter => .raised (.overflow "Python int too large to convert to C int")
  | .malformed m => .raised { kind := "UnicodeDecodeError", message := m.message }

end Fault
end RustOutline.Yaml
