import Linkcut.Value

/-!
Rejected settings: which value of which name was rejected, and why.
-/

set_option autoImplicit false

namespace Linkcut.Settings

inductive Reason where
  | notText
  | notUnicode
  | notWhole
  | noWholeText
  | tooManyDigits
  | fraction
  | unbounded
  | notFlag
  | noFlagText
  | unknown
  deriving DecidableEq, Repr, Inhabited

namespace Reason

def code : Reason → String
  | notText => "string_type"
  | notUnicode => "string_unicode"
  | notWhole => "int_type"
  | noWholeText => "int_parsing"
  | tooManyDigits => "int_parsing_size"
  | fraction => "int_from_float"
  | unbounded => "finite_number"
  | notFlag => "bool_type"
  | noFlagText => "bool_parsing"
  | unknown => "extra_forbidden"

def message : Reason → String
  | notText => "Input should be a valid string"
  | notUnicode => "Input should be a valid string, unable to parse raw data as a unicode string"
  | notWhole => "Input should be a valid integer"
  | noWholeText => "Input should be a valid integer, unable to parse string as an integer"
  | tooManyDigits => "Unable to parse input string as an integer, exceeded maximum size"
  | fraction => "Input should be a valid integer, got a number with a fractional part"
  | unbounded => "Input should be a finite number"
  | notFlag => "Input should be a valid boolean"
  | noFlagText => "Input should be a valid boolean, unable to interpret input"
  | unknown => "Extra inputs are not permitted"

end Reason

structure Rejection where
  name : String
  reason : Reason
  input : Value
  deriving Repr, Inhabited

end Linkcut.Settings
