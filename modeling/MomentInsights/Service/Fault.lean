-- What can be wrong with a field of a request, and the words for it.
import MomentInsights.Failure

namespace MomentInsights.Service

/-- Why a text or a number is no time. -/
inductive TimeFlaw where
  | tooShort
  | badYear
  | badSeparator
  | badMonth
  | badDay
  | noSuchMonth
  | noSuchDay
  | leftover
  | yearZero
  | tooEarly
  | tooLate
  | notANumber
  deriving DecidableEq, Repr

def TimeFlaw.message : TimeFlaw → String
  | tooShort => "input is too short"
  | badYear => "invalid character in year"
  | badSeparator => "invalid date separator, expected `-`"
  | badMonth => "invalid character in month"
  | badDay => "invalid character in day"
  | noSuchMonth => "month value is outside expected range of 1-12"
  | noSuchDay => "day value is outside expected range"
  | leftover => "unexpected extra characters at the end of the input"
  | yearZero => "year 0 is out of range"
  | tooEarly => "dates before 0000 are not supported as unix timestamps"
  | tooLate => "dates after 9999 are not supported as unix timestamps"
  | notANumber => "NaN values not permitted"

inductive Fault where
  | missing
  /-- The body is no JSON text. -/
  | notJson
  | notAnObject
  | notAList
  | emptyList
  | listTooLong (most actual : Nat)
  | notText
  /-- A string with half of a surrogate pair. -/
  | notUnicode
  | emptyText
  | textTooLong (most : Nat)
  | blankName
  | notWhole
  | unreadableWhole
  | hasFraction
  | tooManyDigits
  | notANumber
  | unreadableNumber
  | notFinite
  | notAbove (bound : Int)
  | below (bound : Int)
  | above (bound : Int)
  | notBoolean
  | unreadableBoolean
  | notACategory
  | notATime
  | badTime (flaw : TimeFlaw)
  /-- The text is no time, and read as a date it has this flaw. -/
  | badDate (flaw : TimeFlaw)
  /-- A time that callers may not ask about. -/
  | unsupported (f : Failure)
  deriving DecidableEq, Repr

namespace Fault

/-- The kind of the fault, for machines. -/
def kind : Fault → String
  | missing => "missing"
  | notJson => "json_invalid"
  | notAnObject => "model_attributes_type"
  | notAList => "list_type"
  | emptyList => "too_short"
  | listTooLong .. => "too_long"
  | notText => "string_type"
  | notUnicode => "string_unicode"
  | emptyText => "string_too_short"
  | textTooLong _ => "string_too_long"
  | blankName | unsupported _ => "value_error"
  | notWhole => "int_type"
  | unreadableWhole => "int_parsing"
  | hasFraction => "int_from_float"
  | tooManyDigits => "int_parsing_size"
  | notANumber => "float_type"
  | unreadableNumber => "float_parsing"
  | notFinite => "finite_number"
  | notAbove _ => "greater_than"
  | below _ => "greater_than_equal"
  | above _ => "less_than_equal"
  | notBoolean => "bool_type"
  | unreadableBoolean => "bool_parsing"
  | notACategory => "enum"
  | notATime => "datetime_type"
  | badTime _ => "datetime_parsing"
  | badDate _ => "datetime_from_date_parsing"

def message : Fault → String
  | missing => "Field required"
  | notJson => "JSON decode error"
  | notAnObject => "Input should be a valid dictionary or object to extract fields from"
  | notAList => "Input should be a valid list"
  | emptyList => "List should have at least 1 item after validation, not 0"
  | listTooLong most actual =>
    s!"List should have at most {most} items after validation, not {actual}"
  | notText => "Input should be a valid string"
  | notUnicode => "Input should be a valid string, unable to parse raw data as a unicode string"
  | emptyText => "String should have at least 1 character"
  | textTooLong most => s!"String should have at most {most} characters"
  | blankName => "Value error, name must not be empty after stripping whitespace"
  | notWhole => "Input should be a valid integer"
  | unreadableWhole => "Input should be a valid integer, unable to parse string as an integer"
  | hasFraction => "Input should be a valid integer, got a number with a fractional part"
  | tooManyDigits => "Unable to parse input string as an integer, exceeded maximum size"
  | notANumber => "Input should be a valid number"
  | unreadableNumber => "Input should be a valid number, unable to parse string as a number"
  | notFinite => "Input should be a finite number"
  | notAbove bound => s!"Input should be greater than {bound}"
  | below bound => s!"Input should be greater than or equal to {bound}"
  | above bound => s!"Input should be less than or equal to {bound}"
  | notBoolean => "Input should be a valid boolean"
  | unreadableBoolean => "Input should be a valid boolean, unable to interpret input"
  | notACategory => "Input should be 'routine_positive', 'positive' or 'negative'"
  | notATime => "Input should be a valid datetime"
  | badTime flaw => s!"Input should be a valid datetime, {flaw.message}"
  | badDate flaw => s!"Input should be a valid datetime or date, {flaw.message}"
  | unsupported f => s!"Value error, {f.message}"

end Fault

/-- A fault and where it stands: the names and places on the way to it, with
dots between them. -/
structure Problem where
  field : String
  fault : Fault
  deriving DecidableEq, Repr

end MomentInsights.Service
