-- Why a computation on well-formed input has no answer.

namespace MomentInsights

/-- The closed sets of values that a record may name. -/
inductive Vocabulary where
  | eventCategory
  | behaviorCategory
  | signalType
  | actionKind
  | historyType
  | window
  | priority
  deriving DecidableEq, Repr

inductive Failure where
  /-- A time outside the years 1 to 9999. -/
  | dateOutOfRange
  /-- The quotient of two whole numbers is past the largest binary64 value. -/
  | quotientTooLarge
  /-- A whole number over zero. -/
  | divisionByZero
  /-- A binary value over zero. -/
  | realDivisionByZero
  /-- A duration of more than 999999999 days. -/
  | durationTooLong (days : Int)
  /-- A duration whose number of days does not fit 32 bits. -/
  | dayCountTooLarge
  /-- An infinite value where a whole number is needed. -/
  | infiniteNumber
  /-- NaN where a whole number is needed. -/
  | notANumber
  /-- A time that callers may not ask about. -/
  | unsupportedTime (shown : String) (bounds : Option (String × String))
  /-- A value outside its vocabulary, as it is shown. -/
  | unknownName (vocabulary : Vocabulary) (shown : String)
  /-- A number of seconds whose year does not fit 32 bits. -/
  | clockOverflow
  /-- The time between a clock with an offset and one without. -/
  | mixedClocks
  /-- A value that nests too deep to be shown in a message. -/
  | tooDeepToShow
  deriving DecidableEq, Repr

namespace Vocabulary

/-- The name of the vocabulary in messages. -/
def name : Vocabulary → String
  | eventCategory => "EventCategory"
  | behaviorCategory => "BehaviorCategory"
  | signalType => "SignalType"
  | actionKind => "CTAKind"
  | historyType => "HistoryTypeFilter"
  | window => "AnalysisWindow"
  | priority => "CardPriority"

end Vocabulary

namespace Failure

def message : Failure → String
  | dateOutOfRange => "date value out of range"
  | quotientTooLarge => "integer division result too large for a float"
  | divisionByZero => "division by zero"
  | realDivisionByZero => "float division by zero"
  | durationTooLong days => s!"days={days}; must have magnitude <= 999999999"
  | dayCountTooLarge => "day count does not fit 32 bits"
  | infiniteNumber => "cannot convert float infinity to integer"
  | notANumber => "cannot convert float NaN to integer"
  | unsupportedTime shown none => s!"{shown} is outside the supported time range"
  | unsupportedTime shown (some (first, last)) =>
    s!"{shown} is outside the supported time range [{first}, {last})"
  | unknownName v shown => s!"{shown} is not a valid {v.name}"
  | clockOverflow => "[Errno 75] Value too large for defined data type"
  | mixedClocks => "can't subtract offset-naive and offset-aware datetimes"
  | tooDeepToShow => "maximum recursion depth exceeded while getting the repr of an object"

end Failure

end MomentInsights
