import BeaconCheck.Text.Quoted
import BeaconCheck.Text.Utf8

/-!
# Crashes

Failures that no layer expects: an arithmetic conversion without a result, a value
that cannot be written, a text that cannot be encoded, a malformed scalar of an
explicit type. They pass through
every handler that looks for the errors of its own layer, and end what is running.

`Crash.kind` is the class of the failure and `Crash.message` its text; both are
shown to the user.
-/

namespace BeaconCheck

/-- What is wrong with a written calendar date or time. -/
inductive CalendarProblem where
  | year (year : Nat)
  | month
  | day
  | hour
  | minute
  | second
  | offset (minutes : Int)
deriving DecidableEq, Repr, Inhabited

/-- What a path names when a file was asked for. -/
inductive PathProblem where
  | missing
  | directory
  | notDirectory
  | nameTooLong
deriving DecidableEq, Repr, Inhabited

/-- A failure that no layer expects. -/
inductive Crash where
  /-- Not-a-number has no integer part. -/
  | nanToInteger
  /-- An infinity has no integer part. -/
  | infinityToInteger
  /-- The integer is beyond the largest finite number. -/
  | integerTooLarge
  /-- The quotient of two integers is beyond the largest finite number. -/
  | quotientTooLarge
  /-- A repetition count of a pattern is too large. -/
  | repetitionTooLarge
  /-- A pattern asks for ASCII and for all letters. -/
  | incompatiblePatternFlags
  /-- The text is no number. -/
  | notANumber (text : Text)
  /-- The text is no integer in the base. -/
  | notAnInteger (base : Nat) (text : Text)
  /-- An integer has too many decimal digits to be written. -/
  | tooLongToWrite
  /-- An integer has too many decimal digits to be read. -/
  | tooLongToRead (digits : Nat)
  /-- The value has no JSON form; the text names its type. -/
  | notWritable (typeName : String)
  /-- The key of an object has no JSON form; the text names its type. -/
  | notWritableKey (typeName : String)
  /-- A value contains itself. -/
  | circular
  /-- An infinity or not-a-number in strict JSON. -/
  | notFinite
  /-- Bytes that are not UTF-8. -/
  | undecodable (fault : Utf8.Fault)
  /-- A text that holds a half of a surrogate pair has no bytes. -/
  | unencodable (halves : Utf8.Unpaired)
  /-- A date or time that is not in the calendar. -/
  | calendar (problem : CalendarProblem)
  /-- A text that is no date or time. -/
  | notATimestamp
  /-- A date or time is looked for in a collection instead of a text. -/
  | timeOfCollection
  /-- A text that is no truth value; the text is in lower case. -/
  | notABoolean (text : Text)
  /-- A numeral without a character. -/
  | emptyNumeral
  /-- An escaped code point beyond the last one. -/
  | codePointTooLarge (fitsWord : Bool)
  /-- A page was used before the browser was started; the text names the use. -/
  | noPage (operation : String)
  /-- A file could not be written. -/
  | unwritable (problem : PathProblem) (path : String)
  /-- A path holds the null character. -/
  | nullInPath
deriving DecidableEq, Repr, Inhabited

namespace CalendarProblem

/-- The text of an offset as days and seconds, the days counted downward. -/
def offsetText (minutes : Int) : String :=
  let days := Int.fdiv minutes 1440
  let seconds := Int.fmod minutes 1440 * 60
  let parts :=
    (if days = 0 then [] else [s!"days={days}"]) ++
    (if seconds = 0 then [] else [s!"seconds={seconds}"])
  "datetime.timedelta(" ++ ", ".intercalate (if parts.isEmpty then ["0"] else parts) ++ ")"

def message : CalendarProblem → String
  | .year y => s!"year {y} is out of range"
  | .month => "month must be in 1..12"
  | .day => "day is out of range for month"
  | .hour => "hour must be in 0..23"
  | .minute => "minute must be in 0..59"
  | .second => "second must be in 0..59"
  | .offset minutes =>
    "offset must be a timedelta strictly between -timedelta(hours=24) and " ++
      s!"timedelta(hours=24), not {offsetText minutes}."

end CalendarProblem

namespace Crash

/-- The class of the failure. -/
def kind : Crash → String
  | .nanToInteger | .notANumber _ | .notAnInteger .. | .tooLongToWrite | .tooLongToRead _
  | .circular | .notFinite | .calendar _ | .nullInPath | .incompatiblePatternFlags =>
    "ValueError"
  | .infinityToInteger | .integerTooLarge | .quotientTooLarge | .repetitionTooLarge =>
    "OverflowError"
  | .notWritable _ | .notWritableKey _ | .timeOfCollection => "TypeError"
  | .undecodable _ => "UnicodeDecodeError"
  | .unencodable _ => "UnicodeEncodeError"
  | .notATimestamp | .noPage _ => "AttributeError"
  | .notABoolean _ => "KeyError"
  | .emptyNumeral => "IndexError"
  | .codePointTooLarge fitsWord => if fitsWord then "ValueError" else "OverflowError"
  | .unwritable .missing _ => "FileNotFoundError"
  | .unwritable .directory _ => "IsADirectoryError"
  | .unwritable .notDirectory _ => "NotADirectoryError"
  | .unwritable .nameTooLong _ => "OSError"

/-- The text of the failure. -/
def message : Crash → String
  | .nanToInteger => "cannot convert float NaN to integer"
  | .infinityToInteger => "cannot convert float infinity to integer"
  | .integerTooLarge => "int too large to convert to float"
  | .quotientTooLarge => "integer division result too large for a float"
  | .repetitionTooLarge => "the repetition number is too large"
  | .incompatiblePatternFlags => "ASCII and UNICODE flags are incompatible"
  | .notANumber text => s!"could not convert string to float: {quoted text}"
  | .notAnInteger base text =>
    s!"invalid literal for int() with base {base}: " ++
      String.ofList ((quoted text).toList.take 200)
  | .tooLongToWrite =>
    "Exceeds the limit (4300 digits) for integer string conversion; " ++
      "use sys.set_int_max_str_digits() to increase the limit"
  | .tooLongToRead digits =>
    "Exceeds the limit (4300 digits) for integer string conversion: value has " ++
      s!"{digits} digits; use sys.set_int_max_str_digits() to increase the limit"
  | .notWritable typeName => s!"Object of type {typeName} is not JSON serializable"
  | .notWritableKey typeName =>
    s!"keys must be str, int, float, bool or None, not {typeName}"
  | .circular => "Circular reference detected"
  | .notFinite => "Out of range float values are not JSON compliant"
  | .undecodable fault => fault.message
  | .unencodable halves => halves.message
  | .calendar problem => problem.message
  | .notATimestamp => "'NoneType' object has no attribute 'groupdict'"
  | .timeOfCollection => "expected string or bytes-like object, got 'list'"
  | .notABoolean text => quoted text
  | .emptyNumeral => "string index out of range"
  | .codePointTooLarge fitsWord =>
    if fitsWord then "chr() arg not in range(0x110000)"
    else "Python int too large to convert to C int"
  | .noPage operation => s!"'NoneType' object has no attribute '{operation}'"
  | .unwritable .missing path => s!"[Errno 2] No such file or directory: {quoted path}"
  | .unwritable .directory path => s!"[Errno 21] Is a directory: {quoted path}"
  | .unwritable .notDirectory path => s!"[Errno 20] Not a directory: {quoted path}"
  | .unwritable .nameTooLong path => s!"[Errno 36] File name too long: {quoted path}"
  | .nullInPath => "embedded null byte"

end Crash

end BeaconCheck
