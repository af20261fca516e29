import Vigil.Text.Utf8

/-!
# Faults

Why an operation has no result. A fault is a cause; the wording of every cause is in one function.
Kinds of data appear in the wording under the names that documents and their readers use for them.
-/

namespace Vigil

/-- A value of a kind that does not support what is asked of it. -/
inductive KindFault where
  /-- No integer can be made from this kind. -/
  | intArgument (kind : String)
  /-- No floating-point number can be made from this kind. -/
  | floatArgument (kind : String)
  /-- This kind has no members at all. -/
  | notSubscriptable (kind : String)
  /-- This kind has members by position, and one was asked for by name. -/
  | positionExpected (kind : String)
  /-- This kind is no collection. -/
  | notIterable (kind : String)
  /-- This kind has no members to look for. -/
  | notContainer (kind : String)
  /-- Two kinds stand in no order. -/
  | unordered (operator left right : String)
  /-- A time with an offset and one without stand in no order. -/
  | mixedOffsets
  /-- A date and a time stand in no order. -/
  | dateAgainstTime (left right : String)
  /-- Two kinds that an operator does not join. -/
  | unsupportedOperands (operator left right : String)
  /-- This kind cannot be written in a number format. -/
  | unformattable (kind : String)
  /-- This kind has no integer part. -/
  | noIntegerPart (kind : String)
  /-- Bytes were expected in the place of text. -/
  | bytesExpected
  /-- Text was expected in the place of bytes. -/
  | textExpected
  /-- No path can be made from this kind. -/
  | pathArgument (kind : String)
  deriving DecidableEq

/-- A value of the right kind that is refused. -/
inductive ValueFault where
  /-- A text that is no duration. -/
  | duration (shown : String)
  /-- A text that is no time in ISO form. -/
  | isoText (shown : String)
  /-- A month that does not exist. -/
  | month
  /-- A day that its month does not have. -/
  | day
  /-- An hour that does not exist. -/
  | hour
  /-- A minute that does not exist. -/
  | minute
  /-- A second that does not exist. -/
  | second
  /-- An offset of a day or more. -/
  | offset (shown : String)
  /-- A year that times cannot have. -/
  | year (number : Int)
  /-- A text that is no integer. -/
  | intText (shown : String)
  /-- A text of too many digits to be read as an integer. -/
  | tooManyDigits (count : Nat)
  /-- An integer of too many digits to be written. -/
  | tooLongToWrite
  /-- A text that is no number. -/
  | floatText (shown : String)
  /-- No integer is nearest to what is not a number. -/
  | nanToInt
  /-- No instant is that of what is not a number. -/
  | nanInstant
  /-- A text that names no member of an enumeration. -/
  | notMember (shown enumeration : String)
  /-- Text in the place of a number to be formatted. -/
  | formatCode (kind : String)
  /-- A check that does not exist. -/
  | unknownCheck (name : String)
  /-- A file name with a null character. -/
  | embeddedNull
  /-- A code point beyond the last one. -/
  | codePoint
  /-- A code point that is half of a character. -/
  | surrogate
  /-- A text that is no integer in a notation of its own. -/
  | basedText (base : Nat) (shown : String)
  /-- Bytes that are no text. -/
  | undecodable (bytes : Text.Undecodable)
  deriving DecidableEq

/-- A result outside the range of its type. -/
inductive RangeFault where
  /-- An infinity in the place of an integer. -/
  | infinityToInt
  /-- An integer beyond the largest floating-point number. -/
  | intToDouble
  /-- A quotient of integers beyond the largest floating-point number. -/
  | quotient
  /-- Seconds that no instant can be counted in. -/
  | instantSeconds
  /-- A time before the first or after the last that can be written. -/
  | date
  /-- Days beyond what durations hold. -/
  | durationDays (days : Int)
  /-- Days beyond what is counted at all. -/
  | dayCount
  /-- A code point beyond what is counted at all. -/
  | codePoint
  deriving DecidableEq

/-- A file that cannot be used. -/
inductive FileFault where
  /-- There is no such file. -/
  | notFound (path : String)
  /-- The path leads to a directory. -/
  | isDirectory (path : String)
  /-- The path goes on through what is no directory. -/
  | notDirectory (path : String)
  /-- The path is taken already. -/
  | exists (path : String)
  /-- There is no configuration of this path. -/
  | noConfiguration (path : String)
  /-- There is no snapshot of this path. -/
  | noSnapshot (path : String)
  /-- A name is longer than names can be. -/
  | tooLong (path : String)
  /-- A year that the calendar of the system does not count. -/
  | calendar
  deriving DecidableEq

/-- Why an operation has no result. -/
inductive Fault where
  /-- A value of the wrong kind. -/
  | kind (cause : KindFault)
  /-- A kind of value without this attribute. -/
  | attribute (owner name : String)
  /-- A mapping without this key. -/
  | missingKey (shown : String)
  /-- A value that is refused. -/
  | value (cause : ValueFault)
  /-- A result out of range. -/
  | range (cause : RangeFault)
  /-- A file that cannot be used. -/
  | file (cause : FileFault)
  /-- A document that is not well-formed. -/
  | document (text : String)
  /-- Data that is nested too deep to be read. -/
  | nesting (text : String)
  /-- A number without a single character. -/
  | emptyNumber
  /-- A home directory that is not known. -/
  | homeless
  /-- A credential that cannot be read. -/
  | credential (text : String)
  /-- Telemetry that cannot be fetched. -/
  | collector (text : String)
  /-- A snapshot file that describes no snapshot. -/
  | snapshot (text : String)
  /-- There is no snapshot to check. -/
  | noData
  /-- A snapshot of another server than the expected one. -/
  | wrongTarget (name : String)
  /-- Styled text that closes a style it did not open. -/
  | markup (text : String)
  /-- A request to an address that is none. -/
  | address (text : String)
  deriving DecidableEq

/-- The wording of a fault of kind. -/
def KindFault.message : KindFault → String
  | .intArgument kind =>
    s!"int() argument must be a string, a bytes-like object or a real number, not '{kind}'"
  | .floatArgument kind => s!"float() argument must be a string or a real number, not '{kind}'"
  | .notSubscriptable kind => s!"'{kind}' object is not subscriptable"
  | .positionExpected "str" => "string indices must be integers, not 'str'"
  | .positionExpected "bytes" => "byte indices must be integers or slices, not str"
  | .positionExpected kind => s!"{kind} indices must be integers or slices, not str"
  | .notIterable kind => s!"'{kind}' object is not iterable"
  | .notContainer kind => s!"argument of type '{kind}' is not iterable"
  | .unordered operator left right =>
    s!"'{operator}' not supported between instances of '{left}' and '{right}'"
  | .mixedOffsets => "can't compare offset-naive and offset-aware datetimes"
  | .dateAgainstTime left right => s!"can't compare {left} to {right}"
  | .unsupportedOperands operator left right =>
    s!"unsupported operand type(s) for {operator}: '{left}' and '{right}'"
  | .unformattable kind => s!"unsupported format string passed to {kind}.__format__"
  | .noIntegerPart kind => s!"type {kind} doesn't define __trunc__ method"
  | .bytesExpected => "endswith first arg must be bytes or a tuple of bytes, not str"
  | .pathArgument kind => s!"expected str, bytes or os.PathLike object, not {kind}"
  | .textExpected => "cannot use a string pattern on a bytes-like object"

/-- The wording of a refused value. -/
def ValueFault.message : ValueFault → String
  | .duration shown => s!"Invalid duration: {shown}"
  | .isoText shown => s!"Invalid isoformat string: {shown}"
  | .month => "month must be in 1..12"
  | .day => "day is out of range for month"
  | .hour => "hour must be in 0..23"
  | .minute => "minute must be in 0..59"
  | .second => "second must be in 0..59"
  | .offset shown =>
    "offset must be a timedelta strictly between -timedelta(hours=24) and timedelta(hours=24), " ++
      s!"not {shown}."
  | .year n => s!"year {n} is out of range"
  | .intText shown => s!"invalid literal for int() with base 10: {shown}"
  | .tooManyDigits count =>
    "Exceeds the limit (4300 digits) for integer string conversion: " ++
      s!"value has {count} digits; use sys.set_int_max_str_digits() to increase the limit"
  | .tooLongToWrite =>
    "Exceeds the limit (4300 digits) for integer string conversion; " ++
      "use sys.set_int_max_str_digits() to increase the limit"
  | .floatText shown => s!"could not convert string to float: {shown}"
  | .nanToInt => "cannot convert float NaN to integer"
  | .nanInstant => "Invalid value NaN (not a number)"
  | .notMember shown enumeration => s!"{shown} is not a valid {enumeration}"
  | .formatCode kind => s!"Unknown format code 'f' for object of type '{kind}'"
  | .unknownCheck name => s!"Unknown check: {name}"
  | .embeddedNull => "embedded null byte"
  | .codePoint => "chr() arg not in range(0x110000)"
  | .surrogate => "surrogates not allowed"
  | .basedText base shown => s!"invalid literal for int() with base {base}: {shown}"
  | .undecodable bytes => bytes.message

/-- The wording of a range fault. -/
def RangeFault.message : RangeFault → String
  | .infinityToInt => "cannot convert float infinity to integer"
  | .intToDouble => "int too large to convert to float"
  | .quotient => "integer division result too large for a float"
  | .instantSeconds => "timestamp out of range for platform time_t"
  | .date => "date value out of range"
  | .durationDays days => s!"days={days}; must have magnitude <= 999999999"
  | .dayCount | .codePoint => "Python int too large to convert to C int"

/-- The wording of a file fault. -/
def FileFault.message : FileFault → String
  | .notFound path => s!"[Errno 2] No such file or directory: {Text.quoted path}"
  | .isDirectory path => s!"[Errno 21] Is a directory: {Text.quoted path}"
  | .notDirectory path => s!"[Errno 20] Not a directory: {Text.quoted path}"
  | .exists path => s!"[Errno 17] File exists: {Text.quoted path}"
  | .noConfiguration path => s!"Config file not found: {path}"
  | .noSnapshot path => s!"Snapshot file not found: {path}"
  | .tooLong path => s!"[Errno 36] File name too long: {Text.quoted path}"
  | .calendar => "[Errno 75] Value too large for defined data type"

/-- Whether a fault is one of what is checked and not of the check: it is reported as a finding. -/
def Fault.isFinding : Fault → Bool
  | .credential _ | .collector _ | .snapshot _ | .noData | .wrongTarget _ => true
  | _ => false

/-- The wording of a fault. -/
def Fault.message : Fault → String
  | .kind cause => cause.message
  | .attribute owner name => s!"'{owner}' object has no attribute '{name}'"
  | .missingKey shown => shown
  | .value cause => cause.message
  | .range cause => cause.message
  | .file cause => cause.message
  | .document text => text
  | .nesting text => text
  | .emptyNumber => "string index out of range"
  | .homeless => "Could not determine home directory."
  | .credential text => text
  | .collector text => text
  | .snapshot text => text
  | .noData => "no data received"
  | .wrongTarget name => s!"result from {name}"
  | .markup text => text
  | .address text => text

end Vigil
