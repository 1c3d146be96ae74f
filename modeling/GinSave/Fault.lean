import GinSave.Text.Quoted

/-!
Why an operation of this library stops. Each fault names its cause and carries what its message
needs; `Fault.message` writes the message and `Fault.category` sorts the faults into the classes
that callers tell apart (a bad value, a bad type, a missing attribute, a bad index, …).

A document that does not fit the save schema gives one fault holding every `Issue` found: where
in the document it lies, its code, its message and its context.
-/

namespace GinSave

open GinSave.Text

/-- One way a document fails the schema: the path to the offending part, a dotted code, the
message, and named context values already written as text. -/
structure Issue where
  loc : List String
  code : String
  msg : String
  ctx : List (String × String) := []
  deriving Repr, Inhabited

/-- The classes of faults that callers tell apart. -/
inductive FaultCategory where
  | badValue | badType | noAttribute | badIndex | missingKey | badEncoding | badLayout
  | aborted | invalid | overflow | osError | notFound | isDirectory | alreadyExists
  | permission | notADirectory | markup
  deriving Repr, DecidableEq

/-- The name a fault of a class is reported under. -/
def FaultCategory.className : FaultCategory → String
  | .badValue => "ValueError" | .badType => "TypeError" | .noAttribute => "AttributeError"
  | .badIndex => "IndexError" | .missingKey => "KeyError" | .badEncoding => "UnicodeDecodeError"
  | .badLayout => "error" | .aborted => "Abort" | .invalid => "ValidationError"
  | .overflow => "OverflowError" | .osError => "OSError" | .notFound => "FileNotFoundError"
  | .isDirectory => "IsADirectoryError" | .alreadyExists => "FileExistsError"
  | .permission => "PermissionError" | .notADirectory => "NotADirectoryError"
  | .markup => "MarkupError"

/-- Why an operation stops. -/
inductive Fault where
  /-- A value splits into fewer parts than it must. -/
  | tooFewParts (expected got : Nat)
  /-- A text is no integer. -/
  | intText (text : String)
  /-- An integer text or value has more digits than are converted. -/
  | tooManyDigits (count : Nat)
  /-- An integer has more digits than are written. -/
  | intTooLongToWrite
  /-- A text is no real number. -/
  | floatText (text : String)
  /-- A word is not in a vocabulary; `shown` is the word's display. -/
  | notInVocabulary (vocabulary shown : String)
  /-- A constructor is called without some of its arguments. -/
  | missingArguments (callee : String) (names : List String)
  /-- A constructor is called with more arguments than it takes (counting the record). -/
  | tooManyArguments (callee : String) (takes given : Nat)
  /-- An argument is given twice. -/
  | repeatedArgument (callee : String) (name : String)
  /-- A keyword argument is given that the callee does not take. -/
  | unexpectedKeyword (callee : String) (name : String)
  /-- A node has no attribute of that name. -/
  | noAttribute (typeName attr : String)
  /-- A node cannot be indexed. -/
  | notSubscriptable (typeName : String)
  /-- An index lies outside a list or a text. -/
  | indexOutOfRange (container : String)
  /-- An assignment's index lies outside its list. -/
  | assignmentOutOfRange
  /-- A record has no field of that name. -/
  | noField (kind field : String)
  /-- A vocabulary word's attribute cannot be set. -/
  | readOnlyAttribute (vocabulary attr : String)
  /-- Keyword names must be texts. -/
  | keywordsNotText
  /-- A document does not fit the schema of `model`. -/
  | invalid (model : String) (issues : List Issue)
  /-- A number does not fit where it must go. -/
  | overflow (message : String)
  /-- Bytes are not UTF-8: the first bad byte(s) `start … stop` and the reason. -/
  | badUtf8 (bytes : List Nat) (start stop : Nat) (reason : String)
  /-- A byte layout asks for more bytes than there are. -/
  | shortBuffer (size : Nat)
  /-- The operation was given up; it has no message. -/
  | aborted
  /-- A file system operation failed, with its error number and path. -/
  | os (category : FaultCategory) (errno : Nat) (reason : String) (path : Option String)
  /-- A file is missing, with no further message. -/
  | missingFile
  /-- A key is missing from a mapping; `shown` is its display. -/
  | missingKey (shown : String)
  /-- A value is out of the range an operation accepts. -/
  | outOfRange (message : String)
  /-- A setting of that name does not exist; it has no message. -/
  | noSetting (key : String)
  /-- Console markup closes a tag that is not open. -/
  | unbalancedMarkup (message : String)
  /-- A program to run is not installed; `shown` is the display of its name. -/
  | noProgram (shown : String)
  deriving Inhabited

namespace Fault

/-- The words for a count of arguments. -/
def argumentWord (n : Nat) : String :=
  if n == 1 then "argument" else "arguments"

/-- Names in quotes, as a sentence lists them: `'a'`, `'a' and 'b'`, `'a', 'b', and 'c'`. -/
def listNames (names : List String) : String :=
  let qs := names.map fun n => "'" ++ n ++ "'"
  match qs with
  | [] => ""
  | [a] => a
  | [a, b] => a ++ " and " ++ b
  | _ => ", ".intercalate qs.dropLast ++ ", and " ++ qs.getLast!

/-- The decimal text of a count. -/
def count (n : Nat) : String :=
  String.ofList (Nat.toDigits 10 n)

/-- The class of a fault. -/
def category : Fault → FaultCategory
  | tooFewParts .. | intText _ | tooManyDigits _ | intTooLongToWrite | floatText _
  | notInVocabulary .. | noField .. | outOfRange _ => .badValue
  | missingArguments .. | tooManyArguments .. | repeatedArgument .. | unexpectedKeyword ..
  | notSubscriptable _ | keywordsNotText => .badType
  | noAttribute .. | readOnlyAttribute .. | noSetting _ => .noAttribute
  | indexOutOfRange _ | assignmentOutOfRange => .badIndex
  | invalid .. => .invalid
  | overflow _ => .overflow
  | badUtf8 .. => .badEncoding
  | shortBuffer _ => .badLayout
  | aborted => .aborted
  | os c .. => c
  | missingFile | noProgram _ => .notFound
  | missingKey _ => .missingKey
  | unbalancedMarkup _ => .markup

/-- The lines that list the issues of a document: each issue's path joined by arrows, then its
message with its code and context. -/
def issueLines (issues : List Issue) : String :=
  "\n".intercalate (issues.map fun i =>
    " -> ".intercalate i.loc ++ "\n  " ++ i.msg ++ " (type=" ++ i.code ++
      String.join (i.ctx.map fun (k, v) => "; " ++ k ++ "=" ++ v) ++ ")")

/-- The message of a fault. -/
def message : Fault → String
  | tooFewParts e g =>
    "not enough values to unpack (expected " ++ count e ++ ", got " ++ count g ++ ")"
  | intText t => "invalid literal for int() with base 10: " ++ String.ofList ((quote t).toList.take 200)
  | tooManyDigits n =>
    "Exceeds the limit (4300 digits) for integer string conversion: value has " ++ count n ++
      " digits; use sys.set_int_max_str_digits() to increase the limit"
  | intTooLongToWrite =>
    "Exceeds the limit (4300 digits) for integer string conversion; " ++
      "use sys.set_int_max_str_digits() to increase the limit"
  | floatText t => "could not convert string to float: " ++ quote t
  | notInVocabulary v s => s ++ " is not a valid " ++ v
  | missingArguments c names =>
    c ++ " missing " ++ count names.length ++ " required positional " ++
      argumentWord names.length ++ ": " ++ listNames names
  | tooManyArguments c takes given =>
    c ++ " takes " ++ count takes ++ " positional " ++ argumentWord takes ++ " but " ++
      count given ++ (if given == 1 then " was given" else " were given")
  | repeatedArgument c n => c ++ " got multiple values for argument '" ++ n ++ "'"
  | unexpectedKeyword c n => c ++ " got an unexpected keyword argument '" ++ n ++ "'"
  | noAttribute t a => "'" ++ t ++ "' object has no attribute '" ++ a ++ "'"
  | notSubscriptable t => "'" ++ t ++ "' object is not subscriptable"
  | indexOutOfRange c => c ++ " index out of range"
  | assignmentOutOfRange => "list assignment index out of range"
  | noField k f => "\"" ++ k ++ "\" object has no field \"" ++ f ++ "\""
  | readOnlyAttribute v a => "<enum '" ++ v ++ "'> cannot set attribute '" ++ a ++ "'"
  | keywordsNotText => "keywords must be strings"
  | invalid model issues =>
    count issues.length ++ " validation error" ++ (if issues.length == 1 then "" else "s") ++
      " for " ++ model ++ "\n" ++ issueLines issues
  | overflow m => m
  | badUtf8 bytes start stop reason =>
    if stop == start + 1 then
      "'utf-8' codec can't decode byte 0x" ++ hexDigits 2 (bytes.getD start 0) ++
        " in position " ++ count start ++ ": " ++ reason
    else
      "'utf-8' codec can't decode bytes in position " ++ count start ++ "-" ++
        count (stop - 1) ++ ": " ++ reason
  | shortBuffer n => "unpack requires a buffer of " ++ count n ++ " bytes"
  | aborted => ""
  | os _ errno reason path =>
    "[Errno " ++ count errno ++ "] " ++ reason ++
      (match path with | some p => ": " ++ quote p | none => "")
  | missingFile => ""
  | missingKey s => s
  | outOfRange m => m
  | noSetting _ => ""
  | unbalancedMarkup m => m
  | noProgram shown => "[Errno 2] No such file or directory: " ++ shown

end Fault

end GinSave
