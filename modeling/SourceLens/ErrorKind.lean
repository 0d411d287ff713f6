/-!
# Kinds of errors

Every error that a result reports has one of these kinds. The code is the name under which the
kind leaves the program.
-/
namespace SourceLens

/-- The kind of an error. -/
inductive ErrorKind where
  /-- The file to read does not exist. -/
  | fileNotFound
  /-- The file exists and cannot be read as text. -/
  | readError
  /-- A line number is needed and was not given. -/
  | missingLine
  /-- The file has no line with the given number. -/
  | lineOutOfRange
  /-- A target is needed and was not given. -/
  | missingTarget
  /-- The file holds no entity with the given qualifier. -/
  | targetNotFound
  /-- The text does not follow the grammar. -/
  | unsupportedSyntax
  /-- The text ends inside a construct. -/
  | unclosedConstruct
  /-- The text could not be parsed for another reason. -/
  | unknownParse
  /-- There is no such way to read a file. -/
  | invalidMode
  /-- A request has a missing or mistyped field. -/
  | validation
  /-- The path to search does not exist. -/
  | pathNotFound
  /-- The pattern is not a regular expression. -/
  | invalidPattern
  deriving DecidableEq, Repr

namespace ErrorKind

/-- The name of the kind in results. -/
def code : ErrorKind → String
  | fileNotFound => "FILE_NOT_FOUND"
  | readError => "READ_ERROR"
  | missingLine => "MISSING_LINE"
  | lineOutOfRange => "LINE_OUT_OF_RANGE"
  | missingTarget => "MISSING_TARGET"
  | targetNotFound => "TARGET_NOT_FOUND"
  | unsupportedSyntax => "SYNTAX_UNSUPPORTED"
  | unclosedConstruct => "UNCLOSED_CONSTRUCT"
  | unknownParse => "PARSE_UNKNOWN"
  | invalidMode => "INVALID_MODE"
  | validation => "VALIDATION_ERROR"
  | pathNotFound => "PATH_NOT_FOUND"
  | invalidPattern => "INVALID_PATTERN"

/-- Every kind. -/
def all : List ErrorKind :=
  [fileNotFound, readError, missingLine, lineOutOfRange, missingTarget, targetNotFound,
    unsupportedSyntax, unclosedConstruct, unknownParse, invalidMode, validation, pathNotFound,
    invalidPattern]

/-- The kind with a code. -/
def ofCode? (code : String) : Option ErrorKind := all.find? (·.code == code)

/-- The advice to read the file without parsing it. -/
def fullModeHint : String := "Try using mode='full' to read the entire file without parsing."

/-- The advice after a failure to parse; kinds that parsing does not produce have the general
one. -/
def parseHint : ErrorKind → String
  | unsupportedSyntax =>
    "File may contain syntax errors or use unsupported language features. " ++
      "Try using mode='full' instead."
  | unclosedConstruct => "File appears to have unclosed brackets or strings. Check file syntax."
  | _ => fullModeHint

end ErrorKind

end SourceLens
