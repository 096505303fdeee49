import DistLock.Config.Value

/-!
# Errors of settings

Why settings could not be loaded: the file is missing, of an unknown kind or
cannot be read, or a value does not have the type of its setting.
-/

namespace DistLock

inductive ConfigError where
  /-- A field that must be there is missing. -/
  | missingField (key : String)
  /-- A value of another type than its setting, and where it comes from. -/
  | wrongType (mismatch : Mismatch) (key : String) (origin : Option String)
  /-- A file that exists has no known kind. -/
  | unknownFormat (path : String)
  /-- There is no such file, whatever kind is appended to its name. -/
  | fileNotFound (path : String)
  /-- The text of a file cannot be read. -/
  | malformedFile
  | other (message : String)
  deriving DecidableEq, Repr

def ConfigError.message : ConfigError → String
  | .missingField key => "missing configuration field " ++ Text.Quoted.quote key
  | .wrongType mismatch key origin =>
    "invalid type: " ++ mismatch.found.describe ++ ", expected " ++ mismatch.expected
      ++ " for key `" ++ key ++ "`" ++ origin.elim "" (" in " ++ ·)
  | .unknownFormat path =>
    "configuration file \"" ++ path ++ "\" is not of a supported file format"
  | .fileNotFound path => "configuration file \"" ++ path ++ "\" not found"
  | .malformedFile => "malformed configuration file"
  | .other message => message

end DistLock
