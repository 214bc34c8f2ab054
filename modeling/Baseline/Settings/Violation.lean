/-!
# Violations of the settings' schema

Where a configured value does not fit its field, and why.
-/

set_option autoImplicit false

namespace Baseline

/-- Why a value does not fit its field. -/
inductive ViolationCause where
  | integerType
  | integerText
  | integerTextTooLong
  | integerFraction
  | notFinite
  | notPositive
  | aboveDay
  | booleanType
  | booleanWord
  | textType
  | textEncoding
  | sectionType (schema : String)
  | unknownLevel (level : String)
deriving DecidableEq, Repr

/-- The levels that may be configured, in alphabetical order. -/
def levelWords : List String := ["critical", "debug", "error", "info", "warn", "warning"]

namespace ViolationCause

/-- The short name of a cause. -/
def tag : ViolationCause → String
  | integerType => "int_type"
  | integerText => "int_parsing"
  | integerTextTooLong => "int_parsing_size"
  | integerFraction => "int_from_float"
  | notFinite => "finite_number"
  | notPositive => "greater_than"
  | aboveDay => "less_than_equal"
  | booleanType => "bool_type"
  | booleanWord => "bool_parsing"
  | textType => "string_type"
  | textEncoding => "string_unicode"
  | sectionType _ => "model_type"
  | unknownLevel _ => "value_error"

/-- The wording of a cause. -/
def message : ViolationCause → String
  | integerType => "Input should be a valid integer"
  | integerText => "Input should be a valid integer, unable to parse string as an integer"
  | integerTextTooLong => "Unable to parse input string as an integer, exceeded maximum size"
  | integerFraction => "Input should be a valid integer, got a number with a fractional part"
  | notFinite => "Input should be a finite number"
  | notPositive => "Input should be greater than 0"
  | aboveDay => "Input should be less than or equal to 86400"
  | booleanType => "Input should be a valid boolean"
  | booleanWord => "Input should be a valid boolean, unable to interpret input"
  | textType => "Input should be a valid string"
  | textEncoding => "Input should be a valid string, unable to parse raw data as a unicode string"
  | sectionType schema => "Input should be a valid dictionary or instance of " ++ schema
  | unknownLevel level =>
    "Value error, Invalid log level: " ++ level ++ ". Must be one of: " ++
      String.intercalate ", " levelWords

end ViolationCause

/-- A violation and the path of the field where it occurs. -/
structure Violation where
  path : List String
  cause : ViolationCause
deriving DecidableEq, Repr

end Baseline
