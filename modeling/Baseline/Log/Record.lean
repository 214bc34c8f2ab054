import Baseline.Value

/-!
# Log records

What an operation has to tell about itself: the logger that it speaks through, how grave the
matter is, a fixed message, and named fields with the particulars.
-/

set_option autoImplicit false

namespace Baseline

/-- How grave a record is, as a number. -/
abbrev Level := Int

namespace Level

def debug : Level := 10
def info : Level := 20
def warning : Level := 30
def error : Level := 40
def critical : Level := 50

end Level

/-- One record. -/
structure LogRecord where
  logger : String
  level : Level
  message : String
  fields : List (String × Value)

end Baseline
