import Baseline.FileTree.Error

/-!
# Faults

Failures that are not reports of the collector itself: a value that cannot be converted, two
values without an order, a template that does not fit its arguments, a refused file operation,
a device that could not be read.  Each constructor is a cause; `Fault.message` words all of
them, and `Fault.category` sorts them.
-/

set_option autoImplicit false

namespace Baseline

/-- The sorts of faults. -/
inductive FaultCategory where
  | value
  | type
  | overflow
  | member
  | key
  | index
  | recursion
  | arithmetic
  | unsupported
  | missingFile
  | file (cause : FileErrorCause)
  | markup
  | encoding
  | device (name : String)
deriving DecidableEq, Repr

/-- The cause of a failure outside the collector's own reports.  Texts called `shown` are
already quoted for display, and a `kind` is the name of a value's type. -/
inductive Fault where
  -- numbers
  | notANumber (shown : String)
  | notReal (kind : String)
  | tooLargeForDouble
  | nanToInteger
  | infinityToInteger
  | decimalNanToInteger
  | decimalInfinityToInteger
  | signalingNan
  | integerTooLong
  | integerTextTooLong (digits : Nat)
  | badInteger (base : Nat) (shown : String)
  | invalidComparison
  -- values
  | nestedTooDeep
  | nodesTooDeep
  | unordered (operator left right : String)
  | unsupportedOperands (operator left right : String)
  | unhashable (kind : String)
  | noMember (kind member : String)
  | notCallable (kind : String)
  | notSubscriptable (kind : String)
  | outOfRange (wording : String)
  | unnamable (kind : String)
  | noGroups
  | notText (kind : String)
  | missingKey (shown : String)
  | emptyText
  | codePointTooLarge (code : Nat)
  | keywordsNotText
  -- calendar
  | badCalendar (wording : String)
  -- templates
  | tooFewArguments
  | tooManyArguments
  | unsupportedFormat (char : Char) (position : Nat)
  | incompleteFormat
  | incompleteFormatKey
  | mappingRequired
  | starWantsInteger
  | numberRequired (char : Char) (kind : String)
  | integerRequired (char : Char) (kind : String)
  | realRequired (kind : String)
  | characterRequired
  | characterOutOfRange
  | precisionTooLarge
  | widthTooLarge
  | amountTooLarge (wide : Bool)
  -- logging
  | unknownLevel (shown : String)
  | levelNotNumber (shown : String)
  | reservedField (name : String)
  -- files
  | file (error : FileError)
  | embeddedNull
  | badPattern (wording : String)
  | absolutePattern
  | configMissing (path : String)
  | badUtf8 (wording : String)
  -- markup
  | markup
  -- devices
  | device (name wording : String)
deriving DecidableEq, Repr

namespace Fault

/-- The sort of a fault. -/
def category : Fault → FaultCategory
  | notANumber _ | nanToInteger | decimalNanToInteger | signalingNan | integerTooLong
  | integerTextTooLong _
  | badInteger _ _ | badCalendar _ | unsupportedFormat _ _ | incompleteFormat
  | incompleteFormatKey | precisionTooLarge | widthTooLarge | unknownLevel _ | embeddedNull
  | badPattern _ => .value
  | notReal _ | unordered _ _ _ | unsupportedOperands _ _ _ | unhashable _ | keywordsNotText
  | tooFewArguments | tooManyArguments | mappingRequired | starWantsInteger
  | numberRequired _ _ | integerRequired _ _ | realRequired _ | characterRequired | notText _
  | levelNotNumber _ | notCallable _ | notSubscriptable _
  | unnamable _ => .type
  | tooLargeForDouble | infinityToInteger | decimalInfinityToInteger | characterOutOfRange
  | amountTooLarge _ => .overflow
  | invalidComparison => .arithmetic
  | nestedTooDeep | nodesTooDeep => .recursion
  | noMember _ _ | noGroups => .member
  | missingKey _ | reservedField _ => .key
  | codePointTooLarge code => if code < 0x80000000 then .value else .overflow
  | emptyText | outOfRange _ => .index
  | absolutePattern => .unsupported
  | configMissing _ => .missingFile
  | file e => .file e.cause
  | badUtf8 _ => .encoding
  | markup => .markup
  | device name _ => .device name

private def number (n : Nat) : String := String.ofList (natChars n)

/-- The wording of a fault. -/
def message : Fault → String
  | notANumber shown => "could not convert string to float: " ++ shown
  | notReal kind => "float() argument must be a string or a real number, not '" ++ kind ++ "'"
  | tooLargeForDouble => "int too large to convert to float"
  | nanToInteger => "cannot convert float NaN to integer"
  | infinityToInteger => "cannot convert float infinity to integer"
  | decimalNanToInteger => "cannot convert NaN to integer"
  | decimalInfinityToInteger => "cannot convert Infinity to integer"
  | signalingNan => "cannot convert signaling NaN to float"
  | integerTooLong =>
    "Exceeds the limit (4300 digits) for integer string conversion; " ++
      "use sys.set_int_max_str_digits() to increase the limit"
  | integerTextTooLong digits =>
    "Exceeds the limit (4300 digits) for integer string conversion: value has " ++
      number digits ++ " digits; use sys.set_int_max_str_digits() to increase the limit"
  | badInteger base shown =>
    "invalid literal for int() with base " ++ number base ++ ": " ++ shown
  | invalidComparison => "[<class 'decimal.InvalidOperation'>]"
  | nestedTooDeep => "maximum recursion depth exceeded while getting the repr of an object"
  | nodesTooDeep => "maximum recursion depth exceeded"
  | unordered operator left right =>
    "'" ++ operator ++ "' not supported between instances of '" ++ left ++ "' and '" ++
      right ++ "'"
  | unsupportedOperands operator left right =>
    "unsupported operand type(s) for " ++ operator ++ ": '" ++ left ++ "' and '" ++ right ++ "'"
  | unhashable kind => "unhashable type: '" ++ kind ++ "'"
  | noMember kind member =>
    "'" ++ kind ++ "' object has no attribute '" ++ member ++ "'"
  | notCallable kind => "'" ++ kind ++ "' object is not callable"
  | notSubscriptable kind => "'" ++ kind ++ "' object is not subscriptable"
  | outOfRange wording => wording
  | unnamable kind => "keys must be str, int, float, bool or None, not " ++ kind
  | noGroups => "'NoneType' object has no attribute 'groupdict'"
  | notText kind => "expected string or bytes-like object, got '" ++ kind ++ "'"
  | missingKey shown => shown
  | emptyText => "string index out of range"
  | codePointTooLarge code =>
    if code < 0x80000000 then "chr() arg not in range(0x110000)"
    else "Python int too large to convert to C int"
  | keywordsNotText => "keywords must be strings"
  | badCalendar wording => wording
  | tooFewArguments => "not enough arguments for format string"
  | tooManyArguments => "not all arguments converted during string formatting"
  | unsupportedFormat char position =>
    let shown := if 31 ≤ char.toNat ∧ char.toNat < 127 then char else '?'
    "unsupported format character '" ++ String.singleton shown ++ "' (0x" ++
      String.ofList (Nat.toDigits 16 char.toNat) ++ ") at index " ++ number position
  | incompleteFormat => "incomplete format"
  | incompleteFormatKey => "incomplete format key"
  | mappingRequired => "format requires a mapping"
  | starWantsInteger => "* wants int"
  | numberRequired char kind =>
    "%" ++ String.singleton char ++ " format: a real number is required, not " ++ kind
  | integerRequired char kind =>
    "%" ++ String.singleton char ++ " format: an integer is required, not " ++ kind
  | realRequired kind => "must be real number, not " ++ kind
  | characterRequired => "%c requires int or char"
  | characterOutOfRange => "%c arg not in range(0x110000)"
  | precisionTooLarge => "precision too big"
  | widthTooLarge => "width too big"
  | amountTooLarge wide =>
    "Python int too large to convert to C " ++ (if wide then "ssize_t" else "int")
  | unknownLevel shown => "Unknown level: " ++ shown
  | levelNotNumber shown => "Level not an integer or a valid string: " ++ shown
  | reservedField name =>
    Text.quoted ("Attempt to overwrite " ++ Text.quoted name ++ " in LogRecord")
  | file e => e.message
  | embeddedNull => "embedded null byte"
  | badPattern wording => wording
  | absolutePattern => "Non-relative patterns are unsupported"
  | configMissing path => "Configuration file not found: " ++ path
  | badUtf8 wording => wording
  | markup => ""
  | device _ wording => wording

end Fault

/-! ## Steps that can fail -/

/-- What a step gives when it goes on from another. -/
theorem bind_eq_ok {ε α β : Type} {x : Except ε α} {f : α → Except ε β} {b : β}
    (h : x >>= f = .ok b) : ∃ a, x = .ok a ∧ f a = .ok b := by
  cases x with
  | error e => cases h
  | ok a => exact ⟨a, rfl, h⟩

theorem bind_of_ok {ε α β : Type} {x : Except ε α} {a : α} (h : x = .ok a)
    (f : α → Except ε β) : x >>= f = f a := by
  rw [h]
  rfl

end Baseline
