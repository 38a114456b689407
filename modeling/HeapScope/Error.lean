import HeapScope.Text.Numeral

/-!
# Errors

An inspection fails for one of four causes and a registration for one of two. A crash is no error
but an arithmetic operation without a result, or a fault inside a host's own formatter; it ends the
operation it happens in unless that operation runs under guard.
-/

namespace HeapScope

/-- Why a value could not be inspected. -/
inductive InspectionError where
  | inaccessible (address : UInt64) (reason : String)
  | malformed (message : String)
  | unknownType (tag : UInt64)
  | runtimeNotLoaded
deriving DecidableEq, Repr

/-- The wording of an inspection error. -/
def InspectionError.message : InspectionError → String
  | .inaccessible address reason =>
    "Cannot access memory at " ++ Text.hex address ++ ": " ++ reason
  | .malformed message => "Malformed value: " ++ message
  | .unknownType tag => "Unknown runtime type tag " ++ Text.hex tag
  | .runtimeNotLoaded => "Kotlin/Native runtime is not loaded"

/-- Why a plugin or a formatter was not registered. -/
inductive RegistrationError where
  | duplicatePlugin (name : String)
  | badPattern (pattern reason : String)
deriving DecidableEq, Repr

/-- The wording of a registration error. -/
def RegistrationError.message : RegistrationError → String
  | .duplicatePlugin name => "Plugin '" ++ name ++ "' is already registered for another language"
  | .badPattern pattern reason => "Invalid type pattern '" ++ pattern ++ "': " ++ reason

/-- Why an operation ended without a result. -/
inductive Crash where
  | addOverflow
  | mulOverflow
  | zeroDivisor
  | raised (message : String)
deriving DecidableEq, Repr

/-- The wording of a crash. -/
def Crash.message : Crash → String
  | .addOverflow => "attempt to add with overflow"
  | .mulOverflow => "attempt to multiply with overflow"
  | .zeroDivisor => "attempt to calculate the remainder with a divisor of zero"
  | .raised message => message

/-- The sum of two addresses, if it fits 64 bits. -/
def addExact (a b : UInt64) : Except Crash UInt64 :=
  if a.toNat + b.toNat < UInt64.size then .ok (a + b) else .error .addOverflow

/-- The product of two offsets, if it fits 64 bits. -/
def mulExact (a b : UInt64) : Except Crash UInt64 :=
  if a.toNat * b.toNat < UInt64.size then .ok (a * b) else .error .mulOverflow

/-- The remainder of a division, if the divisor is not zero. -/
def modExact (a b : UInt64) : Except Crash UInt64 :=
  if b = 0 then .error .zeroDivisor else .ok (a % b)

end HeapScope
