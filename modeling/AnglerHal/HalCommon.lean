import Mathlib.Data.Int.Notation

namespace AnglerHal

/-!
# Status codes and conversions

The status codes of the framework that the HAL's functions return, and a
conversion that several of them make.
-/

/-- `NO_ERROR`. -/
def noError : Int :=
  0

/-- `NO_MEMORY`, which is `-ENOMEM`. -/
def noMemory : Int :=
  -12

/-- `BAD_VALUE`, which is `-EINVAL`. -/
def badValue : Int :=
  -22

/-- `INVALID_OPERATION`, which is `-ENOSYS`. -/
def invalidOperation : Int :=
  -38

/-- `UNKNOWN_ERROR`. -/
def unknownError : Int :=
  -2147483648

/-- A conversion to `uint32_t`. -/
def uint32 (number : Int) : Nat :=
  (number % 4294967296).toNat

end AnglerHal
