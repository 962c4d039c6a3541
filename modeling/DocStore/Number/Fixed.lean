/-!
# Integers of fixed size

Which integers fit into a number of bits, with and without a sign.
-/

namespace DocStore.Fixed

/-- The integer as one of 16 bits, if it fits. -/
def int16? (n : Int) : Option Int16 :=
  if -32768 ≤ n ∧ n ≤ 32767 then some (Int16.ofInt n) else none

/-- The integer as one of 8 bits without a sign, if it fits. -/
def uint8? (n : Int) : Option UInt8 :=
  if 0 ≤ n ∧ n ≤ 255 then some (UInt8.ofNat n.toNat) else none

/-- The integer as one of 32 bits, if it fits. -/
def int32? (n : Int) : Option Int32 :=
  if -2147483648 ≤ n ∧ n ≤ 2147483647 then some (Int32.ofInt n) else none

/-- The integer as one of 64 bits, if it fits. -/
def int64? (n : Int) : Option Int64 :=
  if -9223372036854775808 ≤ n ∧ n ≤ 9223372036854775807 then some (Int64.ofInt n) else none

/-- The integer as one of 32 bits without a sign, if it fits. -/
def uint32? (n : Int) : Option UInt32 :=
  if 0 ≤ n ∧ n ≤ 4294967295 then some (UInt32.ofNat n.toNat) else none

/-- The integer as one of 64 bits without a sign, if it fits. -/
def uint64? (n : Int) : Option UInt64 :=
  if 0 ≤ n ∧ n ≤ 18446744073709551615 then some (UInt64.ofNat n.toNat) else none

end DocStore.Fixed
