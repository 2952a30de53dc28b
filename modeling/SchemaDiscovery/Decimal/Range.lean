/-!
The ranges of integers of 64 and of 128 bits, with a sign and without.
-/

namespace SchemaDiscovery.Decimal

def leastInt64 : Int := -9223372036854775808

def greatestInt64 : Int := 9223372036854775807

def greatestNat64 : Nat := 18446744073709551615

def leastInt128 : Int := -170141183460469231731687303715884105728

def greatestNat128 : Nat := 340282366920938463463374607431768211455

example : greatestInt64 - leastInt64 = greatestNat64 := by decide +kernel

end SchemaDiscovery.Decimal
