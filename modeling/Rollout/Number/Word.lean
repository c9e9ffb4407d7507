/-!
# Words

How many values words of a fixed number of bits have, and the greatest of them.
-/

namespace Rollout.Word

/-- How many values 16 bits have. -/
def count16 : Nat := 0x10000

/-- How many values 32 bits have. -/
def count32 : Nat := 0x100000000

/-- How many values 63 bits have, which is how many of 64 bits with a sign are negative. -/
def count63 : Nat := 0x8000000000000000

/-- How many values 64 bits have. -/
def count64 : Nat := 0x10000000000000000

/-- The greatest value of 64 bits. -/
def greatest64 : Nat := 0xffffffffffffffff

end Rollout.Word
