/-!
# Machine words

How many numbers a word of 32, 64 or 128 bits can write. A word without a sign holds the
numbers below its size; a word with a sign holds the numbers from minus one half of its size
up to, and not including, that half.
-/

namespace AdvisoryLedger
namespace Word

def size32 : Nat := 4294967296

def size64 : Nat := 18446744073709551616

def size128 : Nat := 340282366920938463463374607431768211456

/-- The number fits a word of the given size with a sign. -/
def fitsSigned (size : Nat) (n : Int) : Bool := -(size / 2 : Nat) ≤ n && n < (size / 2 : Nat)

end Word
end AdvisoryLedger
