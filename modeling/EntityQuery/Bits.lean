/-!
# Bits of integers

An integer has a bit at every position, in two's complement: those of a negative one are set
from some position on. `both` and `either` combine two integers bit by bit; `bit_both` and
`bit_either` say so.
-/

namespace EntityQuery.Bits

/-- The bit of an integer at a position. -/
def bit (i : Nat) : Int → Bool
  | .ofNat m => m.testBit i
  | .negSucc m => !m.testBit i

/-- The bits that are set in `m` and not in `n`. -/
def without (m n : Nat) : Nat := Nat.xor m (Nat.land m n)

/-- The integer whose bits are set where those of both integers are. -/
def both : Int → Int → Int
  | .ofNat m, .ofNat n => .ofNat (Nat.land m n)
  | .ofNat m, .negSucc n => .ofNat (without m n)
  | .negSucc m, .ofNat n => .ofNat (without n m)
  | .negSucc m, .negSucc n => .negSucc (Nat.lor m n)

/-- The integer whose bits are set where those of one of the integers are. -/
def either : Int → Int → Int
  | .ofNat m, .ofNat n => .ofNat (Nat.lor m n)
  | .ofNat m, .negSucc n => .negSucc (without n m)
  | .negSucc m, .ofNat n => .negSucc (without m n)
  | .negSucc m, .negSucc n => .negSucc (Nat.land m n)

theorem testBit_without (m n i : Nat) :
    (without m n).testBit i = (m.testBit i && !n.testBit i) := by
  show (m ^^^ (m &&& n)).testBit i = _
  rw [Nat.testBit_xor, Nat.testBit_and]
  cases m.testBit i <;> cases n.testBit i <;> rfl

/-- Each bit of `both` is set if it is set in both integers. -/
theorem bit_both (a b : Int) (i : Nat) : bit i (both a b) = (bit i a && bit i b) := by
  cases a <;> cases b <;> simp only [both, bit, testBit_without]
  · exact Nat.testBit_and ..
  · exact Bool.and_comm ..
  · rename_i m n
    show (!(m ||| n).testBit i) = _
    rw [Nat.testBit_or, Bool.not_or]

/-- Each bit of `either` is set if it is set in one of the integers. -/
theorem bit_either (a b : Int) (i : Nat) : bit i (either a b) = (bit i a || bit i b) := by
  cases a <;> cases b <;> simp only [either, bit, testBit_without]
  · exact Nat.testBit_or ..
  · rename_i m n
    cases m.testBit i <;> cases n.testBit i <;> rfl
  · rename_i m n
    cases m.testBit i <;> cases n.testBit i <;> rfl
  · rename_i m n
    show (!(m &&& n).testBit i) = _
    rw [Nat.testBit_and, Bool.not_and]

end EntityQuery.Bits
