/-!
# Powers of two and of ten

Powers with a fixed base, by the power function of natural numbers itself.
-/

namespace RankTrace

def twoTo (k : Nat) : Nat := Nat.pow 2 k

def tenTo (k : Nat) : Nat := Nat.pow 10 k

end RankTrace
