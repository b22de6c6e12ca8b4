import Dossier.Binary64.Parts

/-!
# Token estimates

A model reads text in tokens. Their number is estimated from the number of characters with a fixed
ratio, rounding up, and is kept in 32 bits: an estimate beyond the greatest such number is that
number.
-/

set_option autoImplicit false

namespace Dossier

/-- A ratio of characters to tokens, finite and above zero. -/
structure TokenEstimator where
  charsPerToken : Float
  isFinite : charsPerToken.isFinite = true := by decide +kernel
  isPositive : 0.0 < charsPerToken := by decide +kernel

namespace TokenEstimator

def standard : TokenEstimator where
  charsPerToken := 4.0

instance : Inhabited TokenEstimator := ⟨standard⟩

/-- The estimator with a given ratio; the standard one when the ratio is not usable. -/
def ofRatio (ratio : Float) : TokenEstimator :=
  if h : ratio.isFinite = true ∧ 0.0 < ratio then ⟨ratio, h.1, h.2⟩ else standard

/-- The greatest estimate: `2 ^ 32 - 1`. -/
def ceiling : Nat := 4294967295

/-- The tokens for a quotient of characters and ratio: rounded up, at most `ceiling`. -/
def tokensOf (quotient : Float) : UInt32 :=
  match Binary64.parts quotient with
  | .nan => 0
  | .infinite negative => if negative then 0 else ceiling.toUInt32
  | .finite true _ _ => 0
  | .finite false mantissa exponent =>
    (min (Binary64.ceilNat mantissa exponent) ceiling).toUInt32

/-- The estimate for a number of characters, which is first rounded to binary64. -/
def estimateChars (e : TokenEstimator) (chars : Nat) : UInt32 :=
  tokensOf (Binary64.ofCount chars / e.charsPerToken)

def estimate (e : TokenEstimator) (text : String) : UInt32 := e.estimateChars text.length

end TokenEstimator
end Dossier
