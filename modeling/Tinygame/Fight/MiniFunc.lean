import Tinygame.Fight.MiniDef

/-!
# Random numbers

`minifunc.lua`. The seed is an integer and stays one; a call returns the number drawn and the next seed.
-/

namespace Tinygame.Fight
variable {N : Type} [Number N]

def nextSeed (seed : Int) : Int := (seed * 3877 + 29573) % 0xffffffff

def random (seed nBegin nEnd : Int) : Int × Int :=
  let seed := nextSeed seed
  let low := if nEnd < nBegin then nEnd else nBegin
  let high := if nEnd < nBegin then nBegin else nEnd
  (low + seed % (high - low + 1), seed)

/-- The first place, from `i` on, where the sum of the entries reaches the number drawn. -/
def reach (nRand : N) : Nat → N → List N → Nat
  | _, _, [] => 0
  | i, nSum, pro :: rest =>
    let nSum := nSum + pro
    if nRand ≤ nSum then i else reach nRand (i + 1) nSum rest

def getRandomIndex (seed : Int) (tbPro : List N) : Nat × Int :=
  let drawn := random seed 1 100
  (reach (num drawn.1) 1 (num 0) tbPro, drawn.2)

end Tinygame.Fight
