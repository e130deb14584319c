import SealedSync.Crypto.FixedBytes
import SealedSync.Crypto.Sha256
import SealedSync.Text.Utf8

/-!
# Reproducible random bytes

Every draw takes the next of a sequence of digests, so no two draws of a run agree.
-/
namespace SealedSync.Simulation

/-- How many draws have been made. -/
structure Entropy where
  drawn : Nat

namespace Entropy

def start : Entropy := ⟨0⟩

def draw (e : Entropy) (size : Nat) : FixedBytes size × Entropy :=
  (.fit size (Sha256.hash (Utf8.encode s!"draw {e.drawn}")), ⟨e.drawn + 1⟩)

end Entropy

end SealedSync.Simulation
