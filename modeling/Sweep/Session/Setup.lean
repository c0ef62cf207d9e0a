import Sweep.Session
import Sweep.Settings

/-!
# How settings say a bed is to be run
-/

namespace Sweep

/-- The setup that settings describe, with the libraries to use. -/
def Setup.ofSettings (s : Settings) (home : Homes) (engine : Engine) (estimator : Estimator)
    (budget patience : Nat) : Except SettingsError Setup := do
  let output ← s.output home
  let includes ← s.includes home
  let labelArguments ← s.labelArguments
  return { failFast := s.failFast, output, includes := includes.getD [], labelArguments,
           progress := s.progress, engine, estimator, budget, patience }

end Sweep
