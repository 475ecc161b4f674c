import ProxyInjector.Fault

/-!
# Early ends

A run that does not come to its result ends with an exit status, or with a fault that nobody
handled.
-/

namespace ProxyInjector

inductive Ending where
  | exit (status : Nat)
  | fault (f : Fault)

end ProxyInjector
