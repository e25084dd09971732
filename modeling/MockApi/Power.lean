/-!
# Powers

A power of natural numbers is that of the core library in every module, also in those that import an
algebraic library with powers of its own.
-/

namespace MockApi

@[default_instance high] instance powNat : Pow Nat Nat := instPowNat

end MockApi
