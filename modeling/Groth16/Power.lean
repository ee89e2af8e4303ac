/-!
# Powers of numbers

The running part of the library is built without the algebraic hierarchy, its theory with it.
Powers of natural numbers and of integers are the core ones in both, so that a definition and
the statements about it speak of the same power.
-/

attribute [instance (high + 1), default_instance (high + 1)] instPowNat
