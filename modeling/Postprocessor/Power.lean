/-!
# Powers

`a ^ n` is the power of the core library, also where a larger library offers another one.
-/

attribute [default_instance 20000] instPowNat
attribute [instance (2000)] instPowNat
