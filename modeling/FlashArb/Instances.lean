/-! Priorities that keep the core arithmetic instances first. -/

attribute [instance (1100)] instPowNat Zero.ofOfNat0
attribute [default_instance 10001] instPowNat
