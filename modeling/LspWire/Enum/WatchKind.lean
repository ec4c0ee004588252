/-!
# Watch flags

The file events a watcher is interested in, as a set of three flags: a number from 0 to 7.
-/

namespace LspWire

namespace WatchKind

/-- The flags and their bits, in declaration order. -/
def flags : List (String × Nat) := [("CREATE", 1), ("CHANGE", 2), ("DELETE", 4)]

/-- Every flag, the interest of a watcher that states none. -/
def every : Nat := 7

/-- The set that a number stands for, if it has no other bits. -/
def ofInt? (n : Int) : Option Nat :=
  if 0 ≤ n ∧ n ≤ every then some n.toNat else none

/-- The names of the flags in a set. -/
def names (set : Nat) : List String :=
  (flags.filter fun f => set / f.2 % 2 == 1).map (·.1)

end WatchKind

end LspWire
