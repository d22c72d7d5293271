/-!
# `ObjectBridge.Value.RefCount`: counting references

An object lives as long as somebody holds a reference to it. Releasing a
reference that nobody holds is a fault of the caller; the count has
dropped below zero by the time it is noticed and stays there.

Counts have no bounds here. A host that keeps them in 32 bits agrees as
long as nobody holds an object more than `2 ^ 31 - 1` times.
-/

set_option autoImplicit false

namespace ObjectBridge

/-- The number of references to an object. -/
structure RefCount where
  refs : Int := 0
  deriving DecidableEq, Repr, Inhabited

namespace RefCount

/-- What a release did to the object. -/
inductive Fate
  /-- References remain. -/
  | kept
  /-- The last reference is gone. -/
  | freed
  /-- There was no reference to release. -/
  | unretained
  deriving DecidableEq, Repr

def retain (c : RefCount) : RefCount := { refs := c.refs + 1 }

def release (c : RefCount) : RefCount × Fate :=
  let c' : RefCount := { refs := c.refs - 1 }
  if c'.refs < 0 then (c', .unretained)
  else if c'.refs = 0 then (c', .freed)
  else (c', .kept)

/-- What is reported when a reference that nobody holds is released. -/
def unretainedMessage : String := "host: release of unretained object"

end RefCount

end ObjectBridge
