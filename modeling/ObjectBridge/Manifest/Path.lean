import ObjectBridge.Text.Utf8

/-!
# `ObjectBridge.Manifest.Path`: dotted paths

Namespaces, and the nodes they become, are addressed by the names that
lead to them from the root, with dots between. The empty path is the
root.
-/

set_option autoImplicit false

namespace ObjectBridge.Path

/-- What stands between the names of a path. -/
def dot : UInt8 := 0x2E

/-- The path of `name` below `parent`. -/
def join (parent name : Bytes) : Bytes := if parent = [] then name else parent ++ dot :: name

/-- The path above a path: what stands before its last dot. -/
def parent (path : Bytes) : Bytes := ((path.reverse.dropWhile (· ≠ dot)).drop 1).reverse

/-- How a path is shown; the root has a name of its own. -/
def display (path : Bytes) : Bytes := if path = [] then .ofString "<root>" else path

end ObjectBridge.Path
