import ObjectBridge.Bridge.MemoryHost
import ObjectBridge.Bridge.ScriptHost

/-!
# `ObjectBridge.Bridge.Host`: the operations of hosts

Native code may ask a host, the host may ask native code, and so on. The
record of a host's operations is therefore built level by level: the
operations of one level hand native code those of the level below, and at
the lowest level every operation is unwound like a script that entered
too many functions.
-/

set_option autoImplicit false

namespace ObjectBridge

variable {β : Type} [Native β]

/-- The operations of hosts at which calls may nest `level` deep. -/
def hostOps : (level : Nat) → HostOps β
  | 0 =>
    { hasProperty := fun _ _ _ => throw .overflow
      getProperty := fun _ _ _ => throw .overflow
      setProperty := fun _ _ _ _ => throw .overflow
      evaluate := fun _ _ _ => throw .overflow }
  | level + 1 =>
    { hasProperty := fun host o id =>
        match host with
        | .memory => MemoryHost.hasProperty o id
        | .script i => ScriptHost.hasProperty (hostOps level) i o id
      getProperty := fun host o id =>
        match host with
        | .memory => MemoryHost.getProperty (hostOps level) o id
        | .script i => ScriptHost.getProperty (hostOps level) i o id
      setProperty := fun host o id v =>
        match host with
        | .memory => MemoryHost.setProperty (hostOps level) o id v
        | .script i => ScriptHost.setProperty (hostOps level) i o id v
      evaluate := fun host scope script =>
        match host with
        | .memory => MemoryHost.evaluate scope script
        | .script i => ScriptHost.evaluate (hostOps level) i scope script }

/-- How deep calls between hosts and native code may nest. -/
def nesting : Nat := 10000

/-- The operations of hosts. -/
def host : HostOps β := hostOps nesting

end ObjectBridge
