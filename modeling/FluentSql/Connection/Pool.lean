import FluentSql.Connection.ConnectionString
import FluentSql.Error

/-!
# Pools of connections

A pool keeps up to a number of connections that are made as they are needed. A pool that has been
closed hands out none.
-/

namespace FluentSql

/-- A pool of connections. -/
structure Pool where
  maxSize : Nat
  /-- The number of connections that have been made. -/
  size : Nat
  closed : Bool
deriving DecidableEq, Repr

namespace Pool

/-- How many connections a pool keeps unless that is said. -/
def defaultMaxSize : Nat := 16

/-- A pool for the connections that a text describes. -/
def ofConnectionString (text : String) (maxSize : Nat) : Except Error Pool :=
  if isConnectionString text then .ok ⟨maxSize, 0, false⟩
  else .error (.connection "invalid connection string")

/-- Closes a pool. -/
def close (pool : Pool) : Pool := { pool with closed := true }

/-- Why the pool hands out no connections, if it does not. -/
def refusal? (pool : Pool) : Option Error :=
  if pool.closed then some (.pool "Pool has been closed") else none

end Pool

end FluentSql
