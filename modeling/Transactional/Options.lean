import Transactional.Fault

/-!
# Options

The options that a manager is built from.

* `Options.new` — the defaults: ten connections, half a minute to wait for one, no limit on a run.
* `Options.validate` — refuses a pool without capacity.
-/

namespace Transactional

/-- **Options of a manager.** -/
structure Options where
  target : String
  maxConnections : UInt32 := 10
  /-- How many milliseconds a checkout may wait for a free connection. -/
  connectionTimeoutMs : UInt64 := 30000
  transactionTimeoutMs : Option UInt64 := none
deriving DecidableEq

namespace Options

/-- The default options for a target. -/
def new (target : String) : Options :=
  { target }

/-- The same options with another capacity. -/
def withMaxConnections (options : Options) (count : UInt32) : Options :=
  { options with maxConnections := count }

/-- The same options with another limit on waiting for a connection, in whole milliseconds. -/
def withConnectionTimeout (options : Options) (limit : Duration) : Options :=
  { options with connectionTimeoutMs := limit.toMillis }

/-- The same options with another limit on a run, in whole milliseconds. -/
def withTransactionTimeout (options : Options) (limit : Duration) : Options :=
  { options with transactionTimeoutMs := some limit.toMillis }

/-- How long a checkout may wait. -/
def connectionTimeout (options : Options) : Duration :=
  Duration.ofMillis options.connectionTimeoutMs

/-- How long a run may take. -/
def transactionTimeout (options : Options) : Option Duration :=
  options.transactionTimeoutMs.map Duration.ofMillis

/-- **A pool needs capacity.** -/
def validate (options : Options) : Except Fault Unit :=
  if options.maxConnections = 0 then
    .error (.configuration "max_connections must be at least 1")
  else .ok ()

/-- The structural text. -/
def structural (options : Options) : String :=
  Text.fields "ManagerOptions"
    [("target", Text.quoted options.target),
      ("max_connections", Text.natural options.maxConnections.toNat),
      ("connection_timeout_ms", Text.natural options.connectionTimeoutMs.toNat),
      ("transaction_timeout_ms",
        Text.optional (options.transactionTimeoutMs.map fun ms => Text.natural ms.toNat))]

end Options

end Transactional
