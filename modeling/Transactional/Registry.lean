import Transactional.World

/-!
# The registry of drivers

A driver turns options into a pool.  Drivers go by name, so that an application can choose one by
its name and ask for a manager.

* `Registry` — names and drivers; a name that is registered again gets the new driver.
* `Registry.createManager` — a manager over the pool of a driver.
* `BuiltinDriver` — the drivers that are always there.
-/

namespace Transactional

/-- **Turning options into a pool.** -/
abbrev Driver : Type :=
  Options → Attempt World (Pool World)

/-- **Drivers by name.** -/
structure Registry where
  drivers : List (String × Driver) := []

namespace Registry

/-- Put a driver in place of the one of the same name. -/
def putDriver (name : String) (driver : Driver) : List (String × Driver) → List (String × Driver)
  | [] => [(name, driver)]
  | (n, old) :: rest =>
      if n = name then (n, driver) :: rest else (n, old) :: putDriver name driver rest

/-- **Register a driver.** -/
def register (name : String) (driver : Driver) (registry : Registry) : Registry :=
  ⟨putDriver name driver registry.drivers⟩

/-- The driver of a name. -/
def find? (registry : Registry) (name : String) : Option Driver :=
  (registry.drivers.find? (·.1 == name)).map (·.2)

/-- Whether a name is registered. -/
def contains (registry : Registry) (name : String) : Bool :=
  (registry.find? name).isSome

/-- The registered names in ascending order. -/
def names (registry : Registry) : List String :=
  (registry.drivers.map (·.1)).mergeSort fun a b => !(b < a)

/-- The structural text. -/
def structural (registry : Registry) : String :=
  Text.fields "DriverRegistry" [("drivers", Text.list (registry.names.map Text.quoted))]

/-- The fault of a name that is not registered. -/
def unknownDriver (registry : Registry) (name : String) : Fault :=
  .configuration ("unknown driver '" ++ name ++ "' (registered: "
    ++ String.intercalate ", " registry.names ++ ")")

/-- **A manager over the pool of a driver.**  The options are looked at first, then the name. -/
def createManager (registry : Registry) (name : String) (options : Options) :
    Attempt World (Manager World) := do
  Attempt.pureResult options.validate
  match registry.find? name with
  | none => throw (registry.unknownDriver name)
  | some driver =>
      let pool ← driver options
      return { World.manager pool with timeout := options.transactionTimeout }

end Registry

/-- **The drivers that are always there.** -/
inductive BuiltinDriver where
  | engine
  | memory
deriving DecidableEq

namespace BuiltinDriver

/-- All of them. -/
def all : List BuiltinDriver :=
  [.engine, .memory]

/-- The name of a driver. -/
def name : BuiltinDriver → String
  | .engine => "sqlite"
  | .memory => "memory"

/-- The structural text. -/
def structural : BuiltinDriver → String
  | .engine => "Sqlite"
  | .memory => "Memory"

/-- **The driver of a name**, in upper or lower case if that does not matter. -/
def ofName (text : String) (ignoreCase : Bool) : Except String BuiltinDriver :=
  match all.find? fun d => if ignoreCase then d.name == text.toLower else d.name == text with
  | some d => .ok d
  | none => .error ("invalid variant: " ++ text)

/-- How a driver builds its pool.  A demand of the pool itself that is not met is a fault nobody
prepared for. -/
def build : BuiltinDriver → Driver
  | .memory, options =>
      .step fun s => (.ok Memory.pool, World.withMemory options.maxConnections.toNat s)
  | .engine, options =>
      .step fun s =>
        match Engine.prepare options with
        | .ok settings => (.ok (Engine.pool settings), World.withEngine s)
        | .error (.fault fault) => (.error fault, s)
        | .error (.demand message) => (.error (.other message), s)

end BuiltinDriver

/-- **A registry with every driver that is always there.** -/
def Registry.builtin : Registry :=
  ⟨BuiltinDriver.all.map fun d => (d.name, d.build)⟩

end Transactional
