import Transactional.Connection

/-!
# Statement logs

A log of what reaches a connection: the beginning and the end of transactions, and every statement
with its parameters substituted.  A line is written before the call that it is about, so a log ends
with the call that went wrong.

* `StatementLog` — where lines go; `StatementLog.write` puts one there.
* `Connection.logged` — a connection that writes a log.
-/

namespace Transactional

/-- **Files by path.**  A file can be written only inside a directory that exists. -/
structure Disk where
  /-- The directories, by the names that lead to them: from the root, which is called `/`, or from
  the directory that relative paths start from. -/
  directories : List (List String) := [[], ["/"], ["/", "tmp"]]
  files : List (String × String) := []

namespace Disk

/-- How many bytes the name of a file may have. -/
def longestName : Nat := 255

/-- How many bytes a path from the root may have. -/
def longestPath : Nat := 4095

/-- How many of them lead to the directory that relative paths start from. -/
def baseLength : Nat := 16

/-- The names in a path. -/
def names (path : String) : List String :=
  (path.toList.splitOn '/').map String.ofList

/-- The names that lead to a file, without those that stay in the same directory, and without steps
up at the beginning, which lead to directories that exist. -/
def steps (path : String) : List String :=
  let found := (names path).filter fun name => name != "" && name != "."
  if path.startsWith "/" then "/" :: found else found.dropWhile (· = "..")

/-- The number of bytes in a path from the root. -/
def length (path : String) : Nat :=
  if path.startsWith "/" then path.utf8ByteSize else baseLength + path.utf8ByteSize

/-- Whether a name can be that of a file. -/
def isFileName (name : String) : Bool :=
  name != "" && name != "." && name != ".." && name.utf8ByteSize ≤ longestName
    && !name.toList.any (·.toNat = 0)

/-- **Whether a path can be that of a file**: it is short enough, its last name can be one, the
others lead to a directory that exists, and it is not itself the path of one. -/
def canWrite (disk : Disk) (path : String) : Bool :=
  length path ≤ longestPath && (names path).getLast?.any isFileName
    && disk.directories.contains (steps path).dropLast && !disk.directories.contains (steps path)

/-- The content of a file. -/
def read? (disk : Disk) (path : String) : Option String :=
  (disk.files.find? (·.1 == path)).map (·.2)

/-- Add to the end of a file. -/
def appendTo (path text : String) : List (String × String) → List (String × String)
  | [] => [(path, text)]
  | (p, old) :: rest =>
      if p = path then (p, old ++ text) :: rest else (p, old) :: appendTo path text rest

/-- Add a text to the end of a file, if it can be written. -/
def append? (path text : String) (disk : Disk) : Option Disk :=
  if disk.canWrite path then some { disk with files := appendTo path text disk.files } else none

end Disk

/-- A state that has statement logs. -/
class LogHost (σ : Type) extends Host σ where
  lines : Nat → Cell σ (List String)
  disk : Cell σ Disk

/-- **Where the lines of a log go.** -/
inductive StatementLog where
  | memory (number : Nat)
  | file (path : String)
  | reports
  | several (logs : List StatementLog)

namespace StatementLog

/-- The channel for lines among the reports. -/
def channel : String := "sql_transactional::statements"

variable [LogHost σ]

/-- Add a line to a file; if that is impossible it is only reported. -/
def writeFile (path line : String) (s : σ) : σ :=
  match (LogHost.disk.get s).append? path (line ++ "\n") with
  | some disk => LogHost.disk.set disk s
  | none => Host.report { level := .warn, message := "statement log write failed" } s

mutual

/-- **Write a line.** -/
def write (line : String) : StatementLog → σ → σ
  | .memory number, s => (LogHost.lines number).modify (· ++ [line]) s
  | .file path, s => writeFile path line s
  | .reports, s => Host.report { level := .info, message := line, target := some channel } s
  | .several logs, s => writeAll line logs s

/-- Write a line to several logs, one after the other. -/
def writeAll (line : String) : List StatementLog → σ → σ
  | [], s => s
  | log :: rest, s => writeAll line rest (log.write line s)

end

end StatementLog

/-- **A connection that writes a log.**  Everything is passed on unchanged. -/
def Connection.logged (write : String → σ → σ) (inner : Connection σ) : Connection σ :=
  { inner with
    begin := .of (.act (write "BEGIN") fun _ => inner.begin.run)
    commit := .of (.act (write "COMMIT") fun _ => inner.commit.run)
    rollback := .of (.act (write "ROLLBACK") fun _ => inner.rollback.run)
    execute := fun handle bindings =>
      .of (.act (write (renderStatement handle.sql bindings)) fun _ =>
        (inner.execute handle bindings).run) }

end Transactional
