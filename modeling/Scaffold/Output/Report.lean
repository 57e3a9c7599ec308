import Scaffold.Path

/-!
# Reports

What a run did to the files, by path and in order. Reports of parts of a run are merged into one,
in which every tracked directory stands once.
-/

namespace Scaffold

/-- What came of a file that was to be written. -/
inductive WriteOutcome where
  | written (path : Path)
  | keptExisting (path : Path)
deriving DecidableEq, Inhabited

structure Report where
  written : List Path := []
  /-- Files that were already there and stayed. -/
  kept : List Path := []
  /-- Files whose name rendered empty. -/
  suppressed : Nat := 0
  /-- Units that came to nothing because of an error. -/
  failed : Nat := 0
  downloads : List Path := []
  purged : List Path := []
  /-- Directories of generated sources, each once, in the order they were met. -/
  tracked : List Path := []
deriving DecidableEq, Inhabited

namespace Report

/-- Add a directory that is not there yet; paths are compared by their components. -/
def addTracked (tracked : List Path) (dir : Path) : List Path :=
  if tracked.any (Path.same dir) then tracked else tracked ++ [dir]

def track (r : Report) (dir : Path) : Report :=
  { r with tracked := addTracked r.tracked dir }

def fail (r : Report) : Report :=
  { r with failed := r.failed + 1 }

def suppress (r : Report) : Report :=
  { r with suppressed := r.suppressed + 1 }

/-- Count the result of an attempt to write; `none` is a failed one. -/
def record (r : Report) : Option WriteOutcome → Report
  | some (.written p) => { r with written := r.written ++ [p] }
  | some (.keptExisting p) => { r with kept := r.kept ++ [p] }
  | none => r.fail

def merge (a b : Report) : Report :=
  { written := a.written ++ b.written
    kept := a.kept ++ b.kept
    suppressed := a.suppressed + b.suppressed
    failed := a.failed + b.failed
    downloads := a.downloads ++ b.downloads
    purged := a.purged ++ b.purged
    tracked := b.tracked.foldl addTracked a.tracked }

end Report

end Scaffold
