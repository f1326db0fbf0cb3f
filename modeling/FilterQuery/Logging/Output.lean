import FilterQuery.Logging.Disk
import FilterQuery.Logging.Record
import FilterQuery.Logging.Setting

/-!
# Handlers and what they write

A handler writes the records that are grave enough for it, to the console or to a file.  A file
that has grown too large is replaced first: its name gets a number, the numbers of the files that
were replaced before go up by one, and the last one is given up.  A device takes no lines; they are
kept back, and closing the file of the handler fails once.

* `Handler`, `Target`.
* `Output` — the console, the disk, and which file each handler has open.
* `Output.deliver` — hands a record to handlers.
* `Output.finish` — closes the file of a handler.
-/

namespace FilterQuery.Logging

/-- Where a handler writes. -/
inductive Target where
  | console
  /-- A file, the size from which on it is replaced, and how many replaced files are kept. -/
  | file (place : Place) (rotation retention : Whole)
  deriving DecidableEq, Repr

/-- A handler of records. -/
structure Handler where
  /-- What tells a handler from all others. -/
  id : Nat
  target : Target
  /-- The least gravity of what it writes. -/
  level : Int
  format : Format
  deriving DecidableEq, Repr

/-- What is written to. -/
structure Output where
  disk : Disk
  console : List Line
  /-- The numbers of the files that handlers have open. -/
  opened : List (Nat × Nat)
  /-- The numbers of the handlers that keep back what their file has not taken. -/
  pending : List Nat
  deriving Repr

namespace Output

/-- Nothing is written, and no file is there. -/
def empty (home : String) : Output :=
  ⟨.empty home, [], [], []⟩

/-- The handler has no file open. -/
def close (output : Output) (handler : Nat) : Output :=
  { output with opened := output.opened.filter (·.1 != handler) }

/-- Closes the file of a handler for good.  What it keeps back cannot be written then either, and is
given up. -/
def finish (output : Output) (handler : Nat) : Except DiskFault Unit × Output :=
  (if output.pending.contains handler then .error .noSpace else .ok (),
    { output.close handler with pending := output.pending.filter (· != handler) })

/-- Opens a file for a handler. -/
def openFor (output : Output) (handler : Nat) (place : Place) :
    Except DiskFault (Nat × Output) := do
  let (number, disk) ← output.disk.openPlace place
  return (number, { (output.close handler) with
    disk := disk, opened := (handler, number) :: (output.close handler).opened })

/-! ## Replacing a file -/

/-- The name of a file with a number behind it. -/
def numbered (place : Place) (number : Nat) : Place :=
  place.dropLast ++ place.getLast?.toList.map fun name => name ++ "." ++ toString number

/-- Moves what is at a place, if anything, in place of a file.  Nothing takes the place of a
folder; then the disk stays as it is given with the error. -/
def moveOver (disk : Disk) (source target : Place) : Except Disk Disk :=
  if (disk.node? source).isNone then .ok disk
  else
    match disk.node? target with
    | none => .ok (disk.rename source target)
    | some _ =>
      match disk.remove? target with
      | some freed => .ok (freed.rename source target)
      | none => .error disk

/-- Counts these numbers of replaced files up, in order. -/
def shiftNumbers (disk : Disk) (place : Place) : List Nat → Except Disk Disk
  | [] => .ok disk
  | number :: rest => do
    shiftNumbers (← moveOver disk (numbered place number) (numbered place (number + 1))) place rest

/-- Takes the name of a file away, if there is one. -/
def freePlace (disk : Disk) (place : Place) : Except Disk Disk :=
  match disk.node? place, disk.remove? place with
  | none, _ => .ok disk
  | some _, some freed => .ok freed
  | some _, none => .error disk

/-- Gives the file at a place the first number, after counting up the numbers of the files that
were replaced before.  The last file kept is given up; if none is kept, the file stays. -/
def makeRoom (disk : Disk) (place : Place) (retention : Int) : Except Disk Disk :=
  if retention ≤ 0 then .ok disk
  else do
    let numbers := (List.range (retention - 1).toNat).map (· + 1)
    let shifted ← shiftNumbers disk place numbers.reverse
    moveOver (← freePlace shifted (numbered place 1)) place (numbered place 1)

/-- Whether a file would grow too large by a line.  The file counts with its bytes, the line with
its characters. -/
def isFull (disk : Disk) (number : Nat) (rotation : Int) (line : Line) : Bool :=
  0 < rotation && rotation ≤ disk.size number + Line.length line

/-- The file of a handler, opened if it is not open. -/
def fileFor (output : Output) (handler : Nat) (place : Place) :
    Except DiskFault (Nat × Output) :=
  match output.opened.lookup handler with
  | some number => .ok (number, output)
  | none => output.openFor handler place

/-- Writes a line to the file of a handler, replacing it first if it is full.  A line that a device
does not take is kept back, any other that cannot be written is lost. -/
def writeFile (output : Output) (handler : Nat) (place : Place) (rotation retention : Int)
    (line : Line) : Output :=
  match output.fileFor handler place with
  | .error _ => output
  | .ok (number, ready) =>
    if ready.disk.devices.contains number then
      { ready with pending := ready.pending.insert handler }
    else if isFull ready.disk number rotation line && ready.disk.node? place ≠ some .folder then
      let closed := ready.close handler
      match makeRoom closed.disk place retention with
      | .error disk => { closed with disk := disk }
      | .ok disk =>
        match { closed with disk := disk }.openFor handler place with
        | .error _ => { closed with disk := disk }
        | .ok (fresh, renewed) => { renewed with disk := renewed.disk.append fresh line }
    else { ready with disk := ready.disk.append number line }

/-! ## Handing out records -/

/-- Writes a line where a handler writes. -/
def write (output : Output) (handler : Handler) (line : Line) : Output :=
  match handler.target with
  | .console => { output with console := output.console ++ [line] }
  | .file place rotation retention =>
    output.writeFile handler.id place rotation.toInt retention.toInt line

/-- Hands a record to a handler, which writes it if it is grave enough and can be written. -/
def handle (output : Output) (record : Record) (handler : Handler) : Output :=
  if handler.level ≤ record.level.gravity then
    match record.line? handler.format with
    | some line => output.write handler line
    | none => output
  else output

/-- Hands a record to handlers, in order. -/
def deliver (output : Output) (handlers : List Handler) (record : Record) : Output :=
  handlers.foldl (fun output handler => output.handle record handler) output

end Output

end FilterQuery.Logging
