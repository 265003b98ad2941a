import Testbench.Text.Octets
import Testbench.Tree.Operations

/-!
# Channels

What programs read from and write to. A channel that was opened once is shared by all programs that
hold it: what one of them reads is gone for the others.

- `Shell.Channel`: a file and a place in it, a pipe, or a device.
- `Shell.World`: the files, the channels, and what was put out; all that programs share.
- `Shell.World.write`, `Shell.World.read`, `Shell.World.readLine`: one channel used.
- `Shell.World.openFile`: a channel to a file.

Part of the host that `Executor.host` follows; no result on runs depends on it.
-/

namespace Testbench

namespace Shell

open Text

/-- What programs read from and write to. -/
inductive Channel where
  /-- Reads as empty and takes everything. -/
  | nothing
  /-- Reads as empty and takes nothing. -/
  | full
  /-- Opens, but can be neither read nor written. -/
  | faulty
  /-- A stream of the surroundings. -/
  | stream (n : Nat)
  | directory
  /-- A place in a file. The octets are what the file held when it was opened; they are read where
  the file is gone. -/
  | file (place : Location) (offset : Nat) (readable writable append : Bool) (seen : ByteArray)
  /-- What was written and not read yet: octets, and behind them rows, the last one first. -/
  | pipe (front : List Char) (later : List Row)

/-- Octets on a numbered stream. -/
abbrev Chunk := Nat × Row

/-- A signal that was sent to a program at some time. -/
structure Sent where
  process : Nat
  signal : Nat
  time : Nat
  deriving DecidableEq, Repr

/-- All that programs share. -/
structure World where
  files : Tree
  channels : List (Nat × Channel) := []
  /-- The number of the next channel. -/
  nextChannel : Nat := 0
  /-- What was put out, the latest first. -/
  printed : List Chunk := []
  /-- The time that has passed, in millionths of a second. -/
  clock : Nat := 0
  /-- Signals that were sent and not taken yet. -/
  raised : List Sent := []
  /-- The number of the next program. -/
  nextProcess : Nat := 4243

/-- How a file is to be opened. -/
structure Opening where
  readable : Bool
  writable : Bool
  /-- A file that is missing is made. -/
  create : Bool := false
  truncate : Bool := false
  append : Bool := false
  /-- A regular file must not stand there. -/
  exclusive : Bool := false
  deriving DecidableEq, Repr

namespace World

/-- A world with one more channel, and its number. -/
def attach (w : World) (c : Channel) : Nat × World :=
  (w.nextChannel,
    { w with channels := (w.nextChannel, c) :: w.channels, nextChannel := w.nextChannel + 1 })

/-- A channel changed. -/
def setChannel (w : World) (n : Nat) (c : Channel) : World :=
  { w with channels := w.channels.map fun e => if e.1 = n then (n, c) else e }

/-- The octets at a place, or those that were seen there. -/
def octetsAt (w : World) (place : Location) (seen : ByteArray) : ByteArray :=
  match w.files.get? place with
  | some (.file octets _) => octets
  | some _ => .empty
  | none => seen

/-- A part of some octets as a row. -/
def slice (octets : ByteArray) (start stop : Nat) : Row := rowOfBytes (octets.extract start stop)

/-- Octets with others written over them at a place; a gap is filled with zeros. -/
def overwrite (octets new : ByteArray) (offset : Nat) : ByteArray :=
  if offset = octets.size then octets ++ new
  else
    let front := octets.extract 0 offset
    let gap : ByteArray := ⟨(List.replicate (offset - octets.size) 0).toArray⟩
    front ++ gap ++ new ++ octets.extract (offset + new.size) octets.size

/-- Octets are written to a channel. -/
def write (w : World) (n : Nat) (r : Row) : Except FileError World :=
  match w.channels.lookup n with
  | none => .error .badDescriptor
  | some .nothing => .ok w
  | some .full => if r = "" then .ok w else .error .noSpace
  | some .faulty => if r = "" then .ok w else .error .inputOutput
  | some .directory => .error .badDescriptor
  | some (.stream k) => .ok (if r = "" then w else { w with printed := (k, r) :: w.printed })
  | some (.pipe front later) =>
    .ok (if r = "" then w else w.setChannel n (.pipe front (r :: later)))
  | some (.file place offset readable writable append seen) =>
    if !writable then .error .badDescriptor
    else match w.files.get? place with
      | some (.file octets executable) =>
        let new := bytesOfRow r
        let offset := if append then octets.size else offset
        let files := w.files.set place (.file (overwrite octets new offset) executable)
        .ok ({ w with files }.setChannel n
          (.file place (offset + new.size) readable writable append seen))
      | _ => .ok w

/-- All that is in a pipe. -/
def gather (front : List Char) (later : List Row) : List Char :=
  if later = [] then front else front ++ (String.join later.reverse).toList

/-- At most so many octets are read from a channel. -/
def read (w : World) (n limit : Nat) : Except FileError (Row × World) :=
  match w.channels.lookup n with
  | none => .error .badDescriptor
  | some .nothing => .ok ("", w)
  | some .full => .ok ("", w)
  | some .faulty => .error .inputOutput
  | some .directory => .error .isDirectory
  | some (.stream _) => .ok ("", w)
  | some (.pipe front later) =>
    let all := gather front later
    .ok (String.ofList (all.take limit), w.setChannel n (.pipe (all.drop limit) []))
  | some (.file place offset readable writable append seen) =>
    if !readable then .error .badDescriptor
    else
      let octets := w.octetsAt place seen
      let stop := min octets.size (offset + limit)
      .ok (slice octets offset stop,
        w.setChannel n (.file place (max offset stop) readable writable append seen))

/-- All that is left to read from a channel. -/
def readAll (w : World) (n : Nat) : Except FileError (Row × World) :=
  let limit := match w.channels.lookup n with
    | some (.pipe front later) => (gather front later).length
    | some (.file place _ _ _ _ seen) => (w.octetsAt place seen).size
    | _ => 0
  w.read n limit

/-- The number of octets up to the end of a line that begins at a place; `fuel` bounds it. -/
def lineLength (octets : ByteArray) : (fuel offset : Nat) → Nat
  | 0, _ => 0
  | fuel + 1, offset =>
    if h : offset < octets.size then
      if octets[offset] = 10 then 1 else lineLength octets fuel (offset + 1) + 1
    else 0

/-- The next line is read from a channel, with its end if it has one. -/
def readLine (w : World) (n : Nat) : Except FileError (Row × World) :=
  match w.channels.lookup n with
  | some (.pipe front later) =>
    let all := gather front later
    let line := all.takeWhile (· ≠ '\n')
    let limit := line.length + 1
    .ok (String.ofList (all.take limit), w.setChannel n (.pipe (all.drop limit) []))
  | some (.file place offset _ _ _ seen) =>
    let octets := w.octetsAt place seen
    w.read n (lineLength octets (octets.size - offset) offset)
  | _ => w.read n 0

/-- The place in a file that a channel has reached, if it can be moved. -/
def offset? (w : World) (n : Nat) : Option Nat :=
  match w.channels.lookup n with
  | some (.file _ offset _ _ _ _) => some offset
  | _ => none

/-! ## Files -/

/-- A channel to the entry at a place. -/
def channelAt (t : Tree) (o : Opening) (place : Location) : Except FileError Channel :=
  match t.get? place with
  | some .dir => if o.writable then .error .isDirectory else .ok .directory
  | some .sink => .ok .nothing
  | some .full => .ok .full
  | some .faulty => .ok .faulty
  | some (.file octets _) => .ok (.file place 0 o.readable o.writable o.append octets)
  | some (.utility _) => .ok .nothing
  | _ => .error .missing

/-- A channel to the file that a path leads to, as it is seen from a directory. -/
def openFile (w : World) (here : Location) (o : Opening) (path : String) :
    Except FileError (Nat × World) := do
  let t := { w.files with here }
  if o.exclusive && t.isFile path then throw .occupied
  let t ←
    if o.truncate || (o.create && !t.has path) then t.write path .empty else pure t
  let c ← channelAt t o (← t.find path)
  return { w with files := t }.attach c

end World

end Shell

end Testbench
