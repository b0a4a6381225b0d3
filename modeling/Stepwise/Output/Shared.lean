import Stepwise.Text.Utf8

/-!
# A shared writer

Several holders write to one destination through handles (`SharedWriter`), numbered in the order in
which they are made. The destination can be taken back (`try_into_inner`) by the holder of the last
handle; while there is another one, the taker keeps its handle and gets nothing.
-/

namespace Stepwise

/-- A destination with its handles. -/
structure SharedWriter where
  content : Bytes := []
  /-- For each handle, whether it is still held. -/
  held : List Bool := [true]

namespace SharedWriter

/-- A use of a handle. -/
inductive Use where
  | clone
  | write (bytes : Bytes)
  | writeAll (bytes : Bytes)
  | flush
  | peek
  | drop
  | takeBack

/-- What a use answers. -/
inductive Answer where
  | nothing
  | done
  | number (n : Nat)
  | content (bytes : Bytes)
  /-- There is another handle. -/
  | shared
  /-- The handle is not held. -/
  | gone

/-- Whether a handle is held. -/
def holds (w : SharedWriter) (handle : Nat) : Bool := w.held.getD handle false

/-- Let go of a handle. -/
def release (w : SharedWriter) (handle : Nat) : SharedWriter :=
  { w with held := w.held.set handle false }

/-- The destination with more bytes. -/
def append (w : SharedWriter) (bytes : Bytes) : SharedWriter :=
  { w with content := w.content ++ bytes }

/-- The state after a use of a handle, and its answer. -/
def use (w : SharedWriter) (handle : Nat) (u : Use) : SharedWriter × Answer :=
  if !w.holds handle then (w, .gone)
  else match u with
    | .clone => ({ w with held := w.held ++ [true] }, .number w.held.length)
    | .write bytes => (w.append bytes, .number bytes.length)
    | .writeAll bytes => (w.append bytes, .done)
    | .flush => (w, .done)
    | .peek => (w, .content w.content)
    | .drop => (w.release handle, .nothing)
    | .takeBack =>
      if w.held.count true = 1 then (w.release handle, .content w.content) else (w, .shared)

end SharedWriter

end Stepwise
