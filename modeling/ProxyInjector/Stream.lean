/-!
# Output streams

A stream collects the text written to it.  Writing and flushing may fail: `StreamFaults` lists
the calls, counted from zero over the life of the stream, that do.  A write that fails leaves no
text behind; a failing flush comes too late for that.
-/

namespace ProxyInjector

structure StreamFaults where
  writes : List Nat := []
  flushes : List Nat := []
  message : String := "broken pipe"
deriving DecidableEq, Repr

structure StreamError where
  message : String
deriving DecidableEq, Repr

def StreamError.label (_ : StreamError) : String := "OSError"

structure Stream where
  text : String := ""
  faults : StreamFaults := {}
  writes : Nat := 0
  flushes : Nat := 0
deriving DecidableEq, Repr

namespace Stream

/-- no call fails -/
def Healthy (s : Stream) : Prop := s.faults.writes = [] ∧ s.faults.flushes = []

def write (s : Stream) (t : String) : Except StreamError Unit × Stream :=
  if s.writes ∈ s.faults.writes then (.error ⟨s.faults.message⟩, { s with writes := s.writes + 1 })
  else (.ok (), { s with text := s.text ++ t, writes := s.writes + 1 })

def flush (s : Stream) : Except StreamError Unit × Stream :=
  (if s.flushes ∈ s.faults.flushes then .error ⟨s.faults.message⟩ else .ok (),
    { s with flushes := s.flushes + 1 })

/-- a write whose fault a lenient writer passes over -/
def print (s : Stream) (lenient : Bool) (t : String) : Except StreamError Unit × Stream :=
  match s.write t with
  | (.error e, s) => (if lenient then .ok () else .error e, s)
  | (.ok (), s) => (.ok (), s)

/-- one line: a write of the line with its newline, and a flush if that succeeded -/
def report (s : Stream) (line : String) : Except StreamError Unit × Stream :=
  match s.write (line ++ "\n") with
  | (.error e, s) => (.error e, s)
  | (.ok (), s) => s.flush

theorem write_healthy {s : Stream} (h : s.Healthy) (t : String) :
    s.write t = (.ok (), { s with text := s.text ++ t, writes := s.writes + 1 }) := by
  simp [write, h.1]

theorem print_healthy {s : Stream} (h : s.Healthy) (lenient : Bool) (t : String) :
    s.print lenient t = (.ok (), { s with text := s.text ++ t, writes := s.writes + 1 }) := by
  rw [print, write_healthy h]

theorem exists_print_lenient (s : Stream) (t : String) : ∃ s', s.print true t = (.ok (), s') := by
  unfold print
  rcases s.write t with ⟨_ | _, s'⟩ <;> exact ⟨s', rfl⟩

end Stream

end ProxyInjector
