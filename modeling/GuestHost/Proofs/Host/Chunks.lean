import GuestHost.Proofs.Host.Channels
/-!
Output in pieces. A program may cut its output where it likes, inside a character or between a carriage
return and a newline, and write to other files in between: what the channels show in the end depends on the
bytes that each of them was given, and on nothing else.
-/
namespace GuestHost.Host

/-- The file by which programs know a channel. -/
def Channel.file : Channel → Int
  | stdout => 1
  | log => 2
  | html => 3

namespace Output

/-- The first newline closes the first line. -/
theorem splitLines_line {line : List UInt8} (h : newline ∉ line) (rest : List UInt8) :
    splitLines (line ++ newline :: rest) = (line :: (splitLines rest).1, (splitLines rest).2) := by
  induction line with
  | nil => simp [splitLines]
  | cons b line ih =>
    obtain ⟨hb, hline⟩ := not_or.mp (mt List.mem_cons.mpr h)
    have hne : b ≠ newline := Ne.symm hb
    simp [splitLines, ih hline, hne]

theorem splitLines_open {last : List UInt8} (h : newline ∉ last) : splitLines last = ([], last) := by
  induction last with
  | nil => rfl
  | cons b last ih =>
    obtain ⟨hb, hlast⟩ := not_or.mp (mt List.mem_cons.mpr h)
    have hne : b ≠ newline := Ne.symm hb
    simp [splitLines, ih hlast, hne]

/-- Bytes are lines in one way only. -/
theorem splitLines_joined {lines : List (List UInt8)} {last : List UInt8}
    (hlines : ∀ line ∈ lines, newline ∉ line) (hlast : newline ∉ last) :
    splitLines (lines.flatMap (· ++ [newline]) ++ last) = (lines, last) := by
  induction lines with
  | nil => exact splitLines_open hlast
  | cons line more ih =>
    obtain ⟨hline, hmore⟩ := List.forall_mem_cons.mp hlines
    have hsplit := splitLines_line hline (more.flatMap (· ++ [newline]) ++ last)
    rw [ih hmore] at hsplit
    simpa using hsplit

/-- It does not matter whether bytes come at once, or some of them later: an open line is carried over. -/
theorem splitLines_append (a b : List UInt8) :
    splitLines (a ++ b) = ((splitLines a).1 ++ (splitLines ((splitLines a).2 ++ b)).1,
      (splitLines ((splitLines a).2 ++ b)).2) := by
  obtain ⟨hbytes, hlines, -⟩ := splitLines_spec (Eq.refl (splitLines a))
  obtain ⟨hbytes', hlines', hlast'⟩ := splitLines_spec (Eq.refl (splitLines ((splitLines a).2 ++ b)))
  have hall : ∀ line ∈ (splitLines a).1 ++ (splitLines ((splitLines a).2 ++ b)).1, newline ∉ line := by
    intro line hline
    rcases List.mem_append.mp hline with h | h
    · exact hlines line h
    · exact hlines' line h
  have hwhole : a ++ b = ((splitLines a).1 ++ (splitLines ((splitLines a).2 ++ b)).1).flatMap
      (· ++ [newline]) ++ (splitLines ((splitLines a).2 ++ b)).2 := by
    rw [List.flatMap_append, List.append_assoc, ← hbytes', ← List.append_assoc, ← hbytes]
  rw [hwhole]
  exact splitLines_joined hall hlast'

/-- Bytes that a program writes to a file. -/
structure Write where
  file : Int
  bytes : List UInt8

/-- A write with its answer: the lines of the log that it has closed, or the reason why it is rejected. -/
structure Tried where
  write : Write
  answer : Except Errno (List String)

namespace Tried

/-- What a file gets by the write. -/
def given (file : Int) (t : Tried) : List UInt8 :=
  match t.answer with
  | .ok _ => if t.write.file = file then t.write.bytes else []
  | .error _ => []

def lines (t : Tried) : List String :=
  match t.answer with
  | .ok lines => lines
  | .error _ => []

end Tried

/-- A rejected write leaves the channels as they are. -/
def attempt (o : Output) (w : Write) : Tried × Output :=
  match o.write w.file w.bytes with
  | .ok (o', lines) => (⟨w, .ok lines⟩, o')
  | .error e => (⟨w, .error e⟩, o)

/-- Tries the writes one after the other. -/
def run (o : Output) : List Write → List Tried × Output
  | [] => ([], o)
  | w :: rest =>
    ((o.attempt w).1 :: (run (o.attempt w).2 rest).1, (run (o.attempt w).2 rest).2)

/-- The bytes of the successful writes to a file. -/
def accepted (file : Int) (log : List Tried) : List UInt8 := log.flatMap (Tried.given file)

/-- The lines of the log that were handed on. -/
def emitted (log : List Tried) : List String := log.flatMap Tried.lines

/-- From the first output to the second, the channels have been given what the log shows as accepted. -/
structure Carried (o : Output) (log : List Tried) (o' : Output) : Prop where
  captures : o'.inherits = false
  stdout : o'.stdout = o.stdout ++ accepted Channel.stdout.file log
  html : o'.html = o.html ++ accepted Channel.html.file log
  emitted : emitted log = (splitLines (o.pending ++ accepted Channel.log.file log)).1.map lineText
  pending : o'.pending = (splitLines (o.pending ++ accepted Channel.log.file log)).2

namespace Carried

variable {o o' o'' : Output} {log log' : List Tried}

theorem refl (hcaptures : o.inherits = false) (hopen : newline ∉ o.pending) : Carried o [] o := by
  have hsplit := splitLines_open hopen
  constructor <;> simp [accepted, Output.emitted, hsplit, hcaptures]

theorem trans (h : Carried o log o') (h' : Carried o' log' o'') : Carried o (log ++ log') o'' := by
  have haccepted : ∀ file, accepted file (log ++ log') = accepted file log ++ accepted file log' :=
    fun file => List.flatMap_append
  have hsplit := splitLines_append (o.pending ++ accepted Channel.log.file log)
    (accepted Channel.log.file log')
  rw [← h.pending, List.append_assoc, ← haccepted] at hsplit
  refine ⟨h'.captures, ?_, ?_, ?_, ?_⟩
  · rw [h'.stdout, h.stdout, haccepted, List.append_assoc]
  · rw [h'.html, h.html, haccepted, List.append_assoc]
  · have hemitted : Output.emitted (log ++ log') = Output.emitted log ++ Output.emitted log' :=
      List.flatMap_append
    rw [hemitted, h.emitted, h'.emitted, hsplit, List.map_append]
  · rw [h'.pending, hsplit]

/-- The open line of an output has no newline. -/
theorem isOpen (h : Carried o log o') : newline ∉ o'.pending := by
  rw [h.pending]
  exact (splitLines_spec rfl).2.2

end Carried

/-- What the channels show after some writes to a new output: each the text of the bytes that it was given,
and the log line by line, the open line when it is flushed. -/
structure Delivered (ws : List Write) (log : List Tried) (o : Output) : Prop where
  writes : log.map Tried.write = ws
  answers : ∀ t ∈ log, (∃ lines, t.answer = .ok lines) ↔ ∃ c : Channel, t.write.file = c.file
  stdout : o.stdoutText = Text.textLossy (accepted Channel.stdout.file log)
  html : o.htmlText = Text.textLossy (accepted Channel.html.file log)
  lines : ∃ closed : List (List UInt8),
    accepted Channel.log.file log = closed.flatMap (· ++ [newline]) ++ o.pending ∧
      (∀ line ∈ closed, newline ∉ line) ∧ emitted log = closed.map lineText
  isOpen : newline ∉ o.pending
  flushed : o.flushLog.2 = if o.pending = [] then [] else [Text.textLossy o.pending]
  once : o.flushLog.1.flushLog = (o.flushLog.1, [])

end Output
end GuestHost.Host
