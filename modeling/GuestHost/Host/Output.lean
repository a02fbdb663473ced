import GuestHost.Text.Utf8
/-!
Where a guest program's output goes: standard output, the log, and a page of HTML. The log is cut into
lines; the part of a line that is still open waits for its end.
-/
namespace GuestHost.Host

/-- What the system interface reports when a call fails. -/
inductive Errno where
  | badFile | fault
  deriving DecidableEq, Repr

def Errno.code : Errno → Int
  | badFile => 8
  | fault => 21

inductive Channel where
  | stdout | log | html
  deriving DecidableEq, Repr

def Channel.ofFile? : Int → Option Channel
  | 1 => some stdout
  | 2 => some log
  | 3 => some html
  | _ => none

structure Output where
  /-- Whether standard output goes straight to that of the host and is not kept. -/
  inherits : Bool := false
  stdout : List UInt8 := []
  html : List UInt8 := []
  /-- The open line of the log. -/
  pending : List UInt8 := []
  /-- What has gone straight to the host's standard output. -/
  passed : List UInt8 := []
  deriving DecidableEq

namespace Output

def newline : UInt8 := 10

/-- The closed lines of some bytes, and the bytes of the open one. -/
def splitLines : List UInt8 → List (List UInt8) × List UInt8
  | [] => ([], [])
  | b :: rest =>
    let (lines, last) := splitLines rest
    if b = newline then ([] :: lines, last)
    else
      match lines with
      | [] => ([], b :: last)
      | line :: more => ((b :: line) :: more, last)

/-- The text of a closed line, without the carriage returns at its end. -/
def lineText (line : List UInt8) : String :=
  String.ofList ((Text.decodeLossy line).reverse.dropWhile (· == '\r')).reverse

/-- Writes to the log; the lines that this closes are handed on. -/
def writeLog (o : Output) (bytes : List UInt8) : Output × List String :=
  let (lines, last) := splitLines (o.pending ++ bytes)
  ({ o with pending := last }, lines.map lineText)

/-- Writes to a file, and hands on the lines of the log that are complete. -/
def write (o : Output) (file : Int) (bytes : List UInt8) : Except Errno (Output × List String) :=
  match Channel.ofFile? file with
  | some .stdout =>
    if o.inherits then .ok ({ o with passed := o.passed ++ bytes }, [])
    else .ok ({ o with stdout := o.stdout ++ bytes }, [])
  | some .log => .ok (o.writeLog bytes)
  | some .html => .ok ({ o with html := o.html ++ bytes }, [])
  | none => .error .badFile

/-- Hands on the open line of the log as it stands. -/
def flushLog (o : Output) : Output × List String :=
  match o.pending with
  | [] => (o, [])
  | line => ({ o with pending := [] }, [Text.textLossy line])

def stdoutText (o : Output) : String := Text.textLossy o.stdout

def htmlText (o : Output) : String := Text.textLossy o.html

end Output
end GuestHost.Host
