import RegisterMap.Document.Reader

/-!
Reading a whole description. A reading goes on until its first fault; what was read up to there is
kept.
-/

set_option autoImplicit false

namespace RegisterMap.Document

structure Reading where
  reader : Reader := {}
  notices : Array Notice := #[]
  fault : Option Fault := none
deriving DecidableEq

namespace Reading

def device (s : Reading) : Device := s.reader.device

/-- Goes on with a step, unless a fault has stopped the reading before. -/
def proceed (s : Reading) (next : Reader → Step) : Reading :=
  match s.fault with
  | some _ => s
  | none =>
    let step := next s.reader
    { reader := step.reader, notices := s.notices ++ step.notices, fault := step.fault }

def readLine (o : Settings) (s : Reading) (line : String) : Reading :=
  s.proceed fun r => r.feed o line

def readLines (o : Settings) (s : Reading) (lines : List String) : Reading :=
  lines.foldl (readLine o) s

end Reading

/-- Reads the lines of a description, and its end. -/
def read (o : Settings) (lines : List String) : Reading :=
  (Reading.readLines o {} lines).proceed Reader.finish

end RegisterMap.Document
