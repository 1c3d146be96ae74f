import GinSave.Save.Assign
import GinSave.Save.Check
import GinSave.Save.Document
import GinSave.Save.Writer

/-!
A save parser and the calls made on it. A parser holds one save, the default save when it is made,
and every call may change it. Reading save text applies the text's content lines to the save held
and keeps every change made, also those made before a fault; it prints a note for every field it
walks into that holds nothing, and answers with the document of the save it reached, or with the
fault. Compiling a JSON document checks it against the schema; a document that passes replaces
the save held, and the answer is its save text, or the fault of the check or of the writing.

The attributes set on words belong to the words, which the program holds once: they stay set
across calls, also when a compiled document replaces the save.
-/

namespace GinSave.Save

/-- What a call gives back: the lines it printed on the way, and the text it returns or the fault
it raises. -/
structure Reply where
  printed : List String
  answer : Except Fault String

/-- A save parser: the save it holds, and the attributes set on words so far. -/
structure SaveParser where
  save : Node
  words : WordAttrs

/-- A parser as it is made, in a program that has set no attribute on a word: it holds the
default save. -/
def SaveParser.fresh : SaveParser :=
  ⟨freshSave, .empty⟩

/-- The answer of a reading: the document text of the save it reached, or the fault that stopped
it. -/
def Assigned.answer (r : Assigned) : Except Fault String :=
  match r.fault with
  | some f => .error f
  | none => .ok r.node.documentText

/-- Reads save text into the save held, which keeps what the reading changed. -/
def SaveParser.parse (p : SaveParser) (text : String) : Reply × SaveParser :=
  let r := readSaveText p.words p.save text
  (⟨r.notes, r.answer⟩, ⟨r.node, r.words⟩)

/-- Compiles a JSON document: a document that passes the check replaces the save held, whether
or not it can then be written. -/
def SaveParser.compile (p : SaveParser) (json : String) : Reply × SaveParser :=
  match checkSaveDocument json with
  | .error f => (⟨[], .error f⟩, p)
  | .ok saved => (⟨[], saved.saveText⟩, ⟨saved, p.words⟩)

/-- A call on a parser. -/
inductive Call where
  | parse (text : String)
  | compile (json : String)

/-- Makes one call. -/
def SaveParser.call (p : SaveParser) : Call → Reply × SaveParser
  | .parse text => p.parse text
  | .compile json => p.compile json

/-- Makes calls one after another, each on the parser the one before left: the replies in order,
and the parser at the end. -/
def SaveParser.run (p : SaveParser) : List Call → List Reply × SaveParser
  | [] => ([], p)
  | c :: cs =>
    let (r, q) := p.call c
    let (rs, q') := q.run cs
    (r :: rs, q')

end GinSave.Save
