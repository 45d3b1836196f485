import BeanMeter.Text.Utf8

/-! # Files

What the program can learn from the file system: the bytes of a file, or why there are none.

* `FileFault` — the reasons, with their wording.
* `Files` — a view of the file system.
* `Files.readText` — the content of a file as text.
-/

namespace BeanMeter

/-- Why a file has no content to offer. -/
inductive FileFault where
  | missing
  | directory
  /-- Part of the path is a file where a directory is needed. -/
  | notDirectory
  | denied
  /-- The bytes are not well-formed text. -/
  | notText
  /-- Any other reason, in the words of the operating system. -/
  | other (text : String)
  deriving DecidableEq, Repr

/-- The wording of a fault. -/
def FileFault.message : FileFault → String
  | .missing => "No such file or directory (os error 2)"
  | .directory => "Is a directory (os error 21)"
  | .notDirectory => "Not a directory (os error 20)"
  | .denied => "Permission denied (os error 13)"
  | .notText => "stream did not contain valid UTF-8"
  | .other text => text

/-- Text read from a sequence of bytes. -/
def textOfBytes (bytes : List UInt8) : Except FileFault String :=
  match Text.Utf8.decodeStrict? bytes with
  | some s => .ok s
  | none => .error .notText

/-- A view of the file system: the bytes of the file at each path. -/
structure Files where
  read : String → Except FileFault (List UInt8)

namespace Files

/-- The content of a file as text. -/
def readText (files : Files) (path : String) : Except FileFault String :=
  files.read path >>= textOfBytes

/-- The view in which the listed files are all there is. -/
def ofList (entries : List (String × Except FileFault (List UInt8))) : Files :=
  ⟨fun path =>
    match entries.find? fun e => e.1 == path with
    | some e => e.2
    | none => .error .missing⟩

end Files

end BeanMeter
