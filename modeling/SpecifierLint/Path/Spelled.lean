/-
Spelled paths.

The name of a file is made of bytes, and a path that comes from a document can have bytes in it that are
none of a character.  In a spelled path U+0000 and the character after it stand for such a byte, whose
number is the code point of the character, and twice U+0000 stands for what no path can have.  A name
whose bytes are UTF-8 after all is the name of that text, however it is spelled.
-/
import SpecifierLint.Path.Basic
import SpecifierLint.Text.Utf8

namespace SpecifierLint

/-- A name that an entry can have. -/
def isEntryName (name : Text) : Bool :=
  !name.isEmpty && name ≠ ['.'] && name ≠ ['.', '.'] && !name.contains '/' && !name.contains '\x00'

namespace Path

/-- A text in the spelling of paths. -/
def spell (t : Text) : Text := t.flatMap fun c => if c = '\x00' then ['\x00', '\x00'] else [c]

/-- The bytes that a spelled text stands for, if there are any such bytes. -/
def spelledBytes? : Text → Option (List UInt8)
  | [] => some []
  | [c] => if c = '\x00' then none else some (String.utf8EncodeChar c)
  | c :: b :: rest =>
    if c ≠ '\x00' then (spelledBytes? (b :: rest)).map (String.utf8EncodeChar c ++ ·)
    else if b = '\x00' then none
    else (spelledBytes? rest).map (UInt8.ofNat b.toNat :: ·)

/-- The name that bytes make; bytes that make none are as many U+0000, which no entry has in its name. -/
def nameOfBytes (bytes : List UInt8) : Text :=
  match Text.decode bytes with
  | .ok name => if isEntryName name then name else List.replicate (max 1 bytes.length) '\x00'
  | .error _ => List.replicate (max 1 bytes.length) '\x00'

/-- The name that a component of a spelled path stands for. -/
def spelledName (component : Text) : Text :=
  if component.contains '\x00' then nameOfBytes ((spelledBytes? component).getD []) else component

/-- The path that a spelled path stands for. -/
def unspelled (path : Text) : Text := Text.join ['/'] ((Text.split '/' path).map spelledName)

example : unspelled "/é/\x00Ã\x00©.js" = ("/é/é.js" : Text) := by decide +kernel

example : unspelled "a/\x00\x80\x00\xff" = ("a/\x00\x00" : Text) := by decide +kernel

end Path

end SpecifierLint
