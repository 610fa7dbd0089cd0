import Imperative.Text.Offset

/-! Reading a text file by its path. A folder holds files and empty folders by
name; paths are looked up component by component, as a file system does. -/
namespace Imperative

/-- Why a path gives no text. -/
inductive ReadFault where
  | missing
  | notFolder
  | isFolder
  | notText
  | nameTooLong
  | nulInName
  | other (message : Text)
  deriving DecidableEq, Repr

def ReadFault.message : ReadFault → Text
  | missing => "No such file or directory (os error 2)".toList
  | notFolder => "Not a directory (os error 20)".toList
  | isFolder => "Is a directory (os error 21)".toList
  | nameTooLong => "File name too long (os error 36)".toList
  | notText => "stream did not contain valid UTF-8".toList
  | nulInName => "file name contained an unexpected NUL byte".toList
  | other message => message

/-- A text is what the bytes of a file encode; every byte counts, a leading mark too. -/
def Text.ofBytes? (bytes : ByteArray) : Option Text :=
  (String.fromUTF8? bytes).map String.toList

structure Folder where
  files : List (Text × ByteArray) := []
  folders : List Text := []

namespace Folder

/-- Where a path has led so far: to the folder itself, into one of its folders,
or above it. -/
inductive Place where
  | here
  | inside
  | above
  deriving DecidableEq, Repr

/-- The most bytes that a component of a path may have. -/
def componentLimit : Nat := 255

/-- A path has fewer bytes than this. -/
def pathLimit : Nat := 4096

/-- Follows the components of a path. Empty ones and single dots stay in place. -/
def follow (folder : Folder) (place : Place) : List Text → Except ReadFault ByteArray
  | [] => .error .isFolder
  | component :: rest =>
    if component = [] ∨ component = ['.'] then follow folder place rest
    else if component = ['.', '.'] then
      follow folder (if place = .inside then .here else .above) rest
    else if componentLimit < Text.byteSize component then .error .nameTooLong
    else if place ≠ .here then .error .missing
    else match folder.files.lookup component with
      | some bytes => if rest.isEmpty then .ok bytes else .error .notFolder
      | none =>
        if folder.folders.contains component then follow folder .inside rest else .error .missing

/-- A path is checked as a whole before it is followed. -/
def readBytes (folder : Folder) (path : Text) : Except ReadFault ByteArray :=
  if path.contains '\x00' then .error .nulInName
  else if path = [] then .error .missing
  else if pathLimit ≤ Text.byteSize path then .error .nameTooLong
  else
    follow folder (if path.head? = some '/' then .above else .here)
      (Text.splitWhere (· == '/') path)

def read (folder : Folder) (path : Text) : Except ReadFault Text :=
  match folder.readBytes path with
  | .error fault => .error fault
  | .ok bytes =>
    match Text.ofBytes? bytes with
    | some text => .ok text
    | none => .error .notText

end Folder
end Imperative
