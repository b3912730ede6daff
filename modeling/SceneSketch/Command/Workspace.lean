import SceneSketch.Text.Lines

/-!
# Workspaces

The files that a command sees, and the folders besides those that have files in them. A path is
walked part by part, so that the first part that leads nowhere decides what is wrong with it. Text
is UTF-8, and every line break is read as a line feed.
-/

namespace SceneSketch

/-! ## Paths and places -/

/-- The parts of a path, without empty parts and single dots. -/
def pathParts (path : String) : List String :=
  ((path.toList.splitOn '/').filter fun part => part ≠ [] && part ≠ ['.']).map String.ofList

/-- A path made of its parts only. Two slashes at the head are kept, more become one. -/
def normalPath (path : String) : String :=
  let slashes := (path.toList.takeWhile (· = '/')).length
  let root := if slashes = 0 then "" else if slashes = 2 then "//" else "/"
  let body := String.intercalate "/" (pathParts path)
  if root = "" && body = "" then "." else root ++ body

/-- A place by the parts that lead there, the latest first. The folder where the command runs has
none; the part `/` is the root, and two dots stand for a folder above. -/
abbrev Place := List String

namespace Place

def text : Place → String
  | [] => "."
  | [part] => part
  | part :: rest =>
    let folder := text rest
    if folder = "/" then folder ++ part else folder ++ "/" ++ part

/-- One part further; two dots lead to the folder above, and the root is above itself. -/
def enter (place : Place) (part : String) : Place :=
  if part = ".." then
    match place with
    | [] => [".."]
    | latest :: rest =>
      if latest = "/" then place else if latest = ".." then ".." :: place else rest
  else part :: place

def start (path : String) : Place :=
  if path.toList.head? = some '/' then ["/"] else []

/-- A place and all places further along some parts. -/
def along (place : Place) : List String → List Place
  | [] => [place]
  | part :: rest => place :: along (place.enter part) rest

/-- The folder where the command runs, the root or a folder above. -/
def isAbove (place : Place) : Bool :=
  place.all fun part => part = ".." || part = "/"

end Place

def placesOfPath (path : String) : List Place :=
  (Place.start path).along (pathParts path)

/-! ## Files -/

structure Workspace where
  files : List (String × ByteArray)
  folders : List String := []

inductive FileFault
  | missing
  | isFolder
  | notFolder
  | nameTooLong
deriving DecidableEq

inductive Occupant
  | file (bytes : ByteArray)
  | folder
  | nothing

/-- The greatest number of bytes of a part of a path. -/
def maxPartSize : Nat := 255

/-- The greatest number of bytes of a path. -/
def maxPathSize : Nat := 4095

namespace Workspace

def isFolder (w : Workspace) (place : Place) : Bool :=
  let inside := (place.text ++ "/").toList
  place.isAbove || w.folders.contains place.text
    || w.files.any fun f => inside.isPrefixOf f.1.toList

def occupant (w : Workspace) (place : Place) : Occupant :=
  match w.files.lookup place.text with
  | some bytes => .file bytes
  | none => if w.isFolder place then .folder else .nothing

/-- The place where some parts lead; all but the last part must lead to folders. -/
def walk (w : Workspace) (place : Place) : List String → Except FileFault Place
  | [] => .ok place
  | part :: rest =>
    match w.occupant place with
    | .file _ => .error .notFolder
    | .nothing => .error .missing
    | .folder =>
      if maxPartSize < part.utf8ByteSize then .error .nameTooLong
      else w.walk (place.enter part) rest

def find (w : Workspace) (path : String) : Except FileFault Place :=
  if maxPathSize < path.utf8ByteSize then .error .nameTooLong
  else w.walk (.start path) (pathParts path)

def read (w : Workspace) (path : String) : Except FileFault ByteArray :=
  (w.find path).bind fun place =>
    match w.occupant place with
    | .file bytes => .ok bytes
    | .folder => .error .isFolder
    | .nothing => .error .missing

/-- Puts a file in the place of the one with that path, or at the end. -/
def put (w : Workspace) (path : String) (bytes : ByteArray) : Workspace :=
  if w.files.any fun f => f.1 = path then
    { w with files := w.files.map fun f => if f.1 = path then (path, bytes) else f }
  else { w with files := w.files ++ [(path, bytes)] }

def write (w : Workspace) (path : String) (bytes : ByteArray) : Except FileFault Workspace :=
  (w.find path).bind fun place =>
    match w.occupant place with
    | .folder => .error .isFolder
    | _ => .ok (w.put place.text bytes)

end Workspace

def textOfBytes? (bytes : ByteArray) : Option String :=
  (String.fromUTF8? bytes).map fun s => String.ofList (lineFeeds s.toList)

end SceneSketch
