import GestureGraph.Table
import GestureGraph.Text.Ranges

namespace GestureGraph

class Host (m : Type → Type) where
  say : String → m Unit
  warn : String → m Unit
  readFile? : String → m (Option String)
  writeFile : String → String → m Bool
  /-- Makes a directory and those around it; whether they are there then. -/
  makeDirectory : String → m Bool

/-- Files by their path from the top, and the directories below it. Paths that commands give start
from one of them. -/
structure Disk where
  home : List String := []
  directories : List (List String) := []
  files : Table String String := {}

namespace Disk

def key (path : List String) : String := "/".intercalate path

def isDirectory (d : Disk) (path : List String) : Bool :=
  path.isEmpty || d.directories.contains path

def isFile (d : Disk) (path : List String) : Bool := d.files.contains (key path)

def walk (make : Bool) (d : Disk) (here : List String) : List String → Option (List String × Disk)
  | [] => some (here, d)
  | part :: rest =>
      if !d.isDirectory here then none
      else if part = "" || part = "." then walk make d here rest
      else if part = ".." then
        if here.isEmpty then none else walk make d here.dropLast rest
      else
        let next := here ++ [part]
        if make && !d.isDirectory next then
          if d.isFile next then none
          else walk make { d with directories := d.directories ++ [next] } next rest
        else walk make d next rest

/-- The name of a file or directory has at most 255 bytes, none of them zero. -/
def isName (part : String) : Bool := part.utf8ByteSize ≤ 255 && part.toList.all (·.toNat ≠ 0)

/-- A path has less than 4096 bytes. One that starts at the root lies outside. -/
def parts? (path : String) : Option (List String) :=
  let parts := (Text.fields '/' path.toList).map String.ofList
  if 4096 ≤ path.utf8ByteSize || parts.head? = some "" || !parts.all isName then none
  else some parts

def locate? (d : Disk) (path : String) : Option (List String) :=
  (parts? path).bind fun parts => (d.walk false d.home parts).map (·.1)

def read? (d : Disk) (path : String) : Option String :=
  (d.locate? path).bind fun found => d.files.get? (key found)

def write? (d : Disk) (path text : String) : Option Disk :=
  (d.locate? path).bind fun found =>
    if d.isDirectory found then none else some { d with files := d.files.insert (key found) text }

def makeDirectory? (d : Disk) (path : String) : Option Disk :=
  (parts? path).bind fun parts => (d.walk true d.home parts).map (·.2)

def put (d : Disk) (path text : String) : Disk :=
  let around := key ((Text.fields '/' path.toList).dropLast.map String.ofList)
  (((d.makeDirectory? around).getD d).write? path text).getD d

end Disk

structure Desk where
  disk : Disk := {}
  output : String := ""

def Desk.keep (disk? : Option Disk) : StateM Desk Bool := do
  match disk? with
  | some disk => modify ({ · with disk := disk }); return true
  | none => return false

instance : Host (StateM Desk) where
  say text := modify fun d => { d with output := d.output ++ text }
  warn _ := pure ()
  readFile? path := return (← get).disk.read? path
  writeFile path text := do Desk.keep ((← get).disk.write? path text)
  makeDirectory path := do Desk.keep ((← get).disk.makeDirectory? path)

end GestureGraph
