import LoginGateway.Text.Blank
import LoginGateway.Text.Utf8

/-! The lines of a file of variables. A line goes on where a text in quotes is still
open at its end, and ends in front of a comment. -/

namespace LoginGateway.EnvFile

inductive Fault where
  /-- A line that is no assignment, and how far it could be read. -/
  | line (text : List Char) (place : Nat)
  | encoding
  | directory
deriving DecidableEq, Repr

def Fault.message : Fault → String
  | .line text place =>
    "Error parsing line: '" ++ String.ofList text ++ "', error at line index: " ++ toString place
  | .encoding => "stream did not contain valid UTF-8"
  | .directory => "Is a directory (os error 21)"

/-- What a line has open at some place. -/
inductive LineState where
  | bare
  | blank
  | escape
  | single
  | singleEscape
  | double
  | doubleEscape
deriving DecidableEq, Repr

namespace LineState

def opened (char : Char) : LineState :=
  if char = '\\' then .escape
  else if char = '\x22' then .double
  else if char = '\'' then .single
  else .bare

def next : LineState → Char → LineState
  | .bare, char =>
    if isBlankChar char ∧ char ≠ '\n' ∧ char ≠ '\r' then .blank else opened char
  | .blank, char => opened char
  | .escape, _ => .bare
  | .double, char => if char = '\\' then .doubleEscape else if char = '\x22' then .bare else .double
  | .doubleEscape, _ => .double
  | .single, char => if char = '\\' then .singleEscape else if char = '\'' then .bare else .single
  | .singleEscape, _ => .single

/-- A line up to its end or up to a comment, and the state at its end; none at a comment. -/
def scan (state : LineState) : List Char → List Char × Option LineState
  | [] => ([], some state)
  | char :: rest =>
    if state = .blank ∧ char = '#' then ([], none)
    else
      let (kept, last) := (state.next char).scan rest
      (char :: kept, last)

end LineState

/-- A text without the line end behind it. -/
def withoutLineEnd (line : List Char) : List Char :=
  if line.getLast? = some '\n' then
    let line := line.dropLast
    if line.getLast? = some '\r' then line.dropLast else line
  else line

def rows : Octets → List Octets
  | [] => []
  | octet :: rest =>
    if octet = 10 then [octet] :: rows rest
    else match rows rest with
      | row :: others => (octet :: row) :: others
      | [] => [[octet]]

/-- The lines that belong together as one, and the fault that ends them. The text
`held` is the beginning of a line that goes on. -/
def join : LineState → List Char → List Octets → List (List Char) × Option Fault
  | .bare, _, [] => ([], none)
  | _, held, [] => ([], some (.line held (Utf8.encode held).length))
  | state, held, row :: rest =>
    match Utf8.decode? row with
    | none => ([], some .encoding)
    | some text =>
      let line := held ++ text
      if (line.dropWhile isBlankChar).head? = some '#' then join .bare [] rest
      else
        match state.scan text with
        | (kept, none) =>
          let (lines, fault) := join .bare [] rest
          ((held ++ kept) :: lines, fault)
        | (_, some .bare) =>
          let (lines, fault) := join .bare [] rest
          (withoutLineEnd line :: lines, fault)
        | (_, some state) => join state line rest

def withoutMark : Octets → Octets
  | 0xEF :: 0xBB :: 0xBF :: rest => rest
  | file => file

/-- The lines of a file, comments and quotes considered. -/
def lines (file : Octets) : List (List Char) × Option Fault := join .bare [] (rows (withoutMark file))

end LoginGateway.EnvFile
