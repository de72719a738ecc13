import Rehearsal.Load

namespace Rehearsal.Command

inductive QuoteFault
  | openQuote
  | openEscape
  deriving DecidableEq, Repr

def QuoteFault.message : QuoteFault → String
  | .openQuote => "No closing quotation"
  | .openEscape => "No escaped character"

def isSeparator (c : Char) : Bool := c == ' ' || c == '\t' || c == '\r' || c == '\n'

inductive Mode
  | bare
  | single
  | double
  deriving DecidableEq, Repr

def close (word : Option (List Char)) (words : List String) : List String :=
  match word with
  | none => words
  | some cs => String.ofList cs :: words

def wordsFrom (mode : Mode) (word : Option (List Char)) :
    List Char → Except QuoteFault (List String)
  | [] =>
    match mode with
    | .bare => .ok (close word [])
    | _ => .error .openQuote
  | '\\' :: rest =>
    match mode, rest with
    | .single, rest => wordsFrom .single (some (word.getD [] ++ ['\\'])) rest
    | .bare, [] | .double, [] => .error .openEscape
    | .bare, c :: rest => wordsFrom .bare (some (word.getD [] ++ [c])) rest
    | .double, c :: rest =>
      let kept := if c == '"' || c == '\\' then [c] else ['\\', c]
      wordsFrom .double (some (word.getD [] ++ kept)) rest
  | c :: rest =>
    match mode with
    | .single =>
      if c == '\'' then wordsFrom .bare word rest
      else wordsFrom .single (some (word.getD [] ++ [c])) rest
    | .double =>
      if c == '"' then wordsFrom .bare word rest
      else wordsFrom .double (some (word.getD [] ++ [c])) rest
    | .bare =>
      if c == '\'' then wordsFrom .single (some (word.getD [])) rest
      else if c == '"' then wordsFrom .double (some (word.getD [])) rest
      else if isSeparator c then (wordsFrom .bare none rest).map (close word)
      else wordsFrom .bare (some (word.getD [] ++ [c])) rest

def words (line : String) : Except QuoteFault (List String) := wordsFrom .bare none line.toList

/-- Where a step comes from: a text, a file, or both, of which the text counts. -/
structure Source where
  text : Option Text := none
  file : Option Text := none
  deriving DecidableEq, Repr

/-- Reads flags with their values; of several for the same thing the last one counts. -/
def flags (s : Source) : List String → Except Failure Source
  | [] => .ok s
  | [flag] => Load.refuse (.flagWithoutValue flag)
  | flag :: value :: rest =>
    if flag = "--step" ∨ flag = "-s" then flags { s with text := some (.whole value) } rest
    else if flag = "--file" ∨ flag = "-f" then flags { s with file := some (.whole value) } rest
    else Load.refuse (.unknownFlag flag)

def read (line : String) : Except Failure Source :=
  if line.startsWith "\x7b" then .ok { text := some (.whole line) }
  else
    match words line with
    | .error f => Load.refuse (.badCommandQuoting f.message)
    | .ok ("run" :: rest) => flags {} rest
    | .ok _ => Load.refuse (.unknownCommand line)

end Rehearsal.Command
